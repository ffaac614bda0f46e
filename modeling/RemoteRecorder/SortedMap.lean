/-!
# RemoteRecorder.SortedMap

**Maps in ascending key order.** A list of entries whose keys ascend strictly, so the
entries come out in key order, no key is there twice, and two maps with the same
entries are equal.

* Keys are compared by `compare`. For texts that is the order of code points, for
  lists of texts the order item by item.
* `insert` replaces the value of a key that is there.
-/

namespace RemoteRecorder

/-- Entries in strictly ascending order of their keys. -/
structure SortedMap (κ : Type) (α : Type) [Ord κ] where
  entries : List (κ × α)
  ascending : entries.Pairwise fun a b => compare a.1 b.1 = .lt
  deriving DecidableEq

/-- A map from texts to texts, in code point order of the keys. -/
abbrev StringMap := SortedMap String String

namespace SortedMap

variable {κ α : Type} [Ord κ]

@[ext] theorem ext {m n : SortedMap κ α} (h : m.entries = n.entries) : m = n := by
  cases m; cases n; cases h; rfl

/-- The map without an entry. -/
def empty : SortedMap κ α := ⟨[], .nil⟩

instance : EmptyCollection (SortedMap κ α) := ⟨empty⟩

instance : Inhabited (SortedMap κ α) := ⟨empty⟩

@[simp] theorem entries_empty : (∅ : SortedMap κ α).entries = [] := rfl

/-- The number of entries. -/
def size (m : SortedMap κ α) : Nat := m.entries.length

/-- Whether there is no entry. -/
def isEmpty (m : SortedMap κ α) : Bool := m.entries.isEmpty

/-- The keys, in ascending order. -/
def keys (m : SortedMap κ α) : List κ := m.entries.map (·.1)

/-- The values, in ascending order of their keys. -/
def values (m : SortedMap κ α) : List α := m.entries.map (·.2)

/-- The value of a key. -/
def get? (m : SortedMap κ α) (k : κ) : Option α :=
  (m.entries.find? fun e => compare k e.1 == .eq).map (·.2)

/-- Whether a key has a value. -/
def contains (m : SortedMap κ α) (k : κ) : Bool := (m.get? k).isSome

@[simp] theorem get?_empty (k : κ) : (∅ : SortedMap κ α).get? k = none := rfl

/-- A map in which a key has a value is not empty. -/
theorem isEmpty_of_get? {m : SortedMap κ α} {k : κ} {v : α} (h : m.get? k = some v) :
    m.isEmpty = false := by
  cases hm : m.entries with
  | nil => simp [get?, hm] at h
  | cons e es => simp [isEmpty, hm]

/-- Puts an entry at its place in an ascending list of entries. -/
def insertEntry (k : κ) (v : α) : List (κ × α) → List (κ × α)
  | [] => [(k, v)]
  | e :: es =>
    match compare k e.1 with
    | .lt => (k, v) :: e :: es
    | .eq => (k, v) :: es
    | .gt => e :: insertEntry k v es

/-- An entry of the longer list is the new one or an old one. -/
theorem mem_insertEntry {k : κ} {v : α} {es : List (κ × α)} {e : κ × α}
    (h : e ∈ insertEntry k v es) : e = (k, v) ∨ e ∈ es := by
  induction es with
  | nil => simpa [insertEntry] using h
  | cons d ds ih =>
    simp only [insertEntry] at h
    split at h <;> simp only [List.mem_cons] at h ⊢
    · exact h
    · exact h.imp_right .inr
    · exact h.elim (.inr ∘ .inl) fun h => (ih h).imp_right .inr

section Lawful

variable [Std.TransOrd κ] [Std.LawfulEqOrd κ]

/-- An entry put at its place leaves the keys ascending. -/
theorem ascending_insertEntry (k : κ) (v : α) {es : List (κ × α)}
    (h : es.Pairwise fun a b => compare a.1 b.1 = .lt) :
    (insertEntry k v es).Pairwise fun a b => compare a.1 b.1 = .lt := by
  induction es with
  | nil => simp [insertEntry]
  | cons e es ih =>
    obtain ⟨he, hes⟩ := List.pairwise_cons.1 h
    simp only [insertEntry]
    split
    · next hk =>
      refine List.pairwise_cons.2 ⟨fun d hd => ?_, h⟩
      rcases List.mem_cons.1 hd with rfl | hd
      · exact hk
      · exact Std.TransCmp.lt_trans hk (he d hd)
    · next hk =>
      obtain rfl := Std.LawfulEqOrd.eq_of_compare hk
      exact List.pairwise_cons.2 ⟨he, hes⟩
    · next hk =>
      refine List.pairwise_cons.2 ⟨fun d hd => ?_, ih hes⟩
      rcases mem_insertEntry hd with rfl | hd
      · exact Std.OrientedCmp.gt_iff_lt.1 hk
      · exact he d hd

/-- The map with `v` at the key `k`. -/
def insert (m : SortedMap κ α) (k : κ) (v : α) : SortedMap κ α :=
  ⟨insertEntry k v m.entries, ascending_insertEntry k v m.ascending⟩

/-- The map of a list of entries; of two entries with one key the later counts. -/
def ofList (es : List (κ × α)) : SortedMap κ α :=
  es.foldl (fun m e => m.insert e.1 e.2) ∅

/-- After an insertion the key has the new value, and all other keys have the old ones. -/
theorem get?_insert [DecidableEq κ] (m : SortedMap κ α) (k k' : κ) (v : α) :
    (m.insert k v).get? k' = if k' = k then some v else m.get? k' := by
  obtain ⟨es, hes⟩ := m
  simp only [get?, insert]
  clear hes
  induction es with
  | nil => by_cases h : k' = k <;> simp [insertEntry, h]
  | cons e es ih =>
    simp only [insertEntry]
    split
    · by_cases h : k' = k <;> simp [h, List.find?_cons]
    · next hk =>
      obtain rfl := Std.LawfulEqOrd.eq_of_compare hk
      by_cases h : k' = e.1 <;> simp [h]
    · next hk =>
      by_cases he : k' = e.1
      · have hne : k' ≠ k := by rintro rfl; subst he; simp at hk
        have hne' : e.1 ≠ k := he ▸ hne
        simp [he, hne']
      · simp only [List.find?_cons]
        have hc : (compare k' e.1 == Ordering.eq) = false := by simpa using he
        simp [hc, ih]

end Lawful

end SortedMap

end RemoteRecorder
