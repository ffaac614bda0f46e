import RemoteRecorder.SortedMap

/-!
# RemoteRecorder.Proofs.SortedMap

**What a map holds.** A map is known by its look-ups: these find exactly its entries
(`get?_eq_some_iff`), and maps in which all of them find the same are equal
(`eq_of_get?`).

In a map made from a list of entries, the last of several entries with one key counts
(`get?_ofList`), and no other key has a value. The entries of a map make that map again
(`ofList_entries`).
-/

namespace RemoteRecorder

variable {κ α ι : Type} [DecidableEq κ]

/-- The value of the last entry with a key. -/
def lastOf : List (κ × α) → κ → Option α
  | [], _ => none
  | e :: es, k => (lastOf es k).or (if e.1 = k then some e.2 else none)

theorem mem_of_lastOf {es : List (κ × α)} {k : κ} {v : α} (h : lastOf es k = some v) :
    (k, v) ∈ es := by
  induction es with
  | nil => cases h
  | cons e es ih =>
    rcases Option.or_eq_some_iff.1 h with h | ⟨-, h⟩
    · exact List.mem_cons_of_mem _ (ih h)
    · obtain ⟨rfl, rfl⟩ : e.1 = k ∧ e.2 = v := by simpa using h
      exact List.mem_cons_self

theorem exists_lastOf {es : List (κ × α)} {k : κ} {v : α} (h : (k, v) ∈ es) :
    ∃ w, lastOf es k = some w := by
  induction es with
  | nil => cases h
  | cons e es ih =>
    rw [lastOf]
    cases hes : lastOf es k with
    | some w => exact ⟨w, rfl⟩
    | none =>
      rcases List.mem_cons.1 h with rfl | h
      · exact ⟨v, by simp⟩
      · obtain ⟨w, hw⟩ := ih h
        rw [hw] at hes
        cases hes

/-- A key has no last entry if it has none. -/
theorem lastOf_eq_none_iff {es : List (κ × α)} {k : κ} :
    lastOf es k = none ↔ k ∉ es.map Prod.fst := by
  induction es with
  | nil => simp [lastOf]
  | cons e es ih =>
    rw [lastOf, Option.or_eq_none_iff, ih, List.map_cons, List.mem_cons]
    simp [and_comm, eq_comm]

/-- The last entry with a key is one after which the key does not occur again. -/
theorem lastOf_eq_some_iff {es : List (κ × α)} {k : κ} {v : α} :
    lastOf es k = some v ↔
      ∃ before after, es = before ++ (k, v) :: after ∧ k ∉ after.map Prod.fst := by
  constructor
  · intro h
    induction es with
    | nil => cases h
    | cons e es ih =>
      rcases Option.or_eq_some_iff.1 h with h | ⟨hnone, h⟩
      · obtain ⟨before, after, rfl, hafter⟩ := ih h
        exact ⟨e :: before, after, rfl, hafter⟩
      · obtain ⟨rfl, rfl⟩ : e.1 = k ∧ e.2 = v := by simpa using h
        exact ⟨[], es, rfl, lastOf_eq_none_iff.1 hnone⟩
  · rintro ⟨before, after, rfl, hafter⟩
    induction before with
    | nil => simp [lastOf, lastOf_eq_none_iff.2 hafter]
    | cons e before ih => rw [List.cons_append, lastOf, ih, Option.some_or]

/-- A list with an entry for each of some things, under different keys. -/
theorem lastOf_map [DecidableEq ι] {f : ι → κ} (hf : ∀ i j, f i = f j → i = j) (g : ι → α)
    (is : List ι) (i : ι) :
    lastOf (is.map fun j => (f j, g j)) (f i) = if i ∈ is then some (g i) else none := by
  induction is with
  | nil => rfl
  | cons j is ih =>
    rw [List.map_cons, lastOf, ih]
    by_cases h : f j = f i
    · obtain rfl := hf _ _ h
      by_cases hj : j ∈ is <;> simp [hj]
    · have hne : i ≠ j := by
        rintro rfl
        exact h rfl
      simp [h, hne]

namespace SortedMap

variable [Ord κ] [Std.LawfulEqOrd κ]

/-! ## Entries and look-ups

The entries of a map are in ascending order of their keys, so there is one list for each map: to
know what its look-ups find is to know the map. -/

/-- Look-ups find the entries of a map. -/
theorem get?_eq_some_iff {m : SortedMap κ α} {k : κ} {v : α} :
    m.get? k = some v ↔ (k, v) ∈ m.entries := by
  obtain ⟨es, hes⟩ := m
  simp only [get?]
  induction es with
  | nil => simp
  | cons e es ih =>
    obtain ⟨he, hes⟩ := List.pairwise_cons.1 hes
    by_cases h : k = e.1
    · subst h
      have hk : (e.1, v) ∉ es := by
        intro hv
        simpa using he _ hv
      simp [hk, Prod.ext_iff, eq_comm]
    · have hne : (k, v) ≠ e := by
        rintro rfl
        exact h rfl
      have hc : (compare k e.1 == .eq) = false := by simpa using h
      simp [hc, hne, ih hes]

/-- The keys of a map are those for which it has values. -/
theorem mem_keys {m : SortedMap κ α} {k : κ} : k ∈ m.keys ↔ m.contains k = true := by
  rw [keys, List.mem_map, contains, Option.isSome_iff_exists]
  constructor
  · rintro ⟨e, he, rfl⟩
    exact ⟨e.2, get?_eq_some_iff.2 he⟩
  · rintro ⟨v, hv⟩
    exact ⟨(k, v), get?_eq_some_iff.1 hv, rfl⟩

/-- Maps find the same for a key that is not among those in which they differ. -/
theorem get?_of_filter {m n : SortedMap κ α} {p : κ → Bool}
    (h : m.entries.filter (fun e => p e.1) = n.entries.filter (fun e => p e.1)) {k : κ}
    (hk : p k = true) : m.get? k = n.get? k := by
  have mem (m : SortedMap κ α) (v : α) :
      m.get? k = some v ↔ (k, v) ∈ m.entries.filter fun e => p e.1 := by
    rw [get?_eq_some_iff, List.mem_filter]
    exact ⟨fun h => ⟨h, hk⟩, fun h => h.1⟩
  refine Option.ext ?_
  intro v
  rw [mem, mem, h]

variable [Std.TransOrd κ]

omit [DecidableEq κ] in
/-- Lists in the order of their keys are equal if they have the same members. -/
theorem eq_of_ascending {β : Type} {f : β → κ} {l l' : List β}
    (h : l.Pairwise fun a b => compare (f a) (f b) = .lt)
    (h' : l'.Pairwise fun a b => compare (f a) (f b) = .lt)
    (hm : ∀ x, x ∈ l ↔ x ∈ l') : l = l' := by
  have nodup {l : List β} (h : l.Pairwise fun a b => compare (f a) (f b) = .lt) : l.Nodup := by
    refine h.imp ?_
    intro a b hab he
    subst he
    simp at hab
  refine List.Perm.eq_of_pairwise ?_ h h' ((List.perm_ext_iff_of_nodup (nodup h) (nodup h')).2 hm)
  intro a b _ _ hab hba
  exact absurd hba (Std.OrientedCmp.not_lt_of_lt hab)

/-- Maps in which all look-ups find the same are equal. -/
theorem eq_of_get? {m n : SortedMap κ α} (h : ∀ k, m.get? k = n.get? k) : m = n := by
  refine SortedMap.ext (eq_of_ascending m.ascending n.ascending ?_)
  rintro ⟨k, v⟩
  rw [← get?_eq_some_iff, ← get?_eq_some_iff, h]

/-- Maps that have values for the same keys have the same list of keys. -/
theorem keys_eq_of_contains {m n : SortedMap κ α} (h : ∀ k, m.contains k = n.contains k) :
    m.keys = n.keys := by
  refine eq_of_ascending (f := id) (List.pairwise_map.2 m.ascending)
    (List.pairwise_map.2 n.ascending) ?_
  intro k
  rw [mem_keys, mem_keys, h]

/-- A new key adds an entry, and leaves the others alone. -/
theorem entries_insert_perm {m : SortedMap κ α} {k : κ} (h : m.get? k = none) (v : α) :
    (m.insert k v).entries.Perm ((k, v) :: m.entries) := by
  have free : ∀ e ∈ m.entries, k ≠ e.1 := by
    rintro ⟨_, w⟩ he rfl
    rw [get?_eq_some_iff.2 he] at h
    cases h
  show (insertEntry k v m.entries).Perm _
  generalize m.entries = es at free
  induction es with
  | nil => exact .refl _
  | cons e es ih =>
    obtain ⟨hne, free⟩ := List.forall_mem_cons.1 free
    simp only [insertEntry]
    split
    · exact .refl _
    · next hk => exact absurd (Std.LawfulEqOrd.eq_of_compare hk) hne
    · exact ((ih free).cons e).trans (.swap _ _ _)

/-! ## Maps made from lists

A list may have several entries with one key, and the later ones replace the earlier. The same is
said by a reading of the list (`lastOf`), with no map in between. -/

/-- Entries are put into a map that need not be empty at first. -/
theorem get?_foldl_insert (es : List (κ × α)) (m : SortedMap κ α) (k : κ) :
    (es.foldl (fun m e => m.insert e.1 e.2) m).get? k = (lastOf es k).or (m.get? k) := by
  induction es generalizing m with
  | nil => rfl
  | cons e es ih =>
    rw [List.foldl_cons, ih, get?_insert, lastOf, Option.or_assoc]
    congr 1
    by_cases h : e.1 = k
    · simp [h]
    · simp [h, Ne.symm h]

/-- In a map made from a list each key has the value of its last entry. -/
theorem get?_ofList (es : List (κ × α)) (k : κ) : (ofList es).get? k = lastOf es k := by
  rw [ofList, get?_foldl_insert, get?_empty, Option.or_none]

/-- The entries of a map made from a list are the last entries with their keys. -/
theorem mem_entries_ofList {es : List (κ × α)} {k : κ} {v : α} : (k, v) ∈ (ofList es).entries ↔
    ∃ before after, es = before ++ (k, v) :: after ∧ k ∉ after.map Prod.fst := by
  rw [← get?_eq_some_iff, get?_ofList, lastOf_eq_some_iff]

/-- A map is made from its entries. -/
theorem ofList_entries (m : SortedMap κ α) : ofList m.entries = m := by
  refine eq_of_get? ?_
  intro k
  rw [get?_ofList]
  cases hm : m.get? k with
  | some v =>
    obtain ⟨w, hw⟩ := exists_lastOf (get?_eq_some_iff.1 hm)
    rw [hw, ← get?_eq_some_iff.2 (mem_of_lastOf hw), hm]
  | none =>
    cases hw : lastOf m.entries k with
    | none => rfl
    | some w =>
      rw [get?_eq_some_iff.2 (mem_of_lastOf hw)] at hm
      cases hm

/-! ## Maps of texts -/

theorem lt_of_compare {a b : String} (h : compare a b = .lt) : a < b :=
  compareOfLessAndEq_eq_lt.1 h

/-- The keys of a map of texts ascend as texts do. -/
theorem keys_ascend (m : StringMap) : m.entries.Pairwise fun a b => a.1 < b.1 :=
  m.ascending.imp lt_of_compare

end SortedMap

end RemoteRecorder
