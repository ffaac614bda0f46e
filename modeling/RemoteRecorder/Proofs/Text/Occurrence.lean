import RemoteRecorder.Text.Split

/-!
# RemoteRecorder.Proofs.Text.Occurrence

**The first occurrence of a phrase in a text**, and that cutting a text finds it.

* `FirstIn phrase text before after` says that the phrase occurs in the text, between what stands
  before and after it, and that it occurs nowhere earlier.
* `after?` and `before?` give the two parts of the text around the first occurrence.
* A phrase whose first character is not in it again cannot overlap with itself. So if it does not
  occur in a text, it can be put behind that text and occurs first where it stands
  (`firstIn_append`).
* A run of characters of one class ends at the first character of another
  (`takeWhile_append_of_head`).
-/

namespace RemoteRecorder.Text

/-- Whether a phrase occurs in a text for the first time between two parts of it. -/
structure FirstIn (phrase text before after : List Char) : Prop where
  eq : text = before ++ phrase ++ after
  first : ∀ before' after', text = before' ++ phrase ++ after' → before.length ≤ before'.length

variable {phrase text before after : List Char} {c : Char}

namespace FirstIn

theorem unique {before' after' : List Char} (h : FirstIn phrase text before after)
    (h' : FirstIn phrase text before' after') : before = before' ∧ after = after' := by
  have length := Nat.le_antisymm (h.first _ _ h'.eq) (h'.first _ _ h.eq)
  have eq := h.eq.symm.trans h'.eq
  rw [List.append_assoc, List.append_assoc] at eq
  obtain ⟨rfl, hafter⟩ := List.append_inj eq length
  exact ⟨rfl, List.append_cancel_left hafter⟩

/-- A phrase at the beginning occurs there for the first time. -/
theorem start (after : List Char) : FirstIn phrase (phrase ++ after) [] after :=
  ⟨rfl, fun _ _ _ => Nat.zero_le _⟩

/-- If a phrase is not at the beginning, its first occurrence is that in the rest. -/
theorem cons_iff (h : ¬ phrase <+: c :: text) :
    FirstIn phrase (c :: text) before after ↔
      ∃ before', before = c :: before' ∧ FirstIn phrase text before' after := by
  constructor
  · rintro ⟨heq, hfirst⟩
    cases before with
    | nil => exact (h ⟨after, heq.symm⟩).elim
    | cons b before =>
      obtain ⟨rfl, htext⟩ := List.cons.inj heq
      refine ⟨before, rfl, htext, ?_⟩
      intro before' after' ht
      exact Nat.le_of_succ_le_succ (hfirst (c :: before') after' (congrArg (c :: ·) ht))
  · rintro ⟨before, rfl, htext, hfirst⟩
    refine ⟨congrArg (c :: ·) htext, ?_⟩
    intro before' after' ht
    cases before' with
    | nil => exact (h ⟨after', ht.symm⟩).elim
    | cons b before' => exact Nat.succ_le_succ (hfirst _ _ (List.cons.inj ht).2)

theorem of_prefix_iff (h : phrase <+: text) :
    FirstIn phrase text before after ↔ before = [] ∧ after = text.drop phrase.length := by
  obtain ⟨rest, rfl⟩ := h
  rw [List.drop_left]
  refine ⟨fun hf => hf.unique (start rest), ?_⟩
  rintro ⟨rfl, rfl⟩
  exact start after

end FirstIn

/-! ## Cutting at the first occurrence

A text is cut by going through it until the phrase begins. That it has not begun before makes the
occurrence the first one. -/

theorem FirstIn.nil_iff :
    FirstIn phrase [] before after ↔ phrase = [] ∧ before = [] ∧ after = [] := by
  constructor
  · rintro ⟨heq, -⟩
    have h := List.append_eq_nil_iff.1 heq.symm
    exact ⟨(List.append_eq_nil_iff.1 h.1).2, (List.append_eq_nil_iff.1 h.1).1, h.2⟩
  · rintro ⟨rfl, rfl, rfl⟩
    exact start []

/-- What stands after the first occurrence. -/
theorem after?_eq_some_iff :
    after? phrase text = some after ↔ ∃ before, FirstIn phrase text before after := by
  induction text with
  | nil => cases phrase <;> simp [after?, FirstIn.nil_iff, @eq_comm _ []]
  | cons c text ih =>
    simp only [after?, List.isPrefixOf_iff_prefix]
    split
    · next hp => simp [FirstIn.of_prefix_iff hp, eq_comm]
    · next hp =>
      rw [ih]
      constructor
      · rintro ⟨before, hf⟩
        exact ⟨c :: before, (FirstIn.cons_iff hp).2 ⟨before, rfl, hf⟩⟩
      · rintro ⟨_, hf⟩
        obtain ⟨before, -, hf⟩ := (FirstIn.cons_iff hp).1 hf
        exact ⟨before, hf⟩

/-- What stands before the first occurrence. -/
theorem before?_eq_some_iff :
    before? phrase text = some before ↔ ∃ after, FirstIn phrase text before after := by
  induction text generalizing before with
  | nil => cases phrase <;> simp [before?, FirstIn.nil_iff, @eq_comm _ []]
  | cons c text ih =>
    simp only [before?, List.isPrefixOf_iff_prefix]
    split
    · next hp => simp [FirstIn.of_prefix_iff hp, eq_comm]
    · next hp =>
      simp only [FirstIn.cons_iff hp, Option.map_eq_some_iff, ih]
      constructor
      · rintro ⟨before, ⟨after, hf⟩, rfl⟩
        exact ⟨after, before, rfl, hf⟩
      · rintro ⟨after, before, rfl, hf⟩
        exact ⟨before, ⟨after, hf⟩, rfl⟩

/-- There is something before the first occurrence of a phrase if the phrase occurs at all. -/
theorem isSome_before?_iff : (before? phrase text).isSome = true ↔ phrase <:+: text := by
  rw [← isSome_after?_iff, Option.isSome_iff_exists, Option.isSome_iff_exists]
  simp only [before?_eq_some_iff, after?_eq_some_iff]
  exact exists_comm

/-! ## No overlap

A phrase that is put behind a text may begin in the text and end in the phrase, and then the first
occurrence would be earlier than where it was put. It cannot if its first character is not in it
again. -/

/-- What does not hold the first character of a text cannot reach into it. -/
theorem prefix_of_prefix_append {cs : List Char} (h : cs <+: before ++ c :: after) (hc : c ∉ cs) :
    cs <+: before := by
  have whole : before <+: before ++ c :: after := List.prefix_append before (c :: after)
  rcases List.prefix_or_prefix_of_prefix h whole with shorter | ⟨rest, rfl⟩
  · exact shorter
  · cases rest with
    | nil => simp
    | cons d rest =>
      obtain ⟨rfl, -⟩ := List.cons_prefix_cons.1 ((List.prefix_append_right_inj before).1 h)
      simp at hc

/-- A phrase that begins with a character that is not in it again occurs first where it stands, if
it does not occur in what stands before. -/
theorem firstIn_append {cs : List Char} (hc : c ∉ cs) (h : ¬ c :: cs <:+: before) :
    FirstIn (c :: cs) (before ++ (c :: cs) ++ after) before after := by
  induction before with
  | nil => exact .start after
  | cons b before ih =>
    have rest := ih fun hi => h (hi.trans (List.suffix_cons b before).isInfix)
    refine (FirstIn.cons_iff ?_).2 ⟨before, rfl, rest⟩
    intro hp
    obtain ⟨rfl, tail⟩ := List.cons_prefix_cons.1 hp
    have tail : cs <+: before ++ (c :: cs ++ after) := List.append_assoc before _ _ ▸ tail
    exact h (List.cons_prefix_cons.2 ⟨rfl, prefix_of_prefix_append tail hc⟩).isInfix

/-! ## Runs of characters

Readers that take characters of a class as long as they can do not look for a phrase, but for the
first character that is not in the class. -/

/-- The longest run of characters of a class ends where the next is of another. -/
theorem takeWhile_append_of_head {p : Char → Bool} {cs ds : List Char} (h : ∀ c ∈ cs, p c = true)
    (hd : ∀ c ∈ ds.head?, p c = false) :
    (cs ++ ds).takeWhile p = cs ∧ (cs ++ ds).dropWhile p = ds := by
  have none : ds.takeWhile p = [] ∧ ds.dropWhile p = ds := by
    cases ds with
    | nil => exact ⟨rfl, rfl⟩
    | cons d ds => simp [hd d rfl]
  rw [List.takeWhile_append_of_pos h, List.dropWhile_append_of_pos h, none.1, none.2,
    List.append_nil]
  exact ⟨rfl, rfl⟩

end RemoteRecorder.Text
