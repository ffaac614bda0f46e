/-!
# RemoteRecorder.Text.Split

**Cutting a text**: at the first occurrence of a character, at every one, or at the
first occurrence of a phrase.
-/

namespace RemoteRecorder.Text

/-- What stands before and after the first `sep`, if there is one. -/
def cut? (sep : Char) : List Char → Option (List Char × List Char)
  | [] => none
  | c :: cs =>
    if c = sep then some ([], cs) else (cut? sep cs).map fun (before, after) => (c :: before, after)

/-- A cut loses nothing, and the first part does not hold the separator. -/
theorem cut?_eq_some_iff {sep : Char} {cs before after : List Char} :
    cut? sep cs = some (before, after) ↔ cs = before ++ sep :: after ∧ sep ∉ before := by
  induction cs generalizing before with
  | nil => simp [cut?]
  | cons c cs ih =>
    by_cases h : c = sep
    · subst h
      cases before <;> simp [cut?]
      grind
    · cases before with
      | nil => simp [cut?, h]
      | cons b bs =>
        simp only [cut?, if_neg h, Option.map_eq_some_iff, Prod.exists, Prod.mk.injEq,
          List.cons.injEq, List.cons_append, List.mem_cons, not_or]
        grind

/-- There is no cut exactly if there is no separator. -/
theorem cut?_eq_none_iff {sep : Char} {cs : List Char} : cut? sep cs = none ↔ sep ∉ cs := by
  induction cs with
  | nil => simp [cut?]
  | cons c cs ih => by_cases h : c = sep <;> simp [cut?, h, ih]; grind

/-- The parts between the separators: one more than there are separators. -/
def pieces (sep : Char) : List Char → List (List Char)
  | [] => [[]]
  | c :: cs =>
    if c = sep then [] :: pieces sep cs
    else match pieces sep cs with
      | [] => [[c]]
      | p :: ps => (c :: p) :: ps

theorem pieces_ne_nil (sep : Char) (cs : List Char) : pieces sep cs ≠ [] := by
  cases cs with
  | nil => simp [pieces]
  | cons c cs =>
    simp only [pieces]
    split
    · simp
    · split <;> simp

/-- What follows the first occurrence of a phrase, if it occurs. -/
def after? (phrase : List Char) : List Char → Option (List Char)
  | [] => if phrase.isEmpty then some [] else none
  | c :: cs =>
    if phrase.isPrefixOf (c :: cs) then some ((c :: cs).drop phrase.length) else after? phrase cs

/-- What stands before the first occurrence of a phrase, if it occurs. -/
def before? (phrase : List Char) : List Char → Option (List Char)
  | [] => if phrase.isEmpty then some [] else none
  | c :: cs =>
    if phrase.isPrefixOf (c :: cs) then some [] else (before? phrase cs).map (c :: ·)

/-- Whether a phrase occurs in a text. -/
def mentions (phrase text : String) : Bool :=
  (after? phrase.toList text.toList).isSome

theorem isSome_after?_iff {phrase cs : List Char} :
    (after? phrase cs).isSome = true ↔ phrase <:+: cs := by
  induction cs with
  | nil => cases phrase <;> simp [after?]
  | cons c cs ih =>
    rw [List.infix_cons_iff, ← List.isPrefixOf_iff_prefix, ← ih, after?]
    split <;> simp [*]

/-- A text mentions what stands somewhere in it. -/
theorem mentions_iff {phrase text : String} :
    mentions phrase text = true ↔ phrase.toList <:+: text.toList :=
  isSome_after?_iff

end RemoteRecorder.Text
