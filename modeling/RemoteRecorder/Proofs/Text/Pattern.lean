import Mathlib.Data.List.TakeWhile
import RemoteRecorder.Text.Split

/-!
# RemoteRecorder.Proofs.Text.Pattern

**Patterns, and the match that a search for one finds**: of all places where there is a match the
leftmost, and of all matches there the one that the pattern prefers.

* `Pattern.ways` lists the matches at the beginning of a text, the preferred ones first. A
  repetition prefers to take more characters or to take fewer, and an option prefers to take one.
* `Pattern.first` is the preferred match at the beginning of a text, and `Pattern.search` tries one
  place after the other.
* Where a repetition comes first, the longest match counts unless a shorter one lets more of the
  pattern match (`first_seq`).
-/

namespace RemoteRecorder.Text

/-- What a text may look like. -/
inductive Pattern where
  /-- No character. -/
  | empty
  /-- A character of a class. -/
  | one (p : Char → Bool)
  /-- A character of a class, or else none. -/
  | option (p : Char → Bool)
  /-- Characters of a class, as many as possible. -/
  | most (p : Char → Bool)
  /-- Characters of a class, as few as possible. -/
  | fewest (p : Char → Bool)
  /-- One pattern after the other. -/
  | seq (a b : Pattern)
  /-- A part of the text that is asked for. -/
  | group (a : Pattern)
  /-- Nothing, but at the end of the text only. -/
  | finish

/-- A match at the beginning of a text. -/
structure Way where
  taken : List Char
  /-- The parts that the groups of the pattern have taken, in their order. -/
  groups : List (List Char)
  /-- The text after the match. -/
  rest : List Char

namespace Way

/-- The match that takes nothing of a text. -/
def stop (text : List Char) : Way := ⟨[], [], text⟩

/-- A match that takes one more character in front. -/
def cons (c : Char) (w : Way) : Way := { w with taken := c :: w.taken }

/-- A match and one after it. -/
def append (w v : Way) : Way := ⟨w.taken ++ v.taken, w.groups ++ v.groups, v.rest⟩

/-- A match that is asked for as a whole. -/
def grouped (w : Way) : Way := { w with groups := w.taken :: w.groups }

@[simp] theorem stop_append (text : List Char) (w : Way) : (stop text).append w = w := rfl

@[simp] theorem rest_stop (text : List Char) : (stop text).rest = text := rfl

@[simp] theorem rest_cons (c : Char) (w : Way) : (w.cons c).rest = w.rest := rfl

@[simp] theorem rest_grouped (w : Way) : w.grouped.rest = w.rest := rfl

end Way

namespace Pattern

/-- A certain text. -/
def literal : List Char → Pattern
  | [] => empty
  | c :: cs => seq (one (· == c)) (literal cs)

/-- The ways to take characters of a class, more rather than fewer. -/
def mostWays (p : Char → Bool) : List Char → List Way
  | [] => [.stop []]
  | c :: cs => (if p c then (mostWays p cs).map (Way.cons c) else []) ++ [.stop (c :: cs)]

/-- The ways to take characters of a class, fewer rather than more. -/
def fewestWays (p : Char → Bool) : List Char → List Way
  | [] => [.stop []]
  | c :: cs => .stop (c :: cs) :: if p c then (fewestWays p cs).map (Way.cons c) else []

/-- The ways to take one character of a class. -/
def oneWay (p : Char → Bool) : List Char → List Way
  | [] => []
  | c :: cs => if p c then [⟨[c], [], cs⟩] else []

/-- The matches at the beginning of a text, those first that are preferred. -/
def ways : Pattern → List Char → List Way
  | empty, cs => [.stop cs]
  | one p, cs => oneWay p cs
  | option p, cs => oneWay p cs ++ [.stop cs]
  | most p, cs => mostWays p cs
  | fewest p, cs => fewestWays p cs
  | seq a b, cs => (a.ways cs).flatMap fun w => (b.ways w.rest).map w.append
  | group a, cs => (a.ways cs).map Way.grouped
  | finish, cs => if cs.isEmpty then [.stop cs] else []

/-- The match at the beginning of a text, if there is one. -/
def first (a : Pattern) (cs : List Char) : Option Way := (a.ways cs).head?

/-- The match at the leftmost place where there is one. -/
def search (a : Pattern) : List Char → Option Way
  | [] => a.first []
  | c :: cs => (a.first (c :: cs)).or (search a cs)

variable {a b : Pattern} {p : Char → Bool} {c : Char} {cs : List Char} {w v : Way}
  {others : List Way}

/-- A sequence matches in the first way to begin it that can be continued. -/
theorem first_seq : (seq a b).first cs =
    (a.ways cs).findSome? fun w => (b.first w.rest).map w.append := by
  simp [first, ways, List.head?_flatMap, List.head?_map]

/-- If there is a single way to begin a sequence that can be continued, it matches in the ways to
continue it. -/
theorem ways_seq (h : a.ways cs = w :: others) (hv : ∀ v ∈ others, b.ways v.rest = []) :
    (seq a b).ways cs = (b.ways w.rest).map w.append := by
  rw [ways, h, List.flatMap_cons, List.flatMap_eq_nil_iff.2, List.append_nil]
  intro v hm
  rw [hv v hm, List.map_nil]

/-- The preferred way to begin a sequence counts, unless only others can be continued. -/
theorem first_seq_of_ways (h : a.ways cs = w :: others)
    (hv : ∀ v ∈ others, (b.first v.rest).isSome = true → (b.first w.rest).isSome = true) :
    (seq a b).first cs = (b.first w.rest).map w.append := by
  rw [first_seq, h, List.findSome?_cons]
  cases hw : b.first w.rest with
  | some x => rfl
  | none =>
    refine List.findSome?_eq_none_iff.2 ?_
    intro v hm
    cases hx : b.first v.rest with
    | none => rfl
    | some x =>
      have := hv v hm (by simp [hx])
      simp [hw] at this

/-- The end of a text is matched at its end only. -/
theorem first_finish : finish.first cs = if cs.isEmpty then some (.stop cs) else none := by
  cases cs <;> rfl

/-- As many characters of a class as possible is one way. In all others the next character is of
the class as well. -/
theorem ways_most (p : Char → Bool) (cs : List Char) : ∃ others,
    (most p).ways cs = ⟨cs.takeWhile p, [], cs.dropWhile p⟩ :: others ∧
    ∀ v ∈ others, cs.dropWhile p <:+ v.rest ∧ ∃ c rest, v.rest = c :: rest ∧ p c = true := by
  induction cs with
  | nil => exact ⟨[], rfl, by simp⟩
  | cons c cs ih =>
    obtain ⟨others, h, hv⟩ := ih
    cases hc : p c with
    | false => exact ⟨[], by simp [ways, mostWays, hc, Way.stop], by simp⟩
    | true =>
      refine ⟨others.map (Way.cons c) ++ [.stop (c :: cs)], ?_, ?_⟩
      · have h : mostWays p cs = _ := h
        simp [ways, mostWays, hc, h, Way.cons]
      · rw [List.dropWhile_cons_of_pos hc]
        intro v hm
        rcases List.mem_append.1 hm with hm | hm
        · obtain ⟨u, hu, rfl⟩ := List.mem_map.1 hm
          exact hv u hu
        · obtain rfl := List.mem_singleton.1 hm
          exact ⟨(List.dropWhile_suffix p).trans (List.suffix_cons c cs), c, cs, rfl, hc⟩

/-- A text of one class matches as a whole, with all of it in the group. -/
theorem first_most_finish (p : Char → Bool) (cs : List Char) :
    (seq (group (most p)) finish).first cs = if cs.all p then some ⟨cs, [cs], []⟩ else none := by
  obtain ⟨others, hways, hv⟩ := ways_most p cs
  have hgroup : (group (most p)).ways cs =
      ⟨cs.takeWhile p, [cs.takeWhile p], cs.dropWhile p⟩ :: others.map Way.grouped := by
    rw [ways, hways]
    rfl
  rw [first_seq_of_ways hgroup, first_finish]
  · by_cases h : ∀ c ∈ cs, p c = true
    · have hall : cs.all p = true := List.all_eq_true.2 h
      rw [List.takeWhile_eq_self_iff.2 h, List.dropWhile_eq_nil_iff.2 h, hall]
      simp [Way.stop, Way.append]
    · have hall : ¬ cs.all p = true := fun hall => h (List.all_eq_true.1 hall)
      have hrest : ¬ (cs.dropWhile p).isEmpty = true := fun he =>
        h (List.dropWhile_eq_nil_iff.1 (List.isEmpty_iff.1 he))
      rw [if_neg hall, if_neg hrest, Option.map_none]
  · intro v hm
    obtain ⟨u, hu, rfl⟩ := List.mem_map.1 hm
    obtain ⟨-, c, rest, hrest, -⟩ := hv u hu
    simp [hrest, first_finish]

/-- A literal matches in one way or in none. -/
theorem ways_literal (l cs : List Char) :
    (literal l).ways cs = if l <+: cs then [⟨l, [], cs.drop l.length⟩] else [] := by
  induction l generalizing cs with
  | nil => simp [literal, ways, Way.stop]
  | cons c l ih =>
    cases cs with
    | nil => simp [literal, ways, oneWay]
    | cons d cs =>
      by_cases h : d = c
      · subst h
        simp only [literal, ways, oneWay, beq_self_eq_true, if_true, List.flatMap_singleton, ih,
          List.cons_prefix_cons, true_and]
        split <;> simp [Way.append]
      · have hp : ¬ c :: l <+: d :: cs := fun hp => h (List.cons_prefix_cons.1 hp).1.symm
        simp [literal, ways, oneWay, h, hp]

/-- After a literal there is only one way to go on. -/
theorem first_literal_seq (l cs : List Char) : (seq (literal l) b).first cs =
    if l <+: cs then (b.first (cs.drop l.length)).map (Way.append ⟨l, [], cs.drop l.length⟩)
    else none := by
  rw [first_seq, ways_literal]
  split <;> simp

/-- Where as few characters as possible are taken in front of a phrase, these are the characters in
front of its first occurrence. -/
theorem findSome?_fewest {α : Type} (phrase : List Char) (f : List Char → List (List Char) → α)
    (cs : List Char) :
    ((fewest fun _ => true).ways cs).findSome?
        (fun w => if phrase <+: w.rest then some (f w.taken w.groups) else none) =
      (before? phrase cs).map fun taken => f taken [] := by
  show (fewestWays (fun _ => true) cs).findSome? _ = _
  induction cs generalizing f with
  | nil => cases phrase <;> rfl
  | cons c cs ih =>
    simp only [fewestWays, if_true, List.findSome?_cons, List.findSome?_map, Way.rest_stop, before?,
      List.isPrefixOf_iff_prefix]
    by_cases h : phrase <+: c :: cs
    · simp only [h, if_true]
      rfl
    · simp only [h, if_false, Option.map_map]
      -- The phrase is not here yet, so one more character is taken.
      exact ih fun taken => f (c :: taken)

/-- A search finds something at one of the places that it tries. -/
theorem exists_first_of_search (h : a.search cs = some w) :
    ∃ before text, cs = before ++ text ∧ a.first text = some w := by
  induction cs with
  | nil => exact ⟨[], [], rfl, h⟩
  | cons c cs ih =>
    rcases Option.or_eq_some_iff.1 h with h | ⟨-, h⟩
    · exact ⟨[], c :: cs, rfl, h⟩
    · obtain ⟨before, text, rfl, hf⟩ := ih h
      exact ⟨c :: before, text, rfl, hf⟩

end Pattern

end RemoteRecorder.Text
