import RemoteRecorder.Proofs.Text.Pattern
import RemoteRecorder.Proofs.TimeSpan

/-!
# RemoteRecorder.Proofs.TimeSpan.Pattern

**The pattern of time spans**: a number, white space and a unit. Patterns count the digits and the
letters of all scripts, far more than a number or a unit may be made of.

* `CharClasses` says what is relied on about these two classes, which overlap.
* A match of the pattern is read in the same two parts as `read?` cuts out by hand, and with the
  same result (`CharClasses.timeSpan?_eq_read?`). The number ends with the longest run of digits: if
  a shorter one lets the rest match, so does the longest.
-/

namespace RemoteRecorder.TimeSpan

open Text (Pattern Way isBlank)
open Text.Integer (Sign SignFree AreDigits Spells spells_signed_iff)
open Text.Pattern

/-- What patterns count as digits, and as characters of words. -/
structure CharClasses where
  digit : Char → Bool
  word : Char → Bool
  digitLike : DigitLike digit
  digit_plus : digit '+' = false
  digit_minus : digit '-' = false
  word_of_digit : ∀ c, digit c = true → word c = true
  word_of_isAlpha : ∀ c, c.isAlpha = true → word c = true
  word_blank : ∀ c, isBlank c = true → word c = false

namespace CharClasses

/-- The classes that hold characters of ASCII only. -/
def ascii : CharClasses where
  digit := Char.isDigit
  word c := c.isAlphanum || c == '_'
  digitLike := digitLike_isDigit
  digit_plus := rfl
  digit_minus := rfl
  word_of_digit c h := by simp [Char.isAlphanum, h]
  word_of_isAlpha c h := by simp [Char.isAlphanum, h]
  word_blank c h := by
    have hne : c ≠ '_' := by rintro rfl; cases h
    have halpha : c.isAlpha = false := by
      refine Bool.eq_false_iff.2 fun ha => ?_
      rw [isBlank_of_isAlpha ha] at h
      cases h
    simp [Char.isAlphanum, digitLike_isDigit.blank c h, halpha, hne]

variable (classes : CharClasses)

/-- A sign in front of a number. -/
def isSign (c : Char) : Bool := c == '+' || c == '-'

/-- Digits, and at least one of them. -/
def digits : Pattern := seq (one classes.digit) (most classes.digit)

/-- White space and a unit, up to the end. -/
def tail : Pattern := seq (most isBlank) (seq (group (most classes.word)) finish)

/-- A number with a sign or without one, and what may follow it. -/
def pattern : Pattern := seq (group (seq (option isSign) classes.digits)) classes.tail

/-- Reads the number and the unit that a match of the pattern has found. -/
def timeSpan? (raw : String) : Option TimeSpan :=
  if Text.allBlank raw then some zero
  else
    match (classes.pattern.first raw.toList).map Way.groups with
    | some [number, unit] => ofParts? number unit
    | _ => none

variable {sign : Sign} {cs : List Char}

/-! ## The match

A search would go back to shorter runs of digits if the rest did not match after the longest. It
never has to: the characters that a shorter run leaves are digits and so characters of words, and
these would belong to the unit. -/

/-- The longest run of digits comes first. After a shorter one there is another digit. -/
theorem ways_digits (h : cs.takeWhile classes.digit ≠ []) : ∃ others,
    classes.digits.ways cs =
      ⟨cs.takeWhile classes.digit, [], cs.dropWhile classes.digit⟩ :: others ∧
    ∀ v ∈ others, cs.dropWhile classes.digit <:+ v.rest ∧
      ∃ c rest, v.rest = c :: rest ∧ classes.digit c = true := by
  cases cs with
  | nil => exact (h rfl).elim
  | cons c cs =>
    have hc : classes.digit c = true := by
      cases hc : classes.digit c with
      | true => rfl
      | false => exact (h (List.takeWhile_cons_of_neg (by simp [hc]))).elim
    obtain ⟨others, hways, hv⟩ := ways_most classes.digit cs
    have hone : (one classes.digit).ways (c :: cs) = [⟨[c], [], cs⟩] := if_pos hc
    refine ⟨others.map (Way.append ⟨[c], [], cs⟩), ?_, ?_⟩
    · rw [digits, ways_seq hone nofun, hways, List.takeWhile_cons_of_pos hc,
        List.dropWhile_cons_of_pos hc]
      rfl
    · rw [List.dropWhile_cons_of_pos hc]
      intro v hm
      obtain ⟨u, hu, rfl⟩ := List.mem_map.1 hm
      exact hv u hu

theorem ways_digits_eq_nil (h : cs.takeWhile classes.digit = []) :
    classes.digits.ways cs = [] := by
  have hone : (one classes.digit).ways cs = [] := by
    cases cs with
    | nil => rfl
    | cons c cs =>
      have hc : ¬ classes.digit c = true := fun hc => by
        rw [List.takeWhile_cons_of_pos hc] at h
        cases h
      exact if_neg hc
  rw [digits, ways, hone, List.flatMap_nil]

/-- A sign is taken if there is one, since no digits begin with it. -/
theorem ways_number (h : sign = .absent → SignFree cs) :
    (seq (option isSign) classes.digits).ways (sign.chars ++ cs) =
      (classes.digits.ways cs).map (Way.append ⟨sign.chars, [], cs⟩) := by
  -- Without the sign there is a match only if the sign is a digit.
  have signed (c : Char) (hs : isSign c = true) (hc : classes.digit c = false) :
      (seq (option isSign) classes.digits).ways (c :: cs) =
        (classes.digits.ways cs).map (Way.append ⟨[c], [], cs⟩) := by
    have hways : (option isSign).ways (c :: cs) = [⟨[c], [], cs⟩, .stop (c :: cs)] := by
      simp [ways, oneWay, hs]
    refine ways_seq hways ?_
    intro v hv
    obtain rfl := List.mem_singleton.1 hv
    exact classes.ways_digits_eq_nil (List.takeWhile_cons_of_neg (by simp [hc]))
  cases sign with
  | absent =>
    have hstop : (option isSign).ways cs = [.stop cs] := by
      cases cs with
      | nil => rfl
      | cons c cs =>
        have hc : ¬ isSign c = true := by
          simp only [isSign, Bool.or_eq_true, beq_iff_eq]
          rintro (rfl | rfl)
          · exact (h rfl cs).1 rfl
          · exact (h rfl cs).2 rfl
        simp [ways, oneWay, hc]
    exact ways_seq hstop (List.forall_mem_nil _)
  | plus => exact signed '+' rfl classes.digit_plus
  | minus => exact signed '-' rfl classes.digit_minus

/-- White space is taken as far as it goes, and the rest has to be characters of words. -/
theorem first_tail (cs : List Char) : classes.tail.first cs =
    if (cs.dropWhile isBlank).all classes.word then some ⟨cs, [cs.dropWhile isBlank], []⟩
    else none := by
  obtain ⟨others, hways, hv⟩ := ways_most isBlank cs
  rw [tail, first_seq_of_ways hways, first_most_finish]
  · split <;> simp [Way.append, List.takeWhile_append_dropWhile]
  · intro v hm
    obtain ⟨-, c, rest, hrest, hc⟩ := hv v hm
    simp [hrest, first_most_finish, classes.word_blank c hc]

/-- The parts of a match: the number ends with the longest run of digits, and the unit stands after
white space, up to the end. -/
theorem groups_first_pattern (h : sign = .absent → SignFree cs) :
    (classes.pattern.first (sign.chars ++ cs)).map Way.groups =
      if cs.takeWhile classes.digit ≠ [] ∧
          ((cs.dropWhile classes.digit).dropWhile isBlank).all classes.word = true then
        some [sign.chars ++ cs.takeWhile classes.digit,
          (cs.dropWhile classes.digit).dropWhile isBlank]
      else none := by
  by_cases hd : cs.takeWhile classes.digit = []
  · have hnone : (group (seq (option isSign) classes.digits)).ways (sign.chars ++ cs) = [] := by
      rw [ways, classes.ways_number h, classes.ways_digits_eq_nil hd]
      rfl
    rw [pattern, first_seq, hnone]
    simp [hd]
  · obtain ⟨others, hways, hv⟩ := classes.ways_digits hd
    have hgroup : (group (seq (option isSign) classes.digits)).ways (sign.chars ++ cs) =
        ⟨sign.chars ++ cs.takeWhile classes.digit, [sign.chars ++ cs.takeWhile classes.digit],
          cs.dropWhile classes.digit⟩ ::
        others.map (fun v => (Way.append ⟨sign.chars, [], cs⟩ v).grouped) := by
      rw [ways, classes.ways_number h, hways]
      simp [Way.append, Way.grouped]
    rw [pattern, first_seq_of_ways hgroup, first_tail]
    · split <;> simp [*, Way.append]
    · -- What is all of words after a shorter run of digits is so after the longest as well.
      intro v hm
      obtain ⟨u, hu, rfl⟩ := List.mem_map.1 hm
      obtain ⟨hsuffix, c, rest, hrest, hc⟩ := hv u hu
      have hblank : ¬ isBlank c = true := by
        intro hb
        rw [classes.digitLike.blank c hb] at hc
        cases hc
      intro hsome
      have hword : (c :: rest).all classes.word = true := by
        have hsome : (classes.tail.first u.rest).isSome = true := hsome
        rw [hrest, first_tail, List.dropWhile_cons_of_neg hblank] at hsome
        by_contra hn
        rw [if_neg hn] at hsome
        cases hsome
      have hall : ((cs.dropWhile classes.digit).dropWhile isBlank).all classes.word = true := by
        refine List.all_eq_true.2 fun d hd => List.all_eq_true.1 hword d ?_
        rw [← hrest]
        exact hsuffix.subset ((List.dropWhile_suffix isBlank).subset hd)
      rw [first_tail, if_pos hall]
      rfl

/-- A match of the pattern is read as the time span that the text denotes. -/
theorem timeSpan?_eq_some_iff {raw : String} {t : TimeSpan} :
    classes.timeSpan? raw = some t ↔ Denotes raw.toList t := by
  unfold timeSpan?
  split
  · next h =>
    rw [denotes_blank_iff (by simpa [Text.allBlank] using h), Option.some.injEq, eq_comm]
  · next h =>
    obtain ⟨sign, cs, hraw, hfree⟩ := exists_sign raw.toList
    have hb : ¬ ∀ c ∈ sign.chars ++ cs, isBlank c = true := by
      rw [← hraw]
      simpa [Text.allBlank] using h
    rw [hraw, classes.groups_first_pattern hfree, denotes_signed_iff classes.digitLike hfree hb]
    split_ifs with hmatch
    · exact ofParts?_eq_some_iff
    · -- Numbers have digits, and the characters of units are characters of words.
      simp only [false_iff, not_and]
      intro hn hunit
      have hfree' (hs : sign = .absent) : SignFree (cs.takeWhile classes.digit) := by
        have split : cs.takeWhile classes.digit ++ cs.dropWhile classes.digit = cs :=
          List.takeWhile_append_dropWhile
        exact signFree_of_append (split ▸ hfree hs)
      refine hmatch ⟨((spells_signed_iff hfree').1 hn).1.1, ?_⟩
      rw [hunit, List.all_eq_true]
      exact fun c hc => classes.word_of_isAlpha c (isAlpha_of_mem_abbreviation t.unit c hc)

/-- Reading by the pattern, whatever it counts as digits and letters, is reading by hand. -/
theorem timeSpan?_eq_read? (raw : String) : classes.timeSpan? raw = read? raw :=
  Option.ext fun _ => classes.timeSpan?_eq_some_iff.trans read?_eq_some_iff.symm

-- White space may stand between a number and its unit, but not after them.
example : (ascii.timeSpan? "+007\t m").map text = some "7 m" := by rfl

example : ascii.timeSpan? "7 m " = none := by rfl

end CharClasses

end RemoteRecorder.TimeSpan
