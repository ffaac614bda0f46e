import Mathlib.Data.List.Chain
import Mathlib.Data.List.TakeWhile
import Mathlib.Tactic.IntervalCases
import RemoteRecorder.Json.Token
import RemoteRecorder.Proofs.Text.Integer
import RemoteRecorder.Proofs.Text.Occurrence

/-!
# RemoteRecorder.Proofs.Json.Token

**Which texts consist of certain JSON tokens.** The grammar comes first and knows nothing of the
scanner: `Numeral` and `Body` say how numbers and strings are written, `Spells` how a token is, and
`Lays` puts tokens one after the other, with any amount of white space around them.

The scanner finds only tokens that make up the text (`lays_of_scan`). The other direction needs a
condition, since the grammar may lay two words side by side that the scanner takes for one. Tokens
that never put two words or numbers next to each other are found (`scan_of_lays`), and the tokens of
a JSON value are of this kind.
-/

namespace RemoteRecorder.Json.Token

open Text (takeWhile_append_of_head)
open Text.Integer (AreDigits)

variable {cs ds : List Char} {c : Char}

/-! ## Numbers

A number is made of four parts, all but one of which may be missing. The scanner's predicates cut
the text at the first character that is no digit, so what has to be shown is that no part begins
with a digit where the part before it ends with one. -/

/-- The digits before the point: a zero alone, or digits that do not begin with a zero. -/
inductive Whole : List Char → Prop
  | zero : Whole ['0']
  | digits {c : Char} {cs : List Char} (h : AreDigits (c :: cs)) (hc : c ≠ '0') : Whole (c :: cs)

/-- Nothing, or a point and digits. -/
inductive Fraction : List Char → Prop
  | absent : Fraction []
  | digits {cs : List Char} (h : AreDigits cs) : Fraction ('.' :: cs)

/-- Nothing, or a letter, at most one sign and digits. -/
inductive Exponent : List Char → Prop
  | absent : Exponent []
  | digits {e : Char} {sign cs : List Char} (he : e = 'e' ∨ e = 'E')
      (hs : sign = [] ∨ sign = ['+'] ∨ sign = ['-']) (h : AreDigits cs) :
      Exponent (e :: (sign ++ cs))

/-- A number of JSON: a minus sign or none, and then the three parts. -/
inductive Numeral : List Char → Prop
  | parts {sign whole fraction exponent : List Char} (hs : sign = [] ∨ sign = ['-'])
      (hw : Whole whole) (hf : Fraction fraction) (he : Exponent exponent) :
      Numeral (sign ++ (whole ++ (fraction ++ exponent)))

theorem areDigits_iff :
    (!cs.isEmpty) = true ∧ cs.all Char.isDigit = true ↔ AreDigits cs := by
  simp [AreDigits]

theorem Whole.areDigits (h : Whole cs) : AreDigits cs := by
  cases h with
  | zero => exact ⟨by simp, by simp⟩
  | digits h hc => exact h

theorem whole_iff : (cs == ['0'] || (!cs.isEmpty && cs.head? != some '0')) = true ∧
    (∀ c ∈ cs, c.isDigit = true) ↔ Whole cs := by
  constructor
  · rintro ⟨h, hd⟩
    cases cs with
    | nil => simp at h
    | cons c cs =>
      by_cases hc : c = '0'
      · subst hc
        obtain rfl : cs = [] := by simpa using h
        exact .zero
      · exact .digits ⟨by simp, hd⟩ hc
  · intro h
    refine ⟨?_, h.areDigits.2⟩
    cases h with
    | zero => rfl
    | digits h hc => simp [hc]

theorem isExponent_iff : isExponent cs = true ↔ Exponent cs := by
  constructor
  · intro h
    cases cs with
    | nil => exact .absent
    | cons e cs =>
      unfold isExponent at h
      simp only [Bool.and_assoc, Bool.and_eq_true, areDigits_iff] at h
      obtain ⟨he, hd⟩ := h
      have he : e = 'e' ∨ e = 'E' := by simpa using he
      split at hd
      · exact .digits he (.inr (.inl rfl)) hd
      · exact .digits he (.inr (.inr rfl)) hd
      · exact .digits he (.inl rfl) hd
  · intro h
    cases h with
    | absent => rfl
    | @digits e sign ds he hs h =>
      unfold isExponent
      simp only [Bool.and_assoc, Bool.and_eq_true, areDigits_iff]
      refine ⟨by simpa using he, ?_⟩
      rcases hs with rfl | rfl | rfl
      · -- A digit is no sign, so none is cut off.
        rw [List.nil_append]
        split
        · exact ((h.signFree _).1 rfl).elim
        · exact ((h.signFree _).2 rfl).elim
        · exact h
      · exact h
      · exact h

/-- An exponent does not go on with the digits before it, nor does it look like a fraction. -/
theorem Exponent.head (h : Exponent cs) : ∀ c ∈ cs.head?, c.isDigit = false ∧ c ≠ '.' := by
  cases h with
  | absent => simp
  | digits he hs h => rcases he with rfl | rfl <;> simp

theorem isFraction_iff : isFraction cs = true ↔
    ∃ fraction exponent, cs = fraction ++ exponent ∧ Fraction fraction ∧ Exponent exponent := by
  constructor
  · intro h
    unfold isFraction at h
    split at h
    · next cs =>
      rw [Bool.and_eq_true, isExponent_iff] at h
      have hd : AreDigits (cs.takeWhile Char.isDigit) :=
        ⟨by simpa using h.1, fun c hc => List.mem_takeWhile_imp hc⟩
      exact ⟨_, _, by rw [List.cons_append, List.takeWhile_append_dropWhile], .digits hd, h.2⟩
    · exact ⟨[], cs, rfl, .absent, isExponent_iff.1 h⟩
  · rintro ⟨fraction, exponent, rfl, hf, he⟩
    cases hf with
    | absent =>
      rw [List.nil_append]
      unfold isFraction
      split
      · exact ((he.head '.' rfl).2 rfl).elim
      · exact isExponent_iff.2 he
    | @digits ds hd =>
      obtain ⟨taken, left⟩ := takeWhile_append_of_head hd.2 fun c hc => (he.head c hc).1
      rw [List.cons_append, isFraction, taken, left, Bool.and_eq_true]
      exact ⟨by simpa using hd.1, isExponent_iff.2 he⟩

theorem isNumber_iff : isNumber cs = true ↔ Numeral cs := by
  have unsigned (cs : List Char) : ((cs.takeWhile Char.isDigit == ['0'] ||
      (!(cs.takeWhile Char.isDigit).isEmpty && (cs.takeWhile Char.isDigit).head? != some '0')) &&
      isFraction (cs.dropWhile Char.isDigit)) = true ↔
      ∃ whole fraction exponent, cs = whole ++ (fraction ++ exponent) ∧ Whole whole ∧
        Fraction fraction ∧ Exponent exponent := by
    rw [Bool.and_eq_true, isFraction_iff]
    constructor
    · rintro ⟨hw, fraction, exponent, heq, hf, he⟩
      refine ⟨cs.takeWhile Char.isDigit, fraction, exponent, ?_, ?_, hf, he⟩
      · rw [← heq, List.takeWhile_append_dropWhile]
      · exact whole_iff.1 ⟨hw, fun c hc => List.mem_takeWhile_imp hc⟩
    · rintro ⟨whole, fraction, exponent, rfl, hw, hf, he⟩
      have head : ∀ c ∈ (fraction ++ exponent).head?, c.isDigit = false := by
        cases hf with
        | absent => exact fun c hc => (he.head c hc).1
        | digits hd => simp
      obtain ⟨taken, left⟩ := takeWhile_append_of_head hw.areDigits.2 head
      rw [taken, left]
      exact ⟨(whole_iff.2 hw).1, fraction, exponent, rfl, hf, he⟩
  unfold isNumber
  rw [unsigned]
  constructor
  · rintro ⟨whole, fraction, exponent, heq, hw, hf, he⟩
    split at heq
    · rw [heq]
      exact @Numeral.parts ['-'] _ _ _ (.inr rfl) hw hf he
    · rw [heq]
      exact @Numeral.parts [] _ _ _ (.inl rfl) hw hf he
  · rintro @⟨sign, whole, fraction, exponent, hs, hw, hf, he⟩
    refine ⟨whole, fraction, exponent, ?_, hw, hf, he⟩
    rcases hs with rfl | rfl
    · split
      · next r heq =>
        obtain ⟨d, ds, rfl⟩ := List.exists_cons_of_ne_nil hw.areDigits.1
        have hd := hw.areDigits.2 d List.mem_cons_self
        rw [(List.cons.inj heq).1] at hd
        cases hd
      · rfl
    · rfl

/-- The scanner takes every character of a number for one. -/
theorem Numeral.isNumeric (h : Numeral cs) : ∀ c ∈ cs, isNumeric c = true := by
  have digit (c : Char) (h : c.isDigit = true) : Token.isNumeric c = true := by
    simp [Token.isNumeric, h]
  obtain ⟨hs, hw, hf, he⟩ := h
  intro c hc
  rcases List.mem_append.1 hc with hc | hc
  · rcases hs with rfl | rfl
    · cases hc
    · rw [List.mem_singleton.1 hc]
      rfl
  rcases List.mem_append.1 hc with hc | hc
  · exact digit c (hw.areDigits.2 c hc)
  rcases List.mem_append.1 hc with hc | hc
  · cases hf with
    | absent => cases hc
    | digits h =>
      rcases List.mem_cons.1 hc with rfl | hc
      · rfl
      · exact digit c (h.2 c hc)
  · cases he with
    | absent => cases hc
    | digits he hs h =>
      rcases List.mem_cons.1 hc with rfl | hc
      · rcases he with rfl | rfl <;> rfl
      rcases List.mem_append.1 hc with hc | hc
      · rcases hs with rfl | rfl | rfl
        · cases hc
        · rw [List.mem_singleton.1 hc]
          rfl
        · rw [List.mem_singleton.1 hc]
          rfl
      · exact digit c (h.2 c hc)

/-- A number begins with a digit or with a minus sign. -/
theorem Numeral.exists_head (h : Numeral cs) :
    ∃ c rest, cs = c :: rest ∧ (c = '-' ∨ c.isDigit = true) := by
  obtain ⟨hs, hw, -, -⟩ := h
  rcases hs with rfl | rfl
  · obtain ⟨d, ds, rfl⟩ := List.exists_cons_of_ne_nil hw.areDigits.1
    exact ⟨d, _, rfl, .inr (hw.areDigits.2 d List.mem_cons_self)⟩
  · exact ⟨_, _, rfl, .inl rfl⟩

/-! ## Strings

A string is read in two steps, and so it is described in two: its characters are parts (`Body`), of
which an escape may be half of a surrogate pair, and the parts are a text (`Means`) if all halves
find each other. A string in which they do not is a string of JSON all the same. -/

/-- The digits of hexadecimal numbers, in letters of either case. -/
def HexDigit (c : Char) (d : Nat) : Prop :=
  "0123456789abcdef".toList[d]? = some c ∨ "0123456789ABCDEF".toList[d]? = some c

/-- Whether hexadecimal digits are a number. -/
inductive HexNumber : List Char → Nat → Prop
  | nil : HexNumber [] 0
  | concat {ds : List Char} {n d : Nat} {c : Char} (h : HexNumber ds n) (hd : HexDigit c d) :
      HexNumber (ds ++ [c]) (n * 16 + d)

/-- The letters that may follow a backslash, and what they stand for. -/
def escapes : List (Char × Char) :=
  [('"', '"'), ('\\', '\\'), ('/', '/'), ('b', '\x08'), ('f', '\x0c'), ('n', '\n'), ('r', '\r'),
    ('t', '\t')]

/-- How a part of a string is written. -/
inductive Piece.Spells : Piece → List Char → Prop
  | plain {c : Char} (hq : c ≠ '"') (hb : c ≠ '\\') (h : 0x20 ≤ c.toNat) : Spells (.char c) [c]
  | escape {e c : Char} (h : (e, c) ∈ escapes) : Spells (.char c) ['\\', e]
  | unit {ds : List Char} {n : Nat} (h : HexNumber ds n) (hl : ds.length = 4)
      (hn : n < 0xd800 ∨ 0xdfff < n) : Spells (.char (Char.ofNat n)) ('\\' :: 'u' :: ds)
  | surrogate {ds : List Char} {n : Nat} (h : HexNumber ds n) (hl : ds.length = 4)
      (hn : 0xd800 ≤ n ∧ n ≤ 0xdfff) : Spells (.surrogate n) ('\\' :: 'u' :: ds)

/-- How the parts of a string are written, one after the other. -/
inductive Body : List Piece → List Char → Prop
  | nil : Body [] []
  | cons {p : Piece} {ps : List Piece} {cs ds : List Char} (hp : p.Spells cs) (h : Body ps ds) :
      Body (p :: ps) (cs ++ ds)

/-- What the parts of a string are as a text. Two surrogates are one character: the first gives its
upper ten bits, the second its lower ten. -/
inductive Means : List Piece → List Char → Prop
  | nil : Means [] []
  | char {c : Char} {ps : List Piece} {cs : List Char} (h : Means ps cs) :
      Means (.char c :: ps) (c :: cs)
  | pair {high low : Nat} {ps : List Piece} {cs : List Char} (hh : high < 0xdc00)
      (hl : 0xdc00 ≤ low) (h : Means ps cs) :
      Means (.surrogate high :: .surrogate low :: ps)
        (Char.ofNat (0x10000 + (high - 0xd800) * 0x400 + (low - 0xdc00)) :: cs)

variable {p : Piece} {ps qs : List Piece} {n d : Nat}

/-- The characters from one to another are those with the numbers between theirs. -/
theorem exists_ofNat {low high : Char} (h : low ≤ c ∧ c ≤ high) :
    ∃ n, low.toNat ≤ n ∧ n ≤ high.toNat ∧ c = Char.ofNat n := by
  simp only [Char.le_def, UInt32.le_iff_toNat_le] at h
  exact ⟨c.toNat, h.1, h.2, (Char.ofNat_toNat c).symm⟩

theorem exists_digit (h : c.isDigit = true) : ∃ n, 48 ≤ n ∧ n ≤ 57 ∧ c = Char.ofNat n :=
  @exists_ofNat c '0' '9' (by simpa [Char.isDigit, Char.le_def] using h)

theorem hexDigit?_eq_some_iff : hexDigit? c = some d ↔ HexDigit c d := by
  constructor
  · intro h
    unfold hexDigit? HexDigit at *
    -- Each of the 22 digits is looked up in the text that holds it.
    split at h
    · next hc =>
      obtain ⟨n, hl, hh, rfl⟩ := exists_digit hc
      interval_cases n <;> cases h <;> decide
    split at h
    · next hc =>
      obtain ⟨n, hl, hh, rfl⟩ := @exists_ofNat c 'a' 'f' (by simpa using hc)
      simp only [Char.reduceToNat] at hl hh
      interval_cases n <;> cases h <;> decide
    split at h
    · next hc =>
      obtain ⟨n, hl, hh, rfl⟩ := @exists_ofNat c 'A' 'F' (by simpa using hc)
      simp only [Char.reduceToNat] at hl hh
      interval_cases n <;> cases h <;> decide
    · cases h
  · intro h
    have hlt : d < 16 := by
      rcases h with h | h <;> exact (List.getElem?_eq_some_iff.1 h).1
    unfold HexDigit at h
    interval_cases d <;> rcases h with h | h <;> obtain rfl := Option.some.inj h <;> rfl

theorem ofEscape?_eq_some_iff {e : Char} : ofEscape? e = some c ↔ (e, c) ∈ escapes := by
  constructor
  · intro h
    unfold ofEscape? at h
    split at h <;> cases h <;> decide
  · intro h
    simp only [escapes, List.mem_cons, Prod.mk.injEq, List.not_mem_nil, or_false] at h
    rcases h with ⟨rfl, rfl⟩ | ⟨rfl, rfl⟩ | ⟨rfl, rfl⟩ | ⟨rfl, rfl⟩ | ⟨rfl, rfl⟩ | ⟨rfl, rfl⟩ |
      ⟨rfl, rfl⟩ | ⟨rfl, rfl⟩ <;> rfl

theorem textOf_eq_some_iff : textOf ps = some cs ↔ Means ps cs := by
  constructor
  · intro h
    fun_induction textOf ps generalizing cs with
    | case1 =>
      obtain rfl := Option.some.inj h
      exact .nil
    | case2 c ps ih =>
      obtain ⟨ds, hds, rfl⟩ := Option.map_eq_some_iff.1 h
      exact .char (ih hds)
    | case3 high low ps hp ih =>
      obtain ⟨ds, hds, rfl⟩ := Option.map_eq_some_iff.1 h
      simp only [Bool.and_eq_true, decide_eq_true_eq] at hp
      exact .pair hp.1 hp.2 (ih hds)
    | case4 => cases h
    | case5 => cases h
  · intro h
    induction h with
    | nil => rfl
    | char h ih => rw [textOf, ih]; rfl
    | pair hh hl h ih =>
      rw [textOf, if_pos (by simp [hh, hl]), ih]
      rfl

theorem spells_unit (h : HexNumber ds n) (hl : ds.length = 4) :
    (Piece.ofUnit n).Spells ('\\' :: 'u' :: ds) := by
  unfold Piece.ofUnit
  split
  · next hn => exact .surrogate h hl (by simpa using hn)
  · next hn => exact .unit h hl (by simp at hn; omega)

theorem Body.concat (h : Body ps cs) (hp : p.Spells ds) : Body (ps ++ [p]) (cs ++ ds) := by
  induction h with
  | nil => simpa using Body.cons hp .nil
  | cons hq h ih =>
    rw [List.append_assoc]
    exact .cons hq ih

/-! ## Tokens

White space may stand before every token and at the end of the text. Nothing else separates tokens,
and where the grammar allows two readings of a text, this is for the values to exclude. -/

/-- How a token is written. -/
inductive Spells : Token → List Char → Prop
  | openArray : Spells .openArray ['[']
  | closeArray : Spells .closeArray [']']
  | openObject : Spells .openObject ['{']
  | closeObject : Spells .closeObject ['}']
  | comma : Spells .comma [',']
  | colon : Spells .colon [':']
  | null : Spells .null "null".toList
  | true : Spells (.bool true) "true".toList
  | false : Spells (.bool false) "false".toList
  | number {cs : List Char} (h : Numeral cs) : Spells (.number (String.ofList cs)) cs
  | string {text : Option String} {ps : List Piece} {body : List Char} (h : Body ps body)
      (ht : ∀ t, text = some t ↔ Means ps t.toList) :
      Spells (.string text) ('"' :: (body ++ ['"']))

/-- Space, tab, line feed and carriage return, as many as there are. -/
def Space (cs : List Char) : Prop := ∀ c ∈ cs, c ∈ [' ', '\t', '\n', '\r']

/-- Whether a text is certain tokens, with white space around them. -/
inductive Lays : List Token → List Char → Prop
  | nil {space : List Char} (h : Space space) : Lays [] space
  | cons {t : Token} {ts : List Token} {space cs rest : List Char} (hs : Space space)
      (ht : Spells t cs) (h : Lays ts rest) : Lays (t :: ts) (space ++ (cs ++ rest))

variable {t : Token} {ts us found : List Token} {space : List Char} {s s' : Scanner}

theorem isSpace_iff : isSpace c = true ↔ c ∈ [' ', '\t', '\n', '\r'] := by
  simp [isSpace, or_assoc]

theorem ofWord?_eq_some_iff :
    ofWord? cs = some t ↔ Spells t cs ∧ (t = .null ∨ ∃ b, t = .bool b) := by
  constructor
  · intro h
    unfold ofWord? at h
    have eq {word : String} (hw : String.ofList cs = word) : cs = word.toList := by
      rw [← hw, String.toList_ofList]
    split at h
    · next hw =>
      rw [eq hw, ← Option.some.inj h]
      exact ⟨.null, .inl rfl⟩
    · next hw =>
      rw [eq hw, ← Option.some.inj h]
      exact ⟨.true, .inr ⟨_, rfl⟩⟩
    · next hw =>
      rw [eq hw, ← Option.some.inj h]
      exact ⟨.false, .inr ⟨_, rfl⟩⟩
    · cases h
  · rintro ⟨h, rfl | ⟨b, rfl⟩⟩
    · cases h
      rfl
    · cases h <;> rfl

theorem ofNumber?_eq_some_iff :
    ofNumber? cs = some t ↔ Numeral cs ∧ t = .number (String.ofList cs) := by
  unfold ofNumber?
  by_cases h : Numeral cs
  · rw [if_pos (isNumber_iff.2 h)]
    simp [h, eq_comm]
  · rw [if_neg (h ∘ isNumber_iff.1)]
    simp [h]

theorem spells_string (h : Body ps cs) :
    Spells (.string ((textOf ps).map String.ofList)) ('"' :: (cs ++ ['"'])) := by
  refine .string h fun t => ?_
  rw [← textOf_eq_some_iff, Option.map_eq_some_iff]
  constructor
  · rintro ⟨ds, hds, rfl⟩
    rw [hds, String.toList_ofList]
  · intro ht
    exact ⟨_, ht, String.ofList_toList⟩

theorem Lays.append_space (h : Lays ts cs) (hs : Space ds) : Lays ts (cs ++ ds) := by
  induction h with
  | nil h =>
    refine .nil fun c hc => ?_
    exact (List.mem_append.1 hc).elim (h c) (hs c)
  | cons hs' ht h ih =>
    rw [List.append_assoc, List.append_assoc]
    exact .cons hs' ht ih

/-- Another token makes the text longer at its end. -/
theorem Lays.concat (h : Lays ts cs) (ht : Spells t ds) : Lays (ts ++ [t]) (cs ++ ds) := by
  induction h with
  | nil h =>
    have none : Space [] := nofun
    simpa using Lays.cons h ht (.nil none)
  | cons hs' ht' h ih =>
    rw [List.append_assoc, List.append_assoc]
    exact .cons hs' ht' ih

/-! ## What the scanner has taken

The scanner goes from left to right, so its tokens are known to make up the part of the text that it
has left behind, and its mode tells what the rest is the beginning of. Each character keeps this
(`Took.step`), and at the end there is no rest, or it is a token (`Took.finish`). -/

/-- What has been taken of a token that is not complete. -/
inductive Mode.Part : Mode → List Char → Prop
  | between : Part .between []
  | inWord (cs : List Char) : Part (.inWord cs) cs.reverse
  | inNumber (cs : List Char) : Part (.inNumber cs) cs.reverse
  | inString {ps : List Piece} {body : List Char} (h : Body ps.reverse body) :
      Part (.inString ps) ('"' :: body)
  | inEscape {ps : List Piece} {body : List Char} (h : Body ps.reverse body) :
      Part (.inEscape ps) ('"' :: (body ++ ['\\']))
  | inUnit {ps : List Piece} {body ds : List Char} {left value : Nat} (h : Body ps.reverse body)
      (hd : HexNumber ds value) (hl : ds.length + left = 4) (hpos : 1 ≤ left) :
      Part (.inUnit ps left value) ('"' :: (body ++ '\\' :: 'u' :: ds))

/-- What the scanner has taken: the tokens that it has found, and part of the next one. -/
def Scanner.Took (s : Scanner) (cs : List Char) : Prop :=
  ∃ before part, cs = before ++ part ∧ Lays s.found.reverse before ∧ s.mode.Part part

namespace Scanner

theorem took_of_lays (h : Lays found.reverse cs) : Took ⟨found, .between⟩ cs :=
  ⟨cs, [], (List.append_nil cs).symm, h, .between⟩

/-- A token that has been found stands behind those found before. -/
theorem lays_cons (h : Lays found.reverse cs) (ht : Spells t ds) :
    Lays (t :: found).reverse (cs ++ ds) := by
  rw [List.reverse_cons]
  exact h.concat ht

theorem Took.enter (h : Lays found.reverse cs) (hs : Scanner.enter found c = some s) :
    s.Took (cs ++ [c]) := by
  unfold Scanner.enter at hs
  split at hs
  · cases hs; exact took_of_lays <| lays_cons h .openArray
  · cases hs; exact took_of_lays <| lays_cons h .closeArray
  · cases hs; exact took_of_lays <| lays_cons h .openObject
  · cases hs; exact took_of_lays <| lays_cons h .closeObject
  · cases hs; exact took_of_lays <| lays_cons h .comma
  · cases hs; exact took_of_lays <| lays_cons h .colon
  · cases hs; exact ⟨cs, _, rfl, h, .inString .nil⟩
  · split at hs
    · next hc =>
      cases hs
      exact took_of_lays (h.append_space fun d hd => List.mem_singleton.1 hd ▸ isSpace_iff.1 hc)
    · split at hs
      · cases hs; exact ⟨cs, _, rfl, h, .inWord [c]⟩
      · split at hs
        · cases hs; exact ⟨cs, _, rfl, h, .inNumber [c]⟩
        · cases hs

section Inside

variable {before body : List Char}

/-- A character of a string ends it, begins an escape, or is a part by itself. -/
theorem took_inString (hb : Lays found.reverse before) (h : Body ps.reverse body)
    (hs : Scanner.step ⟨found, .inString ps⟩ c = some s) :
    s.Took (before ++ ('"' :: body ++ [c])) := by
  dsimp only [Scanner.step] at hs
  split at hs
  · next hq =>
    cases hs
    obtain rfl := beq_iff_eq.1 hq
    exact took_of_lays (lays_cons hb (spells_string h))
  split at hs
  · next hb' =>
    cases hs
    obtain rfl := beq_iff_eq.1 hb'
    exact ⟨before, _, rfl, hb, .inEscape h⟩
  split at hs
  · cases hs
  · next hq hb' hc =>
    cases hs
    have plain : (Piece.char c).Spells [c] :=
      .plain (by simpa using hq) (by simpa using hb') (Nat.le_of_not_lt hc)
    refine ⟨before, _, rfl, hb, .inString ?_⟩
    rw [List.reverse_cons]
    exact h.concat plain

/-- A character after a backslash is an escape with it, or begins one with four digits. -/
theorem took_inEscape (hb : Lays found.reverse before) (h : Body ps.reverse body)
    (hs : Scanner.step ⟨found, .inEscape ps⟩ c = some s) :
    s.Took (before ++ ('"' :: (body ++ ['\\']) ++ [c])) := by
  dsimp only [Scanner.step] at hs
  split at hs
  · next hu =>
    cases hs
    obtain rfl := beq_iff_eq.1 hu
    refine ⟨before, _, ?_, hb, .inUnit h .nil rfl (by decide)⟩
    simp
  · obtain ⟨d, hd, hs⟩ := Option.map_eq_some_iff.1 hs
    cases hs
    have escape := Piece.Spells.escape (ofEscape?_eq_some_iff.1 hd)
    refine ⟨before, '"' :: (body ++ ['\\', c]), by simp, hb, .inString ?_⟩
    rw [List.reverse_cons]
    exact h.concat escape

/-- The fourth digit completes a part of the string. -/
theorem took_inUnit {left value : Nat} (hb : Lays found.reverse before)
    (h : Body ps.reverse body) (hd : HexNumber ds value) (hl : ds.length + left = 4)
    (hpos : 1 ≤ left) (hs : Scanner.step ⟨found, .inUnit ps left value⟩ c = some s) :
    s.Took (before ++ ('"' :: (body ++ '\\' :: 'u' :: ds) ++ [c])) := by
  dsimp only [Scanner.step] at hs
  obtain ⟨d, hc, hs⟩ := Option.map_eq_some_iff.1 hs
  have number : HexNumber (ds ++ [c]) (value * 16 + d) :=
    .concat hd (hexDigit?_eq_some_iff.1 hc)
  have length : (ds ++ [c]).length = ds.length + 1 := by
    rw [List.length_append, List.length_singleton]
  split at hs
  · next hlast =>
    cases hs
    have four : (ds ++ [c]).length = 4 := by omega
    refine ⟨before, '"' :: (body ++ '\\' :: 'u' :: (ds ++ [c])), by simp, hb, .inString ?_⟩
    rw [List.reverse_cons]
    exact h.concat (spells_unit number four)
  · next hmore =>
    cases hs
    refine ⟨before, _, ?_, hb, .inUnit h number ?_ ?_⟩
    · simp
    · omega
    · omega

end Inside

/-- Whichever mode the scanner is in, the next character ends the token that it is in, or makes it
longer. -/
theorem Took.step (h : s.Took cs) (hs : s.step c = some s') : s'.Took (cs ++ [c]) := by
  obtain ⟨before, part, rfl, hb, hp⟩ := h
  obtain ⟨found, mode⟩ := s
  rw [List.append_assoc]
  cases hp with
  | between =>
    rw [List.nil_append]
    exact Took.enter hb hs
  | inWord letters =>
    dsimp only [Scanner.step] at hs
    split at hs
    · cases hs
      exact ⟨before, _, by rw [List.reverse_cons], hb, .inWord (c :: letters)⟩
    · -- The word has ended, and the character is the first of another token.
      obtain ⟨t, ht, hs⟩ := Option.bind_eq_some_iff.1 hs
      rw [← List.append_assoc]
      exact Took.enter (lays_cons hb (ofWord?_eq_some_iff.1 ht).1) hs
  | inNumber spelling =>
    dsimp only [Scanner.step] at hs
    split at hs
    · cases hs
      exact ⟨before, _, by rw [List.reverse_cons], hb, .inNumber (c :: spelling)⟩
    · obtain ⟨t, ht, hs⟩ := Option.bind_eq_some_iff.1 hs
      obtain ⟨numeral, rfl⟩ := ofNumber?_eq_some_iff.1 ht
      rw [← List.append_assoc]
      exact Took.enter (lays_cons hb (.number numeral)) hs
  -- Inside a string nothing else can begin.
  | inString h => exact took_inString hb h hs
  | inEscape h => exact took_inEscape hb h hs
  | inUnit h hd hl hpos => exact took_inUnit hb h hd hl hpos hs

theorem Took.finish (h : s.Took cs) (hs : s.finish = some ts) : Lays ts cs := by
  obtain ⟨before, part, rfl, hb, hp⟩ := h
  obtain ⟨found, mode⟩ := s
  cases hp with
  | between =>
    rw [List.append_nil]
    exact Option.some.inj hs ▸ hb
  | inWord letters =>
    obtain ⟨t, ht, rfl⟩ := Option.map_eq_some_iff.1 hs
    exact lays_cons hb (ofWord?_eq_some_iff.1 ht).1
  | inNumber spelling =>
    obtain ⟨t, ht, rfl⟩ := Option.map_eq_some_iff.1 hs
    obtain ⟨numeral, rfl⟩ := ofNumber?_eq_some_iff.1 ht
    exact lays_cons hb (.number numeral)
  | inString | inEscape | inUnit => cases hs

/-- The characters of a text keep what has been taken in step with the tokens found. -/
theorem Took.run (h : s.Took cs) (hs : ds.foldlM Scanner.step s = some s') :
    s'.Took (cs ++ ds) := by
  induction ds generalizing s cs with
  | nil =>
    rw [List.append_nil]
    exact Option.some.inj hs ▸ h
  | cons c ds ih =>
    obtain ⟨next, hnext, hs⟩ := Option.bind_eq_some_iff.1 hs
    rw [List.append_cons]
    exact ih (h.step hnext) hs

end Scanner

/-- The tokens that the scanner finds make up the text. -/
theorem lays_of_scan {text : String} (h : scan text = some ts) : Lays ts text.toList := by
  obtain ⟨s, hs, hf⟩ := Option.bind_eq_some_iff.1 h
  have start : Scanner.Took ⟨[], .between⟩ [] := Scanner.took_of_lays (.nil nofun)
  exact (start.run hs).finish hf

/-! ## What the scanner finds

In the other direction the scanner must not be led astray by what follows a token. A word or a
number ends only when a character comes that cannot go on with it, so the scanner is still inside
it when the next token begins (`Scanner.At`). -/

/-- Words and numbers, which have no end of their own. -/
def isLoose : Token → Bool
  | null | bool _ | number _ => true
  | _ => false

/-- Whether two tokens are told apart without white space between them. -/
def Apart (t u : Token) : Prop := ¬ (t.isLoose = true ∧ u.isLoose = true)

/-- Whether the scanner has taken certain tokens and nothing of another. It may have left the last
of them open. -/
inductive Scanner.At : Scanner → List Token → Bool → Prop
  | between (found : List Token) : At ⟨found, .between⟩ found false
  | word {found : List Token} {cs : List Char} {t : Token} (h : ofWord? cs.reverse = some t) :
      At ⟨found, .inWord cs⟩ (t :: found) true
  | number {found : List Token} {cs : List Char} {t : Token} (h : ofNumber? cs.reverse = some t) :
      At ⟨found, .inNumber cs⟩ (t :: found) true

namespace Scanner

variable {isOpen : Bool}

theorem At.finish (h : s.At found isOpen) : s.finish = some found.reverse := by
  cases h with
  | between => rfl
  | word h => simp [Scanner.finish, h]
  | number h => simp [Scanner.finish, h]

/-- A character that cannot go on with a word or a number is taken as if none were open. -/
theorem At.step (h : s.At found isOpen)
    (hc : isOpen = true → c.isAlpha = false ∧ isNumeric c = false) :
    s.step c = Scanner.enter found c := by
  cases h with
  | between => rfl
  | word h => simp [Scanner.step, hc rfl, h]
  | number h => simp [Scanner.step, hc rfl, h]

theorem At.skips (h : s.At found isOpen) (hs : Space space) :
    ∃ s' isOpen', space.foldlM Scanner.step s = some s' ∧ s'.At found isOpen' ∧
      (isOpen' = true → isOpen = true) := by
  induction space generalizing s isOpen with
  | nil => exact ⟨s, isOpen, rfl, h, id⟩
  | cons c space ih =>
    obtain ⟨hc, hs⟩ := List.forall_mem_cons.1 hs
    have blank : c.isAlpha = false ∧ isNumeric c = false ∧
        Scanner.enter found c = some ⟨found, .between⟩ := by
      simp only [List.mem_cons, List.not_mem_nil, or_false] at hc
      rcases hc with rfl | rfl | rfl | rfl <;> exact ⟨rfl, rfl, rfl⟩
    obtain ⟨s', isOpen', hfold, hat, himp⟩ := ih (.between found) hs
    refine ⟨s', isOpen', ?_, hat, fun ho => absurd (himp ho) (by simp)⟩
    rw [List.foldlM_cons, h.step fun _ => ⟨blank.1, blank.2.1⟩, blank.2.2]
    exact hfold

/-- No token is open where a word or a number begins. -/
theorem At.closed (h : s.At found isOpen) (ho : isOpen = true → False) : s = ⟨found, .between⟩ := by
  cases h with
  | between => rfl
  | word | number => exact (ho rfl).elim

theorem enter_of_numeral (hc : c = '-' ∨ c.isDigit = true) :
    Scanner.enter found c = some ⟨found, .inNumber [c]⟩ := by
  rcases hc with rfl | hc
  · rfl
  · obtain ⟨n, hl, hh, rfl⟩ := exists_digit hc
    interval_cases n <;> rfl

/-- A number goes on as long as its characters do. -/
theorem foldlM_number (hd : ∀ c ∈ ds, isNumeric c = true) (cs : List Char) :
    ds.foldlM Scanner.step ⟨found, .inNumber cs⟩ = some ⟨found, .inNumber (ds.reverse ++ cs)⟩ := by
  induction ds generalizing cs with
  | nil => rfl
  | cons c ds ih =>
    obtain ⟨hc, hd⟩ := List.forall_mem_cons.1 hd
    have step : Scanner.step ⟨found, .inNumber cs⟩ c = some ⟨found, .inNumber (c :: cs)⟩ := by
      simp [Scanner.step, hc]
    rw [List.foldlM_cons, step, List.reverse_cons, List.append_assoc]
    exact ih hd _

theorem foldlM_hex (h : HexNumber ds n) (hl : ds.length < 4) :
    ds.foldlM Scanner.step ⟨found, .inUnit ps 4 0⟩ =
      some ⟨found, .inUnit ps (4 - ds.length) n⟩ := by
  induction h with
  | nil => rfl
  | @concat ds n d c h hd ih =>
    rw [List.length_append, List.length_singleton] at hl ⊢
    rw [List.foldlM_append, ih (by omega)]
    have more : ¬ 4 - ds.length ≤ 1 := by omega
    simp only [Option.bind_eq_bind, Option.bind_some, List.foldlM_cons, Scanner.step,
      hexDigit?_eq_some_iff.2 hd, Option.map_some, if_neg more, List.foldlM_nil]
    rfl

/-- The part of a string that an escape with four digits stands for. -/
theorem foldlM_unit (h : HexNumber ds n) (hl : ds.length = 4) :
    ('\\' :: 'u' :: ds).foldlM Scanner.step ⟨found, .inString ps⟩ =
      some ⟨found, .inString (.ofUnit n :: ps)⟩ := by
  cases h with
  | nil => cases hl
  | @concat ds n d c h hd =>
    rw [List.length_append, List.length_singleton] at hl
    have three : ds.length = 3 := by omega
    have first : ds.foldlM Scanner.step ⟨found, .inUnit ps 4 0⟩ = some ⟨found, .inUnit ps 1 n⟩ := by
      rw [foldlM_hex h (by omega), three]
    show (ds ++ [c]).foldlM Scanner.step ⟨found, .inUnit ps 4 0⟩ = _
    rw [List.foldlM_append, first]
    simp [Scanner.step, hexDigit?_eq_some_iff.2 hd]

/-- A part of a string is found, with the scanner inside the string before and after it. -/
theorem foldlM_piece (h : p.Spells cs) :
    cs.foldlM Scanner.step ⟨found, .inString ps⟩ = some ⟨found, .inString (p :: ps)⟩ := by
  cases h with
  | plain hq hb h =>
    simp [Scanner.step, hq, hb, Nat.not_lt.2 h]
  | @escape e c h =>
    have he := ofEscape?_eq_some_iff.2 h
    have hu : e ≠ 'u' := by
      rintro rfl
      cases he
    show [e].foldlM Scanner.step ⟨found, .inEscape ps⟩ = _
    simp [Scanner.step, hu, he]
  | @unit ds n h hl hn =>
    have piece : Piece.ofUnit n = .char (Char.ofNat n) := if_neg (by simp; omega)
    rw [foldlM_unit h hl, piece]
  | @surrogate ds n h hl hn =>
    have piece : Piece.ofUnit n = .surrogate n := if_pos (by simpa using hn)
    rw [foldlM_unit h hl, piece]

theorem foldlM_body (h : Body qs cs) :
    cs.foldlM Scanner.step ⟨found, .inString ps⟩ =
      some ⟨found, .inString (qs.reverse ++ ps)⟩ := by
  induction h generalizing ps with
  | nil => rfl
  | cons hp h ih =>
    rw [List.foldlM_append, foldlM_piece hp, List.reverse_cons, List.append_assoc]
    exact ih

/-- The characters of a token are found as the token. -/
theorem At.token (h : s.At found isOpen) (ht : Spells t cs)
    (ho : isOpen = true → t.isLoose = false) :
    ∃ s', cs.foldlM Scanner.step s = some s' ∧ s'.At (t :: found) t.isLoose := by
  have single {c : Char} {t : Token} (hc : c.isAlpha = false ∧ isNumeric c = false)
      (he : Scanner.enter found c = some ⟨t :: found, .between⟩) :
      ∃ s', [c].foldlM Scanner.step s = some s' ∧ s'.At (t :: found) false := by
    refine ⟨_, ?_, .between _⟩
    rw [List.foldlM_cons, h.step fun _ => hc, he]
    rfl
  cases ht with
  | openArray | closeArray | openObject | closeObject | comma | colon =>
    exact single ⟨rfl, rfl⟩ rfl
  | null | true | false =>
    obtain rfl := h.closed fun hopen => absurd (ho hopen) (by decide)
    exact ⟨_, rfl, .word rfl⟩
  | number hn =>
    obtain rfl := h.closed fun hopen => by cases ho hopen
    obtain ⟨c, rest, rfl, hc⟩ := hn.exists_head
    have digits := (List.forall_mem_cons.1 hn.isNumeric).2
    refine ⟨⟨found, .inNumber (rest.reverse ++ [c])⟩, ?_, .number ?_⟩
    · rw [List.foldlM_cons]
      show (Scanner.enter found c).bind _ = _
      rw [enter_of_numeral hc]
      exact foldlM_number digits [c]
    · rw [← List.reverse_cons, List.reverse_reverse]
      exact ofNumber?_eq_some_iff.2 ⟨hn, rfl⟩
  | @string text ps body hb htext =>
    refine ⟨⟨.string text :: found, .between⟩, ?_, .between _⟩
    have value : (textOf ps).map String.ofList = text := by
      refine Option.ext fun t => ?_
      rw [htext t, ← textOf_eq_some_iff, Option.map_eq_some_iff]
      constructor
      · rintro ⟨ds, hds, rfl⟩
        rw [hds, String.toList_ofList]
      · exact fun ht => ⟨_, ht, String.ofList_toList⟩
    rw [List.foldlM_cons, h.step fun _ => ⟨rfl, rfl⟩]
    show (body ++ ['"']).foldlM Scanner.step ⟨found, .inString []⟩ = _
    rw [List.foldlM_append, foldlM_body hb, List.append_nil]
    simp [Scanner.step, value]

/-- Tokens that are apart are found one after the other. -/
theorem At.lays (h : s.At found isOpen) (ht : Lays ts cs) (ha : ts.IsChain Apart)
    (ho : ∀ t ∈ ts.head?, isOpen = true → t.isLoose = false) :
    ∃ s' isOpen', cs.foldlM Scanner.step s = some s' ∧ s'.At (ts.reverse ++ found) isOpen' := by
  induction ht generalizing s found isOpen with
  | nil hs =>
    obtain ⟨s', isOpen', hfold, hat, -⟩ := h.skips hs
    exact ⟨s', isOpen', hfold, hat⟩
  | @cons t ts space cs rest hs ht hrest ih =>
    obtain ⟨s₁, isOpen₁, hfold₁, hat₁, himp⟩ := h.skips hs
    obtain ⟨s₂, hfold₂, hat₂⟩ := hat₁.token ht fun hopen => ho t rfl (himp hopen)
    have next : ∀ u ∈ ts.head?, t.isLoose = true → u.isLoose = false := by
      intro u hu hloose
      obtain ⟨us, rfl⟩ := List.head?_eq_some_iff.1 hu
      have apart := (List.isChain_cons_cons.1 ha).1
      exact Bool.eq_false_iff.2 fun hu => apart ⟨hloose, hu⟩
    obtain ⟨s₃, isOpen₃, hfold₃, hat₃⟩ := ih hat₂ ha.tail next
    refine ⟨s₃, isOpen₃, ?_, ?_⟩
    · rw [List.foldlM_append, hfold₁]
      show (cs ++ rest).foldlM Scanner.step s₁ = _
      rw [List.foldlM_append, hfold₂]
      exact hfold₃
    · rw [List.reverse_cons, List.append_assoc]
      exact hat₃

end Scanner

/-- Tokens that are apart are found in every text that they make up. -/
theorem scan_of_lays {text : String} (h : Lays ts text.toList) (ha : ts.IsChain Apart) :
    scan text = some ts := by
  have start : Scanner.At ⟨[], .between⟩ [] false := .between []
  obtain ⟨s, isOpen, hfold, hat⟩ := start.lays h ha nofun
  rw [scan, hfold]
  show s.finish = _
  rw [hat.finish, List.append_nil, List.reverse_reverse]

end RemoteRecorder.Json.Token
