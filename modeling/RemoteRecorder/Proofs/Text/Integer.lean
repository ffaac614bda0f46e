import Mathlib.Algebra.Group.Nat.Defs
import RemoteRecorder.Text.Integer

/-!
# RemoteRecorder.Proofs.Text.Integer

**Which texts are integers.** A text spells an integer if it is an optional sign and one or more
ASCII digits (`Spells`).

* Reading finds exactly the spelled integers that 64 bits can hold (`readChars_eq_ok_iff`). Of those
  `natural?` keeps the ones that are not negative (`readNatural?_eq_some_iff`).
* An integer written in decimal spells itself (`spells_toString`), so it is read back.
* A natural number written with a width has as many digits if they are enough (`length_digits`), and
  its value is the number (`ofDigitChars_digits`).
-/

namespace RemoteRecorder.Text.Integer

/-! ## Spelling

The grammar is the one of the documentation: a sign may stand in front, plus or minus, and leading
zeros are allowed. It knows nothing of the size of a number, so a text may spell an integer that no
64 bits can hold. -/

/-- One or more ASCII digits. -/
def AreDigits (cs : List Char) : Prop := cs ≠ [] ∧ ∀ c ∈ cs, c.isDigit = true

/-- What may stand in front of digits. -/
inductive Sign where
  | absent
  | plus
  | minus

/-- A sign as it is written. -/
def Sign.chars : Sign → List Char
  | absent => []
  | plus => ['+']
  | minus => ['-']

/-- A number with a sign in front. -/
def Sign.apply : Sign → Nat → Int
  | absent, n | plus, n => n
  | minus, n => -n

/-- Whether a text spells an integer. -/
inductive Spells : List Char → Int → Prop
  | signed (sign : Sign) {digits : List Char} (h : AreDigits digits) :
      Spells (sign.chars ++ digits) (sign.apply (Nat.ofDigitChars 10 digits 0))

theorem Spells.ne_nil {cs : List Char} {z : Int} (h : Spells cs z) : cs ≠ [] := by
  cases h with
  | signed sign h => simp [h.1]

/-- The characters of an integer are signs and digits. -/
theorem Spells.char {cs : List Char} {z : Int} (h : Spells cs z) {c : Char} (hc : c ∈ cs) :
    c = '+' ∨ c = '-' ∨ c.isDigit = true := by
  cases h with
  | signed sign h =>
    rcases List.mem_append.1 hc with hs | hd
    · cases sign with
      | absent => cases hs
      | plus => exact .inl (List.mem_singleton.1 hs)
      | minus => exact .inr (.inl (List.mem_singleton.1 hs))
    · exact .inr (.inr (h.2 c hd))

/-- Whether a text does not begin with a sign. -/
def SignFree (cs : List Char) : Prop := ∀ rest, cs ≠ '+' :: rest ∧ cs ≠ '-' :: rest

theorem signFree_of_head {cs : List Char} (h : ∀ c ∈ cs.head?, c ≠ '+' ∧ c ≠ '-') :
    SignFree cs := by
  intro rest
  refine ⟨?_, ?_⟩ <;> rintro rfl
  · exact (h _ rfl).1 rfl
  · exact (h _ rfl).2 rfl

theorem AreDigits.signFree {cs : List Char} (h : AreDigits cs) : SignFree cs := by
  refine signFree_of_head fun c hc => ?_
  have hd := h.2 c (List.mem_of_mem_head? hc)
  refine ⟨?_, ?_⟩ <;> rintro rfl <;> cases hd

/-- A text begins with one sign, or with none. -/
theorem Sign.append_inj {s t : Sign} {cs ds : List Char} (h : s.chars ++ cs = t.chars ++ ds)
    (hs : s = .absent → SignFree cs) (ht : t = .absent → SignFree ds) : s = t ∧ cs = ds := by
  cases s with
  | absent =>
    cases t with
    | absent => exact ⟨rfl, h⟩
    | plus => exact ((hs rfl ds).1 h).elim
    | minus => exact ((hs rfl ds).2 h).elim
  | plus =>
    cases t with
    | absent => exact ((ht rfl cs).1 h.symm).elim
    | plus => exact ⟨rfl, (List.cons.inj h).2⟩
    | minus => exact absurd (List.cons.inj h).1 (by decide)
  | minus =>
    cases t with
    | absent => exact ((ht rfl cs).2 h.symm).elim
    | plus => exact absurd (List.cons.inj h).1 (by decide)
    | minus => exact ⟨rfl, (List.cons.inj h).2⟩

/-- A sign is what a text begins with, if it does. -/
theorem spells_signed_iff {sign : Sign} {cs : List Char} {z : Int}
    (h : sign = .absent → SignFree cs) :
    Spells (sign.chars ++ cs) z ↔ AreDigits cs ∧ sign.apply (Nat.ofDigitChars 10 cs 0) = z := by
  refine ⟨fun hs => ?_, fun ⟨hd, hz⟩ => hz ▸ .signed sign hd⟩
  generalize ht : sign.chars ++ cs = text at hs
  cases hs with
  | signed other hd =>
    obtain ⟨rfl, rfl⟩ := Sign.append_inj ht h fun _ => hd.signFree
    exact ⟨hd, rfl⟩

/-! ## Reading

Digits are taken one by one, and the reader stops as soon as the number is too large. Since the
digits that come make a number no smaller, it would be too large at the end as well. The limit
depends on the sign, by one. -/

section Reading

variable {limit acc n : Nat} {overflow : Invalid} {cs : List Char}

theorem digit?_of_isDigit {c : Char} (h : c.isDigit = true) :
    digit? c = some (c.toNat - '0'.toNat) := if_pos h

theorem digit?_eq_none_iff {c : Char} : digit? c = none ↔ c.isDigit = false := by
  simp [digit?]

/-- More digits make a number no smaller. -/
theorem le_ofDigitChars (cs : List Char) (acc : Nat) : acc ≤ Nat.ofDigitChars 10 cs acc := by
  induction cs generalizing acc with
  | nil => exact Nat.le_refl _
  | cons c cs ih =>
    rw [Nat.ofDigitChars_cons]
    exact Nat.le_trans (by omega) (ih _)

/-- The digits that have been taken are in the accumulator, which is within the limit. -/
theorem magnitude_eq_ok_iff (h : acc ≤ limit) :
    magnitude limit overflow acc cs = .ok n ↔
      (∀ c ∈ cs, c.isDigit = true) ∧ Nat.ofDigitChars 10 cs acc = n ∧ n ≤ limit := by
  induction cs generalizing acc with
  | nil =>
    simp only [magnitude, Except.ok.injEq, List.not_mem_nil, false_implies, implies_true, true_and,
      Nat.ofDigitChars_nil]
    constructor
    · rintro rfl
      exact ⟨rfl, h⟩
    · exact And.left
  | cons c cs ih =>
    rw [List.forall_mem_cons, Nat.ofDigitChars_cons, magnitude]
    cases hc : c.isDigit with
    | false => simp [digit?_eq_none_iff.2 hc]
    | true =>
      simp only [digit?_of_isDigit hc, true_and, Nat.mul_comm acc 10]
      split
      · next hle => exact ih hle
      · next hgt =>
        -- The number has grown above the limit already.
        have := le_ofDigitChars cs (10 * acc + (c.toNat - '0'.toNat))
        constructor
        · nofun
        · rintro ⟨-, rfl, hle⟩
          exact absurd (Nat.le_trans this hle) hgt

theorem unsigned_eq_ok_iff :
    unsigned limit overflow cs = .ok n ↔
      AreDigits cs ∧ Nat.ofDigitChars 10 cs 0 = n ∧ n ≤ limit := by
  cases cs with
  | nil => simp [unsigned, AreDigits]
  | cons c cs => simp [unsigned, AreDigits, magnitude_eq_ok_iff]

end Reading

/-- Digits are read up to a limit. If it is that of 64 bits under a certain sign, the integer is
read that the sign and the digits spell. -/
theorem signed_eq_ok_iff (sign : Sign) {limit : Nat} {overflow : Invalid} {cs : List Char}
    {v : Int64}
    (hl : ∀ n, n ≤ limit ↔ -(bound : Int) ≤ sign.apply n ∧ sign.apply n < bound)
    (h : sign = .absent → SignFree cs) :
    (unsigned limit overflow cs).map (fun n => Int64.ofInt (sign.apply n)) = .ok v ↔
      Spells (sign.chars ++ cs) v.toInt := by
  have map_ok (x : Except Invalid Nat) :
      x.map (fun n => Int64.ofInt (sign.apply n)) = .ok v ↔
        ∃ n, x = .ok n ∧ Int64.ofInt (sign.apply n) = v := by
    cases x <;> simp [Except.map]
  rw [map_ok, spells_signed_iff h]
  constructor
  · rintro ⟨n, hn, rfl⟩
    obtain ⟨hd, rfl, hle⟩ := unsigned_eq_ok_iff.1 hn
    obtain ⟨hlow, hhigh⟩ := (hl _).1 hle
    exact ⟨hd, (Int64.toInt_ofInt_of_le hlow hhigh).symm⟩
  · rintro ⟨hd, hv⟩
    have range : -(bound : Int) ≤ v.toInt ∧ v.toInt < bound := ⟨v.le_toInt, v.toInt_lt⟩
    rw [← hv] at range
    refine ⟨_, unsigned_eq_ok_iff.2 ⟨hd, rfl, (hl _).2 range⟩, ?_⟩
    rw [hv, Int64.ofInt_toInt]

/-- A text is read as an integer of 64 bits exactly if it spells that integer. -/
theorem readChars_eq_ok_iff {cs : List Char} {v : Int64} :
    readChars cs = .ok v ↔ Spells cs v.toInt := by
  -- There is one more negative integer than there are positive ones.
  have atMost (n : Nat) :
      n ≤ bound - 1 ↔ -(bound : Int) ≤ Sign.absent.apply n ∧ Sign.absent.apply n < bound := by
    simp only [Sign.apply, bound]
    omega
  have atLeast (n : Nat) :
      n ≤ bound ↔ -(bound : Int) ≤ Sign.minus.apply n ∧ Sign.minus.apply n < bound := by
    simp only [Sign.apply, bound]
    omega
  have mapped (x : Except Invalid Nat) (f : Int → Int64) :
      Except.map f (do return ((← x : Nat) : Int)) = x.map fun n : Nat => f n := by
    cases x <;> rfl
  unfold readChars
  split
  · simp only [reduceCtorEq, false_iff]
    exact fun h => h.ne_nil rfl
  · rw [mapped]
    exact signed_eq_ok_iff .minus atLeast nofun
  · rw [mapped]
    exact signed_eq_ok_iff .plus atMost nofun
  · next hminus hplus =>
    rw [mapped]
    exact signed_eq_ok_iff .absent atMost fun _ rest => ⟨hplus rest, hminus rest⟩

/-- An integer that is not negative is kept as it is. -/
theorem natural?_eq_some_iff {v : Int64} {n : Natural} : natural? v = some n ↔ v.toInt = n := by
  unfold natural?
  split
  · next h =>
    rw [Option.some.injEq, Fin.ext_iff]
    exact ⟨fun hn => by rw [← hn]; exact (Int.toNat_of_nonneg h).symm, fun hn => by simp [hn]⟩
  · next h =>
    simp only [reduceCtorEq, false_iff]
    intro hn
    exact h (hn ▸ Int.natCast_nonneg _)

/-- Reads an integer that is not negative. -/
def readNatural? (cs : List Char) : Option Natural := do
  natural? (← (readChars cs).toOption)

/-- Of the integers those are read that are not negative. -/
theorem readNatural?_eq_some_iff {cs : List Char} {n : Natural} :
    readNatural? cs = some n ↔ Spells cs n := by
  unfold readNatural?
  constructor
  · intro h
    obtain ⟨v, hv, hn⟩ := Option.bind_eq_some_iff.1 h
    have read : readChars cs = .ok v := by
      cases hr : readChars cs <;> simp_all [Except.toOption]
    exact natural?_eq_some_iff.1 hn ▸ readChars_eq_ok_iff.1 read
  · intro h
    have small : (n : Nat) < 0x8000000000000000 := n.isLt
    have hn : (Int64.ofInt n).toInt = n := Int64.toInt_ofInt_of_le (by omega) (by omega)
    have read : readChars cs = .ok (Int64.ofInt n) := readChars_eq_ok_iff.2 (by rwa [hn])
    rw [read]
    exact natural?_eq_some_iff.2 hn

/-! ## Writing

Integers are written without a plus sign and without leading zeros, which is one of the ways to
spell them. -/

/-- A natural number in decimal is digits, and they spell it. -/
theorem areDigits_repr (n : Nat) : AreDigits n.repr.toList := by
  rw [Nat.toList_repr]
  exact ⟨Nat.toDigits_ne_nil, fun c hc => Nat.isDigit_of_mem_toDigits (by decide) (by decide) hc⟩

theorem spells_repr (n : Nat) : Spells n.repr.toList n := by
  have h : Spells n.repr.toList (Nat.ofDigitChars 10 n.repr.toList 0) :=
    .signed .absent (areDigits_repr n)
  rwa [Nat.toList_repr, Nat.ofDigitChars_toDigits (by decide) (by decide), ← Nat.toList_repr] at h

/-- An integer in decimal spells itself. -/
theorem spells_toString (z : Int) : Spells (toString z).toList z := by
  cases z with
  | ofNat n => exact spells_repr n
  | negSucc n =>
    have h : Spells ('-' :: n.succ.repr.toList) (-(Nat.ofDigitChars 10 n.succ.repr.toList 0)) :=
      .signed .minus (areDigits_repr n.succ)
    rw [Nat.toList_repr, Nat.ofDigitChars_toDigits (by decide) (by decide), ← Nat.toList_repr] at h
    have text : (toString (Int.negSucc n)).toList = '-' :: n.succ.repr.toList := by
      show ("-" ++ n.succ.repr).toList = _
      rw [String.toList_append]
      rfl
    rw [text]
    exact h

/-! ## Writing with a width

Zeros fill a number up to its width. They are the only difference to the number as it is written
otherwise. -/

theorem toList_digits (width n : Nat) :
    (digits width n).toList = List.replicate (width - n.repr.length) '0' ++ n.repr.toList := by
  simp [digits]

theorem areDigits_digits (width n : Nat) : AreDigits (digits width n).toList := by
  obtain ⟨hne, hd⟩ := areDigits_repr n
  rw [toList_digits]
  refine ⟨List.append_ne_nil_of_right_ne_nil _ hne, ?_⟩
  intro c hc
  rcases List.mem_append.1 hc with hz | hc
  · rw [List.eq_of_mem_replicate hz]
    rfl
  · exact hd c hc

/-- Zeros in front of a number change nothing. -/
theorem ofDigitChars_digits (width n : Nat) :
    Nat.ofDigitChars 10 (digits width n).toList 0 = n := by
  have zeros (k : Nat) : Nat.ofDigitChars 10 (List.replicate k '0') 0 = 0 := by
    induction k with
    | zero => rfl
    | succ k ih =>
      rw [List.replicate_succ, Nat.ofDigitChars_cons]
      exact ih
  rw [toList_digits, Nat.ofDigitChars_append, zeros, Nat.toList_repr,
    Nat.ofDigitChars_toDigits (by decide) (by decide)]

/-- A number that is not too large takes exactly the width. -/
theorem length_digits {width n : Nat} (hw : 0 < width) (h : n < 10 ^ width) :
    (digits width n).toList.length = width := by
  have short : n.repr.length ≤ width := by
    rw [← String.length_toList, Nat.toList_repr]
    exact (Nat.length_toDigits_le_iff (by decide) hw).2 h
  rw [toList_digits, List.length_append, List.length_replicate, String.length_toList]
  omega

/-- A larger number takes more than the width. -/
theorem lt_length_digits {width n : Nat} (hw : 0 < width) (h : 10 ^ width ≤ n) :
    width < (digits width n).toList.length := by
  have long : width < n.repr.length := by
    rw [← String.length_toList, Nat.toList_repr]
    refine Nat.lt_of_not_le fun hle => ?_
    exact Nat.not_lt.2 h ((Nat.length_toDigits_le_iff (by decide) hw).1 hle)
  rw [toList_digits, List.length_append, String.length_toList]
  omega

end RemoteRecorder.Text.Integer
