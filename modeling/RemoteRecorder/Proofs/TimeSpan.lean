import RemoteRecorder.Proofs.Text.Integer
import RemoteRecorder.Proofs.Text.Occurrence
import RemoteRecorder.TimeSpan

/-!
# RemoteRecorder.Proofs.TimeSpan

**Which texts are time spans.** White space alone is one, and so is an integer that is not negative
with white space and a unit after it, each of which may be missing (`Denotes`).

* Reading finds exactly the time spans that texts denote (`read?_eq_some_iff`).
* A time span is read back from the text that is sent for it (`read?_text`).
-/

namespace RemoteRecorder

theorem TimeUnit.ofText?_eq_some_iff {t : String} {u : TimeUnit} :
    ofText? t = some u ↔ t = u.text := by
  constructor
  · intro h
    have h : all.find? (fun unit => unit.text == t) = some u := h
    have found := List.find?_some h
    exact (beq_iff_eq.1 found).symm
  · rintro rfl
    exact ofText?_text u

namespace TimeSpan

open Text (isBlank takeWhile_append_of_head)
open Text.Integer (Natural Sign SignFree AreDigits Spells readNatural? readNatural?_eq_some_iff
  spells_repr)

/-- What is written for a unit, or for none. -/
def abbreviation (unit : Option TimeUnit) : List Char := unit.elim [] fun u => u.text.toList

/-- Which time span a text denotes. The number in it is a count, so it is not negative and less than
the 63rd power of two. -/
inductive Denotes : List Char → TimeSpan → Prop
  | blank {raw : List Char} (h : ∀ c ∈ raw, isBlank c = true) : Denotes raw zero
  | counted {number space : List Char} {count : Natural} {unit : Option TimeUnit}
      (hn : Spells number count) (hs : ∀ c ∈ space, isBlank c = true) :
      Denotes (number ++ (space ++ abbreviation unit)) ⟨count, unit⟩

/-! ## The parts of a text

A text may denote a time span in one way only: its number has to end with the longest run of digits,
because white space or a unit begins with no digit. The class of digits is left open here, since a
pattern may count more characters to it than ten, and the number ends at the same place all the
same. -/

/-- No digit is white space. -/
theorem isBlank_of_isDigit {c : Char} (h : c.isDigit = true) : isBlank c = false := by
  have digit : 48 ≤ c.toNat ∧ c.toNat ≤ 57 := by
    simpa [Char.isDigit, UInt32.le_iff_toNat_le] using h
  simp [isBlank]
  omega

theorem toNat_of_isAlpha {c : Char} (h : c.isAlpha = true) :
    (65 ≤ c.toNat ∧ c.toNat ≤ 90) ∨ (97 ≤ c.toNat ∧ c.toNat ≤ 122) := by
  have h : (decide (c.val ≥ 65 ∧ c.val ≤ 90) ||
      decide (c.val ≥ 97) && decide (c.val ≤ 122)) = true := h
  simpa [UInt32.le_iff_toNat_le] using h

theorem isBlank_of_isAlpha {c : Char} (h : c.isAlpha = true) : isBlank c = false := by
  have letter := toNat_of_isAlpha h
  simp [isBlank]
  omega

/-- A class of characters that are taken for digits. There may be others among them than the ten
ASCII digits, but no white space and no ASCII letter. -/
structure DigitLike (p : Char → Bool) : Prop where
  digit : ∀ c, c.isDigit = true → p c = true
  blank : ∀ c, isBlank c = true → p c = false
  alpha : ∀ c, c.isAlpha = true → p c = false

theorem digitLike_isDigit : DigitLike Char.isDigit where
  digit _ := id
  blank c h := by
    cases hd : c.isDigit with
    | false => rfl
    | true => rw [isBlank_of_isDigit hd] at h; exact h.symm
  alpha c h := by
    have letter := toNat_of_isAlpha h
    refine Bool.eq_false_iff.2 ?_
    intro hd
    have digit : 48 ≤ c.toNat ∧ c.toNat ≤ 57 := by
      simpa [Char.isDigit, UInt32.le_iff_toNat_le] using hd
    omega

theorem isAlpha_of_mem_abbreviation (unit : Option TimeUnit) :
    ∀ c ∈ abbreviation unit, c.isAlpha = true := by
  cases unit with
  | none => exact nofun
  | some u => cases u <;> exact List.all_eq_true.1 rfl

variable {sign : Sign} {p : Char → Bool} {cs ds digits space : List Char}

/-- Digits, white space and a unit fall apart again, for whichever class of characters the digits
are taken. -/
theorem parts_of_counted (unit : Option TimeUnit) (hp : DigitLike p)
    (hd : ∀ c ∈ digits, c.isDigit = true) (hs : ∀ c ∈ space, isBlank c = true) :
    (digits ++ (space ++ abbreviation unit)).takeWhile p = digits ∧
      ((digits ++ (space ++ abbreviation unit)).dropWhile p).dropWhile isBlank =
        abbreviation unit := by
  have head : ∀ c ∈ (space ++ abbreviation unit).head?, p c = false := by
    intro c hc
    rcases List.mem_append.1 (List.mem_of_mem_head? hc) with h | h
    · exact hp.blank c (hs c h)
    · exact hp.alpha c (isAlpha_of_mem_abbreviation unit c h)
  obtain ⟨htake, hdrop⟩ := takeWhile_append_of_head (fun c h => hp.digit c (hd c h)) head
  refine ⟨htake, ?_⟩
  rw [hdrop]
  refine (takeWhile_append_of_head hs ?_).2
  intro c hc
  exact isBlank_of_isAlpha (isAlpha_of_mem_abbreviation unit c (List.mem_of_mem_head? hc))

/-- Every text begins with a sign or with none. -/
theorem exists_sign (cs : List Char) :
    ∃ (sign : Sign) (tail : List Char),
      cs = sign.chars ++ tail ∧ (sign = .absent → SignFree tail) := by
  by_cases hp : ∃ tail, cs = '+' :: tail
  · obtain ⟨tail, rfl⟩ := hp
    exact ⟨.plus, tail, rfl, nofun⟩
  · by_cases hm : ∃ tail, cs = '-' :: tail
    · obtain ⟨tail, rfl⟩ := hm
      exact ⟨.minus, tail, rfl, nofun⟩
    · exact ⟨.absent, cs, rfl, fun _ rest => ⟨fun h => hp ⟨rest, h⟩, fun h => hm ⟨rest, h⟩⟩⟩

/-- The number that is split off is a sign, if there is one, and the longest run of digits. -/
theorem splitNumber_eq (h : sign = .absent → SignFree cs) :
    splitNumber (sign.chars ++ cs) =
      (sign.chars ++ cs.takeWhile Char.isDigit, cs.dropWhile Char.isDigit) := by
  cases sign with
  | plus | minus => rfl
  | absent =>
    have free : SignFree cs := h rfl
    show splitNumber cs = (cs.takeWhile Char.isDigit, cs.dropWhile Char.isDigit)
    unfold splitNumber
    split
    · exact ((free _).1 rfl).elim
    · exact ((free _).2 rfl).elim
    · rfl

theorem signFree_append (h : AreDigits digits) (cs : List Char) : SignFree (digits ++ cs) := by
  intro rest
  cases digits with
  | nil => exact (h.1 rfl).elim
  | cons d digits =>
    refine ⟨fun heq => ?_, fun heq => ?_⟩
    · exact (h.signFree digits).1 (congrArg (· :: digits) (List.cons.inj heq).1)
    · exact (h.signFree digits).2 (congrArg (· :: digits) (List.cons.inj heq).1)

theorem signFree_of_append (h : SignFree (cs ++ ds)) : SignFree cs := by
  intro rest
  refine ⟨?_, ?_⟩ <;> rintro rfl
  · exact (h (rest ++ ds)).1 rfl
  · exact (h (rest ++ ds)).2 rfl

/-- A text that spells an integer is not blank. -/
theorem exists_not_blank_of_spells {z : Int} (h : Spells cs z) : ∃ c ∈ cs, isBlank c = false := by
  cases h with
  | signed sign h =>
    obtain ⟨d, hd⟩ := List.exists_mem_of_ne_nil _ h.1
    exact ⟨d, List.mem_append_right _ hd, isBlank_of_isDigit (h.2 d hd)⟩

/-- White space denotes no limit. -/
theorem denotes_blank_iff {raw : List Char} {t : TimeSpan} (h : ∀ c ∈ raw, isBlank c = true) :
    Denotes raw t ↔ t = zero := by
  refine ⟨fun hden => ?_, fun ht => ht ▸ .blank h⟩
  cases hden with
  | blank => rfl
  | counted hn =>
    obtain ⟨c, hc, hb⟩ := exists_not_blank_of_spells hn
    exact absurd (h c (List.mem_append_left _ hc)) (by simp [hb])

/-- A text that is not blank denotes the time span that its parts say: the sign and the longest run
of digits, and what follows the white space after them. -/
theorem denotes_signed_iff {t : TimeSpan} (hp : DigitLike p)
    (hfree : sign = .absent → SignFree cs) (h : ¬ ∀ c ∈ sign.chars ++ cs, isBlank c = true) :
    Denotes (sign.chars ++ cs) t ↔
      Spells (sign.chars ++ cs.takeWhile p) t.count ∧
        (cs.dropWhile p).dropWhile isBlank = abbreviation t.unit := by
  constructor
  · intro hden
    generalize hraw : sign.chars ++ cs = raw at hden h
    cases hden with
    | blank hb => exact (h hb).elim
    | @counted number space count unit hn hs =>
      generalize hz : (count : Int) = z at hn
      cases hn with
      | @signed other digits hd =>
        rw [List.append_assoc] at hraw
        -- Both ways to take the text apart have the same sign, and then the same digits.
        obtain ⟨rfl, rfl⟩ := Sign.append_inj hraw hfree fun _ => signFree_append hd _
        obtain ⟨htake, hdrop⟩ := parts_of_counted unit hp hd.2 hs
        rw [htake, hdrop]
        exact ⟨hz ▸ .signed sign hd, rfl⟩
  · rintro ⟨hn, hunit⟩
    have parts : sign.chars ++ cs = (sign.chars ++ cs.takeWhile p) ++
        ((cs.dropWhile p).takeWhile isBlank ++ abbreviation t.unit) := by
      rw [← hunit, List.takeWhile_append_dropWhile, List.append_assoc,
        List.takeWhile_append_dropWhile]
    rw [parts]
    exact .counted hn (List.all_eq_true.1 List.all_takeWhile)

/-! ## Reading a number and a unit

The count and the unit are read apart from each other, and each may fail. What is read is a time
span that the text denotes because nothing is left over of the text. -/

/-- Puts a count together with the unit that a text stands for. -/
def withUnit? (count : Natural) : List Char → Option TimeSpan
  | [] => some ⟨count, none⟩
  | unit => (TimeUnit.ofText? (String.ofList unit)).map fun u => ⟨count, some u⟩

theorem withUnit?_eq_some_iff {count : Natural} {t : TimeSpan} :
    withUnit? count cs = some t ↔ t.count = count ∧ cs = abbreviation t.unit := by
  obtain ⟨n, unit⟩ := t
  cases cs with
  | nil =>
    cases unit with
    | none => simp [withUnit?, abbreviation, eq_comm]
    | some u => cases u <;> simp [withUnit?, abbreviation, TimeUnit.text]
  | cons c cs =>
    have read : withUnit? count (c :: cs) = (TimeUnit.ofText? (String.ofList (c :: cs))).map
        fun u => ⟨count, some u⟩ := rfl
    rw [read, Option.map_eq_some_iff]
    constructor
    · rintro ⟨u, hu, heq⟩
      cases heq
      have text := TimeUnit.ofText?_eq_some_iff.1 hu
      exact ⟨rfl, by rw [← String.toList_ofList (l := c :: cs), text]; rfl⟩
    · rintro ⟨rfl, hunit⟩
      cases unit with
      | none => cases hunit
      | some u =>
        have text : String.ofList (c :: cs) = u.text := hunit ▸ String.ofList_toList
        exact ⟨u, TimeUnit.ofText?_eq_some_iff.2 text, rfl⟩

/-- Reads a number and a unit. -/
def ofParts? (number unit : List Char) : Option TimeSpan :=
  (readNatural? number).bind fun count => withUnit? count unit

/-- A number and a unit are read if the one spells a count and the other is an abbreviation. -/
theorem ofParts?_eq_some_iff {number unit : List Char} {t : TimeSpan} :
    ofParts? number unit = some t ↔ Spells number t.count ∧ unit = abbreviation t.unit := by
  simp only [ofParts?, Option.bind_eq_some_iff, readNatural?_eq_some_iff, withUnit?_eq_some_iff]
  constructor
  · rintro ⟨count, hn, rfl, hu⟩
    exact ⟨hn, hu⟩
  · rintro ⟨hn, hu⟩
    exact ⟨t.count, hn, rfl, hu⟩

theorem read?_eq (raw : String) :
    read? raw = if Text.allBlank raw then some zero else
      ofParts? (splitNumber raw.toList).1 ((splitNumber raw.toList).2.dropWhile isBlank) := by
  unfold read? ofParts? readNatural?
  split
  · rfl
  · generalize splitNumber raw.toList = parts
    obtain ⟨number, rest⟩ := parts
    dsimp only
    generalize (Text.Integer.readChars number).toOption = value
    cases value with
    | none => rfl
    | some v =>
      generalize hn : Text.Integer.natural? v = count
      cases count with
      | none => simp [hn]
      | some n =>
        simp only [hn, Option.bind_eq_bind, Option.bind_some]
        generalize rest.dropWhile isBlank = unit
        cases unit with
        | nil => rfl
        | cons c cs =>
          generalize hu : TimeUnit.ofText? (String.ofList (c :: cs)) = u
          cases u <;> simp only [withUnit?, hu] <;> rfl

/-- A text is read as the time span that it denotes. -/
theorem read?_eq_some_iff {raw : String} {t : TimeSpan} :
    read? raw = some t ↔ Denotes raw.toList t := by
  rw [read?_eq]
  split
  · next h =>
    rw [denotes_blank_iff (by simpa [Text.allBlank] using h), Option.some.injEq, eq_comm]
  · next h =>
    obtain ⟨sign, cs, hraw, hfree⟩ := exists_sign raw.toList
    have hb : ¬ ∀ c ∈ sign.chars ++ cs, isBlank c = true := by
      rw [← hraw]
      simpa [Text.allBlank] using h
    rw [hraw, splitNumber_eq hfree, ofParts?_eq_some_iff,
      denotes_signed_iff digitLike_isDigit hfree hb]

/-- What is written for a time span: its count, and what is written for its unit. -/
theorem text_eq (t : TimeSpan) :
    t.text = toString (t.count : Nat) ++ t.unit.elim "" fun u => " " ++ u.text := by
  obtain ⟨n, unit⟩ := t
  cases unit with
  | none => exact String.append_empty.symm
  | some u => exact String.append_assoc

theorem toList_text (t : TimeSpan) : t.text.toList =
    (t.count : Nat).repr.toList ++ ((t.unit.elim [] fun _ => [' ']) ++ abbreviation t.unit) := by
  rw [text_eq, String.toList_append]
  cases t.unit with
  | none => rfl
  | some u => simp [abbreviation]

/-- A time span is read back from its text. -/
theorem read?_text (t : TimeSpan) : read? t.text = some t := by
  rw [read?_eq_some_iff, toList_text]
  refine .counted (spells_repr _) ?_
  cases t.unit with
  | none => exact nofun
  | some u => simp +decide

end TimeSpan

end RemoteRecorder
