import RemoteRecorder.Proofs.Instant.Calendar
import RemoteRecorder.Proofs.Text.Integer
import RemoteRecorder.Text.Split

/-!
# RemoteRecorder.Proofs.Instant.Reading

**Reading an instant** from a date and a time of day in UTC, such as `2024-03-01T12:00:01.500Z`.

* `Instant.ofText?` takes a text apart at its separators, and refuses what is no date of the
  calendar or no time of a day. A minute may have a second 60, the leap second.
* An instant is read from the text that is written for it, to the nanosecond (`ofText?_text`): each
  part of the text is digits, and so holds none of the separators.
-/

namespace RemoteRecorder

open Text (cut? cut?_eq_some_iff cut?_eq_none_iff)
open Text.Integer

/-! ## Numbers of a certain width

In an instant all numbers have a width and are filled up with zeros. A number that is too large for
its width takes more digits, and this is told by their count. -/

/-- Reads digits, as many as there should be. -/
def readDigits? (width : Nat) (cs : List Char) : Option Nat :=
  if cs.length = width ∧ cs.all Char.isDigit = true then some (Nat.ofDigitChars 10 cs 0) else none

theorem readDigits?_digits {width n : Nat} {count : Nat}
    (h : (digits width n).toList.length = count) :
    readDigits? count (digits width n).toList = some n := by
  have all := List.all_eq_true.2 (areDigits_digits width n).2
  rw [readDigits?, if_pos ⟨h, all⟩, ofDigitChars_digits]

/-- Digits hold no separator. -/
theorem not_mem_digits {c : Char} (h : c.isDigit = false) (width n : Nat) :
    c ∉ (digits width n).toList := by
  intro hc
  rw [(areDigits_digits width n).2 c hc] at h
  cases h

/-- A text is cut where a separator stands for the first time. -/
theorem cut?_append {sep : Char} {before : List Char} (h : sep ∉ before) (after : List Char) :
    cut? sep (before ++ sep :: after) = some (before, after) :=
  cut?_eq_some_iff.2 ⟨rfl, h⟩

/-! ## Dates

Only the calendar decides what a date is: after the numbers have been read, the day is looked up in
its month. -/

namespace CivilDate

/-- Reads a year: four digits, or a plus sign and more than four. -/
def readYear? : List Char → Option Nat
  | '+' :: cs => if 4 < cs.length then readDigits? cs.length cs else none
  | cs => readDigits? 4 cs

/-- Reads a date of the calendar: year, month and day. -/
def ofChars? (cs : List Char) : Option CivilDate := do
  let (year, rest) ← cut? '-' cs
  let (month, day) ← cut? '-' rest
  let date : CivilDate := ⟨← readYear? year, ← readDigits? 2 month, ← readDigits? 2 day⟩
  if date.IsDay then some date else none

variable {d : CivilDate}

/-- A year as it is written in a date. -/
def yearChars (year : Nat) : List Char :=
  if 9999 < year then '+' :: (digits 4 year).toList else (digits 4 year).toList

/-- A year is read back, also one with more than four digits. -/
theorem readYear?_yearChars (year : Nat) : readYear? (yearChars year) = some year := by
  unfold yearChars
  split
  · next h =>
    have long : 4 < (digits 4 year).toList.length := lt_length_digits (by decide) h
    rw [readYear?, if_pos long, readDigits?_digits rfl]
  · next h =>
    have length : (digits 4 year).toList.length = 4 := length_digits (by decide) (by omega)
    have digit := (areDigits_digits 4 year).2
    rw [← readDigits?_digits length]
    unfold readYear?
    split
    · next heq =>
      have plus := digit '+' (heq ▸ List.mem_cons_self)
      cases plus
    · rfl

theorem not_mem_yearChars {c : Char} (h : c.isDigit = false) (hp : c ≠ '+') (year : Nat) :
    c ∉ yearChars year := by
  unfold yearChars
  split
  · simp [hp, not_mem_digits h]
  · exact not_mem_digits h 4 year

theorem toList_text (d : CivilDate) : d.text.toList =
    yearChars d.year ++ '-' :: ((digits 2 d.month).toList ++ '-' :: (digits 2 d.day).toList) := by
  unfold text yearChars
  split <;> simp

theorem not_mem_text {c : Char} (h : c.isDigit = false) (hp : c ≠ '+') (hm : c ≠ '-') :
    c ∉ d.text.toList := by
  rw [toList_text]
  simp [not_mem_yearChars h hp, not_mem_digits h, hm]

theorem IsDay.two_digits (h : d.IsDay) : d.month < 10 ^ 2 ∧ d.day < 10 ^ 2 := by
  obtain ⟨hpos, hle⟩ := h
  unfold monthLength at hle
  split at hle <;> try omega
  split at hle <;> omega

/-- A date of the calendar is read back from its text. -/
theorem ofChars?_text (h : d.IsDay) : ofChars? d.text.toList = some d := by
  obtain ⟨hm, hd⟩ := h.two_digits
  rw [toList_text, ofChars?, cut?_append (not_mem_yearChars (by decide) (by decide) _)]
  simp only [Option.bind_eq_bind, Option.bind_some]
  rw [cut?_append (not_mem_digits (by decide) 2 _)]
  simp only [Option.bind_some, readYear?_yearChars,
    readDigits?_digits (length_digits (by decide) hm),
    readDigits?_digits (length_digits (by decide) hd)]
  exact if_pos h

end CivilDate

/-! ## Instants -/

namespace Instant

/-- Whether there is such a point in time: the nanoseconds go on to a second one in the last second
of a minute only. -/
def IsPoint (t : Instant) : Prop :=
  t.nanos < 2000000000 ∧ (1000000000 ≤ t.nanos → t.seconds % 60 = 59)

instance (t : Instant) : Decidable t.IsPoint := inferInstanceAs (Decidable (_ ∧ _))

/-- Reads a fraction of a second, as nanoseconds. -/
def readFraction? (cs : List Char) : Option Nat := do
  let n ← readDigits? cs.length cs
  if 1 ≤ cs.length ∧ cs.length ≤ 9 then some (n * 10 ^ (9 - cs.length)) else none

/-- Reads a second of a minute, and the nanoseconds after it. -/
def readSecond? (cs : List Char) : Option (Nat × Nat) := do
  match cut? '.' cs with
  | none => return (← readDigits? 2 cs, 0)
  | some (second, fraction) => return (← readDigits? 2 second, ← readFraction? fraction)

/-- The instant of a time of day in UTC. -/
def ofTime? (date : CivilDate) (hour minute second nanos : Nat) : Option Instant :=
  if hour < 24 ∧ minute < 60 ∧ second < 60 then
    some ⟨86400 * date.dayNumber + (3600 * hour + 60 * minute + second : Nat), nanos⟩
  else if hour < 24 ∧ minute < 60 ∧ second = 60 then
    some ⟨86400 * date.dayNumber + (3600 * hour + 60 * minute + 59 : Nat), 1000000000 + nanos⟩
  else none

/-- Reads a date and a time of day in UTC. -/
def ofText? (text : String) : Option Instant := do
  let (date, rest) ← cut? 'T' text.toList
  let (hour, rest) ← cut? ':' rest
  let (minute, rest) ← cut? ':' rest
  let (second, rest) ← cut? 'Z' rest
  let (second, nanos) ← readSecond? second
  if rest.isEmpty then
    ofTime? (← CivilDate.ofChars? date) (← readDigits? 2 hour) (← readDigits? 2 minute) second nanos
  else none

/-! ### The parts of a text

Each part is read back by itself, and none holds the separator that comes after it. -/

/-- A fraction is not written, or written in one to nine digits that are exact. -/
theorem fraction_cases {nanos : Nat} (h : nanos < 1000000000) :
    nanos = 0 ∧ fraction nanos = "" ∨
    ∃ width n, 1 ≤ width ∧ width ≤ 9 ∧ n < 10 ^ width ∧ n * 10 ^ (9 - width) = nanos ∧
      fraction nanos = "." ++ digits width n := by
  unfold fraction
  split
  · next h0 => exact .inl ⟨h0, rfl⟩
  · right
    split
    · next h3 => exact ⟨3, nanos / 1000000, by decide, by decide, by omega, by omega, rfl⟩
    · split
      · next h6 => exact ⟨6, nanos / 1000, by decide, by decide, by omega, by omega, rfl⟩
      · exact ⟨9, nanos, by decide, by decide, by omega, by omega, rfl⟩

theorem readFraction?_digits {width n : Nat} (hpos : 1 ≤ width) (hle : width ≤ 9)
    (h : n < 10 ^ width) :
    readFraction? (digits width n).toList = some (n * 10 ^ (9 - width)) := by
  have length := length_digits hpos h
  rw [readFraction?, length, readDigits?_digits length]
  exact if_pos ⟨hpos, hle⟩

theorem readSecond?_digits {second nanos : Nat} (hs : second < 10 ^ 2) (hn : nanos < 1000000000) :
    readSecond? ((digits 2 second).toList ++ (fraction nanos).toList) = some (second, nanos) := by
  have read := readDigits?_digits (length_digits (by decide) hs)
  have noPoint := not_mem_digits (c := '.') (by decide) 2 second
  rcases fraction_cases hn with ⟨rfl, heq⟩ | ⟨width, n, hpos, hle, hlt, rfl, heq⟩
  · have whole : (digits 2 second).toList ++ (fraction 0).toList = (digits 2 second).toList := by
      simp [heq]
    rw [whole, readSecond?, cut?_eq_none_iff.2 noPoint, read]
    rfl
  · have parts : (digits 2 second).toList ++ (fraction (n * 10 ^ (9 - width))).toList =
        (digits 2 second).toList ++ '.' :: (digits width n).toList := by
      simp [heq]
    rw [parts, readSecond?, cut?_append noPoint]
    simp only [read, readFraction?_digits hpos hle hlt]
    rfl

theorem not_mem_fraction {c : Char} (h : c.isDigit = false) (hp : c ≠ '.') {nanos : Nat}
    (hn : nanos < 1000000000) : c ∉ (fraction nanos).toList := by
  rcases fraction_cases hn with ⟨-, heq⟩ | ⟨width, n, -, -, -, -, heq⟩
  · simp [heq]
  · simp [heq, hp, not_mem_digits h]

/-! ### Reading what has been written

The second of a day is put together from hours, minutes and seconds again. Where the nanoseconds go
on to a second one, the second that is written is 60. -/

/-- The second of the day in which an instant is. -/
def secondOfDay (t : Instant) : Nat := t.seconds.toNat % 86400

/-- The second of its minute that is written for an instant. -/
def second (t : Instant) : Nat := t.secondOfDay % 60 + t.nanos / 1000000000

theorem toList_text (t : Instant) : t.text.toList =
    (CivilDate.ofDays (t.seconds.toNat / 86400)).text.toList ++
      'T' :: ((digits 2 (t.secondOfDay / 3600)).toList ++
        ':' :: ((digits 2 (t.secondOfDay / 60 % 60)).toList ++
          ':' :: (((digits 2 t.second).toList ++ (fraction (t.nanos % 1000000000)).toList) ++
            ['Z']))) := by
  simp [text, second, secondOfDay]

variable {t : Instant}

/-- A time of day is that of the instant for which it is written. -/
theorem ofTime?_ofDays (h : t.IsPoint) (hpos : 0 ≤ t.seconds) :
    ofTime? (CivilDate.ofDays (t.seconds.toNat / 86400)) (t.secondOfDay / 3600)
      (t.secondOfDay / 60 % 60) t.second (t.nanos % 1000000000) = some t := by
  obtain ⟨seconds, nanos⟩ := t
  obtain ⟨n, rfl⟩ := Int.eq_ofNat_of_zero_le hpos
  obtain ⟨hn, hleap⟩ := h
  simp only [ofTime?, second, secondOfDay, CivilDate.dayNumber_ofDays, Int.toNat_natCast]
    at hn hleap ⊢
  by_cases hl : nanos < 1000000000
  · rw [if_pos (by omega)]
    congr 2 <;> omega
  · have last := hleap (by omega)
    rw [if_neg (by omega), if_pos (by omega)]
    congr 2 <;> omega

/-- An instant from 1970 on is read from its text. -/
theorem ofText?_text (h : t.IsPoint) (hpos : 0 ≤ t.seconds) : ofText? t.text = some t := by
  have hday := CivilDate.isDay_ofDays (t.seconds.toNat / 86400)
  have hfraction : t.nanos % 1000000000 < 1000000000 := Nat.mod_lt _ (by decide)
  have hsecond : t.second < 10 ^ 2 := by
    have := h.1
    unfold second
    omega
  have hhour : t.secondOfDay / 3600 < 10 ^ 2 := by
    unfold secondOfDay
    omega
  have hminute : t.secondOfDay / 60 % 60 < 10 ^ 2 := by omega
  have noZ : 'Z' ∉ (digits 2 t.second).toList ++ (fraction (t.nanos % 1000000000)).toList := by
    simp [not_mem_digits, not_mem_fraction (c := 'Z') (by decide) (by decide) hfraction]
  rw [ofText?, toList_text,
    cut?_append (CivilDate.not_mem_text (by decide) (by decide) (by decide))]
  simp only [Option.bind_eq_bind, Option.bind_some]
  rw [cut?_append (not_mem_digits (by decide) 2 _)]
  simp only [Option.bind_some]
  rw [cut?_append (not_mem_digits (by decide) 2 _)]
  simp only [Option.bind_some]
  rw [cut?_append noZ]
  simp only [Option.bind_some, readSecond?_digits hsecond hfraction, CivilDate.ofChars?_text hday,
    readDigits?_digits (length_digits (by decide) hhour),
    readDigits?_digits (length_digits (by decide) hminute)]
  exact ofTime?_ofDays h hpos

end Instant

end RemoteRecorder
