import RemoteRecorder.Proofs.Options
import RemoteRecorder.Proofs.Text.Blank
import RemoteRecorder.Proofs.TimeSpan.Pattern

/-!
# RemoteRecorder.Proofs.Options.Accepted

**Which texts are accepted for each setting**, and what is sent for them, without the functions
that read them. Two settings are time spans, and one is a number of bytes. These refuse a text that
is no number. Two others are names and two are switches, for which every text will do.

* `SpanSent`, `SizeSent`, `NameSent` and `SwitchSent` say which texts are accepted, and the text
  that is sent for each.
* `Reads` is the law of a setting: next to settings that can be read its texts are accepted that may
  be sent, and a draft with any other text is refused.
* `numbers_accepted` is this law for the three settings that are numbers. It holds as well if time
  spans are recognized by a pattern that counts digits and letters of all scripts.
* `texts_accepted` is the law for the names and the switches.
-/

namespace RemoteRecorder.Options

open Text (isBlank)
open Text.Integer (bound Natural Spells readNatural? readNatural?_eq_some_iff)
open TimeSpan (abbreviation Denotes CharClasses)

/-- What is sent for a time span: a number in plain decimal, and a unit if there is one. -/
inductive SpanSent (raw : String) : String → Prop
  | blank (h : ∀ c ∈ raw.toList, isBlank c = true) : SpanSent raw "0"
  | counted {number space : List Char} {n : Nat} (unit : Option TimeUnit)
      (hraw : raw.toList = number ++ (space ++ abbreviation unit)) (hn : Spells number n)
      (hlt : n < bound) (hs : ∀ c ∈ space, isBlank c = true) :
      SpanSent raw (toString n ++ unit.elim "" fun u => " " ++ u.text)

/-- What is sent for a number of bytes: the number in plain decimal. -/
inductive SizeSent (raw : String) : String → Prop
  | blank (h : Text.trim raw = "") : SizeSent raw "0"
  | counted {n : Nat} (hn : Spells (Text.trim raw).toList n) (hlt : n < bound) :
      SizeSent raw (toString n)

/-- What is sent for a name: the name without the white space around it. -/
def NameSent (raw text : String) : Prop := Text.Trimmed raw.toList text.toList

/-- The word `true`, each of its letters in either case. -/
inductive SaysTrue : List Char → Prop
  | word {t r u e : Char} (ht : t = 't' ∨ t = 'T') (hr : r = 'r' ∨ r = 'R')
      (hu : u = 'u' ∨ u = 'U') (he : e = 'e' ∨ e = 'E') : SaysTrue [t, r, u, e]

/-- What is sent for a switch. Whatever does not say that it is on says that it is off, and so does
the word with white space around it. -/
inductive SwitchSent (raw : String) : String → Prop
  | on (h : SaysTrue raw.toList) : SwitchSent raw "true"
  | off (h : ¬ SaysTrue raw.toList) : SwitchSent raw "false"

/-- How a setting is read that is sent in a certain way, if it is sent at all. -/
structure Reads (key : OptionKey) (raw : String) (Sent : String → Prop) : Prop where
  accepted : ∀ d : Draft, (∀ k, k ≠ key → (d.want k).isOk = true) → ∀ text,
    (∃ o, (d.set key raw).build = .ok o ∧ o.text key = text) ↔ Sent text
  refused : (∀ text, ¬ Sent text) → ∀ d : Draft,
    ∃ message, (d.set key raw).build.mapError Invalid.toError = .error (.validation message)

/-! ## Reading a number

Two settings are time spans and one is a number of bytes, and all three are sent in plain decimal.
Signs, leading zeros and the white space that is allowed leave no trace in what is sent. -/

variable {key : OptionKey} {raw text : String} {Sent : String → Prop}

/-- What is sent for a time span is the text of the one that is denoted. -/
theorem spanSent_iff : SpanSent raw text ↔ ∃ t, Denotes raw.toList t ∧ t.text = text := by
  constructor
  · rintro (h | @⟨number, space, n, unit, hraw, hn, hlt, hs⟩)
    · exact ⟨.zero, .blank h, rfl⟩
    · exact ⟨⟨⟨n, hlt⟩, unit⟩, hraw ▸ .counted hn hs, TimeSpan.text_eq _⟩
  · rintro ⟨t, hden, rfl⟩
    generalize hcs : raw.toList = cs at hden
    cases hden with
    | blank h => exact .blank (hcs ▸ h)
    | @counted number space count unit hn hs =>
      rw [TimeSpan.text_eq]
      exact .counted unit hcs hn count.isLt hs

theorem map_readTimeSpan_iff :
    (readTimeSpan key raw).map TimeSpan.text = .ok text ↔ SpanSent raw text := by
  rw [spanSent_iff]
  simp only [← TimeSpan.read?_eq_some_iff, readTimeSpan]
  cases TimeSpan.read? raw <;> simp [Except.map]

/-- A number of bytes is read as a natural number is, once the text is trimmed. -/
theorem readSize_eq_ok_iff {n : Natural} :
    readSize raw = .ok n ↔
      (Text.trim raw = "" ∧ n = .zero) ∨ Spells (Text.trim raw).toList n := by
  rw [← readNatural?_eq_some_iff]
  unfold readSize readNatural? Text.Integer.read
  generalize Text.trim raw = trimmed
  by_cases h : trimmed = ""
  · subst h
    constructor
    · intro hn
      exact .inl ⟨rfl, (Except.ok.inj hn).symm⟩
    · rintro (⟨-, rfl⟩ | hn)
      · rfl
      · cases hn
  · have hne : ¬ trimmed.isEmpty = true := by simpa using h
    rw [if_neg hne]
    cases Text.Integer.readChars trimmed.toList with
    | error cause => simp [h, Except.toOption]
    | ok v => cases hn : Text.Integer.natural? v <;> simp [h, hn, Except.toOption]

theorem normalForm_maxSize_iff : normalForm .maxSize raw = .ok text ↔ SizeSent raw text := by
  have map_ok (x : Except Invalid Natural) :
      x.map toString = .ok text ↔ ∃ n, x = .ok n ∧ toString n = text := by
    cases x <;> simp [Except.map]
  rw [normalForm, map_ok]
  simp only [readSize_eq_ok_iff]
  constructor
  · rintro ⟨n, ⟨hblank, rfl⟩ | hn, rfl⟩
    · exact .blank hblank
    · exact .counted hn n.isLt
  · rintro (hblank | @⟨n, hn, hlt⟩)
    · exact ⟨.zero, .inl ⟨hblank, rfl⟩, rfl⟩
    · exact ⟨⟨n, hlt⟩, .inr hn, rfl⟩

/-! ## Reading a name or a switch

A switch compares its text with a word after it has made all letters small. Only the two letters of
a pair become the same in this way, and no letter of another script becomes one of ASCII. -/

theorem normalForm_name_iff : normalForm .name raw = .ok text ↔ NameSent raw text := by
  rw [normalForm, Except.ok.injEq, Text.trim_eq_iff, NameSent]

theorem toNat_toLower (c : Char) :
    c.toLower.toNat = if 65 ≤ c.toNat ∧ c.toNat ≤ 90 then c.toNat + 32 else c.toNat := by
  have capital : (c.val ≥ 'A'.val ∧ c.val ≤ 'Z'.val) ↔ 65 ≤ c.toNat ∧ c.toNat ≤ 90 := by
    simp only [ge_iff_le, UInt32.le_iff_toNat_le]
    rfl
  unfold Char.toLower
  simp only [capital]
  split
  · next h =>
    have small : c.val.toNat ≤ 90 := h.2
    show (c.val + 32).toNat = c.val.toNat + 32
    rw [UInt32.toNat_add]
    exact Nat.mod_eq_of_lt (by simp; omega)
  · rfl

/-- A letter becomes a small one if it is this or the capital one that belongs to it. -/
theorem toLower_eq_iff {c small capital : Char} (h : small.toNat = capital.toNat + 32)
    (hc : 65 ≤ capital.toNat ∧ capital.toNat ≤ 90) :
    c.toLower = small ↔ c = small ∨ c = capital := by
  have numbers (c d : Char) : c = d ↔ c.toNat = d.toNat := by
    rw [Char.ext_iff, ← UInt32.toNat_inj]
    rfl
  simp only [numbers, toNat_toLower]
  split <;> omega

/-- A switch is on if its text says `true`. -/
theorem readSwitch_iff : readSwitch raw = true ↔ SaysTrue raw.toList := by
  have t (c : Char) : c.toLower = 't' ↔ c = 't' ∨ c = 'T' := toLower_eq_iff rfl (by decide)
  have r (c : Char) : c.toLower = 'r' ↔ c = 'r' ∨ c = 'R' := toLower_eq_iff rfl (by decide)
  have u (c : Char) : c.toLower = 'u' ↔ c = 'u' ∨ c = 'U' := toLower_eq_iff rfl (by decide)
  have e (c : Char) : c.toLower = 'e' ↔ c = 'e' ∨ c = 'E' := toLower_eq_iff rfl (by decide)
  have word : readSwitch raw = true ↔ raw.toList.map Char.toLower = ['t', 'r', 'u', 'e'] := by
    simp [readSwitch]
  simp only [word, List.map_eq_cons_iff, List.map_eq_nil_iff, t, r, u, e]
  constructor
  · rintro ⟨_, _, hraw, ht, _, _, rfl, hr, _, _, rfl, hu, _, _, rfl, he, rfl⟩
    exact hraw ▸ .word ht hr hu he
  · intro h
    generalize raw.toList = cs at h
    cases h with
    | word ht hr hu he =>
      exact ⟨_, _, rfl, ht, _, _, rfl, hr, _, _, rfl, hu, _, _, rfl, he, rfl⟩

theorem normalForm_disk_iff : normalForm .disk raw = .ok text ↔ SwitchSent raw text := by
  rw [normalForm, Except.ok.injEq]
  by_cases h : SaysTrue raw.toList
  · rw [readSwitch_iff.2 h]
    constructor
    · rintro rfl
      exact .on h
    · rintro (- | off)
      · rfl
      · exact (off h).elim
  · rw [Bool.eq_false_iff.2 (h ∘ readSwitch_iff.1)]
    constructor
    · rintro rfl
      exact .off h
    · rintro (on | -)
      · exact (h on).elim
      · rfl

/-! ## Reading a draft with the setting

A draft is read as a whole. So that a text for one setting decides, the others have to be such as
can be read; which of them comes first in the reading then does not matter. -/

namespace Draft

variable {d : Draft}

theorem want_set_self (d : Draft) : (d.set key raw).want key = normalForm key raw := by
  simp [want, set]

theorem want_set_of_ne {k : OptionKey} (h : k ≠ key) : (d.set key raw).want k = d.want k := by
  simp [want, set, h]

end Draft

/-- A setting is read as its normal form says. -/
theorem reads_of_normalForm (h : ∀ text, normalForm key raw = .ok text ↔ Sent text) :
    Reads key raw Sent where
  accepted d hd text := by
    rw [← h, ← d.want_set_self]
    have b := (d.set key raw).built
    generalize (d.set key raw).build = result at b
    cases b with
    | @complete o hw => simp [hw key]
    | @malformed k i hk hi =>
      -- The malformed setting is the one that has been set.
      have hkey : k = key := by
        by_contra hne
        have hok := hd k hne
        rw [← Draft.want_set_of_ne hne, hi] at hok
        cases hok
      subst hkey
      simp [hi]
  refused hs d := by
    have b := (d.set key raw).built
    generalize (d.set key raw).build = result at b
    cases b with
    | @complete o hw =>
      have hn : normalForm key raw = .ok (o.text key) := d.want_set_self ▸ hw key
      exact (hs _ ((h _).1 hn)).elim
    | malformed => exact ⟨_, rfl⟩

/-- The settings that are numbers accept exactly the texts that may be sent for them, and send
these. A text that is accepted for a time span is one that the pattern recognizes, whatever it
counts as digits and letters. -/
theorem numbers_accepted (classes : CharClasses) (raw : String) :
    Reads .maxAge raw (SpanSent raw) ∧ Reads .duration raw (SpanSent raw) ∧
      Reads .maxSize raw (SizeSent raw) ∧ classes.timeSpan? raw = TimeSpan.read? raw :=
  ⟨reads_of_normalForm fun _ => map_readTimeSpan_iff,
    reads_of_normalForm fun _ => map_readTimeSpan_iff,
    reads_of_normalForm fun _ => normalForm_maxSize_iff, classes.timeSpan?_eq_read? raw⟩

/-- Names are sent without the white space around them, and switches as one of two words. -/
theorem texts_accepted (raw : String) :
    Reads .name raw (NameSent raw) ∧ Reads .destination raw (NameSent raw) ∧
      Reads .dumpOnExit raw (SwitchSent raw) ∧ Reads .disk raw (SwitchSent raw) :=
  ⟨reads_of_normalForm fun _ => normalForm_name_iff,
    reads_of_normalForm fun _ => normalForm_name_iff,
    reads_of_normalForm fun _ => normalForm_disk_iff,
    reads_of_normalForm fun _ => normalForm_disk_iff⟩

-- White space may stand around a number of bytes, and is not sent.
example : (Draft.ofList [(.maxSize, " +007\t")]).build.map (fun o => o.text .maxSize) =
    .ok "7" := by rfl

end RemoteRecorder.Options
