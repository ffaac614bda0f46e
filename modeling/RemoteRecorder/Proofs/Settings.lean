import RemoteRecorder.Proofs.Json
import RemoteRecorder.Settings

/-!
# RemoteRecorder.Proofs.Settings

**What a text says about the settings of a client**, put without the reader that finds it out.

An object gives a setting by the one member with its key, and leaves it at its default if there is
none (`Sets`). An array gives the settings in order, from the first. Together with what it means to
spell a JSON value this says which texts configure which settings (`Settings.ConfiguredBy`), and the
reader agrees: it finds the settings that a text configures, if their block size is positive, and
otherwise names what is wrong (`read_eq_ok_iff` and the two after it).
-/

namespace RemoteRecorder

/-! ## Settings in a JSON value

There are two forms: an object, whose members may come in any order and may be left out, and an
array, in which items may be left out from the end. What is left out has its default. A setting that
is given twice makes the object unusable, even if both members say the same. -/

/-- Whether a value is a certain integer. Minus zero is a number of JSON, but it is no integer. -/
def Json.IsInt (v : Json) (n : Int64) : Prop :=
  ∃ spelling, v = .number spelling ∧ spelling ≠ "-0" ∧
    Text.Integer.Spells spelling.toList n.toInt

/-- What the members of an object say about a setting: what the one member with its key says, or
the default if no member has the key. Two members with the key say nothing. -/
inductive Sets {α : Type} (Means : Json → α → Prop) (default : α) (key : String)
    (members : List (Option String × Json)) : α → Prop
  | absent (h : ∀ m ∈ members, m.1 ≠ some key) : Sets Means default key members default
  | given {before after : List (Option String × Json)} {v : Json} {a : α}
      (hm : members = before ++ (some key, v) :: after) (hb : ∀ m ∈ before, m.1 ≠ some key)
      (ha : ∀ m ∈ after, m.1 ≠ some key) (hv : Means v a) : Sets Means default key members a

namespace Settings

/-- Whether a JSON value holds certain settings. Members of an object that are no settings are left
aside, but their keys have to be texts. -/
inductive Configures : Json → Settings → Prop
  | object {members : List (Option String × Json)} {size : Int64} {fallback : Bool}
      (keys : ∀ m ∈ members, m.1 ≠ none)
      (hs : Sets Json.IsInt 50000 "default_block_size" members size)
      (hf : Sets (fun v b => v = .bool b) true "allow_legacy_fallback" members fallback) :
      Configures (.object members) ⟨size, fallback⟩
  | nothing : Configures (.array []) ⟨50000, true⟩
  | size {v : Json} {size : Int64} (h : v.IsInt size) : Configures (.array [v]) ⟨size, true⟩
  | both {v : Json} {size : Int64} {fallback : Bool} (h : v.IsInt size) :
      Configures (.array [v, .bool fallback]) ⟨size, fallback⟩

/-- Whether a text is JSON, and the value it spells holds certain settings. -/
def ConfiguredBy (text : String) (s : Settings) : Prop :=
  ∃ v, Json.Spells text v ∧ Configures v s

end Settings

/-! ## The reader agrees

What a member or an item says is read by a partial function, and the lemmas below say for each of
these functions that it is the relation above. -/

variable {v : Json} {s : Settings} {members : List (Option String × Json)} {text : String}

theorem Json.int64?_eq_some_iff {n : Int64} : v.int64? = some n ↔ v.IsInt n := by
  have read (spelling : String) : (Text.Integer.read spelling).toOption = some n ↔
      Text.Integer.Spells spelling.toList n.toInt := by
    rw [← Text.Integer.readChars_eq_ok_iff, ← Text.Integer.read]
    cases Text.Integer.read spelling <;> simp [Except.toOption]
  cases v with
  | number spelling =>
    rw [Json.int64?, Json.IsInt]
    split
    · next h =>
      simp [beq_iff_eq.1 h]
    · next h =>
      have h : spelling ≠ "-0" := by simpa using h
      simp [read, h]
  | _ => simp [Json.int64?, Json.IsInt]

theorem Json.bool?_eq_some_iff {b : Bool} : v.bool? = some b ↔ v = .bool b := by
  cases v <;> simp [Json.bool?]

namespace Settings

/-- A member is looked for among all that have its key, so that a second one is noticed. -/
theorem member?_eq_some_iff {α : Type} {read? : Json → Option α} {Means : Json → α → Prop}
    (hread : ∀ v a, read? v = some a ↔ Means v a) {default a : α} {key : String} :
    member? read? default key members = some a ↔ Sets Means default key members a := by
  constructor
  · intro h
    unfold member? at h
    split at h
    · next hnone =>
      obtain rfl := Option.some.inj h
      exact .absent (by simpa using hnone)
    · next k v hone =>
      obtain ⟨before, after, rfl, hb, hk, ha⟩ := List.filter_eq_cons_iff.1 hone
      obtain rfl : k = some key := by simpa using hk
      exact .given rfl (by simpa using hb) (by simpa using ha) ((hread _ _).1 h)
    · cases h
  · intro h
    unfold member?
    cases h with
    | absent h =>
      have none : (members.filter fun m => m.1 == some key) = [] := by simpa using h
      rw [none]
    -- The members with the key are the given one alone, since it has no like before it or after it.
    | @given before after v a hm hb ha hv =>
      have one : (members.filter fun m => m.1 == some key) = [(some key, v)] := by
        refine List.filter_eq_cons_iff.2 ⟨before, after, hm, ?_, ?_, ?_⟩
        · simpa using hb
        · simp
        · simpa using ha
      rw [one]
      exact (hread _ _).2 hv

/-- An object is read for its two settings, once all its keys are texts. -/
theorem ofMembers?_eq_some_iff : ofMembers? members = some s ↔ Configures (.object members) s := by
  have size := @member?_eq_some_iff members Int64 Json.int64? Json.IsInt
    (fun _ _ => Json.int64?_eq_some_iff) defaultBlockSize
  have fallback := @member?_eq_some_iff members Bool Json.bool? (fun v b => v = .bool b)
    (fun _ _ => Json.bool?_eq_some_iff) true
  unfold ofMembers?
  constructor
  · intro h
    obtain ⟨u, hkeys, h⟩ := Option.bind_eq_some_iff.1 h
    obtain ⟨n, hn, h⟩ := Option.bind_eq_some_iff.1 h
    obtain ⟨b, hb, h⟩ := Option.bind_eq_some_iff.1 h
    obtain rfl := Option.some.inj h
    refine .object ?_ (size.1 hn) (fallback.1 hb)
    simpa [Option.isSome_iff_ne_none] using (Option.guard_eq_some' u).1 hkeys
  · rintro @⟨_, n, b, keys, hs, hf⟩
    have hkeys : (members.all fun m => m.1.isSome) = true := by
      simpa [Option.isSome_iff_ne_none] using keys
    simp [hkeys, size.2 hs, fallback.2 hf]

/-- An array is read item by item, and it has two at most. -/
theorem ofItems?_eq_some_iff {items : List Json} :
    ofItems? items = some s ↔ Configures (.array items) s := by
  constructor
  · intro h
    unfold ofItems? at h
    split at h
    · obtain rfl := Option.some.inj h
      exact .nothing
    · obtain ⟨n, hn, h⟩ := Option.bind_eq_some_iff.1 h
      obtain rfl := Option.some.inj h
      exact .size (Json.int64?_eq_some_iff.1 hn)
    · obtain ⟨n, hn, h⟩ := Option.bind_eq_some_iff.1 h
      obtain ⟨b, hb, h⟩ := Option.bind_eq_some_iff.1 h
      obtain rfl := Option.some.inj h
      rw [Json.bool?_eq_some_iff.1 hb]
      exact .both (Json.int64?_eq_some_iff.1 hn)
    · cases h
  · intro h
    cases h with
    | nothing => rfl
    | size h => simp [ofItems?, Json.int64?_eq_some_iff.2 h]
    | both h => simp [ofItems?, Json.int64?_eq_some_iff.2 h, Json.bool?]

theorem ofJson?_eq_some_iff : ofJson? v = some s ↔ Configures v s := by
  cases v with
  | object members => exact ofMembers?_eq_some_iff
  | array items => exact ofItems?_eq_some_iff
  | _ =>
    refine ⟨fun h => ?_, fun h => ?_⟩ <;> cases h

/-- A text is read as JSON first, and for settings then. -/
theorem configuredBy_iff : (Json.parse? text).bind ofJson? = some s ↔ ConfiguredBy text s := by
  simp only [Option.bind_eq_some_iff, Json.parse?_eq_some_iff, ofJson?_eq_some_iff, ConfiguredBy]

/-- The settings that are read are those that the text configures, with a block size that can be
used. -/
theorem read_eq_ok_iff : read text = .ok s ↔ ConfiguredBy text s ∧ 0 < s.blockSize := by
  rw [← configuredBy_iff, read]
  cases (Json.parse? text).bind ofJson? with
  | none => simp
  | some found =>
    rw [Option.some.injEq]
    show found.check = _ ↔ _
    rw [check]
    split
    · next hp =>
      rw [Except.ok.injEq]
      exact ⟨fun h => ⟨h, h ▸ hp⟩, And.left⟩
    · next hp =>
      simp only [reduceCtorEq, false_iff]
      rintro ⟨rfl, h⟩
      exact hp h

/-- A text is refused as malformed if it configures nothing. -/
theorem read_eq_malformed_iff : read text = .error .malformed ↔ ∀ s, ¬ ConfiguredBy text s := by
  simp only [← configuredBy_iff, read]
  cases (Json.parse? text).bind ofJson? with
  | none => simp
  | some found =>
    refine iff_of_false ?_ fun h => h found rfl
    show found.check ≠ _
    rw [check]
    split <;> nofun

/-- Otherwise the block size is at fault, and the error names it. -/
theorem read_eq_blockSize_iff {n : Int64} : read text = .error (.blockSize n) ↔
    ∃ s, ConfiguredBy text s ∧ s.blockSize = n ∧ ¬ 0 < n := by
  simp only [← configuredBy_iff, read]
  cases (Json.parse? text).bind ofJson? with
  | none => simp
  | some found =>
    simp only [Option.some.injEq, exists_eq_left']
    show found.check = _ ↔ _
    rw [check]
    split
    · next hp =>
      simp only [reduceCtorEq, false_iff]
      rintro ⟨rfl, h⟩
      exact h hp
    · next hp =>
      simp only [Except.error.injEq, Invalid.blockSize.injEq]
      exact ⟨fun h => ⟨h, h ▸ hp⟩, And.left⟩

end Settings

end RemoteRecorder
