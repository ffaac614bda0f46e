import RemoteRecorder.Options
import RemoteRecorder.Proofs.SortedMap

/-!
# RemoteRecorder.Proofs.Options

**Reading and sending options.** What the user wrote is read setting by setting, and the
map that is sent says as much as the options themselves.

* `normalForm` is the reading of a single setting. Reading them all either gives every
  setting its normal form, or fails as the first of them does that cannot be read
  (`Draft.built`).
* `Sparse` is the law of the map that is sent: with the defaults it makes up every
  setting, and it holds nothing that the defaults say already, `disk` apart.
-/

namespace RemoteRecorder

/-- No two settings have one key. -/
theorem OptionKey.text_injective (k l : OptionKey) (h : k.text = l.text) : k = l := by
  have h : ofText? k.text = ofText? l.text := congrArg ofText? h
  rw [ofText?_text, ofText?_text] at h
  exact Option.some.inj h

theorem OptionKey.ofText?_eq_some_iff {t : String} {k : OptionKey} :
    ofText? t = some k ↔ t = k.text := by
  constructor
  · intro h
    have h : all.find? (fun key => key.text == t) = some k := h
    have found := List.find?_some h
    exact (beq_iff_eq.1 found).symm
  · rintro rfl
    exact ofText?_text k

namespace Options

/-! ## The map that is sent

What has its default is left out of the map. The target has the same defaults, and so nothing is
lost; `Sparse` says this without looking at how the map is made. -/

section Map

variable (o : Options)

/-- A setting is in the map just if it is sent, with its text. -/
theorem get?_toMap (k : OptionKey) :
    o.toMap.get? k.text = if o.sends k then some (o.text k) else none := by
  rw [toMap, SortedMap.get?_ofList, lastOf_map OptionKey.text_injective o.text]
  simp [OptionKey.mem_all]

theorem get?_toMap_disk : o.toMap.get? OptionKey.disk.text = some (o.text .disk) := by
  rw [get?_toMap]
  simp [sends]

/-- Options are never sent as an empty map. -/
theorem isEmpty_toMap : o.toMap.isEmpty = false :=
  SortedMap.isEmpty_of_get? o.get?_toMap_disk

/-- The law of the map that is sent. -/
structure Sparse (o : Options) : Prop where
  /-- The map and the defaults make up every setting. -/
  get : ∀ k : OptionKey, (o.toMap.get? k.text).getD k.default = o.text k
  /-- A setting is there if it differs from its default, and `disk` is there in any case. -/
  contains_iff : ∀ k : OptionKey,
    o.toMap.contains k.text = true ↔ o.text k ≠ k.default ∨ k = .disk
  /-- There is nothing else. -/
  keys : ∀ t : String, o.toMap.contains t = true → ∃ k : OptionKey, t = k.text
  disk : o.toMap.get? "disk" = some "true" ∨ o.toMap.get? "disk" = some "false"
  nonempty : o.toMap.isEmpty = false

/-- The law holds of all options, however they have been made. -/
theorem sparse : o.Sparse where
  get k := by
    rw [get?_toMap]
    cases h : o.sends k with
    | true => rfl
    | false =>
      have h : o.text k = k.default := by
        rw [sends, Bool.or_eq_false_iff] at h
        simpa using h.1
      exact h.symm
  contains_iff k := by
    rw [SortedMap.contains, get?_toMap]
    cases h : o.sends k <;> simpa [sends] using h
  keys t h := by
    rw [SortedMap.contains, toMap, SortedMap.get?_ofList] at h
    obtain ⟨v, hv⟩ := Option.isSome_iff_exists.1 h
    obtain ⟨k, -, hk⟩ := List.mem_map.1 (mem_of_lastOf hv)
    exact ⟨k, (congrArg Prod.fst hk).symm⟩
  disk := by
    have h : o.toMap.get? "disk" = some (toString o.disk) := o.get?_toMap_disk
    rw [h]
    cases o.disk with
    | true => exact .inl rfl
    | false => exact .inr rfl
  nonempty := o.isEmpty_toMap

end Map

/-! ## Reading setting by setting

Settings are read in a fixed order, and the reading stops at the first that is malformed. A setting
is read by itself, so the outcome is determined by what each of them comes to: `firstMalformed?`
looks through these in the order in which they are read. -/

/-- What is sent for a setting that the user wrote as a certain text, unless it has the
default value. -/
def normalForm : OptionKey → String → Except Invalid String
  | .name, raw | .destination, raw => .ok (Text.trim raw)
  | .maxAge, raw => (readTimeSpan .maxAge raw).map TimeSpan.text
  | .duration, raw => (readTimeSpan .duration raw).map TimeSpan.text
  | .maxSize, raw => (readSize raw).map toString
  | .dumpOnExit, raw | .disk, raw => .ok (toString (readSwitch raw))

/-- To write nothing is to choose the default. -/
theorem normalForm_empty (k : OptionKey) : normalForm k "" = .ok k.default := by
  cases k <;> rfl

/-- What the user wants of a setting: the last text for it, in normal form, or else the
default. -/
def wanted (settings : List (OptionKey × String)) (k : OptionKey) : Except Invalid String :=
  match lastOf settings k with
  | some raw => normalForm k raw
  | none => .ok k.default

/-- The first setting that cannot be read. -/
def firstMalformed? (want : OptionKey → Except Invalid String) : Option OptionKey :=
  OptionKey.all.find? fun k => !(want k).isOk

namespace Draft

theorem raw_foldl_set (settings : List (OptionKey × String)) (d : Draft) (k : OptionKey) :
    (settings.foldl (fun d s => d.set s.1 s.2) d).raw k = (lastOf settings k).getD (d.raw k) := by
  induction settings generalizing d with
  | nil => rfl
  | cons s settings ih =>
    rw [List.foldl_cons, ih, lastOf]
    cases lastOf settings k with
    | some raw => rfl
    | none =>
      by_cases h : s.1 = k
      · simp [set, h]
      · simp [set, h, Ne.symm h]

/-- A draft holds the last text for each setting. -/
theorem raw_ofList (settings : List (OptionKey × String)) (k : OptionKey) :
    (ofList settings).raw k = (lastOf settings k).getD "" :=
  raw_foldl_set settings {} k

/-- What comes of reading all settings, if reading each comes to `want`. -/
inductive Built (want : OptionKey → Except Invalid String) : Except Invalid Options → Prop where
  | complete {o} (h : ∀ k, want k = .ok (o.text k)) : Built want (.ok o)
  | malformed {k i} (hk : firstMalformed? want = some k) (hi : want k = .error i) :
      Built want (.error i)

/-- What the user wants of each setting, read off a draft. -/
def want (d : Draft) (k : OptionKey) : Except Invalid String := normalForm k (d.raw k)

theorem want_ofList (settings : List (OptionKey × String)) :
    (ofList settings).want = wanted settings := by
  funext k
  rw [want, raw_ofList, wanted]
  cases lastOf settings k with
  | some raw => rfl
  | none => exact normalForm_empty k

/-- Only three settings have texts that cannot be read. -/
theorem firstMalformed?_want (d : Draft) :
    firstMalformed? d.want =
      [OptionKey.maxAge, .maxSize, .duration].find? fun k => !(d.want k).isOk := rfl

theorem want_maxAge (d : Draft) :
    d.want .maxAge = (readTimeSpan .maxAge (d.raw .maxAge)).map TimeSpan.text := rfl

theorem want_maxSize (d : Draft) :
    d.want .maxSize = (readSize (d.raw .maxSize)).map toString := rfl

theorem want_duration (d : Draft) :
    d.want .duration = (readTimeSpan .duration (d.raw .duration)).map TimeSpan.text := rfl

/-- Reading a draft comes to what reading each setting comes to. -/
theorem built (d : Draft) : Built d.want d.build := by
  have ha := d.want_maxAge
  have hs := d.want_maxSize
  have hd := d.want_duration
  unfold build
  -- The three settings that may be malformed are read in this order: age, size and duration.
  cases hage : readTimeSpan .maxAge (d.raw .maxAge) with
  | error i =>
    rw [hage] at ha
    refine .malformed ?_ ha
    rw [firstMalformed?_want, List.find?_cons, ha]
    rfl
  | ok age =>
    rw [hage] at ha
    cases hsize : readSize (d.raw .maxSize) with
    | error i =>
      rw [hsize] at hs
      refine .malformed ?_ hs
      rw [firstMalformed?_want, List.find?_cons, ha, List.find?_cons, hs]
      rfl
    | ok size =>
      rw [hsize] at hs
      cases hduration : readTimeSpan .duration (d.raw .duration) with
      | error i =>
        rw [hduration] at hd
        refine .malformed ?_ hd
        rw [firstMalformed?_want, List.find?_cons, ha, List.find?_cons, hs, List.find?_cons, hd]
        rfl
      | ok duration =>
        rw [hduration] at hd
        refine .complete ?_
        intro k
        cases k with
        | maxAge => exact ha
        | maxSize => exact hs
        | duration => exact hd
        | _ => rfl

/-- Settings with the same last texts make the same draft. -/
theorem ofList_congr {settings settings' : List (OptionKey × String)}
    (h : ∀ k, lastOf settings' k = lastOf settings k) : ofList settings' = ofList settings := by
  have hraw : (ofList settings').raw = (ofList settings).raw := by
    funext k
    rw [raw_ofList, raw_ofList, h]
  cases hd : ofList settings with
  | mk raw => cases hd' : ofList settings' with
    | mk raw' => simpa [hd, hd'] using hraw

/-- Only the last text for a setting counts. If all of these can be read, the options have
their normal forms and the documented defaults, and the map that is sent is sparse.
Otherwise the first setting that cannot be read is reported. -/
theorem built_from_last_texts (settings : List (OptionKey × String)) :
    (∀ settings' : List (OptionKey × String), (∀ k, lastOf settings' k = lastOf settings k) →
      (ofList settings').build = (ofList settings).build) ∧
    match firstMalformed? (wanted settings) with
    | none => ∃ o, (ofList settings).build = .ok o ∧
        (∀ k, wanted settings k = .ok (o.text k)) ∧ o.Sparse
    | some k => ∃ i, wanted settings k = .error i ∧
        (ofList settings).build.mapError Invalid.toError = .error (.validation i.message) := by
  refine ⟨fun settings' h => congrArg build (ofList_congr h), ?_⟩
  have b := built (ofList settings)
  rw [want_ofList] at b
  generalize (ofList settings).build = result at b
  cases b with
  | @complete o h =>
    have none : firstMalformed? (wanted settings) = none := by
      refine List.find?_eq_none.2 ?_
      intro k _
      simp [h k, Except.isOk, Except.toBool]
    rw [none]
    exact ⟨o, rfl, h, o.sparse⟩
  | malformed hk hi =>
    rw [hk]
    exact ⟨_, hi, rfl⟩

-- The first malformed setting counts, not the first text that was malformed.
example : (ofList [(.maxSize, "-1"), (.maxAge, "2 weeks"), (.name, "nightly")]).build =
    .error (.timeSpan .maxAge "2 weeks") := by rfl

example : (ofList [(.duration, "x"), (.disk, "TRUE"), (.duration, "30s")]).build.map toMap =
    .ok (.ofList [("disk", "true"), ("duration", "30 s")]) := by cbv

end Draft

end Options

end RemoteRecorder
