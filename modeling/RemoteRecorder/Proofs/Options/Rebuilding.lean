import RemoteRecorder.Proofs.Options.Accepted

/-!
# RemoteRecorder.Proofs.Options.Rebuilding

**Options build themselves.** What is sent for a setting is its own normal form, and options are
determined by what is sent for them. So the texts of built options build the same options again,
and so does the map that is sent, where the settings that are left out have their defaults.
-/

namespace RemoteRecorder.Options

open Text (isBlank)
open Text.Integer (Natural Spells AreDigits areDigits_repr spells_repr)

variable {k : OptionKey} {raw text : String} {d : Draft} {o : Options}

/-! ## Normal forms

The only readers that have something to undo are those of numbers and time spans. That their texts
are read back is shown where these are defined. -/

/-- A number of bytes is read back from its text. -/
theorem readSize_toString (n : Natural) : readSize (toString n) = .ok n := by
  have blankFree : Text.trim (toString n) = toString n :=
    Text.trim_eq_self fun c hc => TimeSpan.isBlank_of_isDigit ((areDigits_repr n).2 c hc)
  rw [readSize_eq_ok_iff, blankFree]
  exact .inr (spells_repr n)

/-- A time span is read back from its text. -/
theorem readTimeSpan_text (t : TimeSpan) : readTimeSpan k t.text = .ok t := by
  rw [readTimeSpan, t.read?_text]

theorem readSwitch_toString (b : Bool) : readSwitch (toString b) = b := by
  cases b <;> rfl

/-- A normal form is its own normal form. -/
theorem normalForm_of_normalForm (h : normalForm k raw = .ok text) :
    normalForm k text = .ok text := by
  have spanForm {k : OptionKey} (h : (readTimeSpan k raw).map TimeSpan.text = .ok text) :
      (readTimeSpan k text).map TimeSpan.text = .ok text := by
    cases hr : readTimeSpan k raw with
    | error i => rw [hr] at h; cases h
    | ok t =>
      rw [hr] at h
      cases h
      rw [readTimeSpan_text]
      rfl
  cases k with
  | name | destination =>
    cases h
    exact congrArg Except.ok (Text.trim_trim raw)
  | maxAge | duration => exact spanForm h
  | maxSize =>
    have h : (readSize raw).map toString = .ok text := h
    cases hr : readSize raw with
    | error i => rw [hr] at h; cases h
    | ok n =>
      rw [hr] at h
      cases h
      show (readSize (toString n)).map toString = _
      rw [readSize_toString]
      rfl
  | dumpOnExit | disk =>
    cases h
    exact congrArg (Except.ok ∘ toString) (readSwitch_toString (readSwitch raw))

/-! ## Options and their texts

Nothing is lost between options and their texts: the texts can be read back, each for itself. -/

/-- Options are determined by what is sent for them. -/
theorem text_injective {o o' : Options} (h : o.text = o'.text) : o = o' := by
  have span {t t' : TimeSpan} (h : t.text = t'.text) : t = t' :=
    Option.some.inj (by rw [← t.read?_text, h, t'.read?_text])
  have size {n n' : Natural} (h : toString n = toString n') : n = n' :=
    Except.ok.inj (by rw [← readSize_toString n, h, readSize_toString])
  have switch {b b' : Bool} (h : toString b = toString b') : b = b' := by
    rw [← readSwitch_toString b, h, readSwitch_toString]
  obtain ⟨name, maxAge, maxSize, dumpOnExit, destination, disk, duration⟩ := o
  obtain ⟨name', maxAge', maxSize', dumpOnExit', destination', disk', duration'⟩ := o'
  obtain rfl : name = name' := congrFun h .name
  obtain rfl : maxAge = maxAge' := span (congrFun h .maxAge)
  obtain rfl : maxSize = maxSize' := size (congrFun h .maxSize)
  obtain rfl : dumpOnExit = dumpOnExit' := switch (congrFun h .dumpOnExit)
  obtain rfl : destination = destination' := congrFun h .destination
  obtain rfl : disk = disk' := switch (congrFun h .disk)
  obtain rfl : duration = duration' := span (congrFun h .duration)
  rfl

namespace Draft

/-- Options are built if every setting is wanted as it is sent for them. -/
theorem build_of_want (h : ∀ k, d.want k = .ok (o.text k)) : d.build = .ok o := by
  have b := d.built
  generalize d.build = result at b
  cases b with
  | @complete o' hw =>
    refine congrArg Except.ok (text_injective ?_)
    funext k
    exact Except.ok.inj ((hw k).symm.trans (h k))
  | @malformed k i hk hi =>
    rw [h k] at hi
    cases hi

/-- What has been built is what was wanted. -/
theorem want_of_build (h : d.build = .ok o) (k : OptionKey) : d.want k = .ok (o.text k) := by
  have b := d.built
  rw [h] at b
  cases b with
  | complete hw => exact hw k

/-- Built options are built again from their texts. What has its default may be left out. -/
theorem build_again (hbuilt : d.build = .ok o) {d' : Draft}
    (h : ∀ k, d'.raw k = o.text k ∨ d'.raw k = "" ∧ o.text k = k.default) : d'.build = .ok o := by
  refine build_of_want fun k => ?_
  rw [want]
  rcases h k with htext | ⟨hempty, hdefault⟩
  · rw [htext]
    exact normalForm_of_normalForm (want_of_build hbuilt k)
  · rw [hempty, hdefault]
    exact normalForm_empty k

/-! ## Feeding a draft

A draft may be fed in any order, since each of its settings has a single text here. So only the
members of a list of settings matter. -/

variable {settings : List (OptionKey × String)}

/-- If all texts for a setting are the same, a draft holds it. -/
theorem raw_ofList_of_mem (h : (k, text) ∈ settings) (hu : ∀ t, (k, t) ∈ settings → t = text) :
    (ofList settings).raw k = text := by
  obtain ⟨t, ht⟩ := exists_lastOf h
  rw [raw_ofList, ht]
  exact hu t (mem_of_lastOf ht)

theorem raw_ofList_of_not_mem (h : ∀ t, (k, t) ∉ settings) : (ofList settings).raw k = "" := by
  rw [raw_ofList]
  cases hl : lastOf settings k with
  | none => rfl
  | some t => exact (h t (mem_of_lastOf hl)).elim

end Draft

/-- All settings, with what is sent for them. -/
def allSettings (o : Options) : List (OptionKey × String) :=
  OptionKey.all.map fun k => (k, o.text k)

/-- The settings that a map holds texts for. -/
def settingsOf (m : StringMap) : List (OptionKey × String) :=
  m.entries.filterMap fun e => (OptionKey.ofText? e.1).map fun k => (k, e.2)

theorem mem_allSettings_iff : (k, text) ∈ o.allSettings ↔ text = o.text k := by
  simp [allSettings, OptionKey.mem_all, eq_comm]

theorem mem_settingsOf_iff {m : StringMap} :
    (k, text) ∈ settingsOf m ↔ (k.text, text) ∈ m.entries := by
  simp only [settingsOf, List.mem_filterMap, Option.map_eq_some_iff, Prod.mk.injEq]
  constructor
  · rintro ⟨e, he, l, hl, rfl, rfl⟩
    rwa [← OptionKey.ofText?_eq_some_iff.1 hl]
  · intro he
    exact ⟨_, he, k, OptionKey.ofText?_text k, rfl, rfl⟩

theorem mem_settingsOf_toMap_iff :
    (k, text) ∈ settingsOf o.toMap ↔ o.sends k = true ∧ text = o.text k := by
  rw [mem_settingsOf_iff, ← SortedMap.get?_eq_some_iff, get?_toMap]
  cases o.sends k <;> simp [eq_comm]

/-- The map that is sent holds nothing but texts for settings. -/
theorem map_settingsOf_toMap (o : Options) :
    (settingsOf o.toMap).map (fun s => (s.1.text, s.2)) = o.toMap.entries := by
  rw [settingsOf, List.map_filterMap]
  refine (List.filterMap_congr ?_).trans (List.filterMap_some ..)
  rintro ⟨t, v⟩ he
  have hc : o.toMap.contains t = true := by
    rw [SortedMap.contains, SortedMap.get?_eq_some_iff.2 he]
    rfl
  obtain ⟨k, rfl⟩ := o.sparse.keys t hc
  simp [OptionKey.ofText?_text]

namespace Draft

/-- Options that have been built are built again from their own texts, in any order, and so they are
from the entries of the map that is sent. -/
theorem rebuilt (d : Draft) (o : Options) (h : d.build = .ok o) :
    (∀ settings, settings.Perm o.allSettings → (ofList settings).build = .ok o) ∧
      (∀ settings, settings.Perm (settingsOf o.toMap) → (ofList settings).build = .ok o) ∧
      (settingsOf o.toMap).map (fun s => (s.1.text, s.2)) = o.toMap.entries := by
  refine ⟨?_, ?_, map_settingsOf_toMap o⟩
  · intro settings hperm
    refine build_again h fun k => .inl ?_
    refine raw_ofList_of_mem (hperm.mem_iff.2 (mem_allSettings_iff.2 rfl)) ?_
    exact fun t ht => mem_allSettings_iff.1 (hperm.mem_iff.1 ht)
  · intro settings hperm
    refine build_again h fun k => ?_
    have hmem (t : String) : (k, t) ∈ settings ↔ o.sends k = true ∧ t = o.text k :=
      hperm.mem_iff.trans mem_settingsOf_toMap_iff
    cases hs : o.sends k with
    | true => exact .inl (raw_ofList_of_mem ((hmem _).2 ⟨hs, rfl⟩) fun t ht => ((hmem t).1 ht).2)
    | false =>
      have hdefault : o.text k = k.default := by
        rw [sends, Bool.or_eq_false_iff] at hs
        simpa using hs.1
      -- What is not sent has its default, and a draft without a text for it reads the same.
      refine .inr ⟨raw_ofList_of_not_mem fun t ht => ?_, hdefault⟩
      have := ((hmem t).1 ht).1
      simp [hs] at this

/-- The options of some texts that are in no normal form. -/
theorem rebuilt_untidy :
    let d := ofList [(.duration, "+030\tm"), (.name, " nightly "), (.maxAge, "-0"), (.disk, "True")]
    let o : Options := { name := "nightly", duration := ⟨30, some .m⟩, disk := true }
    d.build = .ok o ∧ (ofList o.allSettings.reverse).build = .ok o ∧
      (ofList (settingsOf o.toMap)).build = .ok o := by
  intro d o
  have h : d.build = .ok o := by decide
  obtain ⟨all, sent, -⟩ := rebuilt d o h
  exact ⟨h, all _ (List.reverse_perm _), sent _ (.refl _)⟩

end Draft

end RemoteRecorder.Options
