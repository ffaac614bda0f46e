import RemoteRecorder.Configuration
import RemoteRecorder.Proofs.SortedMap

/-!
# RemoteRecorder.Proofs.Configuration

**What a configuration is made of.**

* A source holds a text if it is read to its end and its pieces together are the text in UTF-8
  (`ByteSource.Holds`). Where it is cut does not matter.
* The configuration of a source is the text that it holds, as it is, unless this is blank
  (`ofSource_eq_ok_iff`). Otherwise the failure of the source is reported, whatever came before it,
  or that there is no text, or that it is blank.
* Settings of events are a map in which the last of several pairs with one key counts
  (`ofSettings_eq`).
-/

namespace RemoteRecorder

theorem Text.allBlank_eq_false_iff {text : String} :
    allBlank text = false ↔ ∃ c ∈ text.toList, isBlank c = false := by
  simp [allBlank]

/-! ## Texts in pieces

Bytes come in pieces of any sizes, and a character may be cut in two. So it is only of all the bytes
together that it can be said whether they are a text. -/

/-- Whether some bytes are a text in UTF-8. -/
def Utf8 (text : String) (bytes : List UInt8) : Prop := text.toByteArray.data.toList = bytes

theorem fromUTF8?_eq_some_iff {text : String} {bytes : List UInt8} :
    String.fromUTF8? ⟨bytes.toArray⟩ = some text ↔ Utf8 text bytes := by
  unfold Utf8 String.fromUTF8?
  constructor
  · intro h
    obtain ⟨_, h⟩ := Option.dite_none_right_eq_some.1 h
    rw [← Option.some.inj h]
    rfl
  · rintro rfl
    exact dif_pos text.isValidUTF8

namespace ByteSource

variable {source : ByteSource} {text : String}

/-- Whether a source holds a text, however this is cut into pieces. -/
structure Holds (source : ByteSource) (text : String) : Prop where
  complete : source.failure = none
  utf8 : Utf8 text source.chunks.flatten

theorem text_of_failure {f : String} (h : source.failure = some f) :
    source.text = .error (.failed f) := by
  rw [ByteSource.text, h]

/-- What is read of a source is the text that it holds. -/
theorem text_eq_ok_iff : source.text = .ok text ↔ source.Holds text := by
  unfold ByteSource.text
  constructor
  · intro h
    cases hf : source.failure with
    | some f => simp [hf] at h
    | none =>
      cases hs : String.fromUTF8? ⟨source.chunks.flatten.toArray⟩ with
      | none => simp [hf, hs] at h
      | some decoded =>
        obtain rfl : decoded = text := by simpa [hf, hs] using h
        exact ⟨hf, fromUTF8?_eq_some_iff.1 hs⟩
  · intro h
    simp only [h.complete, fromUTF8?_eq_some_iff.2 h.utf8]

/-- A source that is read to its end and holds no text is not UTF-8. -/
theorem text_of_not_utf8 (hf : source.failure = none)
    (h : ∀ text, ¬ Utf8 text source.chunks.flatten) : source.text = .error .notUtf8 := by
  cases hs : String.fromUTF8? ⟨source.chunks.flatten.toArray⟩ with
  | none => simp only [ByteSource.text, hf, hs]
  | some text => exact (h text (fromUTF8?_eq_some_iff.1 hs)).elim

end ByteSource

namespace Configuration

variable {source : ByteSource} {text : String} {c : Configuration}

/-! ## Settings files

A source is refused for three reasons, and the first of them that applies is told: it has failed,
its bytes are no text, or the text is blank. -/

theorem ofContent_eq_ok_iff :
    ofContent text = .ok c ↔ Text.allBlank text = false ∧ c = .fileContent text := by
  unfold ofContent
  cases Text.allBlank text <;> simp [eq_comm]

/-- The configuration of a source is the text that it holds, nothing trimmed. -/
theorem ofSource_eq_ok_iff : ofSource source = .ok c ↔
    ∃ text, source.Holds text ∧ Text.allBlank text = false ∧ c = .fileContent text := by
  simp only [← ofContent_eq_ok_iff, ← ByteSource.text_eq_ok_iff]
  unfold ofSource
  cases source.text with
  | error cause => simp
  | ok text => simp

-- A character may be cut in two.
example : (ofSource ⟨[[0xc3], [0xa9, 0x0a]], none⟩).toOption = some (.fileContent "é\n") := by
  decide

/-- A source makes a configuration just if nothing is wrong with it. -/
theorem exists_ofSource_iff : (∃ c, ofSource source = .ok c) ↔ source.failure = none ∧
    ∃ text, Utf8 text source.chunks.flatten ∧ ∃ ch ∈ text.toList, Text.isBlank ch = false := by
  simp only [ofSource_eq_ok_iff, Text.allBlank_eq_false_iff]
  constructor
  · rintro ⟨_, text, hs, hb, -⟩
    exact ⟨hs.complete, text, hs.utf8, hb⟩
  · rintro ⟨hf, text, hu, hb⟩
    exact ⟨_, text, ⟨hf, hu⟩, hb, rfl⟩

/-- Whether a source makes no configuration, for a reason that is told as an invalid argument. -/
def Refuses (source : ByteSource) (reason : String) : Prop :=
  (ofSource source).mapError Invalid.toError = .error (.validation reason)

/-- A failure is told whatever was read before it. -/
theorem refuses_of_failure {f : String} (h : source.failure = some f) :
    Refuses source ("failed to read configuration: " ++ f) := by
  rw [Refuses, ofSource, ByteSource.text_of_failure h]
  rfl

theorem refuses_of_not_utf8 (hf : source.failure = none)
    (h : ∀ text, ¬ Utf8 text source.chunks.flatten) :
    Refuses source "failed to read configuration: stream did not contain valid UTF-8" := by
  rw [Refuses, ofSource, ByteSource.text_of_not_utf8 hf h]
  rfl

theorem refuses_of_blank (hf : source.failure = none) (hu : Utf8 text source.chunks.flatten)
    (hb : ∀ ch ∈ text.toList, Text.isBlank ch = true) :
    Refuses source "configuration file content is empty" := by
  have blank : Text.allBlank text = true := List.all_eq_true.2 hb
  rw [Refuses, ofSource, ByteSource.text_eq_ok_iff.2 ⟨hf, hu⟩]
  simp only [ofContent, blank, if_true]
  rfl

/-! ## Settings of events -/

theorem ofSettings_eq {pairs : List (String × String)} (h : pairs ≠ []) :
    ofSettings pairs = .ok (.eventSettings (.ofList pairs)) :=
  if_neg (h ∘ List.isEmpty_iff.1)

end Configuration

end RemoteRecorder
