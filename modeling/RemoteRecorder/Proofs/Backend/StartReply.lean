import RemoteRecorder.Backend.Diagnostic
import RemoteRecorder.Proofs.Text.Integer
import RemoteRecorder.Proofs.Text.Occurrence
import RemoteRecorder.Proofs.Text.Pattern

/-!
# RemoteRecorder.Proofs.Backend.StartReply

**The number in the answer to a start**, which is a text for people to read.

* `Announces` says which number a text announces: the one that follows the first mention of
  a started recording, up to the first full stop with a space after it. At least one character has
  to stand in front of the full stop.
* Exactly this number is read, whatever else is in the text (`started_numbers_read`).
* The text for the number is what a search for a pattern finds (`groups_search_started`): a search
  that fails at the first mention also fails at all later ones.
-/

namespace RemoteRecorder.Backend.Diagnostic

open Text (FirstIn Pattern Way after? before? after?_eq_some_iff before?_eq_some_iff
  isSome_before?_iff)
open Text.Integer (Spells readChars_eq_ok_iff spells_toString)
open Text.Pattern

/-- How an answer mentions that a recording has been started. -/
def mention : List Char := "Started recording ".toList

/-- The end of the sentence with the number. -/
def stop : List Char := ". ".toList

/-- Which number an answer announces. -/
inductive Announces (reply : List Char) (z : Int) : Prop
  | intro {before : List Char} {c : Char} {rest more after : List Char}
      (mentioned : FirstIn mention reply before (c :: rest))
      (stopped : FirstIn stop rest more after)
      (number : Spells (c :: more) z)

/-! ## The text for the number

Two cuts are made: behind the first mention, and before the first full stop with a blank after it.
Both are the first of their kind, and so the text for the number is determined. -/

/-- What stands in front of the end of the sentence: one character or more. -/
def sentence? : List Char → Option (List Char)
  | [] => none
  | c :: cs => (before? stop cs).map (c :: ·)

theorem idText?_eq (reply : List Char) : idText? reply = (after? mention reply).bind sentence? := by
  unfold idText? mention
  rcases after? _ reply with - | - | ⟨c, cs⟩ <;> rfl

theorem sentence?_eq_some_iff {cs number : List Char} :
    sentence? cs = some number ↔
      ∃ c rest more after, cs = c :: rest ∧ FirstIn stop rest more after ∧ number = c :: more := by
  cases cs with
  | nil => simp [sentence?]
  | cons c cs =>
    simp only [sentence?, Option.map_eq_some_iff, before?_eq_some_iff]
    constructor
    · rintro ⟨more, ⟨after, hf⟩, rfl⟩
      exact ⟨c, cs, more, after, rfl, hf, rfl⟩
    · rintro ⟨_, _, more, after, h, hf, rfl⟩
      cases h
      exact ⟨more, ⟨after, hf⟩, rfl⟩

/-- The two cuts, and the number between them. -/
theorem announces_iff {reply : List Char} {z : Int} :
    Announces reply z ↔ ∃ number, idText? reply = some number ∧ Spells number z := by
  simp only [idText?_eq, Option.bind_eq_some_iff, after?_eq_some_iff, sentence?_eq_some_iff]
  constructor
  · rintro ⟨mentioned, stopped, number⟩
    exact ⟨_, ⟨_, ⟨_, mentioned⟩, _, _, _, _, rfl, stopped, rfl⟩, number⟩
  · rintro ⟨_, ⟨_, ⟨_, mentioned⟩, _, _, _, _, rfl, stopped, rfl⟩, number⟩
    exact ⟨mentioned, stopped, number⟩

/-! ## Reading the number

What is between the cuts may be anything. If it spells no number of a session, the answer is not
understood, even if there is a number further on. -/

variable {reply : String} {id : SessionId}

theorem startedId?_eq_some_iff :
    startedId? reply = some id ↔ Announces reply.toList id.value.toInt := by
  obtain ⟨v⟩ := id
  have read {cs : List Char} : (Text.Integer.readChars cs).toOption = some v ↔
      Spells cs v.toInt := by
    rw [← readChars_eq_ok_iff]
    cases Text.Integer.readChars cs <;> simp [Except.toOption]
  simp [startedId?, announces_iff, Option.bind_eq_some_iff, read]

theorem readStarted_eq_ok_iff :
    readStarted reply = .ok id ↔ Announces reply.toList id.value.toInt := by
  rw [← startedId?_eq_some_iff, readStarted]
  cases startedId? reply <;> simp

/-- A text that announces no number is not understood. -/
theorem readStarted_of_not_announces
    (h : ∀ id : SessionId, ¬ Announces reply.toList id.value.toInt) :
    readStarted reply = .error (.protocol "jfrStart"
      (.unexpectedReply ("no recording id in " ++ Text.quoted reply))) := by
  rw [readStarted]
  cases hs : startedId? reply with
  | none => rfl
  | some id => exact (h id (startedId?_eq_some_iff.1 hs)).elim

/-- A number is announced in the usual way after a text without a mention. -/
theorem announces_usual {before : List Char} (h : ¬ mention <:+: before) (z : Int)
    (tail : List Char) :
    Announces (before ++ mention ++ ((toString z).toList ++ stop ++ tail)) z := by
  have number := spells_toString z
  generalize (toString z).toList = cs at number
  cases cs with
  | nil => exact (number.ne_nil rfl).elim
  | cons c more =>
    have noStop : ¬ stop <:+: more := by
      intro hstop
      have hdot : '.' ∈ c :: more := List.mem_cons_of_mem _ (hstop.subset (by decide))
      rcases number.char hdot with hc | hc | hc <;> cases hc
    refine .intro (Text.firstIn_append ?_ h) (Text.firstIn_append ?_ noStop) number
    · decide
    · decide

/-! ## Searching for the text for the number

The same can be said by a pattern, with its first match from the left. This is not the same cut as a
matter of course: where the first mention is followed by no sentence, a search goes on to later
mentions. It finds nothing there either, because a sentence further on would also end the one at the
first mention. -/

/-- What an answer with a number looks like. -/
def started : Pattern :=
  seq (literal mention)
    (seq (group (seq (one fun _ => true) (fewest fun _ => true)))
      (seq (literal stop) (most fun _ => true)))

/-- The match for the rest of an answer, from the number on. -/
theorem groups_first_sentence (cs : List Char) :
    ((seq (group (seq (one fun _ => true) (fewest fun _ => true)))
      (seq (literal stop) (most fun _ => true))).first cs).map Way.groups =
      (sentence? cs).map fun number => [number] := by
  have continued (text : List Char) :
      ((seq (literal stop) (most fun _ => true)).first text).map Way.groups =
        if stop <+: text then some [] else none := by
    obtain ⟨others, hways, -⟩ := ways_most (fun _ => true) (text.drop stop.length)
    rw [first_literal_seq]
    split
    · simp [first, hways, Way.append]
    · rfl
  cases cs with
  | nil => rfl
  | cons c cs =>
    have begun : (group (seq (one fun _ => true) (fewest fun _ => true))).ways (c :: cs) =
        ((fewest fun _ => true).ways cs).map fun w => (Way.append ⟨[c], [], cs⟩ w).grouped := by
      have hone : (one fun _ => true).ways (c :: cs) = [⟨[c], [], cs⟩] := rfl
      have hseq := ways_seq (b := fewest fun _ => true) hone (List.forall_mem_nil _)
      exact (congrArg (List.map Way.grouped) hseq).trans List.map_map
    rw [first_seq, begun, List.findSome?_map, List.map_findSome?, sentence?, Option.map_map]
    refine Eq.trans ?_ (findSome?_fewest stop (fun taken groups => (c :: taken) :: groups) cs)
    congr
    funext w
    have h := continued w.rest
    show (((seq (literal stop) (most fun _ => true)).first w.rest).map _).map Way.groups = _
    rw [Option.map_map]
    split
    · next hp =>
      rw [if_pos hp, Option.map_eq_some_iff] at h
      obtain ⟨v, hv, hgroups⟩ := h
      simp [hv, hgroups, Way.append, Way.grouped]
    · next hp =>
      rw [if_neg hp, Option.map_eq_none_iff] at h
      rw [h]
      rfl

theorem groups_first_started (cs : List Char) :
    (started.first cs).map Way.groups =
      if mention <+: cs then (sentence? (cs.drop mention.length)).map fun number => [number]
      else none := by
  rw [← groups_first_sentence, started, first_literal_seq]
  split
  · rw [Option.map_map]
    rfl
  · rfl

/-- If there is a sentence in a part of a text, there is one in the text. -/
theorem isSome_sentence?_of_suffix {cs ds : List Char} (h : cs <:+ ds)
    (hs : (sentence? cs).isSome = true) : (sentence? ds).isSome = true := by
  cases cs with
  | nil => cases hs
  | cons c cs =>
    cases ds with
    | nil => cases List.suffix_nil.1 h
    | cons d ds =>
      rw [sentence?, Option.isSome_map, isSome_before?_iff] at hs ⊢
      have tail : cs <:+ ds := by
        rcases List.suffix_cons_iff.1 h with heq | hsuffix
        · cases heq
          exact List.suffix_refl cs
        · exact (List.suffix_cons c cs).trans hsuffix
      exact hs.trans tail.isInfix

/-- After a match further on there is a sentence, so there also is one in all of the text that
a mention at the beginning leaves. -/
theorem isSome_sentence?_of_search {cs : List Char} {w : Way} (c : Char)
    (h : started.search cs = some w) :
    (sentence? ((c :: cs).drop mention.length)).isSome = true := by
  obtain ⟨before, text, rfl, hlater⟩ := exists_first_of_search h
  have hgroups := groups_first_started text
  rw [hlater, Option.map_some] at hgroups
  split at hgroups
  · have hsuffix : text.drop mention.length <:+ (c :: (before ++ text)).drop mention.length := by
      rw [← @List.drop_length_add_append Char (c :: before) text mention.length]
      exact List.drop_suffix_drop_left _ (Nat.le_add_left ..)
    refine isSome_sentence?_of_suffix hsuffix ?_
    rw [← Option.isSome_map, ← hgroups]
    rfl
  · cases hgroups

/-- A search finds the text for the number. -/
theorem groups_search_started (cs : List Char) :
    (started.search cs).map Way.groups = (idText? cs).map fun number => [number] := by
  rw [idText?_eq]
  induction cs with
  | nil => rfl
  | cons c cs ih =>
    have hfirst := groups_first_started (c :: cs)
    rw [search, after?]
    simp only [List.isPrefixOf_iff_prefix]
    by_cases hp : mention <+: c :: cs
    · rw [if_pos hp] at hfirst ⊢
      rw [Option.bind_some]
      cases hs : sentence? ((c :: cs).drop mention.length) with
      | some number =>
        rw [hs] at hfirst
        obtain ⟨w, hw, hgroups⟩ := Option.map_eq_some_iff.1 hfirst
        rw [hw, Option.some_or, Option.map_some, hgroups]
        rfl
      | none =>
        rw [hs] at hfirst
        have later : started.search cs = none := by
          refine Option.eq_none_iff_forall_ne_some.2 fun w hw => ?_
          -- A sentence further on would be one here as well.
          have := isSome_sentence?_of_search c hw
          rw [hs] at this
          cases this
        rw [Option.map_eq_none_iff.1 hfirst, later]
        rfl
    · rw [if_neg hp] at hfirst ⊢
      rw [Option.map_eq_none_iff.1 hfirst, Option.none_or, ih]

/-- From an answer to a start exactly the number is read that it announces, whatever else is in it.
An answer that announces none is not understood. -/
theorem started_numbers_read :
    (∀ (reply : String) (id : SessionId),
      readStarted reply = .ok id ↔ Announces reply.toList id.value.toInt) ∧
    (∀ reply : String, (∀ id : SessionId, ¬ Announces reply.toList id.value.toInt) →
      readStarted reply = .error
        (.protocol "jfrStart" (.unexpectedReply ("no recording id in " ++ Text.quoted reply)))) ∧
    (∀ (before tail : String) (id : SessionId),
      Text.mentions "Started recording " before = false →
        readStarted (before ++ "Started recording " ++ id.text ++ ". " ++ tail) = .ok id) ∧
    ∀ reply : List Char,
      (started.search reply).map Way.groups = (idText? reply).map fun number => [number] := by
  refine ⟨fun _ _ => readStarted_eq_ok_iff, fun _ => readStarted_of_not_announces, ?_,
    groups_search_started⟩
  intro before tail id h
  have hbefore : ¬ mention <:+: before.toList := fun hm => by
    rw [Text.mentions_iff.2 hm] at h
    cases h
  have announced := announces_usual hbefore id.value.toInt tail.toList
  rw [readStarted_eq_ok_iff]
  simp only [String.toList_append, SessionId.text, List.append_assoc]
  simp only [List.append_assoc] at announced
  exact announced

-- The number ends where a full stop is followed by a blank, and so it is none here.
example : (readStarted "Started recording 1.5. No limit").toOption = none := by rfl

end RemoteRecorder.Backend.Diagnostic
