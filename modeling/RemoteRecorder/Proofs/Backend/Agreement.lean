import RemoteRecorder.Proofs.Backend.Supply
import RemoteRecorder.Proofs.Encounter
import RemoteRecorder.Proofs.Exchange
import RemoteRecorder.Proofs.Table.Encoding

/-!
# RemoteRecorder.Proofs.Backend.Agreement

**One request in two protocols.** To start a session with a profile, the diagnostic commands
are sent words, and a recorder object is sent the profile and a table. Cut at its first
equals sign, each word is a pair, and the words say what the profile and the table say,
`disk` apart (`starts_agree`).

The cut is right because no name of an option holds an equals sign; what the user wrote
stands behind the first one, whatever is in it.
-/

namespace RemoteRecorder

/-! ## The calls of an exchange

What is compared are calls, whatever comes back to them. A property of all calls that an exchange
may come to is therefore shown on its tree, and then read off for a target. -/

namespace Exchange

variable {σ α : Type}

/-- The calls of an exchange with a target. -/
def calls (target : Target) (past : List Contact) (e : Exchange σ α) : List Call :=
  (e.meet target past).log.map Prod.fst

@[simp] theorem calls_note (target : Target) (past : List Contact) (n : Notice)
    (e : Exchange σ α) : (note n e).calls target past = e.calls target past := rfl

/-- If nothing is left to do after a call, it is the only one, also if it unwinds. -/
theorem calls_last (target : Target) (past : List Contact) (c : Call) (f : Reply → α) :
    (call c fun reply => (done (f reply) : Exchange σ α)).calls target past = [c] := by
  unfold calls
  cases h : target past c with
  | reply reply =>
    rw [meet_of_reply h]
    rfl
  | unwinding text =>
    rw [meet_of_unwinding h]
    rfl

/-- What holds of all calls that an exchange can come to holds of those it makes. -/
theorem AllCalls.of_mem_calls {P : Call → Prop} {target : Target} {past : List Contact}
    {e : Exchange σ α} (h : e.AllCalls P) : ∀ c ∈ e.calls target past, P c := by
  unfold calls
  induction e generalizing past with
  | done a => simp [meet]
  | note n next ih => exact ih h
  | keep s next ih => exact ih h
  | call request next ih =>
    cases hb : target past request with
    | reply reply =>
      rw [meet_of_reply hb]
      exact List.forall_mem_cons.2 ⟨h.1, ih reply (h.2 reply)⟩
    | unwinding text =>
      rw [meet_of_unwinding hb]
      simpa using h.1

end Exchange

namespace Backend

/-! ## The words of a start

Both protocols send the entries of one map. In words, each entry is a key and a value with an equals
sign between them, and nothing is escaped. It can be undone all the same: a key holds no equals
sign, so the first one in a word is the right one. -/

namespace Diagnostic

/-- The two parts of a word, which is cut at its first equals sign. -/
def cutWord? (word : String) : Option (String × String) :=
  (Text.cut? '=' word.toList).map fun (key, value) => (String.ofList key, String.ofList value)

theorem cutWord?_append {key : String} (h : '=' ∉ key.toList) (value : String) :
    cutWord? (key ++ "=" ++ value) = some (key, value) := by
  have cut : Text.cut? '=' (key ++ "=" ++ value).toList = some (key.toList, value.toList) := by
    rw [Text.cut?_eq_some_iff]
    exact ⟨by simp, h⟩
  rw [cutWord?, cut]
  simp

theorem equals_not_mem_text (k : OptionKey) : '=' ∉ k.text.toList := by
  cases k <;> decide

/-- Cut at their first equals signs, the words of a start are the profile and the options that
are sent, but for `disk`. -/
theorem cut_startWords (options : Options) (profile : String) :
    (startWords options profile).map cutWord? =
      some ("settings", profile) ::
        (options.toMap.entries.filter fun e => e.1 != OptionKey.disk.text).map some := by
  have settings : cutWord? ("settings=" ++ profile) = some ("settings", profile) :=
    cutWord?_append (show '=' ∉ "settings".toList by decide) profile
  rw [startWords, List.map_cons, settings, List.map_map]
  congr 1
  refine List.map_congr_left ?_
  intro e he
  have hget := SortedMap.get?_eq_some_iff.2 (List.mem_filter.1 he).1
  obtain ⟨k, hk⟩ := options.sparse.keys e.1 (by rw [SortedMap.contains, hget]; rfl)
  exact cutWord?_append (hk ▸ equals_not_mem_text k) e.2

-- A name may hold equals signs, commas and spaces.
example : (startWords { name := "a=b, c" } "x=y").map cutWord? =
    [some ("settings", "x=y"), some ("name", "a=b, c")] := by rfl

/-- A start on the diagnostic commands is one call, with the words. -/
theorem start_calls (object : ObjectName) (options : Options) (profile : String)
    (target : Target) (past : List Contact) :
    ((diagnostic object).start options (.predefined profile)).run.calls target past =
      [⟨object, "jfrStart", [.texts (startWords options profile)]⟩] := by
  rw [start_run]
  exact Exchange.calls_last target past _ _

/-- The words of a start tell the profile and every option but `disk`. -/
theorem startWords_inj {options options' : Options} {profile profile' : String}
    (h : startWords options' profile' = startWords options profile) :
    profile' = profile ∧ ∀ key ≠ OptionKey.disk, options'.text key = options.text key := by
  have hcut := congrArg (List.map cutWord?) h
  rw [cut_startWords, cut_startWords] at hcut
  obtain ⟨hprofile, hentries⟩ := List.cons.inj hcut
  have hfilter := (List.map_inj_right fun _ _ => Option.some.inj).1 hentries
  refine ⟨(Prod.mk.inj (Option.some.inj hprofile)).2, ?_⟩
  intro key hkey
  have hne : key.text ≠ OptionKey.disk.text := fun he => hkey (OptionKey.text_injective _ _ he)
  have hget : options'.toMap.get? key.text = options.toMap.get? key.text :=
    SortedMap.get?_of_filter (p := (· != OptionKey.disk.text)) hfilter (by simpa using hne)
  rw [← options'.sparse.get key, ← options.sparse.get key, hget]

end Diagnostic

/-! ## The calls of a start on a recorder object

A target that answers gets all calls of the start. One that does not may get only some of them, and
then still nothing but these. -/

namespace Structured

variable {object : ObjectName} {id : SessionId} {P : Call → Prop}

theorem allCalls_discarded {α : Type} (e : Error)
    (hrelease : P ⟨object, "closeRecording", [.ofId id]⟩) :
    (discarded object id e : Exchange Empty (Except Error α)).AllCalls P := by
  refine ⟨hrelease, ?_⟩
  intro reply
  cases reply <;> trivial

theorem allCalls_setUp {operations : List (String × List Value)}
    (h : ∀ entry ∈ operations, P ⟨object, entry.1, .ofId id :: entry.2⟩)
    (hrelease : P ⟨object, "closeRecording", [.ofId id]⟩) :
    (setUp object id operations).AllCalls P := by
  induction operations with
  | nil => trivial
  | cons entry rest ih =>
    obtain ⟨operation, args⟩ := entry
    obtain ⟨hfirst, hrest⟩ := List.forall_mem_cons.1 h
    refine ⟨hfirst, ?_⟩
    intro reply
    cases reply with
    | ok v => exact ih hrest
    | error f => exact allCalls_discarded _ hrelease

/-- Whatever comes back, a start calls nothing but the operations of a start. -/
theorem allCalls_start {options : Options} {configuration : Configuration}
    (hcreate : P ⟨object, "newRecording", []⟩)
    (h : ∀ id, ∀ entry ∈ setters options configuration, P ⟨object, entry.1, .ofId id :: entry.2⟩)
    (hrelease : ∀ id, P ⟨object, "closeRecording", [.ofId id]⟩) :
    ((structured object).start options configuration).run.AllCalls P := by
  rw [start_run]
  refine ⟨hcreate, ?_⟩
  intro reply
  cases hn : number "newRecording" reply with
  | ok n =>
    simp only [hn]
    exact allCalls_setUp (h ⟨n⟩) (hrelease ⟨n⟩)
  | error e =>
    simp only [hn]
    trivial

/-- A setup that is answered makes all its calls, and no other. -/
theorem setUp_calls_answered (answer : List Contact → Call → Value) (past : List Contact)
    (operations : List (String × List Value)) :
    (setUp object id operations).calls (.replying fun past c => .ok (answer past c)) past =
      operations.map fun entry => ⟨object, entry.1, .ofId id :: entry.2⟩ := by
  induction operations generalizing past with
  | nil => rfl
  | cons entry rest ih =>
    obtain ⟨operation, args⟩ := entry
    rw [setUp, Exchange.calls_note, List.map_cons]
    unfold Exchange.calls
    rw [Exchange.meet_replying rfl]
    exact congrArg (_ :: ·) (ih _)

/-- A start that is answered makes all its calls. -/
theorem start_calls_answered (options : Options) (configuration : Configuration)
    (answer : List Contact → Call → Value) (past : List Contact) {n : Int64}
    (hn : answer past ⟨object, "newRecording", []⟩ = .long n) :
    ((structured object).start options configuration).run.calls
        (.replying fun past c => .ok (answer past c)) past =
      ⟨object, "newRecording", []⟩ ::
        (setters options configuration).map
          fun entry => ⟨object, entry.1, .ofId ⟨n⟩ :: entry.2⟩ := by
  rw [start_run, Exchange.calls_note]
  unfold Exchange.calls
  rw [Exchange.meet_replying rfl, hn]
  exact congrArg (_ :: ·) (setUp_calls_answered answer _ _)

end Structured

/-! ## Both say the same

The table is not the same as the words: it holds `disk`, for which the diagnostic commands have no
word. Everything else is in both, and the words determine it. -/

open Diagnostic (cutWord? startWords)

/-- What the diagnostic commands at `old` and the recorder object at `new` are sent to start a
session with certain options and a profile: words there, and here a table. -/
structure Agreement (old new : ObjectName) (options : Options) (profile : String)
    (words : List String) (table : Table) : Prop where
  /-- The commands are called once, with the words. -/
  words_sent : ∀ target past,
    ((diagnostic old).start options (.predefined profile)).run.calls target past =
      [⟨old, "jfrStart", [.texts words]⟩]
  /-- The recorder object is sent no other options than the table. -/
  table_sent : ∀ target past,
    ∀ c ∈ ((structured new).start options (.predefined profile)).run.calls target past,
      c.operation = "setRecordingOptions" → ∃ id, c.args = [.ofId id, .table table]
  /-- It is sent no other profile. -/
  profile_sent : ∀ target past,
    ∀ c ∈ ((structured new).start options (.predefined profile)).run.calls target past,
      c.operation = "setPredefinedConfiguration" → ∃ id, c.args = [.ofId id, .text profile]
  /-- If it answers, it is sent both. -/
  both_sent : ∀ (answer : List Contact → Call → Value) past n,
    answer past ⟨new, "newRecording", []⟩ = .long n →
    ((structured new).start options (.predefined profile)).run.calls
        (.replying fun past c => .ok (answer past c)) past =
      [⟨new, "newRecording", []⟩,
        ⟨new, "setPredefinedConfiguration", [.ofId ⟨n⟩, .text profile]⟩,
        ⟨new, "setRecordingOptions", [.ofId ⟨n⟩, .table table]⟩,
        ⟨new, "startRecording", [.ofId ⟨n⟩]⟩]
  /-- The words are the profile, and then the pairs of the table, but for `disk`. -/
  words_cut : words.map cutWord? =
    some ("settings", profile) :: (table.pairs.filter fun e => e.1 != "disk").map some
  /-- The pairs ascend by their keys, and no key is there twice. -/
  ascending : table.pairs.Pairwise fun a b => a.1 < b.1
  /-- Nobody else is started with these words. -/
  determined : ∀ options' profile' target past,
    ((diagnostic old).start options' (.predefined profile')).run.calls target past =
      [⟨old, "jfrStart", [.texts words]⟩] →
    profile' = profile ∧ ∀ key ≠ OptionKey.disk, options'.text key = options.text key

/-- Targets of both protocols are sent the same for a start with a profile. -/
theorem starts_agree (old new : ObjectName) (options : Options) (profile : String) :
    ∃ words table, Agreement old new options profile words table := by
  have pairs : (Table.ofMap options.toMap).pairs = options.toMap.entries := Table.pairs_ofMap _
  have sent (target : Target) (past : List Contact) :
      ∀ c ∈ ((structured new).start options (.predefined profile)).run.calls target past,
        (c.operation = "setRecordingOptions" →
          ∃ id, c.args = [.ofId id, .table (.ofMap options.toMap)]) ∧
        (c.operation = "setPredefinedConfiguration" →
          ∃ id, c.args = [.ofId id, .text profile]) := by
    refine (Structured.allCalls_start ?_ ?_ ?_).of_mem_calls
    · simp
    · intro id
      simp [Structured.setters, Configuration.setter, Structured.payload, Value.ofMap]
    · simp
  refine ⟨startWords options profile, .ofMap options.toMap, ?_⟩
  refine ⟨Diagnostic.start_calls old options profile, ?_, ?_, ?_, ?_, ?_, ?_⟩
  · intro target past c hc
    exact (sent target past c hc).1
  · intro target past c hc
    exact (sent target past c hc).2
  · intro answer past n hn
    exact Structured.start_calls_answered options _ answer past hn
  · rw [pairs]
    exact Diagnostic.cut_startWords options profile
  · rw [pairs]
    exact options.toMap.keys_ascend
  · intro options' profile' target past h
    rw [Diagnostic.start_calls] at h
    have hwords : startWords options' profile' = startWords options profile := by
      simpa using h
    exact Diagnostic.startWords_inj hwords

end Backend

end RemoteRecorder
