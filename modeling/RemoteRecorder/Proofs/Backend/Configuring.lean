import RemoteRecorder.Proofs.Backend.Agreement
import RemoteRecorder.Proofs.Backend.Start
import RemoteRecorder.Proofs.Configuration

/-!
# RemoteRecorder.Proofs.Backend.Configuring

**The way of a configuration to the target.** As soon as a session is created on a recorder object,
it is given its configuration, and nothing else configures it afterwards (`start_gives`). So what is
known of a configuration is known of what the target is sent: the bytes of a settings file arrive as
the text that they are, and settings of events as a table with a row for each key
(`settings_reach_target`).
-/

namespace RemoteRecorder

/-- A call that comes back is followed by the calls of what is left to do. -/
theorem Exchange.calls_of_reply {σ α : Type} {target : Target} {past : List Contact} {c : Call}
    {next : Reply → Exchange σ α} {reply : Reply} (h : target past c = .reply reply) :
    (call c next).calls target past =
      c :: (next reply).calls target (past ++ [(c, .reply reply)]) := by
  rw [calls, meet_of_reply h]
  rfl

/-- An exchange that begins with a call makes it, also if it unwinds. -/
theorem Exchange.exists_calls_call {σ α : Type} {P : Call → Prop} {target : Target}
    {past : List Contact} {c : Call} {next : Reply → Exchange σ α}
    (h : ∀ reply, (next reply).AllCalls P) :
    ∃ rest, (call c next).calls target past = c :: rest ∧ ∀ d ∈ rest, P d := by
  cases hb : target past c with
  | reply reply => exact ⟨_, calls_of_reply hb, (h reply).of_mem_calls⟩
  | unwinding text =>
    rw [calls, meet_of_unwinding hb]
    exact ⟨[], rfl, by simp⟩

namespace Backend.Structured

open RemoteRecorder.Configuration (ofSource ofSettings Refuses)

/-- Whether a start gives its session a value by an operation: once the session is created, the
next call does so, and no later call gives it a configuration. -/
def Gives (object : ObjectName) (configuration : Configuration) (operation : String)
    (value : Value) : Prop :=
  ∀ (options : Options) (target : Target) (past : List Contact) (n : Int64),
    target past (createCall object) = .reply (.ok (.long n)) →
    ∃ rest, ((structured object).start options configuration).run.calls target past =
        createCall object :: ⟨object, operation, [.long n, value]⟩ :: rest ∧
      ∀ c ∈ rest, ∀ other : Configuration, c.operation ≠ other.setter

/-- A setup begins with its first operation. What is called later is one of the others, or the
release of the session. -/
theorem exists_setUp_calls {object : ObjectName} {id : SessionId} {P : Call → Prop}
    {target : Target} {past : List Contact} (first : String × List Value)
    {others : List (String × List Value)}
    (h : ∀ entry ∈ others, P ⟨object, entry.1, .ofId id :: entry.2⟩)
    (hrelease : P (releaseCall object id)) :
    ∃ rest, (setUp object id (first :: others)).calls target past =
      ⟨object, first.1, .ofId id :: first.2⟩ :: rest ∧ ∀ c ∈ rest, P c := by
  rw [setUp, Exchange.calls_note]
  refine Exchange.exists_calls_call ?_
  intro reply
  cases reply with
  | ok v => exact allCalls_setUp h hrelease
  | error f => exact allCalls_discarded _ hrelease

theorem start_gives (object : ObjectName) (configuration : Configuration) :
    Gives object configuration configuration.setter (payload configuration) := by
  intro options target past n h
  have unlike (operation : String)
      (ho : operation ∈ ["setRecordingOptions", "startRecording", "closeRecording"])
      (other : Configuration) : operation ≠ other.setter := by
    rintro rfl
    cases other <;> simp [Configuration.setter] at ho
  have sent : ∃ rest, (setUp object ⟨n⟩ (setters options configuration)).calls target
      (past ++ [(createCall object, .reply (.ok (.long n)))]) =
        ⟨object, configuration.setter, [.long n, payload configuration]⟩ :: rest ∧
      ∀ c ∈ rest, ∀ other : Configuration, c.operation ≠ other.setter := by
    -- The other operations of a setup, and the release, configure nothing.
    refine exists_setUp_calls (configuration.setter, _) ?_ (unlike _ (by simp))
    simpa using ⟨unlike _ (by simp), unlike _ (by simp)⟩
  obtain ⟨rest, hcalls, hrest⟩ := sent
  refine ⟨rest, ?_, hrest⟩
  rw [start_run, Exchange.calls_note, Exchange.calls_of_reply h]
  exact congrArg (_ :: ·) hcalls

/-- Settings reach the target as they are.

A source makes a configuration exactly if it is read to its end and its bytes, in whatever pieces
they come, are a text in UTF-8 that is not blank; and that text is what a recorder object is sent.
Otherwise there is a validation error. The failure of a source is reported whatever its bytes are.

Settings of events make a configuration if there are any, and a recorder object is sent the table
with a row for each key. In it stands the value that the key has in the last pair with it. -/
theorem settings_reach_target (object : ObjectName) :
    (∀ (bytes : List UInt8) (source : ByteSource), source.chunks.flatten = bytes →
      ((∃ c, ofSource source = .ok c) ↔
        source.failure = none ∧
          ∃ text, Utf8 text bytes ∧ ∃ ch ∈ text.toList, Text.isBlank ch = false) ∧
      (∀ c, ofSource source = .ok c →
        ∃ text, Utf8 text bytes ∧ Gives object c "setConfiguration" (.text text)) ∧
      (∀ f, source.failure = some f → Refuses source ("failed to read configuration: " ++ f)) ∧
      (source.failure = none → (∀ text, ¬ Utf8 text bytes) →
        Refuses source "failed to read configuration: stream did not contain valid UTF-8") ∧
      ∀ text, source.failure = none → Utf8 text bytes →
        (∀ ch ∈ text.toList, Text.isBlank ch = true) →
        Refuses source "configuration file content is empty") ∧
    ∀ pairs : List (String × String), pairs ≠ [] →
      ∃ m table, ofSettings pairs = .ok (.eventSettings m) ∧
        Gives object (.eventSettings m) "setRecordingSettings" (.table table) ∧
        Table.encode m = .ok table ∧ table.type = Table.mapType ∧
        ∃ entries : List (String × String),
          table.rows.values = entries.map (fun (k, v) => ⟨[k, v]⟩) ∧
          entries.Pairwise (fun a b => a.1 < b.1) ∧
          ∀ k v, (k, v) ∈ entries ↔
            ∃ before after, pairs = before ++ (k, v) :: after ∧ k ∉ after.map Prod.fst := by
  refine ⟨?_, ?_⟩
  · rintro _ source rfl
    refine ⟨Configuration.exists_ofSource_iff, ?_, fun _ => Configuration.refuses_of_failure,
      Configuration.refuses_of_not_utf8, fun _ => Configuration.refuses_of_blank⟩
    intro c hc
    obtain ⟨text, hs, -, rfl⟩ := Configuration.ofSource_eq_ok_iff.1 hc
    exact ⟨text, hs.utf8, start_gives object (.fileContent text)⟩
  · intro pairs hp
    refine ⟨.ofList pairs, .ofMap (.ofList pairs), Configuration.ofSettings_eq hp, ?_⟩
    refine ⟨start_gives object (.eventSettings _), Table.encode_eq _, rfl, ?_⟩
    exact ⟨_, Table.values_ofMap _, SortedMap.keys_ascend _,
      fun _ _ => SortedMap.mem_entries_ofList⟩

end Backend.Structured

end RemoteRecorder
