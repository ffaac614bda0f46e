import RemoteRecorder.Proofs.Client.Addressing
import RemoteRecorder.Proofs.Client.Release
import RemoteRecorder.Proofs.Client.Separation
import RemoteRecorder.Proofs.Recording.StreamOpening
import RemoteRecorder.Proofs.Settings
import RemoteRecorder.Proofs.StreamRequest
import RemoteRecorder.Proofs.Table.Encoding

/-!
# RemoteRecorder.Proofs.Client.StreamDefaults

**Streams of the configured block size**: from the settings of a connection to the call that opens a
stream.

* The settings of a connection are those that have been asked for, and their block size is positive
  (`Opening.found`).
* Recordings that are made by plan have that size, and so have their clones, and the clones of those
  (`Chronicle.Standard`).
* Whoever opens a stream over a stopped recording makes the call for it in his third turn at the
  latest (`Chronicle.Played.opens`, `Chronicle.Opens.sent`).
-/

namespace RemoteRecorder

open Client (Step Task Answer)
open Recording (Caller)

/-! ## Settings

A connection may be opened in three ways, and each says by itself which settings it asks for. What a
text asks for is not what the reader makes of it, but what the text configures. -/

/-- Whether certain settings are those that an opening asks for. -/
def Opening.Asks (s : Settings) : Opening → Prop
  | standard => s = ⟨50000, true⟩
  | settings given => s = given
  | text json => Settings.ConfiguredBy json s

/-- The settings of a connection are the ones asked for, and can be used. -/
theorem Opening.found {opening : Opening} {host : Host} {c : Connection}
    (hc : (opening.attempt.run.visit host []).ending = .ok (.ok c)) :
    opening.Asks c.settings ∧ 0 < c.settings.blockSize ∧ ∃ generation object,
      c = ⟨.ofGeneration generation object, c.settings⟩ := by
  have found {s : Settings} (hc : ((Connection.connect s).run.visit host []).ending = .ok (.ok c)) :
      c.settings = s ∧ 0 < c.settings.blockSize ∧ ∃ generation object,
        c = ⟨.ofGeneration generation object, c.settings⟩ := by
    obtain ⟨hs, generation, object, rfl, -⟩ := Connection.connect_visit.found hc
    exact ⟨rfl, hs, generation, object, rfl⟩
  cases opening with
  | standard => exact found hc
  | settings given => exact found hc
  | text json =>
    change ((Connection.connectWithText json).run.visit host []).ending = _ at hc
    unfold Connection.connectWithText at hc
    cases h : Settings.read json with
    | error invalid =>
      rw [h] at hc
      cases Except.ok.inj hc
    | ok s =>
      rw [h] at hc
      obtain ⟨rfl, rest⟩ := found hc
      exact ⟨(Settings.read_eq_ok_iff.1 h).1, rest⟩

/-! ## Recordings by plan, and their clones

The block size is one of the terms on which a recording is made. It never changes, and a clone has
the terms of its source. So the size of a recording by plan is found at the root of its clones, and
this is what the induction over `Standard` says. -/

namespace Chronicle

/-- Whether a recording has been made by plan, with the block size of the connection, or is a clone
of such a one. It may have been started again and again. -/
inductive Standard (c : Chronicle) : Nat → Prop
  | created {k i : Nat} {entry : Entry} {plan : Client.Plan} (hk : c.entries[k]? = some entry)
      (hs : entry.step = .create plan none) (hi : i ∈ entry.made) : Standard c i
  | cloned {k i j : Nat} {entry : Entry} {andStop : Bool} (hi : Standard c i)
      (hk : c.entries[k]? = some entry) (hs : entry.step = .operate i (.clone andStop))
      (hj : j ∈ entry.made) : Standard c j

variable {c c' c₀ : Chronicle} {e : Traffic.Event} {i k : Nat} {entry : Entry} {r : Recording}
  {generation : Generation} {object : ObjectName} {settings : Settings} {task : Task}

theorem Reached.concluded_of_made (hr : c.Reached generation object settings)
    (hk : c.entries[k]? = some entry) (hm : i ∈ entry.made) :
    ∃ answer, c.traffic.client.Concluded entry answer := by
  obtain ⟨task, -, engaged⟩ := hr.engaged.task hk
  cases task with
  | farewell j x answer => exact ⟨answer, engaged.1⟩
  | ended answer => exact ⟨answer, engaged⟩
  | _ =>
    rw [engaged.1] at hm
    cases hm

/-- The block size of the connection comes to all recordings that are made with it, by plan or as
clones. -/
theorem Standard.blockSize (h : c.Standard i) (hr : c.Reached generation object settings)
    (hi : c.traffic.client.contents[i]? = some r) : r.blockSize = settings.blockSize := by
  induction h generalizing r with
  | created hk hs hm =>
    obtain ⟨answer, concluded⟩ := hr.concluded_of_made hk hm
    cases concluded with
    | nothing he ha =>
      rw [he] at hm
      cases hm
    | created hb he hn hsize =>
      rw [hs, hr.connection] at hb
      obtain ⟨-, rfl⟩ := Prod.mk.inj (Option.some.inj hb)
      rw [he, List.mem_singleton] at hm
      subst hm
      obtain rfl := Option.some.inj (hi.symm.trans hn)
      exact hsize
    | cloned ho he hj hn ht ha =>
      rw [hs] at ho
      cases ho
  | cloned source hk hs hm ih =>
    obtain ⟨answer, concluded⟩ := hr.concluded_of_made hk hm
    cases concluded with
    | nothing he ha =>
      rw [he] at hm
      cases hm
    | created hb he hn hsize =>
      rw [hs] at hb
      cases hb
    | cloned ho he hj hn ht ha =>
      obtain ⟨rfl, -⟩ := by simpa [hs] using ho
      rw [he, List.mem_singleton] at hm
      subst hm
      obtain rfl := Option.some.inj (hi.symm.trans hn)
      exact (congrArg Recording.Terms.blockSize ht).trans (ih hj)

end Chronicle

/-! ## Opening a stream

Whoever opens a stream looks at the phase of the recording, then reads its number, then reports what
it is about to do, and then the call is made. Until that call nobody else can come to work on the
recording, since even a close is admitted only during a call, so the recording stays as it was
found. The turns that are left are counted, to say also that the call is made. -/

namespace Client

variable {object : ObjectName} {r₀ : Recording} {since till : Option Instant} {size : Option Int64}
  {i left : Nat} {heard : List Contact} {c c' : Client} {task task' : Task} {t : Caller.Turn}

/-- Where a task stands that opens a stream over the recording `r₀` in slot `i`, and what its step
has heard by then. -/
inductive Task.Opens (object : ObjectName) (r₀ : Recording) (since till : Option Instant)
    (size : Option Int64) (i : Nat) : Nat → List Contact → Task → Prop
  | recording {left heard x} (h : x.Opens object r₀ since till size left heard) :
      Opens object r₀ since till size i left heard (.recording i x)
  | farewell {x answer back} : Opens object r₀ since till size i 0
      [(Recording.streamCall object r₀.id ⟨since, till, size.getD r₀.blockSize⟩, back)]
      (.farewell i x answer)
  | ended {answer back} : Opens object r₀ since till size i 0
      [(Recording.streamCall object r₀.id ⟨since, till, size.getD r₀.blockSize⟩, back)]
      (.ended answer)

/-- What has been called and what is being called is one call in the end, and none before. -/
theorem Task.Opens.sent (h : task.Opens object r₀ since till size i left heard) :
    heard.map Prod.fst ++ task.awaits?.toList = if left = 0 then
      [Recording.streamCall object r₀.id ⟨since, till, size.getD r₀.blockSize⟩] else [] := by
  cases h with
  | recording hx => exact hx.sent
  | farewell => rfl
  | ended => rfl

/-- As long as the call has not been made, the task is quiet and can go on. -/
theorem Task.Opens.goes_on (h : task.Opens object r₀ since till size i left heard)
    (hp : r₀.cell.phase = .stopped) (hl : left ≠ 0) (hi : c.contents[i]? = some r₀)
    (hb : c.connection.backend = .structured object) :
    (c.step? task).isSome = true ∧ ∃ x, task = .recording i x ∧ x.isQuiet = true := by
  cases h with
  | @recording _ _ x hx =>
    obtain ⟨quiet, going, hs⟩ := hx.goes_on hp hl
    refine ⟨?_, x, rfl, quiet⟩
    obtain ⟨slot, hslot, rfl⟩ : ∃ slot, c.recordings[i]? = some slot ∧ slot.content = r₀ := by
      simpa [contents] using hi
    obtain ⟨⟨r, x', n⟩, hn⟩ := Option.isSome_iff_exists.1 hs
    rw [step?_recording going, stepCaller?, hslot]
    simp [hb, hn]
  | _ => exact (hl rfl).elim

theorem opens_afterParting (answer : Answer) {back : Comeback} :
    (c.afterParting i answer).Opens object r₀ since till size i 0
      [(Recording.streamCall object r₀.id ⟨since, till, size.getD r₀.blockSize⟩, back)] := by
  unfold afterParting
  split
  · exact .farewell
  · exact .ended

/-- A turn of a task that opens a stream, which finds the recording as it was until its call
begins. -/
theorem Advance.opens (h : Advance c task t c' task')
    (hb : c.connection.backend = .structured object)
    (q : task.Opens object r₀ since till size i left heard) (hp : r₀.cell.phase = .stopped)
    (hi : left ≠ 0 → c.contents[i]? = some r₀) :
    task'.Opens object r₀ since till size i (left - 1) (heard ++ task.hears t) ∧
      (left ≠ 0 → c'.contents[i]? = some r₀) := by
  cases q with
  | recording hx =>
    cases h with
    | @move _ x t r r' x' hr m =>
      rw [hb] at m
      obtain ⟨hx', hr'⟩ := m.opens hx hp fun hl => Option.some.inj (hr.symm.trans (hi hl))
      refine ⟨.recording hx', fun hl => ?_⟩
      rw [contents_setRecording, hr' hl]
      exact List.getElem?_set_self (List.getElem?_eq_some_iff.1 hr).1
    | @depart _ o =>
      cases hx with
      | ended =>
        refine ⟨?_, fun hl => (hl rfl).elim⟩
        cases o <;> exact opens_afterParting _
  | farewell =>
    refine ⟨?_, fun hl => (hl rfl).elim⟩
    cases h with
    | @farewell i x t r r' x' answer hr m => cases t <;> exact .farewell
    | part | partUnwound => exact .ended
  | ended => cases h

end Client

namespace Traffic

/-- Whether an event is a turn of a task. -/
def Event.isTurnOf (k : Nat) : Event → Bool
  | .turn n _ => n = k
  | .begin _ => false

end Traffic

namespace Chronicle

variable {c c' c₀ : Chronicle} {e : Traffic.Event} {i k : Nat} {r₀ : Recording}
  {object : ObjectName} {settings : Settings} {after schedule past : List Traffic.Event}
  {since till : Option Instant} {size : Option Int64} {generation : Generation}

theorem Played.kept (h : c.Played .structured object settings) : c.traffic.Kept object := by
  obtain ⟨schedule, hs⟩ := h
  exact Traffic.kept_opened.play (traffic_play hs)

/-- What the events of a schedule keep, given those that have been, holds at its end. -/
theorem Played.along {P : List Traffic.Event → Chronicle → Prop}
    (hr : c.Played generation object settings) (h : c.play schedule = some c') (h₀ : P past c)
    (step : ∀ past c₁ e c₂, c₁.Played generation object settings → P past c₁ → c₁.Next e c₂ →
      P (past ++ [e]) c₂) : P (past ++ schedule) c' := by
  induction schedule generalizing c past with
  | nil =>
    rw [List.append_nil]
    exact Option.some.inj h ▸ h₀
  | cons e schedule ih =>
    obtain ⟨s, hs, h⟩ := Option.bind_eq_some_iff.1 h
    have hn := next_of_rush? hr.reached.sourced (Traffic.rush?_of_step? hs)
    have later := ih (hr.record hs) h (step past c e _ hr h₀ hn)
    rwa [List.append_assoc] at later

/-- A recording that nobody works on is in a settled phase. -/
theorem Reached.settled_of_idle {r : Recording} (hr : c.Reached generation object settings)
    (hi : c.traffic.client.contents[i]? = some r) (idle : c.traffic.fleet.Idle i) :
    r.cell.phase.isSettled = true := by
  have order := (hr.sourced.fleet.recordings i r hi).order
  cases hs : r.cell.phase.isSettled with
  | true => rfl
  | false =>
    obtain ⟨k, hk⟩ := order.owned hs
    rw [Recording.rolesOf, idle k] at hk
    cases hk

/-- What is known of the `k`-th step if it opens a stream, after certain events: unless its call has
been made, it has had less than three turns, and the recording is as it was. -/
def Opens (object : ObjectName) (r₀ : Recording) (since till : Option Instant)
    (size : Option Int64) (i k : Nat) (past : List Traffic.Event) (c : Chronicle) : Prop :=
  ∃ (entry : Entry) (task : Task) (left : Nat), c.entries[k]? = some entry ∧
    c.traffic.tasks[k]? = some task ∧ task.Opens object r₀ since till size i left entry.heard ∧
    left = 3 - past.countP (Traffic.Event.isTurnOf k) ∧
    (left ≠ 0 → c.traffic.client.contents[i]? = some r₀)

/-- An event is a turn of the task, or it changes neither the task nor the recording. -/
theorem Opens.next (hr : c.Played .structured object settings) (hp : r₀.cell.phase = .stopped)
    (q : c.Opens object r₀ since till size i k past) (hn : c.Next e c') :
    c'.Opens object r₀ since till size i k (past ++ [e]) := by
  obtain ⟨entry, task, left, he, hk, q, hc, hi⟩ := q
  have hb : c.traffic.client.connection.backend = .structured object :=
    congrArg Connection.backend hr.reached.connection
  rw [Opens, List.countP_append]
  cases hn with
  | begin ho =>
    exact ⟨entry, task, left, Client.getElem?_append_of_some he,
      Client.getElem?_append_of_some hk, q, hc, fun hl => ho.contents (hi hl)⟩
  | @turn n t task₁ client task₁' hn ha =>
    by_cases hnk : n = k
    · subst hnk
      obtain rfl := Option.some.inj (hk.symm.trans hn)
      obtain ⟨q', hi'⟩ := ha.opens hb q hp hi
      have own : [Traffic.Event.turn n t].countP (Traffic.Event.isTurnOf n) = 1 := by
        simp [Traffic.Event.isTurnOf]
      have hlt := (List.getElem?_eq_some_iff.1 hk).1
      refine ⟨entry.add (task.hears t) (c.traffic.client.added client), task₁', left - 1,
        by simp [he], by simp [hlt], q', ?_, ?_⟩
      · omega
      · exact fun hl => hi' (by omega)
    · have other : [Traffic.Event.turn n t].countP (Traffic.Event.isTurnOf k) = 0 := by
        simp [Traffic.Event.isTurnOf, hnk]
      refine ⟨entry, task, left, by simp [hnk, he], by simp [hnk, hk], q, by omega, fun hl => ?_⟩
      -- Nobody else is at work on the recording until the call is made.
      obtain ⟨-, x, rfl, quiet⟩ := q.goes_on hp hl (hi hl) hb
      refine ha.contents (fun y hs => ?_) (hi hl)
      have hx : c.traffic.fleet.caller? i k = some x := Traffic.caller?_fleet.2 ⟨_, hk, rfl⟩
      have hy : c.traffic.fleet.caller? i n = some y := Traffic.caller?_fleet.2 ⟨_, hn, hs⟩
      exact hnk (hr.kept.sound.alone i k n x y hx hy quiet)

/-- One call is made, in the third turn at the latest, and until then the step can go on. -/
theorem Opens.sent (hr : c.Played .structured object settings) (hp : r₀.cell.phase = .stopped)
    (q : c.Opens object r₀ since till size i k past) :
    ∃ (entry : Entry) (task : Task), c.entries[k]? = some entry ∧ c.traffic.tasks[k]? = some task ∧
      (entry.heard.map Prod.fst ++ task.awaits?.toList =
          [Recording.streamCall object r₀.id ⟨since, till, size.getD r₀.blockSize⟩] ∨
        entry.heard.map Prod.fst ++ task.awaits?.toList = [] ∧
          (c.traffic.client.step? task).isSome = true ∧
          past.countP (Traffic.Event.isTurnOf k) < 3) := by
  obtain ⟨entry, task, left, he, hk, q, hc, hi⟩ := q
  refine ⟨entry, task, he, hk, ?_⟩
  rw [q.sent]
  by_cases hl : left = 0
  · exact .inl (if_pos hl)
  · have hb : c.traffic.client.connection.backend = .structured object :=
      congrArg Connection.backend hr.reached.connection
    exact .inr ⟨if_neg hl, (q.goes_on hp hl (hi hl) hb).1, by omega⟩

/-- Whoever opens a stream over a stopped recording begins to do so where nobody else is at work. -/
theorem Played.opens {r : Recording} (hr : c₀.Played .structured object settings)
    (hi : c₀.traffic.client.recording? i = some r) (hs : r.state = .stopped)
    (h : c₀.play (.begin (.operate i (.openStream since till size)) :: after) = some c) :
    r.cell.phase = .stopped ∧ c.Opens object r since till size i c₀.entries.length after := by
  obtain ⟨s, hs', h⟩ := Option.bind_eq_some_iff.1 h
  have hi₀ := Client.contents_of_recording? hi
  have later := hr.record hs'
  obtain ⟨admitted, client, task, hb, rfl⟩ := Traffic.step?_begin hs'
  obtain ⟨rfl, rfl⟩ : c₀.traffic.client.enterRecording i = client ∧
      .recording i (.begun (.openStream since till size)) = task := by
    simpa [Client.begin, Client.withRecording, hi] using hb
  have settled := hr.reached.settled_of_idle hi₀ (Traffic.idle_of_isIdle admitted)
  have stopped : r.cell.phase = .stopped := by
    revert settled hs
    unfold Recording.state
    cases r.cell.phase <;> decide
  refine ⟨stopped, ?_⟩
  show c.Opens object r since till size i c₀.entries.length ([] ++ after)
  refine later.along (P := Opens object r since till size i c₀.entries.length) h ?_ ?_
  · let task : Task := .recording i (.begun (.openStream since till size))
    have hk : (c₀.traffic.tasks ++ [task])[c₀.entries.length]? = some task := by
      rw [hr.reached.engaged.1]
      exact List.getElem?_concat_length
    have held : (c₀.traffic.client.enterRecording i).contents[i]? = some r := by
      rw [Client.contents_enterRecording]
      exact hi₀
    exact ⟨_, task, 3, List.getElem?_concat_length, hk, .recording .begun, rfl, fun _ => held⟩
  · exact fun past c₁ e c₂ hr₁ q hn => q.next hr₁ stopped hn

end Chronicle

namespace Connection

/-- However a connection to a recorder object has come about, its block size is positive. Whoever
opens a stream without another size over a stopped recording, be it made by plan or a clone of
clones, makes one call for it, in his third turn at the latest. The call holds the number of the
recording and a table of the configured size and the bounds after the epoch. Nothing here depends on
how a text is read: which size it configures is said by the grammar of JSON and the keys of its
members. -/
theorem default_streams_as_configured (opening : Opening) {host : Host} {connection : Connection}
    (hc : (opening.attempt.run.visit host []).ending = .ok (.ok connection))
    (hg : connection.backend.generation = .structured) :
    opening.Asks connection.settings ∧ 0 < connection.settings.blockSize ∧
    ∀ before c₀ after c i r since till,
      Chronicle.play { traffic := { client := { connection } } } before = some c₀ →
      c₀.Standard i → c₀.traffic.client.recording? i = some r → r.state = .stopped →
      c₀.play (.begin (.operate i (.openStream since till none)) :: after) = some c →
      ∃ entry task table, c.entries[c₀.entries.length]? = some entry ∧
        c.traffic.tasks[c₀.entries.length]? = some task ∧
        (entry.heard.map Prod.fst ++ task.awaits?.toList =
            [⟨connection.backend.object, "openStream", [.long r.id.value, .table table]⟩] ∨
          entry.heard.map Prod.fst ++ task.awaits?.toList = [] ∧
            (c.traffic.client.step? task).isSome = true ∧
            after.countP (Traffic.Event.isTurnOf c₀.entries.length) < 3) ∧
        ∀ key value, (key, value) ∈ table.pairs ↔
          key = "startTime" ∧ (∃ t, since = some t ∧ t.afterEpoch = true ∧ t.text = value) ∨
          key = "endTime" ∧ (∃ t, till = some t ∧ t.afterEpoch = true ∧ t.text = value) ∨
          key = "blockSize" ∧ toString connection.settings.blockSize.toInt = value := by
  obtain ⟨asked, positive, generation, object, hconnection⟩ := Opening.found hc
  refine ⟨asked, positive, ?_⟩
  intro before c₀ after c i r since till hb standard hi hs ha
  generalize connection.settings = settings at *
  subst hconnection
  obtain rfl : generation = .structured := by
    cases generation <;> first | rfl | cases hg
  have played : c₀.Played .structured object settings := ⟨before, hb⟩
  have size : r.blockSize = settings.blockSize :=
    standard.blockSize played.reached (Client.contents_of_recording? hi)
  obtain ⟨stopped, opens⟩ := played.opens hi hs ha
  have played' : c.Played .structured object settings := by
    refine ⟨before ++ .begin (.operate i (.openStream since till none)) :: after, ?_⟩
    rw [Chronicle.play, Chronicle.follow_append]
    exact Option.bind_eq_some_iff.2 ⟨c₀, hb, ha⟩
  obtain ⟨entry, task, he, hk, sent⟩ := opens.sent played' stopped
  refine ⟨entry, task, .ofMap (StreamRequest.toMap ⟨since, till, r.blockSize⟩), he, hk, sent, ?_⟩
  intro key value
  rw [Table.pairs_ofMap, StreamRequest.mem_toMap_entries, StreamRequest.instantText?_eq_some_iff,
    StreamRequest.instantText?_eq_some_iff, StreamRequest.blockSizeText?_eq_some_iff, size]
  simp only [positive, true_and]

/-- A recorder that is found where it is looked for. -/
def present : Host := ⟨fun _ name => .ok name, fun _ _ => .unwinding ""⟩

/-- An object with a block size, and with a member that is no setting. -/
def sizedText : String := "\x7b\"comment\": [null], \"default_block_size\": 4096\x7d"

/-- A recording is started and stopped. -/
def stopping : List Traffic.Event :=
  Traffic.started [.ok (.long 5), .ok .void, .ok .void, .ok .void] ++ [.turn 1 .act] ++
    [.begin (.operate 0 .stop)] ++ List.replicate 4 (.turn 2 .act) ++
    [.turn 2 (.reply (.ok .void))] ++ List.replicate 3 (.turn 2 .act)

/-- The block size in an object comes to the call for a stream without bounds. -/
theorem default_streams_as_configured_read :
    ∃ connection c₀ c entry task table,
      ((Opening.text sizedText).attempt.run.visit present []).ending = .ok (.ok connection) ∧
      Settings.ConfiguredBy sizedText connection.settings ∧
      Chronicle.play { traffic := { client := { connection } } } stopping = some c₀ ∧
      c₀.play (.begin (.operate 0 (.openStream none none none)) ::
        List.replicate 3 (.turn 3 .act)) = some c ∧
      c.entries[3]? = some entry ∧ c.traffic.tasks[3]? = some task ∧
      entry.heard.map Prod.fst ++ task.awaits?.toList =
        [⟨Generation.structured.objectName, "openStream", [.long 5, .table table]⟩] ∧
      ∀ key value, (key, value) ∈ table.pairs ↔ key = "blockSize" ∧ value = "4096" := by
  have found : ((Opening.text sizedText).attempt.run.visit present []).ending =
      .ok (.ok ⟨.structured Generation.structured.objectName, { blockSize := 4096 }⟩) := rfl
  obtain ⟨c₀, r, entry₀, c, stop, open', hr, hid, idle, he₀, made, plan, three⟩ :
      ∃ c₀ r entry₀ c,
      Chronicle.play { traffic := { client := { connection :=
        ⟨.structured Generation.structured.objectName, { blockSize := 4096 }⟩ } } } stopping =
          some c₀ ∧
      c₀.play (.begin (.operate 0 (.openStream none none none)) ::
        List.replicate 3 (.turn 3 .act)) = some c ∧
      c₀.traffic.client.recording? 0 = some r ∧ r.id = ⟨5⟩ ∧ r.state = .stopped ∧
      c₀.entries[0]? = some entry₀ ∧ entry₀.made = [0] ∧ entry₀.step = .create {} none ∧
      c₀.entries.length = 3 := by
    refine ⟨_, _, _, _, rfl, rfl, rfl, rfl, rfl, rfl, rfl, rfl, rfl⟩
  have standard : c₀.Standard 0 := .created he₀ plan (made ▸ List.mem_singleton_self 0)
  obtain ⟨asked, -, defaults⟩ := default_streams_as_configured (.text sizedText) found rfl
  obtain ⟨entry, task, table, he, hk, call, keys⟩ :=
    defaults _ _ _ _ _ _ none none stop standard hr idle open'
  rw [three] at he hk call
  rw [hid] at call
  refine ⟨_, c₀, c, entry, task, table, found, asked, stop, open', he, hk, ?_, ?_⟩
  · -- Three turns have been had, and so the call has been made.
    exact call.resolve_right fun h => absurd h.2.2 (by decide)
  · intro key value
    have size : toString (4096 : Int64).toInt = "4096" := by decide
    rw [keys, ← size]
    simp only [reduceCtorEq, false_and, exists_false, and_false, false_or, @eq_comm _ value]

end Connection

end RemoteRecorder
