import RemoteRecorder.Proofs.Recording.Provenance
import RemoteRecorder.Proofs.Recording.Verdict

/-!
# RemoteRecorder.Proofs.Recording.Possession

**Which sessions a caller lays hands on**: that of its recording, or one that it has brought.

* `Caller.Handles` says that all sessions that a caller is going to name have a property, given the
  number of the recording. A step keeps that if the number of a recording with a session has the
  property, and the one that a start has brought (`Move.handles`).
* `Possession` is the same of a recording together with its callers, and whatever they rely on.
  There the property is kept whoever takes a step (`Possession.move`).
* Only a start changes the number. It does not matter to those who close the recording
  (`handles_of_close`).
-/

namespace RemoteRecorder

theorem Phase.hasSession_of_hasRemoteData {p : Phase} (hs : p.isSettled = true)
    (hd : p.state.hasRemoteData = true) : p.hasSession = true := by
  revert hs hd
  cases p <;> decide

/-- What clears up asks for no session. -/
theorem Contact.brings?_eq_none {op : Recording.Operation} {call : Call}
    (h : op.clearsUp call = true) (back : Comeback) : Contact.brings? (call, back) = none := by
  have named : call.operation = "closeRecording" ∨ call.operation = "stopRecording" ∨
      call.operation = "jfrStop" := by
    have h : call.operation = "closeRecording" ∨ op ≠ .stop ∧
        (call.operation = "stopRecording" ∨ call.operation = "jfrStop") := by
      simpa [Recording.Operation.clearsUp, Call.isRelease, Call.isStop] using h
    exact h.imp_right And.right
  cases back with
  | unwinding text => rfl
  | reply reply =>
    rcases reply with f | v
    · rfl
    · rcases named with hc | hc | hc
      all_goals cases v <;> simp [Contact.brings?, Signal.brings?, Call.asksNumber, hc]

namespace Recording

variable {P Q : SessionId → Prop}

namespace Caller

/-- Whether the sessions that a caller has to do with have a property, in a recording with the
number `id`. -/
def Handles (P : SessionId → Prop) (id : SessionId) : Caller → Prop
  | fetching _ => P id
  | asking e _ => ∀ session, e.session? = some session → P session
  | settlingStop session _ => P session
  | _ => True

variable {b : Backend} {r r' : Recording} {c c' d : Caller} {t : Turn} {id id' : SessionId}
  {heard : List Contact} {object : ObjectName} {generation : Generation} {terms : Terms}

theorem Handles.imp (h : c.Handles P id) (hPQ : ∀ id, P id → Q id) : c.Handles Q id := by
  cases c with
  | fetching u => exact hPQ _ h
  | asking e rest => exact fun session hs => hPQ _ (h session hs)
  | settlingStop session result => exact hPQ _ h
  | _ => trivial

/-- Who is about to read the number has to do with whatever stands there. -/
theorem Handles.renumber (h : c.Handles P id) (hP : P id') : c.Handles P id' := by
  cases c with
  | fetching u => exact hP
  | _ => exact h

/-- What follows a look at the phase is either about no session or about that of the recording. -/
theorem handles_afterLook {op : Operation} (hs : r.cell.phase.isSettled = true)
    (hr : r.cell.phase.hasSession = true → P r.cell.id) :
    (afterLook r r.cell.phase op).Handles P r.cell.id := by
  have h := looked r r.cell.phase op
  generalize afterLook r r.cell.phase op = c at h
  cases h with
  | running hp => exact hr (by rw [hp hs]; rfl)
  | read hop hu hd => exact hr (Phase.hasSession_of_hasRemoteData hs hd)
  | _ => trivial

theorem handles_use (h : P r.cell.id) (u : Use) : (use b r r.id u).Handles P r.cell.id := by
  cases u with
  | answer => trivial
  | _ => exact fun session hs => Option.some.inj hs ▸ h

/-- An errand hands on the session it was about, and none besides. -/
theorem handles_afterErrand {e : Errand} (h : ∀ session, e.session? = some session → P session)
    (result : Except Error e.Brings) : (afterErrand b r e result).1.Handles P id := by
  cases e with
  | stop session => exact h session rfl
  | stopForRelease session o => cases result <;> first | exact h | trivial
  | _ => cases result <;> trivial

/-- A step gives a caller no session in hand but that of its recording and one it has started. -/
theorem Move.handles (m : Move b r c t r' c') (hr : r.cell.phase.hasSession = true → P r.cell.id)
    (hs : ∀ id, c = settlingStart id → P id) (h : c.Handles P r.cell.id) :
    c'.Handles P r'.cell.id := by
  cases m with
  | close =>
    cases hp : r.cell.phase with
    | active => exact hr (by rw [hp]; rfl)
    | _ => trivial
  | look hop hp => exact handles_afterLook hp hr
  | @claim t hp =>
    cases t with
    | start l => exact nofun
    | stop => exact hr (by rw [hp]; rfl)
  | @fetch u => exact handles_use h u
  | note => exact h
  | answer => exact h
  | @cut e _ _ text => cases e <;> trivial
  | report => exact handles_afterErrand h _
  | @startOvertaken id hp => exact fun session he => Option.some.inj he ▸ hs id rfl
  | @settleStop id result hp => cases result <;> trivial
  | stopOvertaken hp => exact fun session he => Option.some.inj he ▸ h
  | _ => trivial

/-- Who has just written a number down has to do with no session but his own. -/
theorem Move.handles_of_assigning (m : Move b r (assigning id) t r' c') : c'.Handles P id' := by
  cases m
  trivial

/-- Who closes a recording, and is not releasing its session, has to do with no session. -/
theorem handles_of_close (hs : c.Pursues terms .close) (hb : c.role = .bystander) :
    c.Handles P id := by
  cases c with
  | fetching u =>
    cases u with
    | release => cases hb
    | openStream request =>
      obtain ⟨since, till, size, he, -⟩ := hs
      cases he
    | _ => cases hs
  | asking e rest =>
    cases e with
    | stopForRelease id o | release id o => cases hb
    | openStream id request =>
      obtain ⟨since, till, size, he, -⟩ := hs
      cases he
    | _ => cases hs
  | settlingStop id result => cases hs
  | _ => trivial

/-- Who closes a recording makes calls that clear up, and no others. -/
theorem Told.clearsUp {call : Call} (h : c.Told generation .close heard)
    (hs : c.Pursues terms .close) (hp : c.pending? = some call) :
    Operation.close.clearsUp call = true := by
  obtain ⟨e, next, rfl⟩ := pending?_eq_some_iff.1 hp
  cases e with
  | stopForRelease id o | release id o => exact h.1.1
  | openStream id request =>
    obtain ⟨since, till, size, he, -⟩ := hs
    cases he
  | _ => cases hs

/-- So no reply to whoever closes a recording brings a session. -/
theorem Told.brings?_eq_none {contact : Contact} (h : c.Told generation .close heard)
    (hs : c.Pursues terms .close) (hc : t.contact? c.pending? = some contact) :
    contact.brings? = none := by
  have clear {call : Call} (hp : c.pending? = some call) (back : Comeback) :
      Contact.brings? (call, back) = none := Contact.brings?_eq_none (h.clearsUp hs hp) back
  cases t with
  | act => cases hc
  | reply answer =>
    obtain ⟨call, hp, rfl⟩ := Option.map_eq_some_iff.1 hc
    exact clear hp _
  | unwind text =>
    obtain ⟨call, hp, rfl⟩ := Option.map_eq_some_iff.1 hc
    exact clear hp _

end Caller

/-! ## A recording and its callers

For a single caller the property is kept only if those who change the number keep to it as well. The
order among callers says who can change it, so the property is kept by all of them together. -/

/-- Whether the sessions of a recording have a property: those that it shows, that its callers rely
on, and that they have to do with. -/
structure Possession (P : SessionId → Prop) (r : Recording) (callers : Nat → Option Caller) :
    Prop where
  recording : r.cell.phase.hasSession = true → P r.cell.id
  backed : ∀ k c, callers k = some c → c.Backed P r.cell.id
  handles : ∀ k c, callers k = some c → c.Handles P r.cell.id

namespace Possession

variable {b : Backend} {r r' : Recording} {callers : Nat → Option Caller} {k : Nat}
  {c c' : Caller} {t : Caller.Turn} {d? : Option Caller}

/-- A property that is weaker is kept as well. It is used when more sessions become known. -/
theorem imp (q : Possession P r callers) (hPQ : ∀ id, P id → Q id) : Possession Q r callers :=
  ⟨fun h => hPQ _ (q.recording h), fun k c hc => (q.backed k c hc).imp hPQ,
    fun k c hc => (q.handles k c hc).imp hPQ⟩

theorem of_nobody (h : r.cell.phase.hasSession = true → P r.cell.id) :
    Possession P r fun _ => none :=
  ⟨h, by simp, by simp⟩

/-- Who comes or goes has to do with no session. -/
theorem seat (q : Possession P r callers) (hs : d? = none ∨ ∃ op, d? = some (.begun op)) :
    Possession P r (Function.update callers k d?) := by
  have begun {Q : Caller → Prop} (hQ : ∀ op, Q (.begun op)) (d : Caller) (hd : d? = some d) :
      Q d := by
    rcases hs with rfl | ⟨op, rfl⟩
    · cases hd
    · exact Option.some.inj hd ▸ hQ op
  exact ⟨q.recording, Sourced.forall_update (begun fun _ => trivial) fun j _ => q.backed j,
    Sourced.forall_update (begun fun _ => trivial) fun j _ => q.handles j⟩

/-- A step of a caller: what it has started has the property. -/
theorem move (o : Orderly r.cell.phase (rolesOf callers)) (q : Possession P r callers)
    (hk : callers k = some c) (m : c.Move b r t r' c')
    (hs : ∀ l id, c = .asking (.start l) (.done (.ok id)) → P id) :
    Possession P r' (Function.update callers k (some c')) := by
  have hrole : rolesOf callers k = c.role := Sourced.rolesOf_eq hk
  have own := q.backed k c hk
  obtain ⟨hrec, hback⟩ := m.backed (fun id hid => by
    obtain ⟨l, rfl⟩ := Caller.eq_of_started? hid
    exact hs l id rfl) q.recording own
  have settling (id : SessionId) (hc : c = .settlingStart id) : P id := by
    subst hc
    exact own.1
  refine ⟨hrec, Sourced.forall_update (fun d hd => Option.some.inj hd ▸ hback) ?_,
    Sourced.forall_update
      (fun d hd => Option.some.inj hd ▸ m.handles q.recording settling (q.handles k c hk)) ?_⟩
  · intro j hj d hd
    refine (q.backed j d hd).other m own ?_
    intro hc
    rw [← Sourced.rolesOf_eq hd]
    exact o.others (by rwa [hrole]) hj
  · intro j hj d hd
    rcases m.id_cases with hid | rfl
    · rw [hid]
      exact q.handles j d hd
    · exact (q.handles j d hd).renumber own

end Possession

end Recording

end RemoteRecorder
