import RemoteRecorder.Proofs.Recording.Crowd

/-!
# RemoteRecorder.Proofs.Recording.Number

**Where session numbers come from.** The number of a recording stands apart from its
phase, and callers read and write it at moments of their own. Still, whatever holds of
every number that starting a session brings holds of every number that a caller answers
or that an active or stopped recording has.

`Caller.Backed` says which numbers a caller relies on, and where; a step of the caller
itself keeps that (`Move.backed`), and so does a step of anybody else (`Backed.other`).
-/

namespace RemoteRecorder

/-- Whether the number of a recording in this phase is that of a session. -/
def Phase.hasSession : Phase → Bool
  | active | stopped | stopping => true
  | new | closed | starting => false

namespace Recording

/-- Whether the number in an answer, if there is one, has a property. -/
def Backs (P : SessionId → Prop) : Outcome Yield → Prop
  | .returned (.ok (.running id)) => P id
  | _ => True

namespace Caller

/-- Whether the numbers that a caller relies on have a property, in a recording with the
number `id`. -/
def Backed (P : SessionId → Prop) (id : SessionId) : Caller → Prop
  | fetching .answer => P id
  | asking (.start .again) _ | revertingStart .again _ | unwinding (.start .again) _ => P id
  | assigning started => P started
  | settlingStart started => P started ∧ id = started
  | asking (.stopForRelease _ outcome) _ | asking (.release _ outcome) _ => Backs P outcome
  | ended outcome => Backs P outcome
  | _ => True

variable {b : Backend} {r r' : Recording} {c c' : Caller} {t : Turn}
  {P Q : SessionId → Prop} {id : SessionId}

theorem backs_imp {o : Outcome Yield} (h : Backs P o) (hPQ : ∀ id, P id → Q id) : Backs Q o := by
  rcases o with (e | y) | text
  · trivial
  · cases y with
    | running id => exact hPQ id h
    | _ => trivial
  · trivial

theorem Backed.imp (h : c.Backed P id) (hPQ : ∀ id, P id → Q id) : c.Backed Q id := by
  cases c with
  | fetching u => cases u with
    | answer => exact hPQ id h
    | _ => trivial
  | asking e rest => cases e with
    | start l => cases l with
      | first => trivial
      | again => exact hPQ id h
    | stopForRelease i o => exact backs_imp h hPQ
    | release i o => exact backs_imp h hPQ
    | _ => trivial
  | assigning started => exact hPQ started h
  | settlingStart started => exact ⟨hPQ started h.1, h.2⟩
  | revertingStart l e => cases l with
    | first => trivial
    | again => exact hPQ id h
  | unwinding t text =>
    rcases t with (_ | _) | _
    · trivial
    · exact hPQ id h
    · trivial
  | ended o => exact backs_imp h hPQ
  | _ => trivial

/-- Only who owns a start relies on the number staying as it is. -/
theorem Backed.renumber {id' : SessionId} (h : c.Backed P id) (hb : c.role = .bystander)
    (hP : P id') : c.Backed P id' := by
  cases c with
  | fetching u => cases u with
    | answer => exact hP
    | _ => trivial
  | asking e rest => cases e with
    | start l => cases hb
    | stopForRelease i o => cases hb
    | release i o => cases hb
    | _ => trivial
  | unwinding t text => cases hb
  | ended o => exact h
  | assigning started => cases hb
  | settlingStart started => cases hb
  | revertingStart l e => cases hb
  | _ => trivial

/-- Only who has started a session changes the number. -/
theorem Move.id_cases (m : Move b r c t r' c') :
    r'.cell.id = r.cell.id ∨ c = assigning r'.cell.id := by
  cases m with
  | assign => exact .inr rfl
  | _ => exact .inl rfl

/-- A caller keeps relying on the right numbers while another one takes a step. -/
theorem Backed.other {c₂ : Caller} (h : c₂.Backed P r.cell.id) (m : Move b r c t r' c')
    (hc : c.Backed P r.cell.id) (hb : c.role ≠ .bystander → c₂.role = .bystander) :
    c₂.Backed P r'.cell.id := by
  rcases m.id_cases with hid | rfl
  · rw [hid]
    exact h
  · exact h.renumber (hb (by simp [role])) hc

/-- Who answers with the number of a session has seen it run. -/
theorem backed_afterLook {op : Operation} (hs : r.cell.phase.isSettled = true)
    (hr : r.cell.phase.hasSession = true → P r.cell.id) :
    (afterLook r r.cell.phase op).Backed P r.cell.id := by
  have h := looked r r.cell.phase op
  generalize afterLook r r.cell.phase op = c at h
  cases h with
  | claim t ht => trivial
  | running hp => exact hr (by rw [hp hs]; rfl)
  | @read op u hop hu => cases u <;> trivial
  | idle hx => rcases hx with rfl | ⟨e, rfl⟩ <;> trivial

theorem backed_asking {e : Errand} {rest rest' : Exchange Empty (Except Error e.Brings)}
    (h : (asking e rest).Backed P id) : (asking e rest').Backed P id := by
  cases e with
  | start l => cases l <;> exact h
  | _ => exact h

/-- The end of an errand gives a caller only numbers that have just been brought. -/
theorem backed_afterErrand {e : Errand} {rest : Exchange Empty (Except Error e.Brings)}
    {result : Except Error e.Brings} (hc : (asking e rest).Backed P r.cell.id)
    (hstart : ∀ id, Remark.started? (.told (e.report (.returned result))) = some id → P id) :
    (afterErrand b r e result).1.Backed P r.cell.id := by
  cases e with
  | start l =>
    cases result with
    | ok id => exact hstart id rfl
    | error e =>
      cases l with
      | first => trivial
      | again => exact hc
  | stop id => trivial
  | dump id path => cases result <;> trivial
  | clone id stop state => cases result <;> trivial
  | openStream id request => cases result <;> trivial
  | stopForRelease id outcome => cases result <;> exact hc
  | release id outcome => cases result <;> exact hc

/-- Every number that a step relies on has the property of those that have been brought. The owner
of a start is the only one who brings one, and it is assigned before the recording turns active. -/
theorem Move.backed (m : Move b r c t r' c')
    (hstart : ∀ id ∈ (c.remarks c').filterMap Remark.started?, P id)
    (hr : r.cell.phase.hasSession = true → P r.cell.id) (hc : c.Backed P r.cell.id) :
    (r'.cell.phase.hasSession = true → P r'.cell.id) ∧ c'.Backed P r'.cell.id := by
  cases m with
  | close =>
    refine ⟨fun h => (by cases h), ?_⟩
    cases r.cell.phase <;> trivial
  | look hop hp => exact ⟨hr, backed_afterLook hp hr⟩
  | @claim t hp =>
    rcases t with (_ | _) | _
    · exact ⟨fun h => (by cases h), trivial⟩
    · exact ⟨fun h => (by cases h), hr (by rw [hp]; rfl)⟩
    · exact ⟨fun _ => hr (by rw [hp]; rfl), trivial⟩
  | lose hp => exact ⟨hr, trivial⟩
  | @fetch u => exact ⟨hr, by cases u <;> exact hc⟩
  | note => exact ⟨hr, backed_asking hc⟩
  | answer reply => exact ⟨hr, backed_asking hc⟩
  | @cut e _ _ text =>
    refine ⟨hr, ?_⟩
    cases e with
    | start l => cases l with
      | first => trivial
      | again => exact hc
    | _ => trivial
  | @report e result =>
    refine ⟨hr, backed_afterErrand hc fun id hid => hstart id ?_⟩
    simp [remarks, hid]
  | assign => exact ⟨fun _ => hc, hc, rfl⟩
  | activate hp => exact ⟨fun _ => hc.2 ▸ hc.1, hc.1⟩
  | startOvertaken hp => exact ⟨hr, trivial⟩
  -- A first start goes back to where there is no session, and only a later one to an old number.
  | @revert l e hp =>
    refine ⟨fun h => ?_, trivial⟩
    cases l with
    | first => cases h
    | again => exact hc
  | revertOvertaken hp => exact ⟨hr, trivial⟩
  | @settleStop id result hp =>
    exact ⟨fun _ => hr (by rw [hp]; rfl), by cases result <;> trivial⟩
  | @stopOvertaken id result hp => exact ⟨hr, by cases result <;> trivial⟩
  | @unwindTransition t text hp =>
    refine ⟨fun h => ?_, trivial⟩
    rcases t with (_ | _) | _
    · cases h
    · exact hc
    · exact hr (by rw [hp]; rfl)
  | unwindOvertaken hp => exact ⟨hr, trivial⟩
  | reportClone => exact ⟨hr, trivial⟩

end Caller

/-! ## Numbers in a crowd

The number is read and written outside the phase, by steps of their own, so it is not protected by
comparing and setting. It is safe only because the one who writes it owns the transition at that
moment and those who read it for an answer do not mind which of the numbers they get. -/

namespace Crowd

variable {b : Backend} {s s' : Crowd} {P Q : SessionId → Prop}

/-- All numbers that matter to the callers of a crowd have a property. -/
structure Backed (P : SessionId → Prop) (s : Crowd) : Prop where
  recording : s.phase.hasSession = true → P s.recording.cell.id
  callers : ∀ (k : Nat) (c : Caller), s.callers[k]? = some c → c.Backed P s.recording.cell.id

theorem Backed.imp (h : s.Backed P) (hPQ : ∀ id, P id → Q id) : s.Backed Q :=
  ⟨fun hs => hPQ _ (h.recording hs), fun k c hc => (h.callers k c hc).imp hPQ⟩

theorem Backed.receive (h : s.Backed P) (operation : Operation) :
    (s.receive operation).Backed P := by
  refine ⟨h.recording, ?_⟩
  intro k c hc
  rcases receive_caller.1 hc with hc | ⟨-, rfl⟩
  · exact h.callers k c hc
  · trivial

theorem Backed.record {k : Nat} {c c' : Caller} {t : Caller.Turn} {r' : Recording}
    (h : s.Backed P) (o : Orderly s.phase s.roles) (hc : s.callers[k]? = some c)
    (m : c.Move b s.recording t r' c')
    (hstart : ∀ id ∈ (c.remarks c').filterMap Remark.started?, P id) :
    (s.record k c r' c').Backed P := by
  have own := m.backed hstart h.recording (h.callers k c hc)
  refine ⟨own.1, ?_⟩
  intro j c₂ hj
  rw [record_caller hc] at hj
  by_cases hjk : j = k
  · obtain rfl : c' = c₂ := by simpa [hjk] using hj
    exact own.2
  · rw [if_neg hjk] at hj
    refine (h.callers j c₂ hj).other m (h.callers k c hc) ?_
    intro hb
    rw [← roles_eq hc] at hb
    rw [← roles_eq hj]
    exact o.others hb hjk

end Crowd

end Recording

end RemoteRecorder
