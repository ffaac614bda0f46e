import RemoteRecorder.Proofs.Client.Engagement

/-!
# RemoteRecorder.Proofs.Client.Frame

**What a step leaves alone**: all recordings and streams but its own.

* A turn of a task changes the recording or the stream that its step is about, and no other; to
  begin a step changes none (`Next.contents`, `Next.content?`).
* So a recording is what it was for as long as no step on it takes a turn, whatever goes on besides
  (`recording_stays`, `stream_stays`). On its terms it is always (`Reached.grows`).
-/

namespace RemoteRecorder

open Client (Step Task)
open Recording (Caller)

namespace Client

variable {c c' : Client} {entry : Entry} {step : Step} {task task' : Task} {t : Caller.Turn}
  {i j : Nat} {r r' : Recording}

theorem getElem?_append_of_some {α : Type} {l added : List α} {x : α} (h : l[j]? = some x) :
    (l ++ added)[j]? = some x := by
  rw [List.getElem?_append_left (List.getElem?_eq_some_iff.1 h).1]
  exact h

/-! ## Slots of recordings

A recording is in its slot as long as its user holds it, and also afterwards, for as long as
somebody is still at work on it. Two readings of a slot are therefore needed: `contents` for what is
in it, and `recording?` for what its user can still do something with. -/

theorem recording?_eq_some_iff : c.recording? j = some r ↔
    ∃ slot, c.recordings[j]? = some slot ∧ slot.inUse = true ∧ slot.content = r := by
  unfold recording? Slot.held?
  cases c.recordings[j]? with
  | none => simp
  | some slot => cases h : slot.inUse <;> simp [h]

/-- What is held is in its slot. -/
theorem contents_of_recording? (h : c.recording? j = some r) : c.contents[j]? = some r := by
  obtain ⟨slot, hs, -, rfl⟩ := recording?_eq_some_iff.1 h
  simp [contents, hs]

/-- What becomes of a held recording when some slot is changed: if it is in that slot, what the
change makes of it, and nothing otherwise. -/
theorem recording?_modify {f : Slot Recording → Slot Recording} (h : c.recording? j = some r)
    (hc : c'.recordings = c.recordings.modify i f)
    (hf : i = j → ∀ slot, slot.content = r →
      (f slot).inUse = slot.inUse ∧ (f slot).content = r') (hr : i ≠ j → r' = r) :
    c'.recording? j = some r' := by
  obtain ⟨slot, hs, hu, rfl⟩ := recording?_eq_some_iff.1 h
  refine recording?_eq_some_iff.2 ?_
  rw [hc, List.getElem?_modify, hs]
  by_cases hi : i = j
  · obtain ⟨hin, hcontent⟩ := hf hi slot rfl
    exact ⟨f slot, by simp [hi], hin.trans hu, hcontent⟩
  · exact ⟨slot, by simp [hi], hu, (hr hi).symm⟩

theorem recording?_append {added : List (Slot Recording)} (h : c.recording? j = some r)
    (hc : c'.recordings = c.recordings ++ added) : c'.recording? j = some r := by
  obtain ⟨slot, hs, hu, rfl⟩ := recording?_eq_some_iff.1 h
  exact recording?_eq_some_iff.2 ⟨slot, hc ▸ getElem?_append_of_some hs, hu, rfl⟩

theorem recording?_enterRecording (h : c.recording? j = some r) :
    (c.enterRecording i).recording? j = some r :=
  recording?_modify h rfl (fun _ _ hr => ⟨rfl, hr⟩) fun _ => rfl

theorem recording?_leaveRecording (h : c.recording? j = some r) :
    (c.leaveRecording i).recording? j = some r :=
  recording?_modify h rfl (fun _ _ hr => ⟨rfl, hr⟩) fun _ => rfl

theorem recording?_setRecording_self (h : c.recording? j = some r) (r' : Recording) :
    (c.setRecording j r').recording? j = some r' :=
  recording?_modify h rfl (fun _ _ _ => ⟨rfl, rfl⟩) fun hj => (hj rfl).elim

theorem recording?_setRecording_of_ne (h : c.recording? j = some r) (hi : i ≠ j)
    (r' : Recording) : (c.setRecording i r').recording? j = some r :=
  recording?_modify h rfl (fun hj => (hi hj).elim) fun _ => rfl

theorem recording?_conclude (h : c.recording? j = some r)
    (result : Except Error Recording.Yield) : (c.conclude result).1.recording? j = some r := by
  cases result with
  | error e => exact h
  | ok made =>
    cases made with
    | cloned clone => exact recording?_append h rfl
    | _ => exact h

theorem recording?_depart (h : c.recording? j = some r) (o : Outcome Recording.Yield) :
    (c.depart i o).1.recording? j = some r := by
  cases o with
  | returned result => exact recording?_leaveRecording (recording?_conclude h result)
  | unwound text => exact recording?_leaveRecording h

/-- Who holds a recording is not deserted by those who leave it. -/
theorem afterParting_of_recording? (h : c.recording? j = some r) (answer : Answer) :
    c.afterParting j answer = .ended answer := by
  obtain ⟨slot, hs, hu, -⟩ := recording?_eq_some_iff.1 h
  simp [afterParting, Slot.isDeserted, hs, hu]

/-! ## Outsets and advances -/

theorem Outset.contents (h : Outset c step c' task) (hj : c.contents[j]? = some r) :
    c'.contents[j]? = some r := by
  cases h with
  | created hs hb =>
    rw [contents_addRecording]
    exact getElem?_append_of_some hj
  | operate hr =>
    rw [contents_enterRecording]
    exact hj
  | drop hr =>
    rw [contents_releaseRecording]
    exact hj
  | _ => exact hj

/-- A recording remains with its user until he gives it up. -/
theorem Outset.recording? (h : Outset c step c' task) (hd : step ≠ .drop j)
    (hj : c.recording? j = some r) : c'.recording? j = some r := by
  cases h with
  | created hs hb => exact recording?_append hj rfl
  | operate hr => exact recording?_enterRecording hj
  | @drop i _ hr =>
    refine recording?_modify hj rfl ?_ fun _ => rfl
    rintro rfl
    exact (hd rfl).elim
  | _ => exact hj

/-- A turn leaves the recordings alone that its task has no seat at. -/
theorem Advance.contents (h : Advance c task t c' task') (hs : ∀ x, task.seat? ≠ some (j, x))
    (hj : c.contents[j]? = some r) : c'.contents[j]? = some r := by
  have other {i : Nat} {x : Caller} (hi : task.seat? = some (i, x)) : i ≠ j := by
    rintro rfl
    exact hs x hi
  cases h with
  | move hr m | farewell hr m =>
    rw [contents_setRecording, List.getElem?_set_ne (other rfl)]
    exact hj
  | depart =>
    rw [depart_contents]
    exact getElem?_append_of_some hj
  | conclude =>
    rw [(conclude_contents _).2]
    exact getElem?_append_of_some hj
  | _ => exact hj

theorem Advance.recording? (h : Advance c task t c' task') (hs : ∀ x, task.seat? ≠ some (j, x))
    (hj : c.recording? j = some r) : c'.recording? j = some r := by
  have other {i : Nat} {x : Caller} (hi : task.seat? = some (i, x)) : i ≠ j := by
    rintro rfl
    exact hs x hi
  cases h with
  | move hr m | farewell hr m => exact recording?_setRecording_of_ne hj (other rfl) _
  | depart => exact recording?_depart hj _
  | conclude => exact recording?_conclude hj _
  | _ => exact hj

theorem Advance.content? {s : Stream} (h : Advance c task t c' task')
    (hs : ∀ chore rest, task ≠ .stream j chore rest) (hj : c.content? j = some s) :
    c'.content? j = some s := by
  -- A stream is set by the task that works on it, and by nobody else.
  cases h.streamed j with
  | same hc => exact hc.trans hj
  | opened handle hn hc =>
    -- There is nothing yet in the slot of a new stream.
    subst hn
    simp [Client.content?] at hj
  | set ht hc => exact (hs _ _ ht).elim

/-- Who works on a recording works for a step on it. -/
theorem Engaged.recording? {x : Caller} (h : c.Engaged entry task)
    (hs : task.seat? = some (i, x)) : entry.step.recording? = some i := by
  obtain rfl | ⟨answer, rfl⟩ := Task.seat?_eq_some_iff.1 hs
  · obtain ⟨-, op, r, hstep, -⟩ := h
    rw [hstep]
    rfl
  · exact h.2.1

/-- Who works on a recording pursues the operation of its step, or closes the recording as the last
that works on it. -/
theorem Engaged.pursues {x : Caller} (h : c.Engaged entry task) (hs : task.seat? = some (i, x)) :
    ∃ terms op, x.Pursues terms op ∧
      (op = .close ∨ task = .recording i x ∧ entry.step = .operate i op) := by
  obtain rfl | ⟨answer, rfl⟩ := Task.seat?_eq_some_iff.1 hs
  · obtain ⟨-, op, r, hstep, -, hx⟩ := h
    exact ⟨r.terms, op, hx, .inr ⟨rfl, hstep⟩⟩
  · obtain ⟨-, -, r, -, hx⟩ := h
    exact ⟨r.terms, .close, hx, .inl rfl⟩

end Client

namespace Chronicle

variable {c c' c₁ c₂ : Chronicle} {e : Traffic.Event} {schedule : List Traffic.Event} {k j : Nat}
  {r : Recording} {generation : Generation} {object : ObjectName} {settings : Settings}

/-- Whether an event is a turn of a step that is about a certain recording, or stream. -/
def Touches (c : Chronicle) (about : Step → Option Nat) (j : Nat) : Traffic.Event → Prop
  | .begin _ => False
  | .turn k _ => ∃ entry, c.entries[k]? = some entry ∧ about entry.step = some j

/-- Whether all steps of a chronicle are also in another one. -/
def Extends (c c' : Chronicle) : Prop :=
  ∀ (k : Nat) (entry : Entry), c.entries[k]? = some entry →
    ∃ entry', c'.entries[k]? = some entry' ∧ entry'.step = entry.step

theorem Extends.trans (h : c.Extends c₁) (h' : c₁.Extends c₂) : c.Extends c₂ := by
  intro k entry hk
  obtain ⟨entry₁, h₁, hs₁⟩ := h k entry hk
  obtain ⟨entry₂, h₂, hs₂⟩ := h' k entry₁ h₁
  exact ⟨entry₂, h₂, hs₂.trans hs₁⟩

theorem Extends.touches {about : Step → Option Nat} (h : c.Extends c')
    (ht : c.Touches about j e) : c'.Touches about j e := by
  cases e with
  | begin step => exact ht
  | turn k t =>
    obtain ⟨entry, hk, ha⟩ := ht
    obtain ⟨entry', hk', hs⟩ := h k entry hk
    exact ⟨entry', hk', hs ▸ ha⟩

/-- An event adds to what is written down of a step. -/
theorem Next.entry {entry : Entry} (h : c.Next e c') (hk : c.entries[k]? = some entry) :
    ∃ heard made, c'.entries[k]? = some (entry.add heard made) := by
  cases h with
  | begin ho => exact ⟨[], [], by simpa using Client.getElem?_append_of_some hk⟩
  | @turn n t task client task' hn ha =>
    by_cases hnk : n = k
    · exact ⟨_, _, by simp [hnk, hk]; rfl⟩
    · exact ⟨[], [], by simp [hnk, hk]⟩

theorem Next.extends (h : c.Next e c') : c.Extends c' := by
  intro k entry hk
  obtain ⟨heard, made, hk'⟩ := h.entry hk
  exact ⟨_, hk', entry.add_step heard made⟩

/-- A run is its first event and a run from there. -/
theorem Reached.cons (hr : c.Reached generation object settings)
    (h : c.rush (e :: schedule) = some c') :
    ∃ c₁, c.Next e c₁ ∧ c₁.Reached generation object settings ∧ c₁.rush schedule = some c' := by
  obtain ⟨s, hs, h⟩ := Option.bind_eq_some_iff.1 h
  exact ⟨c.record e s, next_of_rush? hr.sourced hs, hr.record hs, h⟩

theorem Reached.extends (hr : c.Reached generation object settings)
    (h : c.rush schedule = some c') : c.Extends c' := by
  induction schedule generalizing c with
  | nil =>
    obtain rfl := Option.some.inj h
    exact fun k entry hk => ⟨entry, hk, rfl⟩
  | cons e schedule ih =>
    obtain ⟨c₁, hn, hr₁, h⟩ := hr.cons h
    exact hn.extends.trans (ih hr₁ h)

/-- What the events of a schedule keep holds at its end. All steps on the way are also in the
chronicle at the end. -/
theorem Reached.along {P : Chronicle → Prop} (hr : c.Reached generation object settings)
    (h : c.rush schedule = some c') (h₀ : P c)
    (step : ∀ c₁ e c₂, c₁.Reached generation object settings → c₁.Extends c' → e ∈ schedule →
      P c₁ → c₁.Next e c₂ → P c₂) : P c' := by
  induction schedule generalizing c with
  | nil => exact Option.some.inj h ▸ h₀
  | cons e schedule ih =>
    have extends' := hr.extends h
    obtain ⟨c₁, hn, hr₁, h⟩ := hr.cons h
    exact ih hr₁ h (step c e c₁ hr extends' List.mem_cons_self h₀ hn)
      fun c₁ e c₂ hr₁ hx he => step c₁ e c₂ hr₁ hx (List.mem_cons_of_mem _ he)

/-! ## Recordings and streams that are left alone

The frame conditions of whole runs. They do not ask that nothing happens meanwhile, only that no
turn is taken by a step on the very recording, or the very stream. Which steps these are is said by
the chronicle at the end of the run, since steps are added but never changed (`Extends`). -/

/-- An event that is no turn of a step on a recording is none of a task that works on it. -/
theorem seat?_of_not_touches (hr : c.Reached generation object settings) {task : Task}
    {t : Caller.Turn} (hk : c.traffic.tasks[k]? = some task)
    (h : ¬ c.Touches Step.recording? j (.turn k t)) (x : Caller) : task.seat? ≠ some (j, x) := by
  intro hs
  obtain ⟨entry, he, engaged⟩ := hr.engaged.entry hk
  exact h ⟨entry, he, engaged.recording? hs⟩

theorem Next.contents (hr : c.Reached generation object settings) (h : c.Next e c')
    (hj : c.traffic.client.contents[j]? = some r) (hw : ¬ c.Touches Step.recording? j e) :
    c'.traffic.client.contents[j]? = some r := by
  cases h with
  | begin ho => exact ho.contents hj
  | turn hk ha => exact ha.contents (seat?_of_not_touches hr hk hw) hj

/-- Only who gives a recording up takes it from its user. -/
theorem Next.recording? (hr : c.Reached generation object settings) (h : c.Next e c')
    (hj : c.traffic.client.recording? j = some r) (hd : e ≠ .begin (.drop j))
    (hw : ¬ c.Touches Step.recording? j e) : c'.traffic.client.recording? j = some r := by
  cases h with
  | begin ho => exact ho.recording? (fun hs => hd (congrArg _ hs)) hj
  | turn hk ha => exact ha.recording? (seat?_of_not_touches hr hk hw) hj

theorem Next.content? {s : Stream} (hr : c.Reached generation object settings) (h : c.Next e c')
    (hj : c.traffic.client.content? j = some s) (hw : ¬ c.Touches Step.stream? j e) :
    c'.traffic.client.content? j = some s := by
  cases h with
  | begin ho => exact (ho.content? j).trans hj
  | turn hk ha =>
    refine ha.content? ?_ hj
    rintro chore rest rfl
    obtain ⟨entry, he, engaged⟩ := hr.engaged.entry hk
    exact hw ⟨entry, he, engaged.2⟩

/-- All recordings remain, on the terms on which they have been made. -/
theorem Reached.grows (hr : c.Reached generation object settings) (h : c.rush schedule = some c') :
    c.traffic.client.Grows c'.traffic.client :=
  hr.along (P := fun c₁ => c.traffic.client.Grows c₁.traffic.client) h (.refl _)
    fun _ _ _ _ _ _ g hn => g.trans hn.grows

/-- A recording stays what it is while no step on it takes a turn. -/
theorem Reached.recording_stays (hr : c.Reached generation object settings)
    (h : c.rush schedule = some c') (hj : c.traffic.client.contents[j]? = some r)
    (hw : ∀ e ∈ schedule, ¬ c'.Touches Step.recording? j e) :
    c'.traffic.client.contents[j]? = some r :=
  hr.along (P := fun c => c.traffic.client.contents[j]? = some r) h hj
    fun _ _ _ hr₁ hx he hj hn => hn.contents hr₁ hj fun ht => hw _ he (hx.touches ht)

/-- A recording that its user holds and does not give up stays so. -/
theorem Reached.held_stays (hr : c.Reached generation object settings)
    (h : c.rush schedule = some c') (hj : c.traffic.client.recording? j = some r)
    (hd : .begin (.drop j) ∉ schedule) (hw : ∀ e ∈ schedule, ¬ c'.Touches Step.recording? j e) :
    c'.traffic.client.recording? j = some r := by
  refine hr.along (P := fun c => c.traffic.client.recording? j = some r) h hj ?_
  intro c₁ e c₂ hr₁ hx he hj hn
  refine hn.recording? hr₁ hj ?_ fun ht => hw e he (hx.touches ht)
  rintro rfl
  exact hd he

/-- A stream that no step uses stays what it is. -/
theorem Reached.stream_stays {s : Stream} (hr : c.Reached generation object settings)
    (h : c.rush schedule = some c') (hj : c.traffic.client.content? j = some s)
    (hw : ∀ e ∈ schedule, ¬ c'.Touches Step.stream? j e) :
    c'.traffic.client.content? j = some s :=
  hr.along (P := fun c => c.traffic.client.content? j = some s) h hj
    fun _ _ _ hr₁ hx he hj hn => hn.content? hr₁ hj fun ht => hw _ he (hx.touches ht)

end Chronicle

end RemoteRecorder
