import RemoteRecorder.Proofs.Client.Chronicle

/-!
# RemoteRecorder.Proofs.Client.Engagement

**Which step a task is at work for**, and what recordings a step makes.

* A task works on the recording or the stream that its step is about, and a caller pursues the
  operation of the step (`Client.Engaged`).
* A step makes one recording or none (`Client.Concluded`): a recording by plan has the block size of
  the plan, and a clone is on the terms of its source. A clone that does not fail makes one.
-/

namespace RemoteRecorder

open Client (Step Answer Task)
open Recording (Caller)

/-- The recording that a step works on. -/
def Client.Step.recording? : Step → Option Nat
  | operate i _ | drop i => some i
  | _ => none

/-- The stream that a step works on. -/
def Client.Step.stream? : Step → Option Nat
  | read i _ | readAll i | closeStream i | dropStream i => some i
  | _ => none

/-- The slot of the recording that an answer tells of, if it does. -/
def Client.Answer.made : Answer → List Nat
  | recording n _ _ => [n]
  | _ => []

namespace Client

/-- What a step has made when it has its answer. -/
inductive Concluded (c : Client) : Entry → Answer → Prop
  | nothing {entry answer} (hm : entry.made = [])
      (ha : ∀ i andStop, entry.step = .operate i (.clone andStop) →
        answer = .noSlot ∨ (∃ e, answer = .error e) ∨ ∃ text, answer = .unwound text) :
      Concluded c entry answer
  | created {entry answer plan size n r}
      (hs : entry.step.blueprint? c.connection.settings = some (plan, size))
      (hm : entry.made = [n]) (hn : c.contents[n]? = some r) (hb : r.blockSize = size) :
      Concluded c entry answer
  | cloned {entry answer i andStop n r copied} (hs : entry.step = .operate i (.clone andStop))
      (hm : entry.made = [n]) (hi : c.contents[i]? = some r) (hn : c.contents[n]? = some copied)
      (ht : copied.terms = r.terms) (ha : answer.made = [n] ∨ ∃ text, answer = .unwound text) :
      Concluded c entry answer

/-- Whether a task is at work for a step, and its step has made what it should by now. -/
def Engaged (c : Client) (entry : Entry) : Task → Prop
  | .recording i x => entry.made = [] ∧ ∃ op r, entry.step = .operate i op ∧
    c.contents[i]? = some r ∧ x.Pursues r.terms op
  | .farewell i x answer => c.Concluded entry answer ∧ entry.step.recording? = some i ∧
    ∃ r, c.contents[i]? = some r ∧ x.Pursues r.terms .close
  | .direct _ => entry.made = [] ∧ ∃ request, entry.step = .direct request
  | .stream i _ _ => entry.made = [] ∧ entry.step.stream? = some i
  | .ended answer => c.Concluded entry answer

variable {c c' : Client} {entry : Entry} {step : Step} {answer : Answer} {task task' : Task}
  {t : Caller.Turn} {i : Nat}

/-! ## What does not matter

What is known of a step and its task stays known when other steps add recordings, when the step
itself hears something, and when it is cut off. -/

theorem Concluded.grows (h : c.Concluded entry answer) (g : c.Grows c') :
    c'.Concluded entry answer := by
  cases h with
  | nothing hm ha => exact .nothing hm ha
  | created hs hm hn hb =>
    obtain ⟨r', hn', ht⟩ := g.recordings _ _ hn
    have size : r'.blockSize = _ := congrArg Recording.Terms.blockSize ht
    exact .created (g.connection ▸ hs) hm hn' (size.trans hb)
  | cloned hs hm hi hn ht ha =>
    obtain ⟨source, hi', hsource⟩ := g.recordings _ _ hi
    obtain ⟨copied, hn', hcopied⟩ := g.recordings _ _ hn
    exact .cloned hs hm hi' hn' (hcopied.trans (ht.trans hsource.symm)) ha

/-- Who is cut off gets another answer, and what it has made stays. -/
theorem Concluded.unwound (h : c.Concluded entry answer) (text : String) :
    c.Concluded entry (.unwound text) := by
  cases h with
  | nothing hm ha => exact .nothing hm fun _ _ _ => .inr (.inr ⟨text, rfl⟩)
  | created hs hm hn hb => exact .created hs hm hn hb
  | cloned hs hm hi hn ht ha => exact .cloned hs hm hi hn ht (.inr ⟨text, rfl⟩)

theorem Engaged.grows (h : c.Engaged entry task) (g : c.Grows c') : c'.Engaged entry task := by
  cases task with
  | recording i x =>
    obtain ⟨hm, op, r, hs, hr, hx⟩ := h
    obtain ⟨r', hr', ht⟩ := g.recordings i r hr
    exact ⟨hm, op, r', hs, hr', ht ▸ hx⟩
  | farewell i x answer =>
    obtain ⟨hm, hs, r, hr, hx⟩ := h
    obtain ⟨r', hr', ht⟩ := g.recordings i r hr
    exact ⟨hm.grows g, hs, r', hr', ht ▸ hx⟩
  | direct rest => exact h
  | stream i chore rest => exact h
  | ended answer => exact h.grows g

/-- It does not matter what a step has heard. -/
theorem Engaged.hear (h : c.Engaged entry task) (heard : List Contact) :
    c.Engaged (entry.add heard []) task := by
  have hm : (entry.add heard []).made = entry.made := List.append_nil _
  have concluded {answer : Answer} (h : c.Concluded entry answer) :
      c.Concluded (entry.add heard []) answer := by
    cases h with
    | nothing he ha => exact .nothing (hm.trans he) ha
    | created hs he hn hb => exact .created hs (hm.trans he) hn hb
    | cloned hs he hi hn ht ha => exact .cloned hs (hm.trans he) hi hn ht ha
  cases task with
  | recording i x => exact ⟨hm.trans h.1, h.2⟩
  | farewell i x answer => exact ⟨concluded h.1, h.2⟩
  | direct rest => exact ⟨hm.trans h.1, h.2⟩
  | stream i chore rest => exact ⟨hm.trans h.1, h.2⟩
  | ended answer => exact concluded h

/-- The slots of the recordings that are added are those that come next. -/
theorem added_append {l : List Recording} (h : c'.contents = c.contents ++ l) :
    c.added c' = List.range' c.contents.length l.length := by
  have before : c.contents.length = c.recordings.length := List.length_map _
  have after : c'.contents.length = c'.recordings.length := List.length_map _
  rw [h, List.length_append] at after
  rw [added, before, ← after, before, Nat.add_sub_cancel_left]

theorem added_of_eq (h : c'.contents = c.contents) : c.added c' = [] :=
  added_append (h.trans (List.append_nil _).symm)

theorem added_setRecording (r : Recording) : c.added (c.setRecording i r) = [] := by
  have same : (c.setRecording i r).recordings.length = c.recordings.length := by
    simp [setRecording, Slot.update]
  rw [added, same, Nat.sub_self]
  rfl

/-! ## Beginning -/

theorem afterParting_engaged (hr : entry.step.recording? = some i) (hi : i < c.contents.length)
    (h : c.Concluded entry answer) : c.Engaged entry (c.afterParting i answer) := by
  unfold afterParting
  split
  · exact ⟨h, hr, _, List.getElem?_eq_getElem hi, rfl⟩
  · exact h

theorem Outset.engaged (h : Outset c step c' task) :
    c'.Engaged { step, made := c.added c' } task := by
  have g := h.grows
  cases h with
  | answered hf ho =>
    refine .nothing (added_of_eq rfl) ?_
    intro i andStop hs
    exact .inl (ho i _ hs)
  | misplanned hs hb =>
    refine .nothing (added_of_eq rfl) ?_
    intro i andStop he
    exact .inr (.inl ⟨_, rfl⟩)
  | @created _ plan size options configuration hs hb =>
    let r := Recording.create options configuration size
    have hc : (c.addRecording r).1.contents = c.contents ++ [r] := contents_addRecording
    have last : (c.addRecording r).1.contents[c.contents.length]? = some r := by simp [hc]
    exact .created hs (added_append hc) last rfl
  | operate hr =>
    obtain ⟨r', hr', -⟩ := g.recordings _ _ (List.getElem?_eq_getElem (lt_of_recording? hr))
    exact ⟨added_of_eq contents_enterRecording, _, r', rfl, hr', rfl⟩
  | drop hr =>
    refine afterParting_engaged rfl ?_ (.nothing (added_of_eq contents_releaseRecording) nofun)
    rw [contents_releaseRecording]
    exact lt_of_recording? hr
  | read hs | readAll hs | closeStream hs | dropStream hs => exact ⟨added_of_eq rfl, rfl⟩
  | direct => exact ⟨added_of_eq rfl, _, rfl⟩

/-! ## Turns

A task makes recordings in its last turn only: in that of a clone which has succeeded, and what it
makes has the terms of the recording that was there before. All other turns add nothing. -/

/-- An operation has made a recording at its end just if it is a clone that has succeeded. -/
theorem depart_concluded {op : Recording.Operation} {o : Outcome Recording.Yield} {r : Recording}
    (hm : entry.made = []) (hs : entry.step = .operate i op) (hr : c.contents[i]? = some r)
    (h : op.Ends r.terms o) :
    ∃ answer, (c.depart i o).2 = (c.depart i o).1.afterParting i answer ∧
      (c.depart i o).1.Concluded (entry.add [] (c.added (c.depart i o).1)) answer := by
  have hc := depart_contents (c := c) (i := i) o
  have nothing (answer : Answer) (ho : Recording.made o = [])
      (ha : (∃ andStop, op = .clone andStop) →
        (∃ e, answer = .error e) ∨ ∃ text, answer = .unwound text) :
      (c.depart i o).1.Concluded (entry.add [] (c.added (c.depart i o).1)) answer := by
    refine .nothing ?_ ?_
    · rw [ho, List.append_nil] at hc
      simp [Entry.add, hm, added_of_eq hc]
    · intro j andStop he
      obtain ⟨-, rfl⟩ : i = j ∧ op = .clone andStop := by simpa [hs] using he
      exact .inr (ha ⟨andStop, rfl⟩)
  cases o with
  | unwound text => exact ⟨.unwound text, rfl, nothing _ rfl fun _ => .inr ⟨text, rfl⟩⟩
  | returned result =>
    refine ⟨(c.conclude result).2, rfl, ?_⟩
    cases result with
    | error e => exact nothing _ rfl fun _ => .inl ⟨e, rfl⟩
    | ok made =>
      cases made with
      | cloned clone =>
        obtain ⟨⟨andStop, rfl⟩, ht⟩ := h
        have hlt := (List.getElem?_eq_some_iff.1 hr).1
        let c' := (c.depart i (.returned (.ok (.cloned clone)))).1
        have source : c'.contents[i]? = some r := by
          rw [hc, List.getElem?_append_left hlt]
          exact hr
        have last : c'.contents[c.contents.length]? = some clone := by
          rw [hc]
          simp [Recording.made]
        -- The source stays where it was, and the clone is the one that comes next.
        refine .cloned hs ?_ source last ht (.inl ?_)
        · simp [Entry.add, hm, added_append hc, Recording.made]
        · simp [conclude, addRecording, Answer.made, contents]
      | _ =>
        refine nothing _ rfl ?_
        rintro ⟨andStop, ho⟩
        exact (h andStop ho).elim

theorem engaged_ended (hm : entry.made = [])
    (hs : ∀ i andStop, entry.step ≠ .operate i (.clone andStop)) (answer : Answer) :
    c.Engaged entry (.ended answer) :=
  .nothing hm fun i andStop he => (hs i andStop he).elim

theorem other_of_stream? (h : entry.step.stream? = some i) (j : Nat) (andStop : Bool) :
    entry.step ≠ .operate j (.clone andStop) := by
  intro hs
  rw [hs] at h
  cases h

/-- Reading all of a stream is one step, of many reads. -/
theorem afterChore_engaged (chore : Chore) (result : Except Error chore.Brings)
    (h : c.Engaged entry (.stream i chore (.done result))) :
    c.Engaged entry (c.afterChore i chore result) := by
  have ended (answer : Answer) : c.Engaged entry (.ended answer) :=
    engaged_ended h.1 (other_of_stream? h.2) answer
  unfold afterChore
  split
  all_goals try exact ended _
  split
  · exact ended _
  · exact h

/-- A direct request makes no recording. -/
theorem added_conclude {P : SessionId → Prop} {result : Except Error Recording.Yield}
    (h : Answers P result) : c.added (c.conclude result).1 = [] := by
  refine added_of_eq ((conclude_contents result).2.trans ?_)
  cases result with
  | error e => exact List.append_nil _
  | ok made =>
    cases made with
    | cloned clone => exact h.elim
    | _ => exact List.append_nil _

/-- A turn keeps a task at work for its step. -/
theorem Advance.engaged {P : SessionId → Prop} (h : Advance c task t c' task')
    (q : c.Engaged entry task) (hs : task.Sourced P) :
    c'.Engaged (entry.add (task.hears t) (c.added c')) task' := by
  have g := h.grows
  have stay : c.added c = [] := added_of_eq rfl
  cases h with
  | @move i x t r r' x' hr m =>
    obtain ⟨hm, op, r₁, hstep, hr₁, hx⟩ := q
    obtain rfl := Option.some.inj (hr.symm.trans hr₁)
    obtain ⟨r₂, hr₂, ht⟩ := g.recordings i r hr
    rw [added_setRecording]
    refine Engaged.hear ?_ _
    exact ⟨hm, op, r₂, hstep, hr₂, ht ▸ m.pursues hx⟩
  | @depart i o =>
    obtain ⟨hm, op, r, hstep, hr, ho⟩ := q
    obtain ⟨answer, hd, hc⟩ := depart_concluded hm hstep hr ho
    obtain ⟨r', hr', -⟩ := g.recordings i r hr
    rw [hd]
    exact afterParting_engaged (by simp [hstep, Step.recording?])
      (List.getElem?_eq_some_iff.1 hr').1 hc
  | @farewell i x t r r' x' answer hr m =>
    obtain ⟨hm, hstep, r₁, hr₁, hx⟩ := q
    obtain rfl := Option.some.inj (hr.symm.trans hr₁)
    obtain ⟨r₂, hr₂, ht⟩ := g.recordings i r hr
    rw [added_setRecording]
    refine Engaged.hear ?_ _
    exact ⟨hm.grows g, hstep, r₂, hr₂, ht ▸ m.pursues hx⟩
  | part =>
    rw [stay]
    refine Engaged.hear ?_ _
    exact q.1
  | @partUnwound i text answer =>
    rw [stay]
    refine Engaged.hear ?_ _
    exact q.1.unwound text
  | conclude =>
    obtain ⟨hm, request, hstep⟩ := q
    rw [added_conclude hs]
    exact Engaged.hear (engaged_ended hm (by simp [hstep]) _) _
  | directCut text =>
    obtain ⟨hm, request, hstep⟩ := q
    rw [stay]
    exact Engaged.hear (engaged_ended hm (by simp [hstep]) _) _
  | directNote | directReply reply | streamNote | streamReply reply =>
    rw [stay]
    exact Engaged.hear q _
  | finish =>
    rw [stay]
    exact Engaged.hear (afterChore_engaged _ _ q) _
  | @streamKeep i chore s rest =>
    have still : c.added (c.setStream i s) = [] := added_of_eq rfl
    rw [still]
    exact Engaged.hear q _
  | streamCut text =>
    rw [stay]
    exact Engaged.hear (engaged_ended q.1 (other_of_stream? q.2) _) _

end Client

/-- Wherever a run has led, every task is at work for its step. -/
theorem Chronicle.Reached.engaged {c : Chronicle} {generation : Generation} {object : ObjectName}
    {settings : Settings} (h : c.Reached generation object settings) : c.Each Client.Engaged :=
  each_of_reached (fun _ _ _ _ g q => q.grows g) (fun _ _ _ _ _ ho => ho.engaged)
    (fun _ _ _ _ _ _ _ hr _ hk q ha =>
      ha.engaged q (hr.sourced.tasks _ (List.mem_of_getElem? hk))) h

end RemoteRecorder
