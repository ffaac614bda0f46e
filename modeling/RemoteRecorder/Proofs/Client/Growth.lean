import RemoteRecorder.Proofs.Client.Numbers
import RemoteRecorder.Proofs.Client.Streaming
import RemoteRecorder.Proofs.Recording.Service

/-!
# RemoteRecorder.Proofs.Client.Growth

**What becomes of the recordings and streams of a client**, whatever happens.

* No recording is lost, and its terms stay as they are (`Outset.grows`, `Advance.grows`).
* A stream stays as it is, unless it has just been opened or its own task has set it
  (`Outset.content?`, `Advance.streamed`).
* `rush?_begin` and `rush?_turn` read an event of a traffic as an outset or an advance.
-/

namespace RemoteRecorder

open Recording (Caller)

namespace Client

variable {c c' : Client} {i : Nat} {r : Recording} {task task' : Task} {step : Step}

/-! ## What becomes of the recordings

Recordings are never thrown away, and the terms of each stay as they were. Both are needed again and
again, in particular for what is said about a recording at the end of a run that began with it. -/

/-- Whether a client becomes another one in which all recordings are still there, on the same
terms. -/
structure Grows (c c' : Client) : Prop where
  connection : c'.connection = c.connection
  recordings : ∀ (i : Nat) (r : Recording), c.contents[i]? = some r →
    ∃ r', c'.contents[i]? = some r' ∧ r'.terms = r.terms

theorem Grows.refl (c : Client) : c.Grows c :=
  ⟨rfl, fun _ r hr => ⟨r, hr, rfl⟩⟩

theorem Grows.trans {c₁ c₂ c₃ : Client} (h : c₁.Grows c₂) (h' : c₂.Grows c₃) : c₁.Grows c₃ := by
  refine ⟨h'.connection.trans h.connection, ?_⟩
  intro i r hr
  obtain ⟨r₂, hr₂, ht₂⟩ := h.recordings i r hr
  obtain ⟨r₃, hr₃, ht₃⟩ := h'.recordings i r₂ hr₂
  exact ⟨r₃, hr₃, ht₃.trans ht₂⟩

/-- No recording is lost. -/
theorem Grows.length_le (h : c.Grows c') : c.contents.length ≤ c'.contents.length := by
  by_contra hlt
  have hlt := Nat.lt_of_not_le hlt
  obtain ⟨r', hr', -⟩ := h.recordings _ _ (List.getElem?_eq_getElem hlt)
  exact Nat.lt_irrefl _ (List.getElem?_eq_some_iff.1 hr').1

theorem grows_append (added : List Recording) (hc : c'.connection = c.connection)
    (h : c'.contents = c.contents ++ added) : c.Grows c' := by
  refine ⟨hc, ?_⟩
  intro j r hr
  refine ⟨r, ?_, rfl⟩
  rw [h, List.getElem?_append_left (List.getElem?_eq_some_iff.1 hr).1]
  exact hr

theorem grows_of_eq (hc : c'.connection = c.connection) (h : c'.contents = c.contents) :
    c.Grows c' :=
  grows_append [] hc (h.trans (List.append_nil _).symm)

theorem grows_setRecording {x x' : Caller} {t : Caller.Turn} {r' : Recording}
    (hr : c.contents[i]? = some r) (m : x.Move c.connection.backend r t r' x') :
    c.Grows (c.setRecording i r') := by
  refine ⟨rfl, ?_⟩
  intro j r₁ hj
  rw [contents_setRecording, List.getElem?_set]
  by_cases hi : i = j
  · subst hi
    obtain rfl := Option.some.inj (hr.symm.trans hj)
    have hlt := (List.getElem?_eq_some_iff.1 hr).1
    exact ⟨r', by simp [hlt], m.terms_eq⟩
  · exact ⟨r₁, by simpa [hi] using hj, rfl⟩

theorem depart_connection (o : Outcome Recording.Yield) :
    (c.depart i o).1.connection = c.connection := by
  cases o with
  | returned result => exact (conclude_contents result).1
  | unwound text => rfl

/-- The recordings that an operation has made come to those that are there. -/
theorem depart_contents (o : Outcome Recording.Yield) :
    (c.depart i o).1.contents = c.contents ++ Recording.made o := by
  cases o with
  | returned result => exact contents_leaveRecording.trans (conclude_contents result).2
  | unwound text => exact contents_leaveRecording.trans (List.append_nil _).symm

/-- Beginning a step loses no recording. -/
theorem Outset.grows (h : Outset c step c' task) : c.Grows c' := by
  cases h with
  | created hs hb => exact grows_append _ rfl contents_addRecording
  | operate hr => exact grows_of_eq rfl contents_enterRecording
  | drop hr => exact grows_of_eq rfl contents_releaseRecording
  | _ => exact grows_of_eq rfl rfl

/-- Nor does a turn, and a recording that a caller has changed is on the same terms as before. -/
theorem Advance.grows {t : Caller.Turn} (h : Advance c task t c' task') : c.Grows c' := by
  cases h with
  | move hr m => exact grows_setRecording hr m
  | depart => exact grows_append _ (depart_connection _) (depart_contents _)
  | farewell hr m => exact grows_setRecording hr m
  | conclude => exact grows_append _ (conclude_contents _).1 (conclude_contents _).2
  | _ => exact grows_of_eq rfl rfl

/-! ## What becomes of the streams

A stream changes only by the task that uses it. It may be opened by any recording, and closed or
dropped by its user. -/

@[simp] theorem content?_releaseStream (j : Nat) :
    (c.releaseStream i).content? j = c.content? j := by
  unfold content? releaseStream Slot.release
  rw [List.getElem?_modify]
  cases c.streams[j]? with
  | none => rfl
  | some slot => by_cases hi : i = j <;> simp [hi]

theorem content?_setStream_eq (s : Stream) (j : Nat) : (c.setStream i s).content? j =
    if i = j then (c.content? j).map fun _ => s else c.content? j := by
  unfold content? setStream Slot.update
  rw [List.getElem?_modify]
  cases c.streams[j]? with
  | none => by_cases hi : i = j <;> simp [hi]
  | some slot => by_cases hi : i = j <;> simp [hi]

theorem content?_addStream (handle : Int64) (j : Nat) : (c.addStream handle).1.content? j =
    if j = c.streams.length then some (.opened c.connection.backend.object handle)
    else c.content? j := by
  unfold content? addStream
  rw [List.getElem?_append, List.getElem?_singleton]
  by_cases hj : j < c.streams.length
  · simp [hj, Nat.ne_of_lt hj]
  · by_cases h : j = c.streams.length
    · simp [h]
    · have : ¬ j - c.streams.length = 0 := by omega
      simp [hj, h, this]

/-- What can become of a stream while another client is made of a client. -/
inductive Streamed (c c' : Client) (task : Task) (j : Nat) : Prop
  | same (h : c'.content? j = c.content? j)
  | opened (handle : Int64) (hj : j = c.streams.length)
      (h : c'.content? j = some (.opened c.connection.backend.object handle))
  /-- The task that works on the stream sets it. -/
  | set {chore s rest} (ht : task = .stream j chore (.keep s rest))
      (h : c'.content? j = (c.content? j).map fun _ => s)

/-- The end of an operation opens at most one stream, in a new slot. -/
theorem conclude_streamed (result : Except Error Recording.Yield) (j : Nat) :
    Streamed c (c.conclude result).1 task j := by
  cases result with
  | error e => exact .same rfl
  | ok made =>
    cases made with
    | opened handle =>
      have h := c.content?_addStream handle j
      by_cases hj : j = c.streams.length
      · rw [if_pos hj] at h
        exact .opened handle hj h
      · rw [if_neg hj] at h
        exact .same h
    | _ => exact .same rfl

theorem Outset.content? (h : Outset c step c' task) (j : Nat) : c'.content? j = c.content? j := by
  cases h with
  | dropStream hs => exact content?_releaseStream j
  | _ => rfl

/-- What a turn makes of a stream: nothing, unless the task is about that stream or has just opened
it. -/
theorem Advance.streamed {t : Caller.Turn} (h : Advance c task t c' task') (j : Nat) :
    Streamed c c' task j := by
  cases h with
  | @depart i o =>
    cases o with
    | returned result =>
      -- Parting from the recording does nothing to the streams.
      have made : Streamed c (c.conclude result).1 (.recording i (.ended (.returned result))) j :=
        conclude_streamed result j
      cases made with
      | same h => exact .same h
      | opened handle hj h => exact .opened handle hj h
      | set ht h => cases ht
    | unwound text => exact .same rfl
  | conclude => exact conclude_streamed _ j
  | @streamKeep i chore s rest =>
    have h := c.content?_setStream_eq (i := i) s j
    by_cases hi : i = j
    · subst hi
      rw [if_pos rfl] at h
      exact .set rfl h
    · rw [if_neg hi] at h
      exact .same h
  | _ => exact .same rfl

end Client

namespace Traffic

variable {s s' : Traffic} {k : Nat}

theorem rush?_begin {step : Client.Step} (h : s.rush? (.begin step) = some s') :
    ∃ c' task, s.client.Outset step c' task ∧
      s' = ⟨c', s.tasks ++ [task], s.log ++ task.arrival⟩ :=
  ⟨_, _, s.client.begin_outset step, (Option.some.inj h).symm⟩

/-- Tasks that work on a recording work on one that there is. -/
theorem rush?_turn {t : Caller.Turn} (hs : ∀ i k x, s.fleet.caller? i k = some x →
      i < s.fleet.recordings.length) (h : s.rush? (.turn k t) = some s') :
    ∃ task c' task', s.tasks[k]? = some task ∧ s.client.Advance task t c' task' ∧
      s' = ⟨c', s.tasks.set k task', s.log ++ task.signals t task'⟩ := by
  obtain ⟨task, c', task', hk, ht, rfl⟩ := step?_turn h
  exact ⟨task, c', task', hk,
    Client.advance_of_take? (fun i x hx => hs i k x (caller?_fleet.2 ⟨task, hk, hx⟩)) ht, rfl⟩

/-- What only some may do all may do who are forbidden nothing. -/
theorem rush?_of_step? {e : Event} (h : s.step? e = some s') : s.rush? e = some s' := by
  cases e with
  | begin step =>
    obtain ⟨-, c', task, hb, rfl⟩ := step?_begin h
    simp [rush?, hb]
  | turn k t => exact h

end Traffic

end RemoteRecorder
