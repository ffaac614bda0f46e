import RemoteRecorder.Proofs.Recording.Crowd

/-!
# RemoteRecorder.Proofs.Recording.Absence

**A crowd without one of its callers**: two crowds that differ in one caller only, who has come
to the one and not to the other.

* `Alike` says that the other callers are at the same places and have said and been told the
  same. One thing may set them apart: who lost a transition to the caller in question has to
  look at the phase again, and without that caller has seen it already (`Lags`).
* `AsIfAway` says besides that the recording is the same. Then each of the two crowds can do
  what the other does (`AsIfAway.play`, `AsIfAway.play_back`).
-/

namespace RemoteRecorder.Recording

/-- Whether a caller is where another one is, but for a transition it has lost meanwhile. -/
inductive Lags : Caller → Caller → Prop where
  | same (c : Caller) : Lags c c
  | lost (t : Transition) : Lags (.begun t.operation) (.claiming t)

namespace Transition

theorem operation_ne_close (t : Transition) : t.operation ≠ .close := by
  cases t <;> simp [operation]

/-- Who looks for a transition in its source finds it. -/
theorem afterLook_operation (r : Recording) (t : Transition) :
    Caller.afterLook r t.source t.operation = .claiming t := by
  rcases t with (_ | _) | _ <;> rfl

end Transition

namespace Crowd

/-! ## Numbering

Callers are known by their places in a list, so those who come after the caller in question have
another number where it has not come. -/

/-- The number that a caller has where `k` has come, from its number where `k` has not. -/
def skip (k i : Nat) : Nat := if i < k then i else i + 1

variable {k i j : Nat}

/-- Nobody is numbered as the caller in question. -/
theorem skip_ne (k i : Nat) : skip k i ≠ k := by
  unfold skip
  split <;> omega

theorem skip_inj : skip k i = skip k j ↔ i = j := by
  unfold skip
  split <;> split <;> omega

/-- Everybody else has a number in the other crowd. -/
theorem exists_skip (h : j ≠ k) : ∃ i, skip k i = j := by
  unfold skip
  by_cases hj : j < k
  · exact ⟨j, if_pos hj⟩
  · exact ⟨j - 1, by rw [if_neg (by omega)]; omega⟩

theorem skip_of_lt (h : i < k) : skip k i = i := if_pos h

theorem skip_of_le (h : k ≤ i) : skip k i = i + 1 := if_neg (Nat.not_lt.2 h)

/-! ## What others have said

The two crowds agree if the callers stand at the same places and the same things have been said. The
talk has to be compared as it was, with the speakers: who has said what in which order is all that
anybody outside can tell. -/

variable {b : Backend} {s s' z z' : Crowd} {c c' d d' : Caller} {t : Caller.Turn}
  {r' q' : Recording} {op : Operation} {o : Outcome Yield} {schedule later : List Event}

/-- All that has been said, and by whom. -/
def voices (s : Crowd) : List (Nat × Remark) :=
  s.deeds.flatMap fun d => d.remarks.map (Prod.mk d.who)

theorem voices_record (s : Crowd) (k : Nat) (c : Caller) (r' : Recording) (c' : Caller) :
    (s.record k c r' c').voices = s.voices ++ (c.remarks c').map (Prod.mk k) := by
  simp [voices, record, Deed.remarks]

/-- Nobody is heard who has not come. -/
theorem voices_lt (hs : play b ⟨r', [], []⟩ schedule = some s) :
    ∀ v ∈ s.voices, v.1 < s.callers.length := by
  refine play_induction (motive := fun s => ∀ v ∈ s.voices, v.1 < s.callers.length) hs
    (by simp [voices]) ?_
  intro s s' q step v hv
  cases step with
  | join operation =>
    have := q v hv
    simp only [receive, List.length_append]
    omega
  | @turn k c t r' c' hc m =>
    rw [show (s.record k c r' c').callers.length = s.callers.length by simp [record]]
    rw [voices_record, List.mem_append, List.mem_map] at hv
    rcases hv with hv | ⟨x, -, rfl⟩
    · exact q v hv
    · exact (List.getElem?_eq_some_iff.1 hc).1

/-- Whether `k` has come to the crowd `s` and not to `z`, where the other callers are at the same
places and have said and been told the same. -/
structure Alike (k : Nat) (s z : Crowd) : Prop where
  length : s.callers.length = z.callers.length + 1
  here : k ≤ z.callers.length
  callers : ∀ i c, s.callers[skip k i]? = some c → ∃ d, z.callers[i]? = some d ∧ Lags c d
  voices : z.voices.map (Prod.map (skip k) fun x => x) = s.voices.filter fun v => v.1 ≠ k

namespace Alike

/-- A crowd is like itself with a caller who has just come. -/
theorem of_receive (op : Operation) (h : ∀ v ∈ s.voices, v.1 < s.callers.length) :
    Alike s.callers.length (s.receive op) s := by
  refine ⟨by simp [Crowd.receive], Nat.le_refl _, ?_, ?_⟩
  · intro i c hc
    rcases receive_caller.1 hc with hc | ⟨hi, -⟩
    · have hi : i < s.callers.length := by
        by_contra hi
        rw [skip_of_le (by omega)] at hc
        have := (List.getElem?_eq_some_iff.1 hc).1
        omega
      rw [skip_of_lt hi] at hc
      exact ⟨c, hc, .same c⟩
    · exact (skip_ne _ i hi).elim
  · have all : s.voices.filter (fun v => v.1 ≠ s.callers.length) = s.voices :=
      List.filter_eq_self.2 fun v hv => by simpa using Nat.ne_of_lt (h v hv)
    have same : s.voices.map (Prod.map (skip s.callers.length) fun x => x) = s.voices := by
      refine (List.map_congr_left fun v hv => ?_).trans (List.map_id _)
      rw [Prod.map, skip_of_lt (h v hv)]
      rfl
    exact same.trans all.symm

/-- Everybody else has come to both. -/
theorem caller_back (q : Alike k s z) (hd : z.callers[i]? = some d) :
    ∃ c, s.callers[skip k i]? = some c ∧ Lags c d := by
  have hi := (List.getElem?_eq_some_iff.1 hd).1
  have hs : skip k i < s.callers.length := by
    rw [q.length]
    unfold skip
    split <;> omega
  obtain ⟨d', hd', hl⟩ := q.callers i _ (List.getElem?_eq_getElem hs)
  obtain rfl := Option.some.inj (hd.symm.trans hd')
  exact ⟨_, List.getElem?_eq_getElem hs, hl⟩

/-- Somebody comes to both crowds. -/
theorem receive (q : Alike k s z) (op : Operation) : Alike k (s.receive op) (z.receive op) := by
  have hn : skip k z.callers.length = s.callers.length := by
    rw [skip_of_le q.here, q.length]
  refine ⟨by simp [Crowd.receive, q.length], ?_, ?_, q.voices⟩
  · have := q.here
    simp only [Crowd.receive, List.length_append]
    omega
  · intro i c hc
    rcases receive_caller.1 hc with hc | ⟨hi, rfl⟩
    · obtain ⟨d, hd, hl⟩ := q.callers i c hc
      exact ⟨d, receive_caller.2 (.inl hd), hl⟩
    · obtain rfl := skip_inj.1 (hi.trans hn.symm)
      exact ⟨_, receive_caller.2 (.inr ⟨rfl, rfl⟩), .same _⟩

/-- A step of `k` itself makes no difference to the others. -/
theorem record_self (q : Alike k s z) (hc : s.callers[k]? = some c) :
    Alike k (s.record k c r' c') z := by
  refine ⟨by simp [record, q.length], q.here, ?_, ?_⟩
  · intro i e he
    rw [record_caller hc, if_neg (skip_ne k i)] at he
    exact q.callers i e he
  · rw [q.voices, voices_record, List.filter_append]
    simp

/-- Another caller takes a step in both crowds. -/
theorem record_both (q : Alike k s z) (hc : s.callers[skip k i]? = some c)
    (hd : z.callers[i]? = some d) (hr : d.remarks d' = c.remarks c') (hl : Lags c' d') :
    Alike k (s.record (skip k i) c r' c') (z.record i d q' d') := by
  refine ⟨by simp [record, q.length], by simpa [record] using q.here, ?_, ?_⟩
  · intro j e he
    rw [record_caller hc] at he
    rw [record_caller hd]
    by_cases hj : j = i
    · rw [hj, if_pos rfl] at he
      obtain rfl := Option.some.inj he
      exact ⟨d', if_pos hj, hl⟩
    · rw [if_neg (fun h => hj (skip_inj.1 h))] at he
      rw [if_neg hj]
      exact q.callers j e he
  · have heard : ((c.remarks c').map (Prod.mk (skip k i))).filter (fun v => v.1 ≠ k) =
        (c.remarks c').map (Prod.mk (skip k i)) :=
      List.filter_eq_self.2 (by simp [skip_ne])
    rw [voices_record, voices_record, List.map_append, List.filter_append, q.voices, hr, heard,
      List.map_map]
    rfl

/-- Another caller takes a step in the first crowd only, and says nothing. -/
theorem record_left (q : Alike k s z) (hc : s.callers[skip k i]? = some c)
    (hd : z.callers[i]? = some d) (hr : c.remarks c' = []) (hl : Lags c' d) :
    Alike k (s.record (skip k i) c r' c') z := by
  refine ⟨by simp [record, q.length], q.here, ?_, ?_⟩
  · intro j e he
    rw [record_caller hc] at he
    by_cases hj : j = i
    · rw [hj, if_pos rfl] at he
      obtain rfl := Option.some.inj he
      exact ⟨d, by rw [hj, hd], hl⟩
    · rw [if_neg (fun h => hj (skip_inj.1 h))] at he
      exact q.callers j e he
  · rw [voices_record, hr, List.map_nil, List.append_nil, q.voices]

/-- Another caller takes a step in the second crowd only, and says nothing. -/
theorem record_right (q : Alike k s z) (hc : s.callers[skip k i]? = some c)
    (hd : z.callers[i]? = some d) (hr : d.remarks d' = []) (hl : Lags c d') :
    Alike k s (z.record i d q' d') := by
  refine ⟨by simp [record, q.length], by simpa [record] using q.here, ?_, ?_⟩
  · intro j e he
    rw [record_caller hd]
    by_cases hj : j = i
    · subst hj
      obtain rfl := Option.some.inj (he.symm.trans hc)
      exact ⟨d', if_pos rfl, hl⟩
    · rw [if_neg hj]
      exact q.callers j e he
  · rw [voices_record, hr, List.map_nil, List.append_nil, q.voices]

end Alike

/-! ## The same recording

If the recording is the same as well, the two crowds can do the same from there on. Here it shows
that losing a transition makes no lasting difference: who has lost one looks again. -/

theorem step?_of_move (hc : s.callers[k]? = some c) (m : c.Move b s.recording t r' c') :
    s.step? b (.turn k t) = some (s.record k c r' c') := by
  simp [step?, hc, m.take?_eq]

theorem play_one {e : Event} (h : s.step? b e = some s') : s.play b [e] = some s' :=
  play_cons.2 ⟨s', h, rfl⟩

/-- Whether a crowd is as one to which `k` has not come. -/
structure AsIfAway (k : Nat) (s z : Crowd) : Prop extends Alike k s z where
  recording : z.recording = s.recording

namespace AsIfAway

/-- Where `k` has not come, another caller can do what it does where `k` has. -/
theorem turn (q : AsIfAway k s z) (hj : j ≠ k) (hc : s.callers[j]? = some c)
    (m : c.Move b s.recording t r' c') :
    ∃ later z', z.play b later = some z' ∧ AsIfAway k (s.record j c r' c') z' := by
  obtain ⟨i, rfl⟩ := exists_skip hj
  obtain ⟨d, hd, hl⟩ := q.callers i c hc
  rw [← q.recording] at m
  cases hl with
  | same =>
    exact ⟨_, _, play_one (step?_of_move hd m), q.record_both hc hd rfl (.same c'), rfl⟩
  | lost t₀ =>
    generalize hb : Caller.begun t₀.operation = c at m
    cases m with
    | close => exact (t₀.operation_ne_close (Caller.begun.inj hb)).elim
    | @look op hop hp =>
      obtain rfl := Caller.begun.inj hb
      by_cases ht : z.recording.cell.phase = t₀.source
      · -- It sees the source of the transition, as it has where `k` has not come.
        rw [ht, t₀.afterLook_operation]
        exact ⟨[], z, rfl, q.record_left hc hd rfl (.same _), rfl⟩
      · -- There the transition is lost as well, and then it looks.
        have lose := Caller.Move.lose (b := b) ht
        have look := Caller.Move.look (b := b) hop hp
        have hd₁ : (z.record i (.claiming t₀) z.recording (.begun t₀.operation)).callers[i]? =
            some (.begun t₀.operation) := by
          rw [record_caller hd, if_pos rfl]
        have q₁ : Alike k s
            (z.record i (.claiming t₀) z.recording (.begun t₀.operation)) :=
          q.record_right hc hd rfl (.same _)
        exact ⟨_, _, play_append (play_one (step?_of_move hd lose))
          (play_one (step?_of_move hd₁ look)), q₁.record_both hc hd₁ rfl (.same _), rfl⟩
    | _ => cases hb

/-- Where `k` has come, another caller can do what it does where `k` has not. -/
theorem turn_back (q : AsIfAway k s z) (hd : z.callers[i]? = some d)
    (m : d.Move b z.recording t r' d') :
    ∃ later s', s.play b later = some s' ∧ AsIfAway k s' (z.record i d r' d') := by
  obtain ⟨c, hc, hl⟩ := q.caller_back hd
  rw [q.recording] at m
  cases hl with
  | same =>
    exact ⟨_, _, play_one (step?_of_move hc m), q.record_both hc hd rfl (.same d'), rfl⟩
  | lost t₀ =>
    generalize hb : Caller.claiming t₀ = d at m
    cases m with
    | @claim t hp =>
      obtain rfl := Caller.claiming.inj hb
      have look := Caller.Move.look (b := b) t₀.operation_ne_close (hp ▸ t₀.isSettled_source)
      rw [hp, t₀.afterLook_operation] at look
      have hc₁ : (s.record (skip k i) (.begun t₀.operation) s.recording
          (.claiming t₀)).callers[skip k i]? = some (.claiming t₀) := by
        rw [record_caller hc, if_pos rfl]
      have q₁ : Alike k
          (s.record (skip k i) (.begun t₀.operation) s.recording (.claiming t₀)) z :=
        q.record_left hc hd rfl (.same _)
      exact ⟨_, _, play_append (play_one (step?_of_move hc look))
        (play_one (step?_of_move hc₁ (.claim hp))), q₁.record_both hc₁ hd rfl (.same _), rfl⟩
    | @lose t hp =>
      obtain rfl := Caller.claiming.inj hb
      exact ⟨[], s, rfl, q.record_right hc hd rfl (.same _), rfl⟩
    | _ => cases hb

/-- If `k` is at its end, whatever comes later can come where `k` has not been. -/
theorem play (q : AsIfAway k s z) (hk : s.callers[k]? = some (.ended o))
    (hs : s.play b schedule = some s') :
    ∃ later z', z.play b later = some z' ∧ AsIfAway k s' z' := by
  have kept : s'.callers[k]? = some (.ended o) ∧
      ∃ later z', z.play b later = some z' ∧ AsIfAway k s' z' := by
    refine play_induction (motive := fun s => s.callers[k]? = some (.ended o) ∧
      ∃ later z', z.play b later = some z' ∧ AsIfAway k s z') hs ⟨hk, [], z, rfl, q⟩ ?_
    rintro s s' ⟨hk, later, z₁, hz, q⟩ step
    refine ⟨step.ended hk, ?_⟩
    cases step with
    | join op =>
      have come : z₁.play b [.join op] = some (z₁.receive op) := rfl
      exact ⟨_, _, play_append hz come, q.receive op, q.recording⟩
    | @turn j c t r' c' hc m =>
      have hj : j ≠ k := by
        rintro rfl
        obtain rfl := Option.some.inj (hk.symm.trans hc)
        cases m
      obtain ⟨more, z₂, hz₂, q₂⟩ := q.turn hj hc m
      exact ⟨_, z₂, play_append hz hz₂, q₂⟩
  exact kept.2

/-- Whatever comes where `k` has not been can come where it has. -/
theorem play_back (q : AsIfAway k s z) (hz : z.play b schedule = some z') :
    ∃ later s', s.play b later = some s' ∧ AsIfAway k s' z' := by
  refine play_induction (motive := fun z => ∃ later s', s.play b later = some s' ∧
    AsIfAway k s' z) hz ⟨[], s, rfl, q⟩ ?_
  rintro z z' ⟨later, s₁, hs, q⟩ step
  cases step with
  | join op =>
    have come : s₁.play b [.join op] = some (s₁.receive op) := rfl
    exact ⟨_, _, play_append hs come, q.receive op, q.recording⟩
  | turn hd m =>
    obtain ⟨more, s₂, hs₂, q₂⟩ := q.turn_back hd m
    exact ⟨_, s₂, play_append hs hs₂, q₂⟩

end AsIfAway

end Crowd

end RemoteRecorder.Recording
