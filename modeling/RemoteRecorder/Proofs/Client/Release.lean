import RemoteRecorder.Proofs.Client.Traffic

/-!
# RemoteRecorder.Proofs.Client.Release

**No session is used after its release**, whatever goes on in a client: as long as the
target hands no number out twice, each session is released at most once and stopped at most
once, and no call names it after its release has begun.

What a schedule preserves is that the fleet of the recordings is sound (`Traffic.Kept`).
Closes may land during any call, and any call may come back, fail or unwind.
-/

namespace RemoteRecorder.Traffic

variable {object : ObjectName} {settings : Settings} {s s' : Traffic} {e : Event}
  {schedule : List Event}

/-- What a schedule preserves. -/
structure Kept (object : ObjectName) (s : Traffic) : Prop where
  plain : s.IsPlain (.structured object)
  sound : s.fleet.Sound object
  unused : (handedOut s.log).Nodup → NoUseAfterRelease s.log

theorem kept_opened : (opened object settings).Kept object := by
  have nobody (i k : Nat) : (opened object settings).fleet.caller? i k = none := rfl
  refine ⟨⟨rfl, fun t ht => nomatch ht⟩, ⟨?_, ?_, ?_, ?_, covers_refl []⟩, ?_⟩
  · intro i k c hc
    exact nomatch (nobody i k).symm.trans hc
  · intro i r hr
    cases hr
  · intro i k c r hc
    exact nomatch (nobody i k).symm.trans hc
  · intro i k j c d hc
    exact nomatch (nobody i k).symm.trans hc
  · intro _ before after c id hlog
    cases before <;> cases hlog

theorem Kept.step (q : s.Kept object) (h : s.step? e = some s') : s'.Kept object := by
  obtain ⟨plain, step⟩ := step_fleet q.plain q.sound.seated h
  refine ⟨plain, step.sound q.sound, fun hn => step.noUseAfterRelease q.sound hn ?_⟩
  -- Numbers that are not handed out twice by the end have not been before.
  obtain ⟨log, hlog, -⟩ := step.log_eq q.sound
  have hlog : s'.log = s.log ++ log := hlog
  rw [hlog, handedOut_append] at hn
  exact q.unused hn.of_append_left

theorem Kept.play (q : s.Kept object) (h : s.play schedule = some s') : s'.Kept object := by
  induction schedule generalizing s with
  | nil =>
    obtain rfl := Option.some.inj h
    exact q
  | cons e schedule ih =>
    obtain ⟨s₁, h₁, h₂⟩ := Option.bind_eq_some_iff.1 h
    exact ih (q.step h₁) h₂

/-- If no session number is handed out twice, no session is released twice or stopped twice,
and no call that begins after the release of a session has begun names it. -/
theorem no_use_after_release (h : (opened object settings).play schedule = some s)
    (unique : (handedOut s.log).Nodup) : SoundLog s.log :=
  have q : s.Kept object := kept_opened.play h
  q.sound.soundLog unique (q.unused unique)

/-- A recording is started, cloned, and closed before the clone is there; then the clone is
given up. -/
def closedWhileCloning : List Event :=
  let call (k : Nat) (reply : Reply) : List Event := [.turn k .act, .turn k (.reply reply)]
  let acts (k n : Nat) : List Event := List.replicate n (.turn k .act)
  [.begin (.create {} none), .begin (.operate 0 .start)] ++ acts 1 2 ++
    call 1 (.ok (.long 5)) ++ call 1 (.ok .void) ++ call 1 (.ok .void) ++ call 1 (.ok .void) ++
    acts 1 4 ++ [.begin (.operate 0 (.clone false))] ++ acts 2 3 ++
    [.begin (.operate 0 .close)] ++ acts 3 2 ++ call 3 (.ok .void) ++ acts 3 1 ++
    call 3 (.ok .void) ++ acts 3 2 ++ [.turn 2 (.reply (.ok (.long 6)))] ++ acts 2 3 ++
    [.begin (.drop 1)] ++ acts 4 2 ++ call 4 (.ok .void) ++ acts 4 1 ++ call 4 (.ok .void) ++
    acts 4 2

theorem no_use_after_release_cloned :
    ∃ s, (opened Generation.structured.objectName {}).play closedWhileCloning = some s ∧
      handedOut s.log = [⟨5⟩, ⟨6⟩] ∧ stopped s.log = [⟨5⟩, ⟨6⟩] ∧ released s.log = [⟨5⟩, ⟨6⟩] ∧
      SoundLog s.log := by
  have h : ((opened Generation.structured.objectName {}).play closedWhileCloning).map
      (fun s => (handedOut s.log, stopped s.log, released s.log)) =
        some ([⟨5⟩, ⟨6⟩], [⟨5⟩, ⟨6⟩], [⟨5⟩, ⟨6⟩]) := by decide
  obtain ⟨s, hs, hl⟩ := Option.map_eq_some_iff.1 h
  obtain ⟨ho, hst, hr⟩ : handedOut s.log = [⟨5⟩, ⟨6⟩] ∧ stopped s.log = [⟨5⟩, ⟨6⟩] ∧
      released s.log = [⟨5⟩, ⟨6⟩] := by simpa using hl
  exact ⟨s, hs, ho, hst, hr, no_use_after_release hs (by rw [ho]; decide)⟩

end RemoteRecorder.Traffic
