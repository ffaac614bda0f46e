import RemoteRecorder.Proofs.Encounter

/-!
# RemoteRecorder.Proofs.Connection

**Connecting to any target**: what it is asked, and how its answers decide.

* A `Host` says what comes of an inquiry, given those before it. `Probe.visit` follows a probe
  to its end, or to the call that unwinds it, and keeps the inquiries.
* `Connecting` lists all that can come of connecting, with the answers that lead to it
  (`connect_visit`). What is shown about connecting is read off the list.
-/

namespace RemoteRecorder

/-- Something that the target is asked while connecting, and what has come of it. -/
inductive Inquiry where
  | lookUp (name : ObjectName) (answer : Except TransportFailure ObjectName)
  | call (contact : Contact)

namespace Inquiry

/-- The name that is looked up. -/
def name? : Inquiry → Option ObjectName
  | lookUp name _ => some name
  | call _ => none

/-- The call that is made. -/
def request? : Inquiry → Option Call
  | lookUp _ _ => none
  | call contact => some contact.1

end Inquiry

/-- A target that is connected to: what comes of an inquiry, given those before it. -/
structure Host where
  resolve : List Inquiry → ObjectName → Except TransportFailure ObjectName
  call : List Inquiry → Call → Comeback

/-- What has come of a probe. -/
structure Visit (α : Type) where
  log : List Inquiry := []
  /-- The result, or the text with which a call has unwound the probe. -/
  ending : Except String α

/-- A visit that begins with an inquiry. -/
def Visit.asking {α : Type} (i : Inquiry) (v : Visit α) : Visit α := { v with log := i :: v.log }

namespace Probe

variable {α : Type}

/-- A probe of a host, after the inquiries in `past`. -/
def visit (host : Host) (past : List Inquiry) : Probe α → Visit α
  | done a => { ending := .ok a }
  | note _ next => next.visit host past
  | resolve name next =>
    let inquiry := .lookUp name (host.resolve past name)
    ((next (host.resolve past name)).visit host (past ++ [inquiry])).asking inquiry
  | call c next =>
    match host.call past c with
    | .reply reply =>
      ((next reply).visit host (past ++ [.call (c, .reply reply)])).asking (.call (c, .reply reply))
    | .unwinding text => { log := [.call (c, .unwinding text)], ending := .error text }

end Probe

/-! ## The answers that decide

Three answers decide at most: to the two look-ups, and to the check. They are named here by the
inquiries that come before them, because a host may answer the same inquiry differently each
time. -/

/-- The call that asks whether a recorder is unlocked. -/
def Connection.checkCall (object : ObjectName) : Call := ⟨object, "vmCheckCommercialFeatures", []⟩

/-- Whether the word stands in an answer that says that a recorder is unlocked. -/
def Connection.SaysUnlocked (reply : String) : Prop := "unlocked".toList <:+: reply.toList

namespace Host

variable (host : Host)

/-- What the host answers about the recorder object, which is looked up first. -/
def recorder : Except TransportFailure ObjectName :=
  host.resolve [] Generation.structured.objectName

/-- The first look-up. -/
def first : Inquiry := .lookUp Generation.structured.objectName host.recorder

/-- What the host answers about the diagnostic commands, if they are looked up next. -/
def commands : Except TransportFailure ObjectName :=
  host.resolve [host.first] Generation.diagnostic.objectName

/-- The second look-up. -/
def second : Inquiry := .lookUp Generation.diagnostic.objectName host.commands

/-- What comes of asking whether the recorder is unlocked. -/
def check (object : ObjectName) : Comeback :=
  host.call [host.first, host.second] (Connection.checkCall object)

/-- Whether the host has no recorder object, and may be asked for its diagnostic commands. -/
def FallsBack (settings : Settings) : Prop :=
  (∃ text, host.recorder = .error (.notFound text)) ∧ settings.allowFallback = true

end Host

/-- Whether a failure says that an object is not there. -/
def TransportFailure.isAbsence : TransportFailure → Bool
  | notFound _ => true
  | _ => false

namespace Connection

variable (host : Host) (settings : Settings)

/-- What can come of asking whether a recorder is unlocked. -/
inductive Checked (object : ObjectName) : Comeback → Except String (Except Error Connection) → Prop
  | unwound (text) : Checked object (.unwinding text) (.error text)
  | failed (f) : Checked object (.reply (.error f))
      (.ok (.error (.ofFailure "vmCheckCommercialFeatures" f)))
  | noText {v text} (h : v.text? = none) : Checked object (.reply (.ok v))
      (.ok (.error (.unexpected "vmCheckCommercialFeatures" text)))
  | locked {reply text} (h : ¬ SaysUnlocked reply) :
      Checked object (.reply (.ok (.text reply))) (.ok (.error (.featureLocked text)))
  | unlocked {reply} (h : SaysUnlocked reply) :
      Checked object (.reply (.ok (.text reply))) (.ok (.ok ⟨.diagnostic object, settings⟩))

/-- All that can come of connecting. -/
inductive Connecting : Visit (Except Error Connection) → Prop
  | refused {text} (h : ¬ 0 < settings.blockSize) :
      Connecting ⟨[], .ok (.error (.validation text))⟩
  | structured {object} (hs : 0 < settings.blockSize) (h : host.recorder = .ok object) :
      Connecting ⟨[host.first], .ok (.ok ⟨.structured object, settings⟩)⟩
  | lost {f} (hs : 0 < settings.blockSize) (h : host.recorder = .error f)
      (hf : f.isAbsence = false) :
      Connecting ⟨[host.first],
        .ok (.error (.ofFailure Generation.structured.objectName.text f))⟩
  /-- There is no recorder object, and nothing else may be looked for. -/
  | absent {text t} (hs : 0 < settings.blockSize) (h : host.recorder = .error (.notFound text))
      (hf : settings.allowFallback = false) :
      Connecting ⟨[host.first], .ok (.error (.notFound t))⟩
  | neither {text t} (hs : 0 < settings.blockSize) (hb : host.FallsBack settings)
      (h : host.commands = .error (.notFound text)) :
      Connecting ⟨[host.first, host.second], .ok (.error (.notFound t))⟩
  | lostAgain {f} (hs : 0 < settings.blockSize) (hb : host.FallsBack settings)
      (h : host.commands = .error f) (hf : f.isAbsence = false) :
      Connecting ⟨[host.first, host.second],
        .ok (.error (.ofFailure Generation.diagnostic.objectName.text f))⟩
  /-- The diagnostic commands are there, and what comes of the check decides. -/
  | checked {object ending} (hs : 0 < settings.blockSize) (hb : host.FallsBack settings)
      (h : host.commands = .ok object) (hc : Checked settings object (host.check object) ending) :
      Connecting ⟨[host.first, host.second, .call (checkCall object, host.check object)], ending⟩

variable {host settings}

open Probe

/-- The end of connecting, once the backend is known. -/
def settle (settings : Settings) (backend : Backend) : Attempt Connection := do
  report (.connected backend.generation)
  return { backend, settings }

/-- The first look-up, and what follows each answer to it. -/
theorem connect_run (h : 0 < settings.blockSize) : (connect settings).run =
    .resolve Generation.structured.objectName fun
      | .ok object => (settle settings (.structured object)).run
      | .error (.notFound _) =>
        if settings.allowFallback then (fallBack >>= settle settings).run
        else .done (.error (.notFound Generation.structured.objectName.text))
      | .error f => .done (.error (.ofFailure Generation.structured.objectName.text f)) := by
  have hc : settings.check = .ok settings := if_pos h
  unfold connect
  rw [hc]
  refine congrArg (Probe.resolve _) ?_
  funext r
  rcases r with (_ | _ | _) | object
  · cases settings.allowFallback <;> rfl
  · rfl
  · rfl
  · rfl

/-- How the check goes on, once it is answered. -/
def afterCheck : Reply → Exchange Empty (Except Error Unit)
  | .ok (.text reply) =>
    if Text.mentions "unlocked" reply then .done (.ok ())
    else .note (.locked reply) (.done (.error
      (.featureLocked "restart the target with -XX:+UnlockCommercialFeatures")))
  | .ok v => .done (.error
      (.unexpected "vmCheckCommercialFeatures" ("expected " ++ "text" ++ ", got " ++ v.kind)))
  | .error f => .done (.error (.ofFailure "vmCheckCommercialFeatures" f))

/-- The check is one call. -/
theorem check_run (object : ObjectName) : (Backend.Diagnostic.checkUnlocked object).run =
    .note (.invoking "vmCheckCommercialFeatures" object) (.call (checkCall object) afterCheck) := by
  refine congrArg (Exchange.note _) (congrArg (Exchange.call _) ?_)
  funext reply
  rcases reply with f | v
  · rfl
  · cases v with
    | text reply =>
      change ExceptT.run (if Text.mentions "unlocked" reply then (pure () : Request Unit) else do
        Action.report (.locked reply)
        throw (.featureLocked "restart the target with -XX:+UnlockCommercialFeatures")) = _
      cases h : Text.mentions "unlocked" reply <;> simp only [afterCheck, h] <;> rfl
    | _ => rfl

/-- The second look-up, and what follows each answer to it. -/
theorem fallBack_run (settings : Settings) : (fallBack >>= settle settings).run =
    .note .fallingBack (.resolve Generation.diagnostic.objectName fun
      | .ok object => .note (.invoking "vmCheckCommercialFeatures" object)
          (.call (checkCall object) fun reply => ofExchange (afterCheck reply) >>= fun
            | .ok () => (settle settings (.diagnostic object)).run
            | .error e => .done (.error e))
      | .error (.notFound _) => .done (.error (.notFound
          ("neither " ++ Generation.structured.objectName.text ++ " nor " ++
            Generation.diagnostic.objectName.text ++ " is registered")))
      | .error f => .done (.error (.ofFailure Generation.diagnostic.objectName.text f))) := by
  refine congrArg (Probe.note _) (congrArg (Probe.resolve _) ?_)
  funext r
  rcases r with (_ | _ | _) | object
  · rfl
  · rfl
  · rfl
  · change ((ExceptT.mk (ofExchange (Backend.Diagnostic.checkUnlocked object).run) >>= fun _ =>
      pure (Backend.diagnostic object)) >>= settle settings).run = _
    rw [check_run]
    refine congrArg (Probe.note _) (congrArg (Probe.call _) ?_)
    funext reply
    dsimp only
    -- How the answer is read does not matter here, only that it leads to a result.
    generalize afterCheck reply = rest
    induction rest with
    | done result => cases result <;> rfl
    | note n rest ih => exact congrArg (Probe.note n) ih
    | keep s rest => exact s.elim
    | call c next ih => exact congrArg (Probe.call c) (funext ih)

/-! ## All that can come of connecting

The tables say with which answers each result comes about. They are left with one constructor for
each way out of the attempt, so that a proof about connecting is a case analysis and does not follow
the attempt again. -/

/-- The last call decides. -/
theorem checked_visit (object : ObjectName) (past : List Inquiry) : ∃ ending,
    (Probe.call (checkCall object) fun reply => ofExchange (afterCheck reply) >>= fun
      | .ok () => (settle settings (.diagnostic object)).run
      | .error e => .done (.error e)).visit host past =
        ⟨[.call (checkCall object, host.call past (checkCall object))], ending⟩ ∧
      Checked settings object (host.call past (checkCall object)) ending := by
  unfold visit
  cases host.call past (checkCall object) with
  | unwinding text => exact ⟨_, rfl, .unwound text⟩
  | reply reply =>
    rcases reply with f | v
    · exact ⟨_, rfl, .failed f⟩
    · cases v with
      | text reply =>
        cases h : Text.mentions "unlocked" reply with
        | true =>
          simp only [afterCheck, h]
          exact ⟨_, rfl, .unlocked (Text.mentions_iff.1 h)⟩
        | false =>
          simp only [afterCheck, h]
          exact ⟨_, rfl, .locked (mt Text.mentions_iff.2 (by simp [h]))⟩
      | _ => exact ⟨_, rfl, .noText rfl⟩

/-- What comes of looking for the diagnostic commands. -/
theorem fallBack_visit (hs : 0 < settings.blockSize) (hb : host.FallsBack settings) :
    Connecting host settings
      (((fallBack >>= settle settings).run.visit host [host.first]).asking host.first) := by
  rw [fallBack_run]
  simp only [visit, List.cons_append, List.nil_append]
  change Connecting host settings ((Visit.asking host.second (visit host [host.first, host.second]
    (match host.commands with
      | .ok object => _
      | .error (.notFound _) => _
      | .error f => _))).asking host.first)
  cases h : host.commands with
  | ok object =>
    obtain ⟨ending, hv, hc⟩ := @checked_visit host settings object [host.first, host.second]
    simp only [visit, hv]
    exact .checked hs hb h hc
  | error f =>
    cases f with
    | notFound text => exact .neither hs hb h
    | communication text | invocation text => exact .lostAgain hs hb h rfl

/-- What comes of connecting to a host. -/
theorem connect_visit : Connecting host settings ((connect settings).run.visit host []) := by
  by_cases hs : 0 < settings.blockSize
  · rw [connect_run hs]
    change Connecting host settings (Visit.asking host.first (visit host [host.first]
      (match host.recorder with | .ok object => _ | .error (.notFound _) => _ | .error f => _)))
    cases h : host.recorder with
    | ok object => exact .structured hs h
    | error f =>
      cases f with
      | notFound text =>
        cases hf : settings.allowFallback with
        | true => exact fallBack_visit hs ⟨⟨text, h⟩, hf⟩
        | false => exact .absent hs h hf
      | communication text | invocation text => exact .lost hs h rfl
  · have hc : settings.check = .error (.blockSize settings.blockSize) := if_neg hs
    unfold connect
    rw [hc]
    exact .refused hs

/-! ## What the answers decide

Read the other way round, each result is decided by the answers: it comes about with these and with
no others. -/

/-- How the answers of a host decide, if the settings can be used. -/
structure Decided (host : Host) (settings : Settings) (v : Visit (Except Error Connection)) :
    Prop where
  /-- The recorder object is looked up first, and the diagnostic commands are looked up next if
  it is absent and they may be used. -/
  lookUps : (host.FallsBack settings → v.log.filterMap Inquiry.name? =
      [Generation.structured.objectName, Generation.diagnostic.objectName]) ∧
    (¬ host.FallsBack settings → v.log.filterMap Inquiry.name? = [Generation.structured.objectName])
  /-- The only call is the check, and it is made just if the diagnostic commands are there. -/
  calls : ∀ request, request ∈ v.log.filterMap Inquiry.request? ↔
    host.FallsBack settings ∧ ∃ object, host.commands = .ok object ∧ request = checkCall object
  once : (v.log.filterMap Inquiry.request?).length ≤ 1
  /-- There is a connection just if the recorder object is there, or else the diagnostic commands
  are there and the check is answered that the recorder is unlocked. -/
  connected : ∀ c, v.ending = .ok (.ok c) ↔
    (∃ object, host.recorder = .ok object ∧ ⟨.structured object, settings⟩ = c) ∨
      host.FallsBack settings ∧ ∃ object reply, host.commands = .ok object ∧
        host.check object = .reply (.ok (.text reply)) ∧ SaysUnlocked reply ∧
        ⟨.diagnostic object, settings⟩ = c
  /-- A broken channel is reported as such, whichever step it broke. -/
  transport : ∀ m, v.ending = .ok (.error (.transport m)) ↔
    host.recorder = .error (.communication m) ∨ host.FallsBack settings ∧
      (host.commands = .error (.communication m) ∨ ∃ object, host.commands = .ok object ∧
        host.check object = .reply (.error (.communication m)))
  /-- A look-up that raises is no absence: nothing is asked any more. -/
  raised : ∀ text, host.recorder = .error (.invocation text) → v.log = [host.first] ∧
    v.ending = .ok (.error (.protocol Generation.structured.objectName.text
      (.remote (.invocation text))))
  raisedAgain : ∀ text, host.FallsBack settings → host.commands = .error (.invocation text) →
    v.log = [host.first, host.second] ∧ v.ending = .ok (.error
      (.protocol Generation.diagnostic.objectName.text (.remote (.invocation text))))
  /-- All objects that may be used are absent. -/
  notFound : (∃ text, v.ending = .ok (.error (.notFound text))) ↔
    (∃ text, host.recorder = .error (.notFound text)) ∧
      (settings.allowFallback = true → ∃ text, host.commands = .error (.notFound text))
  locked : (∃ text, v.ending = .ok (.error (.featureLocked text))) ↔
    host.FallsBack settings ∧ ∃ object reply, host.commands = .ok object ∧
      host.check object = .reply (.ok (.text reply)) ∧ ¬ SaysUnlocked reply

attribute [local simp] Host.first Host.second Inquiry.name? Inquiry.request? Error.ofFailure
  Error.unexpected List.filterMap_cons in
theorem Connecting.decided {v : Visit (Except Error Connection)} (h : Connecting host settings v)
    (hs : 0 < settings.blockSize) : Decided host settings v := by
  cases h with
  | refused h => exact (h hs).elim
  | structured _ h =>
    have hb : ¬ host.FallsBack settings := by simp [Host.FallsBack, h]
    constructor <;> simp [h, hb]
  | @lost f _ h hf =>
    have hb : ¬ host.FallsBack settings := by
      intro ⟨⟨text, ha⟩, _⟩
      obtain rfl := Except.error.inj (h.symm.trans ha)
      cases hf
    -- That the object is just absent is a case of its own.
    cases f with
    | notFound text => cases hf
    | communication text | invocation text => constructor <;> simp [h, hb]
  | absent _ h hf =>
    have hb : ¬ host.FallsBack settings := by simp [Host.FallsBack, hf]
    constructor <;> simp [h, hb, hf]
  | neither _ hb h =>
    obtain ⟨⟨text, ha⟩, hf⟩ := id hb
    constructor <;> simp [h, hb, ha]
  | @lostAgain f _ hb h hf =>
    obtain ⟨⟨text, ha⟩, ht⟩ := id hb
    cases f with
    | notFound text => cases hf
    | communication text | invocation text => constructor <;> simp [h, hb, ha, ht]
  | @checked object ending _ hb h hc =>
    obtain ⟨⟨text, ha⟩, hf⟩ := id hb
    generalize hk : host.check object = back at hc
    cases hc with
    | unwound text => constructor <;> simp [h, hb, ha, hf, hk]
    | failed f => cases f <;> constructor <;> simp [h, hb, ha, hf, hk]
    | @noText v text hv =>
      have hn (reply : String) : v ≠ .text reply := by
        intro he
        simp [he, Value.text?] at hv
      constructor <;> simp [h, hb, ha, hf, hk, hn]
    | locked hu => constructor <;> simp [h, hb, ha, hf, hk, hu]
    | unlocked hu => constructor <;> simp [h, hb, ha, hf, hk, hu]

end Connection

end RemoteRecorder
