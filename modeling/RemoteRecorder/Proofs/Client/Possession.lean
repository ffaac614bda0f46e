import Mathlib.Data.List.Nodup
import Mathlib.Data.List.Perm.Subperm
import RemoteRecorder.Proofs.Client.Frame
import RemoteRecorder.Proofs.Recording.Possession

/-!
# RemoteRecorder.Proofs.Client.Possession

**Whose session is whose**, among all recordings of a client.

* A session is a recording's own if the target has named it to a start of the recording, or to the
  step that has made the recording (`Chronicle.Owns`).
* The sessions that a recording shows are its own, and so are those that its callers have to do with
  (`Chronicle.Reached.possession`).
* If starts get to know their sessions only after certain calls (`Chronicle.Earning`), the starts
  that have brought these sessions have heard those calls (`Chronicle.Reached.possessive`).
* If the target never names a session twice, no two recordings have one in common (`eq_of_owns`).
-/

namespace RemoteRecorder

open Client (Step Task Answer)
open Recording (Caller Possession)

namespace Client

variable {c c' : Client} {entry : Entry} {step : Step} {task task' : Task} {t : Caller.Turn}
  {answer : Answer} {generation : Generation} {object : ObjectName} {i : Nat}

/-! ## What tasks speak of

What has been shown of a caller at work on a recording is carried over to the tasks of a client. A
task that closes a recording because it is the last to leave it is at work on it as well, but what
it hears is no part of its step. -/

/-- Whether what a task says about sessions is in order, given what its step has heard. Who parts
from a recording has heard of no session. -/
def Task.Speaks (generation : Generation) (object : ObjectName) (entry : Entry) : Task → Prop
  | recording _ x => x.Speaks object entry.heard
  | farewell _ x _ => ∃ heard, broughtBy heard = [] ∧ x.Speaks object heard ∧
    x.Told generation .close heard
  | _ => True

theorem afterParting_speaks (c : Client) (i : Nat) (answer : Answer) :
    (c.afterParting i answer).Speaks generation object entry := by
  unfold afterParting
  split
  · exact ⟨[], rfl, trivial, rfl⟩
  · trivial

theorem Outset.speaks (h : Outset c step c' task) (made : List Nat) :
    task.Speaks generation object { step, made } := by
  cases h with
  | drop hr => exact afterParting_speaks ..
  | _ => trivial

theorem Advance.speaks (hb : c.connection.backend.Speaks object)
    (ha : c.connection.backend.Accountable generation) (h : Advance c task t c' task')
    (engaged : c.Engaged entry task) (q : task.Speaks generation object entry) (made : List Nat) :
    task'.Speaks generation object (entry.add (task.hears t) made) := by
  cases h with
  | move hr m => exact m.speaks hb q
  | @depart i o => cases o <;> exact afterParting_speaks ..
  | @farewell i x t r r' x' answer hr m =>
    obtain ⟨heard, quiet, hs, ht⟩ := q
    obtain ⟨-, -, r₁, hr₁, pursues⟩ := engaged
    obtain rfl := Option.some.inj (hr.symm.trans hr₁)
    refine ⟨_, ?_, m.speaks hb hs, m.told ha pursues ht⟩
    rw [broughtBy, List.filterMap_append, show heard.filterMap Contact.brings? = [] from quiet]
    refine List.filterMap_eq_nil_iff.2 ?_
    intro contact hc
    exact Caller.Told.brings?_eq_none ht pursues (Option.mem_toList.1 hc)
  | finish =>
    unfold afterChore
    split
    all_goals try trivial
    split <;> trivial
  | _ => trivial

/-! ## Seats

A task that is at work on a recording has a seat there, and the seats of all tasks make up the
crowds of the recordings. Seen from the crowds there are only two sorts of turns, and `Work` is what
is left of an advance if all else is forgotten. -/

/-- What a turn does about recordings: a caller takes a step, or recordings are added that an
operation has made at its end. -/
inductive Work (c : Client) (t : Caller.Turn) (c' : Client) : Task → Task → Prop
  | move {task task' i x r r' x'} (hs : task.seat? = some (i, x)) (hs' : task'.seat? = some (i, x'))
      (hr : c.contents[i]? = some r) (m : x.Move c.connection.backend r t r' x')
      (hc : c'.contents = c.contents.set i r') : Work c t c' task task'
  | aside {task task' added} (hc : c'.contents = c.contents ++ added)
      (hs : task'.seat? = none ∨ ∃ i x, task.seat? = some (i, x) ∧
        task'.seat? = some (i, .begun .close))
      (ha : ∀ r ∈ added, ∃ i o, task = .recording i (.ended o) ∧ r ∈ Recording.made o) :
      Work c t c' task task'

theorem seat?_afterParting (c : Client) (i : Nat) (answer : Answer) :
    (c.afterParting i answer).seat? = none ∨
      (c.afterParting i answer).seat? = some (i, .begun .close) := by
  unfold afterParting
  split
  · exact .inr rfl
  · exact .inl rfl

theorem Outset.seat? (h : Outset c step c' task) : task.seat? = none ∨
    ∃ i op, task.seat? = some (i, .begun op) ∧ i < c.contents.length := by
  cases h with
  | operate hr => exact .inr ⟨_, _, rfl, lt_of_recording? hr⟩
  | @drop i r hr =>
    exact (seat?_afterParting ..).imp_right fun hs => ⟨i, .close, hs, lt_of_recording? hr⟩
  | _ => exact .inl rfl

/-- A recording that has just been created has no session. -/
theorem Outset.fresh (h : Outset c step c' task) : ∃ added, c'.contents = c.contents ++ added ∧
    ∀ r ∈ added, r.cell.phase = .new := by
  cases h with
  | created hs hb => exact ⟨_, contents_addRecording, by simp [Recording.create]⟩
  | operate hr => exact ⟨[], by simp⟩
  | drop hr => exact ⟨[], by simp⟩
  | _ => exact ⟨[], (List.append_nil _).symm, List.forall_mem_nil _⟩

/-- Every turn is of one of the two sorts. -/
theorem Advance.work {P : SessionId → Prop} (h : Advance c task t c' task') (hs : task.Sourced P) :
    Work c t c' task task' := by
  have aside {c' : Client} {task' : Task} (hc : c'.contents = c.contents)
      (hs : task'.seat? = none) : Work c t c' task task' :=
    .aside (hc.trans (List.append_nil _).symm) (.inl hs) (by simp)
  cases h with
  | move hr m => exact .move rfl rfl hr m contents_setRecording
  | farewell hr m => exact .move rfl rfl hr m contents_setRecording
  | @depart i o =>
    refine .aside (depart_contents o) ?_ fun r hr => ⟨i, o, rfl, hr⟩
    have parted :
        (c.depart i o).2.seat? = none ∨ (c.depart i o).2.seat? = some (i, .begun .close) := by
      cases o <;> exact seat?_afterParting ..
    exact parted.imp_right fun h => ⟨i, _, rfl, h⟩
  | @conclude result =>
    refine aside ((conclude_contents result).2.trans ?_) rfl
    cases result with
    | error e => exact List.append_nil _
    | ok made =>
      cases made with
      | cloned clone => exact hs.elim
      | _ => exact List.append_nil _
  | @finish i chore result =>
    refine aside rfl ?_
    unfold afterChore
    split
    all_goals try rfl
    split <;> rfl
  | _ => exact aside rfl rfl

/-! ## What steps make -/

/-- A step makes one recording at most. Who starts a recording or is still at work makes none. -/
theorem Engaged.made_cases (h : c.Engaged entry task) : entry.made = [] ∨
    ∃ n, entry.made = [n] ∧ (∀ i, entry.step ≠ .operate i .start) ∧
      ∀ i x, task ≠ .recording i x := by
  have concluded {answer : Answer} (h : c.Concluded entry answer) :
      entry.made = [] ∨ ∃ n, entry.made = [n] ∧ ∀ i, entry.step ≠ .operate i .start := by
    cases h with
    | nothing hm ha => exact .inl hm
    | created hs hm hn hb =>
      refine .inr ⟨_, hm, ?_⟩
      intro i he
      rw [he] at hs
      cases hs
    | cloned hs hm hi hn ht ha =>
      refine .inr ⟨_, hm, ?_⟩
      intro i he
      rw [he] at hs
      cases hs
  cases task with
  | recording i x => exact .inl h.1
  | farewell i x answer =>
    exact (concluded h.1).imp_right fun ⟨n, hm, hs⟩ => ⟨n, hm, hs, by simp⟩
  | direct rest => exact .inl h.1
  | stream i chore rest => exact .inl h.1
  | ended answer => exact (concluded h).imp_right fun ⟨n, hm, hs⟩ => ⟨n, hm, hs, by simp⟩

end Client

namespace Chronicle

variable {c c' : Chronicle} {e : Traffic.Event} {i j k : Nat} {id : SessionId} {entry : Entry}
  {generation : Generation} {object : ObjectName} {settings : Settings} {task : Task} {x : Caller}

/-- In every run, what tasks say about sessions is in order. -/
theorem Reached.speaks (h : c.Reached generation object settings) :
    c.Each fun _ entry task => task.Speaks generation object entry := by
  refine each_of_reached (fun _ _ _ _ _ q => q) (fun _ _ _ _ _ ho => ho.speaks _) ?_ h
  intro c k entry t task client task' hr he hk q ha
  have hc := hr.connection
  refine ha.speaks ?_ ?_ (hr.engaged.2 k entry task he hk) q _
  · rw [hc]
    exact Backend.speaks generation object
  · rw [hc]
    exact Backend.accountable generation object

/-! ## Own sessions

The invariant is stated over what starts have earned and not only over what they have been told. It
can so be used twice: with nothing to be earned it says whose a session is, and with the calls of a
start that has succeeded it says that nobody has a session whose start has not. -/

/-- Whether a session has been brought by a step that has started a recording, or has made it. -/
def Owns (c : Chronicle) (i : Nat) (id : SessionId) : Prop :=
  ∃ (k : Nat) (entry : Entry), c.entries[k]? = some entry ∧
    (entry.step = .operate i .start ∨ i ∈ entry.made) ∧ id ∈ broughtBy entry.heard

/-- What can be asked of the calls of a start that has brought a session: who has started one has
heard it, and whatever is heard afterwards does not matter. -/
structure Earning (generation : Generation) (object : ObjectName) (settings : Settings)
    (S : List Contact → Prop) : Prop where
  append : ∀ heard later, S heard → S (heard ++ later)
  started : ∀ (c : Chronicle) (k i : Nat) (entry : Entry) (l : Recording.Launch) (id : SessionId),
    c.Reached generation object settings → c.entries[k]? = some entry →
    entry.step = .operate i .start →
    c.traffic.tasks[k]? = some (.recording i (.asking (.start l) (.done (.ok id)))) → S entry.heard

/-- Whether a session is a recording's own, and has been earned if a start has brought it. -/
def Earns (S : List Contact → Prop) (c : Chronicle) (i : Nat) (id : SessionId) : Prop :=
  ∃ (k : Nat) (entry : Entry), c.entries[k]? = some entry ∧
    (entry.step = .operate i .start ∧ S entry.heard ∨ i ∈ entry.made) ∧ id ∈ broughtBy entry.heard

variable {S : List Contact → Prop}

theorem Earns.owns (h : c.Earns S i id) : c.Owns i id := by
  obtain ⟨k, entry, hk, ho, hid⟩ := h
  exact ⟨k, entry, hk, ho.imp_left And.left, hid⟩

theorem Earns.next (hS : Earning generation object settings S) (h : c.Earns S i id)
    (hn : c.Next e c') : c'.Earns S i id := by
  obtain ⟨k, entry, hk, ho, hid⟩ := h
  obtain ⟨heard, made, hk'⟩ := hn.entry hk
  exact ⟨k, _, hk', ho.imp (fun hs => ⟨hs.1, hS.append _ _ hs.2⟩) (List.mem_append_left made),
    Backend.mem_broughtBy_append hid⟩

/-- Whether all sessions that a recording of a client or its callers show, use or rely on are its
own, and have been earned. -/
def Possessive (S : List Contact → Prop) (c : Chronicle) : Prop :=
  ∀ i r, c.traffic.client.contents[i]? = some r →
    Possession (c.Earns S i) r (c.traffic.fleet.caller? i)

theorem caller?_eq_none {n : Nat} (hr : c.Reached generation object settings)
    (hn : c.traffic.client.contents.length ≤ n) : c.traffic.fleet.caller? n = fun _ => none := by
  funext m
  rw [Option.eq_none_iff_forall_ne_some]
  intro d hd
  exact absurd (hr.sourced.fleet.seated n m d hd) (Nat.not_lt.2 hn)

/-- Recordings are added, and somebody comes or goes. -/
theorem Possessive.renew {added : List Recording} {seat : Option (Nat × Caller)}
    (hS : Earning generation object settings S) (hr : c.Reached generation object settings)
    (q : c.Possessive S) (hn : c.Next e c')
    (hc : c'.traffic.client.contents = c.traffic.client.contents ++ added)
    (ha : ∀ n r, c'.traffic.client.contents[n]? = some r → r ∈ added →
      c.traffic.client.contents.length ≤ n → r.cell.phase.hasSession = true → c'.Earns S n r.id)
    (hcall : ∀ n, c'.traffic.fleet.caller? n =
      Function.update (c.traffic.fleet.caller? n) k (Fleet.at? n seat))
    (hs : seat = none ∨ ∃ i op, seat = some (i, .begun op) ∧ i < c.traffic.client.contents.length) :
    c'.Possessive S := by
  intro n r hr'
  rw [hcall]
  by_cases hlt : n < c.traffic.client.contents.length
  · have hr₁ := hr'
    rw [hc, List.getElem?_append_left hlt] at hr₁
    refine Possession.seat ((q n r hr₁).imp fun id ho => ho.next hS hn) ?_
    rcases hs with rfl | ⟨i, op, rfl, -⟩
    · exact .inl rfl
    · by_cases hi : n = i
      · exact .inr ⟨op, by simp [Fleet.at?, hi]⟩
      · exact .inl (Fleet.at?_of_ne hi)
  · -- Nobody works on a recording that has just been added.
    have hle := Nat.le_of_not_lt hlt
    have nobody : Fleet.at? n seat = none := by
      rcases hs with rfl | ⟨i, op, rfl, hi⟩
      · rfl
      · exact Fleet.at?_of_ne (Nat.ne_of_gt (Nat.lt_of_lt_of_le hi hle))
    have mem : r ∈ added := by
      have hr₁ := hr'
      rw [hc, List.getElem?_append_right hle] at hr₁
      exact List.mem_of_getElem? hr₁
    rw [caller?_eq_none hr hle, nobody, Function.update_eq_self_iff.2 rfl]
    exact .of_nobody (ha n r hr' mem hle)

/-- Somebody takes a step on his recording. -/
theorem Possessive.move {r r' : Recording} {x' : Caller} {t : Caller.Turn}
    (hS : Earning generation object settings S) (hr : c.Reached generation object settings)
    (q : c.Possessive S) (hn : c.Next e c')
    (hk : c.traffic.fleet.seats[k]? = some (some (i, x)))
    (hi : c.traffic.client.contents[i]? = some r)
    (m : x.Move c.traffic.client.connection.backend r t r' x')
    (hc : c'.traffic.client.contents = c.traffic.client.contents.set i r')
    (hcall : ∀ n, c'.traffic.fleet.caller? n =
      Function.update (c.traffic.fleet.caller? n) k (Fleet.at? n (some (i, x'))))
    (hs : ∀ l id, x = .asking (.start l) (.done (.ok id)) → c.Earns S i id) :
    c'.Possessive S := by
  have hx : c.traffic.fleet.caller? i k = some x := Fleet.caller?_eq_some_iff.2 hk
  obtain ⟨hlt, -⟩ := List.getElem?_eq_some_iff.1 hi
  intro n r₁ hr₁
  rw [hcall]
  rw [hc, List.getElem?_set] at hr₁
  by_cases hni : i = n
  · subst hni
    obtain rfl : r' = r₁ := by simpa [hlt] using hr₁
    have order := (hr.sourced.fleet.recordings i r hi).order
    have moved := (q i r hi).move order hx m hs
    rw [Fleet.at?, if_pos rfl]
    exact moved.imp fun id ho => ho.next hS hn
  · rw [if_neg hni] at hr₁
    rw [Fleet.at?_of_ne (Ne.symm hni)]
    exact ((q n r₁ hr₁).imp fun id ho => ho.next hS hn).seat (.inl rfl)

/-- Whoever has started a session by a caller at work for a step does so by a start. -/
theorem Reached.earns_started {l : Recording.Launch} (hS : Earning generation object settings S)
    (hr : c.Reached generation object settings) (hk : c.traffic.tasks[k]? = some task)
    (hs : task.seat? = some (i, .asking (.start l) (.done (.ok id)))) : c.Earns S i id := by
  obtain ⟨entry, he, engaged⟩ := hr.engaged.entry hk
  have speaks := hr.speaks.2 k entry task he hk
  obtain ⟨terms, op, pursues, h⟩ := engaged.pursues hs
  obtain rfl : op = .start := pursues
  obtain ⟨rfl, hstep⟩ := h.resolve_left nofun
  exact ⟨k, entry, he, .inl ⟨hstep, hS.started c k i entry l id hr he hstep hk⟩, speaks.1 id rfl⟩

/-- Every event keeps the sessions of each recording with it. -/
theorem Possessive.next (hS : Earning generation object settings S)
    (hr : c.Reached generation object settings) (q : c.Possessive S) (h : c.Next e c') :
    c'.Possessive S := by
  have hn := h
  cases h with
  | @begin step client task ho =>
    obtain ⟨added, hc, hnew⟩ := ho.fresh
    refine q.renew (k := c.traffic.fleet.seats.length) hS hr hn hc ?_ (fun n => ?_) ho.seat?
    · intro n r _ hr' _ hs
      rw [hnew r hr'] at hs
      cases hs
    · have seats : (c.traffic.tasks ++ [task]).map Task.seat? =
          c.traffic.fleet.seats ++ [task.seat?] := List.map_append
      rw [Traffic.fleet, seats]
      exact Fleet.caller?_push_eq_update ..
  | @turn k t task client task' hk ha =>
    have seats : c.traffic.fleet.seats[k]? = some task.seat? := by simp [Traffic.fleet, hk]
    have hcall (n : Nat) :
        Fleet.caller? ⟨client.contents, (c.traffic.tasks.set k task').map Task.seat?,
          c.traffic.log ++ task.signals t task'⟩ n =
        Function.update (c.traffic.fleet.caller? n) k (Fleet.at? n task'.seat?) := by
      rw [List.map_set]
      exact Fleet.caller?_set_eq_update seats ..
    cases ha.work (hr.sourced.tasks task (List.mem_of_getElem? hk)) with
    | move hs hs' hi m hc =>
      refine q.move hS hr hn (hs ▸ seats) hi m hc (fun n => hs' ▸ hcall n) ?_
      rintro l id rfl
      exact hr.earns_started hS hk hs
    | aside hc hs ha' =>
      refine q.renew hS hr hn hc ?_ hcall ?_
      · intro n r hr' hr₁ hle _
        -- Whoever has made a clone has heard its number.
        obtain ⟨i, o, rfl, made⟩ := ha' r hr₁
        obtain ⟨entry, he, speaks⟩ := hr.speaks.entry hk
        have mem : n ∈ c.traffic.client.added client := by
          have hlt := (List.getElem?_eq_some_iff.1 hr').1
          rw [hc, List.length_append] at hlt
          rw [Client.added_append hc]
          exact List.mem_range'_1.2 ⟨hle, hlt⟩
        refine ⟨k, _, by simp [he]; rfl, .inr (List.mem_append_right _ mem), ?_⟩
        exact Backend.mem_broughtBy_append (speaks r made)
      · refine hs.imp_right ?_
        rintro ⟨i, x, hx, hs'⟩
        refine ⟨i, .close, hs', ?_⟩
        exact hr.sourced.fleet.seated i k x (Fleet.caller?_eq_some_iff.2 (hx ▸ seats))

theorem Reached.possessive (hS : Earning generation object settings S)
    (h : c.Reached generation object settings) : c.Possessive S :=
  h.induction (P := Possessive S) (fun _ _ hr => nomatch hr) fun _ _ _ hr q hn => q.next hS hr hn

/-- All sessions that a recording or its callers have to do with are its own. -/
theorem Reached.possession {r : Recording} (h : c.Reached generation object settings)
    (hi : c.traffic.client.contents[i]? = some r) :
    Possession (c.Owns i) r (c.traffic.fleet.caller? i) := by
  have any : Earning generation object settings fun _ => True :=
    ⟨fun _ _ _ => trivial, fun _ _ _ _ _ _ _ _ _ _ => trivial⟩
  exact (h.possessive any i r hi).imp fun _ he => he.owns

/-! ## No session in common

Numbers count here and not only members: an answer that names a session goes to one task, that is,
to one entry, so what all entries have been told is no more than what the target has said. If it has
said nothing twice, no two entries have been told the same. -/

/-- Adding to one element of a list adds as much to what is read off all of them. -/
theorem flatMap_modify_perm {α β : Type} {f : α → List β} {g : α → α} {added : List β}
    (h : ∀ a, f (g a) = f a ++ added) {l : List α} (hk : k < l.length) :
    ((l.modify k g).flatMap f).Perm (l.flatMap f ++ added) := by
  induction l generalizing k with
  | nil => cases hk
  | cons a l ih =>
    cases k with
    | zero =>
      rw [List.modify_zero_cons, List.flatMap_cons, List.flatMap_cons, h, List.append_assoc,
        List.append_assoc]
      exact List.perm_append_comm.append_left (f a)
    | succ k =>
      rw [List.modify_succ_cons, List.flatMap_cons, List.flatMap_cons, List.append_assoc]
      exact (ih (Nat.lt_of_succ_lt_succ hk)).append_left (f a)

/-- What a step hears is part of what goes over the wire. -/
theorem broughtBy_hears (task task' : Task) (t : Caller.Turn) :
    (broughtBy (task.hears t)).Sublist (brought (task.signals t task')) := by
  cases t with
  | act => exact List.nil_sublist _
  | unwind text =>
    have quiet : broughtBy (task.hears (.unwind text)) = [] := by
      cases h : task.awaits? <;>
        simp [Task.hears, Caller.Turn.contact?, h, broughtBy, Contact.brings?]
    rw [quiet]
    exact List.nil_sublist _
  | reply reply =>
    cases h : task.awaits? with
    | none => simp [Task.hears, Caller.Turn.contact?, h, broughtBy]
    | some call =>
      have pending : task.pending? = some call := by
        cases task <;> first | exact h | cases h
      have heard : task.hears (.reply reply) = [(call, .reply reply)] := by
        simp [Task.hears, Caller.Turn.contact?, h]
      have sent : task.signals (.reply reply) task' = [.returned call reply] ++ task'.arrival := by
        simp [Task.signals, Caller.Turn.signals, pending, Task.arrival]
      have same : broughtBy [(call, .reply reply)] = brought [.returned call reply] := rfl
      rw [heard, sent, brought_append, same]
      exact List.sublist_append_left ..

theorem range_contents {client client' : Client} (g : client.Grows client') :
    List.range client'.contents.length =
      List.range client.contents.length ++ client.added client' := by
  have before : client.contents.length = client.recordings.length := List.length_map _
  have after : client'.contents.length = client'.recordings.length := List.length_map _
  have joined := @List.range'_append_1 0 client.contents.length
    (client'.contents.length - client.contents.length)
  rw [Nat.zero_add, Nat.add_sub_cancel' g.length_le] at joined
  rw [Client.added, ← before, ← after, List.range_eq_range', List.range_eq_range', joined]

/-- Each recording has been made by one step. -/
theorem Reached.made_perm (h : c.Reached generation object settings) :
    (c.entries.flatMap Entry.made).Perm (List.range c.traffic.client.contents.length) := by
  refine h.induction (P := fun c => (c.entries.flatMap Entry.made).Perm
    (List.range c.traffic.client.contents.length)) (.refl _) ?_
  intro c e c' hr q hn
  rw [range_contents hn.grows]
  cases hn with
  | begin ho =>
    simp only [List.flatMap_append, List.flatMap_singleton]
    exact q.append_right _
  | @turn k t task client task' hk ha =>
    have added (entry : Entry) : (entry.add (task.hears t) (c.traffic.client.added client)).made =
        entry.made ++ c.traffic.client.added client := rfl
    have hlt : k < c.entries.length := hr.engaged.1 ▸ (List.getElem?_eq_some_iff.1 hk).1
    exact (flatMap_modify_perm added hlt).trans (q.append_right _)

/-- The target has named all sessions that steps have brought, and as often at least. -/
theorem Reached.brought_subperm (h : c.Reached generation object settings) :
    (c.entries.flatMap fun entry => broughtBy entry.heard).Subperm (brought c.traffic.log) := by
  refine h.induction (P := fun c =>
    (c.entries.flatMap fun entry => broughtBy entry.heard).Subperm (brought c.traffic.log))
    (.refl _) ?_
  intro c e c' hr q hn
  cases hn with
  | begin ho =>
    have same : broughtBy ([] : List Contact) = [] := rfl
    simp only [List.flatMap_append, List.flatMap_singleton, same, List.append_nil, brought_append]
    exact q.trans (List.sublist_append_left ..).subperm
  | @turn k t task client task' hk ha =>
    have added (entry : Entry) : broughtBy (entry.add (task.hears t)
        (c.traffic.client.added client)).heard =
          broughtBy entry.heard ++ broughtBy (task.hears t) :=
      List.filterMap_append
    have hlt : k < c.entries.length := hr.engaged.1 ▸ (List.getElem?_eq_some_iff.1 hk).1
    rw [brought_append]
    exact (flatMap_modify_perm added hlt).subperm.trans
      (q.append (broughtBy_hears task task' t).subperm)

/-- If the target never names a session twice, no two steps have brought the same. -/
theorem Reached.eq_of_brought {entry' : Entry} {n : Nat} (hr : c.Reached generation object settings)
    (hn : (brought c.traffic.log).Nodup) (hk : c.entries[k]? = some entry)
    (hk' : c.entries[n]? = some entry') (h : id ∈ broughtBy entry.heard)
    (h' : id ∈ broughtBy entry'.heard) : k = n := by
  obtain ⟨named, hp, hs⟩ := hr.brought_subperm
  have nodup := hp.nodup_iff.1 (hn.sublist hs)
  have apart := List.pairwise_iff_getElem.1 (List.nodup_flatMap.1 nodup).2
  obtain ⟨hlt, rfl⟩ := List.getElem?_eq_some_iff.1 hk
  obtain ⟨hlt', rfl⟩ := List.getElem?_eq_some_iff.1 hk'
  by_contra hne
  rcases Nat.lt_or_gt_of_ne hne with hl | hl
  · exact apart k n hlt hlt' hl h h'
  · exact apart n k hlt' hlt hl h' h

/-- No two recordings have a session in common, if the target never names one twice. -/
theorem Reached.eq_of_owns (hr : c.Reached generation object settings)
    (hn : (brought c.traffic.log).Nodup) (hi : c.Owns i id) (hj : c.Owns j id) : i = j := by
  obtain ⟨k, entry, hk, ho, hid⟩ := hi
  obtain ⟨k', entry', hk', ho', hid'⟩ := hj
  obtain rfl := hr.eq_of_brought hn hk hk' hid hid'
  obtain rfl := Option.some.inj (hk.symm.trans hk')
  obtain ⟨task, -, engaged⟩ := hr.engaged.task hk
  rcases engaged.made_cases with hm | ⟨n, hm, hs, -⟩
  · rcases ho with ho | ho
    · rcases ho' with ho' | ho'
      · simpa using ho.symm.trans ho'
      · simp [hm] at ho'
    · simp [hm] at ho
  · rcases ho with ho | ho
    · exact (hs i ho).elim
    · rcases ho' with ho' | ho'
      · exact (hs j ho').elim
      · rw [hm, List.mem_singleton] at ho ho'
        exact ho.trans ho'.symm

end Chronicle

end RemoteRecorder
