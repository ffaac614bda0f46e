import Mathlib.Data.List.Flatten
import Mathlib.Data.List.Nodup
import RemoteRecorder.Proofs.Recording.Holding
import RemoteRecorder.Proofs.Recording.Number

/-!
# RemoteRecorder.Proofs.Client.Fleet

**Many recordings on one wire**: the recordings of a client, the callers who work on them,
and what goes over the wire.

* A `Fleet` is what is left of a client if only its recordings matter. Callers have seats:
  a seat says which recording somebody works on, and where he stands.
* `Fleet.Step` lists what can happen. Who comes finds the recording idle, or comes to close
  it while a call of somebody else is under way.
* `Fleet.Sound` is the invariant. Its core are the books: each session that has been handed
  out is held at most once, or its release has begun.
-/

namespace RemoteRecorder

open Recording (Caller Orderly Role)

/-- The recordings of a client and the callers who work on them. -/
structure Fleet where
  recordings : List Recording
  /-- Which recording each task works on, if any, and where it stands. -/
  seats : List (Option (Nat × Caller))
  log : List Signal

namespace Fleet

/-- The caller in a seat, if he works on a certain recording. -/
def at? (i : Nat) : Option (Nat × Caller) → Option Caller
  | some (j, c) => if j = i then some c else none
  | none => none

/-- The caller of a task, if he works on a certain recording. -/
def caller? (s : Fleet) (i k : Nat) : Option Caller := s.seats[k]?.bind (at? i)

/-- The roles of the callers of a recording. -/
def roles (s : Fleet) (i k : Nat) : Role := (s.caller? i k).elim .bystander Caller.role

/-- Whether nobody works on a recording. -/
def Idle (s : Fleet) (i : Nat) : Prop := ∀ k, s.caller? i k = none

/-- Whether a call of somebody who works on a recording is under way. -/
def Calling (s : Fleet) (i : Nat) : Prop := ∃ k c, s.caller? i k = some c ∧ c.pending? ≠ none

/-- What a caller holds. -/
def stockOf (recordings : List Recording) : Option (Nat × Caller) → List Holding
  | some (i, c) => (recordings[i]?).elim [] fun r => c.stock r.id
  | none => []

/-- All that recordings and callers hold. -/
def holdings (s : Fleet) : List Holding :=
  s.recordings.flatMap Recording.stock ++ s.seats.flatMap (stockOf s.recordings)

/-- What can happen. -/
inductive Step (b : Backend) (s : Fleet) : Fleet → Prop where
  /-- Somebody takes a step on his recording. -/
  | move {k i c r t r' c'} (hk : s.seats[k]? = some (some (i, c))) (hr : s.recordings[i]? = some r)
      (m : Caller.Move b r c t r' c') :
      Step b s ⟨s.recordings.set i r', s.seats.set k (some (i, c')), s.log ++ c.signals t c'⟩
  /-- Somebody is at his end. What he has made is kept, or else forgotten, and he may have to
  close the recording if nobody is left. -/
  | depart {k i o seat added} (hk : s.seats[k]? = some (some (i, .ended o)))
      (hadd : added.Sublist (Recording.made o))
      (hseat : seat = none ∨ seat = some (i, .begun .close)) :
      Step b s ⟨s.recordings ++ added, s.seats.set k seat, s.log⟩
  /-- Somebody comes. -/
  | enter {i op} (hi : i < s.recordings.length) (h : s.Idle i ∨ op = .close ∧ s.Calling i) :
      Step b s ⟨s.recordings, s.seats ++ [some (i, .begun op)], s.log⟩
  /-- Something goes on that has nothing to do with sessions. -/
  | aside {added seats signals} (ha : ∀ r ∈ added, r.cell = ⟨.new, .unassigned⟩)
      (hs : seats = s.seats ∨ seats = s.seats ++ [none]) (hl : Foreign signals) :
      Step b s ⟨s.recordings ++ added, seats, s.log ++ signals⟩

/-- What is kept in a fleet. -/
structure Sound (object : ObjectName) (s : Fleet) : Prop where
  seated : ∀ i k c, s.caller? i k = some c → i < s.recordings.length
  order : ∀ (i : Nat) (r : Recording), s.recordings[i]? = some r → Orderly r.cell.phase (s.roles i)
  proper : ∀ (i k : Nat) (c : Caller) (r : Recording), s.caller? i k = some c →
    s.recordings[i]? = some r → c.Proper object r
  /-- Who is going to read a session is alone with the recording. -/
  alone : ∀ i k j c d, s.caller? i k = some c → s.caller? i j = some d → c.isQuiet = true → j = k
  /-- What has been handed out is held by somebody, or its release has begun, or it is lost. -/
  books : Covers s.log s.holdings []

variable {object : ObjectName} {b : Backend} {s s' : Fleet} {i j k n : Nat} {c c' d : Caller}
  {r r' : Recording} {t : Caller.Turn} {seat : Option (Nat × Caller)}

/-! ## Seats

A seat belongs to a task and stays its own. Whoever works on a recording is found by going through
the seats, so the callers of a recording are known by the numbers of their tasks. -/

theorem at?_eq_some_iff : at? j (some (i, c)) = some d ↔ j = i ∧ d = c := by
  by_cases hj : i = j
  · simp [at?, hj, eq_comm]
  · simp [at?, hj, Ne.symm hj]

theorem caller?_eq_some_iff : s.caller? i k = some c ↔ s.seats[k]? = some (some (i, c)) := by
  unfold caller?
  constructor
  · intro h
    obtain ⟨seat, hk, hat⟩ := Option.bind_eq_some_iff.1 h
    cases seat with
    | none => cases hat
    | some p =>
      obtain ⟨rfl, rfl⟩ := at?_eq_some_iff.1 hat
      exact hk
  · intro h
    simp [h, at?]

theorem caller?_set (hk : s.seats[k]? = some seat) (seat' : Option (Nat × Caller))
    (recordings : List Recording) (log : List Signal) :
    caller? ⟨recordings, s.seats.set k seat', log⟩ i n =
      if n = k then at? i seat' else s.caller? i n := by
  obtain ⟨hlt, -⟩ := List.getElem?_eq_some_iff.1 hk
  unfold caller?
  rw [List.getElem?_set]
  by_cases hn : n = k
  · simp [hn, hlt]
  · simp [hn, Ne.symm hn]

/-- After one caller has got somewhere, everybody else is where he was. -/
theorem caller?_set_cases (hk : s.seats[k]? = some seat) {recordings : List Recording}
    {log : List Signal}
    (h : caller? ⟨recordings, s.seats.set k (some (i, c)), log⟩ j n = some d) :
    (n = k ∧ j = i ∧ d = c) ∨ (n ≠ k ∧ s.caller? j n = some d) := by
  rw [caller?_set hk] at h
  by_cases hn : n = k
  · rw [if_pos hn] at h
    exact .inl ⟨hn, at?_eq_some_iff.1 h⟩
  · rw [if_neg hn] at h
    exact .inr ⟨hn, h⟩

theorem caller?_push (recordings : List Recording) (log : List Signal) :
    caller? ⟨recordings, s.seats ++ [seat], log⟩ i n =
      if n = s.seats.length then at? i seat else s.caller? i n := by
  unfold caller?
  rw [List.getElem?_append, List.getElem?_singleton]
  by_cases hn : n < s.seats.length
  · simp [hn, Nat.ne_of_lt hn]
  · rw [if_neg hn, List.getElem?_eq_none (Nat.le_of_not_lt hn)]
    by_cases h : n = s.seats.length
    · simp [h]
    · rw [if_neg (by omega), if_neg h]

theorem caller?_length : s.caller? i s.seats.length = none := by
  unfold caller?
  rw [List.getElem?_eq_none (Nat.le_refl _)]
  rfl

/-! ## Books

The books of a fleet are the books of all recordings and all callers, in one list. A step changes
the entries of one recording and one caller at most. Counting does not mind the order, so these two
may be brought to the front, compared, and put back. -/

/-- Where an entry of a list is replaced, the rest keeps what it has. -/
theorem flatMap_set_perm {α β : Type} (f f' : α → List β) {l : List α} {x : α} (y : α)
    (hk : l[k]? = some x) (hf : ∀ (j : Nat) (z : α), l[j]? = some z → j ≠ k → f' z = f z) :
    ∃ rest, (l.flatMap f).Perm (f x ++ rest) ∧ ((l.set k y).flatMap f').Perm (f' y ++ rest) := by
  induction l generalizing k with
  | nil => simp at hk
  | cons a l ih =>
    cases k with
    | zero =>
      obtain rfl : a = x := by simpa using hk
      refine ⟨l.flatMap f, .refl _, ?_⟩
      have hl : l.flatMap f' = l.flatMap f := by
        refine List.flatMap_congr ?_
        intro z hz
        obtain ⟨j, hj⟩ := List.mem_iff_getElem?.1 hz
        exact hf (j + 1) z (by simpa using hj) (by omega)
      rw [List.set_cons_zero, List.flatMap_cons, hl]
    | succ k =>
      obtain ⟨rest, h₁, h₂⟩ := ih (k := k) (by simpa using hk)
        fun j z hj hjk => hf (j + 1) z (by simpa using hj) (by omega)
      refine ⟨f a ++ rest, ?_, ?_⟩
      · rw [List.flatMap_cons]
        exact (h₁.append_left _).trans (List.perm_append_comm_assoc _ _ _)
      · rw [List.set_cons_succ, List.flatMap_cons, hf 0 a rfl (by omega)]
        exact (h₂.append_left _).trans (List.perm_append_comm_assoc _ _ _)

/-- Nobody minds in which order the books are kept. -/
theorem covers_of_perm {log : List Signal} {after after' before before' : List Holding}
    (h : Covers log after before) (ha : after'.Perm after) (hb : before'.Perm before) :
    Covers log after' before' := by
  intro id
  have h := h id
  have held {l l' : List Holding} (p : l'.Perm l) :
      (heldIds l').count id = (heldIds l).count id := (p.map _).count_eq id
  have running {l l' : List Holding} (p : l'.Perm l) :
      (runningIds l').count id = (runningIds l).count id := ((p.filter _).map _).count_eq id
  rw [held ha, held hb, running ha, running hb]
  exact h

/-- The books of a fleet balance over a step if those of one recording and one caller do. -/
theorem covers_set {log : List Signal} (hk : s.seats[k]? = some (some (i, c)))
    (hr : s.recordings[i]? = some r)
    (hother : ∀ j d, s.caller? i j = some d → j ≠ k → d.stock r'.id = d.stock r.id)
    (h : Covers log (r'.stock ++ c'.stock r'.id) (r.stock ++ c.stock r.id)) :
    Covers log
      (holdings ⟨s.recordings.set i r', s.seats.set k (some (i, c')), s.log ++ log⟩)
      s.holdings := by
  obtain ⟨hlt, -⟩ := List.getElem?_eq_some_iff.1 hr
  have here : (s.recordings.set i r')[i]? = some r' := by simp [hlt]
  obtain ⟨rest₁, hb₁, ha₁⟩ := flatMap_set_perm Recording.stock Recording.stock r' hr
    fun _ _ _ _ => rfl
  obtain ⟨rest₂, hb₂, ha₂⟩ := flatMap_set_perm (stockOf s.recordings)
    (stockOf (s.recordings.set i r')) (some (i, c')) hk fun j z hj hjk => by
      cases z with
      | none => rfl
      | some p =>
        obtain ⟨i', d⟩ := p
        by_cases hi : i' = i
        · subst hi
          simpa [stockOf, here, hr] using hother j d (caller?_eq_some_iff.2 hj) hjk
        · simp [stockOf, Ne.symm hi]
  have hc : stockOf s.recordings (some (i, c)) = c.stock r.id := by simp [stockOf, hr]
  have hc' : stockOf (s.recordings.set i r') (some (i, c')) = c'.stock r'.id := by
    simp only [stockOf, here, Option.elim]
  rw [hc] at hb₂
  rw [hc'] at ha₂
  have shuffle (a b rest₁ rest₂ : List Holding) :
      (a ++ rest₁ ++ (b ++ rest₂)).Perm ((rest₁ ++ rest₂) ++ (a ++ b)) := by
    rw [List.perm_iff_count]
    intro x
    simp only [List.count_append]
    omega
  exact covers_of_perm (h.append_left (rest₁ ++ rest₂))
    ((ha₁.append ha₂).trans (shuffle _ _ _ _)) ((hb₁.append hb₂).trans (shuffle _ _ _ _))

/-! ## Steps

What has been proved of a single recording carries over as long as its callers are those of one
fleet. The recordings have nothing in common but the wire: who works on one of them is a bystander
to all others. -/

/-- A task works on one recording at a time. -/
theorem caller?_unique (h : s.caller? i k = some c) (h' : s.caller? j k = some d) : i = j := by
  rw [caller?_eq_some_iff] at h h'
  simpa using congrArg (Option.map Prod.fst) (Option.some.inj (h.symm.trans h'))

theorem roles_eq (h : s.caller? i k = some c) : s.roles i k = c.role := by
  simp [roles, h]

theorem caller?_eq_none_of_ne (h : s.caller? i k = some c) (hj : j ≠ i) :
    s.caller? j k = none := by
  rw [Option.eq_none_iff_forall_ne_some]
  exact fun d hd => hj (caller?_unique hd h)

/-- Who works on another recording is a bystander. -/
theorem roles_eq_bystander (h : s.caller? i k = some c) (hj : j ≠ i) :
    s.roles j k = .bystander := by
  simp [roles, caller?_eq_none_of_ne h hj]

/-- The roles in another recording than that of a caller who gets somewhere. -/
theorem roles_set_of_ne (hc : s.caller? i k = some c) (hj : j ≠ i) (recordings : List Recording)
    (log : List Signal) :
    roles ⟨recordings, s.seats.set k (some (i, c')), log⟩ j = s.roles j := by
  funext n
  rw [roles, caller?_set (caller?_eq_some_iff.1 hc)]
  by_cases hn : n = k
  · rw [if_pos hn, hn, roles_eq_bystander hc hj]
    simp [at?, Ne.symm hj]
  · rw [if_neg hn]
    rfl

/-- A step of one caller changes the number of a recording only if the others do not rely on
it. -/
theorem Sound.others (q : s.Sound object) (hc : s.caller? i k = some c)
    (hr : s.recordings[i]? = some r) (m : c.Move b r t r' c') (hd : s.caller? i j = some d)
    (hj : j ≠ k) : r'.id = r.id ∨ d.role = .bystander := by
  rcases m.id_cases with hid | rfl
  · exact .inl hid
  · have hk : s.roles i k ≠ .bystander := by simp [roles_eq hc, Caller.role]
    have hrole := (q.order i r hr).others hk hj
    rw [roles_eq hd] at hrole
    exact .inr hrole

/-- A step of a caller on its recording. The books balance by what has been proved of the move, and
the others keep what they rely on, since they do not rely on the number of the recording. -/
theorem Sound.move (q : s.Sound object) (hk : s.seats[k]? = some (some (i, c)))
    (hr : s.recordings[i]? = some r) (m : c.Move (.structured object) r t r' c') :
    Sound object
      ⟨s.recordings.set i r', s.seats.set k (some (i, c')), s.log ++ c.signals t c'⟩ := by
  have hc : s.caller? i k = some c := caller?_eq_some_iff.2 hk
  obtain ⟨hlt, -⟩ := List.getElem?_eq_some_iff.1 hr
  have hp := q.proper i k c r hc hr
  have order := q.order i r hr
  constructor
  · intro j n d hd
    rw [List.length_set]
    rcases caller?_set_cases hk hd with ⟨-, rfl, -⟩ | ⟨-, hd⟩
    · exact hlt
    · exact q.seated j n d hd
  · intro j r₁ hr₁
    rw [List.getElem?_set] at hr₁
    by_cases hj : i = j
    · subst hj
      obtain rfl : r' = r₁ := by simpa [hlt] using hr₁
      refine order.shift (k := k) ?_ ?_
      · rw [roles_eq hc, roles, caller?_set hk, if_pos rfl]
        simpa [at?] using m.shift
      · intro n hn
        rw [roles, caller?_set hk, if_neg hn]
        rfl
    · rw [if_neg hj] at hr₁
      rw [roles_set_of_ne hc (Ne.symm hj)]
      exact q.order j r₁ hr₁
  · intro j n d r₁ hd hr₁
    rw [List.getElem?_set] at hr₁
    rcases caller?_set_cases hk hd with ⟨rfl, rfl, rfl⟩ | ⟨hn, hd⟩
    · obtain rfl : r' = r₁ := by simpa [hlt] using hr₁
      exact m.proper hp
    · by_cases hj : i = j
      · subst hj
        obtain rfl : r' = r₁ := by simpa [hlt] using hr₁
        -- Who relied on being left alone would be the caller who takes the step.
        refine (q.proper i n d r hd hr).stable ?_ (q.others hc hr m hd hn)
        by_contra hq
        exact hn (q.alone i n k d c hd hc (by simpa using hq)).symm
      · rw [if_neg hj] at hr₁
        exact q.proper j n d r₁ hd hr₁
  · intro j n l d e hd he hq
    rcases caller?_set_cases hk hd with ⟨rfl, rfl, rfl⟩ | ⟨hn, hd₁⟩
    · rcases caller?_set_cases hk he with ⟨rfl, -, -⟩ | ⟨-, he₁⟩
      · rfl
      · exact q.alone j n l c e hc he₁ (m.quiet hp hq)
    · rcases caller?_set_cases hk he with ⟨rfl, rfl, -⟩ | ⟨-, he₁⟩
      · exact q.alone j n l d c hd₁ hc hq
      · exact q.alone j n l d e hd₁ he₁ hq
  · refine q.books.trans (covers_set hk hr ?_ (m.covers hp ?_))
    · intro n d hd hn
      exact Caller.stock_congr (q.others hc hr m hd hn)
    · intro f hf
      exact order.owner k f ((roles_eq hc).trans hf)

/-! ### Coming and going

Somebody may come to a recording only if that disturbs nobody, and this is where users have to wait
for their turn. A close is let in during a call, since the caller who waits for a reply relies on
nothing that a close changes. -/

/-- Whether somebody may come into a seat to work on a recording: he finds it idle, or he
comes to close it and nobody in another seat relies on being alone with it. -/
def MayCome (s : Fleet) (i n : Nat) (op : Recording.Operation) : Prop :=
  i < s.recordings.length ∧
    (s.Idle i ∨ op = .close ∧ ∀ k c, s.caller? i k = some c → c.isQuiet = true → k = n)

/-- A fleet stays sound if recordings are added that nobody works on and somebody comes
into one seat. -/
theorem Sound.renew {added : List Recording} (q : s.Sound object)
    (hrec : s'.recordings = s.recordings ++ added)
    (ha : ∀ r ∈ added, r.cell.phase.isSettled = true)
    (now : ∀ j m d, s'.caller? j m = some d →
      s.caller? j m = some d ∨ m = n ∧ ∃ op, d = .begun op ∧ s.MayCome j n op)
    (hroles : ∀ j, s'.roles j = s.roles j) (books : Covers s'.log s'.holdings []) :
    s'.Sound object := by
  have old {j m : Nat} {d : Caller} (h : s'.caller? j m = some d) :
      j < s.recordings.length := by
    rcases now j m d h with h | ⟨-, op, -, hj, -⟩
    · exact q.seated j m d h
    · exact hj
  refine ⟨?_, ?_, ?_, ?_, books⟩
  · intro j m d hd
    rw [hrec, List.length_append]
    exact Nat.lt_add_right _ (old hd)
  · intro j r hr
    rw [hroles]
    rw [hrec] at hr
    by_cases hj : j < s.recordings.length
    · rw [List.getElem?_append_left hj] at hr
      exact q.order j r hr
    · -- A recording that has just been added has no callers.
      rw [List.getElem?_append_right (Nat.le_of_not_lt hj)] at hr
      refine .of_bystanders (ha r (List.mem_of_getElem? hr)) ?_
      intro m
      have absent : s.caller? j m = none := by
        rw [Option.eq_none_iff_forall_ne_some]
        exact fun d hd => hj (q.seated j m d hd)
      simp [roles, absent]
  · intro j m d r hd hr
    rcases now j m d hd with hd' | ⟨-, op, rfl, -⟩
    · rw [hrec, List.getElem?_append_left (old hd)] at hr
      exact q.proper j m d r hd' hr
    · trivial
  · intro j m l d e hd he hq
    rcases now j m d hd with hd | ⟨rfl, op, rfl, -, hcome⟩
    · rcases now j l e he with he | ⟨rfl, op, rfl, -, idle | ⟨-, hcome⟩⟩
      · exact q.alone j m l d e hd he hq
      · exact nomatch (idle m).symm.trans hd
      · exact (hcome m d hd hq).symm
    · -- Who comes and is quiet does not come to close.
      rcases hcome with idle | ⟨rfl, -⟩
      · rcases now j l e he with he | ⟨rfl, -⟩
        · exact nomatch (idle l).symm.trans he
        · rfl
      · cases hq

theorem role_at?_begun {op : Recording.Operation} :
    (at? j (some (i, .begun op))).elim .bystander Caller.role = .bystander := by
  by_cases hj : i = j <;> simp [at?, hj, Caller.role]

/-- The books of a caller at its end go over to what it has made. -/
theorem covers_made {o : Outcome Recording.Yield} {added : List Recording}
    (hadd : added.Sublist (Recording.made o)) (current : SessionId) :
    Covers [] (added.flatMap Recording.stock) ((Caller.ended o).stock current) := by
  have clone (r : Recording) : Covers [] r.stock [⟨r.id, true⟩] := by
    unfold Recording.stock
    cases r.cell.phase with
    | active => exact covers_refl _
    | stopped => exact covers_stopped [] r.id true
    | _ => exact covers_of_sublist (List.nil_sublist _)
  have all : Covers [] ((Recording.made o).flatMap Recording.stock)
      ((Caller.ended o).stock current) := by
    change Covers [] _ ((Recording.made o).map _)
    unfold Recording.made
    split
    · simpa using clone _
    · exact covers_refl _
  exact all.trans (covers_of_sublist (hadd.flatMap Recording.stock))

/-- What callers hold does not depend on recordings that come later. -/
theorem Sound.stockOf_append (q : s.Sound object) (added : List Recording)
    (hk : s.seats[k]? = some seat) :
    stockOf (s.recordings ++ added) seat = stockOf s.recordings seat := by
  cases seat with
  | none => rfl
  | some p =>
    obtain ⟨i, c⟩ := p
    have hi := q.seated i k c (caller?_eq_some_iff.2 hk)
    simp only [stockOf, List.getElem?_append_left hi]

/-- Who has just begun holds nothing. -/
theorem stockOf_begun (recordings : List Recording) (i : Nat) (op : Recording.Operation) :
    stockOf recordings (some (i, .begun op)) = [] := by
  cases h : recordings[i]? <;> simp [stockOf, h, Caller.stock]

/-- Who parts from a recording leaves what it has made with the fleet, or loses it. -/
theorem Sound.covers_depart {o : Outcome Recording.Yield} {added : List Recording}
    (q : s.Sound object) (hk : s.seats[k]? = some (some (i, .ended o)))
    (hadd : added.Sublist (Recording.made o))
    (hseat : seat = none ∨ seat = some (i, .begun .close)) :
    Covers [] (holdings ⟨s.recordings ++ added, s.seats.set k seat, s.log⟩) s.holdings := by
  have hi := q.seated i k _ (caller?_eq_some_iff.2 hk)
  obtain ⟨rest, hb, ha⟩ := flatMap_set_perm (stockOf s.recordings)
    (stockOf (s.recordings ++ added)) seat hk fun j z hj _ => q.stockOf_append _ hj
  have nothing : stockOf (s.recordings ++ added) seat = [] := by
    rcases hseat with rfl | rfl
    · rfl
    · exact stockOf_begun _ _ _
  have here : stockOf s.recordings (some (i, .ended o)) =
      (Caller.ended o).stock s.recordings[i].id := by
    simp [stockOf, List.getElem?_eq_getElem hi]
  rw [nothing, List.nil_append] at ha
  rw [here] at hb
  have shuffle (l a : List Holding) :
      (l ++ (a ++ rest)).Perm (l ++ rest ++ a) := by
    rw [List.append_assoc]
    exact List.perm_append_comm.append_left l
  refine covers_of_perm ((covers_made hadd s.recordings[i].id).append_left
    (s.recordings.flatMap Recording.stock ++ rest)) ?_ ((hb.append_left _).trans (shuffle _ _))
  unfold holdings
  rw [List.flatMap_append, List.append_assoc]
  exact ((ha.append_left _).append_left _).trans (shuffle _ _)

/-- A caller parts from its recording, and what it has made is added to the fleet. -/
theorem Sound.depart {o : Outcome Recording.Yield} {added : List Recording} (q : s.Sound object)
    (hk : s.seats[k]? = some (some (i, .ended o))) (hadd : added.Sublist (Recording.made o))
    (hseat : seat = none ∨ seat = some (i, .begun .close)) :
    Sound object ⟨s.recordings ++ added, s.seats.set k seat, s.log⟩ := by
  have hc : s.caller? i k = some (.ended o) := caller?_eq_some_iff.2 hk
  have hi := q.seated i k _ hc
  have settled := q.proper i k _ s.recordings[i] hc (List.getElem?_eq_getElem hi)
  have books := q.books.trans (q.covers_depart hk hadd hseat)
  rw [List.append_nil] at books
  refine q.renew (n := k) rfl ?_ ?_ ?_ books
  · intro r hr
    exact settled r (hadd.subset hr)
  · intro j m d hd
    rw [caller?_set hk] at hd
    by_cases hm : m = k
    · rw [if_pos hm] at hd
      rcases hseat with rfl | rfl
      · cases hd
      · obtain ⟨rfl, rfl⟩ := at?_eq_some_iff.1 hd
        exact .inr ⟨hm, .close, rfl, hi, .inr ⟨rfl, fun l e he hq =>
          (q.alone j l k e _ he hc hq).symm⟩⟩
    · rw [if_neg hm] at hd
      exact .inl hd
  · intro j
    funext m
    rw [roles, caller?_set hk]
    by_cases hm : m = k
    · -- Who was in the seat was at his end, and so a bystander.
      have old : s.roles j m = .bystander := by
        rw [hm]
        by_cases hj : j = i
        · rw [hj, roles_eq hc]
          rfl
        · exact roles_eq_bystander hc hj
      rw [if_pos hm, old]
      rcases hseat with rfl | rfl
      · rfl
      · exact role_at?_begun
    · rw [if_neg hm]
      rfl

/-- Somebody comes to work on a recording that is idle, or to close it during a call. -/
theorem Sound.enter {op : Recording.Operation} (q : s.Sound object) (hi : i < s.recordings.length)
    (h : s.Idle i ∨ op = .close ∧ s.Calling i) :
    Sound object ⟨s.recordings, s.seats ++ [some (i, .begun op)], s.log⟩ := by
  have hb : holdings ⟨s.recordings, s.seats ++ [some (i, .begun op)], s.log⟩ = s.holdings := by
    simp [holdings, stockOf_begun]
  have come : s.MayCome i s.seats.length op := by
    refine ⟨hi, h.imp_right ?_⟩
    rintro ⟨hop, m, e, hm, hp⟩
    refine ⟨hop, ?_⟩
    intro k c hk hq
    -- Who is quiet is alone, and waits for no reply.
    have hmk := q.alone i k m c e hk hm hq
    subst hmk
    obtain rfl := Option.some.inj (hk.symm.trans hm)
    exact (hp (Caller.pending?_of_isQuiet hq)).elim
  refine q.renew (n := s.seats.length) (List.append_nil _).symm (by simp) ?_ ?_ (hb ▸ q.books)
  · intro j m d hd
    rw [caller?_push] at hd
    by_cases hm : m = s.seats.length
    · rw [if_pos hm] at hd
      obtain ⟨rfl, rfl⟩ := at?_eq_some_iff.1 hd
      exact .inr ⟨hm, op, rfl, come⟩
    · rw [if_neg hm] at hd
      exact .inl hd
  · intro j
    funext m
    rw [roles, caller?_push]
    by_cases hm : m = s.seats.length
    · rw [if_pos hm, roles, hm, caller?_length]
      exact role_at?_begun
    · rw [if_neg hm]
      rfl

/-- Something happens that has nothing to do with sessions. A recording that is new holds none. -/
theorem Sound.aside {added : List Recording} {seats : List (Option (Nat × Caller))}
    {signals : List Signal} (q : s.Sound object) (ha : ∀ r ∈ added, r.cell.phase = .new)
    (hs : seats = s.seats ∨ seats = s.seats ++ [none]) (hl : Foreign signals) :
    Sound object ⟨s.recordings ++ added, seats, s.log ++ signals⟩ := by
  have same (j m : Nat) :
      caller? ⟨s.recordings ++ added, seats, s.log ++ signals⟩ j m = s.caller? j m := by
    rcases hs with rfl | rfl
    · rfl
    · rw [caller?_push]
      by_cases hm : m = s.seats.length
      · rw [if_pos hm, hm, caller?_length]
        rfl
      · rw [if_neg hm]
  -- New recordings hold no session yet, so the books need no entry for them.
  have empty : added.flatMap Recording.stock = [] := by
    rw [List.flatMap_eq_nil_iff]
    intro r hr
    unfold Recording.stock
    rw [ha r hr]
  have hold : s.seats.flatMap (stockOf (s.recordings ++ added)) =
      s.seats.flatMap (stockOf s.recordings) := by
    refine List.flatMap_congr ?_
    intro seat hseat
    obtain ⟨k, hk⟩ := List.mem_iff_getElem?.1 hseat
    exact q.stockOf_append added hk
  have hb : holdings ⟨s.recordings ++ added, seats, s.log ++ signals⟩ = s.holdings := by
    rcases hs with rfl | rfl <;> simp [holdings, empty, hold, stockOf]
  have books : Covers (s.log ++ signals) s.holdings [] :=
    q.books.trans (.of_silent hl.released_eq_nil hl.stopped_eq_nil (covers_refl _))
  refine q.renew (n := 0) rfl ?_ ?_ ?_ (hb ▸ books)
  · intro r hr
    rw [ha r hr]
    rfl
  · intro j m d hd
    rw [same] at hd
    exact .inl hd
  · intro j
    funext m
    rw [roles, same]
    rfl

/-- Whatever can happen keeps the fleet sound. -/
theorem Step.sound (h : Step (.structured object) s s') (q : s.Sound object) : s'.Sound object := by
  cases h with
  | move hk hr m => exact q.move hk hr m
  | depart hk hadd hseat => exact q.depart hk hadd hseat
  | enter hi h => exact q.enter hi h
  | aside ha hs hl => exact q.aside (fun r hr => by rw [ha r hr]) hs hl

/-! ## What goes over the wire

From the books follows what is to be shown of the log. A session that a call names is held, a
session whose release has begun is held by nobody, and no session is both. -/

/-- What one recording and one caller hold the fleet holds. -/
theorem heldIds_holdings {id : SessionId} (hc : s.caller? i k = some c)
    (hr : s.recordings[i]? = some r) (h : id ∈ heldIds (r.stock ++ c.stock r.id)) :
    id ∈ heldIds s.holdings := by
  rw [heldIds_append, List.mem_append] at h
  unfold holdings
  rw [heldIds_append, List.mem_append]
  rcases h with h | h
  · obtain ⟨x, hx, rfl⟩ := List.mem_map.1 h
    have mem : x ∈ s.recordings.flatMap Recording.stock :=
      List.mem_flatMap.2 ⟨r, List.mem_of_getElem? hr, hx⟩
    exact .inl (List.mem_map_of_mem mem)
  · obtain ⟨x, hx, rfl⟩ := List.mem_map.1 h
    have seat : some (i, c) ∈ s.seats := List.mem_of_getElem? (caller?_eq_some_iff.1 hc)
    have mem : x ∈ s.seats.flatMap (stockOf s.recordings) :=
      List.mem_flatMap.2 ⟨some (i, c), seat, by simpa [stockOf, hr] using hx⟩
    exact .inr (List.mem_map_of_mem mem)

/-- If a release begins in a turn, nothing more goes over the wire in it. -/
theorem releasesLast_signals (t : Caller.Turn) (before after : Option Call) :
    ReleasesLast (t.signals before after) := by
  cases t with
  | act => exact releasesLast_append_began released_nil after
  | reply reply =>
    refine releasesLast_append_began ?_ after
    cases before <;> rfl
  | unwind text =>
    refine releasesLast_append_began ?_ after
    cases before <;> rfl

/-- What a step adds to the log. A session that it names is held, unless it is named in
order to release it. -/
theorem Step.log_eq (h : Step (.structured object) s s') (q : s.Sound object) :
    ∃ log, s'.log = s.log ++ log ∧ ReleasesLast log ∧
      ∀ c id, .began c ∈ log → c.session? = some id → c.isRelease = false →
        id ∈ heldIds s'.holdings := by
  cases h with
  | @move k i c r t r' c' hk hr m =>
    refine ⟨c.signals t c', rfl, releasesLast_signals t _ _, ?_⟩
    intro call id hc hs hrel
    have hp := q.proper i k c r (caller?_eq_some_iff.2 hk) hr
    obtain ⟨hlt, -⟩ := List.getElem?_eq_some_iff.1 hr
    refine heldIds_holdings (i := i) (k := k) (c := c') (r := r') ?_ (by simp [hlt])
      (m.holds_named hp hc hs hrel)
    rw [caller?_set hk, if_pos rfl]
    simp [at?]
  | depart hk hadd hseat =>
    exact ⟨[], (List.append_nil _).symm, releasesLast_of_released_eq_nil rfl, by simp⟩
  | enter hi h =>
    exact ⟨[], (List.append_nil _).symm, releasesLast_of_released_eq_nil rfl, by simp⟩
  | @aside added seats signals ha hs hl =>
    have last := releasesLast_of_released_eq_nil hl.released_eq_nil
    refine ⟨signals, rfl, last, ?_⟩
    intro c id hc hid
    have unnamed := Call.IsForeign.session? (hl _ hc)
    exact nomatch unnamed.symm.trans hid

/-- No step names a session whose release has begun, as long as no number is handed out
twice. -/
theorem Step.noUseAfterRelease (h : Step (.structured object) s s') (q : s.Sound object)
    (hn : (handedOut s'.log).Nodup) (hl : NoUseAfterRelease s.log) :
    NoUseAfterRelease s'.log := by
  obtain ⟨log, hlog, hlast, hheld⟩ := h.log_eq q
  have books := (h.sound q).books
  rw [hlog]
  refine hl.append hlast ?_
  intro c id hc hs
  have once : (handedOut s'.log).count id ≤ 1 := List.nodup_iff_count_le_one.1 hn id
  have book := (books id).1
  simp only [heldIds_nil, List.count_nil, Nat.zero_add] at book
  rw [hlog, released_append, List.count_append] at book
  rw [← List.count_eq_zero]
  cases hr : c.isRelease with
  | true =>
    have : 0 < (released log).count id := by
      rw [List.count_pos_iff]
      exact List.mem_filterMap.2 ⟨_, hc, by simp [Signal.releases?, hr, hs]⟩
    rw [← hlog] at book
    omega
  | false =>
    have : 0 < (heldIds s'.holdings).count id := List.count_pos_iff.2 (hheld c id hc hs hr)
    rw [← hlog] at book
    omega

/-- Read off the invariant, for the log as a whole: every session is stopped and released once at
most, and is not used after its release. -/
theorem Sound.soundLog (q : s.Sound object) (hn : (handedOut s.log).Nodup)
    (hl : NoUseAfterRelease s.log) : SoundLog s.log := by
  have once (id : SessionId) : (handedOut s.log).count id ≤ 1 := List.nodup_iff_count_le_one.1 hn id
  refine ⟨?_, ?_, hl⟩
  · rw [List.nodup_iff_count_le_one]
    intro id
    have book := (q.books id).1
    rw [heldIds_nil, List.count_nil] at book
    have := once id
    omega
  · rw [List.nodup_iff_count_le_one]
    intro id
    have book := (q.books id).2
    rw [runningIds_nil, List.count_nil] at book
    have := once id
    omega

end Fleet

end RemoteRecorder
