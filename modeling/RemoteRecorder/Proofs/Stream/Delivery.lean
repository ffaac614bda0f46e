import RemoteRecorder.Proofs.Stream.Usage

/-!
# RemoteRecorder.Proofs.Stream.Delivery

**What streams deliver**, whatever the target answers and whatever the sizes of the buffers.

* The books: all bytes that have come from the target have been delivered, in their order,
  but for those that are left of the last block (`Balanced`).
* `ReadsWell` and `ClosesWell` say what may be expected of the next read and the next close,
  after whatever uses.
-/

namespace RemoteRecorder.Stream

/-- The most that a use can deliver. -/
def Use.size : Use → Nat
  | .read n => n
  | .close => 0

/-- The most that uses can deliver. -/
def Use.total : List Use → Nat
  | [] => 0
  | use :: uses => use.size + total uses

namespace Usage

/-! ## What should come of a use

The promises are made for a single use of a stream, on any target and after whatever uses. In
particular, nothing is asked of the uses before: they may have failed, or they may have been unwound
in the middle of a call. -/

/-- The bytes that have come from the target. -/
def arrived (u : Usage) : List UInt8 := u.log.flatMap Contact.bytes

/-- All bytes that have come from the target have been delivered or can still be read. -/
def Balanced (u : Usage) : Prop := u.delivered ++ u.stream.unread = u.arrived

/-- Nothing is delivered and nothing is lost on the way to another usage. -/
structure Same (u u' : Usage) : Prop where
  delivered : u'.delivered = u.delivered
  unread : u'.stream.unread = u.stream.unread
  arrived : u'.arrived = u.arrived

/-- What may be expected of the next read. -/
structure ReadsWell (t : Target) (u : Usage) (n : Nat) : Prop where
  fits : (content (u.read t n).ending).length ≤ n
  kept : ¬ u.stream.Asks n → (u.read t n).ending = .ok (.ok (u.stream.unread.take n))
  /-- The target is asked once if there is nothing else to deliver, and not at all otherwise. -/
  asks : ((u.read t n).log.map Prod.fst).count u.stream.readCall = if u.stream.Asks n then 1 else 0
  /-- A read delivers nothing only at the end. -/
  ends : n ≠ 0 → (u.read t n).ending = .ok (.ok []) →
    (u.step t (.read n)).stream.unread = [] ∧ (u.step t (.read n)).stream.isClosed = true ∧
      (u.stream.isClosed = true ∨ (u.read t n).log.any Contact.isEnd = true)
  fails : (∀ bytes, (u.read t n).ending ≠ .ok (.ok bytes)) → u.Same (u.step t (.read n))
  /-- A read that has got no answer, or none that it can use, is made up for by the next one. -/
  retries : (∀ bytes, (u.read t n).ending ≠ .ok (.ok bytes)) →
    (u.read t n).log.map Prod.fst = [u.stream.readCall] → ∀ k m, m ≠ 0 →
      ((((u.step t (.read n)).play t (List.replicate k (.read 0))).read t m).log.map
        Prod.fst).head? = some u.stream.readCall

/-- What may be expected of the next close. -/
structure ClosesWell (t : Target) (u : Usage) : Prop where
  closed : (u.step t .close).stream.isClosed = true
  same : u.Same (u.step t .close)
  /-- What is left of the last block can be read without the target. -/
  readable : ∀ uses : List Use, let u' := (u.step t .close).play t uses
    u'.log = (u.step t .close).log ∧
      u'.delivered = u.delivered ++ u.stream.unread.take (Use.total uses) ∧
      u'.stream.unread = u.stream.unread.drop (Use.total uses)

/-! ## The books

What has arrived is read off the log of the target, and what has been delivered off the reads. The
books are balanced if the only difference is what the stream still holds. -/

variable {t : Target} {u : Usage} {n : Nat} {ending : Except String (Except Error (List UInt8))}

theorem content_of_fails (h : ∀ bytes, ending ≠ .ok (.ok bytes)) : content ending = [] := by
  unfold content
  split
  · exact (h _ rfl).elim
  · rfl

@[simp] theorem content_drained (back : Comeback) :
    content ((back.ending "closeStream").map fun result => result.map fun _ => []) = [] := by
  cases back with
  | unwinding text => rfl
  | reply reply => cases reply <;> rfl

theorem bytes_of_isEnd {s : Stream} {v : Value} (h : v.isEnd = true) :
    Contact.bytes (s.readCall, .reply (.ok v)) = [] := by
  cases v with
  | bytes bytes => cases bytes with
    | nil => rfl
    | cons byte bytes => cases h
  | _ => rfl

/-- A read keeps the books balanced, whatever comes of it. -/
theorem Balanced.read (h : u.Balanced) : (u.step t (.read n)).Balanced := by
  unfold Balanced arrived at h ⊢
  obtain ⟨s, contacts, ending, hr, -, -, hs⟩ := u.read_reading t n
  rw [hs]
  cases hr with
  | quiet asks => simpa [content] using h
  | block asks nonempty =>
    have h : u.delivered = u.log.flatMap Contact.bytes := by simpa [asks.2.1] using h
    simp [content, ← h]
  | drained asks last => simpa [bytes_of_isEnd last] using h
  | failed asks fails noBytes noEnd => simpa [content_of_fails fails, noBytes] using h

theorem Balanced.close (h : u.Balanced) : (u.step t .close).Balanced := by
  unfold Balanced arrived at h ⊢
  obtain ⟨s, contacts, hc, hs⟩ := u.close_closing t
  rw [hs]
  cases hc with
  | idle hc => simpa using h
  | told ho back => simpa using h

/-- The books are balanced after all uses. -/
theorem Balanced.play (h : u.Balanced) (uses : List Use) : (u.play t uses).Balanced :=
  play_induction (motive := fun _ u => u.Balanced) h (fun before use u' h => by
    cases use with
    | read n => exact h.read
    | close => exact h.close) uses

/-! ## The next use

Each part of the promises is read off the table of what can come of a read (`Reading`), or of a
close. -/

/-- A closed stream delivers what is left, and the target hears nothing of it. -/
theorem step_of_isClosed (h : u.stream.isClosed = true) (use : Use) : u.step t use =
    ⟨{ u.stream with unread := u.stream.unread.drop use.size }, u.log,
      u.delivered ++ u.stream.unread.take use.size⟩ := by
  cases use with
  | read n =>
    obtain ⟨s, contacts, ending, hr, -, -, hs⟩ := u.read_reading t n
    rw [hs]
    have asks : ¬ u.stream.Asks n := fun asks => by simp [asks.2.2] at h
    cases hr with
    | quiet _ => simp [content, Use.size]
    | block asks' _ | drained asks' _ | failed asks' _ _ _ => exact (asks asks').elim
  | close =>
    obtain ⟨s, contacts, hc, hs⟩ := u.close_closing t
    rw [hs]
    cases hc with
    | idle _ => simp [Use.size]
    | told ho back => simp [ho] at h

/-- What is left of the last block can be read in pieces of any size. -/
theorem play_of_isClosed (h : u.stream.isClosed = true) (uses : List Use) : u.play t uses =
    ⟨{ u.stream with unread := u.stream.unread.drop (Use.total uses) }, u.log,
      u.delivered ++ u.stream.unread.take (Use.total uses)⟩ := by
  induction uses generalizing u with
  | nil => simp [play, Use.total]
  | cons use uses ih =>
    have hs := step_of_isClosed (t := t) h use
    have : u.play t (use :: uses) = (u.step t use).play t uses := rfl
    rw [this, ih (by rw [hs]; exact h), hs]
    simp [Use.total, List.take_add, List.drop_drop]

theorem closesWell : u.ClosesWell t := by
  obtain ⟨s, contacts, hc, hs⟩ := u.close_closing t
  have closed : (u.step t .close).stream.isClosed = true := by
    rw [hs]
    cases hc with
    | idle h => exact h
    | told ho back => rfl
  have same : u.Same (u.step t .close) := by
    rw [hs]
    cases hc with
    | idle h => exact ⟨rfl, rfl, by simp [arrived]⟩
    | told ho back => exact ⟨rfl, rfl, by simp [arrived]⟩
  refine ⟨closed, same, ?_⟩
  intro uses
  rw [play_of_isClosed closed, same.delivered, same.unread]
  exact ⟨rfl, rfl, rfl⟩

/-- A read with an empty buffer changes nothing. -/
theorem step_read_zero : u.step t (.read 0) = u := by
  obtain ⟨s, contacts, ending, hr, -, -, hs⟩ := u.read_reading t 0
  rw [hs]
  cases hr with
  | quiet _ => simp [content]
  | block asks _ | drained asks _ | failed asks _ _ _ => exact (asks.1 rfl).elim

theorem play_read_zero (k : Nat) : u.play t (List.replicate k (.read 0)) = u := by
  induction k with
  | zero => rfl
  | succ k ih =>
    have : u.play t (List.replicate (k + 1) (.read 0)) =
      (u.step t (.read 0)).play t (List.replicate k (.read 0)) := rfl
    rw [this, step_read_zero, ih]

/-- A read that has to ask begins with that. -/
theorem head?_of_asks (h : u.stream.Asks n) :
    ((u.read t n).log.map Prod.fst).head? = some u.stream.readCall := by
  obtain ⟨s, contacts, ending, hr, hl, -, -⟩ := u.read_reading t n
  rw [hl]
  cases hr with
  | quiet asks => exact (asks h).elim
  | block _ _ | drained _ _ | failed _ _ _ _ => rfl

theorem closeCall_ne_readCall (s : Stream) : s.closeCall ≠ s.readCall := by
  simp [closeCall, readCall]

theorem read_fits (n : Nat) : (content (u.read t n).ending).length ≤ n := by
  obtain ⟨s, contacts, ending, hr, -, he, -⟩ := u.read_reading t n
  rw [he]
  cases hr with
  | quiet asks => exact List.length_take_le n _
  | block asks nonempty => exact List.length_take_le n _
  | drained asks last => simp
  | failed asks fails noBytes noEnd => simp [content_of_fails fails]

/-- What is there can be had without the target. -/
theorem read_kept (h : ¬ u.stream.Asks n) :
    (u.read t n).ending = .ok (.ok (u.stream.unread.take n)) := by
  obtain ⟨s, contacts, ending, hr, -, he, -⟩ := u.read_reading t n
  rw [he]
  cases hr with
  | quiet _ => rfl
  | block asks _ | drained asks _ | failed asks _ _ _ => exact (h asks).elim

theorem read_asks (n : Nat) :
    ((u.read t n).log.map Prod.fst).count u.stream.readCall = if u.stream.Asks n then 1 else 0 := by
  obtain ⟨s, contacts, ending, hr, hl, -, -⟩ := u.read_reading t n
  rw [hl]
  cases hr with
  | quiet asks => simp [asks]
  | block asks nonempty => simp [asks]
  | drained asks last => simp [asks, closeCall_ne_readCall]
  | failed asks fails noBytes noEnd => simp [asks]

/-- A read that delivers nothing finds a closed stream, or has come to the end of the data. -/
theorem read_ends (hn : n ≠ 0) (h : (u.read t n).ending = .ok (.ok [])) :
    (u.step t (.read n)).stream.unread = [] ∧ (u.step t (.read n)).stream.isClosed = true ∧
      (u.stream.isClosed = true ∨ (u.read t n).log.any Contact.isEnd = true) := by
  obtain ⟨s, contacts, ending, hr, hl, he, hs⟩ := u.read_reading t n
  rw [he] at h
  rw [hl, hs]
  cases hr with
  | quiet asks =>
    have empty : u.stream.unread = [] := by simpa [hn] using h
    have closed : u.stream.isClosed = true := by simpa [Asks, hn, empty] using asks
    exact ⟨by simp [empty], closed, .inl closed⟩
  | block asks nonempty => simp [hn, nonempty] at h
  | drained asks last => exact ⟨asks.2.1, rfl, .inr (by simp [last])⟩
  | failed asks fails noBytes noEnd => exact (fails _ h).elim

/-- A read that fails has delivered nothing, and has lost nothing. -/
theorem read_fails (h : ∀ bytes, (u.read t n).ending ≠ .ok (.ok bytes)) :
    u.Same (u.step t (.read n)) := by
  obtain ⟨s, contacts, ending, hr, -, he, hs⟩ := u.read_reading t n
  rw [he] at h
  rw [hs]
  cases hr with
  | quiet asks => exact (h _ rfl).elim
  | block asks nonempty => exact (h _ rfl).elim
  | drained asks last => exact ⟨by simp, rfl, by simp [arrived, bytes_of_isEnd last]⟩
  | failed asks fails noBytes noEnd =>
    exact ⟨by simp [content_of_fails fails], rfl, by simp [arrived, noBytes]⟩

/-- Empty reads do not make up for a read that has failed. The next one that wants something asks
the target again. -/
theorem read_retries (h : ∀ bytes, (u.read t n).ending ≠ .ok (.ok bytes))
    (only : (u.read t n).log.map Prod.fst = [u.stream.readCall]) (k : Nat) {m : Nat} (hm : m ≠ 0) :
    ((((u.step t (.read n)).play t (List.replicate k (.read 0))).read t m).log.map
      Prod.fst).head? = some u.stream.readCall := by
  rw [play_read_zero]
  obtain ⟨s, contacts, ending, hr, hl, he, hs⟩ := u.read_reading t n
  rw [he] at h
  rw [hl] at only
  rw [hs]
  cases hr with
  | quiet asks => exact (h _ rfl).elim
  | block asks nonempty => exact (h _ rfl).elim
  | drained asks last => simp at only
  | failed asks fails noBytes noEnd => exact head?_of_asks ⟨hm, asks.2⟩

theorem readsWell (n : Nat) : u.ReadsWell t n where
  fits := read_fits n
  kept := read_kept
  asks := read_asks n
  ends := read_ends
  fails := read_fails
  retries := fun h only k _ => read_retries h only k

end Usage

end RemoteRecorder.Stream
