import RemoteRecorder.Proofs.Stream.Delivery

/-!
# RemoteRecorder.Proofs.Stream.Blocks

**Reading to the end** of the data, with reads of any sizes.

* Reads that all succeed have got blocks, and perhaps the end of the data (`Smooth`). What
  they have delivered by the end are the blocks, one after the other.
* Reads of a target that has blocks do succeed, and enough of them get to the end
  (`Serves`): each brings a byte at least.
-/

namespace RemoteRecorder.Stream.Usage

/-! ## Reading on

As long as reads succeed, the log has one form: the calls that have brought blocks, and then the end
of the data, if it has come. What has been delivered follows from this form and from the books, so
nothing has to be said here about the sizes of the reads. -/

/-- Whether reads of certain sizes all succeed. -/
def ReadsOn (t : Target) : Usage → List Nat → Prop
  | _, [] => True
  | u, n :: sizes =>
    (∃ bytes, (u.read t n).ending = .ok (.ok bytes)) ∧ (u.step t (.read n)).ReadsOn t sizes

/-- The calls that have brought certain blocks. -/
def brought (s : Stream) (blocks : List (List UInt8)) : List Contact :=
  blocks.map fun bytes => (s.readCall, .reply (.ok (.bytes bytes)))

/-- The target has answered certain blocks and then the end of the data. -/
def EndsAfter (s : Stream) (blocks : List (List UInt8)) (log : List Contact) : Prop :=
  ∃ last back, last.isEnd = true ∧
    log = brought s blocks ++ [(s.readCall, .reply (.ok last)), (s.closeCall, back)]

/-- What reads have come to that have all succeeded and have brought certain blocks. -/
structure Smooth (s : Stream) (blocks : List (List UInt8)) (u : Usage) : Prop where
  readCall : u.stream.readCall = s.readCall
  closeCall : u.stream.closeCall = s.closeCall
  nonempty : ∀ bytes ∈ blocks, bytes ≠ []
  reading : u.stream.isClosed = false → u.log = brought s blocks
  finished : u.stream.isClosed = true → u.stream.unread = [] ∧ EndsAfter s blocks u.log

variable {t : Target} {u : Usage} {n : Nat} {s : Stream} {blocks : List (List UInt8)}

@[simp] theorem flatMap_brought : (brought s blocks).flatMap Contact.bytes = blocks.flatten := by
  rw [brought, List.flatMap_map]
  exact List.flatMap_id'

theorem Smooth.arrived (h : Smooth s blocks u) : u.arrived = blocks.flatten := by
  unfold Usage.arrived
  cases hc : u.stream.isClosed with
  | false => rw [h.reading hc, flatMap_brought]
  | true =>
    obtain ⟨last, back, isEnd, hlog⟩ := (h.finished hc).2
    rw [hlog, List.flatMap_append, flatMap_brought]
    simp [bytes_of_isEnd isEnd]

theorem Smooth.first (object : ObjectName) (handle : Int64) :
    Smooth (opened object handle) [] { stream := opened object handle } where
  readCall := rfl
  closeCall := rfl
  nonempty := nofun
  reading := fun _ => rfl
  finished := nofun

/-- What is there is delivered. -/
theorem Smooth.quiet (h : Smooth s blocks u) (k : Nat) (delivered : List UInt8) :
    Smooth s blocks ⟨{ u.stream with unread := u.stream.unread.drop k }, u.log, delivered⟩ where
  readCall := h.readCall
  closeCall := h.closeCall
  nonempty := h.nonempty
  reading := h.reading
  finished := fun hc => ⟨by simp [(h.finished hc).1], (h.finished hc).2⟩

/-- One more block has come. -/
theorem Smooth.block (h : Smooth s blocks u) (ho : u.stream.isClosed = false) {bytes : List UInt8}
    (hb : bytes ≠ []) (unread delivered : List UInt8) : Smooth s (blocks ++ [bytes])
      ⟨{ u.stream with unread }, u.log ++ [(u.stream.readCall, .reply (.ok (.bytes bytes)))],
        delivered⟩ where
  readCall := h.readCall
  closeCall := h.closeCall
  nonempty := List.forall_mem_append.2 ⟨h.nonempty, by simpa using hb⟩
  reading := fun _ => by simp [h.reading ho, h.readCall, brought]
  finished := fun hc => absurd (ho.symm.trans hc) Bool.false_ne_true

/-- The end of the data has come. -/
theorem Smooth.last (h : Smooth s blocks u) (ho : u.stream.isClosed = false)
    (he : u.stream.unread = []) {v : Value} (hv : v.isEnd = true) (back : Comeback)
    (delivered : List UInt8) : Smooth s blocks ⟨{ u.stream with isClosed := true },
      u.log ++ [(u.stream.readCall, .reply (.ok v)), (u.stream.closeCall, back)], delivered⟩ where
  readCall := h.readCall
  closeCall := h.closeCall
  nonempty := h.nonempty
  reading := nofun
  finished := fun _ => ⟨he, v, back, hv, by rw [h.reading ho, h.readCall, h.closeCall]⟩

/-- A read that succeeds brings a block, or the end, or nothing new. -/
theorem Smooth.read (h : Smooth s blocks u) (hr : ∃ bytes, (u.read t n).ending = .ok (.ok bytes)) :
    ∃ more, Smooth s (blocks ++ more) (u.step t (.read n)) := by
  obtain ⟨bytes, hr⟩ := hr
  obtain ⟨s', contacts, ending, hreading, -, he, hs⟩ := u.read_reading t n
  rw [he] at hr
  rw [hs]
  cases hreading with
  | quiet asks => exact ⟨[], by simpa using h.quiet n _⟩
  | block asks nonempty => exact ⟨[_], h.block asks.2.2 nonempty _ _⟩
  | drained asks isEnd => exact ⟨[], by simpa using h.last asks.2.2 asks.2.1 isEnd _ _⟩
  | failed asks fails noBytes noEnd => exact (fails _ hr).elim

/-- Reads that all succeed bring more blocks. -/
theorem Smooth.play (h : Smooth s blocks u) {sizes : List Nat} (hr : u.ReadsOn t sizes) :
    ∃ more, Smooth s (blocks ++ more) (u.play t (sizes.map .read)) := by
  induction sizes generalizing u blocks with
  | nil => exact ⟨[], by simpa [play] using h⟩
  | cons n sizes ih =>
    obtain ⟨more, h⟩ := h.read hr.1
    obtain ⟨more', h⟩ := ih h hr.2
    exact ⟨more ++ more', by rwa [List.append_assoc] at h⟩

/-! ## A target that has blocks

That reads do succeed, and that enough of them reach the end, depends on the target. What is asked
of it is that it tells by the reads it has answered which block is next, and after the last block
answers the end of the data. -/

/-- A target that answers certain blocks, one after the other, and then the end of the data. It
answers closes, too. -/
structure Serves (t : Target) (s : Stream) (blocks : List (List UInt8)) : Prop where
  nonempty : ∀ bytes ∈ blocks, bytes ≠ []
  block : ∀ past (k : Nat) (hk : k < blocks.length), (past.map Prod.fst).count s.readCall = k →
    t past s.readCall = .reply (.ok (.bytes blocks[k]))
  last : ∀ past, blocks.length ≤ (past.map Prod.fst).count s.readCall →
    ∃ v, v.isEnd = true ∧ t past s.readCall = .reply (.ok v)
  close : ∀ past, ∃ v, t past s.closeCall = .reply (.ok v)

/-- The simplest target that has certain blocks. -/
def serving (blocks : List (List UInt8)) : Target :=
  fun past c => .reply (.ok ((blocks[(past.map Prod.fst).count c]?.map .bytes).getD .void))

theorem serves_serving (nonempty : ∀ bytes ∈ blocks, bytes ≠ []) :
    Serves (serving blocks) s blocks where
  nonempty := nonempty
  block := fun past k hk count => by simp [serving, count, hk]
  last := fun past hle => ⟨.void, rfl, by simp [serving, List.getElem?_eq_none hle]⟩
  close := fun past => ⟨_, rfl⟩

@[simp] theorem count_brought :
    ((brought s blocks).map Prod.fst).count s.readCall = blocks.length := by
  induction blocks with
  | nil => rfl
  | cons bytes blocks ih => simpa [brought] using ih

/-- The next answer to a read that has got the first `k` blocks. -/
theorem Serves.next (ht : Serves t s blocks) {k : Nat} (hk : k ≤ blocks.length) :
    (∃ bytes, bytes ≠ [] ∧ blocks[k]? = some bytes ∧
      t (brought s (blocks.take k)) s.readCall = .reply (.ok (.bytes bytes))) ∨
    k = blocks.length ∧ ∃ v, v.isEnd = true ∧
      t (brought s (blocks.take k)) s.readCall = .reply (.ok v) := by
  have count : ((brought s (blocks.take k)).map Prod.fst).count s.readCall = k := by
    simp [Nat.min_eq_left hk]
  rcases Nat.lt_or_eq_of_le hk with hlt | rfl
  · exact .inl ⟨blocks[k], ht.nonempty _ (List.getElem_mem hlt), List.getElem?_eq_getElem hlt,
      ht.block _ k hlt count⟩
  · exact .inr ⟨rfl, ht.last _ (Nat.le_of_eq count.symm)⟩

/-- The first `k` blocks have been read, and all of them if the stream is closed. -/
structure Served (s : Stream) (blocks : List (List UInt8)) (k : Nat) (u : Usage) : Prop where
  smooth : Smooth s (blocks.take k) u
  le : k ≤ blocks.length
  all : u.stream.isClosed = true → k = blocks.length

/-- A read of a target that has blocks succeeds. It delivers something or finds that there are no
more blocks. -/
theorem Serves.read (ht : Serves t s blocks) (hn : n ≠ 0) {k : Nat} (h : Served s blocks k u) :
    ∃ bytes k', (u.read t n).ending = .ok (.ok bytes) ∧ Served s blocks k' (u.step t (.read n)) ∧
      ((u.step t (.read n)).stream.isClosed = true ∨ bytes ≠ []) := by
  obtain ⟨h, hk, hall⟩ := h
  obtain ⟨s', contacts, ending, hr, hl, he, hs⟩ := u.read_reading t n
  -- A contact of a read is what the target has answered, given the calls before it.
  have back {before after : List Contact} {c : Call} {b : Comeback}
      (h : contacts = before ++ (c, b) :: after) : b = t (u.log ++ before) c :=
    Exchange.back_of_meet (hl.trans h)
  have first {b : Comeback} {after : List Contact} (hc : contacts = (u.stream.readCall, b) :: after)
      (ho : u.stream.isClosed = false) : b = t (brought s (blocks.take k)) s.readCall := by
    simpa [h.reading ho, h.readCall] using @back [] after _ b hc
  rw [he, hs]
  cases hr with
  | quiet asks =>
    refine ⟨u.stream.unread.take n, k, rfl, ⟨by simpa using h.quiet n _, hk, hall⟩, ?_⟩
    cases hc : u.stream.isClosed with
    | true => exact .inl rfl
    | false =>
      have some : u.stream.unread ≠ [] := fun he => asks ⟨hn, he, hc⟩
      exact .inr (by simp [hn, some])
  | @block bytes asks nonempty =>
    rcases ht.next hk with ⟨bytes', -, hget, hb⟩ | ⟨-, v, hv, hb⟩
    · obtain rfl : bytes = bytes' := by simpa [hb] using first rfl asks.2.2
      obtain ⟨hlt, -⟩ := List.getElem?_eq_some_iff.1 hget
      refine ⟨bytes.take n, k + 1, rfl, ⟨?_, hlt, ?_⟩, .inr (by simp [hn, nonempty])⟩
      · rw [List.take_add_one, hget]
        exact h.block asks.2.2 nonempty _ _
      · exact fun hc => absurd (asks.2.2.symm.trans hc) Bool.false_ne_true
    · obtain rfl : .bytes bytes = v := by simpa [hb] using first rfl asks.2.2
      simp [Value.isEnd_bytes nonempty] at hv
  | @drained v b asks last =>
    rcases ht.next hk with ⟨bytes, nonempty, -, hb⟩ | ⟨hall, -⟩
    · obtain rfl : v = .bytes bytes := by simpa [hb] using first rfl asks.2.2
      simp [Value.isEnd_bytes nonempty] at last
    · -- The close that follows succeeds as well.
      obtain ⟨w, hw⟩ := ht.close (u.log ++ [(u.stream.readCall, .reply (.ok v))])
      obtain rfl : b = .reply (.ok w) := by
        rw [← hw, ← h.closeCall]
        exact @back [(u.stream.readCall, .reply (.ok v))] [] _ b rfl
      exact ⟨[], k, rfl, ⟨h.last asks.2.2 asks.2.1 last _ _, hk, fun _ => hall⟩, .inl rfl⟩
  | failed asks fails noBytes noEnd =>
    rcases ht.next hk with ⟨bytes, nonempty, -, hb⟩ | ⟨-, v, hv, hb⟩
    · simp [first rfl asks.2.2, hb, nonempty] at noBytes
    · simp [first rfl asks.2.2, hb, hv] at noEnd

/-- Reads of a target that has blocks succeed. They bring at least a byte each, until there is
nothing left. -/
theorem Serves.reads (ht : Serves t s blocks) {k : Nat} (h : Served s blocks k u)
    {sizes : List Nat} (hsizes : ∀ n ∈ sizes, n ≠ 0) :
    u.ReadsOn t sizes ∧ ∃ k', Served s blocks k' (u.play t (sizes.map .read)) ∧
      ((u.play t (sizes.map .read)).stream.isClosed = true ∨
        u.delivered.length + sizes.length ≤ (u.play t (sizes.map .read)).delivered.length) := by
  induction sizes generalizing u k with
  | nil => exact ⟨trivial, k, h, .inr (Nat.le_refl _)⟩
  | cons n sizes ih =>
    obtain ⟨hn, hsizes⟩ := List.forall_mem_cons.1 hsizes
    obtain ⟨bytes, k₁, he, h₁, grows⟩ := ht.read hn h
    obtain ⟨hon, k₂, h₂, grow⟩ := ih h₁ hsizes
    have hplay : u.play t ((n :: sizes).map .read) =
      (u.step t (.read n)).play t (sizes.map .read) := rfl
    rw [hplay]
    refine ⟨⟨⟨bytes, he⟩, hon⟩, k₂, h₂, ?_⟩
    rcases grows with hc | nonempty
    · exact .inl (by rw [play_of_isClosed hc]; exact hc)
    · refine grow.imp id fun grow => Nat.le_trans ?_ grow
      have hlen : (u.step t (.read n)).delivered.length = u.delivered.length + bytes.length := by
        simp [step, went, he, content]
      have := List.length_pos_iff.2 nonempty
      rw [hlen, List.length_cons]
      omega

/-- Whoever reads a target that has blocks often enough gets all of them. -/
theorem Serves.reads_all {object : ObjectName} {handle : Int64}
    (ht : Serves t (opened object handle) blocks) {sizes : List Nat} (hsizes : ∀ n ∈ sizes, n ≠ 0)
    (often : blocks.flatten.length < sizes.length) :
    let first : Usage := { stream := opened object handle }
    first.ReadsOn t sizes ∧ (first.play t (sizes.map .read)).delivered = blocks.flatten := by
  intro first
  have hfirst : Served (opened object handle) blocks 0 first :=
    ⟨Smooth.first object handle, Nat.zero_le _, nofun⟩
  obtain ⟨hon, k, h, grow⟩ := ht.reads hfirst hsizes
  refine ⟨hon, ?_⟩
  have balanced : first.Balanced := rfl
  have books : (first.play t (sizes.map .read)).Balanced := balanced.play _
  rw [Balanced, h.smooth.arrived] at books
  rcases grow with hc | grow
  · rwa [(h.smooth.finished hc).1, List.append_nil, h.all hc, List.take_length] at books
  · -- More has been delivered than there is.
    have length := congrArg List.length books
    have all : blocks.flatten = (blocks.take k).flatten ++ (blocks.drop k).flatten := by
      rw [← List.flatten_append, List.take_append_drop]
    have total := congrArg List.length all
    simp only [List.length_append] at length total
    omega

/-- Whoever reads without an error, until nothing more comes, has got all blocks before the end. -/
theorem reads_to_end {object : ObjectName} {handle : Int64} {sizes : List Nat} (hn : n ≠ 0)
    (hsizes : ReadsOn t { stream := opened object handle } sizes)
    (hlast : ((play t { stream := opened object handle } (sizes.map .read)).read t n).ending =
      .ok (.ok [])) :
    let u := play t { stream := opened object handle } ((sizes ++ [n]).map .read)
    ∃ blocks, (∀ bytes ∈ blocks, bytes ≠ []) ∧ EndsAfter (opened object handle) blocks u.log ∧
      u.delivered = blocks.flatten := by
  intro u
  have hu : u = (play t { stream := opened object handle } (sizes.map .read)).step t (.read n) := by
    simp only [u, List.map_append, play_append]
    rfl
  obtain ⟨blocks, hs⟩ := (Smooth.first object handle).play hsizes
  obtain ⟨more, hs⟩ := hs.read ⟨[], hlast⟩
  obtain ⟨-, closed, -⟩ := read_ends hn hlast
  rw [← hu] at hs closed
  obtain ⟨empty, hends⟩ := hs.finished closed
  have balanced : Balanced { stream := opened object handle } := rfl
  have books : u.Balanced := balanced.play _
  rw [Balanced, empty, List.append_nil, hs.arrived] at books
  exact ⟨[] ++ blocks ++ more, hs.nonempty, hends, books⟩

/-- Whatever the target answers, a stream delivers what has arrived, in the order in which it has
arrived, and each read and each close does what may be expected of it. So whoever reads to the
end without an error gets the blocks that come before the end, whatever the sizes of the reads. -/
theorem delivers_what_arrives (t : Target) (object : ObjectName) (handle : Int64) :
    let s := opened object handle
    let first : Usage := { stream := s }
    (∀ uses : List Use, let u := first.play t uses
      u.Balanced ∧ (∀ n, u.ReadsWell t n) ∧ u.ClosesWell t) ∧
    (∀ (sizes : List Nat) (n : Nat), n ≠ 0 → first.ReadsOn t sizes →
      ((first.play t (sizes.map .read)).read t n).ending = .ok (.ok []) →
      let u := first.play t ((sizes ++ [n]).map .read)
      ∃ blocks, (∀ bytes ∈ blocks, bytes ≠ []) ∧ EndsAfter s blocks u.log ∧
        u.delivered = blocks.flatten) ∧
    ∀ (blocks : List (List UInt8)) (sizes : List Nat), Serves t s blocks → (∀ n ∈ sizes, n ≠ 0) →
      blocks.flatten.length < sizes.length →
      first.ReadsOn t sizes ∧ (first.play t (sizes.map .read)).delivered = blocks.flatten := by
  intro s first
  have balanced : first.Balanced := rfl
  refine ⟨fun uses => ⟨balanced.play uses, readsWell, closesWell⟩, ?_, ?_⟩
  · exact fun sizes n hn hsizes hlast => reads_to_end hn hsizes hlast
  · exact fun blocks sizes ht hsizes often => ht.reads_all hsizes often

/-- Two blocks, and a buffer that is smaller than one of them. -/
theorem delivers_what_arrives_by_threes :
    let t : Target := serving [[1, 2, 3, 4], [5, 6]]
    let s := opened ⟨"d", []⟩ 9
    let sizes := List.replicate 7 3
    let u := play t { stream := s } ((sizes ++ [3]).map .read)
    ReadsOn t { stream := s } sizes ∧
      (∃ blocks, EndsAfter s blocks u.log ∧ u.delivered = blocks.flatten) ∧
      u.delivered = [1, 2, 3, 4, 5, 6] := by
  intro t s sizes u
  obtain ⟨-, toEnd, all⟩ := delivers_what_arrives t ⟨"d", []⟩ 9
  obtain ⟨hon, -⟩ := all [[1, 2, 3, 4], [5, 6]] sizes (serves_serving (by decide))
    (by decide) (by decide)
  let v := play t { stream := s } (sizes.map .read)
  have closed : v.stream.isClosed = true := by decide +kernel
  have empty : v.stream.unread = [] := by decide +kernel
  have last : (v.read t 3).ending = .ok (.ok (v.stream.unread.take 3)) :=
    read_kept fun asks => Bool.false_ne_true (asks.2.2.symm.trans closed)
  rw [empty] at last
  obtain ⟨blocks, -, ends, hd⟩ := toEnd sizes 3 (by decide) hon last
  exact ⟨hon, ⟨blocks, ends, hd⟩, by decide +kernel⟩

/-- Small buffers, a close in between, and a block of which something is left then. -/
example :
    let t : Target := fun past _ =>
      .reply (.ok ([Value.bytes [1, 2, 3], .bytes [4, 5, 6]][past.length]?.getD .void))
    let u := play t { stream := opened ⟨"d", []⟩ 9 } [.read 2, .read 2, .read 1, .close, .read 4]
    u.delivered = [1, 2, 3, 4, 5, 6] ∧ u.calls.map Call.operation =
      ["readStream", "readStream", "closeStream"] :=
  ⟨by decide +kernel, by decide +kernel⟩

end RemoteRecorder.Stream.Usage
