import RemoteRecorder.Proofs.Instant.Reading
import RemoteRecorder.Proofs.StreamRequest

/-!
# RemoteRecorder.Proofs.StreamRequest.Limits

**What a stream request says about the data**: its limits, which are an instant after the epoch at
each end and a positive block size, as far as it has them.

Two requests are sent alike exactly if their limits are the same (`maps_tell_limits_apart`). For the
texts of a request are read back: an instant to the nanosecond, and a block size as a number
(`read_limits`).
-/

namespace RemoteRecorder

namespace Instant

/-- An instant comes before another by its seconds, and in the same second by its nanoseconds. In a
leap second these go on, so it comes before the next second. -/
instance : LT Instant where
  lt t t' := t.seconds < t'.seconds ∨ t.seconds = t'.seconds ∧ t.nanos < t'.nanos

instance (t t' : Instant) : Decidable (t < t') := inferInstanceAs (Decidable (_ ∨ _))

/-- The start of the year 1970. -/
def epoch : Instant := ⟨0, 0⟩

theorem afterEpoch_iff {t : Instant} : t.afterEpoch = true ↔ epoch < t := by
  show _ ↔ 0 < t.seconds ∨ 0 = t.seconds ∧ 0 < t.nanos
  rw [@eq_comm Int 0]
  simp [afterEpoch]

theorem nonneg_of_epoch_lt {t : Instant} (h : epoch < t) : 0 ≤ t.seconds := by
  rcases h with h | ⟨h, -⟩
  · exact Int.le_of_lt h
  · exact Int.le_of_eq h

end Instant

namespace StreamRequest

open Instant (epoch afterEpoch_iff nonneg_of_epoch_lt)

/-- What limits the data of a stream. -/
structure Limits where
  start : Option Instant
  stop : Option Instant
  blockSize : Option Int64
  deriving DecidableEq

/-- The limits that a request sets. -/
def limits (r : StreamRequest) : Limits where
  start := r.start.filter (epoch < ·)
  stop := r.stop.filter (epoch < ·)
  blockSize := (some r.blockSize).filter (0 < ·)

/-- Whether the bounds of a request are points in time. -/
def IsBounded (r : StreamRequest) : Prop :=
  (∀ t ∈ r.start, t.IsPoint) ∧ ∀ t ∈ r.stop, t.IsPoint

instance (r : StreamRequest) : Decidable r.IsBounded := inferInstanceAs (Decidable (_ ∧ _))

variable {r r' : StreamRequest} {t? : Option Instant} {n : Int64}

/-! ## Texts of limits

A bound that does not lie after the epoch is no limit, and nothing is sent for it. It is therefore
the limits that are written and read back, and not what a request holds. -/

/-- A bound is written if it lies after the epoch. -/
theorem instantText?_eq (t? : Option Instant) :
    instantText? t? = (t?.filter (epoch < ·)).map Instant.text := by
  have same : Instant.afterEpoch = fun t => decide (epoch < t) := by
    funext t
    rw [Bool.eq_iff_iff, afterEpoch_iff, decide_eq_true_iff]
  rw [instantText?, same]

theorem blockSizeText?_eq (n : Int64) :
    blockSizeText? n = ((some n).filter (0 < ·)).map fun n => toString n.toInt := by
  rw [blockSizeText?, Option.filter_some]
  by_cases h : 0 < n <;> simp only [h, decide_true, decide_false, if_true] <;> rfl

/-- An instant that is sent is read back. -/
theorem read_instantText? (h : ∀ t ∈ t?, t.IsPoint) :
    (instantText? t?).bind Instant.ofText? = t?.filter (epoch < ·) := by
  rw [instantText?_eq]
  cases hf : t?.filter (epoch < ·) with
  | none => rfl
  | some t =>
    obtain ⟨hmem, hlt⟩ := Option.filter_eq_some_iff.1 hf
    have hlt : epoch < t := of_decide_eq_true hlt
    rw [Option.map_some, Option.bind_some]
    exact Instant.ofText?_text (h t hmem) (nonneg_of_epoch_lt hlt)

/-- Reads a number of 64 bits. -/
def readSize? (text : String) : Option Int64 := (Text.Integer.read text).toOption

/-- A block size that is sent is read back. -/
theorem read_blockSizeText? (n : Int64) :
    (blockSizeText? n).bind readSize? = (some n).filter (0 < ·) := by
  have read (n : Int64) : readSize? (toString n.toInt) = some n := by
    have spelled := Text.Integer.spells_toString n.toInt
    rw [readSize?, Text.Integer.read, Text.Integer.readChars_eq_ok_iff.2 spelled]
    rfl
  rw [blockSizeText?_eq]
  cases (some n).filter (0 < ·) with
  | none => rfl
  | some n => exact read n

/-! ## Maps of limits

Two requests are told apart by their maps if the limits can be read back from these, and the readers
show it. -/

/-- What is sent under each of the three keys. -/
theorem get?_toMap (r : StreamRequest) :
    r.toMap.get? "startTime" = instantText? r.start ∧
    r.toMap.get? "endTime" = instantText? r.stop ∧
    r.toMap.get? "blockSize" = blockSizeText? r.blockSize := by
  refine ⟨Option.ext fun v => ?_, Option.ext fun v => ?_, Option.ext fun v => ?_⟩ <;>
    rw [SortedMap.get?_eq_some_iff, mem_toMap_entries] <;> simp

/-- The limits of a request are read from what is sent. -/
theorem read_limits (h : r.IsBounded) :
    r.limits = ⟨(r.toMap.get? "startTime").bind Instant.ofText?,
      (r.toMap.get? "endTime").bind Instant.ofText?,
      (r.toMap.get? "blockSize").bind readSize?⟩ := by
  obtain ⟨hstart, hstop, hsize⟩ := get?_toMap r
  rw [hstart, hstop, hsize, read_instantText? h.1, read_instantText? h.2,
    read_blockSizeText?]
  rfl

theorem toMap_eq_of_limits_eq (h : r.limits = r'.limits) : r.toMap = r'.toMap := by
  obtain ⟨hstart, hstop, hsize⟩ := Limits.mk.inj h
  simp only [toMap, instantText?_eq, blockSizeText?_eq, hstart, hstop, hsize]

/-- Requests are sent as the same map exactly if they set the same limits. Different instants after
the epoch have different texts, from which they are read to the nanosecond. -/
theorem maps_tell_limits_apart (h : r.IsBounded) (h' : r'.IsBounded) :
    (r.toMap = r'.toMap ↔ r.limits = r'.limits) ∧
    (∀ t t' : Instant, t.IsPoint → t'.IsPoint → epoch < t → epoch < t' →
      t.text = t'.text → t = t') ∧
    (∀ t : Instant, t.IsPoint → epoch < t → Instant.ofText? t.text = some t) ∧
    r.limits = ⟨(r.toMap.get? "startTime").bind Instant.ofText?,
      (r.toMap.get? "endTime").bind Instant.ofText?,
      (r.toMap.get? "blockSize").bind readSize?⟩ := by
  have read (t : Instant) (ht : t.IsPoint) (hlt : epoch < t) : Instant.ofText? t.text = some t :=
    Instant.ofText?_text ht (nonneg_of_epoch_lt hlt)
  refine ⟨⟨fun hmap => ?_, toMap_eq_of_limits_eq⟩, ?_, read, read_limits h⟩
  · rw [read_limits h, read_limits h', hmap]
  · intro t t' ht ht' hlt hlt' heq
    have reread := read t ht hlt
    rw [heq, read t' ht' hlt'] at reread
    exact (Option.some.inj reread).symm

/-- A request from the middle of a leap second on, and one from the middle of the next second on.
The other end and the block size do not count in either of them. -/
theorem maps_tell_limits_apart_leap :
    IsBounded ⟨some ⟨1483228799, 1500000000⟩, some ⟨0, 0⟩, 0⟩ ∧
    IsBounded ⟨some ⟨1483228800, 500000000⟩, some ⟨-1, 999999999⟩, -1⟩ ∧
    StreamRequest.toMap ⟨some ⟨1483228799, 1500000000⟩, some ⟨0, 0⟩, 0⟩ ≠
      StreamRequest.toMap ⟨some ⟨1483228800, 500000000⟩, some ⟨-1, 999999999⟩, -1⟩ ∧
    limits ⟨some ⟨1483228799, 1500000000⟩, some ⟨0, 0⟩, 0⟩ =
      ⟨some ⟨1483228799, 1500000000⟩, none, none⟩ := by
  have h : IsBounded ⟨some ⟨1483228799, 1500000000⟩, some ⟨0, 0⟩, 0⟩ := by decide
  have h' : IsBounded ⟨some ⟨1483228800, 500000000⟩, some ⟨-1, 999999999⟩, -1⟩ := by decide
  refine ⟨h, h', fun heq => ?_, by decide⟩
  have same := (maps_tell_limits_apart h h').1.1 heq
  revert same
  decide

end StreamRequest

end RemoteRecorder
