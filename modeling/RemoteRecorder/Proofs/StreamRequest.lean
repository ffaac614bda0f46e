import RemoteRecorder.Proofs.SortedMap
import RemoteRecorder.StreamRequest

/-!
# RemoteRecorder.Proofs.StreamRequest

**What a stream request sends**: exactly what restricts the data.
-/

namespace RemoteRecorder.StreamRequest

variable {t? : Option Instant} {r : StreamRequest} {key value : String}

theorem instantText?_eq_some_iff : instantText? t? = some value ↔
    ∃ t, t? = some t ∧ t.afterEpoch = true ∧ t.text = value := by
  simp [instantText?, and_assoc]

theorem blockSizeText?_eq_some_iff {n : Int64} :
    blockSizeText? n = some value ↔ 0 < n ∧ toString n.toInt = value := by
  simp [blockSizeText?]

/-- The entries that are sent: a text for each bound that lies after the epoch, and for a block size
that is positive. -/
theorem mem_toMap_entries : (key, value) ∈ r.toMap.entries ↔
    key = "startTime" ∧ instantText? r.start = some value ∨
    key = "endTime" ∧ instantText? r.stop = some value ∨
    key = "blockSize" ∧ blockSizeText? r.blockSize = some value := by
  rw [← SortedMap.get?_eq_some_iff, toMap, SortedMap.get?_ofList]
  cases instantText? r.start <;> cases instantText? r.stop <;>
    cases blockSizeText? r.blockSize <;>
    by_cases hs : key = "startTime" <;> by_cases ht : key = "endTime" <;>
    by_cases hb : key = "blockSize" <;> simp_all [lastOf, eq_comm]

end RemoteRecorder.StreamRequest
