import SprakCapture.Data.Bytes

/-!
# Captured streams

The bytes of a relayed stream are kept in blocks of fixed capacity, which are reserved
one by one against a budget that all streams of a service share. A packet list records
which range of its stream each relayed block was stored in. `append_spec` says what one
append does to the stream and to the budget.
-/

namespace SprakCapture.Socks5

open Data List

/-- The capacity of a block of a captured stream. -/
def capturedBytesChunkSize : Nat := 4 * 1024

/-- The number of values of `usize`. -/
def usizeLimit : Nat := 2 ^ 64

/-- The upper bound of all captured bytes, and the bytes that are reserved. -/
structure CapturedBytesBudget where
  maximumBytes : Nat
  usedBytes : Nat
deriving DecidableEq

/-- Reserve at most the requested number of bytes. -/
def CapturedBytesBudget.reserve (budget : CapturedBytesBudget) (requestedBytes : Nat) :
    CapturedBytesBudget × Nat :=
  let reservedBytes := min requestedBytes (budget.maximumBytes - budget.usedBytes)
  if reservedBytes = 0 then (budget, 0)
  else ({ budget with usedBytes := budget.usedBytes + reservedBytes }, reservedBytes)

/-- Give reserved bytes back. The subtraction wraps around. -/
def CapturedBytesBudget.release (budget : CapturedBytesBudget) (releasedBytes : Nat) :
    CapturedBytesBudget :=
  { budget with
    usedBytes :=
      if releasedBytes ≤ budget.usedBytes then budget.usedBytes - releasedBytes
      else budget.usedBytes + usizeLimit - releasedBytes }

/-- A block of a stream, with the part of it that is written. -/
structure CapturedBytesChunk where
  capacity : Nat
  bytes : Bytes
deriving DecidableEq

structure CapturedBytesStorage where
  chunks : List CapturedBytesChunk
  length : Nat
  reservedBytes : Nat
deriving DecidableEq

namespace CapturedBytesStorage

def empty : CapturedBytesStorage where
  chunks := []
  length := 0
  reservedBytes := 0

/-- The whole stream. -/
def toVec (storage : CapturedBytesStorage) : Bytes :=
  storage.chunks.flatMap CapturedBytesChunk.bytes

/-- Whether the last block has no room, or there is none. -/
def isFull (storage : CapturedBytesStorage) : Bool :=
  storage.chunks.getLast?.all fun chunk => chunk.bytes.length = chunk.capacity

/-- Add an empty block. -/
def pushChunk (storage : CapturedBytesStorage) (capacity : Nat) : CapturedBytesStorage :=
  { storage with
    chunks := storage.chunks ++ [{ capacity := capacity, bytes := [] }]
    reservedBytes := storage.reservedBytes + capacity }

/-- Fill the last block with the first bytes of a payload, and return their number. -/
def fillChunk (storage : CapturedBytesStorage) (payload : Bytes) : CapturedBytesStorage × Nat :=
  match storage.chunks.getLast? with
  | none => (storage, 0)
  | some chunk =>
    let writableBytes := min (chunk.capacity - chunk.bytes.length) payload.length
    ({ storage with
       chunks := storage.chunks.dropLast ++
         [{ chunk with bytes := chunk.bytes ++ payload.take writableBytes }]
       length := storage.length + writableBytes }, writableBytes)

end CapturedBytesStorage

/-- The loop of `append`: reserve a block if the last one is full, then fill it. It ends
when the payload is written or nothing can be reserved. -/
def appendLoop (streamLimit : Nat) :
    Nat → CapturedBytesBudget → CapturedBytesStorage → Bytes →
      CapturedBytesBudget × CapturedBytesStorage × Nat
  | 0, budget, storage, _ => (budget, storage, 0)
  | turns + 1, budget, storage, payload =>
    if payload = [] then (budget, storage, 0)
    else if storage.isFull then
      let reserved := budget.reserve
        (min capturedBytesChunkSize (streamLimit - storage.reservedBytes))
      if reserved.2 = 0 then (reserved.1, storage, 0)
      else
        let filled := (storage.pushChunk reserved.2).fillChunk payload
        let rest := appendLoop streamLimit turns reserved.1 filled.1 (payload.drop filled.2)
        (rest.1, rest.2.1, filled.2 + rest.2.2)
    else
      let filled := storage.fillChunk payload
      let rest := appendLoop streamLimit turns budget filled.1 (payload.drop filled.2)
      (rest.1, rest.2.1, filled.2 + rest.2.2)

/-- Append a payload within the limit of the stream and the budget; the number returned is
that of the bytes stored. Every turn of the loop writes a byte, so the length of the payload
bounds them. -/
def CapturedBytesStorage.append (storage : CapturedBytesStorage) (budget : CapturedBytesBudget)
    (payload : Bytes) (streamLimit : Nat) : CapturedBytesBudget × CapturedBytesStorage × Nat :=
  appendLoop streamLimit payload.length budget storage
    (payload.take (streamLimit - storage.length))

/-! ### The index of stored ranges -/

inductive TrafficDirection where
  | up
  | down
deriving DecidableEq

/-- One relayed block, by the range of its stream that holds it. -/
structure CapturedPacket where
  direction : TrafficDirection
  sequence : Nat
  capturedAtMilliseconds : UInt64
  storedOffsetBytes : Nat
  storedBytes : Nat
  originalBytes : Nat
deriving DecidableEq

structure CapturedPacketStorage where
  nextUpSequence : Nat
  nextDownSequence : Nat
  packets : List CapturedPacket
deriving DecidableEq

/-- The arguments of `CapturedPacketList::append`. -/
structure CapturedPacketWrite where
  direction : TrafficDirection
  capturedAtMilliseconds : UInt64
  storedOffsetBytes : Nat
  storedBytes : Nat
  originalBytes : Nat
deriving DecidableEq

/-- `u64::saturating_add(1)`. -/
def nextSequenceAfter (sequence : Nat) : Nat := min (sequence + 1) (2 ^ 64 - 1)

namespace CapturedPacketStorage

def empty : CapturedPacketStorage where
  nextUpSequence := 1
  nextDownSequence := 1
  packets := []

/-- Record a stored range. A block of which nothing was stored is not recorded. -/
def append (storage : CapturedPacketStorage) (packet : CapturedPacketWrite) :
    CapturedPacketStorage :=
  if packet.storedBytes = 0 then storage
  else
    let numbered (sequence : Nat) : CapturedPacket :=
      { direction := packet.direction
        sequence := sequence
        capturedAtMilliseconds := packet.capturedAtMilliseconds
        storedOffsetBytes := packet.storedOffsetBytes
        storedBytes := packet.storedBytes
        originalBytes := packet.originalBytes }
    match packet.direction with
    | .up =>
      { storage with
        nextUpSequence := nextSequenceAfter storage.nextUpSequence
        packets := storage.packets ++ [numbered storage.nextUpSequence] }
    | .down =>
      { storage with
        nextDownSequence := nextSequenceAfter storage.nextDownSequence
        packets := storage.packets ++ [numbered storage.nextDownSequence] }

/-- The recorded ranges of one stream. -/
def forDirection (storage : CapturedPacketStorage) (direction : TrafficDirection) :
    List CapturedPacket :=
  storage.packets.filter fun packet => packet.direction = direction

end CapturedPacketStorage

/-! ### What an append does -/

/-- The counters of a stream agree with its blocks. -/
structure CapturedBytesStorage.Consistent (storage : CapturedBytesStorage) : Prop where
  length_eq : storage.length = storage.toVec.length
  reservedBytes_eq : storage.reservedBytes = (storage.chunks.map CapturedBytesChunk.capacity).sum
  fits : ∀ chunk ∈ storage.chunks, chunk.bytes.length ≤ chunk.capacity

/-- What a part of an append leads to. -/
structure Appends (budget : CapturedBytesBudget) (storage : CapturedBytesStorage)
    (payload : Bytes) (result : CapturedBytesBudget × CapturedBytesStorage × Nat) : Prop where
  consistent : result.2.1.Consistent
  stored_le : result.2.2 ≤ payload.length
  toVec_eq : result.2.1.toVec = storage.toVec ++ payload.take result.2.2
  maximumBytes_eq : result.1.maximumBytes = budget.maximumBytes
  reserved_le : storage.reservedBytes ≤ result.2.1.reservedBytes
  usedBytes_eq : result.1.usedBytes + storage.reservedBytes =
    budget.usedBytes + result.2.1.reservedBytes
  bounded : budget.usedBytes ≤ budget.maximumBytes → result.1.usedBytes ≤ budget.maximumBytes

section Appending

variable {budget : CapturedBytesBudget} {storage : CapturedBytesStorage} {payload : Bytes}

open CapturedBytesStorage

theorem appends_nothing (consistent : storage.Consistent) :
    Appends budget storage payload (budget, storage, 0) where
  consistent := consistent
  stored_le := Nat.zero_le _
  toVec_eq := by simp
  maximumBytes_eq := rfl
  reserved_le := Nat.le_refl _
  usedBytes_eq := rfl
  bounded := fun bound => bound

theorem CapturedBytesStorage.Consistent.pushChunk (consistent : storage.Consistent)
    (capacity : Nat) : (storage.pushChunk capacity).Consistent where
  length_eq := by
    simpa [CapturedBytesStorage.pushChunk, toVec] using consistent.length_eq
  reservedBytes_eq := by
    simp [CapturedBytesStorage.pushChunk, consistent.reservedBytes_eq]
  fits := by
    intro chunk member
    rcases mem_append.mp member with before | isLast
    · exact consistent.fits chunk before
    · rw [mem_singleton.mp isLast]
      exact Nat.zero_le _

@[simp] theorem toVec_pushChunk (capacity : Nat) :
    (storage.pushChunk capacity).toVec = storage.toVec := by
  simp [pushChunk, toVec]

/-- Filling the last block appends to the stream and keeps what is reserved. -/
theorem fillChunk_spec (consistent : storage.Consistent) :
    (storage.fillChunk payload).1.Consistent ∧ (storage.fillChunk payload).2 ≤ payload.length ∧
      (storage.fillChunk payload).1.toVec =
        storage.toVec ++ payload.take (storage.fillChunk payload).2 ∧
      (storage.fillChunk payload).1.reservedBytes = storage.reservedBytes := by
  unfold fillChunk
  split
  · exact ⟨consistent, Nat.zero_le _, by simp, rfl⟩
  rename_i chunk isLast
  obtain ⟨front, split⟩ := getLast?_eq_some_iff.mp isLast
  have room := consistent.fits chunk (mem_of_getLast? isLast)
  have lengthEq := consistent.length_eq
  have reservedEq := consistent.reservedBytes_eq
  have vec : storage.toVec = front.flatMap CapturedBytesChunk.bytes ++ chunk.bytes := by
    simp [toVec, split]
  have filled : (storage.chunks.dropLast ++ [{ chunk with
      bytes := chunk.bytes ++
        payload.take (min (chunk.capacity - chunk.bytes.length) payload.length) }]).flatMap
          CapturedBytesChunk.bytes =
      storage.toVec ++ payload.take (min (chunk.capacity - chunk.bytes.length) payload.length) := by
    rw [vec, split]
    simp
  refine ⟨⟨?_, ?_, ?_⟩, Nat.min_le_right _ _, filled, rfl⟩
  · dsimp only [toVec]
    rw [filled, length_append, length_take]
    omega
  · rw [reservedEq, split]
    simp
  intro other member
  rcases mem_append.mp member with before | last
  · exact consistent.fits other (dropLast_subset _ before)
  · rw [mem_singleton.mp last]
    dsimp only
    rw [length_append, length_take]
    omega

/-- A block of the budget that is reserved is counted, and the bound is kept. -/
theorem reserve_spec (requestedBytes : Nat) :
    (budget.reserve requestedBytes).1.maximumBytes = budget.maximumBytes ∧
      (budget.reserve requestedBytes).1.usedBytes =
        budget.usedBytes + (budget.reserve requestedBytes).2 ∧
      (budget.usedBytes ≤ budget.maximumBytes →
        (budget.reserve requestedBytes).1.usedBytes ≤ budget.maximumBytes) ∧
      ((budget.reserve requestedBytes).2 = 0 →
        requestedBytes = 0 ∨ budget.maximumBytes ≤ budget.usedBytes) := by
  grind [CapturedBytesBudget.reserve]

/-- A turn of the loop in front of the others. -/
theorem Appends.after {middle : CapturedBytesBudget} {filled : CapturedBytesStorage}
    {written : Nat} {rest : CapturedBytesBudget × CapturedBytesStorage × Nat}
    (appends : Appends middle filled (payload.drop written) rest)
    (written_le : written ≤ payload.length)
    (filledVec : filled.toVec = storage.toVec ++ payload.take written)
    (maximum : middle.maximumBytes = budget.maximumBytes)
    (reserved : storage.reservedBytes ≤ filled.reservedBytes)
    (used : middle.usedBytes + storage.reservedBytes = budget.usedBytes + filled.reservedBytes)
    (bound : budget.usedBytes ≤ budget.maximumBytes → middle.usedBytes ≤ budget.maximumBytes) :
    Appends budget storage payload (rest.1, rest.2.1, written + rest.2.2) where
  consistent := appends.consistent
  stored_le := by
    have later := appends.stored_le
    rw [length_drop] at later
    dsimp only
    omega
  toVec_eq := by
    dsimp only
    rw [appends.toVec_eq, filledVec, append_assoc, take_add]
  maximumBytes_eq := appends.maximumBytes_eq.trans maximum
  reserved_le := Nat.le_trans reserved appends.reserved_le
  usedBytes_eq := by
    have later := appends.usedBytes_eq
    dsimp only
    omega
  bounded := by
    intro before
    have later := appends.bounded
    rw [maximum] at later
    exact later (bound before)

theorem appendLoop_spec (streamLimit : Nat) {turns : Nat} (consistent : storage.Consistent) :
    Appends budget storage payload (appendLoop streamLimit turns budget storage payload) := by
  induction turns generalizing budget storage payload with
  | zero => exact appends_nothing consistent
  | succ turns ih =>
    unfold appendLoop
    split
    · exact appends_nothing consistent
    split
    · obtain ⟨maximum, _, bound, -⟩ := @reserve_spec budget
        (min capturedBytesChunkSize (streamLimit - storage.reservedBytes))
      dsimp only
      split
      · have same : (budget.reserve (min capturedBytesChunkSize
            (streamLimit - storage.reservedBytes))).1 = budget := by
          cases unchanged : (CapturedBytesBudget.reserve _ _).1
          simp_all
        rw [same]
        exact appends_nothing consistent
      · have pushed := consistent.pushChunk (budget.reserve (min capturedBytesChunkSize
          (streamLimit - storage.reservedBytes))).2
        obtain ⟨filled, written, vec, reserved⟩ := fillChunk_spec pushed
        rw [toVec_pushChunk] at vec
        refine (ih filled).after written vec maximum ?_ ?_ bound
        · rw [reserved]
          exact Nat.le_add_right _ _
        grind [pushChunk]
    · obtain ⟨filled, written, vec, reserved⟩ := fillChunk_spec consistent
      exact (ih filled).after written vec rfl (Nat.le_of_eq reserved.symm)
        (by rw [reserved]) fun before => before

/-- What one append does to a stream and to the budget. -/
theorem append_spec (streamLimit : Nat) (consistent : storage.Consistent) :
    Appends budget storage (payload.take (streamLimit - storage.length))
      (storage.append budget payload streamLimit) :=
  appendLoop_spec streamLimit consistent

end Appending

end SprakCapture.Socks5
