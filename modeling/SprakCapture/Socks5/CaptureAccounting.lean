import SprakCapture.Socks5.SessionCounters

/-!
# Accounting of captured streams

`Faithful` relates a pair of streams to the blocks that were offered to it: a stream holds
the stored part of every block in the order of their arrival, and the packet index divides
it into consecutive ranges. `Sound` adds the budget: what is used is what the allocated
streams have reserved, and every stream that is referred to is allocated. Both hold in
every run of the registry.
-/

namespace SprakCapture.Socks5

open Data List Data.Table Table
open CapturedStreams (reservedBytes)

/-! ### One pair of streams -/

/-- Ranges that follow each other without a gap from one offset to another. -/
def Covers : Nat → List CapturedPacket → Nat → Prop
  | start, [], stop => start = stop
  | start, packet :: packets, stop =>
    packet.storedOffsetBytes = start ∧ 0 < packet.storedBytes ∧
      Covers (start + packet.storedBytes) packets stop

theorem Covers.concat {start stop : Nat} {packets : List CapturedPacket} {packet : CapturedPacket}
    (covers : Covers start packets stop) (offset : packet.storedOffsetBytes = stop)
    (positive : 0 < packet.storedBytes) :
    Covers start (packets ++ [packet]) (stop + packet.storedBytes) := by
  induction packets generalizing start with
  | nil =>
    have same : start = stop := covers
    subst same
    exact ⟨offset, positive, rfl⟩
  | cons _ packets ih => exact ⟨covers.1, covers.2.1, ih covers.2.2⟩

/-- The blocks offered to one stream, with the number of bytes stored of each. -/
def offeredTo (direction : TrafficDirection) (arrivals : List (TrafficDirection × Bytes × Nat)) :
    List (Bytes × Nat) :=
  (arrivals.filter fun arrival => arrival.1 = direction).map Prod.snd

/-- The stored parts of some blocks. -/
def storedOf (offered : List (Bytes × Nat)) : Bytes :=
  offered.flatMap fun block => block.1.take block.2

/-- Some blocks as they were offered. -/
def bytesOf (offered : List (Bytes × Nat)) : Bytes := offered.flatMap fun block => block.1

/-- Up to the first block that is cut off, and with it, what is stored of some blocks is a
prefix of the blocks. -/
theorem storedOf_prefix {offered : List (Bytes × Nat)}
    (whole : ∀ block ∈ offered.dropLast, block.2 = block.1.length) :
    storedOf offered <+: bytesOf offered := by
  induction offered with
  | nil => exact prefix_refl _
  | cons block offered ih =>
    cases offered with
    | nil =>
      grind [storedOf, bytesOf]
    | cons _ offered =>
      have complete : block.2 = block.1.length := whole block (by simp)
      have rest := ih fun other member => whole other (by
        exact .tail _ member)
      rw [storedOf, flatMap_cons, complete, take_length]
      exact (prefix_append_right_inj _).mpr rest

/-- A pair of streams holds what was offered to it. -/
structure Faithful (streams : CapturedStreams) : Prop where
  consistent : ∀ direction, (streams.stream direction).Consistent
  toVec_eq : ∀ direction, (streams.stream direction).toVec =
    storedOf (offeredTo direction streams.arrivals)
  covers : ∀ direction, Covers 0 (streams.capturedPackets.forDirection direction)
    (streams.stream direction).length
  length_le : ∀ direction, (streams.stream direction).length ≤ capturedStreamPrefixLimit

theorem faithful_empty : Faithful .empty where
  consistent := by
    intro direction
    cases direction <;> exact ⟨rfl, rfl, nofun⟩
  toVec_eq := by
    intro direction
    cases direction <;> rfl
  covers := by
    intro direction
    cases direction <;> rfl
  length_le := by
    intro direction
    cases direction <;> exact Nat.zero_le _

/-- The index after a block, as seen by one direction. -/
theorem forDirection_append (storage : CapturedPacketStorage) (write : CapturedPacketWrite)
    (direction : TrafficDirection) :
    (write.storedBytes = 0 ∧ storage.append write = storage) ∨
    (0 < write.storedBytes ∧ write.direction ≠ direction ∧
      (storage.append write).forDirection direction = storage.forDirection direction) ∨
    ∃ packet : CapturedPacket, 0 < write.storedBytes ∧ write.direction = direction ∧
      packet.storedOffsetBytes = write.storedOffsetBytes ∧
      packet.storedBytes = write.storedBytes ∧
      (storage.append write).forDirection direction = storage.forDirection direction ++ [packet] := by
  unfold CapturedPacketStorage.append
  split
  · rename_i nothing
    exact .inl ⟨nothing, rfl⟩
  · rename_i something
    grind [CapturedPacketStorage.forDirection]

variable (streams : CapturedStreams) (budget : CapturedBytesBudget)
  (direction other : TrafficDirection) (payload : Bytes)

theorem offeredTo_concat (stored : Nat) (arrivals : List (TrafficDirection × Bytes × Nat)) :
    offeredTo other (arrivals ++ [(direction, payload, stored)]) =
      offeredTo other arrivals ++ if direction = other then [(payload, stored)] else [] := by
  grind [offeredTo]

variable (now : UInt64)

/-- The streams after a block, one direction at a time. -/
theorem stream_capture :
    (streams.capture budget direction payload now).2.stream other =
      if direction = other then
        ((streams.stream direction).append budget payload capturedStreamPrefixLimit).2.1
      else streams.stream other := by
  cases direction <;> cases other <;> rfl

theorem capturedPackets_capture :
    (streams.capture budget direction payload now).2.capturedPackets =
      streams.capturedPackets.append
        { direction := direction
          capturedAtMilliseconds := now
          storedOffsetBytes := (streams.stream direction).length
          storedBytes :=
            ((streams.stream direction).append budget payload capturedStreamPrefixLimit).2.2
          originalBytes := payload.length } := by
  cases direction <;> rfl

theorem arrivals_capture :
    (streams.capture budget direction payload now).2.arrivals =
      streams.arrivals ++ [(direction, payload,
        ((streams.stream direction).append budget payload capturedStreamPrefixLimit).2.2)] := by
  cases direction <;> rfl

theorem budget_capture :
    (streams.capture budget direction payload now).1 =
      ((streams.stream direction).append budget payload capturedStreamPrefixLimit).1 := by
  cases direction <;> rfl

section Capturing

variable {streams : CapturedStreams} {budget : CapturedBytesBudget} {direction : TrafficDirection}
  {payload : Bytes}

/-- What an append does to a stream of a faithful pair. -/
theorem Faithful.append (faithful : Faithful streams) (budget : CapturedBytesBudget)
    (direction : TrafficDirection) (payload : Bytes) :
    ((streams.stream direction).append budget payload capturedStreamPrefixLimit).2.1.toVec =
        (streams.stream direction).toVec ++ payload.take
          ((streams.stream direction).append budget payload capturedStreamPrefixLimit).2.2 ∧
      ((streams.stream direction).append budget payload capturedStreamPrefixLimit).2.1.length =
        (streams.stream direction).length +
          ((streams.stream direction).append budget payload capturedStreamPrefixLimit).2.2 ∧
      ((streams.stream direction).append budget payload capturedStreamPrefixLimit).2.1.length ≤
        capturedStreamPrefixLimit := by
  have appends := @append_spec budget _ payload capturedStreamPrefixLimit
    (faithful.consistent direction)
  have stored := appends.stored_le
  have vec := appends.toVec_eq
  have before := (faithful.consistent direction).length_eq
  have after := appends.consistent.length_eq
  have limit := faithful.length_le direction
  grind

/-- A block that is offered to a stream keeps the pair faithful. -/
theorem Faithful.capture (faithful : Faithful streams) (budget : CapturedBytesBudget)
    (direction : TrafficDirection) (payload : Bytes) (now : UInt64) :
    Faithful (streams.capture budget direction payload now).2 := by
  have appends := @append_spec budget _ payload capturedStreamPrefixLimit
    (faithful.consistent direction)
  obtain ⟨vec, length, limit⟩ := faithful.append budget direction payload
  refine ⟨?_, ?_, ?_, ?_⟩
  · intro other
    rw [stream_capture]
    split
    · exact appends.consistent
    · exact faithful.consistent other
  · intro other
    rw [stream_capture, arrivals_capture, offeredTo_concat]
    split
    · rename_i same
      subst same
      rw [vec, faithful.toVec_eq direction]
      simp [storedOf]
    · rw [append_nil]
      exact faithful.toVec_eq other
  · intro other
    have old := faithful.covers other
    rw [stream_capture, capturedPackets_capture]
    rcases forDirection_append streams.capturedPackets
        { direction := direction
          capturedAtMilliseconds := now
          storedOffsetBytes := (streams.stream direction).length
          storedBytes :=
            ((streams.stream direction).append budget payload capturedStreamPrefixLimit).2.2
          originalBytes := payload.length } other with
      ⟨nothing, same⟩ | ⟨-, different, same⟩ | ⟨packet, positive, rfl, offset, size, added⟩
    · grind
    · rw [same, if_neg different]
      exact old
    · rw [added, if_pos rfl, length]
      have next := old.concat offset (by rw [size]; exact positive)
      rw [size] at next
      exact next
  · intro other
    rw [stream_capture]
    split
    · exact limit
    · exact faithful.length_le other

/-- The budget pays for what a block newly reserves. -/
theorem Faithful.capture_budget (faithful : Faithful streams) (budget : CapturedBytesBudget)
    (direction : TrafficDirection) (payload : Bytes) (now : UInt64) :
    (streams.capture budget direction payload now).1.maximumBytes = budget.maximumBytes ∧
      (streams.capture budget direction payload now).1.usedBytes + streams.reservedBytes =
        budget.usedBytes + (streams.capture budget direction payload now).2.reservedBytes ∧
      (budget.usedBytes ≤ budget.maximumBytes →
        (streams.capture budget direction payload now).1.usedBytes ≤ budget.maximumBytes) := by
  have appends := @append_spec budget _ payload capturedStreamPrefixLimit
    (faithful.consistent direction)
  have used := appends.usedBytes_eq
  refine ⟨?_, ?_, ?_⟩
  · rw [budget_capture]
    exact appends.maximumBytes_eq
  · cases direction with
    | up | down =>
      simp only [CapturedStreams.capture, reservedBytes, CapturedStreams.stream] at used ⊢
      omega
  · intro bound
    rw [budget_capture]
    exact appends.bounded bound

end Capturing

/-! ### The registry -/

namespace SessionRegistry

/-- A snapshot refers to streams that are allocated, if it refers to any. -/
def Backed (registry : SessionRegistry) (snapshot : SessionSnapshot) : Prop :=
  ∀ reference, snapshot.captured = some reference →
    ∃ streams, registry.streams.get? reference = some streams

/-- The budget and the references of a registry are in order. -/
structure Sound (registry : SessionRegistry) (maximum : Nat) : Prop where
  used : registry.capturedBytesBudget.usedBytes = registry.streams.total reservedBytes
  maximumBytes_eq : registry.capturedBytesBudget.maximumBytes = maximum
  bounded : registry.capturedBytesBudget.usedBytes ≤ maximum
  faithful : ∀ reference streams, registry.streams.get? reference = some streams → Faithful streams
  sessions : ∀ sessionId snapshot, registry.sessions.get? sessionId = some snapshot →
    registry.Backed snapshot
  held : ∀ snapshot ∈ registry.held, registry.Backed snapshot
  below : ∀ reference streams, registry.streams.get? reference = some streams →
    reference < registry.nextStreams

variable {registry other : SessionRegistry} {sessionId : String} {snapshot : SessionSnapshot}
  {maximum : Nat} {now : UInt64}

section

variable (sound : registry.Sound maximum)
include sound

/-- A call that changes neither the streams nor the budget. -/
theorem Sound.keep (streams : other.streams = registry.streams)
    (budget : other.capturedBytesBudget = registry.capturedBytesBudget)
    (next : other.nextStreams = registry.nextStreams)
    (sessions : ∀ sessionId snapshot, other.sessions.get? sessionId = some snapshot →
      registry.Backed snapshot)
    (held : ∀ snapshot ∈ other.held, registry.Backed snapshot) : other.Sound maximum where
  used := by
    rw [budget, streams]
    exact sound.used
  maximumBytes_eq := by
    rw [budget]
    exact sound.maximumBytes_eq
  bounded := by
    rw [budget]
    exact sound.bounded
  faithful := by
    rw [streams]
    exact sound.faithful
  sessions := by
    intro sessionId snapshot found
    unfold Backed
    rw [streams]
    exact sessions sessionId snapshot found
  held := by
    intro snapshot member
    unfold Backed
    rw [streams]
    exact held snapshot member
  below := by
    rw [streams, next]
    exact sound.below

theorem Sound.publish (backed : registry.Backed snapshot) :
    (registry.publish snapshot).Sound maximum := by
  unfold SessionRegistry.publish
  split
  · refine sound.keep rfl rfl rfl sound.sessions ?_
    intro other member
    rcases mem_append.mp member with before | isNew
    · exact sound.held other before
    · rw [mem_singleton.mp isNew]
      exact backed
  · exact sound

/-- Replacing a session by one with the same streams. -/
theorem Sound.replace (backed : registry.Backed snapshot)
    (streams : other.streams = registry.streams)
    (budget : other.capturedBytesBudget = registry.capturedBytesBudget)
    (next : other.nextStreams = registry.nextStreams) (held : other.held = registry.held)
    (sessions : other.sessions = registry.sessions.insert sessionId snapshot) :
    other.Sound maximum := by
  refine sound.keep streams budget next ?_ ?_
  · intro id stored found
    rw [sessions, get?_insert] at found
    split at found
    · cases found
      exact backed
    · exact sound.sessions id stored found
  · rw [held]
    exact sound.held

theorem sound_create {clientAddress : String} :
    (registry.create sessionId clientAddress now).Sound maximum := by
  have fresh : registry.streams.get? registry.nextStreams = none := by
    cases found : registry.streams.get? registry.nextStreams with
    | none => rfl
    | some streams => exact absurd (sound.below _ _ found) (Nat.lt_irrefl _)
  have kept : ∀ stored : SessionSnapshot, registry.Backed stored → ∀ reference,
      stored.captured = some reference →
        ∃ streams, (registry.streams.insert registry.nextStreams .empty).get? reference =
          some streams := by
    intro stored backed reference refers
    obtain ⟨streams, found⟩ := backed reference refers
    grind
  refine Sound.publish ⟨?_, sound.maximumBytes_eq, sound.bounded, ?_, ?_, ?_, ?_⟩ ?_
  · rw [total_insert, erase_of_get?_eq_none fresh, sound.used]
    exact (Nat.zero_add _).symm
  · intro reference streams found
    rw [get?_insert] at found
    split at found
    · cases found
      exact faithful_empty
    · exact sound.faithful reference streams found
  · intro id stored found
    rw [get?_insert] at found
    split at found
    · cases found
      intro reference refers
      simp_all
    · exact kept stored (sound.sessions id stored found)
  · intro stored member
    exact kept stored (sound.held stored member)
  · intro reference streams found
    dsimp only at found ⊢
    rw [get?_insert] at found
    split at found
    · omega
    · have below := sound.below reference streams found
      omega
  · intro reference refers
    simp_all

theorem sound_update {change : SessionUpdate} :
    (registry.update sessionId change now).Sound maximum := by
  unfold update
  split
  · exact sound
  rename_i stored found
  have backed : registry.Backed (change.apply now stored) := sound.sessions _ stored found
  have replaced : { registry with
      sessions := registry.sessions.insert sessionId (change.apply now stored) }.Sound maximum :=
    sound.replace backed rfl rfl rfl rfl rfl
  exact replaced.publish backed

/-- Storing a block keeps the registry sound. -/
theorem sound_captureTraffic (captured : Option Nat) (direction : TrafficDirection)
    (payload : Bytes) (now : UInt64) :
    (registry.captureTraffic captured direction payload now).Sound maximum := by
  unfold captureTraffic
  split
  · exact sound
  rename_i reference
  split
  · exact sound
  rename_i streams found
  have faithful := sound.faithful reference streams found
  obtain ⟨sameMaximum, used, bounded⟩ := faithful.capture_budget registry.capturedBytesBudget
    direction payload now
  rw [sound.maximumBytes_eq] at sameMaximum bounded
  have backed : ∀ stored : SessionSnapshot, registry.Backed stored → ∀ other,
      stored.captured = some other → ∃ allocated, (registry.streams.insert reference
        (streams.capture registry.capturedBytesBudget direction payload now).2).get? other =
          some allocated := by
    intro stored before other refers
    obtain ⟨others, present⟩ := before other refers
    grind
  refine ⟨?_, sameMaximum, bounded sound.bounded, ?_, ?_, ?_, ?_⟩
  · have before := sound.used
    rw [total_eq_of_get? _ found] at before
    dsimp only
    rw [total_insert]
    omega
  · intro other others present
    rw [get?_insert] at present
    split at present
    · cases present
      exact faithful.capture _ _ _ _
    · exact sound.faithful other others present
  · intro id stored present
    exact backed stored (sound.sessions id stored present)
  · intro stored member
    exact backed stored (sound.held stored member)
  · intro other others present
    rw [get?_insert] at present
    split at present
    · rename_i same
      rw [same]
      exact sound.below reference streams found
    · exact sound.below other others present

omit sound in
theorem captureTraffic_sessions (captured : Option Nat) (direction : TrafficDirection)
    (payload : Bytes) (now : UInt64) :
    (registry.captureTraffic captured direction payload now).sessions = registry.sessions := by
  unfold captureTraffic
  split
  · rfl
  · split <;> rfl

omit sound in
theorem captured_countTraffic (direction : TrafficDirection) (byteCount : Nat) (now : UInt64) :
    (snapshot.countTraffic direction byteCount now).captured = snapshot.captured := by
  cases direction <;> rfl

theorem sound_addModifiedTraffic (traffic : ModifiedTraffic) (now : UInt64) :
    (registry.addModifiedTraffic traffic now).Sound maximum := by
  unfold addModifiedTraffic
  split
  · exact sound
  split
  · exact sound
  rename_i stored found
  have captured := sound_captureTraffic sound stored.captured traffic.direction traffic.payload now
  have backed : (registry.captureTraffic stored.captured traffic.direction traffic.payload
      now).Backed (stored.countTraffic traffic.direction traffic.payload.length now) := by
    unfold Backed
    rw [captured_countTraffic]
    refine captured.sessions traffic.sessionId stored ?_
    rw [captureTraffic_sessions]
    exact found
  have inserted : registry.sessions.insert traffic.sessionId
      (stored.countTraffic traffic.direction traffic.payload.length now) =
        (registry.captureTraffic stored.captured traffic.direction traffic.payload
          now).sessions.insert traffic.sessionId
            (stored.countTraffic traffic.direction traffic.payload.length now) := by
    rw [captureTraffic_sessions]
  exact Sound.publish (captured.replace backed rfl rfl rfl rfl inserted) backed

theorem Sound.delete (ids : List String) :
    { registry with sessions := ids.foldl erase registry.sessions }.Sound maximum := by
  refine sound.keep rfl rfl rfl ?_ sound.held
  intro id stored found
  rw [get?_foldl_erase] at found
  split at found
  · cases found
  · exact sound.sessions id stored found

theorem sound_close {errorMessage : String} :
    (registry.close sessionId errorMessage now).Sound maximum := by
  unfold close
  split
  · exact sound
  rename_i stored found
  have backed : registry.Backed (stored.close errorMessage now) := sound.sessions _ stored found
  have replaced : { registry with
      sessions := registry.sessions.insert sessionId (stored.close errorMessage now)
      metrics :=
        { registry.metrics with
          activeConnections := registry.metrics.activeConnections - 1
          failedConnections :=
            if errorMessage = "" then registry.metrics.failedConnections
            else registry.metrics.failedConnections + 1 } }.Sound maximum :=
    sound.replace backed rfl rfl rfl rfl rfl
  have counted := replaced.publish backed
  rcases pruneClosed_cases with ⟨-, same⟩ | ⟨ids, -, -, -, equal⟩
  · rw [same]
    exact counted
  · rw [equal]
    exact counted.delete ids

theorem sound_closeActive (errorMessage : String) (now : UInt64) :
    (registry.closeActive errorMessage now).Sound maximum := by
  have closes : ∀ (ids : List String) (registry : SessionRegistry), registry.Sound maximum →
      (ids.foldl (fun registry sessionId => registry.close sessionId errorMessage now)
        registry).Sound maximum := by
    intro ids
    induction ids with
    | nil => exact fun _ sound => sound
    | cons _ ids ih =>
      intro registry sound
      exact ih _ (sound_close sound)
  exact closes _ registry sound

theorem sound_clearCapturedBytes : registry.clearCapturedBytes.Sound maximum := by
  refine sound.keep rfl rfl rfl ?_ sound.held
  intro _ _ found
  dsimp only [clearCapturedBytes] at found
  rw [get?_mapValues] at found
  obtain ⟨_, -, rfl⟩ := Option.map_eq_some_iff.mp found
  nofun

theorem sound_releaseCapturedBytes (sessionId : String) :
    (registry.releaseCapturedBytes sessionId).Sound maximum := by
  refine sound.keep rfl rfl rfl ?_ sound.held
  intro id stored found
  dsimp only [releaseCapturedBytes] at found
  rw [get?_modify] at found
  split at found
  · obtain ⟨_, -, rfl⟩ := Option.map_eq_some_iff.mp found
    nofun
  · exact sound.sessions id stored found

theorem sound_perform (call : Call) : (registry.perform call).Sound maximum := by
  cases call with
  | create sessionId _ now =>
    dsimp only [perform]
    split
    · exact sound
    · exact sound_create sound
  | update sessionId _ now => exact sound_update sound
  | addModifiedTraffic traffic now => exact sound_addModifiedTraffic sound traffic now
  | close sessionId errorMessage now => exact sound_close sound
  | closeActive errorMessage now => exact sound_closeActive sound errorMessage now
  | clearClosed => exact sound.delete _
  | clearCapturedBytes => exact sound_clearCapturedBytes sound
  | releaseCapturedBytes sessionId => exact sound_releaseCapturedBytes sound sessionId
  | subscribe | unsubscribe => exact sound.keep rfl rfl rfl sound.sessions sound.held
  | snapshots =>
    refine sound.keep rfl rfl rfl sound.sessions ?_
    intro stored member
    rcases mem_append.mp member with before | taken
    · exact sound.held stored before
    · obtain ⟨id, found⟩ := mem_values.mp taken
      exact sound.sessions id stored found
  | dropSnapshot =>
    refine sound.keep rfl rfl rfl sound.sessions ?_
    intro stored member
    exact sound.held stored (mem_of_mem_eraseIdx member)

end

/-! ### Freeing streams -/

theorem usedBytes_release {budget : CapturedBytesBudget} {releasedBytes : Nat}
    (enough : releasedBytes ≤ budget.usedBytes) :
    (budget.release releasedBytes).usedBytes + releasedBytes = budget.usedBytes := by
  grind [CapturedBytesBudget.release]

/-- Giving back what some streams have reserved. -/
theorem release_all {dropped : List CapturedStreams} {budget : CapturedBytesBudget}
    (enough : (dropped.map reservedBytes).sum ≤ budget.usedBytes) :
    (dropped.foldl (fun budget streams =>
        (budget.release streams.capturedBytesUp.reservedBytes).release
          streams.capturedBytesDown.reservedBytes) budget).usedBytes +
        (dropped.map reservedBytes).sum = budget.usedBytes ∧
      (dropped.foldl (fun budget streams =>
        (budget.release streams.capturedBytesUp.reservedBytes).release
          streams.capturedBytesDown.reservedBytes) budget).maximumBytes = budget.maximumBytes := by
  induction dropped generalizing budget with
  | nil => exact ⟨rfl, rfl⟩
  | cons streams dropped ih =>
    rw [map_cons, sum_cons, reservedBytes] at enough
    have released : ((budget.release streams.capturedBytesUp.reservedBytes).release
        streams.capturedBytesDown.reservedBytes).usedBytes +
          (streams.capturedBytesUp.reservedBytes + streams.capturedBytesDown.reservedBytes) =
            budget.usedBytes := by
      have first := @usedBytes_release budget streams.capturedBytesUp.reservedBytes (by omega)
      have second := @usedBytes_release (budget.release streams.capturedBytesUp.reservedBytes)
        streams.capturedBytesDown.reservedBytes (by omega)
      omega
    obtain ⟨_, maximum⟩ := @ih ((budget.release
      streams.capturedBytesUp.reservedBytes).release streams.capturedBytesDown.reservedBytes)
      (by omega)
    rw [foldl_cons, map_cons, sum_cons, reservedBytes]
    exact ⟨by omega, maximum⟩

theorem mem_references {reference : Nat} :
    reference ∈ registry.references ↔
      (∃ sessionId snapshot, registry.sessions.get? sessionId = some snapshot ∧
        snapshot.captured = some reference) ∨
      ∃ snapshot ∈ registry.held, snapshot.captured = some reference := by
  rw [references, mem_filterMap]
  constructor
  · rintro ⟨snapshot, member, refers⟩
    rcases mem_append.mp member with stored | isHeld
    · obtain ⟨id, found⟩ := mem_values.mp stored
      exact .inl ⟨id, snapshot, found, refers⟩
    · exact .inr ⟨snapshot, isHeld, refers⟩
  · rintro (⟨id, snapshot, found, refers⟩ | ⟨snapshot, isHeld, refers⟩)
    · exact ⟨snapshot, mem_append_left _ (mem_values.mpr ⟨id, found⟩), refers⟩
    grind

/-- Every allocated stream is referred to. -/
def Live (registry : SessionRegistry) : Prop :=
  ∀ reference streams, registry.streams.get? reference = some streams →
    reference ∈ registry.references

theorem sound_dropUnreferenced (sound : registry.Sound maximum) :
    registry.dropUnreferenced.Sound maximum ∧ registry.dropUnreferenced.Live := by
  have divided := registry.streams.total_retain_add
    (fun reference _ => registry.references.contains reference) reservedBytes
  rw [← sound.used] at divided
  obtain ⟨used, sameMaximum⟩ := release_all (by
      rw [← divided]
      exact Nat.le_add_left _ _)
  have kept : ∀ reference streams, registry.dropUnreferenced.streams.get? reference = some streams ↔
      registry.streams.get? reference = some streams ∧ reference ∈ registry.references := by
    intro reference streams
    dsimp only [dropUnreferenced]
    rw [get?_retain]
    simp
  have backed : ∀ stored : SessionSnapshot, registry.Backed stored →
      (∀ reference, stored.captured = some reference → reference ∈ registry.references) →
        registry.dropUnreferenced.Backed stored := by
    intro stored before _ reference refers
    obtain ⟨streams, found⟩ := before reference refers
    simp_all
  refine ⟨⟨?_, sameMaximum.trans sound.maximumBytes_eq, ?_, ?_, ?_, ?_, ?_⟩, ?_⟩
  · grind [total, dropUnreferenced]
  · dsimp only [dropUnreferenced]
    have bound := sound.bounded
    omega
  · intro reference streams found
    exact sound.faithful reference streams ((kept reference streams).mp found).1
  · intro id stored found
    refine backed stored (sound.sessions id stored found) ?_
    intro reference refers
    exact mem_references.mpr (.inl ⟨id, stored, found, refers⟩)
  · intro stored member
    refine backed stored (sound.held stored member) ?_
    intro reference refers
    exact mem_references.mpr (.inr ⟨stored, member, refers⟩)
  · intro reference streams found
    exact sound.below reference streams ((kept reference streams).mp found).1
  · intro reference streams found
    exact ((kept reference streams).mp found).2

theorem sound_run (historyLimit maximumCapturedBytes : Nat) (calls : List Call) :
    ((machine historyLimit maximumCapturedBytes).run calls).Sound maximumCapturedBytes ∧
      ((machine historyLimit maximumCapturedBytes).run calls).Live := by
  refine @Machine.invariant_run _ _ (machine historyLimit maximumCapturedBytes)
    (fun registry => registry.Sound maximumCapturedBytes ∧ registry.Live) ?_ ?_ _
  · refine ⟨⟨rfl, rfl, Nat.zero_le _, ?_, ?_, ?_, ?_⟩, ?_⟩
    · exact fun _ _ found => nomatch found
    · exact fun _ _ found => nomatch found
    · exact fun _ member => nomatch member
    · exact fun _ _ found => nomatch found
    · exact fun _ _ found => nomatch found
  · rintro registry call ⟨sound, -⟩
    exact sound_dropUnreferenced (sound_perform sound call)

/-- The captured streams of a registry in one state. -/
structure CapturesExactly (registry : SessionRegistry) (maximum : Nat) : Prop where
  /-- A stream is the stored parts of the blocks offered to it, in order. -/
  stored : ∀ reference streams, registry.streams.get? reference = some streams → ∀ direction,
    (streams.stream direction).toVec = storedOf (offeredTo direction streams.arrivals)
  /-- Up to the first block that is cut off, this is a prefix of what was offered. -/
  untilTruncation : ∀ reference streams, registry.streams.get? reference = some streams →
    ∀ direction first later, offeredTo direction streams.arrivals = first ++ later →
      (∀ block ∈ first.dropLast, block.2 = block.1.length) →
        storedOf first <+: bytesOf (offeredTo direction streams.arrivals) ∧
          storedOf first <+: (streams.stream direction).toVec
  /-- The packets divide the stream into consecutive ranges. -/
  packets : ∀ reference streams, registry.streams.get? reference = some streams → ∀ direction,
    Covers 0 (streams.capturedPackets.forDirection direction) (streams.stream direction).toVec.length
  limited : ∀ reference streams, registry.streams.get? reference = some streams → ∀ direction,
    (streams.stream direction).toVec.length ≤ capturedStreamPrefixLimit
  /-- The budget counts what the streams have reserved. -/
  used : registry.capturedBytesBudget.usedBytes = registry.streams.total reservedBytes
  bounded : registry.capturedBytesBudget.usedBytes ≤ maximum
  /-- The streams are those that sessions and held snapshots refer to. -/
  live : ∀ reference, (∃ streams, registry.streams.get? reference = some streams) ↔
    reference ∈ registry.references

theorem Sound.capturesExactly (sound : registry.Sound maximum) (live : registry.Live) :
    registry.CapturesExactly maximum where
  stored := fun reference streams found => (sound.faithful reference streams found).toVec_eq
  untilTruncation := by
    intro reference streams found direction _ _ split whole
    have vec := (sound.faithful reference streams found).toVec_eq direction
    rw [split] at vec ⊢
    refine ⟨?_, ?_⟩
    · have complete := storedOf_prefix whole
      rw [bytesOf, flatMap_append]
      exact complete.trans (prefix_append _ _)
    · rw [vec, storedOf, storedOf, flatMap_append]
      exact prefix_append _ _
  packets := by
    intro reference streams found direction
    have faithful := sound.faithful reference streams found
    rw [← (faithful.consistent direction).length_eq]
    exact faithful.covers direction
  limited := by
    intro reference streams found direction
    have faithful := sound.faithful reference streams found
    rw [← (faithful.consistent direction).length_eq]
    exact faithful.length_le direction
  used := sound.used
  bounded := sound.bounded
  live := by
    intro reference
    constructor
    · rintro ⟨streams, found⟩
      exact live reference streams found
    · intro referred
      rcases mem_references.mp referred with ⟨id, stored, found, refers⟩ | ⟨stored, isHeld, refers⟩
      · exact sound.sessions id stored found reference refers
      · exact sound.held stored isHeld reference refers

/-- In every run the captured streams hold what was offered to them, the budget counts the
bytes that live streams have reserved, and these stay within the maximum. -/
theorem capturesExactly_run (historyLimit maximumCapturedBytes : Nat) (calls : List Call) :
    ((machine historyLimit maximumCapturedBytes).run calls).CapturesExactly maximumCapturedBytes := by
  obtain ⟨sound, live⟩ := sound_run historyLimit maximumCapturedBytes calls
  exact sound.capturesExactly live

end SessionRegistry

end SprakCapture.Socks5
