import SprakCapture.Client.QueuedUdpTargets

/-!
# Redirected datagrams and their targets

Datagrams are paired with stored targets by position alone. `delivered_own` says for which runs
this never takes the target of another datagram: the targets of lost datagrams have expired when
the next datagram of the peer arrives, and no datagram arrives after its own target while one of
a later datagram lives.
-/

namespace SprakCapture.Client

open Data Data.IpText Data.Pairing List QueuedUdpTargets TransparentUdp Data.IpText.IpAddr AcceptedDatagram

/-! ### Keys of peers -/

theorem isDigit_of_mem_decimal {number : Nat} {char : Char}
    (member : char ∈ decimal number) : char.isDigit = true := by
  rw [decimal, show toString number = number.repr from rfl, Nat.toList_repr] at member
  exact Nat.isDigit_of_mem_toDigits (by decide) (by decide) member

variable {first second : Nat}

theorem decimal_injective (same : decimal first = decimal second) :
    first = second := by
  have digits : Nat.toDigits 10 first = Nat.toDigits 10 second := by
    rw [← Nat.toList_repr, ← Nat.toList_repr]
    exact same
  have value := congrArg (Nat.ofDigitChars 10 · 0) digits
  simpa only [Nat.ofDigitChars_ten_toDigits] using value

/-- A number ends where its digits do. -/
theorem decimal_append_inj {mark : Char} (noDigit : mark.isDigit = false) {left right : List Char}
    (same : decimal first ++ mark :: left = decimal second ++ mark :: right) :
    first = second ∧ left = right := by
  have digits (number : Nat) (rest : List Char) :
      (decimal number ++ mark :: rest).takeWhile Char.isDigit = decimal number := by
    rw [takeWhile_append_of_pos fun _ => isDigit_of_mem_decimal]
    simp [noDigit]
  have equal : decimal first = decimal second := by
    rw [← digits first left, same, digits]
  rw [equal] at same
  exact ⟨decimal_injective equal, List.cons.inj (append_cancel_left same) |>.2⟩

theorem addressKey_injective {first second : SocketAddress}
    (same : addressKey first = addressKey second) : first = second := by
  obtain ⟨firstAddress, _⟩ := first
  obtain ⟨secondAddress, _⟩ := second
  simp only [addressKey, formatIpv4, append_assoc] at same
  obtain ⟨_, same⟩ := decimal_append_inj (by decide) same
  obtain ⟨_, same⟩ := decimal_append_inj (by decide) same
  obtain ⟨_, same⟩ := decimal_append_inj (by decide) same
  obtain ⟨_, same⟩ := decimal_append_inj (by decide) same
  have ports := decimal_injective same
  have addresses : firstAddress = secondAddress := UInt32.toNat_inj.mp (by omega)
  rw [addresses, UInt16.toNat_inj.mp ports]

/-- The key of a peer with its scope. -/
def TransparentPeer.key (peer : TransparentPeer) : List Char :=
  QueuedUdpTargets.peerKey peer.selected peer.address

theorem key_injective {first second : TransparentPeer} (same : first.key = second.key) :
    first = second := by
  obtain ⟨_, _⟩ := first
  obtain ⟨_, _⟩ := second
  grind [TransparentPeer.key, QueuedUdpTargets.peerKey, addressKey_injective]

/-! ### What a call does to a queue -/

variable {packet : QueuedUdpPacket} {now : Nat} {selected : Bool}

namespace QueuedUdpTargets

variable (state : QueuedUdpTargets)

@[simp] theorem queue_withQueue (key other : List Char) (stored : List QueuedUdpTarget)
    (count : Nat) :
    (state.withQueue key stored count).queue other =
      if other = key then stored else state.queue other := by
  rw [queue, withQueue, Table.get?_insert]
  split <;> rfl

theorem queue_pruneAll (now : Nat) (key : List Char) :
    (state.pruneAll now).queue key = (state.queue key).dropWhile (·.expired now) := by
  rw [queue, pruneAll, Table.get?_retain, Table.get?_mapValues, queue]
  cases state.targets.get? key with
  | none => rfl
  | some =>
    grind

theorem queue_sweep (now : Nat) (key : List Char) :
    (state.sweep now).queue key = state.queue key ∨
      (state.sweep now).queue key = (state.queue key).dropWhile (·.expired now) := by
  grind [sweep, queue_pruneAll]

/-- Pruning twice is pruning once. -/
theorem dropWhile_queue_sweep (now : Nat) (key : List Char) :
    ((state.sweep now).queue key).dropWhile (·.expired now) =
      (state.queue key).dropWhile (·.expired now) := by
  rcases queue_sweep state now key with same | pruned
  · rw [same]
  · rw [pruned, dropWhile_idempotent]

/-- The targets of another key at most expire when a target is stored. -/
theorem queue_store_other (packet : QueuedUdpPacket) (selected : Bool) (now : Nat) {key : List Char}
    (other : key ≠ peerKey selected packet.source) :
    (state.store packet selected now).2.queue key = state.queue key ∨
      (state.store packet selected now).2.queue key =
        (state.queue key).dropWhile (·.expired now) := by
  grind [store, queue_sweep, queue_withQueue]

/-- A refused target leaves the targets of the peer, of which some may expire. -/
theorem queue_store_refused {state : QueuedUdpTargets}
    (refused : (state.store packet selected now).1 = false) :
    (state.store packet selected now).2.queue (peerKey selected packet.source) =
        state.queue (peerKey selected packet.source) ∨
      (state.store packet selected now).2.queue (peerKey selected packet.source) =
        (state.queue (peerKey selected packet.source)).dropWhile (·.expired now) := by
  unfold store at refused ⊢
  dsimp only at refused ⊢
  split
  · exact .inl rfl
  split
  · exact queue_sweep state now _
  split
  · right
    rw [queue_withQueue, if_pos rfl, dropWhile_queue_sweep]
  simp_all

theorem queue_store_accepted {state : QueuedUdpTargets}
    (accepted : (state.store packet selected now).1 = true) :
    (state.store packet selected now).2.queue (peerKey selected packet.source) =
      (state.queue (peerKey selected packet.source)).dropWhile (·.expired now) ++
        [{ target := packet.target, expiry := now + queuedUdpTargetLifetime }] := by
  grind [store, queue_withQueue, dropWhile_queue_sweep]

/-- The first target that has not expired is taken. -/
theorem queue_take (selected : Bool) (peer : SocketAddress) (now : Nat) (key : List Char) :
    (state.take selected peer now).1 =
        ((state.queue (peerKey selected peer)).dropWhile (·.expired now)).head?.map (·.target) ∧
      (state.take selected peer now).2.queue key =
        if key = peerKey selected peer then
          ((state.queue (peerKey selected peer)).dropWhile (·.expired now)).tail
        else state.queue key := by
  have erased (count : Nat) : queue { state with
      targets := state.targets.erase (peerKey selected peer), count } key =
        if key = peerKey selected peer then [] else state.queue key := by
    rw [queue, Table.get?_erase]
    split <;> rfl
  unfold take
  cases found : state.targets.get? (peerKey selected peer) with
  | none =>
    have empty : state.queue (peerKey selected peer) = [] := by rw [queue, found]; rfl
    simp_all
  | some stored =>
    have isQueue : state.queue (peerKey selected peer) = stored := by rw [queue, found]; rfl
    grind [queue_withQueue]

end QueuedUdpTargets

/-! ### Pairing -/

/-- The target of a datagram was not cleared. -/
def AcceptedDatagram.Held (datagram : AcceptedDatagram) : Prop := datagram.cleared = false

/-- The target of a datagram may no longer be stored at a time. -/
def AcceptedDatagram.Gone (time : Nat) (datagram : AcceptedDatagram) : Prop :=
  datagram.cleared = true ∨ datagram.queued.expiry ≤ time

instance (time : Nat) (datagram : AcceptedDatagram) : Decidable (datagram.Gone time) :=
  inferInstanceAs (Decidable (_ ∨ _))

/-- A datagram arrives in time behind lost ones: their targets have expired or were cleared, and
its own target is stored and at no reading of the clock has expired, or else all targets of
later datagrams have expired or were cleared. -/
def ArrivesInTime (latest now : Nat) (earlier : List AcceptedDatagram) :
    List AcceptedDatagram → Prop
  | [] => True
  | datagram :: later =>
    (∀ other ∈ earlier, other.Gone now) ∧
      (¬ datagram.Gone (max latest now) ∨ ∀ other ∈ later, other.Gone now)

instance (latest now : Nat) (earlier : List AcceptedDatagram) :
    ∀ waiting, Decidable (ArrivesInTime latest now earlier waiting)
  | [] => isTrue trivial
  | _ :: _ => inferInstanceAs (Decidable (_ ∧ _))

/-- The datagram that is delivered arrives in time. -/
def DeliversInTime (state : TransparentUdp) : TransparentAction → Prop
  | .deliver peer now =>
    ArrivesInTime state.latest now ((state.outstanding peer).takeWhile (·.lost))
      ((state.outstanding peer).dropWhile (·.lost))
  | _ => True

instance (state : TransparentUdp) : ∀ action, Decidable (DeliversInTime state action)
  | .deliver _ _ => inferInstanceAs (Decidable (ArrivesInTime _ _ _ _))
  | .setRunning _ => isTrue trivial
  | .setAccepting _ => isTrue trivial
  | .closeActiveSessions => isTrue trivial
  | .processMessage _ _ _ => isTrue trivial
  | .lose _ _ => isTrue trivial

/-- The queue of each peer remembers its last outstanding datagrams, and what was taken so far
belonged to the datagram that arrived. -/
structure Paired (state : TransparentUdp) : Prop where
  remembers : ∀ peer, Remembers (·.queued) AcceptedDatagram.Held
    (AcceptedDatagram.Gone state.latest) (state.outstanding peer) (state.runtime.queue peer.key)
  targets : ∀ peer, ∀ datagram ∈ state.outstanding peer,
    datagram.queued.target = originalDestination datagram.payload
  own : ∀ delivery ∈ state.delivered, ∀ target, delivery.2 = some target →
    target = originalDestination delivery.1

theorem paired_initial : Paired transparentUdp.initial where
  remembers _ := remembers_nil
  targets _ _ member := nomatch member
  own _ member := nomatch member

variable {state : TransparentUdp} {datagram : AcceptedDatagram}

theorem gone_of_expired (expired : datagram.queued.expired now) :
    datagram.Gone (max state.latest now) :=
  .inr (Nat.le_trans (of_decide_eq_true expired) (Nat.le_max_right _ _))

theorem Gone.mono (later : first ≤ second) (gone : datagram.Gone first) : datagram.Gone second :=
  gone.imp id fun expired => Nat.le_trans expired later

theorem remembers_pruned (now : Nat) {peer : TransparentPeer} {queue : List QueuedUdpTarget}
    (paired : Paired state) (changed : queue = state.runtime.queue peer.key ∨
      queue = (state.runtime.queue peer.key).dropWhile (·.expired now)) :
    Remembers (·.queued) Held (Gone (max state.latest now)) (state.outstanding peer) queue := by
  have later := (paired.remembers peer).mono fun _ => Gone.mono (Nat.le_max_left state.latest now)
  rcases changed with same | pruned
  · rw [same]
    exact later
  · rw [pruned]
    exact later.prune fun _ _ => gone_of_expired

theorem target_of_parseIpv4Udp {payload : Bytes} (parsed : parseIpv4Udp payload = some packet) :
    packet.target = originalDestination payload := by
  unfold parseIpv4Udp at parsed
  dsimp only at parsed
  split at parsed
  · cases parsed
  split at parsed
  · cases parsed
  split at parsed
  · cases parsed
  · cases parsed
    rfl

theorem paired_processMessage (paired : Paired state) (selected : Bool) (payload : Bytes)
    (now : Nat) : Paired (state.processMessage selected payload now) := by
  unfold processMessage
  split
  · exact paired
  rename_i packet parsed
  let peer : TransparentPeer := { selected, address := packet.source }
  have others : ∀ other, other ≠ peer → Remembers (·.queued) Held
      (Gone (max state.latest now)) (state.outstanding other)
      ((state.runtime.store packet selected now).2.queue other.key) := by
    intro other apart
    refine remembers_pruned now paired (queue_store_other _ _ _ _ fun same => ?_)
    exact apart (key_injective same)
  dsimp only
  split
  · rename_i accepted
    refine ⟨fun other => ?_, fun other datagram member => ?_, paired.own⟩
    · by_cases same : other = peer
      · subst same
        have stored : (state.runtime.store packet selected now).2.queue peer.key = _ :=
          queue_store_accepted accepted
        change Remembers _ _ _ (if peer = peer then _ else _)
          ((state.runtime.store packet selected now).2.queue peer.key)
        rw [if_pos rfl, stored]
        exact (remembers_pruned now paired (.inr rfl)).push rfl
      · simpa [withOutstanding, peer, same] using others other same
    · by_cases same : other = peer
      · subst same
        simp only [withOutstanding, peer, if_true, mem_append, mem_singleton] at member
        rcases member with before | rfl
        · exact paired.targets _ datagram before
        · exact target_of_parseIpv4Udp parsed
      · refine paired.targets other datagram ?_
        simpa [withOutstanding, peer, same] using member
  · rename_i refused
    refine ⟨fun other => ?_, paired.targets, paired.own⟩
    by_cases same : other = peer
    · subst same
      exact remembers_pruned now paired (queue_store_refused (Bool.eq_false_iff.mpr refused))
    · exact others other same

theorem paired_lose (paired : Paired state) (peer : TransparentPeer) (index : Nat) :
    Paired (state.lose peer index) := by
  refine ⟨fun other => ?_, fun other datagram member => ?_, paired.own⟩
  · by_cases same : other = peer
    · subst same
      have kept := (paired.remembers other).modify
        (fun datagram => { datagram with lost := true }) (fun _ => rfl) (fun _ => id)
        (fun _ => id) index
      simpa [lose, withOutstanding] using kept
    · simpa [lose, withOutstanding, same] using paired.remembers other
  · by_cases same : other = peer
    · subst same
      simp only [lose, withOutstanding, if_true] at member
      exact forall_modify (fun datagram => { datagram with lost := true }) (fun _ same => same)
        (paired.targets other) index datagram member
    · refine paired.targets other datagram ?_
      simpa [lose, withOutstanding, same] using member

theorem paired_deliver (paired : Paired state) {peer : TransparentPeer}
    (inTime : DeliversInTime state (.deliver peer now)) : Paired (state.deliver peer now) := by
  unfold deliver
  split
  · exact paired
  rename_i datagram later isFirst
  simp only [DeliversInTime, isFirst] at inTime
  have split : state.outstanding peer =
      (state.outstanding peer).takeWhile (·.lost) ++ datagram :: later := by
    rw [← isFirst, takeWhile_append_dropWhile]
  have gone {time : Nat} {other : AcceptedDatagram} (held : other.Held)
      (isGone : other.Gone time) : other.queued.expired time = true := by
    rcases isGone with cleared | expired
    · rw [held] at cleared
      cases cleared
    · exact decide_eq_true expired
  have fresh : ¬ datagram.Gone (max state.latest now) ∨ (∀ other ∈ later, other.Gone now) →
      (¬ datagram.Gone (max state.latest now) ∧ datagram.queued.expired now = false) ∨
        ∀ other ∈ later, other.Held → other.queued.expired now := by
    grind [gone_of_expired]
  obtain ⟨own, rest⟩ := (remembers_pruned now paired (.inl rfl)).take_arrived (·.expired now) split
    (fun other member held => gone held (inTime.1 other member)) (fresh inTime.2)
    fun _ _ => gone_of_expired
  have member : datagram ∈ state.outstanding peer := by
    rw [split]
    simp
  have took : ∀ key, (state.runtime.take peer.selected peer.address now).1 = _ ∧
      (state.runtime.take peer.selected peer.address now).2.queue key =
        if key = peer.key then ((state.runtime.queue peer.key).dropWhile (·.expired now)).tail
        else state.runtime.queue key :=
    queue_take state.runtime peer.selected peer.address now
  refine ⟨fun other => ?_, fun other entry isEntry => ?_,
    fun delivery isDelivery target found => ?_⟩
  · change Remembers _ _ _ (if other = peer then _ else _)
      ((state.runtime.take peer.selected peer.address now).2.queue other.key)
    rw [(took other.key).2]
    by_cases same : other = peer
    · subst same
      rw [if_pos rfl, if_pos rfl]
      exact rest
    · rw [if_neg same, if_neg fun keys => same (key_injective keys)]
      exact remembers_pruned now paired (.inl rfl)
  · by_cases same : other = peer
    · simp only [withOutstanding] at isEntry
      refine paired.targets other entry ?_
      grind
    · refine paired.targets other entry ?_
      simpa [withOutstanding, same] using isEntry
  · rcases mem_append.mp isDelivery with before | isNew
    · exact paired.own delivery before target found
    rw [mem_singleton.mp isNew] at found ⊢
    obtain ⟨queued, isQueued, rfl⟩ :=
      Option.map_eq_some_iff.mp ((took peer.key).1.symm.trans found)
    rw [own queued isQueued]
    exact paired.targets peer datagram member

theorem paired_step {action : TransparentAction} (paired : Paired state)
    (inTime : DeliversInTime state action) : Paired (transparentUdp.step state action) := by
  cases action with
  | setRunning | setAccepting => exact ⟨paired.remembers, paired.targets, paired.own⟩
  | closeActiveSessions =>
    refine ⟨fun peer => ?_, fun peer datagram member => ?_, paired.own⟩
    · refine remembers_nothing fun datagram member => ?_
      obtain ⟨old, -, rfl⟩ := List.mem_map.mp member
      exact .inl rfl
    · obtain ⟨old, isOld, rfl⟩ := List.mem_map.mp member
      exact paired.targets peer old isOld
  | processMessage selected payload now => exact paired_processMessage paired selected payload now
  | lose peer index => exact paired_lose paired peer index
  | deliver peer now => exact paired_deliver paired inTime

/-- The headers of a datagram from port 1000 of 10.0.0.1 to port 53 of an address. -/
def sampleDatagram (lastOctet : UInt8) : Bytes :=
  [0x45, 0, 0, 28, 0, 0, 0, 0, 64, 17, 0, 0, 10, 0, 0, 1, 8, 8, 8, lastOctet,
    3, 232, 0, 53, 0, 8, 0, 0]

def samplePeer : TransparentPeer := ⟨false, ⟨10 * 16777216 + 1, 1000⟩⟩

/-- The count is that of the stored targets, and the limits hold. -/
structure QueuedUdpTargets.Bounded (state : QueuedUdpTargets) : Prop where
  counted : state.count = state.targets.total length
  limited : state.count ≤ maximumQueuedUdpTargets
  queues : ∀ key queue, state.targets.get? key = some queue →
    queue ≠ [] ∧ queue.length ≤ maximumQueuedUdpTargetsPerPeer

namespace QueuedUdpTargets

variable {state : QueuedUdpTargets}

theorem bounded_empty {running accepting : Bool} : Bounded ⟨running, accepting, ∅, 0⟩ where
  counted := rfl
  limited := Nat.zero_le _
  queues key queue found := by simp at found

/-- One queue is replaced, and leaves the table if it is empty. -/
theorem bounded_replace {after : QueuedUdpTargets} (inv : state.Bounded) (key : List Char)
    (queue : List QueuedUdpTarget)
    (stored : after.targets = QueueTable.store state.targets key queue)
    (short : queue.length ≤ maximumQueuedUdpTargetsPerPeer)
    (counted : after.count + (state.queue key).length = state.count + queue.length)
    (limited : after.count ≤ maximumQueuedUdpTargets) : after.Bounded := by
  have replaced := QueueTable.total_store state.targets key queue length_nil
  have before := inv.counted
  refine ⟨?_, limited, fun other kept found => ?_⟩
  · rw [stored]
    rw [QueuedUdpTargets.queue] at counted
    omega
  · have keptBefore := inv.queues other kept
    grind [QueueTable.store]

theorem targets_withQueue {key : List Char} {queue : List QueuedUdpTarget} {count : Nat}
    (nonempty : queue ≠ []) :
    (state.withQueue key queue count).targets = QueueTable.store state.targets key queue :=
  (if_neg (by simpa using nonempty)).symm

theorem length_queue_le (inv : state.Bounded) (key : List Char) :
    (state.queue key).length ≤ maximumQueuedUdpTargetsPerPeer ∧
      (state.queue key).length ≤ state.count := by
  rw [queue, inv.counted]
  cases found : state.targets.get? key with
  | none => exact ⟨Nat.zero_le _, Nat.zero_le _⟩
  | some stored =>
    refine ⟨(inv.queues key stored found).2, ?_⟩
    rw [Table.total_eq_of_get? length found]
    exact Nat.le_add_right _ _

theorem bounded_sweep (inv : state.Bounded) (now : Nat) : (state.sweep now).Bounded := by
  unfold sweep
  split
  swap
  · exact inv
  let pruned := state.targets.mapValues fun queue => queue.dropWhile (·.expired now)
  have fewer : pruned.total length ≤ state.targets.total length := by
    rw [Table.total_mapValues]
    exact QueueTable.total_le_total _ fun queue => (dropWhile_suffix _).length_le
  have divided := pruned.total_retain_add (fun _ queue => !queue.isEmpty) length
  have nothing : (pruned.retain fun _ queue => !!queue.isEmpty).total length = 0 := by
    refine sum_eq_zero (forall_mem_map.mpr fun queue member => ?_)
    obtain ⟨key, found⟩ := Table.mem_values.mp member
    rw [Table.get?_retain] at found
    simpa using (Option.filter_eq_some_iff.mp found).2
  have counted := inv.counted
  have limited := inv.limited
  refine ⟨?_, Nat.le_trans (Nat.sub_le _ _) limited, fun key queue found => ?_⟩
  · change _ - (_ - pruned.total length) = (pruned.retain _).total length
    omega
  · rw [pruneAll, Table.get?_retain, Table.get?_mapValues] at found
    cases stored : state.targets.get? key with
    | none => simp [stored] at found
    | some before =>
      have short := (inv.queues key before stored).2
      have shorter := (dropWhile_suffix (l := before) (·.expired now)).length_le
      grind

theorem bounded_store (inv : state.Bounded) (packet : QueuedUdpPacket) (selected : Bool)
    (now : Nat) : (state.store packet selected now).2.Bounded := by
  have swept := bounded_sweep inv now
  unfold store
  dsimp only
  split
  · exact inv
  generalize state.sweep now = state at swept
  generalize peerKey selected packet.source = key
  obtain ⟨short, held⟩ := length_queue_le swept key
  have limited := swept.limited
  have shorter := (dropWhile_suffix (l := state.queue key) (·.expired now)).length_le
  split
  · exact swept
  split
  · rename_i full
    have nonempty := ne_nil_of_length_pos (Nat.lt_of_lt_of_le (by decide) full)
    apply bounded_replace swept key _ (targets_withQueue nonempty)
    all_goals grind [withQueue]
  · apply bounded_replace swept key _ (targets_withQueue (by simp))
    all_goals grind [withQueue]

theorem bounded_take (inv : state.Bounded) (selected : Bool) (peer : SocketAddress) (now : Nat) :
    (state.take selected peer now).2.Bounded := by
  unfold take
  generalize peerKey selected peer = key
  obtain ⟨short, held⟩ := length_queue_le inv key
  have limited := inv.limited
  dsimp only
  split
  · exact inv
  rename_i stored found
  have isQueue : state.queue key = stored := by rw [queue, found]; rfl
  have shorter := (dropWhile_suffix (l := stored) (·.expired now)).length_le
  rw [isQueue] at short held
  split
  · apply bounded_replace inv key [] rfl
    all_goals grind
  · apply bounded_replace inv key [] rfl
    all_goals grind
  · apply bounded_replace inv key _ (targets_withQueue (cons_ne_nil _ _))
    all_goals grind [withQueue]

end QueuedUdpTargets

theorem bounded_step (bounded : state.runtime.Bounded) (action : TransparentAction) :
    (transparentUdp.step state action).runtime.Bounded := by
  cases action with
  | setRunning | setAccepting => exact ⟨bounded.counted, bounded.limited, bounded.queues⟩
  | closeActiveSessions => exact bounded_empty
  | processMessage selected payload now =>
    change (state.processMessage selected payload now).runtime.Bounded
    unfold processMessage
    split
    · exact bounded
    rename_i packet _
    have stored := bounded_store bounded packet selected now
    dsimp only
    split
    · exact stored
    · exact stored
  | lose peer index => exact bounded
  | deliver peer now =>
    change (state.deliver peer now).runtime.Bounded
    unfold deliver
    split
    · exact bounded
    · exact bounded_take bounded peer.selected peer.address now

/-- In every run the count is that of the stored targets, so it never falls below zero, and there
are no more of them than the limits allow. -/
theorem bounded_run (actions : List TransparentAction) :
    (transparentUdp.run actions).runtime.Bounded := by
  have preserved : ∀ (state : TransparentUdp) (action : TransparentAction),
      state.runtime.Bounded → (transparentUdp.step state action).runtime.Bounded :=
    fun _ action bounded => bounded_step bounded action
  exact Machine.invariant_run bounded_empty preserved actions

end SprakCapture.Client
