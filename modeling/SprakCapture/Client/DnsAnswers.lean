import SprakCapture.Client.DnsForwarding

/-!
# Answers to DNS queries

A query is at one place at most: it waits at a server, it is to be sent to the next one, or it
was answered. `Forwarding` keeps this count for every query, together with what is known of a
query at each place, and `dnsForwarding_answersOnce` is what follows for the client.
-/

namespace SprakCapture.Client

open Data List Data.QueueTable UdpPeerSession Table

/-! ### The port of a DNS server -/

variable {reader after : DnsReader} {inet : InetPton}

section

variable (ports : ∀ server ∈ reader.servers, server.port = 53)
include ports

theorem readServer_ports {line : Bytes} (read : reader.readServer inet line = .ok after) :
    ∀ server ∈ after.servers, server.port = 53 := by
  unfold DnsReader.readServer at read
  split at read
  · cases read
  split at read
  · cases read
  dsimp only at read
  split at read
  · cases read
  split at read
  · cases read
  cases read
  intro server member
  split at member
  · rcases mem_cons.mp member with rfl | before
    · rfl
    · exact ports server before
  · rcases mem_append.mp member with before | isNew
    · exact ports server before
    · rw [mem_singleton.mp isNew]

theorem readLine_ports {line : Bytes} (read : reader.readLine inet line = .ok after) :
    ∀ server ∈ after.servers, server.port = 53 := by
  grind [DnsReader.readLine, DnsReader.readHeader, readServer_ports]

theorem readLines_ports {lines : List Bytes}
    (read : lines.foldlM (DnsReader.readLine inet) reader = .ok after) :
    ∀ server ∈ after.servers, server.port = 53 := by
  induction lines generalizing reader with
  | nil =>
    cases read
    exact ports
  | cons _ lines ih =>
    obtain ⟨_, first, rest⟩ := Data.Checked.bind_eq_ok.mp read
    exact ih (readLine_ports ports first) rest

end

theorem parseDnsServers_ports {routingText : Bytes} {servers : List Endpoint}
    (parsed : parseDnsServers inet routingText = .ok servers) :
    ∀ server ∈ servers, server.port = 53 := by
  unfold parseDnsServers at parsed
  split at parsed
  · cases parsed
  · obtain ⟨_, _, _⟩ := Data.Checked.bind_eq_ok.mp parsed
    grind [readLines_ports]

variable (entry : Bytes × TargetAddress) {target : TargetAddress} {pending : PendingDns}
  {delivery : Delivery}

namespace UdpPeerSession

/-! ### Where queries are -/

/-- The places at which a query is. -/
def places (session : UdpPeerSession) (serial : Nat) : Nat :=
  session.pendingDns.count (fun pending => pending.serial = serial) +
    session.retries.countP (fun retry => retry.serial = serial) +
    session.delivered.countP fun delivery => delivery.answers.map Prod.fst = some serial

/-- What is known of a query that waits for the server of an endpoint. -/
structure Waits (keys : AddressKeys) (servers : List Endpoint) (session : UdpPeerSession)
    (key : String) (pending : PendingDns) : Prop where
  asked : session.queries[pending.serial]? = some (pending.query, pending.responseTarget)
  server : ∃ server, servers[pending.serverIndex]? = some server ∧ keys.key server = some key
  isOpen : ∃ channel, session.directChannels.get? key = some channel ∧
    channel.descriptor = pending.channel
  current : ∀ index, (pending.serial, index) ∈ session.moved → index < pending.serverIndex

/-- What is known of a datagram that the client was sent. -/
structure Sound (keys : AddressKeys) (servers : List Endpoint) (session : UdpPeerSession)
    (delivery : Delivery) : Prop where
  answer : ∀ serial index, delivery.answers = some (serial, index) →
    ∃ query, session.queries[serial]? = some (query, delivery.target) ∧
      Answers query delivery.payload ∧
      (∃ server key, servers[index]? = some server ∧ keys.key server = some key ∧
        delivery.source = .direct key) ∧
      ∀ other, (serial, other) ∈ session.moved → other < index
  unmatched : ∀ key, delivery.answers = none → delivery.source = .direct key →
    delivery.target.port ≠ 53 ∧ ∀ server ∈ servers, keys.key server ≠ some key

/-- What holds of a session in every run. -/
structure Forwarding (keys : AddressKeys) (servers : List Endpoint) (session : UdpPeerSession) :
    Prop where
  once : ∀ serial, session.places serial ≤ 1
  fresh : ∀ serial, session.queries.length ≤ serial → session.places serial = 0
  waits : ∀ key index pending, pending ∈ session.pendingDns.queue key index →
    session.Waits keys servers key pending
  retried : ∀ retry ∈ session.retries,
    session.queries[retry.serial]? = some (retry.query, retry.target) ∧
      ∀ index, (retry.serial, index) ∈ session.moved → index < retry.serverIndex
  sound : ∀ delivery ∈ session.delivered, session.Sound keys servers delivery
  moved : ∀ serial index, (serial, index) ∈ session.moved → serial < session.queries.length
  keyed : ∀ key channel, session.directChannels.get? key = some channel →
    keys.key channel.responseTarget = some key
  polled : ∀ channel ∈ session.channels, keys.key channel.target = some channel.key
  pendingBound : ∀ key, session.pendingDns.rowCount key ≤ maximumQueuedPeerDatagrams
  channelBound : session.directChannels.size ≤ maximumDirectUdpTargetsPerPeer

theorem forwarding_new (keys : AddressKeys) (servers : List Endpoint) :
    new.Forwarding keys servers where
  once := fun _ => Nat.zero_le _
  fresh := fun _ _ => rfl
  waits := by
    intro _ _ _ member
    rw [new, queue_empty] at member
    cases member
  retried := nofun
  sound := nofun
  moved := nofun
  keyed := by
    nofun
  polled := nofun
  pendingBound := fun _ => Nat.zero_le _
  channelBound := Nat.zero_le _

variable {keys : AddressKeys} {servers : List Endpoint} {session : UdpPeerSession}

/-! ### Channels -/

/-- A victim comes from the list or was the victim before, and no query waits on it. -/
theorem findVictim_spec {candidates : List (String × DirectChannel)}
    {victim : Option (String × DirectChannel)} {found : String × DirectChannel}
    (idle : ∀ best, victim = some best → session.isBusy best.1 = false)
    (isFound : session.findVictim candidates victim = some found) :
    session.isBusy found.1 = false ∧ (found ∈ candidates ∨ victim = some found) := by
  induction candidates generalizing victim with
  | nil => exact ⟨idle found isFound, .inr isFound⟩
  | cons candidate rest ih =>
    unfold findVictim at isFound
    split at isFound
    · obtain ⟨notBusy, listed⟩ := ih idle isFound
      exact ⟨notBusy, listed.imp_left (.tail _)⟩
    rename_i candidateIdle
    have idleCandidate : ∀ best, some candidate = some best → session.isBusy best.1 = false := by
      simpa using candidateIdle
    have taken : session.findVictim rest (some candidate) = some found →
        session.isBusy found.1 = false ∧ (found ∈ candidate :: rest ∨ victim = some found) := by
      intro isFound
      obtain ⟨notBusy, listed⟩ := ih idleCandidate isFound
      refine ⟨notBusy, .inl ?_⟩
      rcases listed with listed | same
      · exact .tail _ listed
      · cases same
        exact mem_cons_self
    split at isFound
    · exact taken isFound
    · split at isFound
      · exact taken isFound
      · obtain ⟨notBusy, listed⟩ := ih idle isFound
        exact ⟨notBusy, listed.imp_left (.tail _)⟩

variable {key : String}

theorem queue_of_idle (idle : session.isBusy key = false) (index : Nat) :
    session.pendingDns.queue key index = [] := by
  refine queue_of_row_empty ?_ index
  unfold isBusy at idle
  unfold QueueTable.row
  split at idle
  · simp_all
  · rename_i absent
    rw [absent]
    rfl

/-- The channels of a session change, and those with a query stay. -/
structure Rechannels (keys : AddressKeys) (session after : UdpPeerSession) : Prop where
  same : ∃ directChannels nextDescriptor, after =
    { session with directChannels := directChannels, nextDescriptor := nextDescriptor }
  kept : ∀ key channel, session.directChannels.get? key = some channel →
    (∃ index, session.pendingDns.queue key index ≠ []) →
      ∃ other, after.directChannels.get? key = some other ∧ other.descriptor = channel.descriptor
  keyed : ∀ key channel, after.directChannels.get? key = some channel →
    keys.key channel.responseTarget = some key
  bound : after.directChannels.size ≤ maximumDirectUdpTargetsPerPeer

section

variable (forwarding : session.Forwarding keys servers)
include forwarding

theorem Forwarding.rechannel {after : UdpPeerSession} (rechannels : Rechannels keys session after) :
    after.Forwarding keys servers := by
  obtain ⟨⟨_, _, rfl⟩, kept, keyed, bound⟩ := rechannels
  refine ⟨forwarding.once, forwarding.fresh, ?_, forwarding.retried, ?_, forwarding.moved, keyed,
    forwarding.polled, forwarding.pendingBound, bound⟩
  · intro key index pending member
    have waits := forwarding.waits key index pending member
    obtain ⟨channel, found, descriptor⟩ := waits.isOpen
    obtain ⟨other, stays, same⟩ := kept key channel found ⟨index, ne_nil_of_mem member⟩
    exact ⟨waits.asked, waits.server, ⟨other, stays, same.trans descriptor⟩, waits.current⟩
  · intro delivery member
    have sound := forwarding.sound delivery member
    exact ⟨sound.answer, sound.unmatched⟩

theorem Forwarding.rechannels_refl :
    Rechannels keys session session where
  same := ⟨_, _, rfl⟩
  kept := fun _ channel found _ => ⟨channel, found, rfl⟩
  keyed := forwarding.keyed
  bound := forwarding.channelBound

/-- Room is made at the cost of a channel on which no query waits. -/
theorem Forwarding.ensureDirectUdpCapacity {retired : Bool} {after : UdpPeerSession}
    (ensured : session.ensureDirectUdpCapacity retired = some after) :
    Rechannels keys session after ∧ after.directChannels.size < maximumDirectUdpTargetsPerPeer := by
  unfold UdpPeerSession.ensureDirectUdpCapacity at ensured
  split at ensured
  · rename_i room
    cases ensured
    exact ⟨forwarding.rechannels_refl, room⟩
  split at ensured
  · cases ensured
  rename_i victim isVictim
  split at ensured
  · cases ensured
    obtain ⟨_, listed⟩ := findVictim_spec (fun _ none => by cases none) isVictim
    have isChannel : session.directChannels.get? victim.1 = some victim.2 := by
      rcases listed with listed | impossible
      · exact mem_toList.mp listed
      · cases impossible
    have smaller := size_erase_lt isChannel
    have bound := forwarding.channelBound
    refine ⟨⟨⟨_, _, rfl⟩, ?_, ?_, ?_⟩, by dsimp only; omega⟩
    · rintro key channel found ⟨_, _⟩
      refine ⟨channel, ?_, rfl⟩
      rw [get?_erase, if_neg]
      · exact found
      grind [queue_of_idle]
    · intro key channel found
      rw [get?_erase] at found
      split at found
      · cases found
      · exact forwarding.keyed key channel found
    · dsimp only
      omega
  · cases ensured

theorem Forwarding.openChannel (isKey : keys.key target = some key) (outcome : SocketOutcome) :
    Rechannels keys session (session.openChannel key target outcome).2 ∧
      ∀ channel, (session.openChannel key target outcome).1 = some channel →
        (session.openChannel key target outcome).2.directChannels.get? key = some channel := by
  unfold UdpPeerSession.openChannel
  split
  · rename_i channel found
    refine ⟨forwarding.rechannels_refl, ?_⟩
    rintro other ⟨⟩
    exact found
  · split
    · exact ⟨forwarding.rechannels_refl, nofun⟩
    rename_i room ensured
    obtain ⟨rechannels, _⟩ := forwarding.ensureDirectUdpCapacity ensured
    split
    · refine ⟨⟨?_, ?_, ?_, ?_⟩, ?_⟩
      · obtain ⟨directChannels, _, rfl⟩ := rechannels.same
        exact ⟨_, _, rfl⟩
      · intro other channel found waiting
        obtain ⟨_, _, same⟩ := rechannels.kept other channel found waiting
        grind
      · intro other channel found
        rw [get?_insert] at found
        split at found
        · grind
        · exact rechannels.keyed other channel found
      · rw [size_insert]
        split <;> omega
      simp
    · exact ⟨rechannels, nofun⟩

theorem Forwarding.touch (key : String) (now : Int) :
    (session.touch key now).Forwarding keys servers := by
  refine forwarding.rechannel ⟨⟨_, _, rfl⟩, ?_, ?_, ?_⟩
  · grind [touch]
  · intro other channel found
    unfold UdpPeerSession.touch at found
    rw [get?_modify] at found
    split at found
    · obtain ⟨before, isBefore, rfl⟩ := Option.map_eq_some_iff.mp found
      exact forwarding.keyed other before isBefore
    · exact forwarding.keyed other channel found
  · refine (size_le_of_get? fun {other value} found => ?_).trans forwarding.channelBound
    unfold UdpPeerSession.touch at found
    rw [get?_modify] at found
    split at found
    · obtain ⟨before, isBefore, rfl⟩ := Option.map_eq_some_iff.mp found
      exact ⟨before, isBefore⟩
    · exact ⟨value, found⟩

end

/-! ### Sending -/

theorem places_concat_query (serial : Nat) :
    ({ session with queries := session.queries ++ [entry] } : UdpPeerSession).places serial =
      session.places serial := rfl

section

variable (forwarding : session.Forwarding keys servers)
include forwarding

theorem Forwarding.addQuery :
    ({ session with queries := session.queries ++ [entry] } : UdpPeerSession).Forwarding keys
      servers := by
  have kept : ∀ {serial : Nat} {before : Bytes × TargetAddress},
      session.queries[serial]? = some before →
        (session.queries ++ [entry])[serial]? = some before := by
    intro serial before found
    rw [getElem?_append_left (List.getElem?_eq_some_iff.mp found).1]
    exact found
  refine ⟨forwarding.once, ?_, ?_, ?_, ?_, ?_, forwarding.keyed, forwarding.polled,
    forwarding.pendingBound, forwarding.channelBound⟩
  · intro serial beyond
    refine forwarding.fresh serial ?_
    rw [length_append] at beyond
    omega
  · intro key index pending member
    have waits := forwarding.waits key index pending member
    exact ⟨kept waits.asked, waits.server, waits.isOpen, waits.current⟩
  · intro retry member
    obtain ⟨asked, current⟩ := forwarding.retried retry member
    exact ⟨kept asked, current⟩
  · intro delivery member
    have sound := forwarding.sound delivery member
    refine ⟨fun serial index answers => ?_, sound.unmatched⟩
    obtain ⟨query, asked, rest⟩ := sound.answer serial index answers
    exact ⟨query, kept asked, rest⟩
  · intro serial index member
    have below := forwarding.moved serial index member
    rw [length_append]
    omega

theorem Forwarding.push {index : Nat} (nowhere : session.places pending.serial = 0)
    (waits : session.Waits keys servers key pending)
    (room : session.pendingDns.rowCount key < maximumQueuedPeerDatagrams) :
    ({ session with pendingDns := session.pendingDns.push key index pending } :
      UdpPeerSession).Forwarding keys servers := by
  have counts : ∀ serial, ({ session with
      pendingDns := session.pendingDns.push key index pending } : UdpPeerSession).places serial =
        session.places serial + if pending.serial = serial then 1 else 0 := by
    intro serial
    unfold places
    rw [count_push]
    simp only [decide_eq_true_eq]
    omega
  refine ⟨?_, ?_, ?_, forwarding.retried, ?_, forwarding.moved, forwarding.keyed,
    forwarding.polled, ?_, forwarding.channelBound⟩
  · intro serial
    rw [counts]
    split
    · rename_i same
      rw [← same, nowhere]
    · exact forwarding.once serial
  · intro serial beyond
    rw [counts, forwarding.fresh serial beyond, if_neg]
    rintro rfl
    exact absurd (List.getElem?_eq_some_iff.mp waits.asked).1 (Nat.not_lt.mpr beyond)
  · intro other place item member
    rcases mem_queue_push.mp member with before | ⟨rfl, rfl, rfl⟩
    · have held := forwarding.waits other place item before
      exact ⟨held.asked, held.server, held.isOpen, held.current⟩
    · exact ⟨waits.asked, waits.server, waits.isOpen, waits.current⟩
  · intro delivery member
    have sound := forwarding.sound delivery member
    exact ⟨sound.answer, sound.unmatched⟩
  · intro other
    have pushed := @rowCount_push_le _ _ _ _ _ session.pendingDns key other index pending
    have bound := forwarding.pendingBound other
    refine pushed.trans ?_
    split
    · rename_i same
      subst same
      omega
    · exact bound

/-- A push that is taken back has no effect. -/
theorem Forwarding.pop_push (key : String) (index : Nat) (pending : PendingDns) :
    ({ session with pendingDns := (session.pendingDns.push key index pending).pop key index } :
      UdpPeerSession).Forwarding keys servers := by
  have counts : ∀ serial, ({ session with
      pendingDns := (session.pendingDns.push key index pending).pop key index } :
        UdpPeerSession).places serial = session.places serial := by
    intro serial
    unfold places
    rw [count_pop_push]
  refine ⟨?_, ?_, ?_, forwarding.retried, ?_, forwarding.moved, forwarding.keyed,
    forwarding.polled, ?_, forwarding.channelBound⟩
  · intro serial
    rw [counts]
    exact forwarding.once serial
  · intro serial beyond
    rw [counts]
    exact forwarding.fresh serial beyond
  · intro other place item member
    rw [queue_pop_push] at member
    have held := forwarding.waits other place item member
    exact ⟨held.asked, held.server, held.isOpen, held.current⟩
  · intro delivery member
    have sound := forwarding.sound delivery member
    exact ⟨sound.answer, sound.unmatched⟩
  · intro other
    rw [rowCount_pop_push]
    exact forwarding.pendingBound other

theorem Forwarding.sendDnsUdp (ports : ∀ server ∈ servers, server.port = 53) {serial : Nat}
    {payload : Bytes} {serverIndex : Nat} (nowhere : session.places serial = 0)
    (asked : session.queries[serial]? = some (payload, target))
    (current : ∀ index, (serial, index) ∈ session.moved → index < serverIndex)
    (outcome : SocketOutcome) :
    (sendDnsUdp keys servers session serial target payload serverIndex
      outcome).2.Forwarding keys servers := by
  unfold UdpPeerSession.sendDnsUdp
  split
  · rename_i transaction server isTransaction isServer
    split
    · exact forwarding
    rename_i endpointKey isKey
    split
    · exact forwarding
    have isPort := ports server (mem_of_getElem? isServer)
    have isEndpoint : keys.key ⟨server.host, 53⟩ = some endpointKey := by
      rw [← isPort]
      exact isKey
    obtain ⟨rechannels, opened⟩ := forwarding.openChannel isEndpoint outcome
    have middle := forwarding.rechannel rechannels
    obtain ⟨_, _, same⟩ := rechannels.same
    split
    · simp_all
    rename_i channel after isOpened
    rw [isOpened] at middle opened same
    dsimp only at middle opened same ⊢
    split
    · exact middle
    split
    · refine Forwarding.touch (Forwarding.push middle ?_ ?_ (by omega)) _ _
      · rw [same]
        exact nowhere
      refine ⟨?_, ⟨server, isServer, isKey⟩, ⟨channel, opened channel rfl, rfl⟩, ?_⟩
      · rw [same]
        exact asked
      · rw [same]
        exact current
    · exact Forwarding.pop_push middle _ _ _
  · exact forwarding

theorem Forwarding.sendDirectUdp (target : TargetAddress) (outcome : SocketOutcome) :
    (sendDirectUdp keys session target outcome).Forwarding keys servers := by
  unfold UdpPeerSession.sendDirectUdp
  split
  · exact forwarding
  rename_i endpointKey isKey
  split
  · exact forwarding
  have middle := forwarding.rechannel (forwarding.openChannel isKey outcome).1
  split
  · simp_all
  rename_i channel after isOpened
  rw [isOpened] at middle
  split
  · exact middle.touch _ _
  · exact middle

theorem Forwarding.sendUdp (ports : ∀ server ∈ servers, server.port = 53) (target : TargetAddress)
    (payload : Bytes) (route : UdpRoute) (outcome : SocketOutcome) :
    (sendUdp keys servers session target payload route outcome).Forwarding keys servers := by
  unfold UdpPeerSession.sendUdp
  split
  · exact forwarding
  split
  · refine (forwarding.addQuery (payload, target)).sendDnsUdp ports ?_ ?_ ?_ outcome
    · exact forwarding.fresh _ (Nat.le_refl _)
    · exact getElem?_concat_length
    · intro _ member
      exact absurd (forwarding.moved _ _ member) (Nat.lt_irrefl _)
  split
  · exact forwarding.sendDirectUdp _ outcome
  · exact forwarding

end

/-! ### The reactor -/

/-- Of a kind that is there once at most, two items are the same. -/
theorem eq_of_countP_le_one {Item : Type} {items : List Item} {property : Item → Bool}
    (once : items.countP property ≤ 1) {first second : Item} (isFirst : first ∈ items)
    (isSecond : second ∈ items) (firstHas : property first = true)
    (secondHas : property second = true) : first = second := by
  induction items with
  | nil => cases isFirst
  | cons item items =>
    have later : ∀ {other}, property item = true → other ∈ items → property other = true →
        False := by
      intro other _ member otherHas
      simp_all
    rcases mem_cons.mp isFirst with rfl | firstLater
    · rcases mem_cons.mp isSecond with rfl | secondLater
      · rfl
      · exact (later firstHas secondLater secondHas).elim
    · rcases mem_cons.mp isSecond with rfl | secondLater
      · exact (later secondHas firstLater firstHas).elim
      grind

theorem Forwarding.expire (forwarding : session.Forwarding keys servers) (now : Int) :
    (expire servers session now).Forwarding keys servers := by
  unfold UdpPeerSession.expire
  split
  · exact forwarding
  have discarded := fun item => @mem_discarded _ _ _ _ _ session.pendingDns
    (fun pending => now < pending.expiryMillis) item
  generalize expiredEq : (session.pendingDns.discarded fun pending =>
    now < pending.expiryMillis) = expired at *
  have retrySerials : ∀ serial, (expired.filterMap fun pending =>
      if pending.serverIndex + 1 < servers.length then
        some (⟨pending.responseTarget, pending.query, pending.serverIndex + 1,
          pending.serial⟩ : DnsRetry)
      else none).countP (fun retry => retry.serial = serial) ≤
        expired.countP fun pending => pending.serial = serial := by
    intro serial
    clear discarded expiredEq
    induction expired with
    | nil => exact Nat.le_refl _
    | cons pending expired =>
      grind
  have counts : ∀ serial, (session.pendingDns.keep fun pending =>
        now < pending.expiryMillis).count (fun pending => pending.serial = serial) +
      expired.countP (fun pending => pending.serial = serial) =
        session.pendingDns.count fun pending => pending.serial = serial := by
    intro serial
    rw [← expiredEq]
    exact count_keep_add _ _
  -- A query that has timed out is at no other place, so nothing else knows its server.
  have alone : ∀ pending ∈ expired, ∀ serial,
      0 < (session.pendingDns.keep fun pending => now < pending.expiryMillis).count
          (fun pending => pending.serial = serial) ∨
        0 < session.retries.countP (fun retry => retry.serial = serial) ∨
        0 < session.delivered.countP (fun delivery =>
          delivery.answers.map Prod.fst = some serial) →
      pending.serial ≠ serial := by
    rintro pending member serial _ rfl
    have here : 0 < expired.countP fun other => other.serial = pending.serial :=
      countP_pos_iff.mpr ⟨pending, member, by simp⟩
    have once := forwarding.once pending.serial
    have split := counts pending.serial
    unfold places at once
    omega
  have movedCases : ∀ {serial index}, (serial, index) ∈ session.moved ++ expired.map (fun pending =>
      (pending.serial, pending.serverIndex)) → (serial, index) ∈ session.moved ∨
        ∃ pending ∈ expired, pending.serial = serial ∧ pending.serverIndex = index := by
    intro serial index member
    rcases mem_append.mp member with before | isNew
    · exact .inl before
    · obtain ⟨pending, isExpired, same⟩ := List.mem_map.mp isNew
      cases same
      exact .inr ⟨pending, isExpired, rfl, rfl⟩
  refine ⟨?_, ?_, ?_, ?_, ?_, ?_, forwarding.keyed, ?_, ?_, forwarding.channelBound⟩
  · intro serial
    have once := forwarding.once serial
    have before := counts serial
    have fewer := retrySerials serial
    grind [places]
  · intro serial beyond
    have fresh := forwarding.fresh serial beyond
    have before := counts serial
    have fewer := retrySerials serial
    grind [places]
  · intro key place pending member
    have remaining : pending ∈ (session.pendingDns.queue key place).filter fun pending =>
        now < pending.expiryMillis := by
      rw [← queue_keep]
      exact member
    have waits := forwarding.waits key place pending (mem_filter.mp remaining).1
    refine ⟨waits.asked, waits.server, waits.isOpen, fun index wasMoved => ?_⟩
    rcases movedCases wasMoved with before | ⟨other, isExpired, same, -⟩
    · exact waits.current index before
    · exact absurd same (alone other isExpired pending.serial
        (.inl (count_pos_of_mem member (by simp))))
  · intro retry member
    rcases mem_append.mp member with before | isNew
    · obtain ⟨asked, current⟩ := forwarding.retried retry before
      refine ⟨asked, fun index wasMoved => ?_⟩
      rcases movedCases wasMoved with earlier | ⟨other, isExpired, same, -⟩
      · exact current index earlier
      grind
    · obtain ⟨pending, isExpired, becomes⟩ := mem_filterMap.mp isNew
      split at becomes <;> cases becomes
      obtain ⟨⟨key, place, waiting⟩, -⟩ := (discarded pending).mp isExpired
      have waits := forwarding.waits key place pending waiting
      refine ⟨waits.asked, fun index wasMoved => ?_⟩
      dsimp only at wasMoved ⊢
      rcases movedCases wasMoved with earlier | ⟨other, otherExpired, same, rfl⟩
      · have below := waits.current index earlier
        omega
      have once := forwarding.once pending.serial
      have before := counts pending.serial
      unfold places at once
      have isSame : other = pending :=
        @eq_of_countP_le_one _ _ (fun item => item.serial = pending.serial) (by omega)
          _ _ otherExpired isExpired (by simpa using same) (by simp)
      rw [isSame]
      exact Nat.lt_succ_self _
  · intro delivery member
    have sound := forwarding.sound delivery member
    refine ⟨fun serial index answers => ?_, sound.unmatched⟩
    obtain ⟨query, asked, isAnswer, server, current⟩ := sound.answer serial index answers
    refine ⟨query, asked, isAnswer, server, fun other wasMoved => ?_⟩
    rcases movedCases wasMoved with before | ⟨pending, isExpired, same, -⟩
    · exact current other before
    grind
  · intro serial index member
    rcases movedCases member with before | ⟨pending, isExpired, rfl, rfl⟩
    · exact forwarding.moved serial index before
    · obtain ⟨⟨key, place, waiting⟩, -⟩ := (discarded pending).mp isExpired
      have asked := (forwarding.waits key place pending waiting).asked
      exact (List.getElem?_eq_some_iff.mp asked).1
  · intro _ member
    obtain ⟨entry, listed, rfl⟩ := List.mem_map.mp member
    exact forwarding.keyed entry.1 entry.2 (mem_toList.mp listed)
  · intro key
    exact (rowCount_keep_le _).trans (forwarding.pendingBound key)

theorem Forwarding.sendUnmatched (forwarding : session.Forwarding keys servers)
    (unmatched : delivery.answers = none)
    (foreign : ∀ key, delivery.source = .direct key →
      delivery.target.port ≠ 53 ∧ ∀ server ∈ servers, keys.key server ≠ some key) (sent : Bool) :
    (session.sendUdpResponse delivery sent).Forwarding keys servers := by
  unfold sendUdpResponse
  split
  · have counts : ∀ serial, ({ session with delivered := session.delivered ++ [delivery] } :
        UdpPeerSession).places serial = session.places serial := by
      simp [places, unmatched]
    refine ⟨?_, ?_, ?_, forwarding.retried, ?_, forwarding.moved, forwarding.keyed,
      forwarding.polled, forwarding.pendingBound, forwarding.channelBound⟩
    · intro serial
      rw [counts]
      exact forwarding.once serial
    · intro serial beyond
      rw [counts]
      exact forwarding.fresh serial beyond
    · intro key index pending member
      have waits := forwarding.waits key index pending member
      exact ⟨waits.asked, waits.server, waits.isOpen, waits.current⟩
    · intro other member
      rcases mem_append.mp member with before | isNew
      · have sound := forwarding.sound other before
        exact ⟨sound.answer, sound.unmatched⟩
      · rw [mem_singleton.mp isNew]
        refine ⟨fun serial index answers => ?_, fun key _ => foreign key⟩
        rw [unmatched] at answers
        cases answers
  · exact forwarding

/-- A response is disguised if it matches a query that waits on its channel, and its name is cut
into other labels than that of the query. -/
def Undisguised (session : UdpPeerSession) : UdpAction → Prop
  | .receive channel response _ => ∀ transaction pending,
      transactionOf response = some transaction →
        pending ∈ session.pendingDns.queue channel.key transaction →
          dnsTransactionMatches pending.query response = true → CutAlike pending.query response
  | _ => True

section

variable (forwarding : session.Forwarding keys servers)
include forwarding

/-- A query that is taken out of its queue is nowhere. -/
theorem Forwarding.removeFirst {index : Nat} {search : PendingDns → Bool}
    (found : (session.pendingDns.queue key index).find? search = some pending) :
    ({ session with pendingDns := session.pendingDns.removeFirst key index search } :
        UdpPeerSession).Forwarding keys servers ∧
      ({ session with pendingDns := session.pendingDns.removeFirst key index search } :
        UdpPeerSession).places pending.serial = 0 := by
  have removed := count_removeFirst found
  have counts : ∀ serial, ({ session with
      pendingDns := session.pendingDns.removeFirst key index search } :
        UdpPeerSession).places serial + (if pending.serial = serial then 1 else 0) =
          session.places serial := by
    intro serial
    have one := removed fun pending => pending.serial = serial
    simp only [decide_eq_true_eq] at one
    unfold places
    dsimp only
    omega
  refine ⟨⟨?_, ?_, ?_, forwarding.retried, ?_, forwarding.moved, forwarding.keyed,
    forwarding.polled, ?_, forwarding.channelBound⟩, ?_⟩
  · intro serial
    have before := counts serial
    have once := forwarding.once serial
    omega
  · intro serial beyond
    have before := counts serial
    have fresh := forwarding.fresh serial beyond
    omega
  · intro other place item stays
    have held := forwarding.waits other place item (mem_queue_removeFirst stays)
    exact ⟨held.asked, held.server, held.isOpen, held.current⟩
  · intro delivery member
    have sound := forwarding.sound delivery member
    exact ⟨sound.answer, sound.unmatched⟩
  · intro other
    exact (rowCount_removeFirst_le _).trans (forwarding.pendingBound other)
  · have before := counts pending.serial
    have once := forwarding.once pending.serial
    rw [if_pos rfl] at before
    omega

/-- A query that is nowhere is answered. -/
theorem Forwarding.sendAnswer {serial index : Nat}
    (answers : delivery.answers = some (serial, index)) (nowhere : session.places serial = 0)
    (sound : session.Sound keys servers delivery) (sent : Bool) :
    (session.sendUdpResponse delivery sent).Forwarding keys servers := by
  unfold sendUdpResponse
  split
  · have counts : ∀ other, ({ session with delivered := session.delivered ++ [delivery] } :
        UdpPeerSession).places other = session.places other + if serial = other then 1 else 0 := by
      grind [places]
    obtain ⟨_, asked, -⟩ := sound.answer serial index answers
    refine ⟨?_, ?_, ?_, forwarding.retried, ?_, forwarding.moved, forwarding.keyed,
      forwarding.polled, forwarding.pendingBound, forwarding.channelBound⟩
    · intro other
      rw [counts]
      split
      · rename_i same
        rw [← same, nowhere]
      · exact forwarding.once other
    · intro other beyond
      rw [counts, forwarding.fresh other beyond]
      grind
    · intro key place pending member
      have waits := forwarding.waits key place pending member
      exact ⟨waits.asked, waits.server, waits.isOpen, waits.current⟩
    · intro other member
      rcases mem_append.mp member with before | isNew
      · have held := forwarding.sound other before
        exact ⟨held.answer, held.unmatched⟩
      · rw [mem_singleton.mp isNew]
        exact ⟨sound.answer, sound.unmatched⟩
  · exact forwarding

theorem Forwarding.receive (ports : ∀ server ∈ servers, server.port = 53) {channel : PollChannel}
    {response : Bytes} {sent : Bool}
    (undisguised : session.Undisguised (.receive channel response sent)) :
    (session.receive channel response sent).Forwarding keys servers := by
  unfold UdpPeerSession.receive
  split
  · exact forwarding
  split
  · split
    · exact forwarding
    rename_i transaction isTransaction
    dsimp only
    split
    · exact forwarding
    rename_i pending found
    have member := mem_of_find?_eq_some found
    have matched := find?_some found
    have waits := forwarding.waits channel.key transaction pending member
    have isAnswer : Answers pending.query response :=
      (dnsTransactionMatches_answers_iff matched).mpr
        (undisguised transaction pending isTransaction member matched)
    obtain ⟨server, isServer, isKey⟩ := waits.server
    obtain ⟨rest, nowhere⟩ := forwarding.removeFirst found
    refine rest.sendAnswer rfl nowhere ⟨?_, fun _ none => by cases none⟩ sent
    rintro _ _ ⟨⟩
    exact ⟨pending.query, waits.asked, isAnswer, ⟨server, channel.key, isServer, isKey, rfl⟩,
      waits.current⟩
  · rename_i otherPort
    refine forwarding.sendUnmatched rfl ?_ sent
    rintro key ⟨⟩
    refine ⟨otherPort, fun server member isKey => otherPort ?_⟩
    have polled : channel ∈ session.channels := by
      simp_all
    rw [keys.shows_port _ _ _ (forwarding.polled channel polled) isKey]
    exact ports server member

theorem Forwarding.retry (ports : ∀ server ∈ servers, server.port = 53) (outcome : SocketOutcome) :
    (retry keys servers session outcome).Forwarding keys servers := by
  unfold UdpPeerSession.retry
  split
  · exact forwarding
  rename_i next rest isNext
  have member : next ∈ session.retries := by
    rw [isNext]
    exact mem_cons_self
  obtain ⟨asked, current⟩ := forwarding.retried next member
  have counts : ∀ serial, ({ session with retries := rest } : UdpPeerSession).places serial +
      (if next.serial = serial then 1 else 0) = session.places serial := by
    grind [places]
  have without : ({ session with retries := rest } : UdpPeerSession).Forwarding keys servers := by
    refine ⟨?_, ?_, ?_, ?_, ?_, forwarding.moved, forwarding.keyed, forwarding.polled,
      forwarding.pendingBound, forwarding.channelBound⟩
    · intro serial
      have before := counts serial
      have once := forwarding.once serial
      omega
    · intro serial beyond
      have before := counts serial
      have fresh := forwarding.fresh serial beyond
      omega
    · intro key index pending waiting
      have waits := forwarding.waits key index pending waiting
      exact ⟨waits.asked, waits.server, waits.isOpen, waits.current⟩
    · intro retry later
      refine forwarding.retried retry ?_
      rw [isNext]
      exact .tail _ later
    · intro delivery isDelivered
      have sound := forwarding.sound delivery isDelivered
      exact ⟨sound.answer, sound.unmatched⟩
  refine without.sendDnsUdp ports ?_ asked current outcome
  have before := counts next.serial
  have once := forwarding.once next.serial
  rw [if_pos rfl] at before
  omega

theorem Forwarding.close : session.close.Forwarding keys servers := by
  have fewer : ∀ serial, session.close.places serial ≤ session.places serial := by
    simp [places, UdpPeerSession.close]
  refine ⟨?_, ?_, ?_, forwarding.retried, ?_, forwarding.moved, ?_, forwarding.polled,
    fun _ => Nat.zero_le _, Nat.zero_le _⟩
  · exact fun serial => (fewer serial).trans (forwarding.once serial)
  · intro serial beyond
    have before := fewer serial
    rw [forwarding.fresh serial beyond] at before
    exact Nat.le_zero.mp before
  · simp [UdpPeerSession.close]
  · intro delivery member
    have sound := forwarding.sound delivery member
    exact ⟨sound.answer, sound.unmatched⟩
  simp [UdpPeerSession.close]

/-- What every step preserves in which no response is disguised. -/
theorem Forwarding.step (ports : ∀ server ∈ servers, server.port = 53) {action : UdpAction}
    (undisguised : session.Undisguised action) :
    (step keys servers session action).Forwarding keys servers := by
  cases action with
  | send target payload route outcome => exact forwarding.sendUdp ports target payload route outcome
  | expire now => exact forwarding.expire now
  | receive _ response sent => exact forwarding.receive ports undisguised
  | receiveUpstream target response sent =>
    change (session.receiveUpstream target response sent).Forwarding keys servers
    unfold receiveUpstream
    split
    · exact forwarding
    · exact forwarding.sendUnmatched rfl (fun _ direct => by cases direct) sent
  | retry outcome => exact forwarding.retry ports outcome
  | close => exact forwarding.close

end

/-! ### What the client sees -/

/-- Every query of the client is answered once at most, by a datagram that has its transaction and
its question, comes from the server it waits for and goes to the client with the target of the
query. Queues and channels are bounded, and the channel of a query stays open while it waits. -/
structure AnswersOnce (keys : AddressKeys) (servers : List Endpoint) (session : UdpPeerSession) :
    Prop where
  once : ∀ serial, session.delivered.countP (fun delivery =>
    delivery.answers.map Prod.fst = some serial) ≤ 1
  answered : ∀ delivery ∈ session.delivered, ∀ serial index,
    delivery.answers = some (serial, index) →
      ∃ query, session.queries[serial]? = some (query, delivery.target) ∧
        Answers query delivery.payload ∧
        (∃ server key, servers[index]? = some server ∧ keys.key server = some key ∧
          delivery.source = .direct key) ∧
        (serial, index) ∉ session.moved
  unmatched : ∀ delivery ∈ session.delivered, ∀ key, delivery.answers = none →
    delivery.source = .direct key →
      delivery.target.port ≠ 53 ∧ ∀ server ∈ servers, keys.key server ≠ some key
  pendingBound : ∀ key, session.pendingDns.rowCount key ≤ maximumQueuedPeerDatagrams
  channelBound : session.directChannels.size ≤ maximumDirectUdpTargetsPerPeer
  channelOpen : ∀ key index pending, pending ∈ session.pendingDns.queue key index →
    ∃ channel, session.directChannels.get? key = some channel ∧ channel.descriptor = pending.channel

theorem Forwarding.answersOnce (forwarding : session.Forwarding keys servers) :
    session.AnswersOnce keys servers where
  once := by
    intro serial
    have once := forwarding.once serial
    unfold places at once
    omega
  answered := by
    intro delivery member serial index answers
    obtain ⟨query, asked, isAnswer, server, current⟩ :=
      (forwarding.sound delivery member).answer serial index answers
    exact ⟨query, asked, isAnswer, server,
      fun wasMoved => absurd (current index wasMoved) (Nat.lt_irrefl _)⟩
  unmatched := fun delivery member => (forwarding.sound delivery member).unmatched
  pendingBound := forwarding.pendingBound
  channelBound := forwarding.channelBound
  channelOpen := fun key index pending member => (forwarding.waits key index pending member).isOpen

/-- In every run in which no response is disguised, the client gets the answers it asked for. -/
theorem dnsForwarding_answersOnce (keys : AddressKeys) {inet : InetPton} {routingText : Bytes}
    {servers : List Endpoint} (parsed : parseDnsServers inet routingText = .ok servers)
    {actions : List UdpAction}
    (undisguised : (udpPeerMachine keys servers).Guarded Undisguised .new actions) :
    ((udpPeerMachine keys servers).run actions).AnswersOnce keys servers := by
  have ports := parseDnsServers_ports parsed
  have forwarding : ((udpPeerMachine keys servers).run actions).Forwarding keys servers :=
    Machine.guarded_run (forwarding_new keys servers)
      (fun _ _ forwarding undisguised => forwarding.step ports undisguised) undisguised
  exact forwarding.answersOnce

/-! ### A query and its response -/

/-- The only DNS server of a rule text. -/
def quadNine : Endpoint := ⟨message "9.9.9.9", 53⟩

/-- Addresses are shown for this server only. -/
def sampleKeys : AddressKeys where
  key endpoint := if endpoint = quadNine then some "9.9.9.9:53" else none
  shows_port := by
    intro first second text isFirst isSecond
    split at isFirst
    · rename_i same
      split at isSecond
      · rename_i other
        rw [same, other]
      · cases isSecond
    · cases isFirst

/-- A message with transaction 7 and a question for addresses. -/
def sampleMessage (flags : UInt8) (name : Bytes) : Bytes :=
  [0, 7, flags, 0, 0, 1, 0, 0, 0, 0, 0, 0] ++ name ++ [0, 1, 0, 1]

/-- The target that a client believes to be its DNS server. -/
def sampleTarget : TargetAddress := ⟨message "8.8.8.8", 53⟩

/-- A query is sent, and the response to it arrives. -/
def sampleActions (asked answered : Bytes) : List UdpAction :=
  [.send sampleTarget (sampleMessage 1 asked) .reject ⟨true, true, true, 0, 0, 0⟩, .expire 100,
    .receive ⟨0, "9.9.9.9:53", quadNine⟩ (sampleMessage 129 answered) true]

/-- A name of one label. -/
theorem nameAt_one (flags : UInt8) : NameAt (sampleMessage flags [1, 97, 0]) 12 [[97]] 15 := by
  have root : NameAt (sampleMessage flags [1, 97, 0]) 14 [] 15 := .root rfl
  exact @NameAt.label _ 12 15 1 [] rfl (by decide) (by decide) (by simp [sampleMessage]) root

/-- A query for a name of one label is answered. -/
theorem dnsForwarding_answersOnce_sample :
    ((udpPeerMachine sampleKeys [quadNine]).run
      (sampleActions [1, 97, 0] [1, 97, 0])).AnswersOnce sampleKeys [quadNine] := by
  have cut : CutAlike (sampleMessage 1 [1, 97, 0]) (sampleMessage 129 [1, 97, 0]) := by
    intro _ _ _ _ name name' _
    rw [(name.unique (nameAt_one 1)).1, (name'.unique (nameAt_one 129)).1]
  refine dnsForwarding_answersOnce sampleKeys
    (show parseDnsServers strictInetPton (message "[DNS]\nPRIMARY,9.9.9.9") = .ok [quadNine] by
      decide +kernel) ⟨trivial, trivial, ?_, trivial⟩
  intro transaction _ isTransaction member _
  have isSeven : transaction = 7 := by
    cases isTransaction
    rfl
  subst isSeven
  have queued : ((udpPeerMachine sampleKeys [quadNine]).runFrom .new
      ((sampleActions [1, 97, 0] [1, 97, 0]).take 2)).pendingDns.queue "9.9.9.9:53" 7 =
        [⟨sampleMessage 1 [1, 97, 0], sampleTarget, 2000, 0, 0, 0⟩] := by
    decide +kernel
  have isQuery := mem_singleton.mp (queued ▸ member)
  rw [isQuery]
  exact cut

/-- A query for the label `a.b` is answered with the address of the name `a.b` of two labels. -/
theorem not_answersOnce_disguised :
    ¬ ((udpPeerMachine sampleKeys [quadNine]).run
      (sampleActions [3, 97, 46, 98, 0] [1, 97, 1, 98, 0])).AnswersOnce sampleKeys [quadNine] := by
  have delivered : ((udpPeerMachine sampleKeys [quadNine]).run
      (sampleActions [3, 97, 46, 98, 0] [1, 97, 1, 98, 0])).delivered =
        [⟨.direct "9.9.9.9:53", some (0, 0), sampleTarget,
          sampleMessage 129 [1, 97, 1, 98, 0]⟩] := by
    decide +kernel
  have asked : NameAt (sampleMessage 1 [3, 97, 46, 98, 0]) 12 [[97, 46, 98]] 17 :=
    @NameAt.label _ 12 17 3 [] rfl (by decide) (by decide) (by decide) (NameAt.root rfl)
  have answered : NameAt (sampleMessage 129 [1, 97, 1, 98, 0]) 12 [[97], [98]] 17 :=
    @NameAt.label _ 12 17 1 _ rfl (by decide) (by decide) (by decide)
      (@NameAt.label _ 14 17 1 [] rfl (by decide) (by decide) (by decide) (NameAt.root rfl))
  intro answersOnce
  obtain ⟨_, isQuery, isAnswer, -⟩ := answersOnce.answered _
    (by rw [delivered]; exact mem_singleton_self _) 0 0 rfl
  cases isQuery
  obtain ⟨-, -, -, _, _, _, _, name, name', same, -⟩ := isAnswer
  rw [(name.unique asked).1, (name'.unique answered).1] at same
  exact absurd same (by decide)

end UdpPeerSession

end SprakCapture.Client
