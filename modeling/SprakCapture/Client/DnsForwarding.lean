import SprakCapture.Client.DnsProtocol
import SprakCapture.Client.RuntimeConfig
import SprakCapture.Data.Machine
import SprakCapture.Data.QueueTable

/-!
# DNS datagrams of a UDP peer

The datagrams of a peer to port 53 go to the DNS servers of the rules, over channels that also
serve targets which are reached directly. A worker sends, and a reactor expires and retries
queries and receives responses; both hold the lock of the session for each of these steps. The
reactor receives on the channels that it found when it began to poll.
-/

namespace SprakCapture.Client

open Data

/-- `socks5::TargetAddress`, which has the fields of an endpoint. -/
abbrev TargetAddress := Endpoint

/-- `kMaximumQueuedPeerDatagrams`. -/
def maximumQueuedPeerDatagrams : Nat := 128

/-- `kMaximumDirectUdpTargetsPerPeer`. -/
def maximumDirectUdpTargetsPerPeer : Nat := 64

/-- `kUdpTimeoutSeconds`, in milliseconds. -/
def udpTimeoutMillis : Int := 2 * 1000

/-- `ResolveEndpoint` and then `AddressKey`: an address is shown with its port. -/
structure AddressKeys where
  key : Endpoint → Option String
  shows_port : ∀ first second text, key first = some text → key second = some text →
    first.port = second.port

/-- A connected socket of a session. -/
structure DirectChannel where
  descriptor : Nat
  responseTarget : TargetAddress
  lastUsedMillis : Int
deriving DecidableEq

/-- A query that waits for its response. `serial` is the number of the query among those of the
client, and `channel` the socket it was sent on. -/
structure PendingDns where
  query : Bytes
  responseTarget : TargetAddress
  expiryMillis : Int
  serverIndex : Nat
  serial : Nat
  channel : Nat
deriving DecidableEq

/-- A query that is to be sent to the next server. -/
structure DnsRetry where
  target : TargetAddress
  query : Bytes
  serverIndex : Nat
  serial : Nat
deriving DecidableEq

/-- An entry of the poll snapshot. -/
structure PollChannel where
  descriptor : Nat
  key : String
  target : TargetAddress
deriving DecidableEq

/-- Where a datagram for the client comes from. -/
inductive DeliverySource where
  | direct (key : String)
  | upstream
deriving DecidableEq

/-- A datagram that was sent to the client. `answers` tells the query, by its number, and the
server it waited for, if the datagram was matched with one. -/
structure Delivery where
  source : DeliverySource
  answers : Option (Nat × Nat)
  target : TargetAddress
  payload : Bytes
deriving DecidableEq

/-- A session, and what the reactor keeps about it. `queries`, `moved` and `delivered` are the
history: the datagrams of the client to port 53, the queries that timed out at a server, and the
datagrams for the client. -/
structure UdpPeerSession where
  directChannels : Table String DirectChannel
  pendingDns : QueueTable String Nat PendingDns
  closing : Bool
  retries : List DnsRetry
  channels : List PollChannel
  nextDescriptor : Nat
  queries : List (Bytes × TargetAddress)
  moved : List (Nat × Nat)
  delivered : List Delivery

/-- How the sockets behave during a send, and the times at which the clock is read. -/
structure SocketOutcome where
  retired : Bool
  opened : Bool
  sent : Bool
  openedMillis : Int
  queuedMillis : Int
  sentMillis : Int
deriving DecidableEq

namespace UdpPeerSession

def new : UdpPeerSession where
  directChannels := ∅
  pendingDns := ∅
  closing := false
  retries := []
  channels := []
  nextDescriptor := 0
  queries := []
  moved := []
  delivered := []

/-! ### Channels -/

/-- The channel of an endpoint has a query that waits. -/
def isBusy (session : UdpPeerSession) (key : String) : Bool :=
  match session.pendingDns.get? key with
  | some pending => pending.size != 0
  | none => false

/-- The loop over the channels: the one that was not used for the longest time. -/
def findVictim (session : UdpPeerSession) :
    List (String × DirectChannel) → Option (String × DirectChannel) →
      Option (String × DirectChannel)
  | [], victim => victim
  | candidate :: rest, victim =>
    if session.isBusy candidate.1 then session.findVictim rest victim
    else
      match victim with
      | none => session.findVictim rest (some candidate)
      | some best =>
        if candidate.2.lastUsedMillis < best.2.lastUsedMillis then
          session.findVictim rest (some candidate)
        else session.findVictim rest victim

/-- Make room for a channel. The descriptor of the victim may find no place among the retired
ones. -/
def ensureDirectUdpCapacity (session : UdpPeerSession) (retired : Bool) : Option UdpPeerSession :=
  if session.directChannels.size < maximumDirectUdpTargetsPerPeer then some session
  else
    match session.findVictim session.directChannels.toList none with
    | none => none
    | some victim =>
      if retired then
        some { session with directChannels := session.directChannels.erase victim.1 }
      else none

/-- Find the channel of an endpoint or open one. -/
def openChannel (session : UdpPeerSession) (key : String) (target : TargetAddress)
    (outcome : SocketOutcome) : Option DirectChannel × UdpPeerSession :=
  match session.directChannels.get? key with
  | some channel => (some channel, session)
  | none =>
    match session.ensureDirectUdpCapacity outcome.retired with
    | none => (none, session)
    | some session =>
      if outcome.opened then
        let channel : DirectChannel :=
          ⟨session.nextDescriptor, target, outcome.openedMillis⟩
        (some channel,
          { session with
            directChannels := session.directChannels.insert key channel
            nextDescriptor := session.nextDescriptor + 1 })
      else (none, session)

/-- The channel has sent a datagram. -/
def touch (session : UdpPeerSession) (key : String) (now : Int) : UdpPeerSession :=
  { session with
    directChannels := session.directChannels.modify key fun channel =>
      { channel with lastUsedMillis := now } }

/-! ### Sending -/

section Sending

variable (keys : AddressKeys) (servers : List Endpoint)

/-- Send a query to one of the DNS servers, and note that it waits for a response. -/
def sendDnsUdp (session : UdpPeerSession) (serial : Nat) (originalTarget : TargetAddress)
    (payload : Bytes) (serverIndex : Nat) (outcome : SocketOutcome) : Bool × UdpPeerSession :=
  match transactionOf payload, servers[serverIndex]? with
  | some transaction, some server =>
    match keys.key server with
    | none => (false, session)
    | some endpointKey =>
      if session.closing then (false, session)
      else
        match session.openChannel endpointKey ⟨server.host, 53⟩ outcome with
        | (none, session) => (false, session)
        | (some channel, session) =>
          if maximumQueuedPeerDatagrams ≤ session.pendingDns.rowCount endpointKey then
            (false, session)
          else
            let pending : PendingDns :=
              { query := payload
                responseTarget := originalTarget
                expiryMillis := outcome.queuedMillis + udpTimeoutMillis
                serverIndex
                serial
                channel := channel.descriptor }
            let pendingDns := session.pendingDns.push endpointKey transaction pending
            if outcome.sent then
              (true, { session with pendingDns }.touch endpointKey outcome.sentMillis)
            else
              (false, { session with pendingDns := pendingDns.pop endpointKey transaction })
  | _, _ => (false, session)

/-- Send a datagram to a target that is reached directly. -/
def sendDirectUdp (session : UdpPeerSession) (target : TargetAddress) (outcome : SocketOutcome) :
    UdpPeerSession :=
  match keys.key target with
  | none => session
  | some endpointKey =>
    if session.closing then session
    else
      match session.openChannel endpointKey target outcome with
      | (none, session) => session
      | (some _, session) =>
        if outcome.sent then session.touch endpointKey outcome.sentMillis else session

/-- What the rules decide about a datagram, and the address of its host if it is reached
directly. -/
inductive UdpRoute where
  | reject
  | direct (resolved : Option Bytes)
  | proxy

/-- A datagram of the client. -/
def sendUdp (session : UdpPeerSession) (target : TargetAddress) (payload : Bytes)
    (route : UdpRoute) (outcome : SocketOutcome) : UdpPeerSession :=
  if session.closing ∨ target.port = 853 then session
  else if target.port = 53 then
    (sendDnsUdp keys servers { session with queries := session.queries ++ [(payload, target)] }
      session.queries.length target payload 0 outcome).2
  else
    match route with
    | .direct (some host) => sendDirectUdp keys session ⟨host, target.port⟩ outcome
    | _ => session

/-! ### The reactor -/

/-- Queries that have waited too long are taken out, and go to the next server if there is one. The
channels are those to be polled. -/
def expire (session : UdpPeerSession) (now : Int) : UdpPeerSession :=
  if session.closing then session
  else
    let expired := session.pendingDns.discarded fun pending => now < pending.expiryMillis
    { session with
      pendingDns := session.pendingDns.keep fun pending => now < pending.expiryMillis
      moved := session.moved ++ expired.map fun pending => (pending.serial, pending.serverIndex)
      retries := session.retries ++ expired.filterMap fun pending =>
        if pending.serverIndex + 1 < servers.length then
          some ⟨pending.responseTarget, pending.query, pending.serverIndex + 1, pending.serial⟩
        else none
      channels := session.directChannels.toList.map fun entry =>
        ⟨entry.2.descriptor, entry.1, entry.2.responseTarget⟩ }

/-- A datagram for the client, which may fail to be sent. -/
def sendUdpResponse (session : UdpPeerSession) (delivery : Delivery) (sent : Bool) :
    UdpPeerSession :=
  if sent then { session with delivered := session.delivered ++ [delivery] } else session

/-- A datagram arrives on a channel that is polled. -/
def receive (session : UdpPeerSession) (channel : PollChannel) (response : Bytes) (sent : Bool) :
    UdpPeerSession :=
  if session.closing ∨ channel ∉ session.channels ∨ response = [] then session
  else if channel.target.port = 53 then
    match transactionOf response with
    | none => session
    | some transaction =>
      let isAnswered := fun candidate : PendingDns =>
        dnsTransactionMatches candidate.query response
      match (session.pendingDns.queue channel.key transaction).find? isAnswered with
      | none => session
      | some pending =>
        { session with
          pendingDns := session.pendingDns.removeFirst channel.key transaction isAnswered
          }.sendUdpResponse
            ⟨.direct channel.key, some (pending.serial, pending.serverIndex),
              pending.responseTarget, response⟩ sent
  else session.sendUdpResponse ⟨.direct channel.key, none, channel.target, response⟩ sent

/-- A datagram arrives from the upstream proxy. -/
def receiveUpstream (session : UdpPeerSession) (target : TargetAddress) (response : Bytes)
    (sent : Bool) : UdpPeerSession :=
  if session.closing then session
  else session.sendUdpResponse ⟨.upstream, none, target, response⟩ sent

/-- The next query is sent again. -/
def retry (session : UdpPeerSession) (outcome : SocketOutcome) : UdpPeerSession :=
  match session.retries with
  | [] => session
  | next :: rest =>
    (sendDnsUdp keys servers { session with retries := rest } next.serial next.target next.query
      next.serverIndex outcome).2

end Sending

def close (session : UdpPeerSession) : UdpPeerSession :=
  { session with closing := true, directChannels := ∅, pendingDns := ∅ }

end UdpPeerSession

/-! ### Runs -/

inductive UdpAction where
  | send (target : TargetAddress) (payload : Bytes) (route : UdpPeerSession.UdpRoute)
      (outcome : SocketOutcome)
  | expire (now : Int)
  | receive (channel : PollChannel) (response : Bytes) (sent : Bool)
  | receiveUpstream (target : TargetAddress) (response : Bytes) (sent : Bool)
  | retry (outcome : SocketOutcome)
  | close

namespace UdpPeerSession

def step (keys : AddressKeys) (servers : List Endpoint) (session : UdpPeerSession) :
    UdpAction → UdpPeerSession
  | .send target payload route outcome => sendUdp keys servers session target payload route outcome
  | .expire now => expire servers session now
  | .receive channel response sent => session.receive channel response sent
  | .receiveUpstream target response sent => session.receiveUpstream target response sent
  | .retry outcome => retry keys servers session outcome
  | .close => session.close

end UdpPeerSession

/-- A session as a machine. Its DNS servers stay the same, since new rules close all sessions. -/
def udpPeerMachine (keys : AddressKeys) (servers : List Endpoint) :
    Machine UdpPeerSession UdpAction where
  initial := .new
  step := .step keys servers

end SprakCapture.Client
