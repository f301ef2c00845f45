import SprakCapture.ProcessCapture.ExtensionChain
import SprakCapture.ProcessCapture.FlowTable

/-!
# Reset packets for IPv6 connections

An IPv6 connection is reset with sequence numbers read from a real packet of it.
The parser answers with an option; its `None` is the error `()` here. Reads through
`get` are checked reads of the source, so they answer `None` rather than leave the packet.
-/

namespace SprakCapture.ProcessCapture.ConnectionReset

open Data

def ipv6HeaderBytes : Nat := 40
def tcpHeaderBytes : Nat := 20
def tcpAcknowledgementFlag : UInt8 := 0x10
def tcpResetFlag : UInt8 := 0x04

structure ParsedIpv6TcpPacket where
  sourceAddress : Octets 16
  destinationAddress : Octets 16
  sourcePort : UInt16
  destinationPort : UInt16
  sequenceNumber : UInt32
  acknowledgementNumber : UInt32
deriving DecidableEq

/-- `packet.get(start..stop)?`. -/
def getRange (packet : Bytes) (start stop : Nat) : Outcome Unit Bytes := do
  .raiseIf (packet.length < stop) ()
  slice packet start stop

/-- One turn of the header loop. -/
def chainStep (packet : Bytes) (position : ChainPosition) : Outcome Unit (ChainPosition ⊕ Nat) :=
  if position.nextHeader = tcpProtocol then pure (.inr position.offset)
  else
    match extensionKind? position.nextHeader with
    | some kind => do
        let header ← getRange packet position.offset (position.offset + 2)
        let nextHeader ← byteAt header 0
        let lengthOctet ← byteAt header 1
        pure (.inl { nextHeader, offset := position.offset + kind.extent lengthOctet })
    | none => .raise ()

/-- The offset at which the header loop finds TCP. -/
def tcpOffset (packet : Bytes) : Outcome Unit Nat := do
  let nextHeader ← byteAt packet 6
  Outcome.loop (chainStep packet) (packet.length + 1) { nextHeader, offset := ipv6HeaderBytes }

/-- A packet that can be answered by a reset: unfragmented, with ACK and without RST. -/
def parseIpv6TcpPacket (packet : Bytes) : Outcome Unit ParsedIpv6TcpPacket := do
  .raiseIf (packet.length < ipv6HeaderBytes) ()
  let first ← byteAt packet 0
  .raiseIf (first >>> 4 ≠ 6) ()
  let sourceAddress ← octetsAt 16 packet 8
  let destinationAddress ← octetsAt 16 packet 24
  let offset ← tcpOffset packet
  let tcp ← getRange packet offset (offset + tcpHeaderBytes)
  let flags ← byteAt tcp 13
  .raiseIf (flags &&& tcpAcknowledgementFlag = 0 ∨ flags &&& tcpResetFlag ≠ 0) ()
  let sourcePort ← u16At tcp 0
  let destinationPort ← u16At tcp 2
  let sequenceNumber ← u32At tcp 4
  let acknowledgementNumber ← u32At tcp 8
  pure
    { sourceAddress, destinationAddress, sourcePort, destinationPort, sequenceNumber,
      acknowledgementNumber }

end SprakCapture.ProcessCapture.ConnectionReset
