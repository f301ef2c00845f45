import SprakCapture.Data.Bytes
import SprakCapture.Data.Waits
import SprakCapture.HttpProxy.Throttling

/-!
# Pumps of message bodies

`pumpThrottledBody` and the pump of `buildStreamingResponse` take the frames of a body and send
them on through a channel. When a pump returns, its end of the channel is dropped, and the
receiver finds the end of the stream behind what was sent.
-/

namespace SprakCapture.HttpProxy

open Data

/-- `RequestFailure`, with the failures of every stage. -/
inductive ProxyFailure where
  | invalidRequest
  | loopDetected
  | unsupportedScheme
  | upstreamUnavailable
  | upstreamTimeout
  | clientDisconnected
  | upgradeFailed
  | cancelled
  | captureFailed
  | upstreamProtocol
  | downstreamTlsHandshake
  | upstreamTlsHandshake
  | pipelineBodyLimitExceeded
deriving DecidableEq

section Pumps

variable {Fault Trailers : Type}

/-- A frame of a body. -/
inductive BodyFrame (Trailers : Type) where
  | data (bytes : Bytes)
  | trailers (fields : Trailers)

def BodyFrame.dataBytes : BodyFrame Trailers → Bytes
  | .data bytes => bytes
  | .trailers _ => []

/-- An error item of a channel. -/
inductive BodyError (Fault : Type) where
  | source (fault : Fault)
  | throttlingDroppedFrame

abbrev BodyItem (Fault Trailers : Type) := Except (BodyError Fault) (BodyFrame Trailers)

abbrev BodyChannel (Fault Trailers : Type) := Channel (BodyItem Fault Trailers)

/-- What a body yields until it ends. -/
abbrev BodySource (Fault Trailers : Type) := List (Except Fault (BodyFrame Trailers))

/-- The failure that an interruption is. -/
def ProxyFailure.ofInterruption : Interruption → ProxyFailure
  | .cancelled => .cancelled
  | .closed => .clientDisconnected

/-- `sendBodyFrame`: a cancellation comes before the room in the channel. -/
def sendBodyFrame (channel : BodyChannel Fault Trailers) (frame : BodyItem Fault Trailers) :
    Except ProxyFailure Unit × BodyChannel Fault Trailers :=
  match channel.deliver frame with
  | (.error interruption, channel) => (.error (.ofInterruption interruption), channel)
  | (.ok (), channel) => (.ok (), channel)

/-- An error item, with the failure that the pump ends with. -/
def sendBodyError (channel : BodyChannel Fault Trailers) (error : BodyError Fault) :
    ProxyFailure × BodyChannel Fault Trailers :=
  match sendBodyFrame channel (.error error) with
  | (.ok (), channel) => (.upstreamProtocol, channel)
  | (.error failure, channel) => (failure, channel)

/-- `forwardThrottledBytes`, for the bytes from the offset on. A sum of offset and chunk that does
not fit is one that is beyond the end. -/
def forwardThrottledBytes (bytes : Bytes) (pacer : ThrottlePacer)
    (channel : BodyChannel Fault Trailers) :
    Except ProxyFailure ThrottlePacer × BodyChannel Fault Trailers :=
  if bytes.length = 0 then (.ok pacer, channel)
  else
    match pacer.nextChunk bytes.length with
    | (.error _, _) => (.error .upstreamProtocol, channel)
    | (.ok none, _) => (.error .upstreamProtocol, channel)
    | (.ok (some chunk), pacer) =>
      if chunk.byteCount = 0 ∨ bytes.length < chunk.byteCount then
        (.error .upstreamProtocol, channel)
      else
        match chunk.action with
        | .forward =>
          match sendBodyFrame channel (.ok (.data (bytes.take chunk.byteCount))) with
          | (.error failure, channel) => (.error failure, channel)
          | (.ok (), channel) => forwardThrottledBytes (bytes.drop chunk.byteCount) pacer channel
        | .drop =>
          let (failure, channel) := sendBodyError channel .throttlingDroppedFrame
          (.error failure, channel)
termination_by bytes.length
decreasing_by
  rw [List.length_drop]
  omega

/-- The wait for the next frame of the body, which a cancellation ends first. -/
def awaitFrame (channel : BodyChannel Fault Trailers) :
    Except ProxyFailure Unit × BodyChannel Fault Trailers :=
  match channel.pause with
  | (.error interruption, channel) => (.error (.ofInterruption interruption), channel)
  | (.ok (), channel) => (.ok (), channel)

/-- `pumpThrottledBody`. -/
def pumpThrottledBody : BodySource Fault Trailers → ThrottlePacer → BodyChannel Fault Trailers →
    Except ProxyFailure Unit × BodyChannel Fault Trailers
  | [], _, channel => awaitFrame channel
  | item :: rest, pacer, channel =>
    match awaitFrame channel with
    | (.error failure, channel) => (.error failure, channel)
    | (.ok (), channel) =>
      match item with
      | .ok (.data bytes) =>
        match forwardThrottledBytes bytes pacer channel with
        | (.error failure, channel) => (.error failure, channel)
        | (.ok pacer, channel) => pumpThrottledBody rest pacer channel
      | .ok (.trailers fields) =>
        match sendBodyFrame channel (.ok (.trailers fields)) with
        | (.error failure, channel) => (.error failure, channel)
        | (.ok (), channel) => pumpThrottledBody rest pacer channel
      | .error fault =>
        let (failure, channel) := sendBodyError channel (.source fault)
        (.error failure, channel)

/-- `responseDeliveryComplete`, for the bytes that were captured. -/
def responseDeliveryComplete (declaredBodyBytes : Option Nat) (captured : Bytes) : Bool :=
  declaredBodyBytes = some (min captured.length (2 ^ 64 - 1))

/-- The pump of `buildStreamingResponse`, until it drops the sender, with the bytes that are
recorded. -/
def pumpStreamingResponse (declaredBodyBytes : Option Nat) :
    BodySource Fault Trailers → Option ThrottlePacer → Bytes → BodyChannel Fault Trailers →
      Except ProxyFailure Bytes × BodyChannel Fault Trailers
  | [], _, captured, channel =>
    match awaitFrame channel with
    | (.error failure, channel) => (.error failure, channel)
    | (.ok (), channel) => (.ok captured, channel)
  | item :: rest, pacer, captured, channel =>
    match awaitFrame channel with
    | (.error failure, channel) => (.error failure, channel)
    | (.ok (), channel) =>
      match item, pacer with
      | .ok (.data bytes), some pacer =>
        match forwardThrottledBytes bytes pacer channel with
        | (.error failure, channel) => (.error failure, channel)
        | (.ok pacer, channel) =>
          pumpStreamingResponse declaredBodyBytes rest (some pacer) (captured ++ bytes)
            channel
      | .ok frame, pacer =>
        match sendBodyFrame channel (.ok frame) with
        | (.error failure, channel) =>
          -- A client that has all the data that was declared may have gone.
          if failure = .clientDisconnected ∧
              responseDeliveryComplete declaredBodyBytes captured then
            (.ok captured, channel)
          else (.error failure, channel)
        | (.ok (), channel) =>
          pumpStreamingResponse declaredBodyBytes rest pacer
            (captured ++ frame.dataBytes) channel
      | .error fault, _ =>
        let (failure, channel) := sendBodyError channel (.source fault)
        (.error failure, channel)

end Pumps

end SprakCapture.HttpProxy
