import Aeris.Tunnel.Frame
import Aeris.Base.Credit
import Aeris.Base.Transition

/-! Flow control of one tunnelled response. The agent relays an upstream body in frames,
each paid for out of a byte window; the gateway buffers them for a receiver and returns
credit in batches. Between the two stand the agent's writer queues and the wire. -/
namespace Aeris.Tunnel

open ByteEncoding

/-! ## Settings -/

structure SettingsPayload where
  initialStreamWindowBytes : Nat
  minWindowUpdateBytes : Nat
  drainDeadlineMs : Nat
  deriving DecidableEq, Repr

def maxTunnelDecompressedPayloadBytes : Nat := 64 * 1024 * 1024

def SettingsPayload.isValid (settings : SettingsPayload) : Bool :=
  0 < settings.initialStreamWindowBytes &&
    settings.initialStreamWindowBytes ≤ maxTunnelDecompressedPayloadBytes &&
    0 < settings.minWindowUpdateBytes &&
    settings.minWindowUpdateBytes ≤ settings.initialStreamWindowBytes &&
    0 < settings.drainDeadlineMs

def SettingsPayload.negotiate (settings : SettingsPayload)
    (initialWindowBytes drainDeadlineMs : Nat) : SettingsPayload :=
  let window := max (min settings.initialStreamWindowBytes initialWindowBytes) 1
  { initialStreamWindowBytes := window
    minWindowUpdateBytes := min settings.minWindowUpdateBytes (max (window / 4) 1)
    drainDeadlineMs := min settings.drainDeadlineMs drainDeadlineMs }

/-! ## The agent's window and its relay loop -/

structure StreamSendWindow where
  initialWindowBytes : Nat
  available : Nat
  deriving DecidableEq, Repr

def StreamSendWindow.new (initialWindowBytes : Nat) : StreamSendWindow :=
  ⟨max initialWindowBytes 1, max initialWindowBytes 1⟩

def StreamSendWindow.addCredit (window : StreamSendWindow) (deltaBytes : Nat) : StreamSendWindow :=
  { window with available := Credit.refill window.available deltaBytes }

/-- `none` while the caller has to wait. -/
def StreamSendWindow.acquire (window : StreamSendWindow) (bytes : Nat) : Option StreamSendWindow :=
  (Credit.spend window.available bytes).map fun available => { window with available }

def maxChunkSize : Nat := 32 * 1024

/-- The payloads of the frames one upstream chunk is sent in. -/
def relayPayloads (size : Nat) (chunk : Bytes) : List Bytes :=
  if chunk.length ≤ size then [chunk] else Credit.slices size chunk

def flagEndStream : UInt8 := 0x01

def responseBodyFrame (streamId : UInt32) (payload : Bytes) : Frame :=
  ⟨streamId, .responseBody, 0, payload⟩

def streamEndFrame (streamId : UInt32) : Frame := ⟨streamId, .streamEnd, flagEndStream, []⟩

/-- The frames of `relay_upstream_response`, in the order in which its loop sends them. -/
def relayFrames (streamId : UInt32) (window : StreamSendWindow) (chunks : List Bytes) :
    List Frame :=
  (chunks.flatMap (relayPayloads (min maxChunkSize window.initialWindowBytes))).map
    (responseBodyFrame streamId) ++ [streamEndFrame streamId]

/-! ## The agent's writer -/

inductive FramePriority where
  | high
  | normal
  deriving DecidableEq, Repr

def highPriorityQueueCapacity : Nat := 64
def normalPriorityQueueCapacity : Nat := 256

def classifyFramePriority (frame : Frame) : FramePriority :=
  match frame.msgType with
  | .responseHeaders | .streamError | .ping | .pong | .goAway | .heartbeatData | .heartbeatAck
  | .hello | .settings | .windowUpdate | .resetStream | .connectionClose | .loadReport => .high
  | .requestHeaders | .requestBody | .responseBody | .streamEnd => .normal

structure FrameQueues where
  high : List Frame
  normal : List Frame
  deriving DecidableEq

/-- `none` while the queue of the frame's priority is full. -/
def FrameQueues.send (queues : FrameQueues) (frame : Frame) : Option FrameQueues :=
  match classifyFramePriority frame with
  | .high =>
    if queues.high.length < highPriorityQueueCapacity then
      some { queues with high := queues.high ++ [frame] }
    else none
  | .normal =>
    if queues.normal.length < normalPriorityQueueCapacity then
      some { queues with normal := queues.normal ++ [frame] }
    else none

/-- The frame the writer takes next: high priority first. -/
def FrameQueues.next : FrameQueues → Option (Frame × FrameQueues)
  | ⟨frame :: high, normal⟩ => some (frame, ⟨high, normal⟩)
  | ⟨[], frame :: normal⟩ => some (frame, ⟨[], normal⟩)
  | ⟨[], []⟩ => none

/-! ## The gateway's response buffer -/

inductive LocalBodyEvent where
  | chunk (bytes : Bytes)
  | ended
  | error (message : String)
  deriving DecidableEq

def chunkBytes : Nat := 32 * 1024

structure ResponseBuffer where
  capacity : Nat
  chunks : List Bytes
  bytes : Nat
  terminal : Option (Except String Unit)
  receiverClosed : Bool

def ResponseBuffer.new (capacity : Nat) : ResponseBuffer := ⟨capacity, [], 0, none, false⟩

/-- The chunks after a payload has been filled in behind them: a last chunk with room takes
what fits, the rest starts chunks of its own. -/
def fillChunks (chunks : List Bytes) (payload : Bytes) : List Bytes :=
  if payload = [] then chunks
  else
    match chunks.getLast? with
    | some tail =>
      if tail.length < chunkBytes then
        fillChunks (chunks.dropLast ++ [tail ++ payload.take (chunkBytes - tail.length)])
          (payload.drop (chunkBytes - tail.length))
      else fillChunks (chunks ++ [payload.take chunkBytes]) (payload.drop chunkBytes)
    | none => fillChunks (chunks ++ [payload.take chunkBytes]) (payload.drop chunkBytes)
termination_by payload.length
decreasing_by
  all_goals
    have := List.length_pos_iff.mpr ‹¬payload = []›
    simp only [List.length_drop, chunkBytes] at *
    omega

/-- The second part is `false` when the payload is refused. -/
def ResponseBuffer.push (buffer : ResponseBuffer) (payload : Bytes) : ResponseBuffer × Bool :=
  if buffer.terminal.isSome || buffer.receiverClosed ||
      payload.length > buffer.capacity - buffer.bytes then (buffer, false)
  else
    ({ buffer with
        bytes := buffer.bytes + payload.length
        chunks := fillChunks buffer.chunks payload }, true)

def ResponseBuffer.finish (buffer : ResponseBuffer) (result : Except String Unit) :
    ResponseBuffer :=
  if buffer.terminal.isNone then { buffer with terminal := some result } else buffer

def LocalBodyEvent.ofResult : Except String Unit → LocalBodyEvent
  | .ok () => .ended
  | .error message => .error message

/-- `BodyReceiver::recv` of a receiver that has not finished; `none` while it waits. -/
def ResponseBuffer.recv (buffer : ResponseBuffer) : Option (LocalBodyEvent × ResponseBuffer) :=
  match buffer.chunks, buffer.terminal with
  | chunk :: rest, _ =>
    some (.chunk chunk, { buffer with chunks := rest, bytes := buffer.bytes - chunk.length })
  | [], some result =>
    some (.ofResult result, { buffer with terminal := none, receiverClosed := true })
  | [], none => none

/-! ## The gateway's stream -/

structure LocalStream where
  body : ResponseBuffer
  terminal : Bool
  responseConsumedSinceUpdate : Nat
  minWindowUpdateBytes : Nat

def LocalStream.new (settings : SettingsPayload) : LocalStream :=
  ⟨.new settings.initialStreamWindowBytes, false, 0, settings.minWindowUpdateBytes⟩

def LocalStream.pushBodyChunk (stream : LocalStream) (payload : Bytes) : LocalStream × Bool :=
  if stream.terminal then (stream, false)
  else ({ stream with body := (stream.body.push payload).1 }, (stream.body.push payload).2)

def LocalStream.stop (stream : LocalStream) (result : Except String Unit) : LocalStream :=
  if stream.terminal then stream
  else { stream with terminal := true, body := stream.body.finish result }

def LocalStream.finish (stream : LocalStream) : LocalStream := stream.stop (.ok ())
def LocalStream.fail (stream : LocalStream) (error : String) : LocalStream :=
  stream.stop (.error error)

/-- What a frame from the agent does to the body of the stream. A stream that has ended has
left the tables of the hub, and its frames are ignored. -/
def LocalStream.route (streamId : UInt32) (stream : LocalStream) (frame : Frame) : LocalStream :=
  if frame.streamId ≠ streamId ∨ stream.terminal then stream
  else
    match frame.msgType with
    | .responseBody =>
      match stream.pushBodyChunk frame.payload with
      | (stream, true) => stream
      | (stream, false) => stream.fail "local relay response congested"
    | .streamEnd => stream.finish
    | _ => stream

/-- The credit returned, if any: nothing once the stream has ended, and nothing below the
threshold. -/
def LocalStream.flushResponseCredit (stream : LocalStream) : Option Nat × LocalStream :=
  if stream.terminal || stream.responseConsumedSinceUpdate < stream.minWindowUpdateBytes then
    (none, stream)
  else
    let delta := min stream.responseConsumedSinceUpdate (2 ^ 32 - 1)
    (some delta,
      { stream with responseConsumedSinceUpdate := stream.responseConsumedSinceUpdate - delta })

/-! ## The two ends together -/

structure ResponseFlow where
  /-- What the relay loop has still to send. -/
  unsent : List Frame
  window : StreamSendWindow
  /-- A frame that is paid for and waits for room in its queue. -/
  holding : Option Frame
  queues : FrameQueues
  wire : List Frame
  stream : LocalStream
  /-- A chunk that `recv` has taken out and not yet handed on. -/
  pending : Option Bytes
  finished : Bool
  handed : List LocalBodyEvent
  /-- Window updates on their way to the agent. -/
  updates : List Nat

def ResponseFlow.start (streamId : UInt32) (settings : SettingsPayload) (chunks : List Bytes) :
    ResponseFlow where
  unsent := relayFrames streamId (.new settings.initialStreamWindowBytes) chunks
  window := .new settings.initialStreamWindowBytes
  holding := none
  queues := ⟨[], []⟩
  wire := []
  stream := .new settings
  pending := none
  finished := false
  handed := []
  updates := []

/-- A step of the stream: of the relay loop, the writer, the wire, the hub or the receiver. -/
inductive ResponseStep (streamId : UInt32) : ResponseFlow → ResponseFlow → Prop where
  | acquire {flow frame rest window}
      (idle : flow.holding = none) (more : flow.unsent = frame :: rest)
      (paid : flow.window.acquire frame.payload.length = some window) :
      ResponseStep streamId flow { flow with unsent := rest, window, holding := some frame }
  | send {flow frame queues}
      (held : flow.holding = some frame) (room : flow.queues.send frame = some queues) :
      ResponseStep streamId flow { flow with holding := none, queues }
  | write {flow frame queues}
      (taken : flow.queues.next = some (frame, queues)) :
      ResponseStep streamId flow { flow with queues, wire := flow.wire ++ [frame] }
  | deliver {flow frame rest}
      (arrived : flow.wire = frame :: rest) :
      ResponseStep streamId flow
        { flow with wire := rest, stream := flow.stream.route streamId frame }
  | recvChunk {flow chunk body}
      (unfinished : flow.finished = false) (ready : flow.pending = none)
      (taken : flow.stream.body.recv = some (.chunk chunk, body)) :
      ResponseStep streamId flow
        { flow with
          pending := some chunk
          stream := { flow.stream with
            body
            responseConsumedSinceUpdate :=
              min (flow.stream.responseConsumedSinceUpdate + chunk.length) (2 ^ 64 - 1) } }
  | recvLast {flow result body}
      (unfinished : flow.finished = false) (ready : flow.pending = none)
      (taken : flow.stream.body.recv = some (.ofResult result, body)) :
      ResponseStep streamId flow
        { flow with
          finished := true
          handed := flow.handed ++ [.ofResult result]
          stream := { flow.stream with body } }
  | flush {flow chunk} (ready : flow.pending = some chunk) :
      ResponseStep streamId flow
        { flow with
          pending := none
          handed := flow.handed ++ [.chunk chunk]
          stream := flow.stream.flushResponseCredit.2
          updates := flow.updates ++ flow.stream.flushResponseCredit.1.toList }
  | addCredit {flow delta rest}
      (arrived : flow.updates = delta :: rest) :
      ResponseStep streamId flow
        { flow with window := flow.window.addCredit delta, updates := rest }

/-- A frame of another stream, or one of this stream that leaves its response body alone. -/
def Foreign (streamId : UInt32) (frame : Frame) : Prop :=
  frame.streamId ≠ streamId ∨ frame.msgType = .responseHeaders ∨ frame.msgType = .windowUpdate

instance (streamId : UInt32) (frame : Frame) : Decidable (Foreign streamId frame) :=
  inferInstanceAs (Decidable (_ ∨ _ ∨ _))

/-- Other traffic of the connection joins the queues at any time. -/
inductive OtherTraffic (streamId : UInt32) : ResponseFlow → ResponseFlow → Prop where
  | send {flow frame queues}
      (other : Foreign streamId frame) (room : flow.queues.send frame = some queues) :
      OtherTraffic streamId flow { flow with queues }

def ResponseMove (streamId : UInt32) (before after : ResponseFlow) : Prop :=
  ResponseStep streamId before after ∨ OtherTraffic streamId before after

/-- The states that the stream reaches, under every interleaving. -/
def ResponseReaches (streamId : UInt32) (settings : SettingsPayload) (chunks : List Bytes)
    (flow : ResponseFlow) : Prop :=
  Relation.ReflTransGen (ResponseMove streamId) (.start streamId settings chunks) flow

end Aeris.Tunnel
