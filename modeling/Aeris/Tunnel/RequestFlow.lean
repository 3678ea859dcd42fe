import Aeris.Tunnel.ResponseFlow

/-! Flow control of one tunnelled request body. The gateway pays for each frame out of a
byte window; the agent puts the frames into a channel that holds a number of frames, spools
them for the upstream, and returns the credit of a payload when it keeps it for a redirect
or when the upstream takes it. -/
namespace Aeris.Tunnel

open ByteEncoding

/-! ## The gateway -/

structure StreamFlowWindow where
  available : Nat
  deriving DecidableEq, Repr

def StreamFlowWindow.new (initial : Nat) : StreamFlowWindow := ⟨initial⟩

/-- `none` while the caller has to wait. -/
def StreamFlowWindow.acquire (window : StreamFlowWindow) (bytes : Nat) : Option StreamFlowWindow :=
  (Credit.spend window.available bytes).map fun available => ⟨available⟩

def StreamFlowWindow.add (window : StreamFlowWindow) (delta : Nat) : StreamFlowWindow :=
  ⟨Credit.refill window.available delta⟩

def maxRequestBodyFrameSize : Nat := 32 * 1024

def Frame.isEndStream (frame : Frame) : Bool := frame.flags &&& flagEndStream ≠ 0

def requestBodyFrame (streamId : UInt32) (payload : Bytes) (endStream : Bool) : Frame :=
  ⟨streamId, .requestBody, if endStream then flagEndStream else 0, payload⟩

/-- The last chunk of a payload carries the end of the stream, if the payload has it. -/
def chunkFrames (streamId : UInt32) (endStream : Bool) : List Bytes → List Frame
  | [] => []
  | [chunk] => [requestBodyFrame streamId chunk endStream]
  | chunk :: rest => requestBodyFrame streamId chunk false :: chunkFrames streamId endStream rest

/-- The frames that one call of `push_local_request_body` sends. -/
def pushLocalRequestBody (streamId : UInt32) (chunkSize : Nat) (payload : Bytes)
    (endStream : Bool) : List Frame :=
  if payload = [] then if endStream then [requestBodyFrame streamId [] true] else []
  else chunkFrames streamId endStream (Credit.slices chunkSize payload)

def requestChunkSize (window : Nat) : Nat := min maxRequestBodyFrameSize window

/-- A request body: the payloads of the calls, the last one of which ends the stream. -/
structure RequestBody where
  payloads : List Bytes
  last : Bytes
  deriving DecidableEq

def RequestBody.bytes (body : RequestBody) : Bytes := body.payloads.flatten ++ body.last

def RequestBody.frames (streamId : UInt32) (window : Nat) (body : RequestBody) : List Frame :=
  body.payloads.flatMap
      (fun payload => pushLocalRequestBody streamId (requestChunkSize window) payload false) ++
    pushLocalRequestBody streamId (requestChunkSize window) body.last true

/-! ## The agent: what is kept for a redirect -/

def redirectReplayPerRequestBudgetBytes : Nat := 5 * 1024 * 1024
def redirectReplayMaxChunks : Nat := 1024

inductive RequestBodyReplayStatus where
  | collecting (chunks : List Bytes) (bufferedLen : Nat)
  | ready (chunks : List Bytes) (bufferedLen : Nat)
  | empty
  | nonReplayable
  deriving DecidableEq

/-- `reserved` is the answer of the budget that all streams of the agent share. -/
def RequestBodyReplayStatus.pushChunk (payload : Bytes) (reserved : Bool) :
    RequestBodyReplayStatus → Bool × RequestBodyReplayStatus
  | .collecting chunks bufferedLen =>
    if bufferedLen + payload.length > redirectReplayPerRequestBudgetBytes ||
        chunks.length ≥ redirectReplayMaxChunks || !reserved then (false, .nonReplayable)
    else (true, .collecting (chunks ++ [payload]) (bufferedLen + payload.length))
  | status => (false, status)

def RequestBodyReplayStatus.disableReplay : RequestBodyReplayStatus → RequestBodyReplayStatus
  | .collecting _ _ | .ready _ _ => .nonReplayable
  | status => status

def RequestBodyReplayStatus.discard : RequestBodyReplayStatus → RequestBodyReplayStatus
  | .collecting _ _ | .ready _ _ | .empty => .nonReplayable
  | status => status

def RequestBodyReplayStatus.finish : RequestBodyReplayStatus → RequestBodyReplayStatus
  | .collecting chunks bufferedLen => if bufferedLen = 0 then .empty else .ready chunks bufferedLen
  | status => status

/-! ## The agent: dispatcher and spool -/

def bodyCapacity (initialWindowBytes : Nat) : Nat :=
  max ((initialWindowBytes + 32 * 1024 - 1) / (32 * 1024) + 1) 64

inductive StreamDispatchStatus where
  | delivered
  | closed
  | congested
  deriving DecidableEq, Repr

def requestBodySpoolQueueCapacity : Nat := 64

inductive SpoolBodyEvent where
  | data (payload : Bytes) (creditReturned : Bool)
  | ended
  deriving DecidableEq

structure RequestFlow where
  /-- What the calls of the gateway have still to send. -/
  unsent : List Frame
  window : StreamFlowWindow
  /-- A frame that is paid for and waits for room in the outbound queue. -/
  holding : Option Frame
  outbound : List Frame
  wire : List Frame
  channel : List Frame
  /-- The stream has been given up because a frame found the channel full. -/
  aborted : Bool
  replay : Option RequestBodyReplayStatus
  /-- Events that the spool task has still to send for the frame it has taken. -/
  spooling : List SpoolBodyEvent
  /-- The spool task has seen the end of the stream, and its channel is closed. -/
  closed : Bool
  spool : List SpoolBodyEvent
  upstream : List Bytes
  ended : Bool
  /-- Window updates on their way to the gateway. -/
  updates : List Nat
  /-- The payloads that the spool task has taken from the channel. -/
  taken : List Bytes
  /-- The payloads whose credit has been returned, in that order. -/
  returned : List Bytes

def RequestFlow.start (streamId : UInt32) (window : Nat) (captureForRedirects : Bool)
    (body : RequestBody) : RequestFlow where
  unsent := body.frames streamId window
  window := .new window
  holding := none
  outbound := []
  wire := []
  channel := []
  aborted := false
  replay := if captureForRedirects then some (.collecting [] 0) else none
  spooling := []
  closed := false
  spool := []
  upstream := []
  ended := false
  updates := []
  taken := []
  returned := []

/-- `send_window_update`: a payload without bytes returns nothing. -/
def RequestFlow.sendWindowUpdate (flow : RequestFlow) (payload : Bytes) : RequestFlow :=
  if payload.length = 0 then flow
  else
    { flow with
      updates := flow.updates ++ [min payload.length (2 ^ 32 - 1)]
      returned := flow.returned ++ [payload] }

def dispatchStreamFrame (window : Nat) (flow : RequestFlow) : StreamDispatchStatus :=
  if flow.closed then .closed
  else if flow.channel.length < bodyCapacity window then .delivered
  else .congested

def RequestFlow.dispatch (window : Nat) (flow : RequestFlow) (frame : Frame) : RequestFlow :=
  -- a stream that was given up is not in the table any more
  if flow.aborted then flow
  else
    match dispatchStreamFrame window flow with
    | .delivered => { flow with channel := flow.channel ++ [frame] }
    | .closed => flow
    | .congested => { flow with aborted := true }

/-- `push_chunk` for a payload that is not empty; without a replay state nothing is kept. -/
def RequestFlow.retain (flow : RequestFlow) (payload : Bytes) (reserved : Bool) :
    Bool × Option RequestBodyReplayStatus :=
  match flow.replay with
  | none => (false, none)
  | some status => ((status.pushChunk payload reserved).1, some
    (status.pushChunk payload reserved).2)

/-- The spool task with a frame it has taken from the channel, up to its first send. -/
def RequestFlow.spoolFrame (flow : RequestFlow) (frame : Frame) (reserved : Bool) : RequestFlow :=
  if frame.payload = [] then
    if frame.isEndStream then
      { flow with
        replay := flow.replay.map RequestBodyReplayStatus.finish
        spooling := [.ended]
        closed := true }
    else flow
  else
    let kept := flow.retain frame.payload reserved
    let flow := { flow with replay := kept.2, taken := flow.taken ++ [frame.payload] }
    let flow := if kept.1 then flow.sendWindowUpdate frame.payload else flow
    { flow with
      spooling := .data frame.payload kept.1 :: if frame.isEndStream then [.ended] else []
      closed := frame.isEndStream }

/-- The replay state once an event has been sent: it is finished before the end is sent. -/
def replayAfterSend (replay : Option RequestBodyReplayStatus) :
    List SpoolBodyEvent → Option RequestBodyReplayStatus
  | .ended :: _ => replay.map RequestBodyReplayStatus.finish
  | _ => replay

/-- The upstream takes the next event of the spool. -/
def RequestFlow.consume (flow : RequestFlow) : SpoolBodyEvent → RequestFlow
  | .data payload creditReturned =>
    let flow := if creditReturned then flow else flow.sendWindowUpdate payload
    { flow with upstream := flow.upstream ++ [payload] }
  | .ended => { flow with ended := true }

inductive RequestStep (window outboundCapacity : Nat) : RequestFlow → RequestFlow → Prop where
  | acquire {flow frame rest paid}
      (idle : flow.holding = none) (more : flow.unsent = frame :: rest)
      (paying : flow.window.acquire frame.payload.length = some paid) :
      RequestStep window outboundCapacity flow
        { flow with unsent := rest, window := paid, holding := some frame }
  | send {flow frame} (held : flow.holding = some frame)
      (room : flow.outbound.length < outboundCapacity) :
      RequestStep window outboundCapacity flow
        { flow with holding := none, outbound := flow.outbound ++ [frame] }
  | write {flow frame rest}
      (queued : flow.outbound = frame :: rest) :
      RequestStep window outboundCapacity flow
        { flow with outbound := rest, wire := flow.wire ++ [frame] }
  | dispatch {flow frame rest}
      (arrived : flow.wire = frame :: rest) :
      RequestStep window outboundCapacity flow
        (RequestFlow.dispatch window { flow with wire := rest } frame)
  | spoolFrame {flow frame rest} (reserved : Bool)
      (alive : flow.aborted = false) (isOpen : flow.closed = false) (idle : flow.spooling = [])
      (waiting : flow.channel = frame :: rest) :
      RequestStep window outboundCapacity flow
        (RequestFlow.spoolFrame { flow with channel := rest } frame reserved)
  | spoolFull {flow event rest}
      (alive : flow.aborted = false) (sending : flow.spooling = event :: rest)
      (full : requestBodySpoolQueueCapacity ≤ flow.spool.length) :
      RequestStep window outboundCapacity flow
        { flow with replay := flow.replay.map RequestBodyReplayStatus.disableReplay }
  | spoolSend {flow event rest}
      (alive : flow.aborted = false) (sending : flow.spooling = event :: rest)
      (room : flow.spool.length < requestBodySpoolQueueCapacity) :
      RequestStep window outboundCapacity flow
        { flow with
          spool := flow.spool ++ [event]
          spooling := rest
          replay := replayAfterSend flow.replay rest }
  | consume {flow event rest}
      (alive : flow.aborted = false) (running : flow.ended = false)
      (queued : flow.spool = event :: rest) :
      RequestStep window outboundCapacity flow
        (RequestFlow.consume { flow with spool := rest } event)
  | discard {flow} :
      RequestStep window outboundCapacity flow
        { flow with replay := flow.replay.map RequestBodyReplayStatus.discard }
  | addWindow {flow delta rest}
      (arrived : flow.updates = delta :: rest) :
      RequestStep window outboundCapacity flow
        { flow with window := flow.window.add delta, updates := rest }

/-- The states that the body reaches, under every interleaving. -/
def RequestReaches (streamId : UInt32) (window outboundCapacity : Nat)
    (captureForRedirects : Bool) (body : RequestBody) (flow : RequestFlow) : Prop :=
  Relation.ReflTransGen (RequestStep window outboundCapacity)
    (.start streamId window captureForRedirects body) flow

end Aeris.Tunnel
