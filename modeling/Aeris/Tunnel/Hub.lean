import Aeris.Tunnel.ResponseFlow
import Mathlib.Data.List.AList
import Mathlib.Data.Finset.Card

/-! The tunnel hub of the gateway: its connections, its streams, and the table that leads from a
connection and a stream id to a stream. Every call is one step. Connections and streams are shared
objects, which outlive their entries in the tables; what streams are given is kept in a log. -/
namespace Aeris.Tunnel

open ByteEncoding

inductive SendStatus where
  | queued
  | closed
  | congested
  deriving DecidableEq, Repr

structure ProxyConn where
  nodeId : String
  nextStreamId : Nat
  streamCount : Nat
  maxStreams : Nat
  draining : Bool
  closing : Bool
  settings : SettingsPayload
  deriving DecidableEq

def ProxyConn.new (nodeId : String) (maxStreams : Nat) (settings : SettingsPayload) : ProxyConn :=
  ⟨nodeId, 2, 0, maxStreams, false, false, settings⟩

def ProxyConn.isAvailable (conn : ProxyConn) : Bool := !conn.closing && !conn.draining

/-- A place among the streams, and the next of the even stream ids, starting again at 2. -/
def ProxyConn.allocStreamId (conn : ProxyConn) : Option (Nat × ProxyConn) :=
  if conn.streamCount ≥ conn.maxStreams || !conn.isAvailable then none
  else
    some (conn.nextStreamId,
      { conn with
        streamCount := conn.streamCount + 1
        nextStreamId := if conn.nextStreamId ≥ 0xFFFFFFFE then 2 else conn.nextStreamId + 2 })

def ProxyConn.releaseStream (conn : ProxyConn) : ProxyConn :=
  { conn with streamCount := conn.streamCount - 1 }

def ProxyConn.requestClose (conn : ProxyConn) : ProxyConn := { conn with closing := true }

structure ResponseMeta where
  status : Nat
  headers : List (String × String)
  deriving DecidableEq

/-- A stream with what the hub keeps of it: where it was opened, and the head of the response
or why there is none. -/
structure HubStream where
  proxyConnId : Nat
  proxyStreamId : Nat
  response : Option ResponseMeta
  error : Option String
  stream : LocalStream

def HubStream.new (proxyConnId proxyStreamId : Nat) (settings : SettingsPayload) : HubStream :=
  ⟨proxyConnId, proxyStreamId, none, none, .new settings⟩

def HubStream.setResponseHeaders (stream : HubStream) (head : ResponseMeta) : HubStream :=
  if stream.response.isNone && stream.error.isNone then { stream with response := some head }
  else stream

/-- `finish` and `fail`: the first of them counts. -/
def HubStream.stop (stream : HubStream) (error : String) (result : Except String Unit) :
    HubStream :=
  if stream.stream.terminal then stream
  else
    { stream with
      error := if stream.response.isNone && stream.error.isNone then some error else stream.error
      stream := stream.stream.stop result }

inductive HubEvent where
  | opened (stream conn streamId : Nat)
  | head (stream conn streamId : Nat)
  | body (stream conn streamId : Nat) (payload : Bytes)
  | ended (stream : Nat) (result : Except String Unit)

structure HubRouter where
  conns : Nat → ProxyConn
  streams : Nat → HubStream
  /-- The keys of `proxy_conns_by_id`. -/
  registered : Finset Nat
  /-- The entries of `proxy_conns`. -/
  nodeConns : List (String × Nat)
  /-- The keys of `local_streams`. -/
  localStreams : Finset Nat
  proxyToLocal : AList (fun _ : Nat × Nat => Nat)
  nextConnId : Nat
  nextLocalStreamId : Nat
  log : List HubEvent

def HubRouter.new : HubRouter where
  conns := fun _ => .new "" 0 ⟨0, 0, 0⟩
  streams := fun _ => .new 0 0 ⟨0, 0, 0⟩
  registered := ∅
  nodeConns := []
  localStreams := ∅
  proxyToLocal := ∅
  nextConnId := 1
  nextLocalStreamId := 1
  log := []

namespace HubRouter

def updateConn (hub : HubRouter) (conn : Nat) (change : ProxyConn → ProxyConn) : HubRouter :=
  { hub with conns := Function.update hub.conns conn (change (hub.conns conn)) }

/-- A connection that is in `proxy_conns_by_id` is changed; one that is not, is not found. -/
def withConn (hub : HubRouter) (conn : Nat) (change : ProxyConn → ProxyConn) : HubRouter :=
  if conn ∈ hub.registered then hub.updateConn conn change else hub

def updateStream (hub : HubRouter) (stream : Nat) (value : HubStream) : HubRouter :=
  { hub with streams := Function.update hub.streams stream value }

def record (hub : HubRouter) (event : HubEvent) : HubRouter :=
    { hub with log := hub.log ++ [event] }

/-- The outcome of a stream, if it has none yet. -/
def stop (hub : HubRouter) (stream : Nat) (error : String) (result : Except String Unit) :
    HubRouter :=
  if (hub.streams stream).stream.terminal then hub
  else (hub.updateStream stream ((hub.streams stream).stop error result)).record
    (.ended stream result)

def fail (hub : HubRouter) (stream : Nat) (error : String) : HubRouter :=
  hub.stop stream error (.error error)

def finish (hub : HubRouter) (stream : Nat) : HubRouter :=
  hub.stop stream "stream ended before response headers" (.ok ())

/-! ## Connections -/

/-- `alloc_conn_id` and `register_proxy`. -/
def registerProxy (hub : HubRouter) (conn : ProxyConn) : HubRouter :=
  { hub with
    conns := Function.update hub.conns hub.nextConnId conn
    registered := insert hub.nextConnId hub.registered
    nodeConns := hub.nodeConns ++ [(conn.nodeId, hub.nextConnId)]
    nextConnId := hub.nextConnId + 1 }

/-- The stream ids under which the table leads from a connection. -/
def streamIds (hub : HubRouter) (conn : Nat) : List Nat :=
  (hub.proxyToLocal.keys.filter (fun key => key.1 = conn)).map Prod.snd

/-- One entry of `cancel_streams_for_proxy`. -/
def disconnectStream (conn : Nat) (hub : HubRouter) (streamId : Nat) : HubRouter :=
  match hub.proxyToLocal.lookup (conn, streamId) with
  | none => hub
  | some stream =>
    let hub' := { hub with proxyToLocal := hub.proxyToLocal.erase (conn, streamId) }
    if stream ∈ hub.localStreams then
      fail { hub' with localStreams := hub.localStreams.erase stream } stream "proxy disconnected"
    else hub'

/-- `order` is the order in which the table is gone through. -/
def unregisterProxy (hub : HubRouter) (conn : Nat) (nodeId : String) (order : List Nat) :
    HubRouter :=
  order.foldl (disconnectStream conn)
    { hub with
      registered := hub.registered.erase conn
      nodeConns := hub.nodeConns.filter (fun entry => ¬(entry.1 = nodeId ∧ entry.2 = conn)) }

/-! ## Opening a stream -/

/-- The first of the candidates that has a place and an id for the stream. -/
def selectCandidate (hub : HubRouter) : List Nat → Option (Nat × Nat × ProxyConn)
  | [] => none
  | conn :: rest =>
    match (hub.conns conn).allocStreamId with
    | some (streamId, after) => some (conn, streamId, after)
    | none => hub.selectCandidate rest

def cleanupLocalStream (hub : HubRouter) (stream : Nat) : HubRouter × Bool :=
  if stream ∈ hub.localStreams then
    ({ hub with
        localStreams := hub.localStreams.erase stream
        proxyToLocal := hub.proxyToLocal.erase
          ((hub.streams stream).proxyConnId, (hub.streams stream).proxyStreamId) }, true)
  else (hub, false)

def insertStream (hub : HubRouter) (conn streamId : Nat) : HubRouter :=
  { hub with
    streams := Function.update hub.streams hub.nextLocalStreamId
      (.new conn streamId (hub.conns conn).settings)
    localStreams := insert hub.nextLocalStreamId hub.localStreams
    proxyToLocal := hub.proxyToLocal.insert (conn, streamId) hub.nextLocalStreamId
    nextLocalStreamId := hub.nextLocalStreamId + 1 }

/-- The end of an open once the stream is in the tables: it stays there if the headers could be
queued, and the guard takes it out if not. -/
def commitStream (hub : HubRouter) (stream conn streamId : Nat) (sent : SendStatus) :
    HubRouter × Except String Nat :=
  match sent with
  | .queued => (hub.record (.opened stream conn streamId), .ok stream)
  | .closed | .congested =>
    match hub.cleanupLocalStream stream with
    | (hub, true) => (hub.updateConn conn .releaseStream, .error "proxy connection congested")
    | (hub, false) => (hub, .error "proxy connection congested")

/-- `candidates` is the ranked list of connections; `encoded` is the outcome of encoding the
request metadata and `sent` that of queueing them. -/
def openLocalStream (hub : HubRouter) (nodeId : String) (candidates : List Nat)
    (encoded : Except String Unit) (sent : SendStatus) : HubRouter × Except String Nat :=
  if candidates = [] then (hub, .error ("no proxy connection for node " ++ nodeId))
  else
    match hub.selectCandidate candidates with
    | none => (hub, .error ("stream limit reached for node " ++ nodeId))
    | some (conn, streamId, after) =>
      let hub := hub.updateConn conn fun _ => after
      match encoded with
      | .error message => (hub.updateConn conn .releaseStream, .error message)
      | .ok () =>
        (hub.insertStream conn streamId).commitStream hub.nextLocalStreamId conn streamId sent

/-! ## Ending a stream -/

def cancelLocalStream (hub : HubRouter) (stream : Nat) (reason : String) (sent : SendStatus) :
    HubRouter :=
  if stream ∈ hub.localStreams then
    let conn := (hub.streams stream).proxyConnId
    let hub :=
      { hub with
        localStreams := hub.localStreams.erase stream
        proxyToLocal := hub.proxyToLocal.erase (conn, (hub.streams stream).proxyStreamId) }
    let hub := hub.withConn conn .releaseStream
    let hub := if sent = .queued then hub else hub.withConn conn .requestClose
    hub.fail stream reason
  else hub

def handleStreamCleanup (hub : HubRouter) (conn streamId : Nat) : HubRouter × Option Nat :=
  match hub.proxyToLocal.lookup (conn, streamId) with
  | none => (hub, none)
  | some stream =>
    let hub := { hub with proxyToLocal := hub.proxyToLocal.erase (conn, streamId) }
    if stream ∈ hub.localStreams then
      (withConn { hub with localStreams := hub.localStreams.erase stream } conn .releaseStream,
        some stream)
    else (hub, none)

def finishProxyStream (hub : HubRouter) (conn streamId : Nat) : HubRouter :=
  match hub.handleStreamCleanup conn streamId with
  | (hub, some stream) => hub.finish stream
  | (hub, none) => hub

def failProxyStream (conn : Nat) (error : String) (hub : HubRouter) (streamId : Nat) : HubRouter :=
  match hub.handleStreamCleanup conn streamId with
  | (hub, some stream) => hub.fail stream error
  | (hub, none) => hub

/-- `reset_streams_for_proxy` and `reset_streams_after_last_accepted`, on the ids they have
collected. A reset also tells the agent, which changes nothing here. -/
def resetStreams (hub : HubRouter) (conn : Nat) (reason : String) (order : List Nat) : HubRouter :=
  order.foldl (failProxyStream conn reason) hub

/-! ## Frames from the agent -/

structure GoAwayPayload where
  lastAcceptedStreamId : Nat
  reason : String
  drainDeadlineMs : Nat
  deriving DecidableEq

/-- How payloads are read. Nothing here depends on it. -/
structure PayloadReaders where
  decodePayloadWithLimit : Bytes → FrameHeader → Nat → Option Bytes
  responseMeta : Bytes → Option ResponseMeta
  errorMessage : Option Bytes → String
  resetReason : Option Bytes → String
  goAway : Bytes → Option GoAwayPayload
  settings : Bytes → Option SettingsPayload

def maxTunnelControlPayloadSize : Nat := 256 * 1024

section

variable (readers : PayloadReaders) (hub : HubRouter) (conn : Nat) (header : FrameHeader)
  (data : Bytes)

def routeResponseHeaders : HubRouter :=
  let streamId := header.streamId.toNat
  match hub.proxyToLocal.lookup (conn, streamId) with
  | none => hub
  | some stream =>
    match readers.decodePayloadWithLimit data header maxTunnelControlPayloadSize with
    | none => hub.failProxyStream conn "failed to decode response headers" streamId
    | some payload =>
      match readers.responseMeta payload with
      | none => hub.failProxyStream conn "invalid response headers payload" streamId
      | some head =>
        if stream ∈ hub.localStreams then
          (hub.updateStream stream ((hub.streams stream).setResponseHeaders head)).record
            (.head stream conn streamId)
        else hub

def routeResponseBody (sent : SendStatus) : HubRouter :=
  let streamId := header.streamId.toNat
  match hub.proxyToLocal.lookup (conn, streamId) with
  | none => hub
  | some stream =>
    match readers.decodePayloadWithLimit data header maxTunnelDecompressedPayloadBytes with
    | none => hub.failProxyStream conn "failed to decode response body" streamId
    | some payload =>
      if stream ∈ hub.localStreams then
        let value := hub.streams stream
        match value.stream.pushBodyChunk payload with
        | (after, true) =>
          (hub.updateStream stream { value with stream := after }).record
            (.body stream conn streamId payload)
        | (after, false) =>
          (hub.updateStream stream { value with stream := after }).cancelLocalStream stream
            "local relay response congested" sent
      else hub

/-- A first GOAWAY: the connection takes no more streams, and those the agent did not accept
are reset. The reset after the drain deadline is a step of its own. -/
def handleGoAway (order : List Nat) : HubRouter :=
  if conn ∈ hub.registered && !(hub.conns conn).draining then
    let hub := hub.updateConn conn fun conn => { conn with draining := true }
    let last := ((readers.decodePayloadWithLimit data header maxTunnelControlPayloadSize).bind
      readers.goAway).elim 0xFFFFFFFF GoAwayPayload.lastAcceptedStreamId
    if last = 0xFFFFFFFF then hub
    else
      hub.resetStreams conn "goaway_last_accepted_exceeded"
        (order.filter (fun streamId => streamId > last))
  else hub

end

def handleSettings (readers : PayloadReaders) (localSettings : SettingsPayload) (hub : HubRouter)
    (conn : Nat) (header : FrameHeader) (data : Bytes) : HubRouter :=
  let settings := ((readers.decodePayloadWithLimit data header maxTunnelControlPayloadSize).bind
    readers.settings).filter SettingsPayload.isValid
  hub.withConn conn fun conn =>
    if header.streamId ≠ 0 || header.flags ≠ 0 then conn.requestClose
    else
      match settings with
      | none => conn.requestClose
      | some settings =>
        let settings := settings.negotiate localSettings.initialStreamWindowBytes
          localSettings.drainDeadlineMs
        if conn.streamCount > 0 && conn.settings ≠ settings then conn.requestClose
        else { conn with settings }

/-- `sent` is the outcome of what the hub sends to the agent in the course of the call. -/
def handleProxyFrame (readers : PayloadReaders) (localSettings : SettingsPayload) (hub : HubRouter)
    (conn : Nat) (data : Bytes) (sent : SendStatus) (order : List Nat) : HubRouter :=
  match FrameHeader.parse data with
  | some (some header) =>
    if data.length ≠ headerSize + header.payloadLen.toNat then
      if header.streamId ≠ 0 then
        hub.failProxyStream conn "invalid frame length" header.streamId.toNat
      else hub
    else
      match MsgType.fromU8 header.msgType with
      | some .responseHeaders => routeResponseHeaders readers hub conn header data
      | some .responseBody => routeResponseBody readers hub conn header data sent
      | some .streamEnd => hub.finishProxyStream conn header.streamId.toNat
      | some .streamError =>
        hub.failProxyStream conn (readers.errorMessage
          (readers.decodePayloadWithLimit data header maxTunnelControlPayloadSize))
          header.streamId.toNat
      | some .resetStream =>
        hub.failProxyStream conn (readers.resetReason
          (readers.decodePayloadWithLimit data header maxTunnelControlPayloadSize))
          header.streamId.toNat
      | some .goAway => handleGoAway readers hub conn header data order
      | some .settings => handleSettings readers localSettings hub conn header data
      | some .connectionClose => hub.withConn conn .requestClose
      -- heartbeats, pings, greetings, window updates and load reports leave the tables alone;
      -- a failed send closes the connection, which is a step of its own
      | _ => hub
  | _ => hub

/-! ## Runs -/

/-- The receiver of a body takes an event out, or goes away. -/
def receiverStep (hub : HubRouter) (stream : Nat) (body : ResponseBuffer) : HubRouter :=
  hub.updateStream stream
    { hub.streams stream with stream := { (hub.streams stream).stream with body } }

def dropReceiver (body : ResponseBuffer) : ResponseBuffer :=
  { body with receiverClosed := true, chunks := [], bytes := 0 }

inductive Action where
  | register (nodeId : String) (maxStreams : Nat) (settings : SettingsPayload)
  | unregister (conn : Nat) (nodeId : String) (order : List Nat)
  | openStream (nodeId : String) (candidates : List Nat) (encoded : Except String Unit)
      (sent : SendStatus)
  | cancel (stream : Nat) (reason : String) (sent : SendStatus)
  | frame (conn : Nat) (data : Bytes) (sent : SendStatus) (order : List Nat)
  | drainDeadline (conn : Nat) (reason : String) (order : List Nat)
  | close (conn : Nat)
  | recv (stream : Nat)
  | dropReceiver (stream : Nat)

/-- Candidates are available connections of the node, and tables are gone through whole. -/
def Allowed (hub : HubRouter) : Action → Prop
  | .unregister conn _ order | .frame conn _ _ order | .drainDeadline conn _ order =>
    order.Perm (hub.streamIds conn)
  | .openStream nodeId candidates _ _ =>
    ∀ conn ∈ candidates, (nodeId, conn) ∈ hub.nodeConns ∧ (hub.conns conn).isAvailable
  | _ => True

section

variable (readers : PayloadReaders) (localSettings : SettingsPayload)

def act (hub : HubRouter) : Action → HubRouter
  | .register nodeId maxStreams settings => hub.registerProxy (.new nodeId maxStreams settings)
  | .unregister conn nodeId order => hub.unregisterProxy conn nodeId order
  | .openStream nodeId candidates encoded sent =>
    (hub.openLocalStream nodeId candidates encoded sent).1
  | .cancel stream reason sent => hub.cancelLocalStream stream reason sent
  | .frame conn data sent order => hub.handleProxyFrame readers localSettings conn data sent order
  | .drainDeadline conn reason order =>
    hub.resetStreams conn ("drain_deadline_exceeded_" ++ reason) order
  | .close conn => hub.updateConn conn .requestClose
  | .recv stream =>
    match (hub.streams stream).stream.body.recv with
    | some (_, body) => hub.receiverStep stream body
    | none => hub
  | .dropReceiver stream =>
    hub.receiverStep stream (HubRouter.dropReceiver (hub.streams stream).stream.body)

def Step (before after : HubRouter) : Prop :=
  ∃ action, before.Allowed action ∧ after = before.act readers localSettings action

def Reaches (hub : HubRouter) : Prop :=
  Relation.ReflTransGen (Step readers localSettings) .new hub

end

end HubRouter

end Aeris.Tunnel
