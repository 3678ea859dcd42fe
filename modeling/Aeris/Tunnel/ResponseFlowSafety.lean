import Aeris.Tunnel.ResponseFlow

/-! What holds in every state that a response stream reaches: no byte is lost or
repeated, no credit is lost or made up, and so the buffer always has room. Whether the
stream can always go on depends on the settings. -/
namespace Aeris.Tunnel

open ByteEncoding Relation List Option
open ResponseBuffer (push recv)
open ResponseFlow (start)

/-! ## Pieces of the two ends -/

theorem acquire_available {window after : StreamSendWindow} {bytes}
    (paid : window.acquire bytes = some after) : after.available + bytes = window.available := by
  obtain ⟨left, spent, rfl⟩ := map_eq_some_iff.mp paid
  exact (Credit.spend_eq_some ..).mp spent

theorem acquire_isSome (window : StreamSendWindow) (bytes : Nat) :
    (window.acquire bytes).isSome ↔ bytes ≤ window.available := by
  rw [StreamSendWindow.acquire, isSome_map, Credit.spend_isSome]

theorem relayPayloads_flatten {size} (positive : 0 < size) (chunk : Bytes) :
    (relayPayloads size chunk).flatten = chunk := by
  unfold relayPayloads
  split
  · simp
  · exact Credit.slices_flatten positive chunk

theorem relayPayloads_short (size : Nat) (chunk : Bytes) :
    ∀ payload ∈ relayPayloads size chunk, payload.length ≤ size := by
  unfold relayPayloads
  split
  · simpa
  · exact Credit.slices_length_le size chunk

theorem relay_flatten {size} (positive : 0 < size) (chunks : List Bytes) :
    (chunks.flatMap (relayPayloads size)).flatten = chunks.flatten := by
  induction chunks with
  | nil => rfl
  | cons chunk rest ih => simp [ih, relayPayloads_flatten positive]

theorem fillChunks_flatten (chunks : List Bytes) (payload : Bytes) :
    (fillChunks chunks payload).flatten = chunks.flatten ++ payload := by
  fun_induction fillChunks chunks payload with
  | case1 chunks => simp
  | case2 chunks payload more tail last room ih =>
    have parts := dropLast_append_getLast? tail last
    rw [ih]
    nth_rewrite 2 [← parts]
    simp
  | case3 chunks payload more tail last full ih | case4 chunks payload more last ih => simp [ih]

theorem fillChunks_length (chunks : List Bytes) {payload} (fits : payload.length ≤ chunkBytes) :
    (fillChunks chunks payload).length ≤ chunks.length + 1 := by
  have last (chunks : List Bytes) : fillChunks chunks [] = chunks := by rw [fillChunks, if_pos rfl]
  fun_induction fillChunks chunks payload with
  | case1 chunks => omega
  | case2 chunks payload more tail isLast room ih =>
    have some : chunks ≠ [] := by
      rintro rfl
      cases isLast
    have same : (chunks.dropLast ++ [tail ++ payload.take (chunkBytes - tail.length)]).length =
        chunks.length := by
      have := length_pos_iff.mpr some
      simp only [length_append, length_dropLast, length_singleton]
      omega
    rw [← same]
    exact ih (by simp only [length_drop]; omega)
  | case3 chunks payload more tail isLast full ih | case4 chunks payload more isLast ih =>
    rw [drop_eq_nil_of_le fits, last]
    simp

theorem push_accepts {buffer : ResponseBuffer} {payload} (more : buffer.terminal = none)
    (listening : buffer.receiverClosed = false)
    (room : buffer.bytes + payload.length ≤ buffer.capacity) : buffer.push payload =
      ({ buffer with
          bytes := buffer.bytes + payload.length
          chunks := fillChunks buffer.chunks payload }, true) := by
  have fits : ¬ payload.length > buffer.capacity - buffer.bytes := by omega
  simp [push, more, listening, fits]

theorem route_foreign {streamId frame} (other : Foreign streamId frame)
    (stream : LocalStream) : stream.route streamId frame = stream := by
  unfold LocalStream.route
  split
  · rfl
  · next here =>
    rcases other with elsewhere | headers | update
    · exact absurd (.inl elsewhere) here
    · rw [headers]
    · rw [update]

/-! ## The invariant -/

/-- The frames of the stream's response body among others. -/
def own (streamId : UInt32) (frames : List Frame) : List Frame :=
  frames.filter (fun frame => ¬Foreign streamId frame)

/-- Sent by the relay loop and not yet at the gateway, oldest first. -/
def ResponseFlow.inFlight (streamId : UInt32) (flow : ResponseFlow) : List Frame :=
  own streamId flow.wire ++ own streamId flow.queues.normal ++ flow.holding.toList

def ResponseFlow.pipeline (streamId : UInt32) (flow : ResponseFlow) : List Frame :=
  flow.inFlight streamId ++ flow.unsent

def payloadBytes (frames : List Frame) : Bytes := frames.flatMap Frame.payload

def LocalBodyEvent.bytes : LocalBodyEvent → Bytes
  | .chunk bytes => bytes
  | _ => []

def handedBytes (events : List LocalBodyEvent) : Bytes := events.flatMap LocalBodyEvent.bytes

/-- At the gateway, oldest first. -/
def ResponseFlow.received (flow : ResponseFlow) : Bytes :=
  handedBytes flow.handed ++ flow.pending.getD [] ++ flow.stream.body.chunks.flatten

open ResponseFlow (inFlight)

@[simp] theorem own_append (streamId : UInt32) (first second : List Frame) :
    own streamId (first ++ second) = own streamId first ++ own streamId second :=
  filter_append ..

theorem own_foreign {streamId frame} (other : Foreign streamId frame)
    (frames : List Frame) : own streamId (frame :: frames) = own streamId frames := by
  simp [own, other]

theorem own_mine {streamId frame} (mine : ¬Foreign streamId frame)
    (frames : List Frame) : own streamId (frame :: frames) = frame :: own streamId frames := by
  simp [own, mine]

@[simp] theorem own_nil (streamId : UInt32) : own streamId [] = [] := rfl

@[simp] theorem payloadBytes_append (first second : List Frame) :
    payloadBytes (first ++ second) = payloadBytes first ++ payloadBytes second := by
  simp [payloadBytes]

@[simp] theorem payloadBytes_cons (frame : Frame) (frames : List Frame) :
    payloadBytes (frame :: frames) = frame.payload ++ payloadBytes frames := by
  simp [payloadBytes]

@[simp] theorem payloadBytes_nil : payloadBytes [] = [] := rfl

theorem payloadBytes_bodies (streamId : UInt32) (payloads : List Bytes) :
    payloadBytes (payloads.map (responseBodyFrame streamId)) = payloads.flatten := by
  induction payloads with
  | nil => rfl
  | cons payload rest ih => simp [ih, responseBodyFrame]

@[simp] theorem handedBytes_append (first second : List LocalBodyEvent) :
    handedBytes (first ++ second) = handedBytes first ++ handedBytes second := by
  simp [handedBytes]

@[simp] theorem handedBytes_singleton (event : LocalBodyEvent) :
    handedBytes [event] = event.bytes := by
  simp [handedBytes]

/-- The frames still to come are body frames of at most `size` bytes and one end. -/
def EndsProperly (streamId : UInt32) (size : Nat) (frames : List Frame) : Prop :=
  ∃ payloads : List Bytes, frames = payloads.map (responseBodyFrame streamId) ++
    [streamEndFrame streamId] ∧ ∀ payload ∈ payloads, payload.length ≤ size

def SettingsPayload.frameSize (settings : SettingsPayload) : Nat :=
  min maxChunkSize settings.initialStreamWindowBytes

structure FlowInvariant (streamId : UInt32) (settings : SettingsPayload) (chunks : List Bytes)
    (flow : ResponseFlow) : Prop where
  bytes : flow.received ++ payloadBytes (flow.pipeline streamId) = chunks.flatten
  credit : flow.window.available + (payloadBytes (flow.inFlight streamId)).length +
    flow.stream.body.chunks.flatten.length + flow.stream.responseConsumedSinceUpdate +
    flow.updates.sum = settings.initialStreamWindowBytes
  counted : flow.stream.body.bytes = flow.stream.body.chunks.flatten.length
  capacity : flow.stream.body.capacity = settings.initialStreamWindowBytes
  threshold : flow.stream.minWindowUpdateBytes = settings.minWindowUpdateBytes
  high : ∀ frame ∈ flow.queues.high, Foreign streamId frame
  running : flow.stream.terminal = false →
    EndsProperly streamId settings.frameSize (flow.pipeline streamId) ∧
      flow.stream.body.terminal = none ∧ flow.stream.body.receiverClosed = false ∧
      flow.finished = false
  ended : flow.stream.terminal = true → flow.pipeline streamId = [] ∧
    (flow.finished = false → flow.stream.body.terminal = some (.ok ()))
  finishing : flow.finished = true → flow.stream.body.chunks = [] ∧ flow.pending = none ∧
    flow.stream.body.terminal = none
  handed : ∃ given : List Bytes, flow.handed = given.map .chunk ++
    if flow.finished then [.ended] else []
  waiting : flow.pending = none → flow.stream.terminal = false →
    flow.stream.responseConsumedSinceUpdate < settings.minWindowUpdateBytes

/-- The settings both sides use: what `negotiate` makes of valid settings. -/
structure Usable (settings : SettingsPayload) : Prop where
  window : 0 < settings.initialStreamWindowBytes
  small : settings.initialStreamWindowBytes < 2 ^ 32
  update : 0 < settings.minWindowUpdateBytes

section Steps

variable {streamId : UInt32} {settings : SettingsPayload} {chunks : List Bytes}
  {flow : ResponseFlow}

theorem start_invariant (usable : Usable settings) :
    FlowInvariant streamId settings chunks (.start streamId settings chunks) := by
  have size : 0 < settings.frameSize := by
    have := usable.window
    unfold SettingsPayload.frameSize maxChunkSize
    omega
  have window : max settings.initialStreamWindowBytes 1 = settings.initialStreamWindowBytes :=
    max_eq_left usable.window
  have frames : (start streamId settings chunks).unsent =
      (chunks.flatMap (relayPayloads settings.frameSize)).map (responseBodyFrame streamId) ++
        [streamEndFrame streamId] := by
    simp [start, relayFrames, StreamSendWindow.new, SettingsPayload.frameSize, window]
  have flight : (start streamId settings chunks).inFlight streamId = [] := rfl
  have pipeline : (start streamId settings chunks).pipeline streamId =
      (chunks.flatMap (relayPayloads settings.frameSize)).map (responseBodyFrame streamId) ++
        [streamEndFrame streamId] := by
    rw [ResponseFlow.pipeline, flight, frames, nil_append]
  exact {
    bytes := by
      rw [pipeline, payloadBytes_append, payloadBytes_bodies, relay_flatten size]
      simp [ResponseFlow.received, start, LocalStream.new, ResponseBuffer.new,
        handedBytes, streamEndFrame]
    credit := by
      rw [flight]
      simp [start, LocalStream.new, ResponseBuffer.new, StreamSendWindow.new, window]
    counted := rfl
    capacity := rfl
    threshold := rfl
    high := by simp [start]
    running := by
      intro _
      refine ⟨⟨_, pipeline, ?_⟩, rfl, rfl, rfl⟩
      intro payload member
      obtain ⟨chunk, -, sliced⟩ := mem_flatMap.mp member
      exact relayPayloads_short _ chunk payload sliced
    ended := by simp [start, LocalStream.new]
    finishing := by simp [start]
    handed := ⟨[], rfl⟩
    waiting := fun _ _ => usable.update }

theorem FlowInvariant.mine (invariant : FlowInvariant streamId settings chunks flow) {frame}
    (member : frame ∈ flow.pipeline streamId) :
    ¬Foreign streamId frame ∧ classifyFramePriority frame = .normal := by
  cases closed : flow.stream.terminal with
  | true => simp [(invariant.ended closed).1] at member
  | false =>
    obtain ⟨⟨payloads, shape, -⟩, -⟩ := invariant.running closed
    rw [shape] at member
    rcases mem_append.mp member with body | last
    · obtain ⟨payload, -, rfl⟩ := mem_map.mp body
      simp [Foreign, responseBodyFrame, classifyFramePriority]
    · rw [mem_singleton.mp last]
      simp [Foreign, streamEndFrame, classifyFramePriority]

variable {queues : FrameQueues}

section

variable (invariant : FlowInvariant streamId settings chunks flow)
include invariant

theorem FlowInvariant.moved {unsent wire window holding updates after}
    (shape : after = { flow with unsent, window, holding, queues, wire, updates })
    (same : after.pipeline streamId = flow.pipeline streamId)
    (credit : window.available + (payloadBytes (after.inFlight streamId)).length + updates.sum =
      flow.window.available + (payloadBytes (flow.inFlight streamId)).length + flow.updates.sum)
    (high : ∀ frame ∈ queues.high, Foreign streamId frame) :
    FlowInvariant streamId settings chunks after := by
  have kept := invariant.credit
  subst shape
  exact { invariant with
    bytes := by
      rw [same]
      exact invariant.bytes
    credit := by
      dsimp only
      omega
    running := by
      rw [same]
      exact invariant.running
    ended := by
      rw [same]
      exact invariant.ended
    high }

theorem acquire_invariant {frame : Frame} {rest window}
    (idle : flow.holding = none) (more : flow.unsent = frame :: rest)
    (paid : flow.window.acquire frame.payload.length = some window) :
    FlowInvariant streamId settings chunks
      { flow with unsent := rest, window, holding := some frame } := by
  have spent := acquire_available paid
  refine invariant.moved rfl ?_ ?_ invariant.high
  · simp [ResponseFlow.pipeline, inFlight, idle, more]
  · simp only [inFlight, idle, toList_some, toList_none,
      append_nil, payloadBytes_append, payloadBytes_cons, payloadBytes_nil, length_append]
    omega

theorem send_invariant {frame} (held : flow.holding = some frame)
    (room : flow.queues.send frame = some queues) :
    FlowInvariant streamId settings chunks { flow with holding := none, queues } := by
  obtain ⟨mine, normal⟩ := invariant.mine (show frame ∈ flow.pipeline streamId by
    simp [ResponseFlow.pipeline, inFlight, held])
  simp only [FrameQueues.send, normal] at room
  split at room
  · cases room
    have same : (inFlight streamId { flow with
        holding := none, queues := { flow.queues with normal := flow.queues.normal ++ [frame] } }) =
        flow.inFlight streamId := by
      simp [inFlight, held, own_mine mine]
    refine invariant.moved rfl ?_ ?_ invariant.high
    · rw [ResponseFlow.pipeline, same]
      rfl
    · rw [same]
  · cases room

theorem write_invariant {frame} (taken : flow.queues.next = some (frame, queues)) :
    FlowInvariant streamId settings chunks { flow with queues, wire := flow.wire ++ [frame] } := by
  have same : (inFlight streamId { flow with queues, wire := flow.wire ++ [frame] }) =
      flow.inFlight streamId ∧ ∀ frame ∈ queues.high, Foreign streamId frame := by
    have high := invariant.high
    rcases waiting : flow.queues with ⟨_ | ⟨first, rest⟩, normal⟩
    · rcases normal with _ | ⟨first, normal⟩
      · rw [waiting] at taken
        cases taken
      · rw [waiting] at taken
        cases taken
        by_cases other : Foreign streamId frame
        · simp [inFlight, waiting, own_foreign other]
        · simp [inFlight, waiting, own_mine other]
    · rw [waiting] at taken high
      cases taken
      have other := high frame (by simp)
      constructor
      · simp [inFlight, waiting, own_foreign other]
      · intro later member
        exact high later (mem_cons_of_mem _ member)
  refine invariant.moved rfl ?_ ?_ same.2
  · rw [ResponseFlow.pipeline, same.1]
    rfl
  · rw [same.1]

end

theorem addCredit_invariant (usable : Usable settings)
    (invariant : FlowInvariant streamId settings chunks flow) {delta rest}
    (arrived : flow.updates = delta :: rest) : FlowInvariant streamId settings chunks
      { flow with window := flow.window.addCredit delta, updates := rest } := by
  have credit := invariant.credit
  have small := usable.small
  have total : flow.updates.sum = delta + rest.sum := by rw [arrived, sum_cons]
  have added : (flow.window.addCredit delta).available = flow.window.available + delta :=
    Credit.refill_eq (by omega)
  refine invariant.moved rfl rfl ?_ invariant.high
  have same : (inFlight streamId
      { flow with window := flow.window.addCredit delta, updates := rest }) =
      flow.inFlight streamId := rfl
  rw [same]
  omega

theorem traffic_invariant (invariant : FlowInvariant streamId settings chunks flow)
    {after} (joined : OtherTraffic streamId flow after) :
    FlowInvariant streamId settings chunks after := by
  obtain ⟨other, room⟩ := joined
  rename_i frame queues
  have same : own streamId queues.normal = own streamId flow.queues.normal ∧
      ∀ frame ∈ queues.high, Foreign streamId frame := by
    unfold FrameQueues.send at room
    split at room <;> split at room <;> cases room
    · refine ⟨rfl, ?_⟩
      intro later member
      rcases mem_append.mp member with earlier | last
      · exact invariant.high later earlier
      · rw [mem_singleton.mp last]
        exact other
    · refine ⟨?_, invariant.high⟩
      simp [own_foreign other]
  refine invariant.moved rfl ?_ ?_ same.2
  · simp [ResponseFlow.pipeline, inFlight, same.1]
  · simp [inFlight, same.1]

section

variable {frame : Frame} {rest : List Frame}
  (invariant : FlowInvariant streamId settings chunks flow) (arrived : flow.wire = frame :: rest)
include invariant arrived

theorem FlowInvariant.arrival (mine : ¬Foreign streamId frame) : flow.stream.terminal = false ∧
      ((∃ payload, frame = responseBodyFrame streamId payload ∧
          payload.length ≤ settings.frameSize ∧ EndsProperly streamId settings.frameSize
            (ResponseFlow.pipeline streamId { flow with wire := rest })) ∨
        frame = streamEndFrame streamId ∧
          ResponseFlow.pipeline streamId { flow with wire := rest } = []) := by
  have first : flow.pipeline streamId =
      frame :: ResponseFlow.pipeline streamId { flow with wire := rest } := by
    simp [ResponseFlow.pipeline, inFlight, arrived, own_mine mine]
  cases closed : flow.stream.terminal with
  | true =>
    have none := (invariant.ended closed).1
    rw [first] at none
    cases none
  | false =>
    obtain ⟨⟨payloads, shape, short⟩, -⟩ := invariant.running closed
    rw [first] at shape
    refine ⟨rfl, ?_⟩
    cases payloads with
    | nil =>
      obtain ⟨last, none⟩ := cons.inj shape
      exact .inr ⟨last, none⟩
    | cons payload payloads =>
      obtain ⟨body, others⟩ := cons.inj shape
      exact .inl ⟨payload, body, short payload (by simp), payloads, others,
        fun later member => short later (mem_cons_of_mem _ member)⟩

theorem FlowInvariant.room (mine : ¬Foreign streamId frame) :
    flow.stream.body.bytes + frame.payload.length ≤ flow.stream.body.capacity := by
  have credit := invariant.credit
  have paid : payloadBytes (flow.inFlight streamId) =
      frame.payload ++ payloadBytes
        (inFlight streamId { flow with wire := rest }) := by
    simp [inFlight, arrived, own_mine mine]
  rw [paid, length_append] at credit
  rw [invariant.counted, invariant.capacity]
  omega

theorem deliver_foreign (other : Foreign streamId frame) : FlowInvariant streamId settings chunks
      { flow with wire := rest, stream := flow.stream.route streamId frame } := by
  rw [route_foreign other]
  have same : (inFlight streamId { flow with wire := rest }) =
      flow.inFlight streamId := by
    simp [inFlight, arrived, own_foreign other]
  refine invariant.moved rfl ?_ ?_ invariant.high
  · rw [ResponseFlow.pipeline, same]
    rfl
  · rw [same]

end

theorem route_body {stream : LocalStream} {payload} (running : stream.terminal = false)
    (more : stream.body.terminal = none) (listening : stream.body.receiverClosed = false)
    (room : stream.body.bytes + payload.length ≤ stream.body.capacity) :
    stream.route streamId (responseBodyFrame streamId payload) =
      { stream with
        body := { stream.body with
          bytes := stream.body.bytes + payload.length
          chunks := fillChunks stream.body.chunks payload } } := by
  simp [LocalStream.route, responseBodyFrame, running, LocalStream.pushBodyChunk,
    push_accepts more listening room]

theorem route_end {stream : LocalStream} (running : stream.terminal = false)
    (more : stream.body.terminal = none) : stream.route streamId (streamEndFrame streamId) =
      { stream with terminal := true, body := { stream.body with terminal := some (.ok ()) } } := by
  simp [LocalStream.route, streamEndFrame, running, LocalStream.finish, LocalStream.stop,
    ResponseBuffer.finish, more]

theorem deliver_invariant (invariant : FlowInvariant streamId settings chunks flow)
    {frame : Frame} {rest} (arrived : flow.wire = frame :: rest) :
    FlowInvariant streamId settings chunks
      { flow with wire := rest, stream := flow.stream.route streamId frame } := by
  by_cases other : Foreign streamId frame
  · exact deliver_foreign invariant arrived other
  · have room := invariant.room arrived other
    obtain ⟨running, arrival⟩ := invariant.arrival arrived other
    obtain ⟨-, more, listening, unfinished⟩ := invariant.running running
    have bytes := invariant.bytes
    have credit := invariant.credit
    have paid : payloadBytes (flow.inFlight streamId) = frame.payload ++
        payloadBytes (inFlight streamId { flow with wire := rest }) := by
      simp [inFlight, arrived, own_mine other]
    rw [ResponseFlow.pipeline, payloadBytes_append, paid] at bytes
    rw [paid] at credit
    rcases arrival with ⟨payload, rfl, short, proper⟩ | ⟨rfl, none⟩
    · rw [@route_body streamId flow.stream payload running more listening room]
      exact { invariant with
        bytes := by
          rw [← bytes]
          simp [ResponseFlow.received, fillChunks_flatten, ResponseFlow.pipeline,
            responseBodyFrame, inFlight]
        credit := by
          simp only [inFlight, fillChunks_flatten, responseBodyFrame,
            length_append] at credit ⊢
          omega
        counted := by simp [fillChunks_flatten, invariant.counted]
        running := fun _ => ⟨proper, more, listening, unfinished⟩
        ended := fun ended => by
          rw [running] at ended
          cases ended
        finishing := fun finished => by
          rw [unfinished] at finished
          cases finished }
    · rw [route_end running more]
      exact { invariant with
        bytes := by
          rw [← bytes]
          simp [ResponseFlow.received, ResponseFlow.pipeline, inFlight,
            streamEndFrame]
        credit := credit
        running := fun ended => by cases ended
        ended := fun _ => ⟨none, fun _ => rfl⟩
        finishing := fun finished => by
          rw [unfinished] at finished
          cases finished
        waiting := fun _ ended => by cases ended }

theorem recvChunk_invariant (usable : Usable settings)
    (invariant : FlowInvariant streamId settings chunks flow) {chunk}
    {body} (unfinished : flow.finished = false) (ready : flow.pending = none)
    (taken : flow.stream.body.recv = some (.chunk chunk, body)) :
    FlowInvariant streamId settings chunks
      { flow with
        pending := some chunk
        stream := { flow.stream with
          body
          responseConsumedSinceUpdate :=
            min (flow.stream.responseConsumedSinceUpdate + chunk.length) (2 ^ 64 - 1) } } := by
  have small := usable.small
  have bytes := invariant.bytes
  have credit := invariant.credit
  have counted := invariant.counted
  unfold recv at taken
  split at taken
  · next first rest buffered =>
    cases taken
    have held : flow.stream.body.chunks.flatten.length =
        chunk.length + rest.flatten.length := by
      rw [buffered, flatten_cons, length_append]
    exact { invariant with
      bytes := by
        rw [← bytes]
        simp [ResponseFlow.received, ready, buffered]
        rfl
      credit := by
        simp only [inFlight] at credit ⊢
        omega
      counted := by
        dsimp only
        omega
      running := invariant.running
      ended := invariant.ended
      finishing := fun finished => by
        rw [unfinished] at finished
        cases finished
      waiting := fun none => by cases none }
  · next result _ _ => rcases result with message | _ <;> cases taken
  · cases taken

theorem recvLast_invariant (invariant : FlowInvariant streamId settings chunks flow)
    {result body} (unfinished : flow.finished = false)
    (ready : flow.pending = none) (taken : flow.stream.body.recv = some (.ofResult result, body)) :
    FlowInvariant streamId settings chunks
      { flow with
        finished := true
        handed := flow.handed ++ [.ofResult result]
        stream := { flow.stream with body } } := by
  have empty : flow.stream.body.chunks = [] := by
    unfold recv at taken
    split at taken
    · rcases result with message | _ <;> cases taken
    · assumption
    · cases taken
  have closed : flow.stream.terminal = true := by
    cases running : flow.stream.terminal with
    | true => rfl
    | false => simp [recv, empty, (invariant.running running).2.1] at taken
  have last := (invariant.ended closed).2 unfinished
  simp only [recv, empty, last, some.injEq, Prod.mk.injEq] at taken
  obtain ⟨event, rfl⟩ := taken
  obtain ⟨given, before⟩ := invariant.handed
  rw [← event]
  exact { invariant with
    bytes := by
      rw [← invariant.bytes]
      simp [ResponseFlow.received, ready, empty, LocalBodyEvent.ofResult, LocalBodyEvent.bytes]
      rfl
    credit := by
      have credit := invariant.credit
      rw [empty] at credit
      exact credit
    counted := by
      rw [← empty]
      exact invariant.counted
    running := fun running => by
      rw [closed] at running
      cases running
    ended := fun ended => ⟨(invariant.ended ended).1, fun unfinished => by cases unfinished⟩
    finishing := fun _ => ⟨rfl, ready, rfl⟩
    handed := ⟨given, by simp [before, unfinished, LocalBodyEvent.ofResult]⟩ }

theorem flush_invariant (usable : Usable settings)
    (invariant : FlowInvariant streamId settings chunks flow) {chunk}
    (ready : flow.pending = some chunk) : FlowInvariant streamId settings chunks
      { flow with
        pending := none
        handed := flow.handed ++ [.chunk chunk]
        stream := flow.stream.flushResponseCredit.2
        updates := flow.updates ++ flow.stream.flushResponseCredit.1.toList } := by
  have unfinished : flow.finished = false := by
    cases finished : flow.finished with
    | false => rfl
    | true =>
      rw [(invariant.finishing finished).2.1] at ready
      cases ready
  have bytes : handedBytes (flow.handed ++ [.chunk chunk]) ++ [] ++
      flow.stream.body.chunks.flatten = flow.received := by
    simp [ResponseFlow.received, ready, LocalBodyEvent.bytes]
  have handed : ∃ given : List Bytes, flow.handed ++ [.chunk chunk] = given.map .chunk ++
      if flow.finished then [.ended] else [] := by
    obtain ⟨given, before⟩ := invariant.handed
    exact ⟨given ++ [chunk], by simp [before, unfinished]⟩
  have credit := invariant.credit
  have small := usable.small
  have threshold := invariant.threshold
  unfold LocalStream.flushResponseCredit
  split
  · next below =>
    exact { invariant with
      bytes := by
        rw [← invariant.bytes, ← bytes]
        rfl
      credit := by simpa [inFlight] using credit
      finishing := fun finished => by
        rw [unfinished] at finished
        cases finished
      handed
      waiting := fun _ (running : flow.stream.terminal = false) => by
        simpa [running, threshold] using below }
  · next enough =>
    exact { invariant with
      bytes := by
        rw [← invariant.bytes, ← bytes]
        rfl
      credit := by
        simp only [inFlight, sum_append, toList_some,
          sum_singleton] at credit ⊢
        omega
      running := invariant.running
      ended := invariant.ended
      finishing := fun finished => by
        rw [unfinished] at finished
        cases finished
      handed
      waiting := fun _ _ => by
        have := usable.update
        dsimp only
        omega }

theorem step_invariant (usable : Usable settings) (before after : ResponseFlow)
    (invariant : FlowInvariant streamId settings chunks before)
    (step : ResponseStep streamId before after) : FlowInvariant streamId settings chunks after := by
  cases step with
  | acquire idle more paid => exact acquire_invariant invariant idle more paid
  | send held room => exact send_invariant invariant held room
  | write taken => exact write_invariant invariant taken
  | deliver arrived => exact deliver_invariant invariant arrived
  | recvChunk unfinished ready taken =>
    exact recvChunk_invariant usable invariant unfinished ready taken
  | recvLast unfinished ready taken => exact recvLast_invariant invariant unfinished ready taken
  | flush ready => exact flush_invariant usable invariant ready
  | addCredit arrived => exact addCredit_invariant usable invariant arrived

theorem reaches_invariant (usable : Usable settings)
    (reaches : ResponseReaches streamId settings chunks flow) :
    FlowInvariant streamId settings chunks flow := by
  refine Transition.invariant ?_ reaches (start_invariant usable)
  rintro before after invariant (step | joined)
  · exact step_invariant usable before after invariant step
  · exact traffic_invariant invariant joined

end Steps

/-! ## Going on -/

/-- How much there is left to do: each frame, chunk and update counts for the places it has
still to pass. -/
def ResponseFlow.work (flow : ResponseFlow) : Nat :=
  7 * flow.unsent.length + 6 * flow.holding.toList.length +
    5 * (flow.queues.high.length + flow.queues.normal.length) + 4 * flow.wire.length +
    3 * flow.stream.body.chunks.length + 2 * flow.pending.toList.length +
    flow.stream.body.terminal.toList.length + flow.updates.length

open ResponseFlow (work)

theorem send_length {queues after : FrameQueues} {frame} (room : queues.send frame = some after) :
    after.high.length + after.normal.length = queues.high.length + queues.normal.length + 1 := by
  unfold FrameQueues.send at room
  split at room <;> split at room <;> cases room <;> simp <;> omega

theorem next_length {queues after : FrameQueues} {frame}
    (taken : queues.next = some (frame, after)) :
    after.high.length + after.normal.length + 1 = queues.high.length + queues.normal.length := by
  unfold FrameQueues.next at taken
  split at taken <;> cases taken <;> simp
  omega

section Progress

variable {streamId : UInt32} {settings : SettingsPayload} {chunks : List Bytes}
  {flow : ResponseFlow}

theorem deliver_work (invariant : FlowInvariant streamId settings chunks flow)
    {frame : Frame} {rest} (arrived : flow.wire = frame :: rest) :
    (flow.stream.route streamId frame).body.chunks.length * 3 +
      (flow.stream.route streamId frame).body.terminal.toList.length <
      flow.stream.body.chunks.length * 3 + flow.stream.body.terminal.toList.length + 4 := by
  by_cases other : Foreign streamId frame
  · rw [route_foreign other]
    omega
  · have room := invariant.room arrived other
    obtain ⟨running, arrival⟩ := invariant.arrival arrived other
    obtain ⟨-, more, listening, -⟩ := invariant.running running
    rcases arrival with ⟨payload, rfl, short, -⟩ | ⟨rfl, -⟩
    · have fits : payload.length ≤ chunkBytes := by
        unfold SettingsPayload.frameSize maxChunkSize at short
        unfold chunkBytes
        omega
      have filled := fillChunks_length flow.stream.body.chunks fits
      rw [@route_body streamId flow.stream payload running more listening room]
      dsimp only
      omega
    · rw [route_end running more, more]
      simp

theorem step_work (before after : ResponseFlow)
    (invariant : FlowInvariant streamId settings chunks before)
    (step : ResponseStep streamId before after) : after.work < before.work := by
  unfold work
  cases step with
  | acquire idle more paid => simp [idle, more]; omega
  | send held room =>
    have one := send_length room
    simp [held]
    omega
  | write taken =>
    have one := next_length taken
    simp
    omega
  | deliver arrived =>
    have less := deliver_work invariant arrived
    simp only [arrived, length_cons]
    omega
  | recvChunk unfinished ready taken =>
    unfold recv at taken
    split at taken
    · next buffered =>
      cases taken
      simp [ready, buffered]
      omega
    · next result _ _ => rcases result with message | _ <;> cases taken
    · cases taken
  | @recvLast result body unfinished ready taken =>
    unfold recv at taken
    split at taken
    · rcases result with message | _ <;> cases taken
    · next last =>
      simp only [some.injEq, Prod.mk.injEq] at taken
      obtain ⟨-, rfl⟩ := taken
      simp [last]
    · cases taken
  | flush ready =>
    unfold LocalStream.flushResponseCredit
    split <;> simp [ready]
    omega
  | addCredit arrived => simp [arrived]

/-- The stream has delivered the whole body and its end, and nothing after it. -/
def Complete (chunks : List Bytes) (flow : ResponseFlow) : Prop :=
  ∃ given : List Bytes, flow.handed = given.map .chunk ++ [.ended] ∧ given.flatten = chunks.flatten

theorem handedBytes_chunks (given : List Bytes) :
    handedBytes (given.map .chunk) = given.flatten := by
  induction given with
  | nil => rfl
  | cons chunk rest ih =>
    rw [map_cons, flatten_cons, ← ih]
    rfl

theorem FlowInvariant.complete (invariant : FlowInvariant streamId settings chunks flow)
    (finished : flow.finished = true) : Complete chunks flow := by
  obtain ⟨given, handed⟩ := invariant.handed
  rw [finished, if_pos rfl] at handed
  have bytes := invariant.bytes
  obtain ⟨empty, none, -⟩ := invariant.finishing finished
  have drained : flow.pipeline streamId = [] := by
    cases closed : flow.stream.terminal with
    | true => exact (invariant.ended closed).1
    | false =>
      have unfinished := (invariant.running closed).2.2.2
      rw [finished] at unfinished
      cases unfinished
  rw [drained, ResponseFlow.received, handed, none, empty, handedBytes_append,
    handedBytes_chunks] at bytes
  exact ⟨given, handed, by simpa [LocalBodyEvent.bytes] using bytes⟩

/-- Nothing is on its way, and the receiver has taken everything. -/
def Quiet (streamId : UInt32) (flow : ResponseFlow) : Prop :=
  flow.inFlight streamId = [] ∧ flow.updates = [] ∧ flow.stream.body.chunks = [] ∧
    flow.pending = none

/-- When nothing is on its way, the agent can pay for its next frame. -/
def NotStuck (streamId : UInt32) (flow : ResponseFlow) : Prop :=
  Quiet streamId flow → ∀ frame rest, flow.unsent = frame :: rest →
    (flow.window.acquire frame.payload.length).isSome

theorem FlowInvariant.notStuck (invariant : FlowInvariant streamId settings chunks flow)
    (enough : settings.frameSize + settings.minWindowUpdateBytes ≤
      settings.initialStreamWindowBytes + 1) : NotStuck streamId flow := by
  rintro ⟨flight, updates, empty, none⟩ frame rest more
  have pipeline : flow.pipeline streamId = frame :: rest := by
    rw [ResponseFlow.pipeline, flight, more, nil_append]
  have running : flow.stream.terminal = false := by
    cases closed : flow.stream.terminal with
    | false => rfl
    | true =>
      rw [(invariant.ended closed).1] at pipeline
      cases pipeline
  have short : frame.payload.length ≤ settings.frameSize := by
    obtain ⟨⟨payloads, shape, short⟩, -⟩ := invariant.running running
    have member : frame ∈ payloads.map (responseBodyFrame streamId) ++
      [streamEndFrame streamId] := by
      rw [← shape, pipeline]
      simp
    rcases mem_append.mp member with body | last
    · obtain ⟨payload, listed, rfl⟩ := mem_map.mp body
      exact short payload listed
    · rw [mem_singleton.mp last]
      exact Nat.zero_le _
  have credit := invariant.credit
  have below := invariant.waiting none running
  rw [flight, updates, empty] at credit
  rw [acquire_isSome]
  simp at credit
  omega

theorem FlowInvariant.goes_on (invariant : FlowInvariant streamId settings chunks flow)
    (free : NotStuck streamId flow) (unfinished : flow.finished = false) :
    ∃ next, ResponseStep streamId flow next := by
  -- from the receiver back to the relay loop: the first place that holds something can move it
  cases ready : flow.pending with
  | some chunk => exact ⟨_, .flush ready⟩
  | none =>
  cases empty : flow.stream.body.chunks with
  | cons chunk rest => exact ⟨_, .recvChunk unfinished ready (by rw [recv, empty])⟩
  | nil =>
  cases last : flow.stream.body.terminal with
  | some result => exact ⟨_, .recvLast unfinished ready (by rw [recv, empty, last])⟩
  | none =>
  cases arrived : flow.wire with
  | cons frame rest => exact ⟨_, .deliver arrived⟩
  | nil =>
  cases updates : flow.updates with
  | cons delta rest => exact ⟨_, .addCredit updates⟩
  | nil =>
  rcases queued : flow.queues with ⟨_ | ⟨frame, high⟩, normal⟩
  · rcases normal with _ | ⟨frame, normal⟩
    · cases held : flow.holding with
      | some frame =>
        have normal := (invariant.mine (show frame ∈ flow.pipeline streamId by
          simp [ResponseFlow.pipeline, inFlight, held])).2
        have room : flow.queues.send frame = some ⟨[], [frame]⟩ := by
          simp [FrameQueues.send, normal, queued, normalPriorityQueueCapacity]
        exact ⟨_, .send held room⟩
      | none =>
        have flight : flow.inFlight streamId = [] := by simp [inFlight, arrived, queued, held]
        cases unsent : flow.unsent with
        | cons frame rest =>
          obtain ⟨window, paid⟩ := isSome_iff_exists.mp
            (free ⟨flight, updates, empty, ready⟩ frame rest unsent)
          exact ⟨_, .acquire held unsent paid⟩
        | nil =>
          have drained : flow.pipeline streamId = [] := by
            rw [ResponseFlow.pipeline, flight, unsent, nil_append]
          cases closed : flow.stream.terminal with
          | true =>
            rw [(invariant.ended closed).2 unfinished] at last
            cases last
          | false =>
            obtain ⟨⟨payloads, shape, -⟩, -⟩ := invariant.running closed
            rw [drained] at shape
            simp at shape
    · exact ⟨_, .write (by rw [queued]; rfl)⟩
  · exact ⟨_, .write (by rw [queued]; rfl)⟩

end Progress

/-! ## The settings under which a response always flows -/

structure FlowsFreely (streamId : UInt32) (chunks : List Bytes) (flow : ResponseFlow) : Prop where
  accepted : ∀ frame rest, flow.wire = frame :: rest → frame.streamId = streamId →
    frame.msgType = .responseBody → (flow.stream.pushBodyChunk frame.payload).2 = true
  inOrder : handedBytes flow.handed <+: chunks.flatten
  whole : .ended ∈ flow.handed → Complete chunks flow
  notStuck : NotStuck streamId flow
  completes : ∃ last, ReflTransGen (ResponseStep streamId) flow last ∧ Complete chunks last

theorem negotiate_usable {offered : SettingsPayload} (valid : offered.isValid) (window drain :
    Nat) : Usable (offered.negotiate window drain) := by
  simp only [SettingsPayload.isValid, Bool.and_eq_true, decide_eq_true_eq] at valid
  obtain ⟨⟨⟨⟨-, small⟩, update⟩, -⟩, -⟩ := valid
  unfold maxTunnelDecompressedPayloadBytes at small
  constructor <;> simp only [SettingsPayload.negotiate] <;> omega

section Settings

variable {streamId : UInt32} {settings : SettingsPayload} {chunks : List Bytes}
  {flow : ResponseFlow}

section

variable (invariant : FlowInvariant streamId settings chunks flow)
include invariant

theorem FlowInvariant.accepted {frame : Frame} {rest}
    (arrived : flow.wire = frame :: rest) (here : frame.streamId = streamId)
    (body : frame.msgType = .responseBody) :
    (flow.stream.pushBodyChunk frame.payload).2 = true := by
  have mine : ¬Foreign streamId frame := by simp [Foreign, here, body]
  have room := invariant.room arrived mine
  have running := (invariant.arrival arrived mine).1
  obtain ⟨-, more, listening, -⟩ := invariant.running running
  simp [LocalStream.pushBodyChunk, running, push_accepts more listening room]

theorem FlowInvariant.inOrder : handedBytes flow.handed <+: chunks.flatten := by
  rw [← invariant.bytes, ResponseFlow.received]
  simp only [append_assoc]
  exact prefix_append _ _

theorem FlowInvariant.whole (ended : .ended ∈ flow.handed) : Complete chunks flow := by
  apply invariant.complete
  cases finished : flow.finished with
  | true => rfl
  | false =>
    obtain ⟨given, handed⟩ := invariant.handed
    simp [handed, finished] at ended

end

theorem flows_freely (usable : Usable settings)
    (enough : settings.frameSize + settings.minWindowUpdateBytes ≤
      settings.initialStreamWindowBytes + 1)
    (reaches : ResponseReaches streamId settings chunks flow) :
      FlowsFreely streamId chunks flow := by
  have invariant := reaches_invariant usable reaches
  refine ⟨fun frame rest arrived here body => invariant.accepted arrived here body,
    invariant.inOrder, invariant.whole, invariant.notStuck enough, ?_⟩
  obtain ⟨last, run, finished⟩ := Transition.gets_done (FlowInvariant streamId settings chunks)
    (fun flow => flow.finished = true) work (step_invariant usable) step_work
    (fun state kept unfinished => kept.goes_on (kept.notStuck enough)
      (Bool.eq_false_of_not_eq_true unfinished)) invariant
  have kept := Transition.invariant (step_invariant usable) run invariant
  exact ⟨last, run, kept.complete finished⟩

/-- A body of two chunks, one byte short of the threshold and then a full frame. -/
def stallingBody (settings : SettingsPayload) : List Bytes :=
  [List.replicate (settings.minWindowUpdateBytes - 1) 0, List.replicate settings.frameSize 0]

/-- Once the receiver has the first chunk, its credit is kept back, and what is left does not
pay for the second. -/
def stalled (streamId : UInt32) (settings : SettingsPayload) : ResponseFlow where
  unsent := [responseBodyFrame streamId (List.replicate settings.frameSize 0),
    streamEndFrame streamId]
  window := ⟨settings.initialStreamWindowBytes,
    settings.initialStreamWindowBytes - (settings.minWindowUpdateBytes - 1)⟩
  holding := none
  queues := ⟨[], []⟩
  wire := []
  stream := ⟨.new settings.initialStreamWindowBytes, false, settings.minWindowUpdateBytes - 1,
    settings.minWindowUpdateBytes⟩
  pending := none
  finished := false
  handed := [.chunk (List.replicate (settings.minWindowUpdateBytes - 1) 0)]
  updates := []

theorem reaches_stalled (usable : Usable settings) (held : 1 < settings.minWindowUpdateBytes)
    (fits : settings.minWindowUpdateBytes - 1 ≤ settings.frameSize) :
    ResponseReaches streamId settings (stallingBody settings) (stalled streamId settings) := by
  obtain ⟨kept, threshold⟩ : ∃ kept, settings.minWindowUpdateBytes = kept + 1 :=
    Nat.exists_eq_add_of_lt (Nat.zero_lt_of_lt held) |>.imp (by omega)
  have positive : kept ≠ 0 := by omega
  have window : max settings.initialStreamWindowBytes 1 = settings.initialStreamWindowBytes :=
    max_eq_left usable.window
  have inWindow : settings.frameSize ≤ settings.initialStreamWindowBytes := min_le_right _ _
  have inChunk : settings.frameSize ≤ chunkBytes := min_le_left _ _
  rw [threshold, Nat.add_sub_cancel] at fits
  let first : Bytes := List.replicate kept 0
  let frame : Frame := responseBodyFrame streamId first
  let fresh : ResponseFlow :=
    { stalled streamId settings with stream := .new settings, handed := [] }
  have frames : (start streamId settings (stallingBody settings)).unsent =
      [frame, responseBodyFrame streamId (List.replicate settings.frameSize 0),
        streamEndFrame streamId] := by
    have size : min maxChunkSize settings.initialStreamWindowBytes = settings.frameSize := rfl
    simp [start, stallingBody, relayFrames, relayPayloads, StreamSendWindow.new,
      threshold, window, size, fits, frame, first]
  have paid : (start streamId settings (stallingBody settings)).window.acquire
      frame.payload.length = some (stalled streamId settings).window := by
    have spent : Credit.spend settings.initialStreamWindowBytes kept =
        some (settings.initialStreamWindowBytes - kept) :=
      (Credit.spend_eq_some ..).mpr (by omega)
    simp [start, StreamSendWindow.new, StreamSendWindow.acquire, window, stalled,
      frame, first, responseBodyFrame, threshold, spent]
  have filled : fillChunks [] first = [first] := by
    have more : first ≠ [] := by simp [first, positive]
    have short : first.length ≤ chunkBytes := by
      simp only [first, length_replicate]
      omega
    rw [fillChunks, if_neg more, fillChunks]
    simp [take_of_length_le short, short]
  have routed : fresh.stream.route streamId frame =
      { fresh.stream with body :=
        ⟨settings.initialStreamWindowBytes, [first], kept, none, false⟩ } := by
    have room : fresh.stream.body.bytes + first.length ≤ fresh.stream.body.capacity := by
      simp only [fresh, LocalStream.new, ResponseBuffer.new, first, length_replicate]
      omega
    rw [@route_body streamId fresh.stream first rfl rfl rfl room]
    simp [fresh, LocalStream.new, ResponseBuffer.new, filled, first]
  have acquired : ResponseStep streamId (.start streamId settings (stallingBody settings))
      { fresh with holding := some frame } := .acquire rfl frames paid
  have queued : ResponseStep streamId { fresh with holding := some frame }
      { fresh with queues := ⟨[], [frame]⟩ } := .send rfl rfl
  have written : ResponseStep streamId { fresh with queues := ⟨[], [frame]⟩ }
      { fresh with wire := [frame] } := .write rfl
  have delivered : ResponseStep streamId { fresh with wire := [frame] }
      { fresh with stream := fresh.stream.route streamId frame } := .deliver rfl
  have counted : min (0 + first.length) (2 ^ 64 - 1) = kept ∧ kept - first.length = 0 := by
    have := usable.small
    simp only [first, length_replicate]
    omega
  have received : ResponseStep streamId { fresh with stream := fresh.stream.route streamId frame }
      { fresh with pending := some first, stream := (stalled streamId settings).stream } := by
    have after : (stalled streamId settings).stream =
        ⟨⟨settings.initialStreamWindowBytes, [], kept - first.length, none, false⟩, false,
          min (0 + first.length) (2 ^ 64 - 1), settings.minWindowUpdateBytes⟩ := by
      rw [counted.1, counted.2]
      simp [stalled, ResponseBuffer.new, threshold]
    rw [routed, after]
    exact .recvChunk rfl rfl rfl
  have flushed : ResponseStep streamId
      { fresh with pending := some first, stream := (stalled streamId settings).stream }
      (stalled streamId settings) := by
    have below : (stalled streamId settings).stream.flushResponseCredit =
        (none, (stalled streamId settings).stream) := by
      simp [LocalStream.flushResponseCredit, stalled, threshold]
    have step := @ResponseStep.flush streamId
      { fresh with pending := some first, stream := (stalled streamId settings).stream } first rfl
    simp only [below] at step
    convert step using 1
    simp [fresh, stalled, first, threshold]
  have moves {before after : ResponseFlow} (step : ResponseStep streamId before after) :
      ResponseMove streamId before after := .inl step
  exact ReflTransGen.head (moves acquired) <| .head (moves queued) <| .head (moves written) <|
    .head (moves delivered) <| .head (moves received) <| .single (moves flushed)

end Settings

/-- The condition on the settings: a full frame can be paid for although the gateway keeps
back all it may. -/
theorem response_flows_iff (offered : SettingsPayload) (valid : offered.isValid)
    (window drain : Nat) (streamId : UInt32) :
    (∀ chunks flow, ResponseReaches streamId (offered.negotiate window drain) chunks flow →
      FlowsFreely streamId chunks flow) ↔
    min maxChunkSize (offered.negotiate window drain).initialStreamWindowBytes +
        (offered.negotiate window drain).minWindowUpdateBytes ≤
      (offered.negotiate window drain).initialStreamWindowBytes + 1 := by
  have usable := negotiate_usable valid window drain
  have quarter : (offered.negotiate window drain).minWindowUpdateBytes ≤
      max ((offered.negotiate window drain).initialStreamWindowBytes / 4) 1 := min_le_right _ _
  generalize offered.negotiate window drain = settings at usable quarter
  constructor
  · intro free
    by_contra short
    have size : settings.frameSize = min maxChunkSize settings.initialStreamWindowBytes := rfl
    have reached := @reaches_stalled streamId settings usable (by omega) (by
      omega)
    have paid := (free _ _ reached).notStuck ⟨rfl, rfl, rfl, rfl⟩ _ _ rfl
    rw [acquire_isSome] at paid
    simp only [stalled, responseBodyFrame, length_replicate] at paid
    omega
  · intro enough chunks flow reaches
    exact flows_freely usable enough reaches

/-- With a window of 64 KiB and a threshold of 16 KiB every response flows. -/
theorem response_flows_wide : (⟨65536, 16384, 30000⟩ : SettingsPayload).isValid ∧
    ∀ chunks flow, ResponseReaches 3
      ((⟨65536, 16384, 30000⟩ : SettingsPayload).negotiate 65536 30000)
      chunks flow → FlowsFreely 3 chunks flow :=
  ⟨by decide, (response_flows_iff ⟨65536, 16384, 30000⟩ (by decide) 65536 30000 3).mpr (by decide)⟩

/-- With a window of 16 KiB the agent can be left without credit for good: the receiver has
taken everything, nothing is on its way, and the next frame cannot be paid for. -/
theorem response_stalls_narrow : (⟨16384, 4096, 30000⟩ : SettingsPayload).isValid ∧
    ∃ flow, ResponseReaches 3 ((⟨16384, 4096, 30000⟩ : SettingsPayload).negotiate 16384 30000)
        [List.replicate 4095 0, List.replicate 16384 0] flow ∧ Quiet 3 flow ∧
      flow.unsent = [responseBodyFrame 3 (List.replicate 16384 0), streamEndFrame 3] ∧
      flow.window.acquire 16384 = none := by
  have same : (⟨16384, 4096, 30000⟩ : SettingsPayload).negotiate 16384 30000 =
      ⟨16384, 4096, 30000⟩ := by decide
  have usable : Usable ⟨16384, 4096, 30000⟩ := ⟨by decide, by decide, by decide⟩
  exact ⟨by decide, stalled 3 ⟨16384, 4096, 30000⟩, reaches_stalled usable (by decide) (by decide),
    ⟨rfl, rfl, rfl, rfl⟩, rfl, by decide⟩

end Aeris.Tunnel
