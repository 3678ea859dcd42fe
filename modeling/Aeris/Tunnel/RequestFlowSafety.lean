import Aeris.Tunnel.RequestFlow
import Aeris.Tunnel.ResponseFlowSafety

/-! When a request body gets through. The window counts bytes and the channel counts
frames: a body whose frames are large enough never finds the channel full, and then no byte
is lost, and the credit of every payload comes back once. -/
namespace Aeris.Tunnel

open ByteEncoding Relation List Option
open RequestFlow (consume dispatch retain sendWindowUpdate spoolFrame)
open RequestBodyReplayStatus (disableReplay finish pushChunk)

/-! ## The frames of a body -/

/-- The payloads of the frames of a body: each payload in pieces, and an empty piece when the
last payload is empty. -/
def RequestBody.pieces (window : Nat) (body : RequestBody) : List Bytes :=
  body.payloads.flatMap (Credit.slices (requestChunkSize window)) ++
    if body.last = [] then [[]] else Credit.slices (requestChunkSize window) body.last

theorem chunkFrames_false (streamId : UInt32) (chunks : List Bytes) :
    chunkFrames streamId false chunks = chunks.map (requestBodyFrame streamId · false) := by
  induction chunks with
  | nil => rfl
  | cons chunk rest ih =>
    cases rest with
    | nil => rfl
    | cons next rest => simpa [chunkFrames] using ih

theorem chunkFrames_true (streamId : UInt32) (chunks : List Bytes) (last : Bytes) :
    chunkFrames streamId true (chunks ++ [last]) =
      chunks.map (requestBodyFrame streamId · false) ++ [requestBodyFrame streamId last true] := by
  induction chunks with
  | nil => rfl
  | cons chunk rest ih =>
    cases rest with
    | nil => rfl
    | cons next rest => simpa [chunkFrames] using ih

theorem slices_nil (size : Nat) : Credit.slices size ([] : Bytes) = [] := by
  rw [Credit.slices]
  simp

theorem push_payload (streamId : UInt32) (size : Nat) (payload : Bytes) :
    pushLocalRequestBody streamId size payload false =
      (Credit.slices size payload).map (requestBodyFrame streamId · false) := by
  unfold pushLocalRequestBody
  split
  · next empty => simp [empty, slices_nil]
  · exact chunkFrames_false streamId _

theorem chunkSize_pos {window : Nat} (positive : 0 < window) : 0 < requestChunkSize window := by
  unfold requestChunkSize maxRequestBodyFrameSize
  omega

theorem RequestBody.frames_eq (streamId : UInt32) {window : Nat} (positive : 0 < window)
    (body : RequestBody) : ∃ payloads last, body.pieces window = payloads ++ [last] ∧
      (∀ payload ∈ payloads, payload ≠ []) ∧
      body.frames streamId window = payloads.map (requestBodyFrame streamId · false) ++
        [requestBodyFrame streamId last true] := by
  have size := chunkSize_pos positive
  have before : body.payloads.flatMap
      (fun payload => pushLocalRequestBody streamId (requestChunkSize window) payload false) =
      (body.payloads.flatMap (Credit.slices (requestChunkSize window))).map
        (requestBodyFrame streamId · false) := by
    simp only [push_payload, map_flatMap]
  have filled : ∀ payload ∈ body.payloads.flatMap (Credit.slices (requestChunkSize window)),
      payload ≠ [] := by
    intro piece member
    obtain ⟨payload, -, cut⟩ := mem_flatMap.mp member
    exact Credit.slices_ne_nil _ _ piece cut
  unfold RequestBody.pieces RequestBody.frames
  rw [before]
  unfold pushLocalRequestBody
  split
  · exact ⟨_, [], rfl, filled, rfl⟩
  · next more =>
    rcases eq_nil_or_concat (Credit.slices (requestChunkSize window) body.last) with
      none | ⟨chunks, last, cut⟩
    · have whole := Credit.slices_flatten size body.last
      rw [none] at whole
      exact absurd whole.symm more
    · rw [cut, concat_eq_append, chunkFrames_true]
      refine ⟨_, last, (append_assoc ..).symm, ?_, by simp⟩
      intro payload member
      rcases mem_append.mp member with earlier | later
      · exact filled payload earlier
      · refine Credit.slices_ne_nil (requestChunkSize window) body.last payload ?_
        simp [cut, later]

theorem RequestBody.pieces_flatten {window : Nat} (positive : 0 < window) (body : RequestBody) :
    (body.pieces window).flatten = body.bytes := by
  have size := chunkSize_pos positive
  have before : (body.payloads.flatMap (Credit.slices (requestChunkSize window))).flatten =
      body.payloads.flatten := by
    induction body.payloads with
    | nil => rfl
    | cons payload rest ih => simp [ih, Credit.slices_flatten size]
  unfold RequestBody.pieces RequestBody.bytes
  rw [flatten_append, before]
  split
  · next empty => simp [empty]
  · rw [Credit.slices_flatten size]

theorem RequestBody.pieces_length_le (window : Nat) (body : RequestBody) :
    ∀ piece ∈ body.pieces window, piece.length ≤ requestChunkSize window := by
  intro piece member
  rcases mem_append.mp member with before | last
  · obtain ⟨payload, -, cut⟩ := mem_flatMap.mp before
    exact Credit.slices_length_le _ _ piece cut
  · split at last
    · rw [mem_singleton.mp last]
      exact Nat.zero_le _
    · exact Credit.slices_length_le _ _ piece last

/-! ## The invariant -/

def RequestFlow.inFlight (flow : RequestFlow) : List Frame :=
  flow.channel ++ flow.wire ++ flow.outbound ++ flow.holding.toList

def RequestFlow.pipeline (flow : RequestFlow) : List Frame := flow.inFlight ++ flow.unsent

def RequestFlow.events (flow : RequestFlow) : List SpoolBodyEvent := flow.spool ++ flow.spooling

def filledPayloads (frames : List Frame) : List Bytes :=
  (frames.map Frame.payload).filter (fun payload => payload ≠ [])

def SpoolBodyEvent.payload : SpoolBodyEvent → Option Bytes
  | .data payload _ => some payload
  | .ended => none

/-- The payload of an event whose credit is to be returned when the upstream takes it. -/
def SpoolBodyEvent.owed : SpoolBodyEvent → Option Bytes
  | .data payload false => some payload
  | _ => none

def owedPayloads (events : List SpoolBodyEvent) : List Bytes := events.filterMap SpoolBodyEvent.owed

/-- What the gateway has spent and not got back, nor is about to. -/
def RequestFlow.unreturnedBytes (flow : RequestFlow) : Nat :=
  (payloadBytes flow.inFlight).length + (owedPayloads flow.events).flatten.length +
    flow.updates.sum

def EndsBody (streamId : UInt32) (size : Nat) (frames : List Frame) : Prop :=
  ∃ payloads last, frames = payloads.map (requestBodyFrame streamId · false) ++
    [requestBodyFrame streamId last true] ∧ ∀ payload ∈ payloads ++ [last], payload.length ≤ size

open RequestFlow (inFlight unreturnedBytes)

structure RequestInvariant (streamId : UInt32) (window : Nat) (frames : List Frame)
    (flow : RequestFlow) : Prop where
  suffix : flow.pipeline <:+ frames
  taken : flow.taken ++ filledPayloads flow.pipeline = filledPayloads frames
  spooled : flow.upstream ++ flow.events.filterMap SpoolBodyEvent.payload = flow.taken
  once : flow.returned ++ owedPayloads flow.events = flow.taken
  collecting : ∀ chunks length, flow.replay = some (.collecting chunks length) →
    owedPayloads flow.events = []
  credit : flow.window.available + flow.unreturnedBytes = window
  running : flow.closed = false → EndsBody streamId (requestChunkSize window) flow.pipeline ∧
    .ended ∉ flow.events ∧ flow.ended = false
  closing : flow.closed = true → flow.pipeline = [] ∧
    (flow.ended = false → ∃ events, flow.events = events ++ [.ended] ∧ .ended ∉ events) ∧
    (flow.ended = true → flow.events = [])
  alive : flow.aborted = false

@[simp] theorem filledPayloads_nil : filledPayloads [] = [] := rfl

theorem filledPayloads_cons (frame : Frame) (frames : List Frame) :
    filledPayloads (frame :: frames) =
      (if frame.payload = [] then [] else [frame.payload]) ++ filledPayloads frames := by
  by_cases empty : frame.payload = [] <;> simp [filledPayloads, empty]

@[simp] theorem owedPayloads_append (first second : List SpoolBodyEvent) :
    owedPayloads (first ++ second) = owedPayloads first ++ owedPayloads second :=
  filterMap_append ..

@[simp] theorem owedPayloads_nil : owedPayloads [] = [] := rfl

@[simp] theorem owedPayloads_ended (events : List SpoolBodyEvent) :
    owedPayloads (.ended :: events) = owedPayloads events := rfl

@[simp] theorem owedPayloads_paid (payload : Bytes) (events : List SpoolBodyEvent) :
    owedPayloads (.data payload true :: events) = owedPayloads events := rfl

@[simp] theorem owedPayloads_owed (payload : Bytes) (events : List SpoolBodyEvent) :
    owedPayloads (.data payload false :: events) = payload :: owedPayloads events := rfl

@[simp] theorem isEndStream_requestBodyFrame (streamId : UInt32) (payload : Bytes) (last : Bool) :
    (requestBodyFrame streamId payload last).isEndStream = last := by
  cases last
  · simp [Frame.isEndStream, requestBodyFrame]
  · simp only [Frame.isEndStream, requestBodyFrame, if_true]
    decide

section Steps

variable {streamId : UInt32} {window outboundCapacity : Nat} {frames : List Frame}
  {flow : RequestFlow}

variable {frame : Frame}

theorem EndsBody.cons {size : Nat} {rest}
    (proper : EndsBody streamId size (frame :: rest)) : frame.payload.length ≤ size ∧
      if frame.isEndStream then rest = [] else EndsBody streamId size rest := by
  obtain ⟨payloads, last, shape, short⟩ := proper
  cases payloads with
  | nil =>
    obtain ⟨rfl, rfl⟩ := List.cons.inj shape
    exact ⟨short last (by simp), by simp⟩
  | cons payload payloads =>
    obtain ⟨rfl, rfl⟩ := List.cons.inj shape
    refine ⟨short payload (by simp), ?_⟩
    simp only [isEndStream_requestBodyFrame, Bool.false_eq_true, if_false]
    exact ⟨payloads, last, rfl, fun later member => short later (by
      simp only [cons_append, mem_cons]
      exact .inr member)⟩

section

variable (invariant : RequestInvariant streamId window frames flow)
include invariant

theorem RequestInvariant.moved {unsent outbound wire channel available holding} {updates : List Nat}
    {after}
    (shape : after =
      { flow with unsent, window := available, holding, outbound, wire, channel, updates })
    (same : after.pipeline = flow.pipeline)
    (credit : available.available + (payloadBytes after.inFlight).length + updates.sum =
      flow.window.available + (payloadBytes flow.inFlight).length + flow.updates.sum) :
    RequestInvariant streamId window frames after := by
  have kept := invariant.credit
  subst shape
  exact { invariant with
    suffix := by
      rw [same]
      exact invariant.suffix
    taken := by
      rw [same]
      exact invariant.taken
    credit := by
      have events : (owedPayloads (RequestFlow.events { flow with
        unsent, window := available, holding, outbound, wire, channel, updates })) =
        owedPayloads flow.events := rfl
      simp only [unreturnedBytes, events] at kept ⊢
      omega
    running := by
      rw [same]
      exact invariant.running
    closing := by
      rw [same]
      exact invariant.closing }

theorem RequestInvariant.isOpen (member : frame ∈ flow.pipeline) : flow.closed = false := by
  cases closed : flow.closed with
  | false => rfl
  | true =>
    rw [(invariant.closing closed).1] at member
    cases member

theorem acquire_request {rest paid} (idle : flow.holding = none)
    (more : flow.unsent = frame :: rest)
    (paying : flow.window.acquire frame.payload.length = some paid) :
    RequestInvariant streamId window frames
      { flow with unsent := rest, window := paid, holding := some frame } := by
  obtain ⟨left, spent, rfl⟩ := map_eq_some_iff.mp paying
  rw [Credit.spend_eq_some] at spent
  refine invariant.moved rfl ?_ ?_
  · simp [RequestFlow.pipeline, inFlight, idle, more]
  · simp only [inFlight, idle, toList_some, toList_none,
      append_nil, payloadBytes_append, payloadBytes_cons, payloadBytes_nil, length_append]
    omega

end

theorem addWindow_request (small : window < 2 ^ 32)
    (invariant : RequestInvariant streamId window frames flow) {delta : Nat} {rest : List Nat}
    (arrived : flow.updates = delta :: rest) : RequestInvariant streamId window frames
      { flow with window := flow.window.add delta, updates := rest } := by
  have credit := invariant.credit
  have total : flow.updates.sum = delta + rest.sum := by rw [arrived, sum_cons]
  have added : (flow.window.add delta).available = flow.window.available + delta := by
    refine Credit.refill_eq ?_
    unfold unreturnedBytes at credit
    omega
  refine invariant.moved rfl rfl ?_
  have same : (inFlight { flow with
      window := flow.window.add delta, updates := rest }) = flow.inFlight := rfl
  rw [added, total, same]
  omega

/-- Enough bytes in every run of frames that would not fit in the channel. -/
def NoCrowd (window : Nat) (pieces : List Bytes) : Prop :=
  ∀ run, run <:+: pieces → run.length = bodyCapacity window + 1 → window < run.flatten.length

theorem payloadBytes_eq (frames : List Frame) :
    payloadBytes frames = (frames.map Frame.payload).flatten := by
  simp [payloadBytes, List.flatMap]

theorem dispatch_request (invariant : RequestInvariant streamId window frames flow)
    (roomy : NoCrowd window (frames.map Frame.payload)) {rest}
    (arrived : flow.wire = frame :: rest) : RequestInvariant streamId window frames
      (dispatch window { flow with wire := rest } frame) := by
  have pipeline : flow.pipeline = flow.channel ++ [frame] ++
      (rest ++ flow.outbound ++ flow.holding.toList ++ flow.unsent) := by
    simp [RequestFlow.pipeline, inFlight, arrived]
  have isOpen := invariant.isOpen (show frame ∈ flow.pipeline by simp [pipeline])
  have room : flow.channel.length < bodyCapacity window := by
    by_contra full
    -- a run of frames that fills the channel and one more, all of them paid for
    obtain ⟨before, whole⟩ := invariant.suffix
    have credit := invariant.credit
    have paid : payloadBytes flow.inFlight = payloadBytes (flow.channel ++ [frame]) ++
        payloadBytes (rest ++ flow.outbound ++ flow.holding.toList) := by
      simp [inFlight, arrived]
    let run := (flow.channel ++ [frame]).drop (flow.channel.length - bodyCapacity window)
    have crowd := roomy (run.map Frame.payload) ?_ ?_
    · have part : (payloadBytes run).length ≤ (payloadBytes (flow.channel ++ [frame])).length := by
        exact ((drop_sublist _ _).map Frame.payload).flatten.length_le
      rw [← payloadBytes_eq] at crowd
      simp only [unreturnedBytes, paid, length_append] at credit
      omega
    · refine List.IsInfix.map _ ?_
      rw [← whole, pipeline]
      exact ((drop_suffix _ _).isInfix).trans
        ⟨before, rest ++ flow.outbound ++ flow.holding.toList ++ flow.unsent, by simp⟩
    · simp only [run, length_map, length_drop, length_append, length_singleton]
      omega
  have delivered : dispatch window { flow with wire := rest } frame =
      { flow with wire := rest, channel := flow.channel ++ [frame] } := by
    simp [dispatch, invariant.alive, dispatchStreamFrame, isOpen, room]
  rw [delivered]
  refine invariant.moved rfl ?_ ?_
  · simp [RequestFlow.pipeline, inFlight, arrived]
  · simp [inFlight, arrived]

section

variable (replay : Option RequestBodyReplayStatus) (chunks : List Bytes) (length : Nat)
include replay chunks length

theorem disableReplay_collecting : replay.map disableReplay ≠ some (.collecting chunks length) := by
  rintro known
  obtain ⟨status, -, disabled⟩ := map_eq_some_iff.mp known
  cases status <;> cases disabled

theorem discard_collecting :
    replay.map RequestBodyReplayStatus.discard ≠ some (.collecting chunks length) := by
  rintro known
  obtain ⟨status, -, discarded⟩ := map_eq_some_iff.mp known
  cases status <;> cases discarded

theorem finish_collecting : replay.map finish ≠ some (.collecting chunks length) := by
  rintro known
  obtain ⟨status, -, finished⟩ := map_eq_some_iff.mp known
  cases status with
  | collecting =>
    simp only [finish] at finished
    split at finished <;> cases finished
  | ready | empty | nonReplayable => cases finished

end

theorem retain_collecting (payload : Bytes) (reserved : Bool) :
    ((flow.retain payload reserved).1 = true →
      ∃ chunks length, flow.replay = some (.collecting chunks length)) ∧
    ∀ chunks length, (flow.retain payload reserved).2 = some (.collecting chunks length) →
      (flow.retain payload reserved).1 = true := by
  unfold retain
  cases known : flow.replay with
  | none => simp
  | some status =>
    cases status with
    | collecting chunks length =>
      refine ⟨fun _ => ⟨chunks, length, rfl⟩, ?_⟩
      simp only [pushChunk]
      split <;> simp
    | ready | empty | nonReplayable => simp [pushChunk]

theorem sendWindowUpdate_filled {payload : Bytes} (filled : payload ≠ [])
    (small : payload.length < 2 ^ 32) (flow : RequestFlow) : flow.sendWindowUpdate payload =
      { flow with
        updates := flow.updates ++ [payload.length], returned := flow.returned ++ [payload] } := by
  have length : min payload.length (2 ^ 32 - 1) = payload.length := by omega
  simp only [sendWindowUpdate, length_eq_zero_iff, filled, if_false, length]

theorem RequestInvariant.first (invariant : RequestInvariant streamId window frames flow)
    {rest} (isOpen : flow.closed = false) (waiting : flow.channel = frame :: rest) :
    flow.pipeline = frame :: RequestFlow.pipeline { flow with channel := rest } ∧
      frame.payload.length ≤ requestChunkSize window ∧
      if frame.isEndStream then RequestFlow.pipeline { flow with channel := rest } = []
      else EndsBody streamId (requestChunkSize window)
        (RequestFlow.pipeline { flow with channel := rest }) := by
  have pipeline : flow.pipeline = frame :: RequestFlow.pipeline { flow with channel := rest } := by
    simp [RequestFlow.pipeline, inFlight, waiting]
  have proper := (invariant.running isOpen).1
  rw [pipeline] at proper
  exact ⟨pipeline, proper.cons⟩

theorem chunkSize_small (window : Nat) : requestChunkSize window < 2 ^ 32 := by
  unfold requestChunkSize maxRequestBodyFrameSize
  omega

section

variable (invariant : RequestInvariant streamId window frames flow)
include invariant

theorem RequestInvariant.spooled_frame {rest} (isOpen : flow.closed = false)
    (idle : flow.spooling = []) (waiting : flow.channel = frame :: rest)
    (replay : Option RequestBodyReplayStatus) (added : List SpoolBodyEvent) (updates : List Nat)
    (returned : List Bytes)
    (payloads : added.filterMap SpoolBodyEvent.payload =
      if frame.payload = [] then [] else [frame.payload])
    (once : flow.returned ++ returned ++ owedPayloads (flow.spool ++ added) =
      flow.taken ++ if frame.payload = [] then [] else [frame.payload])
    (collecting : ∀ chunks length, replay = some (.collecting chunks length) → owedPayloads
      (flow.spool ++ added) = [])
    (credit : (owedPayloads added).flatten.length + updates.sum = frame.payload.length)
    (ending : if frame.isEndStream then ∃ events, added = events ++ [.ended] ∧
      .ended ∉ events else .ended ∉ added) : RequestInvariant streamId window frames
      { flow with
        channel := rest
        replay
        spooling := added
        closed := frame.isEndStream
        updates := flow.updates ++ updates
        taken := flow.taken ++ if frame.payload = [] then [] else [frame.payload]
        returned := flow.returned ++ returned } := by
  obtain ⟨pipeline, -, follows⟩ := invariant.first isOpen waiting
  obtain ⟨-, noEnd, unended⟩ := invariant.running isOpen
  have events : flow.events = flow.spool := by rw [RequestFlow.events, idle, append_nil]
  rw [events] at noEnd
  exact {
    suffix := by
      have suffix := invariant.suffix
      rw [pipeline] at suffix
      exact (suffix_cons _ _).trans suffix
    taken := by
      have taken := invariant.taken
      rw [pipeline, filledPayloads_cons, ← append_assoc] at taken
      exact taken
    spooled := by
      rw [← invariant.spooled, events]
      simp [RequestFlow.events, payloads]
    once
    collecting
    credit := by
      have credited := invariant.credit
      have before : payloadBytes flow.inFlight = frame.payload ++
          payloadBytes (inFlight { flow with channel := rest }) := by
        simp [inFlight, waiting]
      rw [unreturnedBytes, before, events] at credited
      simp only [unreturnedBytes, RequestFlow.events, inFlight,
        owedPayloads_append, flatten_append, length_append,
        sum_append] at credited ⊢
      omega
    running := by
      intro more
      change frame.isEndStream = false at more
      rw [more] at follows ending
      simp only [Bool.false_eq_true, if_false] at follows ending
      exact ⟨follows, by simp [RequestFlow.events, noEnd, ending], unended⟩
    closing := by
      intro last
      change frame.isEndStream = true at last
      rw [last] at follows ending
      simp only [if_true] at follows ending
      obtain ⟨earlier, rfl, none⟩ := ending
      refine ⟨follows, fun _ => ⟨flow.spool ++ earlier, ?_, by simp [noEnd, none]⟩, ?_⟩
      · simp [RequestFlow.events]
      · intro ended
        change flow.ended = true at ended
        rw [unended] at ended
        cases ended
    alive := invariant.alive }

theorem spoolFrame_request {rest} (reserved : Bool) (isOpen : flow.closed = false)
    (idle : flow.spooling = []) (waiting : flow.channel = frame :: rest) :
    RequestInvariant streamId window frames
      (spoolFrame { flow with channel := rest } frame reserved) := by
  obtain ⟨-, short, -⟩ := invariant.first isOpen waiting
  have small := short.trans_lt (chunkSize_small window)
  have events : flow.events = flow.spool := by rw [RequestFlow.events, idle, append_nil]
  have once := invariant.once
  have collecting := invariant.collecting
  rw [events] at once collecting
  unfold spoolFrame
  by_cases empty : frame.payload = []
  · cases last : frame.isEndStream with
    | true =>
      have after := invariant.spooled_frame isOpen idle waiting (flow.replay.map finish) [.ended] []
        []
        (by simp [empty, SpoolBodyEvent.payload])
        (by simpa [empty] using once)
        (fun chunks length finished => absurd finished (finish_collecting _ _ _))
        (by simp [empty])
        (by simp only [last, if_true]; exact ⟨[], rfl, by simp⟩)
      simpa [empty, last] using after
    | false =>
      have after := invariant.spooled_frame isOpen idle waiting flow.replay [] [] []
        (by simp [empty]) (by simpa [empty] using once)
        (by simpa using collecting) (by simp [empty]) (by simp [last])
      simpa [empty, last, isOpen, idle] using after
  · obtain ⟨keeps, collects⟩ :=
      @retain_collecting { flow with channel := rest } frame.payload reserved
    let last : List SpoolBodyEvent := if frame.isEndStream then [.ended] else []
    have noPayload : last.filterMap SpoolBodyEvent.payload = [] ∧ owedPayloads last = [] := by
      simp only [last]
      split <;> exact ⟨rfl, rfl⟩
    have ending (first : SpoolBodyEvent) (data : first ≠ .ended) :
        if frame.isEndStream then ∃ events, first :: last = events ++ [.ended] ∧ .ended ∉ events
        else .ended ∉ first :: last := by
      simp only [last]
      split
      · exact ⟨[first], rfl, by simpa using data.symm⟩
      · simpa using data.symm
    cases kept : (retain { flow with channel := rest } frame.payload reserved).1 with
    | true =>
      obtain ⟨chunks, length, known⟩ := keeps kept
      have none := collecting chunks length known
      rw [none] at once
      have after := invariant.spooled_frame isOpen idle waiting
        (retain { flow with channel := rest } frame.payload reserved).2
        (.data frame.payload true :: last) [frame.payload.length] [frame.payload]
        (by simp [empty, SpoolBodyEvent.payload, noPayload.1])
        (by simpa [empty, noPayload.2, none] using once)
        (by simp [none, noPayload.2])
        (by simp [noPayload.2])
        (ending _ (by simp))
      simpa [empty, last, kept, sendWindowUpdate_filled empty small] using after
    | false =>
      have after := invariant.spooled_frame isOpen idle waiting
        (retain { flow with channel := rest } frame.payload reserved).2
        (.data frame.payload false :: last) [] []
        (by simp [empty, SpoolBodyEvent.payload, noPayload.1])
        (by simp [empty, noPayload.2, ← once])
        (by
          intro chunks length still
          rw [collects chunks length still] at kept
          cases kept)
        (by simp [noPayload.2])
        (ending _ (by simp))
      simpa [empty, last, kept] using after

theorem replay_request {replay}
    (collecting : ∀ chunks length, replay = some (.collecting chunks length) → ∃ chunks length,
      flow.replay = some (.collecting chunks length)) :
    RequestInvariant streamId window frames { flow with replay } :=
  { invariant with
    collecting := fun chunks length known => by
      obtain ⟨chunks, length, known⟩ := collecting chunks length known
      exact invariant.collecting chunks length known }

theorem spoolSend_request {event rest}
    (sending : flow.spooling = event :: rest) : RequestInvariant streamId window frames
      { flow with
        spool := flow.spool ++ [event], spooling := rest, replay :=
          replayAfterSend flow.replay rest } := by
  have same : (RequestFlow.events { flow with spool := flow.spool ++ [event], spooling := rest }) =
      flow.events := by
    simp [RequestFlow.events, sending]
  have moved : RequestInvariant streamId window frames
      { flow with spool := flow.spool ++ [event], spooling := rest } :=
    { invariant with
      spooled := by
        rw [same]
        exact invariant.spooled
      once := by
        rw [same]
        exact invariant.once
      collecting := by
        rw [same]
        exact invariant.collecting
      credit := by
        rw [unreturnedBytes, same]
        exact invariant.credit
      running := by
        rw [same]
        exact invariant.running
      closing := by
        rw [same]
        exact invariant.closing }
  refine replay_request moved ?_
  intro chunks length known
  unfold replayAfterSend at known
  split at known
  · exact absurd known (finish_collecting _ _ _)
  · exact ⟨chunks, length, known⟩

theorem consume_request (small : window < 2 ^ 32) {event rest} (running : flow.ended = false)
    (queued : flow.spool = event :: rest) : RequestInvariant streamId window frames
      (consume { flow with spool := rest } event) := by
  have events : flow.events = event :: (rest ++ flow.spooling) := by
    simp [RequestFlow.events, queued]
  have spooled := invariant.spooled
  have once := invariant.once
  have credit := invariant.credit
  have collecting := invariant.collecting
  rw [events] at spooled once collecting
  rw [unreturnedBytes, events] at credit
  cases event with
  | data payload creditReturned =>
    have noEnd : .ended ∉ flow.events ↔ .ended ∉ rest ++ flow.spooling := by simp [events]
    -- the events that are left end the same way
    have running' : flow.closed = false →
        EndsBody streamId (requestChunkSize window) flow.pipeline ∧
          .ended ∉ rest ++ flow.spooling ∧ flow.ended = false := by
      rw [← noEnd]
      exact invariant.running
    have closing' : flow.closed = true → flow.pipeline = [] ∧
        (flow.ended = false → ∃ events, rest ++ flow.spooling = events ++ [.ended] ∧
          .ended ∉ events) ∧ (flow.ended = true → rest ++ flow.spooling = []) := by
      intro closed
      obtain ⟨none, ending, -⟩ := invariant.closing closed
      refine ⟨none, fun unended => ?_, fun ended => by rw [running] at ended; cases ended⟩
      obtain ⟨earlier, shape, absent⟩ := ending unended
      rw [events] at shape
      cases earlier with
      | nil => cases shape
      | cons first earlier =>
        obtain ⟨rfl, others⟩ := List.cons.inj shape
        exact ⟨earlier, others, fun member => absent (mem_cons_of_mem _ member)⟩
    cases creditReturned with
    | true =>
      simp only [consume, if_true]
      exact { invariant with
        spooled := by simpa [SpoolBodyEvent.payload, RequestFlow.events] using spooled
        once := once
        collecting := collecting
        credit := credit
        running := running'
        closing := closing' }
    | false =>
      have filled : payload ≠ [] := by
        have member : payload ∈ filledPayloads frames := by
          rw [← invariant.taken, ← once]
          simp
        simpa [filledPayloads] using (mem_filter.mp member).2
      have length : payload.length < 2 ^ 32 := by
        simp only [owedPayloads_owed, flatten_cons, length_append] at credit
        omega
      simp only [consume, Bool.false_eq_true, if_false, sendWindowUpdate_filled filled length]
      exact { invariant with
        spooled := by simpa [SpoolBodyEvent.payload, RequestFlow.events] using spooled
        once := by simpa [RequestFlow.events] using once
        collecting := fun chunks length known => by simpa using collecting chunks length known
        credit := by
          simp only [unreturnedBytes, inFlight, RequestFlow.events,
            sum_append, sum_singleton, owedPayloads_owed, flatten_cons,
            length_append] at credit ⊢
          omega
        running := running'
        closing := closing' }
  | ended =>
    have closed : flow.closed = true := by
      cases isOpen : flow.closed with
      | true => rfl
      | false =>
        have absent := (invariant.running isOpen).2.1
        simp [events] at absent
    obtain ⟨none, ending, -⟩ := invariant.closing closed
    obtain ⟨earlier, shape, absent⟩ := ending running
    have last : rest ++ flow.spooling = [] := by
      rw [events] at shape
      cases earlier with
      | nil => exact (List.cons.inj shape).2
      | cons first earlier =>
        obtain ⟨rfl, -⟩ := List.cons.inj shape
        simp at absent
    simp only [consume]
    exact { invariant with
      spooled := spooled
      once := once
      collecting := collecting
      credit := credit
      running := fun isOpen => by
        change flow.closed = false at isOpen
        rw [closed] at isOpen
        cases isOpen
      closing := fun _ => ⟨none, (fun unended => by cases unended), fun _ => last⟩ }

end

theorem step_request (small : window < 2 ^ 32) (roomy : NoCrowd window (frames.map Frame.payload))
    (before after : RequestFlow) (invariant : RequestInvariant streamId window frames before)
    (step : RequestStep window outboundCapacity before after) :
    RequestInvariant streamId window frames after := by
  cases step with
  | acquire idle more paying => exact acquire_request invariant idle more paying
  | send held room =>
    refine invariant.moved rfl ?_ ?_
    · simp [RequestFlow.pipeline, inFlight, held]
    · simp [inFlight, held]
  | write queued =>
    refine invariant.moved rfl ?_ ?_
    · simp [RequestFlow.pipeline, inFlight, queued]
    · simp [inFlight, queued]
  | dispatch arrived => exact dispatch_request invariant roomy arrived
  | spoolFrame reserved alive isOpen idle waiting =>
    exact spoolFrame_request invariant reserved isOpen idle waiting
  | spoolFull alive sending full =>
    exact replay_request invariant fun chunks length known =>
      absurd known (disableReplay_collecting _ _ _)
  | spoolSend alive sending room => exact spoolSend_request invariant sending
  | consume alive running queued => exact consume_request invariant small running queued
  | discard =>
    exact replay_request invariant fun chunks length known =>
      absurd known (discard_collecting _ _ _)
  | addWindow arrived => exact addWindow_request small invariant arrived

end Steps

/-! ## Going on -/

/-- How much there is left to do. A frame in the channel becomes two events and an update at
most, and an event in the spool one update. -/
def RequestFlow.work (flow : RequestFlow) : Nat :=
  12 * flow.unsent.length + 11 * flow.holding.toList.length + 10 * flow.outbound.length +
    9 * flow.wire.length + 8 * flow.channel.length + 3 * flow.spooling.length +
    2 * flow.spool.length + flow.updates.length

open RequestFlow (work)

section Progress

variable {streamId : UInt32} {window outboundCapacity : Nat} {frames : List Frame}
  {flow : RequestFlow}

theorem bodyCapacity_pos (window : Nat) : 0 < bodyCapacity window := by
  unfold bodyCapacity
  omega

theorem sendWindowUpdate_work (flow : RequestFlow) (payload : Bytes) :
    (flow.sendWindowUpdate payload).work ≤ flow.work + 1 := by
  unfold sendWindowUpdate
  split
  · omega
  · simp [work]
    omega

theorem consume_work (flow : RequestFlow) (event : SpoolBodyEvent) :
    (flow.consume event).work ≤ flow.work + 1 := by
  cases event with
  | ended => simp [consume, work]
  | data payload creditReturned =>
    have update := sendWindowUpdate_work flow payload
    cases creditReturned
    · simpa [consume, work] using update
    · simp [consume, work]

theorem spoolFrame_work (flow : RequestFlow) (frame : Frame) (reserved : Bool)
    (idle : flow.spooling = []) : (flow.spoolFrame frame reserved).work ≤ flow.work + 7 := by
  have last : (if frame.isEndStream then [SpoolBodyEvent.ended] else []).length ≤ 1 := by
    split <;> simp
  unfold spoolFrame
  split
  · split
    · simp [work, idle]
      omega
    · omega
  · cases kept : (flow.retain frame.payload reserved).1 with
    | true =>
      unfold sendWindowUpdate
      simp only [kept, if_true]
      split <;>
        simp only [work, length_append, length_cons, length_nil, idle] <;>
        omega
    | false =>
      simp only [kept, Bool.false_eq_true, if_false, work, length_cons, idle, length_nil]
      omega

theorem RequestInvariant.goes_on (invariant : RequestInvariant streamId window frames flow)
    (outbound : 0 < outboundCapacity) (running : flow.ended = false) :
    ∃ next, RequestStep window outboundCapacity flow next ∧ next.work < flow.work := by
  have alive := invariant.alive
  -- from the upstream back to the gateway: the first place that holds something can move it
  cases spool : flow.spool with
  | cons event rest =>
    have less := consume_work { flow with spool := rest } event
    refine ⟨_, .consume alive running spool, less.trans_lt ?_⟩
    simp [work, spool]
    omega
  | nil =>
  cases spooling : flow.spooling with
  | cons event rest =>
    refine ⟨_, .spoolSend alive spooling (by rw [spool]; decide), ?_⟩
    simp [work, spool, spooling]
    omega
  | nil =>
  cases channel : flow.channel with
  | cons frame rest =>
    have less := spoolFrame_work { flow with channel := rest } frame false spooling
    have more := invariant.isOpen (show frame ∈ flow.pipeline by
      simp [RequestFlow.pipeline, inFlight, channel])
    refine ⟨_, .spoolFrame false alive more spooling channel, less.trans_lt ?_⟩
    simp [work, channel]
    omega
  | nil =>
  cases wire : flow.wire with
  | cons frame rest =>
    have more := invariant.isOpen (show frame ∈ flow.pipeline by
      simp [RequestFlow.pipeline, inFlight, wire])
    refine ⟨_, .dispatch wire, ?_⟩
    simp [dispatch, dispatchStreamFrame, alive, more, channel, bodyCapacity_pos, work, wire]
    omega
  | nil =>
  cases queued : flow.outbound with
  | cons frame rest =>
    refine ⟨_, .write queued, ?_⟩
    simp [work, queued]
    omega
  | nil =>
  cases held : flow.holding with
  | some frame =>
    refine ⟨_, .send held (by rw [queued]; exact outbound), ?_⟩
    simp [work, held, queued]
  | none =>
  cases updates : flow.updates with
  | cons delta rest =>
    refine ⟨_, .addWindow updates, ?_⟩
    simp [work, updates]
  | nil =>
  have flight : flow.inFlight = [] := by simp [inFlight, channel, wire, queued, held]
  have quiet : flow.events = [] := by simp [RequestFlow.events, spool, spooling]
  cases unsent : flow.unsent with
  | cons frame rest =>
    have pipeline : flow.pipeline = frame :: rest := by
      rw [RequestFlow.pipeline, flight, unsent, nil_append]
    have more := invariant.isOpen (show frame ∈ flow.pipeline by simp [pipeline])
    have proper := (invariant.running more).1
    rw [pipeline] at proper
    have short : frame.payload.length ≤ window := proper.cons.1.trans (min_le_right _ _)
    have credit := invariant.credit
    simp only [unreturnedBytes, flight, quiet, updates, payloadBytes_nil,
      owedPayloads_nil, flatten_nil, length_nil, sum_nil] at credit
    obtain ⟨left, spent⟩ := isSome_iff_exists.mp
      ((Credit.spend_isSome flow.window.available frame.payload.length).mpr (by omega))
    refine ⟨_, .acquire held unsent (by rw [StreamFlowWindow.acquire, spent]; rfl), ?_⟩
    simp [work, unsent, held]
    omega
  | nil =>
    have none : flow.pipeline = [] := by rw [RequestFlow.pipeline, flight, unsent, nil_append]
    cases closed : flow.closed with
    | true =>
      obtain ⟨events, shape, -⟩ := (invariant.closing closed).2.1 running
      rw [quiet] at shape
      simp at shape
    | false =>
      obtain ⟨payloads, last, shape, -⟩ := (invariant.running closed).1
      rw [none] at shape
      simp at shape

end Progress

/-! ## The bodies that get through -/

structure BodyKept (window outboundCapacity : Nat) (body : RequestBody) (flow : RequestFlow) :
    Prop where
  delivered : flow.aborted = false
  inOrder : flow.upstream.flatten <+: body.bytes
  whole : flow.ended = true → flow.upstream.flatten = body.bytes
  once : flow.returned ++ owedPayloads flow.events = flow.taken
  credit : flow.window.available + flow.unreturnedBytes = window
  completes : ∃ last, ReflTransGen (RequestStep window outboundCapacity) flow last ∧
    last.ended = true ∧ last.upstream.flatten = body.bytes ∧
    last.returned = (body.pieces window).filter (fun piece => piece ≠ [])

section Bodies

variable {streamId : UInt32} {window outboundCapacity : Nat} {captureForRedirects : Bool}
  {body : RequestBody} {flow : RequestFlow}

theorem frames_payload (streamId : UInt32) (positive : 0 < window) :
    (body.frames streamId window).map Frame.payload = body.pieces window := by
  obtain ⟨payloads, last, cut, -, shape⟩ := body.frames_eq streamId positive
  rw [shape, cut]
  simp [requestBodyFrame, Function.comp_def]

theorem filled_flatten (pieces : List Bytes) :
    (pieces.filter (fun piece => piece ≠ [])).flatten = pieces.flatten := by
  induction pieces with
  | nil => rfl
  | cons piece rest ih =>
    by_cases empty : piece = []
    · simpa [empty] using ih
    · simpa [empty] using ih

theorem start_request (positive : 0 < window) :
    RequestInvariant streamId window (body.frames streamId window)
      (.start streamId window captureForRedirects body) := by
  have pipeline : (RequestFlow.start streamId window captureForRedirects body).pipeline =
      body.frames streamId window := rfl
  exact {
    suffix := suffix_rfl
    taken := rfl
    spooled := rfl
    once := rfl
    collecting := fun _ _ _ => rfl
    credit := rfl
    running := by
      intro _
      obtain ⟨payloads, last, cut, -, shape⟩ := body.frames_eq streamId positive
      refine ⟨⟨payloads, last, pipeline.trans shape, ?_⟩, by simp
        [RequestFlow.events, RequestFlow.start], rfl⟩
      rw [← cut]
      exact body.pieces_length_le window
    closing := nofun
    alive := rfl }

theorem RequestInvariant.kept (positive : 0 < window)
    (invariant : RequestInvariant streamId window (body.frames streamId window) flow)
    (ended : flow.ended = true) : flow.upstream.flatten = body.bytes ∧
      flow.returned = (body.pieces window).filter (fun piece => piece ≠ []) := by
  have closed : flow.closed = true := by
    cases isOpen : flow.closed with
    | true => rfl
    | false =>
      rw [(invariant.running isOpen).2.2] at ended
      cases ended
  obtain ⟨none, -, quiet⟩ := invariant.closing closed
  have taken := invariant.taken
  have spooled := invariant.spooled
  have once := invariant.once
  rw [none, filledPayloads_nil, append_nil, filledPayloads,
    frames_payload streamId positive] at taken
  rw [quiet ended, filterMap_nil, append_nil, taken] at spooled
  rw [quiet ended, owedPayloads_nil, append_nil, taken] at once
  exact ⟨by rw [spooled, filled_flatten, body.pieces_flatten positive], once⟩

theorem body_kept (positive : 0 < window) (small : window < 2 ^ 32)
    (outbound : 0 < outboundCapacity) (roomy : NoCrowd window (body.pieces window))
    (reaches : RequestReaches streamId window outboundCapacity captureForRedirects body flow) :
    BodyKept window outboundCapacity body flow := by
  rw [← frames_payload streamId positive] at roomy
  have invariant : RequestInvariant streamId window (body.frames streamId window) flow :=
    Transition.invariant (step_request small roomy) reaches (start_request positive)
  refine ⟨invariant.alive, ?_, fun ended => (invariant.kept positive ended).1, invariant.once,
    invariant.credit, ?_⟩
  · have bytes : body.bytes = (filledPayloads (body.frames streamId window)).flatten := by
      rw [filledPayloads, frames_payload streamId positive, filled_flatten,
        body.pieces_flatten positive]
    rw [bytes, ← invariant.taken, ← invariant.spooled]
    simp only [flatten_append, append_assoc]
    exact prefix_append _ _
  · obtain ⟨last, run, ended⟩ := @Transition.gets_done RequestFlow
      (fun before after => RequestStep window outboundCapacity before after ∧
        after.work < before.work)
      (RequestInvariant streamId window (body.frames streamId window))
      (fun flow => flow.ended = true) work
      (fun before after kept step => step_request small roomy before after kept step.1)
      (fun before after _ step => step.2)
      (fun state kept running => kept.goes_on outbound (Bool.eq_false_of_not_eq_true running))
      flow invariant
    have steps : ReflTransGen (RequestStep window outboundCapacity) flow last :=
      ReflTransGen.mono (fun _ _ step => step.1) _ _ run
    have final := Transition.invariant (step_request small roomy) steps invariant
    exact ⟨last, steps, ended, final.kept positive ended⟩

/-- Everything sent so far has been taken by the upstream, and its credit is back. -/
def restingFlow (window : Nat) (unsent : List Frame) (replay : Option RequestBodyReplayStatus)
    (through : List Bytes) : RequestFlow where
  unsent
  window := ⟨window⟩
  holding := none
  outbound := []
  wire := []
  channel := []
  aborted := false
  replay
  spooling := []
  closed := false
  spool := []
  upstream := through
  ended := false
  updates := []
  taken := through
  returned := through

section

variable (outbound : 0 < outboundCapacity)
include outbound

theorem frame_arrives (flow : RequestFlow) (frame : Frame) (rest : List Frame) (available : Nat)
    (paid : frame.payload.length ≤ available) : ReflTransGen (RequestStep window outboundCapacity)
      { flow with
        unsent := frame :: rest, window := ⟨available⟩, holding := none, outbound := [], wire :=
          [] }
      (dispatch window
        { flow with
          unsent := rest, window := ⟨available - frame.payload.length⟩, holding := none,
          outbound := [], wire := [] } frame) := by
  have spent : (⟨available⟩ : StreamFlowWindow).acquire frame.payload.length =
      some ⟨available - frame.payload.length⟩ := by
    rw [StreamFlowWindow.acquire, (Credit.spend_eq_some ..).mpr (Nat.sub_add_cancel paid)]
    rfl
  exact .head (.acquire rfl rfl spent) <| .head (.send rfl outbound) <| .head (.write rfl) <|
    .single (.dispatch rfl)

theorem frame_through (small : window < 2 ^ 32) (payload : Bytes) (filled : payload ≠ [])
    (short : payload.length ≤ window) (rest : List Frame) (replay : Option RequestBodyReplayStatus)
    (through : List Bytes) : ∃ after, ReflTransGen (RequestStep window outboundCapacity)
      (restingFlow window (requestBodyFrame streamId payload false :: rest) replay through)
      (restingFlow window rest after (through ++ [payload])) := by
  let frame := requestBodyFrame streamId payload false
  let spent : RequestFlow :=
    { restingFlow window rest replay through with window := ⟨window - payload.length⟩ }
  let kept := spent.retain payload true
  have length : payload.length < 2 ^ 32 := by omega
  have delivered : dispatch window spent frame = { spent with channel := [frame] } := by
    simp [dispatch, dispatchStreamFrame, spent, restingFlow, bodyCapacity_pos]
  have arrives : ReflTransGen (RequestStep window outboundCapacity)
      (restingFlow window (frame :: rest) replay through) (dispatch window spent frame) :=
    frame_arrives outbound (restingFlow window rest replay through) frame rest window short
  rw [delivered] at arrives
  have spooled : RequestStep window outboundCapacity { spent with channel := [frame] }
      (spoolFrame spent frame true) := .spoolFrame true rfl rfl rfl rfl
  have added : (⟨window - payload.length⟩ : StreamFlowWindow).add payload.length = ⟨window⟩ := by
    change (⟨Credit.refill (window - payload.length) payload.length⟩ : StreamFlowWindow) = ⟨window⟩
    rw [Credit.refill_eq (by omega), Nat.sub_add_cancel short]
  let taken : RequestFlow :=
    { restingFlow window rest kept.2 (through ++ [payload]) with
      window := ⟨window - payload.length⟩, updates := [payload.length] }
  have returned : RequestStep window outboundCapacity taken
      (restingFlow window rest kept.2 (through ++ [payload])) := by
    have step : RequestStep window outboundCapacity taken
        { taken with
          window := (⟨window - payload.length⟩ : StreamFlowWindow).add payload.length
          updates := [] } := .addWindow rfl
    rw [added] at step
    exact step
  have empty : 0 < requestBodySpoolQueueCapacity := by decide
  -- the credit comes back before the upstream has the payload, or when it takes it
  have finishes : ReflTransGen (RequestStep window outboundCapacity)
      (spoolFrame spent frame true)
      (restingFlow window rest kept.2 (through ++ [payload])) := by
    have shape : spoolFrame spent frame true =
        { (if kept.1 then
            sendWindowUpdate { spent with
              replay := kept.2, taken := through ++ [payload] } payload
          else { spent with replay := kept.2, taken := through ++ [payload] }) with
          spooling := [.data payload kept.1], closed := false } := by
      have notLast : frame.isEndStream = false := isEndStream_requestBodyFrame ..
      have same : frame.payload = payload := rfl
      simp only [spoolFrame, same, filled, if_false, notLast, Bool.false_eq_true, kept]
      rfl
    rw [shape]
    cases known : kept.1 with
    | true =>
      rw [if_pos rfl, sendWindowUpdate_filled filled length]
      exact .head (.spoolSend rfl rfl empty) <| .head (.consume rfl rfl rfl) <| .single returned
    | false =>
      have consumed : consume { spent with
          replay := kept.2, taken := through ++ [payload] } (.data payload false) = taken := by
        simp only [consume, Bool.false_eq_true, if_false, sendWindowUpdate_filled filled length]
        rfl
      have consumes : RequestStep window outboundCapacity { spent with
          replay := kept.2, taken := through ++ [payload], spool :=
            [.data payload false] } taken := by
        rw [← consumed]
        exact .consume rfl rfl rfl
      exact .head (.spoolSend rfl rfl empty) <| .head consumes <| .single returned
  exact ⟨kept.2, arrives.trans (.head spooled finishes)⟩

theorem frames_through (small : window < 2 ^ 32) (payloads : List Bytes) (rest : List Frame)
    (filled : ∀ payload ∈ payloads, payload ≠ [])
    (short : ∀ payload ∈ payloads, payload.length ≤ window)
    (replay : Option RequestBodyReplayStatus) (through : List Bytes) :
    ∃ after, ReflTransGen (RequestStep window outboundCapacity)
      (restingFlow window (payloads.map (requestBodyFrame streamId · false) ++ rest) replay through)
      (restingFlow window rest after (through ++ payloads)) := by
  induction payloads generalizing replay through with
  | nil => exact ⟨replay, by simpa using ReflTransGen.refl⟩
  | cons payload payloads ih =>
    obtain ⟨middle, first⟩ := @frame_through streamId window outboundCapacity outbound small payload
      (filled payload (by simp)) (short payload (by simp))
      (payloads.map (requestBodyFrame streamId · false) ++ rest) replay through
    obtain ⟨after, others⟩ := ih (fun later member => filled later (mem_cons_of_mem _ member))
      (fun later member => short later (mem_cons_of_mem _ member)) middle
        (through ++ [payload])
    exact ⟨after, by simpa using first.trans others⟩

theorem channel_fills (flow : RequestFlow) (run rest : List Frame) (alive : flow.aborted = false)
    (isOpen : flow.closed = false) (channel : List Frame) (available : Nat)
    (paid : (payloadBytes run).length ≤ available)
    (room : channel.length + run.length ≤ bodyCapacity window) :
    ReflTransGen (RequestStep window outboundCapacity)
      { flow with
        unsent := run ++ rest, window := ⟨available⟩, holding := none, outbound := [], wire := []
        channel }
      { flow with
        unsent := rest, window := ⟨available - (payloadBytes run).length⟩, holding := none
        outbound := [], wire := [], channel := channel ++ run } := by
  induction run generalizing channel available with
  | nil => simpa using ReflTransGen.refl
  | cons frame run ih =>
    simp only [payloadBytes_cons, length_append, length_cons] at paid room
    have arrives := @frame_arrives window outboundCapacity outbound { flow with channel } frame
      (run ++ rest) available (by omega)
    have fits : channel.length < bodyCapacity window := by omega
    have delivered : dispatch window { flow with
        unsent := run ++ rest, window := ⟨available - frame.payload.length⟩, holding := none
        outbound := [], wire := [], channel } frame =
        { flow with
          unsent := run ++ rest, window := ⟨available - frame.payload.length⟩, holding := none
          outbound := [], wire := [], channel := channel ++ [frame] } := by
      simp [dispatch, dispatchStreamFrame, alive, isOpen, fits]
    rw [delivered] at arrives
    have others := ih (channel ++ [frame]) (available - frame.payload.length) (by omega)
      (by simp only [length_append, length_singleton]; omega)
    have whole : available - frame.payload.length - (payloadBytes run).length =
        available - (payloadBytes (frame :: run)).length := by
      simp only [payloadBytes_cons, length_append]
      omega
    rw [whole] at others
    simpa using arrives.trans others

end

theorem crowd_aborts (positive : 0 < window) (small : window < 2 ^ 32)
    (outbound : 0 < outboundCapacity) (crowded : ¬NoCrowd window (body.pieces window)) :
    ∃ flow, RequestReaches streamId window outboundCapacity captureForRedirects body flow ∧
      flow.aborted = true := by
  simp only [NoCrowd, not_forall, not_lt] at crowded
  obtain ⟨run, ⟨before, after, cut⟩, length, within⟩ := crowded
  obtain ⟨payloads, last, pieces, filled, shape⟩ := body.frames_eq streamId positive
  -- the crowd in terms of frames: `earlier`, then `crowd` and one more, then the rest
  have whole : (body.frames streamId window).map Frame.payload = body.pieces window :=
    frames_payload streamId positive
  rw [← cut, append_assoc] at whole
  obtain ⟨earlier, others, split, -, rest⟩ := map_eq_append_iff.mp whole
  obtain ⟨crowding, later, rfl, crowd, -⟩ := map_eq_append_iff.mp rest
  have size : crowding.length = bodyCapacity window + 1 := by
    rw [← length, ← crowd, length_map]
  have bytes : (payloadBytes crowding).length ≤ window := by
    rw [payloadBytes_eq, crowd]
    exact within
  rcases eq_nil_or_concat crowding with rfl | ⟨crowding, frame, rfl⟩
  · simp at size
  rw [concat_eq_append] at split size bytes
  simp only [length_append, length_singleton, payloadBytes_append, payloadBytes_cons,
    payloadBytes_nil, append_nil] at size bytes
  -- what comes before the crowd does not end the stream, so it all gets through
  obtain ⟨through, sent, short⟩ : ∃ through : List Bytes,
      earlier = through.map (requestBodyFrame streamId · false) ∧
        ∀ payload ∈ through, payload ≠ [] ∧ payload.length ≤ window := by
    have within : earlier <+: payloads.map (requestBodyFrame streamId · false) := by
      have first : earlier <+: body.frames streamId window := by
        rw [split]
        exact prefix_append _ _
      have second : payloads.map (requestBodyFrame streamId · false) <+:
          body.frames streamId window := by
        rw [shape]
        exact prefix_append _ _
      refine prefix_of_prefix_length_le first second ?_
      have count := congrArg List.length (split.symm.trans shape)
      simp only [length_append, length_map, length_singleton] at count ⊢
      omega
    obtain ⟨tail, joined⟩ := within
    obtain ⟨through, _, rfl, rfl, _⟩ := map_eq_append_iff.mp joined.symm
    refine ⟨through, rfl, fun payload member => ⟨filled payload (by simp [member]), ?_⟩⟩
    refine (body.pieces_length_le window payload ?_).trans (min_le_right _ _)
    rw [pieces]
    simp [member]
  obtain ⟨replay, passed⟩ := @frames_through streamId window outboundCapacity outbound small through
    (crowding ++ frame :: later) (fun payload member => (short payload member).1)
    (fun payload member => (short payload member).2)
    (if captureForRedirects then some (.collecting [] 0) else none) []
  have start : restingFlow window (through.map (requestBodyFrame streamId · false) ++
      (crowding ++ frame :: later)) (if captureForRedirects then some (.collecting [] 0) else none)
        [] =
      .start streamId window captureForRedirects body := by
    rw [RequestFlow.start, split, sent]
    simp [restingFlow, StreamFlowWindow.new]
  rw [start] at passed
  let resting := restingFlow window [] replay ([] ++ through)
  have filling := @channel_fills window outboundCapacity outbound resting crowding (frame :: later)
    rfl rfl [] window (by omega) (by simp only [length_nil]; omega)
  have arrives := @frame_arrives window outboundCapacity outbound
    { resting with channel := crowding } frame later (window - (payloadBytes crowding).length)
    (by omega)
  refine ⟨_, (passed.trans filling).trans arrives, ?_⟩
  have full : ¬crowding.length < bodyCapacity window := by omega
  simp [dispatch, dispatchStreamFrame, resting, restingFlow, full]

end Bodies

/-- A body gets through under every interleaving just when no crowd of its frames fits in
the window, whatever the window, the outbound queue and the use of redirects. -/
theorem request_body_kept_iff (streamId : UInt32) (window outboundCapacity : Nat)
    (positive : 0 < window) (small : window ≤ maxTunnelDecompressedPayloadBytes)
    (outbound : 0 < outboundCapacity) (captureForRedirects : Bool) (body : RequestBody) :
    (∀ flow, RequestReaches streamId window outboundCapacity captureForRedirects body flow →
      BodyKept window outboundCapacity body flow) ↔
    ∀ run, run <:+: body.pieces window → run.length = bodyCapacity window + 1 →
      window < run.flatten.length := by
  have bounded : window < 2 ^ 32 := by
    unfold maxTunnelDecompressedPayloadBytes at small
    omega
  constructor
  · intro kept
    by_contra crowded
    obtain ⟨flow, reaches, aborted⟩ := crowd_aborts positive bounded outbound crowded
    rw [(kept flow reaches).delivered] at aborted
    cases aborted
  · intro roomy flow reaches
    exact body_kept positive bounded outbound roomy reaches

theorem short_request_body_kept : 0 < 65536 ∧ 65536 ≤ maxTunnelDecompressedPayloadBytes ∧ 0 < 8 ∧
    ∀ flow, RequestReaches 3 65536 8 true ⟨[[1, 2], [], [3]], []⟩ flow →
      BodyKept 65536 8 ⟨[[1, 2], [], [3]], []⟩ flow := by
  refine ⟨by decide, by decide, by decide, ?_⟩
  refine (request_body_kept_iff 3 65536 8 (by decide) (by decide) (by decide) true _).mpr ?_
  intro run part length
  have pieces : (RequestBody.pieces 65536 ⟨[[1, 2], [], [3]], []⟩).length = 3 := by decide +kernel
  have few := part.length_le
  rw [length, pieces] at few
  exact absurd few (by decide)

/-- With a window of 64 KiB, a body of 65 payloads of one byte can be aborted. -/
theorem tiny_payloads_aborted :
    ∃ flow, RequestReaches 3 65536 8 true ⟨List.replicate 64 [0], [0]⟩ flow ∧
      flow.aborted = true := by
  refine crowd_aborts (by decide) (by decide) (by decide) ?_
  intro roomy
  have length : (RequestBody.pieces 65536 ⟨List.replicate 64 [0], [0]⟩).length =
      bodyCapacity 65536 + 1 := by decide +kernel
  have bytes : (RequestBody.pieces 65536 ⟨List.replicate 64 [0], [0]⟩).flatten.length = 65 := by
    decide +kernel
  have large := roomy _ infix_rfl length
  rw [bytes] at large
  exact absurd large (by decide)

end Aeris.Tunnel
