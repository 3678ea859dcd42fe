import Aeris.Base.ByteEncoding
import Aeris.Base.Incremental
import Aeris.Base.OrderedTable
import Aeris.Base.RustStd

/-! The decoder of the binary event stream that Kiro answers with: a prelude of two
lengths and a checksum, headers, a payload and a checksum over all of it. Bytes that are
no frame are skipped one at a time until the fifth such position in a row. -/
namespace Aeris.Kiro
open ByteEncoding RustStd Incremental List

def MAX_MESSAGE_SIZE : Nat := 16 * 1024 * 1024
def MAX_BUFFER_SIZE : Nat := MAX_MESSAGE_SIZE
def MAX_ERRORS : Nat := 5

inductive AwsHeaderValue where
  | ignored
  | string (text : String)
  deriving DecidableEq, Repr

structure AwsHeaders where
  values : OrderedTable String AwsHeaderValue
  deriving DecidableEq

structure AwsEventFrame where
  headers : AwsHeaders
  payload : Bytes
  deriving DecidableEq

inductive FrameParseError where
  | incomplete
  | invalid (message : String)
  deriving DecidableEq, Repr

namespace AwsHeaders

def getString (headers : AwsHeaders) (name : String) : Option String :=
  match headers.values.get? name with
  | some (.string value) => some value
  | _ => none

def messageType (headers : AwsHeaders) : Option String := headers.getString ":message-type"

def eventType (headers : AwsHeaders) : Option String := headers.getString ":event-type"

def exceptionType (headers : AwsHeaders) : Option String := headers.getString ":exception-type"

def errorCode (headers : AwsHeaders) : Option String := headers.getString ":error-code"

end AwsHeaders

/-! ## Frames -/

def crcShift (crc : UInt32) : UInt32 :=
  (crc >>> 1) ^^^ (if crc &&& 1 = 1 then 0xedb88320 else 0)

def crcByte (crc : UInt32) (byte : UInt8) : UInt32 :=
  crcShift^[8] (crc ^^^ byte.toUInt32)

def kiroCrc32 (data : Bytes) : UInt32 := ~~~ (data.foldl crcByte 0xffffffff)

/-- `data[start..start + length]`. -/
def slice (data : Bytes) (start length : Nat) : Bytes := (data.drop start).take length

def ensureHeaderBytes (data : Bytes) (offset needed : Nat) : Except FrameParseError Unit :=
  if data.length - offset < needed then .error .incomplete else .ok ()

/-- A value that is passed over for its size. -/
def skipHeaderValue (data : Bytes) (offset size : Nat) :
    Except FrameParseError (AwsHeaderValue × Nat) := do
  ensureHeaderBytes data offset size
  return (.ignored, offset + size)

/-- Where the bytes of a value with its own length start, and that length. -/
def headerValueLength (data : Bytes) (offset : Nat) : Except FrameParseError (Nat × Nat) := do
  ensureHeaderBytes data offset 2
  let length := ofBeBytes (slice data offset 2)
  ensureHeaderBytes data (offset + 2) length
  return (offset + 2, length)

/-- The value after its type byte, and the offset of what comes next. -/
def parseHeaderValue (data : Bytes) (valueType : UInt8) (offset : Nat) :
    Except FrameParseError (AwsHeaderValue × Nat) :=
  match valueType.toNat with
  | 0 => .ok (.ignored, offset)
  | 1 => .ok (.ignored, offset)
  | 2 => skipHeaderValue data offset 1
  | 3 => skipHeaderValue data offset 2
  | 4 => skipHeaderValue data offset 4
  | 5 => skipHeaderValue data offset 8
  | 8 => skipHeaderValue data offset 8
  | 6 => do
      let (start, length) ← headerValueLength data offset
      return (.ignored, start + length)
  | 7 => do
      let (start, length) ← headerValueLength data offset
      return (.string (fromUtf8Lossy (slice data start length)), start + length)
  | 9 => skipHeaderValue data offset 16
  | other => .error (.invalid s!"invalid header type: {other}")

def parseHeader (data : Bytes) (offset : Nat) :
    Except FrameParseError (String × AwsHeaderValue × Nat) := do
  ensureHeaderBytes data offset 1
  let nameLen := (data.getD offset 0).toNat
  if nameLen = 0 then
    .error (.invalid "header name length cannot be 0")
  ensureHeaderBytes data (offset + 1) nameLen
  let name := fromUtf8Lossy (slice data (offset + 1) nameLen)
  let typeOffset := offset + 1 + nameLen
  ensureHeaderBytes data typeOffset 1
  let value ← parseHeaderValue data (data.getD typeOffset 0) (typeOffset + 1)
  return (name, value)

variable {data : Bytes}

variable {offset : Nat} {value : AwsHeaderValue}

theorem skipHeaderValue_advances {size next}
    (read : skipHeaderValue data offset size = .ok (value, next)) : offset ≤ next := by
  simp only [skipHeaderValue, ensureHeaderBytes] at read
  split at read
  · cases read
  · cases read
    omega

theorem headerValueLength_advances {start length}
    (read : headerValueLength data offset = .ok (start, length)) : offset ≤ start := by
  simp only [headerValueLength, ensureHeaderBytes] at read
  split at read
  · cases read
  · split at read
    · cases read
    · cases read
      omega

theorem parseHeaderValue_advances {valueType next}
    (read : parseHeaderValue data valueType offset = .ok (value, next)) : offset ≤ next := by
  unfold parseHeaderValue at read
  split at read
  case h_1 | h_2 =>
    cases read
    exact Nat.le_refl _
  case h_8 | h_9 =>
    cases found : headerValueLength data offset with
    | error err => simp [found, bind, Except.bind] at read
    | ok bounds =>
      rw [found] at read
      cases read
      have := headerValueLength_advances found
      omega
  case h_11 => cases read
  all_goals exact skipHeaderValue_advances read

theorem parseHeader_advances {next name}
    (read : parseHeader data offset = .ok (name, value, next)) : offset < next := by
  simp only [parseHeader, ensureHeaderBytes, bind, Except.bind] at read
  repeat' split at read
  all_goals cases read
  rename_i found
  have := parseHeaderValue_advances found
  omega

def parseHeadersFrom (data : Bytes) (headerLength offset : Nat)
    (values : OrderedTable String AwsHeaderValue) : Except FrameParseError AwsHeaders :=
  if offset < headerLength then
    match _read : parseHeader data offset with
    | .error err => .error err
    | .ok (name, value, next) => parseHeadersFrom data headerLength next (values.insert name value)
  else .ok ⟨values⟩
termination_by headerLength - offset
decreasing_by
  have := parseHeader_advances _read
  omega

def parseHeaders (data : Bytes) (headerLength : Nat) : Except FrameParseError AwsHeaders :=
  if data.length < headerLength then .error .incomplete
  else parseHeadersFrom data headerLength 0 .empty

/-- The rest of `parse_frame` once all bytes of the message are there. -/
def parseMessage (message : Bytes) (headerLength preludeCrc : Nat) :
    Except FrameParseError AwsEventFrame :=
  let bodyEnd := message.length - 4
  if (kiroCrc32 (message.take 8)).toNat ≠ preludeCrc then
    .error (.invalid "prelude crc mismatch")
  else if (kiroCrc32 (message.take bodyEnd)).toNat ≠ ofBeBytes (message.drop bodyEnd) then
    .error (.invalid "message crc mismatch")
  else if 12 + headerLength > bodyEnd then
    .error (.invalid "header length exceeds frame boundary")
  else do
    let headers ← parseHeaders (slice message 12 headerLength) headerLength
    return ⟨headers, slice message (12 + headerLength) (bodyEnd - (12 + headerLength))⟩

/-- The frame at the front of the buffer and how many bytes it takes; `none` while bytes
of it are missing. -/
def parseFrame (buffer : Bytes) : Except FrameParseError (Option (AwsEventFrame × Nat)) :=
  if buffer.length < 12 then .ok none
  else
    let totalLength := ofBeBytes (slice buffer 0 4)
    if totalLength < 16 then
      .error (.invalid s!"message too small: length={totalLength}")
    else if totalLength > MAX_MESSAGE_SIZE then
      .error (.invalid s!"message too large: length={totalLength}")
    else if buffer.length < totalLength then .ok none
    else do
      let frame ← parseMessage (buffer.take totalLength) (ofBeBytes (slice buffer 4 4))
        (ofBeBytes (slice buffer 8 4))
      return some (frame, totalLength)

/-! ## The decoder -/

structure EventStreamDecoder where
  buffer : Bytes
  errorCount : Nat
  stopped : Bool

/-- What is left of the decoder's state when its bytes are taken away. -/
structure DecoderProgress where
  errorCount : Nat
  stopped : Bool
  deriving DecidableEq, Repr

inductive Decoded where
  | frame (frame : AwsEventFrame)
  | skipped
  | failed (message : String)

/-- One pass of the loop in `decode_available`; `none` is its `break`. -/
def decodeStep (progress : DecoderProgress) (buffer : Bytes) :
    Option (Decoded × DecoderProgress × Bytes) :=
  if progress.stopped then none
  else
    match parseFrame buffer with
    | .ok (some (frame, consumed)) =>
      if consumed = 0 then none
      else some (.frame frame, { progress with errorCount := 0 }, buffer.drop consumed)
    | .ok none => none
    | .error .incomplete => none
    | .error (.invalid message) =>
      if progress.errorCount + 1 ≥ MAX_ERRORS then
        some (.failed message, ⟨progress.errorCount + 1, true⟩, buffer)
      -- An empty buffer is never invalid, so the source's count before this `break` is not seen.
      else if buffer = [] then none
      else
        some (.skipped, { progress with errorCount := progress.errorCount + 1 }, buffer.drop 1)

/-! ## What more input changes -/

theorem slice_append {start length} (fits : start + length ≤ data.length)
    (more : Bytes) : slice (data ++ more) start length = slice data start length := by
  have fromStart : start ≤ data.length := by omega
  rw [slice, slice, drop_append_of_le_length fromStart, take_append_of_le_length]
  rw [length_drop]
  omega

theorem parseFrame_append {buffer} (decided : parseFrame buffer ≠ .ok none)
    (more : Bytes) : parseFrame (buffer ++ more) = parseFrame buffer := by
  have long : ¬ buffer.length < 12 := by
    intro short
    exact decided (by rw [parseFrame, if_pos short])
  have longer : ¬ (buffer ++ more).length < 12 := by
    rw [length_append]
    omega
  rw [parseFrame, if_neg long] at decided
  rw [parseFrame, if_neg longer, parseFrame, if_neg long, slice_append (by omega),
    slice_append (by omega), slice_append (by omega)]
  dsimp only at decided ⊢
  split
  · rfl
  · rename_i enough
    rw [if_neg enough] at decided
    split
    · rfl
    · rename_i small
      rw [if_neg small] at decided
      by_cases complete : buffer.length < ofBeBytes (slice buffer 0 4)
      · exact absurd (if_pos complete) decided
      · have stays : ¬ (buffer ++ more).length < ofBeBytes (slice buffer 0 4) := by
          rw [length_append]
          omega
        rw [if_neg stays, if_neg complete, take_append_of_le_length (by omega)]

theorem parseFrame_consumed {buffer frame consumed}
    (parsed : parseFrame buffer = .ok (some (frame, consumed))) :
    16 ≤ consumed ∧ consumed ≤ buffer.length := by
  simp only [parseFrame, bind, Except.bind] at parsed
  repeat' split at parsed
  all_goals cases parsed
  constructor <;> omega

section

variable {progress next : DecoderProgress} {buffer rest : Bytes} {out : Decoded}
  (moved : decodeStep progress buffer = some (out, next, rest))
include moved

theorem decodeStep_shrinks : (if next.stopped then 0 else 1) + rest.length <
      (if progress.stopped then 0 else 1) + buffer.length := by
  unfold decodeStep at moved
  split at moved
  · cases moved
  · rename_i running
    rw [if_neg running]
    split at moved
    · rename_i frame consumed parsed
      have taken := parseFrame_consumed parsed
      split at moved
      · cases moved
      · cases moved
        rw [if_neg running, length_drop]
        omega
    · cases moved
    · cases moved
    · split at moved
      · cases moved
        simp
      · split at moved
        · cases moved
        · rename_i held
          have some := length_pos_iff.mpr held
          cases moved
          rw [if_neg running, length_drop]
          omega

theorem decodeStep_stable (more : Bytes) : decodeStep progress
    (buffer ++ more) = some (out, next, rest ++ more) := by
  unfold decodeStep at moved ⊢
  split at moved
  · cases moved
  · rename_i running
    rw [if_neg running]
    have decided : parseFrame buffer ≠ .ok none := by
      intro waits
      rw [waits] at moved
      cases moved
    rw [parseFrame_append decided]
    split at moved
    · rename_i frame consumed parsed
      have taken := parseFrame_consumed parsed
      split at moved
      · cases moved
      · rename_i some
        cases moved
        rw [if_neg some, drop_append_of_le_length taken.2]
    · cases moved
    · cases moved
    · split at moved
      · rename_i enough
        cases moved
        rw [if_pos enough]
      · rename_i few
        split at moved
        · cases moved
        · rename_i held
          have front : 1 ≤ buffer.length := length_pos_iff.mpr held
          cases moved
          rw [if_neg few, if_neg (append_ne_nil_of_left_ne_nil held _),
            drop_append_of_le_length front]

end

/-- The decoding loop as a reader of the byte stream. -/
def decoding : Reader DecoderProgress UInt8 Decoded where
  move := decodeStep
  weight := fun progress => if progress.stopped then 0 else 1
  shrinks := decodeStep_shrinks
  stable := decodeStep_stable

def Decoded.frame? : Decoded → Option AwsEventFrame
  | .frame found => some found
  | _ => none

def Decoded.message? : Decoded → Option String
  | .failed reason => some reason
  | _ => none

namespace EventStreamDecoder

def new : EventStreamDecoder := ⟨[], 0, false⟩

section

variable (decoder : EventStreamDecoder)

def feed (data : Bytes) : Except String Unit × EventStreamDecoder :=
  if decoder.stopped || data.isEmpty then (.ok (), decoder)
  else
    let newSize := decoder.buffer.length + data.length
    if newSize > MAX_BUFFER_SIZE then
      (.error s!"buffer overflow: size={newSize} max={MAX_BUFFER_SIZE}",
        { decoder with stopped := true })
    else (.ok (), { decoder with buffer := decoder.buffer ++ data })

def decoded : List Decoded :=
  (decoding.drain ⟨decoder.errorCount, decoder.stopped⟩ decoder.buffer).1

def decodedAll : EventStreamDecoder :=
  let (progress, rest) := (decoding.drain ⟨decoder.errorCount, decoder.stopped⟩ decoder.buffer).2
  ⟨rest, progress.errorCount, progress.stopped⟩

def decodeAvailable : Except String (List AwsEventFrame) × EventStreamDecoder :=
  -- The early return with an error leaves the frames found before it behind.
  match decoder.decoded.findSome? Decoded.message? with
  | some message => (.error message, decoder.decodedAll)
  | none => (.ok (decoder.decoded.filterMap Decoded.frame?), decoder.decodedAll)

/-- One piece of the stream is fed and what can be decoded is taken. -/
def receive (data : Bytes) : Except String (List AwsEventFrame) × EventStreamDecoder :=
  let fed := decoder.feed data
  match fed.1 with
  | .error err => (.error err, fed.2)
  | .ok () => fed.2.decodeAvailable

end

def receiveAll : EventStreamDecoder → List Bytes → List (Except String (List AwsEventFrame))
  | _, [] => []
  | decoder, data :: chunks =>
    (decoder.receive data).1 :: receiveAll (decoder.receive data).2 chunks

end EventStreamDecoder

end Aeris.Kiro
