import Aeris.Base.ByteEncoding
import Aeris.Base.RustStd

/-! The tunnel frame format of `aether-contracts/src/tunnel.rs`: a ten-byte
header and a payload. Two encoders (`Frame::encode`, `encode_frame`) and two
parsers (`Frame::decode`, and `FrameHeader::parse` with
`frame_payload_by_header`) are written separately in the source; each has its
own definition here. A read of a buffer returns an option, `none` being the
panic of a read outside it. -/
namespace Aeris.Tunnel
open ByteEncoding RustStd List Nat Option

def headerSize : Nat := 10

inductive MsgType where
  | requestHeaders
  | requestBody
  | responseHeaders
  | responseBody
  | streamEnd
  | streamError
  | ping
  | pong
  | goAway
  | heartbeatData
  | heartbeatAck
  | hello
  | settings
  | windowUpdate
  | resetStream
  | connectionClose
  | loadReport
deriving DecidableEq, Repr

/-- `msg_type as u8`: the discriminants of `#[repr(u8)] enum MsgType`. -/
def MsgType.asU8 : MsgType → UInt8
  | .requestHeaders => 0x01
  | .requestBody => 0x02
  | .responseHeaders => 0x03
  | .responseBody => 0x04
  | .streamEnd => 0x05
  | .streamError => 0x06
  | .ping => 0x10
  | .pong => 0x11
  | .goAway => 0x12
  | .heartbeatData => 0x13
  | .heartbeatAck => 0x14
  | .hello => 0x15
  | .settings => 0x16
  | .windowUpdate => 0x17
  | .resetStream => 0x18
  | .connectionClose => 0x19
  | .loadReport => 0x1a

def MsgType.fromU8 : UInt8 → Option MsgType
  | 0x01 => some .requestHeaders
  | 0x02 => some .requestBody
  | 0x03 => some .responseHeaders
  | 0x04 => some .responseBody
  | 0x05 => some .streamEnd
  | 0x06 => some .streamError
  | 0x10 => some .ping
  | 0x11 => some .pong
  | 0x12 => some .goAway
  | 0x13 => some .heartbeatData
  | 0x14 => some .heartbeatAck
  | 0x15 => some .hello
  | 0x16 => some .settings
  | 0x17 => some .windowUpdate
  | 0x18 => some .resetStream
  | 0x19 => some .connectionClose
  | 0x1a => some .loadReport
  | _ => none

theorem fromU8_asU8 (msgType : MsgType) : MsgType.fromU8 msgType.asU8 = some msgType := by
  cases msgType <;> rfl

theorem asU8_of_fromU8 (value : UInt8) (msgType : MsgType)
    (known : MsgType.fromU8 value = some msgType) : msgType.asU8 = value := by
  unfold MsgType.fromU8 at known
  split at known <;> first | contradiction | (cases known; rfl)

structure Frame where
  streamId : UInt32
  msgType : MsgType
  flags : UInt8
  payload : Bytes
deriving DecidableEq, Repr

/-- `Frame::encode`. The length field is `payload.len() as u32`. -/
def Frame.encode (frame : Frame) : Bytes :=
  beBytes 4 frame.streamId.toNat ++ [frame.msgType.asU8] ++ [frame.flags] ++
    beBytes 4 (frame.payload.length % 2 ^ 32) ++ frame.payload

/-- The second encoder, over a raw type byte. -/
def encodeFrame (streamId : UInt32) (msgType flags : UInt8) (payload : Bytes) : Bytes :=
  beBytes 4 streamId.toNat ++ [msgType] ++ [flags] ++
    beBytes 4 (payload.length % 2 ^ 32) ++ payload

/-- `Buf::get_u8`: the next byte and the rest of the buffer. -/
def getU8 : Bytes → Option (UInt8 × Bytes)
  | [] => none
  | byte :: rest => some (byte, rest)

/-- `Buf::get_u32`. -/
def getU32 (data : Bytes) : Option (UInt32 × Bytes) :=
  if 4 ≤ data.length then some (UInt32.ofNat (ofBeBytes (data.take 4)), data.drop 4) else none

/-- `Bytes::split_to`, which panics past the end of the buffer. -/
def splitTo (data : Bytes) (position : Nat) : Option (Bytes × Bytes) :=
  if position ≤ data.length then some (data.take position, data.drop position) else none

/-- `&data[start..end]`, which panics unless `start <= end <= data.len()`. -/
def slice (data : Bytes) (start stop : Nat) : Option Bytes :=
  if start ≤ stop ∧ stop ≤ data.length then some ((data.take stop).drop start) else none

inductive ProtocolError where
  | tooShort (expected actual : Nat)
  | incomplete (expected actual : Nat)
  | trailing (expected actual : Nat)
  | unknownMsgType (raw : UInt8)
deriving DecidableEq, Repr

/-- `Frame::decode`. The length is checked before the type, so a short frame
of an unknown type reports its length. -/
def Frame.decode (data : Bytes) : Option (Except ProtocolError Frame) :=
  if data.length < headerSize then
    some (.error (.tooShort headerSize data.length))
  else do
    let (streamId, data) ← getU32 data
    let (msgTypeRaw, data) ← getU8 data
    let (frameFlags, data) ← getU8 data
    let (lengthField, data) ← getU32 data
    let payloadLen := lengthField.toNat
    if data.length < payloadLen then
      return .error (.incomplete (headerSize + payloadLen) (headerSize + data.length))
    if payloadLen < data.length then
      return .error (.trailing (headerSize + payloadLen) (headerSize + data.length))
    match MsgType.fromU8 msgTypeRaw with
    | none => return .error (.unknownMsgType msgTypeRaw)
    | some msgType =>
      let (payload, _) ← splitTo data payloadLen
      return .ok ⟨streamId, msgType, frameFlags, payload⟩

structure FrameHeader where
  streamId : UInt32
  msgType : UInt8
  flags : UInt8
  payloadLen : UInt32
deriving DecidableEq, Repr

/-- `FrameHeader::parse`: ten indexed reads behind one length check. -/
def FrameHeader.parse (data : Bytes) : Option (Option FrameHeader) :=
  if data.length < headerSize then
    some none
  else do
    let s0 ← data[0]?
    let s1 ← data[1]?
    let s2 ← data[2]?
    let s3 ← data[3]?
    let msgType ← data[4]?
    let flags ← data[5]?
    let l0 ← data[6]?
    let l1 ← data[7]?
    let l2 ← data[8]?
    let l3 ← data[9]?
    return some
      { streamId := UInt32.ofNat (ofBeBytes [s0, s1, s2, s3])
        msgType := msgType
        flags := flags
        payloadLen := UInt32.ofNat (ofBeBytes [l0, l1, l2, l3]) }

/-- `frame_payload_by_header`, on any header, parsed from `data` or not. -/
def framePayloadByHeader (data : Bytes) (header : FrameHeader) : Option (Option Bytes) :=
  match checkedAdd headerSize header.payloadLen.toNat with
  | none => some none
  | some stop =>
    if data.length ≠ stop then some none
    else (slice data headerSize stop).map some

/-! Each buffer operation is exact on both sides: what it reads is what an
encoder wrote, and a successful read determines the bytes it consumed. -/

theorem getU32_beBytes (value : UInt32) (rest : Bytes) :
    getU32 (beBytes 4 value.toNat ++ rest) = some (value, rest) := by
  have fits := value.toNat_lt
  have front : (beBytes 4 value.toNat ++ rest).take 4 = beBytes 4 value.toNat := by
    rw [take_append_of_le_length (by simp), take_of_length_le (by simp)]
  have back : (beBytes 4 value.toNat ++ rest).drop 4 = rest := by
    rw [drop_append_of_le_length (by simp), drop_of_length_le (by simp), nil_append]
  have read : UInt32.ofNat (ofBeBytes (beBytes 4 value.toNat)) = value := by
    rw [ofBeBytes_beBytes, mod_eq_of_lt (by omega), UInt32.ofNat_toNat]
  simp [getU32, front, back, read]

theorem getU32_eq_some {data value rest}
    (read : getU32 data = some (value, rest)) : data = beBytes 4 value.toNat ++ rest := by
  unfold getU32 at read
  split at read
  · rename_i enough
    simp only [some.injEq, Prod.mk.injEq] at read
    obtain ⟨number, tail⟩ := read
    have width : (data.take 4).length = 4 := by simp [enough]
    have small := ofBeBytes_lt (data.take 4)
    rw [width] at small
    have canonical := beBytes_ofBeBytes (data.take 4)
    rw [width] at canonical
    rw [← number, ← tail, UInt32.toNat_ofNat', mod_eq_of_lt (by simpa using small), canonical,
      take_append_drop]
  · contradiction

theorem getU32_of_length (data : Bytes) (enough : 4 ≤ data.length) :
    ∃ (value : UInt32) (rest : Bytes), data = beBytes 4 value.toNat ++ rest := by
  refine ⟨UInt32.ofNat (ofBeBytes (data.take 4)), data.drop 4, ?_⟩
  exact getU32_eq_some (by simp [getU32, enough])

/-- The header bytes in front of a rest, as both encoders write them. -/
def headerBytes (header : FrameHeader) : Bytes :=
  beBytes 4 header.streamId.toNat ++ ([header.msgType] ++ ([header.flags] ++
    beBytes 4 header.payloadLen.toNat))

theorem length_headerBytes (header : FrameHeader) : (headerBytes header).length = headerSize := by
  simp [headerBytes, headerSize]

theorem exists_header {data} (enough : ¬ data.length < headerSize) :
    ∃ header rest, data = headerBytes header ++ rest := by
  simp only [headerSize] at enough
  obtain ⟨streamId, afterId, split⟩ := getU32_of_length data (by omega)
  have length := congrArg List.length split
  simp only [length_append, length_beBytes] at length
  match afterId, split, length with
  | msgType :: flags :: afterFlags, split, length =>
    simp only [length_cons] at length
    obtain ⟨payloadLen, rest, payload⟩ := getU32_of_length afterFlags (by omega)
    refine ⟨⟨streamId, msgType, flags, payloadLen⟩, rest, ?_⟩
    simp [split, payload, headerBytes]
  | [_], _, length => simp at length; omega
  | [], _, length => simp at length; omega

theorem encode_eq_header (frame : Frame) : frame.encode = headerBytes
      ⟨frame.streamId, frame.msgType.asU8, frame.flags, UInt32.ofNat frame.payload.length⟩ ++
        frame.payload := by
  simp [Frame.encode, headerBytes]

theorem decode_header (header : FrameHeader) (rest : Bytes) :
    Frame.decode (headerBytes header ++ rest) = some (if rest.length < header.payloadLen.toNat then
        .error (.incomplete (headerSize + header.payloadLen.toNat) (headerSize + rest.length))
      else if header.payloadLen.toNat < rest.length then
        .error (.trailing (headerSize + header.payloadLen.toNat) (headerSize + rest.length))
      else match MsgType.fromU8 header.msgType with
        | none => .error (.unknownMsgType header.msgType)
        | some msgType => .ok ⟨header.streamId, msgType, header.flags, rest⟩) := by
  have enough : ¬ (headerBytes header ++ rest).length < headerSize := by simp [length_headerBytes]
  rw [Frame.decode, if_neg enough]
  simp only [headerBytes, append_assoc, getU32_beBytes, bind_eq_bind,
    bind_some, cons_append, nil_append, getU8]
  by_cases short : rest.length < header.payloadLen.toNat
  · simp [short]
  · by_cases long : header.payloadLen.toNat < rest.length
    · simp [short, long]
    · have exactLength : header.payloadLen.toNat = rest.length := by omega
      cases known : MsgType.fromU8 header.msgType <;>
        simp [exactLength, splitTo]

theorem beBytes_four (value : UInt32) : ∃ b0 b1 b2 b3, beBytes 4 value.toNat = [b0, b1, b2, b3] ∧
      UInt32.ofNat (ofBeBytes [b0, b1, b2, b3]) = value := by
  obtain ⟨b0, b1, b2, b3, bytes⟩ := length_eq_four.mp (length_beBytes 4 value.toNat)
  refine ⟨b0, b1, b2, b3, bytes, ?_⟩
  have fits := value.toNat_lt
  rw [← bytes, ofBeBytes_beBytes, mod_eq_of_lt (by omega), UInt32.ofNat_toNat]

theorem parse_header (header : FrameHeader) (rest : Bytes) :
    FrameHeader.parse (headerBytes header ++ rest) = some (some header) := by
  have enough : ¬ (headerBytes header ++ rest).length < headerSize := by simp [length_headerBytes]
  obtain ⟨s0, s1, s2, s3, idBytes, streamId⟩ := beBytes_four header.streamId
  obtain ⟨l0, l1, l2, l3, lengthBytes, payloadLen⟩ := beBytes_four header.payloadLen
  rw [FrameHeader.parse, if_neg enough, headerBytes, idBytes, lengthBytes]
  simp [streamId, payloadLen]

theorem payload_by_header (header : FrameHeader) (rest : Bytes) :
    framePayloadByHeader (headerBytes header ++ rest) header =
      some (if rest.length = header.payloadLen.toNat then some rest else none) := by
  have small := header.payloadLen.toNat_lt
  have sum : checkedAdd headerSize header.payloadLen.toNat =
      some (headerSize + header.payloadLen.toNat) := by
    rw [checkedAdd_eq_some, u64Max, headerSize]
    omega
  have total : (headerBytes header ++ rest).length = headerSize + rest.length := by
    simp [length_headerBytes]
  rw [framePayloadByHeader, sum]
  simp only [total]
  by_cases exactLength : rest.length = header.payloadLen.toNat
  · have inside : (headerBytes header ++ rest).drop headerSize = rest := by
      rw [drop_append_of_le_length (by simp [length_headerBytes]),
        drop_of_length_le (by simp [length_headerBytes]), nil_append]
    have whole : (headerBytes header ++ rest).take (headerSize + header.payloadLen.toNat) =
        headerBytes header ++ rest :=
      take_of_length_le (by rw [total, exactLength])
    simp [exactLength, slice, whole, inside, length_headerBytes]
  · simp [exactLength]

theorem payload_by_header_total (data : Bytes) (header : FrameHeader) :
    framePayloadByHeader data header ≠ none := by
  unfold framePayloadByHeader
  cases sum : checkedAdd headerSize header.payloadLen.toNat with
  | none => simp
  | some stop =>
    have stopEq := (checkedAdd_eq_some _ _ _).mp sum
    by_cases whole : data.length = stop
    · simp [whole, slice]
      omega
    · simp [whole]

theorem decode_short {data} (short : data.length < headerSize) :
    Frame.decode data = some (.error (.tooShort headerSize data.length)) := by
  rw [Frame.decode, if_pos short]

theorem parse_short {data} (short : data.length < headerSize) :
    FrameHeader.parse data = some none := by
  rw [FrameHeader.parse, if_pos short]

theorem decode_total (data : Bytes) : Frame.decode data ≠ none := by
  by_cases short : data.length < headerSize
  · simp [decode_short short]
  · obtain ⟨header, rest, rfl⟩ := exists_header short
    simp [decode_header]

theorem parse_total (data : Bytes) : FrameHeader.parse data ≠ none := by
  by_cases short : data.length < headerSize
  · simp [parse_short short]
  · obtain ⟨header, rest, rfl⟩ := exists_header short
    simp [parse_header]

theorem decode_header_ok (header : FrameHeader) (rest : Bytes) (frame : Frame) :
    Frame.decode (headerBytes header ++ rest) = some (.ok frame) ↔
      rest.length = header.payloadLen.toNat ∧ MsgType.fromU8 header.msgType = some frame.msgType ∧
      header.streamId = frame.streamId ∧ header.flags = frame.flags ∧ rest = frame.payload := by
  rw [decode_header]
  by_cases short : rest.length < header.payloadLen.toNat
  · simp only [short, if_true, some.injEq, reduceCtorEq, false_iff]
    omega
  · by_cases long : header.payloadLen.toNat < rest.length
    · simp only [short, long, if_true, if_false, some.injEq, reduceCtorEq, false_iff]
      omega
    · have exactLength : rest.length = header.payloadLen.toNat := by omega
      cases known : MsgType.fromU8 header.msgType with
      | none => simp [short, long]
      | some msgType =>
        cases frame
        simp [exactLength]
        tauto

theorem decode_encode (frame : Frame) (fits : frame.payload.length < 2 ^ 32) :
    Frame.decode frame.encode = some (.ok frame) := by
  rw [encode_eq_header, decode_header_ok]
  have length : (UInt32.ofNat frame.payload.length).toNat = frame.payload.length := by
    rw [UInt32.toNat_ofNat', mod_eq_of_lt fits]
  exact ⟨length.symm, fromU8_asU8 frame.msgType, rfl, rfl, rfl⟩

theorem decode_encode_eq {frame wire}
    (accepted : Frame.decode frame.encode = some (.ok wire)) : wire = frame := by
  rw [encode_eq_header, decode_header_ok] at accepted
  rcases accepted with ⟨-, known, streamId, flags, payload⟩
  have msgType := some.inj ((fromU8_asU8 frame.msgType).symm.trans known)
  cases frame
  simp_all

theorem encode_decode (data : Bytes) (frame : Frame)
    (accepted : Frame.decode data = some (.ok frame)) : frame.encode = data := by
  have enough : ¬ data.length < headerSize := by
    intro short
    simp [decode_short short] at accepted
  obtain ⟨header, rest, rfl⟩ := exists_header enough
  obtain ⟨length, known, streamId, flags, payload⟩ := (decode_header_ok _ _ _).mp accepted
  rw [encode_eq_header, asU8_of_fromU8 _ _ known, ← streamId, ← flags, ← payload, length,
    UInt32.ofNat_toNat]

/-- `FrameHeader::parse`, then `frame_payload_by_header` on that header. -/
def fastPath (data : Bytes) : Option (Option (FrameHeader × Bytes)) := do
  match ← FrameHeader.parse data with
  | none => return none
  | some header =>
    match ← framePayloadByHeader data header with
    | none => return none
    | some payload => return some (header, payload)

theorem fastPath_header (header : FrameHeader) (rest : Bytes) :
    fastPath (headerBytes header ++ rest) =
      some (if rest.length = header.payloadLen.toNat then some (header, rest) else none) := by
  by_cases exactLength : rest.length = header.payloadLen.toNat <;>
    simp [fastPath, parse_header, payload_by_header, exactLength]

/-- The two parsers accept the same strings of known types and read the same
fields from them. -/
theorem decode_iff_fastPath (data : Bytes) (frame : Frame) : Frame.decode data = some (.ok frame) ↔
      ∃ header, fastPath data = some (some (header, frame.payload)) ∧
        MsgType.fromU8 header.msgType = some frame.msgType ∧
        header.streamId = frame.streamId ∧ header.flags = frame.flags := by
  by_cases short : data.length < headerSize
  · simp [decode_short short, fastPath, parse_short short]
  · obtain ⟨header, rest, rfl⟩ := exists_header short
    rw [decode_header_ok, fastPath_header]
    by_cases exactLength : rest.length = header.payloadLen.toNat
    · simp only [exactLength, if_true, some.injEq, Prod.mk.injEq]
      constructor
      · rintro ⟨-, known, streamId, flags, payload⟩
        exact ⟨header, ⟨rfl, payload⟩, known, streamId, flags⟩
      · rintro ⟨_, ⟨rfl, payload⟩, known, streamId, flags⟩
        exact ⟨trivial, known, streamId, flags, payload⟩
    · simp [exactLength]

/-- One meaning per byte string: both encoders and both parsers describe one
bijection between frames that fit the length field and accepted strings, and
no parser reads outside its buffer, whatever length a header declares. -/
theorem frame_codec_faithful :
    (∀ frame : Frame, frame.payload.length < 2 ^ 32 →
      Frame.decode frame.encode = some (.ok frame)) ∧
    (∀ frame : Frame, frame.encode =
      encodeFrame frame.streamId frame.msgType.asU8 frame.flags frame.payload) ∧
    (∀ data frame, Frame.decode data = some (.ok frame) → frame.encode = data) ∧
    (∀ data data' frame, Frame.decode data = some (.ok frame) →
      Frame.decode data' = some (.ok frame) → data = data') ∧
    (∀ data frame, Frame.decode data = some (.ok frame) ↔
      ∃ header, fastPath data = some (some (header, frame.payload)) ∧
        MsgType.fromU8 header.msgType = some frame.msgType ∧
        header.streamId = frame.streamId ∧ header.flags = frame.flags) ∧
    (∀ data, Frame.decode data ≠ none ∧ FrameHeader.parse data ≠ none ∧
      ∀ header, framePayloadByHeader data header ≠ none) := by
  refine ⟨decode_encode, fun _ => rfl, encode_decode, ?_, decode_iff_fastPath, ?_⟩
  · intro data data' frame first second
    rw [← encode_decode data frame first, encode_decode data' frame second]
  · exact fun data => ⟨decode_total data, parse_total data, payload_by_header_total data⟩

/-- A `STREAM_END` frame with a two-byte payload and its wire form. -/
theorem frame_codec_faithful_stream_end :
    Frame.decode (Frame.encode ⟨7, .streamEnd, 1, [0xab, 0xcd]⟩) =
        some (.ok ⟨7, .streamEnd, 1, [0xab, 0xcd]⟩) ∧
      Frame.encode ⟨7, .streamEnd, 1, [0xab, 0xcd]⟩ = [0, 0, 0, 7, 5, 1, 0, 0, 0, 2, 0xab, 0xcd] :=
  ⟨frame_codec_faithful.1 ⟨7, .streamEnd, 1, [0xab, 0xcd]⟩ (by decide), by decide⟩

end Aeris.Tunnel
