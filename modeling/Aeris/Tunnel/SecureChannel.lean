import Aeris.Base.InOrder
import Aeris.Tunnel.Frame
import Aeris.Tunnel.Transcript

/-! `SecureFrameCodec` of `aether-contracts/src/tunnel_security.rs` and runs of
many codecs against an adversary that controls the network. The two atomic
counters are naturals changed by one call at a time. AES-256-GCM is a parameter
with its correctness law; that it cannot be forged is a condition on the frames
delivered in a run, not on the cipher. -/
namespace Aeris.Tunnel
open ByteEncoding RustStd List Nat Option
open Function (update update_of_ne)

inductive TunnelSecurityRole where
  | client
  | server
deriving DecidableEq, Repr

inductive TunnelSecurityError where
  | invalidKey
  | invalidSession
  | missingEncryptedFlag
  | payloadTooShort
  | unexpectedSequence
  | sequenceExhausted
  | encrypt
  | decrypt
deriving DecidableEq, Repr

def flagEncrypted : UInt8 := 0x04
def sequenceLen : Nat := 8

/-- The `[u8; 4]` in front of every nonce of one direction. -/
structure NoncePrefix where
  bytes : Bytes
  width : bytes.length = 4
deriving DecidableEq

def clientToServerNoncePrefix : NoncePrefix := ⟨asBytes "c2s1", by decide⟩
def serverToClientNoncePrefix : NoncePrefix := ⟨asBytes "s2c1", by decide⟩

/-- AES-256-GCM, as `Aead::encrypt` and `Aead::decrypt` of a key, a nonce, the
associated data and a message; `none` is the opaque error. -/
structure Aead where
  encrypt : Digest → Bytes → Bytes → Bytes → Option Bytes
  decrypt : Digest → Bytes → Bytes → Bytes → Option Bytes
  decrypt_encrypt : ∀ key nonce aad message ciphertext,
    encrypt key nonce aad message = some ciphertext →
      decrypt key nonce aad ciphertext = some message

structure SecureFrameCodec where
  sealKey : Digest
  openKey : Digest
  sealPrefix : NoncePrefix
  openPrefix : NoncePrefix
  nextSequence : Nat
  nextOpenSequence : Nat
deriving DecidableEq

/-- The second half of `new`: both directional keys, by role. -/
def SecureFrameCodec.derived (crypto : Crypto) (psk : Digest) (sessionId : Bytes)
    (role : TunnelSecurityRole) : SecureFrameCodec :=
  let clientToServer := deriveKey crypto psk sessionId .clientToServer
  let serverToClient := deriveKey crypto psk sessionId .serverToClient
  match role with
  | .client => ⟨clientToServer, serverToClient, clientToServerNoncePrefix,
      serverToClientNoncePrefix, 0, 0⟩
  | .server => ⟨serverToClient, clientToServer, serverToClientNoncePrefix,
      clientToServerNoncePrefix, 0, 0⟩

def SecureFrameCodec.new (crypto : Crypto) (key sessionId : String) (role : TunnelSecurityRole) :
    Except TunnelSecurityError SecureFrameCodec :=
  match decodePsk crypto key with
  | none => .error .invalidKey
  | some psk =>
    let sessionId := trim sessionId
    if sessionId.isEmpty then .error .invalidSession
    else .ok (SecureFrameCodec.derived crypto psk (asBytes sessionId) role)

/-- What `sender` seals is what `receiver` opens. -/
def Peer (sender receiver : SecureFrameCodec) : Prop :=
  sender.sealKey = receiver.openKey ∧ sender.sealPrefix = receiver.openPrefix

def Fresh (codec : SecureFrameCodec) : Prop :=
  codec.nextSequence = 0 ∧ codec.nextOpenSequence = 0

/-- Only the two sides of a session can be peers: no end opens what it sealed itself. -/
theorem peer_derived {crypto psk session session' role role'}
    (peer : Peer (.derived crypto psk session role) (.derived crypto psk session' role')) :
    role ≠ role' ∧
      ∃ label, deriveKey crypto psk session label = deriveKey crypto psk session' label := by
  have different : clientToServerNoncePrefix ≠ serverToClientNoncePrefix := by decide
  cases role <;> cases role'
  · exact (different peer.2).elim
  · exact ⟨by decide, _, peer.1⟩
  · exact ⟨by decide, _, peer.1⟩
  · exact (different peer.2.symm).elim

def nonceBytes (noncePrefix : NoncePrefix) (sequence : Nat) : Bytes :=
  noncePrefix.bytes ++ beBytes 8 sequence

def frameAad (streamId : UInt32) (msgType : MsgType) (clearFlags : UInt8) : Bytes :=
  beBytes 4 streamId.toNat ++ [msgType.asU8] ++ [clearFlags]

/-- `encrypt_frame`. The sequence is claimed before the cipher runs and is not
given back when the cipher fails. -/
def encryptFrame (aead : Aead) (codec : SecureFrameCodec) (frame : Frame) :
    SecureFrameCodec × Except TunnelSecurityError Bytes :=
  match checkedAdd codec.nextSequence 1 with
  | none => (codec, .error .sequenceExhausted)
  | some next =>
    let sequence := codec.nextSequence
    let codec := { codec with nextSequence := next }
    let nonce := nonceBytes codec.sealPrefix sequence
    let clearFlags := frame.flags &&& ~~~flagEncrypted
    let aad := frameAad frame.streamId frame.msgType clearFlags
    match aead.encrypt codec.sealKey nonce aad frame.payload with
    | none => (codec, .error .encrypt)
    | some ciphertext =>
      let payload := beBytes 8 sequence ++ ciphertext
      let wire : Frame :=
        ⟨frame.streamId, frame.msgType, clearFlags ||| flagEncrypted, payload⟩
      (codec, .ok wire.encode)

/-- `rewind_claimed_open_sequence`, with its saturating addition. -/
def rewindClaimedOpenSequence (codec : SecureFrameCodec) (claimed : Nat) : SecureFrameCodec :=
  if codec.nextOpenSequence = min (claimed + 1) u64Max then
    { codec with nextOpenSequence := codec.nextOpenSequence - 1 }
  else codec

/-- `decrypt_frame`. The eight bytes of `get_u64` are there by the length check. -/
def decryptFrame (aead : Aead) (codec : SecureFrameCodec) (frame : Frame) :
    SecureFrameCodec × Except TunnelSecurityError Frame :=
  if frame.flags &&& flagEncrypted = 0 then (codec, .error .missingEncryptedFlag)
  else if frame.payload.length < sequenceLen then (codec, .error .payloadTooShort)
  else
    let sequence := ofBeBytes (frame.payload.take sequenceLen)
    let ciphertext := frame.payload.drop sequenceLen
    -- The claim: `fetch_update` of the expected sequence by `checked_add(1)`.
    match (if codec.nextOpenSequence = sequence then checkedAdd sequence 1 else none) with
    | none => (codec, .error .unexpectedSequence)
    | some next =>
      let codec := { codec with nextOpenSequence := next }
      let nonce := nonceBytes codec.openPrefix sequence
      let clearFlags := frame.flags &&& ~~~flagEncrypted
      let aad := frameAad frame.streamId frame.msgType clearFlags
      match aead.decrypt codec.openKey nonce aad ciphertext with
      | none => (rewindClaimedOpenSequence codec sequence, .error .decrypt)
      | some plaintext => (codec, .ok ⟨frame.streamId, frame.msgType, clearFlags, plaintext⟩)

/-! What one call can do, said once. -/

/-- A frame with the transport's own flag bit taken out. -/
def clearEncrypted (frame : Frame) : Frame :=
  { frame with flags := frame.flags &&& ~~~flagEncrypted }

def clearAad (frame : Frame) : Bytes :=
  frameAad frame.streamId frame.msgType (clearEncrypted frame).flags

/-- The call of the cipher that seals a frame under one sequence number, with
the ciphertext that came back and the frame put on the wire. -/
structure Sealed where
  frame : Frame
  key : Digest
  nonce : Bytes
  aad : Bytes
  ciphertext : Bytes
  wire : Frame
deriving DecidableEq

/-- The sealing of a frame under the next sequence number of a codec. -/
def sealNext (aead : Aead) (codec : SecureFrameCodec) (frame : Frame) : Option Sealed :=
  let nonce := nonceBytes codec.sealPrefix codec.nextSequence
  (aead.encrypt codec.sealKey nonce (clearAad frame) frame.payload).map fun ciphertext =>
    { frame := frame
      key := codec.sealKey
      nonce := nonce
      aad := clearAad frame
      ciphertext := ciphertext
      wire := ⟨frame.streamId, frame.msgType, (clearEncrypted frame).flags ||| flagEncrypted,
        beBytes 8 codec.nextSequence ++ ciphertext⟩ }

variable {aead : Aead} {codec : SecureFrameCodec} {frame wire : Frame} {record : Sealed}
  {plaintext : Bytes}

theorem encryptFrame_exhausted (last : u64Max ≤ codec.nextSequence) :
    encryptFrame aead codec frame = (codec, .error .sequenceExhausted) := by
  have none : checkedAdd codec.nextSequence 1 = none := by
    unfold checkedAdd
    rw [if_neg (by omega)]
  simp [encryptFrame, none]

theorem encryptFrame_claims (room : codec.nextSequence < u64Max) :
    encryptFrame aead codec frame = ({ codec with nextSequence := codec.nextSequence + 1 },
      match sealNext aead codec frame with
        | none => .error .encrypt
        | some result => .ok result.wire.encode) := by
  have next : checkedAdd codec.nextSequence 1 = some (codec.nextSequence + 1) := by
    rw [checkedAdd_eq_some]
    exact ⟨by omega, rfl⟩
  simp only [encryptFrame, next, sealNext, clearAad, clearEncrypted]
  cases aead.encrypt codec.sealKey _ _ frame.payload <;> rfl

def wireSequence (wire : Frame) : Nat := ofBeBytes (wire.payload.take sequenceLen)
def wireCiphertext (wire : Frame) : Bytes := wire.payload.drop sequenceLen

/-- The call of the cipher that `decrypt_frame` makes for a wire frame. -/
def openWire (aead : Aead) (codec : SecureFrameCodec) (wire : Frame) : Option Bytes :=
  aead.decrypt codec.openKey (nonceBytes codec.openPrefix (wireSequence wire)) (clearAad wire)
    (wireCiphertext wire)

/-- The checks in front of the cipher. -/
def Expected (codec : SecureFrameCodec) (wire : Frame) : Prop :=
  wire.flags &&& flagEncrypted ≠ 0 ∧ sequenceLen ≤ wire.payload.length ∧
    codec.nextOpenSequence = wireSequence wire ∧ codec.nextOpenSequence < u64Max

theorem decryptFrame_eq : decryptFrame aead codec wire =
      if wire.flags &&& flagEncrypted = 0 then (codec, .error .missingEncryptedFlag)
      else if wire.payload.length < sequenceLen then (codec, .error .payloadTooShort)
      else match (if codec.nextOpenSequence = wireSequence wire then
          checkedAdd (wireSequence wire) 1 else none) with
        | none => (codec, .error .unexpectedSequence)
        | some next =>
          match openWire aead codec wire with
          | none => (rewindClaimedOpenSequence { codec with nextOpenSequence := next }
              (wireSequence wire), .error .decrypt)
          | some plaintext => ({ codec with nextOpenSequence := next },
              .ok { clearEncrypted wire with payload := plaintext }) := rfl

theorem decryptFrame_accepts (expected : Expected codec wire)
    (opened : openWire aead codec wire = some plaintext) : decryptFrame aead codec wire =
      ({ codec with nextOpenSequence := codec.nextOpenSequence + 1 },
        .ok { clearEncrypted wire with payload := plaintext }) := by
  rcases expected with ⟨flagged, long, current, room⟩
  have next : checkedAdd (wireSequence wire) 1 = some (codec.nextOpenSequence + 1) := by
    rw [checkedAdd_eq_some]
    exact ⟨by omega, by omega⟩
  rw [decryptFrame_eq, if_neg flagged, if_neg (not_lt.mpr long), if_pos current, next, opened]

-- Every other call leaves the codec as it was: the early errors never touch the
-- counter, and the claim that precedes a failed opening is rewound.
theorem decryptFrame_rejects (refused : ¬ Expected codec wire ∨ openWire aead codec wire = none) :
    ∃ error, decryptFrame aead codec wire = (codec, .error error) := by
  by_cases flagged : wire.flags &&& flagEncrypted = 0
  · exact ⟨.missingEncryptedFlag, by simp [decryptFrame, flagged]⟩
  by_cases long : wire.payload.length < sequenceLen
  · exact ⟨.payloadTooShort, by simp [decryptFrame, flagged, long]⟩
  rw [decryptFrame_eq, if_neg flagged, if_neg long]
  by_cases current : codec.nextOpenSequence = wireSequence wire
  · rw [if_pos current]
    cases claim : checkedAdd (wireSequence wire) 1 with
    | none => exact ⟨.unexpectedSequence, rfl⟩
    | some next =>
      have bound := (checkedAdd_eq_some _ _ _).mp claim
      have expected : Expected codec wire :=
        ⟨flagged, not_lt.mp long, current, by omega⟩
      have closed : openWire aead codec wire = none := by
        rcases refused with unexpected | closed
        · exact absurd expected unexpected
        · exact closed
      have claimed : next = min (wireSequence wire + 1) u64Max := by omega
      have back : next - 1 = codec.nextOpenSequence := by omega
      exact ⟨.decrypt, by simp [closed, rewindClaimedOpenSequence, ← claimed, back]⟩
  · rw [if_neg current]
    exact ⟨.unexpectedSequence, rfl⟩

theorem decryptFrame_cases : (∃ error, decryptFrame aead codec wire = (codec, .error error)) ∨
    ∃ plaintext, Expected codec wire ∧ openWire aead codec wire = some plaintext := by
  by_cases expected : Expected codec wire
  · cases opened : openWire aead codec wire with
    | none => exact .inl (decryptFrame_rejects (.inr opened))
    | some plaintext => exact .inr ⟨plaintext, expected, rfl⟩
  · exact .inl (decryptFrame_rejects (.inl expected))

/-! Runs of any number of codecs. `claimed` and `accepted` are history: what each
codec sealed under each sequence number it claimed (`none` where the cipher
failed), and which frames it accepted. -/

structure World (Id : Type) where
  codecs : Id → SecureFrameCodec
  claimed : Id → List (Option Sealed)
  accepted : Id → List Frame

variable {Id : Type}

def World.start (codecs : Id → SecureFrameCodec) : World Id where
  codecs := codecs
  claimed := fun _ => []
  accepted := fun _ => []

def World.send [DecidableEq Id] (aead : Aead) (world : World Id) (id : Id) (frame : Frame) :
    World Id :=
  let result := encryptFrame aead (world.codecs id) frame
  { world with
    codecs := update world.codecs id result.1
    claimed := match result.2 with
      | .error .sequenceExhausted => world.claimed
      | .error _ => update world.claimed id (world.claimed id ++ [none])
      | .ok _ => update world.claimed id
          (world.claimed id ++ [sealNext aead (world.codecs id) frame]) }

def World.deliver [DecidableEq Id] (aead : Aead) (world : World Id) (id : Id) (wire : Frame) :
    World Id :=
  let result := decryptFrame aead (world.codecs id) wire
  { world with
    codecs := update world.codecs id result.1
    accepted := match result.2 with
      | .error _ => world.accepted
      | .ok frame => update world.accepted id (world.accepted id ++ [frame]) }

/-- The cipher opens a wire frame only if some codec sealed that ciphertext
under the same key, nonce and associated data. -/
def Authentic (aead : Aead) (world : World Id) (id : Id) (wire : Frame) : Prop :=
  ∀ plaintext, openWire aead (world.codecs id) wire = some plaintext →
    ∃ sender, ∃ record, some record ∈ world.claimed sender ∧
      record.key = (world.codecs id).openKey ∧
      record.nonce = nonceBytes (world.codecs id).openPrefix (wireSequence wire) ∧
      record.aad = clearAad wire ∧ record.ciphertext = wireCiphertext wire

/-- Any interleaving of calls, any wire frames that are no forgeries. -/
inductive Run [DecidableEq Id] (aead : Aead) (start : World Id) : World Id → Prop where
  | refl : Run aead start start
  | send (world : World Id) (id : Id) (frame : Frame) (run : Run aead start world) :
      Run aead start (world.send aead id frame)
  | deliver (world : World Id) (id : Id) (wire : Frame) (run : Run aead start world)
      (authentic : Authentic aead world id wire) : Run aead start (world.deliver aead id wire)

def World.sentFrames (world : World Id) (id : Id) : List Frame :=
  (world.claimed id).reduceOption.map Sealed.frame

def World.usedNonces (world : World Id) (id : Id) : List Bytes :=
  (world.claimed id).reduceOption.map Sealed.nonce

section

variable [DecidableEq Id] (aead : Aead) (world : World Id) (id : Id)

theorem send_cases (frame : Frame) : world.send aead id frame = world ∨
    (world.codecs id).nextSequence < u64Max ∧ world.send aead id frame = { world with
      codecs := update world.codecs id
        { world.codecs id with nextSequence := (world.codecs id).nextSequence + 1 }
      claimed := update world.claimed id
        (world.claimed id ++ [sealNext aead (world.codecs id) frame]) } := by
  by_cases room : (world.codecs id).nextSequence < u64Max
  · refine .inr ⟨room, ?_⟩
    simp only [World.send, encryptFrame_claims room]
    cases sealNext aead (world.codecs id) frame <;> rfl
  · exact .inl (by simp [World.send, encryptFrame_exhausted (not_lt.mp room)])

theorem deliver_cases (wire : Frame) : world.deliver aead id wire = world ∨
    ∃ plaintext, Expected (world.codecs id) wire ∧
      openWire aead (world.codecs id) wire = some plaintext ∧
      world.deliver aead id wire = { world with
        codecs := update world.codecs id
          { world.codecs id with nextOpenSequence := (world.codecs id).nextOpenSequence + 1 }
        accepted := update world.accepted id
          (world.accepted id ++ [{ clearEncrypted wire with payload := plaintext }]) } := by
  rcases @decryptFrame_cases aead (world.codecs id) wire with
    ⟨error, rejected⟩ | ⟨plaintext, expected, opened⟩
  · exact .inl (by simp [World.deliver, rejected])
  · exact .inr ⟨plaintext, expected, opened,
      by simp [World.deliver, decryptFrame_accepts expected opened]⟩

end

/-! The invariant of one codec and its history. Keys and nonce prefixes never
change; a claimed slot holds the sealing under its own index; the open counter
counts the accepted frames. -/

structure Consistent (aead : Aead) (start codec : SecureFrameCodec)
    (claimed : List (Option Sealed)) (accepted : List Frame) : Prop where
  codec_eq : codec = { start with
    nextSequence := claimed.length
    nextOpenSequence := accepted.length }
  bound : claimed.length ≤ u64Max
  slot : ∀ sequence record, claimed[sequence]? = some (some record) →
    sealNext aead { start with nextSequence := sequence } record.frame = some record

theorem sealNext_frame (made : sealNext aead codec frame = some record) : record.frame = frame := by
  simp only [sealNext, map_eq_some_iff] at made
  rcases made with ⟨ciphertext, -, rfl⟩
  rfl

section

variable {start : SecureFrameCodec} {claimed : List (Option Sealed)} {accepted : List Frame}
  (consistent : Consistent aead start codec claimed accepted) (frame : Frame)
include consistent

theorem consistent_claim (room : codec.nextSequence < u64Max) :
    Consistent aead start { codec with nextSequence := codec.nextSequence + 1 }
      (claimed ++ [sealNext aead codec frame]) accepted := by
  rcases consistent with ⟨rfl, bound, slot⟩
  refine ⟨by simp, by simpa using room, ?_⟩
  intro sequence record found
  by_cases old : sequence < claimed.length
  · rw [getElem?_append_left old] at found
    exact slot sequence record found
  · rw [getElem?_append_right (not_lt.mp old), getElem?_singleton] at found
    split at found
    · have last : sequence = claimed.length := by omega
      have made := some.inj found
      rw [sealNext_frame made, last]
      exact made
    · contradiction

theorem consistent_accept :
    Consistent aead start { codec with nextOpenSequence := codec.nextOpenSequence + 1 }
      claimed (accepted ++ [frame]) := by
  rcases consistent with ⟨rfl, bound, slot⟩
  exact ⟨by simp, bound, slot⟩

end

def AllConsistent (aead : Aead) (start : Id → SecureFrameCodec) (world : World Id) : Prop :=
  ∀ id, Consistent aead (start id) (world.codecs id) (world.claimed id) (world.accepted id)

section

variable {start : Id → SecureFrameCodec} {world : World Id}

theorem run_consistent [DecidableEq Id] (fresh : ∀ id, Fresh (start id))
    (run : Run aead (World.start start) world) : AllConsistent aead start world := by
  induction run with
  | refl =>
    intro id
    refine ⟨?_, zero_le _, by simp [World.start]⟩
    cases found : start id
    have zero := fresh id
    simp_all [World.start, Fresh]
  | send world id frame _ ih =>
    rcases send_cases aead world id frame with idle | ⟨room, claimed⟩
    · rwa [idle]
    · intro other
      rw [claimed]
      by_cases same : other = id
      · subst same
        simpa using consistent_claim (ih other) frame room
      · simpa [update_of_ne same] using ih other
  | deliver world id wire _ _ ih =>
    rcases deliver_cases aead world id wire with idle | ⟨plaintext, _, _, accepted⟩
    · rwa [idle]
    · intro other
      rw [accepted]
      by_cases same : other = id
      · subst same
        simpa using consistent_accept (ih other) _
      · simpa [update_of_ne same] using ih other

end

theorem asU8_injective : Function.Injective MsgType.asU8 := by
  intro left right same
  have read := congrArg MsgType.fromU8 same
  rw [fromU8_asU8, fromU8_asU8] at read
  exact some.inj read

theorem frameAad_injective {left right} (same : clearAad left = clearAad right)
    (payload : Bytes) : { clearEncrypted left with payload := payload } =
      { clearEncrypted right with payload := payload } := by
  simp only [clearAad, frameAad, append_assoc] at same
  have leftFits := left.streamId.toNat_lt
  have rightFits := right.streamId.toNat_lt
  rcases append_inj same (by simp) with ⟨ids, rest⟩
  have streamId := UInt32.toNat_inj.mp
    (beBytes_injective (by omega) (by omega) ids)
  rcases prefixCode_singleton _ _ _ _ rest with ⟨types, flags⟩
  have msgType := asU8_injective types
  have clearFlags : (clearEncrypted left).flags = (clearEncrypted right).flags := by
    simpa using flags
  simp only [clearEncrypted] at clearFlags ⊢
  rw [streamId, msgType, clearFlags]

theorem nonceBytes_injective {left right leftSequence rightSequence}
    (leftFits : leftSequence ≤ u64Max) (rightFits : rightSequence ≤ u64Max)
    (same : nonceBytes left leftSequence = nonceBytes right rightSequence) :
    left = right ∧ leftSequence = rightSequence := by
  simp only [u64Max] at leftFits rightFits
  rcases append_inj same (by rw [left.width, right.width]) with ⟨prefixes, sequences⟩
  refine ⟨?_, beBytes_injective (by omega) (by omega) sequences⟩
  cases left
  cases right
  simpa using prefixes

theorem sealNext_spec (made : sealNext aead codec frame = some record) :
    record.key = codec.sealKey ∧
      record.nonce = nonceBytes codec.sealPrefix codec.nextSequence ∧ record.aad = clearAad frame ∧
      aead.decrypt record.key record.nonce record.aad record.ciphertext = some frame.payload ∧
      record.wire = ⟨frame.streamId, frame.msgType, (clearEncrypted frame).flags ||| flagEncrypted,
        beBytes 8 codec.nextSequence ++ record.ciphertext⟩ := by
  simp only [sealNext, map_eq_some_iff] at made
  rcases made with ⟨ciphertext, encrypted, rfl⟩
  exact ⟨rfl, rfl, rfl, aead.decrypt_encrypt _ _ _ _ _ encrypted, rfl⟩

section

variable {start : Id → SecureFrameCodec} {world : World Id} {sender receiver : Id}
  (consistent : AllConsistent aead start world)

include consistent in
-- The heart of the argument: the nonce of an opened frame names both the codec
-- that sealed it and the slot it sealed it in.
theorem opened_slot (alone : ∀ id, Peer (start id) (start receiver) → id = sender)
    (authentic : Authentic aead world receiver wire)
    (expected : Expected (world.codecs receiver) wire)
    (opened : openWire aead (world.codecs receiver) wire = some plaintext) :
    ∃ record, (world.claimed sender)[(world.accepted receiver).length]? = some (some record) ∧
      { clearEncrypted wire with payload := plaintext } = clearEncrypted record.frame := by
  rcases authentic plaintext opened with ⟨id, record, member, key, nonce, aad, ciphertext⟩
  rcases getElem?_of_mem member with ⟨sequence, found⟩
  have receiverEq := (consistent receiver).codec_eq
  rcases sealNext_spec ((consistent id).slot sequence record found) with
    ⟨sealKey, sealNonce, sealAad, decrypts, -⟩
  have inside : sequence < (world.claimed id).length := (List.getElem?_eq_some_iff.mp found).1
  have bound := (consistent id).bound
  have current : wireSequence wire = (world.accepted receiver).length := by
    rw [← expected.2.2.1, receiverEq]
  have room := expected.2.2.2
  rw [expected.2.2.1] at room
  have nonces : nonceBytes (start id).sealPrefix sequence =
      nonceBytes (start receiver).openPrefix (wireSequence wire) := by
    rw [← sealNonce, nonce, receiverEq]
  have numbered := nonceBytes_injective (by omega) (by omega) nonces
  have peer : Peer (start id) (start receiver) := by
    refine ⟨?_, numbered.1⟩
    rw [← sealKey, key, receiverEq]
  have same := alone id peer
  subst same
  refine ⟨record, by rw [← current, ← numbered.2, found], ?_⟩
  have payload : plaintext = record.frame.payload := by
    rw [key, nonce, aad, ciphertext] at decrypts
    exact some.inj (opened.symm.trans decrypts)
  rw [frameAad_injective (aad.symm.trans sealAad) plaintext, payload]
  rfl

/-- What the channel is for: the slots of the sender, with the transport's flag
bit taken out, and the frames the receiver took. -/
def channelOf (world : World Id) (sender receiver : Id) : InOrder.Channel Frame where
  slots := (world.claimed sender).map (Option.map fun record => clearEncrypted record.frame)
  received := world.accepted receiver

theorem run_refines [DecidableEq Id] (fresh : ∀ id, Fresh (start id))
    (alone : ∀ id, Peer (start id) (start receiver) → id = sender)
    (run : Run aead (World.start start) world) :
    InOrder.Delivered (channelOf world sender receiver) := by
  induction run with
  | refl => exact nil_prefix
  | send world id frame _ ih =>
    refine InOrder.delivered_step _ _ ?_ ih
    rcases send_cases aead world id frame with idle | ⟨_, claimed⟩
    · rw [idle]
      exact InOrder.Step.idle _
    · rw [claimed]
      by_cases same : sender = id
      · subst same
        have step := InOrder.Step.claim (channelOf world sender receiver)
          ((sealNext aead (world.codecs sender) frame).map
            fun record => clearEncrypted record.frame)
        simpa [channelOf] using step
      · simpa [channelOf, update_of_ne same] using InOrder.Step.idle _
  | deliver world id wire earlier authentic ih =>
    refine InOrder.delivered_step _ _ ?_ ih
    rcases deliver_cases aead world id wire with idle | ⟨plaintext, expected, opened, accepted⟩
    · rw [idle]
      exact InOrder.Step.idle _
    · rw [accepted]
      by_cases same : receiver = id
      · subst same
        rcases opened_slot (run_consistent fresh earlier) alone authentic expected opened with
          ⟨record, found, frame⟩
        have step := InOrder.Step.receive (channelOf world sender receiver)
          (clearEncrypted record.frame) (by simp [channelOf, found])
        simpa [channelOf, frame] using step
      · simpa [channelOf, update_of_ne same] using InOrder.Step.idle _

include consistent

theorem usedNonces_nodup (id : Id) : (world.usedNonces id).Nodup := by
  rw [World.usedNonces, List.reduceOption, List.Nodup, pairwise_map, pairwise_filterMap,
    pairwise_iff_getElem]
  intro first second firstInside secondInside before record found record' found' same
  have bound := (consistent id).bound
  have nonce := (sealNext_spec ((consistent id).slot first record
    (by rw [getElem?_eq_getElem firstInside]; exact congrArg some found))).2.1
  have nonce' := (sealNext_spec ((consistent id).slot second record'
    (by rw [getElem?_eq_getElem secondInside]; exact congrArg some found'))).2.1
  have equal := (nonceBytes_injective (by simp; omega) (by simp; omega)
    (nonce.symm.trans (same.trans nonce'))).2
  simp only at equal
  omega

-- The wire frame of a slot passes every check of the receiver that waits for it.
theorem genuine_accepted (peer : Peer (start sender) (start receiver))
    (next : (world.claimed sender)[(world.codecs receiver).nextOpenSequence]? =
      some (some record)) : (decryptFrame aead (world.codecs receiver) record.wire).2 =
      .ok (clearEncrypted record.frame) := by
  have inside := (List.getElem?_eq_some_iff.mp next).1
  have bound := (consistent sender).bound
  rcases sealNext_spec ((consistent sender).slot _ record next) with
    ⟨sealKey, sealNonce, sealAad, decrypts, wire⟩
  have small : (world.codecs receiver).nextOpenSequence < 256 ^ 8 := by
    simp only [u64Max] at bound
    omega
  have sequence : wireSequence record.wire = (world.codecs receiver).nextOpenSequence := by
    rw [wireSequence, wire, sequenceLen, take_append_of_le_length (by simp),
      take_of_length_le (by simp), ofBeBytes_beBytes, mod_eq_of_lt small]
  have ciphertext : wireCiphertext record.wire = record.ciphertext := by
    rw [wireCiphertext, wire, sequenceLen, drop_append_of_le_length (by simp),
      drop_of_length_le (by simp), nil_append]
  have clear : clearEncrypted record.wire = { clearEncrypted record.frame with
      payload := record.wire.payload } := by
    rw [wire]
    simp [clearEncrypted, setMask_clear]
  have aad : clearAad record.wire = record.aad := by rw [sealAad, clearAad, clearAad, clear, wire]
  have expected : Expected (world.codecs receiver) record.wire := by
    refine ⟨?_, ?_, sequence.symm, by omega⟩
    · rw [wire]
      simp only [clearEncrypted, setMask_and]
      decide
    · rw [wire]
      simp [sequenceLen]
  have receiverEq := (consistent receiver).codec_eq
  have opened : openWire aead (world.codecs receiver) record.wire =
      some record.frame.payload := by
    have key : (world.codecs receiver).openKey = record.key := by
      rw [receiverEq, sealKey]
      exact peer.1.symm
    have nonce : nonceBytes (world.codecs receiver).openPrefix (wireSequence record.wire) =
        record.nonce := by
      rw [sealNonce, sequence, peer.2]
      nth_rewrite 1 [receiverEq]
      rfl
    rw [openWire, key, nonce, aad, ciphertext, decrypts]
  rw [decryptFrame_accepts expected opened, clear]
  rfl

end

theorem rejected_unchanged (error : TunnelSecurityError)
    (rejected : (decryptFrame aead codec wire).2 = .error error) :
    (decryptFrame aead codec wire).1 = codec := by
  rcases @decryptFrame_cases aead codec wire with ⟨_, equal⟩ | ⟨plaintext, expected, opened⟩
  · rw [equal]
  · rw [decryptFrame_accepts expected opened] at rejected
    contradiction

/-- In-order delivery of a prefix in every run. A frame is delivered with the
transport's own flag bit cleared, so unaltered if it did not carry that bit. -/
theorem secure_channel_in_order [DecidableEq Id] (aead : Aead)
    (start : Id → SecureFrameCodec) (fresh : ∀ id, Fresh (start id)) (sender receiver : Id)
    (peer : Peer (start sender) (start receiver))
    (alone : ∀ id, Peer (start id) (start receiver) → id = sender) (world : World Id)
    (run : Run aead (World.start start) world) :
    world.accepted receiver <+: (world.sentFrames sender).map clearEncrypted ∧
    (∀ frame, frame.flags &&& flagEncrypted = 0 → clearEncrypted frame = frame) ∧
    (∀ wire error, (decryptFrame aead (world.codecs receiver) wire).2 = .error error →
      (decryptFrame aead (world.codecs receiver) wire).1 = world.codecs receiver) ∧
    (∀ record wire,
      (world.claimed sender)[(world.codecs receiver).nextOpenSequence]? = some (some record) →
      Frame.decode record.wire.encode = some (.ok wire) →
      (decryptFrame aead (world.codecs receiver) wire).2 = .ok (clearEncrypted record.frame)) ∧
    (∀ id, (world.usedNonces id).Nodup) ∧
    (∀ codec frame, codec.nextSequence = u64Max →
      encryptFrame aead codec frame = (codec, .error .sequenceExhausted)) := by
  have consistent := run_consistent fresh run
  refine ⟨?_, ?_, fun wire => rejected_unchanged, ?_, usedNonces_nodup consistent, ?_⟩
  · have delivered := InOrder.received_prefix_sent _ (run_refines fresh alone run)
    simpa [channelOf, World.sentFrames, reduceOption_map, Function.comp_def] using delivered
  · intro frame unset
    rw [clearEncrypted, clear_unset unset]
  · intro record wire next decoded
    rw [decode_encode_eq decoded]
    exact genuine_accepted consistent peer next
  · intro codec frame last
    exact encryptFrame_exhausted (le_of_eq last.symm)

/-! A run with the real numbers: both keys derived from the pre-shared key of 32
sevens and `session-1`, and the AES-256-GCM ciphertext of the one message that is
sealed in it. -/

def sampleClientKey : Digest :=
  ⟨[0x25, 0xc7, 0xa3, 0xda, 0xde, 0x13, 0xee, 0x91, 0xb4, 0xd3, 0x16, 0x3f, 0x36, 0xf5, 0xa9, 0x7a,
    0x74, 0x74, 0xa9, 0x34, 0x60, 0x2b, 0x64, 0x03, 0xfb, 0xe2, 0x8f, 0x42, 0xb7, 0xda, 0xc9, 0x12],
    by decide⟩

def sampleServerKey : Digest :=
  ⟨[0x6c, 0x72, 0xd3, 0x89, 0xd9, 0x3f, 0x64, 0xe2, 0x2d, 0x8a, 0x22, 0x8b, 0x86, 0xd4, 0x60, 0x5f,
    0xa3, 0x1e, 0x72, 0x22, 0x68, 0x74, 0x86, 0x74, 0x30, 0x7c, 0x87, 0x6f, 0x7a, 0x24, 0xa1, 0x9e],
    by decide⟩

def sampleCodecs : TunnelSecurityRole → SecureFrameCodec
  | .client => ⟨sampleClientKey, sampleServerKey, clientToServerNoncePrefix,
      serverToClientNoncePrefix, 0, 0⟩
  | .server => ⟨sampleServerKey, sampleClientKey, serverToClientNoncePrefix,
      clientToServerNoncePrefix, 0, 0⟩

def samplePayload : Bytes := asBytes "hi"

def sampleCiphertext : Bytes :=
  [0x74, 0xeb, 0xfd, 0x85, 0x13, 0xf0, 0x46, 0x0e, 0xf2, 0x86, 0xea, 0xea, 0x31, 0xa5, 0x6a, 0x00,
    0x38, 0xf3]

def sampleNonce : Bytes := nonceBytes clientToServerNoncePrefix 0
def sampleAad : Bytes := frameAad 3 .requestBody 0

/-- AES-256-GCM at the one call of the run; every other call fails. -/
def sampleAead : Aead where
  encrypt := fun key nonce aad message =>
    if key = sampleClientKey ∧ nonce = sampleNonce ∧ aad = sampleAad ∧ message = samplePayload
    then some sampleCiphertext else none
  decrypt := fun key nonce aad ciphertext =>
    if key = sampleClientKey ∧ nonce = sampleNonce ∧ aad = sampleAad ∧
      ciphertext = sampleCiphertext then some samplePayload else none
  decrypt_encrypt := by
    intro key nonce aad message ciphertext encrypted
    split at encrypted
    · rename_i call
      rcases call with ⟨rfl, rfl, rfl, rfl⟩
      rw [← some.inj encrypted]
      simp
    · contradiction

def sampleFrame (flags : UInt8) : Frame := ⟨3, .requestBody, flags, samplePayload⟩

def sampleWire : Frame := ⟨3, .requestBody, flagEncrypted, beBytes 8 0 ++ sampleCiphertext⟩

def sampleSent (flags : UInt8) : World TunnelSecurityRole :=
  (World.start sampleCodecs).send sampleAead .client (sampleFrame flags)

/-- The client seals one frame and its wire frame arrives at the server. -/
def sampleWorld (flags : UInt8) : World TunnelSecurityRole :=
  (sampleSent flags).deliver sampleAead .server sampleWire

theorem sampleWorld_run {flags} (set : flags = 0 ∨ flags = flagEncrypted) :
    Run sampleAead (World.start sampleCodecs) (sampleWorld flags) := by
  refine Run.deliver _ _ _ (Run.send _ _ _ Run.refl) (fun plaintext opened => ?_)
  refine ⟨.client, ⟨sampleFrame flags, sampleClientKey, sampleNonce, sampleAad, sampleCiphertext,
    sampleWire⟩, ?_, ?_⟩
  · rcases set with rfl | rfl <;> decide
  · rcases set with rfl | rfl <;> decide

theorem sampleCodecs_fresh (id : TunnelSecurityRole) : Fresh (sampleCodecs id) := by
  cases id <;> exact ⟨rfl, rfl⟩

theorem sampleCodecs_alone (id : TunnelSecurityRole)
    (peer : Peer (sampleCodecs id) (sampleCodecs .server)) : id = .client := by
  cases id with
  | client => rfl
  | server => exact absurd peer.2 (by decide)

theorem secure_channel_in_order_sample : (sampleWorld 0).accepted .server = [sampleFrame 0] ∧
      (sampleWorld 0).accepted .server <+:
        ((sampleWorld 0).sentFrames .client).map clearEncrypted :=
  ⟨by decide, (secure_channel_in_order sampleAead sampleCodecs sampleCodecs_fresh .client
    .server ⟨rfl, rfl⟩ sampleCodecs_alone (sampleWorld 0)
    (sampleWorld_run (.inl rfl))).1⟩

-- A frame that already carries the transport's bit arrives without it.
theorem encrypted_bit_not_delivered :
    (∀ id, Fresh (sampleCodecs id)) ∧ Peer (sampleCodecs .client) (sampleCodecs .server) ∧
      (∀ id, Peer (sampleCodecs id) (sampleCodecs .server) → id = .client) ∧
      Run sampleAead (World.start sampleCodecs) (sampleWorld flagEncrypted) ∧
      ¬ (sampleWorld flagEncrypted).accepted .server <+:
        (sampleWorld flagEncrypted).sentFrames .client := by
  refine ⟨sampleCodecs_fresh, ⟨rfl, rfl⟩, sampleCodecs_alone, sampleWorld_run (.inr rfl), ?_⟩
  decide

/-! ## Tunnels under one key -/

/-- Any number of tunnels under one pre-shared key, with ends as `new` makes them: when the keys
derived for their sessions do not collide, an end accepts, in order, only what the other end of
its own session has sent. -/
theorem tunnels_kept_apart [DecidableEq Id] (aead : Aead) (crypto : Crypto) (key : String)
    (session : Id → String) (role : Id → TunnelSecurityRole) (start : Id → SecureFrameCodec)
    (made : ∀ id, SecureFrameCodec.new crypto key (session id) (role id) = .ok (start id))
    (distinct : Function.Injective fun id => (trim (session id), role id))
    (noCollision : ∀ psk, decodePsk crypto key = some psk → Set.InjOn (crypto.hmacSha256 psk.bytes)
      {message | ∃ id label, message = updateDeriveKeyMac [] (asBytes (trim (session id))) label})
    (world : World Id) (run : Run aead (World.start start) world) (sender receiver : Id)
    (paired : trim (session sender) = trim (session receiver))
    (opposite : role sender ≠ role receiver) :
    world.accepted receiver <+: (world.sentFrames sender).map clearEncrypted := by
  cases decoded : decodePsk crypto key with
  | none =>
    have failed := made receiver
    simp [SecureFrameCodec.new, decoded] at failed
  | some psk =>
    have shape id : start id = .derived crypto psk (asBytes (trim (session id))) (role id) := by
      have made := made id
      simp only [SecureFrameCodec.new, decoded] at made
      split_ifs at made
      exact (Except.ok.inj made).symm
    have fresh id : Fresh (start id) := by
      rw [shape]
      cases role id <;> exact ⟨rfl, rfl⟩
    have alone id (peer : Peer (start id) (start receiver)) : id = sender := by
      rw [shape, shape] at peer
      obtain ⟨differs, label, keys⟩ := peer_derived peer
      have same := (keyDerivation_transcript_injective
        (noCollision psk decoded ⟨id, label, rfl⟩ ⟨receiver, label, rfl⟩ keys)).1
      have side : role id = role sender := by
        cases _ : role id <;> cases _ : role sender <;> cases _ : role receiver <;> simp_all
      exact distinct (Prod.ext ((asBytes_injective same).trans paired.symm) side)
    have delivered := InOrder.received_prefix_sent _ (run_refines fresh alone run)
    simpa [channelOf, World.sentFrames, reduceOption_map, Function.comp_def] using delivered

/-- HMAC-SHA256 at the two derivations of the run. -/
def derivingCrypto : Crypto := { sampleCrypto with
  hmacSha256 := fun _ message =>
    if message = updateDeriveKeyMac [] (asBytes "session-1") .clientToServer then sampleClientKey
    else sampleServerKey
  base64Decode := fun _ => some (replicate 32 7) }

theorem sample_tunnel_apart : (sampleWorld 0).accepted .server <+:
    ((sampleWorld 0).sentFrames .client).map clearEncrypted := by
  refine tunnels_kept_apart sampleAead derivingCrypto "" (fun _ => "session-1") id sampleCodecs
    (fun id => by cases id <;> decide) (fun _ _ same => (Prod.ext_iff.mp same).2)
    (fun psk _ => ?_) _ (sampleWorld_run (.inl rfl)) .client .server rfl (by decide)
  have different : sampleClientKey ≠ sampleServerKey := by decide
  rintro _ ⟨_, label, rfl⟩ _ ⟨_, label', rfl⟩ same
  cases label <;> cases label'
  · rfl
  · exact (different same).elim
  · exact (different same.symm).elim
  · rfl

end Aeris.Tunnel
