import Aeris.Base.ByteEncoding
import Aeris.Base.RustStd
import Mathlib.Data.Set.Function

/-! The byte strings that the tunnel feeds to HMAC: relay requests
(`aether-contracts/src/tunnel.rs`), and handshake proofs, control-plane requests
and key derivation (`tunnel_security.rs`). A MAC under construction is the list
of bytes it was updated with. SHA-256, HMAC and base64 are parameters: nothing
below computes a digest, and collision-freeness is assumed only on the messages
a result names. -/
namespace Aeris.Tunnel
open ByteEncoding RustStd List

/-- A 32-byte digest, tag or key. -/
structure Digest where
  bytes : Bytes
  width : bytes.length = 32
deriving DecidableEq

theorem prefixCode_digest : PrefixCode Digest.bytes := by
  apply PrefixCode.of_width _ 32 Digest.width
  intro left right same
  cases left
  cases right
  simpa using same

/-- The library functions that the tunnel calls. -/
structure Crypto where
  sha256 : Bytes → Digest
  hmacSha256 : Bytes → Bytes → Digest
  /-- `STANDARD`, which decodes pre-shared keys. -/
  base64Decode : String → Option Bytes
  /-- `URL_SAFE_NO_PAD`, for signatures. -/
  base64UrlEncode : Bytes → String
  base64UrlDecode : String → Option Bytes

def tunnelRelayAuthContext : Bytes := asBytes "aether-tunnel-relay-auth-v2"
def context : Bytes := asBytes "aether-tunnel-secure-v1"
def handshakeProofContext : Bytes := asBytes "aether-tunnel-handshake-proof-v1"
def controlPlaneAuthContext : Bytes := asBytes "aether-tunnel-control-plane-auth-v1"

structure TunnelRelayPayloadDigest where
  metadataSha256 : Digest
  bodyLen : UInt64
  bodySha256 : Digest
deriving DecidableEq

def tunnelRelayPayloadDigest (crypto : Crypto) (metadataEnvelope body : Slice) :
    TunnelRelayPayloadDigest where
  metadataSha256 := crypto.sha256 metadataEnvelope.bytes
  bodyLen := UInt64.ofNat body.bytes.length
  bodySha256 := crypto.sha256 body.bytes

/-- The arguments of `sign_tunnel_relay_request` besides the secret. -/
structure RelayAuth where
  senderInstanceId : Slice
  ownerInstanceId : Slice
  nodeId : Slice
  forwardedBy : Slice
  rolloutProbe : Bool
  timestampUnixSecs : UInt64
  nonce : Slice
  payloadDigest : TunnelRelayPayloadDigest
deriving DecidableEq

def updateTunnelRelayAuthField (mac : Bytes) (value : Slice) : Bytes :=
  mac ++ lengthPrefixed value

/-- `u8::from(bool)`. -/
def u8OfBool (value : Bool) : UInt8 := if value then 1 else 0

def updateTunnelRelayAuthMac (mac : Bytes) (auth : RelayAuth) : Bytes :=
  let mac := mac ++ tunnelRelayAuthContext
  let mac := updateTunnelRelayAuthField mac auth.senderInstanceId
  let mac := updateTunnelRelayAuthField mac auth.ownerInstanceId
  let mac := updateTunnelRelayAuthField mac auth.nodeId
  let mac := updateTunnelRelayAuthField mac auth.forwardedBy
  let mac := mac ++ [u8OfBool auth.rolloutProbe]
  let mac := mac ++ beBytes 8 auth.timestampUnixSecs.toNat
  let mac := updateTunnelRelayAuthField mac auth.nonce
  let mac := mac ++ auth.payloadDigest.metadataSha256.bytes
  let mac := mac ++ beBytes 8 auth.payloadDigest.bodyLen.toNat
  mac ++ auth.payloadDigest.bodySha256.bytes

def updateHandshakeProofField (mac : Bytes) (value : Slice) : Bytes :=
  mac ++ lengthPrefixed value

/-- The arguments of `sign_tunnel_control_plane_request_for_generation` besides
the key. The variant without a generation passes the empty string. -/
structure ControlPlaneAuth where
  method : Slice
  path : Slice
  nodeId : Slice
  tunnelGeneration : Slice
  timestampUnixSecs : UInt64
  nonce : Slice
  body : Slice
deriving DecidableEq

def updateControlPlaneAuthMac (crypto : Crypto) (mac : Bytes) (auth : ControlPlaneAuth) : Bytes :=
  let mac := mac ++ controlPlaneAuthContext
  let mac := updateHandshakeProofField mac auth.method
  let mac := updateHandshakeProofField mac auth.path
  let mac := updateHandshakeProofField mac auth.nodeId
  let mac := updateHandshakeProofField mac auth.tunnelGeneration
  let mac := mac ++ beBytes 8 auth.timestampUnixSecs.toNat
  let mac := updateHandshakeProofField mac auth.nonce
  mac ++ (crypto.sha256 auth.body.bytes).bytes

/-- The arguments of `sign_tunnel_security_handshake_for_generation` besides the
key. -/
structure HandshakeProof where
  nodeId : Slice
  tunnelGeneration : Slice
  securityMode : Slice
  sessionId : Slice
  protocolVersion : UInt8
  timestampUnixSecs : UInt64
  nonce : Slice
deriving DecidableEq

def updateHandshakeProofMac (mac : Bytes) (proof : HandshakeProof) : Bytes :=
  let mac := mac ++ handshakeProofContext
  let mac := updateHandshakeProofField mac proof.nodeId
  let mac := updateHandshakeProofField mac proof.tunnelGeneration
  let mac := updateHandshakeProofField mac proof.securityMode
  let mac := updateHandshakeProofField mac proof.sessionId
  let mac := mac ++ [proof.protocolVersion]
  let mac := mac ++ beBytes 8 proof.timestampUnixSecs.toNat
  updateHandshakeProofField mac proof.nonce

/-- The two labels that `derive_key` is called with. -/
inductive KeyLabel where
  | clientToServer
  | serverToClient
deriving DecidableEq, Repr

def KeyLabel.bytes : KeyLabel → Bytes
  | .clientToServer => asBytes "client-to-server"
  | .serverToClient => asBytes "server-to-client"

def updateDeriveKeyMac (mac : Bytes) (sessionId : Bytes) (label : KeyLabel) : Bytes :=
  let mac := mac ++ context
  let mac := mac ++ [0]
  let mac := mac ++ sessionId
  let mac := mac ++ [0]
  mac ++ label.bytes

def deriveKey (crypto : Crypto) (psk : Digest) (sessionId : Bytes) (label : KeyLabel) : Digest :=
  crypto.hmacSha256 psk.bytes (updateDeriveKeyMac [] sessionId label)

/-- `decode_psk`, `none` being `InvalidKey`. -/
def decodePsk (crypto : Crypto) (key : String) : Option Digest :=
  let key := trim key
  if 44 < byteLen key then none
  else do
    let decoded ← crypto.base64Decode key
    if width : decoded.length = 32 then some ⟨decoded, width⟩ else none

/-! Signing and verifying are the same for the three purposes up to how the
secret is obtained and whether the signature is trimmed. -/

section

variable (crypto : Crypto)

def signTranscript (secret transcript : Bytes) : String :=
  crypto.base64UrlEncode (crypto.hmacSha256 secret transcript).bytes

/-- `mac.verify_slice(&signature).is_ok()`: equality of the whole tag. -/
def verifySlice (secret transcript tag : Bytes) : Bool :=
  (crypto.hmacSha256 secret transcript).bytes == tag

def verifyTranscript (secret transcript : Bytes) (signature : String) : Bool :=
  if 43 < byteLen signature then false
  else match crypto.base64UrlDecode signature with
    | none => false
    | some tag => verifySlice crypto secret transcript tag

def signTunnelRelayRequest (secret : Bytes) (auth : RelayAuth) : String :=
  signTranscript crypto secret (updateTunnelRelayAuthMac [] auth)

def verifyTunnelRelayRequestSignature (secret : Bytes) (auth : RelayAuth) (signature : String) :
    Bool :=
  verifyTranscript crypto secret (updateTunnelRelayAuthMac [] auth) (trim signature)

def signTunnelSecurityHandshakeForGeneration (key : String) (proof : HandshakeProof) :
    Option String :=
  (decodePsk crypto key).map fun psk =>
    signTranscript crypto psk.bytes (updateHandshakeProofMac [] proof)

def verifyTunnelSecurityHandshakeForGeneration (key : String) (proof : HandshakeProof)
    (signature : String) : Bool :=
  match decodePsk crypto key with
  | none => false
  | some psk => verifyTranscript crypto psk.bytes (updateHandshakeProofMac [] proof) signature

def signTunnelControlPlaneRequestForGeneration (key : String) (auth : ControlPlaneAuth) :
    Option String :=
  (decodePsk crypto key).map fun psk =>
    signTranscript crypto psk.bytes (updateControlPlaneAuthMac crypto [] auth)

def verifyTunnelControlPlaneRequestForGeneration (key : String) (auth : ControlPlaneAuth)
    (signature : String) : Bool :=
  match decodePsk crypto key with
  | none => false
  | some psk =>
    verifyTranscript crypto psk.bytes (updateControlPlaneAuthMac crypto [] auth) signature

end

/-! One type for everything that is ever authenticated or derived, so that
binding the fields and separating the purposes are one injectivity statement. -/

inductive MacInput where
  | relay (auth : RelayAuth)
  | handshake (proof : HandshakeProof)
  | controlPlane (auth : ControlPlaneAuth)
  | keyDerivation (sessionId : Bytes) (label : KeyLabel)
deriving DecidableEq

def MacInput.transcript (crypto : Crypto) : MacInput → Bytes
  | .relay auth => updateTunnelRelayAuthMac [] auth
  | .handshake proof => updateHandshakeProofMac [] proof
  | .controlPlane auth => updateControlPlaneAuthMac crypto [] auth
  | .keyDerivation sessionId label => updateDeriveKeyMac [] sessionId label

/-- The messages that a transcript holds only as their SHA-256. -/
def MacInput.digested : MacInput → List Bytes
  | .controlPlane auth => [auth.body.bytes]
  | _ => []

theorem u8OfBool_injective : Function.Injective u8OfBool := by
  intro left right same
  cases left <;> cases right <;> first | rfl | (exact absurd same (by decide))

-- Peeling the fields from the front, each by the prefix code it is written in.
theorem relay_transcript_injective {left right : RelayAuth}
    (same : updateTunnelRelayAuthMac [] left = updateTunnelRelayAuthMac [] right) :
    left = right := by
  simp only [updateTunnelRelayAuthMac, updateTunnelRelayAuthField, append_assoc,
    append_cancel_left_eq] at same
  obtain ⟨sender, same⟩ := prefixCode_lengthPrefixed _ _ _ _ same
  obtain ⟨owner, same⟩ := prefixCode_lengthPrefixed _ _ _ _ same
  obtain ⟨node, same⟩ := prefixCode_lengthPrefixed _ _ _ _ same
  obtain ⟨forwarded, same⟩ := prefixCode_lengthPrefixed _ _ _ _ same
  obtain ⟨probe, same⟩ := prefixCode_singleton _ _ _ _ same
  obtain ⟨timestamp, same⟩ := prefixCode_beBytes_u64 _ _ _ _ same
  obtain ⟨nonce, same⟩ := prefixCode_lengthPrefixed _ _ _ _ same
  obtain ⟨metadata, same⟩ := prefixCode_digest _ _ _ _ same
  obtain ⟨bodyLen, same⟩ := prefixCode_beBytes_u64 _ _ _ _ same
  have body := prefixCode_digest.injective same
  have rollout := u8OfBool_injective probe
  obtain ⟨_, _, _, _, _, _, _, ⟨_, _, _⟩⟩ := left
  obtain ⟨_, _, _, _, _, _, _, ⟨_, _, _⟩⟩ := right
  simp_all

theorem handshake_transcript_injective {left right}
    (same : updateHandshakeProofMac [] left = updateHandshakeProofMac [] right) : left = right := by
  simp only [updateHandshakeProofMac, updateHandshakeProofField, append_assoc,
    append_cancel_left_eq] at same
  obtain ⟨node, same⟩ := prefixCode_lengthPrefixed _ _ _ _ same
  obtain ⟨generation, same⟩ := prefixCode_lengthPrefixed _ _ _ _ same
  obtain ⟨mode, same⟩ := prefixCode_lengthPrefixed _ _ _ _ same
  obtain ⟨session, same⟩ := prefixCode_lengthPrefixed _ _ _ _ same
  obtain ⟨version, same⟩ := prefixCode_singleton _ _ _ _ same
  obtain ⟨timestamp, same⟩ := prefixCode_beBytes_u64 _ _ _ _ same
  have nonce := prefixCode_lengthPrefixed.injective same
  cases left
  cases right
  simp_all

theorem controlPlane_transcript_injective {crypto left right}
    (noCollision : crypto.sha256 left.body.bytes = crypto.sha256 right.body.bytes →
      left.body.bytes = right.body.bytes)
    (same : updateControlPlaneAuthMac crypto [] left = updateControlPlaneAuthMac crypto [] right) :
    left = right := by
  simp only [updateControlPlaneAuthMac, updateHandshakeProofField, append_assoc,
    append_cancel_left_eq] at same
  obtain ⟨method, same⟩ := prefixCode_lengthPrefixed _ _ _ _ same
  obtain ⟨path, same⟩ := prefixCode_lengthPrefixed _ _ _ _ same
  obtain ⟨node, same⟩ := prefixCode_lengthPrefixed _ _ _ _ same
  obtain ⟨generation, same⟩ := prefixCode_lengthPrefixed _ _ _ _ same
  obtain ⟨timestamp, same⟩ := prefixCode_beBytes_u64 _ _ _ _ same
  obtain ⟨nonce, same⟩ := prefixCode_lengthPrefixed _ _ _ _ same
  have body := Slice.ext (noCollision (prefixCode_digest.injective same))
  cases left
  cases right
  simp_all

-- The session id is not length-prefixed; both labels have sixteen bytes, so the
-- transcript is read from its end.
theorem keyDerivation_transcript_injective {leftSession rightSession : Bytes}
    {leftLabel rightLabel : KeyLabel}
    (same : updateDeriveKeyMac [] leftSession leftLabel =
      updateDeriveKeyMac [] rightSession rightLabel) :
    leftSession = rightSession ∧ leftLabel = rightLabel := by
  have sixteen : ∀ label : KeyLabel, label.bytes.length = 16 := by
    intro label
    cases label <;> decide
  obtain ⟨front, labels⟩ := append_inj' same (by rw [sixteen, sixteen])
  have sessions : leftSession = rightSession := by simpa using front
  have label : leftLabel = rightLabel := by
    cases leftLabel <;> cases rightLabel <;> first | rfl | (exact absurd labels (by decide))
  exact ⟨sessions, label⟩

/-- The fifteenth byte of a transcript: the first byte after the common
`aether-tunnel-` and, in order, `r`, `h`, `c` or `s`. -/
def MacInput.purposeByte : MacInput → UInt8
  | .relay _ => 0x72
  | .handshake _ => 0x68
  | .controlPlane _ => 0x63
  | .keyDerivation _ _ => 0x73

theorem transcript_purposeByte (crypto : Crypto) (input : MacInput) :
    (input.transcript crypto)[14]? = some input.purposeByte := by
  cases input <;> rfl

/-- The inputs whose digested messages all lie in a collision-free set. -/
def digestedWithin (messages : Set Bytes) : Set MacInput :=
  {input | ∀ message ∈ input.digested, message ∈ messages}

theorem transcript_injOn {crypto messages} (noCollision : Set.InjOn crypto.sha256 messages) :
    Set.InjOn (MacInput.transcript crypto) (digestedWithin messages) := by
  intro left leftWithin right rightWithin same
  have purpose : left.purposeByte = right.purposeByte := by
    have byte := congrArg (fun bytes : Bytes => bytes[14]?) same
    simp only [transcript_purposeByte] at byte
    exact Option.some.inj byte
  -- The sixteen pairs: twelve differ in the purpose byte, four are one format.
  cases left with
  | relay leftAuth =>
    cases right with
    | relay rightAuth => rw [relay_transcript_injective same]
    | _ => simp [MacInput.purposeByte] at purpose
  | handshake leftProof =>
    cases right with
    | handshake rightProof => rw [handshake_transcript_injective same]
    | _ => simp [MacInput.purposeByte] at purpose
  | controlPlane leftAuth =>
    cases right with
    | controlPlane rightAuth =>
      have distinct := noCollision (leftWithin leftAuth.body.bytes mem_cons_self)
        (rightWithin rightAuth.body.bytes mem_cons_self)
      rw [controlPlane_transcript_injective distinct same]
    | _ => simp [MacInput.purposeByte] at purpose
  | keyDerivation leftSession leftLabel =>
    cases right with
    | keyDerivation rightSession rightLabel =>
      obtain ⟨sessions, labels⟩ := keyDerivation_transcript_injective same
      rw [sessions, labels]
    | _ => simp [MacInput.purposeByte] at purpose

/-- The value of an optional header, as `relay_auth_optional_header` lets it
through: an empty value is rejected there. -/
structure HeaderValue where
  slice : Slice
  nonempty : slice.bytes ≠ []

/-- `unwrap_or_default()`: an absent header is signed as the empty string. -/
def unwrapOrDefault : Option HeaderValue → Slice
  | none => ⟨[], by decide⟩
  | some header => header.slice

theorem unwrapOrDefault_injective : Function.Injective unwrapOrDefault := by
  intro left right same
  match left, right with
  | none, none => rfl
  | none, some header => exact absurd (congrArg Slice.bytes same).symm header.nonempty
  | some header, none => exact absurd (congrArg Slice.bytes same) header.nonempty
  | some ⟨left, _⟩, some ⟨right, _⟩ =>
    change left = right at same
    subst same
    rfl

/-- Every authenticated field is bound and the purposes are separated. The
inputs are arbitrary strings; a collision-free set of digested messages stands
for SHA-256, one of transcripts for HMAC under a fixed secret. -/
theorem transcripts_bind_every_field (crypto : Crypto) (messages : Set Bytes)
    (noCollision : Set.InjOn crypto.sha256 messages) :
    Set.InjOn (MacInput.transcript crypto) (digestedWithin messages) ∧
    (∀ metadata metadata' body body' : Slice,
      (∀ slice ∈ [metadata, metadata', body, body'], slice.bytes ∈ messages) →
      tunnelRelayPayloadDigest crypto metadata body =
        tunnelRelayPayloadDigest crypto metadata' body' → metadata = metadata' ∧ body = body') ∧
    Function.Injective unwrapOrDefault ∧
    (∀ secret transcripts, Set.InjOn (crypto.hmacSha256 secret) transcripts →
      ∀ left ∈ digestedWithin messages, ∀ right ∈ digestedWithin messages,
      left.transcript crypto ∈ transcripts → right.transcript crypto ∈ transcripts →
      ∀ tag, verifySlice crypto secret (left.transcript crypto) tag = true →
        verifySlice crypto secret (right.transcript crypto) tag = true → left = right) := by
  refine ⟨transcript_injOn noCollision, ?_, unwrapOrDefault_injective, ?_⟩
  · intro metadata metadata' body body' within same
    simp only [tunnelRelayPayloadDigest, TunnelRelayPayloadDigest.mk.injEq] at same
    have envelopes := noCollision (within metadata (by simp)) (within metadata' (by simp)) same.1
    have bodies := noCollision (within body (by simp)) (within body' (by simp)) same.2.2
    exact ⟨Slice.ext envelopes, Slice.ext bodies⟩
  · intro secret transcripts noForgery left leftWithin right rightWithin leftMessage rightMessage
      tag leftValid rightValid
    simp only [verifySlice, beq_iff_eq] at leftValid rightValid
    have tags := prefixCode_digest.injective (leftValid.trans rightValid.symm)
    have transcript := noForgery leftMessage rightMessage tags
    exact transcript_injOn noCollision leftWithin rightWithin transcript

/-- SHA-256 at the two bodies `[1]` and `[2]`, padding elsewhere. -/
def sampleSha256 (message : Bytes) : Digest :=
  if message = [1] then
    ⟨[0x4b, 0xf5, 0x12, 0x2f, 0x34, 0x45, 0x54, 0xc5, 0x3b, 0xde, 0x2e,
      0xbb, 0x8c, 0xd2, 0xb7, 0xe3, 0xd1, 0x60, 0x0a, 0xd6, 0x31, 0xc3,
      0x85, 0xa5, 0xd7, 0xcc, 0xe2, 0x3c, 0x77, 0x85, 0x45, 0x9a], by decide⟩
  else if message = [2] then
    ⟨[0xdb, 0xc1, 0xb4, 0xc9, 0x00, 0xff, 0xe4, 0x8d, 0x57, 0x5b, 0x5d,
      0xa5, 0xc6, 0x38, 0x04, 0x01, 0x25, 0xf6, 0x5d, 0xb0, 0xfe, 0x3e,
      0x24, 0x49, 0x4b, 0x76, 0xea, 0x98, 0x64, 0x57, 0xd9, 0x86], by decide⟩
  else ⟨(message ++ List.replicate 32 0).take 32, by simp⟩

def sampleCrypto : Crypto where
  sha256 := sampleSha256
  hmacSha256 := fun _ message => sampleSha256 message
  base64Decode := fun _ => none
  base64UrlEncode := fun _ => ""
  base64UrlDecode := fun _ => none

/-- A control-plane request of empty fields and a one-byte body. -/
def singleByteRequest (byte : UInt8) : ControlPlaneAuth :=
  let empty : Slice := ⟨[], by decide⟩
  ⟨empty, empty, empty, empty, 0, empty, ⟨[byte], by simp⟩⟩

theorem transcripts_bind_every_field_body : Set.InjOn sampleSha256 {[1], [2]} ∧
      updateControlPlaneAuthMac sampleCrypto [] (singleByteRequest 1) ≠
        updateControlPlaneAuthMac sampleCrypto [] (singleByteRequest 2) := by
  have noCollision : Set.InjOn sampleCrypto.sha256 {[1], [2]} := by
    rintro left (rfl | rfl) right (rfl | rfl) same
    · rfl
    · exact absurd same (by decide)
    · exact absurd same (by decide)
    · rfl
  have first : .controlPlane (singleByteRequest 1) ∈ digestedWithin {[1], [2]} := by
    simp [digestedWithin, MacInput.digested, singleByteRequest]
  have second : .controlPlane (singleByteRequest 2) ∈ digestedWithin {[1], [2]} := by
    simp [digestedWithin, MacInput.digested, singleByteRequest]
  refine ⟨noCollision, fun same => ?_⟩
  have equal :=
    (transcripts_bind_every_field sampleCrypto {[1], [2]} noCollision).1 first second same
  exact absurd equal (by decide)

end Aeris.Tunnel
