import Aeris.Base.ByteEncoding
import Aeris.Base.RustStd
import Mathlib.Data.List.Sort

/-! The emergency-chain grant of `aether-scheduler-core/src/emergency_chain.rs`: issue, revocation,
the gate that hands out one permit at a time, and the authoritative safe skip. Permits, proofs and
trusted contexts are arbitrary values here, forged ones included; the sealed constructors of the
source are not relied on. Times are integers without order between calls. SHA-256 is a parameter. -/
namespace Aeris.Scheduler
open ByteEncoding RustStd List

def maxEmergencyChainGrantTtlSecs : Int := 24 * 60 * 60
def maxOpaqueValueLen : Nat := 256

inductive EmergencyChainGrantBuildError where
  | invalidOpaqueValue (field : String)
  | wildcardOperation
  | emptyOperationScope
  | duplicateOperation
  | emptyTargetChain
  | duplicateTarget
  | invalidValidityWindow
  | validityWindowTooLong
  | invalidChainHash
  | invalidRequestFingerprint
deriving DecidableEq, Repr

/-- `char::is_control`: the Unicode category `Cc`. -/
def isControl (c : Char) : Bool :=
  c.toNat < 0x20 || (0x7f ≤ c.toNat && c.toNat ≤ 0x9f)

/-- The negation of the rejecting condition of `validate_opaque_value`. -/
def opaqueValue (value : String) : Bool :=
  !(value.isEmpty || maxOpaqueValueLen < byteLen value || trim value != value ||
    value.toList.any isControl || value.toList.any isWhitespace ||
    decide ("://".toList <:+: value.toList))

/-- A string that passed `validate_opaque_value`. -/
structure OpaqueValue where
  value : String
  valid : opaqueValue value = true
deriving DecidableEq

def validateOpaqueValue (value field : String) : Except EmergencyChainGrantBuildError OpaqueValue :=
  if valid : opaqueValue value = true then .ok ⟨value, valid⟩
  else .error (.invalidOpaqueValue field)

def isLowerHex (c : Char) : Bool :=
  ('0' ≤ c && c ≤ '9') || ('a' ≤ c && c ≤ 'f')

/-- `validate_sha256_hex`. A byte of a hexadecimal string is one character. -/
def validateSha256Hex (value : String) (error : EmergencyChainGrantBuildError) :
    Except EmergencyChainGrantBuildError String :=
  if byteLen value ≠ 64 || !value.toList.all isLowerHex then .error error else .ok value

structure EmergencyChainGrantId where
  value : OpaqueValue
deriving DecidableEq

def EmergencyChainGrantId.new (value : String) :
    Except EmergencyChainGrantBuildError EmergencyChainGrantId :=
  (validateOpaqueValue value "grant_id").map .mk

structure EmergencyChainPrincipal where
  value : OpaqueValue
deriving DecidableEq

def EmergencyChainPrincipal.new (value : String) :
    Except EmergencyChainGrantBuildError EmergencyChainPrincipal :=
  (validateOpaqueValue value "principal").map .mk

/-- A named operation; the wildcard is not one. -/
structure EmergencyChainOperation where
  value : OpaqueValue
  named : value.value ≠ "*"
deriving DecidableEq

def EmergencyChainOperation.new (value : String) :
    Except EmergencyChainGrantBuildError EmergencyChainOperation := do
  let value ← validateOpaqueValue value "operation"
  if named : value.value = "*" then .error .wildcardOperation else .ok ⟨value, named⟩

structure EmergencyChainTargetIdentity where
  providerId : OpaqueValue
  endpointId : OpaqueValue
  keyId : OpaqueValue
deriving DecidableEq

def EmergencyChainTargetIdentity.new (providerId endpointId keyId : String) :
    Except EmergencyChainGrantBuildError EmergencyChainTargetIdentity := do
  let providerId ← validateOpaqueValue providerId "provider_id"
  let endpointId ← validateOpaqueValue endpointId "endpoint_id"
  let keyId ← validateOpaqueValue keyId "key_id"
  return ⟨providerId, endpointId, keyId⟩

structure EmergencyChainHash where
  value : String
deriving DecidableEq, Repr

def EmergencyChainHash.parse (value : String) :
    Except EmergencyChainGrantBuildError EmergencyChainHash :=
  (validateSha256Hex value .invalidChainHash).map .mk

structure EmergencyChainRequestFingerprint where
  value : String
deriving DecidableEq, Repr

def EmergencyChainRequestFingerprint.parse (value : String) :
    Except EmergencyChainGrantBuildError EmergencyChainRequestFingerprint :=
  (validateSha256Hex value .invalidRequestFingerprint).map .mk

structure EmergencyChainSessionNonce where
  value : OpaqueValue
deriving DecidableEq

def EmergencyChainSessionNonce.new (value : String) :
    Except EmergencyChainGrantBuildError EmergencyChainSessionNonce :=
  (validateOpaqueValue value "session_nonce").map .mk

structure EmergencyChainRequestScope where
  requestId : OpaqueValue
  requestFingerprint : EmergencyChainRequestFingerprint
  sessionNonce : EmergencyChainSessionNonce
deriving DecidableEq

def EmergencyChainRequestScope.new (requestId : String)
    (requestFingerprint : EmergencyChainRequestFingerprint)
    (sessionNonce : EmergencyChainSessionNonce) :
    Except EmergencyChainGrantBuildError EmergencyChainRequestScope :=
  (validateOpaqueValue requestId "request_id").map fun requestId =>
    ⟨requestId, requestFingerprint, sessionNonce⟩

inductive EmergencyChainSessionState where
  | ready (nextPosition : Nat)
  | outstanding (position permitSerial : Nat)
  | exhausted
deriving DecidableEq, Repr

structure EmergencyChainGrant where
  id : EmergencyChainGrantId
  principal : EmergencyChainPrincipal
  operations : List EmergencyChainOperation
  requestScope : EmergencyChainRequestScope
  targets : List EmergencyChainTargetIdentity
  chainHash : EmergencyChainHash
  issuedAtUnixSecs : Int
  expiresAtUnixSecs : Int
  revokedAtUnixSecs : Option Int
  nextPermitSerial : Nat
  sessionState : EmergencyChainSessionState
deriving DecidableEq

structure IssueEmergencyChainGrant where
  id : EmergencyChainGrantId
  principal : EmergencyChainPrincipal
  operations : List EmergencyChainOperation
  requestScope : EmergencyChainRequestScope
  targets : List EmergencyChainTargetIdentity
  issuedAtUnixSecs : Int
  expiresAtUnixSecs : Int

def hashLengthPrefixed (hasher value : Bytes) : Bytes :=
  hasher ++ beBytes 8 value.length ++ value

def hexDigit (n : Nat) : Char :=
  if n < 10 then Char.ofNat ('0'.toNat + n) else Char.ofNat ('a'.toNat + (n - 10))

def hexDigest (digest : Bytes) : String :=
  String.ofList (digest.flatMap fun byte =>
    [hexDigit (byte.toNat / 16), hexDigit (byte.toNat % 16)])

def hashTargetChain (sha256 : Bytes → Bytes) (targets : List EmergencyChainTargetIdentity) :
    EmergencyChainHash :=
  let hasher := asBytes "aether-emergency-chain-v1\x00" ++ beBytes 8 targets.length
  let hasher := targets.foldl (fun hasher target =>
    let hasher := hashLengthPrefixed hasher (asBytes target.providerId.value)
    let hasher := hashLengthPrefixed hasher (asBytes target.endpointId.value)
    hashLengthPrefixed hasher (asBytes target.keyId.value)) hasher
  ⟨hexDigest (sha256 hasher)⟩

/-- `EmergencyChainGrant::issue`. Collecting into a `BTreeSet` and back sorts the
operations; an `insert` that returns false is a duplicate. -/
def EmergencyChainGrant.issue (sha256 : Bytes → Bytes) (input : IssueEmergencyChainGrant) :
    Except EmergencyChainGrantBuildError EmergencyChainGrant :=
  if input.operations.isEmpty then .error .emptyOperationScope
  else if input.targets.isEmpty then .error .emptyTargetChain
  else if input.expiresAtUnixSecs ≤ input.issuedAtUnixSecs then .error .invalidValidityWindow
  else
    let ttl := input.expiresAtUnixSecs - input.issuedAtUnixSecs
    if (i64Max : Int) < ttl then .error .invalidValidityWindow
    else if maxEmergencyChainGrantTtlSecs < ttl then .error .validityWindowTooLong
    else if ¬ input.operations.Nodup then .error .duplicateOperation
    else if ¬ input.targets.Nodup then .error .duplicateTarget
    else .ok
      { id := input.id
        principal := input.principal
        operations := input.operations.insertionSort fun a b => a.value.value ≤ b.value.value
        requestScope := input.requestScope
        targets := input.targets
        chainHash := hashTargetChain sha256 input.targets
        issuedAtUnixSecs := input.issuedAtUnixSecs
        expiresAtUnixSecs := input.expiresAtUnixSecs
        revokedAtUnixSecs := none
        nextPermitSerial := 0
        sessionState := .ready 0 }

inductive EmergencyChainRevokeOutcome where
  | revoked
  | effectiveTimeTightened
  | alreadyRevoked
deriving DecidableEq, Repr

inductive EmergencyChainRevokeError where
  | beforeIssue
deriving DecidableEq, Repr

inductive EmergencyChainGateError where
  | unknownGrant
  | principalDenied
  | operationDenied
  | requestScopeDenied
  | notYetValid
  | expired
  | revoked
  | chainHashMismatch
  | targetOutsideChain
  | targetOutOfOrder
  | attemptAlreadyOutstanding
  | chainExhausted
  | permitSerialExhausted
deriving DecidableEq, Repr

inductive EmergencyChainPermitError where
  | noOutstandingPermit
  | permitMismatch
deriving DecidableEq, Repr

inductive EmergencyChainSafeSkipError where
  | gate (error : EmergencyChainGateError)
  | permit (error : EmergencyChainPermitError)
  | proofMismatch
deriving DecidableEq, Repr

inductive EmergencyChainSessionProgress where
  | readyForNextTarget (nextPosition : Nat)
  | exhausted
deriving DecidableEq, Repr

structure ServerEmergencyChainGrantActivation where
  grantId : EmergencyChainGrantId
  chainHash : EmergencyChainHash
deriving DecidableEq

structure TrustedEmergencyChainContext where
  activation : ServerEmergencyChainGrantActivation
  principal : EmergencyChainPrincipal
  operation : EmergencyChainOperation
  liveRequest : EmergencyChainRequestScope
  gateAt : Int
deriving DecidableEq

structure EmergencyChainAttemptPermit where
  grantId : EmergencyChainGrantId
  chainHash : EmergencyChainHash
  requestScope : EmergencyChainRequestScope
  chainPosition : Nat
  target : EmergencyChainTargetIdentity
  permitSerial : Nat
  authorizedAtUnixSecs : Int
deriving DecidableEq

structure EmergencyChainSafeSkipProof where
  grantId : EmergencyChainGrantId
  chainHash : EmergencyChainHash
  requestScope : EmergencyChainRequestScope
  chainPosition : Nat
  target : EmergencyChainTargetIdentity
  permitSerial : Nat
  ledgerEntryId : String
  observedAtUnixSecs : Int
deriving DecidableEq

def EmergencyChainSafeSkipProof.matches (proof : EmergencyChainSafeSkipProof)
    (permit : EmergencyChainAttemptPermit) : Bool :=
  !proof.ledgerEntryId.isEmpty && proof.grantId == permit.grantId &&
    proof.chainHash == permit.chainHash && proof.requestScope == permit.requestScope &&
    proof.chainPosition == permit.chainPosition && proof.target == permit.target &&
    proof.permitSerial == permit.permitSerial

inductive EmergencyChainGateRequest where
  | normalRouting
  | emergency (trustedContext : TrustedEmergencyChainContext)
      (requestedTarget : EmergencyChainTargetIdentity)

inductive EmergencyChainGateDecision where
  | normalRouting
  | emergencyTargetAuthorized (permit : EmergencyChainAttemptPermit)
deriving DecidableEq

section

variable (grant : EmergencyChainGrant)

/-- `validate_trusted_context`. The operations are sorted, so `binary_search`
finds exactly the members. -/
def validateTrustedContext (context : TrustedEmergencyChainContext) :
    Except EmergencyChainGateError Unit :=
  if grant.id ≠ context.activation.grantId then .error .unknownGrant
  else if grant.principal ≠ context.principal then .error .principalDenied
  else if context.operation ∉ grant.operations then .error .operationDenied
  else if grant.requestScope ≠ context.liveRequest then .error .requestScopeDenied
  else if context.gateAt < grant.issuedAtUnixSecs then .error .notYetValid
  else if grant.expiresAtUnixSecs ≤ context.gateAt then .error .expired
  else if grant.revokedAtUnixSecs.any fun revokedAt => revokedAt ≤ context.gateAt then
    .error .revoked
  else if grant.chainHash ≠ context.activation.chainHash then .error .chainHashMismatch
  else .ok ()

def EmergencyChainGrant.revoke (revokedAtUnixSecs : Int) :
    EmergencyChainGrant × Except EmergencyChainRevokeError EmergencyChainRevokeOutcome :=
  if revokedAtUnixSecs < grant.issuedAtUnixSecs then (grant, .error .beforeIssue)
  else match grant.revokedAtUnixSecs with
    | none => ({ grant with revokedAtUnixSecs := some revokedAtUnixSecs }, .ok .revoked)
    | some existing =>
      if revokedAtUnixSecs < existing then
        ({ grant with revokedAtUnixSecs := some revokedAtUnixSecs }, .ok .effectiveTimeTightened)
      else (grant, .ok .alreadyRevoked)

def EmergencyChainGrant.outstandingPermitIdentity (permit : EmergencyChainAttemptPermit) :
    Except EmergencyChainPermitError (Nat × Nat) :=
  match grant.sessionState with
  | .outstanding position permitSerial =>
    if permit.grantId ≠ grant.id ∨ permit.chainHash ≠ grant.chainHash ∨
        permit.requestScope ≠ grant.requestScope ∨ permit.chainPosition ≠ position ∨
        permit.permitSerial ≠ permitSerial ∨ grant.targets[position]? ≠ some permit.target then
      .error .permitMismatch
    else .ok (position, permitSerial)
  | _ => .error .noOutstandingPermit

def EmergencyChainGrant.advanceAfterRetryable (position : Nat) :
    EmergencyChainGrant × EmergencyChainSessionProgress :=
  let nextPosition := position + 1
  if grant.targets.length ≤ nextPosition then
    ({ grant with sessionState := .exhausted }, .exhausted)
  else
    ({ grant with sessionState := .ready nextPosition }, .readyForNextTarget nextPosition)

def EmergencyChainGrant.applyAuthoritativeSafeSkip (permit : EmergencyChainAttemptPermit)
    (proof : EmergencyChainSafeSkipProof) (context : TrustedEmergencyChainContext) :
    EmergencyChainGrant × Except EmergencyChainSafeSkipError EmergencyChainSessionProgress :=
  match validateTrustedContext grant context with
  | .error error => (grant, .error (.gate error))
  | .ok () =>
    match grant.outstandingPermitIdentity permit with
    | .error error => (grant, .error (.permit error))
    | .ok (position, _) =>
      if !proof.matches permit || proof.observedAtUnixSecs < permit.authorizedAtUnixSecs ||
          context.gateAt < proof.observedAtUnixSecs then
        (grant, .error .proofMismatch)
      else
        let (grant, progress) := grant.advanceAfterRetryable position
        (grant, .ok progress)

end

/-- `evaluate_emergency_chain_gate`. The outer `none` is the panic of the indexed
access to the chain; the grant that comes back is the one behind `&mut`. -/
def evaluateEmergencyChainGate (request : EmergencyChainGateRequest)
    (loadedGrant : Option EmergencyChainGrant) :
    Option (Option EmergencyChainGrant ×
      Except EmergencyChainGateError EmergencyChainGateDecision) :=
  match request with
  | .normalRouting => some (loadedGrant, .ok .normalRouting)
  | .emergency context requestedTarget =>
    match loadedGrant with
    | none => some (none, .error .unknownGrant)
    | some grant =>
      match validateTrustedContext grant context with
      | .error error => some (some grant, .error error)
      | .ok () =>
        match grant.sessionState with
        | .outstanding _ _ => some (some grant, .error .attemptAlreadyOutstanding)
        | .exhausted => some (some grant, .error .chainExhausted)
        | .ready nextPosition => do
            let expectedTarget ← grant.targets[nextPosition]?
            if requestedTarget ∉ grant.targets then
              return (some grant, .error .targetOutsideChain)
            if expectedTarget ≠ requestedTarget then
              return (some grant, .error .targetOutOfOrder)
            let permitSerial := grant.nextPermitSerial
            match checkedAdd grant.nextPermitSerial 1 with
            | none => return (some grant, .error .permitSerialExhausted)
            | some nextPermitSerial =>
              let grant := { grant with
                nextPermitSerial := nextPermitSerial
                sessionState := .outstanding nextPosition permitSerial }
              return (some grant, .ok (.emergencyTargetAuthorized
                { grantId := grant.id
                  chainHash := grant.chainHash
                  requestScope := grant.requestScope
                  chainPosition := nextPosition
                  target := expectedTarget
                  permitSerial := permitSerial
                  authorizedAtUnixSecs := context.gateAt }))

/-! What one call can do, said once for each operation. -/

section

variable (grant : EmergencyChainGrant)
include grant

/-- Validity is `[issued_at, expires_at)`, cut at the revocation in effect. -/
def Live (time : Int) : Prop :=
  grant.issuedAtUnixSecs ≤ time ∧ time < grant.expiresAtUnixSecs ∧
    ∀ revokedAt, grant.revokedAtUnixSecs = some revokedAt → time < revokedAt

theorem validate_live (context : TrustedEmergencyChainContext)
    (valid : validateTrustedContext grant context = .ok ()) : Live grant context.gateAt := by
  unfold validateTrustedContext at valid
  split_ifs at valid with _ _ _ _ early late revoked _
  refine ⟨by omega, by omega, ?_⟩
  intro revokedAt found
  by_contra effective
  rw [found] at revoked
  exact revoked (by simpa using effective)

theorem revoke_spec (time : Int) : ((grant.revoke time).1 = grant) ∨
      (∃ outcome, (grant.revoke time).2 = .ok outcome) ∧
        (grant.revoke time).1 = { grant with revokedAtUnixSecs := some time } ∧
        ∀ existing, grant.revokedAtUnixSecs = some existing → time < existing := by
  unfold EmergencyChainGrant.revoke
  by_cases early : time < grant.issuedAtUnixSecs
  · exact .inl (by simp [early])
  · cases found : grant.revokedAtUnixSecs with
    | none => exact .inr ⟨⟨.revoked, by simp [early]⟩, by simp [early], by simp⟩
    | some existing =>
      by_cases tighter : time < existing
      · exact .inr ⟨⟨.effectiveTimeTightened, by simp [early, tighter]⟩,
          by simp [early, tighter], by simpa using tighter⟩
      · exact .inl (by simp [early, tighter])

theorem skip_spec (permit : EmergencyChainAttemptPermit) (proof : EmergencyChainSafeSkipProof)
    (context : TrustedEmergencyChainContext) :
    (∃ error, grant.applyAuthoritativeSafeSkip permit proof context = (grant, .error error)) ∨
      ∃ position serial, grant.sessionState = .outstanding position serial ∧
        grant.applyAuthoritativeSafeSkip permit proof context =
          ((grant.advanceAfterRetryable position).1,
            .ok (grant.advanceAfterRetryable position).2) := by
  unfold EmergencyChainGrant.applyAuthoritativeSafeSkip
  cases validateTrustedContext grant context with
  | error error => exact .inl ⟨.gate error, rfl⟩
  | ok valid =>
    cases identity : grant.outstandingPermitIdentity permit with
    | error error => exact .inl ⟨.permit error, rfl⟩
    | ok found =>
      rcases found with ⟨position, serial⟩
      simp only
      split
      · exact .inl ⟨.proofMismatch, rfl⟩
      · refine .inr ⟨position, serial, ?_, rfl⟩
        unfold EmergencyChainGrant.outstandingPermitIdentity at identity
        split at identity
        · rename_i state
          split at identity
          · contradiction
          · simp only [Except.ok.injEq, Prod.mk.injEq] at identity
            rw [state, identity.1, identity.2]
        · contradiction

/-- The permit that the gate hands out from a ready state. -/
def permitAt (position : Nat) (target : EmergencyChainTargetIdentity) (time : Int) :
    EmergencyChainAttemptPermit where
  grantId := grant.id
  chainHash := grant.chainHash
  requestScope := grant.requestScope
  chainPosition := position
  target := target
  permitSerial := grant.nextPermitSerial
  authorizedAtUnixSecs := time

def InRange : Prop :=
  ∀ position, grant.sessionState = .ready position → position < grant.targets.length

theorem gate_spec (inRange : InRange grant) (request : EmergencyChainGateRequest) :
    (∃ error, evaluateEmergencyChainGate request (some grant) = some (some grant, .error error)) ∨
    evaluateEmergencyChainGate request (some grant) = some (some grant, .ok .normalRouting) ∨
    ∃ context target position, request = .emergency context target ∧
      grant.sessionState = .ready position ∧ grant.targets[position]? = some target ∧
      Live grant context.gateAt ∧ evaluateEmergencyChainGate request (some grant) =
        some (some { grant with
            nextPermitSerial := grant.nextPermitSerial + 1
            sessionState := .outstanding position grant.nextPermitSerial },
          .ok (.emergencyTargetAuthorized (permitAt grant position target context.gateAt))) := by
  cases request with
  | normalRouting => exact .inr (.inl rfl)
  | emergency context target =>
    unfold evaluateEmergencyChainGate
    cases valid : validateTrustedContext grant context with
    | error error => exact .inl ⟨error, by simp [valid]⟩
    | ok accepted =>
      cases state : grant.sessionState with
      | outstanding position serial =>
        exact .inl ⟨.attemptAlreadyOutstanding, by simp [valid, state]⟩
      | exhausted => exact .inl ⟨.chainExhausted, by simp [valid, state]⟩
      | ready position =>
        have inside := inRange position state
        have found : grant.targets[position]? = some grant.targets[position] :=
          List.getElem?_eq_getElem inside
        generalize grant.targets[position] = expected at found
        by_cases member : target ∈ grant.targets
        · by_cases same : expected = target
          · subst same
            cases serial : checkedAdd grant.nextPermitSerial 1 with
            | none =>
              exact .inl ⟨.permitSerialExhausted, by
                simp [valid, state, found, member, serial]⟩
            | some next =>
              have nextEq := ((checkedAdd_eq_some _ _ _).mp serial).2
              subst nextEq
              exact .inr (.inr ⟨context, expected, position, rfl, rfl, found,
                validate_live grant context valid, by
                  simp [valid, state, found, member, serial, permitAt]⟩)
          · exact .inl ⟨.targetOutOfOrder, by simp [valid, state, found, member, same]⟩
        · exact .inl ⟨.targetOutsideChain, by simp [valid, state, found, member]⟩

theorem gate_error_unchanged (inRange : InRange grant) (request : EmergencyChainGateRequest)
    (after : Option EmergencyChainGrant) (error : EmergencyChainGateError)
    (denied : evaluateEmergencyChainGate request (some grant) = some (after, .error error)) :
    after = some grant := by
  rcases gate_spec grant inRange request with
    ⟨other, result⟩ | result | ⟨_, _, _, -, -, -, -, result⟩
  · rw [result] at denied
    exact (congrArg Prod.fst (Option.some.inj denied)).symm
  · simp [result] at denied
  · simp [result] at denied

theorem gate_permit_live (inRange : InRange grant) {context target after permit}
    (issued : evaluateEmergencyChainGate (.emergency context target) (some grant) =
      some (after, .ok (.emergencyTargetAuthorized permit))) : Live grant context.gateAt := by
  rcases gate_spec grant inRange (.emergency context target) with
    ⟨error, result⟩ | result | ⟨context', target', _, request, -, -, live, -⟩
  · simp [result] at issued
  · simp [result] at issued
  · cases request
    exact live

end

/-! Whole sessions. `permits` and `advances` are history: the permits handed out
so far, in order, and how many of them the ledger has moved past. -/

structure Session where
  grant : EmergencyChainGrant
  permits : List EmergencyChainAttemptPermit
  advances : Nat

def Session.start (grant : EmergencyChainGrant) : Session := ⟨grant, [], 0⟩

inductive Op where
  | gate (request : EmergencyChainGateRequest)
  | retryableAdvance
  | safeSkip (permit : EmergencyChainAttemptPermit) (proof : EmergencyChainSafeSkipProof)
      (context : TrustedEmergencyChainContext)
  | revoke (time : Int)

/-- One call; `none` is a panic. `advance_after_retryable` is private and takes
the position of the outstanding permit. -/
def Session.step (session : Session) : Op → Option Session
  | .gate request =>
    match evaluateEmergencyChainGate request (some session.grant) with
    | none => none
    | some (none, _) => some session
    | some (some grant, .ok (.emergencyTargetAuthorized permit)) =>
      some { session with grant := grant, permits := session.permits ++ [permit] }
    | some (some grant, _) => some { session with grant := grant }
  | .retryableAdvance =>
    match session.grant.sessionState with
    | .outstanding position _ =>
      some { session with
        grant := (session.grant.advanceAfterRetryable position).1
        advances := session.advances + 1 }
    | _ => some session
  | .safeSkip permit proof context =>
    match session.grant.applyAuthoritativeSafeSkip permit proof context with
    | (grant, .ok _) => some { session with grant := grant, advances := session.advances + 1 }
    | (grant, .error _) => some { session with grant := grant }
  | .revoke time => some { session with grant := (session.grant.revoke time).1 }

def Session.run (session : Session) : List Op → Option Session
  | [] => some session
  | op :: rest => (session.step op).bind fun next => next.run rest

/-- What the fields of a grant agree on: the permits handed out are the first
positions of the chain, and serials count them. -/
structure Tracked (origin : EmergencyChainGrant) (session : Session) : Prop where
  targets : session.grant.targets = origin.targets
  issued : session.grant.issuedAtUnixSecs = origin.issuedAtUnixSecs
  expires : session.grant.expiresAtUnixSecs = origin.expiresAtUnixSecs
  served : session.permits.map (·.target) = origin.targets.take session.permits.length
  positions : session.permits.map (·.chainPosition) = List.range session.permits.length
  serials : session.permits.map (·.permitSerial) = List.range session.permits.length
  nextSerial : session.grant.nextPermitSerial = session.permits.length
  state : match session.grant.sessionState with
    | .ready position => position = session.permits.length ∧
        position < origin.targets.length ∧ session.advances = position
    | .outstanding position serial => position + 1 = session.permits.length ∧
        serial = position ∧ position < origin.targets.length ∧ session.advances = position
    | .exhausted => session.permits.length = origin.targets.length ∧
        session.advances = session.permits.length

theorem issue_tracked {sha256 input grant}
    (issued : EmergencyChainGrant.issue sha256 input = .ok grant) :
    Tracked grant (Session.start grant) := by
  unfold EmergencyChainGrant.issue at issued
  dsimp only at issued
  split_ifs at issued with _ empty
  rw [← Except.ok.inj issued]
  refine ⟨rfl, rfl, rfl, rfl, rfl, rfl, rfl, rfl, ?_, rfl⟩
  cases targets : input.targets with
  | nil => simp [targets] at empty
  | cons first rest => simp

/-- A revocation that is in force stays in force, at the same time or earlier. -/
def NoLater (before after : EmergencyChainGrant) : Prop :=
  ∀ revokedAt, before.revokedAtUnixSecs = some revokedAt →
    ∃ earlier, earlier ≤ revokedAt ∧ after.revokedAtUnixSecs = some earlier

theorem noLater_of_eq {before after}
    (same : after.revokedAtUnixSecs = before.revokedAtUnixSecs) : NoLater before after :=
  fun revokedAt found => ⟨revokedAt, le_refl _, same.trans found⟩

theorem noLater_trans {first second third}
    (before : NoLater first second) (after : NoLater second third) : NoLater first third := by
  intro revokedAt found
  rcases before revokedAt found with ⟨middle, tighter, known⟩
  rcases after middle known with ⟨last, tightest, final⟩
  exact ⟨last, le_trans tightest tighter, final⟩

namespace Tracked

variable {origin : EmergencyChainGrant} {session : Session} (tracked : Tracked origin session)
include tracked

theorem inRange : InRange session.grant := by
  intro position ready
  have state := tracked.state
  rw [ready] at state
  rw [tracked.targets]
  exact state.2.1

theorem advance {position serial}
    (outstanding : session.grant.sessionState = .outstanding position serial) :
    Tracked origin { session with
        grant := (session.grant.advanceAfterRetryable position).1
        advances := session.advances + 1 } ∧
      NoLater session.grant (session.grant.advanceAfterRetryable position).1 := by
  have state := tracked.state
  rw [outstanding] at state
  rcases state with ⟨last, -, inside, count⟩
  have chain := congrArg List.length tracked.targets
  unfold EmergencyChainGrant.advanceAfterRetryable
  by_cases done : session.grant.targets.length ≤ position + 1
  · rw [if_pos done]
    have all : session.permits.length = origin.targets.length := by omega
    have moved : session.advances + 1 = session.permits.length := by omega
    exact ⟨{ tracked with state := ⟨all, moved⟩ }, noLater_of_eq rfl⟩
  · rw [if_neg done]
    have more : position + 1 < origin.targets.length := by omega
    have moved : session.advances + 1 = position + 1 := by omega
    exact ⟨{ tracked with state := ⟨last, more, moved⟩ }, noLater_of_eq rfl⟩

theorem permit {position target} (time : Int) (ready : session.grant.sessionState = .ready position)
    (found : session.grant.targets[position]? = some target) :
    Tracked origin { session with
      grant := { session.grant with
        nextPermitSerial := session.grant.nextPermitSerial + 1
        sessionState := .outstanding position session.grant.nextPermitSerial }
      permits := session.permits ++ [permitAt session.grant position target time] } := by
  have state := tracked.state
  rw [ready] at state
  rcases state with ⟨next, inside, count⟩
  subst next
  rw [tracked.targets] at found
  have longer : origin.targets.take (session.permits.length + 1) =
      origin.targets.take session.permits.length ++ [target] := by
    rw [take_add_one, found]
    rfl
  refine ⟨tracked.targets, tracked.issued, tracked.expires, ?_, ?_, ?_, ?_, ?_⟩
  · simp [longer, tracked.served, permitAt]
  · simp [tracked.positions, range_succ, permitAt]
  · simp [tracked.serials, tracked.nextSerial, range_succ, permitAt]
  · simp [tracked.nextSerial]
  · simp [tracked.nextSerial, inside, count]

theorem step (op : Op) : ∃ next, session.step op = some next ∧ Tracked origin next ∧
      NoLater session.grant next.grant := by
  cases op with
  | gate request =>
    rcases gate_spec session.grant tracked.inRange request with
      ⟨error, denied⟩ | normal | ⟨context, target, position, -, ready, found, -, issued⟩
    · exact ⟨session, by simp [Session.step, denied], tracked, noLater_of_eq rfl⟩
    · exact ⟨session, by simp [Session.step, normal], tracked, noLater_of_eq rfl⟩
    · exact ⟨_, by simp only [Session.step, issued],
        tracked.permit context.gateAt ready found, noLater_of_eq rfl⟩
  | retryableAdvance =>
    cases state : session.grant.sessionState with
    | ready | exhausted =>
      exact ⟨session, by simp [Session.step, state], tracked, noLater_of_eq rfl⟩
    | outstanding position serial =>
      exact ⟨_, by simp only [Session.step, state], tracked.advance state⟩
  | safeSkip permit proof context =>
    rcases skip_spec session.grant permit proof context with
      ⟨error, denied⟩ | ⟨position, serial, state, advanced⟩
    · exact ⟨session, by simp [Session.step, denied], tracked, noLater_of_eq rfl⟩
    · exact ⟨_, by simp only [Session.step, advanced], tracked.advance state⟩
  | revoke time =>
    refine ⟨_, rfl, ?_⟩
    rcases revoke_spec session.grant time with same | ⟨-, revoked, tighter⟩
    · rw [same]
      exact ⟨tracked, noLater_of_eq rfl⟩
    · rw [revoked]
      refine ⟨{ tracked with }, ?_⟩
      intro existing known
      exact ⟨time, le_of_lt (tighter existing known), rfl⟩

theorem run (ops : List Op) : ∃ last, session.run ops = some last ∧ Tracked origin last ∧
      NoLater session.grant last.grant := by
  induction ops generalizing session with
  | nil => exact ⟨session, rfl, tracked, noLater_of_eq rfl⟩
  | cons op rest ih =>
    rcases tracked.step op with ⟨next, stepped, kept, earlier⟩
    rcases ih kept with ⟨last, ran, final, latest⟩
    exact ⟨last, by simp [Session.run, stepped, ran], final, noLater_trans earlier latest⟩

theorem one_outstanding : session.permits.length ≤ session.advances + 1 := by
  have state := tracked.state
  cases found : session.grant.sessionState <;> rw [found] at state <;> dsimp only at state <;> omega

theorem position (position : Nat) (current : session.grant.sessionState = .ready position ∨
      ∃ serial, session.grant.sessionState = .outstanding position serial) :
    position < origin.targets.length := by
  have state := tracked.state
  rcases current with ready | ⟨serial, outstanding⟩
  · rw [ready] at state
    exact state.2.1
  · rw [outstanding] at state
    exact state.2.2.1

end Tracked

/-- SHA-256 at the encoding of the one-target chain below. -/
def sampleChainSha256 (message : Bytes) : Bytes :=
  if message = asBytes "aether-emergency-chain-v1\x00" ++ beBytes 8 1 ++
      beBytes 8 10 ++ asBytes "provider-a" ++ beBytes 8 10 ++ asBytes "endpoint-a" ++
      beBytes 8 5 ++ asBytes "key-a" then
    [0xce, 0x8e, 0x60, 0x45, 0x5b, 0x12, 0x5d, 0xeb, 0x82, 0x31, 0x64,
      0xbf, 0xc3, 0x8f, 0x05, 0x68, 0x14, 0xc3, 0x4c, 0xe2, 0x46, 0xac,
      0xf1, 0x9d, 0xab, 0x5b, 0x67, 0x07, 0xfc, 0x80, 0x5e, 0xd8]
  else []

def sampleTarget : EmergencyChainTargetIdentity :=
  ⟨⟨"provider-a", by decide⟩, ⟨"endpoint-a", by decide⟩, ⟨"key-a", by decide⟩⟩

def sampleScope : EmergencyChainRequestScope :=
  ⟨⟨"request-1", by decide⟩, ⟨String.ofList (List.replicate 64 'a')⟩, ⟨⟨"nonce-1", by decide⟩⟩⟩

def sampleInput : IssueEmergencyChainGrant where
  id := ⟨⟨"grant-1", by decide⟩⟩
  principal := ⟨⟨"operator", by decide⟩⟩
  operations := [⟨⟨"chat", by decide⟩, by decide⟩]
  requestScope := sampleScope
  targets := [sampleTarget]
  issuedAtUnixSecs := 1000000
  expiresAtUnixSecs := 1000600

def sampleGrant : EmergencyChainGrant where
  id := sampleInput.id
  principal := sampleInput.principal
  operations := sampleInput.operations
  requestScope := sampleScope
  targets := [sampleTarget]
  chainHash := ⟨"ce8e60455b125deb823164bfc38f056814c34ce246acf19dab5b6707fc805ed8"⟩
  issuedAtUnixSecs := 1000000
  expiresAtUnixSecs := 1000600
  revokedAtUnixSecs := none
  nextPermitSerial := 0
  sessionState := .ready 0

def sampleContext (gateAt : Int) : TrustedEmergencyChainContext :=
  ⟨⟨sampleGrant.id, sampleGrant.chainHash⟩, sampleGrant.principal,
    ⟨⟨"chat", by decide⟩, by decide⟩, sampleScope, gateAt⟩

end Aeris.Scheduler
