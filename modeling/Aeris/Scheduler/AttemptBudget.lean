import Aeris.Base.OrderedTable

/-! The budget of the attempts of one request. Instants are nanoseconds, and the
counters are naturals: each of them stays below a limit of its own width. -/
namespace Aeris.Scheduler

open List Nat

inductive AttemptBudgetError where
  | attemptsExhausted
  | credentialAttemptsExhausted
  | providerSwitchesExhausted
  | deadlineExceeded
  deriving DecidableEq, Repr

structure AttemptBudget where
  startedAt : Nat
  deadline : Option Nat
  deadlineInitialized : Bool
  attempts : Nat
  credentialAttempts : OrderedTable String Nat
  providerSwitches : Nat
  lastProvider : Option String
  maxAttempts : Nat
  maxCredentialAttempts : Nat
  maxProviderSwitches : Nat

structure ReserveCall where
  providerId : String
  keyId : String
  requestTimeoutMs : Option Nat
  now : Nat
  deriving DecidableEq, Repr

namespace AttemptBudget

def defaultMaxAttempts : Nat := 32

def defaultMaxCredentialAttempts : Nat := 16

def defaultMaxProviderSwitches : Nat := 16

def nanosPerMilli : Nat := 1000000

def defaultRequestDeadline : Nat := 300000 * nanosPerMilli

def new (now : Nat) : AttemptBudget where
  startedAt := now
  deadline := none
  deadlineInitialized := false
  attempts := 0
  credentialAttempts := .empty
  providerSwitches := 0
  lastProvider := none
  maxAttempts := defaultMaxAttempts
  maxCredentialAttempts := defaultMaxCredentialAttempts
  maxProviderSwitches := defaultMaxProviderSwitches

section

variable (budget : AttemptBudget)

def withLimits (maxAttempts maxCredentialAttempts maxProviderSwitches : Nat) : AttemptBudget :=
  { budget with
    maxAttempts := max maxAttempts 1
    maxCredentialAttempts := max maxCredentialAttempts 1
    maxProviderSwitches := maxProviderSwitches }

def credentialAttemptsOf (keyId : String) : Nat :=
  (budget.credentialAttempts.get? keyId).getD 0

/-- The first call fixes the deadline, whether or not it is admitted. -/
def initializeDeadline (requestTimeoutMs : Option Nat) : AttemptBudget :=
  if budget.deadlineInitialized then budget
  else
    let timeout := ((requestTimeoutMs.filter (fun timeoutMs => timeoutMs > 0)).map
      (fun timeoutMs => timeoutMs * nanosPerMilli)).getD defaultRequestDeadline
    { budget with deadline := some (budget.startedAt + timeout), deadlineInitialized := true }

def switchesProvider (providerId : String) : Bool :=
  budget.lastProvider.any (fun provider => provider ≠ providerId)

def reserve (call : ReserveCall) : Except AttemptBudgetError Unit × AttemptBudget :=
  let budget := budget.initializeDeadline call.requestTimeoutMs
  if budget.deadline.any (fun deadline => call.now ≥ deadline) then
    (.error .deadlineExceeded, budget)
  else if budget.attempts ≥ budget.maxAttempts then
    (.error .attemptsExhausted, budget)
  else
    let credentialAttempts := budget.credentialAttemptsOf call.keyId
    if credentialAttempts ≥ budget.maxCredentialAttempts then
      (.error .credentialAttemptsExhausted, budget)
    else if budget.switchesProvider call.providerId ∧
        budget.providerSwitches ≥ budget.maxProviderSwitches then
      (.error .providerSwitchesExhausted, budget)
    else
      (.ok (), { budget with
        providerSwitches := if budget.switchesProvider call.providerId then
          budget.providerSwitches + 1 else budget.providerSwitches
        attempts := budget.attempts + 1
        credentialAttempts := budget.credentialAttempts.insert call.keyId (credentialAttempts + 1)
        lastProvider := some call.providerId })

/-- The time that is left; an error once it is over. -/
def remaining (now : Nat) : Except AttemptBudgetError (Option Nat) :=
  match budget.deadline with
  | none => .ok none
  | some deadline =>
    if now < deadline then .ok (some (deadline - now)) else .error .deadlineExceeded

def isAdmitted (call : ReserveCall) : Bool :=
  (budget.reserve call).1 matches .ok _

def run (calls : List ReserveCall) : AttemptBudget :=
  calls.foldl (fun budget call => (budget.reserve call).2) budget

end

def sends : AttemptBudget → List ReserveCall → List ReserveCall
  | _, [] => []
  | budget, call :: rest =>
    if budget.isAdmitted call then call :: (budget.reserve call).2.sends rest
    else (budget.reserve call).2.sends rest

/-- The adjacent pairs of different providers. -/
def providerChanges (providers : List String) : Nat :=
  (providers.zip providers.tail).countP (fun pair => pair.1 ≠ pair.2)

/-! ## One call -/

structure SameCounters (budget next : AttemptBudget) : Prop where
  attempts : next.attempts = budget.attempts
  credentials : next.credentialAttempts = budget.credentialAttempts
  switches : next.providerSwitches = budget.providerSwitches
  last : next.lastProvider = budget.lastProvider

structure SameLimits (budget next : AttemptBudget) : Prop where
  attempts : next.maxAttempts = budget.maxAttempts
  credentials : next.maxCredentialAttempts = budget.maxCredentialAttempts
  switches : next.maxProviderSwitches = budget.maxProviderSwitches

theorem initializeDeadline_same (budget : AttemptBudget) (requestTimeoutMs : Option Nat) :
    SameCounters budget (budget.initializeDeadline requestTimeoutMs) ∧
      SameLimits budget (budget.initializeDeadline requestTimeoutMs) := by
  unfold initializeDeadline
  split
  · exact ⟨⟨rfl, rfl, rfl, rfl⟩, ⟨rfl, rfl, rfl⟩⟩
  · exact ⟨⟨rfl, rfl, rfl, rfl⟩, ⟨rfl, rfl, rfl⟩⟩

/-- The two ends of a call: a refusal that only fixes the deadline, or an
admission with room under every limit. -/
inductive Reserved (budget : AttemptBudget) (call : ReserveCall) :
    Except AttemptBudgetError Unit × AttemptBudget → Prop where
  | refused (error : AttemptBudgetError) :
      Reserved budget call (.error error, budget.initializeDeadline call.requestTimeoutMs)
  | admitted (next : AttemptBudget)
      (deadline : next.deadline = (budget.initializeDeadline call.requestTimeoutMs).deadline)
      (initialized : next.deadlineInitialized =
        (budget.initializeDeadline call.requestTimeoutMs).deadlineInitialized)
      (early : ∀ deadline, next.deadline = some deadline → call.now < deadline)
      (limits : SameLimits budget next)
      (attempts : next.attempts = budget.attempts + 1)
      (room : budget.attempts < budget.maxAttempts)
      (credentials : next.credentialAttempts = budget.credentialAttempts.insert call.keyId
        (budget.credentialAttemptsOf call.keyId + 1))
      (credentialRoom : budget.credentialAttemptsOf call.keyId < budget.maxCredentialAttempts)
      (switches : next.providerSwitches =
        budget.providerSwitches + if budget.switchesProvider call.providerId then 1 else 0)
      (switchRoom : budget.switchesProvider call.providerId →
        budget.providerSwitches < budget.maxProviderSwitches)
      (last : next.lastProvider = some call.providerId) :
      Reserved budget call (.ok (), next)

theorem reserve_reserved (budget : AttemptBudget) (call : ReserveCall) :
    Reserved budget call (budget.reserve call) := by
  obtain ⟨counters, limits⟩ := budget.initializeDeadline_same call.requestTimeoutMs
  unfold reserve
  generalize opened : budget.initializeDeadline call.requestTimeoutMs = open_ at counters limits ⊢
  dsimp only
  have credentials : open_.credentialAttemptsOf call.keyId =
      budget.credentialAttemptsOf call.keyId := by
    rw [credentialAttemptsOf, counters.credentials, credentialAttemptsOf]
  have switches : open_.switchesProvider call.providerId =
      budget.switchesProvider call.providerId := by
    rw [switchesProvider, counters.last, switchesProvider]
  split
  · exact opened ▸ .refused _
  split
  · exact opened ▸ .refused _
  split
  · exact opened ▸ .refused _
  split
  · exact opened ▸ .refused _
  rename_i late full used switched
  rw [counters.attempts, limits.attempts] at full
  rw [credentials, limits.credentials] at used
  rw [switches, counters.switches, limits.switches] at switched
  apply Reserved.admitted
  · rw [opened]
  · rw [opened]
  · intro deadline found
    rw [found] at late
    simpa using late
  · exact ⟨limits.attempts, limits.credentials, limits.switches⟩
  · exact congrArg (· + 1) counters.attempts
  · exact Nat.lt_of_not_le full
  · rw [credentials, counters.credentials]
  · exact Nat.lt_of_not_le used
  · dsimp only
    rw [switches, counters.switches]
    split <;> rfl
  · intro changes
    exact Nat.lt_of_not_le (fun more => switched ⟨changes, more⟩)
  · rfl

theorem initializeDeadline_deadline (budget : AttemptBudget) (requestTimeoutMs : Option Nat)
    (ready : budget.deadlineInitialized = budget.deadline.isSome) :
    ((budget.initializeDeadline requestTimeoutMs).deadline.isSome ∧
      (budget.initializeDeadline requestTimeoutMs).deadlineInitialized) ∧
    ∀ deadline, budget.deadline = some deadline →
      (budget.initializeDeadline requestTimeoutMs).deadline = some deadline := by
  unfold initializeDeadline
  cases fixed : budget.deadlineInitialized with
  | true =>
    exact ⟨⟨ready.symm.trans fixed, fixed⟩, fun _ found => found⟩
  | false =>
    refine ⟨⟨rfl, rfl⟩, ?_⟩
    intro deadline found
    rw [fixed, found] at ready
    cases ready

/-! ## Counters and admitted calls -/

theorem providerChanges_append (providers : List String) (provider : String) :
    providerChanges (providers ++ [provider]) = providerChanges providers +
      if providers.getLast?.any (fun last => last ≠ provider) then 1 else 0 := by
  induction providers with
  | nil => rfl
  | cons first rest ih =>
    cases rest with
    | nil => simp [providerChanges, countP_cons]
    | cons second more =>
      have front : providerChanges ((first :: second :: more) ++ [provider]) =
          providerChanges ((second :: more) ++ [provider]) +
            if first ≠ second then 1 else 0 := by
        simp [providerChanges, countP_cons]
      have back : providerChanges (first :: second :: more) =
          providerChanges (second :: more) + if first ≠ second then 1 else 0 := by
        simp [providerChanges, countP_cons]
      rw [front, back, ih, List.getLast?_cons_cons]
      omega

/-- The counters are those of a history of admitted calls, and within the limits. -/
structure Counts (budget : AttemptBudget) (history : List ReserveCall) : Prop where
  attempts : budget.attempts = history.length
  credentials : ∀ keyId, budget.credentialAttemptsOf keyId =
    history.countP (fun call => call.keyId = keyId)
  switches : budget.providerSwitches = providerChanges (history.map ReserveCall.providerId)
  last : budget.lastProvider = (history.map ReserveCall.providerId).getLast?
  attemptsWithin : budget.attempts ≤ budget.maxAttempts
  credentialsWithin : ∀ keyId, budget.credentialAttemptsOf keyId ≤ budget.maxCredentialAttempts
  switchesWithin : budget.providerSwitches ≤ budget.maxProviderSwitches

theorem Counts.initialized {budget history}
    (counts : Counts budget history) (requestTimeoutMs : Option Nat) :
    Counts (budget.initializeDeadline requestTimeoutMs) history := by
  unfold initializeDeadline
  split
  · exact counts
  · exact { counts with }

theorem reserve_counts {budget history}
    (counts : Counts budget history) (call : ReserveCall) : Counts (budget.reserve call).2
      (history ++ if budget.isAdmitted call then [call] else []) := by
  have run := budget.reserve_reserved call
  unfold isAdmitted
  generalize budget.reserve call = result at run ⊢
  cases run with
  | refused error =>
    simpa using counts.initialized call.requestTimeoutMs
  | admitted next deadline initialized early limits attempts room credentials credentialRoom
      switches switchRoom last =>
      have credential : ∀ keyId, next.credentialAttemptsOf keyId =
          budget.credentialAttemptsOf keyId + if call.keyId = keyId then 1 else 0 := by
        intro keyId
        unfold credentialAttemptsOf at credentials ⊢
        rw [credentials, OrderedTable.get?_insert]
        by_cases same : keyId = call.keyId
        · subst same; simp
        · rw [if_neg same, if_neg (Ne.symm same), add_zero]
      simp only [if_true]
      constructor
      · simp [attempts, counts.attempts]
      · intro keyId
        rw [credential, counts.credentials, countP_append]
        simp [countP_cons]
      · have changes : budget.switchesProvider call.providerId =
            (history.map ReserveCall.providerId).getLast?.any
              (fun last => last ≠ call.providerId) := by
          rw [switchesProvider, counts.last]
        rw [switches, counts.switches, changes, map_append, map_singleton, providerChanges_append]
      · simp [last]
      · rw [attempts, limits.attempts]
        exact room
      · intro keyId
        rw [credential, limits.credentials]
        by_cases same : call.keyId = keyId
        · subst same
          rw [if_pos rfl]
          exact credentialRoom
        · rw [if_neg same]
          exact counts.credentialsWithin keyId
      · rw [switches, limits.switches]
        by_cases changes : budget.switchesProvider call.providerId
        · rw [if_pos changes]
          exact switchRoom changes
        · rw [if_neg changes]
          exact counts.switchesWithin

theorem sends_cons (budget : AttemptBudget) (call : ReserveCall) (rest : List ReserveCall) :
    budget.sends (call :: rest) =
      (if budget.isAdmitted call then [call] else []) ++ (budget.reserve call).2.sends rest := by
  rw [sends]
  split <;> rfl

theorem run_counts (calls : List ReserveCall) : ∀ (budget : AttemptBudget)
    (history : List ReserveCall), Counts budget history →
      Counts (budget.run calls) (history ++ budget.sends calls) := by
  induction calls with
  | nil =>
    intro budget history counts
    rwa [sends, append_nil]
  | cons call rest ih =>
    intro budget history counts
    have later := ih _ _ (reserve_counts counts call)
    rwa [sends_cons, ← append_assoc]

theorem run_limits (calls : List ReserveCall) : ∀ budget : AttemptBudget,
    SameLimits budget (budget.run calls) := by
  induction calls with
  | nil => intro budget; exact ⟨rfl, rfl, rfl⟩
  | cons call rest ih =>
    intro budget
    have one : SameLimits budget (budget.reserve call).2 := by
      have run := budget.reserve_reserved call
      generalize budget.reserve call = result at run ⊢
      cases run with
      | refused error => exact (budget.initializeDeadline_same call.requestTimeoutMs).2
      | admitted next deadline initialized early limits => exact limits
    have later := ih (budget.reserve call).2
    exact ⟨later.attempts.trans one.attempts, later.credentials.trans one.credentials,
      later.switches.trans one.switches⟩

/-! ## The deadline -/

theorem reserve_deadline (budget : AttemptBudget) (call : ReserveCall)
    (ready : budget.deadlineInitialized = budget.deadline.isSome) :
    (budget.reserve call).2.deadlineInitialized = (budget.reserve call).2.deadline.isSome ∧
      (budget.reserve call).2.deadline.isSome ∧ ∀ deadline, budget.deadline = some deadline →
        (budget.reserve call).2.deadline = some deadline := by
  obtain ⟨⟨present, fixed⟩, kept⟩ :=
    budget.initializeDeadline_deadline call.requestTimeoutMs ready
  have run := budget.reserve_reserved call
  generalize budget.reserve call = result at run ⊢
  cases run with
  | refused error => exact ⟨fixed.trans present.symm, present, kept⟩
  | admitted next deadline initialized =>
    rw [deadline, initialized]
    exact ⟨fixed.trans present.symm, present, kept⟩

theorem run_deadline (calls : List ReserveCall) : ∀ budget : AttemptBudget,
    budget.deadlineInitialized = budget.deadline.isSome →
      (budget.run calls).deadlineInitialized = (budget.run calls).deadline.isSome ∧
        ∀ deadline, budget.deadline = some deadline →
          (budget.run calls).deadline = some deadline := by
  induction calls with
  | nil => intro budget ready; exact ⟨ready, fun _ found => found⟩
  | cons call rest ih =>
    intro budget ready
    obtain ⟨still, _, kept⟩ := budget.reserve_deadline call ready
    obtain ⟨final, onward⟩ := ih _ still
    exact ⟨final, fun deadline found => onward deadline (kept deadline found)⟩

theorem reserve_early (budget : AttemptBudget) (call : ReserveCall)
    (ready : budget.deadlineInitialized = budget.deadline.isSome)
    (admitted : budget.isAdmitted call) :
    ∃ deadline, (budget.reserve call).2.deadline = some deadline ∧ call.now < deadline ∧
      (budget.reserve call).2.remaining call.now = .ok (some (deadline - call.now)) := by
  obtain ⟨_, present, _⟩ := budget.reserve_deadline call ready
  obtain ⟨deadline, found⟩ := Option.isSome_iff_exists.mp present
  have early : call.now < deadline := by
    have run := budget.reserve_reserved call
    unfold isAdmitted at admitted
    generalize budget.reserve call = result at run admitted found
    cases run with
    | refused error => cases admitted
    | admitted next _ _ early => exact early deadline found
  refine ⟨deadline, found, early, ?_⟩
  rw [remaining, found]
  exact if_pos early

theorem reserve_refused (budget : AttemptBudget) (call : ReserveCall)
    (refused : budget.isAdmitted call = false) : SameCounters budget (budget.reserve call).2 := by
  have run := budget.reserve_reserved call
  unfold isAdmitted at refused
  generalize budget.reserve call = result at run refused ⊢
  cases run with
  | refused error => exact (budget.initializeDeadline_same call.requestTimeoutMs).1
  | admitted => cases refused

/-- Whatever is asked for in whatever order: the three counters are those of the
admitted calls and within their limits, a call is admitted only before the
deadline, which no later call moves, and a refused call changes no counter. -/
theorem budget_counts_sends (startedAt maxAttempts maxCredentialAttempts maxProviderSwitches : Nat)
    (calls : List ReserveCall) :
    let start := (new startedAt).withLimits maxAttempts maxCredentialAttempts maxProviderSwitches
    let budget := start.run calls
    let sent := start.sends calls
    (budget.attempts = sent.length ∧
      (∀ keyId, budget.credentialAttemptsOf keyId = sent.countP (fun call => call.keyId = keyId)) ∧
      budget.providerSwitches = providerChanges (sent.map ReserveCall.providerId) ∧
      budget.lastProvider = (sent.map ReserveCall.providerId).getLast?) ∧
    (budget.attempts ≤ max maxAttempts 1 ∧
      (∀ keyId, budget.credentialAttemptsOf keyId ≤ max maxCredentialAttempts 1) ∧
      budget.providerSwitches ≤ maxProviderSwitches) ∧
    (∀ call, budget.isAdmitted call →
      ∃ deadline, (budget.reserve call).2.deadline = some deadline ∧ call.now < deadline ∧
        (budget.reserve call).2.remaining call.now = .ok (some (deadline - call.now))) ∧
    (∀ call, (budget.reserve call).2.deadline.isSome) ∧
    (∀ deadline, budget.deadline = some deadline →
      ∀ more, (budget.run more).deadline = some deadline) ∧
    (∀ call, budget.isAdmitted call = false → SameCounters budget (budget.reserve call).2) := by
  intro start budget sent
  have begun : Counts start [] :=
    ⟨rfl, fun _ => rfl, rfl, rfl, zero_le _, fun _ => zero_le _, zero_le _⟩
  have counts : Counts budget sent := run_counts calls start [] begun
  have limits : SameLimits start budget := run_limits calls start
  have ready := (run_deadline calls start rfl).1
  refine ⟨⟨counts.attempts, counts.credentials, counts.switches, counts.last⟩, ⟨?_, ?_, ?_⟩,
    ?_, ?_, ?_, ?_⟩
  · exact counts.attemptsWithin.trans_eq limits.attempts
  · intro keyId
    exact (counts.credentialsWithin keyId).trans_eq limits.credentials
  · exact counts.switchesWithin.trans_eq limits.switches
  · intro call admitted
    exact budget.reserve_early call ready admitted
  · intro call
    exact (budget.reserve_deadline call ready).2.1
  · intro deadline found more
    exact (run_deadline more budget ready).2 deadline found
  · intro call refused
    exact budget.reserve_refused call refused

/-- A refused switch between two sends of one provider. -/
def sampleCalls : List ReserveCall :=
  [⟨"first", "key", some 1000, 0⟩, ⟨"second", "key", none, 1⟩, ⟨"third", "other", none, 2⟩,
    ⟨"second", "other", none, 3⟩]

theorem budget_counts_sends_sample :
    (((new 0).withLimits 4 2 1).sends sampleCalls).map ReserveCall.providerId =
      ["first", "second", "second"] ∧
    (((new 0).withLimits 4 2 1).run sampleCalls).providerSwitches = 1 ∧
    (((new 0).withLimits 4 2 1).run sampleCalls).attempts =
      (((new 0).withLimits 4 2 1).sends sampleCalls).length :=
  ⟨by decide +kernel, by decide +kernel, (budget_counts_sends 0 4 2 1 sampleCalls).1.1⟩

end AttemptBudget

end Aeris.Scheduler
