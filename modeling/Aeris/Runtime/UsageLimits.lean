import Aeris.Base.Lease
import Aeris.Base.OrderedTable
import Aeris.Settlement.Units

/-! Sliding usage limits of the in-memory runtime. Times are milliseconds of 64
bits; the counts of windows and events are counts of entries in memory, so their
saturating sums are plain sums. A hash map is a table, since nothing here depends
on the order of its entries. -/
namespace Aeris.Runtime

open RustStd Settlement

structure UsageLimitRule where
  key : String
  limit : Nat
  windowSeconds : Nat
  retentionSeconds : Nat
  deriving DecidableEq, Repr

structure UsageLimitInput where
  rules : List UsageLimitRule
  eventId : String
  nowUnixMs : Nat
  deriving DecidableEq, Repr

structure UsageLimitReleaseInput where
  rules : List UsageLimitRule
  eventId : String
  deriving DecidableEq, Repr

inductive UsageLimitCheck where
  | allowed
  | rejected (ruleIndex limit retryAfter : Nat)
  deriving DecidableEq, Repr

/-! ## Validation -/

def maxRedisLuaExactInteger : Nat := 2 ^ 53 - 1

/-- What stands between the first opening brace and the first closing brace after it. -/
def redisHashTag (key : String) : Option String :=
  match key.toList.dropWhile (fun c => c ≠ '\x7b') with
  | [] => none
  | _ :: remainder =>
    let tag := remainder.takeWhile (fun c => c ≠ '\x7d')
    if '\x7d' ∈ remainder ∧ tag ≠ [] then some (String.ofList tag) else none

/-- The checks that a key is new among its rules and has the hash tag of the others. -/
def validateRuleKey (index : Nat) (previous : List String) (expected : Option String)
    (key : String) : Result String :=
  if key ∈ previous then
    invalid ("usage limit rule " ++ toString index ++ " duplicates key " ++ key)
  else
    match redisHashTag key with
    | none => invalid
        ("usage limit rule " ++ toString index ++ " key must contain a non-empty Redis hash tag")
    | some tag =>
      if expected.any (fun expected => tag ≠ expected) then
        invalid "usage limit rule keys must use the same Redis hash tag"
      else .ok (expected.getD tag)

/-- A duration in seconds as milliseconds, in range at the time of the call. -/
def validateRuleNumbers (nowUnixMs index : Nat) (rule : UsageLimitRule) : Result Unit :=
  let name := "usage limit rule " ++ toString index
  if rule.limit = 0 then invalid (name ++ " must have a positive limit")
  else if rule.limit > maxRedisLuaExactInteger then
    invalid (name ++ " limit exceeds the exact Redis Lua integer range")
  else if rule.windowSeconds = 0 then
    invalid (name ++ " must have a positive window_seconds")
  else if rule.windowSeconds * 1000 > u64Max then
    invalid (name ++ " window_seconds is too large")
  else if rule.windowSeconds * 1000 > maxRedisLuaExactInteger then
    invalid (name ++ " window_seconds exceeds the exact Redis Lua integer range")
  else if rule.retentionSeconds = 0 then
    invalid (name ++ " must have a positive retention_seconds")
  else if rule.retentionSeconds * 1000 > u64Max then
    invalid (name ++ " retention_seconds is too large")
  else if rule.retentionSeconds * 1000 > maxRedisLuaExactInteger then
    invalid (name ++ " retention_seconds exceeds the exact Redis Lua integer range")
  else if nowUnixMs + rule.windowSeconds * 1000 > maxRedisLuaExactInteger then
    invalid (name ++ " window extends beyond the exact Redis Lua integer range")
  else if nowUnixMs + rule.retentionSeconds * 1000 > maxRedisLuaExactInteger then
    invalid (name ++ " retention extends beyond the exact Redis Lua integer range")
  else .ok ()

/-- A rule has a key before its numbers are looked at. -/
def validateRule (numbers : Nat → UsageLimitRule → Result Unit) (index : Nat)
    (rule : UsageLimitRule) : Result Unit :=
  if isBlank rule.key then
    invalid ("usage limit rule " ++ toString index ++ " key must not be empty")
  else numbers index rule

def validateRules (numbers : Nat → UsageLimitRule → Result Unit) :
    Nat → List String → Option String → List UsageLimitRule → Result Unit
  | _, _, _, [] => .ok ()
  | index, previous, expected, rule :: rest => do
      validateRule numbers index rule
      let tag ← validateRuleKey index previous expected rule.key
      validateRules numbers (index + 1) (previous ++ [rule.key]) (some tag) rest

def validateUsageLimitInput (input : UsageLimitInput) : Result Unit :=
  if isBlank input.eventId then invalid "usage limit event_id must not be empty"
  else if input.nowUnixMs > maxRedisLuaExactInteger then
    invalid "usage limit now_unix_ms exceeds the exact Redis Lua integer range"
  else validateRules (validateRuleNumbers input.nowUnixMs) 0 [] none input.rules

def validateUsageLimitReleaseInput (input : UsageLimitReleaseInput) : Result Unit :=
  if isBlank input.eventId then invalid "usage limit event_id must not be empty"
  else validateRules (fun _ _ => .ok ()) 0 [] none input.rules

/-! ## State -/

structure MemoryRuntimeStateConfig where
  maxUsageLimitWindows : Nat
  maxUsageLimitEvents : Nat
  deriving DecidableEq, Repr

structure MemoryUsageLimitWindow where
  windowMs : Nat
  expiresAtUnixMs : Nat
  events : OrderedTable String Nat
  deriving DecidableEq

structure MemoryUsageLimitState where
  windows : OrderedTable String MemoryUsageLimitWindow
  totalEvents : Nat
  operationsSincePrune : Nat
  nextExpiryUnixMs : Option Nat
  deriving DecidableEq

def memoryUsageLimitPruneInterval : Nat := 256

/-- Before a whole window has passed, the cutoff of `checked_sub` is missing. -/
def pruneUsageLimitEvents (events : OrderedTable String Nat) (nowUnixMs windowMs : Nat) :
    OrderedTable String Nat :=
  if windowMs ≤ nowUnixMs then
    events.retain (fun _ timestamp => timestamp > nowUnixMs - windowMs)
  else events

def updateEarliestExpiry (current : Option Nat) (candidate : Nat) : Option Nat :=
  some (current.elim candidate (fun existing => min existing candidate))

/-- The expiry of a window and of each of its events. -/
def updateWindowExpiry (current : Option Nat) (window : MemoryUsageLimitWindow) : Option Nat :=
  window.events.values.foldl
    (fun current timestamp => updateEarliestExpiry current
      (saturatingAdd timestamp window.windowMs))
    (updateEarliestExpiry current window.expiresAtUnixMs)

namespace MemoryUsageLimitState

def default : MemoryUsageLimitState where
  windows := .empty
  totalEvents := 0
  operationsSincePrune := 0
  nextExpiryUnixMs := none

/-! ## Pruning -/

def pruneWindow (nowUnixMs : Nat) (window : MemoryUsageLimitWindow) :
    Option MemoryUsageLimitWindow :=
  if window.expiresAtUnixMs ≤ nowUnixMs then none
  else
    let events := pruneUsageLimitEvents window.events nowUnixMs window.windowMs
    if events.size = 0 then none else some { window with events }

def pruneAll (nowUnixMs : Nat) (state : MemoryUsageLimitState) : MemoryUsageLimitState :=
  let windows := state.windows.filterMap (fun _ window => pruneWindow nowUnixMs window)
  { windows
    totalEvents := windows.values.foldl (fun total window => total + window.events.size) 0
    operationsSincePrune := 0
    nextExpiryUnixMs := windows.values.foldl updateWindowExpiry none }

def amortizedPrune (nowUnixMs : Nat) (state : MemoryUsageLimitState) : MemoryUsageLimitState :=
  let operations := saturatingAdd state.operationsSincePrune 1
  if operations < memoryUsageLimitPruneInterval then
    { state with operationsSincePrune := operations }
  else if state.nextExpiryUnixMs.any (fun expiresAt => expiresAt ≤ nowUnixMs) then
    pruneAll nowUnixMs { state with operationsSincePrune := 0 }
  else { state with operationsSincePrune := 0 }

def pruneRuleWindow (key : String) (nowUnixMs windowMs : Nat) (state : MemoryUsageLimitState) :
    MemoryUsageLimitState :=
  match state.windows.get? key with
  | none => state
  | some window =>
    if window.expiresAtUnixMs ≤ nowUnixMs then
      { state with
        windows := state.windows.erase key
        totalEvents := state.totalEvents - window.events.size }
    else
      let before := window.events.size
      let events := pruneUsageLimitEvents window.events nowUnixMs windowMs
      let window := { window with windowMs, events }
      { state with
        windows := if events.size = 0 then state.windows.erase key
          else state.windows.insert key window
        totalEvents := state.totalEvents - (before - events.size)
        nextExpiryUnixMs := updateWindowExpiry state.nextExpiryUnixMs window }

/-! ## Checking and consuming -/

/-- The windows and the events that an admission under one rule would add. -/
def additionFor (state : MemoryUsageLimitState) (eventId : String) (rule : UsageLimitRule) :
    Nat × Nat :=
  match state.windows.get? rule.key with
  | some window => if window.events.contains eventId then (0, 0) else (0, 1)
  | none => (1, 1)

def additionsFor (state : MemoryUsageLimitState) (input : UsageLimitInput) : Nat × Nat :=
  input.rules.foldl (fun additions rule =>
    (additions.1 + (state.additionFor input.eventId rule).1,
      additions.2 + (state.additionFor input.eventId rule).2)) (0, 0)

/-- The first rule that is used up, after its window was pruned. -/
def checkRules (eventId : String) (nowUnixMs : Nat) : Nat → List UsageLimitRule →
    MemoryUsageLimitState → Option UsageLimitCheck × MemoryUsageLimitState
  | _, [], state => (none, state)
  | index, rule :: rest, state =>
    let windowMs := saturatingMul rule.windowSeconds 1000
    let state := state.pruneRuleWindow rule.key nowUnixMs windowMs
    match state.windows.get? rule.key with
    | none => checkRules eventId nowUnixMs (index + 1) rest state
    | some window =>
      if window.events.contains eventId then
        checkRules eventId nowUnixMs (index + 1) rest state
      else if window.events.size ≥ rule.limit then
        let earliest := window.events.values.min?.getD nowUnixMs
        let retryAfterMs := saturatingAdd earliest windowMs - nowUnixMs
        (some (.rejected index rule.limit (saturatingAdd retryAfterMs 999 / 1000)), state)
      else checkRules eventId nowUnixMs (index + 1) rest state

def exceedsCapacity (config : MemoryRuntimeStateConfig) (additions : Nat × Nat)
    (state : MemoryUsageLimitState) : Bool :=
  state.windows.size + additions.1 > config.maxUsageLimitWindows ||
    state.totalEvents + additions.2 > config.maxUsageLimitEvents

def reclaimCapacity (config : MemoryRuntimeStateConfig) (input : UsageLimitInput)
    (state : MemoryUsageLimitState) : MemoryUsageLimitState :=
  if state.exceedsCapacity config (state.additionsFor input) ∧
      state.nextExpiryUnixMs.any (fun expiresAt => expiresAt ≤ input.nowUnixMs) then
    state.pruneAll input.nowUnixMs
  else state

/-- The events under a key; a key without a window has none. -/
def eventsOf (state : MemoryUsageLimitState) (key : String) : OrderedTable String Nat :=
  ((state.windows.get? key).map MemoryUsageLimitWindow.events).getD .empty

/-- The event is recorded under a rule, unless it is there, and the window renewed. -/
def consumeRule (eventId : String) (nowUnixMs : Nat) (state : MemoryUsageLimitState)
    (rule : UsageLimitRule) : MemoryUsageLimitState :=
  let windowMs := saturatingMul rule.windowSeconds 1000
  let expiresAtUnixMs := saturatingAdd nowUnixMs (saturatingMul rule.retentionSeconds 1000)
  let inserted := !(state.eventsOf rule.key).contains eventId
  let events := if inserted then (state.eventsOf rule.key).insert eventId nowUnixMs
    else state.eventsOf rule.key
  let nextExpiry := updateEarliestExpiry state.nextExpiryUnixMs expiresAtUnixMs
  { state with
    windows := state.windows.insert rule.key { windowMs, expiresAtUnixMs, events }
    totalEvents := if inserted then state.totalEvents + 1 else state.totalEvents
    nextExpiryUnixMs := if inserted then
      updateEarliestExpiry nextExpiry (saturatingAdd nowUnixMs windowMs) else nextExpiry }

def capacityMessage (config : MemoryRuntimeStateConfig) (state : MemoryUsageLimitState) : String :=
  "runtime memory usage-limit capacity exhausted (windows " ++ toString state.windows.size ++ "/" ++
    toString config.maxUsageLimitWindows ++ ", events " ++ toString state.totalEvents ++ "/" ++
    toString config.maxUsageLimitEvents ++ ")"

def checkAndConsumeUsageLimits (config : MemoryRuntimeStateConfig) (input : UsageLimitInput)
    (state : MemoryUsageLimitState) : Result UsageLimitCheck × MemoryUsageLimitState :=
  let state := state.amortizedPrune input.nowUnixMs
  match checkRules input.eventId input.nowUnixMs 0 input.rules state with
  | (some rejection, state) => (.ok rejection, state)
  | (none, state) =>
    let state := state.reclaimCapacity config input
    if state.exceedsCapacity config (state.additionsFor input) then
      (.error (.unexpectedValue (state.capacityMessage config)), state)
    else
      (.ok .allowed, input.rules.foldl (consumeRule input.eventId input.nowUnixMs) state)

/-! ## Releasing -/

def releaseRule (eventId : String) (state : MemoryUsageLimitState) (rule : UsageLimitRule) :
    MemoryUsageLimitState :=
  match state.windows.get? rule.key with
  | none => state
  | some window =>
    let events := window.events.erase eventId
    { state with
      windows := if events.size = 0 then state.windows.erase rule.key
        else state.windows.insert rule.key { window with events }
      totalEvents := if window.events.contains eventId then state.totalEvents - 1
        else state.totalEvents }

def releaseUsageLimits (input : UsageLimitReleaseInput) (state : MemoryUsageLimitState) :
    MemoryUsageLimitState :=
  let state := input.rules.foldl (releaseRule input.eventId) state
  { state with
    nextExpiryUnixMs := (state.windows.values.flatMap (fun window => window.expiresAtUnixMs ::
        window.events.values.map (fun timestamp => saturatingAdd timestamp window.windowMs))).min? }

end MemoryUsageLimitState

/-! ## Calls of the runtime -/

inductive UsageLimitCall where
  | checkAndConsume (input : UsageLimitInput)
  | release (input : UsageLimitReleaseInput)

open MemoryUsageLimitState

def runtimeCheckAndConsume (config : MemoryRuntimeStateConfig) (input : UsageLimitInput)
    (state : MemoryUsageLimitState) : Result UsageLimitCheck × MemoryUsageLimitState :=
  if input.rules.isEmpty then (.ok .allowed, state)
  else
    match validateUsageLimitInput input with
    | .error failure => (.error failure, state)
    | .ok _ => checkAndConsumeUsageLimits config input state

def runtimeRelease (input : UsageLimitReleaseInput) (state : MemoryUsageLimitState) :
    Result Unit × MemoryUsageLimitState :=
  if input.rules.isEmpty then (.ok (), state)
  else
    match validateUsageLimitReleaseInput input with
    | .error failure => (.error failure, state)
    | .ok _ => (.ok (), releaseUsageLimits input state)

end Aeris.Runtime
