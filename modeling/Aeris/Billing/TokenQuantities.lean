import Aeris.Base.Checked
import Aeris.Base.RustStd

/-! From the token counts of one usage to what is billed: the input that is left once the
cached part is taken out, the whole input of the cache hit rate, and the quantities that a
supplier's prices apply to. The counts are `i64`, so they may be negative. -/
namespace Aeris.Billing

open Checked Option
open RustStd (trim)

abbrev I64 := { value : Int // -2 ^ 63 ≤ value ∧ value < 2 ^ 63 }

/-- An `i64` result, or `none` where it overflows: the plain and the checked operations. -/
def fits (value : Int) : Option Int :=
  if -2 ^ 63 ≤ value ∧ value < 2 ^ 63 then some value else none

/-- The saturating operations of `i64`. -/
def saturated (value : Int) : Int := max (-2 ^ 63) (min value (2 ^ 63 - 1))

inductive ApiFamily where
  | openAi
  | claude
  | gemini
  | unknown
  deriving DecidableEq, Repr

def parseApiFamily : Option String → ApiFamily
  | none => .unknown
  | some apiFormat =>
    let first := trim (String.ofList (apiFormat.toList.takeWhile (· ≠ ':')))
    match String.ofList (first.toList.map Char.toLower) with
    | "openai" => .openAi
    | "claude" | "anthropic" => .claude
    | "gemini" | "google" => .gemini
    | _ => .unknown

/-- `none` is the overflow of the plain subtraction. -/
def normalizeInputTokensForBilling (apiFormat : Option String)
    (inputTokens cacheCreationTokens cacheReadTokens : Int) : Option Int :=
  if inputTokens ≤ 0 then some (max inputTokens 0)
  else if cacheCreationTokens ≤ 0 ∧ cacheReadTokens ≤ 0 then some inputTokens
  else
    match parseApiFamily apiFormat with
    | .claude => some inputTokens
    | .openAi =>
      some (max (saturated (saturated (inputTokens - max cacheCreationTokens 0) -
        max cacheReadTokens 0)) 0)
    | .gemini => (fits (inputTokens - cacheReadTokens)).map (max · 0)
    | .unknown => some inputTokens

/-- Why there are no quantities: the source returns `None`, or the arithmetic overflows. -/
inductive Unpriced where
  | unknown
  | overflow
  deriving DecidableEq, Repr

def normalizeInputTokensForBillingWithKnownCacheSemantics (apiFormat : Option String)
    (inputTokens cacheCreationTokens cacheReadTokens : Int) : Except Unpriced Int :=
  match parseApiFamily apiFormat with
  | .unknown => .error .unknown
  | .openAi | .claude | .gemini =>
    expect (normalizeInputTokensForBilling apiFormat inputTokens cacheCreationTokens
      cacheReadTokens) .overflow

def normalizeTotalInputContextForCacheHitRate (apiFormat : Option String)
    (inputTokens cacheCreationTokens cacheReadTokens : Int) : Option Int :=
  let input := max inputTokens 0
  let cacheCreation := max cacheCreationTokens 0
  let cacheRead := max cacheReadTokens 0
  let fresh :=
    match parseApiFamily apiFormat with
    | .claude => some (saturated (input + cacheCreation))
    | .openAi =>
      (normalizeInputTokensForBilling apiFormat input cacheCreation cacheRead).map
        fun tokens => saturated (tokens + cacheCreation)
    | .gemini => normalizeInputTokensForBilling apiFormat input 0 cacheRead
    | .unknown => some (if 0 < cacheCreation then saturated (input + cacheCreation) else input)
  fresh.map fun tokens => saturated (tokens + cacheRead)

inductive ProviderCostInputPriceMode where
  | exclusiveOfCache
  | inclusiveOfCache
  deriving DecidableEq, Repr

structure StandardizedUsage where
  inputTokens : I64
  outputTokens : I64
  cacheCreationTokens : I64
  cacheCreationEphemeral5mTokens : I64
  cacheCreationEphemeral1hTokens : I64
  cacheReadTokens : I64

structure ProviderCostTokenQuantities where
  input : Nat
  output : Nat
  cacheWrite : Nat
  cacheRead : Nat
  deriving DecidableEq, Repr

/-- `u64::try_from` on an `i64`. -/
def tryU64 (value : Int) : Except Unpriced Nat := do
  require (0 ≤ value) .unknown
  return value.toNat

def normalizedInputTokens (apiFormat : Option String) (inputTokens cacheWrite cacheRead : Int) :
    Except Unpriced Int :=
  if 0 < cacheWrite ∨ 0 < cacheRead then
    normalizeInputTokensForBillingWithKnownCacheSemantics apiFormat inputTokens cacheWrite cacheRead
  else expect (normalizeInputTokensForBilling apiFormat inputTokens 0 0) .overflow

def providerCostTokenQuantitiesFromStandardizedUsage (apiFormat : Option String)
    (usage : StandardizedUsage) (inputPriceMode : ProviderCostInputPriceMode) :
    Except Unpriced ProviderCostTokenQuantities := do
  require (∀ tokens ∈ [usage.inputTokens, usage.outputTokens, usage.cacheCreationTokens,
    usage.cacheCreationEphemeral5mTokens, usage.cacheCreationEphemeral1hTokens,
    usage.cacheReadTokens], 0 ≤ tokens.val) .unknown
  let classified ← expect (fits (usage.cacheCreationEphemeral5mTokens +
    usage.cacheCreationEphemeral1hTokens)) .unknown
  let aggregate : Int := usage.cacheCreationTokens
  require (aggregate = 0 ∨ classified ≤ aggregate) .unknown
  let cacheWrite := if aggregate = 0 then classified else aggregate
  require (¬ (inputPriceMode = .inclusiveOfCache ∧
    (0 < cacheWrite ∨ 0 < usage.cacheReadTokens.val))) .unknown
  let input ← normalizedInputTokens apiFormat usage.inputTokens cacheWrite usage.cacheReadTokens
  return {
    input := ← tryU64 input
    output := ← tryU64 usage.outputTokens
    cacheWrite := ← tryU64 cacheWrite
    cacheRead := ← tryU64 usage.cacheReadTokens }

section Normalized

variable {apiFormat : Option String} {input cacheCreation cacheRead : Int}

theorem normalized_within_iff (wide : input < 2 ^ 63) (cached : cacheRead < 2 ^ 63) :
    (∃ billed, normalizeInputTokensForBilling apiFormat input cacheCreation cacheRead =
      some billed ∧ 0 ≤ billed ∧ billed ≤ max input 0) ↔
      ¬ (parseApiFamily apiFormat = .gemini ∧ 0 < input ∧ 0 < cacheCreation ∧ cacheRead < 0) := by
  unfold normalizeInputTokensForBilling
  split_ifs with none uncached
  · simp only [some.injEq, exists_eq_left']
    omega
  · simp only [some.injEq, exists_eq_left']
    omega
  cases parseApiFamily apiFormat with
  | claude | unknown =>
    simp only [some.injEq, exists_eq_left', reduceCtorEq, false_and, not_false_eq_true, iff_true]
    omega
  | openAi =>
    simp only [some.injEq, exists_eq_left', reduceCtorEq, false_and, not_false_eq_true,
      iff_true, saturated]
    omega
  | gemini =>
    by_cases room : -2 ^ 63 ≤ input - cacheRead ∧ input - cacheRead < 2 ^ 63
    · simp only [fits, if_pos room, map_some, some.injEq, exists_eq_left', true_and]
      omega
    · simp only [fits, if_neg room, map_none, reduceCtorEq, false_and, exists_false,
        true_and, false_iff, not_not]
      omega

theorem normalized_openAi (family : parseApiFamily apiFormat = .openAi)
    (wide : 0 ≤ input ∧ input < 2 ^ 63) (created : 0 ≤ cacheCreation ∧ cacheCreation < 2 ^ 63)
    (cached : 0 ≤ cacheRead) :
    normalizeInputTokensForBilling apiFormat input cacheCreation cacheRead =
      some (max (input - cacheCreation - cacheRead) 0) := by
  unfold normalizeInputTokensForBilling saturated
  simp only [family]
  split_ifs <;> simp only [some.injEq] <;> omega

theorem normalized_gemini (family : parseApiFamily apiFormat = .gemini)
    (wide : 0 ≤ input ∧ input < 2 ^ 63) (cached : 0 ≤ cacheRead ∧ cacheRead < 2 ^ 63) :
    normalizeInputTokensForBilling apiFormat input cacheCreation cacheRead =
      some (max (input - cacheRead) 0) := by
  have room : -2 ^ 63 ≤ input - cacheRead ∧ input - cacheRead < 2 ^ 63 := by omega
  unfold normalizeInputTokensForBilling fits
  simp only [family, if_pos room, map_some]
  split_ifs <;> simp only [some.injEq] <;> omega

theorem normalizedInputTokens_ok {billed} (created : 0 ≤ cacheCreation) (cached : 0 ≤ cacheRead)
    (success : normalizedInputTokens apiFormat input cacheCreation cacheRead = .ok billed) :
    normalizeInputTokensForBilling apiFormat input cacheCreation cacheRead = some billed := by
  unfold normalizedInputTokens at success
  split_ifs at success with components
  · unfold normalizeInputTokensForBillingWithKnownCacheSemantics at success
    split at success
    · cases success
    all_goals exact expect_ok_iff.mp success
  · obtain rfl : cacheCreation = 0 := by omega
    obtain rfl : cacheRead = 0 := by omega
    exact expect_ok_iff.mp success

end Normalized

theorem tryU64_ok_iff {value count} : tryU64 value = .ok count ↔ (count : Int) = value := by
  simp only [tryU64, bind_ok_iff, require_ok_iff, exists_const, pure, Except.pure, Except.ok.injEq]
  omega

theorem fits_eq_some {value result} (fitting : fits value = some result) : result < 2 ^ 63 := by
  unfold fits at fitting
  split_ifs at fitting with wide
  cases fitting
  exact wide.2

theorem quantities_normalized {apiFormat usage mode quantities}
    (success : providerCostTokenQuantitiesFromStandardizedUsage apiFormat usage mode =
      .ok quantities) : 0 ≤ usage.inputTokens.val ∧ (quantities.cacheWrite : Int) < 2 ^ 63 ∧
      (quantities.cacheRead : Int) = usage.cacheReadTokens ∧
      normalizeInputTokensForBilling apiFormat usage.inputTokens quantities.cacheWrite
        quantities.cacheRead = some (quantities.input : Int) := by
  simp only [providerCostTokenQuantitiesFromStandardizedUsage, bind_ok_iff, require_ok_iff,
    expect_ok_iff, tryU64_ok_iff, exists_const, pure, Except.pure, Except.ok.injEq] at success
  obtain ⟨counts, classified, sum, -, -, billed, normal, input, rfl, output, -, write, written,
    read, cached, rfl⟩ := success
  rw [← written, ← cached] at normal
  refine ⟨counts _ (by simp), ?_, cached, normalizedInputTokens_ok (by omega) (by omega) normal⟩
  have small := fits_eq_some sum
  have aggregate := usage.cacheCreationTokens.2.2
  dsimp only
  split_ifs at written <;> omega

theorem billable_tokens_partition (apiFormat : Option String)
    (inputTokens cacheCreationTokens cacheReadTokens : I64) (usage : StandardizedUsage)
    (mode : ProviderCostInputPriceMode) :
    ((∃ billed, normalizeInputTokensForBilling apiFormat inputTokens cacheCreationTokens
        cacheReadTokens = some billed ∧ 0 ≤ billed ∧ billed ≤ max inputTokens.val 0) ↔
      ¬ (parseApiFamily apiFormat = .gemini ∧ 0 < inputTokens.val ∧
        0 < cacheCreationTokens.val ∧ cacheReadTokens.val < 0)) ∧
    (parseApiFamily apiFormat = .openAi → 0 ≤ cacheCreationTokens.val → 0 ≤ cacheReadTokens.val →
      cacheCreationTokens.val + cacheReadTokens.val ≤ inputTokens.val →
      ∃ fresh, normalizeInputTokensForBilling apiFormat inputTokens cacheCreationTokens
          cacheReadTokens = some fresh ∧
        fresh + cacheCreationTokens.val + cacheReadTokens.val = inputTokens.val ∧
        normalizeTotalInputContextForCacheHitRate apiFormat inputTokens cacheCreationTokens
          cacheReadTokens = some inputTokens.val) ∧
    ∀ quantities, providerCostTokenQuantitiesFromStandardizedUsage apiFormat usage mode =
      .ok quantities → (parseApiFamily apiFormat = .openAi →
        (quantities.input + quantities.cacheWrite + quantities.cacheRead : Int) =
          max usage.inputTokens.val (quantities.cacheWrite + quantities.cacheRead)) ∧
      (parseApiFamily apiFormat = .gemini → (quantities.input + quantities.cacheRead : Int) =
          max usage.inputTokens.val quantities.cacheRead) := by
  have wide := inputTokens.2
  have cached := cacheReadTokens.2
  refine ⟨normalized_within_iff wide.2 cached.2, ?_, ?_⟩
  · intro family creation read within
    refine ⟨_, normalized_openAi family (by omega) (by omega) read, by omega, ?_⟩
    unfold normalizeTotalInputContextForCacheHitRate
    simp only [family, max_eq_left creation, max_eq_left read,
      max_eq_left (creation.trans (by omega : _ ≤ inputTokens.val))]
    rw [normalized_openAi family (by omega) (by omega) read]
    simp only [map_some, some.injEq]
    unfold saturated
    omega
  · intro quantities success
    obtain ⟨above, small, read, normal⟩ := quantities_normalized success
    have limit := usage.cacheReadTokens.2
    have width := usage.inputTokens.2
    constructor
    · intro family
      rw [normalized_openAi family (by omega) (by omega) (by omega), some.injEq] at normal
      omega
    · intro family
      rw [normalized_gemini family (by omega) (by omega), some.injEq] at normal
      omega

theorem negative_cache_read_raises_input :
    normalizeInputTokensForBilling (some "gemini:generate_content") 10 1 (-5) = some 15 ∧
      ¬ (15 : Int) ≤ max 10 0 ∧
      normalizeInputTokensForBilling (some "gemini:generate_content") 10 1 (-2 ^ 63) = none := by
  decide +kernel

end Aeris.Billing
