import Aeris.Formats.ClaudeEmitter

/-! Token usage between the Claude and the OpenAI formats. Claude counts the cached part of
the input apart from the rest, OpenAI counts it in; the canonical usage says which of the two
it does. A count that is not there is zero. -/
namespace Aeris.Formats

open RustStd Json Option Nat

/-! ## Readers -/

/-- `Value::as_u64`. -/
def asU64 : Json → Option Nat
  | .number text =>
    let value := Nat.ofDigitChars 10 text.toList 0
    if text.toList.all Char.isDigit ∧ value ≤ u64Max then some value else none
  | _ => none

/-- `Value::from` of an unsigned number. -/
def ofU64 (value : Nat) : Json := .number (toString value)

def firstField : List String → Json → Option Json
  | [], _ => none
  | key :: keys, value => (value.get? key).or (firstField keys value)

def u64Field (keys : List String) (value : Json) : Option Nat := (firstField keys value).bind asU64

/-- The object of details under the first of the keys. Only an object has fields. -/
def details (keys : List String) (value : Json) : Json := (firstField keys value).getD .null

def openaiCacheCreationTokens (usage : Json) : Nat :=
  ((u64Field ["cache_creation_input_tokens"] usage).or
    (u64Field ["cache_write_tokens", "cached_creation_tokens", "cache_creation_tokens"]
      (details ["input_tokens_details", "prompt_tokens_details"] usage))).getD 0

def openaiCacheReadTokens (usage : Json) : Nat :=
  ((u64Field ["cache_read_input_tokens"] usage).or (u64Field ["cached_tokens"]
    (details ["input_tokens_details", "prompt_tokens_details"] usage))).getD 0

def canonicalUsageFromOpenaiUsage (value : Option Json) : Option CanonicalUsage := do
  let usage ← value.filter isObject
  let inputTokens := (u64Field ["input_tokens", "prompt_tokens"] usage).getD 0
  let outputTokens := (u64Field ["output_tokens", "completion_tokens"] usage).getD 0
  let cacheCreationTokens := openaiCacheCreationTokens usage
  let cacheReadTokens := openaiCacheReadTokens usage
  let reasoningTokens := ((u64Field ["reasoning_tokens"] usage).or (u64Field ["reasoning_tokens"]
    (details ["output_tokens_details", "completion_tokens_details"] usage))).getD 0
  let totalTokens := (u64Field ["total_tokens"] usage).getD
    (saturatingAdd (saturatingAdd inputTokens outputTokens) reasoningTokens)
  let inputTokens :=
    if inputTokens = 0 ∧ totalTokens > outputTokens then totalTokens - outputTokens
    else inputTokens
  return { CanonicalUsage.default with
    inputTokens, outputTokens, totalTokens, cacheCreationTokens, cacheReadTokens, reasoningTokens
    inputTokensIncludeCache := cacheReadTokens > 0 ∨ cacheCreationTokens > 0 }

def ephemeralTokens (key : String) (usage : Json) : Nat :=
  (u64Field [key] (details ["cache_creation"] usage)).getD 0

def claudeCacheCreationTokens (usage : Json) : Nat :=
  (u64Field ["cache_creation_input_tokens"] usage).getD
    (saturatingAdd (ephemeralTokens "ephemeral_5m_input_tokens" usage)
      (ephemeralTokens "ephemeral_1h_input_tokens" usage))

def claudeReasoningTokens (usage : Json) : Nat :=
  (((firstField ["thinking_tokens", "reasoning_tokens"]
    (details ["output_tokens_details"] usage)).or (usage.get? "reasoning_tokens")).bind
      asU64).getD 0

def canonicalUsageFromClaudeUsage (value : Option Json) : Option CanonicalUsage := do
  let usage ← value.filter isObject
  let inputTokens := (u64Field ["input_tokens"] usage).getD 0
  let outputTokens := (u64Field ["output_tokens"] usage).getD 0
  let reasoningTokens := claudeReasoningTokens usage
  return {
    inputTokens, outputTokens, reasoningTokens
    inputTokensIncludeCache := false
    totalTokens := saturatingAdd (saturatingAdd inputTokens outputTokens) reasoningTokens
    cacheCreationTokens := claudeCacheCreationTokens usage
    cacheCreationEphemeral5mTokens := ephemeralTokens "ephemeral_5m_input_tokens" usage
    cacheCreationEphemeral1hTokens := ephemeralTokens "ephemeral_1h_input_tokens" usage
    cacheReadTokens := (u64Field ["cache_read_input_tokens"] usage).getD 0 }

/-! ## Writers -/

def insertPresent (key : String) (value : Option Json) (fields : List (String × Json)) :
    List (String × Json) := value.elim fields fun value => insertField key value fields

/-- A count that is only written when there is something to count. -/
def positive (count : Nat) : Option Json := (if count > 0 then some count else none).map ofU64

def inclusiveInputTokensFromUsage (usage : CanonicalUsage) : Nat :=
  if usage.inputTokensIncludeCache then usage.inputTokens
  else saturatingAdd usage.inputTokens (cacheInputTokensForUsage usage)

def inclusiveTotalTokensFromUsage (usage : CanonicalUsage) (inputTokens : Nat) : Nat :=
  if usage.totalTokens > 0 ∧
      (usage.inputTokensIncludeCache ∨ cacheInputTokensForUsage usage = 0) then usage.totalTokens
  else saturatingAdd inputTokens usage.outputTokens

def insertOpenaiTokenDetails (detailsKey : String) (cacheCreationTokens cacheReadTokens : Nat)
    (output : List (String × Json)) : List (String × Json) :=
  let details := insertPresent "cached_tokens" (positive cacheReadTokens) []
  let details := insertPresent "cache_write_tokens" (positive cacheCreationTokens) details
  insertPresent detailsKey
    (if cacheCreationTokens = 0 ∧ cacheReadTokens = 0 then none else some (.object details)) output

/-- The two usage objects of OpenAI differ in the names of their fields. -/
def openaiUsage (input output : String) (usage : CanonicalUsage) : Json :=
  let inputTokens := inclusiveInputTokensFromUsage usage
  let fields := insertField input (ofU64 inputTokens) []
  let fields := insertField output (ofU64 usage.outputTokens) fields
  let fields := insertField "total_tokens"
    (ofU64 (inclusiveTotalTokensFromUsage usage inputTokens)) fields
  let fields := insertPresent (output ++ "_details")
    ((positive usage.reasoningTokens).map fun count => .object [("reasoning_tokens", count)]) fields
  .object (insertOpenaiTokenDetails (input ++ "_details") (cacheCreationTokensForUsage usage)
    usage.cacheReadTokens fields)

def openaiChatUsagePayload : CanonicalUsage → Json :=
  openaiUsage "prompt_tokens" "completion_tokens"

def openaiResponsesUsageFromUsage : CanonicalUsage → Json :=
  openaiUsage "input_tokens" "output_tokens"

inductive OpenaiFormat where
  | chat
  | responses

def OpenaiFormat.usage : OpenaiFormat → CanonicalUsage → Json
  | .chat => openaiChatUsagePayload
  | .responses => openaiResponsesUsageFromUsage

def ClaudeUsage.toJson (usage : ClaudeUsage) : Json :=
  let fields := insertField "input_tokens" (ofU64 usage.inputTokens) []
  let fields := insertField "output_tokens" (ofU64 usage.outputTokens) fields
  let fields :=
    insertPresent "cache_read_input_tokens" (usage.cacheReadInputTokens.map ofU64) fields
  let fields :=
    insertPresent "cache_creation_input_tokens" (usage.cacheCreationInputTokens.map ofU64) fields
  .object (insertPresent "cache_creation" (usage.cacheCreation.map fun split =>
    .object [("ephemeral_1h_input_tokens", ofU64 split.2),
      ("ephemeral_5m_input_tokens", ofU64 split.1)]) fields)

def openaiOfClaude (format : OpenaiFormat) (value : Json) : Option Json :=
  (canonicalUsageFromClaudeUsage (some value)).map format.usage

def claudeOfOpenai (value : Json) : Option Json :=
  (canonicalUsageFromOpenaiUsage (some value)).map fun usage => (claudeUsageFromUsage usage).toJson

/-! ## What a usage object says -/

/-- A split of the cache creation does not contradict a count that says there was none. -/
structure ClaudeCounts (value : Json) (input read creation output thinking : Nat) : Prop where
  object : value.isObject
  input : (u64Field ["input_tokens"] value).getD 0 = input
  read : (u64Field ["cache_read_input_tokens"] value).getD 0 = read
  created : claudeCacheCreationTokens value = creation
  split : creation = 0 → ephemeralTokens "ephemeral_5m_input_tokens" value = 0 ∧
    ephemeralTokens "ephemeral_1h_input_tokens" value = 0
  output : (u64Field ["output_tokens"] value).getD 0 = output
  thinking : claudeReasoningTokens value = thinking

structure OpenaiCounts (value : Json) (input output total cached written : Nat) : Prop where
  object : value.isObject
  input : (u64Field ["input_tokens", "prompt_tokens"] value).getD 0 = input
  output : (u64Field ["output_tokens", "completion_tokens"] value).getD 0 = output
  total : u64Field ["total_tokens"] value = some total
  cached : openaiCacheReadTokens value = cached
  written : openaiCacheCreationTokens value = written

theorem u64Field_le {keys value count} (found : u64Field keys value = some count) :
    count ≤ u64Max := by
  obtain ⟨field, -, read⟩ := bind_eq_some_iff.mp found
  cases field with
  | number text =>
    obtain ⟨⟨-, fits⟩, same⟩ := ite_none_right_eq_some.mp read
    exact some.inj same ▸ fits
  | _ => cases read

@[simp]
theorem get?_insertPresent (key other : String) (value : Option Json)
    (fields : List (String × Json)) : get? other (.object (insertPresent key value fields)) =
      if other = key then value.or (get? other (.object fields))
      else get? other (.object fields) := by
  cases value with
  | none => simp [insertPresent]
  | some value => simp [insertPresent, get?_insertField]

theorem asU64_ofU64 {count} (fits : count ≤ u64Max) : asU64 (ofU64 count) = some count := by
  have value : Nat.ofDigitChars 10 (toString count).toList 0 = count := by
    rw [toString_eq_repr, toList_repr, ofDigitChars_ten_toDigits]
  have digits : (toString count).toList.all Char.isDigit :=
    List.all_eq_true.mpr fun _ => isDigit_of_mem_toString
  simp only [asU64, ofU64, value, digits, fits, true_and, if_true]

theorem asU64_positive {count} (fits : count ≤ u64Max) :
    ((positive count).bind asU64).getD 0 = count := by
  rcases Nat.eq_zero_or_pos count with rfl | some_
  · rfl
  · simp [positive, some_, asU64_ofU64 fits]

/-- What a canonical usage says, whichever way it counts its input. -/
structure Canonical (usage : CanonicalUsage) (input : Nat) (inclusive : Bool)
    (read creation output total : Nat) : Prop where
  input : usage.inputTokens = input
  inclusive : usage.inputTokensIncludeCache = inclusive
  read : usage.cacheReadTokens = read
  created : cacheCreationTokensForUsage usage = creation
  output : usage.outputTokens = output
  total : usage.totalTokens = total

theorem get?_empty (key : String) : get? key (.object []) = none := rfl

theorem get?_null (key : String) : get? key .null = none := rfl

section

variable {value : Json} {usage : CanonicalUsage} {input read creation output thinking total : Nat}

theorem ClaudeCounts.canonical (counts : ClaudeCounts value input read creation output thinking) :
    ∃ usage, canonicalUsageFromClaudeUsage (some value) = some usage ∧ Canonical usage input false
      read creation output (saturatingAdd (saturatingAdd input output) thinking) := by
  refine ⟨_, by rw [canonicalUsageFromClaudeUsage, filter_some, if_pos counts.object]; rfl,
    counts.input, rfl, counts.read, ?_, counts.output, ?_⟩
  · simp only [cacheCreationTokensForUsage, counts.created]
    split_ifs with some_
    · rfl
    · obtain ⟨first, second⟩ := counts.split (by omega)
      rw [first, second]
      exact (Nat.eq_zero_of_not_pos some_).symm
  · simp only [counts.input, counts.output, counts.thinking]

theorem OpenaiCounts.canonical (counts : OpenaiCounts value input output total read creation) :
    ∃ usage, canonicalUsageFromOpenaiUsage (some value) = some usage ∧ Canonical usage
      (if input = 0 ∧ total > output then total - output else input) (0 < read + creation)
      read creation output total := by
  refine ⟨_, by rw [canonicalUsageFromOpenaiUsage, filter_some, if_pos counts.object]; rfl,
    ?_, ?_, counts.cached, ?_, counts.output, ?_⟩
  · simp only [counts.input, counts.output, counts.total, getD_some]
  · simp only [counts.cached, counts.written, gt_iff_lt, add_pos_iff_pos_or_pos]
  · simp only [cacheCreationTokensForUsage, counts.written]
    split_ifs with some_
    · rfl
    · exact (Nat.eq_zero_of_not_pos some_).symm
  · simp only [counts.total, getD_some]

theorem Canonical.openai (format : OpenaiFormat)
    (canonical : Canonical usage input false read creation output (input + output + thinking))
    (fits : input + (read + creation) + output + thinking ≤ u64Max) :
    OpenaiCounts (format.usage usage) (input + (read + creation)) output
      (input + (read + creation) + output + if read + creation = 0 then thinking else 0)
      read creation := by
  have cache : cacheInputTokensForUsage usage = read + creation := by
    rw [cacheInputTokensForUsage, canonical.read, canonical.created]
    exact min_eq_left (by omega)
  have inputs : inclusiveInputTokensFromUsage usage = input + (read + creation) := by
    simp only [inclusiveInputTokensFromUsage, canonical.inclusive, canonical.input, cache]
    exact min_eq_left (by omega)
  have totals : inclusiveTotalTokensFromUsage usage (input + (read + creation)) =
      input + (read + creation) + output + if read + creation = 0 then thinking else 0 := by
    simp only [inclusiveTotalTokensFromUsage, canonical.inclusive, canonical.total, cache,
      canonical.output, saturatingAdd, Bool.false_eq_true, false_or]
    split_ifs <;> omega
  cases format <;> refine ⟨rfl, ?_, ?_, ?_, ?_, ?_⟩ <;>
    simp (disch := omega) [OpenaiFormat.usage, openaiChatUsagePayload,
      openaiResponsesUsageFromUsage, openaiUsage, insertOpenaiTokenDetails, openaiCacheReadTokens,
      openaiCacheCreationTokens, details, u64Field, firstField, get?_insertField, get?_empty, inputs,
      totals, asU64_ofU64, canonical.read, canonical.created, canonical.output]
  all_goals
    split_ifs with none_
    · simp (disch := omega) [none_, get?_null, asU64_ofU64]
    · simp (disch := omega) [get?_empty, asU64_positive, asU64_ofU64]

theorem Canonical.claude (within : read + creation ≤ input) (fits : input + output ≤ u64Max)
    (canonical : Canonical usage input (0 < read + creation) read creation output total) :
    ClaudeCounts (claudeUsageFromUsage usage).toJson (input - (read + creation)) read creation
      output 0 := by
  have inputs : claudeInputTokensFromUsage usage = input - (read + creation) := by
    simp only [claudeInputTokensFromUsage, canonical.inclusive, canonical.input,
      cacheInputTokensForUsage, canonical.read, canonical.created, saturatingAdd, decide_eq_true_eq]
    split_ifs <;> omega
  obtain ⟨-, -, rfl, rfl, rfl, -⟩ := canonical
  have unsplit : cacheCreationTokensForUsage usage = 0 →
      usage.cacheCreationEphemeral5mTokens = 0 ∧ usage.cacheCreationEphemeral1hTokens = 0 := by
    unfold cacheCreationTokensForUsage saturatingAdd u64Max
    split_ifs <;> omega
  refine ⟨rfl, ?_, ?_, ?_, ?_, ?_, ?_⟩ <;>
    simp only [claudeUsageFromUsage, ClaudeUsage.toJson, claudeCacheCreationTokens, ephemeralTokens,
      claudeReasoningTokens, details, u64Field, firstField, get?_insertField, get?_insertPresent,
      String.reduceEq, if_false, if_true, get?_empty, or_none]
  · simp (disch := omega) [asU64_ofU64, inputs]
  · exact asU64_positive (by omega)
  · by_cases zero : cacheCreationTokensForUsage usage = 0
    · simp [zero, unsplit zero, get?_null, saturatingAdd]
    · simp (disch := omega) [pos_of_ne_zero zero, asU64_ofU64]
  · intro zero
    simp [unsplit zero, get?_null]
  · simp (disch := omega) [asU64_ofU64]
  · simp [get?_null]

theorem ClaudeCounts.toOpenai (format : OpenaiFormat)
    (counts : ClaudeCounts value input read creation output thinking)
    (fits : input + (read + creation) + output + thinking ≤ u64Max) :
    ∃ openai, openaiOfClaude format value = some openai ∧
      OpenaiCounts openai (input + (read + creation)) output
        (input + (read + creation) + output + if read + creation = 0 then thinking else 0)
        read creation := by
  obtain ⟨usage, found, canonical⟩ := counts.canonical
  have sums : saturatingAdd (saturatingAdd input output) thinking = input + output + thinking := by
    unfold saturatingAdd
    omega
  rw [sums] at canonical
  exact ⟨_, by rw [openaiOfClaude, found, map_some], canonical.openai format fits⟩

theorem OpenaiCounts.toClaude (within : read + creation ≤ input)
    (counts : OpenaiCounts value input output (input + output) read creation) :
    ∃ claude, claudeOfOpenai value = some claude ∧
      ClaudeCounts claude (input - (read + creation)) read creation output 0 := by
  obtain ⟨usage, found, canonical⟩ := counts.canonical
  rw [if_neg (by omega)] at canonical
  exact ⟨_, by rw [claudeOfOpenai, found, map_some],
    canonical.claude within (u64Field_le counts.total)⟩

end

/-- The OpenAI object in between counts everything, and the way back restores the counts. -/
def Survives (format : OpenaiFormat) (value : Json) (input read creation output : Nat) : Prop :=
  ∃ openai claude thinking, openaiOfClaude format value = some openai ∧
    OpenaiCounts openai (input + (read + creation)) output (input + (read + creation) + output)
      read creation ∧
    claudeOfOpenai openai = some claude ∧ ClaudeCounts claude input read creation output thinking

def thinkingUsage : Json := .object [("input_tokens", .number "10"), ("output_tokens", .number "20"),
  ("output_tokens_details", .object [("thinking_tokens", .number "5")])]

end Aeris.Formats
