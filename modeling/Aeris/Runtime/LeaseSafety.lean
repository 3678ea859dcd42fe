import Aeris.Runtime.Leases

/-! Locks and semaphores over any sequence of calls. What the callers were told is
kept in two ledgers beside the state: an acquisition or a renewal that succeeded
is a lease until its end, a release ends it. The tables and the ledgers agree on
every lease that has not ended. -/
namespace Aeris.Runtime

open RustStd Lease LeaseState List Option OrderedTable Nat
open Function (update update_of_ne update_self)

structure Clock where
  instant : Nat
  unixMs : Nat
  deriving DecidableEq, Repr

def Clock.NotAfter (first second : Clock) : Prop :=
  first.instant ≤ second.instant ∧ first.unixMs ≤ second.unixMs

inductive LeaseCall where
  | lockTryAcquire (key owner token : String) (ttl : Nat)
  | lockRelease (key token : String)
  | lockRenew (key token : String) (ttl : Nat)
  | semaphoreTryAcquire (key token : String) (limit ttlMs : Nat)
  | semaphoreRenew (key token : String) (ttlMs : Nat)
  | semaphoreRelease (key token : String)
  | semaphoreLiveCount (key : String)

/-- The limit of a semaphore belongs to its key. -/
def LeaseCall.UsesLimit (limit : String → Nat) : LeaseCall → Prop
  | .semaphoreTryAcquire key _ given _ => given = limit key
  | _ => True

structure TimedCall where
  clock : Clock
  call : LeaseCall

/-- A state, and what the callers know: until when each holder was told that its
lease lasts, and the fencing numbers in the order of their acquisitions. -/
structure Observed where
  state : LeaseState
  lockLedger : Holder → Option Nat
  semaphoreLedger : Holder → Option Nat
  fences : List (String × Nat)

namespace Observed

def start : Observed := ⟨.default, fun _ => none, fun _ => none, []⟩

def observe (seen : Observed) (timed : TimedCall) : Observed :=
  let now := timed.clock.instant
  let nowMs := timed.clock.unixMs
  match timed.call with
  | .lockTryAcquire key owner token ttl =>
    match lockTryAcquire key owner token ttl now seen.state with
    | (some fence, state) => { seen with
        state := state
        lockLedger := update seen.lockLedger (key, token) (some (now + ttl))
        fences := seen.fences ++ [(key, fence)] }
    | (none, state) => { seen with state := state }
  | .lockRelease key token =>
    match lockRelease key token now seen.state with
    | (true, state) => { seen with
        state := state
        lockLedger := update seen.lockLedger (key, token) none }
    | (false, state) => { seen with state := state }
  | .lockRenew key token ttl =>
    match lockRenew key token ttl now seen.state with
    | (true, state) => { seen with
        state := state
        lockLedger := update seen.lockLedger (key, token) (some (now + ttl)) }
    | (false, state) => { seen with state := state }
  | .semaphoreTryAcquire key token limit ttlMs =>
    match semaphoreTryAcquire key token limit ttlMs nowMs seen.state with
    | (.ok _, state) => { seen with
        state := state
        semaphoreLedger := update seen.semaphoreLedger (key, token)
          (some (saturatingAdd nowMs ttlMs)) }
    | (.error _, state) => { seen with state := state }
  | .semaphoreRenew key token ttlMs =>
    match semaphoreRenew key token ttlMs nowMs seen.state with
    | (true, state) => { seen with
        state := state
        semaphoreLedger := update seen.semaphoreLedger (key, token)
          (some (saturatingAdd nowMs ttlMs)) }
    | (false, state) => { seen with state := state }
  | .semaphoreRelease key token => { seen with
      state := semaphoreRelease key token seen.state
      semaphoreLedger := update seen.semaphoreLedger (key, token) none }
  | .semaphoreLiveCount key => { seen with state := (semaphoreLiveCount key nowMs seen.state).2 }

def run (seen : Observed) (calls : List TimedCall) : Observed := calls.foldl observe seen

/-! ## One call -/

/-- The number that the acquisition after `count` others is given. -/
def fenceAfter (count : Nat) : Nat := saturatingAdd (count % 2 ^ 64) 1

/-- The tables agree with the ledgers, no semaphore holds more than its limit, and
the fencing numbers are those of a counter. -/
structure Consistent (limit : String → Nat) (clock : Clock) (seen : Observed) : Prop where
  locks : Agree clock.instant seen.lockLedger seen.state.lockLease
  semaphores : Agree clock.unixMs seen.semaphoreLedger seen.state.semaphoreLease
  bounded : ∀ key holders, seen.state.semaphores.get? key = some holders →
    holders.size ≤ limit key
  counted : seen.state.lockFencingSeq = seen.fences.length % 2 ^ 64
  numbered : seen.fences.map Prod.snd = (List.range seen.fences.length).map fenceAfter

variable {limit : String → Nat} {clock : Clock} {seen : Observed}

theorem Consistent.later {next} (consistent : Consistent limit clock seen)
    (order : clock.NotAfter next) : Consistent limit next seen :=
  ⟨consistent.locks.later order.1, consistent.semaphores.later order.2, consistent.bounded,
    consistent.counted, consistent.numbered⟩

theorem liveHolders_bounded (bounded : ∀ key holders,
      seen.state.semaphores.get? key = some holders → holders.size ≤ limit key)
    (now : Nat) (key : String) : (seen.state.liveHolders now key).size ≤ limit key := by
  unfold liveHolders
  cases found : seen.state.semaphores.get? key with
  | none => exact zero_le _
  | some holders => exact (holders.size_retain_le _).trans (bounded key holders found)

theorem size_replace {holders : OrderedTable String Nat} {token} (expiresAt : Nat)
    (present : (holders.get? token).isSome) : (holders.insert token expiresAt).size =
      holders.size := by
  have grown := holders.size_insert token expiresAt
  obtain ⟨old, found⟩ := isSome_iff_exists.mp present
  rw [found, elim_some] at grown
  omega

section

variable (consistent : Consistent limit clock seen)
include consistent

theorem Consistent.locked {locks ledger}
    (agree : Agree clock.instant ledger { seen.state with locks }.lockLease) :
    Consistent limit clock { seen with state := { seen.state with locks }, lockLedger := ledger } :=
  ⟨agree, consistent.semaphores, consistent.bounded, consistent.counted, consistent.numbered⟩

theorem consistent_lockTryAcquire (key owner token : String) (ttl : Nat) :
    Consistent limit clock (seen.observe ⟨clock, .lockTryAcquire key owner token ttl⟩) := by
  have run := lockTryAcquire_run key owner token ttl clock.instant seen.state
  unfold observe
  dsimp only
  generalize lockTryAcquire key owner token ttl clock.instant seen.state = result at run ⊢
  cases run with
  | refused locks other held agree => exact consistent.locked (consistent.locks.trans agree)
  | granted locks free agree =>
    constructor
    · exact (consistent.locks.update (key, token) _).trans agree
    · exact consistent.semaphores
    · exact consistent.bounded
    · simp only [length_append, length_singleton]
      rw [consistent.counted, mod_add_mod]
    · simp only [map_append, map_singleton, length_append, length_singleton, range_succ]
      rw [consistent.numbered, consistent.counted]
      rfl

theorem Consistent.changed {key token lease result} :
    LockChanged key token clock.instant lease seen.state result →
    Consistent limit clock (match result with
      | (true, state) => { seen with
          state := state
          lockLedger := update seen.lockLedger (key, token) lease }
      | (false, state) => { seen with state := state }) := by
  intro run
  cases run with
  | refused locks absent agree => exact consistent.locked (consistent.locks.trans agree)
  | changed locks held agree =>
    exact consistent.locked ((consistent.locks.update (key, token) _).trans agree)

theorem Consistent.stored {semaphores ledger}
    (agree : Agree clock.unixMs ledger { seen.state with semaphores }.semaphoreLease)
    (bounded : ∀ key holders, semaphores.get? key = some holders → holders.size ≤ limit key) :
    Consistent limit clock
      { seen with state := { seen.state with semaphores }, semaphoreLedger := ledger } :=
  ⟨consistent.locks, agree, bounded, consistent.counted, consistent.numbered⟩

theorem Consistent.pruned (key : String) :
    Consistent limit clock { seen with state := { seen.state with
      semaphores := seen.state.semaphores.insert key
        (seen.state.liveHolders clock.unixMs key) } } := by
  apply consistent.stored
  · exact consistent.semaphores.trans (seen.state.semaphoreLease_prune clock.unixMs key)
  · exact forall_insert (liveHolders_bounded consistent.bounded _ key)
      consistent.bounded

theorem Consistent.granted (key token : String) (expiresAt : Nat)
    (fits : ((seen.state.liveHolders clock.unixMs key).insert token expiresAt).size ≤ limit key) :
    Consistent limit clock { seen with
      state := { seen.state with
        semaphores := seen.state.semaphores.insert key
          ((seen.state.liveHolders clock.unixMs key).insert token expiresAt) }
      semaphoreLedger := update seen.semaphoreLedger (key, token) (some expiresAt) } := by
  apply consistent.stored
  · exact (consistent.semaphores.update (key, token) _).trans
      (seen.state.semaphoreLease_grant clock.unixMs key token expiresAt)
  · exact forall_insert fits consistent.bounded

theorem consistent_semaphoreTryAcquire (key token : String) (ttlMs : Nat) : Consistent limit clock
      (seen.observe ⟨clock, .semaphoreTryAcquire key token (limit key) ttlMs⟩) := by
  have run := semaphoreTryAcquire_run key token (limit key) ttlMs clock.unixMs seen.state
  unfold observe
  dsimp only
  generalize semaphoreTryAcquire key token (limit key) ttlMs clock.unixMs seen.state = result
    at run ⊢
  cases run with
  | refused full => exact consistent.pruned key
  | granted room =>
    apply consistent.granted
    have grown := (seen.state.liveHolders clock.unixMs key).size_insert token
      (saturatingAdd clock.unixMs ttlMs)
    omega

theorem consistent_semaphoreRenew (key token : String) (ttlMs : Nat) :
    Consistent limit clock (seen.observe ⟨clock, .semaphoreRenew key token ttlMs⟩) := by
  have run := semaphoreRenew_run key token ttlMs clock.unixMs seen.state
  unfold observe
  dsimp only
  generalize semaphoreRenew key token ttlMs clock.unixMs seen.state = result at run ⊢
  cases run with
  | missing absent => exact consistent
  | refused absent => exact consistent.pruned key
  | renewed held =>
    apply consistent.granted
    rw [size_replace]
    · exact liveHolders_bounded consistent.bounded _ key
    · rw [liveHolders_get?, ← holds_iff]
      exact held

end

theorem semaphoreRelease_bounded (state : LeaseState) (key token : String)
    (bounded : ∀ key holders, state.semaphores.get? key = some holders → holders.size ≤ limit key) :
    ∀ place stored, (semaphoreRelease key token state).semaphores.get? place = some stored →
      stored.size ≤ limit place := by
  unfold semaphoreRelease
  cases found : state.semaphores.get? key with
  | none => exact bounded
  | some holders =>
    dsimp only
    split_ifs with last
    · intro place stored present
      rw [get?_erase] at present
      split_ifs at present
      exact bounded place stored present
    · have fewer := holders.size_erase token
      have fits := bounded key holders found
      exact forall_insert (by omega) bounded

theorem semaphoreRelease_frame (state : LeaseState) (key token : String) :
    ∃ semaphores, semaphoreRelease key token state = { state with semaphores } := by
  unfold semaphoreRelease
  split
  · exact ⟨_, rfl⟩
  · dsimp only
    split <;> exact ⟨_, rfl⟩

theorem consistent_semaphoreRelease (consistent : Consistent limit clock seen)
    (key token : String) :
    Consistent limit clock (seen.observe ⟨clock, .semaphoreRelease key token⟩) := by
  have agree := (consistent.semaphores.update (key, token) none).trans
    (semaphoreRelease_agree key token clock.unixMs seen.state)
  have bounded := semaphoreRelease_bounded seen.state key token consistent.bounded
  obtain ⟨semaphores, released⟩ := semaphoreRelease_frame seen.state key token
  unfold observe
  dsimp only
  rw [released] at agree bounded ⊢
  exact consistent.stored agree bounded

theorem consistent_semaphoreLiveCount (consistent : Consistent limit clock seen) (key : String) :
    Consistent limit clock (seen.observe ⟨clock, .semaphoreLiveCount key⟩) := by
  have pruned := consistent.pruned key
  unfold observe semaphoreLiveCount
  unfold liveHolders at pruned
  dsimp only
  cases found : seen.state.semaphores.get? key with
  | none => exact consistent
  | some holders =>
    rw [found, getD_some] at pruned
    exact pruned

theorem observe_consistent (consistent : Consistent limit clock seen) (timed : TimedCall)
    (order : clock.NotAfter timed.clock) (fixed : timed.call.UsesLimit limit) :
    Consistent limit timed.clock (seen.observe timed) := by
  have now := consistent.later order
  obtain ⟨at_, call⟩ := timed
  cases call with
  | lockTryAcquire key owner token ttl => exact consistent_lockTryAcquire now key owner token ttl
  | lockRelease key token => exact now.changed (lockRelease_run key token _ _)
  | lockRenew key token ttl => exact now.changed (lockRenew_run key token ttl _ _)
  | semaphoreTryAcquire key token given ttlMs =>
    obtain rfl : given = limit key := fixed
    exact consistent_semaphoreTryAcquire now key token ttlMs
  | semaphoreRenew key token ttlMs => exact consistent_semaphoreRenew now key token ttlMs
  | semaphoreRelease key token => exact consistent_semaphoreRelease now key token
  | semaphoreLiveCount key => exact consistent_semaphoreLiveCount now key

/-! ## Runs -/

theorem start_consistent (limit : String → Nat) (clock : Clock) : Consistent limit clock start := by
  constructor
  · exact fun _ => rfl
  · exact fun _ => rfl
  · rintro key holders ⟨⟩
  · rfl
  · rfl

theorem run_consistent (calls : List TimedCall) : ∀ {clock seen},
    Consistent limit clock seen → (∀ timed ∈ calls, clock.NotAfter timed.clock) →
    calls.Pairwise (fun earlier later => earlier.clock.NotAfter later.clock) →
    (∀ timed ∈ calls, timed.call.UsesLimit limit) →
    ∀ final : Clock, clock.NotAfter final → (∀ timed ∈ calls, timed.clock.NotAfter final) →
      Consistent limit final (seen.run calls) := by
  induction calls with
  | nil =>
    intro clock seen consistent _ _ _ final last _
    exact consistent.later last
  | cons timed rest ih =>
    intro clock seen consistent first ordered fixed final _ latest
    obtain ⟨before, ordered⟩ := pairwise_cons.mp ordered
    have next := observe_consistent consistent timed (first timed mem_cons_self)
      (fixed timed mem_cons_self)
    exact ih next before ordered (fun other member => fixed other (mem_cons_of_mem _ member))
      final (latest timed mem_cons_self)
      (fun other member => latest other (mem_cons_of_mem _ member))

theorem fenceAfter_lt {first second} (order : first < second) (small : second < 2 ^ 64 - 1) :
    fenceAfter first < fenceAfter second := by
  have left : first % 2 ^ 64 = first := mod_eq_of_lt (by omega)
  have right : second % 2 ^ 64 = second := mod_eq_of_lt (by omega)
  unfold fenceAfter saturatingAdd u64Max
  omega

theorem Consistent.fences_increase (consistent : Consistent limit clock seen)
    (few : seen.fences.length < 2 ^ 64) : (seen.fences.map Prod.snd).Pairwise (· < ·) := by
  rw [consistent.numbered, pairwise_map]
  apply pairwise_lt_range.imp_of_mem
  intro first second _ member order
  have inside := mem_range.mp member
  exact fenceAfter_lt order (by omega)

/-- What a release or a renewal by one holder may do to the leases: nothing to
those of others, and nothing at all when its own has ended. -/
structure Harmless (now : Nat) (holder : Holder) (before after : Holder → Option Nat) : Prop where
  others : ∀ other, other ≠ holder → live now (after other) = live now (before other)
  ended : ¬ Holds before now holder → live now (after holder) = none

theorem Harmless.of_agree {now holder before after}
    (agree : Agree now before after) : Harmless now holder before after where
  others := fun other _ => (agree other).symm
  ended := by
    intro absent
    rw [holds_iff, not_isSome_iff_eq_none] at absent
    exact (agree holder).symm.trans absent

theorem Harmless.of_update {now holder lease before after}
    (agree : Agree now (update before holder lease) after)
    (held : Holds before now holder ∨ lease = none) : Harmless now holder before after where
  others := by
    intro other different
    have same := (agree other).symm
    rwa [update_of_ne different] at same
  ended := by
    intro absent
    have same := (agree holder).symm
    rw [update_self] at same
    rcases held with held | rfl
    · exact absurd held absent
    · exact same

section

variable (consistent : Consistent limit clock seen) (key : String)
include consistent key

theorem lock_changes (token : String) (lease : Option Nat) (result : Bool × LeaseState)
    (run : LockChanged key token clock.instant lease seen.state result) :
    (result.1 = true → Holds seen.lockLedger clock.instant (key, token)) ∧
      Harmless clock.instant (key, token) seen.lockLedger result.2.lockLease := by
  cases run with
  | refused locks absent agree => exact ⟨by simp, .of_agree (consistent.locks.trans agree)⟩
  | changed locks held agree =>
    have own := (consistent.locks.holds (key, token)).mpr held
    exact ⟨fun _ => own,
      .of_update ((consistent.locks.update (key, token) lease).trans agree) (.inl own)⟩

theorem semaphoreRenew_changes (token : String) (ttlMs : Nat) :
    ((semaphoreRenew key token ttlMs clock.unixMs seen.state).1 = true →
      Holds seen.semaphoreLedger clock.unixMs (key, token)) ∧
    Harmless clock.unixMs (key, token) seen.semaphoreLedger
      (semaphoreRenew key token ttlMs clock.unixMs seen.state).2.semaphoreLease := by
  have run := semaphoreRenew_run key token ttlMs clock.unixMs seen.state
  generalize semaphoreRenew key token ttlMs clock.unixMs seen.state = result at run ⊢
  cases run with
  | missing absent => exact ⟨by simp, .of_agree consistent.semaphores⟩
  | refused absent =>
    exact ⟨by simp, .of_agree (consistent.semaphores.trans
      (seen.state.semaphoreLease_prune clock.unixMs key))⟩
  | renewed held =>
    have own := (consistent.semaphores.holds (key, token)).mpr held
    exact ⟨fun _ => own, .of_update ((consistent.semaphores.update (key, token) _).trans
      (seen.state.semaphoreLease_grant clock.unixMs key token _)) (.inl own)⟩

theorem semaphoreRelease_changes (token : String) :
    Harmless clock.unixMs (key, token) seen.semaphoreLedger
      (semaphoreRelease key token seen.state).semaphoreLease :=
  .of_update ((consistent.semaphores.update (key, token) none).trans
    (semaphoreRelease_agree key token clock.unixMs seen.state)) (.inr rfl)

theorem ledger_holders : {token | Holds seen.semaphoreLedger clock.unixMs (key, token)} =
      {token | ((seen.state.liveHolders clock.unixMs key).get? token).isSome} := by
  ext token
  rw [Set.mem_ofPred_eq, consistent.semaphores.holds, holds_iff, ← liveHolders_get?]
  rfl

theorem holders_counted : {token | Holds seen.semaphoreLedger clock.unixMs (key, token)}.ncard =
      (seen.state.liveHolders clock.unixMs key).size := by
  rw [ledger_holders consistent, ncard_keys]

theorem lockTryAcquire_refused (owner token : String) (ttl : Nat)
    (refused : (lockTryAcquire key owner token ttl clock.instant seen.state).1 = none) :
    ∃ other, Holds seen.lockLedger clock.instant (key, other) := by
  have run := lockTryAcquire_run key owner token ttl clock.instant seen.state
  generalize lockTryAcquire key owner token ttl clock.instant seen.state = result at run refused
  cases run with
  | refused locks other held => exact ⟨other, (consistent.locks.holds (key, other)).mpr held⟩
  | granted => cases refused

theorem semaphoreTryAcquire_refused (token : String) (given ttlMs count : Nat)
    (refused : (semaphoreTryAcquire key token given ttlMs clock.unixMs seen.state).1 =
      .error count) : count = {token | Holds seen.semaphoreLedger clock.unixMs (key, token)}.ncard ∧
      given ≤ count := by
  have run := semaphoreTryAcquire_run key token given ttlMs clock.unixMs seen.state
  rw [holders_counted consistent]
  generalize semaphoreTryAcquire key token given ttlMs clock.unixMs seen.state = result
    at run refused
  cases run with
  | refused full =>
    cases refused
    exact ⟨rfl, full⟩
  | granted => cases refused

end

/-- One lock changes hands by expiry, and a semaphore of two is full. -/
def sampleLeaseCalls : List TimedCall :=
  [⟨⟨0, 0⟩, .lockTryAcquire "lock" "first" "a" 10⟩, ⟨⟨5, 5⟩, .lockTryAcquire "lock" "second" "b" 10⟩,
    ⟨⟨10, 10⟩, .lockTryAcquire "lock" "second" "b" 10⟩, ⟨⟨11, 11⟩, .lockRenew "lock" "a" 50⟩,
    ⟨⟨12, 12⟩, .semaphoreTryAcquire "gate" "x" 2 10⟩,
    ⟨⟨13, 13⟩, .semaphoreTryAcquire "gate" "y" 2 10⟩,
    ⟨⟨14, 14⟩, .semaphoreTryAcquire "gate" "z" 2 10⟩]

def freshToken (number : Nat) : String := String.ofList (List.replicate number 'x')

/-- A lock that is acquired anew at each instant, for one instant. -/
def acquireAt (number : Nat) : TimedCall :=
  ⟨⟨number, number⟩, .lockTryAcquire "lock" "owner" (freshToken number) 1⟩

theorem acquireAt_granted {number} (consistent : Consistent limit ⟨number, number⟩ seen)
    (free : ∀ holder, ¬ Holds seen.lockLedger number holder) :
    (seen.observe (acquireAt number)).fences =
        seen.fences ++ [("lock", fenceAfter seen.fences.length)] ∧
      ∀ holder, ¬ Holds (seen.observe (acquireAt number)).lockLedger (number + 1) holder := by
  have run := lockTryAcquire_run "lock" "owner" (freshToken number) 1 number seen.state
  unfold observe acquireAt
  dsimp only
  generalize lockTryAcquire "lock" "owner" (freshToken number) 1 number seen.state = result
    at run ⊢
  cases run with
  | refused locks other held =>
    exact absurd ((consistent.locks.holds ("lock", other)).mpr held) (free _)
  | granted locks _ agree =>
    constructor
    · rw [consistent.counted]
      rfl
    · rintro holder ⟨expiresAt, lease, later⟩
      dsimp only at lease
      by_cases same : holder = ("lock", freshToken number)
      · subst same
        rw [update_self] at lease
        cases lease
        omega
      · rw [update_of_ne same] at lease
        exact free holder ⟨expiresAt, lease, by omega⟩

theorem acquireAt_run (count : Nat) :
    Consistent (fun _ => 0) ⟨count, count⟩ (start.run ((List.range count).map acquireAt)) ∧
    (start.run ((List.range count).map acquireAt)).fences =
        (List.range count).map (fun number => ("lock", fenceAfter number)) ∧ ∀ holder,
        ¬ Holds (start.run ((List.range count).map acquireAt)).lockLedger count holder := by
  induction count with
  | zero =>
    refine ⟨start_consistent _ _, rfl, ?_⟩
    rintro holder ⟨expiresAt, lease, _⟩
    cases lease
  | succ count ih =>
    obtain ⟨consistent, fences, free⟩ := ih
    have split : start.run ((List.range (count + 1)).map acquireAt) =
        (start.run ((List.range count).map acquireAt)).observe (acquireAt count) := by
      rw [range_succ, map_append, map_singleton]
      exact foldl_append
    obtain ⟨added, still⟩ := acquireAt_granted consistent free
    rw [split]
    refine ⟨?_, ?_, still⟩
    · exact (observe_consistent consistent (acquireAt count) ⟨le_rfl, le_rfl⟩ trivial).later
        ⟨le_succ _, le_succ _⟩
    · rw [added, fences, range_succ, map_append, map_singleton, length_map, length_range]

end Observed

end Aeris.Runtime
