import Aeris.Base.Lease
import Aeris.Base.OrderedTable
import Aeris.Base.RustStd

/-! Locks and semaphores of the in-memory runtime. A call reads its clock once:
locks the monotonic one, semaphores the milliseconds since the epoch. Expired
entries are dropped by the call that meets them. -/
namespace Aeris.Runtime

open RustStd Option OrderedTable
open OrderedTable (get?_erase get?_insert get?_retain)
open Function (update update_of_ne)

structure MemoryLockEntry where
  token : String
  owner : String
  expiresAt : Nat
  deriving DecidableEq, Repr

structure LeaseState where
  locks : OrderedTable String MemoryLockEntry
  lockFencingSeq : Nat
  semaphores : OrderedTable String (OrderedTable String Nat)

namespace LeaseState

def default : LeaseState where
  locks := .empty
  lockFencingSeq := 0
  semaphores := .empty

/-! ## Locks -/

/-- The counter wraps in its 64 bits; the number that is handed out saturates. -/
def lockTryAcquire (key owner token : String) (ttl now : Nat) (state : LeaseState) :
    Option Nat × LeaseState :=
  let locks := state.locks.retain (fun _ entry => entry.expiresAt > now)
  if locks.contains key then (none, { state with locks })
  else
    (some (saturatingAdd state.lockFencingSeq 1), { state with
      lockFencingSeq := (state.lockFencingSeq + 1) % 2 ^ 64
      locks := locks.insert key ⟨token, owner, now + ttl⟩ })

def lockRelease (key token : String) (now : Nat) (state : LeaseState) : Bool × LeaseState :=
  if (state.locks.get? key).any (fun entry => entry.expiresAt ≤ now) then
    (false, { state with locks := state.locks.erase key })
  else if (state.locks.get? key).any (fun entry => entry.token = token) then
    (true, { state with locks := state.locks.erase key })
  else (false, state)

def lockRenew (key token : String) (ttl now : Nat) (state : LeaseState) : Bool × LeaseState :=
  if (state.locks.get? key).any (fun entry => entry.expiresAt ≤ now) then
    (false, { state with locks := state.locks.erase key })
  else
    match state.locks.get? key with
    | some entry =>
      if entry.token = token then
        (true, { state with
          locks := state.locks.insert key { entry with expiresAt := now + ttl } })
      else (false, state)
    | none => (false, state)

/-! ## Semaphores -/

def semaphoreTryAcquire (key token : String) (limit ttlMs nowMs : Nat) (state : LeaseState) :
    Except Nat Nat × LeaseState :=
  let expiresAt := saturatingAdd nowMs ttlMs
  let holders := ((state.semaphores.get? key).getD .empty).retain
    (fun _ expires => expires > nowMs)
  let count := holders.size
  if count ≥ limit then
    (.error count, { state with semaphores := state.semaphores.insert key holders })
  else
    (.ok (holders.insert token expiresAt).size, { state with
      semaphores := state.semaphores.insert key (holders.insert token expiresAt) })

def semaphoreRenew (key token : String) (ttlMs nowMs : Nat) (state : LeaseState) :
    Bool × LeaseState :=
  match state.semaphores.get? key with
  | none => (false, state)
  | some holders =>
    let holders := holders.retain (fun _ expires => expires > nowMs)
    if holders.contains token then
      (true, { state with semaphores :=
        state.semaphores.insert key (holders.insert token (saturatingAdd nowMs ttlMs)) })
    else (false, { state with semaphores := state.semaphores.insert key holders })

def semaphoreRelease (key token : String) (state : LeaseState) : LeaseState :=
  match state.semaphores.get? key with
  | none => state
  | some holders =>
    let holders := holders.erase token
    if holders.size = 0 then { state with semaphores := state.semaphores.erase key }
    else { state with semaphores := state.semaphores.insert key holders }

def semaphoreLiveCount (key : String) (nowMs : Nat) (state : LeaseState) : Nat × LeaseState :=
  match state.semaphores.get? key with
  | none => (0, state)
  | some holders =>
    let holders := holders.retain (fun _ expires => expires > nowMs)
    (holders.size, { state with semaphores := state.semaphores.insert key holders })

/-! ## What the tables say about a holder -/

/-- A holder is a key and the token of an acquisition. -/
abbrev Holder := String × String

def lockLease (state : LeaseState) (holder : Holder) : Option Nat :=
  (state.locks.get? holder.1).bind (fun entry =>
    if entry.token = holder.2 then some entry.expiresAt else none)

def semaphoreLease (state : LeaseState) (holder : Holder) : Option Nat :=
  (state.semaphores.get? holder.1).bind (fun holders => holders.get? holder.2)

open Lease

theorem lockLease_holds (state : LeaseState) (now : Nat) (key token : String) :
    Holds state.lockLease now (key, token) ↔ ∃ entry, state.locks.get? key = some entry ∧
      entry.token = token ∧ now < entry.expiresAt := by
  constructor
  · rintro ⟨expiresAt, lease, later⟩
    obtain ⟨entry, found, own⟩ := bind_eq_some_iff.mp lease
    split_ifs at own with same
    cases own
    exact ⟨entry, found, same, later⟩
  · rintro ⟨entry, found, same, later⟩
    exact ⟨entry.expiresAt, by simp [lockLease, found, same], later⟩

theorem lockLease_unique (state : LeaseState) (now : Nat) (key first second : String)
    (left : Holds state.lockLease now (key, first))
    (right : Holds state.lockLease now (key, second)) : first = second := by
  obtain ⟨entry, found, rfl, _⟩ := (state.lockLease_holds now key first).mp left
  obtain ⟨other, again, rfl, _⟩ := (state.lockLease_holds now key second).mp right
  cases found.symm.trans again
  rfl

variable {state : LeaseState}

theorem lockLease_expired {now key entry} (found : state.locks.get? key = some entry)
    (expired : entry.expiresAt ≤ now) (token : String) :
    live now (state.lockLease (key, token)) = none := by
  rw [live_eq_none]
  intro expiresAt lease
  simp only [lockLease, found, bind_some] at lease
  split_ifs at lease
  cases lease
  exact expired

theorem lockLease_erase (state : LeaseState) (now : Nat) (key : String)
    (ended : ∀ entry, state.locks.get? key = some entry → entry.expiresAt ≤ now) :
    Agree now state.lockLease { state with locks := state.locks.erase key }.lockLease := by
  rintro ⟨other, token⟩
  simp only [lockLease, get?_erase]
  by_cases same : other = key
  · subst same
    rw [if_pos rfl]
    cases found : state.locks.get? other with
    | none => rfl
    | some entry =>
      have gone := lockLease_expired found (ended entry found) token
      simpa [lockLease, found] using gone
  · rw [if_neg same]

theorem lockLease_retain (state : LeaseState) (now : Nat) : Agree now state.lockLease
      { state with
        locks := state.locks.retain (fun _ entry => entry.expiresAt > now) }.lockLease := by
  rintro ⟨key, token⟩
  simp only [lockLease, get?_retain]
  cases found : state.locks.get? key with
  | none => rfl
  | some entry =>
    by_cases alive : now < entry.expiresAt
    · simp [filter_some, alive]
    · have gone := lockLease_expired found (Nat.le_of_not_lt alive) token
      simpa [lockLease, found, filter_some, alive] using gone

theorem lockLease_insert (state : LeaseState) (now : Nat) (key : String) (entry : MemoryLockEntry)
    (free : ∀ token, Holds state.lockLease now (key, token) → token = entry.token) :
    Agree now (update state.lockLease (key, entry.token) (some entry.expiresAt))
      { state with locks := state.locks.insert key entry }.lockLease := by
  rintro ⟨other, token⟩
  simp only [lockLease, get?_insert]
  by_cases same : other = key
  · subst same
    rw [if_pos rfl, bind_some]
    by_cases own : token = entry.token
    · subst own
      simp
    · have different : (other, token) ≠ (other, entry.token) :=
        fun equal => own (congrArg Prod.snd equal)
      rw [update_of_ne different, if_neg (Ne.symm own)]
      have absent : ¬ Holds state.lockLease now (other, token) := fun held => own (free token held)
      rw [holds_iff, not_isSome_iff_eq_none] at absent
      exact absent
  · have different : (other, token) ≠ (key, entry.token) :=
      fun equal => same (congrArg Prod.fst equal)
    rw [update_of_ne different, if_neg same]
    rfl

/-! ## Lock calls -/

inductive LockAcquired (key token : String) (ttl now : Nat) (state : LeaseState) :
    Option Nat × LeaseState → Prop where
  | refused (locks : OrderedTable String MemoryLockEntry) (other : String)
      (held : Holds state.lockLease now (key, other))
      (agree : Agree now state.lockLease { state with locks }.lockLease) :
      LockAcquired key token ttl now state (none, { state with locks })
  | granted (locks : OrderedTable String MemoryLockEntry)
      (free : ∀ other, ¬ Holds state.lockLease now (key, other))
      (agree : Agree now (update state.lockLease (key, token) (some (now + ttl)))
        { state with locks }.lockLease) :
      LockAcquired key token ttl now state (some (saturatingAdd state.lockFencingSeq 1),
        { state with locks, lockFencingSeq := (state.lockFencingSeq + 1) % 2 ^ 64 })

theorem lockTryAcquire_run (key owner token : String) (ttl now : Nat) (state : LeaseState) :
    LockAcquired key token ttl now state (lockTryAcquire key owner token ttl now state) := by
  have pruned := state.lockLease_retain now
  unfold lockTryAcquire
  generalize retained : state.locks.retain (fun _ entry => entry.expiresAt > now) = locks
    at pruned ⊢
  have alive : ∀ entry, locks.get? key = some entry → now < entry.expiresAt := by
    intro entry found
    rw [← retained, get?_retain, filter_eq_some_iff] at found
    exact of_decide_eq_true found.2
  cases found : locks.get? key with
  | some entry =>
    rw [if_pos (by simp [OrderedTable.contains, found])]
    refine .refused _ entry.token ?_ pruned
    rw [pruned.holds, lockLease_holds]
    exact ⟨entry, found, rfl, alive entry found⟩
  | none =>
    have free : ∀ other, ¬ Holds state.lockLease now (key, other) := by
      intro other held
      rw [pruned.holds, lockLease_holds] at held
      obtain ⟨entry, present, _⟩ := held
      cases found.symm.trans present
    rw [if_neg (by simp [OrderedTable.contains, found])]
    refine .granted _ free ?_
    apply (pruned.update (key, token) (some (now + ttl))).trans
    apply lockLease_insert { state with locks } now key ⟨token, owner, now + ttl⟩
    intro other held
    rw [← pruned.holds] at held
    exact absurd held (free other)

/-- How a release or a renewal of a lock ends, with the lease that it leaves. -/
inductive LockChanged (key token : String) (now : Nat) (lease : Option Nat) (state : LeaseState) :
    Bool × LeaseState → Prop where
  | refused (locks : OrderedTable String MemoryLockEntry)
      (absent : ¬ Holds state.lockLease now (key, token))
      (agree : Agree now state.lockLease { state with locks }.lockLease) :
      LockChanged key token now lease state (false, { state with locks })
  | changed (locks : OrderedTable String MemoryLockEntry)
      (held : Holds state.lockLease now (key, token))
      (agree : Agree now (update state.lockLease (key, token) lease)
        { state with locks }.lockLease) :
      LockChanged key token now lease state (true, { state with locks })

theorem expired_refused {key} (token : String) {now} (lease : Option Nat)
    {state} (expired : (state.locks.get? key).any (fun entry => entry.expiresAt ≤ now)) :
    LockChanged key token now lease state
      (false, { state with locks := state.locks.erase key }) := by
  have ended : ∀ entry, state.locks.get? key = some entry → entry.expiresAt ≤ now := by
    intro entry found
    simpa [found] using expired
  refine .refused _ ?_ (state.lockLease_erase now key ended)
  rw [lockLease_holds]
  rintro ⟨entry, found, _, later⟩
  have := ended entry found
  omega

variable {key token : String}

theorem live_holds {now}
    (alive : ¬ (state.locks.get? key).any (fun entry => entry.expiresAt ≤ now)) (token : String) :
    Holds state.lockLease now (key, token) ↔ (state.locks.get? key).map (·.token) = some token := by
  rw [lockLease_holds, map_eq_some_iff]
  constructor
  · rintro ⟨entry, found, same, _⟩
    exact ⟨entry, found, same⟩
  · rintro ⟨entry, found, same⟩
    refine ⟨entry, found, same, ?_⟩
    simpa [found] using alive

theorem lockRelease_run (key token : String) (now : Nat) (state : LeaseState) :
    LockChanged key token now none state (lockRelease key token now state) := by
  unfold lockRelease
  by_cases expired : (state.locks.get? key).any (fun entry => entry.expiresAt ≤ now)
  · rw [if_pos expired]
    exact expired_refused token none expired
  have owner := live_holds expired
  rw [if_neg expired]
  cases found : state.locks.get? key with
  | none =>
    exact .refused _ (by simp [owner, found]) (.refl now _)
  | some entry =>
    by_cases own : entry.token = token
    · rw [if_pos (by simp [own])]
      refine .changed _ (by simp [owner, found, own]) ?_
      rintro ⟨other, place⟩
      simp only [lockLease, get?_erase]
      by_cases same : (other, place) = (key, token)
      · cases same
        simp
      · rw [update_of_ne same]
        by_cases sameKey : other = key
        · have foreign : entry.token ≠ place := by
            rintro rfl
            exact same (by rw [sameKey, own])
          simp [lockLease, sameKey, found, foreign]
        · simp [lockLease, sameKey]
    · rw [if_neg (by simp [own])]
      exact .refused _ (by simp [owner, found, own]) (.refl now _)

theorem lockRenew_run (key token : String) (ttl now : Nat) (state : LeaseState) :
    LockChanged key token now (some (now + ttl)) state (lockRenew key token ttl now state) := by
  unfold lockRenew
  by_cases expired : (state.locks.get? key).any (fun entry => entry.expiresAt ≤ now)
  · rw [if_pos expired]
    exact expired_refused token _ expired
  have owner := live_holds expired
  rw [if_neg expired]
  cases found : state.locks.get? key with
  | none => exact .refused _ (by simp [owner, found]) (.refl now _)
  | some entry =>
    dsimp only
    by_cases own : entry.token = token
    · subst own
      rw [if_pos rfl]
      refine .changed _ (by simp [owner, found]) ?_
      apply lockLease_insert state now key { entry with expiresAt := now + ttl }
      intro other held
      simpa [found, eq_comm] using (owner other).mp held
    · rw [if_neg own]
      exact .refused _ (by simp [owner, found, own]) (.refl now _)

/-! ## Semaphore calls -/

/-- The holders that a call meets after it has dropped the expired ones. -/
def liveHolders (state : LeaseState) (now : Nat) (key : String) : OrderedTable String Nat :=
  ((state.semaphores.get? key).getD .empty).retain (fun _ expires => expires > now)

theorem liveHolders_get? (state : LeaseState) (now : Nat) (key token : String) :
    (state.liveHolders now key).get? token = live now (state.semaphoreLease (key, token)) := by
  unfold liveHolders semaphoreLease
  rw [get?_retain]
  cases state.semaphores.get? key with
  | none => rfl
  | some holders => rfl

theorem semaphoreLease_insert (state : LeaseState) (now : Nat) (key : String)
    (holders : OrderedTable String Nat) (ledger : Holder → Option Nat)
    (own : ∀ token, live now (ledger (key, token)) = live now (holders.get? token))
    (others : ∀ holder, holder.1 ≠ key → ledger holder = state.semaphoreLease holder) :
    Agree now ledger
      { state with semaphores := state.semaphores.insert key holders }.semaphoreLease := by
  rintro ⟨other, token⟩
  by_cases same : other = key
  · subst same
    simp only [semaphoreLease, get?_insert_self, bind_some]
    exact own token
  · rw [others (other, token) same]
    simp only [semaphoreLease, get?_insert, if_neg same]

theorem update_own {ledger : Holder → Option Nat} {lease}
    (place : String) : update ledger (key, token) lease (key, place) =
      if place = token then lease else ledger (key, place) := by
  by_cases same : place = token
  · subst same; simp
  · have different : (key, place) ≠ (key, token) := fun equal => same (congrArg Prod.snd equal)
    rw [update_of_ne different, if_neg same]

theorem update_other {ledger : Holder → Option Nat} {lease} {holder} (different : holder.1 ≠ key) :
    update ledger (key, token) lease holder = ledger holder :=
  update_of_ne (fun equal => different (congrArg Prod.fst equal)) _ _

theorem semaphoreLease_prune (state : LeaseState) (now : Nat) (key : String) :
    Agree now state.semaphoreLease { state with
      semaphores := state.semaphores.insert key (state.liveHolders now key) }.semaphoreLease := by
  apply semaphoreLease_insert
  · intro token
    rw [liveHolders_get?, live_live le_rfl]
  · intro holder _
    rfl

theorem semaphoreLease_grant (state : LeaseState) (now : Nat) (key token : String)
    (expiresAt : Nat) :
    Agree now (update state.semaphoreLease (key, token) (some expiresAt)) { state with
      semaphores := state.semaphores.insert key
        ((state.liveHolders now key).insert token expiresAt) }.semaphoreLease := by
  apply semaphoreLease_insert
  · intro place
    rw [update_own, get?_insert]
    split_ifs with same
    · rfl
    · rw [liveHolders_get?, live_live le_rfl]
  · intro holder different
    exact update_other different

inductive SemaphoreAcquired (key token : String) (limit ttlMs now : Nat) (state : LeaseState) :
    Except Nat Nat × LeaseState → Prop where
  | refused (full : limit ≤ (state.liveHolders now key).size) :
      SemaphoreAcquired key token limit ttlMs now state
        (.error (state.liveHolders now key).size, { state with
          semaphores := state.semaphores.insert key (state.liveHolders now key) })
  | granted (room : (state.liveHolders now key).size < limit) :
      SemaphoreAcquired key token limit ttlMs now state
        (.ok ((state.liveHolders now key).insert token (saturatingAdd now ttlMs)).size,
          { state with
            semaphores := state.semaphores.insert key
              ((state.liveHolders now key).insert token (saturatingAdd now ttlMs)) })

theorem semaphoreTryAcquire_run (key token : String) (limit ttlMs now : Nat) (state : LeaseState) :
    SemaphoreAcquired key token limit ttlMs now state
      (semaphoreTryAcquire key token limit ttlMs now state) := by
  change SemaphoreAcquired key token limit ttlMs now state
    (if (state.liveHolders now key).size ≥ limit then _ else _)
  split_ifs with full
  · exact .refused full
  · exact .granted (Nat.lt_of_not_le full)

inductive SemaphoreRenewed (key token : String) (ttlMs now : Nat) (state : LeaseState) :
    Bool × LeaseState → Prop where
  | missing (absent : ∀ other, ¬ Holds state.semaphoreLease now (key, other)) :
      SemaphoreRenewed key token ttlMs now state (false, state)
  | refused (absent : ¬ Holds state.semaphoreLease now (key, token)) :
      SemaphoreRenewed key token ttlMs now state (false, { state with
        semaphores := state.semaphores.insert key (state.liveHolders now key) })
  | renewed (held : Holds state.semaphoreLease now (key, token)) :
      SemaphoreRenewed key token ttlMs now state (true, { state with
        semaphores := state.semaphores.insert key
          ((state.liveHolders now key).insert token (saturatingAdd now ttlMs)) })

theorem semaphoreRenew_run (key token : String) (ttlMs now : Nat) (state : LeaseState) :
    SemaphoreRenewed key token ttlMs now state (semaphoreRenew key token ttlMs now state) := by
  unfold semaphoreRenew
  cases found : state.semaphores.get? key with
  | none =>
    apply SemaphoreRenewed.missing
    rintro other ⟨expiresAt, lease, _⟩
    simp [semaphoreLease, found] at lease
  | some holders =>
    have same : holders.retain (fun _ expires => expires > now) = state.liveHolders now key := by
      rw [liveHolders, found, getD_some]
    have present : (state.liveHolders now key).contains token ↔
        Holds state.semaphoreLease now (key, token) := by
      rw [OrderedTable.contains, liveHolders_get?, holds_iff]
    dsimp only
    rw [same]
    by_cases held : (state.liveHolders now key).contains token
    · rw [if_pos held]
      exact .renewed (present.mp held)
    · rw [if_neg held]
      exact .refused (fun holds => held (present.mpr holds))

theorem semaphoreRelease_agree (key token : String) (now : Nat) (state : LeaseState) :
    Agree now (update state.semaphoreLease (key, token) none)
      (semaphoreRelease key token state).semaphoreLease := by
  unfold semaphoreRelease
  cases found : state.semaphores.get? key with
  | none =>
    rintro ⟨other, place⟩
    by_cases same : (other, place) = (key, token)
    · cases same
      simp [semaphoreLease, found]
    · rw [update_of_ne same]
  | some holders =>
    have own : ∀ place, update state.semaphoreLease (key, token) none (key, place) =
        (holders.erase token).get? place := by
      intro place
      rw [update_own, get?_erase]
      simp [semaphoreLease, found]
    dsimp only
    split_ifs with last
    · rintro ⟨other, place⟩
      by_cases same : other = key
      · subst same
        have gone : (holders.erase token).get? place = none := by
          rw [get?_eq_none_iff, List.length_eq_zero_iff.mp last]
          simp
        rw [own, gone]
        simp [semaphoreLease, get?_erase]
      · simp [semaphoreLease, get?_erase, same]
    · apply semaphoreLease_insert
      · intro place
        rw [own]
      · intro holder different
        exact update_other different

theorem semaphoreLiveCount_run (key : String) (now : Nat) (state : LeaseState) :
    (semaphoreLiveCount key now state).1 = (state.liveHolders now key).size ∧
      Agree now state.semaphoreLease (semaphoreLiveCount key now state).2.semaphoreLease := by
  have pruned := state.semaphoreLease_prune now key
  unfold semaphoreLiveCount
  unfold liveHolders at pruned ⊢
  cases found : state.semaphores.get? key with
  | none => exact ⟨rfl, .refl now _⟩
  | some holders =>
    rw [found, getD_some] at pruned
    exact ⟨rfl, pruned⟩

end LeaseState

end Aeris.Runtime
