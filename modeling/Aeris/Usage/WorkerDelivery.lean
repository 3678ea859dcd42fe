import Aeris.Usage.WorkerSafety

/-! Over a whole batch of the usage worker: which entries leave the queue and which
stay, what is reported, and that a deferred dead letter does not hold up the entries
after it. -/
namespace Aeris.Usage

open Aeris.Runtime Interaction History List

variable {Event : Type}

/-! ## Which entries leave the queue, and which stay -/

/-- The ids that the store was asked to ack, and the one that it moved away. -/
def Seen.acks : Seen Event → List String
  | ⟨.ack _ _ ids, _⟩ => ids
  | ⟨.transfer _ _ id _ _ _, .ok (some (.transferred _ _ _))⟩ => [id]
  | _ => []

def Seen.deletes : Seen Event → List String
  | ⟨.delete _ ids, _⟩ => ids
  | _ => []

/-- The id of an entry whose recording will be tried again, whose encoding was deferred, or
whose dead letter the store did not take. -/
def Seen.withholds : Seen Event → List String
  | ⟨.warn eventName id _, _⟩ =>
    if eventName = "usage_worker_entry_record_retryable_failed" ∨
        eventName = "usage_worker_dead_letter_encoding_deferred" then [id] else []
  | ⟨.transfer _ _ id _ _ _, .error _⟩ => [id]
  | ⟨.append _ fields _, .error _⟩ => (readDeadLetter fields).toList.map DeadLetter.entryId
  | _ => []

def acks (trace : List (Seen Event)) : List String := trace.flatMap Seen.acks

def deletes (trace : List (Seen Event)) : List String := trace.flatMap Seen.deletes

def withholds (trace : List (Seen Event)) : List String := trace.flatMap Seen.withholds

variable {seen : Seen Event}

section

variable {first second : List (Seen Event)}

@[simp, grind =]
theorem acks_append : acks (first ++ second) = acks first ++ acks second := flatMap_append

@[simp, grind =]
theorem deletes_append : deletes (first ++ second) = deletes first ++ deletes second :=
  flatMap_append

@[simp, grind =]
theorem withholds_append : withholds (first ++ second) = withholds first ++ withholds second :=
  flatMap_append

@[simp]
theorem acks_cons (seen : Seen Event) (rest : List (Seen Event)) :
    acks (seen :: rest) = seen.acks ++ acks rest := flatMap_cons

@[simp]
theorem deletes_cons (seen : Seen Event) (rest : List (Seen Event)) :
    deletes (seen :: rest) = seen.deletes ++ deletes rest := flatMap_cons

@[simp]
theorem withholds_cons (seen : Seen Event) (rest : List (Seen Event)) :
    withholds (seen :: rest) = seen.withholds ++ withholds rest := flatMap_cons

@[simp]
theorem acks_nil : acks ([] : List (Seen Event)) = [] := rfl

@[simp]
theorem deletes_nil : deletes ([] : List (Seen Event)) = [] := rfl

@[simp]
theorem withholds_nil : withholds ([] : List (Seen Event)) = [] := rfl

@[simp]
theorem report_nothing (acked : Nat) :
    acks (if acked > 0 then [sawReport (.acked acked)] else ([] : List (Seen Event))) = [] ∧
    deletes (if acked > 0 then [sawReport (.acked acked)] else ([] : List (Seen Event))) = [] ∧
    withholds (if acked > 0 then [sawReport (.acked acked)] else ([] : List (Seen Event))) =
      [] := by
  split <;> exact ⟨rfl, rfl, rfl⟩

theorem Seen.Quiet.nothing (quiet : seen.Quiet) :
    seen.acks = [] ∧ seen.deletes = [] ∧ seen.withholds = [] := by
  obtain ⟨request, response⟩ := seen
  cases request <;> first | exact ⟨rfl, rfl, rfl⟩ | cases quiet

theorem Quiet.nothing {trace : List (Seen Event)} (quiet : Usage.Quiet trace) :
    acks trace = [] ∧ deletes trace = [] ∧ withholds trace = [] := by
  simp only [acks, deletes, withholds, flatMap_eq_nil_iff]
  exact ⟨fun seen here => (quiet seen here).nothing.1,
    fun seen here => (quiet seen here).nothing.2.1, fun seen here => (quiet seen here).nothing.2.2⟩

end

inductive Effect (entry : RuntimeQueueEntry) (trace : List (Seen Event)) :
    Except DataLayerError EntryDisposition → Prop
  | waits (none : acks trace = []) (free : withholds trace = []) : Effect entry trace
    (.ok .needsAck)
  | moved (taken : acks trace = [entry.id]) (free : withholds trace = []) :
      Effect entry trace (.ok .complete)
  | skipped (none : acks trace = []) (free : withholds trace = []) :
      Effect entry trace (.ok .complete)
  | deferred (error : DataLayerError) (none : acks trace = [])
      (held : withholds trace = [entry.id]) : Effect entry trace (.ok (.deferred error))
  | failed (error : DataLayerError) (none : acks trace = [])
      (held : withholds trace = [entry.id]) : Effect entry trace (.error error)

variable {outcome : Except DataLayerError UsageDeadLetterOutcome}
  {result : Except DataLayerError Unit} {remaining : List RuntimeQueueEntry}

section

variable {queue : UsageQueue} {entry : RuntimeQueueEntry}

variable {trace : List (Seen Event)} {error : DataLayerError} {eventName : String}

theorem FailedRun.nothing (run : FailedRun entry trace error eventName) :
    acks trace = [] ∧ deletes trace = [] ∧ withholds trace = [] ∧
      eventName ≠ "usage_worker_entry_record_retryable_failed" ∧
      eventName ≠ "usage_worker_dead_letter_encoding_deferred" := by
  cases run with
  | undecodable error => exact ⟨rfl, rfl, rfl, by decide, by decide⟩
  | unrecordable event error permanent =>
    exact ⟨rfl, rfl, by simp [Seen.withholds], by decide, by decide⟩

variable {disposition : Except DataLayerError EntryDisposition}

theorem deadLetter_effect {start middle last : List (Seen Event)}
    (failed : FailedRun entry start error eventName)
    (encoding : EncodingRun queue entry error.text middle outcome)
    (ends : OutcomeRun entry error eventName outcome last disposition) :
    Effect entry (start ++ (middle ++ last)) disposition := by
  obtain ⟨noAcks, -, noHolds, notRetry, notDeferred⟩ := failed.nothing
  cases encoding with
  | deferred quiets quiet deferral =>
    cases ends with
    | deferred deferral =>
      exact .deferred deferral (by simp [noAcks, quiet.nothing, Seen.acks])
        (by simp [noHolds, quiet.nothing, Seen.withholds])
  | transferFailed quiets quiet failure =>
    cases ends with
    | failed failure =>
      exact .failed failure (by simp [noAcks, quiet.nothing, Seen.acks])
        (by simp [noHolds, quiet.nothing, Seen.withholds])
  | transferred quiets quiet destinationId acked deleted =>
    cases ends with
    | transferred destinationId acked =>
      exact .moved (by simp [noAcks, quiet.nothing, Seen.acks, report_nothing])
        (by simp [noHolds, quiet.nothing, Seen.withholds, report_nothing, notRetry, notDeferred])
  | notPending quiets quiet =>
    cases ends with
    | notPending =>
      exact .skipped (by simp [noAcks, quiet.nothing, Seen.acks])
        (by simp [noHolds, quiet.nothing, Seen.withholds])
  | appendFailed quiets quiet failure =>
    cases ends with
    | failed failure =>
      exact .failed failure (by simp [noAcks, quiet.nothing, Seen.acks])
        (by simp [noHolds, quiet.nothing, Seen.withholds, readDeadLetter_deadLetterFields])
  | appended quiets quiet destinationId =>
    cases ends with
    | appended destinationId =>
      exact .waits (by simp [noAcks, quiet.nothing, Seen.acks])
        (by simp [noHolds, quiet.nothing, Seen.withholds, notRetry, notDeferred])

theorem EntryRun.effect
    (run : EntryRun queue entry trace disposition) : Effect entry trace disposition := by
  cases run with
  | recorded event => exact .waits rfl rfl
  | retryable event error retry => exact .failed error rfl (by simp [Seen.withholds])
  | deadLetter failed encoding ends => exact deadLetter_effect failed encoding ends

theorem EntryRun.deletes (run : EntryRun queue entry trace disposition) : deletes trace = [] := by
  cases run with
  | recorded event => rfl
  | retryable event error retry => rfl
  | deadLetter failed encoding ends =>
    have early := failed.nothing.2.1
    cases encoding <;> cases ends <;>
      simp [early, Quiet.nothing (by assumption), Seen.deletes, report_nothing]

variable {ids : List String}

theorem FlushRun.effect (run : FlushRun queue ids trace result) :
    acks trace = ids ∧ (∀ id ∈ deletes trace, id ∈ ids) ∧ withholds trace = [] := by
  cases run with
  | ackFailed failure | deleteFailed acked failure => simp [Seen.acks, Seen.deletes, Seen.withholds]
  | acked acked deleted => simp [Seen.acks, Seen.deletes, Seen.withholds, report_nothing]

theorem LastFlush.effect (run : LastFlush queue ids trace) :
    acks trace = ids ∧ (∀ id ∈ deletes trace, id ∈ ids) ∧ withholds trace = [] := by
  cases run with
  | nothing => simp
  | flush run => exact run.effect

/-- Over a whole batch: each id is acked at most once, only ids of the batch are, what is
deleted was acked, and an id that is withheld is never acked. -/
theorem BatchRun.effect (run : BatchRun queue remaining ids trace)
    (distinct : (ids ++ remaining.map RuntimeQueueEntry.id).Nodup) :
    (acks trace).Nodup ∧ (∀ id ∈ acks trace, id ∈ ids ++ remaining.map RuntimeQueueEntry.id) ∧
      (∀ id ∈ deletes trace, id ∈ acks trace) ∧
      (∀ id ∈ withholds trace, id ∈ remaining.map RuntimeQueueEntry.id ∧ id ∉ acks trace) := by
  induction run with
  | finish flush =>
    obtain ⟨taken, deleted, free⟩ := flush.effect
    simp_all
  | @stop entry rest ids trace flushed error run flush =>
    obtain ⟨taken, deleted, free⟩ := flush.effect
    have noDeletes := run.deletes
    simp only [map_cons, nodup_append, mem_cons] at distinct
    cases run.effect with
    | failed error none_ held =>
      simp only [acks_append, deletes_append, withholds_append, none_, held, taken, noDeletes,
        free, nil_append, append_nil, mem_singleton]
      refine ⟨distinct.1, fun id here => mem_append_left _ here, deleted, ?_⟩
      rintro id rfl
      exact ⟨by simp, fun here => distinct.2.2 _ here _ (.inl rfl) rfl⟩
  | @pass entry rest ids trace later disposition run noAck further ih =>
    have noDeletes := run.deletes
    have inner := ih (distinct.sublist (by simp))
    cases run.effect with
    | waits none_ free => exact absurd rfl noAck
    | moved taken free | skipped none_ free | deferred error none_ held =>
      grind [nodup_append, nodup_cons]
  | @collect entry rest ids trace later run further ih =>
    have noDeletes := run.deletes
    have inner := ih (by simpa using distinct)
    cases run.effect with
    | waits none_ free => grind
  | @chunk entry rest ids trace flushed later run flush further ih =>
    have noDeletes := run.deletes
    obtain ⟨taken, deleted, free⟩ := flush.effect
    have inner := ih (distinct.sublist (by simp))
    cases run.effect with
    | waits none_ free => grind [nodup_append, nodup_cons]
  | @chunkFailed entry rest ids trace flushed error run flush =>
    have noDeletes := run.deletes
    obtain ⟨taken, deleted, free⟩ := flush.effect
    cases run.effect with
    | waits none_ free => grind [nodup_append, nodup_cons]

/-! ## What is reported -/

def Seen.reported : Seen Event → Nat
  | ⟨.report (.acked acked), _⟩ => acked
  | _ => 0

/-- How many entries the store says it has acked. -/
def Seen.confirmed : Seen Event → Nat
  | ⟨.ack _ _ _, .ok acked⟩ => acked
  | ⟨.transfer _ _ _ _ _ _, .ok (some (.transferred _ acked _))⟩ => acked
  | _ => 0

def reported (trace : List (Seen Event)) : Nat := (trace.map Seen.reported).sum

def confirmed (trace : List (Seen Event)) : Nat := (trace.map Seen.confirmed).sum

/-- Reports never get ahead of the store, from given counts on. -/
def KeepsUp : Nat → Nat → List (Seen Event) → Prop
  | told, known, [] => told ≤ known
  | told, known, seen :: rest =>
    told ≤ known ∧ KeepsUp (told + seen.reported) (known + seen.confirmed) rest

variable {told known : Nat}

theorem KeepsUp.start (up : KeepsUp told known trace) : told ≤ known := by
  cases trace with
  | nil => exact up
  | cons seen rest => exact up.1

theorem KeepsUp.at {first second : List (Seen Event)} (up : KeepsUp told known (first ++ second)) :
    told + reported first ≤ known + confirmed first := by
  induction first generalizing told known with
  | nil => exact up.start
  | cons seen rest ih =>
    have later := ih up.2
    simp only [reported, confirmed, map_cons, sum_cons] at later ⊢
    omega

theorem KeepsUp.append {first second : List (Seen Event)} (up : KeepsUp told known first)
    (then_ : ∀ told known, told ≤ known → KeepsUp told known second) :
    KeepsUp told known (first ++ second) := by
  induction first generalizing told known with
  | nil => exact then_ told known up
  | cons seen rest ih => exact ⟨up.1, ih up.2⟩

theorem KeepsUp.silent (covered : told ≤ known)
    (silent : ∀ seen ∈ trace, seen.reported = 0) : KeepsUp told known trace := by
  induction trace generalizing told known with
  | nil => exact covered
  | cons seen rest ih =>
    refine ⟨covered, ih ?_ fun later here => silent later (.tail _ here)⟩
    rw [silent seen mem_cons_self]
    omega

theorem Seen.Quiet.reported (quiet : seen.Quiet) : seen.reported = 0 := by
  obtain ⟨request, response⟩ := seen
  cases request <;> first | rfl | cases quiet

theorem EncodingRun.silent {error} (run : EncodingRun queue entry error trace outcome)
    (member : seen ∈ trace) : seen.reported = 0 := by
  cases run with
  | deferred start quiet deferral => exact (quiet seen member).reported
  | transferFailed start quiet | transferred start quiet | notPending start quiet
  | appendFailed start quiet | appended start quiet =>
    rcases mem_append.mp member with early | store
    · exact (quiet seen early).reported
    · simp only [mem_cons, not_mem_nil, or_false] at store
      rcases store with rfl | rfl <;> rfl

theorem EntryRun.keepsUp (run : EntryRun queue entry trace disposition) (covered : told ≤ known) :
    KeepsUp told known trace := by
  cases run with
  | recorded event | retryable event error retry => exact .silent covered (by simp [Seen.reported])
  | deadLetter failed encoding ends =>
    refine KeepsUp.append (.silent covered ?_) fun told known covered => ?_
    · cases failed <;> simp [Seen.reported]
    · cases ends with
      | transferred destinationId acked =>
        cases encoding with
        | transferred start quiet destinationId acked deleted =>
          rw [append_assoc]
          refine KeepsUp.append (.silent covered fun seen here => (quiet seen here).reported) ?_
          -- the transfer confirms what is reported right after it
          intro told known covered
          split <;> simp [KeepsUp, Seen.reported, Seen.confirmed] <;> omega
      | failed | appended | notPending | deferred =>
        refine KeepsUp.append (.silent covered fun seen here => encoding.silent here) ?_
        exact fun told known covered => .silent covered (by simp [Seen.reported])

theorem FlushRun.keepsUp (run : FlushRun queue ids trace result) (covered : told ≤ known) :
    KeepsUp told known trace := by
  cases run with
  | ackFailed failure | deleteFailed acked failure =>
    exact .silent covered (by simp [Seen.reported])
  | acked acked deleted => split <;> simp [KeepsUp, Seen.reported, Seen.confirmed] <;> omega

theorem LastFlush.keepsUp (run : LastFlush queue ids trace) (covered : told ≤ known) :
    KeepsUp told known trace := by
  cases run with
  | nothing => exact covered
  | flush run => exact run.keepsUp covered

theorem BatchRun.keepsUp (run : BatchRun queue remaining ids trace) :
    ∀ told known, told ≤ known → KeepsUp told known trace := by
  induction run with
  | finish flush => exact fun _ _ covered => flush.keepsUp covered
  | stop run flush | chunkFailed run flush =>
    exact fun _ _ covered => (run.keepsUp covered).append fun _ _ => flush.keepsUp
  | pass run noAck further ih | collect run further ih =>
    exact fun _ _ covered => (run.keepsUp covered).append ih
  | chunk run flush further ih =>
    exact fun _ _ covered => (run.keepsUp covered).append fun _ _ later =>
      (flush.keepsUp later).append ih

/-! ## A deferral does not stop the batch -/

def Seen.decodes : Seen Event → List RuntimeQueueEntry
  | ⟨.decode entry, _⟩ => [entry]
  | _ => []

def decodes (trace : List (Seen Event)) : List RuntimeQueueEntry := trace.flatMap Seen.decodes

theorem not_decode (none_ : decodes trace = [])
    (answer : Except DataLayerError Event) : ⟨.decode entry, answer⟩ ∉ trace := by
  intro member
  have found : entry ∈ decodes trace := mem_flatMap.mpr ⟨_, member, by simp [Seen.decodes]⟩
  rw [none_] at found
  cases found

theorem EncodingRun.decodes {error} (run : EncodingRun queue entry error trace outcome) :
    decodes trace = [] := by
  have quietly : ∀ {start : List (Seen Event)}, Usage.Quiet start →
      start.flatMap Seen.decodes = [] := by
    intro start quiet
    rw [flatMap_eq_nil_iff]
    intro seen here
    obtain ⟨request, response⟩ := seen
    cases request <;> first | rfl | cases quiet _ here
  cases run <;> simp [Usage.decodes, quietly (by assumption), Seen.decodes]

theorem OutcomeRun.decodes (run : OutcomeRun entry error eventName outcome trace disposition) :
    decodes trace = [] := by
  cases run with
  | transferred destinationId acked => split <;> rfl
  | failed | appended | notPending | deferred => rfl

theorem EntryRun.starts (run : EntryRun queue entry trace disposition) :
    ∃ answer later, trace = ⟨.decode entry, answer⟩ :: later ∧ Usage.decodes later = [] := by
  cases run with
  | recorded event | retryable event error retry => exact ⟨_, _, rfl, rfl⟩
  | deadLetter failed encoding ends =>
    have middle := encoding.decodes
    have last := ends.decodes
    simp only [Usage.decodes] at middle last
    cases failed <;>
      exact ⟨_, _, rfl, by simp [Usage.decodes, middle, last, Seen.decodes]⟩

theorem BatchRun.starts {rest} (run : BatchRun queue (entry :: rest) ids trace) :
    ∃ answer later, trace = ⟨.decode entry, answer⟩ :: later := by
  cases run with
  | stop run flush | pass run noAck further | collect run further | chunk run flush further
  | chunkFailed run flush =>
    obtain ⟨answer, later, rfl, -⟩ := run.starts
    exact ⟨answer, _, rfl⟩

end

abbrev sawDeferral (entry : RuntimeQueueEntry) (text : String) : Seen Event :=
  sawWarn "usage_worker_dead_letter_encoding_deferred" entry.id text

section

variable {queue : UsageQueue} {entry other : RuntimeQueueEntry} {text : String}

variable {trace : List (Seen Event)}

theorem not_deferral_of_withholds (free : entry.id ∉ withholds trace) :
    sawDeferral entry text ∉ trace :=
  fun member => free (mem_flatMap.mpr ⟨_, member, by simp [Seen.withholds]⟩)

theorem split_right {Item} {mark : Item} {first second before after}
    (absent : mark ∉ first) (same : before ++ mark :: after = first ++ second) :
    ∃ middle, before = first ++ middle ∧ middle ++ mark :: after = second := by
  rcases append_eq_append_iff.mp same with ⟨middle, rfl, rest⟩ | ⟨middle, rfl, rest⟩
  · cases middle with
    | nil => exact ⟨[], by simp, by simpa using rest⟩
    | cons item middle =>
      obtain ⟨rfl, -⟩ := cons.inj rest
      simp at absent
  · exact ⟨middle, rfl, rest.symm⟩

theorem split_left {Item} {mark : Item} {first second before after}
    (absent : mark ∉ second) (same : before ++ mark :: after = first ++ second) :
    ∃ middle, before ++ mark :: middle = first ∧ after = middle ++ second := by
  rcases append_eq_append_iff.mp same with ⟨middle, rfl, rest⟩ | ⟨middle, rfl, rest⟩
  · cases middle with
    | nil => simp [← show mark :: after = second from rest] at absent
    | cons item middle =>
      obtain ⟨rfl, rfl⟩ := cons.inj rest
      exact ⟨middle, rfl, rfl⟩
  · simp [rest] at absent

variable {disposition : Except DataLayerError EntryDisposition}

theorem OutcomeRun.deferral {error eventName} {trace before after : List (Seen Event)}
    (run : OutcomeRun other error eventName outcome trace disposition)
    (plain : eventName ≠ "usage_worker_dead_letter_encoding_deferred")
    (same : before ++ sawDeferral entry text :: after = trace) :
    after = [] ∧ ∃ deferral, disposition = .ok (.deferred deferral) := by
  have member : sawDeferral entry text ∈ trace := by simp [← same]
  cases run with
  | failed failure => cases member
  | transferred destinationId acked =>
    rcases mem_append.mp member with report | rest
    · split at report <;> simp at report
    · simp [Ne.symm plain] at rest
  | appended destinationId => simp [Ne.symm plain] at member
  | notPending => simp at member
  | deferred deferral =>
    cases before with
    | nil => exact ⟨(cons.inj same).2, deferral, rfl⟩
    | cons seen before => simp at same

theorem EntryRun.deferral {trace before after : List (Seen Event)}
    (run : EntryRun queue other trace disposition)
    (same : before ++ sawDeferral entry text :: after = trace) :
    after = [] ∧ ∃ deferral, disposition = .ok (.deferred deferral) := by
  cases run with
  | recorded event =>
    have member : sawDeferral entry text ∈ [_, _] := same ▸ (by simp : _ ∈ before ++ _ :: after)
    simp at member
  | retryable event error retry =>
    have member : sawDeferral entry text ∈ [_, _, _] := same ▸ (by simp : _ ∈ before ++ _ :: after)
    simp at member
  | @deadLetter start middle last error eventName outcome _ failed encoding ends =>
    have early : sawDeferral entry text ∉ start := by
      apply not_deferral_of_withholds
      simp [failed.nothing]
    have stored : sawDeferral entry text ∉ middle := by
      intro member
      cases encoding with
      | deferred start quiet deferral => exact quiet _ member
      | transferFailed start quiet | transferred start quiet | notPending start quiet
      | appendFailed start quiet | appended start quiet =>
        rcases mem_append.mp member with early | store
        · exact quiet _ early
        · simp at store
    obtain ⟨rest, -, inner⟩ := split_right early same
    obtain ⟨rest, -, innermost⟩ := split_right stored inner
    exact ends.deferral failed.nothing.2.2.2.2 innermost

variable {ids : List String}

theorem BatchRun.not_deferral (run : BatchRun queue remaining ids trace)
    (distinct : (ids ++ remaining.map RuntimeQueueEntry.id).Nodup)
    (gone : entry.id ∉ remaining.map RuntimeQueueEntry.id) : sawDeferral entry text ∉ trace :=
  not_deferral_of_withholds fun held => gone ((run.effect distinct).2.2.2 entry.id held).1

theorem BatchRun.deferral_behind {first next rest earlier later middle after}
    (further : BatchRun queue rest ids trace)
      (shorter : (ids ++ rest.map RuntimeQueueEntry.id).Nodup)
    (once : first.id ∉ rest.map RuntimeQueueEntry.id)
    (batch : first :: rest = earlier ++ entry :: next :: later)
    (inside : middle ++ sawDeferral entry text :: after = trace) :
    ∃ skipped, earlier = first :: skipped ∧ rest = skipped ++ entry :: next :: later := by
  cases earlier with
  | nil =>
    obtain ⟨rfl, rfl⟩ := cons.inj batch
    have absent : sawDeferral first text ∉ trace := further.not_deferral shorter once
    simp [← inside] at absent
  | cons skipped earlier =>
    obtain ⟨rfl, rfl⟩ := cons.inj batch
    exact ⟨earlier, rfl, rfl⟩

theorem BatchRun.deferral (run : BatchRun queue remaining ids trace)
    (distinct : (ids ++ remaining.map RuntimeQueueEntry.id).Nodup)
    {earlier later : List RuntimeQueueEntry} {next}
    (batch : remaining = earlier ++ entry :: next :: later) {before after}
    (same : before ++ sawDeferral entry text :: after = trace) :
    ∃ answer rest, after = ⟨.decode next, answer⟩ :: rest := by
  induction run generalizing earlier before with
  | finish flush => simp at batch
  | stop run flush | chunkFailed run flush =>
    obtain ⟨middle, inside, -⟩ := split_left
      (not_deferral_of_withholds (by simp [flush.effect])) same
    obtain ⟨-, deferral, impossible⟩ := run.deferral inside
    cases impossible
  | @pass first rest ids trace0 laterTrace disposition run noAck further ih =>
    have shorter : (ids ++ rest.map RuntimeQueueEntry.id).Nodup := distinct.sublist (by simp)
    cases earlier with
    | nil =>
      obtain ⟨rfl, rfl⟩ := cons.inj batch
      have gone : first.id ∉ (next :: later).map RuntimeQueueEntry.id :=
        (nodup_cons.mp (distinct.sublist (sublist_append_right _ _))).1
      obtain ⟨middle, inside, rfl⟩ := split_left (further.not_deferral shorter gone) same
      obtain ⟨rfl, -⟩ := run.deferral inside
      exact further.starts
    | cons skipped earlier =>
      obtain ⟨rfl, rfl⟩ := cons.inj batch
      have apart : entry.id ≠ first.id := by
        rintro equal
        have once := (nodup_cons.mp (distinct.sublist (sublist_append_right _ _))).1
        exact once (by simp [← equal])
      have absent : sawDeferral entry text ∉ trace0 := not_deferral_of_withholds (by
        cases run.effect <;> simp_all)
      obtain ⟨middle, -, inside⟩ := split_right absent same
      exact ih shorter rfl inside
  | @collect first rest ids trace0 laterTrace run further ih =>
    have shorter : (ids ++ [first.id] ++ rest.map RuntimeQueueEntry.id).Nodup := by
      simpa using distinct
    have absent : sawDeferral entry text ∉ trace0 := not_deferral_of_withholds (by
      cases run.effect with
      | waits none_ free => simp [free])
    obtain ⟨middle, -, inside⟩ := split_right absent same
    have once := (nodup_cons.mp (distinct.sublist (sublist_append_right _ _))).1
    obtain ⟨skipped, rfl, rfl⟩ := further.deferral_behind shorter once batch inside
    exact ih shorter rfl inside
  | @chunk first rest ids trace0 flushed laterTrace run flush further ih =>
    have shorter : ([] ++ rest.map RuntimeQueueEntry.id).Nodup := distinct.sublist (by simp)
    have absent : sawDeferral entry text ∉ trace0 := not_deferral_of_withholds (by
      cases run.effect with
      | waits none_ free => simp [free])
    obtain ⟨middle, -, outside⟩ := split_right absent same
    obtain ⟨middle, -, inside⟩ := split_right
      (not_deferral_of_withholds (by simp [flush.effect])) outside
    have once := (nodup_cons.mp (distinct.sublist (sublist_append_right _ _))).1
    obtain ⟨skipped, rfl, rfl⟩ := further.deferral_behind shorter once batch inside
    exact ih shorter rfl inside

theorem FlushRun.decodes (run : FlushRun queue ids trace result) : Usage.decodes trace = [] := by
  cases run with
  | acked acked deleted => split <;> rfl
  | ackFailed | deleteFailed => rfl

theorem LastFlush.decodes (run : LastFlush queue ids trace) : Usage.decodes trace = [] := by
  cases run with
  | nothing => rfl
  | flush run => exact run.decodes

/-- The recorder refused the event of this entry, but not for good. -/
def Retryable (trace : List (Seen Event)) (entry : RuntimeQueueEntry) : Prop :=
  ∃ before event error after, ¬ usageEventRecordErrorIsPermanent error ∧
    trace = before ++ ⟨.decode entry, .ok event⟩ :: ⟨.record event, .error error⟩ :: after

theorem not_retryable (none_ : decodes trace = []) : ¬ Retryable trace entry := by
  rintro ⟨before, event, error, after, -, rfl⟩
  exact not_decode none_ (.ok event) (mem_append_right before mem_cons_self)

theorem EntryRun.retryable_cases {first tail : List (Seen Event)}
    (run : EntryRun queue other first disposition) (retry : Retryable (first ++ tail) entry) :
    entry.id ∈ withholds first ∨ Retryable tail entry := by
  obtain ⟨before, event, error, after, temporary, same⟩ := retry
  obtain ⟨answer, later, starts, once⟩ := run.starts
  cases before with
  | nil =>
    left
    cases run with
    | recorded event => simp at same
    | retryable event error retry =>
      simp only [cons_append, nil_append, cons.injEq] at same
      obtain ⟨head, -⟩ := same
      cases head
      simp [Seen.withholds]
    | deadLetter failed encoding ends =>
      cases failed with
      | undecodable error => simp at same
      | unrecordable event error permanent =>
        simp only [cons_append, nil_append, cons.injEq] at same
        obtain ⟨-, refusal, -⟩ := same
        cases refusal
        exact absurd permanent temporary
  | cons seen before =>
    right
    rw [starts] at same
    obtain ⟨-, rest⟩ := cons.inj same
    obtain ⟨middle, -, inside⟩ := split_right (not_decode once (.ok event)) rest.symm
    exact ⟨middle, event, error, after, temporary, inside.symm⟩

theorem BatchRun.retryable (run : BatchRun queue remaining ids trace)
    (retry : Retryable trace entry) : entry.id ∈ withholds trace := by
  induction run with
  | finish flush => exact absurd retry (not_retryable flush.decodes)
  | stop run flush =>
    rcases run.retryable_cases retry with here | later
    · simp [here]
    · exact absurd later (not_retryable flush.decodes)
  | pass run noAck further ih | collect run further ih =>
    rcases run.retryable_cases retry with here | later
    · simp [here]
    · simp [ih later]
  | chunk run flush further ih =>
    rcases run.retryable_cases retry with here | later
    · simp [here]
    · obtain ⟨before, event, error, after, temporary, same⟩ := later
      obtain ⟨middle, -, inside⟩ := split_right (not_decode flush.decodes (.ok event)) same.symm
      simp [ih ⟨middle, event, error, after, temporary, inside.symm⟩]
  | chunkFailed run flush =>
    rcases run.retryable_cases retry with here | later
    · simp [here]
    · exact absurd later (not_retryable flush.decodes)

end

/-! ## The batch as a whole -/

/-- Answers for a store without native transfer that takes every dead letter, and a decoder
that knows one entry only. -/
def plainAnswers : (question : WorkerRequest Nat) → WorkerResponse question
  | .decode entry => if entry.id = "2-0" then .ok 7 else .error (.invalidInput "no payload")
  | .record _ => .ok ()
  | .reserve _ => true
  | .encode => none
  | .transfer .. => .ok none
  | .append .. => .ok "1-0"
  | .ack _ _ ids => .ok ids.length
  | .delete _ ids => .ok ids.length
  | .report _ => ()
  | .warn .. => ()

end Aeris.Usage
