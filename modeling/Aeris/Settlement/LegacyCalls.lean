import Aeris.Settlement.FundsCalls

/-! The funds calls that know no attempts touch one reservation without an
attempt, the wallets and the settlements, and nothing else. -/
namespace Aeris.Settlement

namespace SettlementRepository

variable {repo next : SettlementRepository}

/-- The tables of the usage policy, of the attempts and of their parents are the same. -/
structure FundsFrame (repo next : SettlementRepository) : Prop where
  rows : next.costReservations = repo.costReservations
  admissions : next.requestAdmissions = repo.requestAdmissions
  metadata : next.attemptMetadata = repo.attemptMetadata
  usage : next.usage = repo.usage

theorem FundsFrame.refl (repo : SettlementRepository) : FundsFrame repo repo :=
  ⟨rfl, rfl, rfl, rfl⟩

theorem reserveInner_frame {input attemptId outcome}
    (success : repo.reserveInner input attemptId = .ok (outcome, next)) : FundsFrame repo next := by
  rcases reserveInner_cases success with ⟨rfl, _⟩ | ⟨_, _, _, _, _, _, rfl⟩
  · exact .refl _
  · exact ⟨rfl, rfl, rfl, rfl⟩

theorem settleReservation_frame {input reservation result actual}
    (success : repo.settleReservation input reservation actual = .ok (result, next)) :
    FundsFrame repo next := by
  obtain ⟨debits, _, success⟩ := bind_ok success
  obtain ⟨_, success⟩ := refuse_ok success
  obtain ⟨charged, _, success⟩ := bind_ok success
  obtain ⟨counted, _, success⟩ := bind_ok success
  cases success
  exact ⟨rfl, rfl, rfl, rfl⟩

theorem finalizeInner_frame {input attemptId outcome}
    (success : repo.finalizeInner input attemptId = .ok (outcome, next)) :
    FundsFrame repo next := by
  rcases finalizeInner_cases success with
    ⟨rfl, _⟩ | ⟨reservation, result, actual, _, _, _, _, _, _, settled⟩
  · exact .refl _
  · exact settleReservation_frame settled

inductive LegacyStep (repo next : SettlementRepository) : Prop where
  | same (frame : FundsFrame repo next) (funds : next.funds = repo.funds)
  | wrote (token : String) (reservation : StoredRequestFundsReservation)
      (frame : FundsFrame repo next)
      (funds : next.funds = repo.funds.insert token reservation)
      (legacy : reservation.attemptId = none)
      (before : ∀ old, repo.funds.get? token = some old → old.attemptId = none)

theorem LegacyStep.refl (repo : SettlementRepository) : LegacyStep repo repo :=
  .same (.refl repo) rfl

theorem LegacyStep.frame (step : LegacyStep repo next) : FundsFrame repo next := by
  cases step with
  | same frame funds | wrote token reservation frame funds legacy before => exact frame

theorem storeFunds_legacy {token reservation} (found : repo.funds.get? token = some reservation)
    (legacy : ¬ reservation.attemptId.isSome) (changed : StoredRequestFundsReservation)
    (same : changed.attemptId = reservation.attemptId) :
    LegacyStep repo (repo.storeFunds token changed) := by
  have unnamed : reservation.attemptId = none := by simpa using legacy
  refine .wrote token changed ⟨rfl, rfl, rfl, rfl⟩ rfl (same.trans unnamed) ?_
  intro old stored
  cases found.symm.trans stored
  exact unnamed

theorem reserveRequestFunds_legacy (input : ReserveRequestFundsInput) :
    LegacyStep repo (reserveRequestFunds input repo).2 := by
  apply atomically_keeps (.refl repo)
  intro outcome next success
  rcases reserveInner_cases (refuse_ok success).2 with
    ⟨rfl, _⟩ | ⟨walletId, allocations, _, fresh, _, _, rfl⟩
  · exact .refl _
  · refine .wrote _ _ ⟨rfl, rfl, rfl, rfl⟩ rfl rfl ?_
    intro old found
    rw [fresh] at found
    cases found

theorem markRequestFundsDispatched_legacy (identity : RequestFundsIdentity) :
    LegacyStep repo (markRequestFundsDispatched identity repo).2 := by
  apply atomically_keeps (.refl repo)
  intro outcome next success
  have success := check_ok success
  cases found : repo.funds.get? identity.reservationToken with
  | none =>
    simp only [found] at success
    cases success
    exact .refl _
  | some reservation =>
    simp only [found] at success
    obtain ⟨own, success⟩ := refuse_ok success
    obtain ⟨_, success⟩ := refuse_ok success
    cases success
    exact storeFunds_legacy found (fun named => own (.inr named)) _ rfl

theorem releaseRequestFunds_legacy (input : ReleaseRequestFundsInput) :
    LegacyStep repo (releaseRequestFunds input repo).2 := by
  apply atomically_keeps (.refl repo)
  intro outcome next success
  have success := check_ok success
  cases found : repo.funds.get? input.identity.reservationToken with
  | none =>
    simp only [found] at success
    cases success
    exact .refl _
  | some reservation =>
    simp only [found] at success
    obtain ⟨own, success⟩ := refuse_ok success
    obtain ⟨_, success⟩ := refuse_ok success
    cases success
    exact storeFunds_legacy found (fun named => own (.inr named)) _ rfl

theorem finalizeRequestFunds_legacy (funds : repo.FundsSound)
    (input : FinalizeRequestFundsInput) : LegacyStep repo (finalizeRequestFunds input repo).2 := by
  apply atomically_keeps (.refl repo)
  intro outcome next success
  rcases finalizeInner_cases (check_ok success) with
    ⟨rfl, _⟩ | ⟨reservation, result, actual, found, legacy, _, _, _, _, settled⟩
  · exact .refl _
  · obtain ⟨⟨settlement, rfl⟩, _, _, frame⟩ :=
      settleReservation_spec funds found settled
    refine .wrote _ _ (settleReservation_frame settled)
      (congrArg SettlementRepository.funds frame) legacy ?_
    intro old same
    cases found.symm.trans same
    exact legacy

theorem recoverFrom_frame {request usage id wallet actual outcome}
    (success : repo.recoverFrom request usage id wallet actual = .ok (outcome, next)) :
    LegacyStep repo next := by
  obtain ⟨_, success⟩ := refuse_ok success
  obtain ⟨recharge, _, success⟩ := bind_ok success
  obtain ⟨gift, _, success⟩ := bind_ok success
  obtain ⟨after, _, success⟩ := bind_ok success
  cases frozen : repo.settlements.get? request with
  | none => simp only [frozen] at success; cases success
  | some settlement =>
    simp only [frozen] at success
    obtain ⟨pair, _, success⟩ := bind_ok success
    cases success
    exact .same ⟨rfl, rfl, rfl, rfl⟩ rfl

theorem recoverInsufficientQuota_legacy (request : String) :
    LegacyStep repo (recoverInsufficientQuota request repo).2 := by
  rcases recoverInsufficientQuota_run request repo with
    ⟨same, _⟩ | ⟨usage, actual, id, wallet, answer, _, _, _, recovered, _⟩
  · rw [same]
    exact .refl repo
  · exact recoverFrom_frame recovered

end SettlementRepository

end Aeris.Settlement
