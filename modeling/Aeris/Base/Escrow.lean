import Aeris.Base.OrderedTable

/-! Money in escrow. Accounts have balances; entries hold part of a balance and
may later charge what they hold. An entry is any value with a `hold` and a
`charge` for each account. The holds on an account never exceed its balance, and
what left an account is what its entries have charged. -/
namespace Aeris.Escrow

structure Ledger (Key Account Value : Type) [LinearOrder Key] where
  balance : Account → Nat
  entries : OrderedTable Key Value

variable {Key Account Value : Type} [LinearOrder Key]

section

variable (hold charge : Value → Account → Nat)

def held (ledger : Ledger Key Account Value) (account : Account) : Nat :=
  ledger.entries.total (fun entry => hold entry account)

def charged (ledger : Ledger Key Account Value) (account : Account) : Nat :=
  ledger.entries.total (fun entry => charge entry account)

/-- A step that spends nothing outside the entries. -/
inductive Transfer (before after : Ledger Key Account Value) : Prop where
  | idle (balance : after.balance = before.balance) (entries : after.entries = before.entries)
  | reserve (key : Key) (entry : Value)
      (fresh : before.entries.get? key = none)
      (free : ∀ account, charge entry account = 0)
      (room : ∀ account, hold entry account = 0 ∨
        held hold before account + hold entry account ≤ before.balance account)
      (balance : after.balance = before.balance)
      (entries : after.entries = before.entries.insert key entry)
  | resolve (key : Key) (old entry : Value)
      (found : before.entries.get? key = some old)
      (grows : ∀ account, charge old account ≤ charge entry account)
      (within : ∀ account,
        hold entry account + charge entry account ≤ hold old account + charge old account)
      (balance : ∀ account, after.balance account + charge entry account =
        before.balance account + charge old account)
      (entries : after.entries = before.entries.insert key entry)

/-- A transfer, or a payment from what no entry holds. -/
inductive Step (before after : Ledger Key Account Value) : Prop where
  | transfer (step : Transfer hold charge before after)
  | spend (amount : Account → Nat)
      (free : ∀ account, amount account = 0 ∨
        held hold before account + amount account ≤ before.balance account)
      (balance : ∀ account, after.balance account + amount account = before.balance account)
      (entries : after.entries = before.entries)

def Covered (ledger : Ledger Key Account Value) : Prop :=
  ∀ account, held hold ledger account ≤ ledger.balance account

end

variable {hold charge : Value → Account → Nat} {before after : Ledger Key Account Value}

theorem transfer_covered (step : Transfer hold charge before after)
    (covered : Covered hold before) : Covered hold after := by
  intro account
  have enough := covered account
  unfold held at enough ⊢
  cases step with
  | idle balance entries => rw [balance, entries]; exact enough
  | reserve key entry fresh free room balance entries =>
    have grown := before.entries.total_insert_fresh entry (fun entry => hold entry account) fresh
    rw [balance, entries, grown]
    rcases room account with nothing | fits
    · omega
    · exact fits
  | resolve key old entry found grows within balance entries =>
    have moved := before.entries.total_insert key entry (fun entry => hold entry account)
    have paid := balance account
    have smaller := within account
    simp only [found, Option.elim_some] at moved
    rw [entries]
    omega

theorem step_covered (step : Step hold charge before after) (covered : Covered hold before) :
    Covered hold after := by
  cases step with
  | transfer step => exact transfer_covered step covered
  | spend amount free balance entries =>
    intro account
    have enough := covered account
    have paid := balance account
    unfold held at *
    rw [entries]
    rcases free account with nothing | fits
    · omega
    · omega

/-- A transfer moves money from the balance to the charges and nowhere else. -/
theorem transfer_conserves (step : Transfer hold charge before after) (account : Account) :
    after.balance account + charged charge after account =
      before.balance account + charged charge before account := by
  unfold charged
  cases step with
  | idle balance entries => rw [balance, entries]
  | reserve key entry fresh free room balance entries =>
    have grown := before.entries.total_insert_fresh entry (fun entry => charge entry account)
      fresh
    rw [balance, entries, grown, free account, Nat.add_zero]
  | resolve key old entry found grows within balance entries =>
    have moved := before.entries.total_insert key entry (fun entry => charge entry account)
    have paid := balance account
    simp only [found, Option.elim_some] at moved
    rw [entries]
    omega

end Aeris.Escrow
