import A2AProvisioning.Interfaces
import Mathlib.Algebra.Order.Ring.Int
import Mathlib.Logic.Function.Basic
import Mathlib.Tactic.Ring

/-! The port to OpenZeppelin's ERC20, which `MockTOK` adds an open faucet to: its operations, what the
standard says of each, and a ledger that meets it. -/

namespace A2AProvisioning.Settlement

/-- The reverts of the token, as far as they are told apart. -/
inductive TokenError
  | insufficientBalance
  | insufficientAllowance
  | invalidAccount
  | overflow
  deriving DecidableEq

/-- A ledger with states `K`. An operation takes the sender of the call where it uses one. -/
structure ERC20 (K : Type) where
  deployed : K
  balanceOf : K → Address → Nat
  allowance : K → Address → Address → Nat
  totalSupply : K → Nat
  mint : Address → Nat → K → Except TokenError K
  approve : Address → Address → Nat → K → Except TokenError K
  transfer : Address → Address → Nat → K → Except TokenError K
  transferFrom : Address → Address → Address → Nat → K → Except TokenError K

/-- An allowance of this much is not used up. -/
def infiniteAllowance : Nat := 2 ^ 256 - 1

/-- The balances after a movement of so much. -/
def moved (balance : Address → Nat) (source target : Address) (amount : Nat) : Address → Nat :=
  let debited := Function.update balance source (balance source - amount)
  Function.update debited target (debited target + amount)

/-- The allowances after the spender has used so much of one. -/
def spent (allowance : Address → Address → Nat) (source spender : Address) (amount : Nat) :
    Address → Address → Nat :=
  if allowance source spender = infiniteAllowance then allowance
  else Function.update allowance source
    (Function.update (allowance source) spender (allowance source spender - amount))

/-- What an account gains by a movement. -/
def flow (source target : Address) (amount : Nat) (a : Address) : Int :=
  (if a = target then (amount : Int) else 0) - if a = source then (amount : Int) else 0

theorem moved_eq {balance : Address → Nat} {source : Address} {amount : Nat} (hcovered : amount ≤ balance source)
    (target a : Address) : (moved balance source target amount a : Int) = balance a + flow source target amount a := by
  rw [moved, flow]
  by_cases hsource : a = source
  · by_cases htarget : a = target
    · subst hsource htarget
      rw [Function.update_self, Function.update_self, if_pos rfl]
      omega
    · rw [Function.update_of_ne htarget, hsource, Function.update_self, if_neg (hsource ▸ htarget), if_pos rfl]
      omega
  · by_cases htarget : a = target
    · subst htarget
      rw [Function.update_self, Function.update_of_ne hsource, if_pos rfl, if_neg hsource]
      omega
    · rw [Function.update_of_ne htarget, Function.update_of_ne hsource, if_neg htarget, if_neg hsource]
      omega

namespace ERC20

variable {K : Type} (erc20 : ERC20 K)

/-- The standard, as far as the settlement relies on it. -/
structure Spec : Prop where
  deployed : (∀ a, erc20.balanceOf erc20.deployed a = 0) ∧ (∀ a b, erc20.allowance erc20.deployed a b = 0) ∧
    erc20.totalSupply erc20.deployed = 0
  mint : ∀ k k' target amount, erc20.mint target amount k = .ok k' →
    erc20.balanceOf k' = Function.update (erc20.balanceOf k) target (erc20.balanceOf k target + amount) ∧
      erc20.allowance k' = erc20.allowance k ∧ erc20.totalSupply k' = erc20.totalSupply k + amount
  approve : ∀ k k' sender spender amount, erc20.approve sender spender amount k = .ok k' →
    erc20.balanceOf k' = erc20.balanceOf k ∧
      erc20.allowance k' = Function.update (erc20.allowance k) sender
        (Function.update (erc20.allowance k sender) spender amount) ∧
      erc20.totalSupply k' = erc20.totalSupply k
  transfer : ∀ k k' sender target amount, erc20.transfer sender target amount k = .ok k' →
    amount ≤ erc20.balanceOf k sender ∧
      erc20.balanceOf k' = moved (erc20.balanceOf k) sender target amount ∧
      erc20.allowance k' = erc20.allowance k ∧ erc20.totalSupply k' = erc20.totalSupply k
  transferFrom : ∀ k k' spender source target amount, erc20.transferFrom spender source target amount k = .ok k' →
    amount ≤ erc20.allowance k source spender ∧ amount ≤ erc20.balanceOf k source ∧
      erc20.balanceOf k' = moved (erc20.balanceOf k) source target amount ∧
      erc20.allowance k' = spent (erc20.allowance k) source spender amount ∧
      erc20.totalSupply k' = erc20.totalSupply k
  approve_isOk : ∀ k sender spender amount, sender ≠ 0 → spender ≠ 0 → ∃ k', erc20.approve sender spender amount k = .ok k'
  transferFrom_isOk : ∀ k spender source target amount, spender ≠ 0 → source ≠ 0 → target ≠ 0 →
    amount ≤ erc20.allowance k source spender → amount ≤ erc20.balanceOf k source →
      ∃ k', erc20.transferFrom spender source target amount k = .ok k'
  transferFrom_balance : ∀ k spender source target amount, spender ≠ 0 → source ≠ 0 → target ≠ 0 →
    amount ≤ erc20.allowance k source spender → erc20.balanceOf k source < amount →
      erc20.transferFrom spender source target amount k = .error .insufficientBalance

end ERC20

/-! ### A ledger that meets the standard -/

structure Ledger where
  balanceOf : Address → Nat
  allowance : Address → Address → Nat
  totalSupply : Nat

namespace Ledger

def mint (target : Address) (amount : Nat) (k : Ledger) : Except TokenError Ledger :=
  if target = 0 then .error .invalidAccount
  else if k.totalSupply + amount < 2 ^ 256 then .ok { k with
    balanceOf := Function.update k.balanceOf target (k.balanceOf target + amount)
    totalSupply := k.totalSupply + amount }
  else .error .overflow

def approve (sender spender : Address) (amount : Nat) (k : Ledger) : Except TokenError Ledger :=
  if sender = 0 ∨ spender = 0 then .error .invalidAccount
  else .ok { k with
    allowance := Function.update k.allowance sender (Function.update (k.allowance sender) spender amount) }

def transfer (sender target : Address) (amount : Nat) (k : Ledger) : Except TokenError Ledger :=
  if sender = 0 ∨ target = 0 then .error .invalidAccount
  else if k.balanceOf sender < amount then .error .insufficientBalance
  else .ok { k with balanceOf := moved k.balanceOf sender target amount }

def transferFrom (spender source target : Address) (amount : Nat) (k : Ledger) : Except TokenError Ledger :=
  if k.allowance source spender < amount then .error .insufficientAllowance
  else if spender = 0 then .error .invalidAccount
  else transfer source target amount { k with allowance := spent k.allowance source spender amount }

def erc20 : ERC20 Ledger where
  deployed := ⟨fun _ => 0, fun _ _ => 0, 0⟩
  balanceOf := balanceOf
  allowance := allowance
  totalSupply := totalSupply
  mint := mint
  approve := approve
  transfer := transfer
  transferFrom := transferFrom

theorem transfer_ok {sender target : Address} {amount : Nat} {k k' : Ledger}
    (h : transfer sender target amount k = .ok k') :
    amount ≤ k.balanceOf sender ∧ k' = { k with balanceOf := moved k.balanceOf sender target amount } := by
  rw [transfer] at h
  split_ifs at h with haccount hcovered
  cases h
  exact ⟨not_lt.mp hcovered, rfl⟩

theorem erc20_spec : erc20.Spec where
  deployed := ⟨fun _ => rfl, fun _ _ => rfl, rfl⟩
  mint := by
    intro k k' target amount hmint
    change mint target amount k = .ok k' at hmint
    rw [mint] at hmint
    split_ifs at hmint
    cases hmint
    exact ⟨rfl, rfl, rfl⟩
  approve := by
    intro k k' sender spender amount happrove
    change approve sender spender amount k = .ok k' at happrove
    rw [approve] at happrove
    split_ifs at happrove
    cases happrove
    exact ⟨rfl, rfl, rfl⟩
  transfer := by
    intro k k' sender target amount htransfer
    obtain ⟨hcovered, rfl⟩ := transfer_ok htransfer
    exact ⟨hcovered, rfl, rfl, rfl⟩
  transferFrom := by
    intro k k' spender source target amount htransfer
    change transferFrom spender source target amount k = .ok k' at htransfer
    rw [transferFrom] at htransfer
    split_ifs at htransfer with hallowed
    obtain ⟨hcovered, rfl⟩ := transfer_ok htransfer
    exact ⟨not_lt.mp hallowed, hcovered, rfl, rfl, rfl⟩
  approve_isOk := by
    intro k sender spender amount hsender hspender
    refine ⟨_, if_neg ?_⟩
    rintro (hzero | hzero)
    · exact hsender hzero
    · exact hspender hzero
  transferFrom_isOk := by
    intro k spender source target amount hspender hsource htarget hallowed hcovered
    refine ⟨{ k with
      balanceOf := moved k.balanceOf source target amount
      allowance := spent k.allowance source spender amount }, ?_⟩
    change amount ≤ k.allowance source spender at hallowed
    change transferFrom spender source target amount k = _
    have haccount : ¬ (source = 0 ∨ target = 0) := fun h => h.elim hsource htarget
    rw [transferFrom, if_neg (not_lt.mpr hallowed), if_neg hspender, transfer, if_neg haccount]
    exact if_neg (not_lt.mpr hcovered)
  transferFrom_balance := by
    intro k spender source target amount hspender hsource htarget hallowed hshort
    change amount ≤ k.allowance source spender at hallowed
    change transferFrom spender source target amount k = _
    have haccount : ¬ (source = 0 ∨ target = 0) := fun h => h.elim hsource htarget
    rw [transferFrom, if_neg (not_lt.mpr hallowed), if_neg hspender, transfer, if_neg haccount]
    exact if_pos hshort

end Ledger

end A2AProvisioning.Settlement
