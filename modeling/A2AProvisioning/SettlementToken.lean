import A2AProvisioning.Interfaces
import Mathlib.Logic.Function.Basic

/-! The port to OpenZeppelin's ERC721: the operations that `A2ASettlement` inherits or calls, what the
standard says of each when it does not revert, and a registry that meets it. -/

namespace A2AProvisioning.Settlement

/-- A token ledger with states `T`. An operation takes the sender of the call where it checks one, and
is `none` where it reverts; an id without an owner has the owner zero. -/
structure ERC721 (T : Type) where
  deployed : T
  owner : T → Nat → Address
  approved : T → Nat → Address
  operator : T → Address → Address → Bool
  mint : Address → Nat → T → Option T
  approve : Address → Address → Nat → T → Option T
  setApprovalForAll : Address → Address → Bool → T → Option T
  transferFrom : Address → Address → Address → Nat → T → Option T

namespace ERC721

variable {T : Type} (erc721 : ERC721 T)

/-- The owner, or an operator of the owner. -/
def Controls (t : T) (sender : Address) (id : Nat) : Prop :=
  erc721.owner t id ≠ 0 ∧ (sender = erc721.owner t id ∨ erc721.operator t (erc721.owner t id) sender = true)

/-- Who may move an id: those in control of it, and the account approved for it. -/
def Authorized (t : T) (sender : Address) (id : Nat) : Prop :=
  erc721.Controls t sender id ∨ erc721.owner t id ≠ 0 ∧ erc721.approved t id = sender

/-- The standard, as far as the contract relies on it. A registry is deployed without tokens, approvals or
operators. -/
structure Spec : Prop where
  owner_deployed : ∀ id, erc721.owner erc721.deployed id = 0
  approved_deployed : ∀ id, erc721.approved erc721.deployed id = 0
  operator_deployed : ∀ account operator, erc721.operator erc721.deployed account operator = false
  mint_isSome : ∀ t target id, target ≠ 0 → erc721.owner t id = 0 → (erc721.mint target id t).isSome
  mint : ∀ t t' target id, erc721.mint target id t = some t' →
    target ≠ 0 ∧ erc721.owner t id = 0 ∧ erc721.owner t' = Function.update (erc721.owner t) id target ∧
      erc721.approved t' = erc721.approved t ∧ erc721.operator t' = erc721.operator t
  approve : ∀ t t' sender target id, erc721.approve sender target id t = some t' →
    erc721.Controls t sender id ∧ erc721.owner t' = erc721.owner t ∧
      erc721.approved t' = Function.update (erc721.approved t) id target ∧
      erc721.operator t' = erc721.operator t
  setApprovalForAll : ∀ t t' sender operator ok, erc721.setApprovalForAll sender operator ok t = some t' →
    erc721.owner t' = erc721.owner t ∧ erc721.approved t' = erc721.approved t ∧
      erc721.operator t' = Function.update (erc721.operator t) sender
        (Function.update (erc721.operator t sender) operator ok)
  transferFrom : ∀ t t' sender source target id, erc721.transferFrom sender source target id t = some t' →
    erc721.Authorized t sender id ∧ erc721.owner t id = source ∧ target ≠ 0 ∧
      erc721.owner t' = Function.update (erc721.owner t) id target ∧
      erc721.approved t' = Function.update (erc721.approved t) id 0 ∧
      erc721.operator t' = erc721.operator t

end ERC721

/-! ### A registry that meets the standard -/

structure Registry where
  owner : Nat → Address
  approved : Nat → Address
  operator : Address → Address → Bool

namespace Registry

def controls (r : Registry) (sender : Address) (id : Nat) : Bool :=
  r.owner id ≠ 0 && (sender == r.owner id || r.operator (r.owner id) sender)

def mint (target : Address) (id : Nat) (r : Registry) : Option Registry :=
  if target = 0 then none
  else if r.owner id ≠ 0 then none
  else some { r with owner := Function.update r.owner id target }

def approve (sender target : Address) (id : Nat) (r : Registry) : Option Registry :=
  if r.controls sender id then some { r with approved := Function.update r.approved id target } else none

def setApprovalForAll (sender operator : Address) (ok : Bool) (r : Registry) : Option Registry :=
  if operator = 0 then none
  else some { r with
    operator := Function.update r.operator sender (Function.update (r.operator sender) operator ok) }

def transferFrom (sender source target : Address) (id : Nat) (r : Registry) : Option Registry :=
  if target = 0 then none
  else if r.owner id = 0 then none
  else if ¬ (r.controls sender id ∨ r.approved id = sender) then none
  else if r.owner id ≠ source then none
  else some { r with
    owner := Function.update r.owner id target
    approved := Function.update r.approved id 0 }

def erc721 : ERC721 Registry where
  deployed := ⟨fun _ => 0, fun _ => 0, fun _ _ => false⟩
  owner := owner
  approved := approved
  operator := operator
  mint := mint
  approve := approve
  setApprovalForAll := setApprovalForAll
  transferFrom := transferFrom

theorem controls_iff (r : Registry) (sender : Address) (id : Nat) :
    r.controls sender id = true ↔ erc721.Controls r sender id := by
  simp [controls, ERC721.Controls, erc721]

theorem erc721_spec : erc721.Spec where
  owner_deployed := fun _ => rfl
  approved_deployed := fun _ => rfl
  operator_deployed := fun _ _ => rfl
  mint_isSome := by
    intro r target id hto howner
    have hfree : ¬ r.owner id ≠ 0 := not_not.mpr howner
    change (mint target id r).isSome = true
    rw [mint, if_neg hto, if_neg hfree]
    rfl
  mint := by
    intro r r' target id hmint
    change mint target id r = some r' at hmint
    rw [mint] at hmint
    split_ifs at hmint with hto howner
    cases hmint
    exact ⟨hto, not_not.mp howner, rfl, rfl, rfl⟩
  approve := by
    intro r r' sender target id happrove
    change approve sender target id r = some r' at happrove
    rw [approve] at happrove
    split_ifs at happrove with hcontrols
    cases happrove
    exact ⟨(controls_iff r sender id).mp hcontrols, rfl, rfl, rfl⟩
  setApprovalForAll := by
    intro r r' sender operator ok hset
    change setApprovalForAll sender operator ok r = some r' at hset
    rw [setApprovalForAll] at hset
    split_ifs at hset
    cases hset
    exact ⟨rfl, rfl, rfl⟩
  transferFrom := by
    intro r r' sender source target id htransfer
    change transferFrom sender source target id r = some r' at htransfer
    rw [transferFrom] at htransfer
    split_ifs at htransfer with hto howner hauthorized hsource
    cases htransfer
    refine ⟨?_, not_not.mp hsource, hto, rfl, rfl, rfl⟩
    rcases hauthorized with hcontrols | happroved
    · exact Or.inl ((controls_iff r sender id).mp hcontrols)
    · exact Or.inr ⟨howner, happroved⟩

end Registry

end A2AProvisioning.Settlement
