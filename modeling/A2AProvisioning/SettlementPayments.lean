import A2AProvisioning.SettlementHistory
import A2AProvisioning.SettlementTok
import Mathlib.Tactic.Linarith

/-! `A2ASettlement` and `MockTOK` side by side. When an offer is priced in TOK, nobody gets control between
the steps of `fulfill`; any other payment token may do as it likes, calls to both contracts included. What
the settlement sees of such a history is a history of its own. -/

namespace A2AProvisioning.Settlement

open Reentrant

variable {T K : Type}

/-- The settlement at its address, and TOK at its own. -/
structure Deployment (T K : Type) extends Platform T where
  erc20 : ERC20 K
  address : Address
  tok : Address

structure World (T K : Type) where
  settlement : Storage T
  tok : K

inductive Request
  | settlement (data : CallData)
  | faucet (target : Address) (amount : Uint256)
  | tokApprove (spender : Address) (amount : Uint256)
  | tokTransfer (target : Address) (amount : Uint256)
  | tokTransferFrom (source target : Address) (amount : Uint256)

structure Sent where
  sender : Address
  sender_ne_zero : sender ≠ 0
  request : Request

inductive Failure
  | settlement (revert : Revert)
  | tok (error : TokenError)
  deriving DecidableEq

def onSettlement (result : Except Revert (Storage T)) (w : World T K) : Except Failure (World T K) :=
  match result with
  | .error revert => .error (.settlement revert)
  | .ok s => .ok { w with settlement := s }

def onTok (result : Except TokenError K) (w : World T K) : Except Failure (World T K) :=
  match result with
  | .error error => .error (.tok error)
  | .ok k => .ok { w with tok := k }

variable (d : Deployment T K)

def World.deployed : World T K := ⟨Settlement.deployed d.toPlatform, d.erc20.deployed⟩

/-- `fulfill` of an offer that is priced in TOK: the checks, the payment, the ticket. -/
def fulfillInTok (timestamp : Nat) (sender : Address) (offer : Offer) (signature : Bytes) (w : World T K) :
    Except Failure (World T K) :=
  match fulfill d.toPlatform timestamp sender offer signature w.settlement with
  | .error revert => .error (.settlement revert)
  | .ok punched =>
      match d.erc20.transferFrom d.address sender offer.provider offer.price.toNat w.tok with
      | .error error => .error (.tok error)
      | .ok paid => onSettlement (issue d.toPlatform sender offer.entitlement punched) ⟨punched, paid⟩

/-- The offer of a call of `fulfill` that TOK is to be paid for. -/
def Request.inTok : Request → Option (Offer × Bytes)
  | .settlement (.fulfill offer signature) =>
      if offer.paymentToken = d.tok then some (offer, signature) else none
  | _ => none

def World.enter (timestamp : Nat) (sent : Sent) (w : World T K) : Except Failure (World T K) :=
  match sent.request.inTok d with
  | some (offer, signature) => fulfillInTok d timestamp sent.sender offer signature w
  | none =>
      match sent.request with
      | .settlement data =>
          onSettlement (Settlement.enter d.toPlatform timestamp ⟨sent.sender, sent.sender_ne_zero, data⟩ w.settlement) w
      | .faucet target amount => onTok (d.erc20.mint target amount.toNat w.tok) w
      | .tokApprove spender amount => onTok (d.erc20.approve sent.sender spender amount.toNat w.tok) w
      | .tokTransfer target amount => onTok (d.erc20.transfer sent.sender target amount.toNat w.tok) w
      | .tokTransferFrom source target amount =>
          onTok (d.erc20.transferFrom sent.sender source target amount.toNat w.tok) w

def World.callsOut (sent : Sent) : Bool :=
  match sent.request.inTok d, sent.request with
  | none, .settlement data => Settlement.callsOut ⟨sent.sender, sent.sender_ne_zero, data⟩
  | _, _ => false

def World.leave (sent : Sent) (w : World T K) : Except Failure (World T K) :=
  match sent.request with
  | .settlement data =>
      onSettlement (Settlement.leave d.toPlatform ⟨sent.sender, sent.sender_ne_zero, data⟩ w.settlement) w
  | _ => .ok w

/-- Both contracts as one. -/
def world : Contract Nat Sent (World T K) Failure where
  enter := World.enter d
  callsOut := World.callsOut d
  leave := fun _ => World.leave d
  calleeFailed := .settlement .callee

abbrev WorldLog (T K : Type) := List (Change Nat Sent (World T K))

/-- The state after a payment, before the ticket. -/
def punched (offer : Offer) (s : Storage T) : Storage T :=
  { s with consumed := Function.update s.consumed (d.hashOffer offer) true }

/-- What an entry point does before it waits for anybody, or all it does. -/
inductive Took (timestamp : Nat) (sent : Sent) (w : World T K) : Request → World T K → Prop
  | fulfill {offer signature paid issued} (htok : offer.paymentToken = d.tok)
      (hok : Redeemable d.toPlatform timestamp sent.sender offer signature)
      (hunused : w.settlement.consumed (d.hashOffer offer) = false)
      (hpaid : d.erc20.transferFrom d.address sent.sender offer.provider offer.price.toNat w.tok = .ok paid)
      (hissued : issue d.toPlatform sent.sender offer.entitlement (punched d offer w.settlement) = .ok issued) :
      Took timestamp sent w (.settlement (.fulfill offer signature)) ⟨issued, paid⟩
  | settlement {data next} (hother : (Request.settlement data).inTok d = none)
      (hentered : Settlement.enter d.toPlatform timestamp ⟨sent.sender, sent.sender_ne_zero, data⟩ w.settlement =
        .ok next) :
      Took timestamp sent w (.settlement data) { w with settlement := next }
  | faucet {target amount k} (hk : d.erc20.mint target amount.toNat w.tok = .ok k) :
      Took timestamp sent w (.faucet target amount) { w with tok := k }
  | tokApprove {spender amount k} (hk : d.erc20.approve sent.sender spender amount.toNat w.tok = .ok k) :
      Took timestamp sent w (.tokApprove spender amount) { w with tok := k }
  | tokTransfer {target amount k} (hk : d.erc20.transfer sent.sender target amount.toNat w.tok = .ok k) :
      Took timestamp sent w (.tokTransfer target amount) { w with tok := k }
  | tokTransferFrom {source target amount k}
      (hk : d.erc20.transferFrom sent.sender source target amount.toNat w.tok = .ok k) :
      Took timestamp sent w (.tokTransferFrom source target amount) { w with tok := k }

variable {d}

theorem onSettlement_eq_ok {result : Except Revert (Storage T)} {w next : World T K} :
    onSettlement result w = .ok next ↔ ∃ s, result = .ok s ∧ next = { w with settlement := s } := by
  cases result with
  | error revert => simp [onSettlement]
  | ok s => simp [onSettlement, eq_comm]

theorem onTok_eq_ok {result : Except TokenError K} {w next : World T K} :
    onTok result w = .ok next ↔ ∃ k, result = .ok k ∧ next = { w with tok := k } := by
  cases result with
  | error error => simp [onTok]
  | ok k => simp [onTok, eq_comm]

theorem inTok_eq_some {request : Request} {offer : Offer} {signature : Bytes}
    (h : request.inTok d = some (offer, signature)) :
    request = .settlement (.fulfill offer signature) ∧ offer.paymentToken = d.tok := by
  unfold Request.inTok at h
  split at h
  · split_ifs at h with htok
    cases h
    exact ⟨rfl, htok⟩
  · cases h

theorem inTok_of_eq {offer : Offer} (signature : Bytes) (htok : offer.paymentToken = d.tok) :
    (Request.settlement (.fulfill offer signature)).inTok d = some (offer, signature) := if_pos htok

theorem fulfillInTok_eq_ok {timestamp : Nat} {sender : Address} {offer : Offer} {signature : Bytes}
    {w next : World T K} :
    fulfillInTok d timestamp sender offer signature w = .ok next ↔
      Redeemable d.toPlatform timestamp sender offer signature ∧
        w.settlement.consumed (d.hashOffer offer) = false ∧
        ∃ paid issued, d.erc20.transferFrom d.address sender offer.provider offer.price.toNat w.tok = .ok paid ∧
          issue d.toPlatform sender offer.entitlement (punched d offer w.settlement) = .ok issued ∧
          next = ⟨issued, paid⟩ := by
  rw [fulfillInTok]
  constructor
  · intro h
    split at h
    · cases h
    · rename_i punched hpunched
      obtain ⟨hok, hunused, rfl⟩ := fulfill_eq_ok.mp hpunched
      split at h
      · cases h
      · rename_i paid hpaid
        obtain ⟨issued, hissued, rfl⟩ := onSettlement_eq_ok.mp h
        exact ⟨hok, hunused, paid, issued, hpaid, hissued, rfl⟩
  · rintro ⟨hok, hunused, paid, issued, hpaid, hissued, rfl⟩
    have hpunched : fulfill d.toPlatform timestamp sender offer signature w.settlement =
        .ok (punched d offer w.settlement) := fulfill_eq_ok.mpr ⟨hok, hunused, rfl⟩
    rw [hpunched]
    dsimp only
    rw [hpaid]
    exact onSettlement_eq_ok.mpr ⟨issued, hissued, rfl⟩

theorem took_of_enter {timestamp : Nat} {sent : Sent} {w next : World T K}
    (h : World.enter d timestamp sent w = .ok next) : Took d timestamp sent w sent.request next := by
  rw [World.enter] at h
  split at h
  · rename_i offer signature hinTok
    obtain ⟨hrequest, htok⟩ := inTok_eq_some hinTok
    obtain ⟨hok, hunused, paid, issued, hpaid, hissued, rfl⟩ := fulfillInTok_eq_ok.mp h
    rw [hrequest]
    exact .fulfill htok hok hunused hpaid hissued
  · rename_i hother
    obtain ⟨sender, hsender, request⟩ := sent
    cases request with
    | settlement data =>
        obtain ⟨s, hs, rfl⟩ := onSettlement_eq_ok.mp h
        exact .settlement hother hs
    | faucet target amount =>
        obtain ⟨k, hk, rfl⟩ := onTok_eq_ok.mp h
        exact .faucet hk
    | tokApprove spender amount =>
        obtain ⟨k, hk, rfl⟩ := onTok_eq_ok.mp h
        exact .tokApprove hk
    | tokTransfer target amount =>
        obtain ⟨k, hk, rfl⟩ := onTok_eq_ok.mp h
        exact .tokTransfer hk
    | tokTransferFrom source target amount =>
        obtain ⟨k, hk, rfl⟩ := onTok_eq_ok.mp h
        exact .tokTransferFrom hk

variable (d)

/-- The halves of the settlement's entry points behind a change. -/
def project (ch : Change Nat Sent (World T K)) : Log T :=
  match ch.half with
  | .enter ⟨sender, hsender, .settlement (.fulfill offer signature)⟩ =>
      if offer.paymentToken = d.tok then
        [⟨ch.block, ch.before.settlement, .enter ⟨sender, hsender, .fulfill offer signature⟩,
            punched d offer ch.before.settlement⟩,
          ⟨ch.block, punched d offer ch.before.settlement, .leave ⟨sender, hsender, .fulfill offer signature⟩,
            ch.after.settlement⟩]
      else
        [⟨ch.block, ch.before.settlement, .enter ⟨sender, hsender, .fulfill offer signature⟩, ch.after.settlement⟩]
  | .enter ⟨sender, hsender, .settlement data⟩ =>
      [⟨ch.block, ch.before.settlement, .enter ⟨sender, hsender, data⟩, ch.after.settlement⟩]
  | .leave ⟨sender, hsender, .settlement data⟩ =>
      [⟨ch.block, ch.before.settlement, .leave ⟨sender, hsender, data⟩, ch.after.settlement⟩]
  | _ => []

variable {d}

theorem project_enter_of_other {timestamp : Nat} {sender : Address} {hsender : sender ≠ 0} {data : CallData}
    {w next : World T K} (hother : (Request.settlement data).inTok d = none) :
    project d ⟨timestamp, w, .enter ⟨sender, hsender, .settlement data⟩, next⟩ =
      [⟨timestamp, w.settlement, .enter ⟨sender, hsender, data⟩, next.settlement⟩] := by
  cases data with
  | fulfill offer signature =>
      have htok : offer.paymentToken ≠ d.tok := by
        intro htok
        rw [inTok_of_eq signature htok] at hother
        cases hother
      exact if_neg htok
  | revoke id => rfl
  | approve target id => rfl
  | setApprovalForAll operator ok => rfl
  | transferFrom source target id => rfl
  | safeTransferFrom source target id data => rfl

/-- An entry point of the world that waits for nobody is a call of the settlement. -/
theorem exec_of_took {timestamp : Nat} {sent : Sent} {w next : World T K}
    (hcalls : World.callsOut d sent = false) (htook : Took d timestamp sent w sent.request next) :
    ∃ call, exec (settlement d.toPlatform) timestamp call w.settlement =
      .ok (next.settlement, project d ⟨timestamp, w, .enter sent, next⟩) := by
  obtain ⟨sender, hsender, request⟩ := sent
  cases htook with
  | @fulfill offer signature paid issued htok hok hunused hpaid hissued =>
      refine ⟨.entry ⟨sender, hsender, .fulfill offer signature⟩ [] true, ?_⟩
      have hentered : (settlement d.toPlatform).enter timestamp ⟨sender, hsender, .fulfill offer signature⟩
          w.settlement = .ok (punched d offer w.settlement) := fulfill_eq_ok.mpr ⟨hok, hunused, rfl⟩
      have hleft : (settlement d.toPlatform).leave timestamp ⟨sender, hsender, .fulfill offer signature⟩
          (punched d offer w.settlement) = .ok issued := hissued
      have hwaits : (settlement d.toPlatform).callsOut ⟨sender, hsender, .fulfill offer signature⟩ = true := rfl
      simp only [exec, execAll, hentered, hwaits, hleft, if_true, List.cons_append,
        List.nil_append, project, if_pos htok]
  | @settlement data next hother hentered =>
      refine ⟨.entry ⟨sender, hsender, data⟩ [] true, ?_⟩
      have hentered' : (settlement d.toPlatform).enter timestamp ⟨sender, hsender, data⟩ w.settlement =
        .ok next := hentered
      have hwaits : (settlement d.toPlatform).callsOut ⟨sender, hsender, data⟩ = false := by
        rw [World.callsOut, hother] at hcalls
        exact hcalls
      rw [exec, hentered', project_enter_of_other hother]
      dsimp only
      rw [hwaits, if_neg Bool.false_ne_true]
  | faucet hk => exact ⟨.code [] true, rfl⟩
  | tokApprove hk => exact ⟨.code [] true, rfl⟩
  | tokTransfer hk => exact ⟨.code [] true, rfl⟩
  | tokTransferFrom hk => exact ⟨.code [] true, rfl⟩

theorem world_refines (d : Deployment T K) :
    Refines (world d) (settlement d.toPlatform) World.settlement (project d) where
  atomic := fun b sent w next hcalls hentered => exec_of_took hcalls (took_of_enter hentered)
  waiting := by
    intro b sent hcalls
    obtain ⟨sender, hsender, request⟩ := sent
    change World.callsOut d _ = true at hcalls
    cases request with
    | settlement data =>
        cases hother : (Request.settlement data).inTok d with
        | some result =>
            rw [World.callsOut, hother] at hcalls
            cases hcalls
        | none =>
            rw [World.callsOut, hother] at hcalls
            refine ⟨⟨sender, hsender, data⟩, hcalls, fun w next hentered => ?_, fun w next hleft => ?_⟩
            · rw [project_enter_of_other hother]
              cases took_of_enter hentered with
              | fulfill htok =>
                  rw [inTok_of_eq _ htok] at hother
                  cases hother
              | settlement _ hs => exact ⟨hs, rfl⟩
            · obtain ⟨s, hs, rfl⟩ := onSettlement_eq_ok.mp hleft
              exact ⟨hs, rfl⟩
    | faucet target amount => cases hcalls
    | tokApprove spender amount => cases hcalls
    | tokTransfer target amount => cases hcalls
    | tokTransferFrom source target amount => cases hcalls

/-- What a revocation does to the contracts. -/
theorem exec_revoke (d : Deployment T K) (timestamp : Nat) (sender : Address) (hsender : sender ≠ 0) (id : Nat)
    (w : World T K) :
    exec (world d) timestamp (.entry ⟨sender, hsender, .settlement (.revoke id)⟩ [] true) w =
      if (w.settlement.entitlements id).issuer ≠ sender then .error (.settlement .notIssuer)
      else
        let next : World T K := { w with settlement := { w.settlement with
          entitlements := Function.update w.settlement.entitlements id
            { w.settlement.entitlements id with revoked := true } } }
        .ok (next, [⟨timestamp, w, .enter ⟨sender, hsender, .settlement (.revoke id)⟩, next⟩]) := by
  have henter : (world d).enter timestamp ⟨sender, hsender, .settlement (.revoke id)⟩ w =
      onSettlement (Settlement.revoke sender id w.settlement) w := rfl
  by_cases hissuer : (w.settlement.entitlements id).issuer ≠ sender
  · rw [exec, henter, Settlement.revoke, if_pos hissuer, if_pos hissuer]
    rfl
  · rw [exec, henter, Settlement.revoke, if_neg hissuer, if_neg hissuer]
    rfl

end A2AProvisioning.Settlement
