import A2AProvisioning.LibraryReentrant
import A2AProvisioning.SettlementOffer
import A2AProvisioning.SettlementToken

/-! `A2ASettlement`: its storage and its entry points, the inherited ones included. `fulfill` hands
control to the payment token between punching the digest and issuing the ticket, `safeTransferFrom`
to the receiver after the transfer; both can call back in. -/

namespace A2AProvisioning.Settlement

open Reentrant

/-- What the contract is built on. -/
structure Platform (T : Type) extends Crypto where
  erc721 : ERC721 T

structure Storage (T : Type) where
  consumed : Bytes32 → Bool
  entitlements : Nat → Entitlement
  lastId : Nat
  token : T

inductive Revert
  | offerExpired
  | wrongConsumer
  | offerAlreadyUsed
  | badSignature
  | notIssuer
  | ecdsa
  | erc721
  | panic
  | callee
  deriving DecidableEq

inductive CallData
  | fulfill (offer : Offer) (signature : Bytes)
  | revoke (id : Nat)
  | approve (target : Address) (id : Nat)
  | setApprovalForAll (operator : Address) (ok : Bool)
  | transferFrom (source target : Address) (id : Nat)
  | safeTransferFrom (source target : Address) (id : Nat) (data : Bytes)

/-- A message call; no account that sends one has the address zero. -/
structure Msg where
  sender : Address
  sender_ne_zero : sender ≠ 0
  data : CallData

variable {T : Type} (p : Platform T)

def deployed : Storage T := ⟨fun _ => false, fun _ => Entitlement.zero, 0, p.erc721.deployed⟩

/-- `fulfill` up to the payment. -/
def fulfill (timestamp : Nat) (sender : Address) (offer : Offer) (signature : Bytes) (s : Storage T) :
    Except Revert (Storage T) :=
  if timestamp > offer.validUntil.toNat then .error .offerExpired
  else if offer.consumer ≠ 0 ∧ offer.consumer ≠ sender then .error .wrongConsumer
  else if s.consumed (p.hashOffer offer) then .error .offerAlreadyUsed
  else match p.recover (p.hashOffer offer) signature with
    | none => .error .ecdsa
    | some signer =>
        if signer ≠ offer.provider then .error .badSignature
        else .ok { s with consumed := Function.update s.consumed (p.hashOffer offer) true }

/-- `_issue`; the id counter is checked arithmetic. -/
def issue (target : Address) (entitlement : Entitlement) (s : Storage T) : Except Revert (Storage T) :=
  if s.lastId + 1 < 2 ^ 256 then
    match p.erc721.mint target (s.lastId + 1) s.token with
    | none => .error .erc721
    | some token => .ok { s with
        lastId := s.lastId + 1
        entitlements := Function.update s.entitlements (s.lastId + 1) entitlement
        token := token }
  else .error .panic

def revoke (sender : Address) (id : Nat) (s : Storage T) : Except Revert (Storage T) :=
  if (s.entitlements id).issuer ≠ sender then .error .notIssuer
  else .ok { s with
    entitlements := Function.update s.entitlements id { s.entitlements id with revoked := true } }

/-- An inherited operation on the token ledger. -/
def onToken (operation : T → Option T) (s : Storage T) : Except Revert (Storage T) :=
  match operation s.token with
  | none => .error .erc721
  | some token => .ok { s with token := token }

def enter (timestamp : Nat) (msg : Msg) (s : Storage T) : Except Revert (Storage T) :=
  match msg.data with
  | .fulfill offer signature => fulfill p timestamp msg.sender offer signature s
  | .revoke id => revoke msg.sender id s
  | .approve target id => onToken (p.erc721.approve msg.sender target id) s
  | .setApprovalForAll operator ok => onToken (p.erc721.setApprovalForAll msg.sender operator ok) s
  | .transferFrom source target id => onToken (p.erc721.transferFrom msg.sender source target id) s
  | .safeTransferFrom source target id _ => onToken (p.erc721.transferFrom msg.sender source target id) s

/-- The entry points that wait for foreign code: the payment token's `transferFrom`, the receiver's
`onERC721Received`. -/
def callsOut (msg : Msg) : Bool :=
  match msg.data with
  | .fulfill .. => true
  | .safeTransferFrom .. => true
  | _ => false

/-- What an entry point still does once the foreign code has returned. -/
def leave (msg : Msg) (s : Storage T) : Except Revert (Storage T) :=
  match msg.data with
  | .fulfill offer _ => issue p msg.sender offer.entitlement s
  | _ => .ok s

def settlement : Contract Nat Msg (Storage T) Revert where
  enter := enter p
  callsOut := callsOut
  leave := fun _ => leave p
  calleeFailed := .callee

/-- The offer passes the checks of `fulfill`, but for the ledger of consumed digests. -/
structure Redeemable (timestamp : Nat) (sender : Address) (offer : Offer) (signature : Bytes) : Prop where
  unexpired : timestamp ≤ offer.validUntil.toNat
  buyer : offer.consumer = 0 ∨ offer.consumer = sender
  signer : p.recover (p.hashOffer offer) signature = some offer.provider

/-- The first half of a call, by entry point. -/
inductive Entered (timestamp : Nat) (sender : Address) (s : Storage T) : CallData → Storage T → Prop
  | fulfill {offer signature} (hok : Redeemable p timestamp sender offer signature)
      (hunused : s.consumed (p.hashOffer offer) = false) :
      Entered timestamp sender s (.fulfill offer signature)
        { s with consumed := Function.update s.consumed (p.hashOffer offer) true }
  | revoke {id} (hissuer : (s.entitlements id).issuer = sender) :
      Entered timestamp sender s (.revoke id)
        { s with entitlements := Function.update s.entitlements id { s.entitlements id with revoked := true } }
  | approve {target id token} (htoken : p.erc721.approve sender target id s.token = some token) :
      Entered timestamp sender s (.approve target id) { s with token := token }
  | setApprovalForAll {operator ok token}
      (htoken : p.erc721.setApprovalForAll sender operator ok s.token = some token) :
      Entered timestamp sender s (.setApprovalForAll operator ok) { s with token := token }
  | transferFrom {source target id token}
      (htoken : p.erc721.transferFrom sender source target id s.token = some token) :
      Entered timestamp sender s (.transferFrom source target id) { s with token := token }
  | safeTransferFrom {source target id data token}
      (htoken : p.erc721.transferFrom sender source target id s.token = some token) :
      Entered timestamp sender s (.safeTransferFrom source target id data) { s with token := token }

variable {p}

theorem fulfill_eq_ok {timestamp : Nat} {sender : Address} {offer : Offer} {signature : Bytes}
    {s next : Storage T} :
    fulfill p timestamp sender offer signature s = .ok next ↔
      Redeemable p timestamp sender offer signature ∧ s.consumed (p.hashOffer offer) = false ∧
        next = { s with consumed := Function.update s.consumed (p.hashOffer offer) true } := by
  constructor
  · intro hok
    rw [fulfill] at hok
    split_ifs at hok with hexpired hbuyer hused
    split at hok
    · cases hok
    · rename_i signer hsigner
      split_ifs at hok with hprovider
      cases hok
      refine ⟨⟨not_lt.mp hexpired, ?_, ?_⟩, eq_false_of_ne_true hused, rfl⟩
      · by_cases hopen : offer.consumer = 0
        · exact Or.inl hopen
        · exact Or.inr (not_not.mp fun hne => hbuyer ⟨hopen, hne⟩)
      · rw [hsigner, not_not.mp hprovider]
  · rintro ⟨⟨hunexpired, hbuyer, hsigner⟩, hunused, rfl⟩
    have hbuyer' : ¬ (offer.consumer ≠ 0 ∧ offer.consumer ≠ sender) := fun h => hbuyer.elim h.1 h.2
    rw [fulfill, if_neg (not_lt.mpr hunexpired), if_neg hbuyer', hunused, if_neg Bool.false_ne_true, hsigner]
    exact if_neg (not_not.mpr rfl)

theorem onToken_eq_ok {operation : T → Option T} {s next : Storage T} :
    onToken operation s = .ok next ↔ ∃ token, operation s.token = some token ∧ next = { s with token := token } := by
  rw [onToken]
  cases operation s.token with
  | none => simp
  | some token => simp [eq_comm]

theorem issue_eq_ok {target : Address} {entitlement : Entitlement} {s next : Storage T}
    (hok : issue p target entitlement s = .ok next) :
    ∃ token, p.erc721.mint target (s.lastId + 1) s.token = some token ∧
      next = { s with
        lastId := s.lastId + 1
        entitlements := Function.update s.entitlements (s.lastId + 1) entitlement
        token := token } := by
  rw [issue] at hok
  split_ifs at hok
  split at hok
  · cases hok
  · rename_i token hmint
    cases hok
    exact ⟨token, hmint, rfl⟩

theorem entered_of_enter {timestamp : Nat} {msg : Msg} {s next : Storage T}
    (hok : enter p timestamp msg s = .ok next) : Entered p timestamp msg.sender s msg.data next := by
  obtain ⟨sender, hsender, data⟩ := msg
  cases data with
  | fulfill offer signature =>
      obtain ⟨hredeemable, hunused, rfl⟩ := fulfill_eq_ok.mp hok
      exact .fulfill hredeemable hunused
  | revoke id =>
      change revoke sender id s = .ok next at hok
      rw [revoke] at hok
      split_ifs at hok with hissuer
      cases hok
      exact .revoke (not_not.mp hissuer)
  | approve target id =>
      obtain ⟨token, htoken, rfl⟩ := onToken_eq_ok.mp hok
      exact .approve htoken
  | setApprovalForAll operator ok =>
      obtain ⟨token, htoken, rfl⟩ := onToken_eq_ok.mp hok
      exact .setApprovalForAll htoken
  | transferFrom source target id =>
      obtain ⟨token, htoken, rfl⟩ := onToken_eq_ok.mp hok
      exact .transferFrom htoken
  | safeTransferFrom source target id data =>
      obtain ⟨token, htoken, rfl⟩ := onToken_eq_ok.mp hok
      exact .safeTransferFrom htoken

end A2AProvisioning.Settlement
