import A2AProvisioning.Interfaces
import A2AProvisioning.LibraryDict

/-! Challenge and response: single-use nonces, issued for one ticket until a chain time, and the check
of a signature over the message that names the controller, the verb, the ticket and the nonce. -/

namespace A2AProvisioning.Controller

def nonceTtlS : Nat := 300

inductive ProofAction
  | activate
  | teardown
  deriving DecidableEq

def ProofAction.text : ProofAction → String
  | .activate => "activate"
  | .teardown => "teardown"

def proofMessage (controllerId nonce : String) (entitlementId : Int) (expiresAt : Nat)
    (action : ProofAction) : String :=
  "a2a-" ++ action.text ++ "|" ++ controllerId ++ "|" ++ nonce ++ "|" ++ toString entitlementId ++ "|" ++
    toString expiresAt

structure Challenge where
  nonce : String
  controllerId : String
  expiresAt : Nat

/-- `opened` maps a nonce to the entitlement it was issued for and its expiry. -/
structure AuthStore where
  controllerId : String
  opened : OrderedDict String (Int × Nat)

namespace AuthStore

/-- `nonce` is what the random generator returned. -/
def issue (store : AuthStore) (nonce : String) (entitlementId : Int) (now : Nat) : Challenge × AuthStore :=
  (⟨nonce, store.controllerId, now + nonceTtlS⟩,
    { store with opened := store.opened.insert nonce (entitlementId, now + nonceTtlS) })

/-- `recover` is the recovery of a personal signature, `none` for malformed bytes. The nonce burns on
any attempt. -/
def verify (recover : String → String → Option Address) (store : AuthStore) (entitlementId : Int)
    (nonce signature : String) (owner : Address) (now : Nat) (action : ProofAction) :
    Option ErrorCode × AuthStore :=
  match store.opened.get? nonce with
  | none => (some .nonceReused, store)
  | some (issuedFor, expiresAt) =>
      let burned := { store with opened := store.opened.erase nonce }
      if issuedFor ≠ entitlementId then (some .badProof, burned)
      else if now > expiresAt then (some .badProof, burned)
      else match recover (proofMessage store.controllerId nonce entitlementId expiresAt action) signature with
        | none => (some .badProof, burned)
        | some signer => if signer ≠ owner then (some .notOwner, burned) else (none, burned)

variable {recover : String → String → Option Address} {store : AuthStore} {entitlementId : Int}
  {nonce signature : String} {owner : Address} {now : Nat} {action : ProofAction}

/-- A proof passes exactly when the nonce is open for the ticket, in time, and the owner signed. -/
theorem verify_eq_none :
    (store.verify recover entitlementId nonce signature owner now action).1 = none ↔
      ∃ expiresAt, store.opened.get? nonce = some (entitlementId, expiresAt) ∧ now ≤ expiresAt ∧
        recover (proofMessage store.controllerId nonce entitlementId expiresAt action) signature =
          some owner := by
  rw [verify]
  split
  · rename_i hget
    simp [hget]
  · rename_i issuedFor expiresAt hget
    constructor
    · intro hnone
      split_ifs at hnone with hissued hstale
      split at hnone
      · cases hnone
      · rename_i signer hsigner
        split_ifs at hnone with howner
        cases not_not.mp hissued
        cases not_not.mp howner
        exact ⟨expiresAt, hget, not_lt.mp hstale, hsigner⟩
    · rintro ⟨expiresAt', hget', hfresh, hsigner⟩
      cases hget.symm.trans hget'
      have hequal : ¬ entitlementId ≠ entitlementId := not_not.mpr rfl
      have hsame : ¬ owner ≠ owner := not_not.mpr rfl
      rw [if_neg hequal, if_neg (not_lt.mpr hfresh), hsigner]
      simp only [if_neg hsame]

/-- Whatever the answer, the nonce is spent and nothing else changes. -/
theorem verify_snd :
    (store.verify recover entitlementId nonce signature owner now action).2 =
      { store with opened := store.opened.erase nonce } := by
  rw [verify]
  split
  · rename_i hget
    rw [OrderedDict.erase_of_get?_eq_none hget]
  · split_ifs
    · rfl
    · rfl
    · split
      · rfl
      · split_ifs <;> rfl

end AuthStore

end A2AProvisioning.Controller
