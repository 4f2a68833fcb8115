import A2AProvisioning.ControllerProof

/-! The proof string on both sides of the wire: the owner's client writes it and signs it, the controller
writes it again and checks the signature. The two packages do not import each other. -/

namespace A2AProvisioning.Chain

open StrFormat Controller

def activationProofTemplate : String := "a2a-activate|{controller_id}|{nonce}|{entitlement_id}|{expires_at}"

/-- `activation_proof_message`; `none` where it raises. -/
def activationProofMessage (controllerId nonce : String) (entitlementId expiresAt : Int) : Option String :=
  format activationProofTemplate
    [("controller_id", .str controllerId), ("nonce", .str nonce), ("entitlement_id", .int entitlementId),
      ("expires_at", .int expiresAt)]

/-- `sign_activation_proof` of a client whose account signs with `sign`. -/
def signActivationProof (sign : String → String) (address : Address) (entitlementId : Int)
    (nonce controllerId : String) (expiresAt : Int) : Option (String × Address) :=
  (activationProofMessage controllerId nonce entitlementId expiresAt).map fun message => (sign message, address)

theorem pieces_activationProofTemplate : pieces none activationProofTemplate.toList =
    some ("a2a-activate|".toList.map .text ++ fieldPieces) := by
  decide

theorem activationProofMessage_eq (controllerId nonce : String) (entitlementId expiresAt : Int) :
    activationProofMessage controllerId nonce entitlementId expiresAt =
      proofMessageText controllerId nonce entitlementId expiresAt "activate" := by
  rw [activationProofMessage, format_of_pieces pieces_activationProofTemplate, fill_text_append,
    fill_fieldPieces rfl rfl rfl rfl, proofMessageText_eq]
  cases (Value.int entitlementId).render <;> cases (Value.int expiresAt).render <;> rfl

/-- For an id and an expiry that fit a word the proof is signed. -/
theorem signActivationProof_eq (sign : String → String) (address : Address) (nonce controllerId : String)
    {entitlementId : Int} {expiresAt : Nat} (hid : entitlementId.natAbs < 2 ^ 256) (hexpires : expiresAt < 2 ^ 256) :
    signActivationProof sign address entitlementId nonce controllerId expiresAt =
      some (sign (proofMessage controllerId nonce entitlementId expiresAt .activate), address) := by
  have htext : ∃ message, proofMessageText controllerId nonce entitlementId expiresAt "activate" = some message := by
    rw [proofMessageText_eq, Value.render, if_pos (Decimal.digits_le hid), Option.bind_some, Value.render,
      if_pos (Decimal.digits_le (by omega)), Option.map_some]
    exact ⟨_, rfl⟩
  obtain ⟨message, htext⟩ := htext
  have hverb : ProofAction.text .activate = "activate" := rfl
  rw [signActivationProof, activationProofMessage_eq, htext, Option.map_some, proofMessage_of_text (hverb ▸ htext)]

end A2AProvisioning.Chain

namespace A2AProvisioning.System

open Controller Chain

variable {recover : String → String → Option Address} {signature : String} {owner : Address}

/-- A signature that recovers to its signer on one message alone is accepted for one tuple. -/
theorem accepted_unique
    (hbinds : ∀ message message', recover message signature = some owner →
      recover message' signature = some owner → message = message')
    {store store' : AuthStore} {entitlementId entitlementId' : Int} {nonce nonce' action action' : String}
    {now now' : Nat} (haction : '|' ∉ action.toList) (haction' : '|' ∉ action'.toList)
    (hnonce : '|' ∉ nonce.toList) (hnonce' : '|' ∉ nonce'.toList)
    (h : (store.verifyAction recover entitlementId nonce signature owner now action).1 = .accepted)
    (h' : (store'.verifyAction recover entitlementId' nonce' signature owner now' action').1 = .accepted) :
    action = action' ∧ store.controllerId = store'.controllerId ∧ nonce = nonce' ∧ entitlementId = entitlementId' ∧
      store.opened.get? nonce = store'.opened.get? nonce' := by
  obtain ⟨expiresAt, message, hget, -, htext, hsigner⟩ := AuthStore.verifyAction_eq_accepted.mp h
  obtain ⟨expiresAt', message', hget', -, htext', hsigner'⟩ := AuthStore.verifyAction_eq_accepted.mp h'
  cases hbinds message message' hsigner hsigner'
  obtain ⟨hverb, hcontroller, hdrawn, hticket, hexpiry⟩ :=
    proofMessageText_injective haction haction' hnonce hnonce' htext htext'
  refine ⟨hverb, hcontroller, hdrawn, hticket, ?_⟩
  rw [hget, hget', hticket, Int.ofNat.inj hexpiry]

/-- The honest owner's answer to a challenge that is still open. -/
theorem accepted_iff_of_signed {sign : String → String}
    (hsign : ∀ message, recover message (sign message) = some owner) (start : AuthStore) {nonce : String}
    {entitlementId : Int} {issuedAt : Nat} {events : List AuthEvent}
    (huntouched : ∀ event ∈ events, event.nonce ≠ nonce) {address : Address}
    (hproof : signActivationProof sign owner entitlementId nonce (start.issue nonce entitlementId issuedAt).1.controllerId
      (start.issue nonce entitlementId issuedAt).1.expiresAt = some (signature, address)) (now : Nat) :
    ((((start.issue nonce entitlementId issuedAt).2).run recover events).verifyAction recover entitlementId nonce
        signature owner now "activate").1 = .accepted ↔
      now ≤ (start.issue nonce entitlementId issuedAt).1.expiresAt := by
  obtain ⟨message, htext, hsigned⟩ := Option.map_eq_some_iff.mp hproof
  cases hsigned
  have hopen : (((start.issue nonce entitlementId issuedAt).2).run recover events).opened.get? nonce =
      some (entitlementId, issuedAt + nonceTtlS) := AuthStore.get?_run_issue huntouched entitlementId issuedAt
  rw [AuthStore.verifyAction_eq_accepted, AuthStore.controllerId_run, hopen]
  constructor
  · rintro ⟨expiresAt, message', hget, hfresh, -⟩
    cases hget
    exact hfresh
  · intro hfresh
    exact ⟨issuedAt + nonceTtlS, message, rfl, hfresh, (activationProofMessage_eq _ _ _ _).symm.trans htext,
      hsign message⟩

/-- The string determines the verb, the controller, the nonce, the ticket and the expiry, so a signature serves
one of each; the client writes the string the controller checks and can sign it for any id and expiry that fit a
word, and the owner's answer to an open challenge is accepted up to its expiry. -/
theorem proof_string_unambiguous_and_shared (recover : String → String → Option Address) :
    (∀ action action' nonce nonce' : String, '|' ∉ action.toList → '|' ∉ action'.toList → '|' ∉ nonce.toList →
      '|' ∉ nonce'.toList → ∀ (controllerId controllerId' : String)
      (entitlementId entitlementId' expiresAt expiresAt' : Int) (message : String),
      proofMessageText controllerId nonce entitlementId expiresAt action = some message →
      proofMessageText controllerId' nonce' entitlementId' expiresAt' action' = some message →
        action = action' ∧ controllerId = controllerId' ∧ nonce = nonce' ∧ entitlementId = entitlementId' ∧
          expiresAt = expiresAt') ∧
    (∀ (signature : String) (owner : Address),
      (∀ message message', recover message signature = some owner →
        recover message' signature = some owner → message = message') →
      ∀ (store store' : AuthStore) (action action' nonce nonce' : String), '|' ∉ action.toList →
      '|' ∉ action'.toList → '|' ∉ nonce.toList → '|' ∉ nonce'.toList →
      ∀ (entitlementId entitlementId' : Int) (now now' : Nat),
      (store.verifyAction recover entitlementId nonce signature owner now action).1 = .accepted →
      (store'.verifyAction recover entitlementId' nonce' signature owner now' action').1 = .accepted →
        action = action' ∧ store.controllerId = store'.controllerId ∧ nonce = nonce' ∧
          entitlementId = entitlementId' ∧ store.opened.get? nonce = store'.opened.get? nonce') ∧
    (∀ (controllerId nonce : String) (entitlementId expiresAt : Int),
      activationProofMessage controllerId nonce entitlementId expiresAt =
        proofMessageText controllerId nonce entitlementId expiresAt "activate") ∧
    (∀ (sign : String → String) (owner : Address) (nonce controllerId : String) (entitlementId : Int) (expiresAt : Nat),
      entitlementId.natAbs < 2 ^ 256 → expiresAt < 2 ^ 256 →
        signActivationProof sign owner entitlementId nonce controllerId expiresAt =
          some (sign (proofMessage controllerId nonce entitlementId expiresAt .activate), owner)) ∧
    ∀ (sign : String → String) (owner : Address), (∀ message, recover message (sign message) = some owner) →
      ∀ (start issued : AuthStore) (challenge : Challenge) (nonce : String) (entitlementId : Int) (issuedAt : Nat),
      start.issue nonce entitlementId issuedAt = (challenge, issued) →
      ∀ events : List AuthEvent, (∀ event ∈ events, event.nonce ≠ nonce) →
      ∀ (signature : String) (address : Address),
      signActivationProof sign owner entitlementId challenge.nonce challenge.controllerId challenge.expiresAt =
        some (signature, address) →
      ∀ now, ((issued.run recover events).verifyAction recover entitlementId challenge.nonce signature owner now
          "activate").1 = .accepted ↔ now ≤ challenge.expiresAt := by
  refine ⟨?_, ?_, ?_, ?_, ?_⟩
  · intro action action' nonce nonce' haction haction' hnonce hnonce' controllerId controllerId' entitlementId
      entitlementId' expiresAt expiresAt' message h h'
    exact proofMessageText_injective haction haction' hnonce hnonce' h h'
  · intro signature owner hbinds store store' action action' nonce nonce' haction haction' hnonce hnonce' entitlementId
      entitlementId' now now' h h'
    exact accepted_unique hbinds haction haction' hnonce hnonce' h h'
  · exact activationProofMessage_eq
  · exact fun sign owner nonce controllerId entitlementId expiresAt hid hexpires =>
      signActivationProof_eq sign owner nonce controllerId hid hexpires
  · intro sign owner hsign start issued challenge nonce entitlementId issuedAt hissue events huntouched signature
      address hproof now
    obtain ⟨rfl, rfl⟩ := Prod.mk.inj hissue
    exact accepted_iff_of_signed hsign start huntouched hproof now

/-- A message that is its own signature. -/
def labRecover (message signature : String) : Option Address := if signature = message then some 0xa else none

/-- The controller's name holds the delimiter. At its expiry, and not a second later, the proof of a challenge
is accepted, and no proof serves both verbs. -/
theorem proof_string_unambiguous_and_shared_lab :
    (¬ ∃ message, proofMessageText "bw|ctrl" "0xab" 7 1300 "activate" = some message ∧
      proofMessageText "bw|ctrl" "0xab" 7 1300 "teardown" = some message) ∧
    (∀ signature, ((((AuthStore.new "bw|ctrl").issue "0xab" 7 1000).2.verifyAction labRecover 7 "0xab" signature 0xa
        1300 "activate").1 = .accepted →
      (((AuthStore.new "bw|ctrl").issue "0xab" 7 1000).2.verifyAction labRecover 7 "0xab" signature 0xa
        1300 "teardown").1 ≠ .accepted)) ∧
    ((((AuthStore.new "bw|ctrl").issue "0xab" 7 1000).2.run labRecover [.issue "0xcd" 7 1001]).verifyAction labRecover
      7 "0xab" "a2a-activate|bw|ctrl|0xab|7|1300" 0xa 1300 "activate").1 = .accepted ∧
    ((((AuthStore.new "bw|ctrl").issue "0xab" 7 1000).2.run labRecover [.issue "0xcd" 7 1001]).verifyAction labRecover
      7 "0xab" "a2a-activate|bw|ctrl|0xab|7|1300" 0xa 1301 "activate").1 ≠ .accepted := by
  obtain ⟨hinjective, hsingle, -, hsigned, haccepted⟩ := proof_string_unambiguous_and_shared labRecover
  have hbinds : ∀ signature message message', labRecover message signature = some 0xa →
      labRecover message' signature = some 0xa → message = message' := by
    intro signature message message' h h'
    unfold labRecover at h h'
    split_ifs at h with heq
    split_ifs at h' with heq'
    exact heq.symm.trans heq'
  have hverb : ("activate" : String) ≠ "teardown" := by decide
  have hanswer := haccepted id 0xa (fun message => if_pos rfl) (AuthStore.new "bw|ctrl") _ _ "0xab" 7 1000 rfl
    [.issue "0xcd" 7 1001] (by simp [AuthEvent.nonce]) "a2a-activate|bw|ctrl|0xab|7|1300" 0xa
    (hsigned id 0xa "0xab" "bw|ctrl" 7 1300 (by decide) (by decide))
  refine ⟨?_, ?_, ?_, ?_⟩
  · rintro ⟨message, hactivate, hteardown⟩
    exact hverb (hinjective _ _ _ _ (by decide) (by decide) (by decide) (by decide) _ _ _ _ _ _ message hactivate
      hteardown).1
  · intro signature hactivate hteardown
    exact hverb (hsingle signature 0xa (hbinds signature) _ _ _ _ _ _ (by decide) (by decide) (by decide) (by decide)
      _ _ _ _ hactivate hteardown).1
  · exact (hanswer 1300).mpr le_rfl
  · intro hlate
    exact absurd ((hanswer 1301).mp hlate) (by decide)

end A2AProvisioning.System
