import A2AProvisioning.ControllerAuth
import A2AProvisioning.LibraryFormat

/-! The proof string as `str.format` builds it, for any verb and any integers, with the check of a proof over
it. Also runs of the nonce ledger. -/

namespace A2AProvisioning.Controller

open StrFormat Delimited

def proofTemplate : String := "a2a-{action}|{controller_id}|{nonce}|{entitlement_id}|{expires_at}"

/-- `proof_message`; `none` where it raises. -/
def proofMessageText (controllerId nonce : String) (entitlementId expiresAt : Int) (action : String) :
    Option String :=
  format proofTemplate
    [("action", .str action), ("controller_id", .str controllerId), ("nonce", .str nonce),
      ("entitlement_id", .int entitlementId), ("expires_at", .int expiresAt)]

inductive Verdict
  | accepted
  | refused (code : ErrorCode)
  | raised

def Verdict.ofAnswer : Option ErrorCode → Verdict
  | none => .accepted
  | some code => .refused code

/-- `AuthStore.verify` for any verb. The nonce is spent before the message is written, so also where that
raises. -/
def AuthStore.verifyAction (recover : String → String → Option Address) (store : AuthStore) (entitlementId : Int)
    (nonce signature : String) (owner : Address) (now : Nat) (action : String) : Verdict × AuthStore :=
  match store.opened.get? nonce with
  | none => (.refused .nonceReused, store)
  | some (issuedFor, expiresAt) =>
      let burned := { store with opened := store.opened.erase nonce }
      if issuedFor ≠ entitlementId then (.refused .badProof, burned)
      else if now > expiresAt then (.refused .badProof, burned)
      else match proofMessageText store.controllerId nonce entitlementId expiresAt action with
        | none => (.raised, burned)
        | some message => match recover message signature with
          | none => (.refused .badProof, burned)
          | some signer => if signer ≠ owner then (.refused .notOwner, burned) else (.accepted, burned)

/-- What stands behind the verb, in every template of a proof. -/
def fieldPieces : List Piece :=
  .field "controller_id".toList :: .text '|' :: .field "nonce".toList :: .text '|' ::
    .field "entitlement_id".toList :: .text '|' :: [.field "expires_at".toList]

theorem pieces_proofTemplate : pieces none proofTemplate.toList =
    some ("a2a-".toList.map .text ++ .field "action".toList :: .text '|' :: fieldPieces) := by
  decide

section Fields

variable {controllerId controllerId' nonce nonce' : String} {entitlementId entitlementId' expiresAt expiresAt' : Int}
  {action action' message : String}

theorem fill_fieldPieces {values : List (String × Value)}
    (hcontroller : find "controller_id".toList values = some (.str controllerId))
    (hnonce : find "nonce".toList values = some (.str nonce))
    (hentitlement : find "entitlement_id".toList values = some (.int entitlementId))
    (hexpires : find "expires_at".toList values = some (.int expiresAt)) :
    fill values fieldPieces =
      (Value.int entitlementId).render.bind fun entitlement => (Value.int expiresAt).render.map fun expires =>
        controllerId.toList ++ '|' :: (nonce.toList ++ '|' :: (entitlement.toList ++ '|' :: expires.toList)) := by
  have hlast : fill values [.field "expires_at".toList] = (Value.int expiresAt).render.map String.toList := by
    rw [fill_int [] hexpires, Option.map_eq_bind]
    apply congrArg
    funext text
    exact congrArg some (List.append_nil _)
  rw [fieldPieces, fill_str _ hcontroller, fill_text, fill_str _ hnonce, fill_text, fill_int _ hentitlement,
    fill_text, hlast]
  cases (Value.int entitlementId).render <;> cases (Value.int expiresAt).render <;> rfl

/-- The whole string, with the verb in front. -/
theorem proofMessageText_eq : proofMessageText controllerId nonce entitlementId expiresAt action =
    (Value.int entitlementId).render.bind fun entitlement => (Value.int expiresAt).render.map fun expires =>
      String.ofList ("a2a-".toList ++ (action.toList ++ '|' :: (controllerId.toList ++ '|' ::
        (nonce.toList ++ '|' :: (entitlement.toList ++ '|' :: expires.toList))))) := by
  rw [proofMessageText, format_of_pieces pieces_proofTemplate, fill_text_append, fill_str _ rfl, fill_text,
    fill_fieldPieces rfl rfl rfl rfl]
  cases (Value.int entitlementId).render <;> cases (Value.int expiresAt).render <;> rfl

/-- Read as a record, the string has the controller's id as the one field that may hold the delimiter. -/
theorem toList_proofMessageText
    (h : proofMessageText controllerId nonce entitlementId expiresAt action = some message) :
    message.toList = record '|' ["a2a-".toList ++ action.toList] controllerId.toList
      [nonce.toList, (toString entitlementId).toList, (toString expiresAt).toList] := by
  rw [proofMessageText_eq, Option.bind_eq_some_iff] at h
  obtain ⟨entitlement, hentitlement, h⟩ := h
  obtain ⟨expires, hexpires, rfl⟩ := Option.map_eq_some_iff.mp h
  rw [render_int_eq_some hentitlement, render_int_eq_some hexpires, String.toList_ofList]
  simp [record]

theorem verb_free (haction : '|' ∉ action.toList) : ∀ f ∈ ["a2a-".toList ++ action.toList], '|' ∉ f := by
  intro f hmem hbar
  rw [List.mem_singleton.mp hmem] at hbar
  cases List.mem_append.mp hbar with
  | inl hhead => exact absurd hhead (by decide)
  | inr htail => exact haction htail

/-- Numerals have no delimiter. -/
theorem fields_free (hnonce : '|' ∉ nonce.toList) (entitlementId expiresAt : Int) :
    ∀ f ∈ [nonce.toList, (toString entitlementId).toList, (toString expiresAt).toList], '|' ∉ f := by
  have hinteger : ∀ n : Int, '|' ∉ (toString n).toList := Decimal.not_mem_intToString rfl (by decide)
  intro f hmem
  simp only [List.mem_cons, List.not_mem_nil, or_false] at hmem
  rcases hmem with rfl | rfl | rfl
  · exact hnonce
  · exact hinteger entitlementId
  · exact hinteger expiresAt

/-- The fields are cut off from both ends, and what is left is the controller's id. -/
theorem proofMessageText_injective (haction : '|' ∉ action.toList) (haction' : '|' ∉ action'.toList)
    (hnonce : '|' ∉ nonce.toList) (hnonce' : '|' ∉ nonce'.toList)
    (h : proofMessageText controllerId nonce entitlementId expiresAt action = some message)
    (h' : proofMessageText controllerId' nonce' entitlementId' expiresAt' action' = some message) :
    action = action' ∧ controllerId = controllerId' ∧ nonce = nonce' ∧ entitlementId = entitlementId' ∧
      expiresAt = expiresAt' := by
  have hrecord := (toList_proofMessageText h).symm.trans (toList_proofMessageText h')
  obtain ⟨hverb, hcontroller, hbehind⟩ := record_injective (verb_free haction) (verb_free haction')
    (fields_free hnonce entitlementId expiresAt) (fields_free hnonce' entitlementId' expiresAt') rfl rfl hrecord
  obtain ⟨hdrawn, hbehind⟩ := List.cons.inj hbehind
  obtain ⟨hticket, hexpiry⟩ := List.cons.inj hbehind
  refine ⟨?_, ?_, ?_, ?_, ?_⟩
  · exact String.toList_injective (List.append_cancel_left (List.cons.inj hverb).1)
  · exact String.toList_injective hcontroller
  · exact String.toList_injective hdrawn
  · exact Decimal.intToString_injective hticket
  · exact Decimal.intToString_injective (List.cons.inj hexpiry).1

/-- The two verbs of the service, on a ledger's own expiry. -/
theorem proofMessage_of_text {expiry : Nat} {verb : ProofAction}
    (h : proofMessageText controllerId nonce entitlementId expiry verb.text = some message) :
    proofMessage controllerId nonce entitlementId expiry verb = message := by
  apply String.toList_injective
  rw [toList_proofMessageText h, proofMessage]
  simp only [String.toList_append, record, List.foldr_cons, List.foldr_nil, List.flatMap_cons, List.flatMap_nil,
    List.append_assoc, List.cons_append, List.append_nil]
  rfl

end Fields

namespace AuthStore

variable {recover : String → String → Option Address} {store : AuthStore} {entitlementId : Int}
  {nonce signature : String} {owner : Address} {now : Nat}

theorem verifyAction_snd (action : String) :
    (store.verifyAction recover entitlementId nonce signature owner now action).2 =
      { store with opened := store.opened.erase nonce } := by
  rw [verifyAction]
  split
  · rename_i hget
    rw [OrderedDict.erase_of_get?_eq_none hget]
  · split_ifs
    · rfl
    · rfl
    · split
      · rfl
      · split
        · rfl
        · split_ifs <;> rfl

theorem verifyAction_eq_accepted {action : String} :
    (store.verifyAction recover entitlementId nonce signature owner now action).1 = .accepted ↔
      ∃ expiresAt message, store.opened.get? nonce = some (entitlementId, expiresAt) ∧ now ≤ expiresAt ∧
        proofMessageText store.controllerId nonce entitlementId expiresAt action = some message ∧
          recover message signature = some owner := by
  rw [verifyAction]
  cases hget : store.opened.get? nonce with
  | none => simp
  | some issued =>
      obtain ⟨issuedFor, expiresAt⟩ := issued
      by_cases hissued : issuedFor = entitlementId
      · subst hissued
        by_cases hfresh : now ≤ expiresAt
        · cases htext : proofMessageText store.controllerId nonce issuedFor expiresAt action with
          | none => simp [htext, not_lt.mpr hfresh]
          | some message =>
              cases hsigner : recover message signature with
              | none => simp [htext, not_lt.mpr hfresh, hsigner]
              | some signer =>
                  by_cases howner : signer = owner
                  · simp [htext, hfresh, not_lt.mpr hfresh, hsigner, howner]
                  · simp [htext, not_lt.mpr hfresh, hsigner, howner]
        · simp [hfresh, not_le.mp hfresh]
      · simp [hissued]

/-- On the service's verbs it is `verify`, wherever the message can be written. -/
theorem verifyAction_text {verb : ProofAction}
    (hwritten : ∀ issuedFor expiresAt, store.opened.get? nonce = some (issuedFor, expiresAt) →
      proofMessageText store.controllerId nonce entitlementId expiresAt verb.text ≠ none) :
    store.verifyAction recover entitlementId nonce signature owner now verb.text =
      (Verdict.ofAnswer (store.verify recover entitlementId nonce signature owner now verb).1,
        (store.verify recover entitlementId nonce signature owner now verb).2) := by
  rw [verifyAction, verify]
  cases hget : store.opened.get? nonce with
  | none => rfl
  | some issued =>
      obtain ⟨issuedFor, expiresAt⟩ := issued
      obtain ⟨message, htext⟩ := Option.ne_none_iff_exists'.mp (hwritten issuedFor expiresAt hget)
      simp only [htext, proofMessage_of_text htext]
      split_ifs
      · rfl
      · rfl
      · cases recover message signature with
        | none => rfl
        | some signer =>
            simp only
            split_ifs <;> rfl

end AuthStore

inductive AuthEvent
  | issue (nonce : String) (entitlementId : Int) (now : Nat)
  | verify (entitlementId : Int) (nonce signature : String) (owner : Address) (now : Nat) (action : String)

def AuthEvent.nonce : AuthEvent → String
  | .issue nonce _ _ => nonce
  | .verify _ nonce _ _ _ _ => nonce

namespace AuthStore

def new (controllerId : String) : AuthStore := ⟨controllerId, .empty⟩

def step (recover : String → String → Option Address) (store : AuthStore) : AuthEvent → AuthStore
  | .issue nonce entitlementId now => (store.issue nonce entitlementId now).2
  | .verify entitlementId nonce signature owner now action =>
      (store.verifyAction recover entitlementId nonce signature owner now action).2

def run (recover : String → String → Option Address) (store : AuthStore) (events : List AuthEvent) : AuthStore :=
  events.foldl (step recover) store

/-- The last event that names a nonce. -/
def lastNamed (nonce : String) (events : List AuthEvent) : Option AuthEvent :=
  events.reverse.find? fun event => event.nonce == nonce

/-- What an event leaves open under its own nonce. -/
def opens : AuthEvent → Option (Int × Nat)
  | .issue _ entitlementId now => some (entitlementId, now + nonceTtlS)
  | .verify .. => none

variable {recover : String → String → Option Address} {store : AuthStore}

@[simp] theorem controllerId_step (event : AuthEvent) : (store.step recover event).controllerId = store.controllerId := by
  cases event with
  | issue nonce entitlementId now => rfl
  | verify entitlementId nonce signature owner now action => rw [step, verifyAction_snd]

@[simp] theorem controllerId_run (events : List AuthEvent) :
    (store.run recover events).controllerId = store.controllerId := by
  induction events generalizing store with
  | nil => rfl
  | cons event events ih => exact ih.trans (controllerId_step event)

/-- One event decides its own nonce and leaves every other alone. -/
theorem get?_step (event : AuthEvent) (nonce : String) : (store.step recover event).opened.get? nonce =
    if nonce = event.nonce then opens event else store.opened.get? nonce := by
  cases event with
  | issue drawn entitlementId now => exact OrderedDict.get?_insert store.opened drawn nonce (entitlementId, now + nonceTtlS)
  | verify entitlementId presented signature owner now action =>
      rw [step, verifyAction_snd]
      exact OrderedDict.get?_erase store.opened presented nonce

/-- After a run a nonce is open as its last event left it. -/
theorem get?_run (events : List AuthEvent) (nonce : String) : (store.run recover events).opened.get? nonce =
    match lastNamed nonce events with
    | none => store.opened.get? nonce
    | some event => opens event := by
  induction events using List.reverseRecOn with
  | nil => rfl
  | append_singleton events event ih =>
      have hlast : lastNamed nonce (events ++ [event]) =
          if nonce = event.nonce then some event else lastNamed nonce events := by
        unfold lastNamed
        rw [List.reverse_append, List.reverse_singleton, List.singleton_append, List.find?_cons]
        by_cases hnamed : event.nonce = nonce
        · simp [hnamed]
        · simp [beq_false_of_ne hnamed, Ne.symm hnamed]
      have hrun : store.run recover (events ++ [event]) = (store.run recover events).step recover event :=
        List.foldl_append
      rw [hrun, get?_step, hlast, ih]
      split_ifs <;> rfl

/-- A nonce that was presented, and not drawn again since, is refused whatever the proof. -/
theorem verifyAction_of_presented {events : List AuthEvent} {nonce : String}
    (hlast : ∀ drawn entitlementId now, lastNamed nonce events ≠ some (.issue drawn entitlementId now))
    (hopen : store.opened.get? nonce = none) (entitlementId : Int) (signature : String) (owner : Address) (now : Nat)
    (action : String) :
    ((store.run recover events).verifyAction recover entitlementId nonce signature owner now action).1 =
      .refused .nonceReused := by
  have hclosed : (store.run recover events).opened.get? nonce = none := by
    rw [get?_run]
    cases hnamed : lastNamed nonce events with
    | none => exact hopen
    | some event =>
        cases event with
        | issue drawn issuedFor issuedAt => exact absurd hnamed (hlast drawn issuedFor issuedAt)
        | verify presentedFor presented signature owner now action => rfl
  rw [verifyAction, hclosed]

/-- A challenge that nobody has answered or drawn again is open for its ticket until its expiry. -/
theorem get?_run_issue {events : List AuthEvent} {nonce : String} (huntouched : ∀ event ∈ events, event.nonce ≠ nonce)
    (entitlementId : Int) (issuedAt : Nat) :
    (((store.issue nonce entitlementId issuedAt).2).run recover events).opened.get? nonce =
      some (entitlementId, issuedAt + nonceTtlS) := by
  have hnone : lastNamed nonce events = none := by
    apply List.find?_eq_none.mpr
    intro event hmem hnamed
    exact huntouched event (List.mem_reverse.mp hmem) (beq_iff_eq.mp hnamed)
  rw [get?_run, hnone]
  show (store.opened.insert nonce (entitlementId, issuedAt + nonceTtlS)).get? nonce = _
  rw [OrderedDict.get?_insert, if_pos rfl]

end AuthStore

end A2AProvisioning.Controller
