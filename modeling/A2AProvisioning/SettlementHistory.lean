import A2AProvisioning.SettlementTickets

/-! What can happen to a ticket over a whole history: its terms never change, it keeps an owner, and
its revoked flag is set by its issuer or not at all. Every committed half of every entry point is held
to the same law, at whatever depth of calls it ran. -/

namespace A2AProvisioning.Settlement

open Reentrant

variable {T : Type}

/-- The half of an entry point that is an ERC-721 transfer of the id. -/
def IsTransfer (half : Half Msg) (sender : Address) (id : Nat) (target : Address) : Prop :=
  ∃ msg source, half = .enter msg ∧ msg.sender = sender ∧
    (msg.data = .transferFrom source target id ∨ ∃ data, msg.data = .safeTransferFrom source target id data)

variable (p : Platform T)

def Minted (s : Storage T) (id : Nat) : Prop := p.erc721.owner s.token id ≠ 0

instance (s : Storage T) (id : Nat) : Decidable (Minted p s id) :=
  inferInstanceAs (Decidable (p.erc721.owner s.token id ≠ 0))

/-- The law for the owners and the approvals: an id keeps an owner, which changes by an authorized
transfer alone, and an approval comes from whoever controls the id, or is cleared. -/
structure LawfulToken (ch : Change Nat Msg (Storage T)) : Prop where
  minted : ∀ id, Minted p ch.before id → Minted p ch.after id
  owner : ∀ id, Minted p ch.before id →
    p.erc721.owner ch.after.token id ≠ p.erc721.owner ch.before.token id →
      ∃ sender, IsTransfer ch.half sender id (p.erc721.owner ch.after.token id) ∧
        p.erc721.Authorized ch.before.token sender id
  approved : ∀ id, p.erc721.approved ch.after.token id ≠ p.erc721.approved ch.before.token id →
    p.erc721.approved ch.after.token id = 0 ∨
      ∃ msg, ch.half = .enter msg ∧ msg.data = .approve (p.erc721.approved ch.after.token id) id ∧
        p.erc721.Controls ch.before.token msg.sender id
  operator : ∀ account operator,
    p.erc721.operator ch.after.token account operator ≠ p.erc721.operator ch.before.token account operator →
      ∃ msg, ch.half = .enter msg ∧ msg.sender = account ∧
        msg.data = .setApprovalForAll operator (p.erc721.operator ch.after.token account operator)

/-- The law for the terms: they stay, and the flag is raised by a `revoke` of the issuer, which does
nothing else. -/
structure LawfulTerms (ch : Change Nat Msg (Storage T)) : Prop where
  terms : ∀ id, Minted p ch.before id → (ch.after.entitlements id).SameTerms (ch.before.entitlements id)
  revoked : ∀ id, Minted p ch.before id →
    (ch.after.entitlements id).revoked ≠ (ch.before.entitlements id).revoked →
      (ch.before.entitlements id).revoked = false ∧ (ch.after.entitlements id).revoked = true ∧
        ∃ msg, ch.half = .enter msg ∧ msg.data = .revoke id ∧
          msg.sender = (ch.before.entitlements id).issuer
  revoke : ∀ msg id, ch.half = .enter msg → msg.data = .revoke id →
    Minted p ch.before id ∧ msg.sender = (ch.before.entitlements id).issuer ∧
      ch.after = { ch.before with
        entitlements :=
          Function.update ch.before.entitlements id { ch.before.entitlements id with revoked := true } }
  fresh : ∀ id, ¬ Minted p ch.before id → Minted p ch.after id →
    (ch.after.entitlements id).revoked = false

structure Lawful (ch : Change Nat Msg (Storage T)) : Prop extends LawfulToken p ch, LawfulTerms p ch

/-- What a ticket keeps from one state to a later one. -/
structure Permanent (s t : Storage T) (id : Nat) : Prop where
  terms : (t.entitlements id).SameTerms (s.entitlements id)
  minted : Minted p t id
  revoked : (s.entitlements id).revoked = true → (t.entitlements id).revoked = true

/-- Whoever is approved for an id, or is an operator of an account, was made so in the history, by one in
control of the id or by the account. -/
structure Appointed (log : Log T) (s : Storage T) : Prop where
  approved : ∀ id, p.erc721.approved s.token id ≠ 0 → ∃ ch ∈ log, ∃ msg, ch.half = .enter msg ∧
    msg.data = .approve (p.erc721.approved s.token id) id ∧ p.erc721.Controls ch.before.token msg.sender id
  operator : ∀ account operator, p.erc721.operator s.token account operator = true →
    ∃ ch ∈ log, ∃ msg, ch.half = .enter msg ∧ msg.sender = account ∧ msg.data = .setApprovalForAll operator true

/-- An id that was never issued reads as zero. -/
def Blank (s : Storage T) : Prop := ∀ id, ¬ Minted p s id → s.entitlements id = Entitlement.zero

variable {p}

theorem Lawful.permanent {ch : Change Nat Msg (Storage T)} (h : Lawful p ch) {id : Nat}
    (hminted : Minted p ch.before id) : Permanent p ch.before ch.after id where
  terms := h.terms id hminted
  minted := h.minted id hminted
  revoked := fun hrevoked => by
    by_contra hflag
    have hchange := h.revoked id hminted (fun heq => hflag (heq.trans hrevoked))
    rw [hrevoked] at hchange
    cases hchange.1

theorem Permanent.trans {s t u : Storage T} {id : Nat} (h : Permanent p s t id) (h' : Permanent p t u id) :
    Permanent p s u id where
  terms := h'.terms.trans h.terms
  minted := h'.minted
  revoked := fun hrevoked => h'.revoked (h.revoked hrevoked)

/-- A chain of lawful changes keeps every ticket. -/
theorem permanent_of_chained {s t : Storage T} {log : Log T} (hchained : Chained s log t)
    (hlawful : ∀ ch ∈ log, Lawful p ch) {id : Nat} (hminted : Minted p s id) : Permanent p s t id := by
  induction log generalizing s with
  | nil =>
      cases hchained
      exact ⟨Entitlement.SameTerms.refl _, hminted, fun hrevoked => hrevoked⟩
  | cons ch log ih =>
      obtain ⟨rfl, hrest⟩ := hchained
      have hfirst := (hlawful ch List.mem_cons_self).permanent hminted
      exact hfirst.trans (ih hrest (fun ch' hmem => hlawful ch' (List.mem_cons_of_mem _ hmem)) hfirst.minted)

/-- An approval that the history has changed was given in it, or is cleared. -/
theorem approved_of_chained {s t : Storage T} {log : Log T} (hchained : Chained s log t)
    (hlawful : ∀ ch ∈ log, Lawful p ch) {id : Nat}
    (hne : p.erc721.approved t.token id ≠ p.erc721.approved s.token id) :
    p.erc721.approved t.token id = 0 ∨ ∃ ch ∈ log, ∃ msg, ch.half = .enter msg ∧
      msg.data = .approve (p.erc721.approved t.token id) id ∧ p.erc721.Controls ch.before.token msg.sender id := by
  induction log generalizing s with
  | nil =>
      obtain rfl : s = t := hchained
      exact absurd rfl hne
  | cons ch log ih =>
      obtain ⟨rfl, hrest⟩ := hchained
      by_cases hlater : p.erc721.approved t.token id = p.erc721.approved ch.after.token id
      · rw [hlater] at hne ⊢
        rcases (hlawful ch List.mem_cons_self).approved id hne with hzero | hgiven
        · exact Or.inl hzero
        · exact Or.inr ⟨ch, List.mem_cons_self, hgiven⟩
      · rcases ih hrest (fun ch' hmem => hlawful ch' (List.mem_cons_of_mem _ hmem)) hlater with
          hzero | ⟨ch', hmem, hgiven⟩
        · exact Or.inl hzero
        · exact Or.inr ⟨ch', List.mem_cons_of_mem _ hmem, hgiven⟩

theorem operator_of_chained {s t : Storage T} {log : Log T} (hchained : Chained s log t)
    (hlawful : ∀ ch ∈ log, Lawful p ch) {account operator : Address}
    (hne : p.erc721.operator t.token account operator ≠ p.erc721.operator s.token account operator) :
    ∃ ch ∈ log, ∃ msg, ch.half = .enter msg ∧ msg.sender = account ∧
      msg.data = .setApprovalForAll operator (p.erc721.operator t.token account operator) := by
  induction log generalizing s with
  | nil =>
      obtain rfl : s = t := hchained
      exact absurd rfl hne
  | cons ch log ih =>
      obtain ⟨rfl, hrest⟩ := hchained
      by_cases hlater : p.erc721.operator t.token account operator = p.erc721.operator ch.after.token account operator
      · rw [hlater] at hne ⊢
        exact ⟨ch, List.mem_cons_self, (hlawful ch List.mem_cons_self).operator account operator hne⟩
      · obtain ⟨ch', hmem, hset⟩ := ih hrest (fun ch' hmem => hlawful ch' (List.mem_cons_of_mem _ hmem)) hlater
        exact ⟨ch', List.mem_cons_of_mem _ hmem, hset⟩

/-- On a registry that was deployed without approvals and operators, all of them are appointed. -/
theorem appointed_of_chained (hspec : p.erc721.Spec) {s : Storage T} {log : Log T}
    (hchained : Chained (deployed p) log s) (hlawful : ∀ ch ∈ log, Lawful p ch) : Appointed p log s where
  approved := fun id happroved => by
    have hnone : p.erc721.approved (deployed p).token id = 0 := hspec.approved_deployed id
    exact (approved_of_chained hchained hlawful (hnone ▸ happroved)).resolve_left happroved
  operator := fun account operator hoperator => by
    have hnone : p.erc721.operator (deployed p).token account operator = false :=
      hspec.operator_deployed account operator
    have hne : p.erc721.operator s.token account operator ≠ p.erc721.operator (deployed p).token account operator := by
      simp [hnone, hoperator]
    have hset := operator_of_chained hchained hlawful hne
    rwa [hoperator] at hset

/-! ### The law of each half -/

section Halves

variable {timestamp : Nat} {half : Half Msg} {s next : Storage T}

theorem lawfulToken_of_eq (htoken : next.token = s.token) : LawfulToken p ⟨timestamp, s, half, next⟩ where
  minted := fun id hminted => by
    rw [Minted, htoken]
    exact hminted
  owner := fun id _ hne => absurd (by rw [htoken]) hne
  approved := fun id hne => absurd (by rw [htoken]) hne
  operator := fun account operator hne => absurd (by rw [htoken]) hne

/-- A half other than `revoke` that issues no ticket and leaves the entitlements alone. -/
theorem lawfulTerms_of_eq (hentitlements : next.entitlements = s.entitlements)
    (hold : ∀ id, Minted p next id → Minted p s id)
    (hhalf : ∀ msg id, half = .enter msg → msg.data ≠ .revoke id) :
    LawfulTerms p ⟨timestamp, s, half, next⟩ where
  terms := fun id _ => by
    change (next.entitlements id).SameTerms (s.entitlements id)
    rw [hentitlements]
    exact Entitlement.SameTerms.refl _
  revoked := fun id _ hne => absurd (by rw [hentitlements]) hne
  revoke := fun msg id hmsg hdata => absurd hdata (hhalf msg id hmsg)
  fresh := fun id hnot hminted => absurd (hold id hminted) hnot

theorem lawfulToken_approve (hspec : p.erc721.Spec) {msg : Msg} {target : Address} {id : Nat} {token : T}
    (hdata : msg.data = .approve target id)
    (htoken : p.erc721.approve msg.sender target id s.token = some token) :
    LawfulToken p ⟨timestamp, s, .enter msg, { s with token := token }⟩ := by
  obtain ⟨hcontrols, howner, happroved, hoperator⟩ := hspec.approve _ _ _ _ _ htoken
  refine ⟨fun id' hminted => ?_, fun id' _ hne => ?_, fun id' hne => ?_, fun account operator hne => ?_⟩
  · rw [Minted, howner]
    exact hminted
  · exact absurd (congrFun howner id') hne
  · change p.erc721.approved token id' ≠ p.erc721.approved s.token id' at hne
    change p.erc721.approved token id' = 0 ∨ _
    by_cases hid : id' = id
    · subst hid
      refine Or.inr ⟨msg, rfl, ?_, hcontrols⟩
      rw [hdata]
      change _ = CallData.approve (p.erc721.approved token id') id'
      rw [happroved, Function.update_self]
    · rw [happroved, Function.update_of_ne hid] at hne
      exact absurd rfl hne
  · exact absurd (congrFun (congrFun hoperator account) operator) hne

theorem lawfulToken_setApprovalForAll (hspec : p.erc721.Spec) {msg : Msg} {operator : Address} {ok : Bool}
    {token : T} (hdata : msg.data = .setApprovalForAll operator ok)
    (htoken : p.erc721.setApprovalForAll msg.sender operator ok s.token = some token) :
    LawfulToken p ⟨timestamp, s, .enter msg, { s with token := token }⟩ := by
  obtain ⟨howner, happroved, hoperator⟩ := hspec.setApprovalForAll _ _ _ _ _ htoken
  refine ⟨fun id hminted => ?_, fun id _ hne => ?_, fun id hne => ?_, fun account operator' hne => ?_⟩
  · rw [Minted, howner]
    exact hminted
  · exact absurd (congrFun howner id) hne
  · exact absurd (congrFun happroved id) hne
  · change p.erc721.operator token account operator' ≠ p.erc721.operator s.token account operator' at hne
    by_cases haccount : account = msg.sender
    · by_cases hoperator' : operator' = operator
      · refine ⟨msg, rfl, haccount.symm, ?_⟩
        rw [hdata]
        change _ = CallData.setApprovalForAll operator' (p.erc721.operator token account operator')
        rw [hoperator, haccount, hoperator', Function.update_self, Function.update_self]
      · rw [hoperator, haccount, Function.update_self, Function.update_of_ne hoperator'] at hne
        exact absurd rfl hne
    · rw [hoperator, Function.update_of_ne haccount] at hne
      exact absurd rfl hne

theorem lawfulToken_transferFrom (hspec : p.erc721.Spec) {msg : Msg} {source target : Address} {id : Nat}
    {token : T}
    (hdata : msg.data = .transferFrom source target id ∨ ∃ data, msg.data = .safeTransferFrom source target id data)
    (htoken : p.erc721.transferFrom msg.sender source target id s.token = some token) :
    LawfulToken p ⟨timestamp, s, .enter msg, { s with token := token }⟩ := by
  obtain ⟨hauthorized, -, -, howner, happroved, hoperator⟩ := hspec.transferFrom _ _ _ _ _ _ htoken
  refine ⟨fun id' hminted => ?_, fun id' _ hne => ?_, fun id' hne => Or.inl ?_, fun account operator hne => ?_⟩
  · exact (owner_ne_zero_iff_of_transferFrom hspec htoken).mpr hminted
  · change p.erc721.owner token id' ≠ p.erc721.owner s.token id' at hne
    by_cases hid : id' = id
    · subst hid
      refine ⟨msg.sender, ⟨msg, source, rfl, rfl, ?_⟩, hauthorized⟩
      change msg.data = .transferFrom source (p.erc721.owner token id') id' ∨
        ∃ data, msg.data = .safeTransferFrom source (p.erc721.owner token id') id' data
      rw [howner, Function.update_self]
      exact hdata
    · rw [howner, Function.update_of_ne hid] at hne
      exact absurd rfl hne
  · change p.erc721.approved token id' ≠ p.erc721.approved s.token id' at hne
    change p.erc721.approved token id' = 0
    by_cases hid : id' = id
    · rw [happroved, hid, Function.update_self]
    · rw [happroved, Function.update_of_ne hid] at hne
      exact absurd rfl hne
  · exact absurd (congrFun (congrFun hoperator account) operator) hne

/-- Only a minted id has an issuer that can send a message. -/
theorem lawfulTerms_revoke (hblank : Blank p s) {msg : Msg} {id : Nat} (hdata : msg.data = .revoke id)
    (hissuer : (s.entitlements id).issuer = msg.sender) :
    LawfulTerms p ⟨timestamp, s, .enter msg, { s with
      entitlements := Function.update s.entitlements id { s.entitlements id with revoked := true } }⟩ := by
  have hminted : Minted p s id := by
    by_contra hnot
    rw [hblank id hnot] at hissuer
    exact msg.sender_ne_zero hissuer.symm
  refine ⟨fun id' _ => sameTerms_update_revoked s.entitlements id id', fun id' _ hne => ?_,
    fun msg' id' hmsg hdata' => ?_, fun id' hnot hminted' => absurd hminted' hnot⟩
  · change (Function.update s.entitlements id _ id').revoked ≠ (s.entitlements id').revoked at hne
    change (s.entitlements id').revoked = false ∧ (Function.update s.entitlements id _ id').revoked = true ∧ _
    by_cases hid : id' = id
    · subst hid
      rw [Function.update_self] at hne ⊢
      exact ⟨eq_false_of_ne_true hne.symm, rfl, msg, rfl, hdata, hissuer.symm⟩
    · rw [Function.update_of_ne hid] at hne
      exact absurd rfl hne
  · cases hmsg
    cases hdata.symm.trans hdata'
    exact ⟨hminted, hissuer.symm, rfl⟩

/-- Issuing writes an id that had no owner, and no other. -/
theorem lawful_issue (hspec : p.erc721.Spec) {msg : Msg} {offer : Offer}
    (hissue : issue p msg.sender offer.entitlement s = .ok next) :
    Lawful p ⟨timestamp, s, .leave msg, next⟩ := by
  obtain ⟨token, hmint, rfl⟩ := issue_eq_ok hissue
  obtain ⟨hsender, hfree, howner, happroved, hoperator⟩ := hspec.mint _ _ _ _ hmint
  have hne : ∀ id, Minted p s id → id ≠ s.lastId + 1 := fun id hminted hid => hminted (hid ▸ hfree)
  have hentitlement : ∀ id, Minted p s id →
      Function.update s.entitlements (s.lastId + 1) offer.entitlement id = s.entitlements id :=
    fun id hminted => Function.update_of_ne (hne id hminted) _ _
  have howned : ∀ id, Minted p s id → p.erc721.owner token id = p.erc721.owner s.token id := by
    intro id hminted
    rw [howner, Function.update_of_ne (hne id hminted)]
  refine ⟨⟨fun id hminted => ?_, fun id hminted hchange => absurd (howned id hminted) hchange,
    fun id hchange => absurd (congrFun happroved id) hchange,
    fun account operator hchange => absurd (congrFun (congrFun hoperator account) operator) hchange⟩,
    ⟨fun id hminted => ?_, fun id hminted hchange => ?_, fun msg id hmsg => ?_, fun id hnot hminted => ?_⟩⟩
  · change p.erc721.owner token id ≠ 0
    rw [howned id hminted]
    exact hminted
  · change (Function.update s.entitlements (s.lastId + 1) offer.entitlement id).SameTerms (s.entitlements id)
    rw [hentitlement id hminted]
    exact Entitlement.SameTerms.refl _
  · exact absurd (congrArg Entitlement.revoked (hentitlement id hminted)) hchange
  · cases hmsg
  · change p.erc721.owner token id ≠ 0 at hminted
    change (Function.update s.entitlements (s.lastId + 1) offer.entitlement id).revoked = false
    by_cases hid : id = s.lastId + 1
    · subst hid
      rw [Function.update_self]
      rfl
    · rw [howner, Function.update_of_ne hid] at hminted
      exact absurd hminted hnot

theorem lawful_enter (hspec : p.erc721.Spec) (hblank : Blank p s) {msg : Msg}
    (hentered : Entered p timestamp msg.sender s msg.data next) :
    Lawful p ⟨timestamp, s, .enter msg, next⟩ := by
  obtain ⟨sender, hsender, data⟩ := msg
  cases hentered with
  | fulfill hok hunused =>
      exact ⟨lawfulToken_of_eq rfl, lawfulTerms_of_eq rfl (fun _ hminted => hminted)
        (by rintro _ id ⟨⟩ hdata; cases hdata)⟩
  | revoke hissuer => exact ⟨lawfulToken_of_eq rfl, lawfulTerms_revoke hblank rfl hissuer⟩
  | approve htoken =>
      obtain ⟨-, howner, -⟩ := hspec.approve _ _ _ _ _ htoken
      exact ⟨lawfulToken_approve hspec rfl htoken, lawfulTerms_of_eq rfl
        (fun id hminted => by rwa [Minted, howner] at hminted) (by rintro _ id ⟨⟩ hdata; cases hdata)⟩
  | setApprovalForAll htoken =>
      obtain ⟨howner, -⟩ := hspec.setApprovalForAll _ _ _ _ _ htoken
      exact ⟨lawfulToken_setApprovalForAll hspec rfl htoken, lawfulTerms_of_eq rfl
        (fun id hminted => by rwa [Minted, howner] at hminted) (by rintro _ id ⟨⟩ hdata; cases hdata)⟩
  | transferFrom htoken =>
      exact ⟨lawfulToken_transferFrom hspec (Or.inl rfl) htoken, lawfulTerms_of_eq rfl
        (fun id => (owner_ne_zero_iff_of_transferFrom hspec htoken).mp) (by rintro _ id ⟨⟩ hdata; cases hdata)⟩
  | safeTransferFrom htoken =>
      exact ⟨lawfulToken_transferFrom hspec (Or.inr ⟨_, rfl⟩) htoken, lawfulTerms_of_eq rfl
        (fun id => (owner_ne_zero_iff_of_transferFrom hspec htoken).mp) (by rintro _ id ⟨⟩ hdata; cases hdata)⟩

theorem lawful_leave (hspec : p.erc721.Spec) {msg : Msg} (hcalls : callsOut msg = true)
    (hleave : leave p msg s = .ok next) : Lawful p ⟨timestamp, s, .leave msg, next⟩ := by
  obtain ⟨sender, hsender, data⟩ := msg
  cases data with
  | fulfill offer signature => exact lawful_issue hspec hleave
  | safeTransferFrom source target id data =>
      cases hleave
      exact ⟨lawfulToken_of_eq rfl, lawfulTerms_of_eq rfl (fun _ hminted => hminted) (by rintro _ id ⟨⟩)⟩
  | revoke id => cases hcalls
  | approve target id => cases hcalls
  | setApprovalForAll operator ok => cases hcalls
  | transferFrom source target id => cases hcalls

theorem blank_enter (hspec : p.erc721.Spec) (hblank : Blank p s) {msg : Msg}
    (hentered : Entered p timestamp msg.sender s msg.data next) : Blank p next := by
  have hlawful := lawful_enter hspec hblank hentered
  obtain ⟨sender, hsender, data⟩ := msg
  intro id hnot
  have hbefore : ¬ Minted p s id := fun hminted => hnot (hlawful.minted id hminted)
  cases hentered with
  | revoke hissuer =>
      rename_i id'
      have hne : id ≠ id' := by
        rintro rfl
        exact hbefore (hlawful.revoke _ id rfl rfl).1
      change Function.update s.entitlements id' _ id = _
      rw [Function.update_of_ne hne]
      exact hblank id hbefore
  | fulfill hok hunused => exact hblank id hbefore
  | approve htoken => exact hblank id hbefore
  | setApprovalForAll htoken => exact hblank id hbefore
  | transferFrom htoken => exact hblank id hbefore
  | safeTransferFrom htoken => exact hblank id hbefore

theorem blank_leave (hspec : p.erc721.Spec) (hblank : Blank p s) {msg : Msg} (hcalls : callsOut msg = true)
    (hleave : leave p msg s = .ok next) : Blank p next := by
  have hlawful : Lawful p ⟨0, s, .leave msg, next⟩ := lawful_leave hspec hcalls hleave
  obtain ⟨sender, hsender, data⟩ := msg
  intro id hnot
  have hbefore : ¬ Minted p s id := fun hminted => hnot (hlawful.minted id hminted)
  cases data with
  | fulfill offer signature =>
      obtain ⟨token, hmint, rfl⟩ := issue_eq_ok hleave
      obtain ⟨-, -, howner, -⟩ := hspec.mint _ _ _ _ hmint
      have hne : id ≠ s.lastId + 1 := by
        rintro rfl
        refine hnot ?_
        change p.erc721.owner token (s.lastId + 1) ≠ 0
        rw [howner, Function.update_self]
        exact hsender
      change Function.update s.entitlements (s.lastId + 1) _ id = _
      rw [Function.update_of_ne hne]
      exact hblank id hbefore
  | safeTransferFrom source target id' data =>
      cases hleave
      exact hblank id hbefore
  | revoke id' => cases hcalls
  | approve target id' => cases hcalls
  | setApprovalForAll operator ok => cases hcalls
  | transferFrom source target id' => cases hcalls

end Halves

theorem lawful_history (hspec : p.erc721.Spec) (txs : List (Nat × Call Msg)) :
    ∀ ch ∈ (history (settlement p) (deployed p) txs).2, Lawful p ch := by
  have hstart : Blank p (deployed p) ∧ ∀ ch ∈ ([] : Log T), Lawful p ch :=
    ⟨fun _ _ => rfl, fun ch hmem => absurd hmem List.not_mem_nil⟩
  have h := @history_invariant _ _ _ _ (settlement p)
    (fun _ log s => Blank p s ∧ ∀ ch ∈ log, Lawful p ch)
    (fun waiting log b e s next hinv henter => by
      refine ⟨blank_enter hspec hinv.1 (entered_of_enter henter), fun ch hmem => ?_⟩
      rcases List.mem_append.mp hmem with hmem | hmem
      · exact hinv.2 ch hmem
      · cases List.mem_singleton.mp hmem
        exact lawful_enter hspec hinv.1 (entered_of_enter henter))
    (fun waiting log b e s next hcalls hinv hleave => by
      refine ⟨blank_leave hspec hinv.1 hcalls hleave, fun ch hmem => ?_⟩
      rcases List.mem_append.mp hmem with hmem | hmem
      · exact hinv.2 ch hmem
      · cases List.mem_singleton.mp hmem
        exact lawful_leave hspec hcalls hleave)
    txs [] (deployed p) hstart
  exact h.2

/-- Every change a history commits obeys the law, the approvals and operators at every point of it were
appointed before, and what was minted when the history had committed `sofar` is as permanent at every later
point of it, `later` changes on. -/
theorem tickets_permanent (p : Platform T) (hspec : p.erc721.Spec) (txs : List (Nat × Call Msg)) :
    Chained (deployed p) (history (settlement p) (deployed p) txs).2
        (history (settlement p) (deployed p) txs).1 ∧
      (∀ ch ∈ (history (settlement p) (deployed p) txs).2, Lawful p ch) ∧
      (∀ sofar rest s, (history (settlement p) (deployed p) txs).2 = sofar ++ rest →
        Chained (deployed p) sofar s → Appointed p sofar s) ∧
      ∀ sofar later rest s t, (history (settlement p) (deployed p) txs).2 = sofar ++ later ++ rest →
        Chained (deployed p) sofar s → Chained s later t →
          ∀ id, Minted p s id → Permanent p s t id := by
  have hlawful := lawful_history hspec txs
  refine ⟨(history_chained (settlement p) (deployed p) txs).1, hlawful, ?_, ?_⟩
  · intro sofar rest s hlog hsofar
    refine appointed_of_chained hspec hsofar fun ch hmem => hlawful ch ?_
    rw [hlog]
    exact List.mem_append_left _ hmem
  · intro sofar later rest s t hlog hsofar hlater id hminted
    refine permanent_of_chained hlater (fun ch hmem => hlawful ch ?_) hminted
    rw [hlog]
    exact List.mem_append_left _ (List.mem_append_right _ hmem)

def revokedSale : List (Nat × Call Msg) :=
  replayedSale ++ [(60, .entry ⟨ada, ada_ne_zero, .revoke 1⟩ [] true),
    (60, .entry ⟨bell, bell_ne_zero, .revoke 1⟩ [] true),
    (70, .entry ⟨ada, ada_ne_zero, .transferFrom ada bell 1⟩ [] true)]

theorem tickets_permanent_revoked :
    Permanent smallPlatform (history (settlement smallPlatform) (deployed smallPlatform) replayedSale).1
        (history (settlement smallPlatform) (deployed smallPlatform) revokedSale).1 1 ∧
      ((history (settlement smallPlatform) (deployed smallPlatform) revokedSale).1.entitlements 1).revoked =
        true := by
  refine ⟨?_, rfl⟩
  rw [revokedSale, history_append]
  refine (tickets_permanent smallPlatform Registry.erc721_spec revokedSale).2.2.2 _ _ [] _ _ ?_
    (history_chained (settlement smallPlatform) _ replayedSale).1
    (history_chained (settlement smallPlatform) _ _).1 1 (by decide)
  rw [revokedSale, history_append, List.append_nil]

end A2AProvisioning.Settlement
