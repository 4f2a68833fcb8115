import A2AProvisioning.ControllerMock
import A2AProvisioning.SkeletonWorlds
import A2AProvisioning.SystemRates

/-! One script, three realities. `ChainWorld` puts the contracts under the stub, `ChainNetWorld` the routers as well.
What a script is told, and what it can look up, is the same in all of them. -/

namespace A2AProvisioning.Skeleton

open Controller Network TypedData Reentrant Settlement GnmiProvisioner

variable {T K : Type}

/-- The fake's name for a revert; `raised` is a revert that goes through as it is. -/
def errors : Settlement.Failure → FakeError
  | .settlement .offerExpired => .offerExpired
  | .settlement .wrongConsumer => .wrongConsumer
  | .settlement .offerAlreadyUsed => .offerAlreadyUsed
  | .tok .insufficientBalance => .insufficientFunds
  | .tok .insufficientAllowance => .insufficientFunds
  | _ => .raised

namespace RealChain

variable (d : Deployment T K) (codec : System.Codec) (spelling : Spelling)

/-- The client reads what the contract says now; it gives an account its checksum. -/
def reader (r : RealChain T K) : StubReader where
  get entitlementId := (System.get d.toPlatform codec r.world.settlement entitlementId).toOption
  ownerOf entitlementId := (System.ownerOf d.toPlatform r.world.settlement entitlementId).toOption.map spelling.spell
  chainTime := r.now

end RealChain

/-- Only those of the cast have a client, and Bell's revokes. The watcher's thread has been through the callbacks
when `revoke` returns; what one of them raised stays there. -/
def chainStage (d : Deployment T K) (codec : System.Codec) (spelling : Spelling) (cast : List Buyer) (bell : Buyer) :
    Stage (RealChain T K) where
  reader := RealChain.reader d codec spelling
  fulfill offer signature buyer r :=
    if buyer ∈ cast then
      ((r.fulfill d offer signature buyer).1.mapError errors, (r.fulfill d offer signature buyer).2)
    else (.error .raised, r)
  advanceTime := RealChain.advance
  revoke := RealChain.revoke d bell
  heard _ := .ok ()

/-- The states agree, every ticket has an owner, and all of them are Bell's, for bandwidth. -/
structure Staged (d : Deployment T K) (spelling : Spelling) (offers : Set Offer) (bell : Buyer) (f : FakeChain)
    (r : RealChain T K) : Prop where
  states : Matching d spelling offers f r
  owned : ∀ id, (f.owners id).isSome = (f.entitlements id).isSome
  sold : ∀ id view, f.entitlements id = some view → view.serviceType = 0 ∧ view.issuer = spelling.spell bell

section Chains

variable {d : Deployment T K} {codec : System.Codec} {spelling : Spelling} {offers : Set Offer} {bell : Buyer}
  {f : FakeChain} {r : RealChain T K}

theorem bigEndian_word_eq (w : Uint256) : BitVec.ofNat 256 (Hex.bigEndian (word w)) = w := by
  rw [toNat_bigEndian_word, BitVec.ofNat_toNat, BitVec.setWidth_eq]

/-- The port decodes the same view from both. -/
theorem View.Agrees.decoded (hcodec : codec.ReadsBandwidth) {view : View} {id : Nat} {e : Entitlement}
    (h : view.Agrees spelling id e) (htype : view.serviceType = 0) :
    (codec.decode e.serviceType e.params).map (fun params => (⟨(id : Int), e.issuer, e.serviceType, e.resourceId, params,
      e.startTime, e.endTime, e.revoked, e.termsHash⟩ : EntitlementView)) = some view.entitlementView := by
  have hparams : codec.decode e.serviceType e.params = some (.bandwidth view.params) := by
    rw [System.Codec.decode, if_pos (h.serviceType.symm.trans htype), ← h.params, hcodec, Option.map_some]
  rw [hparams, Option.map_some, View.entitlementView, h.id, h.issuer, h.serviceType, h.resourceId, h.termsHash,
    h.startTime, h.endTime, h.revoked, spelling.addressOf_spell, bigEndian_word_eq, bigEndian_word_eq]

/-- Nobody owns an id that the counter cannot reach. -/
theorem Staged.owner_eq_zero_of_le (h : Staged d spelling offers bell f r) (hids : f.nextId ≤ 2 ^ 256) {id : Nat}
    (hid : 2 ^ 256 ≤ id) : d.erc721.owner r.world.settlement.token id = 0 := by
  apply h.states.fresh
  have hnext := h.states.nextId
  omega

theorem Staged.ownerOf_natCast (h : Staged d spelling offers bell f r) (hids : f.nextId ≤ 2 ^ 256) (id : Nat) :
    (System.ownerOf d.toPlatform r.world.settlement id).toOption.map spelling.spell = f.owners id := by
  rw [h.states.owners, System.ownerOf, Int.toNat_natCast]
  by_cases hzero : d.erc721.owner r.world.settlement.token id = 0
  · rw [if_pos hzero, if_pos hzero]
    split_ifs
    · rfl
    · rfl
  · have hid : (id : Int) < 2 ^ 256 := by
      by_contra hid
      exact hzero (h.owner_eq_zero_of_le hids (by omega))
    rw [if_neg hzero, if_neg hzero, if_pos ⟨Int.natCast_nonneg id, hid⟩]
    rfl

theorem Staged.get_natCast (h : Staged d spelling offers bell f r) (hcodec : codec.ReadsBandwidth)
    (hids : f.nextId ≤ 2 ^ 256) (id : Nat) :
    (System.get d.toPlatform codec r.world.settlement id).toOption = (f.entitlements id).map View.entitlementView := by
  have howner := h.ownerOf_natCast hids id
  have howned := h.owned id
  rw [← howner] at howned
  rw [System.get, Int.toNat_natCast]
  rcases howner' : System.ownerOf d.toPlatform r.world.settlement id with err | owner
  · rw [howner'] at howned
    have hnone : f.entitlements id = none := Option.not_isSome_iff_eq_none.mp (by rw [← howned]; exact Bool.false_ne_true)
    rw [hnone]
    rfl
  · rw [howner'] at howned
    obtain ⟨view, hview⟩ := Option.isSome_iff_exists.mp howned.symm
    rcases h.states.terms id with ⟨hnone, -⟩ | ⟨view', hview', hagrees⟩
    · cases hview.symm.trans hnone
    · cases hview.symm.trans hview'
      have hdecoded := hagrees.decoded hcodec (h.sold id view hview).1
      rw [hview, Option.map_some, ← hdecoded]
      dsimp only
      cases codec.decode _ _ <;> rfl

/-- The two clients read the same. -/
theorem Staged.reader_eq (h : Staged d spelling offers bell f r) (hcodec : codec.ReadsBandwidth)
    (hids : f.nextId ≤ 2 ^ 256) : f.reader = r.reader d codec spelling := by
  have hnegative : ∀ entitlementId : Int, ¬ 0 ≤ entitlementId →
      System.ownerOf d.toPlatform r.world.settlement entitlementId = .error .rpcError := by
    intro entitlementId hneg
    rw [System.ownerOf, if_neg fun hrange => hneg hrange.1]
  have hget : f.reader.get = (r.reader d codec spelling).get := by
    funext entitlementId
    by_cases hpos : 0 ≤ entitlementId
    · obtain ⟨id, rfl⟩ := Int.eq_ofNat_of_zero_le hpos
      rw [FakeChain.reader_get_natCast, ← h.get_natCast hcodec hids, RealChain.reader]
    · have hleft : f.reader.get entitlementId = none := if_neg hpos
      have hright : System.get d.toPlatform codec r.world.settlement entitlementId = .error .rpcError := by
        rw [System.get, hnegative entitlementId hpos]
      exact hleft.trans (congrArg Except.toOption hright).symm
  have howner : f.reader.ownerOf = (r.reader d codec spelling).ownerOf := by
    funext entitlementId
    by_cases hpos : 0 ≤ entitlementId
    · obtain ⟨id, rfl⟩ := Int.eq_ofNat_of_zero_le hpos
      rw [FakeChain.reader_ownerOf_natCast, ← h.ownerOf_natCast hids, RealChain.reader]
    · have hleft : f.reader.ownerOf entitlementId = none := if_neg hpos
      exact hleft.trans (congrArg (fun owner => owner.toOption.map spelling.spell) (hnegative entitlementId hpos)).symm
  have hnow : f.reader.chainTime = (r.reader d codec spelling).chainTime := h.states.now
  calc
    f.reader = ⟨f.reader.get, f.reader.ownerOf, f.reader.chainTime⟩ := rfl
    _ = r.reader d codec spelling := by rw [hget, howner, hnow]

/-- A revocation finds the same ticket on both, or none. -/
theorem Staged.revoke (h : Staged d spelling offers bell f r) (hids : f.nextId ≤ 2 ^ 256) (entitlementId : Int) :
    (f.revoke entitlementId = none ∧ r.revoke d bell entitlementId = none) ∨
      ∃ next next', f.revoke entitlementId = some next ∧ r.revoke d bell entitlementId = some next' ∧
        next.nextId = f.nextId ∧ Staged d spelling offers bell next next' := by
  by_cases hpos : 0 ≤ entitlementId
  swap
  · left
    rw [FakeChain.revoke, RealChain.revoke, if_neg hpos, if_neg fun hrange => hpos hrange.1]
    exact ⟨rfl, rfl⟩
  obtain ⟨id, rfl⟩ := Int.eq_ofNat_of_zero_le hpos
  rw [FakeChain.revoke, RealChain.revoke, if_pos hpos, Int.toNat_natCast, exec_revoke]
  rcases h.states.terms id with ⟨hnone, hzero⟩ | ⟨view, hview, hagrees⟩
  · left
    have hissuer : (r.world.settlement.entitlements id).issuer ≠ bell := by
      rw [hzero]
      exact bell.2.symm
    rw [hnone, if_pos hissuer]
    refine ⟨rfl, ?_⟩
    split_ifs <;> rfl
  · right
    obtain ⟨htype, hspelled⟩ := h.sold id view hview
    have hissuer : ¬ (r.world.settlement.entitlements id).issuer ≠ bell := by
      rw [not_not]
      exact spelling.injective (hagrees.issuer.symm.trans hspelled)
    have hid : id < 2 ^ 256 := by
      by_contra hid
      have howned := h.owned id
      rw [h.states.owners, if_pos (h.owner_eq_zero_of_le hids (not_lt.mp hid)), hview] at howned
      cases howned
    rw [hview, if_pos ⟨hpos, hid⟩, if_neg hissuer]
    refine ⟨_, _, rfl, rfl, rfl, ⟨h.states.now, h.states.nextId, h.states.fresh, h.states.owners, fun id' => ?_,
      h.states.balances, h.states.spent⟩, fun id' => ?_, fun id' view' hview' => ?_⟩
    · by_cases hsame : id' = id
      · subst hsame
        refine Or.inr ⟨{ view with revoked := true }, Function.update_self _ _ _, ?_⟩
        dsimp only
        rw [Function.update_self]
        exact ⟨hagrees.id, hagrees.issuer, hagrees.serviceType, hagrees.resourceId, hagrees.params, hagrees.startTime,
          hagrees.endTime, rfl, hagrees.termsHash⟩
      · dsimp only
        rw [Function.update_of_ne hsame, Function.update_of_ne hsame]
        exact h.states.terms id'
    · by_cases hsame : id' = id
      · subst hsame
        have howned := h.owned id'
        rw [hview] at howned
        change (f.owners id').isSome = (Function.update f.entitlements id' _ id').isSome
        rw [howned, Function.update_self]
        rfl
      · change (f.owners id').isSome = (Function.update f.entitlements id _ id').isSome
        rw [Function.update_of_ne hsame]
        exact h.owned id'
    · change Function.update f.entitlements id _ id' = some view' at hview'
      by_cases hsame : id' = id
      · subst hsame
        rw [Function.update_self] at hview'
        cases hview'
        exact ⟨htype, hspelled⟩
      · rw [Function.update_of_ne hsame] at hview'
        exact h.sold id' view' hview'

theorem errors_of_counterpart {failure : Settlement.Failure} {err : FakeError} (h : counterpart failure = some err) :
    errors failure = err := by
  cases failure with
  | settlement revert => cases revert <;> cases h <;> rfl
  | tok error =>
      cases error <;> cases h
      rfl

theorem mapError_of_sameOutcome {x : Except FakeError Nat} {y : Except Settlement.Failure Nat} (h : SameOutcome x y) :
    y.mapError errors = x := by
  cases x with
  | ok id =>
      cases y with
      | ok id' => exact congrArg Except.ok (Eq.symm h)
      | error failure => cases h
  | error err =>
      cases y with
      | ok id' => cases h
      | error failure => exact congrArg Except.error (errors_of_counterpart h)

/-- A sale of Bell's leaves every ticket with an owner, and all of them Bell's. -/
theorem Staged.fulfill {offer : Offer} {signature : Bytes} {buyer : Buyer} (h : Staged d spelling offers bell f r)
    (hd : Reliable d) (hfree : d.CollisionFree (Offer.onChain '' offers)) (hsalts : Set.InjOn saltOf offers)
    (hvalid : ∀ offer ∈ offers, offer.Valid) (hmem : offer ∈ offers) (hsigned : Signed d offer signature)
    (hplain : Plain d spelling offer) (hbell : addressOf offer.provider = bell) (hids : f.nextId < 2 ^ 256) :
    (r.fulfill d offer signature buyer).1.mapError errors = (f.fulfill offer (spelling.spell buyer)).1 ∧
      Staged d spelling offers bell (f.fulfill offer (spelling.spell buyer)).2 (r.fulfill d offer signature buyer).2 := by
  have hstep := @inStep_fulfill T K d spelling offers offer signature buyer f r hd hfree hsalts hvalid hmem hsigned hplain
    h.states hids
  have houtcome : SameOutcome (f.fulfill offer (spelling.spell buyer)).1 (r.fulfill d offer signature buyer).1 := by
    have hrel := hstep.outcome
    unfold FakeChain.step RealChain.step at hrel
    cases hrel with
    | some hsame => exact hsame
  refine ⟨mapError_of_sameOutcome houtcome, hstep.states, ?_, ?_⟩
  · intro id
    rw [FakeChain.fulfill]
    cases f.check offer (spelling.spell buyer) with
    | error err => exact h.owned id
    | ok price =>
        obtain ⟨view, hview, -⟩ := viewOf_agrees hsigned hplain f.nextId
        dsimp only
        rw [hview]
        change (Function.update f.owners f.nextId (some (spelling.spell buyer)) id).isSome =
          (Function.update f.entitlements f.nextId (some view) id).isSome
        by_cases hid : id = f.nextId
        · rw [hid, Function.update_self, Function.update_self]
          rfl
        · rw [Function.update_of_ne hid, Function.update_of_ne hid]
          exact h.owned id
  · obtain ⟨-, heq | ⟨-, view, hview, heq⟩⟩ := FakeChain.fulfill_entitlements offer (spelling.spell buyer) f
    · rw [heq]
      exact h.sold
    · intro id view' hview'
      rw [heq] at hview'
      by_cases hid : id = f.nextId
      · rw [hid, Function.update_self] at hview'
        cases hview'
        obtain ⟨view', hview', hagrees⟩ := viewOf_agrees hsigned hplain f.nextId
        cases hview.symm.trans hview'
        refine ⟨hagrees.serviceType.trans hsigned.serviceType, hagrees.issuer.trans ?_⟩
        exact congrArg spelling.spell hbell
      · rw [Function.update_of_ne hid] at hview'
        exact h.sold id view' hview'

theorem Staged.advance (h : Staged d spelling offers bell f r) (seconds : Nat) :
    Staged d spelling offers bell (f.advance seconds) (r.advance seconds) where
  states := (inStep_advance seconds h.states).states
  owned := h.owned
  sold := h.sold

end Chains

/-! ### Whole scripts -/

/-- What Bell has signed and the fake can tell, for somebody who has a client. -/
def Cue.Fair (d : Deployment T K) (spelling : Spelling) (cast : List Buyer) (bell : Buyer) : Cue → Prop
  | .fulfill offer signature buyer =>
      Signed d offer signature ∧ Plain d spelling offer ∧ addressOf offer.provider = bell ∧ buyer ∈ cast
  | _ => True

/-- The offers that somebody tries to redeem. -/
def offeredIn (script : List Cue) : Set Offer := { offer | ∃ signature buyer, Cue.fulfill offer signature buyer ∈ script }

/-- The script was told the same, and finds the same on the chain and in the controller. -/
structure SamePlay {N N' : Type} (d : Deployment T K) (codec : System.Codec) (spelling : Spelling) (offers : Set Offer)
    (x : Reply × PlayWorld FakeChain N) (y : Reply × PlayWorld (RealChain T K) N') : Prop where
  reply : x.1 = y.1
  reader : x.2.chain.reader = y.2.chain.reader d codec spelling
  state : ∀ sessionId, x.2.controller.state sessionId = y.2.controller.state sessionId
  balances : ∀ a, x.2.chain.balances (spelling.spell a) = d.erc20.balanceOf y.2.chain.world.tok a
  salts : ∀ offer ∈ offers, x.2.chain.consumed offer.salt =
    y.2.chain.world.settlement.consumed (d.hashOffer offer.onChain)

section Scripts

variable {N' : Type} {p' : Provisioner N'} {related : MockProvisioner → N' → Prop} {allowed : NetCall → Prop}
  {d : Deployment T K} {codec : System.Codec} {spelling : Spelling} {cast : List Buyer} {bell : Buyer}
  {offers : Set Offer} {w : MockWorld} {w' : PlayWorld (RealChain T K) N'}

/-- The two worlds between cues. -/
structure Together (d : Deployment T K) (spelling : Spelling) (offers : Set Offer) (bell : Buyer)
    (related : MockProvisioner → N' → Prop) (w : MockWorld) (w' : PlayWorld (RealChain T K) N') : Prop where
  chains : Staged d spelling offers bell w.chain w'.chain
  controllers : StubController.Alike related w.controller w'.controller
  sound : Sound w

theorem Together.samePlay (h : Together d spelling offers bell related w w') (hcodec : codec.ReadsBandwidth)
    (hids : w.chain.nextId ≤ 2 ^ 256) (reply : Reply) : SamePlay d codec spelling offers (reply, w) (reply, w') where
  reply := rfl
  reader := h.chains.reader_eq hcodec hids
  state sessionId := by
    change w.controller.state sessionId = w'.controller.state sessionId
    rw [StubController.state, StubController.state, h.controllers.sessions]
  balances := h.chains.states.balances
  salts := h.chains.states.spent

/-- The replies of one cue are equal, and the worlds stay together. -/
theorem Together.play (h : Together d spelling offers bell related w w')
    (hp : MockProvisioner.provisioner.Alike p' related allowed)
    (happlies : ∀ sessionId capacityBps qosClass,
      allowed (.applyBandwidth sessionId (.path resolvedPath) capacityBps qosClass))
    (hd : Reliable d) (hcodec : codec.ReadsBandwidth) (hfree : d.CollisionFree (Offer.onChain '' offers))
    (hsalts : Set.InjOn saltOf offers) (hvalid : ∀ offer ∈ offers, offer.Valid) {cue : Cue}
    (hfair : cue.Fair d spelling cast bell) (hoffered : ∀ offer ∈ offeredIn [cue], offer ∈ offers)
    (hids : w.chain.nextId < 2 ^ 256) :
    ((mockStage spelling).play MockProvisioner.provisioner cue w).1 =
        ((chainStage d codec spelling cast bell).play p' cue w').1 ∧
      Together d spelling offers bell related ((mockStage spelling).play MockProvisioner.provisioner cue w).2
        ((chainStage d codec spelling cast bell).play p' cue w').2 := by
  have hsound := h.sound.play spelling cue
  have hreader := h.chains.reader_eq hcodec hids.le
  cases cue with
  | fulfill offer signature buyer =>
      obtain ⟨hsigned, hplain, hbell, hcast⟩ := hfair
      have hmem := hoffered offer ⟨signature, buyer, List.mem_cons_self⟩
      obtain ⟨houtcome, hstaged⟩ := @Staged.fulfill T K d spelling offers bell w.chain w'.chain offer signature buyer
        h.chains hd hfree hsalts hvalid hmem hsigned hplain hbell hids
      have hchain : (chainStage d codec spelling cast bell).fulfill offer signature buyer w'.chain =
          ((w'.chain.fulfill d offer signature buyer).1.mapError errors, (w'.chain.fulfill d offer signature buyer).2) :=
        if_pos hcast
      rw [Stage.play, Stage.play, hchain]
      exact ⟨congrArg Reply.ticket houtcome.symm, hstaged, h.controllers, hsound⟩
  | advanceTime seconds => exact ⟨rfl, h.chains.advance seconds, h.controllers, hsound⟩
  | revoke entitlementId =>
      rcases h.chains.revoke hids.le entitlementId with ⟨hfake, hreal⟩ | ⟨f, r, hfake, hreal, hnext, hstaged⟩
      · rw [@Stage.play_revoke_none _ _ (mockStage spelling) _ _ w hfake,
          @Stage.play_revoke_none _ _ (chainStage d codec spelling cast bell) _ _ w' hreal]
        exact ⟨rfl, h⟩
      · obtain ⟨next, hreacts, -, -⟩ := h.sound.revoke hfake
        have hreader' : f.reader = r.reader d codec spelling := hstaged.reader_eq hcodec (hnext.le.trans hids.le)
        have hreaction := h.controllers.onRevoked hp f.reader entitlementId
        rw [@Stage.play_revoke_some _ _ (mockStage spelling) _ _ w f hfake] at hsound ⊢
        rw [@Stage.play_revoke_some _ _ (chainStage d codec spelling cast bell) _ _ w' r hreal]
        refine ⟨?_, hstaged, ?_, hsound⟩
        · change Reply.done (w.controller.onRevoked MockProvisioner.provisioner f.reader entitlementId).1 = .done (.ok ())
          rw [hreacts]
        · change StubController.Alike related _
            (w'.controller.onRevoked p' (r.reader d codec spelling) entitlementId).2
          rw [← hreader']
          exact hreaction.states
  | challenge entitlementId =>
      have hreply := h.controllers.challenge
      exact ⟨congrArg Reply.nonce hreply.answer, h.chains, hreply.states, hsound⟩
  | activate entitlementId requester nonce =>
      have hreply := h.controllers.activate hp happlies w.chain.reader entitlementId requester nonce
      rw [Stage.play, Stage.play]
      change Reply.session (w.controller.activate _ w.chain.reader entitlementId requester nonce).1 =
          .session (w'.controller.activate p' (w'.chain.reader d codec spelling) entitlementId requester nonce).1 ∧
        Together d spelling offers bell related _
          ⟨w'.chain, (w'.controller.activate p' (w'.chain.reader d codec spelling) entitlementId requester nonce).2⟩
      rw [← hreader]
      exact ⟨congrArg Reply.session hreply.answer, h.chains, hreply.states, hsound⟩
  | tick =>
      have hreply := h.controllers.tick hp w.chain.reader
      change Reply.done (w.controller.tick _ w.chain.reader).1 =
          .done (w'.controller.tick p' (w'.chain.reader d codec spelling)).1 ∧
        Together d spelling offers bell related _ ⟨w'.chain, (w'.controller.tick p' (w'.chain.reader d codec spelling)).2⟩
      rw [← hreader]
      exact ⟨congrArg Reply.done hreply.answer, h.chains, hreply.states, hsound⟩
  | teardown sessionId =>
      have hreply := h.controllers.teardown hp sessionId
      exact ⟨congrArg Reply.done hreply.answer, h.chains, hreply.states, hsound⟩

theorem nextId_play_le (spelling : Spelling) (p : Provisioner MockProvisioner) (cue : Cue) (w : MockWorld) :
    ((mockStage spelling).play p cue w).2.chain.nextId ≤ w.chain.nextId + 1 := by
  cases cue with
  | fulfill offer signature buyer => exact nextId_fulfill_le offer (spelling.spell buyer) w.chain
  | revoke entitlementId =>
      cases hrevoke : w.chain.revoke entitlementId with
      | none =>
          rw [@Stage.play_revoke_none _ _ (mockStage spelling) _ _ w hrevoke]
          exact Nat.le_succ _
      | some f =>
          rw [@Stage.play_revoke_some _ _ (mockStage spelling) _ _ w f hrevoke]
          obtain ⟨id, view, -, -, rfl⟩ := FakeChain.revoke_eq_some hrevoke
          exact Nat.le_succ _
  | advanceTime seconds => exact Nat.le_succ _
  | challenge entitlementId => exact Nat.le_succ _
  | activate entitlementId requester nonce => exact Nat.le_succ _
  | tick => exact Nat.le_succ _
  | teardown sessionId => exact Nat.le_succ _

/-- The contracts, and a controller without sessions on a network. -/
def ChainWorld.start (d : Deployment T K) (now : Nat) (tok : K) (lastId : Nat) (n : N') : PlayWorld (RealChain T K) N' :=
  ⟨RealChain.start d now tok lastId, .start n⟩

theorem together_start (hd : Reliable d) (offers : Set Offer) (now lastId : Nat) {balances : String → Int} {tok : K}
    (hbalances : ∀ a, balances (spelling.spell a) = d.erc20.balanceOf tok a) {n : N'} (hn : related .new n) :
    Together d spelling offers bell related (MockWorld.start now balances (lastId + 1))
      (ChainWorld.start d now tok lastId n) where
  chains :=
    { states := matching_start hd spelling offers now lastId hbalances
      owned := fun _ => rfl
      sold := fun _ _ hget => by cases hget }
  controllers := .start hn
  sound := sound_start now balances (lastId + 1)

/-- What a script must be for the fake to tell what it is told. -/
structure Playable (d : Deployment T K) (spelling : Spelling) (cast : List Buyer) (bell : Buyer) (script : List Cue) :
    Prop where
  fair : ∀ cue ∈ script, cue.Fair d spelling cast bell
  salts : Set.InjOn saltOf (offeredIn script)
  collisionFree : d.CollisionFree (Offer.onChain '' offeredIn script)

/-- Over a network that answers as the mock does, cue by cue. -/
theorem play_trace (hp : MockProvisioner.provisioner.Alike p' related allowed)
    (happlies : ∀ sessionId capacityBps qosClass,
      allowed (.applyBandwidth sessionId (.path resolvedPath) capacityBps qosClass))
    (hd : Reliable d) (hcodec : codec.ReadsBandwidth) {script : List Cue} (hplayable : Playable d spelling cast bell script)
    (h : Together d spelling (offeredIn script) bell related w w') (hids : w.chain.nextId + script.length ≤ 2 ^ 256) :
    List.Forall₂ (fun x y => SamePlay d codec spelling (offeredIn script) x y ∧
        Together d spelling (offeredIn script) bell related x.2 y.2)
      (Lockstep.trace (fun cue w => (mockStage spelling).play MockProvisioner.provisioner cue w) w script)
      (Lockstep.trace (fun cue w => (chainStage d codec spelling cast bell).play p' cue w) w' script) := by
  have hvalid : ∀ offer ∈ offeredIn script, offer.Valid := by
    rintro offer ⟨signature, buyer, hmem⟩
    exact (hplayable.fair _ hmem).1.valid
  apply Lockstep.trace_simulates
    (fun n w w' => Together d spelling (offeredIn script) bell related w w' ∧ w.chain.nextId + n ≤ 2 ^ 256) ?_ ⟨h, hids⟩
  rintro cue hmem n w w' ⟨h, hids⟩
  obtain ⟨hreply, hnext⟩ := @Together.play T K N' p' related allowed d codec spelling cast bell (offeredIn script) w w' h hp
    happlies hd hcodec hplayable.collisionFree hplayable.salts hvalid cue (hplayable.fair cue hmem)
    (by
      rintro offer ⟨signature, buyer, hcue⟩
      exact ⟨signature, buyer, List.mem_singleton.mp hcue ▸ hmem⟩)
    (by omega)
  have hle := nextId_play_le spelling MockProvisioner.provisioner cue w
  have hsame := hnext.samePlay hcodec (by omega) ((mockStage spelling).play MockProvisioner.provisioner cue w).1
  refine ⟨⟨⟨hreply, hsame.reader, hsame.state, hsame.balances, hsame.salts⟩, hnext⟩, hnext, by omega⟩

end Scripts

/-! ### What is on the router -/

/-- The first policer that the router reports for the session; the class of service is not on the router. -/
def routerRate (devices : Devices) (sessionId : String) : Option (Nat × Nat) :=
  ((devices "srl1").templates.get? (templateName sessionId)).bind fun template =>
    template.policers.values.head?.map fun policer => (policer.peakRateKbps * 1000, 1)

/-- A template of a session has one policer. -/
def OnePolicer (devices : Devices) : Prop :=
  ∀ device sessionId template, (devices device).templates.get? (templateName sessionId) = some template →
    ∃ policer, template.policers.entries = [(1, policer)]

namespace OnePolicer

variable {g : GnmiProvisioner} {devices : Devices}

/-- A device that changes keeps it, if its templates do. -/
theorem update (h : OnePolicer devices) {device : String} {updated : Device}
    (hupdated : ∀ sessionId template, updated.templates.get? (templateName sessionId) = some template →
      ∃ policer, template.policers.entries = [(1, policer)]) : OnePolicer (Function.update devices device updated) := by
  intro other sessionId template hget
  by_cases hother : other = device
  · rw [hother, Function.update_self] at hget
    exact hupdated sessionId template hget
  · rw [Function.update_of_ne hother] at hget
    exact h other sessionId template hget

theorem applyBandwidth (h : OnePolicer devices) {path : ResolvedPath} (hdevice : path.device ∈ g.targets)
    (sessionId : String) (capacityBps : Nat) :
    OnePolicer (g.applyBandwidth sessionId (.path path) capacityBps devices).2 := by
  rw [GnmiProvisioner.applyBandwidth_eq hdevice]
  refine h.update fun other template hget => ?_
  rw [GnmiProvisioner.templates_policed] at hget
  split_ifs at hget with hother
  · cases hget
    cases hold : (devices path.device).templates.get? (templateName sessionId) with
    | none => exact ⟨GnmiProvisioner.policer capacityBps, rfl⟩
    | some template =>
        obtain ⟨old, hentries⟩ := h path.device sessionId template hold
        refine ⟨GnmiProvisioner.policer capacityBps, ?_⟩
        change OrderedDict.assign 1 (GnmiProvisioner.policer capacityBps) template.policers.entries = _
        rw [hentries]
        rfl
  · exact h path.device other template hget

theorem call (h : OnePolicer devices) {netCall : NetCall} (htakes : g.Takes netCall) :
    OnePolicer (g.provisioner.call netCall devices).2 := by
  cases netCall with
  | applyBandwidth sessionId path capacityBps qosClass =>
      obtain ⟨⟨resolved, rfl⟩, hdevice⟩ := htakes
      exact h.applyBandwidth hdevice sessionId capacityBps
  | applyTelemetry sessionId target sensorPaths collectorEndpoint sampleIntervalS =>
      obtain ⟨hport, hdevice⟩ := htakes
      obtain ⟨port, hport⟩ := Option.ne_none_iff_exists'.mp hport
      change OnePolicer (g.applyTelemetry sessionId target collectorEndpoint devices).2
      rw [GnmiProvisioner.applyTelemetry_eq hdevice hport]
      exact h.update fun other template hget => h (deviceOf target) other template hget
  | teardown sessionId =>
      intro device other template hget
      change ((g.teardown sessionId devices).2 device).templates.get? _ = some template at hget
      rw [GnmiProvisioner.teardown_devices] at hget
      split_ifs at hget with hmem
      · rw [GnmiProvisioner.templates_remove] at hget
        split_ifs at hget
        exact h device other template hget
      · exact h device other template hget

end OnePolicer

/-- The mock's record and the routers, each template with its one policer. -/
theorem mock_alike_routers (g : GnmiProvisioner) :
    MockProvisioner.provisioner.Alike g.provisioner (fun m devices => g.Mirrors m devices ∧ OnePolicer devices)
      g.Takes where
  answers call m devices htakes h := (mock_alike g).answers call m devices htakes h.1
  states call m devices htakes h := ⟨(mock_alike g).states call m devices htakes h.1, h.2.call htakes⟩
  teardown := (mock_alike g).teardown

/-- What the network holds for a session, read from the router and from the record: a rate is in kbps there, and at
least one. A session of the controller is gone from both at once. -/
structure SameNetwork (w : MockWorld) (devices : Devices) : Prop where
  provisioned : ∀ sessionId, routerRate devices sessionId =
    (recordedRate w.controller.net.state sessionId).map fun rate => (GnmiProvisioner.rateKbps rate.1 * 1000, 1)
  tornDown : ∀ sessionId session, w.controller.sessions.get? sessionId = some session →
    (routerRate devices sessionId).isNone = recordedEnd w.controller.net.state sessionId

theorem Sound.routerRate_eq {w : MockWorld} (h : Sound w) {g : GnmiProvisioner} (hdevice : "srl1" ∈ g.targets)
    {devices : Devices} (hmirrors : g.Mirrors w.controller.net.state devices) (hone : OnePolicer devices)
    (sessionId : String) : routerRate devices sessionId =
      (recordedRate w.controller.net.state sessionId).map fun rate => (GnmiProvisioner.rateKbps rate.1 * 1000, 1) := by
  cases happlied : w.controller.net.state.applied.get? sessionId with
  | none =>
      have hgone : (devices "srl1").templates.get? (templateName sessionId) = none := by
        apply Option.not_isSome_iff_eq_none.mp
        intro htemplate
        have hsome := (hmirrors.named sessionId).mpr ⟨"srl1", hdevice, Or.inl htemplate⟩
        rw [happlied] at hsome
        cases hsome
      rw [routerRate, recordedRate, hgone, happlied]
      rfl
  | some applied =>
      obtain ⟨session, hactive⟩ := (h.consistent.active sessionId).mp (by rw [happlied]; rfl)
      obtain ⟨id, view, -, hbacked⟩ := h.backed sessionId session hactive
      obtain ⟨-, template, hget, hpolicer⟩ := hmirrors.holds sessionId _ hbacked.rate
      change (devices "srl1").templates.get? (templateName sessionId) = some template at hget
      obtain ⟨only, hentries⟩ := hone "srl1" sessionId template hget
      have honly : only = GnmiProvisioner.policer view.params.capacityBps.toNat := by
        rw [OrderedDict.get?, hentries] at hpolicer
        exact Option.some.inj hpolicer
      have hhead : template.policers.values.head? = some only := by
        rw [OrderedDict.values, hentries]
        rfl
      rw [routerRate, recordedRate, hget, hbacked.rate, Option.bind_some, hhead, honly]
      rfl

theorem Sound.sameNetwork {w : MockWorld} (h : Sound w) {g : GnmiProvisioner} (hdevice : "srl1" ∈ g.targets)
    {devices : Devices} (hmirrors : g.Mirrors w.controller.net.state devices) (hone : OnePolicer devices) :
    SameNetwork w devices where
  provisioned := h.routerRate_eq hdevice hmirrors hone
  tornDown sessionId session hget := by
    have hended := h.follows.tornDown sessionId session hget
    obtain ⟨-, hstate, -⟩ := h.consistent.keyed sessionId session hget
    rw [h.routerRate_eq hdevice hmirrors hone, Bool.eq_iff_iff, hended, Option.isNone_map, Option.isNone_iff_eq_none]
    constructor
    · intro hnone
      refine hstate.resolve_left fun hactive => ?_
      obtain ⟨id, view, -, hbacked⟩ := h.backed sessionId session ⟨hget, hactive⟩
      rw [recordedRate, hbacked.rate] at hnone
      cases hnone
    · intro htorn
      have happlied : w.controller.net.state.applied.get? sessionId = none := by
        apply Option.not_isSome_iff_eq_none.mp
        intro hsome
        obtain ⟨session', hget', hactive⟩ := (h.consistent.active sessionId).mp hsome
        cases hget.symm.trans hget'
        rw [htorn] at hactive
        cases hactive
      rw [recordedRate, happlied]

theorem mock_alike_mock : MockProvisioner.provisioner.Alike MockProvisioner.provisioner Eq fun _ => True where
  answers _ _ _ _ h := by rw [h]
  states _ _ _ _ h := by rw [h]
  teardown _ := trivial

theorem booksOf_spell (a : Address) (amount : Nat) (b : Address) :
    booksOf a amount (lowerCase.spell b) = smallDeployment.erc20.balanceOf (ledgerOf a amount) b := by
  change (if lowerCase.spell b = lowerCase.spell a then (amount : Int) else 0) = ((if b = a then amount else 0 : Nat) : Int)
  by_cases hb : b = a
  · rw [hb, if_pos rfl, if_pos rfl]
  · rw [if_neg hb, if_neg (lowerCase.injective.ne hb)]
    rfl

def bellBuyer : Buyer := ⟨Settlement.bell, by decide⟩

/-- Bell takes the ticket back while Ada is using it. -/
def revokedPlay : List Cue := adasPlay ++ [.revoke 1]

theorem revokedPlay_offers {offer : Offer} {signature : Bytes} {buyer : Buyer}
    (hmem : Cue.fulfill offer signature buyer ∈ revokedPlay) :
    offer = plainOffer ∧ signature = [1] ∧ buyer = adaBuyer := by
  simp only [revokedPlay, adasPlay, List.mem_append, List.mem_cons, Cue.fulfill.injEq, reduceCtorEq, List.not_mem_nil,
    or_false] at hmem
  exact hmem

theorem revokedPlay_playable : Playable smallDeployment lowerCase [adaBuyer] bellBuyer revokedPlay where
  fair cue hmem := by
    cases cue with
    | fulfill offer signature buyer =>
        obtain ⟨rfl, rfl, rfl⟩ := revokedPlay_offers hmem
        exact ⟨plainOffer_signed, plainOffer_plain, lowerCase.addressOf_spell _, List.mem_singleton_self _⟩
    | _ => trivial
  salts := by
    rintro offer ⟨signature, buyer, hmem⟩ offer' ⟨signature', buyer', hmem'⟩ -
    rw [(revokedPlay_offers hmem).1, (revokedPlay_offers hmem').1]
  collisionFree := collisionFree_labOffer fun offer ⟨_, _, hmem⟩ => (revokedPlay_offers hmem).1

end A2AProvisioning.Skeleton
