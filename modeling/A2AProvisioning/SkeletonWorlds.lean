import A2AProvisioning.NetworkMock
import A2AProvisioning.SkeletonController
import A2AProvisioning.SkeletonSimulation

/-! The worlds of the lifecycle tests: a chain and a controller behind one surface, and the cues a script gives. In
`MockWorld` a session is on the network while it is active, at the rate that was sold, and a revoked ticket has none. -/

namespace A2AProvisioning.Skeleton

open Controller Network TypedData

/-- As the port has it. -/
def View.entitlementView (view : View) : EntitlementView where
  id := view.id
  issuer := addressOf view.issuer
  serviceType := view.serviceType
  resourceId := BitVec.ofNat 256 (Hex.bigEndian view.resourceId)
  params := .bandwidth view.params
  startTime := view.startTime
  endTime := view.endTime
  revoked := view.revoked
  termsHash := BitVec.ofNat 256 (Hex.bigEndian view.termsHash)

namespace FakeChain

def reader (f : FakeChain) : StubReader where
  get entitlementId :=
    if 0 ≤ entitlementId then (f.entitlements entitlementId.toNat).map View.entitlementView else none
  ownerOf entitlementId := if 0 ≤ entitlementId then f.owners entitlementId.toNat else none
  chainTime := f.now

/-- `none` is the exception for an id that was never minted. Anybody may. -/
def revoke (entitlementId : Int) (f : FakeChain) : Option FakeChain :=
  if 0 ≤ entitlementId then
    (f.entitlements entitlementId.toNat).map fun view =>
      { f with entitlements := Function.update f.entitlements entitlementId.toNat (some { view with revoked := true }) }
  else none

end FakeChain

/-- What the worlds do in their own ways. -/
structure Stage (C : Type) where
  reader : C → StubReader
  fulfill : Offer → Bytes → Buyer → C → Except FakeError Nat × C
  advanceTime : Nat → C → C
  /-- The chain after a revocation; `none` is an exception. -/
  revoke : Int → C → Option C
  /-- What the script hears of the controller's reaction to a revocation. -/
  heard : Except Failure Unit → Except Failure Unit

structure PlayWorld (C N : Type) where
  chain : C
  controller : StubController N

inductive Cue
  | fulfill (offer : Offer) (signature : Bytes) (buyer : Buyer)
  | advanceTime (seconds : Nat)
  | revoke (entitlementId : Int)
  | challenge (entitlementId : Int)
  | activate (entitlementId : Int) (requester nonce : String)
  | tick
  | teardown (sessionId : String)

inductive Reply
  | ticket (result : Except FakeError Nat)
  | nonce (nonce : String)
  | session (result : Except Failure String)
  | done (result : Except Failure Unit)

section Play

variable {C N : Type}

/-- The controller hears of a revocation before the script goes on. -/
def Stage.play (stage : Stage C) (p : Provisioner N) : Cue → PlayWorld C N → Reply × PlayWorld C N
  | .fulfill offer signature buyer, w =>
      (.ticket (stage.fulfill offer signature buyer w.chain).1,
        { w with chain := (stage.fulfill offer signature buyer w.chain).2 })
  | .advanceTime seconds, w => (.done (.ok ()), { w with chain := stage.advanceTime seconds w.chain })
  | .revoke entitlementId, w =>
      match stage.revoke entitlementId w.chain with
      | none => (.done (.error .raised), w)
      | some chain =>
          let reaction := w.controller.onRevoked p (stage.reader chain) entitlementId
          (.done (stage.heard reaction.1), ⟨chain, reaction.2⟩)
  | .challenge _, w => (.nonce w.controller.challenge.1, { w with controller := w.controller.challenge.2 })
  | .activate entitlementId requester nonce, w =>
      let activation := w.controller.activate p (stage.reader w.chain) entitlementId requester nonce
      (.session activation.1, { w with controller := activation.2 })
  | .tick, w =>
      let ended := w.controller.tick p (stage.reader w.chain)
      (.done ended.1, { w with controller := ended.2 })
  | .teardown sessionId, w =>
      let ended := w.controller.teardown p sessionId
      (.done ended.1, { w with controller := ended.2 })

theorem Stage.play_revoke_none {stage : Stage C} {p : Provisioner N} {entitlementId : Int} {w : PlayWorld C N}
    (h : stage.revoke entitlementId w.chain = none) :
    stage.play p (.revoke entitlementId) w = (.done (.error .raised), w) := by
  rw [Stage.play, h]

theorem Stage.play_revoke_some {stage : Stage C} {p : Provisioner N} {entitlementId : Int} {w : PlayWorld C N} {chain : C}
    (h : stage.revoke entitlementId w.chain = some chain) :
    stage.play p (.revoke entitlementId) w =
      (.done (stage.heard (w.controller.onRevoked p (stage.reader chain) entitlementId).1),
        ⟨chain, (w.controller.onRevoked p (stage.reader chain) entitlementId).2⟩) := by
  rw [Stage.play, h]

/-- The world after a script. -/
def Stage.playAll (stage : Stage C) (p : Provisioner N) (w : PlayWorld C N) (script : List Cue) : PlayWorld C N :=
  script.foldl (fun w cue => (stage.play p cue w).2) w

end Play

/-- The fake spells accounts as `spelling` does; a revocation calls the watchers itself. -/
def mockStage (spelling : Spelling) : Stage FakeChain where
  reader := FakeChain.reader
  fulfill offer _ buyer f := f.fulfill offer (spelling.spell buyer)
  advanceTime := FakeChain.advance
  revoke := FakeChain.revoke
  heard := id

abbrev MockWorld := PlayWorld FakeChain MockProvisioner

/-- `none` also where the record has no such keys. -/
def recordedRate (m : MockProvisioner) (sessionId : String) : Option (Nat × Nat) :=
  match m.applied.get? sessionId with
  | some (.bandwidth _ capacityBps qosClass) => some (capacityBps, qosClass)
  | _ => none

def recordedEnd (m : MockProvisioner) (sessionId : String) : Bool :=
  decide (sessionId ∈ m.tornDown) && (m.applied.get? sessionId).isNone

namespace StubController

variable {c : StubController MockProvisioner}

def ActiveAt {N : Type} (c : StubController N) (sessionId : String) (session : StubSession) : Prop :=
  c.sessions.get? sessionId = some session ∧ session.state = .active

/-- The controller with its network: who is active is on it, and who was torn down is not. -/
structure Consistent (c : StubController MockProvisioner) : Prop where
  keyed : ∀ sessionId session, c.sessions.get? sessionId = some session →
    session.sessionId = sessionId ∧ (session.state = .active ∨ session.state = .tornDown) ∧
      ∃ seq < c.sessionSeq, sessionId = stubSessionId seq
  active : ∀ sessionId, (c.net.state.applied.get? sessionId).isSome = true ↔ ∃ session, c.ActiveAt sessionId session
  ended : ∀ sessionId session, c.sessions.get? sessionId = some session → session.state = .tornDown →
    sessionId ∈ c.net.state.tornDown

/-- A teardown ends its session, if there is one, and nothing else. -/
structure TearsDown (c : StubController MockProvisioner) (sessionId : String) (next : StubController MockProvisioner) :
    Prop where
  sessions : ∀ other, next.sessions.get? other =
    if other = sessionId then (c.sessions.get? sessionId).map fun session => { session with state := .tornDown }
    else c.sessions.get? other
  state : next.net.state = (c.net.state.teardown sessionId).2
  sessionSeq : next.sessionSeq = c.sessionSeq

variable (c) in
theorem teardown_mock (sessionId : String) :
    ∃ next, c.teardown MockProvisioner.provisioner sessionId = (.ok (), next) ∧ TearsDown c sessionId next := by
  have hinvoke : c.net.invoke MockProvisioner.provisioner (.teardown sessionId) =
      (some ⟨true, ""⟩, ⟨(c.net.state.teardown sessionId).2, c.net.calls ++ [.teardown sessionId]⟩) := rfl
  rw [StubController.teardown, hinvoke]
  dsimp only
  cases hget : c.sessions.get? sessionId with
  | none =>
      refine ⟨_, rfl, ⟨fun other => ?_, rfl, rfl⟩⟩
      split_ifs with hother
      · rw [hother, hget]
        rfl
      · rfl
  | some session =>
      refine ⟨_, rfl, ⟨fun other => ?_, rfl, rfl⟩⟩
      dsimp only
      by_cases hstate : session.state = .tornDown
      · rw [if_neg (not_not.mpr hstate)]
        split_ifs with hother
        · rw [hother, hget, Option.map_some, ← hstate]
        · rfl
      · rw [if_pos hstate, OrderedDict.get?_insert, hget, Option.map_some]

theorem TearsDown.activeAt_iff {next : StubController MockProvisioner} {sessionId : String} (h : TearsDown c sessionId next)
    {other : String} {session : StubSession} :
    next.ActiveAt other session ↔ other ≠ sessionId ∧ c.ActiveAt other session := by
  rw [ActiveAt, h.sessions]
  split_ifs with hother
  · refine iff_of_false ?_ fun hactive => hactive.1 hother
    rintro ⟨hget, hstate⟩
    obtain ⟨found, -, rfl⟩ := Option.map_eq_some_iff.mp hget
    cases hstate
  · exact (and_iff_right hother).symm

theorem Consistent.tearsDown {next : StubController MockProvisioner} {sessionId : String} (h : Consistent c)
    (hends : TearsDown c sessionId next) : Consistent next where
  keyed other session hget := by
    rw [hends.sessions] at hget
    rw [hends.sessionSeq]
    split_ifs at hget with hother
    · obtain ⟨found, hfound, rfl⟩ := Option.map_eq_some_iff.mp hget
      obtain ⟨hid, -, hseq⟩ := h.keyed sessionId found hfound
      rw [hother]
      exact ⟨hid, Or.inr rfl, hseq⟩
    · exact h.keyed other session hget
  active other := by
    rw [hends.state, MockProvisioner.teardown, OrderedDict.get?_erase]
    simp only [hends.activeAt_iff]
    split_ifs with hother
    · refine iff_of_false Bool.false_ne_true ?_
      rintro ⟨session, hne, -⟩
      exact hne hother
    · rw [h.active other]
      exact exists_congr fun _ => (and_iff_right hother).symm
  ended other session hget hstate := by
    rw [hends.state]
    rw [hends.sessions] at hget
    split_ifs at hget with hother
    · exact List.mem_append_right _ (List.mem_singleton.mpr hother)
    · exact List.mem_append_left _ (h.ended other session hget hstate)

/-- Some sessions ended, and nothing else. -/
structure Ended (c : StubController MockProvisioner) (ids : List String) (next : StubController MockProvisioner) :
    Prop where
  consistent : Consistent c → Consistent next
  active : ∀ other session, next.ActiveAt other session ↔ other ∉ ids ∧ c.ActiveAt other session
  applied : ∀ other ∉ ids, next.net.state.applied.get? other = c.net.state.applied.get? other

theorem Ended.refl (c : StubController MockProvisioner) : Ended c [] c :=
  ⟨id, fun _ _ => (and_iff_right List.not_mem_nil).symm, fun _ _ => rfl⟩

theorem Ended.cons {next last : StubController MockProvisioner} {sessionId : String} {ids : List String}
    (hfirst : TearsDown c sessionId next) (hrest : Ended next ids last) : Ended c (sessionId :: ids) last where
  consistent h := hrest.consistent (h.tearsDown hfirst)
  active other session := by
    rw [hrest.active, hfirst.activeAt_iff, List.mem_cons, not_or, and_left_comm, and_assoc]
  applied other hother := by
    obtain ⟨hne, hmem⟩ := not_or.mp (mt List.mem_cons.mpr hother)
    rw [hrest.applied other hmem, hfirst.state, MockProvisioner.teardown, OrderedDict.get?_erase, if_neg hne]

theorem teardownAll_mock (sessions : List StubSession) (c : StubController MockProvisioner) :
    ∃ next, StubController.teardownAll MockProvisioner.provisioner sessions c = (.ok (), next) ∧
      Ended c (sessions.map StubSession.sessionId) next := by
  induction sessions generalizing c with
  | nil => exact ⟨c, rfl, Ended.refl c⟩
  | cons session rest ih =>
      obtain ⟨next, heq, hfirst⟩ := c.teardown_mock session.sessionId
      obtain ⟨last, heq', hrest⟩ := ih next
      refine ⟨last, ?_, Ended.cons hfirst hrest⟩
      rw [StubController.teardownAll, heq]
      exact heq'

/-- An active session of the list whose entitlement the chain says is over. -/
def Due (reader : StubReader) (sessions : List StubSession) (sessionId : String) : Prop :=
  ∃ session ∈ sessions, session.sessionId = sessionId ∧ session.state = .active ∧
    ∃ view, reader.get session.entitlementId = some view ∧ view.endTime.toNat ≤ reader.chainTime

theorem due_cons_iff {reader : StubReader} {session : StubSession} {rest : List StubSession} {sessionId : String}
    (hnot : ¬ (session.state = .active ∧
      ∃ view, reader.get session.entitlementId = some view ∧ view.endTime.toNat ≤ reader.chainTime)) :
    Due reader (session :: rest) sessionId ↔ Due reader rest sessionId := by
  simp only [Due, List.exists_mem_cons_iff]
  exact or_iff_right fun h => hnot h.2

theorem tickAll_mock {reader : StubReader} {sessions : List StubSession}
    (hreads : ∀ session ∈ sessions, session.state = .active → ∃ view, reader.get session.entitlementId = some view)
    (c : StubController MockProvisioner) :
    ∃ next ids, StubController.tickAll MockProvisioner.provisioner reader sessions c = (.ok (), next) ∧
      Ended c ids next ∧ ∀ sessionId, sessionId ∈ ids ↔ Due reader sessions sessionId := by
  induction sessions generalizing c with
  | nil => exact ⟨c, [], rfl, Ended.refl c, fun _ => iff_of_false List.not_mem_nil fun ⟨_, h, _⟩ => List.not_mem_nil h⟩
  | cons session rest ih =>
      have hrest : ∀ session ∈ rest, session.state = .active → ∃ view, reader.get session.entitlementId = some view :=
        fun session hmem => hreads session (List.mem_cons_of_mem _ hmem)
      rw [StubController.tickAll]
      by_cases hactive : session.state = .active
      · obtain ⟨view, hview⟩ := hreads session List.mem_cons_self hactive
        rw [if_neg (not_not.mpr hactive), hview]
        dsimp only
        by_cases hexpired : reader.chainTime ≥ view.endTime.toNat
        · obtain ⟨next, heq, hfirst⟩ := c.teardown_mock session.sessionId
          obtain ⟨last, ids, heq', hended, hids⟩ := ih hrest next
          rw [if_pos hexpired, heq]
          refine ⟨last, session.sessionId :: ids, heq', Ended.cons hfirst hended, fun sessionId => ?_⟩
          rw [List.mem_cons, hids, Due, Due, List.exists_mem_cons_iff]
          refine or_congr_left ?_
          exact ⟨fun h => ⟨h.symm, hactive, view, hview, hexpired⟩, fun h => h.1.symm⟩
        · obtain ⟨next, ids, heq, hended, hids⟩ := ih hrest c
          rw [if_neg hexpired]
          refine ⟨next, ids, heq, hended, fun sessionId => (hids sessionId).trans (due_cons_iff ?_).symm⟩
          rintro ⟨-, view', hview', hexpired'⟩
          cases hview.symm.trans hview'
          exact hexpired hexpired'
      · obtain ⟨next, ids, heq, hended, hids⟩ := ih hrest c
        rw [if_pos hactive]
        exact ⟨next, ids, heq, hended, fun sessionId => (hids sessionId).trans (due_cons_iff fun h => hactive h.1).symm⟩

/-- What has to hold for the stub to activate, and what it has done then. -/
structure Grants (reader : StubReader) (c : StubController MockProvisioner) (entitlementId : Int) (requester : String)
    (view : EntitlementView) (params : BandwidthParams) (next : StubController MockProvisioner) : Prop where
  get : reader.get entitlementId = some view
  owner : reader.ownerOf entitlementId = some requester
  allowed : Controller.predicate view 0 0 reader.chainTime c.activeIds none stubServiceTypes = none
  bandwidth : view.params = .bandwidth params
  state : next.net.state = (c.net.state.applyBandwidth (stubSessionId c.sessionSeq) (.path resolvedPath)
    params.capacityBps.toNat params.qosClass.toNat).2
  sessions : next.sessions = c.sessions.insert (stubSessionId c.sessionSeq)
    ⟨stubSessionId c.sessionSeq, entitlementId, .active⟩
  sessionSeq : next.sessionSeq = c.sessionSeq + 1

variable (c) in
/-- The mock refuses nothing, so an activation is granted or uses up a nonce and an id at most. -/
theorem activate_mock (reader : StubReader) (entitlementId : Int) (requester nonce : String) :
    (∃ nonces seq, c.sessionSeq ≤ seq ∧
      (c.activate MockProvisioner.provisioner reader entitlementId requester nonce).2 =
        { c with openNonces := nonces, sessionSeq := seq }) ∨
    ∃ view params, Grants reader c entitlementId requester view params
      (c.activate MockProvisioner.provisioner reader entitlementId requester nonce).2 := by
  rw [StubController.activate]
  by_cases hopen : nonce ∉ c.openNonces
  · rw [if_pos hopen]
    exact Or.inl ⟨c.openNonces, c.sessionSeq, le_rfl, rfl⟩
  rw [if_neg hopen]
  dsimp only
  rcases hget : reader.get entitlementId with _ | view
  · exact Or.inl ⟨_, c.sessionSeq, le_rfl, rfl⟩
  rcases howner : reader.ownerOf entitlementId with _ | owner
  · exact Or.inl ⟨_, c.sessionSeq, le_rfl, rfl⟩
  dsimp only
  cases hpredicate : predicate view owner requester reader.chainTime
      { c with openNonces := c.openNonces.erase nonce }.activeIds with
  | some code => exact Or.inl ⟨_, c.sessionSeq, le_rfl, rfl⟩
  | none =>
      rw [predicate] at hpredicate
      split_ifs at hpredicate with hrequester
      dsimp only
      rw [StubController.provision, resourceMap]
      split_ifs with hresource
      · cases hparams : view.params with
        | telemetry params => exact Or.inl ⟨_, c.sessionSeq + 1, Nat.le_succ _, rfl⟩
        | bandwidth params =>
            exact Or.inr ⟨view, params, hget, by rw [howner, not_not.mp hrequester], hpredicate, hparams, rfl, rfl, rfl⟩
      · exact Or.inl ⟨_, c.sessionSeq + 1, Nat.le_succ _, rfl⟩

theorem Grants.activeAt_iff {reader : StubReader} {entitlementId : Int} {requester : String} {view : EntitlementView}
    {params : BandwidthParams} {next : StubController MockProvisioner}
    (h : Grants reader c entitlementId requester view params next) {other : String} {session : StubSession} :
    next.ActiveAt other session ↔
      if other = stubSessionId c.sessionSeq then session = ⟨stubSessionId c.sessionSeq, entitlementId, .active⟩
      else c.ActiveAt other session := by
  rw [ActiveAt, h.sessions, OrderedDict.get?_insert]
  split_ifs with hother
  · constructor
    · rintro ⟨hget, -⟩
      exact (Option.some.inj hget).symm
    · rintro rfl
      exact ⟨rfl, rfl⟩
  · exact Iff.rfl

theorem Consistent.grants {reader : StubReader} {entitlementId : Int} {requester : String} {view : EntitlementView}
    {params : BandwidthParams} {next : StubController MockProvisioner} (h : Consistent c)
    (hgrants : Grants reader c entitlementId requester view params next) : Consistent next where
  keyed other session hget := by
    rw [hgrants.sessions, OrderedDict.get?_insert] at hget
    rw [hgrants.sessionSeq]
    split_ifs at hget with hother
    · cases hget
      exact ⟨hother.symm, Or.inl rfl, c.sessionSeq, Nat.lt_succ_self _, hother⟩
    · obtain ⟨hid, hstate, seq, hlt, hseq⟩ := h.keyed other session hget
      exact ⟨hid, hstate, seq, hlt.trans (Nat.lt_succ_self _), hseq⟩
  active other := by
    rw [hgrants.state, MockProvisioner.applyBandwidth, OrderedDict.get?_insert]
    simp only [hgrants.activeAt_iff]
    split_ifs with hother
    · exact iff_of_true rfl ⟨_, rfl⟩
    · exact h.active other
  ended other session hget hstate := by
    rw [hgrants.state]
    rw [hgrants.sessions, OrderedDict.get?_insert] at hget
    split_ifs at hget with hother
    · cases hget
      cases hstate
    · exact h.ended other session hget hstate

end StubController

/-! ### Scripts in `MockWorld` -/

open StubController

namespace FakeChain

/-- Ids are given out in order, and a view carries its own. -/
structure Numbered (f : FakeChain) : Prop where
  lt : ∀ id view, f.entitlements id = some view → id < f.nextId
  id : ∀ id view, f.entitlements id = some view → view.id = id

theorem viewOf_id {offer : Offer} {id : Nat} {view : View} (h : viewOf offer id = some view) :
    view.id = id ∧ view.revoked = false := by
  rw [viewOf] at h
  split at h
  · cases h
    exact ⟨rfl, rfl⟩
  · cases h

/-- A redemption leaves the tickets alone, or adds one that is not revoked. -/
theorem fulfill_entitlements (offer : Offer) (buyer : String) (f : FakeChain) :
    f.nextId ≤ (f.fulfill offer buyer).2.nextId ∧
      ((f.fulfill offer buyer).2.entitlements = f.entitlements ∨
        (f.fulfill offer buyer).2.nextId = f.nextId + 1 ∧
          ∃ view, viewOf offer f.nextId = some view ∧
            (f.fulfill offer buyer).2.entitlements = Function.update f.entitlements f.nextId (some view)) := by
  rw [fulfill]
  cases f.check offer buyer with
  | error err => exact ⟨le_rfl, Or.inl rfl⟩
  | ok price =>
      dsimp only
      cases hview : viewOf offer f.nextId with
      | none => exact ⟨Nat.le_succ _, Or.inl rfl⟩
      | some view => exact ⟨Nat.le_succ _, Or.inr ⟨rfl, view, rfl, rfl⟩⟩

theorem Numbered.fulfill {f : FakeChain} (h : Numbered f) (offer : Offer) (buyer : String) :
    Numbered (f.fulfill offer buyer).2 ∧
      ∀ id view, f.entitlements id = some view → (f.fulfill offer buyer).2.entitlements id = some view := by
  obtain ⟨hle, heq | ⟨hnext, new, hnew, heq⟩⟩ := fulfill_entitlements offer buyer f
  · rw [heq]
    refine ⟨⟨fun id view hget => ?_, fun id view hget => ?_⟩, fun _ _ hget => hget⟩
    · rw [heq] at hget
      exact (h.lt id view hget).trans_le hle
    · rw [heq] at hget
      exact h.id id view hget
  · have hkept : ∀ id view, f.entitlements id = some view →
        Function.update f.entitlements f.nextId (some new) id = some view := by
      intro id view hget
      rw [Function.update_of_ne (h.lt id view hget).ne]
      exact hget
    have honly : ∀ id view, Function.update f.entitlements f.nextId (some new) id = some view →
        (id = f.nextId ∧ view = new) ∨ f.entitlements id = some view := by
      intro id view hget
      by_cases hid : id = f.nextId
      · rw [hid, Function.update_self] at hget
        exact Or.inl ⟨hid, (Option.some.inj hget).symm⟩
      · rw [Function.update_of_ne hid] at hget
        exact Or.inr hget
    refine ⟨⟨fun id view hget => ?_, fun id view hget => ?_⟩, by rw [heq]; exact hkept⟩
    · rw [heq] at hget
      rw [hnext]
      rcases honly id view hget with ⟨hid, -⟩ | hget
      · exact hid ▸ Nat.lt_succ_self _
      · exact (h.lt id view hget).trans (Nat.lt_succ_self _)
    · rw [heq] at hget
      rcases honly id view hget with ⟨hid, hview⟩ | hget
      · rw [hview, hid]
        exact (viewOf_id hnew).1
      · exact h.id id view hget

/-- A revocation finds its ticket, and marks that one alone. -/
theorem revoke_eq_some {f next : FakeChain} {entitlementId : Int} (h : f.revoke entitlementId = some next) :
    ∃ (id : Nat) (view : View), entitlementId = id ∧ f.entitlements id = some view ∧
      next = { f with entitlements := Function.update f.entitlements id (some { view with revoked := true }) } := by
  rw [revoke] at h
  split_ifs at h with hpos
  obtain ⟨view, hview, rfl⟩ := Option.map_eq_some_iff.mp h
  exact ⟨entitlementId.toNat, view, (Int.toNat_of_nonneg hpos).symm, hview, rfl⟩

theorem reader_get_eq_some {f : FakeChain} {entitlementId : Int} {view : EntitlementView}
    (h : f.reader.get entitlementId = some view) :
    ∃ (id : Nat) (stored : View), entitlementId = id ∧ f.entitlements id = some stored ∧
      view = stored.entitlementView := by
  change (if 0 ≤ entitlementId then _ else none) = some view at h
  split_ifs at h with hpos
  obtain ⟨stored, hstored, rfl⟩ := Option.map_eq_some_iff.mp h
  exact ⟨entitlementId.toNat, stored, (Int.toNat_of_nonneg hpos).symm, hstored, rfl⟩

theorem reader_get_natCast (f : FakeChain) (id : Nat) :
    f.reader.get id = (f.entitlements id).map View.entitlementView := by
  change (if (0 : Int) ≤ id then (f.entitlements (id : Int).toNat).map View.entitlementView else none) = _
  rw [if_pos (Int.natCast_nonneg id), Int.toNat_natCast]

theorem reader_ownerOf_natCast (f : FakeChain) (id : Nat) : f.reader.ownerOf id = f.owners id := by
  change (if (0 : Int) ≤ id then f.owners (id : Int).toNat else none) = _
  rw [if_pos (Int.natCast_nonneg id), Int.toNat_natCast]

theorem reader_get_cast {f : FakeChain} {id : Nat} {stored : View} (h : f.entitlements id = some stored) :
    f.reader.get id = some stored.entitlementView := by
  rw [reader_get_natCast, h, Option.map_some]

end FakeChain

/-- An active session has a ticket that stands, and the network holds the rate of the ticket. -/
structure Backed (f : FakeChain) (c : StubController MockProvisioner) (sessionId : String) (id : Nat) (view : View) :
    Prop where
  ticket : f.entitlements id = some view
  standing : view.revoked = false
  rate : c.net.state.applied.get? sessionId =
    some (.bandwidth (.path resolvedPath) view.params.capacityBps.toNat view.params.qosClass.toNat)

/-- What holds of `MockWorld` between cues. -/
structure Sound (w : MockWorld) : Prop where
  consistent : Consistent w.controller
  numbered : w.chain.Numbered
  backed : ∀ sessionId session, w.controller.ActiveAt sessionId session →
    ∃ (id : Nat) (view : View), session.entitlementId = id ∧ Backed w.chain w.controller sessionId id view
  single : ∀ sessionId sessionId' session session', w.controller.ActiveAt sessionId session →
    w.controller.ActiveAt sessionId' session' → session.entitlementId = session'.entitlementId → sessionId = sessionId'

namespace Sound

variable {w : MockWorld}

/-- A chain on which the tickets of the active sessions are as they were. -/
theorem withChain (h : Sound w) {f : FakeChain} (hnumbered : f.Numbered)
    (hkept : ∀ id view, w.chain.entitlements id = some view → f.entitlements id = some view) :
    Sound ⟨f, w.controller⟩ where
  consistent := h.consistent
  numbered := hnumbered
  backed sessionId session hactive := by
    obtain ⟨id, view, hid, hbacked⟩ := h.backed sessionId session hactive
    exact ⟨id, view, hid, hkept id view hbacked.ticket, hbacked.standing, hbacked.rate⟩
  single := h.single

/-- Only nonces and counters have moved. -/
theorem quiet (h : Sound w) {next : StubController MockProvisioner} (hsessions : next.sessions = w.controller.sessions)
    (hnet : next.net = w.controller.net) (hseq : w.controller.sessionSeq ≤ next.sessionSeq) :
    Sound ⟨w.chain, next⟩ := by
  have hactive : ∀ sessionId session, next.ActiveAt sessionId session ↔ w.controller.ActiveAt sessionId session := by
    intro sessionId session
    rw [ActiveAt, ActiveAt, hsessions]
  refine ⟨⟨?_, ?_, ?_⟩, h.numbered, ?_, ?_⟩
  · intro sessionId session hget
    obtain ⟨hid, hstate, seq, hlt, hnew⟩ := h.consistent.keyed sessionId session (hsessions ▸ hget)
    exact ⟨hid, hstate, seq, hlt.trans_le hseq, hnew⟩
  · intro sessionId
    rw [hnet, h.consistent.active]
    exact exists_congr fun session => (hactive sessionId session).symm
  · intro sessionId session hget hstate
    rw [hnet]
    exact h.consistent.ended sessionId session (hsessions ▸ hget) hstate
  · intro sessionId session hsession
    obtain ⟨id, view, hid, hbacked⟩ := h.backed sessionId session ((hactive _ _).mp hsession)
    exact ⟨id, view, hid, hbacked.ticket, hbacked.standing, hnet ▸ hbacked.rate⟩
  · intro sessionId sessionId' session session' hsession hsession'
    exact h.single sessionId sessionId' session session' ((hactive _ _).mp hsession) ((hactive _ _).mp hsession')

theorem ended (h : Sound w) {ids : List String} {next : StubController MockProvisioner}
    (hended : Ended w.controller ids next) : Sound ⟨w.chain, next⟩ where
  consistent := hended.consistent h.consistent
  numbered := h.numbered
  backed sessionId session hactive := by
    obtain ⟨hmem, hactive⟩ := (hended.active sessionId session).mp hactive
    obtain ⟨id, view, hid, hbacked⟩ := h.backed sessionId session hactive
    exact ⟨id, view, hid, hbacked.ticket, hbacked.standing, (hended.applied sessionId hmem).trans hbacked.rate⟩
  single sessionId sessionId' session session' hactive hactive' :=
    h.single sessionId sessionId' session session' ((hended.active _ _).mp hactive).2 ((hended.active _ _).mp hactive').2

theorem grants (h : Sound w) {entitlementId : Int} {requester : String} {view : EntitlementView}
    {params : BandwidthParams} {next : StubController MockProvisioner}
    (hgrants : Grants w.chain.reader w.controller entitlementId requester view params next) :
    Sound ⟨w.chain, next⟩ := by
  obtain ⟨id, stored, hid, hstored, rfl⟩ := FakeChain.reader_get_eq_some hgrants.get
  obtain ⟨-, -, -, hstanding, -, -, hfree⟩ := predicate_eq_none.mp hgrants.allowed
  have hviewId : stored.entitlementView.id = entitlementId := by
    rw [hid, ← h.numbered.id id stored hstored]
    rfl
  have hother : ∀ sessionId session, w.controller.ActiveAt sessionId session →
      session.entitlementId ≠ entitlementId := by
    rintro sessionId session ⟨hget, hstate⟩ hsame
    apply hfree
    rw [hviewId, ← hsame]
    refine List.mem_map_of_mem (List.mem_filter.mpr ⟨OrderedDict.mem_values.mpr ⟨sessionId, hget⟩, ?_⟩)
    exact decide_eq_true hstate
  refine ⟨h.consistent.grants hgrants, h.numbered, fun sessionId session hactive => ?_, ?_⟩
  · rw [hgrants.activeAt_iff] at hactive
    split_ifs at hactive with hnew
    · subst hactive
      refine ⟨id, stored, hid, hstored, hstanding, ?_⟩
      have hparams : params = stored.params := (ServiceParams.bandwidth.inj hgrants.bandwidth).symm
      rw [hgrants.state, MockProvisioner.applyBandwidth, OrderedDict.get?_insert, if_pos hnew, hparams]
    · obtain ⟨id', view', hid', hbacked⟩ := h.backed sessionId session hactive
      refine ⟨id', view', hid', hbacked.ticket, hbacked.standing, ?_⟩
      rw [hgrants.state, MockProvisioner.applyBandwidth, OrderedDict.get?_insert, if_neg hnew]
      exact hbacked.rate
  · intro sessionId sessionId' session session' hactive hactive' hsame
    rw [hgrants.activeAt_iff] at hactive hactive'
    split_ifs at hactive hactive' with hnew hnew' hnew'
    · exact hnew.trans hnew'.symm
    · rw [hactive] at hsame
      exact absurd hsame.symm (hother sessionId' session' hactive')
    · rw [hactive'] at hsame
      exact absurd hsame (hother sessionId session hactive)
    · exact h.single sessionId sessionId' session session' hactive hactive' hsame

/-- The watcher ends the sessions of the ticket before anybody looks. -/
theorem revoke (h : Sound w) {entitlementId : Int} {f : FakeChain} (hrevoke : w.chain.revoke entitlementId = some f) :
    ∃ next, w.controller.onRevoked MockProvisioner.provisioner f.reader entitlementId = (.ok (), next) ∧
      Sound ⟨f, next⟩ ∧ ∀ sessionId session, next.ActiveAt sessionId session → session.entitlementId ≠ entitlementId := by
  obtain ⟨id, view, rfl, hview, rfl⟩ := FakeChain.revoke_eq_some hrevoke
  set f : FakeChain :=
    { w.chain with entitlements := Function.update w.chain.entitlements id (some { view with revoked := true }) } with hf
  have hticket : f.entitlements id = some { view with revoked := true } := Function.update_self _ _ _
  have hothers : ∀ id' ≠ id, f.entitlements id' = w.chain.entitlements id' := fun id' hne => Function.update_of_ne hne _ _
  obtain ⟨next, heq, hended⟩ := teardownAll_mock (w.controller.sessions.values.filter fun session =>
    session.entitlementId = (id : Int) ∧ session.state = .active) w.controller
  have hreacts : w.controller.onRevoked MockProvisioner.provisioner f.reader id = (.ok (), next) := by
    rw [StubController.onRevoked, FakeChain.reader_get_cast hticket]
    exact heq
  have hnone : ∀ sessionId session, next.ActiveAt sessionId session → session.entitlementId ≠ (id : Int) := by
    intro sessionId session hactive hid
    obtain ⟨hmem, hget, hstate⟩ := (hended.active sessionId session).mp hactive
    apply hmem
    refine List.mem_map.mpr ⟨session, List.mem_filter.mpr ⟨OrderedDict.mem_values.mpr ⟨sessionId, hget⟩, ?_⟩,
      (h.consistent.keyed sessionId session hget).1⟩
    exact decide_eq_true ⟨hid, hstate⟩
  have hsound := h.ended hended
  refine ⟨next, hreacts, ⟨hsound.consistent, ⟨fun id' view' hget => ?_, fun id' view' hget => ?_⟩,
    fun sessionId session hactive => ?_, hsound.single⟩, hnone⟩
  · by_cases hid : id' = id
    · exact hid ▸ h.numbered.lt id view hview
    · rw [hothers id' hid] at hget
      exact h.numbered.lt id' view' hget
  · by_cases hid : id' = id
    · rw [hid, hticket] at hget
      cases hget
      exact (h.numbered.id id view hview).trans hid.symm
    · rw [hothers id' hid] at hget
      exact h.numbered.id id' view' hget
  · obtain ⟨id', view', hid', hbacked⟩ := hsound.backed sessionId session hactive
    have hne : id' ≠ id := by
      rintro rfl
      exact hnone sessionId session hactive hid'
    exact ⟨id', view', hid', (hothers id' hne).trans hbacked.ticket, hbacked.standing, hbacked.rate⟩

/-- A tick goes through, and ends what has expired. -/
theorem tick (h : Sound w) :
    ∃ next, w.controller.tick MockProvisioner.provisioner w.chain.reader = (.ok (), next) ∧ Sound ⟨w.chain, next⟩ ∧
      ∀ sessionId session view, next.ActiveAt sessionId session →
        w.chain.reader.get session.entitlementId = some view → w.chain.now < view.endTime.toNat := by
  have hreads : ∀ session ∈ w.controller.sessions.values, session.state = .active →
      ∃ view, w.chain.reader.get session.entitlementId = some view := by
    intro session hmem hstate
    obtain ⟨sessionId, hget⟩ := OrderedDict.mem_values.mp hmem
    obtain ⟨id, view, hid, hbacked⟩ := h.backed sessionId session ⟨hget, hstate⟩
    exact ⟨_, hid ▸ FakeChain.reader_get_cast hbacked.ticket⟩
  obtain ⟨next, ids, heq, hended, hids⟩ := tickAll_mock hreads w.controller
  refine ⟨next, heq, h.ended hended, fun sessionId session view hactive hview => ?_⟩
  obtain ⟨hmem, hget, hstate⟩ := (hended.active sessionId session).mp hactive
  by_contra hexpired
  apply hmem
  apply (hids sessionId).mpr
  exact ⟨session, OrderedDict.mem_values.mpr ⟨sessionId, hget⟩, (h.consistent.keyed sessionId session hget).1, hstate,
    view, hview, not_lt.mp hexpired⟩

theorem play (h : Sound w) (spelling : Spelling) (cue : Cue) :
    Sound ((mockStage spelling).play MockProvisioner.provisioner cue w).2 := by
  cases cue with
  | fulfill offer signature buyer =>
      obtain ⟨hnumbered, hkept⟩ := h.numbered.fulfill offer (spelling.spell buyer)
      exact h.withChain hnumbered hkept
  | advanceTime seconds => exact h.withChain ⟨h.numbered.lt, h.numbered.id⟩ fun _ _ hget => hget
  | revoke entitlementId =>
      cases hrevoke : w.chain.revoke entitlementId with
      | none =>
          rw [Stage.play_revoke_none hrevoke]
          exact h
      | some f =>
          obtain ⟨next, heq, hsound, -⟩ := h.revoke hrevoke
          rw [Stage.play_revoke_some hrevoke]
          change Sound ⟨f, (w.controller.onRevoked MockProvisioner.provisioner f.reader entitlementId).2⟩
          rw [heq]
          exact hsound
  | challenge entitlementId =>
      exact @quiet w h w.controller.challenge.2 rfl rfl le_rfl
  | activate entitlementId requester nonce =>
      rcases activate_mock w.controller w.chain.reader entitlementId requester nonce with
        ⟨nonces, seq, hseq, heq⟩ | ⟨view, params, hgrants⟩
      · change Sound ⟨w.chain, (w.controller.activate _ w.chain.reader entitlementId requester nonce).2⟩
        rw [heq]
        apply h.quiet
        · rfl
        · rfl
        · exact hseq
      · exact h.grants hgrants
  | tick =>
      obtain ⟨next, heq, hsound, -⟩ := h.tick
      change Sound ⟨w.chain, (w.controller.tick MockProvisioner.provisioner w.chain.reader).2⟩
      rw [heq]
      exact hsound
  | teardown sessionId =>
      obtain ⟨next, heq, hends⟩ := w.controller.teardown_mock sessionId
      change Sound ⟨w.chain, (w.controller.teardown MockProvisioner.provisioner sessionId).2⟩
      rw [heq]
      exact h.ended (Ended.cons hends (Ended.refl next))

theorem playAll (h : Sound w) (spelling : Spelling) (script : List Cue) :
    Sound ((mockStage spelling).playAll MockProvisioner.provisioner w script) := by
  induction script generalizing w with
  | nil => exact h
  | cons cue rest ih => exact ih (h.play spelling cue)

end Sound

/-- A chain without tickets, and a controller without sessions. -/
def MockWorld.start (now : Nat) (balances : String → Int) (nextId : Nat) : MockWorld :=
  ⟨FakeChain.start now balances nextId, .start .new⟩

theorem sound_start (now : Nat) (balances : String → Int) (nextId : Nat) : Sound (MockWorld.start now balances nextId) where
  consistent :=
    ⟨fun _ _ hget => (by cases hget), fun _ => iff_of_false Bool.false_ne_true fun ⟨_, hget, _⟩ => (by cases hget),
      fun _ _ hget => (by cases hget)⟩
  numbered := ⟨fun _ _ hget => (by cases hget), fun _ _ hget => (by cases hget)⟩
  backed _ _ hactive := by cases hactive.1
  single _ _ _ _ hactive := by cases hactive.1

/-- The network of a world follows its sessions. -/
structure Follows (w : MockWorld) : Prop where
  /-- A session is provisioned while it is active, on a ticket that stands and at the rate of the ticket. -/
  provisioned : ∀ sessionId capacityBps qosClass,
    recordedRate w.controller.net.state sessionId = some (capacityBps, qosClass) ↔
      ∃ (session : StubSession) (id : Nat) (view : View), w.controller.ActiveAt sessionId session ∧
        session.entitlementId = id ∧ w.chain.entitlements id = some view ∧ view.revoked = false ∧
        capacityBps = view.params.capacityBps.toNat ∧ qosClass = view.params.qosClass.toNat
  /-- It is torn down on the network once it is in the table. -/
  tornDown : ∀ sessionId session, w.controller.sessions.get? sessionId = some session →
    (recordedEnd w.controller.net.state sessionId = true ↔ session.state = .tornDown)
  single : ∀ sessionId sessionId' session session', w.controller.ActiveAt sessionId session →
    w.controller.ActiveAt sessionId' session' → session.entitlementId = session'.entitlementId → sessionId = sessionId'
  /-- A tick goes through, and leaves nothing active that the chain says is over. -/
  tick : (w.controller.tick MockProvisioner.provisioner w.chain.reader).1 = .ok () ∧
    ∀ sessionId session view,
      (w.controller.tick MockProvisioner.provisioner w.chain.reader).2.ActiveAt sessionId session →
        w.chain.reader.get session.entitlementId = some view → w.chain.now < view.endTime.toNat

theorem Sound.follows {w : MockWorld} (h : Sound w) : Follows w where
  provisioned sessionId capacityBps qosClass := by
    constructor
    · intro hrate
      rw [recordedRate] at hrate
      split at hrate
      · rename_i path capacityBps' qosClass' happlied
        cases hrate
        obtain ⟨session, hactive⟩ := (h.consistent.active sessionId).mp (by rw [happlied]; rfl)
        obtain ⟨id, view, hid, hbacked⟩ := h.backed sessionId session hactive
        have hsame := happlied.symm.trans hbacked.rate
        cases hsame
        exact ⟨session, id, view, hactive, hid, hbacked.ticket, hbacked.standing, rfl, rfl⟩
      · cases hrate
    · rintro ⟨session, id, view, hactive, hid, hview, -, rfl, rfl⟩
      obtain ⟨id', view', hid', hbacked⟩ := h.backed sessionId session hactive
      have hsame : id = id' := Int.natCast_inj.mp (hid.symm.trans hid')
      subst hsame
      cases hview.symm.trans hbacked.ticket
      rw [recordedRate, hbacked.rate]
  tornDown sessionId session hget := by
    have hnone : (w.controller.net.state.applied.get? sessionId).isNone = true ↔ session.state ≠ .active := by
      have hactive := h.consistent.active sessionId
      constructor
      · intro hnone hstate
        have hsome := hactive.mpr ⟨session, hget, hstate⟩
        rw [Option.isNone_iff_eq_none.mp hnone] at hsome
        cases hsome
      · intro hne
        cases happlied : w.controller.net.state.applied.get? sessionId with
        | none => rfl
        | some applied =>
            rw [happlied] at hactive
            obtain ⟨session', hget', hstate'⟩ := hactive.mp rfl
            cases hget.symm.trans hget'
            exact absurd hstate' hne
    rw [recordedEnd, Bool.and_eq_true, decide_eq_true_eq, hnone]
    obtain ⟨-, hstate, -⟩ := h.consistent.keyed sessionId session hget
    constructor
    · rintro ⟨-, hne⟩
      exact hstate.resolve_left hne
    · intro htorn
      exact ⟨h.consistent.ended sessionId session hget htorn, by rw [htorn]; exact fun heq => by cases heq⟩
  single := h.single
  tick := by
    obtain ⟨next, heq, -, hended⟩ := h.tick
    rw [heq]
    exact ⟨rfl, hended⟩

/-- After every script, in whatever order its cues come and whoever gives them, the network follows the sessions: a
session is provisioned exactly while it is active, at the rate that its ticket was sold with; no ticket has two active
sessions, and a revoked one has none. -/
theorem network_follows_sessions (spelling : Spelling) (now : Nat) (balances : String → Int) (nextId : Nat)
    (script : List Cue) :
    Follows ((mockStage spelling).playAll MockProvisioner.provisioner (MockWorld.start now balances nextId) script) :=
  ((sound_start now balances nextId).playAll spelling script).follows

/-- Ada's play, up to the end of her session. -/
def adasPlay : List Cue :=
  [.fulfill plainOffer [1] adaBuyer, .challenge 1, .activate 1 (lowerCase.spell Settlement.ada) "nonce-0", .advanceTime 95]

example :
    recordedRate ((mockStage lowerCase).playAll MockProvisioner.provisioner (MockWorld.start 5 (booksOf Settlement.ada 25) 1)
      adasPlay).controller.net.state "sess-0" = some (50000000, 0) := by decide +kernel

end A2AProvisioning.Skeleton
