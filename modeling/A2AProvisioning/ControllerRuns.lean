import A2AProvisioning.ControllerService
import A2AProvisioning.LibraryDecimal

/-! What one operation of the service can do, and the rule that carries an invariant through it: an
operation is made of changes to the nonces and the counter, of activations, and of teardowns. -/

namespace A2AProvisioning.Controller

variable {N : Type} {cfg : Config} {p : Provisioner N} {c next : Service N}

def AuthStore.burn (store : AuthStore) (nonce : String) : AuthStore :=
  { store with opened := store.opened.erase nonce }

theorem sessionIdOf_injective {id id' : Int} {seq seq' : Nat} (h : sessionIdOf id seq = sessionIdOf id' seq') :
    seq = seq' := by
  have hchars := congrArg String.toList h
  have hlast : ("-a" : String).toList = ['-', 'a'] := rfl
  simp only [sessionIdOf, String.toList_append, hlast, List.append_assoc, List.cons_append,
    List.nil_append] at hchars
  have happ : ∀ (cs digits : List Char),
      "ent".toList ++ (cs ++ '-' :: 'a' :: digits) = ("ent".toList ++ cs ++ ['-']) ++ 'a' :: digits := by
    intro cs digits
    simp only [List.append_assoc, List.cons_append, List.nil_append]
  rw [happ, happ] at hchars
  exact Decimal.append_toString_injective (by decide) hchars

theorem read_eq_ok {α : Type} {result : Except ReadError α} {value : α} (h : read result = .ok value) :
    result = .ok value := by
  cases result with
  | ok value' =>
      cases h
      rfl
  | error err => cases h

theorem readView_eq_ok {reader : Reader} {entitlementId : Int} {view : EntitlementView}
    (h : readView reader entitlementId = .ok view) : reader.get entitlementId = .ok view := by
  rw [readView] at h
  split at h
  · rename_i view' hget
    cases h
    exact hget
  · cases h
  · cases h

theorem readFacts_eq_ok {reader : Reader} {entitlementId : Int} {facts : Facts}
    (h : readFacts reader entitlementId = .ok facts) :
    reader.get entitlementId = .ok facts.view ∧ reader.ownerOf entitlementId = .ok facts.owner ∧
      reader.chainTime = .ok facts.now := by
  simp only [readFacts, bind, Except.bind] at h
  split at h
  · cases h
  · rename_i view hview
    split at h
    · cases h
    · rename_i owner howner
      split at h
      · cases h
      · rename_i now hnow
        cases h
        exact ⟨readView_eq_ok hview, read_eq_ok howner, read_eq_ok hnow⟩

/-- What has to hold for `authorize` to give a plan, and what the plan is. -/
structure Granted (cfg : Config) (c : Service N) (facts : Facts) (entitlementId : Int)
    (actionKind nonce signature : String) (plan : Plan) : Prop where
  proof : ∃ expiresAt, c.auth.opened.get? nonce = some (entitlementId, expiresAt) ∧ facts.now ≤ expiresAt ∧
    cfg.recover (proofMessage c.auth.controllerId nonce entitlementId expiresAt .activate) signature =
      some facts.owner
  allowed : predicate facts.view facts.owner facts.owner facts.now c.activeIds (some actionKind)
    knownServiceTypes = none
  sessionId : plan.sessionId = sessionIdOf entitlementId c.seq
  entitlementId : plan.entitlementId = entitlementId
  state : plan.state = .authorized
  calls : translate plan.sessionId facts.view cfg.resourceMap = .ok plan.calls
  since : plan.since = facts.now
  expiresAt : plan.expiresAt = facts.view.endTime.toNat

section Parts

variable {facts : Facts} {entitlementId : Int} {actionKind nonce signature : String}

theorem authorize_ok {plan : Plan}
    (h : c.authorize cfg facts entitlementId actionKind nonce signature = (.ok plan, next)) :
    Granted cfg c facts entitlementId actionKind nonce signature plan ∧
      next = { c with auth := c.auth.burn nonce, seq := c.seq + 1 } := by
  simp only [Service.authorize] at h
  split at h
  · cases h
  · rename_i hverify
    split at h
    · cases h
    · rename_i hpredicate
      split at h
      · cases h
      · rename_i state hstate
        cases hstate
        split at h
        · cases h
        · cases h
        · rename_i calls hcalls
          cases h
          refine ⟨⟨AuthStore.verify_eq_none.mp hverify, hpredicate, rfl, rfl, rfl, hcalls, rfl, rfl⟩, ?_⟩
          rw [AuthStore.verify_snd]
          rfl

/-- A refusal still burns the nonce, and may use up a session id. -/
theorem authorize_error {failure : Failure}
    (h : c.authorize cfg facts entitlementId actionKind nonce signature = (.error failure, next)) :
    ∃ seq, c.seq ≤ seq ∧ next = { c with auth := c.auth.burn nonce, seq := seq } := by
  simp only [Service.authorize, AuthStore.verify_snd] at h
  split at h
  · cases h
    exact ⟨c.seq, le_rfl, rfl⟩
  · split at h
    · cases h
      exact ⟨c.seq, le_rfl, rfl⟩
    · refine ⟨c.seq + 1, Nat.le_succ _, ?_⟩
      split at h
      · cases h
        rfl
      · split at h
        · cases h
          rfl
        · cases h
          rfl
        · cases h

variable (p c) in
/-- How an activation that has its plan ends: nothing is recorded if the provisioner raised; a failed
apply is torn down and recorded as failed; a successful one is recorded as active. -/
theorem record_cases {plan : Plan} (hstate : plan.state = .authorized) (applied : Option Bool) :
    ((applied = none ∧ (c.record p plan applied).2 = c) ∨
      (applied = some false ∧ (c.net.invoke p (.teardown plan.sessionId)).1 = none ∧
        (c.record p plan applied).2 = { c with net := (c.net.invoke p (.teardown plan.sessionId)).2 }) ∨
      (applied = some false ∧ (c.net.invoke p (.teardown plan.sessionId)).1.isSome ∧
        (c.record p plan applied).2 =
          { c with net := (c.net.invoke p (.teardown plan.sessionId)).2 }.insertSession plan .failed) ∨
      (applied = some true ∧ (c.record p plan applied).2 = c.insertSession plan .active)) := by
  rcases applied with _ | _ | _
  · exact Or.inl ⟨rfl, rfl⟩
  · refine Or.inr ?_
    simp only [Service.record]
    split
    · rename_i net hinvoke
      exact Or.inl ⟨trivial, by rw [hinvoke], by rw [hinvoke]⟩
    · rename_i result net hinvoke
      refine Or.inr (Or.inl ⟨trivial, by rw [hinvoke]; rfl, ?_⟩)
      rw [hstate, hinvoke]
      rfl
  · refine Or.inr (Or.inr (Or.inr ⟨rfl, ?_⟩))
    simp only [Service.record]
    rw [hstate]
    rfl

variable (p c) in
/-- What the record of a plan does to the table: nothing, or an entry at its session id. -/
theorem record_sessions {plan : Plan} (hstate : plan.state = .authorized) (applied : Option Bool) :
    (c.record p plan applied).2.seq = c.seq ∧
      ((c.record p plan applied).2.sessions = c.sessions ∨
        ∃ state, (state = .active ∨ state = .failed) ∧
          (c.record p plan applied).2.sessions = (c.insertSession plan state).sessions) := by
  rcases record_cases p c hstate applied with ⟨-, heq⟩ | ⟨-, -, heq⟩ | ⟨-, -, heq⟩ | ⟨-, heq⟩
  · rw [heq]
    exact ⟨rfl, Or.inl rfl⟩
  · rw [heq]
    exact ⟨rfl, Or.inl rfl⟩
  · rw [heq]
    exact ⟨rfl, Or.inr ⟨.failed, Or.inr rfl, rfl⟩⟩
  · rw [heq]
    exact ⟨rfl, Or.inr ⟨.active, Or.inl rfl, rfl⟩⟩

variable (cfg p c entitlementId actionKind nonce signature) in
/-- An activation changes nonces and the counter alone, or it has its plan. -/
theorem activate_cases (reader : Reader) :
    (∃ seq auth, c.seq ≤ seq ∧ (auth = c.auth ∨ auth = c.auth.burn nonce) ∧
      (c.activate cfg p reader entitlementId actionKind nonce signature).2 = { c with auth := auth, seq := seq }) ∨
    ∃ facts plan, readFacts reader entitlementId = .ok facts ∧
      Granted cfg c facts entitlementId actionKind nonce signature plan ∧
      (c.activate cfg p reader entitlementId actionKind nonce signature).2 =
        (Service.record p { c with
          auth := c.auth.burn nonce
          seq := c.seq + 1
          net := (applyCalls p plan.calls c.net).2 } plan (applyCalls p plan.calls c.net).1).2 := by
  simp only [Service.activate]
  split
  · exact Or.inl ⟨c.seq, c.auth, le_rfl, Or.inl rfl, rfl⟩
  · rename_i facts hfacts
    split
    · rename_i failure next hauthorize
      obtain ⟨seq, hseq, hnext⟩ := authorize_error hauthorize
      exact Or.inl ⟨seq, _, hseq, Or.inr rfl, hnext⟩
    · rename_i plan next hauthorize
      obtain ⟨hgranted, rfl⟩ := authorize_ok hauthorize
      exact Or.inr ⟨facts, plan, hfacts, hgranted, rfl⟩

variable (cfg p c entitlementId actionKind nonce signature) in
/-- What an activation does to the table: nothing, or an entry at the next session id. -/
theorem activate_sessions (reader : Reader) :
    c.seq ≤ (c.activate cfg p reader entitlementId actionKind nonce signature).2.seq ∧
      ((c.activate cfg p reader entitlementId actionKind nonce signature).2.sessions = c.sessions ∨
        ∃ facts plan state, readFacts reader entitlementId = .ok facts ∧
          Granted cfg c facts entitlementId actionKind nonce signature plan ∧
          (state = .active ∨ state = .failed) ∧
          c.seq < (c.activate cfg p reader entitlementId actionKind nonce signature).2.seq ∧
          (c.activate cfg p reader entitlementId actionKind nonce signature).2.sessions =
            (c.insertSession plan state).sessions) := by
  rcases activate_cases cfg p c entitlementId actionKind nonce signature reader with
    ⟨seq, auth, hseq, -, heq⟩ | ⟨facts, plan, hfacts, hgranted, heq⟩
  · rw [heq]
    exact ⟨hseq, Or.inl rfl⟩
  · rw [heq]
    obtain ⟨hseq, hsessions⟩ := record_sessions p { c with
      auth := c.auth.burn nonce
      seq := c.seq + 1
      net := (applyCalls p plan.calls c.net).2 } hgranted.state (applyCalls p plan.calls c.net).1
    refine ⟨hseq ▸ Nat.le_succ _, hsessions.imp_right fun ⟨state, hstate, hentry⟩ => ?_⟩
    exact ⟨facts, plan, state, hfacts, hgranted, hstate, hseq ▸ Nat.lt_succ_self _, hentry⟩

end Parts

theorem applyCalls_single (call : NetCall) (net : Net N) :
    applyCalls p [call] net =
      ((net.invoke p call).1.map ApplyResult.ok, (net.invoke p call).2) := by
  rw [applyCalls]
  split
  · rename_i next hinvoke
    rw [hinvoke]
    rfl
  · rename_i result next hinvoke
    rw [hinvoke]
    cases hok : result.ok with
    | false => simp only [Bool.false_eq_true, ↓reduceIte, Option.map_some, hok]
    | true => simp only [↓reduceIte, applyCalls, Option.map_some, hok]

variable (p c) in
/-- A teardown of a known session that does not raise moves it along; any other changes the network
alone. -/
theorem teardown_cases (sessionId : String) :
    ((∀ session, c.sessions.get? sessionId = some session →
        (c.net.invoke p (.teardown sessionId)).1 = none ∨ transition session.state .teardown = none) ∧
      (c.teardown p sessionId).2 = { c with net := (c.net.invoke p (.teardown sessionId)).2 }) ∨
    ∃ session state, c.sessions.get? sessionId = some session ∧
      (c.net.invoke p (.teardown sessionId)).1.isSome ∧ transition session.state .teardown = some state ∧
      (c.teardown p sessionId).2 = { c with
        net := (c.net.invoke p (.teardown sessionId)).2
        sessions := c.sessions.insert sessionId { session with state := state } } := by
  simp only [Service.teardown]
  cases hget : c.sessions.get? sessionId with
  | none =>
      refine Or.inl ⟨fun session hsome => (Option.some_ne_none session hsome.symm).elim, ?_⟩
      dsimp only
      split
      · rename_i net hinvoke
        rw [hinvoke]
      · rename_i result net hinvoke
        rw [hinvoke]
  | some session =>
      dsimp only
      split
      · rename_i net hinvoke
        exact Or.inl ⟨fun _ _ => Or.inl (by rw [hinvoke]), by rw [hinvoke]⟩
      · rename_i result net hinvoke
        split
        · rename_i htransition
          refine Or.inl ⟨fun session' hsome => ?_, by rw [hinvoke]⟩
          cases hsome
          exact Or.inr htransition
        · rename_i state htransition
          exact Or.inr ⟨session, state, rfl, by rw [hinvoke]; rfl, htransition, by rw [hinvoke]⟩

variable (p c) in
theorem teardown_net (sessionId : String) :
    (c.teardown p sessionId).2.net = (c.net.invoke p (.teardown sessionId)).2 := by
  rcases teardown_cases p c sessionId with ⟨-, h⟩ | ⟨session, state, -, -, -, h⟩
  · rw [h]
  · rw [h]

variable (cfg p c) in
/-- A proof-carrying teardown does nothing, burns a nonce, or is a teardown whose proof has passed. -/
theorem teardownRequested_cases (reader : Reader) (sessionId nonce signature : String) :
    (c.teardownRequested cfg p reader sessionId nonce signature).2 = c ∨
      (c.teardownRequested cfg p reader sessionId nonce signature).2 = { c with auth := c.auth.burn nonce } ∨
      ∃ session owner now expiresAt, c.sessions.get? sessionId = some session ∧
        reader.ownerOf session.entitlementId = .ok owner ∧ reader.chainTime = .ok now ∧
        c.auth.opened.get? nonce = some (session.entitlementId, expiresAt) ∧ now ≤ expiresAt ∧
        cfg.recover (proofMessage c.auth.controllerId nonce session.entitlementId expiresAt .teardown) signature =
          some owner ∧
        (c.teardownRequested cfg p reader sessionId nonce signature).2 =
          (Service.teardown p { c with auth := c.auth.burn nonce } sessionId).2 := by
  simp only [Service.teardownRequested, AuthStore.verify_snd]
  split
  · exact Or.inl rfl
  · rename_i session hget
    split
    · exact Or.inl rfl
    · exact Or.inl rfl
    · rename_i owner now howner hnow
      split
      · exact Or.inr (Or.inl rfl)
      · rename_i hverify
        obtain ⟨expiresAt, hopen, hfresh, hsigned⟩ := AuthStore.verify_eq_none.mp hverify
        exact Or.inr (Or.inr ⟨session, owner, now, expiresAt, hget, read_eq_ok howner, read_eq_ok hnow, hopen,
          hfresh, hsigned, rfl⟩)

/-! ### The invariant rule -/

section Rule

variable {inv : Service N → Prop}

/-- What teardowns preserve, a loop of teardowns preserves. -/
theorem teardownAll_invariant (hteardown : ∀ c sessionId, inv c → inv (Service.teardown p c sessionId).2)
    (sessions : List Session) (hinv : inv c) : inv (Service.teardownAll p sessions c).2 := by
  induction sessions generalizing c with
  | nil => exact hinv
  | cons session rest ih =>
      have hfirst := hteardown c session.sessionId hinv
      rw [Service.teardownAll]
      split
      · rename_i failure next heq
        rw [heq] at hfirst
        exact hfirst
      · rename_i info next heq
        rw [heq] at hfirst
        have hrest := ih hfirst
        split
        · rename_i failure last heq'
          rw [heq'] at hrest
          exact hrest
        · rename_i ended last heq'
          rw [heq'] at hrest
          exact hrest

theorem endRevoked_invariant (hteardown : ∀ c sessionId, inv c → inv (Service.teardown p c sessionId).2)
    (entitlementId : Int) (hinv : inv c) : inv (c.endRevoked p entitlementId).2 :=
  teardownAll_invariant hteardown _ hinv

variable {pre : Service N → Prop} (hpre : ∀ c, pre c → inv c)
  (hquiet : ∀ (c : Service N) auth seq, c.seq ≤ seq → pre c → pre { c with auth := auth, seq := seq })
  (hteardown : ∀ c sessionId, pre c → pre (Service.teardown p c sessionId).2)

include hpre hquiet hteardown

/-- An operation is an activation, or is made of changes to the nonces and of teardowns. So `inv` holds
after every operation if it follows from `pre`, which these keep, and from `pre` by an activation. -/
theorem perform_invariant (op : Op)
    (hactivate : ∀ reader entitlementId actionKind nonce signature,
      op = .request reader (.activate entitlementId actionKind nonce signature) → pre c →
        inv (c.activate cfg p reader entitlementId actionKind nonce signature).2)
    (hinv : pre c) : inv (c.perform cfg p op) := by
  have hquiet' : ∀ (c : Service N) auth, pre c → pre { c with auth := auth } :=
    fun c auth h => hquiet c auth c.seq le_rfl h
  cases op with
  | request reader request =>
      cases request with
      | challenge entitlementId nonce =>
          simp only [Service.perform, Service.challenge]
          split
          · exact hpre _ hinv
          · split
            · exact hpre _ hinv
            · exact hpre _ (hquiet' c _ hinv)
      | activate entitlementId actionKind nonce signature => exact hactivate _ _ _ _ _ rfl hinv
      | teardownRequested sessionId nonce signature =>
          simp only [Service.perform]
          rcases teardownRequested_cases cfg p c reader sessionId nonce signature with
            heq | heq | ⟨_, _, _, _, -, -, -, -, -, -, heq⟩
          · rw [heq]
            exact hpre _ hinv
          · rw [heq]
            exact hpre _ (hquiet' c _ hinv)
          · rw [heq]
            exact hpre _ (hteardown _ _ (hquiet' c _ hinv))
      | session sessionId => exact hpre _ hinv
  | teardown sessionId => exact hpre _ (hteardown c sessionId hinv)
  | tick reader =>
      simp only [Service.perform, Service.tick]
      split
      · exact hpre _ hinv
      · exact hpre _ (teardownAll_invariant hteardown _ hinv)
  | handleRevoked reader entitlementId =>
      simp only [Service.perform, Service.handleRevoked]
      split
      · exact hpre _ hinv
      · split_ifs
        · have hended := hpre _ (endRevoked_invariant hteardown entitlementId hinv)
          split
          · rename_i failure next heq
            rw [heq] at hended
            exact hended
          · rename_i ended next heq
            rw [heq] at hended
            exact hended
        · exact hpre _ hinv

end Rule

/-- Every session is stored under its own id, which was made from a counter value already used. -/
def Keyed (c : Service N) : Prop :=
  ∀ sessionId session, c.sessions.get? sessionId = some session →
    session.sessionId = sessionId ∧
      ∃ seq, seq < c.seq ∧ sessionId = sessionIdOf session.entitlementId seq

theorem keyed_start (controllerId : String) (n : N) : Keyed (Service.start controllerId n) :=
  fun _ _ hget => by cases hget

/-- The next session id is not in the table. -/
theorem Keyed.fresh (h : Keyed c) (entitlementId : Int) :
    c.sessions.get? (sessionIdOf entitlementId c.seq) = none := by
  by_contra hsome
  obtain ⟨session, hsession⟩ := Option.ne_none_iff_exists'.mp hsome
  obtain ⟨-, seq, hlt, hid⟩ := h _ session hsession
  exact absurd (sessionIdOf_injective hid) (by omega)

theorem Keyed.congr (h : Keyed c) (hsessions : next.sessions = c.sessions) (hseq : c.seq ≤ next.seq) :
    Keyed next := by
  intro sessionId session hget
  obtain ⟨hid, seq, hlt, heq⟩ := h sessionId session (hsessions ▸ hget)
  exact ⟨hid, seq, hlt.trans_le hseq, heq⟩

theorem Keyed.quiet (h : Keyed c) {net : Net N} {auth : AuthStore} {seq : Nat} (hseq : c.seq ≤ seq) :
    Keyed { c with net := net, auth := auth, seq := seq } :=
  h.congr rfl hseq

theorem Keyed.insertSession (h : Keyed c) {plan : Plan} {seq : Nat} (hseq : seq < c.seq)
    (hid : plan.sessionId = sessionIdOf plan.entitlementId seq) (state : SessionState) :
    Keyed (c.insertSession plan state) := by
  intro sessionId session hget
  simp only [Service.insertSession, OrderedDict.get?_insert] at hget
  split_ifs at hget with heq
  · cases hget
    exact ⟨heq.symm, seq, hseq, heq.trans hid⟩
  · exact h sessionId session hget

theorem Keyed.teardown (h : Keyed c) (sessionId : String) : Keyed (c.teardown p sessionId).2 := by
  rcases teardown_cases p c sessionId with ⟨-, heq⟩ | ⟨session, state, hget, -, -, heq⟩
  · rw [heq]
    exact h.quiet le_rfl
  · rw [heq]
    intro sessionId' session' hget'
    simp only [OrderedDict.get?_insert] at hget'
    split_ifs at hget' with hid
    · cases hget'
      subst hid
      exact h _ session hget
    · exact h sessionId' session' hget'

theorem Keyed.activate (h : Keyed c) (reader : Reader) (entitlementId : Int)
    (actionKind nonce signature : String) :
    Keyed (c.activate cfg p reader entitlementId actionKind nonce signature).2 := by
  obtain ⟨hseq, heq | ⟨facts, plan, state, -, hgranted, -, hlt, heq⟩⟩ :=
    activate_sessions cfg p c entitlementId actionKind nonce signature reader
  · exact h.congr heq hseq
  · have hid : plan.sessionId = sessionIdOf plan.entitlementId c.seq := by
      rw [hgranted.sessionId, hgranted.entitlementId]
    have hnext : Keyed { c with seq := (c.activate cfg p reader entitlementId actionKind nonce signature).2.seq } :=
      h.quiet hseq
    exact (hnext.insertSession hlt hid state).congr heq le_rfl

theorem Keyed.perform (h : Keyed c) (op : Op) : Keyed (c.perform cfg p op) :=
  perform_invariant (fun _ h => h) (fun _ _ _ hseq h => h.quiet hseq) (fun _ _ h => h.teardown _) op
    (fun _ _ _ _ _ _ h => h.activate _ _ _ _ _) h

/-! ### A small laboratory

One path on one device, sold under resource 1; a message is its own signature by the account 0xa. -/

def labOwner : Address := 0xa

def labPath : ResolvedPath := ⟨"srl1", "ethernet-1/1", "ethernet-1/2"⟩

def labConfig : Config where
  recover := fun message signature => if signature = message then some labOwner else none
  resourceMap := fun resourceId => if resourceId = 1 then some (.path labPath) else none

/-- A bandwidth entitlement from time 0 to time 100. -/
def labView (entitlementId : Int) (capacityBps : Uint64) : EntitlementView :=
  ⟨entitlementId, 0xb, 0, 1, .bandwidth ⟨capacityBps, 0⟩, 0, 100, false, 0⟩

/-- The chain at a time: entitlement 1 grants 50 Mbps, every other one 10 Mbps. -/
def labReader (now : Nat) : Reader where
  get := fun entitlementId => .ok (labView entitlementId (if entitlementId = 1 then 50000000 else 10000000))
  ownerOf := fun _ => .ok labOwner
  chainTime := .ok now

def labProof (nonce : String) (entitlementId : Int) (expiresAt : Nat) : String :=
  proofMessage "bw-ctrl-1" nonce entitlementId expiresAt .activate

/-- A challenge and the activation that answers it. -/
def labActivation (nonce : String) (entitlementId : Int) (now : Nat) : List Op :=
  [.request (labReader now) (.challenge entitlementId nonce),
    .request (labReader now) (.activate entitlementId "bandwidth" nonce
      (labProof nonce entitlementId (now + nonceTtlS)))]

end A2AProvisioning.Controller
