import A2AProvisioning.LibraryLockstep
import A2AProvisioning.ControllerRuns

/-! The port of the provisioner. A service sees of a network whether a call went well and nothing else, so two
networks that answer alike are served alike, operation by operation and over every run. -/

namespace A2AProvisioning.Controller

variable {N N' : Type}

/-- What an operation returns or raises. -/
inductive Answer
  | challenge (result : Except Failure Challenge)
  | info (result : Except Failure SessionInfo)
  | ended (result : Except Failure (List String))
  | done (result : Except Failure Unit)

/-- An operation with its answer. -/
def Service.respond (cfg : Config) (p : Provisioner N) (c : Service N) : Op → Answer × Service N
  | .request reader (.challenge entitlementId nonce) =>
      (.challenge (c.challenge reader entitlementId nonce).1, (c.challenge reader entitlementId nonce).2)
  | .request reader (.activate entitlementId actionKind nonce signature) =>
      (.info (c.activate cfg p reader entitlementId actionKind nonce signature).1,
        (c.activate cfg p reader entitlementId actionKind nonce signature).2)
  | .request reader (.teardownRequested sessionId nonce signature) =>
      (.info (c.teardownRequested cfg p reader sessionId nonce signature).1,
        (c.teardownRequested cfg p reader sessionId nonce signature).2)
  | .request _ (.session sessionId) => (.info (c.session sessionId), c)
  | .teardown sessionId => (.info (c.teardown p sessionId).1, (c.teardown p sessionId).2)
  | .tick reader => (.ended (c.tick p reader).1, (c.tick p reader).2)
  | .handleRevoked reader entitlementId =>
      (.done (c.handleRevoked p reader entitlementId).1, (c.handleRevoked p reader entitlementId).2)

theorem respond_snd (cfg : Config) (p : Provisioner N) (c : Service N) (op : Op) :
    (c.respond cfg p op).2 = c.perform cfg p op := by
  cases op with
  | request reader request => cases request <;> rfl
  | teardown sessionId => rfl
  | tick reader => rfl
  | handleRevoked reader entitlementId => rfl

/-- On calls that are allowed, two provisioners over related networks do well or badly alike, and the networks stay
related. A teardown is always allowed. -/
structure Provisioner.Alike (p : Provisioner N) (p' : Provisioner N') (related : N → N' → Prop)
    (allowed : NetCall → Prop) : Prop where
  answers : ∀ call n n', allowed call → related n n' →
    (p.call call n).1.map ApplyResult.ok = (p'.call call n').1.map ApplyResult.ok
  states : ∀ call n n', allowed call → related n n' → related (p.call call n).2 (p'.call call n').2
  teardown : ∀ sessionId, allowed (.teardown sessionId)

/-- The networks are related and were called alike. -/
structure Net.Related (related : N → N' → Prop) (net : Net N) (net' : Net N') : Prop where
  state : related net.state net'.state
  calls : net.calls = net'.calls

/-- All but the network is equal. -/
structure Service.Alike (related : N → N' → Prop) (c : Service N) (c' : Service N') : Prop where
  net : Net.Related related c.net c'.net
  auth : c.auth = c'.auth
  sessions : c.sessions = c'.sessions
  seq : c.seq = c'.seq

section Alike

variable {p : Provisioner N} {p' : Provisioner N'} {related : N → N' → Prop} {allowed : NetCall → Prop}
  {net : Net N} {net' : Net N'}

theorem Net.Related.invoke (h : Net.Related related net net') (hp : p.Alike p' related allowed) {call : NetCall}
    (hcall : allowed call) :
    (net.invoke p call).1.map ApplyResult.ok = (net'.invoke p' call).1.map ApplyResult.ok ∧
      Net.Related related (net.invoke p call).2 (net'.invoke p' call).2 := by
  refine ⟨hp.answers call _ _ hcall h.state, hp.states call _ _ hcall h.state, ?_⟩
  rw [Net.invoke, Net.invoke, h.calls]

/-- The loop of `activate` stops at the same call. -/
theorem Net.Related.applyCalls (hp : p.Alike p' related allowed) {calls : List NetCall}
    (hcalls : ∀ call ∈ calls, allowed call) (h : Net.Related related net net') :
    (Controller.applyCalls p calls net).1 = (Controller.applyCalls p' calls net').1 ∧
      Net.Related related (Controller.applyCalls p calls net).2 (Controller.applyCalls p' calls net').2 := by
  induction calls generalizing net net' with
  | nil => exact ⟨rfl, h⟩
  | cons call rest ih =>
      obtain ⟨hanswer, hnext⟩ := h.invoke hp (hcalls call List.mem_cons_self)
      have hrest : ∀ call ∈ rest, allowed call := fun call hmem => hcalls call (List.mem_cons_of_mem _ hmem)
      rw [Controller.applyCalls, Controller.applyCalls]
      rcases hleft : net.invoke p call with ⟨_ | result, next⟩ <;>
        rcases hright : net'.invoke p' call with ⟨_ | result', next'⟩ <;> rw [hleft, hright] at hanswer hnext
      · exact ⟨rfl, hnext⟩
      · cases hanswer
      · cases hanswer
      · have hok : result.ok = result'.ok := Option.some.inj hanswer
        dsimp only
        rw [hok]
        split_ifs
        · exact ih hrest hnext
        · exact ⟨rfl, hnext⟩

/-- The same answer, and all but the network equal behind it. -/
structure SameAnswer {R : Type} (related : N → N' → Prop) (x : R × Service N) (y : R × Service N') : Prop where
  answer : x.1 = y.1
  states : Service.Alike related x.2 y.2

variable {c : Service N} {c' : Service N'}

theorem SameAnswer.of_same {R : Type} {related : N → N' → Prop} (h : Service.Alike related c c') (answer : R) :
    SameAnswer related (answer, c) (answer, c') := ⟨rfl, h⟩

/-- Two calls that went alike, and services that take the networks over. -/
theorem Service.Alike.withNet (h : Service.Alike related c c') (hnet : Net.Related related net net') :
    Service.Alike related { c with net := net } { c' with net := net' } :=
  ⟨hnet, h.auth, h.sessions, h.seq⟩

theorem Service.Alike.insertSession (h : Service.Alike related c c') (plan : Plan) (state : SessionState) :
    Service.Alike related (c.insertSession plan state) (c'.insertSession plan state) :=
  ⟨h.net, h.auth, by rw [Service.insertSession, Service.insertSession, h.sessions], h.seq⟩

theorem Service.Alike.activeIds (h : Service.Alike related c c') : c.activeIds = c'.activeIds := by
  rw [Service.activeIds, Service.activeIds, h.sessions]

/-- What an activation settles before it calls the network is the same, whatever that is. -/
theorem Service.Alike.authorize (h : Service.Alike related c c') (cfg : Config) (facts : Facts) (entitlementId : Int)
    (actionKind nonce signature : String) :
    SameAnswer related (c.authorize cfg facts entitlementId actionKind nonce signature)
      (c'.authorize cfg facts entitlementId actionKind nonce signature) := by
  have hactive := h.activeIds
  rw [Service.authorize, Service.authorize, h.auth]
  set verdict := c'.auth.verify cfg.recover entitlementId nonce signature facts.owner facts.now .activate
  have hburned : Service.Alike related { c with auth := verdict.2 } { c' with auth := verdict.2 } :=
    ⟨h.net, rfl, h.sessions, h.seq⟩
  have hactive' : ({ c with auth := verdict.2 } : Service N).activeIds =
      ({ c' with auth := verdict.2 } : Service N').activeIds := hactive
  have hnumbered : Service.Alike related ({ c with auth := verdict.2, seq := c.seq + 1 } : Service N)
      ({ c' with auth := verdict.2, seq := c'.seq + 1 } : Service N') :=
    ⟨h.net, rfl, h.sessions, congrArg (· + 1) h.seq⟩
  dsimp only
  cases verdict.1 with
  | some code => exact .of_same hburned _
  | none =>
      dsimp only
      rw [hactive']
      cases predicate facts.view facts.owner facts.owner facts.now
          ({ c' with auth := verdict.2 } : Service N').activeIds (some actionKind) knownServiceTypes with
      | some code => exact .of_same hburned _
      | none =>
          dsimp only
          rw [h.seq] at hnumbered ⊢
          cases transition .requested .authorize with
          | none => exact .of_same hnumbered _
          | some state =>
              dsimp only
              rcases translate (sessionIdOf entitlementId c'.seq) facts.view cfg.resourceMap with (_ | _ | _) | calls
              · exact .of_same hnumbered _
              · exact .of_same hnumbered _
              · exact .of_same hnumbered _
              · exact .of_same hnumbered _

theorem Service.Alike.record (h : Service.Alike related c c') (hp : p.Alike p' related allowed) (plan : Plan)
    (applied : Option Bool) : SameAnswer related (c.record p plan applied) (c'.record p' plan applied) := by
  rcases applied with _ | _ | _
  · exact .of_same h _
  · obtain ⟨hanswer, hnext⟩ := h.net.invoke hp (hp.teardown plan.sessionId)
    rw [Service.record, Service.record]
    rcases hleft : c.net.invoke p (.teardown plan.sessionId) with ⟨_ | result, next⟩ <;>
      rcases hright : c'.net.invoke p' (.teardown plan.sessionId) with ⟨_ | result', next'⟩ <;>
      rw [hleft, hright] at hanswer hnext
    · exact .of_same (h.withNet hnext) _
    · cases hanswer
    · cases hanswer
    · dsimp only
      cases transition plan.state .provisionFailed with
      | none => exact .of_same (h.withNet hnext) _
      | some state => exact .of_same ((h.withNet hnext).insertSession plan state) _
  · rw [Service.record, Service.record]
    cases transition plan.state .provisionOk with
    | none => exact .of_same h _
    | some state => exact .of_same (h.insertSession plan state) _

theorem Service.Alike.teardown (h : Service.Alike related c c') (hp : p.Alike p' related allowed) (sessionId : String) :
    SameAnswer related (c.teardown p sessionId) (c'.teardown p' sessionId) := by
  obtain ⟨hanswer, hnext⟩ := h.net.invoke hp (hp.teardown sessionId)
  rw [Service.teardown, Service.teardown, h.sessions]
  rcases hleft : c.net.invoke p (.teardown sessionId) with ⟨_ | result, next⟩ <;>
    rcases hright : c'.net.invoke p' (.teardown sessionId) with ⟨_ | result', next'⟩ <;>
    rw [hleft, hright] at hanswer hnext <;>
    have hafter : Service.Alike related ⟨next, c.auth, c'.sessions, c.seq⟩ ⟨next', c'.auth, c'.sessions, c'.seq⟩ :=
      ⟨hnext, h.auth, rfl, h.seq⟩
  · cases c'.sessions.get? sessionId <;> exact .of_same hafter _
  · cases hanswer
  · cases hanswer
  · cases c'.sessions.get? sessionId with
    | none => exact .of_same hafter _
    | some session =>
        dsimp only
        cases transition session.state .teardown with
        | none => exact .of_same hafter _
        | some state =>
            refine .of_same ?_ _
            exact ⟨hnext, h.auth, rfl, h.seq⟩

/-- One teardown after the other, up to the first that raises. -/
theorem Service.Alike.teardownAll (h : Service.Alike related c c') (hp : p.Alike p' related allowed)
    (sessions : List Session) :
    SameAnswer related (Service.teardownAll p sessions c) (Service.teardownAll p' sessions c') := by
  induction sessions generalizing c c' with
  | nil => exact .of_same h _
  | cons session rest ih =>
      have hfirst := h.teardown hp session.sessionId
      rw [Service.teardownAll, Service.teardownAll]
      rcases hleft : c.teardown p session.sessionId with ⟨failure | info, next⟩ <;>
        rcases hright : c'.teardown p' session.sessionId with ⟨failure' | info', next'⟩ <;>
        rw [hleft, hright] at hfirst <;> obtain ⟨hanswer, hnext⟩ := hfirst
      · cases hanswer
        exact .of_same hnext _
      · cases hanswer
      · cases hanswer
      · have hrest := ih hnext
        dsimp only at hrest ⊢
        rcases hleft' : Service.teardownAll p rest next with ⟨failure | ended, last⟩ <;>
          rcases hright' : Service.teardownAll p' rest next' with ⟨failure' | ended', last'⟩ <;>
          rw [hleft', hright'] at hrest <;> obtain ⟨hanswer', hlast⟩ := hrest
        · cases hanswer'
          exact .of_same hlast _
        · cases hanswer'
        · cases hanswer'
        · cases hanswer'
          exact .of_same hlast _

/-- The calls an activation would translate to are allowed, whatever its session is called. -/
def Op.Allowed (cfg : Config) (allowed : NetCall → Prop) : Op → Prop
  | .request reader (.activate entitlementId ..) => ∀ view sessionId calls,
      reader.get entitlementId = .ok view → translate sessionId view cfg.resourceMap = .ok calls →
        ∀ call ∈ calls, allowed call
  | _ => True

theorem Service.Alike.activate (h : Service.Alike related c c') (hp : p.Alike p' related allowed) {cfg : Config}
    {reader : Reader} {entitlementId : Int} {actionKind nonce signature : String}
    (hallowed : Op.Allowed cfg allowed (.request reader (.activate entitlementId actionKind nonce signature))) :
    SameAnswer related (c.activate cfg p reader entitlementId actionKind nonce signature)
      (c'.activate cfg p' reader entitlementId actionKind nonce signature) := by
  rw [Service.activate, Service.activate]
  rcases hfacts : readFacts reader entitlementId with failure | facts
  · exact .of_same h _
  · have hsettled := h.authorize cfg facts entitlementId actionKind nonce signature
    dsimp only
    rcases hleft : c.authorize cfg facts entitlementId actionKind nonce signature with ⟨failure | plan, next⟩ <;>
      rcases hright : c'.authorize cfg facts entitlementId actionKind nonce signature with ⟨failure' | plan', next'⟩ <;>
      rw [hleft, hright] at hsettled <;> obtain ⟨hanswer, hnext⟩ := hsettled
    · cases hanswer
      exact .of_same hnext _
    · cases hanswer
    · cases hanswer
    · cases hanswer
      have hcalls : ∀ call ∈ plan.calls, allowed call := by
        obtain ⟨hget, -, -⟩ := readFacts_eq_ok hfacts
        exact hallowed facts.view plan.sessionId plan.calls hget (authorize_ok hleft).1.calls
      obtain ⟨happlied, hnet⟩ := Net.Related.applyCalls hp hcalls hnext.net
      dsimp only
      rw [happlied]
      exact (hnext.withNet hnet).record hp plan _

/-- One operation over two networks that answer alike. -/
theorem Service.Alike.respond (h : Service.Alike related c c') (hp : p.Alike p' related allowed) {cfg : Config}
    {op : Op} (hallowed : op.Allowed cfg allowed) : SameAnswer related (c.respond cfg p op) (c'.respond cfg p' op) := by
  have hlift : ∀ {R : Type} (answer : R → Answer) {x : R × Service N} {y : R × Service N'}, SameAnswer related x y →
      SameAnswer related (answer x.1, x.2) (answer y.1, y.2) :=
    fun answer _ _ hsame => ⟨congrArg answer hsame.answer, hsame.states⟩
  cases op with
  | request reader request =>
      cases request with
      | challenge entitlementId nonce =>
          apply hlift .challenge
          rw [Service.challenge, Service.challenge, h.auth]
          cases readView reader entitlementId with
          | error failure => exact .of_same h _
          | ok view =>
              cases read reader.chainTime with
              | error failure => exact .of_same h _
              | ok now =>
                  refine .of_same ?_ _
                  exact ⟨h.net, rfl, h.sessions, h.seq⟩
      | activate entitlementId actionKind nonce signature => exact hlift .info (h.activate hp hallowed)
      | teardownRequested sessionId nonce signature =>
          apply hlift .info
          rw [Service.teardownRequested, Service.teardownRequested, h.sessions, h.auth]
          cases c'.sessions.get? sessionId with
          | none => exact .of_same h _
          | some session =>
              dsimp only
              cases read (reader.ownerOf session.entitlementId) with
              | error failure => exact .of_same h _
              | ok owner =>
                  cases read reader.chainTime with
                  | error failure => exact .of_same h _
                  | ok now =>
                      set verdict := c'.auth.verify cfg.recover session.entitlementId nonce signature owner now .teardown
                      have hburned : Service.Alike related { c with auth := verdict.2 } { c' with auth := verdict.2 } :=
                        ⟨h.net, rfl, h.sessions, h.seq⟩
                      rw [h.sessions] at hburned
                      dsimp only
                      cases verdict.1 with
                      | some code => exact .of_same hburned _
                      | none => exact hburned.teardown hp sessionId
      | session sessionId =>
          refine hlift .info (x := (c.session sessionId, c)) (y := (c'.session sessionId, c')) ⟨?_, h⟩
          rw [Service.session, Service.session, h.sessions]
  | teardown sessionId => exact hlift .info (h.teardown hp sessionId)
  | tick reader =>
      apply hlift .ended
      rw [Service.tick, Service.tick, h.sessions]
      cases read reader.chainTime with
      | error failure => exact .of_same h _
      | ok now => exact h.teardownAll hp _
  | handleRevoked reader entitlementId =>
      apply hlift .done
      have hscan : SameAnswer related (c.endRevoked p entitlementId) (c'.endRevoked p' entitlementId) := by
        rw [Service.endRevoked, Service.endRevoked, h.sessions]
        exact h.teardownAll hp _
      rw [Service.handleRevoked, Service.handleRevoked]
      cases reader.get entitlementId with
      | error err => exact .of_same h _
      | ok view =>
          dsimp only
          cases view.revoked with
          | false => exact .of_same h _
          | true =>
              rcases hleft : c.endRevoked p entitlementId with ⟨failure | ended, next⟩ <;>
                rcases hright : c'.endRevoked p' entitlementId with ⟨failure' | ended', next'⟩ <;>
                rw [hleft, hright] at hscan <;> obtain ⟨hanswer, hnext⟩ := hscan
              · cases hanswer
                exact .of_same hnext _
              · cases hanswer
              · cases hanswer
              · exact .of_same hnext _

end Alike

end A2AProvisioning.Controller
