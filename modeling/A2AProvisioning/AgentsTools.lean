import A2AProvisioning.AgentsConsumer

/-! The consumer's graph over tools that change what is around them: each call of a run finds what the calls before it
have left, also those that raised. -/

namespace A2AProvisioning.Agents

open Ledger

/-- The tools over a state. -/
structure StatefulTools (σ : Type) where
  quote : ServiceNeed → σ → Option Result × σ
  settle : SignedOffer → σ → Option Int × σ
  activate : Int → String → σ → Option String × σ
  valid : ∀ {need : ServiceNeed} {s : σ} {offer : SignedOffer}, (quote need s).1 = some (.signed offer) →
    offer.offer.Valid

namespace StatefulTools

variable {σ : Type} (tools : StatefulTools σ)

/-- What the tools would answer in a state. -/
def answers (s : σ) : ConsumerTools where
  quote := fun need => (tools.quote need s).1
  settle := fun offer => (tools.settle offer s).1
  activate := fun entitlementId kind => (tools.activate entitlementId kind s).1
  valid := fun hquote => tools.valid hquote

/-- What a call leaves. -/
def leaves (s : σ) : ToolCall → σ
  | .quote need => (tools.quote need s).2
  | .settle offer => (tools.settle offer s).2
  | .activate entitlementId kind => (tools.activate entitlementId kind s).2

end StatefulTools

/-- Tools that change nothing. -/
def ConsumerTools.stateless (tools : ConsumerTools) : StatefulTools Unit where
  quote := fun need s => (tools.quote need, s)
  settle := fun offer s => (tools.settle offer, s)
  activate := fun entitlementId kind s => (tools.activate entitlementId kind, s)
  valid := fun hquote => tools.valid hquote

section Run

variable {σ : Type} (tools : StatefulTools σ) (llm : Judge)

/-- `invoke`, from state to state. -/
def invokeOver : Nat → ConsumerNode → ConsumerState → σ → Option ConsumerState × σ
  | 0, _, _, s => (none, s)
  | limit + 1, node, state, s =>
      let visited := visit (tools.answers s) llm node state
      let left := visited.1.foldl tools.leaves s
      match visited.2 with
      | none => (none, left)
      | some next =>
          match edge node next with
          | none => (some next, left)
          | some node => invokeOver limit node next left

def runOver (need : ServiceNeed) (budgetTok : Int) (s : σ) : Option ConsumerState × σ :=
  invokeOver tools llm recursionLimit .requestQuote (.start need budgetTok) s

/-- Where the tools have no state, the runs are those of the graph. -/
theorem invokeOver_stateless (tools : ConsumerTools) (limit : Nat) (node : ConsumerNode) (state : ConsumerState) :
    (invokeOver tools.stateless llm limit node state ()).1 = (invoke tools llm limit node state).2 := by
  induction limit generalizing node state with
  | zero => rfl
  | succ limit ih =>
      have hanswers : tools.stateless.answers () = tools := rfl
      rw [invokeOver, invoke, hanswers]
      dsimp only
      cases (visit tools llm node state).2 with
      | none => rfl
      | some next =>
          dsimp only
          cases edge node next with
          | none => rfl
          | some node' => exact ih node' next

/-- A run that has bought nothing and activated nothing. -/
def Unsold (outcome : Option ConsumerState) : Prop :=
  ∀ state ∈ outcome, state.entitlementId = none ∧ state.sessionId = none

/-- The endings, with the calls that were made: each waits for the one before. -/
inductive Ending (need : ServiceNeed) (budgetTok : Int) (s : σ) : Option ConsumerState × σ → Prop
  | noOffer {outcome} (hquote : ∀ offer, (tools.quote need s).1 ≠ some (.signed offer)) (hunsold : Unsold outcome) :
      Ending need budgetTok s (outcome, (tools.quote need s).2)
  | refused {offer outcome} (hquote : (tools.quote need s).1 = some (.signed offer))
      (hrefused : accepted llm need budgetTok offer = false) (hunsold : Unsold outcome) :
      Ending need budgetTok s (outcome, (tools.quote need s).2)
  | unsettled {offer} (hquote : (tools.quote need s).1 = some (.signed offer))
      (haccepted : accepted llm need budgetTok offer = true)
      (hsettle : minted (tools.settle offer (tools.quote need s).2).1 = none) :
      Ending need budgetTok s (none, (tools.settle offer (tools.quote need s).2).2)
  | inactive {offer entitlementId} (hquote : (tools.quote need s).1 = some (.signed offer))
      (haccepted : accepted llm need budgetTok offer = true)
      (hsettle : minted (tools.settle offer (tools.quote need s).2).1 = some entitlementId)
      (hactivate : (tools.activate entitlementId (kindOf need) (tools.settle offer (tools.quote need s).2).2).1 = none) :
      Ending need budgetTok s
        (none, (tools.activate entitlementId (kindOf need) (tools.settle offer (tools.quote need s).2).2).2)
  | served {offer entitlementId sessionId state} (hquote : (tools.quote need s).1 = some (.signed offer))
      (haccepted : accepted llm need budgetTok offer = true)
      (hsettle : minted (tools.settle offer (tools.quote need s).2).1 = some entitlementId)
      (hactivate : (tools.activate entitlementId (kindOf need) (tools.settle offer (tools.quote need s).2).2).1 =
        some sessionId)
      (hstate : state.offer = some offer ∧ state.entitlementId = some entitlementId ∧
        state.sessionId = some sessionId) :
      Ending need budgetTok s
        (some state, (tools.activate entitlementId (kindOf need) (tools.settle offer (tools.quote need s).2).2).2)

section Nodes

variable {tools llm} {limit : Nat} {state : ConsumerState} {s : σ}

theorem unsold_none : Unsold none := fun _ hmem => by cases hmem

theorem unsold_log (hid : state.entitlementId = none) (hsession : state.sessionId = none) (line : String) :
    Unsold (some (state.log line)) := fun next hmem => by
  cases hmem
  exact ⟨hid, hsession⟩

theorem invokeOver_activate {entitlementId : Int} (hid : state.entitlementId = some entitlementId) :
    invokeOver tools llm (limit + 2) .activate state s =
      ((tools.activate entitlementId (kindOf state.need) s).1.map fun sessionId =>
        ({ state with sessionId := some sessionId }.log ("activate: session " ++ sessionId ++ " active")).log
          "report: service running",
        (tools.activate entitlementId (kindOf state.need) s).2) := by
  rw [invokeOver]
  simp only [visit, hid, StatefulTools.answers, List.foldl_cons, List.foldl_nil, StatefulTools.leaves]
  cases (tools.activate entitlementId (kindOf state.need) s).1 <;> rfl

theorem invokeOver_settle {offer : SignedOffer} (hoffer : state.offer = some offer) :
    (minted (tools.settle offer s).1 = none ∧
        invokeOver tools llm (limit + 3) .settle state s = (none, (tools.settle offer s).2)) ∨
      ∃ entitlementId text, minted (tools.settle offer s).1 = some entitlementId ∧
        invokeOver tools llm (limit + 3) .settle state s = invokeOver tools llm (limit + 2) .activate
          ({ state with entitlementId := some entitlementId }.log ("settle: minted entitlement #" ++ text))
          (tools.settle offer s).2 := by
  rw [invokeOver]
  simp only [visit, hoffer, StatefulTools.answers, List.foldl_cons, List.foldl_nil, StatefulTools.leaves]
  cases (tools.settle offer s).1 with
  | none => exact Or.inl ⟨rfl, rfl⟩
  | some entitlementId =>
      rw [minted_some, Option.bind_some]
      cases strOf entitlementId with
      | none => exact Or.inl ⟨rfl, rfl⟩
      | some text => exact Or.inr ⟨entitlementId, text, rfl, rfl⟩

/-- From the decision on: the run goes to the tools, or it ends without. -/
theorem invokeOver_decide {offer : SignedOffer} (hoffer : state.offer = some offer)
    (hid : state.entitlementId = none) (hsession : state.sessionId = none) :
    (accepted llm state.need state.budgetTok offer = false ∧ ∃ outcome, Unsold outcome ∧
        invokeOver tools llm (limit + 4) .decide state s = (outcome, s)) ∨
      accepted llm state.need state.budgetTok offer = true ∧ ∃ next : ConsumerState, next.offer = some offer ∧
        next.need = state.need ∧
        invokeOver tools llm (limit + 4) .decide state s = invokeOver tools llm (limit + 3) .settle next s := by
  rw [invokeOver, accepted]
  simp only [visit, hoffer, Option.bind_some, List.foldl_nil]
  cases wholeTok offer with
  | none => exact Or.inl ⟨rfl, none, unsold_none, rfl⟩
  | some price =>
      rw [Option.bind_some, Option.any_some]
      cases judged llm state.need offer state.budgetTok price with
      | none => exact Or.inl ⟨rfl, none, unsold_none, rfl⟩
      | some decision =>
          simp only [Option.map_some, Option.any_some, edge, ConsumerState.log]
          by_cases haccept : decision.accept = true
          · rw [if_pos haccept]
            refine Or.inr ⟨haccept, _, ?_, ?_, rfl⟩
            · rfl
            · rfl
          · rw [if_neg haccept]
            refine Or.inl ⟨eq_false_of_ne_true haccept, _, ?_, rfl⟩
            apply unsold_log
            · exact hid
            · exact hsession

end Nodes

/-- Every run has one of the endings. -/
theorem ending_of_run (need : ServiceNeed) (budgetTok : Int) (s : σ) :
    Ending tools llm need budgetTok s (runOver tools llm need budgetTok s) := by
  have hrun : runOver tools llm need budgetTok s =
      match (visit (tools.answers s) llm .requestQuote (.start need budgetTok)).2 with
      | none => (none, (tools.quote need s).2)
      | some next => invokeOver tools llm 24 (if next.offer.isSome then .decide else .declined) next
          (tools.quote need s).2 := by
    rw [runOver, recursionLimit, invokeOver]
    cases (visit (tools.answers s) llm .requestQuote (.start need budgetTok)).2 <;> rfl
  rw [hrun]
  simp only [visit, StatefulTools.answers, ConsumerState.start]
  cases hquote : (tools.quote need s).1 with
  | none => exact .noOffer (fun offer h => by cases hquote.symm.trans h) unsold_none
  | some result =>
      cases result with
      | decline decline =>
          exact .noOffer (fun offer h => by cases hquote.symm.trans h) (unsold_log rfl rfl _)
      | signed offer =>
          simp only [Option.bind_some]
          cases hprice : wholeTok offer with
          | none =>
              refine .refused hquote ?_ unsold_none
              rw [accepted, hprice, Option.any_none]
          | some price =>
              simp only [Option.map_some, ConsumerState.log, Option.isSome_some, if_true]
              generalize hstart : ConsumerState.mk need budgetTok (some offer) none none none
                ([] ++ [s!"quote: {price} TOK for " ++ kindOf need]) = state
              have hoffer : state.offer = some offer := by rw [← hstart]
              have hneed : state.need = need := by rw [← hstart]
              have hbudget : state.budgetTok = budgetTok := by rw [← hstart]
              rcases @invokeOver_decide σ tools llm 20 state (tools.quote need s).2 offer hoffer (by rw [← hstart])
                  (by rw [← hstart]) with ⟨hrefused, outcome, hunsold, hend⟩ | ⟨haccepted, next, hnext, hsame, hgo⟩
              · rw [hend]
                rw [hneed, hbudget] at hrefused
                exact .refused hquote hrefused hunsold
              · rw [hneed, hbudget] at haccepted
                rw [hgo]
                rcases @invokeOver_settle σ tools llm 20 next (tools.quote need s).2 offer hnext with
                  ⟨hsettle, hend⟩ | ⟨entitlementId, text, hsettle, hgo'⟩
                · rw [hend]
                  exact .unsettled hquote haccepted hsettle
                · rw [hgo', invokeOver_activate rfl]
                  simp only [ConsumerState.log, hsame, hneed]
                  cases hactivate : (tools.activate entitlementId (kindOf need)
                      (tools.settle offer (tools.quote need s).2).2).1 with
                  | none => exact .inactive hquote haccepted hsettle hactivate
                  | some sessionId => exact .served hquote haccepted hsettle hactivate ⟨hnext, rfl, rfl⟩

variable {tools llm} in
/-- A run whose calls all give what the next one needs is served. -/
theorem served_of_calls {need : ServiceNeed} {budgetTok : Int} {s : σ} {offer : SignedOffer} {entitlementId : Int}
    {sessionId : String} (hquote : (tools.quote need s).1 = some (.signed offer))
    (haccepted : accepted llm need budgetTok offer = true)
    (hsettle : minted (tools.settle offer (tools.quote need s).2).1 = some entitlementId)
    (hactivate : (tools.activate entitlementId (kindOf need) (tools.settle offer (tools.quote need s).2).2).1 =
      some sessionId) :
    ∃ state, (runOver tools llm need budgetTok s).1 = some state ∧ state.offer = some offer ∧
      state.entitlementId = some entitlementId ∧ state.sessionId = some sessionId := by
  have hending := ending_of_run tools llm need budgetTok s
  generalize runOver tools llm need budgetTok s = outcome at hending ⊢
  cases hending with
  | noOffer hnone hunsold => exact absurd hquote (hnone offer)
  | refused hquote' hrefused hunsold =>
      cases hquote.symm.trans hquote'
      rw [haccepted] at hrefused
      cases hrefused
  | unsettled hquote' haccepted' hsettle' =>
      cases hquote.symm.trans hquote'
      cases hsettle.symm.trans hsettle'
  | inactive hquote' haccepted' hsettle' hactivate' =>
      cases hquote.symm.trans hquote'
      cases hsettle.symm.trans hsettle'
      cases hactivate.symm.trans hactivate'
  | served hquote' haccepted' hsettle' hactivate' hstate =>
      cases hquote.symm.trans hquote'
      cases hsettle.symm.trans hsettle'
      cases hactivate.symm.trans hactivate'
      exact ⟨_, rfl, hstate⟩

end Run

end A2AProvisioning.Agents
