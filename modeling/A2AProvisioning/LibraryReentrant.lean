import Mathlib.Algebra.BigOperators.Group.List.Basic
import Mathlib.Data.List.Basic

/-! Contracts whose entry points call out to foreign code in the middle. The foreign code may call
back into the contract to any depth before it returns or reverts, and a call that reverts leaves no
trace. Execution returns the committed changes in order, one for each half of an entry point that
took effect, so that a property of every half is a property of every execution. -/

namespace Reentrant

set_option linter.unusedSectionVars false

/-- A call tree. `callee` is what the foreign code does while the entry point waits for it, `ok`
whether that code returns normally; `code` is a foreign contract acting on its own account. -/
inductive Call (E : Type)
  | entry (e : E) (callee : List (Call E)) (ok : Bool)
  | code (body : List (Call E)) (ok : Bool)

/-- One contract in a block context `B`: what an entry point does before it calls out and after. -/
structure Contract (B E S ε : Type) where
  enter : B → E → S → Except ε S
  callsOut : E → Bool
  leave : B → E → S → Except ε S
  calleeFailed : ε

/-- The two halves of an entry point. -/
inductive Half (E : Type)
  | enter (e : E)
  | leave (e : E)

/-- A half that took effect, with the states around it. -/
structure Change (B E S : Type) where
  block : B
  before : S
  half : Half E
  after : S

variable {B E S ε : Type} (c : Contract B E S ε)

mutual

/-- A call either reverts, or returns the new state and the changes it committed. -/
def exec (b : B) : Call E → S → Except ε (S × List (Change B E S))
  | .entry e callee ok, s =>
      match c.enter b e s with
      | .error err => .error err
      | .ok entered =>
          if c.callsOut e then
            if ok then
              match c.leave b e (execAll b callee entered).1 with
              | .error err => .error err
              | .ok left => .ok (left, ⟨b, s, .enter e, entered⟩ :: (execAll b callee entered).2 ++
                  [⟨b, (execAll b callee entered).1, .leave e, left⟩])
            else .error c.calleeFailed
          else .ok (entered, [⟨b, s, .enter e, entered⟩])
  | .code body ok, s => if ok then .ok (execAll b body s) else .error c.calleeFailed

/-- Foreign code survives a call of its own that reverts: that call alone is undone. -/
def execAll (b : B) : List (Call E) → S → S × List (Change B E S)
  | [], s => (s, [])
  | call :: rest, s =>
      match exec b call s with
      | .error _ => execAll b rest s
      | .ok (next, log) => ((execAll b rest next).1, log ++ (execAll b rest next).2)

end

/-- A transaction: a call that reverts changes nothing. -/
def transact (b : B) (call : Call E) (s : S) : S × List (Change B E S) :=
  match exec c b call s with
  | .error _ => (s, [])
  | .ok result => result

/-- The state and the committed changes after a list of transactions. -/
def history : S → List (B × Call E) → S × List (Change B E S)
  | s, [] => (s, [])
  | s, (b, call) :: rest =>
      ((history (transact c b call s).1 rest).1,
        (transact c b call s).2 ++ (history (transact c b call s).1 rest).2)

/-- The change is the contract's own doing. -/
def Change.Fires (ch : Change B E S) : Prop :=
  match ch.half with
  | .enter e => c.enter ch.block e ch.before = .ok ch.after
  | .leave e => c.callsOut e = true ∧ c.leave ch.block e ch.before = .ok ch.after

/-- The changes lead from one state to the other, each starting where the previous one ended. -/
def Chained : S → List (Change B E S) → S → Prop
  | s, [], t => s = t
  | s, ch :: log, t => ch.before = s ∧ Chained ch.after log t

theorem Chained.append {s t u : S} {log log' : List (Change B E S)}
    (hleft : Chained s log t) (hright : Chained t log' u) : Chained s (log ++ log') u := by
  induction log generalizing s with
  | nil =>
      cases hleft
      exact hright
  | cons ch log ih => exact ⟨hleft.1, ih hleft.2⟩

/-- A quantity that every change moves by so much has moved by the sum. -/
theorem Chained.sum {G : Type} [AddMonoid G] (measure : S → G) {delta : Change B E S → G} {s t : S}
    {log : List (Change B E S)} (hchained : Chained s log t)
    (hdelta : ∀ ch ∈ log, measure ch.after = measure ch.before + delta ch) :
    measure t = measure s + (log.map delta).sum := by
  induction log generalizing s with
  | nil =>
      obtain rfl : s = t := hchained
      rw [List.map_nil, List.sum_nil, add_zero]
  | cons ch log ih =>
      obtain ⟨rfl, hrest⟩ := hchained
      calc
        measure t = measure ch.after + (log.map delta).sum :=
          ih hrest fun ch' hmem => hdelta ch' (List.mem_cons_of_mem _ hmem)
        _ = measure ch.before + ((ch :: log).map delta).sum := by
          rw [hdelta ch List.mem_cons_self, List.map_cons, List.sum_cons, add_assoc]

/-- What every change preserves. -/
theorem Chained.preserves {P : S → Prop} {s t : S} {log : List (Change B E S)} (hchained : Chained s log t)
    (hstep : ∀ ch ∈ log, P ch.before → P ch.after) (hs : P s) : P t := by
  induction log generalizing s with
  | nil =>
      obtain rfl : s = t := hchained
      exact hs
  | cons ch log ih =>
      obtain ⟨rfl, hrest⟩ := hchained
      exact ih hrest (fun ch' hmem => hstep ch' (List.mem_cons_of_mem _ hmem)) (hstep ch List.mem_cons_self hs)

/-! ### The invariant rule

The invariant speaks of the entry points that are still waiting for foreign code, innermost first,
of the changes committed so far, and of the state. -/

section Rule

variable {c} {inv : List (B × E) → List (Change B E S) → S → Prop}
  (henter : ∀ waiting log b e s next, inv waiting log s → c.enter b e s = .ok next →
    inv (if c.callsOut e then (b, e) :: waiting else waiting) (log ++ [⟨b, s, .enter e, next⟩]) next)
  (hleave : ∀ waiting log b e s next, c.callsOut e = true → inv ((b, e) :: waiting) log s →
    c.leave b e s = .ok next → inv waiting (log ++ [⟨b, s, .leave e, next⟩]) next)

include henter hleave

mutual

/-- What both halves of every entry point preserve, every call preserves, at any depth. -/
theorem exec_invariant (b : B) (call : Call E) (waiting : List (B × E)) (log : List (Change B E S))
    (s : S) (result : S × List (Change B E S)) (hinv : inv waiting log s)
    (hexec : exec c b call s = .ok result) : inv waiting (log ++ result.2) result.1 := by
  match call with
  | .entry e callee ok =>
      rw [exec] at hexec
      split at hexec
      · cases hexec
      · rename_i entered hentered
        have hfirst := henter waiting log b e s entered hinv hentered
        split_ifs at hexec with hcalls hok
        · rw [if_pos hcalls] at hfirst
          have hcallee := execAll_invariant b callee _ _ entered hfirst
          split at hexec
          · cases hexec
          · rename_i left hleft
            cases hexec
            have hlast := hleave waiting _ b e _ left hcalls hcallee hleft
            simpa only [List.append_assoc, List.nil_append, List.cons_append] using hlast
        · rw [if_neg hcalls] at hfirst
          cases hexec
          exact hfirst
  | .code body ok =>
      rw [exec] at hexec
      split_ifs at hexec with hok
      cases hexec
      exact execAll_invariant b body waiting log s hinv

theorem execAll_invariant (b : B) (calls : List (Call E)) (waiting : List (B × E))
    (log : List (Change B E S)) (s : S) (hinv : inv waiting log s) :
    inv waiting (log ++ (execAll c b calls s).2) (execAll c b calls s).1 := by
  match calls with
  | [] => simpa only [execAll, List.append_nil] using hinv
  | call :: rest =>
      rw [execAll]
      split
      · exact execAll_invariant b rest waiting log s hinv
      · rename_i next inner hexec
        have hhead := exec_invariant b call waiting log s (next, inner) hinv hexec
        have htail := execAll_invariant b rest waiting _ next hhead
        simpa only [List.append_assoc] using htail

end

theorem history_invariant (txs : List (B × Call E)) (log : List (Change B E S)) (s : S)
    (hinv : inv [] log s) : inv [] (log ++ (history c s txs).2) (history c s txs).1 := by
  induction txs generalizing log s with
  | nil => simpa only [history, List.append_nil] using hinv
  | cons tx rest ih =>
      obtain ⟨b, call⟩ := tx
      have hhead : inv [] (log ++ (transact c b call s).2) (transact c b call s).1 := by
        rw [transact]
        split
        · simpa only [List.append_nil] using hinv
        · rename_i result hexec
          exact exec_invariant henter hleave b call [] log s result hinv hexec
      have htail := ih _ _ hhead
      simpa only [history, List.append_assoc] using htail

end Rule

theorem Chained.snoc {s t : S} {log : List (Change B E S)} {ch : Change B E S}
    (hlog : Chained s log t) (hbefore : ch.before = t) : Chained s (log ++ [ch]) ch.after :=
  hlog.append ⟨hbefore, rfl⟩

/-- The committed changes of a history are the contract's own, and lead from its first state to
its last. -/
theorem history_chained (s : S) (txs : List (B × Call E)) :
    Chained s (history c s txs).2 (history c s txs).1 ∧
      ∀ ch ∈ (history c s txs).2, ch.Fires c := by
  have h := @history_invariant B E S ε c (fun _ log t => Chained s log t ∧ ∀ ch ∈ log, ch.Fires c)
    (fun _ log b e t next hinv hentered => ⟨hinv.1.snoc rfl, fun ch hch => by
      rcases List.mem_append.mp hch with hch | hch
      · exact hinv.2 ch hch
      · cases List.mem_singleton.mp hch
        exact hentered⟩)
    (fun _ log b e t next hcalls hinv hleft => ⟨hinv.1.snoc rfl, fun ch hch => by
      rcases List.mem_append.mp hch with hch | hch
      · exact hinv.2 ch hch
      · cases List.mem_singleton.mp hch
        exact ⟨hcalls, hleft⟩⟩)
    txs [] s ⟨rfl, fun ch hch => absurd hch List.not_mem_nil⟩
  simpa only [List.nil_append] using h

/-- A history can be cut between any two transactions. -/
theorem history_append (s : S) (txs txs' : List (B × Call E)) :
    history c s (txs ++ txs') =
      ((history c (history c s txs).1 txs').1,
        (history c s txs).2 ++ (history c (history c s txs).1 txs').2) := by
  induction txs generalizing s with
  | nil => rfl
  | cons tx rest ih =>
      obtain ⟨b, call⟩ := tx
      simp only [List.cons_append, history, ih, List.append_assoc]

/-- Some transactions lead from one state to the other. -/
def Reaches (s t : S) : Prop := ∃ txs, (history c s txs).1 = t

variable {c}

theorem Reaches.refl (s : S) : Reaches c s s := ⟨[], rfl⟩

theorem Reaches.trans {s t u : S} (h : Reaches c s t) (h' : Reaches c t u) : Reaches c s u := by
  obtain ⟨txs, rfl⟩ := h
  obtain ⟨txs', rfl⟩ := h'
  exact ⟨txs ++ txs', by rw [history_append]⟩

theorem reaches_history (s : S) (txs : List (B × Call E)) : Reaches c s (history c s txs).1 := ⟨txs, rfl⟩

theorem reaches_transact (b : B) (call : Call E) (s : S) : Reaches c s (transact c b call s).1 := ⟨[(b, call)], rfl⟩

theorem reaches_exec {b : B} {call : Call E} {s : S} {result : S × List (Change B E S)}
    (h : exec c b call s = .ok result) : Reaches c s result.1 := by
  have htransact := @reaches_transact B E S ε c b call s
  rwa [transact, h] at htransact

variable (c)

/-- The entry point of a half. -/
def Half.entry : Half E → E
  | .enter e => e
  | .leave e => e

mutual

/-- The entry points in a call tree. -/
def Call.entries : Call E → List E
  | .entry e callee _ => e :: entriesAll callee
  | .code body _ => entriesAll body

def entriesAll : List (Call E) → List E
  | [] => []
  | call :: rest => call.entries ++ entriesAll rest

end

section Entries

variable {c}

mutual

/-- A call commits nothing but halves of its own entry points. -/
theorem exec_entries (b : B) (call : Call E) (s : S) (result : S × List (Change B E S))
    (hexec : exec c b call s = .ok result) : ∀ ch ∈ result.2, ch.half.entry ∈ call.entries := by
  match call with
  | .entry e callee ok =>
      rw [exec] at hexec
      rw [Call.entries]
      split at hexec
      · cases hexec
      · rename_i entered _
        split_ifs at hexec with hcalls hok
        · split at hexec
          · cases hexec
          · rename_i left _
            cases hexec
            intro ch hmem
            rcases List.mem_append.mp hmem with hmem | hmem
            · rcases List.mem_cons.mp hmem with rfl | hmem
              · exact List.mem_cons_self
              · exact List.mem_cons_of_mem _ (execAll_entries b callee entered ch hmem)
            · cases List.mem_singleton.mp hmem
              exact List.mem_cons_self
        · cases hexec
          intro ch hmem
          cases List.mem_singleton.mp hmem
          exact List.mem_cons_self
  | .code body ok =>
      rw [exec] at hexec
      split_ifs at hexec
      cases hexec
      exact execAll_entries b body s

theorem execAll_entries (b : B) (calls : List (Call E)) (s : S) :
    ∀ ch ∈ (execAll c b calls s).2, ch.half.entry ∈ entriesAll calls := by
  match calls with
  | [] => exact fun ch hmem => absurd hmem List.not_mem_nil
  | call :: rest =>
      intro ch hmem
      rw [execAll] at hmem
      rw [entriesAll]
      split at hmem
      · exact List.mem_append_right _ (execAll_entries b rest s ch hmem)
      · rename_i next inner hexec
        rcases List.mem_append.mp hmem with hmem | hmem
        · exact List.mem_append_left _ (exec_entries b call s (next, inner) hexec ch hmem)
        · exact List.mem_append_right _ (execAll_entries b rest next ch hmem)

end

/-- What every half of the entry points in a call preserves, the transaction preserves. -/
theorem transact_preserves {P : S → Prop} (b : B) (call : Call E) {s : S}
    (hstep : ∀ ch : Change B E S, ch.Fires c → ch.half.entry ∈ call.entries → P ch.before → P ch.after) (hs : P s) :
    P (transact c b call s).1 := by
  have hchained := history_chained c s [(b, call)]
  have hmem : ∀ ch ∈ (transact c b call s).2, ch.half.entry ∈ call.entries := by
    rw [transact]
    split
    · exact fun ch hmem => absurd hmem List.not_mem_nil
    · rename_i result hexec
      exact exec_entries b call s result hexec
  simp only [history, List.append_nil] at hchained
  obtain ⟨hlog, hfires⟩ := hchained
  exact hlog.preserves (fun ch hch => hstep ch (hfires ch hch) (hmem ch hch)) hs

end Entries

/-! ### Refinement

One contract as a part of another. An entry point that waits for nobody does what some call of the part
does, and the two halves of one that waits are the halves of an entry point of the part. -/

section Refinement

variable {E' S' ε' : Type} {c} {c' : Contract B E' S' ε'} {view : S → S'}
  {project : Change B E S → List (Change B E' S')}

variable (c c' view project) in
structure Refines : Prop where
  atomic : ∀ b e s next, c.callsOut e = false → c.enter b e s = .ok next →
    ∃ call, exec c' b call (view s) = .ok (view next, project ⟨b, s, .enter e, next⟩)
  waiting : ∀ b e, c.callsOut e = true → ∃ e', c'.callsOut e' = true ∧
    (∀ s next, c.enter b e s = .ok next → c'.enter b e' (view s) = .ok (view next) ∧
      project ⟨b, s, .enter e, next⟩ = [⟨b, view s, .enter e', view next⟩]) ∧
    ∀ s next, c.leave b e s = .ok next → c'.leave b e' (view s) = .ok (view next) ∧
      project ⟨b, s, .leave e, next⟩ = [⟨b, view s, .leave e', view next⟩]

mutual

theorem exec_refines (h : Refines c c' view project) (b : B) (call : Call E) (s : S)
    (result : S × List (Change B E S)) (hexec : exec c b call s = .ok result) :
    ∃ call', exec c' b call' (view s) = .ok (view result.1, result.2.flatMap project) := by
  match call with
  | .entry e callee ok =>
      rw [exec] at hexec
      split at hexec
      · cases hexec
      · rename_i entered hentered
        split_ifs at hexec with hcalls hok
        · obtain ⟨e', hcalls', henter, hleave⟩ := h.waiting b e hcalls
          obtain ⟨hentered', hfirst⟩ := henter s entered hentered
          obtain ⟨callee', hcallee⟩ := execAll_refines h b callee entered
          split at hexec
          · cases hexec
          · rename_i left hleft
            obtain ⟨hleft', hlast⟩ := hleave _ left hleft
            cases hexec
            refine ⟨.entry e' callee' true, ?_⟩
            simp only [exec, hentered', hcalls', if_true, hcallee, hleft', List.flatMap_cons, List.flatMap_append,
              List.flatMap_nil, List.append_nil, hfirst, hlast, List.cons_append, List.nil_append]
        · cases hexec
          rw [List.flatMap_cons, List.flatMap_nil, List.append_nil]
          exact h.atomic b e s entered (eq_false_of_ne_true hcalls) hentered
  | .code body ok =>
      rw [exec] at hexec
      split_ifs at hexec with hok
      obtain ⟨body', hbody⟩ := execAll_refines h b body s
      cases hexec
      exact ⟨.code body' true, by rw [exec, if_pos rfl, hbody]⟩

/-- A call that reverts is left out on the other side. -/
theorem execAll_refines (h : Refines c c' view project) (b : B) (calls : List (Call E)) (s : S) :
    ∃ calls', execAll c' b calls' (view s) =
      (view (execAll c b calls s).1, (execAll c b calls s).2.flatMap project) := by
  match calls with
  | [] => exact ⟨[], by simp only [execAll, List.flatMap_nil]⟩
  | call :: rest =>
      rw [execAll]
      split
      · exact execAll_refines h b rest s
      · rename_i next log hexec
        obtain ⟨call', hcall⟩ := exec_refines h b call s (next, log) hexec
        obtain ⟨rest', hrest⟩ := execAll_refines h b rest next
        exact ⟨call' :: rest', by simp only [execAll, hcall, hrest, List.flatMap_append]⟩

end

/-- Every history of the whole is, to the part, a history of its own. -/
theorem history_refines (h : Refines c c' view project) (txs : List (B × Call E)) (s : S) :
    ∃ txs', history c' (view s) txs' =
      (view (history c s txs).1, (history c s txs).2.flatMap project) := by
  induction txs generalizing s with
  | nil => exact ⟨[], rfl⟩
  | cons tx rest ih =>
      obtain ⟨b, call⟩ := tx
      obtain ⟨rest', hrest⟩ := ih (transact c b call s).1
      cases hexec : exec c b call s with
      | error err =>
          have hundone : transact c b call s = (s, []) := by rw [transact, hexec]
          rw [hundone] at hrest
          exact ⟨rest', by rw [history, hundone, hrest, List.nil_append]⟩
      | ok result =>
          have hdone : transact c b call s = result := by rw [transact, hexec]
          obtain ⟨call', hcall⟩ := exec_refines h b call s result hexec
          rw [hdone] at hrest
          have hdone' : transact c' b call' (view s) = (view result.1, result.2.flatMap project) := by
            rw [transact, hcall]
          exact ⟨(b, call') :: rest', by simp only [history, hdone, hdone', hrest, List.flatMap_append]⟩

end Refinement

end Reentrant
