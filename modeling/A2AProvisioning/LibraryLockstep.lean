import Mathlib.Data.List.Forall2

/-! Machines whose steps always answer: what holds of the answers so far and the state, along a run of one machine, and
two machines driven by the same events, whose answers and states are related step by step, from a relation that one step
keeps. -/

namespace Lockstep

variable {E O O' S S' : Type}

/-- The answers to a list of events, each with the state that it left behind. -/
def trace (step : E → S → O × S) : S → List E → List (O × S)
  | _, [] => []
  | s, e :: events => step e s :: trace step (step e s).2 events

/-- The number in the invariant is that of the events still to come. -/
theorem trace_simulates {step : E → S → O × S} {step' : E → S' → O' × S'} (inv : Nat → S → S' → Prop)
    {same : O × S → O' × S' → Prop} {events : List E}
    (hstep : ∀ e ∈ events, ∀ n s s', inv (n + 1) s s' →
      same (step e s) (step' e s') ∧ inv n (step e s).2 (step' e s').2)
    {s : S} {s' : S'} (hinv : inv events.length s s') :
    List.Forall₂ same (trace step s events) (trace step' s' events) := by
  induction events generalizing s s' with
  | nil => exact List.Forall₂.nil
  | cons e events ih =>
      obtain ⟨hsame, hnext⟩ := hstep e List.mem_cons_self events.length s s' hinv
      apply List.Forall₂.cons hsame
      exact ih (fun e' hmem => hstep e' (List.mem_cons_of_mem e hmem)) hnext

/-- The answers to a list of events, and the state that they leave behind. -/
def run (step : E → S → O × S) : S → List E → List O × S
  | s, [] => ([], s)
  | s, e :: events => ((step e s).1 :: (run step (step e s).2 events).1, (run step (step e s).2 events).2)

theorem run_snoc (step : E → S → O × S) (s : S) (events : List E) (e : E) :
    (run step s (events ++ [e])).2 = (step e (run step s events).2).2 := by
  induction events generalizing s with
  | nil => rfl
  | cons e' events ih => exact ih _

/-- What a step keeps of the answers so far and the state holds after a run. -/
theorem run_keeps {step : E → S → O × S} {inv : List O → S → Prop} {events : List E}
    (hstep : ∀ e ∈ events, ∀ answers s, inv answers s → inv (answers ++ [(step e s).1]) (step e s).2)
    {answers : List O} {s : S} (hinv : inv answers s) :
    inv (answers ++ (run step s events).1) (run step s events).2 := by
  induction events generalizing answers s with
  | nil =>
      rw [run, List.append_nil]
      exact hinv
  | cons e events ih =>
      have hnext := hstep e List.mem_cons_self answers s hinv
      have hrest := ih (fun e' hmem => hstep e' (List.mem_cons_of_mem e hmem)) hnext
      rw [List.append_assoc] at hrest
      exact hrest

end Lockstep
