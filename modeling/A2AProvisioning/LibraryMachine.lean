import Mathlib.Data.List.Basic

/-! Deterministic machines driven by the actions of an environment: finite runs, guards on the
steps of a run, and the rule that carries an invariant along a run. An action that is not enabled
stops the run, so a run is a list of actions each of which was possible when its turn came. -/

namespace Machine

variable {σ α : Type} (step : σ → α → Option σ)

/-- The state reached by a list of actions, if every one of them is enabled in turn. -/
def run : σ → List α → Option σ
  | s, [] => some s
  | s, a :: as => (step s a).bind fun next => run next as

/-- Every action of the run meets the guard in the state it is taken from. -/
def Guarded (guard : σ → α → Prop) : σ → List α → Prop
  | _, [] => True
  | s, a :: as => guard s a ∧ ∀ next, step s a = some next → Guarded guard next as

@[simp] theorem run_nil (s : σ) : run step s [] = some s := rfl

theorem run_cons_eq_some {s t : σ} {a : α} {as : List α} :
    run step s (a :: as) = some t ↔ ∃ next, step s a = some next ∧ run step next as = some t := by
  simp [run, Option.bind_eq_some_iff]

theorem run_append (s : σ) (as bs : List α) :
    run step s (as ++ bs) = (run step s as).bind fun next => run step next bs := by
  induction as generalizing s with
  | nil => rfl
  | cons a as ih =>
      cases hstep : step s a with
      | none => simp [run, hstep]
      | some next => simp [run, hstep, ih]

theorem run_append_eq_some {s t : σ} {as bs : List α} :
    run step s (as ++ bs) = some t ↔ ∃ mid, run step s as = some mid ∧ run step mid bs = some t := by
  rw [run_append, Option.bind_eq_some_iff]

variable {step}

theorem Guarded.cons {guard : σ → α → Prop} {s next : σ} {a : α} {as : List α} (ha : guard s a)
    (hstep : step s a = some next) (hrest : Guarded step guard next as) : Guarded step guard s (a :: as) := by
  refine ⟨ha, fun next' hnext => ?_⟩
  cases hstep.symm.trans hnext
  exact hrest

/-- What every guarded step preserves holds at the end of every guarded run. -/
theorem run_invariant {guard : σ → α → Prop} {inv : σ → Prop}
    (hstep : ∀ s a next, inv s → guard s a → step s a = some next → inv next)
    {s t : σ} {as : List α} (hinv : inv s) (hguard : Guarded step guard s as)
    (hrun : run step s as = some t) : inv t := by
  induction as generalizing s with
  | nil =>
      rw [run_nil] at hrun
      exact Option.some.inj hrun ▸ hinv
  | cons a as ih =>
      obtain ⟨next, hnext, hrest⟩ := (run_cons_eq_some step).mp hrun
      exact ih (hstep s a next hinv hguard.1 hnext) (hguard.2 next hnext) hrest

/-- A machine that records more has the same runs, and a guard that implies the other on its enabled steps
implies it along them. -/
theorem Guarded.map {τ : Type} {stepOf : τ → α → Option τ} {guard : σ → α → Prop} {guardOf : τ → α → Prop}
    (view : τ → σ) (inv : τ → Prop)
    (hview : ∀ t a, step (view t) a = (stepOf t a).map view)
    (hguard : ∀ t a next, inv t → guardOf t a → stepOf t a = some next → guard (view t) a)
    (hstep : ∀ t a next, inv t → guardOf t a → stepOf t a = some next → inv next)
    {t : τ} {s : σ} {as : List α} (hinv : inv t) (h : Guarded stepOf guardOf t as)
    (hrun : run step (view t) as = some s) : Guarded step guard (view t) as := by
  induction as generalizing t with
  | nil => trivial
  | cons a as ih =>
      obtain ⟨next, hnext, hrest⟩ := (run_cons_eq_some step).mp hrun
      rw [hview, Option.map_eq_some_iff] at hnext
      obtain ⟨t', ht', rfl⟩ := hnext
      refine .cons (hguard t a t' hinv h.1 ht') (by rw [hview, ht', Option.map_some]) ?_
      exact ih (hstep t a t' hinv h.1 ht') (h.2 t' ht') hrest

theorem guarded_true (s : σ) (as : List α) : Guarded step (fun _ _ => True) s as := by
  induction as generalizing s with
  | nil => trivial
  | cons a as ih => exact ⟨trivial, fun next _ => ih next⟩

/-- The same where the guard speaks of the actions alone. -/
theorem run_invariant_of_mem {inv : σ → Prop} {as : List α}
    (hstep : ∀ s, ∀ a ∈ as, ∀ next, inv s → step s a = some next → inv next)
    {s t : σ} (hinv : inv s) (hrun : run step s as = some t) : inv t := by
  induction as generalizing s with
  | nil =>
      rw [run_nil] at hrun
      exact Option.some.inj hrun ▸ hinv
  | cons a as ih =>
      obtain ⟨next, hnext, hrest⟩ := (run_cons_eq_some step).mp hrun
      exact ih (fun s a hmem => hstep s a (List.mem_cons_of_mem _ hmem)) (hstep s a List.mem_cons_self next hinv hnext)
        hrest

/-- The unguarded form of `run_invariant`. -/
theorem run_invariant_of_step {inv : σ → Prop}
    (hstep : ∀ s a next, inv s → step s a = some next → inv next)
    {s t : σ} {as : List α} (hinv : inv s) (hrun : run step s as = some t) : inv t :=
  run_invariant (fun s a next h _ => hstep s a next h) hinv (guarded_true s as) hrun

end Machine
