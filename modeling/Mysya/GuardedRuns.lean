import Mathlib.Tactic.Common

/-!
# Guarded runs of a partial machine

A machine is a partial step function. `Reaches step guard start` are the
states it reaches from `start` when every step taken meets `guard`; the two
rules are induction along a run and the run of an explicit list of actions.
-/

namespace GuardedRuns

variable {σ α : Type*} {step : σ → α → Option σ} {guard guard' : σ → α → Prop}

inductive Reaches (step : σ → α → Option σ) (guard : σ → α → Prop) (start : σ) : σ → Prop where
  | refl : Reaches step guard start start
  | snoc {s s' : σ} (a : α) : Reaches step guard start s → guard s a → step s a = some s' →
      Reaches step guard start s'

/-- What holds at the start and is preserved by guarded steps holds throughout. -/
theorem Reaches.invariant {start s : σ} {I : σ → Prop} (h : Reaches step guard start s)
    (initial : I start)
    (preserved : ∀ s a s', I s → guard s a → step s a = some s' → I s') : I s := by
  induction h with
  | refl => exact initial
  | snoc a _ hguard hstep ih => exact preserved _ a _ ih hguard hstep

theorem Reaches.mono {start s : σ} (h : Reaches step guard start s)
    (weaker : ∀ s a, guard s a → guard' s a) : Reaches step guard' start s := by
  induction h with
  | refl => exact .refl
  | snoc a _ hguard hstep ih => exact .snoc a ih (weaker _ a hguard) hstep

def run (step : σ → α → Option σ) : List α → σ → Option σ
  | [], s => some s
  | a :: as, s => (step s a).bind (run step as)

theorem run_append (l l' : List α) (s : σ) :
    run step (l ++ l') s = (run step l s).bind (run step l') := by
  induction l generalizing s with
  | nil => rfl
  | cons a l ih =>
    cases hstep : step s a with
    | none => simp [run, hstep]
    | some s' => simp [run, hstep, ih]

/-- Every step of the run of a list of actions meets the guard. -/
def Guarded (step : σ → α → Option σ) (guard : σ → α → Prop) : List α → σ → Prop
  | [], _ => True
  | a :: as, s => guard s a ∧ ∀ s', step s a = some s' → Guarded step guard as s'

instance Guarded.decidable [∀ s a, Decidable (guard s a)] :
    ∀ (acts : List α) (s : σ), Decidable (Guarded step guard acts s)
  | [], _ => .isTrue trivial
  | a :: acts, s =>
    match h : step s a with
    | none => decidable_of_iff (guard s a) (by simp [Guarded, h])
    | some s' =>
      have := Guarded.decidable acts s'
      decidable_of_iff (guard s a ∧ Guarded step guard acts s') (by simp [Guarded, h])

/-- Guards that agree on the actions of a run wherever `I` holds, which the guarded ones of them
preserve. -/
theorem guarded_iff {I : σ → Prop} {l : List α}
    (agree : ∀ a ∈ l, ∀ s, I s → (guard s a ↔ guard' s a))
    (preserved : ∀ a ∈ l, ∀ s s', I s → guard' s a → step s a = some s' → I s') {s : σ}
    (h : I s) : Guarded step guard l s ↔ Guarded step guard' l s := by
  induction l generalizing s with
  | nil => exact Iff.rfl
  | cons a l ih =>
    have hfirst := agree a (List.mem_cons_self ..) s h
    have hrest : ∀ s', guard' s a → step s a = some s' →
        (Guarded step guard l s' ↔ Guarded step guard' l s') := fun s' hguard hs' =>
      ih (fun b hin => agree b (List.mem_cons_of_mem _ hin))
        (fun b hin => preserved b (List.mem_cons_of_mem _ hin))
        (preserved a (List.mem_cons_self ..) s s' h hguard hs')
    constructor
    · rintro ⟨hguard, hafter⟩
      have hguard' := hfirst.mp hguard
      exact ⟨hguard', fun s' hs' => (hrest s' hguard' hs').mp (hafter s' hs')⟩
    · rintro ⟨hguard', hafter⟩
      exact ⟨hfirst.mpr hguard', fun s' hs' => (hrest s' hguard' hs').mpr (hafter s' hs')⟩

theorem Reaches.run {start s s' : σ} {l : List α} (h : Reaches step guard start s)
    (guarded : Guarded step guard l s) (hrun : run step l s = some s') :
    Reaches step guard start s' := by
  induction l generalizing s with
  | nil => cases hrun; exact h
  | cons a l ih =>
    obtain ⟨m, hm, hrun⟩ := Option.bind_eq_some_iff.mp hrun
    exact ih (h.snoc a guarded.1 hm) (guarded.2 m hm) hrun

theorem reaches_of_run {start s : σ} {l : List α} (hrun : run step l start = some s) :
    Reaches step (fun _ _ => True) start s := by
  refine Reaches.refl.run ?_ hrun
  clear hrun
  induction l generalizing start with
  | nil => trivial
  | cons a l ih => exact ⟨trivial, fun _ _ => ih⟩

end GuardedRuns
