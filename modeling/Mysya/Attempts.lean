import Mathlib.Tactic.Common

/-!
# Computations that may fail

`Ends G B x` is what is known of a computation that returns a value or fails
with an error: the value is in `G`, the error in `B`. The rules follow `bind` and
a loop over a list, whose invariant sees the elements still to come.
-/

namespace Attempts

variable {ε α β σ : Type}

def Ends (G : α → Prop) (B : ε → Prop) : Except ε α → Prop
  | .ok a => G a
  | .error e => B e

theorem Ends.mono {G G' : α → Prop} {B B' : ε → Prop} {x : Except ε α}
    (h : Ends G B x) (hG : ∀ a, G a → G' a) (hB : ∀ e, B e → B' e) :
    Ends G' B' x := by
  cases x with
  | ok a => exact hG a h
  | error e => exact hB e h

theorem Ends.and {G G' : α → Prop} {B B' : ε → Prop} {x : Except ε α}
    (h : Ends G B x) (h' : Ends G' B' x) :
    Ends (fun a => G a ∧ G' a) (fun e => B e ∧ B' e) x := by
  cases x with
  | ok a => exact ⟨h, h'⟩
  | error e => exact ⟨h, h'⟩

theorem Ends.bind {G : α → Prop} {G' : β → Prop} {B : ε → Prop} {x : Except ε α}
    {f : α → Except ε β} (h : Ends G B x) (hf : ∀ a, G a → Ends G' B (f a)) :
    Ends G' B (x >>= f) := by
  cases x with
  | ok a => exact hf a h
  | error e => exact h

/-- A loop that gives up at the first failure. -/
theorem ends_foldlM {I : List α → σ → Prop} {B : ε → Prop} {f : σ → α → Except ε σ}
    (step : ∀ a l s, I (a :: l) s → Ends (I l) B (f s a)) (l : List α) {s : σ} (h : I l s) :
    Ends (I []) B (l.foldlM f s) := by
  induction l generalizing s with
  | nil => exact h
  | cons a l ih =>
    rw [List.foldlM_cons]
    refine Ends.bind (step a l s h) fun s' hs' => ?_
    exact ih hs'

/-- A loop goes where all its rounds go. -/
theorem foldl_chain {r : σ → σ → Prop} (refl : ∀ s, r s s)
    (trans : ∀ {s t u}, r s t → r t u → r s u) {f : σ → α → σ} (hf : ∀ s a, r s (f s a))
    (l : List α) (s : σ) : r s (l.foldl f s) := by
  induction l generalizing s with
  | nil => exact refl s
  | cons a l ih => exact trans (hf s a) (ih (f s a))

theorem Ends.ok {G : α → Prop} {B : ε → Prop} {x : Except ε α} {a : α}
    (h : Ends G B x) (hx : x = .ok a) : G a := by
  subst hx
  exact h

theorem Ends.error {G : α → Prop} {B : ε → Prop} {x : Except ε α} {e : ε}
    (h : Ends G B x) (hx : x = .error e) : B e := by
  subst hx
  exact h

end Attempts
