import Mathlib.Tactic.Common

/-!
# Loops that stop early

A loop over an ordered list that ends at the first element it cannot serve has reached the
elements up to which there is none.
-/

namespace StoppedLoops

variable {α : Type} [LE α] [LT α] [Std.LawfulOrderLT α] {p : α → Prop} {front rest : List α}
  {x y : α}

/-- No element up to `x` stops the loop. -/
def Reached (l : List α) (p : α → Prop) (x : α) : Prop := ∀ y ∈ l, y ≤ x → p y

theorem reached_front (hsorted : (front ++ rest).Pairwise (· < ·)) (hfront : ∀ y ∈ front, p y)
    (hx : x ∈ front) : Reached (front ++ rest) p x := by
  intro y hy hle
  rcases List.mem_append.mp hy with hy | hy
  · exact hfront y hy
  · have hlt := (List.pairwise_append.mp hsorted).2.2 x hx y hy
    exact absurd hle (Std.LawfulOrderLT.lt_iff x y |>.mp hlt).2

variable [Std.Refl fun x y : α => x ≤ y]

theorem not_reached_rest (hsorted : (front ++ y :: rest).Pairwise (· < ·)) (hy : ¬ p y)
    (hx : x ∈ y :: rest) : ¬ Reached (front ++ y :: rest) p x := by
  intro hreached
  refine hy (hreached y (List.mem_append_right _ (List.mem_cons_self ..)) ?_)
  rcases List.mem_cons.mp hx with rfl | hx
  · exact Std.Refl.refl x
  · have hback := (List.pairwise_append.mp hsorted).2.1
    exact (Std.LawfulOrderLT.lt_iff y x |>.mp ((List.pairwise_cons.mp hback).1 x hx)).1

theorem mem_takeWhile [DecidablePred p] {l : List α} (hsorted : l.Pairwise (· < ·)) (hx : x ∈ l) :
    x ∈ l.takeWhile (fun y => decide (p y)) ↔ Reached l p x := by
  have hsplit : l.takeWhile (fun y => decide (p y)) ++ l.dropWhile (fun y => decide (p y)) = l :=
    List.takeWhile_append_dropWhile
  constructor
  · intro hin
    rw [← hsplit]
    refine reached_front (hsplit.symm ▸ hsorted) (fun y hy => ?_) hin
    exact of_decide_eq_true (List.all_eq_true.mp List.all_takeWhile y hy)
  · intro hreached
    by_contra hout
    have hin : x ∈ l.dropWhile fun y => decide (p y) := by
      rw [← hsplit] at hx
      exact (List.mem_append.mp hx).resolve_left hout
    cases hdrop : l.dropWhile fun y => decide (p y) with
    | nil =>
      rw [hdrop] at hin
      cases hin
    | cons y rest =>
      have hstop : ¬ p y := by
        have hhead := List.head?_dropWhile_not (fun y => decide (p y)) l
        rw [hdrop] at hhead
        simpa using hhead
      rw [hdrop] at hsplit hin
      refine not_reached_rest (hsplit.symm ▸ hsorted) hstop hin ?_
      rw [hsplit]
      exact hreached

end StoppedLoops
