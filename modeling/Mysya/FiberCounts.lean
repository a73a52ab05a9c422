import Mathlib.Data.Set.Card

/-!
# Fibers of a partial function

How many points a partial function with finite support sends to a key, and what an update at one
point does to that.
-/

namespace FiberCounts

variable {α κ : Type}

/-- The number of points that `f` sends to `k`. -/
noncomputable def hits (f : α → Option κ) (k : κ) : Int := ({x | f x = some k} : Set α).ncard

def Small (f : α → Option κ) : Prop := {x | (f x).isSome}.Finite

theorem Small.fiber {f : α → Option κ} (h : Small f) (k : κ) : {x | f x = some k}.Finite := by
  refine h.subset fun x hx => ?_
  have hx : f x = some k := hx
  simp [hx]

theorem Small.hits_eq_zero {f : α → Option κ} (h : Small f) (k : κ) :
    hits f k = 0 ↔ ∀ x, f x ≠ some k := by
  rw [hits, Int.natCast_eq_zero, Set.ncard_eq_zero (h.fiber k), Set.eq_empty_iff_forall_notMem]
  rfl

theorem Small.congr {f g : α → Option κ} (h : Small f) (heq : ∀ x, f x = g x) : Small g :=
  funext heq ▸ h

variable [DecidableEq α]

theorem Small.update {f : α → Option κ} (h : Small f) (x : α) (u : Option κ) :
    Small (Function.update f x u) := by
  refine (h.insert x).subset fun y hy => ?_
  by_cases hyx : y = x
  · exact Or.inl hyx
  · refine Or.inr ?_
    have hy : (Function.update f x u y).isSome := hy
    rw [Function.update_of_ne hyx] at hy
    exact hy

/-- One point is sent elsewhere. -/
theorem Small.hits_update [DecidableEq κ] {f : α → Option κ} (h : Small f) (x : α) (u : Option κ)
    (k : κ) :
    hits (Function.update f x u) k =
      hits f k + (if u = some k then 1 else 0) - if f x = some k then 1 else 0 := by
  have hrest : ({y | f y = some k} \ {x} : Set α).ncard + (if f x = some k then 1 else 0) =
      ({y | f y = some k} : Set α).ncard := by
    split
    · rename_i hx
      exact Set.ncard_sdiff_singleton_add_one hx (h.fiber k)
    · rename_i hx
      have hout : x ∉ ({y | f y = some k} : Set α) := hx
      rw [Set.sdiff_singleton_eq_self hout, Nat.add_zero]
  have hnew : ({y | Function.update f x u y = some k} : Set α).ncard =
      ({y | f y = some k} \ {x} : Set α).ncard + if u = some k then 1 else 0 := by
    split
    · rename_i hu
      have heq : {y | Function.update f x u y = some k} = insert x ({y | f y = some k} \ {x}) := by
        ext y
        by_cases hyx : y = x
        · simp [hyx, hu]
        · simp [hyx]
      rw [heq, Set.ncard_insert_of_notMem (by simp) ((h.fiber k).subset Set.sdiff_subset)]
    · rename_i hu
      have heq : {y | Function.update f x u y = some k} = {y | f y = some k} \ {x} := by
        ext y
        by_cases hyx : y = x
        · simp [hyx, hu]
        · simp [hyx]
      rw [heq, Nat.add_zero]
  rw [hits, hits, hnew, ← hrest]
  split
  · split
    · omega
    · omega
  · split
    · omega
    · omega

theorem Small.hits_change [DecidableEq κ] {f : α → Option κ} (h : Small f) (x : α)
    (u v : Option κ) (k : κ) :
    hits (Function.update f x v) k = hits (Function.update f x u) k +
      ((if v = some k then 1 else 0) - if u = some k then 1 else 0) := by
  rw [h.hits_update, h.hits_update]
  omega

end FiberCounts
