import Mathlib.Tactic.Common

/-!
# Fair runs

A rule for what must happen along an infinite run, given as its sequences of
states and actions. An action that is fair for a goal is taken again and again
as long as the goal is not reached; if each time it is taken a rank goes down
that no other action changes, the goal is reached.
-/

namespace FairRuns

variable {σ α W : Type*} (state : Nat → σ) (action : Nat → α)

/-- What each step preserves holds from some time on. -/
theorem stays (P : σ → Prop) (keep : ∀ n, P (state n) → P (state (n + 1))) {n m : Nat}
    (hnm : n ≤ m) (hn : P (state n)) : P (state m) := by
  induction hnm with
  | refl => exact hn
  | step _ ih => exact keep _ ih

/-- From a state with `P`, one of the actions is taken in time, or `Q` holds. -/
def FairFor (own : α → Prop) (P Q : σ → Prop) : Prop :=
  ∀ n, P (state n) → ∃ m, n ≤ m ∧ (own (action m) ∨ Q (state m))

theorem lower_or_reached {r : W → W → Prop} (rank : σ → W) (P Q : σ → Prop) (own : α → Prop)
    (keep : ∀ n, P (state n) → P (state (n + 1)))
    (lower : ∀ n, P (state n) → ¬Q (state n) → own (action n) →
      r (rank (state (n + 1))) (rank (state n)))
    (level : ∀ n, P (state n) → ¬Q (state n) → ¬own (action n) →
      rank (state (n + 1)) = rank (state n))
    (d n : Nat) (hn : P (state n)) (howner : own (action (n + d)) ∨ Q (state (n + d))) :
    (∃ m, n ≤ m ∧ Q (state m)) ∨
      ∃ m, n ≤ m ∧ P (state m) ∧ r (rank (state m)) (rank (state n)) := by
  induction d generalizing n with
  | zero =>
    by_cases hq : Q (state n)
    · exact Or.inl ⟨n, Nat.le_refl n, hq⟩
    · rcases howner with hown | hgoal
      · exact Or.inr ⟨n + 1, Nat.le_succ n, keep n hn, lower n hn hq hown⟩
      · exact absurd hgoal hq
  | succ d ih =>
    by_cases hq : Q (state n)
    · exact Or.inl ⟨n, Nat.le_refl n, hq⟩
    by_cases hown : own (action n)
    · exact Or.inr ⟨n + 1, Nat.le_succ n, keep n hn, lower n hn hq hown⟩
    · have hlater : n + (d + 1) = n + 1 + d := by omega
      rw [hlater] at howner
      rcases ih (n + 1) (keep n hn) howner with ⟨m, hm, hgoal⟩ | ⟨m, hm, hp, hr⟩
      · exact Or.inl ⟨m, by omega, hgoal⟩
      · rw [level n hn hq hown] at hr
        exact Or.inr ⟨m, by omega, hp, hr⟩

/-- The rank cannot go down for ever. -/
theorem eventually {r : W → W → Prop} (wf : WellFounded r) (rank : σ → W) (P Q : σ → Prop)
    (own : α → Prop) (fair : FairFor state action own P Q)
    (keep : ∀ n, P (state n) → P (state (n + 1)))
    (lower : ∀ n, P (state n) → ¬Q (state n) → own (action n) →
      r (rank (state (n + 1))) (rank (state n)))
    (level : ∀ n, P (state n) → ¬Q (state n) → ¬own (action n) →
      rank (state (n + 1)) = rank (state n))
    (n : Nat) (hn : P (state n)) : ∃ m, n ≤ m ∧ Q (state m) := by
  obtain ⟨w, hw⟩ : ∃ w, rank (state n) = w := ⟨_, rfl⟩
  induction w using wf.induction generalizing n with
  | _ w ih =>
    obtain ⟨m, hm, howner⟩ := fair n hn
    obtain ⟨d, rfl⟩ := Nat.exists_eq_add_of_le hm
    rcases lower_or_reached state action rank P Q own keep lower level d n hn
      howner with hgoal | ⟨k, hk, hp, hr⟩
    · exact hgoal
    · rw [hw] at hr
      obtain ⟨m, hkm, hgoal⟩ := ih _ hr k hp rfl
      exact ⟨m, Nat.le_trans hk hkm, hgoal⟩

end FairRuns
