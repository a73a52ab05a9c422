import Mathlib.Logic.Function.Basic

/-!
# Tables

A map of a program is a function into `Option`, and writing to it is
`Function.update`. An entry of the written table is the one that was written or
an old one under another key; what holds of all entries, tells the keys of two
entries apart, or links the entries of one table to those of another, is kept on
these grounds.
-/

namespace Mysya.Table

variable {κ α β : Type*} [DecidableEq κ] {table : κ → Option α} {k k' : κ} {a b : α}

/-- What is left after `k` was erased was there before, under another key. -/
theorem erase_some (h : Function.update table k none k' = some a) :
    k' ≠ k ∧ table k' = some a := by
  by_cases hk : k' = k
  · simp [hk] at h
  · exact ⟨hk, by simpa [hk] using h⟩

theorem erase_none (h : table k' = none) (k : κ) : Function.update table k none k' = none := by
  by_cases hk : k' = k
  · simp [hk]
  · simpa [hk] using h

/-- What is there after `k` was written is the new entry, or an old one under another key. -/
theorem insert_some (h : Function.update table k (some b) k' = some a) :
    (k' = k ∧ a = b) ∨ (k' ≠ k ∧ table k' = some a) := by
  by_cases hk : k' = k
  · exact Or.inl ⟨hk, by simpa [hk] using h.symm⟩
  · exact Or.inr ⟨hk, by simpa [hk] using h⟩

theorem insert_isSome (h : (table k').isSome) (k : κ) (b : α) :
    (Function.update table k (some b) k').isSome := by
  by_cases hk : k' = k
  · simp [hk]
  · simpa [hk] using h

/-- An entry stays when one that differs from it is overwritten. -/
theorem insert_kept (h : table k' = some a) (hk : table k ≠ some a) (b : α) :
    Function.update table k (some b) k' = some a := by
  have hne : k' ≠ k := by
    rintro rfl
    exact hk h
  exact (Function.update_of_ne hne _ _).trans h

/-- What all entries satisfy, the others do after one was erased. -/
theorem erase_all {P : κ → α → Prop} (h : ∀ k a, table k = some a → P k a) (k : κ) (k' : κ)
    (a : α) (ha : Function.update table k none k' = some a) : P k' a :=
  h k' a (erase_some ha).2

/-- What all entries satisfy, they do after one was written that satisfies it. -/
theorem insert_all {P : κ → α → Prop} (h : ∀ k a, table k = some a → P k a) (hb : P k b)
    (k' : κ) (a : α) (ha : Function.update table k (some b) k' = some a) : P k' a := by
  rcases insert_some ha with ⟨rfl, rfl⟩ | ⟨_, hold⟩
  · exact hb
  · exact h k' a hold

/-- An entry that takes the place of one with the same field leaves the fields as they were. -/
theorem replace_some {field : α → β} {old : α} (hk : table k = some old)
    (hfield : field old = field b) (h : Function.update table k (some b) k' = some a) :
    ∃ before, table k' = some before ∧ field before = field a := by
  rcases insert_some h with ⟨rfl, rfl⟩ | ⟨_, hold⟩
  · exact ⟨old, hk, hfield⟩
  · exact ⟨a, hold, rfl⟩

/-- A field that tells the entries apart does so after one was written that shares it with no
other. -/
theorem insert_distinct {field : α → β}
    (h : ∀ k k' a b, table k = some a → table k' = some b → field a = field b → k = k')
    (alone : ∀ k' a, table k' = some a → field a = field b → k' = k) (k₁ k₂ : κ) (a₁ a₂ : α)
    (h₁ : Function.update table k (some b) k₁ = some a₁)
    (h₂ : Function.update table k (some b) k₂ = some a₂) (same : field a₁ = field a₂) :
    k₁ = k₂ := by
  rcases insert_some h₁ with ⟨rfl, rfl⟩ | ⟨_, hold₁⟩
  · rcases insert_some h₂ with ⟨rfl, _⟩ | ⟨_, hold₂⟩
    · rfl
    · exact (alone k₂ a₂ hold₂ same.symm).symm
  · rcases insert_some h₂ with ⟨rfl, rfl⟩ | ⟨_, hold₂⟩
    · exact alone k₁ a₁ hold₁ same
    · exact h k₁ k₂ a₁ a₂ hold₁ hold₂ same

section Linked

variable {other : κ → Option β} {R : β → α → Prop}
  (linked : ∀ k a, table k = some a → ∃ b, other k = some b ∧ R b a)

include linked

theorem linked_erase (k k' : κ) (a : α) (ha : Function.update table k none k' = some a) :
    ∃ b, Function.update other k none k' = some b ∧ R b a := by
  obtain ⟨hk, hold⟩ := erase_some ha
  obtain ⟨b, hb, hR⟩ := linked k' a hold
  exact ⟨b, (Function.update_of_ne hk _ _).trans hb, hR⟩

theorem linked_insert {new : α} {target : β} (hR : R target new) (k' : κ) (a : α)
    (ha : Function.update table k (some new) k' = some a) :
    ∃ b, Function.update other k (some target) k' = some b ∧ R b a := by
  rcases insert_some ha with ⟨rfl, rfl⟩ | ⟨hk, hold⟩
  · exact ⟨target, Function.update_self _ _ _, hR⟩
  · obtain ⟨b, hb, hR'⟩ := linked k' a hold
    exact ⟨b, (Function.update_of_ne hk _ _).trans hb, hR'⟩

/-- The links to an entry that is replaced are those to the one in its place. -/
theorem linked_replace {old target : β} (hk : other k = some old)
    (hR : ∀ a, R old a → R target a) (k' : κ) (a : α) (ha : table k' = some a) :
    ∃ b, Function.update other k (some target) k' = some b ∧ R b a := by
  obtain ⟨b, hb, hR'⟩ := linked k' a ha
  by_cases hsame : k' = k
  · subst hsame
    obtain rfl := Option.some.inj (hk.symm.trans hb)
    exact ⟨target, Function.update_self _ _ _, hR a hR'⟩
  · exact ⟨b, (Function.update_of_ne hsame _ _).trans hb, hR'⟩

/-- An entry put where there was none is linked to by nothing. -/
theorem linked_fresh (hk : other k = none) (target : β) (k' : κ) (a : α) (ha : table k' = some a) :
    ∃ b, Function.update other k (some target) k' = some b ∧ R b a := by
  obtain ⟨b, hb, hR⟩ := linked k' a ha
  have hne : k' ≠ k := by
    rintro rfl
    simp [hk] at hb
  exact ⟨b, (Function.update_of_ne hne _ _).trans hb, hR⟩

end Linked

end Mysya.Table
