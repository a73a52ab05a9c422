import Mathlib.Logic.Function.Basic
import Mathlib.Logic.ExistsUnique

/-!
# Objects in cells

A registry names objects, each name has a cell, and the cells hold objects. The cells are an index
of the registry when each registered object is in the cell of its name and in no other, and nothing
else is in a cell. Adding, removing and moving an object keep it that way.
-/

namespace SpatialIndex

variable {κ ι ο : Type*}

structure Charted (registry : κ → Option ο) (cell : κ → Option ι) (holds : ι → ο → Prop) : Prop where
  placed : ∀ k x, registry k = some x → (cell k).isSome
  once : ∀ k k' x, registry k = some x → registry k' = some x → k = k'
  holds_iff : ∀ i x, holds i x ↔ ∃ k, registry k = some x ∧ cell k = some i

variable {registry registry' : κ → Option ο} {cell cell' : κ → Option ι}
  {holds holds' : ι → ο → Prop} {k : κ} {x : ο} {i j : ι}

theorem charted_empty (hregistry : ∀ k, registry k = none) (hholds : ∀ i x, ¬ holds i x) :
    Charted registry cell holds := by
  constructor
  · intro k x hx
    rw [hregistry] at hx
    cases hx
  · intro k k' x hx
    rw [hregistry] at hx
    cases hx
  · intro i x
    constructor
    · intro hin
      exact absurd hin (hholds i x)
    · rintro ⟨k, hx, _⟩
      rw [hregistry] at hx
      cases hx

namespace Charted

/-- Only the registry, the cells of the names in it, and what the cells hold matter. -/
theorem congr (h : Charted registry cell holds) (hregistry : ∀ k, registry' k = registry k)
    (hcell : ∀ k x, registry k = some x → cell' k = cell k)
    (hholds : ∀ i x, holds' i x ↔ holds i x) : Charted registry' cell' holds' := by
  constructor
  · intro k x hx
    rw [hregistry] at hx
    rw [hcell k x hx]
    exact h.placed k x hx
  · intro k k' x hx hx'
    rw [hregistry] at hx hx'
    exact h.once k k' x hx hx'
  · intro i x
    rw [hholds, h.holds_iff]
    constructor
    · rintro ⟨k, hx, hk⟩
      exact ⟨k, (hregistry k).trans hx, (hcell k x hx).trans hk⟩
    · rintro ⟨k, hx, hk⟩
      have hx := (hregistry k).symm.trans hx
      exact ⟨k, hx, (hcell k x hx).symm.trans hk⟩

/-- A registered object is in the cell of its name only. -/
theorem holds_registered (h : Charted registry cell holds) (hx : registry k = some x) :
    holds i x ↔ cell k = some i := by
  rw [h.holds_iff]
  constructor
  · rintro ⟨k', hx', hk'⟩
    rwa [h.once k k' x hx hx']
  · intro hk
    exact ⟨k, hx, hk⟩

/-- A new object under a new name, in the cell of the name. -/
theorem add [DecidableEq κ] (h : Charted registry cell holds) (hfree : registry k = none)
    (hnew : ∀ k', registry k' ≠ some x) (hcell : cell k = some i)
    (hregistry : ∀ k', registry' k' = if k' = k then some x else registry k')
    (hholds : ∀ j y, holds' j y ↔ (j = i ∧ y = x) ∨ holds j y) :
    Charted registry' cell holds' := by
  constructor
  · intro k' y hy
    rw [hregistry] at hy
    split at hy
    · rename_i heq
      rw [heq, hcell]
      rfl
    · exact h.placed k' y hy
  · intro k₁ k₂ y hy₁ hy₂
    rw [hregistry] at hy₁ hy₂
    split at hy₁
    · rename_i heq₁
      split at hy₂
      · rename_i heq₂
        rw [heq₁, heq₂]
      · obtain rfl := Option.some.inj hy₁
        exact absurd hy₂ (hnew k₂)
    · split at hy₂
      · obtain rfl := Option.some.inj hy₂
        exact absurd hy₁ (hnew k₁)
      · exact h.once k₁ k₂ y hy₁ hy₂
  · intro j y
    rw [hholds, h.holds_iff]
    constructor
    · rintro (⟨rfl, rfl⟩ | ⟨k', hy, hk'⟩)
      · exact ⟨k, by rw [hregistry, if_pos rfl], hcell⟩
      · refine ⟨k', ?_, hk'⟩
        rw [hregistry, if_neg, hy]
        rintro rfl
        rw [hfree] at hy
        cases hy
    · rintro ⟨k', hy, hk'⟩
      rw [hregistry] at hy
      split at hy
      · rename_i heq
        rw [heq, hcell] at hk'
        exact Or.inl ⟨(Option.some.inj hk').symm, (Option.some.inj hy).symm⟩
      · exact Or.inr ⟨k', hy, hk'⟩

/-- A registered object is taken out of the registry and of the cells. -/
theorem remove [DecidableEq κ] (h : Charted registry cell holds) (hx : registry k = some x)
    (hregistry : ∀ k', registry' k' = if k' = k then none else registry k')
    (hholds : ∀ j y, holds' j y ↔ holds j y ∧ y ≠ x) : Charted registry' cell holds' := by
  have hother : ∀ {k' y}, registry' k' = some y → registry k' = some y ∧ y ≠ x := by
    intro k' y hy
    rw [hregistry] at hy
    split at hy
    · cases hy
    · rename_i hne
      refine ⟨hy, ?_⟩
      rintro rfl
      exact hne (h.once k' k y hy hx)
  constructor
  · intro k' y hy
    exact h.placed k' y (hother hy).1
  · intro k₁ k₂ y hy₁ hy₂
    exact h.once k₁ k₂ y (hother hy₁).1 (hother hy₂).1
  · intro j y
    rw [hholds, h.holds_iff]
    constructor
    · rintro ⟨⟨k', hy, hk'⟩, hne⟩
      refine ⟨k', ?_, hk'⟩
      rw [hregistry, if_neg, hy]
      rintro rfl
      exact hne (Option.some.inj (hy.symm.trans hx))
    · rintro ⟨k', hy, hk'⟩
      exact ⟨⟨k', (hother hy).1, hk'⟩, (hother hy).2⟩

/-- The name of a registered object gets another cell, and the object goes there. -/
theorem move [DecidableEq κ] [DecidableEq ο] (h : Charted registry cell holds) (hx : registry k = some x)
    (hcell : ∀ k', cell' k' = if k' = k then some j else cell k')
    (hholds : ∀ i y, holds' i y ↔ if y = x then i = j else holds i y) :
    Charted registry cell' holds' := by
  constructor
  · intro k' y hy
    rw [hcell]
    split
    · rfl
    · exact h.placed k' y hy
  · exact h.once
  · intro i y
    rw [hholds]
    split
    · rename_i heq
      constructor
      · rintro rfl
        exact ⟨k, heq ▸ hx, by rw [hcell, if_pos rfl]⟩
      · rintro ⟨k', hy, hk'⟩
        have hkk : k' = k := h.once k' k x (heq ▸ hy) hx
        rw [hcell, if_pos hkk] at hk'
        exact (Option.some.inj hk').symm
    · rename_i hne
      rw [h.holds_iff]
      have hkk : ∀ {k'}, registry k' = some y → k' ≠ k := by
        rintro k' hy rfl
        exact hne (Option.some.inj (hy.symm.trans hx))
      constructor
      · rintro ⟨k', hy, hk'⟩
        exact ⟨k', hy, by rw [hcell, if_neg (hkk hy), hk']⟩
      · rintro ⟨k', hy, hk'⟩
        rw [hcell, if_neg (hkk hy)] at hk'
        exact ⟨k', hy, hk'⟩

end Charted

end SpatialIndex
