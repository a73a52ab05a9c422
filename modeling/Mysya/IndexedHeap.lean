import Mathlib.Data.Set.Function
import Mathlib.Logic.Function.Basic
import Mathlib.Order.Interval.Set.Defs

/-!
# Binary heaps whose elements record their slot

A heap in slots `1, …, size - 1` of a growing vector, least key first; every
element records the slot it is in, and zero when it is in none. Removing the
least element moves the last one to the root without recording the move, so
the record of the root may lag: the invariant says how far, and that re-sorting
the root from the slot it still records does no harm. The slot one past the
end is readable and holds what was last stored there.
-/

universe u v

structure IndexedHeap (α : Type u) where
  slot : Nat → α
  size : Nat
  pos : α → Nat

namespace IndexedHeap

variable {α : Type u} [DecidableEq α] {K : Type v} [LinearOrder K]

/-- Exchanges two slots and records both moves. -/
def swap (h : IndexedHeap α) (p c : Nat) : IndexedHeap α where
  slot := Function.update (Function.update h.slot p (h.slot c)) c (h.slot p)
  size := h.size
  pos := Function.update (Function.update h.pos (h.slot p) c) (h.slot c) p

def siftUp (key : α → K) (h : IndexedHeap α) (cur : Nat) : IndexedHeap α :=
  if cur / 2 = 0 then h
  else if key (h.slot (cur / 2)) < key (h.slot cur) then h
  else siftUp key (h.swap (cur / 2) cur) (cur / 2)
termination_by cur
decreasing_by omega

theorem siftUp_step {key : α → K} {h : IndexedHeap α} {cur : Nat} (h0 : cur / 2 ≠ 0)
    (hle : ¬ key (h.slot (cur / 2)) < key (h.slot cur)) :
    siftUp key h cur = siftUp key (h.swap (cur / 2) cur) (cur / 2) := by
  rw [siftUp, if_neg h0, if_neg hle]

def smallerChild (key : α → K) (h : IndexedHeap α) (cur : Nat) : Nat :=
  if cur * 2 + 1 < h.size ∧ key (h.slot (cur * 2 + 1)) < key (h.slot (cur * 2)) then
    cur * 2 + 1
  else cur * 2

omit [DecidableEq α] in
theorem smallerChild_eq (key : α → K) (h : IndexedHeap α) (cur : Nat) :
    smallerChild key h cur = cur * 2 ∨
      smallerChild key h cur = cur * 2 + 1 ∧ cur * 2 + 1 < h.size := by
  rw [smallerChild]
  split
  · rename_i hlt
    exact Or.inr ⟨rfl, hlt.1⟩
  · exact Or.inl rfl

def siftDown (key : α → K) (h : IndexedHeap α) (cur : Nat) (positive : 0 < cur) :
    IndexedHeap α :=
  if h.size ≤ cur * 2 then h
  else if key (h.slot cur) < key (h.slot (smallerChild key h cur)) then h
  else siftDown key (h.swap cur (smallerChild key h cur)) (smallerChild key h cur)
    (by rcases smallerChild_eq key h cur with hc | hc <;> omega)
termination_by h.size - cur
decreasing_by
  have hs : (h.swap cur (smallerChild key h cur)).size = h.size := rfl
  rcases smallerChild_eq key h cur with hc | hc <;> omega

theorem siftDown_step {key : α → K} {h : IndexedHeap α} {cur : Nat} {positive : 0 < cur}
    (hend : ¬ h.size ≤ cur * 2)
    (hle : ¬ key (h.slot cur) < key (h.slot (smallerChild key h cur))) :
    siftDown key h cur positive =
      siftDown key (h.swap cur (smallerChild key h cur)) (smallerChild key h cur)
        (by rcases smallerChild_eq key h cur with hc | hc <;> omega) := by
  rw [siftDown, if_neg hend, if_neg hle]

def push (h : IndexedHeap α) (a : α) : IndexedHeap α where
  slot := Function.update h.slot h.size a
  size := h.size + 1
  pos := Function.update h.pos a h.size

def insert (key : α → K) (h : IndexedHeap α) (a : α) : IndexedHeap α :=
  siftUp key (h.push a) h.size

/-- The last element takes the place of the root and keeps its record. -/
def takeRoot (h : IndexedHeap α) : IndexedHeap α where
  slot := Function.update h.slot 1 (h.slot (h.size - 1))
  size := h.size - 1
  pos := Function.update h.pos (h.slot 1) 0

def deleteMin (key : α → K) (h : IndexedHeap α) : IndexedHeap α :=
  siftDown key h.takeRoot 1 Nat.one_pos

def resort (key : α → K) (h : IndexedHeap α) (a : α) : IndexedHeap α :=
  siftUp key h (h.pos a)

def Holds (h : IndexedHeap α) (a : α) : Prop :=
  ∃ i, 0 < i ∧ i < h.size ∧ h.slot i = a

/-! ## Exchanging two slots -/

section Swap

variable (h : IndexedHeap α) {p c : Nat}

@[simp] theorem swap_size : (h.swap p c).size = h.size := rfl

@[simp] theorem swap_slot_right : (h.swap p c).slot c = h.slot p := by
  simp [swap]

@[simp] theorem swap_slot_left : (h.swap p c).slot p = h.slot c := by
  by_cases hpc : p = c
  · simp [swap, hpc]
  · simp [swap, hpc]

theorem swap_slot_other {i : Nat} (hp : i ≠ p) (hc : i ≠ c) :
    (h.swap p c).slot i = h.slot i := by
  simp [swap, hp, hc]

@[simp] theorem swap_pos_right : (h.swap p c).pos (h.slot c) = p := by
  simp [swap]

theorem swap_pos_left (hne : h.slot p ≠ h.slot c) : (h.swap p c).pos (h.slot p) = c := by
  simp [swap, hne]

theorem swap_pos_other {a : α} (hp : a ≠ h.slot p) (hc : a ≠ h.slot c) :
    (h.swap p c).pos a = h.pos a := by
  simp [swap, hp, hc]

end Swap

/-- Slots hold distinct elements, and every element below the root records its slot. -/
structure Placed (h : IndexedHeap α) : Prop where
  size_pos : 0 < h.size
  inj : Set.InjOn h.slot (Set.Ioo 0 h.size)
  listed : ∀ a, h.pos a ≠ 0 ↔ h.Holds a
  recorded : ∀ i, 2 ≤ i → i < h.size → h.pos (h.slot i) = i

namespace Placed

variable {h : IndexedHeap α} {p c : Nat}

omit [DecidableEq α] in
theorem slot_ne (hp : h.Placed) {i j : Nat} (hi : 0 < i) (hi' : i < h.size) (hj : 0 < j)
    (hj' : j < h.size) (hij : i ≠ j) : h.slot i ≠ h.slot j := by
  intro heq
  exact hij (hp.inj ⟨hi, hi'⟩ ⟨hj, hj'⟩ heq)

omit [DecidableEq α] in
theorem holds_slot {i : Nat} (hi : 0 < i) (hi' : i < h.size) : h.Holds (h.slot i) :=
  ⟨i, hi, hi', rfl⟩

theorem swap_holds (hp : 0 < p) (hpc : p < c) (hc : c < h.size) (a : α) :
    (h.swap p c).Holds a ↔ h.Holds a := by
  constructor
  · rintro ⟨i, hi, hi', rfl⟩
    by_cases hip : i = p
    · subst hip
      exact ⟨c, by omega, hc, by simp⟩
    by_cases hic : i = c
    · subst hic
      exact ⟨p, hp, by omega, by simp⟩
    · exact ⟨i, hi, hi', by simp [swap_slot_other, hip, hic]⟩
  · rintro ⟨i, hi, hi', rfl⟩
    by_cases hip : i = p
    · subst hip
      exact ⟨c, by omega, hc, by simp⟩
    by_cases hic : i = c
    · subst hic
      exact ⟨p, hp, by simp; omega, by simp⟩
    · exact ⟨i, hi, hi', by simp [swap_slot_other, hip, hic]⟩

theorem swap (hp : h.Placed) (hp0 : 0 < p) (hpc : p < c) (hc : c < h.size) :
    (h.swap p c).Placed := by
  have hne : h.slot p ≠ h.slot c := hp.slot_ne hp0 (by omega) (by omega) hc (by omega)
  have hother : ∀ i, 0 < i → i < h.size → i ≠ p → i ≠ c →
      h.slot i ≠ h.slot p ∧ h.slot i ≠ h.slot c := by
    intro i hi hi' hip hic
    exact ⟨hp.slot_ne hi hi' hp0 (by omega) hip, hp.slot_ne hi hi' (by omega) hc hic⟩
  constructor
  · exact hp.size_pos
  · rintro i ⟨hi, hi'⟩ j ⟨hj, hj'⟩ heq
    simp only [swap_size] at hi' hj'
    have hinv : ∀ k, 0 < k → k < h.size → ∃ m, 0 < m ∧ m < h.size ∧
        (h.swap p c).slot k = h.slot m ∧ (k = p ∧ m = c ∨ k = c ∧ m = p ∨
          k ≠ p ∧ k ≠ c ∧ m = k) := by
      intro k hk hk'
      by_cases hkp : k = p
      · exact ⟨c, by omega, hc, by simp [hkp], by omega⟩
      by_cases hkc : k = c
      · exact ⟨p, hp0, by omega, by simp [hkc], by omega⟩
      · exact ⟨k, hk, hk', swap_slot_other h hkp hkc, by omega⟩
    obtain ⟨m, hm, hm', hmi, hmc⟩ := hinv i hi hi'
    obtain ⟨n, hn, hn', hnj, hnc⟩ := hinv j hj hj'
    have hmn : m = n := hp.inj ⟨hm, hm'⟩ ⟨hn, hn'⟩ (by rw [← hmi, ← hnj, heq])
    omega
  · intro a
    rw [swap_holds hp0 hpc hc, ← hp.listed a]
    by_cases hap : a = h.slot p
    · subst hap
      have hl := (hp.listed _).mpr (holds_slot hp0 (by omega))
      simp [swap_pos_left h hne, hl]
      omega
    by_cases hac : a = h.slot c
    · subst hac
      have hl := (hp.listed _).mpr (holds_slot (by omega) hc)
      simp [hl]
      omega
    · rw [swap_pos_other h hap hac]
  · intro i hi hi'
    simp only [swap_size] at hi'
    by_cases hip : i = p
    · subst hip
      simp
    by_cases hic : i = c
    · subst hic
      rw [swap_slot_right, swap_pos_left h hne]
    · obtain ⟨h₁, h₂⟩ := hother i (by omega) hi' hip hic
      rw [swap_slot_other h hip hic, swap_pos_other h h₁ h₂]
      exact hp.recorded i hi hi'

theorem swap_root_same (hp : h.Placed) (hp0 : 1 < p) (hpc : p < c) (hc : c < h.size) :
    (h.swap p c).slot 1 = h.slot 1 ∧ (h.swap p c).pos (h.slot 1) = h.pos (h.slot 1) := by
  constructor
  · exact swap_slot_other h (by omega) (by omega)
  · exact swap_pos_other h (hp.slot_ne (by omega) (by omega) (by omega) (by omega) (by omega))
      (hp.slot_ne (by omega) (by omega) (by omega) hc (by omega))

end Placed

/-! ## Sifting up -/

/-- A root that still records the slot it came from: one of its children's slots,
where it is found when that slot is the one past the end, and strictly below every
child but the one at `hole`. -/
structure Lagging (key : α → K) (h : IndexedHeap α) (hole : Nat) : Prop where
  lower : 2 ≤ h.pos (h.slot 1)
  upper : h.pos (h.slot 1) ≤ 3
  bound : h.pos (h.slot 1) ≤ h.size
  kept : h.pos (h.slot 1) = h.size → h.slot h.size = h.slot 1
  strict : ∀ i, i / 2 = 1 → i < h.size → i ≠ hole → key (h.slot 1) < key (h.slot i)

/-- A heap in order but for the edge above `hole`. -/
structure Sifting (key : α → K) (h : IndexedHeap α) (hole : Nat) : Prop extends Placed h where
  edge : ∀ i, 2 ≤ i → i < h.size → i ≠ hole → key (h.slot (i / 2)) ≤ key (h.slot i)
  grand : ∀ i, 2 ≤ hole → i < h.size → i / 2 = hole →
    key (h.slot (hole / 2)) ≤ key (h.slot i)
  root : 1 < h.size → h.pos (h.slot 1) = 1 ∨ Lagging key h hole

/-- No edge is above slot zero. -/
abbrev Valid (key : α → K) (h : IndexedHeap α) : Prop := Sifting key h 0

namespace Sifting

variable {key : α → K} {h : IndexedHeap α} {cur : Nat}

omit [DecidableEq α] in
theorem stop_root (hs : Sifting key h 1) : Valid key h := by
  constructor
  · exact hs.toPlaced
  · intro i hi hi' _
    exact hs.edge i hi hi' (by omega)
  · intro i h0
    omega
  · intro hsize
    rcases hs.root hsize with hr | hr
    · exact Or.inl hr
    · refine Or.inr ⟨hr.lower, hr.upper, hr.bound, hr.kept, ?_⟩
      intro i hi hi' _
      exact hr.strict i hi hi' (by omega)

omit [DecidableEq α] in
theorem stop_below (hs : Sifting key h cur) (hlt : key (h.slot (cur / 2)) < key (h.slot cur)) :
    Valid key h := by
  constructor
  · exact hs.toPlaced
  · intro i hi hi' _
    by_cases hic : i = cur
    · subst hic
      exact hlt.le
    · exact hs.edge i hi hi' hic
  · intro i h0
    omega
  · intro hsize
    rcases hs.root hsize with hr | hr
    · exact Or.inl hr
    · refine Or.inr ⟨hr.lower, hr.upper, hr.bound, hr.kept, ?_⟩
      intro i hi hi' _
      by_cases hic : i = cur
      · subst hic
        rwa [hi] at hlt
      · exact hr.strict i hi hi' hic

theorem swap_root (hs : Sifting key h cur) (hcur : 2 ≤ cur) (hlt : cur < h.size) :
    (h.swap (cur / 2) cur).pos ((h.swap (cur / 2) cur).slot 1) = 1 ∨
      Lagging key (h.swap (cur / 2) cur) (cur / 2) := by
  by_cases hp : cur / 2 = 1
  · rw [hp]
    simp
  obtain ⟨hslot, hpos⟩ := hs.toPlaced.swap_root_same (p := cur / 2) (c := cur) (by omega)
    (by omega) hlt
  rw [hslot, hpos]
  rcases hs.root (by omega) with hr | hr
  · exact Or.inl hr
  · have hsame : ∀ i, i ≠ cur / 2 → i ≠ cur →
        (h.swap (cur / 2) cur).slot i = h.slot i := by
      intro i h₁ h₂
      exact swap_slot_other h h₁ h₂
    right
    constructor
    · simpa [hslot, hpos] using hr.lower
    · simpa [hslot, hpos] using hr.upper
    · simpa [hslot, hpos] using hr.bound
    · simp only [hslot, hpos, swap_size]
      rw [hsame h.size (by omega) (by omega)]
      exact hr.kept
    · intro i hi hi' hic
      simp only [swap_size] at hi'
      rw [hslot, hsame i hic (by omega)]
      exact hr.strict i hi hi' (by omega)

/-- One exchange moves the hole to the parent's slot. -/
theorem move (hs : Sifting key h cur) (hcur : 2 ≤ cur) (hlt : cur < h.size)
    (hle : key (h.slot cur) ≤ key (h.slot (cur / 2))) :
    Sifting key (h.swap (cur / 2) cur) (cur / 2) := by
  have hother : ∀ i, i ≠ cur / 2 → i ≠ cur → (h.swap (cur / 2) cur).slot i = h.slot i := by
    intro i h₁ h₂
    exact swap_slot_other h h₁ h₂
  constructor
  · exact hs.toPlaced.swap (by omega) (by omega) hlt
  · intro i hi hi' hic
    simp only [swap_size] at hi'
    by_cases hicur : i = cur
    · subst hicur
      simpa using hle
    rw [hother i hic hicur]
    by_cases hchild : i / 2 = cur
    · rw [hchild, swap_slot_right]
      exact hs.grand i hcur hi' hchild
    by_cases hsibling : i / 2 = cur / 2
    · have hedge := hs.edge i hi hi' hicur
      rw [hsibling] at hedge ⊢
      rw [swap_slot_left]
      exact hle.trans hedge
    · rw [hother (i / 2) hsibling hchild]
      exact hs.edge i hi hi' hicur
  · intro i hp hi hic
    simp only [swap_size] at hi
    have hup : key (h.slot (cur / 2 / 2)) ≤ key (h.slot (cur / 2)) :=
      hs.edge (cur / 2) hp (by omega) (by omega)
    rw [hother (cur / 2 / 2) (by omega) (by omega)]
    by_cases hicur : i = cur
    · subst hicur
      simpa using hup
    · rw [hother i (by omega) hicur]
      have hedge := hs.edge i (by omega) hi hicur
      rw [hic] at hedge
      exact hup.trans hedge
  · intro _
    exact hs.swap_root hcur hlt

theorem siftUp (hs : Sifting key h cur) (hcur : 0 < cur) (hlt : cur < h.size) :
    Valid key (siftUp key h cur) := by
  fun_induction IndexedHeap.siftUp key h cur with
  | case1 h cur h0 =>
    obtain rfl : cur = 1 := by omega
    exact hs.stop_root
  | case2 h cur _ hlow => exact hs.stop_below hlow
  | case3 h cur h0 hlow ih =>
    exact ih (hs.move (by omega) hlt (not_lt.mp hlow)) (by omega) (by simp; omega)

end Sifting

theorem siftUp_holds (key : α → K) (h : IndexedHeap α) (cur : Nat) (hlt : cur < h.size)
    (a : α) : (siftUp key h cur).Holds a ↔ h.Holds a := by
  fun_induction siftUp key h cur with
  | case1 => exact Iff.rfl
  | case2 => exact Iff.rfl
  | case3 h cur h0 _ ih =>
    rw [ih (by simp; omega)]
    exact Placed.swap_holds (by omega) (by omega) hlt a

/-! ## Insertion -/

theorem push_holds (h : IndexedHeap α) (hsize : 0 < h.size) (a b : α) :
    (h.push a).Holds b ↔ b = a ∨ h.Holds b := by
  constructor
  · rintro ⟨i, hi, hi', rfl⟩
    simp only [push] at hi'
    by_cases hn : i = h.size
    · exact Or.inl (by simp [push, hn])
    · exact Or.inr ⟨i, hi, by omega, by simp [push, hn]⟩
  · rintro (rfl | ⟨i, hi, hi', rfl⟩)
    · exact ⟨h.size, hsize, by simp [push], by simp [push]⟩
    · exact ⟨i, hi, by simp only [push]; omega, by simp [push, show i ≠ h.size by omega]⟩

theorem Placed.push {h : IndexedHeap α} (hp : h.Placed) {a : α} (fresh : h.pos a = 0) :
    (h.push a).Placed := by
  have hfree : ¬ h.Holds a := by
    rw [← hp.listed a, fresh]
    simp
  have hold : ∀ i, i < h.size → (h.push a).slot i = h.slot i := by
    intro i hi
    simp [IndexedHeap.push, show i ≠ h.size by omega]
  have hnew : (h.push a).slot h.size = a := by
    simp [IndexedHeap.push]
  have hne : ∀ i, 0 < i → i < h.size → h.slot i ≠ a := by
    intro i hi hi' heq
    exact hfree ⟨i, hi, hi', heq⟩
  constructor
  · exact Nat.succ_pos _
  · rintro i ⟨hi, hi'⟩ j ⟨hj, hj'⟩ heq
    simp only [IndexedHeap.push] at hi' hj'
    by_cases hin : i = h.size
    · by_cases hjn : j = h.size
      · omega
      · rw [hin, hnew, hold j (by omega)] at heq
        exact absurd heq.symm (hne j hj (by omega))
    · by_cases hjn : j = h.size
      · rw [hjn, hnew, hold i (by omega)] at heq
        exact absurd heq (hne i hi (by omega))
      · rw [hold i (by omega), hold j (by omega)] at heq
        exact hp.inj ⟨hi, by omega⟩ ⟨hj, by omega⟩ heq
  · intro b
    rw [push_holds h hp.size_pos, ← hp.listed b]
    by_cases hb : b = a
    · have := hp.size_pos
      simp [hb, IndexedHeap.push]
      omega
    · simp [hb, IndexedHeap.push]
  · intro i hi hi'
    simp only [IndexedHeap.push] at hi'
    by_cases hin : i = h.size
    · subst hin
      simp [IndexedHeap.push]
    · rw [hold i (by omega)]
      simp only [IndexedHeap.push]
      rw [Function.update_of_ne (hne i (by omega) (by omega))]
      exact hp.recorded i hi (by omega)

theorem Sifting.push {key : α → K} {h : IndexedHeap α} (hv : Valid key h) {a : α}
    (fresh : h.pos a = 0) : Sifting key (h.push a) h.size := by
  have hold : ∀ i, i < h.size → (h.push a).slot i = h.slot i := by
    intro i hi
    simp [IndexedHeap.push, show i ≠ h.size by omega]
  have hsize : (h.push a).size = h.size + 1 := rfl
  have hpos := hv.size_pos
  constructor
  · exact hv.toPlaced.push fresh
  · intro i hi hi' hne
    rw [hold i (by omega), hold (i / 2) (by omega)]
    exact hv.edge i hi (by omega) (by omega)
  · intro i _ hi hhalf
    omega
  · intro _
    by_cases hone : h.size = 1
    · left
      simp [IndexedHeap.push, hone]
    have hroot : (h.push a).slot 1 = h.slot 1 := hold 1 (by omega)
    have hne : h.slot 1 ≠ a := by
      rintro rfl
      exact (hv.listed _).mpr (Placed.holds_slot (by omega) (by omega)) fresh
    have hrec : (h.push a).pos (h.slot 1) = h.pos (h.slot 1) := by
      simp [IndexedHeap.push, hne]
    rw [hroot, hrec]
    rcases hv.root (by omega) with hr | hr
    · exact Or.inl hr
    · have hbound := hr.bound
      right
      constructor
      · simpa [hroot, hrec] using hr.lower
      · simpa [hroot, hrec] using hr.upper
      · rw [hroot, hrec]
        omega
      · rw [hroot, hrec]
        omega
      · intro i hi hi' hne
        rw [hroot, hold i (by omega)]
        exact hr.strict i hi (by omega) (by omega)

theorem Sifting.insert {key : α → K} {h : IndexedHeap α} (hv : Valid key h) {a : α}
    (fresh : h.pos a = 0) : Valid key (insert key h a) :=
  (Sifting.push hv fresh).siftUp hv.size_pos (Nat.lt_succ_self _)

theorem Sifting.insert_holds {key : α → K} {h : IndexedHeap α} (hv : Valid key h) (a b : α) :
    (IndexedHeap.insert key h a).Holds b ↔ b = a ∨ h.Holds b := by
  rw [IndexedHeap.insert, siftUp_holds key _ _ (Nat.lt_succ_self _),
    push_holds h hv.size_pos]

/-! ## Re-sorting after a smaller key -/

section Resort

variable {key key' : α → K} {h : IndexedHeap α} {a : α}

omit [DecidableEq α] in
theorem Sifting.congr_key (hv : Valid key h) (same : ∀ b, h.Holds b → key' b = key b) :
    Valid key' h := by
  have hsame : ∀ i, 0 < i → i < h.size → key' (h.slot i) = key (h.slot i) := by
    intro i hi hi'
    exact same _ (Placed.holds_slot hi hi')
  constructor
  · exact hv.toPlaced
  · intro i hi hi' h0
    rw [hsame i (by omega) hi', hsame (i / 2) (by omega) (by omega)]
    exact hv.edge i hi hi' h0
  · intro i h0
    omega
  · intro hsize
    rcases hv.root hsize with hr | hr
    · exact Or.inl hr
    · refine Or.inr ⟨hr.lower, hr.upper, hr.bound, hr.kept, ?_⟩
      intro i hi hi' h0
      rw [hsame i (by omega) hi', hsame 1 Nat.one_pos hsize]
      exact hr.strict i hi hi' h0

omit [DecidableEq α] in
theorem Sifting.lowered {i : Nat} (hv : Valid key h) (hi : 2 ≤ i) (hlt : i < h.size)
    (same : ∀ b, b ≠ h.slot i → key' b = key b)
    (lower : key' (h.slot i) ≤ key (h.slot i)) : Sifting key' h i := by
  have hle : ∀ b, key' b ≤ key b := by
    intro b
    by_cases hb : b = h.slot i
    · rw [hb]
      exact lower
    · exact (same b hb).le
  have hsame : ∀ j, 0 < j → j < h.size → j ≠ i → key' (h.slot j) = key (h.slot j) := by
    intro j hj hj' hji
    exact same _ (hv.slot_ne hj hj' (by omega) hlt hji)
  constructor
  · exact hv.toPlaced
  · intro j hj hj' hji
    rw [hsame j (by omega) hj' hji]
    exact (hle _).trans (hv.edge j hj hj' (by omega))
  · intro j _ hj' hji
    rw [hsame j (by omega) hj' (by omega)]
    have hchild := hv.edge j (by omega) hj' (by omega)
    rw [hji] at hchild
    exact ((hle _).trans (hv.edge i hi hlt (by omega))).trans hchild
  · intro hsize
    rcases hv.root hsize with hr | hr
    · exact Or.inl hr
    · refine Or.inr ⟨hr.lower, hr.upper, hr.bound, hr.kept, ?_⟩
      intro j hj hj' hji
      rw [hsame j (by omega) hj' hji, hsame 1 (by omega) (by omega) (by omega)]
      exact hr.strict j hj hj' (by omega)

omit [DecidableEq α] in
theorem Sifting.root_lowered (hv : Valid key h) (hsize : 1 < h.size)
    (same : ∀ b, b ≠ h.slot 1 → key' b = key b)
    (lower : key' (h.slot 1) ≤ key (h.slot 1)) : Valid key' h := by
  have hle : ∀ b, key' b ≤ key b := by
    intro b
    by_cases hb : b = h.slot 1
    · rw [hb]
      exact lower
    · exact (same b hb).le
  have hsame : ∀ j, 2 ≤ j → j < h.size → key' (h.slot j) = key (h.slot j) := by
    intro j hj hj'
    exact same _ (hv.slot_ne (by omega) hj' (by omega) hsize (by omega))
  constructor
  · exact hv.toPlaced
  · intro j hj hj' _
    rw [hsame j hj hj']
    exact (hle _).trans (hv.edge j hj hj' (by omega))
  · intro j h0
    omega
  · intro _
    rcases hv.root hsize with hr | hr
    · exact Or.inl hr
    · refine Or.inr ⟨hr.lower, hr.upper, hr.bound, hr.kept, ?_⟩
      intro j hj hj' h0
      rw [hsame j (by omega) hj']
      exact lower.trans_lt (hr.strict j hj hj' h0)

theorem siftUp_of_lt {cur : Nat} (hlt : key (h.slot (cur / 2)) < key (h.slot cur)) :
    siftUp key h cur = h := by
  rw [siftUp]
  simp [hlt]

theorem siftUp_one : siftUp key h 1 = h := by
  rw [siftUp]
  simp

/-- The slot past the end still holds the root, so the exchange repairs the record. -/
theorem Lagging.swap_self (hr : Lagging key h 0) (hpos : h.pos (h.slot 1) = h.size) :
    h.swap 1 h.size = { h with pos := Function.update h.pos (h.slot 1) 1 } := by
  have hkept := hr.kept hpos
  rw [IndexedHeap.swap, hkept]
  congr 1
  · funext i
    by_cases hi : i = h.size
    · simp [hi, hkept]
    · simp [hi]
  · simp

theorem Sifting.record_root (hv : Valid key h) (hsize : 1 < h.size) :
    Valid key { h with pos := Function.update h.pos (h.slot 1) 1 } := by
  constructor
  · constructor
    · exact hv.size_pos
    · exact hv.inj
    · intro b
      have hsame : Holds { h with pos := Function.update h.pos (h.slot 1) 1 } b ↔
          h.Holds b := Iff.rfl
      rw [hsame]
      by_cases hb : b = h.slot 1
      · subst hb
        simpa using Placed.holds_slot Nat.one_pos hsize
      · simpa [hb] using hv.listed b
    · intro i hi hi'
      have hne := hv.slot_ne (by omega) hi' Nat.one_pos hsize (show i ≠ 1 by omega)
      simpa [hne] using hv.recorded i hi hi'
  · exact hv.edge
  · exact hv.grand
  · intro _
    simp

theorem Sifting.resort_root (hv : Valid key h) (hsize : 1 < h.size) :
    Valid key (IndexedHeap.siftUp key h (h.pos (h.slot 1))) ∧
      ∀ b, (IndexedHeap.siftUp key h (h.pos (h.slot 1))).Holds b ↔ h.Holds b := by
  rcases hv.root hsize with hr | hr
  · rw [hr, siftUp_one]
    exact ⟨hv, fun _ => Iff.rfl⟩
  have hhalf : h.pos (h.slot 1) / 2 = 1 := by
    have := hr.lower
    have := hr.upper
    omega
  by_cases hend : h.pos (h.slot 1) = h.size
  · have hstep : IndexedHeap.siftUp key h (h.pos (h.slot 1)) =
        { h with pos := Function.update h.pos (h.slot 1) 1 } := by
      rw [IndexedHeap.siftUp, hhalf, hend, hr.kept hend, hr.swap_self hend, siftUp_one]
      simp
    rw [hstep]
    exact ⟨hv.record_root hsize, fun _ => Iff.rfl⟩
  · have hlt := hr.strict (h.pos (h.slot 1)) hhalf (lt_of_le_of_ne hr.bound hend)
      (by have := hr.lower; omega)
    rw [siftUp_of_lt (by rwa [hhalf])]
    exact ⟨hv, fun _ => Iff.rfl⟩

theorem Sifting.resort (hv : Valid key h) (held : h.Holds a)
    (same : ∀ b, b ≠ a → key' b = key b) (lower : key' a ≤ key a) :
    Valid key' (resort key' h a) ∧ ∀ b, (resort key' h a).Holds b ↔ h.Holds b := by
  obtain ⟨i, hi, hi', rfl⟩ := held
  by_cases hone : i = 1
  · subst hone
    exact (hv.root_lowered hi' same lower).resort_root hi'
  · have hrec := hv.recorded i (by omega) hi'
    have hs := hv.lowered (by omega) hi' same lower
    rw [IndexedHeap.resort, hrec]
    exact ⟨hs.siftUp (by omega) hi', siftUp_holds key' h i hi'⟩

end Resort

/-! ## Removing the least element -/

/-- A heap in order but for the edges below `hole`. -/
structure Sinking (key : α → K) (h : IndexedHeap α) (hole : Nat) : Prop extends Placed h where
  edge : ∀ i, 2 ≤ i → i < h.size → i / 2 ≠ hole → key (h.slot (i / 2)) ≤ key (h.slot i)
  grand : ∀ i, 2 ≤ hole → i < h.size → i / 2 = hole →
    key (h.slot (hole / 2)) ≤ key (h.slot i)

omit [DecidableEq α] in
theorem smallerChild_le (key : α → K) (h : IndexedHeap α) {cur i : Nat} (hi : i < h.size)
    (hcur : i / 2 = cur) : key (h.slot (smallerChild key h cur)) ≤ key (h.slot i) := by
  rw [smallerChild]
  have hi2 : i = cur * 2 ∨ i = cur * 2 + 1 := by omega
  split
  · rename_i hlt
    rcases hi2 with rfl | rfl
    · exact hlt.2.le
    · exact le_rfl
  · rename_i hlt
    rcases hi2 with rfl | rfl
    · exact le_rfl
    · exact not_lt.mp (fun hkey => hlt ⟨hi, hkey⟩)

namespace Sinking

variable {key : α → K} {h : IndexedHeap α} {cur : Nat}

/-- One exchange moves the hole to the smaller child's slot. -/
theorem move (hs : Sinking key h cur) (hcur : 0 < cur) {child : Nat} (hchild : child / 2 = cur)
    (hlt : child < h.size) (hle : key (h.slot child) ≤ key (h.slot cur))
    (least : ∀ i, i < h.size → i / 2 = cur → key (h.slot child) ≤ key (h.slot i)) :
    Sinking key (h.swap cur child) child := by
  have hother : ∀ i, i ≠ cur → i ≠ child → (h.swap cur child).slot i = h.slot i := by
    intro i h₁ h₂
    exact swap_slot_other h h₁ h₂
  constructor
  · exact hs.toPlaced.swap hcur (by omega) hlt
  · intro i hi hi' hic
    simp only [swap_size] at hi'
    by_cases hicur : i = cur
    · subst hicur
      rw [swap_slot_left, hother (i / 2) (by omega) (by omega)]
      exact hs.grand child hi hlt hchild
    by_cases hbelow : i / 2 = cur
    · rw [hbelow, swap_slot_left]
      by_cases hsame : i = child
      · rw [hsame, swap_slot_right]
        exact hle
      · rw [hother i hicur hsame]
        exact least i hi' hbelow
    · rw [hother i hicur (fun he => hbelow (he ▸ hchild)), hother (i / 2) hbelow hic]
      exact hs.edge i hi hi' hbelow
  · intro i _ hi hic
    simp only [swap_size] at hi
    rw [hchild, swap_slot_left, hother i (by omega) (by omega)]
    have hedge := hs.edge i (by omega) hi (by omega)
    rwa [hic] at hedge

omit [DecidableEq α] in
theorem stop (hs : Sinking key h cur) (hroot : 1 < h.size → h.pos (h.slot 1) = 1)
    (hle : ∀ i, i < h.size → i / 2 = cur → key (h.slot cur) ≤ key (h.slot i)) :
    Valid key h := by
  constructor
  · exact hs.toPlaced
  · intro i hi hi' _
    by_cases hic : i / 2 = cur
    · rw [hic]
      exact hle i hi' hic
    · exact hs.edge i hi hi' hic
  · intro i h0
    omega
  · intro hsize
    exact Or.inl (hroot hsize)

theorem swap_root (hs : Sinking key h cur) (hcur : 0 < cur) {child : Nat}
    (hchild : child / 2 = cur) (hlt : child < h.size)
    (hroot : 2 ≤ cur → h.pos (h.slot 1) = 1) :
    (h.swap cur child).pos ((h.swap cur child).slot 1) = 1 := by
  by_cases hone : cur = 1
  · subst hone
    simp
  · obtain ⟨hslot, hpos⟩ := hs.toPlaced.swap_root_same (p := cur) (c := child) (by omega)
      (by omega) hlt
    rw [hslot, hpos]
    exact hroot (by omega)

theorem siftDown (hs : Sinking key h cur) (hcur : 0 < cur)
    (hroot : 1 < h.size → h.pos (h.slot 1) = 1) : Valid key (siftDown key h cur hcur) := by
  fun_induction IndexedHeap.siftDown key h cur hcur with
  | case1 h cur hcur hend =>
    apply hs.stop hroot
    intro i hi hic
    omega
  | case2 h cur hcur hend hlow =>
    apply hs.stop hroot
    intro i hi hic
    exact hlow.le.trans (smallerChild_le key h hi hic)
  | case3 h cur hcur hend hlow ih =>
    have hchild : smallerChild key h cur / 2 = cur := by
      rcases smallerChild_eq key h cur with hc | hc <;> omega
    have hlt : smallerChild key h cur < h.size := by
      rcases smallerChild_eq key h cur with hc | hc <;> omega
    apply ih
    · exact hs.move hcur hchild hlt (not_lt.mp hlow) (fun i hi => smallerChild_le key h hi)
    · intro hsize
      exact hs.swap_root hcur hchild hlt (fun _ => hroot hsize)

end Sinking

theorem siftDown_holds (key : α → K) (h : IndexedHeap α) (cur : Nat) (hcur : 0 < cur)
    (a : α) : (siftDown key h cur hcur).Holds a ↔ h.Holds a := by
  fun_induction siftDown key h cur hcur with
  | case1 => exact Iff.rfl
  | case2 => exact Iff.rfl
  | case3 h cur hcur hend _ ih =>
    have hlt : cur < smallerChild key h cur ∧ smallerChild key h cur < h.size := by
      rcases smallerChild_eq key h cur with hc | hc <;> omega
    rw [ih]
    exact Placed.swap_holds hcur hlt.1 hlt.2 a

omit [DecidableEq α] in
theorem Sifting.ancestor {key : α → K} {h : IndexedHeap α} (hv : Valid key h) (i : Nat)
    (hi : 2 ≤ i) (hi' : i < h.size) :
    ∃ c, c / 2 = 1 ∧ c ≤ i ∧ key (h.slot c) ≤ key (h.slot i) := by
  induction i using Nat.strong_induction_on with
  | _ i ih =>
    by_cases htop : i / 2 = 1
    · exact ⟨i, htop, le_rfl, le_rfl⟩
    · obtain ⟨c, hc, hci, hkey⟩ := ih (i / 2) (by omega) (by omega) (by omega)
      exact ⟨c, hc, by omega, hkey.trans (hv.edge i hi hi' (by omega))⟩

omit [DecidableEq α] in
theorem Sifting.root_le {key : α → K} {h : IndexedHeap α} (hv : Valid key h) {a : α}
    (held : h.Holds a) : key (h.slot 1) ≤ key a := by
  obtain ⟨i, hi, hi', rfl⟩ := held
  by_cases hone : i = 1
  · rw [hone]
  · obtain ⟨c, hc, hci, hkey⟩ := hv.ancestor i (by omega) hi'
    have hedge := hv.edge c (by omega) (by omega) (by omega)
    rw [hc] at hedge
    exact hedge.trans hkey

section TakeRoot

variable {key : α → K} {h : IndexedHeap α}

@[simp] theorem takeRoot_size : h.takeRoot.size = h.size - 1 := rfl

theorem takeRoot_slot_root : h.takeRoot.slot 1 = h.slot (h.size - 1) := by
  simp [takeRoot]

theorem takeRoot_slot_other {i : Nat} (hi : i ≠ 1) : h.takeRoot.slot i = h.slot i := by
  simp [takeRoot, hi]

theorem takeRoot_pos_other {a : α} (ha : a ≠ h.slot 1) : h.takeRoot.pos a = h.pos a := by
  simp [takeRoot, ha]

theorem Placed.takeRoot_holds (hp : h.Placed) (hsize : 1 < h.size) (a : α) :
    h.takeRoot.Holds a ↔ h.Holds a ∧ a ≠ h.slot 1 := by
  constructor
  · rintro ⟨i, hi, hi', rfl⟩
    simp only [takeRoot_size] at hi'
    by_cases hone : i = 1
    · subst hone
      rw [takeRoot_slot_root]
      exact ⟨Placed.holds_slot (by omega) (by omega),
        hp.slot_ne (by omega) (by omega) Nat.one_pos hsize (by omega)⟩
    · rw [takeRoot_slot_other hone]
      exact ⟨Placed.holds_slot hi (by omega),
        hp.slot_ne hi (by omega) Nat.one_pos hsize hone⟩
  · rintro ⟨⟨i, hi, hi', rfl⟩, hne⟩
    have hone : i ≠ 1 := by
      rintro rfl
      exact hne rfl
    by_cases hlast : i = h.size - 1
    · exact ⟨1, Nat.one_pos, by simp only [takeRoot_size]; omega,
        by rw [takeRoot_slot_root, hlast]⟩
    · exact ⟨i, hi, by simp only [takeRoot_size]; omega, takeRoot_slot_other hone⟩

theorem Placed.takeRoot (hp : h.Placed) (hsize : 1 < h.size) : h.takeRoot.Placed := by
  constructor
  · simp only [takeRoot_size]
    omega
  · have hback : ∀ i, 0 < i → i < h.size - 1 → ∃ m, 0 < m ∧ m < h.size ∧
        h.takeRoot.slot i = h.slot m ∧ (i = 1 ∧ m = h.size - 1 ∨ i ≠ 1 ∧ m = i) := by
      intro i hi hi'
      by_cases hone : i = 1
      · exact ⟨h.size - 1, by omega, by omega, by rw [hone, takeRoot_slot_root], by omega⟩
      · exact ⟨i, hi, by omega, takeRoot_slot_other hone, by omega⟩
    rintro i ⟨hi, hi'⟩ j ⟨hj, hj'⟩ heq
    simp only [takeRoot_size] at hi' hj'
    obtain ⟨m, hm, hm', hmi, hmc⟩ := hback i hi hi'
    obtain ⟨n, hn, hn', hnj, hnc⟩ := hback j hj hj'
    have hmn : m = n := hp.inj ⟨hm, hm'⟩ ⟨hn, hn'⟩ (by rw [← hmi, ← hnj, heq])
    omega
  · intro a
    rw [hp.takeRoot_holds hsize]
    by_cases ha : a = h.slot 1
    · simp [ha, IndexedHeap.takeRoot]
    · rw [takeRoot_pos_other ha, hp.listed a]
      simp [ha]
  · intro i hi hi'
    simp only [takeRoot_size] at hi'
    rw [takeRoot_slot_other (by omega),
      takeRoot_pos_other (hp.slot_ne (by omega) (by omega) Nat.one_pos hsize (by omega))]
    exact hp.recorded i hi (by omega)

theorem Sifting.takeRoot (hv : Valid key h) (hsize : 1 < h.size) :
    Sinking key h.takeRoot 1 := by
  constructor
  · exact hv.toPlaced.takeRoot hsize
  · intro i hi hi' hne
    simp only [takeRoot_size] at hi'
    rw [takeRoot_slot_other (by omega), takeRoot_slot_other (by omega)]
    exact hv.edge i hi (by omega) (by omega)
  · intro i h1
    omega

/-- The moved element records the last slot, which is one past the end now. -/
theorem Placed.takeRoot_pos_root (hp : h.Placed) (hsize : 2 < h.size) :
    h.takeRoot.pos (h.takeRoot.slot 1) = h.size - 1 := by
  rw [takeRoot_slot_root,
    takeRoot_pos_other (hp.slot_ne (by omega) (by omega) Nat.one_pos (by omega) (by omega))]
  exact hp.recorded _ (by omega) (by omega)

/-- An element that stays at the root came from one of its children's slots. -/
theorem Sifting.takeRoot_stays (hv : Valid key h) (hsize : 1 < h.size)
    (hlow : ∀ i, i < h.takeRoot.size → i / 2 = 1 →
      key (h.takeRoot.slot 1) < key (h.takeRoot.slot i)) : Valid key h.takeRoot := by
  have hs := hv.takeRoot hsize
  constructor
  · exact hs.toPlaced
  · intro i hi hi' _
    by_cases htop : i / 2 = 1
    · rw [htop]
      exact (hlow i hi' htop).le
    · exact hs.edge i hi hi' htop
  · intro i h0
    omega
  · intro hsize'
    simp only [takeRoot_size] at hsize' hlow
    have hrec := hv.toPlaced.takeRoot_pos_root (by omega)
    have hthree : h.size - 1 ≤ 3 := by
      by_contra hbig
      obtain ⟨c, hc, hcl, hkey⟩ := hv.ancestor (h.size - 1) (by omega) (by omega)
      have hlt : c < h.size - 1 := by omega
      have hstrict := hlow c hlt hc
      rw [takeRoot_slot_root, takeRoot_slot_other (by omega)] at hstrict
      exact absurd hkey (not_le.mpr hstrict)
    right
    constructor
    · rw [hrec]
      omega
    · rw [hrec]
      exact hthree
    · rw [hrec]
      exact le_rfl
    · intro _
      rw [takeRoot_slot_root, takeRoot_size, takeRoot_slot_other (by omega)]
    · intro i hi hi' _
      exact hlow i hi' hi

theorem Sifting.deleteMin (hv : Valid key h) (hsize : 1 < h.size) :
    Valid key (deleteMin key h) := by
  have hs := hv.takeRoot hsize
  rw [IndexedHeap.deleteMin, IndexedHeap.siftDown]
  split
  · rename_i hend
    apply hv.takeRoot_stays hsize
    intro i hi hic
    omega
  rename_i hend
  split
  · rename_i hlow
    apply hv.takeRoot_stays hsize
    intro i hi hic
    exact hlow.trans_le (smallerChild_le key _ hi hic)
  · rename_i hlow
    have hchild : smallerChild key h.takeRoot 1 / 2 = 1 := by
      rcases smallerChild_eq key h.takeRoot 1 with hc | hc <;> omega
    have hlt : smallerChild key h.takeRoot 1 < h.takeRoot.size := by
      rcases smallerChild_eq key h.takeRoot 1 with hc | hc <;> omega
    apply Sinking.siftDown
    · exact hs.move Nat.one_pos hchild hlt (not_lt.mp hlow)
        (fun i hi => smallerChild_le key _ hi)
    · intro _
      exact hs.swap_root Nat.one_pos hchild hlt (fun h2 => by omega)

theorem Sifting.deleteMin_holds (hv : Valid key h) (hsize : 1 < h.size) (a : α) :
    (IndexedHeap.deleteMin key h).Holds a ↔ h.Holds a ∧ a ≠ h.slot 1 := by
  rw [IndexedHeap.deleteMin, siftDown_holds, hv.toPlaced.takeRoot_holds hsize]

end TakeRoot

/-! ## When the root records its slot too -/

/-- The root's record does not lag. -/
def Recorded (h : IndexedHeap α) : Prop := 1 < h.size → h.pos (h.slot 1) = 1

section Recorded

variable {key key' : α → K} {h : IndexedHeap α} {a : α}

theorem Placed.swap_recorded {p c : Nat} (hp : h.Placed) (hp0 : 0 < p) (hpc : p < c)
    (hc : c < h.size) (hr : p ≠ 1 → h.Recorded) : (h.swap p c).Recorded := by
  intro _
  by_cases hone : p = 1
  · subst hone
    simp
  · obtain ⟨hslot, hpos⟩ := hp.swap_root_same (p := p) (c := c) (by omega) hpc hc
    rw [hslot, hpos]
    exact hr hone (by omega)

theorem Placed.siftUp_recorded {cur : Nat} (hp : h.Placed) (hr : h.Recorded)
    (hlt : cur < h.size) : (siftUp key h cur).Recorded := by
  fun_induction siftUp key h cur with
  | case1 => exact hr
  | case2 => exact hr
  | case3 h cur h0 _ ih =>
    apply ih (hp.swap (by omega) (by omega) hlt)
    · exact hp.swap_recorded (by omega) (by omega) hlt (fun _ => hr)
    · simp only [swap_size]
      omega

theorem Placed.siftDown_recorded {cur : Nat} {hcur : 0 < cur} (hp : h.Placed)
    (hr : h.Recorded) : (siftDown key h cur hcur).Recorded := by
  fun_induction siftDown key h cur hcur with
  | case1 => exact hr
  | case2 => exact hr
  | case3 h cur hcur hend _ ih =>
    have hchild : cur < smallerChild key h cur ∧ smallerChild key h cur < h.size := by
      rcases smallerChild_eq key h cur with hc | hc <;> omega
    apply ih (hp.swap hcur hchild.1 hchild.2)
    exact hp.swap_recorded hcur hchild.1 hchild.2 (fun _ => hr)

theorem Placed.push_recorded (hp : h.Placed) (hr : h.Recorded) (fresh : h.pos a = 0) :
    (h.push a).Recorded := by
  intro _
  have hpos := hp.size_pos
  by_cases hone : h.size = 1
  · simp [IndexedHeap.push, hone]
  have hne : h.slot 1 ≠ a := by
    rintro rfl
    exact (hp.listed _).mpr (holds_slot (by omega) (by omega)) fresh
  have hroot : (h.push a).slot 1 = h.slot 1 := by
    simp [IndexedHeap.push, show 1 ≠ h.size by omega]
  rw [hroot]
  simpa [IndexedHeap.push, hne] using hr (by omega)

theorem Placed.insert_recorded (hp : h.Placed) (hr : h.Recorded) (fresh : h.pos a = 0) :
    (insert key h a).Recorded :=
  (hp.push fresh).siftUp_recorded (hp.push_recorded hr fresh) (Nat.lt_succ_self _)

omit [DecidableEq α] in
theorem Placed.pos_of_holds (hp : h.Placed) (hr : h.Recorded) (held : h.Holds a) :
    h.slot (h.pos a) = a ∧ 0 < h.pos a ∧ h.pos a < h.size := by
  obtain ⟨i, hi, hi', rfl⟩ := held
  have hpos : h.pos (h.slot i) = i := by
    by_cases hone : i = 1
    · subst hone
      exact hr hi'
    · exact hp.recorded i (by omega) hi'
  rw [hpos]
  exact ⟨rfl, hi, hi'⟩

theorem Placed.resort_recorded (hp : h.Placed) (hr : h.Recorded) (held : h.Holds a) :
    (resort key h a).Recorded :=
  hp.siftUp_recorded hr (hp.pos_of_holds hr held).2.2

/-- Some child of the root, other than the last element, is not above the last. -/
def LastSinks (key : α → K) (h : IndexedHeap α) : Prop :=
  ∃ i, i / 2 = 1 ∧ i < h.size - 1 ∧ key (h.slot i) ≤ key (h.slot (h.size - 1))

/-- Removing the least element leaves every slot recorded exactly when nothing is left
or the element moved to the root sinks from it. -/
theorem Sifting.deleteMin_recorded_iff (hv : Valid key h) (hsize : 1 < h.size) :
    (IndexedHeap.deleteMin key h).Recorded ↔ h.size = 2 ∨ LastSinks key h := by
  have hplaced := hv.toPlaced.takeRoot hsize
  have htop : ∀ i, i / 2 = 1 → h.takeRoot.slot i = h.slot i :=
    fun i hi => takeRoot_slot_other (by omega)
  have hstay : 2 < h.size → ¬ h.takeRoot.Recorded := by
    intro htwo hrec
    have hroot := hrec (by simp only [takeRoot_size]; omega)
    rw [hv.toPlaced.takeRoot_pos_root htwo] at hroot
    omega
  rw [IndexedHeap.deleteMin, IndexedHeap.siftDown]
  split
  · rename_i hend
    simp only [takeRoot_size] at hend
    constructor
    · intro hrec
      left
      by_contra hne
      exact hstay (by omega) hrec
    · rintro (htwo | ⟨i, hi, hi', _⟩)
      · intro hone
        simp only [takeRoot_size] at hone
        omega
      · omega
  rename_i hend
  simp only [takeRoot_size] at hend
  split
  · rename_i hlow
    constructor
    · intro hrec
      exact absurd hrec (hstay (by omega))
    · rintro (htwo | ⟨i, hi, hi', hkey⟩)
      · omega
      · have hleast := hlow.trans_le (smallerChild_le key h.takeRoot (by simpa using hi') hi)
        rw [takeRoot_slot_root, htop i hi] at hleast
        exact absurd hkey hleast.not_ge
  · rename_i hlow
    have hchild : smallerChild key h.takeRoot 1 / 2 = 1 ∧
        smallerChild key h.takeRoot 1 < h.size - 1 := by
      rcases smallerChild_eq key h.takeRoot 1 with hc | ⟨hc, hlt⟩
      · omega
      · simp only [takeRoot_size] at hlt
        omega
    constructor
    · intro _
      right
      refine ⟨_, hchild.1, hchild.2, ?_⟩
      rw [takeRoot_slot_root, htop _ hchild.1] at hlow
      exact not_lt.mp hlow
    · intro _
      apply (hplaced.swap Nat.one_pos (by omega) hchild.2).siftDown_recorded
      exact hplaced.swap_recorded Nat.one_pos (by omega) hchild.2 (fun hne => absurd rfl hne)

end Recorded

end IndexedHeap
