import Mysya.CombatDeploy

/-!
# Taking a combat down

What `CombatField::Finalize` leaves of the registries: the roles of the combat are
gone and back in the pool, and the rest is as it was.
-/

open Std

namespace Mysya.CombatManagers

variable {s : CombatManagers} {p q : Ptr} {r : UInt64}

/-- Every registered role was handed out by a sound pool. -/
structure Registered (s : CombatManagers) : Prop where
  sound : s.rolePool.Sound
  held : ∀ (r : UInt64) (q : Ptr), s.roles[r]? = some q → s.rolePool.Held q

/-- No other argent id leads to the role. -/
def Alone (s : CombatManagers) (r : UInt64) : Prop :=
  ∀ (r' : UInt64) (q : Ptr), s.roles[r]? = some q → s.roles[r']? = some q → r' = r

/-- The pools and the registries fit: what is registered or connected was handed out, and
the combats in the pool have no roles. -/
structure Orderly (s : CombatManagers) : Prop extends s.Registered where
  combatPool : s.combatPool.Sound
  connected : ∀ session x p, s.sessions session = some x → p ∈ x.connectedCombats →
    s.combatPool.Held p
  cleared : ∀ p, ¬ s.combatPool.Held p → (s.combat p).roles = ∅

theorem started_orderly (combatSize combatExtend roleSize roleExtend : Nat)
    (combatNews roleNews : List (Option Ptr)) (buildingAnswers warriorAnswers : List Bool) :
    (started (.new combatSize combatExtend combatNews) (.new roleSize roleExtend roleNews)
      buildingAnswers warriorAnswers).Orderly := by
  constructor
  · constructor
    · exact (PoolTemplate.new_grown roleSize roleExtend roleNews).sound
    · simp [started]
  · exact (PoolTemplate.new_grown combatSize combatExtend combatNews).sound
  · simp [started]
  · intro p _
    rcases (PoolTemplate.new_grown (E := CombatField) combatSize combatExtend combatNews).objects p
      with hnone | ⟨_, hnew⟩
    · simp only [combat, started, PoolTemplate.read, hnone]
      rfl
    · simp only [combat, started, PoolTemplate.read, hnew]
      rfl

/-! ## One role -/

theorem dropRole_frame (s : CombatManagers) (r : UInt64) :
    s.dropRole r = { s with
      rolePool := (s.dropRole r).rolePool, roles := (s.dropRole r).roles } := by
  simp only [dropRole]
  split
  · rfl
  · rfl

theorem dropRole_roles (s : CombatManagers) (r r' : UInt64) :
    (s.dropRole r).roles[r']? = if r' = r then none else s.roles[r']? := by
  simp only [dropRole]
  split
  · grind
  · simp only [deallocateRole]
    grind

/-- Roles that can be taken down: each was handed out, and to one id of the list. -/
structure Droppable (s : CombatManagers) (l : List UInt64) : Prop where
  sound : s.rolePool.Sound
  held : ∀ r ∈ l, ∀ q, s.roles[r]? = some q → s.rolePool.Held q
  apart : ∀ r ∈ l, ∀ r' ∈ l, ∀ q, s.roles[r]? = some q → s.roles[r']? = some q → r = r'

/-- The objects of `l` are back in the pool, and no others. -/
structure Dropped (s : CombatManagers) (l : List UInt64) (s' : CombatManagers) : Prop where
  sound : s'.rolePool.Sound
  held : ∀ q, s'.rolePool.Held q ↔ s.rolePool.Held q ∧ ∀ r ∈ l, s.roles[r]? ≠ some q
  objects : ∀ q, s'.rolePool.Held q → s'.rolePool.objects q = s.rolePool.objects q

theorem Droppable.tail {l : List UInt64} (h : s.Droppable (r :: l)) : (s.dropRole r).Droppable l := by
  have hleft : ∀ r' q, (s.dropRole r).roles[r']? = some q → r' ≠ r ∧ s.roles[r']? = some q := by
    intro r' q hq
    rw [dropRole_roles] at hq
    split at hq
    · cases hq
    · exact ⟨‹_›, hq⟩
  have hhead : r ∈ r :: l := List.mem_cons_self ..
  constructor
  · simp only [dropRole]
    split
    · exact h.sound
    · rename_i q hq
      exact (PoolTemplate.deallocate_reduced h.sound (h.held r hhead q hq)).sound
  · intro r' hr' q' hq'
    obtain ⟨hne, hold⟩ := hleft r' q' hq'
    have hheld := h.held r' (List.mem_cons_of_mem _ hr') q' hold
    simp only [dropRole]
    split
    · exact hheld
    · rename_i q hq
      refine PoolTemplate.deallocate_held h.sound (h.held r hhead q hq) hheld ?_
      rintro rfl
      exact hne (h.apart r' (List.mem_cons_of_mem _ hr') r hhead q' hold hq)
  · intro r' hr' r'' hr'' q hq hq'
    exact h.apart r' (List.mem_cons_of_mem _ hr') r'' (List.mem_cons_of_mem _ hr'') q
      (hleft r' q hq).2 (hleft r'' q hq').2

theorem Droppable.head {l : List UInt64} (h : s.Droppable (r :: l)) (q : Ptr) :
    ((s.dropRole r).rolePool.Held q ↔ s.rolePool.Held q ∧ s.roles[r]? ≠ some q) ∧
      ((s.dropRole r).rolePool.Held q →
        (s.dropRole r).rolePool.objects q = s.rolePool.objects q) := by
  cases hr : s.roles[r]? with
  | none =>
    have hsame : s.dropRole r = s := by simp only [dropRole, hr]
    rw [hsame]
    exact ⟨⟨fun hq => ⟨hq, by simp⟩, fun hq => hq.1⟩, fun _ => rfl⟩
  | some q' =>
    have hpool : (s.dropRole r).rolePool = s.rolePool.deallocate q' := by
      simp only [dropRole, hr, deallocateRole]
    have hheld := h.held r (List.mem_cons_self ..) q' hr
    rw [hpool]
    refine ⟨⟨fun hq => ?_, fun ⟨hq, hne⟩ => ?_⟩, fun hq => ?_⟩
    · obtain ⟨hold, hne⟩ := PoolTemplate.held_of_deallocate hq
      exact ⟨hold, fun heq => hne (Option.some.inj heq).symm⟩
    · exact PoolTemplate.deallocate_held h.sound hheld hq fun heq => hne (heq ▸ rfl)
    · obtain ⟨hold, hne⟩ := PoolTemplate.held_of_deallocate hq
      exact PoolTemplate.deallocate_objects h.sound hheld hold.2 hne

/-- A role stays, or is deleted. -/
theorem dropRole_role (s : CombatManagers) (r : UInt64) (q : Ptr) :
    (s.dropRole r).role q = s.role q ∨ (s.dropRole r).role q = default := by
  rw [dropRole]
  split
  · exact Or.inl rfl
  · rename_i q' _
    exact PoolTemplate.deallocate_read_or s.rolePool q' q

/-! ## All the roles of a combat -/

theorem foldl_dropRole_frame (l : List UInt64) (s : CombatManagers) :
    l.foldl dropRole s = { s with
      rolePool := (l.foldl dropRole s).rolePool, roles := (l.foldl dropRole s).roles } := by
  induction l generalizing s with
  | nil => rfl
  | cons r l ih =>
    rw [List.foldl_cons, ih, dropRole_frame]

theorem foldl_dropRole_role (l : List UInt64) (s : CombatManagers) (q : Ptr) :
    (l.foldl dropRole s).role q = s.role q ∨ (l.foldl dropRole s).role q = default := by
  induction l generalizing s with
  | nil => exact Or.inl rfl
  | cons r l ih =>
    rw [List.foldl_cons]
    rcases ih (s.dropRole r) with hsame | hnew
    · rw [hsame]
      exact dropRole_role s r q
    · exact Or.inr hnew

theorem foldl_dropRole_roles (l : List UInt64) (s : CombatManagers) (r : UInt64) :
    (l.foldl dropRole s).roles[r]? = if r ∈ l then none else s.roles[r]? := by
  induction l generalizing s with
  | nil => simp
  | cons r' l ih =>
    rw [List.foldl_cons, ih, dropRole_roles]
    grind

theorem foldl_dropRole_sessions (l : List UInt64) (s : CombatManagers)
    (x : SessionPtr → Option AppSession) :
    l.foldl dropRole { s with sessions := x } = { l.foldl dropRole s with sessions := x } := by
  induction l generalizing s with
  | nil => rfl
  | cons r l ih =>
    have hdrop : dropRole { s with sessions := x } r = { s.dropRole r with sessions := x } := by
      simp only [dropRole]
      split
      · rfl
      · rfl
    rw [List.foldl_cons, List.foldl_cons, hdrop, ih]

theorem Droppable.dropped {l : List UInt64} (h : s.Droppable l) :
    Dropped s l (l.foldl dropRole s) := by
  induction l generalizing s with
  | nil => exact ⟨h.sound, fun q => by simp, fun _ _ => rfl⟩
  | cons r l ih =>
    have hrest := ih h.tail
    rw [List.foldl_cons]
    constructor
    · exact hrest.sound
    · intro q
      rw [hrest.held, (h.head q).1, List.forall_mem_cons, and_assoc]
      refine and_congr_right fun _ => and_congr_right fun hne => ?_
      refine forall₂_congr fun r' _ => ?_
      rw [dropRole_roles]
      split
      · rename_i heq
        rw [heq]
        simpa using hne
      · exact Iff.rfl
    · intro q hq
      rw [hrest.objects q hq]
      exact (h.head q).2 ((hrest.held q).mp hq).1

/-- Where every registered role was handed out, roles that are alone can be taken down. -/
theorem Registered.droppable (h : s.Registered) {l : List UInt64} (ha : ∀ r ∈ l, s.Alone r) :
    s.Droppable l where
  sound := h.sound
  held := fun r _ q hq => h.held r q hq
  apart := fun r _ r' hr' q hq hq' => ha r' hr' r q hq' hq

theorem foldl_dropRole_registered (l : List UInt64) (h : s.Registered)
    (ha : ∀ r ∈ l, s.Alone r) : (l.foldl dropRole s).Registered := by
  have hdropped := (h.droppable ha).dropped
  refine ⟨hdropped.sound, fun r q hq => (hdropped.held q).mpr ?_⟩
  rw [foldl_dropRole_roles] at hq
  split at hq
  · cases hq
  · rename_i hout
    refine ⟨h.held r q hq, fun r' hr' hq' => hout ?_⟩
    rwa [ha r' hr' r q hq' hq]

/-! ## Finalize -/

theorem disconnectCombat_frame (s : CombatManagers) (p : Ptr) :
    s.disconnectCombat p = { s with sessions := (s.disconnectCombat p).sessions } := by
  simp only [disconnectCombat]
  split
  · rfl
  · rfl

@[simp] theorem disconnectCombat_combat (s : CombatManagers) (p p' : Ptr) :
    (s.disconnectCombat p).combat p' = s.combat p' := by
  rw [disconnectCombat_frame]
  rfl

/-- What `Finalize` does to the state, part by part. -/
theorem finalizeCombat_eq (s : CombatManagers) (p : Ptr) :
    s.finalizeCombat p = { s with
      combatPool := s.combatPool.modify p CombatField.clear
      rolePool := ((s.combat p).roles.toList.foldl dropRole s).rolePool
      roles := ((s.combat p).roles.toList.foldl dropRole s).roles
      sessions := (s.disconnectCombat p).sessions } := by
  simp only [finalizeCombat, disconnectCombat_combat]
  rw [disconnectCombat_frame, foldl_dropRole_sessions, foldl_dropRole_frame]
  rfl

@[simp] theorem finalizeCombat_combats (s : CombatManagers) (p : Ptr) :
    (s.finalizeCombat p).combats = s.combats := by
  rw [finalizeCombat_eq]

theorem finalizeCombat_roles (s : CombatManagers) (p : Ptr) (r : UInt64) :
    (s.finalizeCombat p).roles[r]? = if r ∈ (s.combat p).roles then none else s.roles[r]? := by
  rw [finalizeCombat_eq]
  simp [foldl_dropRole_roles]

theorem finalizeCombat_registered (h : s.Registered)
    (ha : ∀ r ∈ (s.combat p).roles, s.Alone r) : (s.finalizeCombat p).Registered := by
  have hfold := foldl_dropRole_registered (s.combat p).roles.toList h (by simpa using ha)
  rw [finalizeCombat_eq]
  exact ⟨hfold.sound, hfold.held⟩

theorem finalizeCombat_sessions {session : SessionPtr}
    (h : (s.combat p).appSession = some session) :
    (s.finalizeCombat p).sessions session = (s.sessions session).map fun x =>
      { x with connectedCombats := x.connectedCombats.erase p } := by
  rw [finalizeCombat_eq]
  simp [disconnectCombat, h, modifySession]

end Mysya.CombatManagers
