import Mysya.GuardedRuns
import Mysya.SceneSteps

/-!
# The roles of the combats

What is true of the roles in every state that a server gets to, also where a refused request left a
role behind: the pools are sound, the roles of a combat are registered and were handed out, each to
one combat, and a session has only combats that know it. What is not true in all of them is that
every registered role was handed out.
-/

open Std OwnedTimers Attempts GuardedRuns

namespace Mysya

open CombatManagers

namespace CombatManagers

variable {s s' s₀ : CombatManagers} {p q : Ptr} {r : UInt64} {data : CombatInitialData}
  {session : SessionPtr}

structure Garrisoned (s : CombatManagers) : Prop where
  combatPool : s.combatPool.Sound
  rolePool : s.rolePool.Sound
  held : ∀ p r, r ∈ (s.combat p).roles → s.combatPool.Held p
  members : ∀ p r, r ∈ (s.combat p).roles → ∃ q, s.roles[r]? = some q ∧ s.rolePool.Held q
  apart : ∀ p p' r r' q, r ∈ (s.combat p).roles → r' ∈ (s.combat p').roles →
    s.roles[r]? = some q → s.roles[r']? = some q → r = r' ∧ p = p'
  connected : ∀ session x p, s.sessions session = some x → p ∈ x.connectedCombats →
    s.combatPool.Held p
  acquainted : s.Acquainted

/-- The object is that of no role of a combat. -/
def Unjoined (s : CombatManagers) (q : Ptr) : Prop :=
  ∀ p r, r ∈ (s.combat p).roles → s.roles[r]? ≠ some q

/-- The objects in the pool are those of no role of a combat. -/
theorem Garrisoned.unjoined (h : s.Garrisoned) (hq : ¬ s.rolePool.Held q) : s.Unjoined q := by
  intro p r hr heq
  obtain ⟨q', hq', hheld⟩ := h.members p r hr
  obtain rfl := Option.some.inj (heq.symm.trans hq')
  exact hq hheld

theorem Garrisoned.goes (h : s.Garrisoned) (hg : Goes s s') : s'.Garrisoned := by
  have hheld : ∀ q, s'.rolePool.Held q ↔ s.rolePool.Held q := by
    intro q
    rw [PoolTemplate.Held, PoolTemplate.Held, hg.roleLive, hg.roleList]
  constructor
  · refine ⟨?_, fun p hp => ?_⟩
    · rw [hg.list]
      exact h.combatPool.nodup
    · rw [hg.live]
      rw [hg.list] at hp
      exact h.combatPool.live p hp
  · refine ⟨?_, fun q hq => ?_⟩
    · rw [hg.roleList]
      exact h.rolePool.nodup
    · rw [hg.roleLive]
      rw [hg.roleList] at hq
      exact h.rolePool.live q hq
  · intro p r hr
    rw [hg.members] at hr
    exact hg.held.mpr (h.held p r hr)
  · intro p r hr
    rw [hg.members] at hr
    obtain ⟨q, hq, hq'⟩ := h.members p r hr
    exact ⟨q, by rw [hg.roles, hq], (hheld q).mpr hq'⟩
  · intro p p' r r' q hr hr' hq hq'
    rw [hg.members] at hr hr'
    rw [hg.roles] at hq hq'
    exact h.apart p p' r r' q hr hr' hq hq'
  · intro session x p hx hp
    obtain ⟨y, hy, hin⟩ := hg.connected session x p hx hp
    exact hg.held.mpr (h.connected session y p hy hin)
  · exact hg.acquainted h.acquainted

/-- Where besides every registered role was handed out, no refused request left a role behind. -/
theorem Garrisoned.orderly (h : s.Garrisoned)
    (hheld : ∀ (r : UInt64) (q : Ptr), s.roles[r]? = some q → s.rolePool.Held q) : s.Orderly where
  sound := h.rolePool
  held := hheld
  combatPool := h.combatPool
  connected := h.connected
  cleared := fun p hp => by
    ext1 r
    refine iff_of_false (fun hr => hp (h.held p r hr)) ExtTreeSet.not_mem_empty

theorem started_garrisoned (combatSize combatExtend roleSize roleExtend : Nat)
    (combatNews roleNews : List (Option Ptr)) (buildingAnswers warriorAnswers : List Bool) :
    (started (.new combatSize combatExtend combatNews) (.new roleSize roleExtend roleNews)
      buildingAnswers warriorAnswers).Garrisoned := by
  have hempty : ∀ p r, r ∉ ((started (.new combatSize combatExtend combatNews)
      (.new roleSize roleExtend roleNews) buildingAnswers warriorAnswers).combat p).roles := by
    intro p r hr
    rw [started_combat] at hr
    exact ExtTreeSet.not_mem_empty hr
  constructor
  · exact (PoolTemplate.new_grown combatSize combatExtend combatNews).sound
  · exact (PoolTemplate.new_grown roleSize roleExtend roleNews).sound
  · exact fun p r hr => absurd hr (hempty p r)
  · exact fun p r hr => absurd hr (hempty p r)
  · exact fun p _ r _ _ hr => absurd hr (hempty p r)
  · exact fun session x p hx => nomatch hx
  · exact fun session x p hx => nomatch hx

/-! ## Changes of the roles -/

theorem Garrisoned.changeRoles (h : s.Garrisoned) {pool : PoolTemplate CombatRoleField}
    (hsound : pool.Sound) (hheld : ∀ q, ¬ s.Unjoined q → s.rolePool.Held q → pool.Held q) :
    Garrisoned { s with rolePool := pool } where
  combatPool := h.combatPool
  rolePool := hsound
  held := h.held
  members := fun p r hr => by
    obtain ⟨q, hq, hq'⟩ := h.members p r hr
    exact ⟨q, hq, hheld q (fun hout => hout p r hr hq) hq'⟩
  apart := h.apart
  connected := h.connected
  acquainted := h.acquainted

theorem Garrisoned.modifyRole (h : s.Garrisoned) (q : Ptr)
    (change : CombatRoleField → CombatRoleField) : (s.modifyRole q change).Garrisoned :=
  h.changeRoles (h.rolePool.modify q change) fun _ _ => (PoolTemplate.held_modify change).mpr

/-- A role that no combat has goes back to the pool. -/
theorem Garrisoned.abandonRole (h : s.Garrisoned) (hq : s.rolePool.Held q) (hout : s.Unjoined q) :
    (s.abandonRole q).Garrisoned := by
  have hdisconnect : Goes s (s.disconnectRole q) := by
    rw [disconnectRole]
    split
    · exact .refl s
    · rename_i session _
      refine goes_setSessions fun session' x p hx hp => ?_
      by_cases heq : session' = session
      · rw [heq, Function.update_self, Option.map_eq_some_iff] at hx
        obtain ⟨y, hy, rfl⟩ := hx
        exact ⟨y, heq ▸ hy, hp⟩
      · rw [Function.update_of_ne heq] at hx
        exact ⟨x, hx, hp⟩
  have hpool : (s.disconnectRole q).rolePool = s.rolePool := by
    rw [disconnectRole]
    split
    · rfl
    · rfl
  have hfinal := (h.goes hdisconnect).modifyRole q CombatRoleField.finalize
  have hheld : (s.finalizeRole q).rolePool.Held q := by
    refine (PoolTemplate.held_modify _).mpr ?_
    rw [hpool]
    exact hq
  refine hfinal.changeRoles (PoolTemplate.deallocate_reduced hfinal.rolePool hheld).sound
    fun q' hin hq' => PoolTemplate.deallocate_held hfinal.rolePool hheld hq' ?_
  rintro rfl
  refine hin fun p r hr => ?_
  have hr : r ∈ ((s.disconnectRole q').combat p).roles := hr
  rw [hdisconnect.members] at hr
  have hroles : ((s.disconnectRole q').modifyRole q' CombatRoleField.finalize).roles = s.roles :=
    hdisconnect.roles
  rw [hroles]
  exact hout p r hr

theorem abandonRole_frame (s : CombatManagers) (q : Ptr) :
    (s.abandonRole q).combatPool = s.combatPool ∧ (s.abandonRole q).roles = s.roles ∧
      (s.abandonRole q).rolePool = (s.rolePool.modify q CombatRoleField.finalize).deallocate q := by
  simp only [CombatManagers.abandonRole, finalizeRole, disconnectRole]
  split
  · exact ⟨rfl, rfl, rfl⟩
  · exact ⟨rfl, rfl, rfl⟩

theorem Garrisoned.register (h : s.Garrisoned) (hfree : s.roles[r]? = none) (q : Ptr) :
    Garrisoned { s with roles := s.roles.insert r q } := by
  have hlookup : ∀ p r', r' ∈ (s.combat p).roles → (s.roles.insert r q)[r']? = s.roles[r']? := by
    intro p r' hr'
    obtain ⟨q', hq', _⟩ := h.members p r' hr'
    grind
  constructor
  · exact h.combatPool
  · exact h.rolePool
  · exact h.held
  · intro p r' hr'
    obtain ⟨q', hq', hheld⟩ := h.members p r' hr'
    exact ⟨q', (hlookup p r' hr').trans hq', hheld⟩
  · intro p p' r' r'' q' hr' hr'' hq' hq''
    exact h.apart p p' r' r'' q' hr' hr'' ((hlookup p r' hr').symm.trans hq')
      ((hlookup p' r'' hr'').symm.trans hq'')
  · exact h.connected
  · exact h.acquainted

/-! ## Changes of a combat -/

/-- The combat at `p` changes but for its roles and its session. -/
theorem Garrisoned.modifyCombat (h : s.Garrisoned) {change : CombatField → CombatField}
    (hroles : (change (s.combat p)).roles = (s.combat p).roles)
    (happSession : (change (s.combat p)).appSession = (s.combat p).appSession) :
    (s.modifyCombat p change).Garrisoned := by
  have hcombat : ∀ p', ((s.modifyCombat p change).combat p').roles = (s.combat p').roles ∧
      ((s.modifyCombat p change).combat p').appSession = (s.combat p').appSession := by
    intro p'
    rcases modifyCombat_or s p p' change with hsame | ⟨rfl, hchanged⟩
    · rw [hsame]
      exact ⟨rfl, rfl⟩
    · rw [hchanged]
      exact ⟨hroles, happSession⟩
  constructor
  · exact h.combatPool.modify p change
  · exact h.rolePool
  · intro p' r hr
    rw [(hcombat p').1] at hr
    exact (PoolTemplate.held_modify change).mpr (h.held p' r hr)
  · intro p' r hr
    rw [(hcombat p').1] at hr
    exact h.members p' r hr
  · intro p' p'' r r' q hr hr'
    rw [(hcombat p').1] at hr
    rw [(hcombat p'').1] at hr'
    exact h.apart p' p'' r r' q hr hr'
  · intro session x p' hx hp
    exact (PoolTemplate.held_modify change).mpr (h.connected session x p' hx hp)
  · intro session x p' hx hp
    rw [(hcombat p').2]
    exact h.acquainted session x p' hx hp

theorem Garrisoned.raiseBuilding (h : s.Garrisoned) (hostId : UInt64) (campId : Int)
    (description : BuildingDescription) :
    (s.raiseBuilding p hostId campId description).Garrisoned :=
  (h.modifyCombat rfl rfl).modifyCombat rfl rfl

/-- A role that no combat has joins the combat at `p`. -/
theorem Garrisoned.joinRole (h : s.Garrisoned) (hp : s.combatPool.Held p)
    (hr : s.roles[r]? = some q) (hq : s.rolePool.Held q) (hout : s.Unjoined q) :
    (s.joinRole p r).Garrisoned := by
  have hjoin : s.joinRole p r = (s.modifyCombat p fun combat =>
      { combat with roles := combat.roles.insert r }).modifyRole q
        fun role => { role with combatField := some p } := by
    simp only [CombatManagers.joinRole, hr]
  have hcombat := modifyCombat_combat hp.1 fun combat =>
    { combat with roles := combat.roles.insert r }
  have hother : ∀ p', p' ≠ p → (s.modifyCombat p fun combat =>
      { combat with roles := combat.roles.insert r }).combat p' = s.combat p' :=
    fun p' hne => PoolTemplate.read_modify_other _ hne _
  have hmember : ∀ p' r', r' ∈ ((s.modifyCombat p fun combat =>
      { combat with roles := combat.roles.insert r }).combat p').roles →
      r' ∈ (s.combat p').roles ∨ p' = p ∧ r' = r := by
    intro p' r' hr'
    by_cases hne : p' = p
    · subst hne
      rw [hcombat] at hr'
      rcases ExtTreeSet.mem_insert.mp hr' with heq | hin
      · exact Or.inr ⟨rfl, (Std.compare_eq_iff_eq.mp heq).symm⟩
      · exact Or.inl hin
    · rw [hother p' hne] at hr'
      exact Or.inl hr'
  rw [hjoin]
  refine Garrisoned.modifyRole ?_ q _
  constructor
  · exact h.combatPool.modify p _
  · exact h.rolePool
  · intro p' r' hr'
    refine (PoolTemplate.held_modify _).mpr ?_
    rcases hmember p' r' hr' with hin | ⟨rfl, _⟩
    · exact h.held p' r' hin
    · exact hp
  · intro p' r' hr'
    rcases hmember p' r' hr' with hin | ⟨_, rfl⟩
    · exact h.members p' r' hin
    · exact ⟨q, hr, hq⟩
  · intro p' p'' r' r'' q' hr' hr'' hq' hq''
    have hold : s.roles[r']? = some q' := hq'
    have hold' : s.roles[r'']? = some q' := hq''
    rcases hmember p' r' hr' with hin | ⟨rfl, rfl⟩
    · rcases hmember p'' r'' hr'' with hin' | ⟨rfl, rfl⟩
      · exact h.apart p' p'' r' r'' q' hin hin' hold hold'
      · rw [hr] at hold'
        exact absurd (hold.trans hold'.symm) (hout p' r' hin)
    · rw [hr] at hold
      rcases hmember p'' r'' hr'' with hin' | ⟨rfl, rfl⟩
      · exact absurd (hold'.trans hold.symm) (hout p'' r'' hin')
      · exact ⟨rfl, rfl⟩
  · intro session x p' hx hp'
    exact (PoolTemplate.held_modify _).mpr (h.connected session x p' hx hp')
  · intro session x p' hx hp'
    have happSession := h.acquainted session x p' hx hp'
    by_cases hne : p' = p
    · subst hne
      rw [hcombat]
      exact happSession
    · rw [hother p' hne]
      exact happSession

/-! ## Taking a combat down -/

/-- A combat is finalized and given back, and its roles with it. -/
theorem Garrisoned.giveBack (h : s.Garrisoned) (hp : s.combatPool.Held p) :
    ((s.finalizeCombat p).deallocateCombat p).Garrisoned ∧
      ∀ q, ((s.finalizeCombat p).deallocateCombat p).rolePool.Held q ↔
        s.rolePool.Held q ∧ ∀ r ∈ (s.combat p).roles, s.roles[r]? ≠ some q := by
  have hcleared := h.combatPool.modify p CombatField.clear
  have hheld : (s.combatPool.modify p CombatField.clear).Held p :=
    (PoolTemplate.held_modify _).mpr hp
  have hdropped : Dropped s (s.combat p).roles.toList
      ((s.combat p).roles.toList.foldl dropRole s) := by
    refine Droppable.dropped ⟨h.rolePool, fun r hr q hq => ?_, fun r hr r' hr' q hq hq' => ?_⟩
    · obtain ⟨q', hq', hheld'⟩ := h.members p r (ExtTreeSet.mem_toList.mp hr)
      obtain rfl := Option.some.inj (hq.symm.trans hq')
      exact hheld'
    · exact (h.apart p p r r' q (ExtTreeSet.mem_toList.mp hr) (ExtTreeSet.mem_toList.mp hr')
        hq hq').1
  have hcombatPool : ((s.finalizeCombat p).deallocateCombat p).combatPool =
      (s.combatPool.modify p CombatField.clear).deallocate p := by
    rw [finalizeCombat_eq]
    rfl
  have hrolePool : ((s.finalizeCombat p).deallocateCombat p).rolePool =
      ((s.combat p).roles.toList.foldl dropRole s).rolePool := by
    rw [finalizeCombat_eq]
    rfl
  have hroles : ∀ r, ((s.finalizeCombat p).deallocateCombat p).roles[r]? =
      if r ∈ (s.combat p).roles then none else s.roles[r]? := finalizeCombat_roles s p
  have hother : ∀ p', p' ≠ p → ((s.finalizeCombat p).deallocateCombat p).combat p' = s.combat p' ∨
      ((s.finalizeCombat p).deallocateCombat p).combat p' = default := by
    intro p' hne
    rw [CombatManagers.combat, hcombatPool]
    rcases PoolTemplate.deallocate_read_or (s.combatPool.modify p CombatField.clear) p p' with hsame | hnew
    · exact Or.inl (hsame.trans (PoolTemplate.read_modify_other _ hne _))
    · exact Or.inr hnew
  have hself : ∀ r, r ∉ (((s.finalizeCombat p).deallocateCombat p).combat p).roles := by
    intro r
    rw [CombatManagers.combat, hcombatPool]
    rcases PoolTemplate.deallocate_read_or (s.combatPool.modify p CombatField.clear) p p with hsame | hnew
    · rw [hsame, PoolTemplate.read_modify hp.1]
      exact ExtTreeSet.not_mem_empty
    · rw [hnew]
      exact ExtTreeSet.not_mem_empty
  have hleft : ∀ p' r, r ∈ (((s.finalizeCombat p).deallocateCombat p).combat p').roles →
      p' ≠ p ∧ r ∈ (s.combat p').roles := by
    intro p' r hr
    have hne : p' ≠ p := by
      rintro rfl
      exact hself r hr
    rcases hother p' hne with hsame | hnew
    · rw [hsame] at hr
      exact ⟨hne, hr⟩
    · rw [hnew] at hr
      exact absurd hr ExtTreeSet.not_mem_empty
  -- A role of another combat is none of the roles that were dropped.
  have hstays : ∀ p' r, p' ≠ p → r ∈ (s.combat p').roles → ∃ q, s.roles[r]? = some q ∧
      ((s.finalizeCombat p).deallocateCombat p).roles[r]? = some q ∧
      ((s.finalizeCombat p).deallocateCombat p).rolePool.Held q := by
    intro p' r hne hr
    obtain ⟨q, hq, hq'⟩ := h.members p' r hr
    refine ⟨q, hq, ?_, ?_⟩
    · rw [hroles, if_neg, hq]
      exact fun hin => hne (h.apart p' p r r q hr hin hq hq).2
    · rw [hrolePool]
      refine (hdropped.held q).mpr ⟨hq', fun r' hr' heq => ?_⟩
      exact hne (h.apart p' p r r' q hr (ExtTreeSet.mem_toList.mp hr') hq heq).2
  have hkept : ∀ p', p' ≠ p → s.combatPool.Held p' →
      ((s.finalizeCombat p).deallocateCombat p).combatPool.Held p' := by
    intro p' hne hp'
    rw [hcombatPool]
    exact PoolTemplate.deallocate_held hcleared hheld ((PoolTemplate.held_modify _).mpr hp') hne
  have hsessions : ∀ session x p', ((s.finalizeCombat p).deallocateCombat p).sessions session =
      some x → p' ∈ x.connectedCombats →
        p' ≠ p ∧ ∃ y, s.sessions session = some y ∧ p' ∈ y.connectedCombats := by
    intro session x p' hx hp'
    have hx : (s.disconnectCombat p).sessions session = some x := by
      rw [finalizeCombat_eq] at hx
      exact hx
    obtain ⟨y, hy, hin, hno⟩ := disconnectCombat_connected hx hp'
    refine ⟨?_, y, hy, hin⟩
    rintro rfl
    exact hno rfl (h.acquainted session y p' hy hin)
  refine ⟨?_, fun q => ?_⟩
  · constructor
    · rw [hcombatPool]
      exact (PoolTemplate.deallocate_reduced hcleared hheld).sound
    · rw [hrolePool]
      exact hdropped.sound
    · intro p' r hr
      obtain ⟨hne, hin⟩ := hleft p' r hr
      exact hkept p' hne (h.held p' r hin)
    · intro p' r hr
      obtain ⟨hne, hin⟩ := hleft p' r hr
      obtain ⟨q, _, hq⟩ := hstays p' r hne hin
      exact ⟨q, hq⟩
    · intro p' p'' r r' q hr hr' hq hq'
      obtain ⟨hne, hin⟩ := hleft p' r hr
      obtain ⟨hne', hin'⟩ := hleft p'' r' hr'
      obtain ⟨q₁, hold, hnow, _⟩ := hstays p' r hne hin
      obtain ⟨q₂, hold', hnow', _⟩ := hstays p'' r' hne' hin'
      rw [hnow] at hq
      rw [hnow'] at hq'
      exact h.apart p' p'' r r' q hin hin' (hold.trans hq) (hold'.trans hq')
    · intro session x p' hx hp'
      obtain ⟨hne, y, hy, hin⟩ := hsessions session x p' hx hp'
      exact hkept p' hne (h.connected session y p' hy hin)
    · intro session x p' hx hp'
      obtain ⟨hne, y, hy, hin⟩ := hsessions session x p' hx hp'
      have hp' := h.connected session y p' hy hin
      have hsame : ((s.finalizeCombat p).deallocateCombat p).combatPool.objects p' =
          s.combatPool.objects p' := by
        rw [hcombatPool, PoolTemplate.deallocate_objects hcleared hheld hp'.2 hne]
        exact PoolTemplate.modify_other _ hne _
      rw [CombatManagers.combat, PoolTemplate.read, hsame]
      exact h.acquainted session y p' hy hin
  · rw [hrolePool, hdropped.held]
    refine and_congr_right fun _ => forall_congr' fun r => ?_
    rw [ExtTreeSet.mem_toList]

theorem Garrisoned.abandonCombat (h : s.Garrisoned) (hp : s.combatPool.Held p) :
    (s.abandonCombat p).Garrisoned ∧ ∀ q, (s.abandonCombat p).rolePool.Held q ↔
      s.rolePool.Held q ∧ ∀ r ∈ (s.combat p).roles, s.roles[r]? ≠ some q := by
  have hremoved : (s.removeCombat (s.combat p).id).Garrisoned :=
    ⟨h.combatPool, h.rolePool, h.held, h.members, h.apart, h.connected, h.acquainted⟩
  exact hremoved.giveBack hp

theorem Garrisoned.closeCombat (h : s.Garrisoned) (hp : s.combatPool.Held p) (c : Int) :
    (s.closeCombat c p).Garrisoned := by
  have hgoes := goes_sendSettlement s p
  have hsent := h.goes hgoes
  have hremoved : ((s.sendSettlement p).removeCombat c).Garrisoned :=
    ⟨hsent.combatPool, hsent.rolePool, hsent.held, hsent.members, hsent.apart, hsent.connected,
      hsent.acquainted⟩
  exact (hremoved.giveBack (hgoes.held.mpr hp)).1

/-! ## Deploying -/

/-- The combat at `p` is being deployed: what was handed out since `s₀` is of its roles. -/
structure Levying (s₀ : CombatManagers) (p : Ptr) (s : CombatManagers) : Prop where
  garrisoned : s.Garrisoned
  held : s.combatPool.Held p
  levied : ∀ q, s.rolePool.Held q →
    s₀.rolePool.Held q ∨ ∃ r ∈ (s.combat p).roles, s.roles[r]? = some q

/-- So is the role at `q`, which did not join the combat yet. -/
structure Reserving (s₀ : CombatManagers) (p q : Ptr) (s : CombatManagers) : Prop where
  garrisoned : s.Garrisoned
  held : s.combatPool.Held p
  levied : ∀ q', s.rolePool.Held q' →
    s₀.rolePool.Held q' ∨ (∃ r ∈ (s.combat p).roles, s.roles[r]? = some q') ∨ q' = q
  role : s.rolePool.Held q
  unjoined : s.Unjoined q

/-- What a refused request leaves: nothing is handed out that was not. -/
def Disbanded (s₀ s : CombatManagers) : Prop :=
  s.Garrisoned ∧ ∀ q, s.rolePool.Held q → s₀.rolePool.Held q

theorem Levying.abandonCombat (h : Levying s₀ p s) : Disbanded s₀ (s.abandonCombat p) := by
  obtain ⟨hgarrisoned, hheld⟩ := h.garrisoned.abandonCombat h.held
  refine ⟨hgarrisoned, fun q hq => ?_⟩
  obtain ⟨hold, hnone⟩ := (hheld q).mp hq
  rcases h.levied q hold with hbefore | ⟨r, hr, heq⟩
  · exact hbefore
  · exact absurd heq (hnone r hr)

theorem Reserving.abandonRole (h : Reserving s₀ p q s) : Levying s₀ p (s.abandonRole q) := by
  obtain ⟨hcombatPool, hroles, hrolePool⟩ := abandonRole_frame s q
  have hcombat : (s.abandonRole q).combat p = s.combat p := by
    rw [CombatManagers.combat, hcombatPool]
    rfl
  refine ⟨h.garrisoned.abandonRole h.role h.unjoined, hcombatPool ▸ h.held, fun q' hq' => ?_⟩
  rw [hrolePool] at hq'
  obtain ⟨hheld, hne⟩ := PoolTemplate.held_of_deallocate hq'
  rw [hcombat, hroles]
  rcases h.levied q' ((PoolTemplate.held_modify _).mp hheld) with hbefore | hjoined | heq
  · exact Or.inl hbefore
  · exact Or.inr hjoined
  · exact absurd heq hne

theorem Reserving.modifyRole (h : Reserving s₀ p q s) (q' : Ptr)
    (change : CombatRoleField → CombatRoleField) : Reserving s₀ p q (s.modifyRole q' change) where
  garrisoned := h.garrisoned.modifyRole q' change
  held := h.held
  levied := fun q'' hq'' => h.levied q'' ((PoolTemplate.held_modify change).mp hq'')
  role := (PoolTemplate.held_modify change).mpr h.role
  unjoined := h.unjoined

/-- The object for the next role is taken from the pool. -/
theorem Levying.allocateRole (h : Levying s₀ p s) {answer : Option Ptr}
    {pool : PoolTemplate CombatRoleField} (hanswer : s.rolePool.allocate = (answer, pool)) :
    match answer with
    | none => Levying s₀ p { s with rolePool := pool }
    | some q => Reserving s₀ p q { s with rolePool := pool } := by
  have hgrown := PoolTemplate.grown_of_allocate h.garrisoned.rolePool hanswer
  have hgarrisoned : Garrisoned { s with rolePool := pool } :=
    h.garrisoned.changeRoles hgrown.sound fun _ _ => hgrown.held
  have hor : ∀ q', pool.Held q' → s.rolePool.Held q' ∨ answer = some q' :=
    fun q' => PoolTemplate.allocate_held_or h.garrisoned.rolePool hanswer
  cases answer with
  | none => exact ⟨hgarrisoned, h.held, fun q hq => h.levied q ((hor q hq).resolve_right nofun)⟩
  | some q =>
    obtain ⟨hheld, hnew⟩ := PoolTemplate.allocate_held h.garrisoned.rolePool hanswer
    refine ⟨hgarrisoned, h.held, fun q' hq' => ?_, hheld, h.garrisoned.unjoined hnew⟩
    rcases hor q' hq' with hbefore | heq
    · exact (h.levied q' hbefore).imp_right Or.inl
    · exact Or.inr (Or.inr (Option.some.inj heq).symm)

/-- The role at hand is registered under a free id. -/
theorem Reserving.register (h : Reserving s₀ p q s) (hfree : s.roles[r]? = none) :
    Reserving s₀ p q { s with roles := s.roles.insert r q } where
  garrisoned := h.garrisoned.register hfree q
  held := h.held
  levied := fun q' hq' => by
    rcases h.levied q' hq' with hbefore | ⟨r', hr', heq⟩ | heq
    · exact Or.inl hbefore
    · have hkept : (s.roles.insert r q)[r']? = some q' := by grind
      exact Or.inr (Or.inl ⟨r', hr', hkept⟩)
    · exact Or.inr (Or.inr heq)
  role := h.role
  unjoined := fun p' r' hr' => by
    obtain ⟨q', hq', _⟩ := h.garrisoned.members p' r' hr'
    have hout := h.unjoined p' r' hr'
    have hkept : (s.roles.insert r q)[r']? = s.roles[r']? := by grind
    exact fun heq => hout (hkept.symm.trans heq)

theorem Levying.raiseBuilding (h : Levying s₀ p s) (hostId : UInt64) (campId : Int)
    (description : BuildingDescription) :
    Levying s₀ p (s.raiseBuilding p hostId campId description) where
  garrisoned := h.garrisoned.raiseBuilding hostId campId description
  held := (PoolTemplate.held_modify _).mpr ((PoolTemplate.held_modify _).mpr h.held)
  levied := by
    rw [raiseBuilding_combat h.held.1]
    exact h.levied

theorem Reserving.raiseBuilding (h : Reserving s₀ p q s) (hostId : UInt64) (campId : Int)
    (description : BuildingDescription) :
    Reserving s₀ p q (s.raiseBuilding p hostId campId description) where
  garrisoned := h.garrisoned.raiseBuilding hostId campId description
  held := (PoolTemplate.held_modify _).mpr ((PoolTemplate.held_modify _).mpr h.held)
  levied := by
    rw [raiseBuilding_combat h.held.1]
    exact h.levied
  role := h.role
  unjoined := fun p' r hr => by
    have hroles : ((s.raiseBuilding p hostId campId description).combat p').roles =
        (s.combat p').roles := by
      by_cases hne : p' = p
      · rw [hne, raiseBuilding_combat h.held.1]
        rfl
      · exact congrArg CombatField.roles ((PoolTemplate.read_modify_other _ hne _).trans
          (PoolTemplate.read_modify_other _ hne _))
    rw [hroles] at hr
    exact h.unjoined p' r hr

theorem Reserving.joinRole (h : Reserving s₀ p q s) (hr : s.roles[r]? = some q) :
    Levying s₀ p (s.joinRole p r) := by
  have hcombat : ((s.joinRole p r).combat p).roles = (s.combat p).roles.insert r := by
    simp only [CombatManagers.joinRole, hr]
    exact congrArg CombatField.roles (modifyCombat_combat h.held.1 fun combat =>
      { combat with roles := combat.roles.insert r })
  have hframe : (s.joinRole p r).roles = s.roles ∧
      (∀ q', (s.joinRole p r).rolePool.Held q' ↔ s.rolePool.Held q') ∧
      (s.joinRole p r).combatPool.Held p := by
    simp only [CombatManagers.joinRole, hr]
    exact ⟨rfl, fun q' => PoolTemplate.held_modify _, (PoolTemplate.held_modify _).mpr h.held⟩
  refine ⟨h.garrisoned.joinRole h.held hr h.role h.unjoined, hframe.2.2, fun q' hq' => ?_⟩
  rw [hcombat, hframe.1]
  rcases h.levied q' ((hframe.2.1 q').mp hq') with hbefore | ⟨r', hr', heq⟩ | rfl
  · exact Or.inl hbefore
  · exact Or.inr ⟨r', ExtTreeSet.mem_insert.mpr (Or.inr hr'), heq⟩
  · exact Or.inr ⟨r, ExtTreeSet.mem_insert_self, hr⟩

theorem Levying.registerRole (h : Levying s₀ p s) (camp : CombatCampData) (role : CombatRoleData) :
    Ends (fun t => Reserving s₀ p t.1 t.2 ∧ t.2.roles[(t.2.role t.1).argentId]? = some t.1)
      (Disbanded s₀) (s.registerRole p camp role) := by
  obtain ⟨answer, pool, hanswer⟩ : ∃ answer pool, s.rolePool.allocate = (answer, pool) :=
    ⟨_, _, rfl⟩
  have hallocate := h.allocateRole hanswer
  simp only [CombatManagers.registerRole, CombatManagers.allocateRole, hanswer]
  cases answer with
  | none => exact hallocate.abandonCombat
  | some q =>
    have hset := hallocate.modifyRole q fun object =>
      (object.initializeRole role.argentId role.name).setCamp camp
    dsimp only
    generalize ({ s with rolePool := pool } : CombatManagers).modifyRole q (fun object =>
      (object.initializeRole role.argentId role.name).setCamp camp) = set at *
    by_cases htaken : (set.role q).argentId ∈ set.roles
    · rw [addRole_taken htaken]
      exact hset.abandonRole.abandonCombat
    · rw [addRole_free htaken]
      have hregistered := hset.register (ExtTreeMap.getElem?_eq_none htaken)
      refine ⟨hregistered.modifyRole q _, ?_⟩
      have hrole := modifyRole_role (s := { set with
        roles := set.roles.insert (set.role q).argentId q }) hset.role.1 fun object =>
          role.warriors.foldl CombatRoleField.addWarriorDescription object
      have hargentId : (({ set with
          roles := set.roles.insert (set.role q).argentId q }.modifyRole q fun object =>
            role.warriors.foldl CombatRoleField.addWarriorDescription object).role q).argentId =
          (set.role q).argentId := by
        rw [hrole, CombatRoleField.addWarriorDescriptions_eq]
        rfl
      rw [hargentId]
      exact ExtTreeMap.getElem?_insert_self

theorem levyingRule (s₀ : CombatManagers) (p : Ptr) :
    DeployRule p (fun _ s => Levying s₀ p s)
      (fun q _ s => Reserving s₀ p q s ∧ s.roles[(s.role q).argentId]? = some q)
      (Disbanded s₀) where
  role := fun camp role _ s h => h.registerRole camp role
  roleBuilding := by
    rintro q campId description rest s ⟨h, hregistered⟩
    have hanswered : Reserving s₀ p q { s with buildingAnswers := s.buildingAnswers.tail } :=
      { h with garrisoned := h.garrisoned.goes (goes_outside s _ _ _ _ _) }
    simp only [deployRoleBuilding, allocateBuilding]
    cases s.buildingAnswers.headD false with
    | false => exact hanswered.abandonRole.abandonCombat
    | true =>
      have hraised := hanswered.raiseBuilding (s.role q).argentId campId description
      have hkept : ∀ t : CombatManagers, t.rolePool = s.rolePool → t.roles = s.roles →
          (t.rolePool.objects q).isSome →
          (t.modifyRole q fun role => role.incBuildingNum 1).roles[
            ((t.modifyRole q fun role => role.incBuildingNum 1).role q).argentId]? = some q := by
        intro t hpool hroles hlive
        rw [modifyRole_role hlive]
        show t.roles[(t.role q).argentId]? = some q
        rw [hroles, CombatManagers.role, hpool]
        exact hregistered
      exact ⟨hraised.modifyRole q _, hkept _ rfl rfl hraised.role.1⟩
  joinRole := fun q _ s h => h.1.joinRole h.2
  campBuilding := by
    intro campId description rest s h
    have hanswered : Levying s₀ p { s with buildingAnswers := s.buildingAnswers.tail } :=
      { h with garrisoned := h.garrisoned.goes (goes_outside s _ _ _ _ _) }
    simp only [deployCampBuilding, allocateBuilding]
    cases s.buildingAnswers.headD false with
    | false => exact hanswered.abandonCombat
    | true => exact hanswered.raiseBuilding 0 campId description

/-! ## The request -/

theorem Garrisoned.changeCombats (h : s.Garrisoned) {pool : PoolTemplate CombatField}
    (hanswer : s.combatPool.allocate.2 = pool) : Garrisoned { s with combatPool := pool } := by
  have hgrown := PoolTemplate.allocate_grown h.combatPool
  have hcombat : ∀ p, ({ s with combatPool := pool } : CombatManagers).combat p = s.combat p := by
    intro p
    have hsame := allocate_read s.combatPool p
    rwa [hanswer] at hsame
  rw [hanswer] at hgrown
  constructor
  · exact hgrown.sound
  · exact h.rolePool
  · intro p r hr
    rw [hcombat] at hr
    exact hgrown.held (h.held p r hr)
  · intro p r hr
    rw [hcombat] at hr
    exact h.members p r hr
  · intro p p' r r' q hr hr'
    rw [hcombat] at hr hr'
    exact h.apart p p' r r' q hr hr'
  · exact fun session x p hx hp => hgrown.held (h.connected session x p hx hp)
  · intro session x p hx hp
    rw [hcombat]
    exact h.acquainted session x p hx hp

/-- The combat at `p` gets a session, which nobody had connected it to. -/
theorem Garrisoned.initializeCombat (h : s.Garrisoned) (hp : s.combatPool.Held p)
    (hroles : ∀ r, r ∉ (s.combat p).roles)
    (hfresh : ∀ session x, s.sessions session = some x → p ∉ x.connectedCombats)
    (data : CombatInitialData) (session : SessionPtr) :
    (s.initializeCombat p data session).Garrisoned := by
  have hcombat : (s.initializeCombat p data session).combat p =
      (s.combat p).initializeCombat data.mapId data.maxTime session :=
    PoolTemplate.read_modify hp.1 _
  have hother : ∀ p', p' ≠ p → (s.initializeCombat p data session).combat p' = s.combat p' :=
    fun p' hne => PoolTemplate.read_modify_other _ hne _
  have hmember : ∀ p' r, r ∈ ((s.initializeCombat p data session).combat p').roles →
      r ∈ (s.combat p').roles := by
    intro p' r hr
    by_cases hne : p' = p
    · rw [hne, hcombat] at hr
      exact absurd hr (hroles r)
    · rwa [hother p' hne] at hr
  have hsessions : ∀ session' x p', (s.initializeCombat p data session).sessions session' = some x →
      p' ∈ x.connectedCombats → session' = session ∧ p' = p ∨
        ∃ y, s.sessions session' = some y ∧ p' ∈ y.connectedCombats := by
    intro session' x p' hx hp'
    have hx : Function.update s.sessions session ((s.sessions session).map fun y =>
        { y with connectedCombats := y.connectedCombats.insert p }) session' = some x := hx
    by_cases heq : session' = session
    · subst heq
      rw [Function.update_self, Option.map_eq_some_iff] at hx
      obtain ⟨y, hy, rfl⟩ := hx
      rcases ExtTreeSet.mem_insert.mp hp' with hnew | hin
      · exact Or.inl ⟨rfl, (Std.compare_eq_iff_eq.mp hnew).symm⟩
      · exact Or.inr ⟨y, hy, hin⟩
    · rw [Function.update_of_ne heq] at hx
      exact Or.inr ⟨x, hx, hp'⟩
  constructor
  · exact h.combatPool.modify p _
  · exact h.rolePool
  · exact fun p' r hr => (PoolTemplate.held_modify _).mpr (h.held p' r (hmember p' r hr))
  · exact fun p' r hr => h.members p' r (hmember p' r hr)
  · exact fun p' p'' r r' q hr hr' =>
      h.apart p' p'' r r' q (hmember p' r hr) (hmember p'' r' hr')
  · intro session' x p' hx hp'
    refine (PoolTemplate.held_modify _).mpr ?_
    rcases hsessions session' x p' hx hp' with ⟨_, rfl⟩ | ⟨y, hy, hin⟩
    · exact hp
    · exact h.connected session' y p' hy hin
  · intro session' x p' hx hp'
    rcases hsessions session' x p' hx hp' with ⟨rfl, rfl⟩ | ⟨y, hy, hin⟩
    · rw [hcombat]
      rfl
    · have hne : p' ≠ p := by
        rintro rfl
        exact hfresh session' y hy hin
      rw [hother p' hne]
      exact h.acquainted session' y p' hy hin

theorem Garrisoned.opened (h : s.Garrisoned) {pool : PoolTemplate CombatField}
    (hanswer : s.combatPool.allocate = (some p, pool)) (data : CombatInitialData)
    (session : SessionPtr) :
    (s.openCombat p pool data session).Garrisoned ∧
      (s.openCombat p pool data session).combatPool.Held p := by
  obtain ⟨hheld, hnew⟩ := PoolTemplate.allocate_held h.combatPool hanswer
  have hgrown : Garrisoned { s with combatPool := pool } :=
    h.changeCombats (congrArg Prod.snd hanswer)
  have hcounted : Garrisoned { s with
      combatPool := pool.modify p fun combat => { combat with id := s.combatIds }
      combatIds := s.combatIds + 1 } := by
    have hset : (({ s with combatPool := pool } : CombatManagers).modifyCombat p
        fun combat => { combat with id := s.combatIds }).Garrisoned :=
      hgrown.modifyCombat rfl rfl
    exact { hset with }
  have hroles : ∀ r, r ∉ ((pool.modify p fun combat => { combat with id := s.combatIds }).read
      p).roles := by
    intro r hr
    rw [PoolTemplate.read_modify hheld.1] at hr
    have hsame := allocate_read s.combatPool p
    rw [hanswer] at hsame
    have hr : r ∈ (pool.read p).roles := hr
    rw [hsame] at hr
    exact hnew (h.held p r hr)
  refine ⟨hcounted.initializeCombat ((PoolTemplate.held_modify _).mpr hheld) hroles ?_ data
    session, (PoolTemplate.held_modify _).mpr ((PoolTemplate.held_modify _).mpr hheld)⟩
  exact fun session x hx hin => hnew (h.connected session x p hx hin)

theorem Garrisoned.ends_deploy (h : s.Garrisoned) (session : SessionPtr)
    (data : CombatInitialData) :
    Ends (fun r => r.2.Garrisoned) (Disbanded s) (s.deployCombat session data) := by
  obtain ⟨answer, pool, hanswer⟩ : ∃ answer pool, s.combatPool.allocate = (answer, pool) :=
    ⟨_, _, rfl⟩
  cases answer with
  | none =>
    rw [deployCombat_none hanswer]
    exact ⟨h.changeCombats (congrArg Prod.snd hanswer), fun _ hq => hq⟩
  | some p =>
    obtain ⟨hopened, hheld⟩ := h.opened hanswer data session
    cases hadd : (s.openCombat p pool data session).addCombat p with
    | none =>
      rw [deployCombat_taken hanswer hadd]
      obtain ⟨hgarrisoned, hback⟩ := hopened.giveBack hheld
      exact ⟨hgarrisoned, fun q hq => ((hback q).mp hq).1⟩
    | some added =>
      rw [deployCombat_added hanswer hadd]
      have hstart : Levying s p added := by
        simp only [addCombat] at hadd
        split at hadd
        · cases hadd
        · obtain rfl := Option.some.inj hadd
          exact ⟨{ hopened with }, hheld, fun _ hq => Or.inl hq⟩
      refine Ends.bind ((levyingRule s p).ends_deployCamps hstart) fun t ht => ?_
      exact ht.garrisoned

theorem Garrisoned.deploy (h : s.Garrisoned) (session : SessionPtr) (hostId : Int)
    (data : CombatInitialData) :
    (s.onMessageCombatDeployRequest session hostId data).Garrisoned := by
  have hends := h.ends_deploy session data
  rw [onMessageCombatDeployRequest]
  split
  · rename_i t ht
    exact (hends.error ht).1.goes (goes_send t _ _)
  · rename_i p t ht
    exact Garrisoned.goes (hends.ok ht) (goes_send t _ _)

end CombatManagers

/-! ## Every state -/

/-- No step of the server loses count of the roles. -/
theorem garrisonedRule :
    SceneRule (fun m _ => m.Garrisoned) (fun _ _ _ => True) (fun _ => True) where
  calm := fun h _ => h
  goes := fun h _ hgoes => h.goes hgoes
  deploy := fun session hostId data h _ _ => h.deploy session hostId data
  memory := fun {s} memory h => by
    have hgoes : Goes s.managers (s.setMemory memory).managers := goes_outside _ _ _ _ _ _
    exact h.goes hgoes
  timer := fun _ _ h => h
  settleTimer := fun h _ => h
  stepTo := fun h _ _ _ => h
  build := fun h _ hgoes _ _ _ _ => h.goes hgoes
  death := fun _ _ h => h
  begins := fun _ _ _ => trivial
  begin := fun h _ _ _ => h
  settle := fun {m a c p} h he hc => h.closeCombat (he.combats c p hc).1 c

namespace Server

theorem reaches_garrisoned {configs : Configs} {memory : Memory} {s : Server}
    (hs : Reaches (fun s a => some (step s a)) (fun _ _ => True) (started configs memory) s) :
    s.managers.Garrisoned := by
  have hkeeps : s.Keeps fun m _ => m.Garrisoned := by
    refine hs.invariant ⟨?_, started_garrisoned _ _ _ _ _ _ _ _⟩ fun s a s' h _ hstep => ?_
    · exact (started_combats configs.combatInitialSize configs.combatExtendSize
        configs.combatRoleInitialSize configs.combatRoleExtendSize memory.combats memory.roles
        memory.buildingAnswers memory.warriorAnswers).1
    · cases hstep
      exact garrisonedRule.step h ⟨fun _ _ _ => trivial, fun _ _ _ _ => trivial⟩
  exact hkeeps.2

end Server

end Mysya
