import Mysya.CombatTeardown

/-!
# Consistent combats

What holds of the managers between two messages: registered combats and roles were
handed out and know their ids, a role belongs to the combat it points to, and the
warriors of a combat are led by its roles. While a combat is being deployed the role
at hand is the one exception, since it is registered before it joins.
-/

open Std

namespace Mysya.CombatManagers

variable {s s' : CombatManagers} {p q : Ptr} {r : UInt64} {pending : Option UInt64}

theorem modifyCombat_or (s : CombatManagers) (p p' : Ptr) (change : CombatField → CombatField) :
    (s.modifyCombat p change).combat p' = s.combat p' ∨
      p' = p ∧ (s.modifyCombat p change).combat p' = change (s.combat p) := by
  by_cases hp : p' = p
  · by_cases hlive : (s.combatPool.objects p).isSome
    · exact Or.inr ⟨hp, hp ▸ modifyCombat_combat hlive change⟩
    · rw [Option.not_isSome_iff_eq_none] at hlive
      exact Or.inl (by simp [combat, modifyCombat, PoolTemplate.read, hp, hlive])
  · exact Or.inl (PoolTemplate.read_modify_other _ hp change)

theorem modifyRole_or (s : CombatManagers) (q q' : Ptr)
    (change : CombatRoleField → CombatRoleField) :
    (s.modifyRole q change).role q' = s.role q' ∨
      q' = q ∧ (s.modifyRole q change).role q' = change (s.role q) := by
  by_cases hq : q' = q
  · by_cases hlive : (s.rolePool.objects q).isSome
    · exact Or.inr ⟨hq, hq ▸ modifyRole_role hlive change⟩
    · rw [Option.not_isSome_iff_eq_none] at hlive
      exact Or.inl (by simp [role, modifyRole, PoolTemplate.read, hq, hlive])
  · exact Or.inl (PoolTemplate.read_modify_other _ hq change)

/-- The ids in the combat at `p` come from its allocator, and its roles lead its warriors. -/
structure Fielded (s : CombatManagers) (p : Ptr) : Prop where
  warriors : ∀ (id : Int) (w : CombatWarriorField), (s.combat p).warriors[id]? = some w →
    id ≤ (s.combat p).idAlloctor ∧ w.hostId ∈ (s.combat p).roles ∧
      s.roles[w.hostId]? = some w.host
  buildings : ∀ (id : Int) (b : CombatBuildingField), (s.combat p).buildings[id]? = some b →
    id ≤ (s.combat p).idAlloctor ∧ b.id = id

/-- `pending` is the role that is registered and did not join a combat yet. -/
structure Consistent (s : CombatManagers) (pending : Option UInt64) : Prop
    extends s.Orderly where
  combats : ∀ (c : Int) (p : Ptr), s.combats[c]? = some p →
    s.combatPool.Held p ∧ (s.combat p).id = c ∧ c < s.combatIds
  fielded : ∀ (c : Int) (p : Ptr), s.combats[c]? = some p → s.Fielded p
  members : ∀ (c : Int) (p : Ptr) (r : UInt64), s.combats[c]? = some p →
    r ∈ (s.combat p).roles → ∃ q, s.roles[r]? = some q ∧ (s.role q).combatField = some p
  roles : ∀ (r : UInt64) (q : Ptr), s.roles[r]? = some q →
    (s.role q).argentId = r ∧ (s.role q).food ≤ (s.role q).foodMax
  joined : ∀ (r : UInt64) (q : Ptr), s.roles[r]? = some q → pending = some r ∨
    ∃ (c : Int) (p : Ptr), s.combats[c]? = some p ∧ r ∈ (s.combat p).roles
  apart : ∀ (r : UInt64) (c : Int) (p : Ptr), pending = some r → s.combats[c]? = some p →
    r ∉ (s.combat p).roles
  emptied : ∀ p, ¬ s.combatPool.Held p →
    (s.combat p).warriors = ∅ ∧ (s.combat p).buildings = ∅
  linked : ∀ session x p, s.sessions session = some x → p ∈ x.connectedCombats →
    (s.combat p).appSession = some session

theorem Consistent.alone (h : s.Consistent pending) (r : UInt64) : s.Alone r := by
  intro r' q hq hq'
  rw [← (h.roles r q hq).1, (h.roles r' q hq').1]

/-- A combat has one id. -/
theorem Consistent.combat_unique (h : s.Consistent pending) {c c' : Int}
    (hc : s.combats[c]? = some p) (hc' : s.combats[c']? = some p) : c = c' := by
  rw [← (h.combats c p hc).2.1, (h.combats c' p hc').2.1]

/-- A role is in the combat it points to and in no other. -/
theorem Consistent.member_unique (h : s.Consistent pending) {c c' : Int} {p' : Ptr}
    (hc : s.combats[c]? = some p) (hc' : s.combats[c']? = some p')
    (hr : r ∈ (s.combat p).roles) (hr' : r ∈ (s.combat p').roles) : p = p' := by
  obtain ⟨q, hq, hcombat⟩ := h.members c p r hc hr
  obtain ⟨q', hq', hcombat'⟩ := h.members c' p' r hc' hr'
  rw [hq, Option.some.injEq] at hq'
  rw [← hq', hcombat, Option.some.injEq] at hcombat'
  exact hcombat'

theorem Consistent.role_combat (h : s.Consistent none) (hr : s.roles[r]? = some q)
    (hcombat : (s.role q).combatField = some p) :
    ∃ c : Int, s.combats[c]? = some p ∧ r ∈ (s.combat p).roles := by
  rcases h.joined r q hr with hnone | ⟨c, p', hc, hin⟩
  · cases hnone
  · obtain ⟨q', hq', hcombat'⟩ := h.members c p' r hc hin
    obtain rfl : q = q' := Option.some.inj (hr.symm.trans hq')
    obtain rfl : p = p' := Option.some.inj (hcombat.symm.trans hcombat')
    exact ⟨c, hc, hin⟩

theorem started_consistent (combatSize combatExtend roleSize roleExtend : Nat)
    (combatNews roleNews : List (Option Ptr)) (buildingAnswers warriorAnswers : List Bool) :
    (started (.new combatSize combatExtend combatNews) (.new roleSize roleExtend roleNews)
      buildingAnswers warriorAnswers).Consistent none := by
  constructor
  · exact started_orderly combatSize combatExtend roleSize roleExtend combatNews roleNews
      buildingAnswers warriorAnswers
  · simp [started]
  · simp [started]
  · simp [started]
  · simp [started]
  · simp [started]
  · simp
  · intro p _
    rcases (PoolTemplate.new_grown (E := CombatField) combatSize combatExtend combatNews).objects p
      with hnone | ⟨_, hnew⟩
    · simp only [combat, started, PoolTemplate.read, hnone]
      exact ⟨rfl, rfl⟩
    · simp only [combat, started, PoolTemplate.read, hnew]
      exact ⟨rfl, rfl⟩
  · simp [started]

/-! ## Changes that leave the registries -/

/-- What keeps the managers consistent without a look at the fields of the combats. -/
structure Alike (s s' : CombatManagers) : Prop where
  combatSound : s.combatPool.Sound → s'.combatPool.Sound
  combatHeld : ∀ p, s'.combatPool.Held p ↔ s.combatPool.Held p
  roleSound : s.rolePool.Sound → s'.rolePool.Sound
  roleHeld : ∀ (r : UInt64) (q : Ptr), s.roles[r]? = some q → s.rolePool.Held q →
    s'.rolePool.Held q
  combats : s'.combats = s.combats
  roles : s'.roles = s.roles
  combatIds : s'.combatIds = s.combatIds
  connected : ∀ session x p, s'.sessions session = some x → p ∈ x.connectedCombats →
    ∃ y, s.sessions session = some y ∧ p ∈ y.connectedCombats
  linked : ∀ session x p, s'.sessions session = some x → p ∈ x.connectedCombats →
    (s'.combat p).appSession = (s.combat p).appSession
  combat : ∀ p, (s'.combat p).id = (s.combat p).id ∧ (s'.combat p).roles = (s.combat p).roles
  role : ∀ (r : UInt64) (q : Ptr), s.roles[r]? = some q → s.rolePool.Held q →
    (s'.role q).argentId = (s.role q).argentId ∧ (s'.role q).combatField = (s.role q).combatField ∧
    ((s.role q).food ≤ (s.role q).foodMax → (s'.role q).food ≤ (s'.role q).foodMax)
  emptied : ∀ p, ¬ s.combatPool.Held p → s'.combat p = s.combat p

theorem Consistent.alike (h : s.Consistent pending) (ha : Alike s s')
    (hfielded : ∀ (c : Int) (p : Ptr), s.combats[c]? = some p → s'.Fielded p) :
    s'.Consistent pending := by
  constructor
  · constructor
    · constructor
      · exact ha.roleSound h.sound
      · intro r q hq
        rw [ha.roles] at hq
        exact ha.roleHeld r q hq (h.held r q hq)
    · exact ha.combatSound h.combatPool
    · intro session x p hx hp
      obtain ⟨y, hy, hin⟩ := ha.connected session x p hx hp
      exact (ha.combatHeld p).mpr (h.connected session y p hy hin)
    · intro p hp
      rw [(ha.combat p).2]
      exact h.cleared p fun hheld => hp ((ha.combatHeld p).mpr hheld)
  · intro c p hc
    rw [ha.combats] at hc
    rw [ha.combatHeld, (ha.combat p).1, ha.combatIds]
    exact h.combats c p hc
  · intro c p hc
    rw [ha.combats] at hc
    exact hfielded c p hc
  · intro c p r hc hr
    rw [ha.combats] at hc
    rw [(ha.combat p).2] at hr
    obtain ⟨q, hq, hcombat⟩ := h.members c p r hc hr
    refine ⟨q, ?_, ?_⟩
    · rw [ha.roles, hq]
    · rw [(ha.role r q hq (h.held r q hq)).2.1, hcombat]
  · intro r q hq
    rw [ha.roles] at hq
    obtain ⟨hargentId, hfood⟩ := h.roles r q hq
    obtain ⟨hargentId', _, hfood'⟩ := ha.role r q hq (h.held r q hq)
    exact ⟨hargentId'.trans hargentId, hfood' hfood⟩
  · intro r q hq
    rw [ha.roles] at hq
    rcases h.joined r q hq with hpending | ⟨c, p, hc, hin⟩
    · exact Or.inl hpending
    · refine Or.inr ⟨c, p, ?_, ?_⟩
      · rw [ha.combats, hc]
      · rw [(ha.combat p).2]
        exact hin
  · intro r c p hpending hc
    rw [ha.combats] at hc
    rw [(ha.combat p).2]
    exact h.apart r c p hpending hc
  · intro p hp
    have hp' : ¬ s.combatPool.Held p := fun hheld => hp ((ha.combatHeld p).mpr hheld)
    rw [ha.emptied p hp']
    exact h.emptied p hp'
  · intro session x p hx hp
    obtain ⟨y, hy, hin⟩ := ha.connected session x p hx hp
    rw [ha.linked session x p hx hp]
    exact h.linked session y p hy hin

/-- The fields of a combat are as they were. -/
theorem Fielded.same (h : s.Fielded p) (hcombat : s'.combat p = s.combat p)
    (hroles : s'.roles = s.roles) : s'.Fielded p := by
  constructor
  · rw [hcombat, hroles]
    exact h.warriors
  · rw [hcombat]
    exact h.buildings

/-! ### Roles -/

theorem alike_modifyRole {change : CombatRoleField → CombatRoleField}
    (hchange : ∀ r : UInt64, s.roles[r]? = some q →
      (change (s.role q)).argentId = (s.role q).argentId ∧
      (change (s.role q)).combatField = (s.role q).combatField ∧
      ((s.role q).food ≤ (s.role q).foodMax →
        (change (s.role q)).food ≤ (change (s.role q)).foodMax)) :
    Alike s (s.modifyRole q change) := by
  constructor
  · exact id
  · exact fun p => Iff.rfl
  · exact fun h => h.modify q change
  · exact fun _ q' _ => (PoolTemplate.held_modify change).mpr
  · rfl
  · rfl
  · rfl
  · exact fun session x p hx hp => ⟨x, hx, hp⟩
  · exact fun session x p _ _ => rfl
  · exact fun p => ⟨rfl, rfl⟩
  · intro r q' hq' _
    rcases modifyRole_or s q q' change with hsame | ⟨rfl, hchanged⟩
    · rw [hsame]
      exact ⟨rfl, rfl, id⟩
    · rw [hchanged]
      exact hchange r hq'
  · exact fun p _ => rfl

theorem Consistent.modifyRole (h : s.Consistent pending)
    {change : CombatRoleField → CombatRoleField}
    (hargentId : (change (s.role q)).argentId = (s.role q).argentId)
    (hcombatField : (change (s.role q)).combatField = (s.role q).combatField)
    (hfood : (s.role q).food ≤ (s.role q).foodMax →
      (change (s.role q)).food ≤ (change (s.role q)).foodMax) :
    (s.modifyRole q change).Consistent pending :=
  h.alike (alike_modifyRole fun _ _ => ⟨hargentId, hcombatField, hfood⟩) fun c p hc =>
    (h.fielded c p hc).same rfl rfl

/-- A role that is not registered may change as it likes. -/
theorem Consistent.modifyFree (h : s.Consistent pending) (hfree : ∀ r : UInt64, s.roles[r]? ≠ some q)
    (change : CombatRoleField → CombatRoleField) : (s.modifyRole q change).Consistent pending :=
  h.alike (alike_modifyRole fun r hq => absurd hq (hfree r)) fun c p hc =>
    (h.fielded c p hc).same rfl rfl

/-- What lies outside the registries and the objects. -/
theorem Consistent.outside (h : s.Consistent pending) (combatNews roleNews : List (Option Ptr))
    (buildingAnswers warriorAnswers : List Bool) (sent : List (SessionPtr × CombatMessage)) :
    ({ s with
      combatPool := { s.combatPool with news := combatNews }
      rolePool := { s.rolePool with news := roleNews }
      buildingAnswers := buildingAnswers
      warriorAnswers := warriorAnswers
      sent := sent } : CombatManagers).Consistent pending := by
  refine h.alike ?_ fun c p hc => (h.fielded c p hc).same rfl rfl
  constructor
  · exact fun h => ⟨h.nodup, h.live⟩
  · exact fun p => Iff.rfl
  · exact fun h => ⟨h.nodup, h.live⟩
  · exact fun _ q _ => id
  · rfl
  · rfl
  · rfl
  · exact fun session x p hx hp => ⟨x, hx, hp⟩
  · exact fun session x p _ _ => rfl
  · exact fun p => ⟨rfl, rfl⟩
  · exact fun _ q _ _ => ⟨rfl, rfl, id⟩
  · exact fun p _ => rfl

/-! ### Combats -/

theorem alike_modifyCombat {change : CombatField → CombatField} (hheld : s.combatPool.Held p)
    (hid : (change (s.combat p)).id = (s.combat p).id)
    (hroles : (change (s.combat p)).roles = (s.combat p).roles)
    (hlinked : ∀ session x, s.sessions session = some x → p ∈ x.connectedCombats →
      (change (s.combat p)).appSession = (s.combat p).appSession) :
    Alike s (s.modifyCombat p change) := by
  constructor
  · exact fun h => h.modify p change
  · exact fun p' => PoolTemplate.held_modify change
  · exact id
  · exact fun _ q _ => id
  · rfl
  · rfl
  · rfl
  · exact fun session x p hx hp => ⟨x, hx, hp⟩
  · intro session x p' hx hp'
    rcases modifyCombat_or s p p' change with hsame | ⟨rfl, hchanged⟩
    · rw [hsame]
    · rw [hchanged]
      exact hlinked session x hx hp'
  · intro p'
    rcases modifyCombat_or s p p' change with hsame | ⟨rfl, hchanged⟩
    · rw [hsame]
      exact ⟨rfl, rfl⟩
    · rw [hchanged]
      exact ⟨hid, hroles⟩
  · exact fun _ q _ _ => ⟨rfl, rfl, id⟩
  · intro p' hp'
    have hne : p' ≠ p := by
      rintro rfl
      exact hp' hheld
    exact PoolTemplate.read_modify_other _ hne change

/-- Changing the combat at `p` so that its fields stay in order. -/
theorem Consistent.modifyCombat (h : s.Consistent pending) {change : CombatField → CombatField}
    {c : Int} (hc : s.combats[c]? = some p)
    (hid : (change (s.combat p)).id = (s.combat p).id)
    (hroles : (change (s.combat p)).roles = (s.combat p).roles)
    (happSession : (change (s.combat p)).appSession = (s.combat p).appSession)
    (hfielded : s.Fielded p → (s.modifyCombat p change).Fielded p) :
    (s.modifyCombat p change).Consistent pending := by
  refine h.alike (alike_modifyCombat (h.combats c p hc).1 hid hroles
    fun _ _ _ _ => happSession) ?_
  intro c' p' hc'
  by_cases hp : p' = p
  · rw [hp]
    exact hfielded (h.fielded c p hc)
  · exact (h.fielded c' p' hc').same (PoolTemplate.read_modify_other _ hp change) rfl

/-! ## Taking a combat down -/

/-- No session that the combat was connected to has it still. -/
theorem disconnectCombat_connected {session : SessionPtr} {x : AppSession} {p' : Ptr}
    (hx : (s.disconnectCombat p).sessions session = some x) (hp' : p' ∈ x.connectedCombats) :
    ∃ y, s.sessions session = some y ∧ p' ∈ y.connectedCombats ∧
      (p' = p → (s.combat p).appSession ≠ some session) := by
  simp only [disconnectCombat] at hx
  split at hx
  · rename_i hnone
    exact ⟨x, hx, hp', fun _ => by simp [hnone]⟩
  · rename_i session' hsession'
    by_cases hsession : session = session'
    · subst hsession
      simp only [modifySession, Function.update_self, Option.map_eq_some_iff] at hx
      obtain ⟨y, hy, rfl⟩ := hx
      rw [ExtTreeSet.mem_erase] at hp'
      refine ⟨y, hy, hp'.2, ?_⟩
      rintro rfl
      simp at hp'
    · simp only [modifySession, ne_eq, hsession, not_false_eq_true, Function.update_of_ne] at hx
      refine ⟨x, hx, hp', fun _ => ?_⟩
      rw [hsession']
      simpa using Ne.symm hsession

/-- What is left when the combat `c` at `p` was taken down. -/
structure TakenDown (s : CombatManagers) (c : Int) (p : Ptr) (s' : CombatManagers) : Prop
    extends s'.Registered where
  combatPool : s'.combatPool.Sound
  combats : s'.combats = s.combats.erase c
  roles : ∀ r : UInt64, s'.roles[r]? = if r ∈ (s.combat p).roles then none else s.roles[r]?
  combatIds : s'.combatIds = s.combatIds
  free : ¬ s'.combatPool.Held p
  combat : ∀ p', s.combatPool.Held p' → p' ≠ p →
    s'.combatPool.Held p' ∧ s'.combatPool.objects p' = s.combatPool.objects p'
  others : ∀ p', p' ≠ p → s'.combat p' = s.combat p' ∨ s'.combat p' = default
  left : s'.combat p = (s.combat p).clear ∨ s'.combat p = default
  role : ∀ q, s.rolePool.Held q → (∀ r ∈ (s.combat p).roles, s.roles[r]? ≠ some q) →
    s'.rolePool.Held q ∧ s'.rolePool.objects q = s.rolePool.objects q
  connected : ∀ session x p', s'.sessions session = some x → p' ∈ x.connectedCombats →
    ∃ y, s.sessions session = some y ∧ p' ∈ y.connectedCombats ∧
      (p' = p → (s.combat p).appSession ≠ some session)

theorem Consistent.takenDown (h : s.Consistent pending) {c : Int} (hc : s.combats[c]? = some p) :
    TakenDown s c p (s.abandonCombat p) := by
  have hheld := (h.combats c p hc).1
  have hid := (h.combats c p hc).2.1
  have hsound := h.combatPool.modify p CombatField.clear
  have hheld' : (s.combatPool.modify p CombatField.clear).Held p :=
    (PoolTemplate.held_modify _).mpr hheld
  have habandon : s.abandonCombat p =
      (s.removeCombat c |>.finalizeCombat p).deallocateCombat p := by
    rw [CombatManagers.abandonCombat, hid]
  have hregistered : (s.removeCombat c).Registered := ⟨h.sound, h.held⟩
  have halone : ∀ r ∈ (s.combat p).roles.toList, (s.removeCombat c).Alone r :=
    fun r _ => h.alone r
  have hcombat : (s.abandonCombat p).combatPool =
      (s.combatPool.modify p CombatField.clear).deallocate p := by
    rw [habandon, finalizeCombat_eq]
    rfl
  have hrole : (s.abandonCombat p).rolePool =
      ((s.combat p).roles.toList.foldl dropRole (s.removeCombat c)).rolePool := by
    rw [habandon, finalizeCombat_eq]
    rfl
  have hobjects : ∀ p', (s.abandonCombat p).combatPool.objects p' =
      (s.combatPool.modify p CombatField.clear).objects p' ∨
      (s.abandonCombat p).combatPool.objects p' = none := by
    rw [hcombat]
    exact PoolTemplate.deallocate_objects_or _ p
  have hdefault : ∀ p', (s.abandonCombat p).combatPool.objects p' = none →
      (s.abandonCombat p).combat p' = default := by
    intro p' hnone
    simp [CombatManagers.combat, PoolTemplate.read, hnone]
  constructor
  · have hfinal := finalizeCombat_registered (p := p) hregistered fun r _ => h.alone r
    rw [habandon]
    exact ⟨hfinal.sound, hfinal.held⟩
  · rw [hcombat]
    exact (PoolTemplate.deallocate_reduced hsound hheld').sound
  · rw [habandon]
    exact finalizeCombat_combats _ p
  · intro r
    rw [habandon]
    exact finalizeCombat_roles (s.removeCombat c) p r
  · rw [habandon, finalizeCombat_eq]
    rfl
  · rw [hcombat]
    exact PoolTemplate.deallocate_not_held _ p
  · intro p' hp' hne
    rw [hcombat]
    have hkept : (s.combatPool.modify p CombatField.clear).Held p' :=
      (PoolTemplate.held_modify _).mpr hp'
    refine ⟨PoolTemplate.deallocate_held hsound hheld' hkept hne, ?_⟩
    rw [PoolTemplate.deallocate_objects hsound hheld' hkept.2 hne,
      PoolTemplate.modify_other _ hne]
  · intro p' hne
    rcases hobjects p' with hsame | hnone
    · rw [PoolTemplate.modify_other _ hne] at hsame
      exact Or.inl (by simp only [CombatManagers.combat, PoolTemplate.read, hsame])
    · exact Or.inr (hdefault p' hnone)
  · rcases hobjects p with hsame | hnone
    · refine Or.inl ?_
      rw [← modifyCombat_combat hheld.1 CombatField.clear]
      simp only [CombatManagers.combat, PoolTemplate.read, hsame, CombatManagers.modifyCombat]
    · exact Or.inr (hdefault p hnone)
  · intro q hq hout
    rw [hrole]
    have hdropped := (hregistered.droppable halone).dropped
    have hkept := (hdropped.held q).mpr ⟨hq, fun r hr => hout r (by simpa using hr)⟩
    exact ⟨hkept, hdropped.objects q hkept⟩
  · intro session x p' hx hp'
    rw [habandon, finalizeCombat_eq] at hx
    exact disconnectCombat_connected (s := s.removeCombat c) hx hp'

namespace TakenDown

variable {c c' : Int} {p' : Ptr}

/-- The combats that are left. -/
theorem combats_iff (ht : TakenDown s c p s') :
    s'.combats[c']? = some p' ↔ c' ≠ c ∧ s.combats[c']? = some p' := by
  rw [ht.combats]
  grind

theorem combat_eq (ht : TakenDown s c p s') (hp' : s.combatPool.Held p') (hne : p' ≠ p) :
    s'.combat p' = s.combat p' := by
  simp only [CombatManagers.combat, PoolTemplate.read, (ht.combat p' hp' hne).2]

/-- A combat that is left is as it was. -/
theorem combat_left (ht : TakenDown s c p s') (h : s.Consistent pending)
    (hc : s.combats[c]? = some p) (hc' : s'.combats[c']? = some p') :
    s.combats[c']? = some p' ∧ p' ≠ p ∧ s'.combatPool.Held p' ∧ s'.combat p' = s.combat p' := by
  obtain ⟨hne, hin⟩ := ht.combats_iff.mp hc'
  have hother : p' ≠ p := by
    rintro rfl
    exact hne (h.combat_unique hin hc)
  have hheld := (h.combats c' p' hin).1
  exact ⟨hin, hother, (ht.combat p' hheld hother).1, ht.combat_eq hheld hother⟩

/-- A role that is left is as it was. -/
theorem role_left (ht : TakenDown s c p s') (h : s.Consistent pending)
    (hq : s'.roles[r]? = some q) :
    s.roles[r]? = some q ∧ r ∉ (s.combat p).roles ∧ s'.role q = s.role q := by
  rw [ht.roles] at hq
  split at hq
  · cases hq
  · rename_i hr
    refine ⟨hq, hr, ?_⟩
    have hout : ∀ r' ∈ (s.combat p).roles, s.roles[r']? ≠ some q := by
      intro r' hr' hq'
      exact hr (h.alone r r' q hq hq' ▸ hr')
    simp only [CombatManagers.role, PoolTemplate.read, (ht.role q (h.held r q hq) hout).2]

theorem consistent (ht : TakenDown s c p s') (h : s.Consistent pending)
    (hc : s.combats[c]? = some p) : s'.Consistent pending := by
  have hkept : ∀ {p'}, ¬ s'.combatPool.Held p' → p' ≠ p → ¬ s.combatPool.Held p' :=
    fun hp' hne hheld => hp' (ht.combat _ hheld hne).1
  have hstay : ∀ {c' : Int} {p' : Ptr} {r : UInt64} {q : Ptr}, s'.combats[c']? = some p' →
      r ∈ (s'.combat p').roles → s.roles[r]? = some q → s'.roles[r]? = some q := by
    intro c' p' r q hc' hr hq
    obtain ⟨hin, hother, _, hcombat⟩ := ht.combat_left h hc hc'
    rw [hcombat] at hr
    rw [ht.roles, if_neg fun hr' => hother (h.member_unique hin hc hr hr'), hq]
  constructor
  · constructor
    · exact ht.toRegistered
    · exact ht.combatPool
    · intro session x p' hx hp'
      obtain ⟨y, hy, hin, hlinked⟩ := ht.connected session x p' hx hp'
      have hne : p' ≠ p := by
        rintro rfl
        exact hlinked rfl (h.linked session y p' hy hin)
      exact (ht.combat p' (h.connected session y p' hy hin) hne).1
    · intro p' hp'
      by_cases hne : p' = p
      · rw [hne]
        rcases ht.left with hleft | hleft
        · rw [hleft]
          rfl
        · rw [hleft]
          rfl
      · rcases ht.others p' hne with hsame | hdefault
        · rw [hsame]
          exact h.cleared p' (hkept hp' hne)
        · rw [hdefault]
          rfl
  · intro c' p' hc'
    obtain ⟨hin, hother, hheld, hcombat⟩ := ht.combat_left h hc hc'
    rw [hcombat, ht.combatIds]
    exact ⟨hheld, (h.combats c' p' hin).2⟩
  · intro c' p' hc'
    obtain ⟨hin, hother, hheld, hcombat⟩ := ht.combat_left h hc hc'
    have hfielded := h.fielded c' p' hin
    constructor
    · intro id w hw
      rw [hcombat] at hw ⊢
      obtain ⟨hid, hhost, hrole⟩ := hfielded.warriors id w hw
      exact ⟨hid, hhost, hstay hc' (hcombat ▸ hhost) hrole⟩
    · rw [hcombat]
      exact hfielded.buildings
  · intro c' p' r hc' hr
    obtain ⟨hin, hother, hheld, hcombat⟩ := ht.combat_left h hc hc'
    obtain ⟨q, hq, hfield⟩ := h.members c' p' r hin (hcombat ▸ hr)
    have hq' := hstay hc' hr hq
    refine ⟨q, hq', ?_⟩
    rw [(ht.role_left h hq').2.2]
    exact hfield
  · intro r q hq
    obtain ⟨hin, _, hrole⟩ := ht.role_left h hq
    rw [hrole]
    exact h.roles r q hin
  · intro r q hq
    obtain ⟨hin, hout, _⟩ := ht.role_left h hq
    rcases h.joined r q hin with hpending | ⟨c', p', hc', hr⟩
    · exact Or.inl hpending
    · have hne : p' ≠ p := by
        rintro rfl
        exact hout hr
      refine Or.inr ⟨c', p', ht.combats_iff.mpr ⟨?_, hc'⟩, ?_⟩
      · rintro rfl
        exact hne (Option.some.inj (hc'.symm.trans hc))
      · rw [ht.combat_eq (h.combats c' p' hc').1 hne]
        exact hr
  · intro r c' p' hpending hc'
    obtain ⟨hin, _, _, hcombat⟩ := ht.combat_left h hc hc'
    rw [hcombat]
    exact h.apart r c' p' hpending hin
  · intro p' hp'
    by_cases hne : p' = p
    · rw [hne]
      rcases ht.left with hleft | hleft
      · rw [hleft]
        exact ⟨rfl, rfl⟩
      · rw [hleft]
        exact ⟨rfl, rfl⟩
    · rcases ht.others p' hne with hsame | hdefault
      · rw [hsame]
        exact h.emptied p' (hkept hp' hne)
      · rw [hdefault]
        exact ⟨rfl, rfl⟩
  · intro session x p' hx hp'
    obtain ⟨y, hy, hin, hlinked⟩ := ht.connected session x p' hx hp'
    have happ := h.linked session y p' hy hin
    have hne : p' ≠ p := by
      rintro rfl
      exact hlinked rfl happ
    rw [ht.combat_eq (h.connected session y p' hy hin) hne]
    exact happ

end TakenDown

end Mysya.CombatManagers
