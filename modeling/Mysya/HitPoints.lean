import Mysya.BuildingRecovery
import Mysya.CombatFrames

/-!
# Hit points

The two damage formulas clamp the damage below and the hit points below, and what they return is
what the target has left. Apart from them only the recovery of buildings changes hit points, and
where a request has none that are negative, no target ever has.
-/

open Std Attempts

namespace Mysya

namespace CombatManagers

/-! ## The formulas -/

/-- `FormulaWarriorDamage`, with the passive warrior after it. -/
def formulaWarriorDamage (active passive : CombatWarriorField) : Int × CombatWarriorField :=
  let damage := toInt32 (active.attack - passive.defence)
  let damage := if damage < 1 then 1 else damage
  let passive :=
    if damage < passive.hp then { passive with hp := passive.hp - damage }
    else { passive with hp := 0 }
  (passive.hp, passive)

/-- `FormulaBuildingDamage`, with the passive building after it. -/
def formulaBuildingDamage (active : CombatWarriorField) (passive : CombatBuildingField) :
    Int × CombatBuildingField :=
  let damage := active.attack
  let damage := if damage < 1 then 1 else damage
  let passive :=
    if damage < passive.hp then { passive with hp := passive.hp - damage }
    else { passive with hp := 0 }
  (passive.hp, passive)

theorem formulaWarriorDamage_eq (active passive : CombatWarriorField) :
    formulaWarriorDamage active passive = (hit (toInt32 (active.attack - passive.defence)) passive.hp,
      { passive with hp := hit (toInt32 (active.attack - passive.defence)) passive.hp }) := by
  simp only [formulaWarriorDamage, hit]
  generalize (if toInt32 (active.attack - passive.defence) < 1 then 1
    else toInt32 (active.attack - passive.defence)) = damage
  split
  · rfl
  · rfl

theorem formulaBuildingDamage_eq (active : CombatWarriorField) (passive : CombatBuildingField) :
    formulaBuildingDamage active passive = (hit active.attack passive.hp,
      { passive with hp := hit active.attack passive.hp }) := by
  simp only [formulaBuildingDamage, hit]
  generalize (if active.attack < 1 then 1 else active.attack) = damage
  split
  · rfl
  · rfl

theorem hit_nonneg (damage hp : Int) : 0 ≤ hit damage hp := by
  rw [hit]
  split
  · omega
  · omega

theorem hit_le {hp : Int} (hhp : 0 ≤ hp) (damage : Int) : hit damage hp ≤ hp := by
  rw [hit]
  split
  · omega
  · omega

/-- What is left is what was taken for a target that is down, and for one that loses half. -/
theorem hit_eq_lost_iff (damage hp : Int) :
    hit damage hp = hp - hit damage hp ↔ hp = 0 ∨ hp = 2 * max 1 damage := by
  rw [hit]
  split
  · omega
  · omega

/-! ## Targets -/

end CombatManagers

/-- The hit points of a warrior or a building of the combat. -/
def CombatField.hitPoints (combat : CombatField) (target : CombatEntity) : Option Int :=
  match target.type with
  | .warrior => combat.warriors[target.id]?.map CombatWarriorField.hp
  | .building => combat.buildings[target.id]?.map CombatBuildingField.hp

namespace CombatField

variable {combat : CombatField} {id hp : Int} {target : CombatEntity}

theorem hitPoints_setBuilding (combat : CombatField) (id : Int) (b : CombatBuildingField)
    (target : CombatEntity) :
    ({ combat with buildings := combat.buildings.insert id b } : CombatField).hitPoints target =
      if target = ⟨.building, id⟩ then some b.hp else combat.hitPoints target := by
  obtain ⟨type, id'⟩ := target
  cases type with
  | warrior =>
    rw [if_neg nofun]
    rfl
  | building =>
    simp only [hitPoints, CombatEntity.mk.injEq, true_and]
    rw [ExtTreeMap.getElem?_insert]
    by_cases heq : id' = id
    · rw [if_pos heq, if_pos (Std.compare_eq_iff_eq.mpr heq.symm), Option.map_some]
    · rw [if_neg heq, if_neg fun hcompare => heq (Std.compare_eq_iff_eq.mp hcompare).symm]

theorem hitPoints_setWarrior (combat : CombatField) (id : Int) (w : CombatWarriorField)
    (target : CombatEntity) :
    ({ combat with warriors := combat.warriors.insert id w } : CombatField).hitPoints target =
      if target = ⟨.warrior, id⟩ then some w.hp else combat.hitPoints target := by
  obtain ⟨type, id'⟩ := target
  cases type with
  | warrior =>
    simp only [hitPoints, CombatEntity.mk.injEq, true_and]
    rw [ExtTreeMap.getElem?_insert]
    by_cases heq : id' = id
    · rw [if_pos heq, if_pos (Std.compare_eq_iff_eq.mpr heq.symm), Option.map_some]
    · rw [if_neg heq, if_neg fun hcompare => heq (Std.compare_eq_iff_eq.mp hcompare).symm]
  | building =>
    rw [if_neg nofun]
    rfl

theorem hitPoints_addWarrior (w : CombatWarriorField) (h : combat.hitPoints target = some hp) :
    (combat.addWarrior w).hitPoints target = some hp := by
  obtain ⟨type, id⟩ := target
  cases type with
  | warrior =>
    obtain ⟨w', hw', rfl⟩ := Option.map_eq_some_iff.mp h
    have hin : id ∈ combat.warriors := by
      rw [ExtTreeMap.mem_iff_isSome_getElem?, hw']
      rfl
    rw [hitPoints, addWarrior]
    dsimp only
    rw [ExtTreeMap.getElem?_insertIfNew, if_neg]
    · rw [hw']
      rfl
    · rintro ⟨hcompare, hout⟩
      rw [Std.compare_eq_iff_eq.mp hcompare] at hout
      exact hout hin
  | building => exact h

theorem hitPoints_removeWarrior (h : (combat.removeWarrior id).hitPoints target = some hp) :
    combat.hitPoints target = some hp := by
  obtain ⟨type, id'⟩ := target
  cases type with
  | warrior =>
    obtain ⟨w, hw, rfl⟩ := Option.map_eq_some_iff.mp h
    have hw : (combat.warriors.erase id)[id']? = some w := hw
    rw [ExtTreeMap.getElem?_erase] at hw
    split at hw
    · cases hw
    · rw [hitPoints]
      dsimp only
      rw [hw]
      rfl
  | building => exact h

end CombatField

namespace CombatManagers

variable {m m' m'' : CombatManagers} {p q : Ptr} {c c' hp : Int} {target : CombatEntity}

def hitPoints (m : CombatManagers) (combatId : Int) (target : CombatEntity) : Option Int :=
  m.combats[combatId]?.bind fun p => (m.combat p).hitPoints target

theorem hitPoints_at (hc : m.combats[c]? = some p) (target : CombatEntity) :
    m.hitPoints c target = (m.combat p).hitPoints target := by
  rw [hitPoints, hc]
  rfl

/-- A change of a registered combat. -/
theorem hitPoints_modifyCombat (h : m.Enrolled) (hc : m.combats[c]? = some p)
    (change : CombatField → CombatField) (c' : Int) (target : CombatEntity) :
    (m.modifyCombat p change).hitPoints c' target =
      if c' = c then (change (m.combat p)).hitPoints target else m.hitPoints c' target := by
  split
  · rename_i heq
    have hreg : (m.modifyCombat p change).combats[c']? = some p := by
      rw [heq]
      exact hc
    rw [hitPoints_at hreg, modifyCombat_combat (h.combats c p hc).1.1]
  · rename_i hne
    rw [hitPoints, hitPoints]
    have hsame : (m.modifyCombat p change).combats[c']? = m.combats[c']? := rfl
    rw [hsame]
    cases hreg : m.combats[c']? with
    | none => rfl
    | some p' =>
      have hother : p' ≠ p := by
        rintro rfl
        exact hne ((h.combats c' p' hreg).2.symm.trans (h.combats c p' hc).2)
      exact congrArg (fun combat => CombatField.hitPoints combat target)
        (PoolTemplate.read_modify_other _ hother change)

/-- The targets of `m` are there with the same hit points in `m'`. -/
def Extends (m m' : CombatManagers) : Prop :=
  ∀ c target hp, m.hitPoints c target = some hp → m'.hitPoints c target = some hp

theorem Extends.trans (h : Extends m m') (h' : Extends m' m'') : Extends m m'' :=
  fun c target hp hhp => h' c target hp (h c target hp hhp)

theorem Untouched.extends (h : Untouched none m m') : Extends m m' := by
  intro c target hp hhp
  obtain ⟨p, hc, hp'⟩ := Option.bind_eq_some_iff.mp hhp
  obtain ⟨hc', hsame⟩ := h c p hc nofun
  rw [hitPoints_at hc', hsame, hp']

/-- What is there after a combat is closed was there before. -/
theorem closeCombat_extends (h : m.Enrolled) (hc : m.combats[c]? = some p) :
    Extends (m.closeCombat c p) m := by
  intro c' target hp hhp
  obtain ⟨p', hc', hp'⟩ := Option.bind_eq_some_iff.mp hhp
  have hne : some c ≠ some c' := by
    rintro heq
    rw [← Option.some.inj heq, closeCombat_combats] at hc'
    cases hc'
  have hin : m.combats[c']? = some p' := by
    have hcombats : (m.closeCombat c p).combats = (m.sendSettlement p).combats.erase c :=
      finalizeCombat_combats ((m.sendSettlement p).removeCombat c) p
    rw [hcombats, (goes_sendSettlement m p).combats, ExtTreeMap.getElem?_erase] at hc'
    split at hc'
    · cases hc'
    · exact hc'
  rw [hitPoints_at hin, ← (h.closeCombat_untouched hc c' p' hin hne).2, hp']

theorem extends_removeWarrior (h : m.Enrolled) (hc : m.combats[c]? = some p) (id : Int) :
    Extends (m.modifyCombat p fun combat => combat.removeWarrior id) m := by
  intro c' target hp hhp
  rw [hitPoints_modifyCombat h hc] at hhp
  split at hhp
  · rename_i heq
    rw [heq, hitPoints_at hc]
    exact CombatField.hitPoints_removeWarrior hhp
  · exact hhp

theorem extends_addWarrior (h : m.Enrolled) (hc : m.combats[c]? = some p)
    (w : CombatWarriorField) :
    Extends m (m.modifyCombat p fun combat => combat.addWarrior w) := by
  intro c' target hp hhp
  rw [hitPoints_modifyCombat h hc]
  split
  · rename_i heq
    rw [heq, hitPoints_at hc] at hhp
    exact CombatField.hitPoints_addWarrior w hhp
  · exact hhp

/-! ## What changes no hit points -/

/-- The combats keep their buildings and warriors, and the roles their descriptions. -/
structure SameFields (m m' : CombatManagers) : Prop where
  combats : m'.combats = m.combats
  buildings : ∀ p, (m'.combat p).buildings = (m.combat p).buildings
  warriors : ∀ p, (m'.combat p).warriors = (m.combat p).warriors
  descriptions : ∀ q, (m'.role q).warriorDescriptions = (m.role q).warriorDescriptions

theorem SameFields.refl (m : CombatManagers) : SameFields m m :=
  ⟨rfl, fun _ => rfl, fun _ => rfl, fun _ => rfl⟩

theorem SameFields.trans (h : SameFields m m') (h' : SameFields m' m'') : SameFields m m'' where
  combats := h'.combats.trans h.combats
  buildings := fun p => (h'.buildings p).trans (h.buildings p)
  warriors := fun p => (h'.warriors p).trans (h.warriors p)
  descriptions := fun q => (h'.descriptions q).trans (h.descriptions q)

theorem SameFields.hitPoints (h : SameFields m m') (c : Int) (target : CombatEntity) :
    m'.hitPoints c target = m.hitPoints c target := by
  rw [CombatManagers.hitPoints, CombatManagers.hitPoints, h.combats]
  congr 1
  funext p
  rw [CombatField.hitPoints, CombatField.hitPoints, h.buildings, h.warriors]

/-- What the hit points of a combat are read from. -/
def shownForces (combat : CombatField) :
    ExtTreeMap Int CombatBuildingField × ExtTreeMap Int CombatWarriorField :=
  (combat.buildings, combat.warriors)

theorem Frame.sameFields (h : Frame shownForces CombatRoleField.warriorDescriptions m m') :
    SameFields m m' where
  combats := h.combats
  buildings := fun p => congrArg Prod.fst (h.combat p)
  warriors := fun p => congrArg Prod.snd (h.combat p)
  descriptions := h.role

theorem blind_forces : Blind shownForces CombatRoleField.warriorDescriptions :=
  ⟨fun _ _ => rfl, fun _ _ => rfl, fun _ => rfl, fun _ _ => rfl, fun _ _ => rfl, fun _ _ _ => rfl⟩

end CombatManagers

end Mysya
