import Mysya.CombatFields
import Mysya.MachineInts

/-!
# The attributes of a warrior

`GENERATE_COMBAT_FIELD` multiplies in 32 bits before it divides, and the two speeds have each
other's modifiers. The product in 32 bits is off by whole multiples of `2 ^ 32`, and a division by
10000 does not hide any of them.
-/

open Std

namespace Mysya

/-! ## Products in 32 bits -/

theorem toInt32_emod (n : Int) : toInt32 n % 4294967296 = n % 4294967296 := by
  unfold toInt32 toUint32
  omega

theorem toInt32_congr {n k : Int} (h : n % 4294967296 = k % 4294967296) :
    toInt32 n = toInt32 k := by
  rw [toInt32, toInt32, toUint32, toUint32, h]

theorem toInt32_mul (n k : Int) : toInt32 (toInt32 n * toInt32 k) = toInt32 (n * k) := by
  refine toInt32_congr ?_
  rw [Int.mul_emod, toInt32_emod, toInt32_emod, ← Int.mul_emod]

/-- The quotient of `n` by 10000, towards zero, is `k`. -/
def InBlock (k n : Int) : Prop :=
  10000 * k - 10000 < n ∧ n < 10000 * k + 10000 ∧ (0 < k → 10000 * k ≤ n) ∧
    (k < 0 → n ≤ 10000 * k)

instance (k n : Int) : Decidable (InBlock k n) :=
  inferInstanceAs (Decidable (10000 * k - 10000 < n ∧ n < 10000 * k + 10000 ∧
    (0 < k → 10000 * k ≤ n) ∧ (k < 0 → n ≤ 10000 * k)))

/-- No multiple of 10000 lies between the numbers, but for zero. -/
def SameBlock (n m : Int) : Prop := ∃ k, InBlock k n ∧ InBlock k m

theorem tdiv_eq_iff (n k : Int) : n.tdiv 10000 = k ↔ InBlock k n := by
  rw [InBlock, Int.tdiv_eq_ediv]
  by_cases hn : 0 ≤ n ∨ (10000 : Int) ∣ n
  · rw [if_pos hn]
    omega
  · rw [if_neg hn]
    simp only [Int.sign]
    omega

theorem tdiv_eq_tdiv_iff (n m : Int) : n.tdiv 10000 = m.tdiv 10000 ↔ SameBlock n m := by
  constructor
  · intro h
    exact ⟨m.tdiv 10000, (tdiv_eq_iff n _).mp h, (tdiv_eq_iff m _).mp rfl⟩
  · rintro ⟨k, hn, hm⟩
    rw [(tdiv_eq_iff n k).mpr hn, (tdiv_eq_iff m k).mpr hm]

/-- A product that wraps has another quotient. -/
theorem tdiv_toInt32_iff (n : Int) : (toInt32 n).tdiv 10000 = n.tdiv 10000 ↔ FitsInt32 n := by
  constructor
  · intro h
    obtain ⟨k, hk, hk'⟩ := (tdiv_eq_tdiv_iff _ _).mp h
    have hrange := toInt32_range n
    have hwraps := toInt32_emod n
    rw [InBlock] at hk hk'
    rw [FitsInt32]
    omega
  · intro h
    rw [toInt32_eq h]

/-- Some wraps away, the first number is an `int32` in the block of the second. -/
def Passes (n m : Int) : Prop :=
  ∃ wraps : Int, FitsInt32 (n + wraps * 4294967296) ∧ SameBlock (n + wraps * 4294967296) m

theorem sameBlock_toInt32_iff (n m : Int) : SameBlock (toInt32 n) m ↔ Passes n m := by
  have hrange := toInt32_range n
  have hwraps := toInt32_emod n
  constructor
  · intro h
    have heq : n + (toInt32 n - n) / 4294967296 * 4294967296 = toInt32 n := by omega
    refine ⟨(toInt32 n - n) / 4294967296, ?_⟩
    rw [heq]
    exact ⟨hrange, h⟩
  · rintro ⟨wraps, hfits, h⟩
    rw [FitsInt32] at hfits
    have heq : n + wraps * 4294967296 = toInt32 n := by omega
    rw [← heq]
    exact h

/-! ## The fields -/

/-- `(base + add) * (10000 + per)`. -/
def scaled (base add per : Int) : Int := (base + add) * (10000 + per)

/-- The truncated quotient, computed exactly. -/
def exactField (base add per : Int) : Int := (scaled base add per).tdiv 10000

theorem exactField_unmodified (base : Int) : exactField base 0 0 = base := by
  rw [exactField, scaled, Int.add_zero, Int.add_zero, Int.mul_tdiv_cancel _ (by decide)]

namespace CombatWarriorField

theorem generateField_wraps (base add per : Int) :
    generateField base add per = (toInt32 (scaled base add per)).tdiv 10000 := by
  rw [generateField, toInt32_mul, scaled]

/-- One expansion of the macro is exact where the product fits. -/
theorem generateField_exact_iff (base add per : Int) :
    generateField base add per = exactField base add per ↔ FitsInt32 (scaled base add per) := by
  rw [generateField_wraps, exactField, tdiv_toInt32_iff]

/-- An expansion with the modifiers of another field. -/
theorem generateField_mixed_iff (base add per add' per' : Int) :
    generateField base add' per' = exactField base add per ↔
      Passes (scaled base add' per') (scaled base add per) := by
  rw [generateField_wraps, exactField, tdiv_eq_tdiv_iff, sameBlock_toInt32_iff]

/-- Each attribute has its own modifiers, computed exactly. -/
structure ExactFields (server : CombatWarriorServerFields) (description : WarriorDescription)
    (warrior : CombatWarriorField) : Prop where
  maxHp : warrior.maxHp = exactField description.maxHp server.maxHpAddValue server.maxHpAddPer
  attack : warrior.attack = exactField description.attack server.attackAddValue server.attackAddPer
  defence : warrior.defence =
    exactField description.defence server.defenceAddValue server.defenceAddPer
  attackSpeed : warrior.attackSpeed =
    exactField description.attackSpeed server.attackSpeedAddValue server.attackSpeedAddPer
  moveSpeed : warrior.moveSpeed =
    exactField description.moveSpeed server.moveSpeedAddValue server.moveSpeedAddPer

/-- Three products fit, and the product of either speed with the modifiers of the other passes for
its own. -/
structure FieldsFit (server : CombatWarriorServerFields) (description : WarriorDescription) :
    Prop where
  maxHp : FitsInt32 (scaled description.maxHp server.maxHpAddValue server.maxHpAddPer)
  attack : FitsInt32 (scaled description.attack server.attackAddValue server.attackAddPer)
  defence : FitsInt32 (scaled description.defence server.defenceAddValue server.defenceAddPer)
  attackSpeed : Passes
    (scaled description.attackSpeed server.moveSpeedAddValue server.moveSpeedAddPer)
    (scaled description.attackSpeed server.attackSpeedAddValue server.attackSpeedAddPer)
  moveSpeed : Passes
    (scaled description.moveSpeed server.attackSpeedAddValue server.attackSpeedAddPer)
    (scaled description.moveSpeed server.moveSpeedAddValue server.moveSpeedAddPer)

structure AsDescribed (description : WarriorDescription) (warrior : CombatWarriorField) : Prop where
  maxHp : warrior.maxHp = description.maxHp
  attack : warrior.attack = description.attack
  defence : warrior.defence = description.defence
  attackSpeed : warrior.attackSpeed = description.attackSpeed
  moveSpeed : warrior.moveSpeed = description.moveSpeed

/-- The attributes that stay in 32 bits when they are multiplied by 10000. -/
structure SmallDescription (description : WarriorDescription) : Prop where
  maxHp : -214748 ≤ description.maxHp ∧ description.maxHp ≤ 214748
  attack : -214748 ≤ description.attack ∧ description.attack ≤ 214748
  defence : -214748 ≤ description.defence ∧ description.defence ≤ 214748
  attackSpeed : -214748 ≤ description.attackSpeed ∧ description.attackSpeed ≤ 214748
  moveSpeed : -214748 ≤ description.moveSpeed ∧ description.moveSpeed ≤ 214748

theorem generateField_unmodified_iff (base : Int) :
    generateField base 0 0 = base ↔ -214748 ≤ base ∧ base ≤ 214748 := by
  have hexact := generateField_exact_iff base 0 0
  rw [exactField_unmodified] at hexact
  rw [hexact, FitsInt32, scaled]
  omega

variable {warrior : CombatWarriorField} {role : CombatRoleField}
  {description : WarriorDescription}

theorem exactFields_iff (h : role.warriorDescriptions[warrior.confId]? = some description) :
    ExactFields warrior.server description (warrior.generateFields role) ↔
      FieldsFit warrior.server description := by
  rw [generateFields, h]
  constructor
  · rintro ⟨hmaxHp, hattack, hdefence, hattackSpeed, hmoveSpeed⟩
    exact ⟨(generateField_exact_iff ..).mp hmaxHp, (generateField_exact_iff ..).mp hattack,
      (generateField_exact_iff ..).mp hdefence, (generateField_mixed_iff ..).mp hattackSpeed,
      (generateField_mixed_iff ..).mp hmoveSpeed⟩
  · rintro ⟨hmaxHp, hattack, hdefence, hattackSpeed, hmoveSpeed⟩
    exact ⟨(generateField_exact_iff ..).mpr hmaxHp, (generateField_exact_iff ..).mpr hattack,
      (generateField_exact_iff ..).mpr hdefence, (generateField_mixed_iff ..).mpr hattackSpeed,
      (generateField_mixed_iff ..).mpr hmoveSpeed⟩

theorem asDescribed_iff (h : role.warriorDescriptions[warrior.confId]? = some description)
    (hserver : warrior.server = {}) :
    AsDescribed description (warrior.generateFields role) ↔ SmallDescription description := by
  rw [generateFields, h, hserver]
  constructor
  · rintro ⟨hmaxHp, hattack, hdefence, hattackSpeed, hmoveSpeed⟩
    exact ⟨(generateField_unmodified_iff _).mp hmaxHp, (generateField_unmodified_iff _).mp hattack,
      (generateField_unmodified_iff _).mp hdefence,
      (generateField_unmodified_iff _).mp hattackSpeed,
      (generateField_unmodified_iff _).mp hmoveSpeed⟩
  · rintro ⟨hmaxHp, hattack, hdefence, hattackSpeed, hmoveSpeed⟩
    exact ⟨(generateField_unmodified_iff _).mpr hmaxHp,
      (generateField_unmodified_iff _).mpr hattack, (generateField_unmodified_iff _).mpr hdefence,
      (generateField_unmodified_iff _).mpr hattackSpeed,
      (generateField_unmodified_iff _).mpr hmoveSpeed⟩

/-- The attributes are the exact ones exactly where the products fit and the speeds do not notice
whose modifiers they have; without modifiers, where no attribute is above 214748 either way. -/
theorem generateFields_exact (warrior : CombatWarriorField) (role : CombatRoleField)
    (description : WarriorDescription)
    (h : role.warriorDescriptions[warrior.confId]? = some description) :
    (ExactFields warrior.server description (warrior.generateFields role) ↔
      FieldsFit warrior.server description) ∧
    (warrior.server = {} → (AsDescribed description (warrior.generateFields role) ↔
      SmallDescription description)) :=
  ⟨exactFields_iff h, asDescribed_iff h⟩

/-- A role with one description, under the id 1. -/
def tutor (description : WarriorDescription) : CombatRoleField :=
  { (default : CombatRoleField) with
    warriorDescriptions := (∅ : ExtTreeMap Int WarriorDescription).insert 1 description }

/-- A new warrior of that description, with some modifiers. -/
def recruit (description : WarriorDescription) (server : CombatWarriorServerFields) :
    CombatWarriorField :=
  { initializeWarrior 1 0 (tutor description) description with server := server }

def archer : WarriorDescription := ⟨1, 1, 100, 20, 1, 5, 400, 1, 1, 1, 1⟩

theorem generateFields_exact_archer :
    ExactFields { maxHpAddValue := 7 } archer
      ((recruit archer { maxHpAddValue := 7 }).generateFields (tutor archer)) := by
  refine (generateFields_exact (recruit archer { maxHpAddValue := 7 }) (tutor archer) archer
    (by decide)).1.mpr ⟨by decide, by decide, by decide, ?_, ?_⟩
  · exact ⟨0, by decide, 400, by decide, by decide⟩
  · exact ⟨0, by decide, 5, by decide, by decide⟩

/-- More attack speed makes the warrior move faster, and 300000 hit points wrap. -/
theorem generateFields_mixed :
    ¬ ExactFields { attackSpeedAddValue := 7 } archer
      ((recruit archer { attackSpeedAddValue := 7 }).generateFields (tutor archer)) ∧
    ¬ AsDescribed { archer with maxHp := 300000 }
      ((recruit { archer with maxHp := 300000 } {}).generateFields
        (tutor { archer with maxHp := 300000 })) := by
  constructor
  · intro h
    have hspeed := h.attackSpeed
    revert hspeed
    decide
  · intro h
    have hhp := h.maxHp
    revert hhp
    decide

end CombatWarriorField

end Mysya
