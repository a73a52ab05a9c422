import Mysya.HitPoints

/-!
# Hit points are never negative

A request says what its buildings and warriors begin with and what a building recovers. Where none
of that is negative, and what a building recovers fits an `int32_t` on top of what it begins with,
no building and no warrior ever has less than no hit points: attacks clamp them, and a recovery adds
to them.
-/

open Std Attempts

namespace Mysya

def BuildingDescription.Vital (d : BuildingDescription) : Prop :=
  0 ≤ d.hp ∧ 0 ≤ d.hpRecovery ∧ d.hp + d.hpRecovery < 2147483648

instance (d : BuildingDescription) : Decidable d.Vital := inferInstanceAs (Decidable (_ ∧ _ ∧ _))

/-- No description has negative hit points, and no building recovers negative or too many ones. -/
def CombatInitialData.Vital (data : CombatInitialData) : Prop :=
  ∀ camp ∈ data.camps, (∀ d ∈ camp.buildings, d.Vital) ∧
    ∀ role ∈ camp.roles, (∀ d ∈ role.buildings, d.Vital) ∧ ∀ d ∈ role.warriors, 0 ≤ d.maxHp

instance (data : CombatInitialData) : Decidable data.Vital :=
  inferInstanceAs (Decidable (∀ camp ∈ data.camps, (∀ d ∈ camp.buildings, d.Vital) ∧
    ∀ role ∈ camp.roles, (∀ d ∈ role.buildings, d.Vital) ∧ ∀ d ∈ role.warriors, 0 ≤ d.maxHp))

structure CombatBuildingField.Vital (b : CombatBuildingField) : Prop where
  hp : 0 ≤ b.hp
  maxHp : b.hp ≤ b.maxHp
  hpRecovery : 0 ≤ b.hpRecovery
  small : b.maxHp + b.hpRecovery < 2147483648

/-- The sum of a recovery is an `int32_t`. -/
theorem CombatBuildingField.Vital.fits {b : CombatBuildingField} (h : b.Vital) :
    FitsInt32 (b.hp + b.hpRecovery) := by
  obtain ⟨hhp, hmaxHp, hrecovery, hsmall⟩ := h
  rw [FitsInt32]
  omega

theorem CombatBuildingField.Vital.hit {b : CombatBuildingField} (h : b.Vital) (damage : Int) :
    CombatBuildingField.Vital { b with hp := CombatManagers.hit damage b.hp } :=
  ⟨CombatManagers.hit_nonneg _ _, Int.le_trans (CombatManagers.hit_le h.hp damage) h.maxHp,
    h.hpRecovery, h.small⟩

theorem CombatBuildingField.Vital.recovered {b : CombatBuildingField} (h : b.Vital) :
    b.recovered.Vital := by
  have hhp := h.hp
  have hmaxHp := h.maxHp
  have hrecovery := h.hpRecovery
  refine ⟨?_, ?_, h.hpRecovery, h.small⟩
  · rw [CombatBuildingField.recovered]
    dsimp only
    split
    · omega
    · omega
  · rw [CombatBuildingField.recovered]
    dsimp only
    split
    · omega
    · omega

theorem BuildingDescription.Vital.initializeBuilding {d : BuildingDescription} (h : d.Vital)
    (id : Int) (hostId : UInt64) (campId : Int) :
    (CombatBuildingField.initializeBuilding id hostId campId d).Vital :=
  ⟨h.1, Int.le_refl _, h.2.1, h.2.2⟩

theorem CombatWarriorField.initializeWarrior_hp (id : Int) (q : Ptr) (role : CombatRoleField)
    (d : WarriorDescription) : (initializeWarrior id q role d).hp = d.maxHp := by
  rw [initializeWarrior, generateFields]
  split
  · rfl
  · rfl

namespace CombatManagers

variable {m m' : CombatManagers} {p q : Ptr} {c : Int} {data : CombatInitialData}

/-- No hit points are negative, now or after a recovery, and no warrior is built with such. -/
structure Vital (m : CombatManagers) : Prop where
  buildings : ∀ p (id : Int) b, (m.combat p).buildings[id]? = some b → b.Vital
  warriors : ∀ p (id : Int) w, (m.combat p).warriors[id]? = some w → 0 ≤ w.hp
  descriptions : ∀ q (id : Int) d, (m.role q).warriorDescriptions[id]? = some d → 0 ≤ d.maxHp

theorem Vital.hitPoints (h : m.Vital) {target : CombatEntity} {hp : Int}
    (hhp : m.hitPoints c target = some hp) : 0 ≤ hp := by
  obtain ⟨p, _, hp'⟩ := Option.bind_eq_some_iff.mp hhp
  obtain ⟨type, id⟩ := target
  cases type with
  | warrior =>
    obtain ⟨w, hw, rfl⟩ := Option.map_eq_some_iff.mp hp'
    exact h.warriors p id w hw
  | building =>
    obtain ⟨b, hb, rfl⟩ := Option.map_eq_some_iff.mp hp'
    exact (h.buildings p id b hb).hp

theorem Vital.same (h : m.Vital) (hsame : SameFields m m') : m'.Vital where
  buildings := fun p => by
    rw [hsame.buildings]
    exact h.buildings p
  warriors := fun p => by
    rw [hsame.warriors]
    exact h.warriors p
  descriptions := fun q => by
    rw [hsame.descriptions]
    exact h.descriptions q

theorem Vital.modifyCombat (h : m.Vital) {change : CombatField → CombatField}
    (hbuildings : ∀ (id : Int) b, (change (m.combat p)).buildings[id]? = some b → b.Vital)
    (hwarriors : ∀ (id : Int) w, (change (m.combat p)).warriors[id]? = some w → 0 ≤ w.hp) :
    (m.modifyCombat p change).Vital where
  buildings := fun p' => by
    rcases modifyCombat_or m p p' change with hsame | ⟨rfl, hchanged⟩
    · rw [hsame]
      exact h.buildings p'
    · rw [hchanged]
      exact hbuildings
  warriors := fun p' => by
    rcases modifyCombat_or m p p' change with hsame | ⟨rfl, hchanged⟩
    · rw [hsame]
      exact h.warriors p'
    · rw [hchanged]
      exact hwarriors
  descriptions := h.descriptions

theorem Vital.modifyRole (h : m.Vital) {change : CombatRoleField → CombatRoleField}
    (hchange : ∀ (id : Int) d, (change (m.role q)).warriorDescriptions[id]? = some d →
      0 ≤ d.maxHp) : (m.modifyRole q change).Vital where
  buildings := h.buildings
  warriors := h.warriors
  descriptions := fun q' => by
    rcases modifyRole_or m q q' change with hsame | ⟨rfl, hchanged⟩
    · rw [hsame]
      exact h.descriptions q'
    · rw [hchanged]
      exact hchange

theorem Vital.setBuilding (h : m.Vital) (id : Int) {b : CombatBuildingField} (hb : b.Vital) :
    (m.modifyCombat p fun combat =>
      { combat with buildings := combat.buildings.insert id b }).Vital := by
  refine h.modifyCombat (fun id' b' hb' => ?_) fun id w => h.warriors p id w
  rw [ExtTreeMap.getElem?_insert] at hb'
  split at hb'
  · rw [← Option.some.inj hb']
    exact hb
  · exact h.buildings p id' b' hb'

theorem Vital.setWarrior (h : m.Vital) (id : Int) {w : CombatWarriorField} (hw : 0 ≤ w.hp) :
    (m.modifyCombat p fun combat =>
      { combat with warriors := combat.warriors.insert id w }).Vital := by
  refine h.modifyCombat (fun id b => h.buildings p id b) fun id' w' hw' => ?_
  rw [ExtTreeMap.getElem?_insert] at hw'
  split at hw'
  · rw [← Option.some.inj hw']
    exact hw
  · exact h.warriors p id' w' hw'

theorem Vital.addWarrior (h : m.Vital) {w : CombatWarriorField} (hw : 0 ≤ w.hp) :
    (m.modifyCombat p fun combat => combat.addWarrior w).Vital := by
  refine h.modifyCombat (fun id b => h.buildings p id b) fun id w' hw' => ?_
  rw [CombatField.addWarrior, ExtTreeMap.getElem?_insertIfNew] at hw'
  split at hw'
  · rw [← Option.some.inj hw']
    exact hw
  · exact h.warriors p id w' hw'

theorem Vital.removeWarrior (h : m.Vital) (id : Int) :
    (m.modifyCombat p fun combat => combat.removeWarrior id).Vital := by
  refine h.modifyCombat (fun id b => h.buildings p id b) fun id' w hw => ?_
  rw [CombatField.removeWarrior, ExtTreeMap.getElem?_erase] at hw
  split at hw
  · cases hw
  · exact h.warriors p id' w hw

/-! ## Combats that end -/

/-- What goes back to a pool is gone, and what it leaves is as before. -/
theorem Vital.giveBack (h : m.Vital) (p : Ptr) :
    ((m.finalizeCombat p).deallocateCombat p).Vital := by
  have hcleared : (m.modifyCombat p CombatField.clear).Vital := by
    refine h.modifyCombat (fun id b hb => ?_) fun id w hw => ?_
    · rw [clear_buildings] at hb
      cases hb
    · rw [clear_warriors] at hw
      cases hw
  have hcombat : ∀ p', ((m.finalizeCombat p).deallocateCombat p).combat p' =
      (m.modifyCombat p CombatField.clear).combat p' ∨
      ((m.finalizeCombat p).deallocateCombat p).combat p' = default := by
    intro p'
    have hpool : ((m.finalizeCombat p).deallocateCombat p).combatPool =
        (m.combatPool.modify p CombatField.clear).deallocate p := by
      rw [finalizeCombat_eq]
      rfl
    rw [combat, hpool]
    exact PoolTemplate.deallocate_read_or _ p p'
  constructor
  · intro p' id b hb
    rcases hcombat p' with hsame | hnew
    · rw [hsame] at hb
      exact hcleared.buildings p' id b hb
    · rw [hnew, new_buildings] at hb
      cases hb
  · intro p' id w hw
    rcases hcombat p' with hsame | hnew
    · rw [hsame] at hw
      exact hcleared.warriors p' id w hw
    · rw [hnew, new_warriors] at hw
      cases hw
  · intro q id d hd
    have hd : (((m.combat p).roles.toList.foldl dropRole m).role q).warriorDescriptions[id]? =
        some d := by
      rwa [finalizeCombat_eq] at hd
    rcases foldl_dropRole_role (m.combat p).roles.toList m q with hsame | hnew
    · rw [hsame] at hd
      exact h.descriptions q id d hd
    · rw [hnew, new_descriptions] at hd
      cases hd

theorem Vital.abandonCombat (h : m.Vital) (p : Ptr) : (m.abandonCombat p).Vital := by
  have hremoved : (m.removeCombat (m.combat p).id).Vital :=
    ⟨h.buildings, h.warriors, h.descriptions⟩
  exact hremoved.giveBack p

theorem Vital.closeCombat (h : m.Vital) (c : Int) (p : Ptr) : (m.closeCombat c p).Vital := by
  have hsent : (m.sendSettlement p).Vital := by
    rw [sendSettlement]
    split
    · exact h
    · exact h.same ((frame_send m _ _).sameFields)
  have hremoved : ((m.sendSettlement p).removeCombat c).Vital :=
    ⟨hsent.buildings, hsent.warriors, hsent.descriptions⟩
  exact hremoved.giveBack p

/-! ## Deploying -/

theorem Vital.abandonRole (h : m.Vital) (q : Ptr) : (m.abandonRole q).Vital := by
  have hdisconnected : (m.disconnectRole q).Vital := by
    rw [disconnectRole]
    split
    · exact h
    · exact ⟨h.buildings, h.warriors, h.descriptions⟩
  have hfinalized : (m.finalizeRole q).Vital := by
    refine hdisconnected.modifyRole fun id d hd => ?_
    have hempty : (((m.disconnectRole q).role q).finalize.warriorDescriptions)[id]? = none := by
      rw [CombatRoleField.finalize]
      simp
    rw [hempty] at hd
    cases hd
  refine ⟨hfinalized.buildings, hfinalized.warriors, fun q' id d hd => ?_⟩
  rcases PoolTemplate.deallocate_read_or (m.finalizeRole q).rolePool q q' with hsame | hnew
  · rw [show (m.abandonRole q).role q' = (m.finalizeRole q).role q' from hsame] at hd
    exact hfinalized.descriptions q' id d hd
  · rw [show (m.abandonRole q).role q' = default from hnew, new_descriptions] at hd
    cases hd

theorem Vital.raiseBuilding (h : m.Vital) {d : BuildingDescription} (hd : d.Vital)
    (hostId : UInt64) (campId : Int) : (m.raiseBuilding p hostId campId d).Vital := by
  have hid : SameFields m (m.allocateId p).2 := (frame_modifyCombat rfl).sameFields
  refine (h.same hid).modifyCombat (fun id b hb => ?_) fun id w => (h.same hid).warriors p id w
  rw [CombatField.addBuilding, ExtTreeMap.getElem?_insertIfNew] at hb
  split at hb
  · rw [← Option.some.inj hb]
    exact hd.initializeBuilding _ _ _
  · exact (h.same hid).buildings p id b hb

theorem Vital.joinRole (h : m.Vital) (p : Ptr) (r : UInt64) : (m.joinRole p r).Vital := by
  rw [CombatManagers.joinRole]
  split
  · exact h
  · exact h.same (((frame_modifyCombat rfl).sameFields).trans ((frame_modifyRole rfl).sameFields))

/-- What the request says of its items. -/
def VitalItem : DeployItem → Prop
  | .role _ role => ∀ d ∈ role.warriors, 0 ≤ d.maxHp
  | .roleBuilding _ d => d.Vital
  | .joinRole => True
  | .campBuilding _ d => d.Vital

theorem vital_items (h : data.Vital) : ∀ item ∈ data.items, VitalItem item := by
  intro item hitem
  obtain ⟨camp, hcamp, hitem⟩ := List.mem_flatMap.mp hitem
  obtain ⟨hbuildings, hroles⟩ := h camp hcamp
  rcases List.mem_append.mp hitem with hitem | hitem
  · obtain ⟨role, hrole, hitem⟩ := List.mem_flatMap.mp hitem
    obtain ⟨hraised, hdescribed⟩ := hroles role hrole
    rcases List.mem_cons.mp hitem with rfl | hitem
    · exact hdescribed
    · rcases List.mem_append.mp hitem with hitem | hitem
      · obtain ⟨d, hd, rfl⟩ := List.mem_map.mp hitem
        exact hraised d hd
      · rw [List.mem_singleton.mp hitem]
        trivial
  · obtain ⟨d, hd, rfl⟩ := List.mem_map.mp hitem
    exact hbuildings d hd

/-- Each item of the request leaves no negative hit points, and so does every exit. -/
theorem vitalRule (p : Ptr) :
    DeployRule p (fun l m => (∀ item ∈ l, VitalItem item) ∧ m.Vital)
      (fun _ l m => (∀ item ∈ l, VitalItem item) ∧ m.Vital) Vital where
  role := by
    rintro camp role rest m ⟨hitems, h⟩
    have hdescribed : ∀ d ∈ role.warriors, 0 ≤ d.maxHp :=
      hitems (.role camp role) (List.mem_append_left _ (List.mem_cons_self ..))
    have hallocated : m.allocateRole.2.Vital := by
      refine ⟨h.buildings, h.warriors, fun q id d hd => h.descriptions q id d ?_⟩
      rw [CombatManagers.role, ← allocate_read]
      exact hd
    rw [registerRole]
    split
    · rename_i u hu
      obtain rfl : m.allocateRole.2 = u := congrArg Prod.snd hu
      exact hallocated.abandonCombat p
    · rename_i q u hu
      obtain rfl : m.allocateRole.2 = u := congrArg Prod.snd hu
      have hinit : (m.allocateRole.2.modifyRole q fun x =>
          (x.initializeRole role.argentId role.name).setCamp camp).Vital :=
        hallocated.modifyRole (hallocated.descriptions q)
      dsimp only
      split
      · exact (hinit.abandonRole q).abandonCombat p
      · rename_i added hadded
        rw [addRole] at hadded
        split at hadded
        · cases hadded
        · obtain rfl := Option.some.inj hadded
          refine ⟨fun item hin => hitems item (List.mem_cons_of_mem _ hin), ?_⟩
          have hregistered : ∀ roles : ExtTreeMap UInt64 Ptr, Vital
              { m.allocateRole.2.modifyRole q fun x =>
                (x.initializeRole role.argentId role.name).setCamp camp with roles := roles } :=
            fun _ => ⟨hinit.buildings, hinit.warriors, hinit.descriptions⟩
          refine (hregistered _).modifyRole fun id d hd => ?_
          rcases mem_addWarriorDescriptions hd with hold | hnew
          · exact hinit.descriptions q id d hold
          · exact hdescribed d hnew
  roleBuilding := by
    rintro q campId d rest m ⟨hitems, h⟩
    have hd : d.Vital := hitems (.roleBuilding campId d) (List.mem_cons_self ..)
    have hanswer : m.allocateBuilding.2.Vital := ⟨h.buildings, h.warriors, h.descriptions⟩
    rw [deployRoleBuilding]
    split
    · rename_i u hu
      obtain rfl : m.allocateBuilding.2 = u := congrArg Prod.snd hu
      exact (hanswer.abandonRole q).abandonCombat p
    · rename_i u hu
      obtain rfl : m.allocateBuilding.2 = u := congrArg Prod.snd hu
      refine ⟨fun item hin => hitems item (List.mem_cons_of_mem _ hin), ?_⟩
      exact (hanswer.raiseBuilding hd _ campId).same ((frame_modifyRole rfl).sameFields)
  joinRole := by
    rintro q rest m ⟨hitems, h⟩
    exact ⟨fun item hin => hitems item (List.mem_cons_of_mem _ hin), h.joinRole p _⟩
  campBuilding := by
    rintro campId d rest m ⟨hitems, h⟩
    have hd : d.Vital := hitems (.campBuilding campId d) (List.mem_cons_self ..)
    have hanswer : m.allocateBuilding.2.Vital := ⟨h.buildings, h.warriors, h.descriptions⟩
    rw [deployCampBuilding]
    split
    · rename_i u hu
      obtain rfl : m.allocateBuilding.2 = u := congrArg Prod.snd hu
      exact hanswer.abandonCombat p
    · rename_i u hu
      obtain rfl : m.allocateBuilding.2 = u := congrArg Prod.snd hu
      exact ⟨fun item hin => hitems item (List.mem_cons_of_mem _ hin),
        hanswer.raiseBuilding hd 0 campId⟩

theorem Vital.ends_deploy (h : m.Vital) (hdata : data.Vital) (session : SessionPtr) :
    Ends (fun r => r.2.Vital) Vital (m.deployCombat session data) := by
  obtain ⟨answer, pool, hanswer⟩ : ∃ answer pool, m.combatPool.allocate = (answer, pool) :=
    ⟨_, _, rfl⟩
  have hpool : Vital { m with combatPool := pool } := by
    have hcombat : ∀ p, ({ m with combatPool := pool } : CombatManagers).combat p = m.combat p := by
      intro p
      have hsame := allocate_read m.combatPool p
      rwa [hanswer] at hsame
    refine ⟨fun p => ?_, fun p => ?_, h.descriptions⟩
    · rw [hcombat]
      exact h.buildings p
    · rw [hcombat]
      exact h.warriors p
  cases answer with
  | none =>
    rw [deployCombat_none hanswer]
    exact hpool
  | some p =>
    have hnamed : SameFields { m with combatPool := pool } (CombatManagers.modifyCombat
        { m with combatPool := pool } p fun combat => { combat with id := m.combatIds }) :=
      (frame_modifyCombat rfl).sameFields
    have hopened : (m.openCombat p pool data session).Vital := by
      have hcounted : Vital { m with
          combatPool := pool.modify p fun combat => { combat with id := m.combatIds }
          combatIds := m.combatIds + 1 } :=
        ⟨(hpool.same hnamed).buildings, (hpool.same hnamed).warriors, h.descriptions⟩
      refine Vital.same (m := CombatManagers.modifySession _ session _) ?_
        ((frame_modifyCombat rfl).sameFields)
      exact ⟨hcounted.buildings, hcounted.warriors, hcounted.descriptions⟩
    cases hadd : (m.openCombat p pool data session).addCombat p with
    | none =>
      rw [deployCombat_taken hanswer hadd]
      exact hopened.giveBack p
    | some added =>
      rw [deployCombat_added hanswer hadd]
      have hadded' : added.Vital := by
        rw [addCombat] at hadd
        split at hadd
        · cases hadd
        · rw [← Option.some.inj hadd]
          exact ⟨hopened.buildings, hopened.warriors, hopened.descriptions⟩
      refine Ends.bind ((vitalRule p).ends_deployCamps ⟨vital_items hdata, hadded'⟩) ?_
      rintro t ⟨_, ht⟩
      exact ht

theorem Vital.deploy (h : m.Vital) (hdata : data.Vital) (session : SessionPtr) (hostId : Int) :
    (m.onMessageCombatDeployRequest session hostId data).Vital := by
  have hends := h.ends_deploy hdata session
  rw [onMessageCombatDeployRequest]
  split
  · rename_i t ht
    exact (hends.error ht).same ((frame_send t _ _).sameFields)
  · rename_i p t ht
    exact (hends.ok ht).same ((frame_send t _ _).sameFields)

end CombatManagers

end Mysya
