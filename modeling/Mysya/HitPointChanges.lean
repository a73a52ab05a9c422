import Mysya.Vitality

/-!
# Changes of hit points

An attack that finds its target strikes it, and both of its events report what the formula returned.
Over the steps of the server nothing else takes hit points from a target that stays, and nothing
but the recovery of buildings gives any back.
-/

open Std Attempts

namespace Mysya

/-! ## Events -/

structure EventCombatAttack where
  combatId : Int
  warriorId : Int
  target : CombatEntity
  damage : Int
  deriving DecidableEq

structure EventCombatAttacked where
  combatId : Int
  warriorId : Int
  host : CombatEntity
  damage : Int
  deriving DecidableEq

/-- What an attack does to the target that it finds, and what its formula returns. -/
structure Strike where
  before : Int
  after : Int
  damage : Int
  deriving DecidableEq

namespace CombatManagers

variable {m m' t : CombatManagers} {p q : Ptr} {c combatId warriorId hp : Int}
  {target : CombatEntity} {strike : Strike}

/-- `SendEventCombatAttack`. -/
def sendEventCombatAttack (combatId warriorId : Int) (target : CombatEntity) (damage : Int) :
    EventCombatAttack × EventCombatAttacked :=
  (⟨combatId, warriorId, target, damage⟩, ⟨combatId, warriorId, target, damage⟩)

/-- `OnRequireFormulaAttack` up to what the formula returns. -/
def formulaAttack (m : CombatManagers) (combatId warriorId : Int) (target : CombatEntity) :
    Option Strike :=
  match m.getWarrior combatId warriorId with
  | none => none
  | some active =>
    match target.type with
    | .warrior => (m.getWarrior combatId target.id).map fun passive =>
        ⟨passive.hp, (formulaWarriorDamage active passive).2.hp,
          (formulaWarriorDamage active passive).1⟩
    | .building => (m.getBuilding combatId target.id).map fun passive =>
        ⟨passive.hp, (formulaBuildingDamage active passive).2.hp,
          (formulaBuildingDamage active passive).1⟩

/-- The events of an attack. -/
def attackEvents (m : CombatManagers) (combatId warriorId : Int) (target : CombatEntity) :
    Option (EventCombatAttack × EventCombatAttacked) :=
  match m.formulaAttack combatId warriorId target with
  | none => none
  | some strike =>
    if strike.damage < 0 then none
    else some (sendEventCombatAttack combatId warriorId target strike.damage)

/-- The target is down already, or has twice what the attack takes. -/
def Halves (m : CombatManagers) (combatId warriorId : Int) (target : CombatEntity) : Prop :=
  ∀ active, m.getWarrior combatId warriorId = some active →
    match target.type with
    | .warrior => ∀ passive, m.getWarrior combatId target.id = some passive →
        passive.hp = 0 ∨ passive.hp = 2 * max 1 (toInt32 (active.attack - passive.defence))
    | .building => ∀ passive, m.getBuilding combatId target.id = some passive →
        passive.hp = 0 ∨ passive.hp = 2 * max 1 active.attack

theorem formulaAttack_warrior {active passive : CombatWarriorField} {id : Int}
    (hactive : m.getWarrior combatId warriorId = some active)
    (hpassive : m.getWarrior combatId id = some passive) :
    m.formulaAttack combatId warriorId ⟨.warrior, id⟩ =
      some ⟨passive.hp, hit (toInt32 (active.attack - passive.defence)) passive.hp,
        hit (toInt32 (active.attack - passive.defence)) passive.hp⟩ := by
  rw [formulaAttack, hactive]
  dsimp only
  rw [hpassive, Option.map_some, formulaWarriorDamage_eq]

theorem formulaAttack_building {active : CombatWarriorField} {passive : CombatBuildingField}
    {id : Int} (hactive : m.getWarrior combatId warriorId = some active)
    (hpassive : m.getBuilding combatId id = some passive) :
    m.formulaAttack combatId warriorId ⟨.building, id⟩ =
      some ⟨passive.hp, hit active.attack passive.hp, hit active.attack passive.hp⟩ := by
  rw [formulaAttack, hactive]
  dsimp only
  rw [hpassive, Option.map_some, formulaBuildingDamage_eq]

/-- The lookups of an attack that strikes. -/
theorem formulaAttack_some (h : m.formulaAttack combatId warriorId target = some strike) :
    ∃ active, m.getWarrior combatId warriorId = some active ∧
      ((∃ passive, target.type = .warrior ∧ m.getWarrior combatId target.id = some passive ∧
        strike = ⟨passive.hp, hit (toInt32 (active.attack - passive.defence)) passive.hp,
          hit (toInt32 (active.attack - passive.defence)) passive.hp⟩) ∨
      ∃ passive, target.type = .building ∧ m.getBuilding combatId target.id = some passive ∧
        strike = ⟨passive.hp, hit active.attack passive.hp, hit active.attack passive.hp⟩) := by
  obtain ⟨type, id⟩ := target
  rw [formulaAttack] at h
  split at h
  · cases h
  · rename_i active hactive
    refine ⟨active, hactive, ?_⟩
    cases type with
    | warrior =>
      obtain ⟨passive, hpassive, rfl⟩ := Option.map_eq_some_iff.mp h
      refine Or.inl ⟨passive, rfl, hpassive, ?_⟩
      rw [formulaWarriorDamage_eq]
    | building =>
      obtain ⟨passive, hpassive, rfl⟩ := Option.map_eq_some_iff.mp h
      refine Or.inr ⟨passive, rfl, hpassive, ?_⟩
      rw [formulaBuildingDamage_eq]

/-- What is reported of an attack is what it leaves. -/
theorem formulaAttack_damage (h : m.formulaAttack combatId warriorId target = some strike) :
    strike.damage = strike.after ∧ 0 ≤ strike.after := by
  obtain ⟨_, _, ⟨_, _, _, rfl⟩ | ⟨_, _, _, rfl⟩⟩ := formulaAttack_some h
  · exact ⟨rfl, hit_nonneg _ _⟩
  · exact ⟨rfl, hit_nonneg _ _⟩

theorem attackEvents_some (h : m.formulaAttack combatId warriorId target = some strike) :
    m.attackEvents combatId warriorId target =
      some (sendEventCombatAttack combatId warriorId target strike.damage) := by
  obtain ⟨hdamage, hnonneg⟩ := formulaAttack_damage h
  rw [attackEvents, h]
  dsimp only
  rw [if_neg (by omega)]

/-- Exactly then the events report what the attack took. -/
theorem reported_iff_halves (h : m.formulaAttack combatId warriorId target = some strike) :
    strike.damage = strike.before - strike.after ↔ m.Halves combatId warriorId target := by
  obtain ⟨type, id⟩ := target
  obtain ⟨active, hactive, ⟨passive, rfl, hpassive, rfl⟩ | ⟨passive, rfl, hpassive, rfl⟩⟩ :=
    formulaAttack_some h
  · dsimp only
    rw [hit_eq_lost_iff]
    constructor
    · intro hhp active' hactive' passive' hpassive'
      rw [hactive, Option.some.injEq] at hactive'
      rw [hpassive, Option.some.injEq] at hpassive'
      rw [← hactive', ← hpassive']
      exact hhp
    · intro hhalves
      exact hhalves active hactive passive hpassive
  · dsimp only
    rw [hit_eq_lost_iff]
    constructor
    · intro hhp active' hactive' passive' hpassive'
      rw [hactive, Option.some.injEq] at hactive'
      rw [hpassive, Option.some.injEq] at hpassive'
      rw [← hactive', ← hpassive']
      exact hhp
    · intro hhalves
      exact hhalves active hactive passive hpassive

theorem formulaAttack_before (h : m.formulaAttack combatId warriorId target = some strike) :
    m.hitPoints combatId target = some strike.before := by
  obtain ⟨type, id⟩ := target
  obtain ⟨_, _, ⟨passive, rfl, hpassive, rfl⟩ | ⟨passive, rfl, hpassive, rfl⟩⟩ :=
    formulaAttack_some h
  · obtain ⟨p, hc, hp⟩ := Option.bind_eq_some_iff.mp hpassive
    rw [hitPoints_at hc, CombatField.hitPoints]
    dsimp only
    rw [hp]
    rfl
  · obtain ⟨p, hc, hp⟩ := Option.bind_eq_some_iff.mp hpassive
    rw [hitPoints_at hc, CombatField.hitPoints]
    dsimp only
    rw [hp]
    rfl

/-! ## Changes of hit points -/

/-- The targets that stay change their hit points by so much, and none gets negative. -/
structure Changes (amount : Int → CombatEntity → Int) (m m' : CombatManagers) : Prop where
  vital : m.Vital → m'.Vital
  hitPoints : ∀ c target hp hp', m.hitPoints c target = some hp →
    m'.hitPoints c target = some hp' → hp' = hp + amount c target

theorem Changes.amount {amount amount' : Int → CombatEntity → Int}
    (h : Changes amount m m') (hamount : ∀ c target, amount' c target = amount c target) :
    Changes amount' m m' where
  vital := h.vital
  hitPoints := fun c target hp hp' hhp hhp' => by
    rw [hamount]
    exact h.hitPoints c target hp hp' hhp hhp'

theorem SameFields.extends (h : SameFields m m') : Extends m m' := by
  intro c target hp hhp
  rw [h.hitPoints, hhp]

theorem SameFields.extends' (h : SameFields m m') : Extends m' m := by
  intro c target hp hhp
  rw [← h.hitPoints, hhp]

/-- Two states that agree with a third have the same hit points where both have any. -/
theorem changes_of_extends (hvital : m.Vital → m'.Vital) (h : Extends m t) (h' : Extends m' t) :
    Changes (fun _ _ => 0) m m' where
  vital := hvital
  hitPoints := fun c target hp hp' hhp hhp' => by
    have heq := (h c target hp hhp).symm.trans (h' c target hp' hhp')
    rw [Option.some.injEq] at heq
    omega

theorem SameFields.changes (h : SameFields m m') : Changes (fun _ _ => 0) m m' :=
  changes_of_extends (fun hm => hm.same h) h.extends fun _ _ _ hhp => hhp

theorem changes_refl (m : CombatManagers) : Changes (fun _ _ => 0) m m := (SameFields.refl m).changes

theorem getWarrior_at (hc : m.combats[c]? = some p) {id : Int} {w : CombatWarriorField}
    (hw : (m.combat p).warriors[id]? = some w) : m.getWarrior c id = some w := by
  rw [getWarrior, hc, Option.bind_some, hw]

theorem getBuilding_at (hc : m.combats[c]? = some p) {id : Int} {b : CombatBuildingField}
    (hb : (m.combat p).buildings[id]? = some b) : m.getBuilding c id = some b := by
  rw [getBuilding, hc, Option.bind_some, hb]

/-- One target of a registered combat gets other hit points, and nothing else changes that a
target could tell. -/
structure Struck (c : Int) (p : Ptr) (target : CombatEntity) (after : Int)
    (m t : CombatManagers) : Prop where
  goes : Goes m t
  registered : t.combats[c]? = some p
  vital : m.Vital → t.Vital
  hitPoints : ∀ c' target', t.hitPoints c' target' =
    if c' = c ∧ target' = target then some after else m.hitPoints c' target'

/-- The hit points after a change of one target of one combat. -/
theorem struck_hitPoints (hc : m.combats[c]? = some p) {combat : CombatField} {after : Int}
    (hchange : ∀ c' target', t.hitPoints c' target' =
      if c' = c then combat.hitPoints target' else m.hitPoints c' target')
    (hcombat : ∀ target', combat.hitPoints target' =
      if target' = target then some after else (m.combat p).hitPoints target')
    (c' : Int) (target' : CombatEntity) : t.hitPoints c' target' =
      if c' = c ∧ target' = target then some after else m.hitPoints c' target' := by
  rw [hchange]
  by_cases heq : c' = c
  · rw [if_pos heq, hcombat, heq, hitPoints_at hc]
    simp only [true_and]
  · rw [if_neg heq, if_neg fun hboth => heq hboth.1]

theorem struck_warrior (h : m.Enrolled) (hc : m.combats[c]? = some p) {id : Int}
    {w v : CombatWarriorField} (hw : (m.combat p).warriors[id]? = some w)
    (hspeeds : v.moveSpeed = w.moveSpeed ∧ v.attackSpeed = w.attackSpeed) (hhp : 0 ≤ v.hp) :
    Struck c p ⟨.warrior, id⟩ v.hp m (m.modifyCombat p fun combat =>
      { combat with warriors := combat.warriors.insert id v }) where
  goes := goes_setWarrior hw hspeeds
  registered := hc
  vital := fun hm => hm.setWarrior id hhp
  hitPoints := struck_hitPoints hc (hitPoints_modifyCombat h hc _) fun target' =>
    CombatField.hitPoints_setWarrior _ id v target'

theorem struck_building (h : m.Enrolled) (hc : m.combats[c]? = some p) {id : Int}
    {b d : CombatBuildingField} (hb : (m.combat p).buildings[id]? = some b)
    (hsite : d.site = b.site) (hvital : b.Vital → d.Vital) :
    Struck c p ⟨.building, id⟩ d.hp m (m.modifyCombat p fun combat =>
      { combat with buildings := combat.buildings.insert id d }) where
  goes := goes_setBuilding hb hsite
  registered := hc
  vital := fun hm => hm.setBuilding id (hvital (hm.buildings p id b hb))
  hitPoints := struck_hitPoints hc (hitPoints_modifyCombat h hc _) fun target' =>
    CombatField.hitPoints_setBuilding _ id d target'

theorem Struck.trans {before after : Int} (h : Struck c p target before m t)
    (h' : Struck c p target after t m') : Struck c p target after m m' where
  goes := h.goes.trans h'.goes
  registered := h'.registered
  vital := fun hm => h'.vital (h.vital hm)
  hitPoints := fun c' target' => by
    rw [h'.hitPoints, h.hitPoints]
    split
    · rfl
    · rfl

/-- What an attack takes from a target. -/
def taken (m : CombatManagers) (combatId warriorId : Int) (target : CombatEntity) (c : Int)
    (target' : CombatEntity) : Int :=
  if c = combatId ∧ target' = target then
    match m.formulaAttack combatId warriorId target with
    | none => 0
    | some strike => strike.before - strike.after
  else 0

theorem taken_none (h : m.formulaAttack combatId warriorId target = none) (c : Int)
    (target' : CombatEntity) : m.taken combatId warriorId target c target' = 0 := by
  rw [taken, h]
  split
  · rfl
  · rfl

/-- Nothing changes but the target, which has left what the attack leaves, and then some targets
are gone. -/
theorem changes_strike (h : m.formulaAttack combatId warriorId target = some strike)
    (hstruck : Struck combatId p target strike.after m t) (hvital : t.Vital → m'.Vital)
    (hgone : Extends m' t) :
    Changes (fun c target' => -m.taken combatId warriorId target c target') m m' where
  vital := fun hm => hvital (hstruck.vital hm)
  hitPoints := fun c target' hp hp' hhp hhp' => by
    have hleft := hgone c target' hp' hhp'
    rw [hstruck.hitPoints] at hleft
    simp only [taken, h]
    split at hleft
    · rename_i hsame
      rw [hsame.1, hsame.2, formulaAttack_before h, Option.some.injEq] at hhp
      rw [Option.some.injEq] at hleft
      rw [if_pos hsame]
      omega
    · rename_i hother
      rw [hhp, Option.some.injEq] at hleft
      rw [if_neg hother]
      omega

end CombatManagers

namespace Server

open CombatManagers OwnedTimers

variable {s t : Server} {p q : Ptr} {c combatId warriorId : Int}

/-! ## Building, settling and attacking -/

theorem buildWarrior_changes (h : s.managers.Enrolled)
    (hc : s.managers.combats[c]? = some p) (buildingId : Int) {confId : Int}
    {description : WarriorDescription}
    (hdescription : (s.managers.role q).warriorDescriptions[confId]? = some description) :
    Changes (fun _ _ => 0) s.managers (s.buildWarrior q p buildingId description).2.managers := by
  have hanswer : SameFields s.managers s.managers.allocateWarrior.2 :=
    ⟨rfl, fun _ => rfl, fun _ => rfl, fun _ => rfl⟩
  have hsame : SameFields s.managers (s.managers.allocateWarrior.2.allocateId p).2 :=
    hanswer.trans ((frame_modifyCombat rfl).sameFields)
  have hanswerGoes : Goes s.managers s.managers.allocateWarrior.2 :=
    goes_outside _ _ _ _ _ _
  have hgoes : Goes s.managers (s.managers.allocateWarrior.2.allocateId p).2 :=
    hanswerGoes.trans (goes_allocateId _ p)
  have hreg : (s.managers.allocateWarrior.2.allocateId p).2.combats[c]? = some p := hc
  rw [buildWarrior]
  split
  · rename_i m hfalse
    obtain rfl : s.managers.allocateWarrior.2 = m := congrArg Prod.snd hfalse
    exact hanswer.changes
  · rename_i m htrue
    obtain rfl : s.managers.allocateWarrior.2 = m := congrArg Prod.snd htrue
    obtain ⟨id, hid⟩ : ∃ id, (s.managers.allocateWarrior.2.allocateId p).1 = id := ⟨_, rfl⟩
    have hrole : (s.managers.allocateWarrior.2.allocateId p).2.role q = s.managers.role q := rfl
    rw [← hrole] at hdescription
    dsimp only
    rw [hid]
    generalize (s.managers.allocateWarrior.2.allocateId p).2 = m at *
    have henrolled := hgoes.enrolled h
    have hadd : Goes m (m.modifyCombat p fun combat =>
        combat.addWarrior (.initializeWarrior id q (m.role q) description)) :=
      goes_addWarrior (fun hfields => hfields.descriptions q confId _ hdescription) id
    have hvital : s.managers.Vital → (m.modifyCombat p fun combat =>
        combat.addWarrior (.initializeWarrior id q (m.role q) description)).Vital := by
      intro hm
      refine (hm.same hsame).addWarrior ?_
      rw [CombatWarriorField.initializeWarrior_hp]
      exact (hm.same hsame).descriptions q confId description hdescription
    have hextends := hsame.extends.trans (extends_addWarrior henrolled hreg
      (.initializeWarrior id q (m.role q) description))
    have hreg' : (m.modifyCombat p fun combat => combat.addWarrior
        (.initializeWarrior id q (m.role q) description)).combats[c]? = some p := hreg
    generalize (m.modifyCombat p fun combat =>
        combat.addWarrior (.initializeWarrior id q (m.role q) description)) = t at *
    split
    · exact changes_of_extends (fun hm => (hvital hm).removeWarrior id) hextends
        (extends_removeWarrior (hadd.enrolled henrolled) hreg' id)
    · have hpay : SameFields t (t.modifyRole q fun role =>
          (role.incSupply description.supplyNeed).incFood (0 - description.foodNeed)) :=
        (frame_modifyRole rfl).sameFields
      exact changes_of_extends (fun hm => (hvital hm).same hpay) hextends hpay.extends'

theorem build_changes (h : s.managers.Enrolled) (q : Ptr) (warriorConfId buildingId : Int) :
    Changes (fun _ _ => 0) s.managers (s.doBuildAction q warriorConfId buildingId).2.managers := by
  rw [doBuildAction]
  split
  · rename_i description p hdescription _
    split
    · exact changes_refl _
    · rename_i building hbuilding
      have hc := (h.buildings p buildingId building hbuilding).2
      split
      · exact changes_refl _
      · split
        · exact changes_refl _
        · split
          · exact changes_refl _
          · exact buildWarrior_changes h hc buildingId hdescription
  · exact changes_refl _

/-- A combat that is settled takes its targets with it. -/
theorem settle_extends (h : s.managers.Enrolled) (combatId : Int) :
    (s.managers.Vital → (s.onRequireCombatSettle combatId).2.managers.Vital) ∧
      Extends (s.onRequireCombatSettle combatId).2.managers s.managers := by
  rw [onRequireCombatSettle]
  split
  · exact ⟨id, fun _ _ _ hhp => hhp⟩
  · rename_i p hc
    dsimp only
    rw [closeCombat_managers]
    exact ⟨fun hm => hm.closeCombat combatId p, closeCombat_extends h hc⟩

theorem attackWarrior_changes (h : s.managers.Enrolled)
    (hc : s.managers.combats[combatId]? = some p) {active passive : CombatWarriorField}
    (hactive : (s.managers.combat p).warriors[warriorId]? = some active) {id : Int}
    (hpassive : (s.managers.combat p).warriors[id]? = some passive) :
    Changes (fun c target => -s.managers.taken combatId warriorId ⟨.warrior, id⟩ c target)
      s.managers
      (s.attackWarrior combatId warriorId p active ⟨.warrior, id⟩ passive).managers := by
  have hstrike := formulaAttack_warrior (m := s.managers)
    (getWarrior_at hc hactive) (getWarrior_at hc hpassive)
  have hstruck := struck_warrior h hc hpassive (v := { passive with
    hp := hit (toInt32 (active.attack - passive.defence)) passive.hp }) ⟨rfl, rfl⟩ (hit_nonneg _ _)
  rw [Server.attackWarrior]
  dsimp only
  generalize (s.managers.modifyCombat p fun combat => { combat with
      warriors := combat.warriors.insert id
        { passive with hp := hit (toInt32 (active.attack - passive.defence)) passive.hp } }) = m at *
  split
  · exact changes_strike hstrike hstruck (fun hm => hm) fun _ _ _ hhp => hhp
  · have hrefund := (frame_refund (fun _ _ => rfl) m p id).sameFields
    have hrefundGoes := goes_refund m p id
    have hreg : (m.refund p id).combats[combatId]? = some p := by
      rw [hrefund.combats, hstruck.registered]
    refine changes_strike hstrike hstruck (fun hm => (hm.same hrefund).removeWarrior id) ?_
    exact (extends_removeWarrior (hrefundGoes.enrolled (hstruck.goes.enrolled h)) hreg id).trans
      hrefund.extends'

theorem attackBuilding_changes (h : s.managers.Enrolled)
    (hc : s.managers.combats[combatId]? = some p) {active : CombatWarriorField}
    (hactive : (s.managers.combat p).warriors[warriorId]? = some active) {id : Int}
    {passive : CombatBuildingField}
    (hpassive : (s.managers.combat p).buildings[id]? = some passive) :
    Changes (fun c target => -s.managers.taken combatId warriorId ⟨.building, id⟩ c target)
      s.managers
      (s.attackBuilding combatId warriorId p active ⟨.building, id⟩ passive).managers := by
  have hstrike := formulaAttack_building (m := s.managers)
    (getWarrior_at hc hactive) (getBuilding_at hc hpassive)
  have hstruck := struck_building h hc hpassive (d := { passive with
    hp := hit active.attack passive.hp }) rfl fun hb => hb.hit active.attack
  have hnew := modifyCombat_combat (h.combats combatId p hc).1.1 fun combat => { combat with
    buildings := combat.buildings.insert id { passive with hp := hit active.attack passive.hp } }
  have hthere : ((s.managers.modifyCombat p fun combat => { combat with
      buildings := combat.buildings.insert id
        { passive with hp := hit active.attack passive.hp } }).combat p).buildings[id]? =
          some { passive with hp := hit active.attack passive.hp } := by
    rw [hnew]
    simp
  rw [Server.attackBuilding]
  dsimp only
  generalize (s.managers.modifyCombat p fun combat => { combat with
    buildings := combat.buildings.insert id
      { passive with hp := hit active.attack passive.hp } }) = m at *
  have henrolled := hstruck.goes.enrolled h
  split
  · exact changes_strike hstrike hstruck (fun hm => hm) fun _ _ _ hhp => hhp
  · have hconverted := struck_building henrolled hstruck.registered hthere (d := { passive with
      hp := hit active.attack passive.hp
      campId := active.campId
      hostId := active.hostId }) rfl fun hb => ⟨hb.hp, hb.maxHp, hb.hpRecovery, hb.small⟩
    generalize (m.modifyCombat p fun combat => { combat with
        buildings := combat.buildings.insert id { passive with
          hp := hit active.attack passive.hp
          campId := active.campId
          hostId := active.hostId } }) = n at *
    have hevent := (blind_forces.convertCamp (fun _ _ => rfl) n p passive.hostId
      active.hostId).sameFields
    have heventGoes := goes_convertCamp n p passive.hostId active.hostId
    have htwice := hstruck.trans hconverted
    split
    · have hsettle := fun apps => settle_extends (s := ⟨n.onEventCombatConvertCamp p passive.hostId
        active.hostId, apps⟩) (heventGoes.enrolled (hconverted.goes.enrolled henrolled))
        ((n.onEventCombatConvertCamp p passive.hostId active.hostId).combat p).id
      exact changes_strike hstrike htwice (fun hm => (hsettle _).1 (hm.same hevent))
        ((hsettle _).2.trans hevent.extends')
    · exact changes_strike hstrike htwice (fun hm => hm.same hevent) hevent.extends'

/-- An attack that finds nobody takes nothing. -/
theorem changes_missed {m : CombatManagers} {target : CombatEntity}
    (h : m.formulaAttack combatId warriorId target = none) :
    Changes (fun c target' => -m.taken combatId warriorId target c target') m m where
  vital := id
  hitPoints := fun c target' hp hp' hhp hhp' => by
    rw [hhp, Option.some.injEq] at hhp'
    rw [taken_none h]
    omega

theorem attack_changes (h : s.managers.Enrolled) (combatId warriorId : Int)
    (target : CombatEntity) :
    Changes (fun c target' => -s.managers.taken combatId warriorId target c target') s.managers
      (s.onRequireFormulaAttack combatId warriorId target).managers := by
  obtain ⟨type, id⟩ := target
  rw [onRequireFormulaAttack]
  split
  · rename_i hnone
    refine changes_missed ?_
    rw [formulaAttack, getWarrior, hnone]
    rfl
  · rename_i p hc
    split
    · rename_i hnone
      refine changes_missed ?_
      rw [formulaAttack, getWarrior, hc, Option.bind_some, hnone]
    · rename_i active hactive
      cases type with
      | warrior =>
        dsimp only
        split
        · rename_i hnone
          refine changes_missed ?_
          rw [formulaAttack, getWarrior_at hc hactive]
          dsimp only
          rw [getWarrior, hc, Option.bind_some, hnone]
          rfl
        · rename_i passive hpassive
          exact attackWarrior_changes h hc hactive hpassive
      | building =>
        dsimp only
        split
        · rename_i hnone
          refine changes_missed ?_
          rw [formulaAttack, getWarrior_at hc hactive]
          dsimp only
          rw [getBuilding, hc, Option.bind_some, hnone]
          rfl
        · rename_i passive hpassive
          exact attackBuilding_changes h hc hactive hpassive

/-! ## Recovery -/

/-- What `OnEventCombatResourceRecover` gives a target back. -/
def recovery (s : Server) (combatId : Int) (target : CombatEntity) : Int :=
  match target.type, s.managers.getBuilding combatId target.id with
  | .building, some building =>
    (s.apps.recover combatId target.id building).hp - building.hp
  | _, _ => 0

/-- In one combat some buildings were replaced. -/
structure Rebuilt (p : Ptr) (m m' : CombatManagers) : Prop where
  combats : m'.combats = m.combats
  others : ∀ p', p' ≠ p → m'.combat p' = m.combat p'
  warriors : (m'.combat p).warriors = (m.combat p).warriors
  descriptions : ∀ q, (m'.role q).warriorDescriptions = (m.role q).warriorDescriptions

theorem Rebuilt.refl (p : Ptr) (m : CombatManagers) : Rebuilt p m m :=
  ⟨rfl, fun _ _ => rfl, rfl, fun _ => rfl⟩

theorem Rebuilt.trans {m m' m'' : CombatManagers} (h : Rebuilt p m m') (h' : Rebuilt p m' m'') :
    Rebuilt p m m'' where
  combats := h'.combats.trans h.combats
  others := fun p' hne => (h'.others p' hne).trans (h.others p' hne)
  warriors := h'.warriors.trans h.warriors
  descriptions := fun q => (h'.descriptions q).trans (h.descriptions q)

theorem recoveryHp_rebuilt (s : Server) (p b : Ptr) (building : CombatBuildingField) :
    Rebuilt p s.managers (s.recoveryHp p b building).managers := by
  obtain ⟨hp, hrecover⟩ := recoveryHp_managers s p b building
  rw [hrecover]
  refine ⟨rfl, fun p' hne => PoolTemplate.read_modify_other _ hne _, ?_, fun _ => rfl⟩
  rcases modifyCombat_or s.managers p p fun combat => { combat with
    buildings := combat.buildings.insert building.id { building with hp := hp } } with
    hsame | ⟨_, hchanged⟩
  · rw [hsame]
  · rw [hchanged]

theorem recover_rebuilt (s : Server) (hc : s.managers.combats[c]? = some p) :
    Rebuilt p s.managers (s.onEventCombatResourceRecover c).managers := by
  have hloop : Ends (fun t : Server => Rebuilt p s.managers t.managers)
      (fun t => Rebuilt p s.managers t.managers)
      ((s.managers.combat p).buildings.toList.foldlM (recoverBuilding c p) s) := by
    refine ends_foldlM (I := fun _ (t : Server) => Rebuilt p s.managers t.managers) ?_ _ (.refl p _)
    intro entry rest t ht
    rw [recoverBuilding]
    split
    · exact ht
    · split
      · exact ht.trans (recoveryHp_rebuilt t p _ entry.2)
      · exact ht
  rw [onEventCombatResourceRecover, hc]
  dsimp only
  split
  · rename_i t hfold
    exact hloop.error hfold
  · rename_i t hfold
    have hsame := (blind_forces.recoverRoles (t.managers.combat p)
      (t.managers.combat p).roles.toList t.managers).sameFields
    refine (hloop.ok hfold).trans ⟨hsame.combats, fun p' _ => ?_, hsame.warriors p,
      hsame.descriptions⟩
    rw [CombatManagers.combat, recoverRoles_combatPool]
    rfl

theorem recover_vital {a : Apps} {id : Int} {b : CombatBuildingField} (h : b.Vital) :
    (a.recover c id b).Vital := by
  rw [Apps.recover]
  split
  · exact h
  · split
    · exact h.recovered
    · exact h

theorem recover_changes (h : s.managers.Enrolled) (hc : s.managers.combats[c]? = some p)
    (hfronted : s.apps.Fronted c (s.managers.combat p).buildings.keys) :
    Changes (fun c' target => if c' = c then s.recovery c target else 0) s.managers
      (s.onEventCombatResourceRecover c).managers := by
  have hrebuilt := recover_rebuilt s hc
  have hbuildings := recovers_fronted h hc hfronted
  generalize hm : (s.onEventCombatResourceRecover c).managers = m at *
  constructor
  · intro hvital
    refine ⟨fun p' id b hb => ?_, fun p' id w hw => ?_, fun q => ?_⟩
    · by_cases hp : p' = p
      · rw [hp, hbuildings] at hb
        obtain ⟨b', hb', rfl⟩ := Option.map_eq_some_iff.mp hb
        exact recover_vital (hvital.buildings p id b' hb')
      · rw [hrebuilt.others p' hp] at hb
        exact hvital.buildings p' id b hb
    · by_cases hp : p' = p
      · rw [hp, hrebuilt.warriors] at hw
        exact hvital.warriors p id w hw
      · rw [hrebuilt.others p' hp] at hw
        exact hvital.warriors p' id w hw
    · rw [hrebuilt.descriptions]
      exact hvital.descriptions q
  · intro c' target hp hp' hhp hhp'
    obtain ⟨p', hc', hhp⟩ := Option.bind_eq_some_iff.mp hhp
    have hreg : m.combats[c']? = some p' := by
      rw [hrebuilt.combats, hc']
    rw [hitPoints_at hreg] at hhp'
    by_cases heq : c' = c
    · subst heq
      obtain rfl : p = p' := Option.some.inj (hc.symm.trans hc')
      rw [if_pos rfl]
      obtain ⟨type, id⟩ := target
      cases type with
      | warrior =>
        have hsame : (m.combat p).hitPoints ⟨.warrior, id⟩ =
            (s.managers.combat p).hitPoints ⟨.warrior, id⟩ := by
          rw [CombatField.hitPoints, CombatField.hitPoints]
          dsimp only
          rw [hrebuilt.warriors]
        rw [hsame, hhp, Option.some.injEq] at hhp'
        rw [recovery]
        dsimp only
        omega
      | building =>
        obtain ⟨b, hb, rfl⟩ := Option.map_eq_some_iff.mp hhp
        rw [CombatField.hitPoints] at hhp'
        dsimp only at hhp' hb
        rw [hbuildings, hb, Option.map_some, Option.map_some, Option.some.injEq] at hhp'
        rw [recovery]
        dsimp only
        rw [getBuilding_at hc hb]
        dsimp only
        omega
    · have hne : p' ≠ p := by
        rintro rfl
        exact heq ((h.combats c' p' hc').2.symm.trans (h.combats c p' hc).2)
      rw [hrebuilt.others p' hne, hhp, Option.some.injEq] at hhp'
      rw [if_neg heq]
      omega

/-! ## Steps -/

/-- What the attack of a step takes from a target. -/
def damage (s : Server) (a : Action) (c : Int) (target : CombatEntity) : Int :=
  match s.attackOf a with
  | none => 0
  | some (combatId, warriorId, target') => s.managers.taken combatId warriorId target' c target

/-- What the events of a step report of a target. -/
def reported (s : Server) (a : Action) (c : Int) (target : CombatEntity) : Int :=
  match s.attackOf a with
  | none => 0
  | some (combatId, warriorId, target') =>
    match s.managers.attackEvents combatId warriorId target' with
    | none => 0
    | some (attack, _) => if c = attack.combatId ∧ target = attack.target then attack.damage else 0

/-- What a step gives a target back. -/
def regained (s : Server) (a : Action) (c : Int) (target : CombatEntity) : Int :=
  match a with
  | .expire timerId =>
    match s.apps.timers.expire timerId with
    | some (.resourceRecover p, _) =>
      if s.bound (.resourceRecover p) ∧ c = (s.managers.combat p).id then s.recovery c target else 0
    | _ => 0
  | _ => 0

theorem recovery_none {c : Int} (h : s.managers.combats[c]? = none) (target : CombatEntity) :
    s.recovery c target = 0 := by
  rw [recovery, getBuilding, h, Option.bind_none]
  split
  · rename_i hnone
    cases hnone
  · rfl

theorem recoverCall_changes (h : s.Tallies) (p : Ptr) :
    Changes (fun c target =>
        if c = (s.managers.combat p).id then s.recovery (s.managers.combat p).id target else 0)
      s.managers (s.call (.resourceRecover p)).managers := by
  cases hc : s.managers.combats[(s.managers.combat p).id]? with
  | none =>
    rw [call, onEventCombatResourceRecover, hc]
    refine (changes_refl s.managers).amount fun c target => ?_
    rw [recovery_none hc]
    split
    · rfl
    · rfl
  | some p' => exact recover_changes h.1 hc (h.2.2.fronted _ p' hc)

theorem attackCall_changes (h : s.managers.Enrolled) (x : Ptr) :
    Changes (fun c target => match s.apps.autoCombat s.managers x with
        | none => 0
        | some combat => -s.managers.taken combat.id (s.apps.autoKey x).2 (s.apps.auto x).target
            c target)
      s.managers (s.call (.attack x)).managers := by
  rw [call]
  cases s.apps.autoCombat s.managers x with
  | none => exact changes_refl s.managers
  | some combat => exact attack_changes h _ _ _

theorem bound_timers (s : Server) (timers : Timers TimerCallback) (callback : TimerCallback) :
    Server.bound { s with apps := { s.apps with timers := timers } } callback =
      s.bound callback := by
  cases callback with
  | settle p => rfl
  | resourceRecover p => rfl
  | printStatusImage sc => rfl
  | move w => rfl
  | search x => rfl
  | refindPath x => rfl
  | attack x => rfl

theorem expire_changes (h : s.Tallies) (timerId : Int) :
    Changes (fun c target => s.regained (.expire timerId) c target -
      s.damage (.expire timerId) c target) s.managers (s.expire timerId).managers := by
  rw [expire]
  cases hexpire : s.apps.timers.expire timerId with
  | none =>
    refine (changes_refl s.managers).amount fun c target => ?_
    simp only [regained, damage, attackOf, hexpire, Int.sub_zero]
  | some call =>
    obtain ⟨callback, timers⟩ := call
    have hset : Server.Tallies ⟨s.managers, { s.apps with timers := timers }⟩ :=
      ⟨h.1, h.2.expired hexpire⟩
    dsimp only
    rw [bound_timers]
    by_cases hbound : s.bound callback = true
    · rw [if_pos hbound]
      cases callback with
      | settle p =>
        have hsettle := settle_extends hset.1 (s.managers.combat p).id
        refine (changes_of_extends hsettle.1 (fun _ _ _ hhp => hhp) hsettle.2).amount
          fun c target => ?_
        simp only [regained, damage, attackOf, hexpire, Int.sub_zero]
      | resourceRecover p =>
        refine (recoverCall_changes hset p).amount fun c target => ?_
        simp only [regained, damage, attackOf, hexpire, hbound, true_and, Int.sub_zero]
        split
        · rename_i heq
          rw [heq]
          rfl
        · rfl
      | attack x =>
        refine (attackCall_changes hset.1 x).amount fun c target => ?_
        have hsame : ({ s.apps with timers := timers } : Apps).autoCombat s.managers x =
            s.apps.autoCombat s.managers x := rfl
        simp only [regained, damage, attackOf, hexpire, hbound, hsame, if_true, Int.zero_sub]
        cases s.apps.autoCombat s.managers x with
        | none => rfl
        | some combat => rfl
      | printStatusImage sc =>
        refine (changes_refl s.managers).amount fun c target => ?_
        simp only [regained, damage, attackOf, hexpire, Int.sub_zero]
      | move w =>
        refine (changes_refl s.managers).amount fun c target => ?_
        simp only [regained, damage, attackOf, hexpire, Int.sub_zero]
      | search x =>
        refine (changes_refl s.managers).amount fun c target => ?_
        simp only [regained, damage, attackOf, hexpire, Int.sub_zero]
      | refindPath x =>
        refine (changes_refl s.managers).amount fun c target => ?_
        simp only [regained, damage, attackOf, hexpire, Int.sub_zero]
    · rw [if_neg hbound]
      refine (changes_refl s.managers).amount fun c target => ?_
      cases callback with
      | resourceRecover p => simp [regained, damage, attackOf, hexpire, hbound]
      | attack x => simp [regained, damage, attackOf, hexpire, hbound]
      | settle p => simp only [regained, damage, attackOf, hexpire, Int.sub_zero]
      | printStatusImage sc => simp only [regained, damage, attackOf, hexpire, Int.sub_zero]
      | move w => simp only [regained, damage, attackOf, hexpire, Int.sub_zero]
      | search x => simp only [regained, damage, attackOf, hexpire, Int.sub_zero]
      | refindPath x => simp only [regained, damage, attackOf, hexpire, Int.sub_zero]

/-- Only attacks and the recovery of buildings change hit points, by what they take and give. -/
theorem step_changes (h : s.Tallies) {a : Action}
    (hdeploy : ∀ session hostId data, a = .deploy session hostId data → data.Vital) :
    Changes (fun c target => s.regained a c target - s.damage a c target) s.managers
      (s.step a).managers := by
  cases a with
  | memory memory =>
    have hsame : SameFields s.managers (s.setMemory memory).managers :=
      ⟨rfl, fun _ => rfl, fun _ => rfl, fun _ => rfl⟩
    exact hsame.changes
  | accept session => exact (frame_accept s.managers session).sameFields.changes
  | close session => exact (blind_forces.closeSession s.managers session).sameFields.changes
  | deploy session hostId data =>
    refine changes_of_extends (fun hm => hm.deploy (hdeploy session hostId data rfl) session hostId)
      ?_ fun _ _ _ hhp => hhp
    exact (h.1.deploy_untouched session hostId data).extends
  | connectArgent session r combatId =>
    exact (blind_forces.connectArgent s.managers session r combatId).sameFields.changes
  | reconnect session r combatId =>
    exact (blind_forces.reconnect s.managers session r combatId).sameFields.changes
  | begin session combatId => exact (blind_forces.begin s session combatId).sameFields.changes
  | build r warriorConfId buildingId =>
    rw [step]
    split
    · exact changes_refl _
    · exact build_changes h.1 _ warriorConfId buildingId
  | move r warriorIds pos =>
    rw [step]
    split
    · exact changes_refl _
    · rw [doMoveAction]
      split
      · exact changes_refl _
      · exact changes_refl _
  | attack combatId warriorId target =>
    refine (attack_changes h.1 combatId warriorId target).amount fun c target' => ?_
    simp only [regained, damage, attackOf, Int.zero_sub]
  | expire timerId => exact expire_changes h timerId

end Server

end Mysya
