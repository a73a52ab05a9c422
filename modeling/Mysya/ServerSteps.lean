import Mysya.Attempts
import Mysya.CombatServer
import Mysya.ConsistentCombats
import Mathlib.Data.List.Dedup

/-!
# The steps of the combat server

What begins, builds, attacks and timers do to the managers: they keep them consistent, and do not
touch the registries, the sessions or what points to them, unless a combat is settled.
-/

open Std

namespace Mysya

namespace CombatManagers

variable {s s' s'' : CombatManagers} {p q : Ptr} {c : Int}

/-- The managers stay consistent, with the registries, the sessions and what points to them. -/
structure Steady (s s' : CombatManagers) : Prop where
  consistent : s'.Consistent none
  combats : s'.combats = s.combats
  roles : s'.roles = s.roles
  sessions : s'.sessions = s.sessions
  combat : ∀ p, (s'.combat p).appSession = (s.combat p).appSession ∧
    (s'.combat p).roles = (s.combat p).roles
  role : ∀ q, (s'.role q).appSession = (s.role q).appSession
  roleHeld : ∀ q, s.rolePool.Held q → s'.rolePool.Held q

theorem Steady.refl (h : s.Consistent none) : Steady s s :=
  ⟨h, rfl, rfl, rfl, fun _ => ⟨rfl, rfl⟩, fun _ => rfl, fun _ => id⟩

theorem Steady.trans (h : Steady s s') (h' : Steady s' s'') : Steady s s'' where
  consistent := h'.consistent
  combats := h'.combats.trans h.combats
  roles := h'.roles.trans h.roles
  sessions := h'.sessions.trans h.sessions
  combat := fun p => ⟨(h'.combat p).1.trans (h.combat p).1, (h'.combat p).2.trans (h.combat p).2⟩
  role := fun q => (h'.role q).trans (h.role q)
  roleHeld := fun q hq => h'.roleHeld q (h.roleHeld q hq)

theorem Steady.at (h : Steady s s') (hc : s.combats[c]? = some p) : s'.combats[c]? = some p := by
  rw [h.combats, hc]

/-! ## Changes of an object -/

theorem steady_modifyRole (h : s.Consistent none) {change : CombatRoleField → CombatRoleField}
    (hargentId : (change (s.role q)).argentId = (s.role q).argentId)
    (hcombatField : (change (s.role q)).combatField = (s.role q).combatField)
    (happSession : (change (s.role q)).appSession = (s.role q).appSession)
    (hfood : (s.role q).food ≤ (s.role q).foodMax →
      (change (s.role q)).food ≤ (change (s.role q)).foodMax) :
    Steady s (s.modifyRole q change) where
  consistent := h.modifyRole hargentId hcombatField hfood
  combats := rfl
  roles := rfl
  sessions := rfl
  combat := fun _ => ⟨rfl, rfl⟩
  role := fun q' => by
    rcases modifyRole_or s q q' change with hsame | ⟨rfl, hchanged⟩
    · rw [hsame]
    · rw [hchanged, happSession]
  roleHeld := fun _ => (PoolTemplate.held_modify change).mpr

theorem steady_modifyCombat (h : s.Consistent none) (hc : s.combats[c]? = some p)
    {change : CombatField → CombatField}
    (hid : (change (s.combat p)).id = (s.combat p).id)
    (hroles : (change (s.combat p)).roles = (s.combat p).roles)
    (happSession : (change (s.combat p)).appSession = (s.combat p).appSession)
    (hfielded : s.Fielded p → (s.modifyCombat p change).Fielded p) :
    Steady s (s.modifyCombat p change) where
  consistent := h.modifyCombat hc hid hroles happSession hfielded
  combats := rfl
  roles := rfl
  sessions := rfl
  combat := fun p' => by
    rcases modifyCombat_or s p p' change with hsame | ⟨rfl, hchanged⟩
    · rw [hsame]
      exact ⟨rfl, rfl⟩
    · rw [hchanged]
      exact ⟨happSession, hroles⟩
  role := fun _ => rfl
  roleHeld := fun _ => id

theorem steady_outside (h : s.Consistent none) (combatNews roleNews : List (Option Ptr))
    (buildingAnswers warriorAnswers : List Bool) (sent : List (SessionPtr × CombatMessage)) :
    Steady s { s with
      combatPool := { s.combatPool with news := combatNews }
      rolePool := { s.rolePool with news := roleNews }
      buildingAnswers := buildingAnswers
      warriorAnswers := warriorAnswers
      sent := sent } where
  consistent := h.outside combatNews roleNews buildingAnswers warriorAnswers sent
  combats := rfl
  roles := rfl
  sessions := rfl
  combat := fun _ => ⟨rfl, rfl⟩
  role := fun _ => rfl
  roleHeld := fun _ => id

theorem steady_send (h : s.Consistent none) (session : SessionPtr) (message : CombatMessage) :
    Steady s (s.send session message) :=
  steady_outside h s.combatPool.news s.rolePool.news s.buildingAnswers s.warriorAnswers _

/-- The warriors of a combat change, but not who leads them. -/
theorem steady_warriors (h : s.Consistent none) (hc : s.combats[c]? = some p)
    {change : CombatField → CombatField}
    (hchange : (change (s.combat p)).id = (s.combat p).id ∧
      (change (s.combat p)).roles = (s.combat p).roles ∧
      (change (s.combat p)).appSession = (s.combat p).appSession ∧
      (change (s.combat p)).idAlloctor = (s.combat p).idAlloctor ∧
      (change (s.combat p)).buildings = (s.combat p).buildings)
    (hwarriors : ∀ (id : Int) (w : CombatWarriorField), (change (s.combat p)).warriors[id]? = some w →
      id ≤ (s.combat p).idAlloctor ∧ w.hostId ∈ (s.combat p).roles ∧
        s.roles[w.hostId]? = some w.host) :
    Steady s (s.modifyCombat p change) := by
  obtain ⟨hid, hroles, happSession, halloctor, hbuildings⟩ := hchange
  have hcombat := modifyCombat_combat (h.combats c p hc).1.1 change
  refine steady_modifyCombat h hc hid hroles happSession fun hfielded => ?_
  constructor
  · rw [hcombat, halloctor, hroles]
    exact hwarriors
  · rw [hcombat, halloctor, hbuildings]
    exact hfielded.buildings

theorem steady_buildings (h : s.Consistent none) (hc : s.combats[c]? = some p)
    {change : CombatField → CombatField}
    (hchange : (change (s.combat p)).id = (s.combat p).id ∧
      (change (s.combat p)).roles = (s.combat p).roles ∧
      (change (s.combat p)).appSession = (s.combat p).appSession ∧
      (change (s.combat p)).idAlloctor = (s.combat p).idAlloctor ∧
      (change (s.combat p)).warriors = (s.combat p).warriors)
    (hbuildings : ∀ (id : Int) (b : CombatBuildingField),
      (change (s.combat p)).buildings[id]? = some b → id ≤ (s.combat p).idAlloctor ∧ b.id = id) :
    Steady s (s.modifyCombat p change) := by
  obtain ⟨hid, hroles, happSession, halloctor, hwarriors⟩ := hchange
  have hcombat := modifyCombat_combat (h.combats c p hc).1.1 change
  refine steady_modifyCombat h hc hid hroles happSession fun hfielded => ?_
  constructor
  · rw [hcombat, halloctor, hroles, hwarriors]
    exact hfielded.warriors
  · rw [hcombat, halloctor]
    exact hbuildings

/-- A warrior takes the place of one that is led alike. -/
theorem steady_setWarrior (h : s.Consistent none) (hc : s.combats[c]? = some p) {id : Int}
    {w w' : CombatWarriorField} (hw : (s.combat p).warriors[id]? = some w)
    (hhost : w'.hostId = w.hostId ∧ w'.host = w.host) :
    Steady s (s.modifyCombat p fun combat =>
      { combat with warriors := combat.warriors.insert id w' }) := by
  have hfielded := h.fielded c p hc
  refine steady_warriors h hc ⟨rfl, rfl, rfl, rfl, rfl⟩ fun id' x hx => ?_
  rw [ExtTreeMap.getElem?_insert] at hx
  split at hx
  · rename_i heq
    obtain rfl := Std.compare_eq_iff_eq.mp heq
    obtain rfl := Option.some.inj hx
    rw [hhost.1, hhost.2]
    exact hfielded.warriors id w hw
  · exact hfielded.warriors id' x hx

theorem steady_removeWarrior (h : s.Consistent none) (hc : s.combats[c]? = some p) (id : Int) :
    Steady s (s.modifyCombat p fun combat => combat.removeWarrior id) := by
  refine steady_warriors h hc ⟨rfl, rfl, rfl, rfl, rfl⟩ fun id' x hx => ?_
  rw [CombatField.removeWarrior, ExtTreeMap.getElem?_erase] at hx
  split at hx
  · cases hx
  · exact (h.fielded c p hc).warriors id' x hx

theorem steady_setBuilding (h : s.Consistent none) (hc : s.combats[c]? = some p) {id : Int}
    {b d : CombatBuildingField} (hb : (s.combat p).buildings[id]? = some b) (hid : d.id = b.id) :
    Steady s (s.modifyCombat p fun combat =>
      { combat with buildings := combat.buildings.insert id d }) := by
  have hfielded := h.fielded c p hc
  refine steady_buildings h hc ⟨rfl, rfl, rfl, rfl, rfl⟩ fun id' x hx => ?_
  rw [ExtTreeMap.getElem?_insert] at hx
  split at hx
  · rename_i heq
    obtain rfl := Std.compare_eq_iff_eq.mp heq
    obtain rfl := Option.some.inj hx
    rw [hid]
    exact hfielded.buildings id b hb
  · exact hfielded.buildings id' x hx

/-! ## Supply and resources -/

theorem steady_allocateSupplies (h : s.Consistent none) (combat : CombatField) (l : List UInt64) :
    Steady s (s.allocateSupplies combat l) :=
  keeps_allocateSupplies
    (fun _ hs _ _ _ _ _ => hs.trans (steady_modifyRole hs.consistent rfl rfl rfl id)) (.refl h)

theorem steady_recoverRoles (h : s.Consistent none) (combat : CombatField) (l : List UInt64) :
    Steady s (s.recoverRoles combat l) := by
  refine keeps_recoverRoles (fun t ht _ _ q _ food elixir => ht.trans ?_) (.refl h)
  refine steady_modifyRole ht.consistent rfl rfl rfl fun _ => ?_
  simp only [CombatRoleField.incElixir, CombatRoleField.setElixir, CombatRoleField.incFood,
    CombatRoleField.setFood]
  split
  · exact Int.le_refl _
  · omega

theorem steady_refund (h : s.Consistent none) (p : Ptr) (warriorId : Int) :
    Steady s (s.refund p warriorId) := by
  rw [refund]
  split
  · exact .refl h
  · exact steady_modifyRole h rfl rfl rfl id

theorem steady_convertCamp (h : s.Consistent none) (p : Ptr) (originalHostId hostId : UInt64) :
    Steady s (s.onEventCombatConvertCamp p originalHostId hostId) :=
  keeps_convertCamp
    (fun _ hs _ _ => hs.trans (steady_modifyRole hs.consistent rfl rfl rfl id))
    (fun _ hs _ _ => hs.trans (steady_modifyRole hs.consistent rfl rfl rfl id)) (.refl h)

theorem allocateSupplies_combat (combat : CombatField) (l : List UInt64) (s : CombatManagers)
    (p : Ptr) : (s.allocateSupplies combat l).combat p = s.combat p :=
  keeps_allocateSupplies (P := fun t => t.combat p = s.combat p) (fun _ h _ _ _ _ _ => h) rfl

/-- The event changes roles only. -/
theorem convertCamp_combat (s : CombatManagers) (p : Ptr) (originalHostId hostId : UInt64)
    (p' : Ptr) : (s.onEventCombatConvertCamp p originalHostId hostId).combat p' = s.combat p' :=
  keeps_convertCamp (P := fun t => t.combat p' = s.combat p') (fun _ h _ _ => h)
    (fun _ h _ _ => h) rfl

/-! ## Building -/

theorem steady_allocateId (h : s.Consistent none) (hc : s.combats[c]? = some p) :
    Steady s (s.allocateId p).2 := by
  refine steady_modifyCombat h hc rfl rfl rfl fun hfielded => ?_
  have hcombat := modifyCombat_combat (h.combats c p hc).1.1
    fun combat => { combat with idAlloctor := (s.combat p).idAlloctor + 1 }
  constructor
  · rw [hcombat]
    intro id w hw
    obtain ⟨hid, hhost⟩ := hfielded.warriors id w hw
    exact ⟨Int.le_add_one hid, hhost⟩
  · rw [hcombat]
    intro id b hb
    obtain ⟨hid, hbuilding⟩ := hfielded.buildings id b hb
    exact ⟨Int.le_add_one hid, hbuilding⟩

/-- A warrior joins under the last id that was given. -/
theorem steady_addWarrior (h : s.Consistent none) (hc : s.combats[c]? = some p)
    (hq : s.roles[(s.role q).argentId]? = some q) (hin : (s.role q).argentId ∈ (s.combat p).roles)
    {id : Int} (hid : id ≤ (s.combat p).idAlloctor) (description : WarriorDescription) :
    Steady s (s.modifyCombat p fun combat =>
      combat.addWarrior (.initializeWarrior id q (s.role q) description)) := by
  obtain ⟨w, hw⟩ : ∃ w, CombatWarriorField.initializeWarrior id q (s.role q) description = w :=
    ⟨_, rfl⟩
  have hfields : w.id = id ∧ w.hostId = (s.role q).argentId ∧ w.host = q := by
    rw [← hw, CombatWarriorField.initializeWarrior, CombatWarriorField.generateFields]
    split
    · exact ⟨rfl, rfl, rfl⟩
    · exact ⟨rfl, rfl, rfl⟩
  rw [hw]
  refine steady_warriors h hc ⟨rfl, rfl, rfl, rfl, rfl⟩ fun id' x hx => ?_
  rw [CombatField.addWarrior, ExtTreeMap.getElem?_insertIfNew] at hx
  split at hx
  · rename_i heq
    obtain rfl := Std.compare_eq_iff_eq.mp heq.1
    obtain rfl := Option.some.inj hx
    rw [hfields.1, hfields.2.1, hfields.2.2]
    exact ⟨hid, hin, hq⟩
  · exact (h.fielded c p hc).warriors id' x hx

theorem steady_putBuilding (h : s.Consistent none) (hc : s.combats[c]? = some p)
    {id : Int} {b : CombatBuildingField} (hid : id ≤ (s.combat p).idAlloctor) (hb : b.id = id) :
    Steady s (s.modifyCombat p fun combat =>
      { combat with buildings := combat.buildings.insert id b }) := by
  refine steady_buildings h hc ⟨rfl, rfl, rfl, rfl, rfl⟩ fun id' x hx => ?_
  rw [ExtTreeMap.getElem?_insert] at hx
  split at hx
  · rename_i heq
    obtain rfl := Std.compare_eq_iff_eq.mp heq
    obtain rfl := Option.some.inj hx
    exact ⟨hid, hb⟩
  · exact (h.fielded c p hc).buildings id' x hx

/-! ## Settling -/

theorem steady_sendSettlement (h : s.Consistent none) (p : Ptr) : Steady s (s.sendSettlement p) := by
  rw [sendSettlement]
  split
  · exact .refl h
  · exact steady_send h _ _

/-- A combat that is settled is taken down behind its last message. -/
theorem closeCombat_eq (h : s.Consistent none) (hreg : s.combats[c]? = some p) :
    s.closeCombat c p = (s.sendSettlement p).abandonCombat p := by
  have hsend := steady_sendSettlement h p
  have hid : ((s.sendSettlement p).combat p).id = c :=
    (hsend.consistent.combats c p (hsend.at hreg)).2.1
  rw [closeCombat, abandonCombat, hid]

/-- The combat `c` is settled, after changes that are steady. -/
def Settles (c : Int) (s s' : CombatManagers) : Prop :=
  ∃ (p : Ptr) (t : CombatManagers), Steady s t ∧ t.combats[c]? = some p ∧ s' = t.closeCombat c p

/-- The attack brings down the last building that is not of the attacker's camp. -/
def Conquers (s : CombatManagers) (combatId warriorId : Int) (target : CombatEntity) : Prop :=
  ∃ p active passive, s.combats[combatId]? = some p ∧
    (s.combat p).warriors[warriorId]? = some active ∧ target.type = .building ∧
    (s.combat p).buildings[target.id]? = some passive ∧ hit active.attack passive.hp ≤ 0 ∧
    ∀ (id : Int) (b : CombatBuildingField), (s.combat p).buildings[id]? = some b →
      id ≠ target.id → b.campId = active.campId

end CombatManagers

namespace Server

open CombatManagers Attempts

variable {s : Server} {p q : Ptr} {combatId : Int}

/-! ## Settling and beginning -/

theorem stopCombatTimer_managers (s : Server) (id : Int) :
    (s.stopCombatTimer id).managers = s.managers := by
  rw [stopCombatTimer]
  split
  · rfl
  · rfl

theorem closeCombat_managers (s : Server) (combatId : Int) (p : Ptr) :
    (s.closeCombat combatId p).managers = s.managers.closeCombat combatId p := by
  rw [closeCombat]
  simp only [stopCombatTimer_managers]

/-- What a request to settle does to the managers. -/
theorem settle_outcome {m : CombatManagers} (h : Steady m s.managers) (combatId : Int) :
    Steady m (s.onRequireCombatSettle combatId).2.managers ∨
      Settles combatId m (s.onRequireCombatSettle combatId).2.managers := by
  rw [onRequireCombatSettle]
  split
  · exact Or.inl h
  · rename_i p hc
    exact Or.inr ⟨p, s.managers, h, hc, closeCombat_managers _ _ _⟩

theorem begin_steady (h : s.managers.Consistent none) (session : SessionPtr) (combatId : Int) :
    Steady s.managers (s.onMessageCombatBeginRequest session combatId).managers := by
  rw [onMessageCombatBeginRequest]
  split
  · exact steady_send h _ _
  · rename_i p hc
    have htimer : ∀ {m : CombatManagers} (change : CombatField → CombatField), m.Consistent none →
        m.combats[combatId]? = some p →
        (∀ combat : CombatField, (change combat).id = combat.id ∧
          (change combat).roles = combat.roles ∧ (change combat).appSession = combat.appSession ∧
          (change combat).idAlloctor = combat.idAlloctor ∧
          (change combat).buildings = combat.buildings ∧
          (change combat).warriors = combat.warriors) → Steady m (m.modifyCombat p change) := by
      intro m change hm hcm hchange
      obtain ⟨hid, hroles, happSession, halloctor, hbuildings, hwarriors⟩ := hchange (m.combat p)
      refine steady_warriors hm hcm ⟨hid, hroles, happSession, halloctor, hbuildings⟩ ?_
      rw [hwarriors]
      exact (hm.fielded combatId p hcm).warriors
    have hsettle : Steady s.managers (s.setSettleTimer p).managers :=
      htimer _ h hc fun _ => ⟨rfl, rfl, rfl, rfl, rfl, rfl⟩
    have hrecover : Steady (s.setSettleTimer p).managers
        ((s.setSettleTimer p).setResourceRecoverTimer p).managers :=
      htimer _ hsettle.consistent (hsettle.at hc) fun _ => ⟨rfl, rfl, rfl, rfl, rfl, rfl⟩
    have hsupply : Steady ((s.setSettleTimer p).setResourceRecoverTimer p).managers
        (s.beginning p).managers := steady_allocateSupplies hrecover.consistent _ _
    dsimp only
    split
    · exact .refl h
    · exact ((hsettle.trans hrecover).trans hsupply).trans (steady_send hsupply.consistent _ _)

/-! ## Building -/

theorem buildWarrior_steady (h : s.managers.Consistent none)
    (hc : s.managers.combats[combatId]? = some p)
    (hq : s.managers.roles[(s.managers.role q).argentId]? = some q)
    (hin : (s.managers.role q).argentId ∈ (s.managers.combat p).roles) (buildingId : Int)
    (description : WarriorDescription) :
    Steady s.managers (s.buildWarrior q p buildingId description).2.managers := by
  have hanswer : Steady s.managers s.managers.allocateWarrior.2 :=
    steady_outside h s.managers.combatPool.news s.managers.rolePool.news s.managers.buildingAnswers
      s.managers.warriorAnswers.tail s.managers.sent
  have halloc := steady_allocateId hanswer.consistent (hanswer.at hc)
  have hlive : (s.managers.allocateWarrior.2.combatPool.objects p).isSome :=
    (hanswer.consistent.combats combatId p (hanswer.at hc)).1.1
  have hid : (s.managers.allocateWarrior.2.combat p).idAlloctor + 1 ≤
      ((s.managers.allocateWarrior.2.allocateId p).2.combat p).idAlloctor := by
    have hnew := modifyCombat_combat hlive fun combat =>
      { combat with idAlloctor := (s.managers.allocateWarrior.2.combat p).idAlloctor + 1 }
    exact Int.le_of_eq (congrArg CombatField.idAlloctor hnew).symm
  have hroles : ((s.managers.allocateWarrior.2.allocateId p).2.combat p).roles =
      (s.managers.combat p).roles :=
    ((hanswer.trans halloc).combat p).2
  have hadd := steady_addWarrior halloc.consistent (halloc.at (hanswer.at hc))
    (q := q) hq (hroles ▸ hin) hid description
  have hall := (hanswer.trans halloc).trans hadd
  rw [buildWarrior]
  split
  · rename_i m hfalse
    have heq : m = s.managers.allocateWarrior.2 := by rw [hfalse]
    rw [heq]
    exact hanswer
  · rename_i m htrue
    obtain rfl : m = s.managers.allocateWarrior.2 := by rw [htrue]
    dsimp only
    split
    · exact hall.trans (steady_removeWarrior hall.consistent (hall.at hc) _)
    · refine hall.trans (steady_modifyRole hall.consistent rfl rfl rfl fun _ => ?_)
      simp only [CombatRoleField.incFood, CombatRoleField.setFood]
      split
      · exact Int.le_refl _
      · omega

theorem build_steady (h : s.managers.Consistent none) {r : UInt64}
    (hr : s.managers.roles[r]? = some q) (warriorConfId buildingId : Int) :
    Steady s.managers (s.doBuildAction q warriorConfId buildingId).2.managers := by
  rw [doBuildAction]
  split
  · rename_i description p _ hcombat
    obtain ⟨c, hc, hin⟩ := h.role_combat hr hcombat
    have hargentId := (h.roles r q hr).1
    split
    · exact .refl h
    · split
      · exact .refl h
      · split
        · exact .refl h
        · split
          · exact .refl h
          · refine buildWarrior_steady h hc ?_ ?_ _ _
            · rw [hargentId, hr]
            · rw [hargentId]
              exact hin
  · exact .refl h

/-! ## Attacks -/

theorem attackWarrior_steady (h : s.managers.Consistent none)
    (hc : s.managers.combats[combatId]? = some p) (warriorId : Int) (active : CombatWarriorField)
    (target : CombatEntity) {passive : CombatWarriorField}
    (hpassive : (s.managers.combat p).warriors[target.id]? = some passive) :
    Steady s.managers (s.attackWarrior combatId warriorId p active target passive).managers := by
  have hhit : Steady s.managers (s.managers.modifyCombat p fun combat => { combat with
      warriors := combat.warriors.insert target.id
        { passive with hp := hit (toInt32 (active.attack - passive.defence)) passive.hp } }) :=
    steady_setWarrior h hc hpassive ⟨rfl, rfl⟩
  rw [attackWarrior]
  dsimp only
  split
  · exact hhit
  · have hrefund := steady_refund hhit.consistent p target.id
    have hall := hhit.trans hrefund
    exact hall.trans (steady_removeWarrior hall.consistent (hall.at hc) _)

/-- Buildings of one camp only: the others have the camp of any of them. -/
theorem one_camp {buildings : ExtTreeMap Int CombatBuildingField} {id : Int}
    {b : CombatBuildingField} (hb : buildings[id]? = some b)
    (hone : ((buildings.toList.map fun entry => entry.2.campId).dedup).length = 1) {id' : Int}
    {b' : CombatBuildingField} (hb' : buildings[id']? = some b') : b'.campId = b.campId := by
  obtain ⟨campId, hcamps⟩ := List.length_eq_one_iff.mp hone
  have hmem : ∀ {id : Int} {b : CombatBuildingField}, buildings[id]? = some b → b.campId = campId := by
    intro id b hb
    have hin : b.campId ∈ (buildings.toList.map fun entry => entry.2.campId).dedup :=
      List.mem_dedup.mpr (List.mem_map.mpr
        ⟨(id, b), ExtTreeMap.mem_toList_iff_getElem?_eq_some.mpr hb, rfl⟩)
    rw [hcamps] at hin
    exact List.mem_singleton.mp hin
  rw [hmem hb, hmem hb']

/-- What the buildings are after a hit that brings one down. -/
theorem struck_combat {m : CombatManagers} (hlive : (m.combatPool.objects p).isSome) (id : Int)
    (struck converted : CombatBuildingField) (originalHostId hostId : UInt64) :
    (((m.modifyCombat p fun combat =>
      { combat with buildings := combat.buildings.insert id struck }).modifyCombat p fun combat =>
        { combat with buildings := combat.buildings.insert id converted }).onEventCombatConvertCamp
          p originalHostId hostId).combat p =
      { m.combat p with
        buildings := ((m.combat p).buildings.insert id struck).insert id converted } := by
  have hstruck := modifyCombat_combat hlive fun combat =>
    { combat with buildings := combat.buildings.insert id struck }
  have hlive' : ((m.modifyCombat p fun combat =>
      { combat with buildings := combat.buildings.insert id struck }).combatPool.objects p).isSome :=
    (PoolTemplate.modify_isSome _).trans hlive
  rw [convertCamp_combat, modifyCombat_combat hlive', hstruck]

/-- The last building that was not of the attacker's camp came down. -/
theorem conquers_of_one_camp {m : CombatManagers} (hc : m.combats[combatId]? = some p)
    {warriorId : Int} {active : CombatWarriorField}
    (hactive : (m.combat p).warriors[warriorId]? = some active) {target : CombatEntity}
    (htype : target.type = .building) {passive : CombatBuildingField}
    (hpassive : (m.combat p).buildings[target.id]? = some passive)
    (hdestroyed : hit active.attack passive.hp ≤ 0) {struck converted : CombatBuildingField}
    (hcamp : converted.campId = active.campId)
    (hone : ((((m.combat p).buildings.insert target.id struck).insert target.id converted).toList.map
      fun entry => entry.2.campId).dedup.length = 1) :
    Conquers m combatId warriorId target := by
  refine ⟨p, active, passive, hc, hactive, htype, hpassive, hdestroyed, fun id b hb hne => ?_⟩
  have htarget := ExtTreeMap.getElem?_insert_self
    (t := (m.combat p).buildings.insert target.id struck) (k := target.id) (v := converted)
  have hother : compare target.id id ≠ .eq :=
    fun heq => hne (Std.compare_eq_iff_eq.mp heq).symm
  rw [← hcamp]
  refine one_camp htarget hone (?_ : _[id]? = some b)
  rw [ExtTreeMap.getElem?_insert, if_neg hother, ExtTreeMap.getElem?_insert, if_neg hother, hb]

theorem attackBuilding_outcome (h : s.managers.Consistent none)
    (hc : s.managers.combats[combatId]? = some p) {warriorId : Int} {active : CombatWarriorField}
    (hactive : (s.managers.combat p).warriors[warriorId]? = some active) {target : CombatEntity}
    (htype : target.type = .building) {passive : CombatBuildingField}
    (hpassive : (s.managers.combat p).buildings[target.id]? = some passive) :
    Steady s.managers (s.attackBuilding combatId warriorId p active target passive).managers ∨
      Conquers s.managers combatId warriorId target ∧ Settles combatId s.managers
        (s.attackBuilding combatId warriorId p active target passive).managers := by
  have hhit : Steady s.managers (s.managers.modifyCombat p fun combat => { combat with
      buildings := combat.buildings.insert target.id
        { passive with hp := hit active.attack passive.hp } }) :=
    steady_setBuilding h hc hpassive rfl
  have hnew := modifyCombat_combat (h.combats combatId p hc).1.1 fun combat => { combat with
    buildings := combat.buildings.insert target.id
      { passive with hp := hit active.attack passive.hp } }
  rw [attackBuilding]
  dsimp only
  split
  · exact Or.inl hhit
  · rename_i hdestroyed
    have hstruck : ((s.managers.modifyCombat p fun combat => { combat with
        buildings := combat.buildings.insert target.id
          { passive with hp := hit active.attack passive.hp } }).combat p).buildings[target.id]? =
          some { passive with hp := hit active.attack passive.hp } := by
      rw [hnew]
      simp
    have hconvert := steady_setBuilding (d := { passive with
        hp := hit active.attack passive.hp, campId := active.campId, hostId := active.hostId })
      hhit.consistent (hhit.at hc) hstruck rfl
    have hevent := steady_convertCamp hconvert.consistent p passive.hostId active.hostId
    have hall := (hhit.trans hconvert).trans hevent
    split
    · rename_i hone
      have hid := (hall.consistent.combats combatId p (hall.at hc)).2.1
      rw [hid]
      refine (settle_outcome (s := ⟨_, _⟩) hall combatId).imp_right fun hsettles => ⟨?_, hsettles⟩
      rw [struck_combat (h.combats combatId p hc).1.1] at hone
      exact conquers_of_one_camp hc hactive htype hpassive (Int.not_lt.mp hdestroyed) rfl hone
    · exact Or.inl hall

theorem attack_outcome (h : s.managers.Consistent none) (combatId warriorId : Int)
    (target : CombatEntity) :
    Steady s.managers (s.onRequireFormulaAttack combatId warriorId target).managers ∨
      Conquers s.managers combatId warriorId target ∧ Settles combatId s.managers
        (s.onRequireFormulaAttack combatId warriorId target).managers := by
  rw [onRequireFormulaAttack]
  split
  · exact Or.inl (.refl h)
  · rename_i p hc
    split
    · exact Or.inl (.refl h)
    · rename_i active hactive
      split
      · split
        · exact Or.inl (.refl h)
        · rename_i passive hpassive
          exact Or.inl (attackWarrior_steady h hc warriorId active target hpassive)
      · rename_i htype
        split
        · exact Or.inl (.refl h)
        · rename_i passive hpassive
          exact attackBuilding_outcome h hc hactive htype hpassive

/-! ## Timers -/

theorem recoveryHp_managers (s : Server) (p b : Ptr) (building : CombatBuildingField) :
    ∃ hp, (s.recoveryHp p b building).managers = s.managers.modifyCombat p fun combat =>
      { combat with buildings := combat.buildings.insert building.id { building with hp := hp } } :=
  ⟨_, rfl⟩

theorem recoverBuilding_ends {m : CombatManagers} (hc : m.combats[combatId]? = some p)
    (l : List (Int × CombatBuildingField))
    (hl : ∀ entry ∈ l, entry.2.id ≤ (m.combat p).idAlloctor) (h : m.Consistent none)
    (hm : s.managers = m) :
    Ends (fun s => Steady m s.managers) (fun s => Steady m s.managers)
      (l.foldlM (recoverBuilding combatId p) s) := by
  have hstart : (∀ entry ∈ l, entry.2.id ≤ (m.combat p).idAlloctor) ∧ Steady m s.managers ∧
      (s.managers.combat p).idAlloctor = (m.combat p).idAlloctor := by
    rw [hm]
    exact ⟨hl, .refl h, rfl⟩
  refine (ends_foldlM (I := fun l s => (∀ entry ∈ l, entry.2.id ≤ (m.combat p).idAlloctor) ∧
    Steady m s.managers ∧ (s.managers.combat p).idAlloctor = (m.combat p).idAlloctor)
    ?_ l hstart).mono (fun s hs => hs.2.1) fun s hs => hs
  rintro entry rest s ⟨hl, hsteady, halloctor⟩
  have hrest : ∀ entry ∈ rest, entry.2.id ≤ (m.combat p).idAlloctor :=
    fun entry hin => hl entry (List.mem_cons_of_mem _ hin)
  rw [recoverBuilding]
  split
  · exact hsteady
  · rename_i b _
    split
    · obtain ⟨hp, hrecover⟩ := recoveryHp_managers s p b entry.2
      have hid : entry.2.id ≤ (s.managers.combat p).idAlloctor :=
        halloctor ▸ hl entry (List.mem_cons_self ..)
      have hlive := (hsteady.consistent.combats combatId p (hsteady.at hc)).1.1
      refine ⟨hrest, ?_, ?_⟩
      · rw [hrecover]
        exact hsteady.trans (steady_putBuilding hsteady.consistent (hsteady.at hc) hid rfl)
      · rw [hrecover, modifyCombat_combat hlive, ← halloctor]
    · exact ⟨hrest, hsteady, halloctor⟩

theorem resourceRecover_steady (h : s.managers.Consistent none) (combatId : Int) :
    Steady s.managers (s.onEventCombatResourceRecover combatId).managers := by
  rw [onEventCombatResourceRecover]
  split
  · exact .refl h
  · rename_i p hc
    have hbuildings := (h.fielded combatId p hc).buildings
    have hends := recoverBuilding_ends (s := s) hc (s.managers.combat p).buildings.toList
      (fun entry hin => by
        obtain ⟨hid, heq⟩ := hbuildings entry.1 entry.2 (ExtTreeMap.mem_toList_iff_getElem?_eq_some.mp hin)
        rw [heq]
        exact hid) h rfl
    split
    · rename_i t hfold
      exact hends.error hfold
    · rename_i t hfold
      have ht := hends.ok hfold
      exact ht.trans (steady_recoverRoles ht.consistent _ _)

/-- The attack that a step makes, at a call or for an auto. -/
def attackOf (s : Server) : Action → Option (Int × Int × CombatEntity)
  | .attack combatId warriorId target => some (combatId, warriorId, target)
  | .expire timerId =>
    match s.apps.timers.expire timerId with
    | some (.attack x, _) =>
      if s.bound (.attack x) then
        (s.apps.autoCombat s.managers x).map fun combat =>
          (combat.id, (s.apps.autoKey x).2, (s.apps.auto x).target)
      else none
    | _ => none
  | _ => none

/-- The time of the combat is up, or the step makes the attack that decides it. -/
def Ending (s : Server) (a : Action) (combatId : Int) : Prop :=
  (∃ timerId p timers, a = .expire timerId ∧
    s.apps.timers.expire timerId = some (.settle p, timers) ∧
    (s.managers.combat p).id = combatId) ∨
  ∃ warriorId target, s.attackOf a = some (combatId, warriorId, target) ∧
    Conquers s.managers combatId warriorId target

/-- A timer that expires leaves the managers steady, or ends a combat. -/
theorem expire_outcome (h : s.managers.Consistent none) (timerId : Int) :
    Steady s.managers (s.expire timerId).managers ∨
      ∃ combatId, s.Ending (.expire timerId) combatId ∧
        Settles combatId s.managers (s.expire timerId).managers := by
  rw [expire]
  split
  · exact Or.inl (.refl h)
  · rename_i callback timers hexpire
    dsimp only
    split
    · rename_i hbound
      cases callback with
      | settle p =>
        exact (settle_outcome (s := { s with apps := { s.apps with timers := timers } }) (.refl h)
          _).imp_right fun hsettles => ⟨_, Or.inl ⟨timerId, p, timers, rfl, hexpire, rfl⟩, hsettles⟩
      | resourceRecover p =>
        exact Or.inl (resourceRecover_steady
          (s := { s with apps := { s.apps with timers := timers } }) h _)
      | attack x =>
        have hbound : s.bound (.attack x) := hbound
        rw [call]
        split
        · exact Or.inl (.refl h)
        · rename_i combat hcombat
          have hcombat : s.apps.autoCombat s.managers x = some combat := hcombat
          refine (attack_outcome (s := { s with apps := { s.apps with timers := timers } }) h _ _
            _).imp_right fun ⟨hconquers, hsettles⟩ => ⟨_, Or.inr ⟨_, _, ?_, hconquers⟩, hsettles⟩
          simp only [attackOf, hexpire, hbound, hcombat]
          rfl
      | printStatusImage sc => exact Or.inl (.refl h)
      | move w => exact Or.inl (.refl h)
      | search x => exact Or.inl (.refl h)
      | refindPath x => exact Or.inl (.refl h)
    · exact Or.inl (.refl h)

end Server

end Mysya
