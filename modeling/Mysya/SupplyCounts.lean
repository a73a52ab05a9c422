import Mysya.BuildingCounts

/-!
# The supply of a role

Supply is charged when a warrior was built and given back when one dies, in another module each
time. What a role has in use beside the needs of its warriors is its margin: while a combat stays,
no step changes the margin of a role of it.
-/

open Std Attempts MapSums GuardedRuns

namespace Mysya

/-- What the warriors of a role in a combat need of its supply. -/
def CombatField.supplyOf (combat : CombatField) (r : UInt64) : Int :=
  total (fun w : CombatWarriorField => if w.hostId = r then w.supplyNeed else 0) combat.warriors

namespace CombatManagers

variable {s s' s'' : CombatManagers} {p q : Ptr} {c : Int} {r : UInt64}

/-- The supply that a role uses for no warrior. -/
def margin (s : CombatManagers) (p q : Ptr) (r : UInt64) : Int :=
  (s.role q).supply - (s.combat p).supplyOf r

/-- The combats and their roles stay, and so do the margins. -/
structure SameMargins (s s' : CombatManagers) : Prop where
  combats : s'.combats = s.combats
  combatIds : s'.combatIds = s.combatIds
  roles : s'.roles = s.roles
  members : ∀ p, (s'.combat p).roles = (s.combat p).roles
  margin : ∀ (c : Int) (p : Ptr) (r : UInt64) (q : Ptr), s.combats[c]? = some p →
    r ∈ (s.combat p).roles → s.roles[r]? = some q → s'.margin p q r = s.margin p q r

theorem SameMargins.refl (s : CombatManagers) : SameMargins s s :=
  ⟨rfl, rfl, rfl, fun _ => rfl, fun _ _ _ _ _ _ _ => rfl⟩

theorem SameMargins.trans (h : SameMargins s s') (h' : SameMargins s' s'') : SameMargins s s'' where
  combats := h'.combats.trans h.combats
  combatIds := h'.combatIds.trans h.combatIds
  roles := h'.roles.trans h.roles
  members := fun p => (h'.members p).trans (h.members p)
  margin := by
    intro c p r q hc hr hq
    rw [← h.margin c p r q hc hr hq]
    rw [← h.combats] at hc
    rw [← h.members] at hr
    rw [← h.roles] at hq
    exact h'.margin c p r q hc hr hq

/-- What the margins of a combat are read from. -/
def shownNeeds (combat : CombatField) : ExtTreeSet UInt64 × (UInt64 → Int) :=
  (combat.roles, combat.supplyOf)

theorem Frame.sameMargins (h : Frame shownNeeds CombatRoleField.supply s s') :
    SameMargins s s' where
  combats := h.combats
  combatIds := h.combatIds
  roles := h.roles
  members := fun p => congrArg Prod.fst (h.combat p)
  margin := fun _ p r q _ _ _ => by
    have hneed : (s'.combat p).supplyOf r = (s.combat p).supplyOf r :=
      congrFun (congrArg Prod.snd (h.combat p)) r
    rw [CombatManagers.margin, CombatManagers.margin, h.role, hneed]

theorem blind_needs : Blind shownNeeds CombatRoleField.supply :=
  ⟨fun _ _ => rfl, fun _ _ => rfl, fun _ => rfl, fun _ _ => rfl, fun _ _ => rfl, fun _ _ _ => rfl⟩

/-! ## Warriors that come and go -/

/-- A warrior takes the place of one with the same host and the same needs. -/
theorem sameMargins_setWarrior {id : Int} {w w' : CombatWarriorField}
    (hw : (s.combat p).warriors[id]? = some w) (hhost : w'.hostId = w.hostId)
    (hneed : w'.supplyNeed = w.supplyNeed) :
    SameMargins s (s.modifyCombat p fun combat =>
      { combat with warriors := combat.warriors.insert id w' }) := by
  have hneeds : ∀ r, CombatField.supplyOf
      { s.combat p with warriors := (s.combat p).warriors.insert id w' } r =
        (s.combat p).supplyOf r := by
    intro r
    show total _ ((s.combat p).warriors.insert id w') = total _ (s.combat p).warriors
    rw [total_replace hw, hhost, hneed]
    omega
  exact (frame_modifyCombat (Prod.ext rfl (funext hneeds))).sameMargins

/-- The role of a combat is charged for what its warriors need more. -/
theorem sameMargins_charge (h : s.Consistent none) (hc : s.combats[c]? = some p)
    (hr : r ∈ (s.combat p).roles) (hq : s.roles[r]? = some q) {n : Int}
    {change : CombatField → CombatField} {charge : CombatRoleField → CombatRoleField}
    (hroles : (change (s.combat p)).roles = (s.combat p).roles)
    (hneed : ∀ r', (change (s.combat p)).supplyOf r' =
      (s.combat p).supplyOf r' + if r = r' then n else 0)
    (hcharge : (charge (s.role q)).supply = (s.role q).supply + n) :
    SameMargins s ((s.modifyCombat p change).modifyRole q charge) where
  combats := rfl
  combatIds := rfl
  roles := rfl
  members := fun p' => by
    show ((s.modifyCombat p change).combat p').roles = (s.combat p').roles
    rcases modifyCombat_or s p p' change with hsame | ⟨rfl, hchanged⟩
    · rw [hsame]
    · rw [hchanged, hroles]
  margin := by
    intro c' p' r' q' hc' hr' hq'
    have hnew := modifyCombat_combat (h.combats c p hc).1.1 change
    have hlive : ((s.modifyCombat p change).rolePool.objects q).isSome := (h.held r q hq).1
    have hpaid := modifyRole_role hlive charge
    show ((((s.modifyCombat p change).modifyRole q charge).role q').supply -
      ((s.modifyCombat p change).combat p').supplyOf r') = s.margin p' q' r'
    rw [margin]
    by_cases hqq : q' = q
    · subst hqq
      obtain rfl := h.alone r r' q' hq hq'
      obtain rfl := h.member_unique hc' hc hr' hr
      have hsupply : (((s.modifyCombat p' change).modifyRole q' charge).role q').supply =
          (s.role q').supply + n := by
        rw [hpaid]
        exact hcharge
      rw [hsupply, hnew, hneed, if_pos rfl]
      omega
    · have hsupply : (((s.modifyCombat p change).modifyRole q charge).role q').supply =
          (s.role q').supply :=
        congrArg CombatRoleField.supply (PoolTemplate.read_modify_other _ hqq charge)
      rw [hsupply]
      by_cases hp : p' = p
      · subst hp
        have hne : r ≠ r' := by
          rintro rfl
          exact hqq (Option.some.inj (hq'.symm.trans hq))
        rw [hnew, hneed, if_neg hne]
        omega
      · have hsame : (s.modifyCombat p change).combat p' = s.combat p' :=
          PoolTemplate.read_modify_other _ hp change
        rw [hsame]

theorem initializeWarrior_needs (id : Int) (host : Ptr) (role : CombatRoleField)
    (description : WarriorDescription) :
    (CombatWarriorField.initializeWarrior id host role description).id = id ∧
      (CombatWarriorField.initializeWarrior id host role description).hostId = role.argentId ∧
      (CombatWarriorField.initializeWarrior id host role description).supplyNeed =
        description.supplyNeed := by
  rw [CombatWarriorField.initializeWarrior, CombatWarriorField.generateFields]
  split
  · exact ⟨rfl, rfl, rfl⟩
  · exact ⟨rfl, rfl, rfl⟩

/-- The next id of a combat leads to no warrior yet. -/
theorem Consistent.fresh_warrior (h : s.Consistent none) (hc : s.combats[c]? = some p) {id : Int}
    (hid : (s.combat p).idAlloctor < id) : (s.combat p).warriors[id]? = none := by
  cases hw : (s.combat p).warriors[id]? with
  | none => rfl
  | some w =>
    have hold := ((h.fielded c p hc).warriors id w hw).1
    omega

/-- A warrior that is taken out again leaves the others. -/
theorem removeWarrior_addWarrior {combat : CombatField} {w : CombatWarriorField}
    (hfresh : combat.warriors[w.id]? = none) :
    (combat.addWarrior w).removeWarrior w.id = combat := by
  have hwarriors : (combat.warriors.insertIfNew w.id w).erase w.id = combat.warriors := by
    ext1 id
    rw [ExtTreeMap.getElem?_erase]
    split
    · rename_i heq
      rw [← Std.compare_eq_iff_eq.mp heq, hfresh]
    · rename_i hne
      rw [ExtTreeMap.getElem?_insertIfNew, if_neg fun heq => hne heq.1]
  rw [CombatField.addWarrior, CombatField.removeWarrior]
  dsimp only
  rw [hwarriors]

theorem supplyOf_addWarrior {combat : CombatField} {w : CombatWarriorField}
    (hfresh : combat.warriors[w.id]? = none) (r : UInt64) :
    (combat.addWarrior w).supplyOf r =
      combat.supplyOf r + if w.hostId = r then w.supplyNeed else 0 :=
  total_insertIfNew hfresh w

theorem supplyOf_removeWarrior {combat : CombatField} {w : CombatWarriorField} {id : Int}
    (hw : combat.warriors[id]? = some w) (r : UInt64) :
    (combat.removeWarrior id).supplyOf r =
      combat.supplyOf r + if w.hostId = r then 0 - w.supplyNeed else 0 := by
  have herase := total_erase (f := fun w : CombatWarriorField =>
    if w.hostId = r then w.supplyNeed else 0) hw
  show total _ (combat.warriors.erase id) = total _ combat.warriors + _
  rw [herase]
  split
  · omega
  · omega

/-- A warrior dies: its role gets back what it needed. -/
theorem sameMargins_death (h : s.Consistent none) (hc : s.combats[c]? = some p) {id : Int}
    {w : CombatWarriorField} (hw : (s.combat p).warriors[id]? = some w) :
    SameMargins s ((s.refund p id).modifyCombat p fun combat => combat.removeWarrior id) := by
  obtain ⟨_, hmember, hhost⟩ := (h.fielded c p hc).warriors id w hw
  rw [refund, hw]
  exact sameMargins_charge h hc hmember hhost rfl (supplyOf_removeWarrior hw) rfl

/-! ## Combats that come and go -/

/-- What any step leaves: no combat comes back, and in the ones that stay the margins do. -/
structure KeepsMargins (s s' : CombatManagers) : Prop where
  consistent : s'.Consistent none
  combatIds : s.combatIds ≤ s'.combatIds
  old : ∀ (c : Int) (p : Ptr), c < s.combatIds → s'.combats[c]? = some p → s.combats[c]? = some p
  margin : ∀ (c : Int) (p : Ptr) (r : UInt64) (q : Ptr), s.combats[c]? = some p →
    s'.combats[c]? = some p → r ∈ (s.combat p).roles → s.roles[r]? = some q →
    r ∈ (s'.combat p).roles ∧ s'.roles[r]? = some q ∧ s'.margin p q r = s.margin p q r

theorem SameMargins.keeps (h : SameMargins s s') (hc : s'.Consistent none) : KeepsMargins s s' where
  consistent := hc
  combatIds := Int.le_of_eq h.combatIds.symm
  old := fun c p _ hreg => by rw [← h.combats, hreg]
  margin := by
    intro c p r q hreg _ hr hq
    rw [h.members, h.roles]
    exact ⟨hr, hq, h.margin c p r q hreg hr hq⟩

/-- A combat is settled after margins that stayed. -/
theorem SameMargins.settles {t : CombatManagers} (h : SameMargins s t) (ht : t.Consistent none)
    (hreg : t.combats[c]? = some p) : KeepsMargins s (t.closeCombat c p) := by
  have hsend : SameMargins t (t.sendSettlement p) := by
    rw [sendSettlement]
    split
    · exact .refl t
    · exact (frame_send t _ _).sameMargins
  have hall := h.trans hsend
  have hsent := (steady_sendSettlement ht p).consistent
  have hreg' : (t.sendSettlement p).combats[c]? = some p := by rw [hsend.combats, hreg]
  have hdown := closeCombat_takenDown ht hreg
  constructor
  · exact (ht.closeCombat hreg).1
  · exact Int.le_of_eq (hdown.combatIds.trans hall.combatIds).symm
  · intro c' p' _ hin
    rw [← hall.combats]
    exact (hdown.combat_left hsent hreg' hin).1
  · intro c' p' r q hc' hin hr hq
    obtain ⟨hold, hother, _, hcombat⟩ := hdown.combat_left hsent hreg' hin
    have hmember : r ∈ ((t.sendSettlement p).combat p').roles := by rw [hall.members]; exact hr
    have hrole : (t.sendSettlement p).roles[r]? = some q := by rw [hall.roles, hq]
    have hstays : (t.closeCombat c p).roles[r]? = some q := by
      rw [hdown.roles, if_neg, hrole]
      exact fun hin' => hother (hsent.member_unique hold hreg' hmember hin')
    have hkept := (hdown.role_left hsent hstays).2.2
    refine ⟨by rw [hcombat]; exact hmember, hstays, ?_⟩
    rw [CombatManagers.margin, hcombat, hkept]
    exact hall.margin c' p' r q hc' hr hq

/-- What was handed out before a request is as it was. -/
theorem Kept.margin (h : Kept s s') (hs : s.Consistent none) (hc : s.combats[c]? = some p)
    (hr : r ∈ (s.combat p).roles) (hq : s.roles[r]? = some q) :
    r ∈ (s'.combat p).roles ∧ s'.margin p q r = s.margin p q r := by
  rw [CombatManagers.margin, CombatManagers.margin, h.combat_eq (hs.combats c p hc).1,
    h.role_eq (hs.held r q hq)]
  exact ⟨hr, rfl⟩

theorem Deployed.keeps {data : CombatInitialData} (hs : s.Consistent none)
    (hd : Deployed s data p s') : KeepsMargins s s' where
  consistent := hd.toConsistent
  combatIds := by
    rw [hd.combatIds]
    omega
  old := by
    intro c' p' hold hreg
    rw [hd.registered, ExtTreeMap.getElem?_insert, if_neg] at hreg
    · exact hreg
    · intro heq
      have hnew := Std.compare_eq_iff_eq.mp heq
      omega
  margin := by
    intro c' p' r q hreg _ hr hq
    obtain ⟨hmember, hmargin⟩ := hd.kept.margin hs hreg hr hq
    exact ⟨hmember, hd.rolesKept r q hq, hmargin⟩

theorem Refused.keeps (hs : s.Consistent none) (hr : Refused s s') : KeepsMargins s s' where
  consistent := hr.toConsistent
  combatIds := hr.combatIds
  old := fun c' p' _ hreg => by rw [← hr.registered, hreg]
  margin := by
    intro c' p' r q hreg _ hmember hq
    obtain ⟨hmember', hmargin⟩ := hr.kept.margin hs hreg hmember hq
    exact ⟨hmember', by rw [hr.registeredRoles, hq], hmargin⟩

theorem KeepsMargins.send (h : KeepsMargins s s') (session : SessionPtr)
    (message : CombatMessage) : KeepsMargins s (s'.send session message) where
  consistent := (steady_send h.consistent session message).consistent
  combatIds := h.combatIds
  old := h.old
  margin := h.margin

/-- A deploy request, whether it is granted or refused. -/
theorem keepsMargins_deploy {data : CombatInitialData} (hs : s.Consistent none)
    (hrefused : s.refusesRoleBuilding data = false) (session : SessionPtr) (hostId : Int) :
    KeepsMargins s (s.onMessageCombatDeployRequest session hostId data) := by
  have hends : Ends (fun r => Deployed s data r.1 r.2) (Refused s) (s.deployCombat session data) :=
    ends_deployCombat hs hrefused
  rw [onMessageCombatDeployRequest]
  split
  · rename_i t ht
    exact ((hends.error ht).keeps hs).send session _
  · rename_i p t ht
    exact ((hends.ok ht).keeps hs).send session _

/-- A combat that a request brings has no warriors yet. -/
theorem deploy_bare {data : CombatInitialData} (hs : s.Consistent none)
    (hrefused : s.refusesRoleBuilding data = false) (session : SessionPtr) (hostId : Int)
    (hnew : s.combats[c]? = none)
    (hreg : (s.onMessageCombatDeployRequest session hostId data).combats[c]? = some p) :
    ((s.onMessageCombatDeployRequest session hostId data).combat p).supplyOf r = 0 := by
  have hends : Ends (fun r => Deployed s data r.1 r.2) (Refused s) (s.deployCombat session data) :=
    ends_deployCombat hs hrefused
  revert hreg
  rw [onMessageCombatDeployRequest]
  split
  · rename_i t ht
    intro hreg
    have hreg : t.combats[c]? = some p := hreg
    rw [(hends.error ht).registered, hnew] at hreg
    cases hreg
  · rename_i p' t ht
    intro hreg
    have hdeployed := hends.ok ht
    have hreg : t.combats[c]? = some p := hreg
    rw [hdeployed.registered, ExtTreeMap.getElem?_insert] at hreg
    split at hreg
    · obtain rfl := Option.some.inj hreg
      show (t.combat p').supplyOf r = 0
      rw [CombatField.supplyOf, hdeployed.warriors]
      exact total_empty _
    · rw [hnew] at hreg
      cases hreg

end CombatManagers

namespace Apps

variable {a : Apps} {m : CombatManagers} {w : Ptr}

/-- A scene that refuses a warrior is as it was. -/
theorem placeWarrior_refused {sc b : Ptr} {key : EntityKey} {moveSpeed : Int}
    (h : (a.placeWarrior m sc b w key moveSpeed).1 = false) :
    (a.placeWarrior m sc b w key moveSpeed).2.scenePool = a.scenePool := by
  revert h
  rw [placeWarrior]
  split
  · exact fun _ => deallocateWarrior_scenePool _ w
  · dsimp only
    split
    · exact fun _ => (deallocateWarrior_scenePool _ w).trans (moveReset_scenePool _ w)
    · exact fun hbuilt => (by cases hbuilt)

theorem sceneBuild_refused {combatId buildingId warriorId : Int}
    (h : (a.onRequireSceneBuild m combatId buildingId warriorId).1 = false) :
    (a.onRequireSceneBuild m combatId buildingId warriorId).2.scenePool = a.scenePool := by
  revert h
  rw [onRequireSceneBuild]
  split
  · exact fun _ => rfl
  · split
    · exact fun _ => rfl
    · split
      · split
        · exact fun _ => rfl
        · exact fun h => placeWarrior_refused h
      · exact fun _ => rfl

end Apps

namespace Server

open CombatManagers

variable {s : Server} {p q : Ptr} {combatId : Int} {r : UInt64}

/-! ## The steps of the server -/

theorem settle_keepsMargins {m : CombatManagers} (h : SameMargins m s.managers)
    (hc : s.managers.Consistent none) (combatId : Int) :
    KeepsMargins m (s.onRequireCombatSettle combatId).2.managers := by
  rw [onRequireCombatSettle]
  split
  · exact h.keeps hc
  · rename_i p hreg
    dsimp only
    rw [closeCombat_managers]
    exact h.settles hc hreg

/-- The combat and the role as `DoBuildAction` finds them when it adds the warrior. -/
theorem allocateId_keeps (h : s.managers.Consistent none)
    (hc : s.managers.combats[combatId]? = some p) :
    Steady s.managers (s.managers.allocateWarrior.2.allocateId p).2 ∧
      SameMargins s.managers (s.managers.allocateWarrior.2.allocateId p).2 ∧
      (s.managers.allocateWarrior.2.allocateId p).2.rolePool = s.managers.rolePool ∧
      ∀ p', ((s.managers.allocateWarrior.2.allocateId p).2.combat p').warriors =
        (s.managers.combat p').warriors := by
  have hanswer : Steady s.managers s.managers.allocateWarrior.2 :=
    steady_outside h s.managers.combatPool.news s.managers.rolePool.news s.managers.buildingAnswers
      s.managers.warriorAnswers.tail s.managers.sent
  refine ⟨hanswer.trans (steady_allocateId hanswer.consistent (hanswer.at hc)), ?_, rfl,
    fun p' => ?_⟩
  · have hbeside : SameMargins s.managers s.managers.allocateWarrior.2 :=
      Frame.sameMargins (frame_outside rfl rfl rfl (fun _ => rfl) fun _ => rfl)
    exact hbeside.trans ((frame_modifyCombat rfl).sameMargins)
  · rcases modifyCombat_or s.managers.allocateWarrior.2 p p' (fun combat =>
      { combat with idAlloctor := (s.managers.allocateWarrior.2.combat p).idAlloctor + 1 })
      with hsame | ⟨rfl, hchanged⟩
    · exact congrArg CombatField.warriors hsame
    · have hwarriors := congrArg CombatField.warriors hchanged
      exact hwarriors

/-- `DoBuildAction` finds no field for the warrior, takes the warrior out again, or is paid. -/
theorem buildWarrior_cases (s : Server) (q p : Ptr) (buildingId : Int)
    (description : WarriorDescription) :
    (s.buildWarrior q p buildingId description = (false, { s with
      managers := s.managers.allocateWarrior.2 })) ∨
    ∃ w, w = CombatWarriorField.initializeWarrior (s.managers.allocateWarrior.2.allocateId p).1 q
        ((s.managers.allocateWarrior.2.allocateId p).2.role q) description ∧
      (((s.buildWarrior q p buildingId description).1 = false ∧
        (s.buildWarrior q p buildingId description).2.managers =
          ((s.managers.allocateWarrior.2.allocateId p).2.modifyCombat p fun combat =>
            combat.addWarrior w).modifyCombat p (fun combat => combat.removeWarrior w.id) ∧
        (s.buildWarrior q p buildingId description).2.apps.scenePool = s.apps.scenePool) ∨
      ((s.buildWarrior q p buildingId description).1 = true ∧
        (s.buildWarrior q p buildingId description).2.managers =
          ((s.managers.allocateWarrior.2.allocateId p).2.modifyCombat p fun combat =>
            combat.addWarrior w).modifyRole q fun role =>
              (role.incSupply description.supplyNeed).incFood (0 - description.foodNeed))) := by
  have hid := (initializeWarrior_needs (s.managers.allocateWarrior.2.allocateId p).1 q
    ((s.managers.allocateWarrior.2.allocateId p).2.role q) description).1
  rw [buildWarrior]
  split
  · rename_i m hfalse
    obtain rfl : s.managers.allocateWarrior.2 = m := by rw [hfalse]
    exact Or.inl rfl
  · rename_i m htrue
    obtain rfl : s.managers.allocateWarrior.2 = m := by rw [htrue]
    refine Or.inr ⟨_, rfl, ?_⟩
    rw [hid]
    dsimp only
    split
    · rename_i apps hrefused
      refine Or.inl ⟨rfl, rfl, ?_⟩
      have hpool := Apps.sceneBuild_refused (congrArg Prod.fst hrefused)
      rw [hrefused] at hpool
      exact hpool
    · exact Or.inr ⟨rfl, rfl⟩

/-- The warrior that `DoBuildAction` adds is new, and its needs are those of its description. -/
theorem added_warrior (h : s.managers.Consistent none)
    (hc : s.managers.combats[combatId]? = some p) {w : CombatWarriorField}
    {description : WarriorDescription}
    (hw : w = CombatWarriorField.initializeWarrior (s.managers.allocateWarrior.2.allocateId p).1 q
      ((s.managers.allocateWarrior.2.allocateId p).2.role q) description) :
    ((s.managers.allocateWarrior.2.allocateId p).2.combat p).warriors[w.id]? = none ∧
      w.hostId = (s.managers.role q).argentId ∧ w.supplyNeed = description.supplyNeed := by
  obtain ⟨hid, hhost, hneed⟩ := initializeWarrior_needs
    (s.managers.allocateWarrior.2.allocateId p).1 q
    ((s.managers.allocateWarrior.2.allocateId p).2.role q) description
  rw [hw, hid, hhost, hneed, (allocateId_keeps h hc).2.2.2]
  exact ⟨h.fresh_warrior hc (Int.lt_succ _), rfl, rfl⟩

theorem removed_combat {m : CombatManagers} (hlive : (m.combatPool.objects p).isSome)
    {w : CombatWarriorField} (hfresh : (m.combat p).warriors[w.id]? = none) (p' : Ptr) :
    ((m.modifyCombat p fun combat => combat.addWarrior w).modifyCombat p
      fun combat => combat.removeWarrior w.id).combat p' = m.combat p' := by
  by_cases hp : p' = p
  · subst hp
    rw [modifyCombat_combat, modifyCombat_combat hlive, removeWarrior_addWarrior hfresh]
    exact (PoolTemplate.modify_isSome _).trans hlive
  · exact (PoolTemplate.read_modify_other _ hp _).trans (PoolTemplate.read_modify_other _ hp _)

theorem buildWarrior_sameMargins (h : s.managers.Consistent none)
    (hc : s.managers.combats[combatId]? = some p) (hr : r ∈ (s.managers.combat p).roles)
    (hq : s.managers.roles[r]? = some q) (buildingId : Int) (description : WarriorDescription) :
    SameMargins s.managers (s.buildWarrior q p buildingId description).2.managers := by
  obtain ⟨hsteady, hbefore, _, _⟩ := allocateId_keeps h hc
  rcases buildWarrior_cases s q p buildingId description with
    hnone | ⟨w, hw, ⟨_, hmanagers, _⟩ | ⟨_, hmanagers⟩⟩
  · rw [hnone]
    exact Frame.sameMargins (frame_outside rfl rfl rfl (fun _ => rfl) fun _ => rfl)
  · rw [hmanagers]
    obtain ⟨hfresh, _⟩ := added_warrior h hc hw
    exact hbefore.trans (Frame.sameMargins (frame_outside rfl rfl rfl
      (removed_combat (hsteady.consistent.combats combatId p (hsteady.at hc)).1.1 hfresh)
      fun _ => rfl))
  · rw [hmanagers]
    obtain ⟨hfresh, hhost, hneed⟩ := added_warrior h hc hw
    have hmember : r ∈ ((s.managers.allocateWarrior.2.allocateId p).2.combat p).roles := by
      rw [hbefore.members]
      exact hr
    have hrole : (s.managers.allocateWarrior.2.allocateId p).2.roles[r]? = some q := by
      rw [hbefore.roles, hq]
    refine hbefore.trans (sameMargins_charge hsteady.consistent (hsteady.at hc) hmember hrole
      (n := description.supplyNeed) rfl (fun r' => ?_) rfl)
    rw [supplyOf_addWarrior hfresh, hhost, hneed, (h.roles r q hq).1]

theorem build_sameMargins (h : s.managers.Consistent none) (hq : s.managers.roles[r]? = some q)
    (warriorConfId buildingId : Int) :
    SameMargins s.managers (s.doBuildAction q warriorConfId buildingId).2.managers := by
  rw [doBuildAction]
  split
  · rename_i description p _ hcombat
    obtain ⟨c, hc, hr⟩ := h.role_combat hq hcombat
    split
    · exact .refl _
    · split
      · exact .refl _
      · split
        · exact .refl _
        · split
          · exact .refl _
          · exact buildWarrior_sameMargins h hc hr hq buildingId description
  · exact .refl _

/-- A build that succeeds is within the food and the supply of the role. -/
theorem build_paid (h : s.managers.Consistent none) (hq : s.managers.roles[r]? = some q)
    {warriorConfId buildingId : Int} {description : WarriorDescription}
    (hdescription : (s.managers.role q).warriorDescriptions[warriorConfId]? = some description)
    (hneed : 0 ≤ description.foodNeed)
    (hbuilt : (s.doBuildAction q warriorConfId buildingId).1 = true) :
    0 ≤ ((s.doBuildAction q warriorConfId buildingId).2.managers.role q).food ∧
      ((s.doBuildAction q warriorConfId buildingId).2.managers.role q).supply ≤
        ((s.doBuildAction q warriorConfId buildingId).2.managers.role q).supplyMax := by
  revert hbuilt
  rw [doBuildAction]
  split
  · rename_i found p hfound _
    obtain rfl : found = description := Option.some.inj (hfound.symm.trans hdescription)
    split
    · exact fun hbuilt => (by cases hbuilt)
    · split
      · exact fun hbuilt => (by cases hbuilt)
      · rename_i hfood
        split
        · exact fun hbuilt => (by cases hbuilt)
        · rename_i hsupply
          split
          · exact fun hbuilt => (by cases hbuilt)
          · intro hbuilt
            rcases buildWarrior_cases s q p buildingId found with
              hnone | ⟨w, _, ⟨hrefused, _⟩ | ⟨_, hmanagers⟩⟩
            · rw [hnone] at hbuilt
              cases hbuilt
            · rw [hrefused] at hbuilt
              cases hbuilt
            · have hpaid : (s.buildWarrior q p buildingId found).2.managers.role q =
                  ((s.managers.role q).incSupply found.supplyNeed).incFood (0 - found.foodNeed) := by
                rw [hmanagers]
                exact modifyRole_role (s := (s.managers.allocateWarrior.2.allocateId
                  p).2.modifyCombat p _) (h.held r q hq).1 _
              have hmax := (h.roles r q hq).2
              rw [hpaid, CombatRoleField.incFood, CombatRoleField.setFood, CombatRoleField.incSupply]
              dsimp only
              constructor
              · split
                · omega
                · omega
              · omega
  · exact fun hbuilt => (by cases hbuilt)

/-- A build that fails leaves the roles, the warriors and the scenes. -/
theorem build_undone (h : s.managers.Consistent none) (hq : s.managers.roles[r]? = some q)
    {warriorConfId buildingId : Int}
    (hfailed : (s.doBuildAction q warriorConfId buildingId).1 = false) :
    (∀ q', (s.doBuildAction q warriorConfId buildingId).2.managers.role q' =
      s.managers.role q') ∧
    (∀ p, ((s.doBuildAction q warriorConfId buildingId).2.managers.combat p).warriors =
      (s.managers.combat p).warriors) ∧
    ∀ sc, ((s.doBuildAction q warriorConfId buildingId).2.apps.scene sc).warriors =
      (s.apps.scene sc).warriors := by
  revert hfailed
  rw [doBuildAction]
  split
  · rename_i description p _ hcombat
    obtain ⟨c, hc, _⟩ := h.role_combat hq hcombat
    split
    · exact fun _ => ⟨fun _ => rfl, fun _ => rfl, fun _ => rfl⟩
    · split
      · exact fun _ => ⟨fun _ => rfl, fun _ => rfl, fun _ => rfl⟩
      · split
        · exact fun _ => ⟨fun _ => rfl, fun _ => rfl, fun _ => rfl⟩
        · split
          · exact fun _ => ⟨fun _ => rfl, fun _ => rfl, fun _ => rfl⟩
          · intro hfailed
            obtain ⟨hsteady, _, _, hwarriors⟩ := allocateId_keeps h hc
            rcases buildWarrior_cases s q p buildingId description with
              hnone | ⟨w, hw, ⟨_, hmanagers, hscenes⟩ | ⟨hbuilt, _⟩⟩
            · rw [hnone]
              exact ⟨fun _ => rfl, fun _ => rfl, fun _ => rfl⟩
            · obtain ⟨hfresh, _⟩ := added_warrior h hc hw
              refine ⟨fun q' => by rw [hmanagers]; rfl, fun p' => ?_, fun sc => ?_⟩
              · rw [hmanagers, removed_combat (hsteady.consistent.combats c p (hsteady.at hc)).1.1
                  hfresh, hwarriors]
              · rw [Apps.scene, hscenes]
                rfl
            · rw [hbuilt] at hfailed
              cases hfailed
  · exact fun _ => ⟨fun _ => rfl, fun _ => rfl, fun _ => rfl⟩

theorem attackWarrior_sameMargins (h : s.managers.Consistent none)
    (hc : s.managers.combats[combatId]? = some p) (warriorId : Int) (active : CombatWarriorField)
    (target : CombatEntity) {passive : CombatWarriorField}
    (hpassive : (s.managers.combat p).warriors[target.id]? = some passive) :
    SameMargins s.managers
      (s.attackWarrior combatId warriorId p active target passive).managers := by
  have hsteady : Steady s.managers (s.managers.modifyCombat p fun combat => { combat with
      warriors := combat.warriors.insert target.id
        { passive with hp := hit (toInt32 (active.attack - passive.defence)) passive.hp } }) :=
    steady_setWarrior h hc hpassive ⟨rfl, rfl⟩
  have hhit : SameMargins s.managers (s.managers.modifyCombat p fun combat => { combat with
      warriors := combat.warriors.insert target.id
        { passive with hp := hit (toInt32 (active.attack - passive.defence)) passive.hp } }) :=
    sameMargins_setWarrior hpassive rfl rfl
  rw [attackWarrior]
  dsimp only
  split
  · exact hhit
  · have hstruck : ((s.managers.modifyCombat p fun combat => { combat with
        warriors := combat.warriors.insert target.id
          { passive with hp := hit (toInt32 (active.attack - passive.defence)) passive.hp } }).combat
            p).warriors[target.id]? =
          some { passive with hp := hit (toInt32 (active.attack - passive.defence)) passive.hp } := by
      rw [modifyCombat_combat (h.combats combatId p hc).1.1]
      exact ExtTreeMap.getElem?_insert_self
    exact hhit.trans (sameMargins_death hsteady.consistent (hsteady.at hc) hstruck)

theorem attackBuilding_keepsMargins (h : s.managers.Consistent none)
    (hc : s.managers.combats[combatId]? = some p) (warriorId : Int) (active : CombatWarriorField)
    (target : CombatEntity) {passive : CombatBuildingField}
    (hpassive : (s.managers.combat p).buildings[target.id]? = some passive) :
    KeepsMargins s.managers
      (s.attackBuilding combatId warriorId p active target passive).managers := by
  have hhit : Steady s.managers (s.managers.modifyCombat p fun combat => { combat with
      buildings := combat.buildings.insert target.id
        { passive with hp := hit active.attack passive.hp } }) :=
    steady_setBuilding h hc hpassive rfl
  have hmargins : SameMargins s.managers (s.managers.modifyCombat p fun combat => { combat with
      buildings := combat.buildings.insert target.id
        { passive with hp := hit active.attack passive.hp } }) :=
    (frame_modifyCombat rfl).sameMargins
  have hnew := modifyCombat_combat (h.combats combatId p hc).1.1 fun combat => { combat with
    buildings := combat.buildings.insert target.id
      { passive with hp := hit active.attack passive.hp } }
  rw [attackBuilding]
  dsimp only
  split
  · exact hmargins.keeps hhit.consistent
  · have hstruck : ((s.managers.modifyCombat p fun combat => { combat with
        buildings := combat.buildings.insert target.id
          { passive with hp := hit active.attack passive.hp } }).combat p).buildings[target.id]? =
          some { passive with hp := hit active.attack passive.hp } := by
      rw [hnew]
      simp
    have hconvert := steady_setBuilding (d := { passive with
        hp := hit active.attack passive.hp, campId := active.campId, hostId := active.hostId })
      hhit.consistent (hhit.at hc) hstruck rfl
    have hevent := steady_convertCamp hconvert.consistent p passive.hostId active.hostId
    have hset : SameMargins (s.managers.modifyCombat p fun combat => { combat with
        buildings := combat.buildings.insert target.id
          { passive with hp := hit active.attack passive.hp } })
        ((s.managers.modifyCombat p fun combat => { combat with
          buildings := combat.buildings.insert target.id
            { passive with hp := hit active.attack passive.hp } }).modifyCombat p fun combat =>
          { combat with buildings := combat.buildings.insert target.id { passive with
            hp := hit active.attack passive.hp, campId := active.campId,
            hostId := active.hostId } }) :=
      (frame_modifyCombat rfl).sameMargins
    have hall := (hmargins.trans hset).trans
      (blind_needs.convertCamp (fun _ _ => rfl) _ p passive.hostId active.hostId).sameMargins
    split
    · exact settle_keepsMargins (s := ⟨_, _⟩) hall hevent.consistent _
    · exact hall.keeps hevent.consistent

theorem recoverBuilding_sameMargins (combatId : Int) (p : Ptr) {m : CombatManagers}
    (l : List (Int × CombatBuildingField)) (hm : SameMargins m s.managers) :
    Ends (fun s => SameMargins m s.managers) (fun s => SameMargins m s.managers)
      (l.foldlM (recoverBuilding combatId p) s) := by
  refine ends_foldlM (I := fun (_ : List (Int × CombatBuildingField)) (s : Server) =>
    SameMargins m s.managers) ?_ l hm
  intro entry rest s hs
  rw [recoverBuilding]
  split
  · exact hs
  · split
    · exact hs.trans ((frame_modifyCombat rfl).sameMargins)
    · exact hs

theorem resourceRecover_sameMargins (s : Server) (combatId : Int) :
    SameMargins s.managers (s.onEventCombatResourceRecover combatId).managers := by
  rw [onEventCombatResourceRecover]
  split
  · exact .refl _
  · rename_i p _
    have hends := recoverBuilding_sameMargins (s := s) combatId p
      (s.managers.combat p).buildings.toList (.refl s.managers)
    split
    · rename_i t hfold
      exact hends.error hfold
    · rename_i t hfold
      exact (hends.ok hfold).trans (blind_needs.recoverRoles _ _ _).sameMargins

theorem attack_keepsMargins (h : s.managers.Consistent none) (combatId warriorId : Int)
    (target : CombatEntity) :
    KeepsMargins s.managers (s.onRequireFormulaAttack combatId warriorId target).managers := by
  have hstay : KeepsMargins s.managers s.managers := (SameMargins.refl _).keeps h
  rw [onRequireFormulaAttack]
  split
  · exact hstay
  · rename_i p hc
    split
    · exact hstay
    · rename_i active _
      split
      · split
        · exact hstay
        · rename_i passive hpassive
          exact (attackWarrior_sameMargins h hc warriorId active target hpassive).keeps
            (attackWarrior_steady h hc warriorId active target hpassive).consistent
      · split
        · exact hstay
        · rename_i passive hpassive
          exact attackBuilding_keepsMargins h hc warriorId active target hpassive

theorem expire_keepsMargins (h : s.managers.Consistent none) (timerId : Int) :
    KeepsMargins s.managers (s.expire timerId).managers := by
  have hstay : KeepsMargins s.managers s.managers := (SameMargins.refl _).keeps h
  rw [expire]
  split
  · exact hstay
  · rename_i callback timers _
    dsimp only
    split
    · cases callback with
      | settle p =>
        exact settle_keepsMargins (s := { s with apps := { s.apps with timers := timers } })
          (.refl _) h _
      | resourceRecover p =>
        exact (resourceRecover_sameMargins { s with apps := { s.apps with timers := timers } }
          _).keeps (resourceRecover_steady
            (s := { s with apps := { s.apps with timers := timers } }) h _).consistent
      | attack x =>
        rw [call]
        split
        · exact hstay
        · exact attack_keepsMargins (s := { s with apps := { s.apps with timers := timers } }) h
            _ _ _
      | printStatusImage sc => exact hstay
      | move w => exact hstay
      | search x => exact hstay
      | refindPath x => exact hstay
    · exact hstay

/-! ## Runs -/

/-- A request has no building of a role refused. -/
def SupplyGuard (s : Server) (a : Action) : Prop :=
  ∀ session hostId data, a = .deploy session hostId data →
    s.managers.refusesRoleBuilding data = false

theorem supplyGuard_quiet {a : Action} (h : ∀ session hostId data, a ≠ .deploy session hostId data) :
    s.SupplyGuard a :=
  fun session hostId data hdeploy => absurd hdeploy (h session hostId data)

theorem step_keepsMargins (h : s.managers.Consistent none) {a : Action}
    (hguard : s.SupplyGuard a) : KeepsMargins s.managers (s.step a).managers := by
  have hstay : KeepsMargins s.managers s.managers := (SameMargins.refl _).keeps h
  have hconnect : ∀ {q : Ptr} (session : SessionPtr) (message : CombatMessage),
      KeepsMargins s.managers ((s.managers.setAppSession q session).send session message) :=
    fun session message => ((blind_needs.setAppSession s.managers _ session).sameMargins.trans
      ((frame_send _ session message).sameMargins)).keeps
        (steady_send (h.setAppSession _ session) session message).consistent
  cases a with
  | memory memory =>
    have hbeside : SameMargins s.managers (s.step (.memory memory)).managers :=
      Frame.sameMargins (frame_outside rfl rfl rfl (fun _ => rfl) fun _ => rfl)
    exact hbeside.keeps (steady_outside h memory.combats memory.roles memory.buildingAnswers
      memory.warriorAnswers s.managers.sent).consistent
  | accept session =>
    refine SameMargins.keeps ?_ (h.accept session)
    show SameMargins s.managers (s.managers.accept session)
    rw [CombatManagers.accept]
    split
    · exact .refl _
    · exact Frame.sameMargins (frame_outside rfl rfl rfl (fun _ => rfl) fun _ => rfl)
  | close session => exact (blind_needs.closeSession _ session).sameMargins.keeps (h.closeSession session)
  | deploy session hostId data =>
    exact keepsMargins_deploy h (hguard session hostId data rfl) session hostId
  | connectArgent session r combatId =>
    show KeepsMargins s.managers (s.managers.onMessageCombatConnectArgentRequest session r combatId)
    rw [onMessageCombatConnectArgentRequest]
    split
    · exact ((frame_send _ _ _).sameMargins).keeps (steady_send h _ _).consistent
    · exact hconnect session _
  | reconnect session r combatId =>
    show KeepsMargins s.managers (s.managers.onMessageCombatReconnectRequest session r combatId)
    rw [onMessageCombatReconnectRequest]
    split
    · exact hconnect session _
    · exact hstay
  | begin session combatId =>
    exact (blind_needs.begin s session combatId).sameMargins.keeps
      (begin_steady h session combatId).consistent
  | build r warriorConfId buildingId =>
    rw [step]
    split
    · exact hstay
    · rename_i q hq
      exact (build_sameMargins h hq warriorConfId buildingId).keeps
        (build_steady h hq warriorConfId buildingId).consistent
  | move r warriorIds pos =>
    rw [step]
    split
    · exact hstay
    · rw [doMoveAction]
      split
      · exact hstay
      · exact hstay
  | attack combatId warriorId target => exact attack_keepsMargins h combatId warriorId target
  | expire timerId => exact expire_keepsMargins h timerId

/-- Until a combat goes, a run leaves the margins of its roles. -/
theorem run_keepsMargins {d t : Server} (h : d.managers.Consistent none) {c : Int}
    (hc : d.managers.combats[c]? = some p) (hr : r ∈ (d.managers.combat p).roles)
    (hq : d.managers.roles[r]? = some q)
    (hrun : Reaches (fun s a => some (step s a)) SupplyGuard d t) :
    t.managers.Consistent none ∧ d.managers.combatIds ≤ t.managers.combatIds ∧
      (t.managers.combats[c]? = some p → r ∈ (t.managers.combat p).roles ∧
        t.managers.roles[r]? = some q ∧ t.managers.margin p q r = d.managers.margin p q r) := by
  have hgiven := (h.combats c p hc).2.2
  refine hrun.invariant (I := fun t => t.managers.Consistent none ∧
    d.managers.combatIds ≤ t.managers.combatIds ∧ (t.managers.combats[c]? = some p →
      r ∈ (t.managers.combat p).roles ∧ t.managers.roles[r]? = some q ∧
        t.managers.margin p q r = d.managers.margin p q r))
    ⟨h, Int.le_refl _, fun _ => ⟨hr, hq, rfl⟩⟩ ?_
  rintro t a t' ⟨ht, hids, hstays⟩ hguard hstep
  cases hstep
  have hkeeps := step_keepsMargins ht hguard
  refine ⟨hkeeps.consistent, Int.le_trans hids hkeeps.combatIds, fun hreg => ?_⟩
  have hbefore := hkeeps.old c p (Int.lt_of_lt_of_le hgiven hids) hreg
  obtain ⟨hmember, hrole, hmargin⟩ := hstays hbefore
  obtain ⟨hmember', hrole', hmargin'⟩ := hkeeps.margin c p r q hbefore hreg hmember hrole
  exact ⟨hmember', hrole', hmargin'.trans hmargin⟩

/-- While no request is refused a building of a role, what a role of a combat uses of its supply
since its deployment is what its warriors need, a build stays within the food and the supply, and
one that fails leaves the roles and the warriors. -/
theorem supply_accounted (configs : Configs) (memory : Memory) (s : Server)
    (hs : Reaches (fun s a => some (step s a)) SupplyGuard (started configs memory) s) :
    (∀ (session : SessionPtr) (hostId : Int) (data : CombatInitialData) (d t : Server) (c : Int)
      (p : Ptr) (r : UInt64) (q : Ptr), s.SupplyGuard (.deploy session hostId data) →
      d = s.step (.deploy session hostId data) → s.managers.combats[c]? = none →
      d.managers.combats[c]? = some p → r ∈ (d.managers.combat p).roles →
      d.managers.roles[r]? = some q → Reaches (fun s a => some (step s a)) SupplyGuard d t →
      t.managers.combats[c]? = some p →
      t.managers.roles[r]? = some q ∧
        (t.managers.role q).supply - (d.managers.role q).supply =
          (t.managers.combat p).supplyOf r) ∧
    ∀ (r : UInt64) (q : Ptr) (warriorConfId buildingId : Int), s.managers.roles[r]? = some q →
      ((s.doBuildAction q warriorConfId buildingId).1 = true →
        ∀ description, (s.managers.role q).warriorDescriptions[warriorConfId]? = some description →
        0 ≤ description.foodNeed → 0 ≤ description.supplyNeed →
        0 ≤ ((s.doBuildAction q warriorConfId buildingId).2.managers.role q).food ∧
          ((s.doBuildAction q warriorConfId buildingId).2.managers.role q).supply ≤
            ((s.doBuildAction q warriorConfId buildingId).2.managers.role q).supplyMax) ∧
      ((s.doBuildAction q warriorConfId buildingId).1 = false →
        (∀ q', (s.doBuildAction q warriorConfId buildingId).2.managers.role q' =
          s.managers.role q') ∧
        (∀ p, ((s.doBuildAction q warriorConfId buildingId).2.managers.combat p).warriors =
          (s.managers.combat p).warriors) ∧
        ∀ sc, ((s.doBuildAction q warriorConfId buildingId).2.apps.scene sc).warriors =
          (s.apps.scene sc).warriors) := by
  have hconsistent : s.managers.Consistent none := by
    refine hs.invariant (I := fun s => s.managers.Consistent none)
      (started_consistent _ _ _ _ _ _ _ _) ?_
    intro s a s' h hguard hstep
    cases hstep
    exact (step_keepsMargins h hguard).consistent
  refine ⟨?_, fun r q warriorConfId buildingId hq => ⟨?_, build_undone hconsistent hq⟩⟩
  · rintro session hostId data d t c p r q hguard rfl hnew hreg hr hq hrun hstays
    have hd := (step_keepsMargins hconsistent hguard).consistent
    have hbare := deploy_bare (r := r) hconsistent (hguard session hostId data rfl) session hostId
      hnew hreg
    have hbare : ((s.step (.deploy session hostId data)).managers.combat p).supplyOf r = 0 := hbare
    obtain ⟨_, hrole, hmargin⟩ := (run_keepsMargins hd hreg hr hq hrun).2.2 hstays
    rw [margin, margin, hbare] at hmargin
    exact ⟨hrole, by omega⟩
  · exact fun hbuilt description hdescription hfood _ =>
      build_paid hconsistent hq hdescription hfood hbuilt

theorem supply_accounted_armed :
    ((armed rivals).managers.role 0).supply -
        (((battlefield.step (.accept 0)).step (.deploy 0 5 rivals)).managers.role 0).supply =
      ((armed rivals).managers.combat 0).supplyOf 7 ∧
    ((armed rivals).managers.combat 0).supplyOf 7 = 1 := by
  have hguard : (battlefield.step (.accept 0)).SupplyGuard (.deploy 0 5 rivals) := by
    intro session hostId data hdeploy
    cases hdeploy
    decide
  have hreaches : Reaches (fun s a => some (step s a)) SupplyGuard battlefield
      (battlefield.step (.accept 0)) :=
    Reaches.refl.snoc (.accept 0) (supplyGuard_quiet fun _ _ _ h => by cases h) rfl
  have harmed : Reaches (fun s a => some (step s a)) SupplyGuard
      ((battlefield.step (.accept 0)).step (.deploy 0 5 rivals)) (armed rivals) :=
    (Reaches.refl.snoc (.begin 0 0) (supplyGuard_quiet fun _ _ _ h => by cases h) rfl).snoc
      (.build 7 1 1) (supplyGuard_quiet fun _ _ _ h => by cases h) rfl
  have hdeployed : (battlefield.step (.accept 0)).managers.combats[(0 : Int)]? = none ∧
      ((battlefield.step (.accept 0)).step (.deploy 0 5 rivals)).managers.combats[(0 : Int)]? =
        some 0 ∧
      7 ∈ (((battlefield.step (.accept 0)).step (.deploy 0 5 rivals)).managers.combat 0).roles ∧
      ((battlefield.step (.accept 0)).step (.deploy 0 5 rivals)).managers.roles[(7 : UInt64)]? =
        some 0 ∧ (armed rivals).managers.combats[(0 : Int)]? = some 0 ∧
      ((armed rivals).managers.combat 0).supplyOf 7 = 1 := by
    decide +kernel
  obtain ⟨hnew, hreg, hmember, hrole, hstays, hneed⟩ := hdeployed
  have haccounted := (supply_accounted _ _ _ hreaches).1 0 5 rivals _ (armed rivals) 0 0 7 0 hguard
    rfl hnew hreg hmember hrole harmed hstays
  exact ⟨haccounted.2, hneed⟩

/-- A combat of one camp whose roles have a house each. -/
def housed (roles : List (UInt64 × List WarriorDescription)) : CombatInitialData where
  mapId := 1
  maxTime := 60
  camps := [
    { id := 1
      initFood := 10
      maxFood := 100
      initElixir := 10
      maxElixir := 100
      roles := roles.map fun role =>
        ⟨role.1, "role", role.2, [⟨1, 1, 50, 1, 0, 1, 5, 1, 1⟩]⟩
      buildings := [] }]

def troops : List WarriorDescription := [⟨1, 1, 10, 20, 1, 1, 1, 1, 1, 1, 1⟩]

/-- The first request is refused its house: role 7 stays registered, and its object goes on to
role 9 of the next combat, and back to the pool with it. Then role 9 comes again, with another
object. -/
def reissued : Server :=
  run (started
    { combatInitialSize := 1
      combatExtendSize := 1
      combatRoleInitialSize := 2
      combatRoleExtendSize := 1
      combatWarriorInitialSize := 1
      combatWarriorExtendSize := 1
      combatBuildingInitialSize := 1
      combatBuildingExtendSize := 1
      sceneConfs := fun _ => some ⟨1, 4, ['0', '0', '0', '0']⟩
      searchFuel := 100 }
    ⟨[some 0], [some 0, some 1], [], [], [], [], [], [], []⟩)
    [.accept 0, .deploy 0 5 (housed [(7, [])]),
      .memory ⟨[], [], [true, true, true], [true], [some 0], [some 0, some 1, some 2], [some 0],
        [some 0], [some 0, some 1, some 2]⟩,
      .deploy 0 5 (housed [(8, []), (9, troops)]), .begin 0 1, .expire 1,
      .deploy 0 5 (housed [(9, troops)])]

/-- A build for role 7 then gives role 9 a warrior that it is not charged for. -/
theorem supply_unaccounted :
    reissued.managers.combats[(2 : Int)]? = some 0 ∧ 9 ∈ (reissued.managers.combat 0).roles ∧
    reissued.managers.roles[(9 : UInt64)]? = some 1 ∧
    (run reissued [.begin 0 2, .build 7 1 1]).managers.combats[(2 : Int)]? = some 0 ∧
    (run reissued [.begin 0 2, .build 7 1 1]).managers.roles[(9 : UInt64)]? = some 1 ∧
    ((run reissued [.begin 0 2, .build 7 1 1]).managers.role 1).supply -
      (reissued.managers.role 1).supply = 0 ∧
    ((run reissued [.begin 0 2, .build 7 1 1]).managers.combat 0).supplyOf 9 = 1 := by
  decide +kernel

end Server

end Mysya
