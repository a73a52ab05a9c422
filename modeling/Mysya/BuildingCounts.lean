import Mysya.CombatFrames

/-!
# The buildings of a role

`building_num_` of a role is counted along when a building changes hands. The handler finds both
roles by the ids in the event, which has less room for them than the fields of a building, and
does nothing where one is missing. While it finds them, the number is that of the buildings.
-/

open Std Attempts MapSums

namespace Mysya

namespace CombatManagers

variable {s s' s'' : CombatManagers} {p q : Ptr} {c : Int}

/-- Each role of a combat knows the number of its buildings. -/
def Counted (s : CombatManagers) : Prop :=
  ∀ (c : Int) (p : Ptr) (r : UInt64) (q : Ptr), s.combats[c]? = some p →
    r ∈ (s.combat p).roles → s.roles[r]? = some q →
    (s.role q).buildingNum = (s.combat p).buildingsOf r

/-- No building changes hands, no role joins or leaves, and no number changes. -/
structure SameCounts (s s' : CombatManagers) : Prop where
  combats : s'.combats = s.combats
  roles : s'.roles = s.roles
  members : ∀ p, (s'.combat p).roles = (s.combat p).roles
  buildings : ∀ p r, (s'.combat p).buildingsOf r = (s.combat p).buildingsOf r
  numbers : ∀ q, (s'.role q).buildingNum = (s.role q).buildingNum

theorem SameCounts.refl (s : CombatManagers) : SameCounts s s :=
  ⟨rfl, rfl, fun _ => rfl, fun _ _ => rfl, fun _ => rfl⟩

theorem SameCounts.trans (h : SameCounts s s') (h' : SameCounts s' s'') : SameCounts s s'' where
  combats := h'.combats.trans h.combats
  roles := h'.roles.trans h.roles
  members := fun p => (h'.members p).trans (h.members p)
  buildings := fun p r => (h'.buildings p r).trans (h.buildings p r)
  numbers := fun q => (h'.numbers q).trans (h.numbers q)

theorem Counted.same (h : s.Counted) (hc : SameCounts s s') : s'.Counted := by
  intro c p r q hreg hr hq
  rw [hc.combats] at hreg
  rw [hc.members] at hr
  rw [hc.roles] at hq
  rw [hc.numbers, hc.buildings]
  exact h c p r q hreg hr hq

/-- What the buildings of roles are counted by. -/
def shownCounts (combat : CombatField) : ExtTreeSet UInt64 × (UInt64 → Int) :=
  (combat.roles, combat.buildingsOf)

theorem Frame.sameCounts (h : Frame shownCounts CombatRoleField.buildingNum s s') :
    SameCounts s s' where
  combats := h.combats
  roles := h.roles
  members := fun p => congrArg Prod.fst (h.combat p)
  buildings := fun p => congrFun (congrArg Prod.snd (h.combat p))
  numbers := h.role

theorem blind_counts : Blind shownCounts CombatRoleField.buildingNum :=
  ⟨fun _ _ => rfl, fun _ _ => rfl, fun _ => rfl, fun _ _ => rfl, fun _ _ => rfl, fun _ _ _ => rfl⟩

/-- A building is replaced by one of the same host. -/
theorem sameCounts_setBuilding {id : Int} {b d : CombatBuildingField}
    (hb : (s.combat p).buildings[id]? = some b) (hhost : d.hostId = b.hostId) :
    SameCounts s (s.modifyCombat p fun combat =>
      { combat with buildings := combat.buildings.insert id d }) := by
  have hcount : ∀ r, CombatField.buildingsOf
      { s.combat p with buildings := (s.combat p).buildings.insert id d } r =
        (s.combat p).buildingsOf r := by
    intro r
    show total _ ((s.combat p).buildings.insert id d) = total _ (s.combat p).buildings
    rw [total_replace hb, hhost]
    omega
  exact (frame_modifyCombat (Prod.ext rfl (funext hcount))).sameCounts

/-! ## A building that changes hands -/

/-- The ids of the two roles get through the event, and the building was one of a role. -/
def Recognized (s : CombatManagers) (p : Ptr) (originalHostId hostId : UInt64) : Prop :=
  originalHostId = hostId ∨ eventHostId hostId = hostId ∧
    eventHostId originalHostId = originalHostId ∧ originalHostId ∈ (s.combat p).roles

theorem modifyRole_buildingNum (h : (s.rolePool.objects q).isSome) (n : Int) (q' : Ptr) :
    ((s.modifyRole q fun role => role.incBuildingNum n).role q').buildingNum =
      (s.role q').buildingNum + if q' = q then n else 0 := by
  by_cases hq : q' = q
  · subst hq
    rw [modifyRole_role h, if_pos rfl]
    rfl
  · rw [if_neg hq, Int.add_zero]
    exact congrArg CombatRoleField.buildingNum (PoolTemplate.read_modify_other _ hq _)

/-- What the handler does to the numbers when it finds both roles. -/
theorem convertCamp_numbers {original : Ptr} {originalHostId hostId : UInt64}
    (hq : s.roles[eventHostId hostId]? = some q)
    (horiginal : s.roles[eventHostId originalHostId]? = some original)
    (hlive : (s.rolePool.objects q).isSome) (hlive' : (s.rolePool.objects original).isSome)
    (q' : Ptr) :
    ((s.onEventCombatConvertCamp p originalHostId hostId).role q').buildingNum =
      ((s.role q').buildingNum + if q' = q then 1 else 0) + if q' = original then -1 else 0 := by
  rw [onEventCombatConvertCamp, hq, horiginal]
  dsimp only
  rw [allocateBuildingSupply, (blind_counts.allocateSupplies _ _ _).role, modifyRole_buildingNum,
    modifyRole_buildingNum hlive]
  exact (PoolTemplate.modify_isSome _).trans hlive'

/-- The handler finds the roles, so the numbers stay those of the buildings. -/
theorem Counted.convert (h : s.Counted) (hs : s.Consistent none) (hreg : s.combats[c]? = some p)
    {id : Int} {b d : CombatBuildingField} (hb : (s.combat p).buildings[id]? = some b)
    (hid : d.id = b.id) (hhost : d.hostId ∈ (s.combat p).roles)
    (hrecognized : Recognized s p b.hostId d.hostId) :
    ((s.modifyCombat p fun combat =>
      { combat with buildings := combat.buildings.insert id d }).onEventCombatConvertCamp p b.hostId
        d.hostId).Counted := by
  have hset := steady_setBuilding hs hreg hb hid
  have hsteady := hset.trans (steady_convertCamp hset.consistent p b.hostId d.hostId)
  have hnew := modifyCombat_combat (hs.combats c p hreg).1.1 fun combat =>
    { combat with buildings := combat.buildings.insert id d }
  obtain ⟨q₁, hq₁, _⟩ := hs.members c p d.hostId hreg hhost
  have hbuildings : ∀ p' r, ((s.modifyCombat p fun combat => { combat with
      buildings := combat.buildings.insert id d }).combat p').buildingsOf r =
      (s.combat p').buildingsOf r + (if p' = p then (if d.hostId = r then 1 else 0) -
        (if b.hostId = r then 1 else 0) else 0) := by
    intro p' r
    by_cases hp : p' = p
    · subst hp
      rw [hnew, if_pos rfl]
      show total _ ((s.combat p').buildings.insert id d) = total _ (s.combat p').buildings + _
      rw [total_replace hb]
      omega
    · rw [if_neg hp, Int.add_zero]
      exact congrArg (fun combat => CombatField.buildingsOf combat r)
        (PoolTemplate.read_modify_other _ hp _)
  intro c' p' r q hreg' hr hq
  rw [hsteady.combats] at hreg'
  rw [(hsteady.combat p').2] at hr
  rw [hsteady.roles] at hq
  rw [convertCamp_combat, hbuildings, ← h c' p' r q hreg' hr hq]
  rcases hrecognized with hsame | ⟨hevent, hevent', hold⟩
  · -- the two lookups are one
    rw [hsame]
    have hnumber : ((((s.modifyCombat p fun combat => { combat with
        buildings := combat.buildings.insert id d }).onEventCombatConvertCamp p d.hostId
        d.hostId).role q).buildingNum) = (s.role q).buildingNum := by
      cases hfound : s.roles[eventHostId d.hostId]? with
      | none =>
        rw [onEventCombatConvertCamp]
        have hfound : (s.modifyCombat p fun combat => { combat with
          buildings := combat.buildings.insert id d }).roles[eventHostId d.hostId]? = none := hfound
        rw [hfound]
        rfl
      | some q' =>
        have hlive := (hs.held _ q' hfound).1
        refine (convertCamp_numbers (s := s.modifyCombat p _) hfound hfound hlive hlive q).trans ?_
        show (s.role q).buildingNum + _ + _ = _
        split
        · omega
        · omega
    rw [hnumber]
    split
    · omega
    · omega
  · obtain ⟨q₀, hq₀, _⟩ := hs.members c p b.hostId hreg hold
    have hlive₁ := (hs.held _ q₁ hq₁).1
    have hlive₀ := (hs.held _ q₀ hq₀).1
    have hfound₁ : s.roles[eventHostId d.hostId]? = some q₁ := by rw [hevent, hq₁]
    have hfound₀ : s.roles[eventHostId b.hostId]? = some q₀ := by rw [hevent', hq₀]
    refine (convertCamp_numbers (s := s.modifyCombat p _) hfound₁ hfound₀ hlive₁ hlive₀ q).trans ?_
    show (s.role q).buildingNum + _ + _ = _
    have hiff : ∀ {r' : UInt64} {q' : Ptr}, s.roles[r']? = some q' → r' ∈ (s.combat p).roles →
        (q = q' ↔ p' = p ∧ r' = r) := by
      intro r' q' hq' hr'
      constructor
      · rintro rfl
        obtain rfl := hs.alone r r' q hq hq'
        exact ⟨hs.member_unique hreg' hreg hr hr', rfl⟩
      · rintro ⟨_, rfl⟩
        exact Option.some.inj (hq.symm.trans hq')
    have h₁ := hiff hq₁ hhost
    have h₀ := hiff hq₀ hold
    by_cases hp : p' = p
    · simp only [hp, true_and] at h₁ h₀
      simp only [hp, h₁, h₀, if_true]
      split
      · split
        · omega
        · omega
      · split
        · omega
        · omega
    · simp only [hp, false_and, iff_false] at h₁ h₀
      simp [hp, h₁, h₀]

/-! ## Combats that come and go -/

theorem Counted.takenDown (h : s.Counted) (hs : s.Consistent none) (ht : TakenDown s c p s')
    (hreg : s.combats[c]? = some p) : s'.Counted := by
  intro c' p' r q hreg' hr hq
  obtain ⟨hin, _, _, hcombat⟩ := ht.combat_left hs hreg hreg'
  obtain ⟨hq', _, hrole⟩ := ht.role_left hs hq
  rw [hcombat] at hr
  rw [hcombat, hrole]
  exact h c' p' r q hin hr hq'

theorem closeCombat_takenDown (h : s.Consistent none) (hreg : s.combats[c]? = some p) :
    TakenDown (s.sendSettlement p) c p (s.closeCombat c p) := by
  have hsend := steady_sendSettlement h p
  rw [closeCombat_eq h hreg]
  exact hsend.consistent.takenDown (hsend.at hreg)

theorem Consistent.closeCombat (h : s.Consistent none) (hreg : s.combats[c]? = some p) :
    (s.closeCombat c p).Consistent none ∧ (s.closeCombat c p).combats = s.combats.erase c := by
  have hsend := steady_sendSettlement h p
  have hdown := closeCombat_takenDown h hreg
  refine ⟨hdown.consistent hsend.consistent (hsend.at hreg), ?_⟩
  rw [hdown.combats, hsend.combats]

theorem Counted.closeCombat (h : s.Counted) (hs : s.Consistent none)
    (hreg : s.combats[c]? = some p) : (s.closeCombat c p).Counted := by
  have hsend := steady_sendSettlement hs p
  exact (h.same ((frame_sendSettlement s p).sameCounts)).takenDown hsend.consistent
    (closeCombat_takenDown hs hreg) (hsend.at hreg)

/-- A combat that is deployed has counted its buildings, and the others are as they were. -/
theorem Counted.deployed {data : CombatInitialData} (h : s.Counted) (hs : s.Consistent none)
    (hunmixed : data.Unmixed) (hd : Deployed s data p s') : s'.Counted := by
  intro c' p' r q hreg hr hq
  rw [hd.registered, ExtTreeMap.getElem?_insert] at hreg
  split at hreg
  · obtain rfl := Option.some.inj hreg
    exact (hd.owned hunmixed r q hr hq).symm
  · have hheld := (hs.combats c' p' hreg).1
    rw [hd.kept.combat_eq hheld] at hr
    obtain ⟨q', hq', _⟩ := hs.members c' p' r hreg hr
    obtain rfl : q' = q := Option.some.inj ((hd.rolesKept r q' hq').symm.trans hq)
    rw [hd.kept.combat_eq hheld, hd.kept.role_eq (hs.held r q' hq')]
    exact h c' p' r q' hreg hr hq'

theorem Counted.refused (h : s.Counted) (hs : s.Consistent none) (hr : Refused s s') :
    s'.Counted := by
  intro c' p' r q hreg hin hq
  rw [hr.registered] at hreg
  rw [hr.registeredRoles] at hq
  have hheld := (hs.combats c' p' hreg).1
  rw [hr.kept.combat_eq hheld] at hin
  rw [hr.kept.combat_eq hheld, hr.kept.role_eq (hs.held r q hq)]
  exact h c' p' r q hreg hin hq

theorem Counted.deploy {data : CombatInitialData} (h : s.Counted) (hs : s.Consistent none)
    (hrefused : s.refusesRoleBuilding data = false) (hunmixed : data.Unmixed)
    (session : SessionPtr) (hostId : Int) :
    (s.onMessageCombatDeployRequest session hostId data).Consistent none ∧
      (s.onMessageCombatDeployRequest session hostId data).Counted := by
  have hends : Ends (fun r => Deployed s data r.1 r.2) (Refused s) (s.deployCombat session data) :=
    ends_deployCombat hs hrefused
  have hsend : ∀ {t : CombatManagers} (message : CombatMessage), t.Consistent none → t.Counted →
      (t.send session message).Consistent none ∧ (t.send session message).Counted :=
    fun message ht hcounted => ⟨(steady_send ht session message).consistent,
      hcounted.same ((frame_send _ session message).sameCounts)⟩
  rw [onMessageCombatDeployRequest]
  split
  · rename_i t ht
    have hrefused := hends.error ht
    exact hsend _ hrefused.toConsistent (h.refused hs hrefused)
  · rename_i p t ht
    have hdeployed := hends.ok ht
    exact hsend _ hdeployed.toConsistent (h.deployed hs hunmixed hdeployed)

/-- A combat is settled whose buildings were counted until then. -/
def SettlesCounted (s s' : CombatManagers) : Prop :=
  ∃ (c : Int) (p : Ptr) (t : CombatManagers), Steady s t ∧ t.Counted ∧ t.combats[c]? = some p ∧
    s' = t.closeCombat c p

end CombatManagers

namespace Server

open CombatManagers GuardedRuns

variable {s : Server} {p q : Ptr} {combatId : Int}

/-! ## The steps of the server -/

/-- What a step leaves: counted buildings, or a combat that is settled. -/
def CountedOutcome (m m' : CombatManagers) : Prop :=
  (Steady m m' ∧ m'.Counted) ∨ SettlesCounted m m'

theorem settle_counted {m : CombatManagers} (h : Steady m s.managers) (hc : s.managers.Counted)
    (combatId : Int) : CountedOutcome m (s.onRequireCombatSettle combatId).2.managers := by
  rw [onRequireCombatSettle]
  split
  · exact Or.inl ⟨h, hc⟩
  · rename_i p hreg
    exact Or.inr ⟨combatId, p, s.managers, h, hc, hreg, closeCombat_managers _ _ _⟩

theorem buildWarrior_sameCounts (s : Server) (q p : Ptr) (buildingId : Int)
    (description : WarriorDescription) :
    SameCounts s.managers (s.buildWarrior q p buildingId description).2.managers := by
  have hanswer : SameCounts s.managers s.managers.allocateWarrior.2 :=
    Frame.sameCounts (frame_outside rfl rfl rfl (fun _ => rfl) fun _ => rfl)
  rw [buildWarrior]
  split
  · rename_i m hfalse
    obtain rfl : s.managers.allocateWarrior.2 = m := by rw [hfalse]
    exact hanswer
  · rename_i m htrue
    obtain rfl : s.managers.allocateWarrior.2 = m := by rw [htrue]
    have halloc : SameCounts s.managers.allocateWarrior.2
        (s.managers.allocateWarrior.2.allocateId p).2 :=
      (frame_modifyCombat rfl).sameCounts
    have hjoin : SameCounts (s.managers.allocateWarrior.2.allocateId p).2
        ((s.managers.allocateWarrior.2.allocateId p).2.modifyCombat p fun combat =>
          combat.addWarrior (.initializeWarrior (s.managers.allocateWarrior.2.allocateId p).1 q
            ((s.managers.allocateWarrior.2.allocateId p).2.role q) description)) :=
      (frame_modifyCombat rfl).sameCounts
    have hadd := (hanswer.trans halloc).trans hjoin
    dsimp only
    split
    · exact hadd.trans ((frame_modifyCombat rfl).sameCounts)
    · exact hadd.trans ((frame_modifyRole rfl).sameCounts)

theorem build_sameCounts (s : Server) (q : Ptr) (warriorConfId buildingId : Int) :
    SameCounts s.managers (s.doBuildAction q warriorConfId buildingId).2.managers := by
  rw [doBuildAction]
  split
  · split
    · exact .refl _
    · split
      · exact .refl _
      · split
        · exact .refl _
        · split
          · exact .refl _
          · exact buildWarrior_sameCounts s _ _ _ _
  · exact .refl _

theorem attackWarrior_sameCounts (s : Server) (combatId warriorId : Int) (p : Ptr)
    (active : CombatWarriorField) (target : CombatEntity) (passive : CombatWarriorField) :
    SameCounts s.managers
      (s.attackWarrior combatId warriorId p active target passive).managers := by
  have hhit : SameCounts s.managers (s.managers.modifyCombat p fun combat => { combat with
      warriors := combat.warriors.insert target.id
        { passive with hp := hit (toInt32 (active.attack - passive.defence)) passive.hp } }) :=
    (frame_modifyCombat rfl).sameCounts
  rw [attackWarrior]
  dsimp only
  split
  · exact hhit
  · exact (hhit.trans ((frame_refund (fun _ _ => rfl) _ p target.id).sameCounts)).trans
      ((frame_modifyCombat rfl).sameCounts)

/-- The building that is hit changes hands only between roles that the handler finds. -/
theorem attackBuilding_counted (h : s.managers.Consistent none) (hcounted : s.managers.Counted)
    (hc : s.managers.combats[combatId]? = some p) {warriorId : Int} {active : CombatWarriorField}
    (hactive : (s.managers.combat p).warriors[warriorId]? = some active) {target : CombatEntity}
    {passive : CombatBuildingField}
    (hpassive : (s.managers.combat p).buildings[target.id]? = some passive)
    (hrecognized : hit active.attack passive.hp ≤ 0 →
      Recognized s.managers p passive.hostId active.hostId) :
    CountedOutcome s.managers
      (s.attackBuilding combatId warriorId p active target passive).managers := by
  have hhit : Steady s.managers (s.managers.modifyCombat p fun combat => { combat with
      buildings := combat.buildings.insert target.id
        { passive with hp := hit active.attack passive.hp } }) :=
    steady_setBuilding h hc hpassive rfl
  have hcounted' := hcounted.same (sameCounts_setBuilding
    (d := { passive with hp := hit active.attack passive.hp }) hpassive rfl)
  have hnew := modifyCombat_combat (h.combats combatId p hc).1.1 fun combat => { combat with
    buildings := combat.buildings.insert target.id
      { passive with hp := hit active.attack passive.hp } }
  rw [attackBuilding]
  dsimp only
  split
  · exact Or.inl ⟨hhit, hcounted'⟩
  · rename_i hdestroyed
    have hstruck : ((s.managers.modifyCombat p fun combat => { combat with
        buildings := combat.buildings.insert target.id
          { passive with hp := hit active.attack passive.hp } }).combat p).buildings[target.id]? =
          some { passive with hp := hit active.attack passive.hp } := by
      rw [hnew]
      simp
    have hmember : active.hostId ∈ ((s.managers.modifyCombat p fun combat => { combat with
        buildings := combat.buildings.insert target.id
          { passive with hp := hit active.attack passive.hp } }).combat p).roles := by
      rw [(hhit.combat p).2]
      exact ((h.fielded combatId p hc).warriors warriorId active hactive).2.1
    have hfound : Recognized (s.managers.modifyCombat p fun combat => { combat with
        buildings := combat.buildings.insert target.id
          { passive with hp := hit active.attack passive.hp } }) p passive.hostId
          active.hostId := by
      rw [Recognized, (hhit.combat p).2]
      exact hrecognized (Int.not_lt.mp hdestroyed)
    have hconvert := steady_setBuilding (d := { passive with
        hp := hit active.attack passive.hp, campId := active.campId, hostId := active.hostId })
      hhit.consistent (hhit.at hc) hstruck rfl
    have hevent := steady_convertCamp hconvert.consistent p passive.hostId active.hostId
    have hall := (hhit.trans hconvert).trans hevent
    have hconverted := hcounted'.convert hhit.consistent (hhit.at hc)
      (d := { passive with
        hp := hit active.attack passive.hp, campId := active.campId, hostId := active.hostId })
      hstruck rfl hmember hfound
    split
    · exact settle_counted (s := ⟨_, _⟩) hall hconverted _
    · exact Or.inl ⟨hall, hconverted⟩

theorem recoverBuilding_sameCounts {m : CombatManagers} (l : List (Int × CombatBuildingField))
    (hl : ∀ entry ∈ l, ∃ b, (m.combat p).buildings[entry.2.id]? = some b ∧
      b.hostId = entry.2.hostId) (hm : s.managers = m) :
    Ends (fun s => SameCounts m s.managers) (fun s => SameCounts m s.managers)
      (l.foldlM (recoverBuilding combatId p) s) := by
  have hstart : (∀ entry ∈ l, ∃ b, (s.managers.combat p).buildings[entry.2.id]? = some b ∧
      b.hostId = entry.2.hostId) ∧ SameCounts m s.managers := by
    rw [hm]
    exact ⟨hl, .refl m⟩
  refine (ends_foldlM (I := fun l s => (∀ entry ∈ l, ∃ b,
    (s.managers.combat p).buildings[entry.2.id]? = some b ∧ b.hostId = entry.2.hostId) ∧
    SameCounts m s.managers) ?_ l hstart).mono (fun s hs => hs.2) fun s hs => hs
  rintro entry rest s ⟨hl, hsame⟩
  have hrest := fun entry' hin => hl entry' (List.mem_cons_of_mem entry hin)
  rw [recoverBuilding]
  split
  · exact hsame
  · rename_i x _
    split
    · obtain ⟨b, hb, hhost⟩ := hl entry (List.mem_cons_self ..)
      obtain ⟨hp, hrecover⟩ := recoveryHp_managers s p x entry.2
      refine ⟨fun entry' hin => ?_, ?_⟩
      · obtain ⟨b', hb', hhost'⟩ := hrest entry' hin
        rw [hrecover]
        rcases modifyCombat_or s.managers p p (fun combat => { combat with
          buildings := combat.buildings.insert entry.2.id { entry.2 with hp := hp } }) with
          hunchanged | ⟨_, hchanged⟩
        · rw [hunchanged]
          exact ⟨b', hb', hhost'⟩
        · rw [hchanged]
          dsimp only
          rw [ExtTreeMap.getElem?_insert]
          split
          · rename_i heq
            rw [← Std.compare_eq_iff_eq.mp heq, hb] at hb'
            obtain rfl := Option.some.inj hb'
            exact ⟨_, rfl, hhost.symm.trans hhost'⟩
          · exact ⟨b', hb', hhost'⟩
      · rw [hrecover]
        exact hsame.trans (sameCounts_setBuilding hb hhost.symm)
    · exact ⟨hrest, hsame⟩

theorem resourceRecover_sameCounts (h : s.managers.Consistent none) (combatId : Int) :
    SameCounts s.managers (s.onEventCombatResourceRecover combatId).managers := by
  rw [onEventCombatResourceRecover]
  split
  · exact .refl _
  · rename_i p hc
    have hends : Ends (fun t => SameCounts s.managers t.managers)
        (fun t => SameCounts s.managers t.managers)
        ((s.managers.combat p).buildings.toList.foldlM (recoverBuilding combatId p) s) := by
      refine recoverBuilding_sameCounts _ (fun entry hin => ?_) rfl
      have hentry := ExtTreeMap.mem_toList_iff_getElem?_eq_some.mp hin
      rw [((h.fielded combatId p hc).buildings entry.1 entry.2 hentry).2]
      exact ⟨entry.2, hentry, rfl⟩
    split
    · rename_i t hfold
      exact hends.error hfold
    · rename_i t hfold
      exact (hends.ok hfold).trans ((blind_counts.recoverRoles _ _ _).sameCounts)

/-- What the attack conquers belongs to a role that the event can name, as the conqueror does. -/
def Named (m : CombatManagers) (combatId warriorId : Int) (target : CombatEntity) : Prop :=
  ∀ p active passive, m.combats[combatId]? = some p →
    (m.combat p).warriors[warriorId]? = some active → target.type = .building →
    (m.combat p).buildings[target.id]? = some passive → hit active.attack passive.hp ≤ 0 →
    Recognized m p passive.hostId active.hostId

theorem attack_counted (h : s.managers.Consistent none) (hcounted : s.managers.Counted)
    {combatId warriorId : Int} {target : CombatEntity}
    (hnamed : Named s.managers combatId warriorId target) :
    CountedOutcome s.managers (s.onRequireFormulaAttack combatId warriorId target).managers := by
  have hstay : CountedOutcome s.managers s.managers := Or.inl ⟨.refl h, hcounted⟩
  rw [onRequireFormulaAttack]
  split
  · exact hstay
  · rename_i p hc
    split
    · exact hstay
    · rename_i active hactive
      split
      · split
        · exact hstay
        · rename_i passive hpassive
          exact Or.inl ⟨attackWarrior_steady h hc warriorId active target hpassive,
            hcounted.same (attackWarrior_sameCounts s _ _ _ _ _ _)⟩
      · rename_i htype
        split
        · exact hstay
        · rename_i passive hpassive
          exact attackBuilding_counted h hcounted hc hactive hpassive
            (hnamed p active passive hc hactive htype hpassive)

theorem expire_counted (h : s.managers.Consistent none) (hcounted : s.managers.Counted)
    {timerId : Int} (hnamed : ∀ combatId warriorId target,
      s.attackOf (.expire timerId) = some (combatId, warriorId, target) →
      Named s.managers combatId warriorId target) :
    CountedOutcome s.managers (s.expire timerId).managers := by
  have hstay : CountedOutcome s.managers s.managers := Or.inl ⟨.refl h, hcounted⟩
  rw [expire]
  split
  · exact hstay
  · rename_i callback timers hexpire
    dsimp only
    split
    · rename_i hbound
      have hbound : s.bound callback := by
        cases callback with
        | settle p => exact hbound
        | resourceRecover p => exact hbound
        | printStatusImage sc => exact hbound
        | move w => exact hbound
        | search x => exact hbound
        | refindPath x => exact hbound
        | attack x => exact hbound
      cases callback with
      | settle p =>
        exact settle_counted (s := { s with apps := { s.apps with timers := timers } }) (.refl h)
          hcounted _
      | resourceRecover p =>
        exact Or.inl ⟨resourceRecover_steady
          (s := { s with apps := { s.apps with timers := timers } }) h _,
          hcounted.same (resourceRecover_sameCounts
            (s := { s with apps := { s.apps with timers := timers } }) h _)⟩
      | attack x =>
        rw [call]
        split
        · exact hstay
        · rename_i combat hcombat
          refine attack_counted (s := { s with apps := { s.apps with timers := timers } }) h hcounted
            (hnamed _ _ _ ?_)
          have hcombat : s.apps.autoCombat s.managers x = some combat := hcombat
          simp only [attackOf, hexpire, hbound, hcombat]
          rfl
      | printStatusImage sc => exact hstay
      | move w => exact hstay
      | search x => exact hstay
      | refindPath x => exact hstay
    · exact hstay

/-! ## Runs -/

/-- A request has no building of a role refused and no role with the argent id of the camps' own
buildings, and an attack only conquers what the event can name. -/
def CountGuard (s : Server) (a : Action) : Prop :=
  (∀ session hostId data, a = .deploy session hostId data →
    s.managers.refusesRoleBuilding data = false ∧ data.Unmixed) ∧
  ∀ combatId warriorId target, s.attackOf a = some (combatId, warriorId, target) →
    Named s.managers combatId warriorId target

/-- The buildings stay counted, and no combat goes. -/
structure KeepsCounted (m m' : CombatManagers) : Prop where
  consistent : m'.Consistent none
  counted : m'.Counted
  combats : ∀ (c : Int) (p : Ptr), m.combats[c]? = some p → m'.combats[c]? = some p

theorem keepsCounted_same {m m' : CombatManagers} (hcounted : m.Counted)
    (hconsistent : m'.Consistent none) (hsame : SameCounts m m') : KeepsCounted m m' :=
  ⟨hconsistent, hcounted.same hsame, fun c p hc => by rw [hsame.combats, hc]⟩

theorem CountedOutcome.keeps {m m' : CombatManagers} (h : CountedOutcome m m') :
    KeepsCounted m m' ∨ SettlesCounted m m' :=
  h.imp_left fun ⟨hsteady, hcounted⟩ =>
    ⟨hsteady.consistent, hcounted, fun _ _ hc => hsteady.at hc⟩

theorem connectArgent_counted {m : CombatManagers} (h : m.Consistent none) (hcounted : m.Counted)
    (session : SessionPtr) (r : UInt64) (combatId : Int) :
    KeepsCounted m (m.onMessageCombatConnectArgentRequest session r combatId) := by
  rw [onMessageCombatConnectArgentRequest]
  split
  · exact keepsCounted_same hcounted (steady_send h _ _).consistent ((frame_send _ _ _).sameCounts)
  · rename_i q _
    exact keepsCounted_same hcounted (steady_send (h.setAppSession q session) _ _).consistent
      (((blind_counts.setAppSession m q session).sameCounts).trans ((frame_send _ _ _).sameCounts))

theorem reconnect_counted {m : CombatManagers} (h : m.Consistent none) (hcounted : m.Counted)
    (session : SessionPtr) (r : UInt64) (combatId : Int) :
    KeepsCounted m (m.onMessageCombatReconnectRequest session r combatId) := by
  rw [onMessageCombatReconnectRequest]
  split
  · rename_i q _ _ _
    exact keepsCounted_same hcounted (steady_send (h.setAppSession q session) _ _).consistent
      (((blind_counts.setAppSession m q session).sameCounts).trans ((frame_send _ _ _).sameCounts))
  · exact keepsCounted_same hcounted h (.refl m)

theorem deploy_combats {m : CombatManagers} {data : CombatInitialData} (h : m.Consistent none)
    (hrefused : m.refusesRoleBuilding data = false) (session : SessionPtr) (hostId : Int) {c : Int}
    (hc : m.combats[c]? = some p) :
    (m.onMessageCombatDeployRequest session hostId data).combats[c]? = some p := by
  have hends : Ends (fun r => Deployed m data r.1 r.2) (Refused m) (m.deployCombat session data) :=
    ends_deployCombat h hrefused
  rw [onMessageCombatDeployRequest]
  split
  · rename_i t ht
    show t.combats[c]? = some p
    rw [(hends.error ht).registered, hc]
  · rename_i q t ht
    show t.combats[c]? = some p
    rw [(hends.ok ht).registered, ExtTreeMap.getElem?_insert, if_neg, hc]
    intro heq
    have hfresh := (h.combats c p hc).2.2
    rw [Std.compare_eq_iff_eq.mp heq] at hfresh
    exact Int.lt_irrefl _ hfresh

theorem step_counted (h : s.managers.Consistent none) (hcounted : s.managers.Counted) {a : Action}
    (hguard : s.CountGuard a) :
    KeepsCounted s.managers (s.step a).managers ∨
      SettlesCounted s.managers (s.step a).managers := by
  have hstay : KeepsCounted s.managers s.managers := keepsCounted_same hcounted h (.refl _)
  cases a with
  | memory memory =>
    exact Or.inl (keepsCounted_same hcounted (steady_outside h memory.combats memory.roles
      memory.buildingAnswers memory.warriorAnswers s.managers.sent).consistent
      (Frame.sameCounts (frame_outside rfl rfl rfl (fun _ => rfl) fun _ => rfl)))
  | accept session =>
    refine Or.inl (keepsCounted_same hcounted (h.accept session) ?_)
    show SameCounts s.managers (s.managers.accept session)
    rw [CombatManagers.accept]
    split
    · exact .refl _
    · exact Frame.sameCounts (frame_outside rfl rfl rfl (fun _ => rfl) fun _ => rfl)
  | close session =>
    exact Or.inl (keepsCounted_same hcounted (h.closeSession session)
      ((blind_counts.closeSession _ session).sameCounts))
  | deploy session hostId data =>
    obtain ⟨hrefused, hunmixed⟩ := hguard.1 session hostId data rfl
    obtain ⟨hconsistent, hcounted'⟩ := hcounted.deploy h hrefused hunmixed session hostId
    exact Or.inl ⟨hconsistent, hcounted', fun c p hc => deploy_combats h hrefused session hostId hc⟩
  | connectArgent session r combatId =>
    exact Or.inl (connectArgent_counted h hcounted session r combatId)
  | reconnect session r combatId => exact Or.inl (reconnect_counted h hcounted session r combatId)
  | begin session combatId =>
    exact Or.inl (keepsCounted_same hcounted (begin_steady h session combatId).consistent
      (blind_counts.begin s session combatId).sameCounts)
  | build r warriorConfId buildingId =>
    rw [step]
    split
    · exact Or.inl hstay
    · rename_i q hq
      exact Or.inl (keepsCounted_same hcounted (build_steady h hq warriorConfId buildingId).consistent
        (build_sameCounts s q warriorConfId buildingId))
  | move r warriorIds pos =>
    rw [step]
    split
    · exact Or.inl hstay
    · rw [doMoveAction]
      split
      · exact Or.inl hstay
      · exact Or.inl hstay
  | attack combatId warriorId target =>
    exact (attack_counted h hcounted (hguard.2 combatId warriorId target rfl)).keeps
  | expire timerId => exact (expire_counted h hcounted hguard.2).keeps

theorem settlesCounted_kept {m m' : CombatManagers} (h : SettlesCounted m m') :
    m'.Consistent none ∧ m'.Counted := by
  obtain ⟨c, p, t, hsteady, hcounted, hreg, rfl⟩ := h
  obtain ⟨hclosed, _⟩ := hsteady.consistent.closeCombat hreg
  exact ⟨hclosed, hcounted.closeCombat hsteady.consistent hreg⟩

/-- The message about a settlement has the number of buildings of each role. -/
theorem settlement_counted {m : CombatManagers} (h : m.Consistent none) (hcounted : m.Counted)
    {c : Int} (hc : m.combats[c]? = some p) :
    ∀ entry ∈ m.settlement p, entry.buildingNum = (m.combat p).buildingsOf entry.id := by
  intro entry hin
  obtain ⟨r, hr, hentry⟩ := List.mem_filterMap.mp hin
  obtain ⟨q, hq, rfl⟩ := Option.map_eq_some_iff.mp hentry
  show (m.role q).buildingNum = (m.combat p).buildingsOf (m.role q).argentId
  rw [(h.roles r q hq).1]
  exact hcounted c p r q hc (ExtTreeSet.mem_toList.mp hr) hq

/-- While attacks only conquer what the event can name, each role of a combat has the number of its
buildings, and so does the message with which the combat ends. -/
theorem buildings_counted (configs : Configs) (memory : Memory) (s : Server)
    (hs : Reaches (fun s a => some (step s a)) CountGuard (started configs memory) s) :
    (∀ (c : Int) (p : Ptr) (r : UInt64) (q : Ptr), s.managers.combats[c]? = some p →
      r ∈ (s.managers.combat p).roles → s.managers.roles[r]? = some q →
      (s.managers.role q).buildingNum = (s.managers.combat p).buildingsOf r) ∧
    ∀ (a : Action) (c : Int) (p : Ptr), s.CountGuard a → s.managers.combats[c]? = some p →
      (s.step a).managers.combats[c]? = none →
      ∃ t : CombatManagers, Steady s.managers t ∧ (s.step a).managers = t.closeCombat c p ∧
        ∀ entry ∈ t.settlement p, entry.buildingNum = (t.combat p).buildingsOf entry.id := by
  have hcounted : s.managers.Consistent none ∧ s.managers.Counted := by
    refine hs.invariant (I := fun s => s.managers.Consistent none ∧ s.managers.Counted)
      ⟨started_consistent _ _ _ _ _ _ _ _, fun c p r q hc => ?_⟩ ?_
    · simp [started, CombatManagers.started] at hc
    · rintro s a s' ⟨hconsistent, hcounted⟩ hguard hstep
      cases hstep
      rcases step_counted hconsistent hcounted hguard with hkeeps | hsettles
      · exact ⟨hkeeps.consistent, hkeeps.counted⟩
      · exact settlesCounted_kept hsettles
  refine ⟨hcounted.2, fun a c p hguard hc hgone => ?_⟩
  rcases step_counted hcounted.1 hcounted.2 hguard with hkeeps | ⟨c', p', t, hsteady, ht, hreg, hclose⟩
  · rw [hkeeps.combats c p hc] at hgone
    cases hgone
  · obtain ⟨_, hcombats⟩ := hsteady.consistent.closeCombat hreg
    have heq : c = c' := by
      by_contra hne
      rw [hclose, hcombats, ExtTreeMap.getElem?_erase, if_neg, hsteady.at hc] at hgone
      · cases hgone
      · exact fun hcompare => hne (Std.compare_eq_iff_eq.mp hcompare).symm
    subst heq
    obtain rfl : p' = p := Option.some.inj (hreg.symm.trans (hsteady.at hc))
    exact ⟨t, hsteady, hclose, settlement_counted hsteady.consistent ht hreg⟩

/-- A role that can build a warrior, and two buildings of another camp that it reaches. -/
def conquest (roles : List CombatRoleData) (buildings : List BuildingDescription) :
    CombatInitialData where
  mapId := 1
  maxTime := 60
  camps := [
    { id := 1
      initFood := 10
      maxFood := 100
      initElixir := 10
      maxElixir := 100
      roles := [⟨7, "role", [⟨1, 1, 10, 20, 1, 1, 1, 1, 1, 1, 1⟩], [⟨1, 1, 50, 1, 0, 1, 5, 1, 1⟩]⟩]
      buildings := [] },
    { id := 2
      initFood := 10
      maxFood := 100
      initElixir := 10
      maxElixir := 100
      roles := roles
      buildings := buildings }]

def frontier : List BuildingDescription :=
  [⟨2, 1, 10, 2, 0, 1, 5, 1, 1⟩, ⟨2, 1, 10, 3, 0, 1, 5, 1, 1⟩]

/-- Two roles, three buildings and a warrior on a map of one row. -/
def battlefield : Server :=
  .small (fun _ => some ⟨1, 4, ['0', '0', '0', '0']⟩) ⟨[some 0], [some 0, some 1],
    [true, true, true], [true], [some 0], [some 0, some 1, some 2], [some 0], [some 0],
    [some 0, some 1, some 2]⟩

/-- The combat has begun, and the role has a warrior. -/
def armed (data : CombatInitialData) : Server :=
  (((battlefield.step (.accept 0)).step (.deploy 0 5 data)).step (.begin 0 0)).step (.build 7 1 1)

/-- The warrior has brought the first of the other buildings down. -/
def stormed (data : CombatInitialData) : Server := (armed data).step (.attack 0 4 ⟨.building, 2⟩)

/-- The buildings of another role. -/
def rivals : CombatInitialData := conquest [⟨8, "rival", [], frontier⟩] []

theorem buildings_counted_rivals : (stormed rivals).managers.combats[(0 : Int)]? = some 0 ∧
    ((stormed rivals).managers.role 0).buildingNum =
      ((stormed rivals).managers.combat 0).buildingsOf 7 := by
  have hquiet : ∀ {s : Server} {a : Action}, (∀ session hostId data, a ≠ .deploy session hostId data) →
      (∀ combatId warriorId target, s.attackOf a ≠ some (combatId, warriorId, target)) →
      s.CountGuard a :=
    fun hdeploy hattack => ⟨fun _ _ _ h => absurd h (hdeploy _ _ _),
      fun _ _ _ h => absurd h (hattack _ _ _)⟩
  have hguard : ((battlefield.step (.accept 0)).CountGuard (.deploy 0 5 rivals)) := by
    refine ⟨?_, fun _ _ _ h => by cases h⟩
    intro session hostId data hdeploy
    cases hdeploy
    exact ⟨by decide +kernel, by decide +kernel⟩
  have harmed : Reaches (fun s a => some (step s a)) CountGuard battlefield (armed rivals) :=
    (((Reaches.refl.snoc (.accept 0) (hquiet nofun nofun) rfl).snoc (.deploy 0 5 rivals) hguard
      rfl).snoc (.begin 0 0) (hquiet nofun nofun) rfl).snoc (.build 7 1 1) (hquiet nofun nofun) rfl
  have hcombat : (armed rivals).managers.combats[(0 : Int)]? = some 0 := by decide +kernel
  have hhost : ((armed rivals).managers.combat 0).warriors[(4 : Int)]?.map
      CombatWarriorField.hostId = some 7 := by decide +kernel
  have hhost' : ((armed rivals).managers.combat 0).buildings[(2 : Int)]?.map
      CombatBuildingField.hostId = some 8 := by decide +kernel
  have hattack : (armed rivals).CountGuard (.attack 0 4 ⟨.building, 2⟩) := by
    refine ⟨fun _ _ _ h => (by cases h), ?_⟩
    rintro combatId warriorId target h p active passive hp hactive _ hpassive _
    cases h
    obtain rfl : p = 0 := Option.some.inj (hp.symm.trans hcombat)
    rw [hactive] at hhost
    rw [hpassive] at hhost'
    rw [Option.some.inj hhost, Option.some.inj hhost']
    exact Or.inr ⟨by decide +kernel, by decide +kernel, by decide +kernel⟩
  have hreaches : Reaches (fun s a => some (step s a)) CountGuard battlefield (stormed rivals) :=
    harmed.snoc (.attack 0 4 ⟨.building, 2⟩) hattack rfl
  have hcounted := (buildings_counted _ _ (stormed rivals) hreaches).1 0 0 7 0
  have hstormed : (stormed rivals).managers.combats[(0 : Int)]? = some 0 := by decide +kernel
  have hmember : 7 ∈ ((stormed rivals).managers.combat 0).roles := by decide +kernel
  have hrole : (stormed rivals).managers.roles[(7 : UInt64)]? = some 0 := by decide +kernel
  exact ⟨hstormed, hcounted hstormed hmember hrole⟩

/-- A building of no role is conquered, and its new owner does not count it. -/
theorem neutral_building_uncounted :
    (stormed (conquest [] frontier)).managers.combats[(0 : Int)]? = some 0 ∧
      7 ∈ ((stormed (conquest [] frontier)).managers.combat 0).roles ∧
      (stormed (conquest [] frontier)).managers.roles[(7 : UInt64)]? = some 0 ∧
      ((stormed (conquest [] frontier)).managers.role 0).buildingNum = 1 ∧
      ((stormed (conquest [] frontier)).managers.combat 0).buildingsOf 7 = 2 := by
  decide +kernel

end Server

end Mysya
