import Mysya.RequestReplies

/-!
# What the combat server reports

What happens in a combat is quiet: the registries stay, the combats keep their sessions and their
roles, the roles their sessions, and nothing is sent. A combat that is settled is taken off the
registry, and its session is told. The requests are answered with one message each.
-/

open Std Attempts

namespace Mysya

/-- The roles that a request to deploy asks for. -/
def CombatInitialData.argentIds (data : CombatInitialData) : List UInt64 :=
  data.roles.map fun x => x.2.argentId

namespace CombatManagers

variable {m m' m'' : CombatManagers} {p q : Ptr} {c : Int}

/-- The registries stay, and the combats keep their ids, their sessions and their roles. -/
structure Stays (m m' : CombatManagers) : Prop where
  combats : m'.combats = m.combats
  combatIds : m'.combatIds = m.combatIds
  roles : m'.roles = m.roles
  combat : ∀ p, (m'.combat p).id = (m.combat p).id ∧
    (m'.combat p).appSession = (m.combat p).appSession ∧ (m'.combat p).roles = (m.combat p).roles

structure Quiet (m m' : CombatManagers) : Prop extends Stays m m' where
  sent : m'.sent = m.sent
  role : ∀ q, (m'.role q).appSession = (m.role q).appSession

theorem Stays.refl (m : CombatManagers) : Stays m m := ⟨rfl, rfl, rfl, fun _ => ⟨rfl, rfl, rfl⟩⟩

theorem Stays.trans (h : Stays m m') (h' : Stays m' m'') : Stays m m'' where
  combats := h'.combats.trans h.combats
  combatIds := h'.combatIds.trans h.combatIds
  roles := h'.roles.trans h.roles
  combat := fun p => ⟨(h'.combat p).1.trans (h.combat p).1,
    (h'.combat p).2.1.trans (h.combat p).2.1, (h'.combat p).2.2.trans (h.combat p).2.2⟩

theorem Quiet.refl (m : CombatManagers) : Quiet m m := ⟨.refl m, rfl, fun _ => rfl⟩

theorem Quiet.trans (h : Quiet m m') (h' : Quiet m' m'') : Quiet m m'' :=
  ⟨h.toStays.trans h'.toStays, h'.sent.trans h.sent, fun q => (h'.role q).trans (h.role q)⟩

/-- Only what lies outside the combats and the roles changes. -/
theorem quiet_outside (hcombats : m'.combats = m.combats) (hids : m'.combatIds = m.combatIds)
    (hroles : m'.roles = m.roles) (hsent : m'.sent = m.sent)
    (hcombat : m'.combatPool.objects = m.combatPool.objects)
    (hrole : m'.rolePool.objects = m.rolePool.objects) : Quiet m m' := by
  refine ⟨⟨hcombats, hids, hroles, fun p => ?_⟩, hsent, fun q => ?_⟩
  · rw [combat, combat, PoolTemplate.read, PoolTemplate.read, hcombat]
    exact ⟨rfl, rfl, rfl⟩
  · rw [role, role, PoolTemplate.read, PoolTemplate.read, hrole]

theorem quiet_modifyRole (m : CombatManagers) (q : Ptr) {change : CombatRoleField → CombatRoleField}
    (hchange : ∀ role, (change role).appSession = role.appSession) :
    Quiet m (m.modifyRole q change) := by
  refine ⟨⟨rfl, rfl, rfl, fun _ => ⟨rfl, rfl, rfl⟩⟩, rfl, fun q' => ?_⟩
  rcases modifyRole_or m q q' change with hsame | ⟨rfl, hchanged⟩
  · rw [hsame]
  · rw [hchanged, hchange]

theorem quiet_modifyCombat (m : CombatManagers) (p : Ptr) {f : CombatField → CombatField}
    (hf : ∀ combat, (f combat).id = combat.id ∧ (f combat).appSession = combat.appSession ∧
      (f combat).roles = combat.roles) : Quiet m (m.modifyCombat p f) := by
  refine ⟨⟨rfl, rfl, rfl, fun p' => ?_⟩, rfl, fun _ => rfl⟩
  rcases modifyCombat_or m p p' f with hsame | ⟨rfl, hchanged⟩
  · rw [hsame]
    exact ⟨rfl, rfl, rfl⟩
  · rw [hchanged]
    exact hf _

theorem quiet_allocateSupplies (combat : CombatField) (l : List UInt64) (m : CombatManagers) :
    Quiet m (m.allocateSupplies combat l) :=
  keeps_allocateSupplies (fun _ h _ _ q _ _ => h.trans (quiet_modifyRole _ q fun _ => rfl))
    (.refl m)

theorem quiet_recoverRoles (combat : CombatField) (l : List UInt64) (m : CombatManagers) :
    Quiet m (m.recoverRoles combat l) :=
  keeps_recoverRoles (fun _ h _ _ q _ _ _ => h.trans (quiet_modifyRole _ q fun _ => rfl))
    (.refl m)

theorem quiet_refund (m : CombatManagers) (p : Ptr) (warriorId : Int) :
    Quiet m (m.refund p warriorId) := by
  rw [refund]
  split
  · exact .refl m
  · exact quiet_modifyRole m _ fun _ => rfl

theorem quiet_convertCamp (m : CombatManagers) (p : Ptr) (originalHostId hostId : UInt64) :
    Quiet m (m.onEventCombatConvertCamp p originalHostId hostId) :=
  keeps_convertCamp (fun _ h q _ => h.trans (quiet_modifyRole _ q fun _ => rfl))
    (fun _ h q _ => h.trans (quiet_modifyRole _ q fun _ => rfl)) (.refl m)

/-- Nothing is reported, or a combat is settled after changes that are quiet. -/
inductive Report (m : CombatManagers) : CombatManagers → Prop
  | quiet {m' : CombatManagers} : Quiet m m' → Report m m'
  | settled {u : CombatManagers} {c : Int} {p : Ptr} : Quiet m u → u.Enrolled →
      u.combats[c]? = some p → Report m (u.closeCombat c p)

theorem Quiet.report (h : Quiet m m') (h' : Report m' m'') : Report m m'' := by
  cases h' with
  | quiet hquiet => exact .quiet (h.trans hquiet)
  | settled hquiet henrolled hc => exact .settled (h.trans hquiet) henrolled hc

end CombatManagers

namespace Server

open CombatManagers

variable {s : Server} {p q : Ptr} {combatId : Int}

/-! ## What happens in a combat -/

theorem settle_report (h : s.managers.Enrolled) (combatId : Int) :
    Report s.managers (s.onRequireCombatSettle combatId).2.managers := by
  cases hc : s.managers.combats[combatId]? with
  | none =>
    rw [onRequireCombatSettle, hc]
    exact .quiet (.refl _)
  | some p =>
    rw [AiRule.settle_managers s hc]
    exact .settled (.refl _) h hc

theorem buildWarrior_quiet (s : Server) (q p : Ptr) (buildingId : Int)
    (description : WarriorDescription) :
    Quiet s.managers (s.buildWarrior q p buildingId description).2.managers := by
  have hanswer : Quiet s.managers s.managers.allocateWarrior.2 :=
    quiet_outside rfl rfl rfl rfl rfl rfl
  rw [buildWarrior]
  split
  · rename_i m hm
    obtain rfl : s.managers.allocateWarrior.2 = m := congrArg Prod.snd hm
    exact hanswer
  · rename_i m hm
    obtain rfl : s.managers.allocateWarrior.2 = m := congrArg Prod.snd hm
    have hid : Quiet s.managers (s.managers.allocateWarrior.2.allocateId p).2 :=
      hanswer.trans (quiet_modifyCombat _ p fun _ => ⟨rfl, rfl, rfl⟩)
    dsimp only
    generalize s.managers.allocateWarrior.2.allocateId p = given at *
    have hadd := hid.trans (quiet_modifyCombat given.2 p
      (f := fun combat => combat.addWarrior (.initializeWarrior given.1 q (given.2.role q)
        description)) fun _ => ⟨rfl, rfl, rfl⟩)
    split
    · exact hadd.trans (quiet_modifyCombat _ p fun _ => ⟨rfl, rfl, rfl⟩)
    · exact hadd.trans (quiet_modifyRole _ q fun _ => rfl)

theorem build_quiet (s : Server) (q : Ptr) (warriorConfId buildingId : Int) :
    Quiet s.managers (s.doBuildAction q warriorConfId buildingId).2.managers := by
  rw [doBuildAction]
  split
  · split
    · exact .refl _
    · split
      · exact .refl _
      · split
        · exact .refl _
        · split
          · exact .refl _
          · exact buildWarrior_quiet s _ _ _ _
  · exact .refl _

theorem attackWarrior_quiet (s : Server) (combatId warriorId : Int) (p : Ptr)
    (active : CombatWarriorField) (target : CombatEntity) (passive : CombatWarriorField) :
    Quiet s.managers (s.attackWarrior combatId warriorId p active target passive).managers := by
  have hhit : Quiet s.managers (s.managers.modifyCombat p fun combat => { combat with
      warriors := combat.warriors.insert target.id
        { passive with hp := hit (toInt32 (active.attack - passive.defence)) passive.hp } }) :=
    quiet_modifyCombat _ p fun _ => ⟨rfl, rfl, rfl⟩
  rw [attackWarrior]
  dsimp only
  split
  · exact hhit
  · exact (hhit.trans (quiet_refund _ p target.id)).trans
      (quiet_modifyCombat _ p fun _ => ⟨rfl, rfl, rfl⟩)

theorem attackBuilding_report (h : s.managers.Enrolled) (combatId warriorId : Int)
    (active : CombatWarriorField) (target : CombatEntity) {passive : CombatBuildingField}
    (hlive : (s.managers.combatPool.objects p).isSome)
    (hpassive : (s.managers.combat p).buildings[target.id]? = some passive) :
    Report s.managers (s.attackBuilding combatId warriorId p active target passive).managers := by
  have hhit : Quiet s.managers (s.managers.modifyCombat p fun combat => { combat with
      buildings := combat.buildings.insert target.id
        { passive with hp := hit active.attack passive.hp } }) :=
    quiet_modifyCombat _ p fun _ => ⟨rfl, rfl, rfl⟩
  have hgoes : Goes s.managers (s.managers.modifyCombat p fun combat => { combat with
      buildings := combat.buildings.insert target.id
        { passive with hp := hit active.attack passive.hp } }) := goes_setBuilding hpassive rfl
  have hnew := modifyCombat_combat hlive fun combat => { combat with
    buildings := combat.buildings.insert target.id
      { passive with hp := hit active.attack passive.hp } }
  rw [attackBuilding]
  dsimp only
  generalize (s.managers.modifyCombat p fun combat => { combat with
    buildings := combat.buildings.insert target.id
      { passive with hp := hit active.attack passive.hp } }) = m at *
  split
  · exact .quiet hhit
  · have hthere : (m.combat p).buildings[target.id]? =
        some { passive with hp := hit active.attack passive.hp } := by
      rw [hnew]
      simp
    have hconvert := goes_setBuilding (s := m) (p := p) (d := { passive with
        hp := hit active.attack passive.hp, campId := active.campId, hostId := active.hostId })
      hthere rfl
    have hevent := hconvert.trans (goes_convertCamp _ p passive.hostId active.hostId)
    have hall := (hhit.trans (quiet_modifyCombat _ p (f := fun combat => { combat with
      buildings := combat.buildings.insert target.id { passive with
        hp := hit active.attack passive.hp, campId := active.campId, hostId := active.hostId } })
          fun _ => ⟨rfl, rfl, rfl⟩)).trans (quiet_convertCamp _ p passive.hostId active.hostId)
    split
    · exact hall.report (settle_report (s := ⟨_, _⟩) (hevent.enrolled (hgoes.enrolled h)) _)
    · exact .quiet hall

theorem attack_report (h : s.managers.Enrolled) (combatId warriorId : Int)
    (target : CombatEntity) :
    Report s.managers (s.onRequireFormulaAttack combatId warriorId target).managers := by
  rw [onRequireFormulaAttack]
  split
  · exact .quiet (.refl _)
  · rename_i p hc
    split
    · exact .quiet (.refl _)
    · split
      · split
        · exact .quiet (.refl _)
        · exact .quiet (attackWarrior_quiet s _ _ _ _ _ _)
      · split
        · exact .quiet (.refl _)
        · rename_i hpassive
          exact attackBuilding_report h combatId warriorId _ target (h.combats combatId p hc).1.1
            hpassive

theorem recoverBuilding_quiet (combatId : Int) (p : Ptr) (m : CombatManagers)
    (l : List (Int × CombatBuildingField)) {t : Server} (ht : Quiet m t.managers) :
    Ends (fun t => Quiet m t.managers) (fun t => Quiet m t.managers)
      (l.foldlM (recoverBuilding combatId p) t) := by
  refine ends_foldlM (I := fun (_ : List (Int × CombatBuildingField)) (t : Server) =>
    Quiet m t.managers) ?_ l ht
  intro entry rest t ht
  rw [recoverBuilding]
  split
  · exact ht
  · split
    · exact ht.trans (quiet_modifyCombat _ p fun _ => ⟨rfl, rfl, rfl⟩)
    · exact ht

theorem resourceRecover_quiet (s : Server) (combatId : Int) :
    Quiet s.managers (s.onEventCombatResourceRecover combatId).managers := by
  rw [onEventCombatResourceRecover]
  split
  · exact .refl _
  · rename_i p _
    have hends := recoverBuilding_quiet combatId p s.managers
      (s.managers.combat p).buildings.toList (.refl s.managers)
    split
    · rename_i t hfold
      exact hends.error hfold
    · rename_i t hfold
      exact (hends.ok hfold).trans (quiet_recoverRoles _ _ _)

theorem expire_report (h : s.managers.Enrolled) (timerId : Int) :
    Report s.managers (s.expire timerId).managers := by
  have hstay : Report s.managers s.managers := .quiet (.refl _)
  rw [expire]
  split
  · exact hstay
  · rename_i callback timers _
    dsimp only
    split
    · cases callback with
      | settle p => exact settle_report (s := { s with apps := { s.apps with timers := timers } }) h _
      | resourceRecover p =>
        exact .quiet (resourceRecover_quiet { s with apps := { s.apps with timers := timers } } _)
      | attack x =>
        rw [call]
        split
        · exact hstay
        · exact attack_report (s := { s with apps := { s.apps with timers := timers } }) h _ _ _
      | printStatusImage sc => exact hstay
      | move w => exact hstay
      | search x => exact hstay
      | refindPath x => exact hstay
    · exact hstay

/-- What goes on in the server without a message. -/
def Action.Inside : Action → Prop
  | .memory _ => True
  | .build _ _ _ => True
  | .move _ _ _ => True
  | .attack _ _ _ => True
  | .expire _ => True
  | _ => False

instance (a : Action) : Decidable a.Inside := by
  unfold Action.Inside
  split
  · infer_instance
  · infer_instance
  · infer_instance
  · infer_instance
  · infer_instance
  · infer_instance

theorem inside_report (h : s.managers.Enrolled) {a : Action} (ha : a.Inside) :
    Report s.managers (s.step a).managers := by
  cases a with
  | memory memory => exact .quiet (quiet_outside rfl rfl rfl rfl rfl rfl)
  | accept session => cases ha
  | close session => cases ha
  | deploy session hostId data => cases ha
  | connectArgent session r combatId => cases ha
  | reconnect session r combatId => cases ha
  | begin session combatId => cases ha
  | build r warriorConfId buildingId =>
    rw [step]
    split
    · exact .quiet (.refl _)
    · exact .quiet (build_quiet s _ _ _)
  | move r warriorIds pos =>
    rw [step]
    split
    · exact .quiet (.refl _)
    · rw [doMoveAction]
      split
      · exact .quiet (.refl _)
      · exact .quiet (.refl _)
  | attack combatId warriorId target => exact attack_report h _ _ _
  | expire timerId => exact expire_report h timerId

/-! ## Beginning and connecting -/

/-- Nothing is sent when the process is gone. -/
theorem begin_report (s : Server) (session : SessionPtr) (combatId : Int) :
    Stays s.managers (s.onMessageCombatBeginRequest session combatId).managers ∧
      ((s.onMessageCombatBeginRequest session combatId).managers.sent = s.managers.sent ∨
        (s.onMessageCombatBeginRequest session combatId).managers.sent = s.managers.sent ++
          [(session, .beginResponse (s.managers.combats[combatId]?).isSome combatId)]) ∧
      ∀ q, ((s.onMessageCombatBeginRequest session combatId).managers.role q).appSession =
        (s.managers.role q).appSession := by
  rw [onMessageCombatBeginRequest]
  split
  · rename_i hnone
    rw [hnone]
    exact ⟨⟨rfl, rfl, rfl, fun _ => ⟨rfl, rfl, rfl⟩⟩, Or.inr rfl, fun _ => rfl⟩
  · rename_i p hp
    have hsettle : Quiet s.managers (s.setSettleTimer p).managers :=
      quiet_modifyCombat _ p fun _ => ⟨rfl, rfl, rfl⟩
    have hrecover : Quiet (s.setSettleTimer p).managers
        ((s.setSettleTimer p).setResourceRecoverTimer p).managers :=
      quiet_modifyCombat _ p fun _ => ⟨rfl, rfl, rfl⟩
    have hall : Quiet s.managers (s.beginning p).managers :=
      (hsettle.trans hrecover).trans (quiet_allocateSupplies _ _ _)
    rw [hp]
    dsimp only
    split
    · exact ⟨⟨rfl, rfl, rfl, fun _ => ⟨rfl, rfl, rfl⟩⟩, Or.inl rfl, fun _ => rfl⟩
    · refine ⟨⟨hall.combats, hall.combatIds, hall.roles, hall.combat⟩, Or.inr ?_, hall.role⟩
      exact congrArg (· ++ [(session, CombatMessage.beginResponse true combatId)]) hall.sent

end Server

namespace CombatManagers

variable {m m' m'' : CombatManagers} {p q : Ptr} {c : Int} {session : SessionPtr}

theorem stays_setAppSession (m : CombatManagers) (q : Ptr) (session : SessionPtr) :
    Stays m (m.setAppSession q session) := ⟨rfl, rfl, rfl, fun _ => ⟨rfl, rfl, rfl⟩⟩

theorem stays_send (m : CombatManagers) (session : SessionPtr) (message : CombatMessage) :
    Stays m (m.send session message) := ⟨rfl, rfl, rfl, fun _ => ⟨rfl, rfl, rfl⟩⟩

theorem connectArgent_report (m : CombatManagers) (session : SessionPtr) (r : UInt64) (c : Int) :
    Stays m (m.onMessageCombatConnectArgentRequest session r c) ∧
      (m.onMessageCombatConnectArgentRequest session r c).sent =
        m.sent ++ [(session, .connectArgentResponse (m.roles[r]?).isSome r c)] := by
  rw [onMessageCombatConnectArgentRequest]
  split
  · rename_i hnone
    rw [hnone]
    exact ⟨stays_send _ _ _, rfl⟩
  · rename_i q hq
    rw [hq]
    exact ⟨(stays_setAppSession m q session).trans (stays_send _ _ _), rfl⟩

theorem reconnect_report (m : CombatManagers) (session : SessionPtr) (r : UInt64) (c : Int) :
    Stays m (m.onMessageCombatReconnectRequest session r c) ∧
      ((m.onMessageCombatReconnectRequest session r c).sent = m.sent ∨
        (m.onMessageCombatReconnectRequest session r c).sent =
          m.sent ++ [(session, .reconnectResponse r c)]) := by
  rw [onMessageCombatReconnectRequest]
  split
  · rename_i q _ _ _
    exact ⟨(stays_setAppSession m q session).trans (stays_send _ _ _), .inr rfl⟩
  · exact ⟨.refl m, .inl rfl⟩

/-! ## Settling -/

/-- What becomes of the registry and of the messages when the combat at `p` is settled. -/
structure Settled (c : Int) (p : Ptr) (m m' : CombatManagers) : Prop where
  combats : ∀ c' : Int, m'.combats[c']? = if c' = c then none else m.combats[c']?
  combatIds : m'.combatIds = m.combatIds
  others : ∀ (c' : Int) p', m.combats[c']? = some p' → c' ≠ c → m'.combat p' = m.combat p'
  sent : ∃ roles, m'.sent = m.sent ++
    (m.combat p).appSession.toList.map fun session => (session, .settlementSync c roles)

theorem Enrolled.settled (h : m.Enrolled) (hc : m.combats[c]? = some p) :
    Settled c p m (m.closeCombat c p) := by
  have herased : (m.closeCombat c p).combats = m.combats.erase c := by
    have hsend := (goes_sendSettlement m p).combats
    have hcombats : (m.closeCombat c p).combats = (m.sendSettlement p).combats.erase c :=
      finalizeCombat_combats ((m.sendSettlement p).removeCombat c) p
    rw [hcombats, hsend]
  have hsent : (m.closeCombat c p).sent = (m.sendSettlement p).sent := by
    show (((m.sendSettlement p).removeCombat c).finalizeCombat p).sent = _
    rw [finalizeCombat_eq]
    rfl
  refine ⟨fun c' => ?_, ?_, fun c' p' hc' hne => ?_, ?_⟩
  · rw [herased, ExtTreeMap.getElem?_erase]
    by_cases heq : c' = c
    · rw [if_pos heq, if_pos (Std.compare_eq_iff_eq.mpr heq.symm)]
    · rw [if_neg heq, if_neg fun hcompare => heq (Std.compare_eq_iff_eq.mp hcompare).symm]
  · have hids : (m.closeCombat c p).combatIds = (m.sendSettlement p).combatIds :=
      finalizeCombat_combatIds ((m.sendSettlement p).removeCombat c) p
    rw [hids, (goes_sendSettlement m p).combatIds]
  · exact (h.closeCombat_untouched hc c' p' hc' fun heq => hne (Option.some.inj heq).symm).2
  · refine ⟨m.settlement p, ?_⟩
    rw [hsent, sendSettlement, (h.combats c p hc).2]
    cases (m.combat p).appSession with
    | none => exact (List.append_nil _).symm
    | some session => rfl

/-! ## Deploying -/

theorem quiet_raiseBuilding (m : CombatManagers) (p : Ptr) (hostId : UInt64) (campId : Int)
    (description : BuildingDescription) :
    Quiet m (m.raiseBuilding p hostId campId description) := by
  have hid : Quiet m (m.allocateId p).2 := quiet_modifyCombat m p fun _ => ⟨rfl, rfl, rfl⟩
  exact hid.trans (quiet_modifyCombat _ p (f := fun combat => combat.addBuilding
    (.initializeBuilding (m.allocateId p).1 hostId campId description)) fun _ => ⟨rfl, rfl, rfl⟩)

theorem joinRole_appSession (m : CombatManagers) (p p' : Ptr) (r : UInt64) :
    ((m.joinRole p r).combat p').appSession = (m.combat p').appSession := by
  rw [joinRole]
  split
  · rfl
  · show ((m.modifyCombat p fun combat => { combat with
      roles := combat.roles.insert r }).combat p').appSession = _
    rcases modifyCombat_or m p p' fun combat => { combat with roles := combat.roles.insert r } with
      hsame | ⟨rfl, hchanged⟩
    · rw [hsame]
    · rw [hchanged]

/-- While a combat is deployed it keeps its session. -/
theorem sessionRule (p : Ptr) (session : SessionPtr) :
    DeployRule p (fun _ t => (t.combat p).appSession = some session)
      (fun _ _ t => (t.combat p).appSession = some session) (fun _ => True) where
  role := by
    intro camp role rest t ht
    rw [registerRole]
    split
    · trivial
    · rename_i q u hu
      obtain rfl : t.allocateRole.2 = u := congrArg Prod.snd hu
      dsimp only
      split
      · trivial
      · rename_i added hadded
        rw [addRole] at hadded
        split at hadded
        · cases hadded
        · obtain rfl := Option.some.inj hadded
          exact ht
  roleBuilding := by
    intro q campId description rest t ht
    rw [deployRoleBuilding]
    split
    · trivial
    · rename_i u hu
      obtain rfl : t.allocateBuilding.2 = u := congrArg Prod.snd hu
      exact ((quiet_raiseBuilding t.allocateBuilding.2 p _ campId description).combat p).2.1.trans ht
  joinRole := by
    intro q rest t ht
    exact (joinRole_appSession t p p _).trans ht
  campBuilding := by
    intro campId description rest t ht
    rw [deployCampBuilding]
    split
    · trivial
    · rename_i u hu
      obtain rfl : t.allocateBuilding.2 = u := congrArg Prod.snd hu
      exact ((quiet_raiseBuilding t.allocateBuilding.2 p _ campId description).combat p).2.1.trans ht

/-- The combat at `p` is new, under the next id. -/
structure Grants (session : SessionPtr) (p : Ptr) (m m' : CombatManagers) : Prop where
  fresh : m.combats[m.combatIds]? = none
  combats : ∀ c : Int, m'.combats[c]? = if c = m.combatIds then some p else m.combats[c]?
  combatIds : m'.combatIds = m.combatIds + 1
  id : (m'.combat p).id = m.combatIds
  appSession : (m'.combat p).appSession = some session
  sent : m'.sent = m.sent
  others : ∀ (c : Int) p', m.combats[c]? = some p' → m'.combat p' = m.combat p'

/-- No combat is new. -/
structure Refuses (m m' : CombatManagers) : Prop where
  combats : ∀ c : Int, m'.combats[c]? = m.combats[c]?
  combatIds : m.combatIds ≤ m'.combatIds
  sent : m'.sent = m.sent
  others : ∀ (c : Int) p', m.combats[c]? = some p' → m'.combat p' = m.combat p'

theorem Enrolled.ends_grants (h : m.Enrolled) (session : SessionPtr) (data : CombatInitialData) :
    Ends (fun r => Grants session r.1 m r.2) (Refuses m) (m.deployCombat session data) := by
  have hboth := (h.ends_registers session data).and (h.ends_deploy session data)
  have hrefused : ∀ {t : CombatManagers}, m.deployCombat session data = .error t → Refuses m t := by
    intro t ht
    obtain ⟨⟨hsent, hold⟩, henrolled, huntouched, _, hadmits⟩ := hboth.error ht
    refine ⟨fun c => ?_, hadmits.1, hsent, fun c p' hc => (huntouched c p' hc fun h => by cases h).2⟩
    cases hc : m.combats[c]? with
    | some p' => exact (huntouched c p' hc fun h => by cases h).1
    | none =>
      cases hc' : t.combats[c]? with
      | none => rfl
      | some p' =>
        rw [hold c p' hc'] at hc
        cases hc
  obtain ⟨answer, pool, hanswer⟩ : ∃ answer pool, m.combatPool.allocate = (answer, pool) :=
    ⟨_, _, rfl⟩
  cases answer with
  | none =>
    rw [deployCombat_none hanswer] at hrefused ⊢
    exact hrefused rfl
  | some p =>
    obtain ⟨_, hheld, hregistered, hothers, hcombatId, _⟩ := h.opened hanswer data session
    have hadd : (m.openCombat p pool data session).addCombat p =
        if m.combats.contains m.combatIds then none
        else some (m.enrollCombat p pool data session) := by
      rw [addCombat, hcombatId]
      rfl
    by_cases hid : m.combats.contains m.combatIds
    · rw [deployCombat_taken hanswer (hadd.trans (if_pos hid))] at hrefused ⊢
      exact hrefused rfl
    · rw [deployCombat_added hanswer (hadd.trans (if_neg hid))] at hboth hrefused ⊢
      have hnew : m.combatIds ∉ m.combats := fun hin => hid (ExtTreeMap.contains_iff_mem.mpr hin)
      have henrolled := h.enrollCombat hanswer hnew data session
      have hids : ((m.enrollCombat p pool data session).combat p).id = m.combatIds :=
        (henrolled.1.combats _ p henrolled.2.2.2).2
      have hlive : ((pool.modify p fun combat => { combat with id := m.combatIds }).objects
          p).isSome := by
        have hopened := hheld.1
        change ((PoolTemplate.modify _ p _).objects p).isSome at hopened
        rwa [PoolTemplate.modify_isSome] at hopened
      have happ : ((m.enrollCombat p pool data session).combat p).appSession = some session :=
        congrArg CombatField.appSession (PoolTemplate.read_modify hlive fun combat =>
          combat.initializeCombat data.mapId data.maxTime session)
      have hloop := ((deploysRule data (m.enrollCombat p pool data session) p).ends_deployCamps
        ⟨fun item hin => hin, Deploys.refl data p _⟩).and ((sessionRule p session).ends_deployCamps happ)
      cases hcamps : data.camps.foldlM (deployCamp p) (m.enrollCombat p pool data session) with
      | error t => exact hrefused (by rw [hcamps]; rfl)
      | ok t =>
        rw [hcamps] at hboth
        obtain ⟨⟨_, ht⟩, hsession⟩ := hloop.ok hcamps
        obtain ⟨⟨hsent, _, _⟩, _⟩ := hboth.ok rfl
        refine ⟨?_, fun c => ?_, ht.combatIds, ht.combat.1.trans hids, hsession, hsent,
          fun c p' hc => ?_⟩
        · rw [ExtTreeMap.mem_iff_isSome_getElem?] at hnew
          simpa using hnew
        · rw [ht.combats, CombatManagers.enrollCombat, ExtTreeMap.getElem?_insert]
          by_cases heq : c = m.combatIds
          · rw [if_pos heq, if_pos (Std.compare_eq_iff_eq.mpr heq.symm)]
          · rw [if_neg heq, if_neg fun hcompare => heq (Std.compare_eq_iff_eq.mp hcompare).symm]
        · obtain ⟨hne, _⟩ := hregistered c p' hc
          exact (ht.others p' hne).trans (hothers p' hne)

/-- A request to deploy is answered, with the id of the new combat if it was granted. -/
theorem Enrolled.deploy_report (h : m.Enrolled) (session : SessionPtr) (hostId : Int)
    (data : CombatInitialData) :
    (∃ t, Refuses m t ∧ m.onMessageCombatDeployRequest session hostId data =
      t.send session (.deployResponse hostId .failure none)) ∨
    ∃ p t, Grants session p m t ∧ m.deployCombat session data = .ok (p, t) ∧
      m.onMessageCombatDeployRequest session hostId data =
        t.send session (.deployResponse hostId .complete (some m.combatIds)) := by
  have hends := h.ends_grants session data
  rw [onMessageCombatDeployRequest]
  split
  · rename_i t ht
    exact .inl ⟨t, hends.error ht, rfl⟩
  · rename_i p t ht
    have hgrants := hends.ok ht
    refine .inr ⟨p, t, hgrants, ht, ?_⟩
    rw [hgrants.id]

/-- What becomes of a request, and what is sent to the session. -/
inductive Answers (session : SessionPtr) (m : CombatManagers) :
    Server.Request → List CombatMessage → CombatManagers → Prop
  | refused {hostId : Int} {data : CombatInitialData} {t : CombatManagers} : Refuses m t →
      Answers session m (.deploy hostId data) [.deployResponse hostId .failure none]
        (t.send session (.deployResponse hostId .failure none))
  | granted {hostId : Int} {data : CombatInitialData} {p : Ptr} {t : CombatManagers} :
      Grants session p m t → m.deployCombat session data = .ok (p, t) →
      Answers session m (.deploy hostId data) [.deployResponse hostId .complete (some m.combatIds)]
        (t.send session (.deployResponse hostId .complete (some m.combatIds)))
  | connected {r : UInt64} {c : Int} {t : CombatManagers} : Stays m t →
      Answers session m (.connectArgent r c) [.connectArgentResponse (m.roles[r]?).isSome r c] t
  | reconnected {r : UInt64} {c : Int} {l : List CombatMessage} {t : CombatManagers} : Stays m t →
      l = [] ∨ l = [.reconnectResponse r c] → Answers session m (.reconnect r c) l t
  | begun {c : Int} {l : List CombatMessage} {t : CombatManagers} : Stays m t →
      l = [] ∨ l = [.beginResponse (m.combats[c]?).isSome c] → Answers session m (.begin c) l t

end CombatManagers

namespace Server

open CombatManagers

theorem request_answers {s : Server} (h : s.managers.Enrolled) (session : SessionPtr)
    (r : Request) :
    ∃ l, Answers session s.managers r l (s.step (r.action session)).managers ∧
      (s.step (r.action session)).managers.sent =
        s.managers.sent ++ l.map fun message => (session, message) := by
  cases r with
  | deploy hostId data =>
    show ∃ l, Answers session s.managers _ l
      (s.managers.onMessageCombatDeployRequest session hostId data) ∧
        (s.managers.onMessageCombatDeployRequest session hostId data).sent = _
    rcases h.deploy_report session hostId data with ⟨t, hrefuses, heq⟩ | ⟨p, t, hgrants, hok, heq⟩
    · rw [heq]
      exact ⟨_, .refused hrefuses, congrArg (· ++ [_]) hrefuses.sent⟩
    · rw [heq]
      exact ⟨_, .granted hgrants hok, congrArg (· ++ [_]) hgrants.sent⟩
  | connectArgent r c =>
    obtain ⟨hstays, hsent⟩ := connectArgent_report s.managers session r c
    exact ⟨_, .connected hstays, hsent⟩
  | reconnect r c =>
    obtain ⟨hstays, hsent⟩ := reconnect_report s.managers session r c
    rcases hsent with hsent | hsent
    · exact ⟨[], .reconnected hstays (.inl rfl), hsent.trans (List.append_nil _).symm⟩
    · exact ⟨_, .reconnected hstays (.inr rfl), hsent⟩
  | begin c =>
    obtain ⟨hstays, hsent, _⟩ := begin_report s session c
    rcases hsent with hsent | hsent
    · exact ⟨[], .begun hstays (.inl rfl), hsent.trans (List.append_nil _).symm⟩
    · exact ⟨_, .begun hstays (.inr rfl), hsent⟩

end Server

end Mysya
