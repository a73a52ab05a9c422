import Mysya.CombatRegistry
import Mysya.SceneFrames

/-!
# The scenes under the steps of the server

What is true of the managers and the scenes stays true if it survives the few things that happen to
a scene: it begins, a warrior is put on it, moves one step or dies, and it is settled. Everything
else that the server does is calm or leaves the combats as they are.
-/

open Std OwnedTimers

namespace Mysya

open CombatManagers Apps Attempts

/-- The combats are enrolled, and `I` is true. -/
def Server.Keeps (I : CombatManagers → Apps → Prop) (s : Server) : Prop :=
  s.managers.Enrolled ∧ I s.managers s.apps

/-- What an attack leaves of the hp of its target, if there is an attack. -/
def Server.struck (s : Server) (combatId warriorId : Int) (target : CombatEntity) : Option Int :=
  (s.managers.combats[combatId]?).bind fun p =>
    ((s.managers.combat p).warriors[warriorId]?).bind fun active =>
      match target.type with
      | .warrior => ((s.managers.combat p).warriors[target.id]?).map fun passive =>
          CombatManagers.hit (toInt32 (active.attack - passive.defence)) passive.hp
      | .building => ((s.managers.combat p).buildings[target.id]?).map fun passive =>
          CombatManagers.hit active.attack passive.hp

namespace Server

variable {s : Server} {p q : Ptr} {combatId : Int}

/-- A build gets no warrior, or one with a new id, which the scene takes or refuses. -/
theorem buildWarrior_outcome (he : s.managers.Enrolled)
    (hc : s.managers.combats[combatId]? = some p) (buildingId : Int) {confId : Int}
    {description : WarriorDescription}
    (hdescription : (s.managers.role q).warriorDescriptions[confId]? = some description) :
    (∃ m, Goes s.managers m ∧ (s.buildWarrior q p buildingId description).2 = ⟨m, s.apps⟩) ∨
    ∃ (id : Int) (m m' : CombatManagers), Goes s.managers m ∧
      (s.managers.combat p).idAlloctor < id ∧ id ≤ (m.combat p).idAlloctor ∧ Goes m m' ∧
      ((s.apps.onRequireSceneBuild m combatId buildingId id).1 = false ∧
          (s.buildWarrior q p buildingId description).2 =
            ⟨m', (s.apps.onRequireSceneBuild m combatId buildingId id).2⟩ ∨
        (s.apps.onRequireSceneBuild m combatId buildingId id).1 = true ∧
          (s.buildWarrior q p buildingId description).2 =
            ⟨m', (s.apps.onRequireSceneBuild m combatId buildingId id).2.onEventCombatBuildAction m'
              combatId id⟩) := by
  have hanswer : Goes s.managers s.managers.allocateWarrior.2 :=
    goes_outside _ _ _ _ _ _
  have hlive : (s.managers.allocateWarrior.2.combatPool.objects p).isSome :=
    (he.combats combatId p hc).1.1
  obtain ⟨id, hid⟩ : ∃ id, (s.managers.combat p).idAlloctor + 1 = id := ⟨_, rfl⟩
  obtain ⟨m, hm⟩ : ∃ m, (s.managers.allocateWarrior.2.allocateId p) = (id, m) := by
    refine ⟨(s.managers.allocateWarrior.2.allocateId p).2, ?_⟩
    rw [← hid]
    rfl
  obtain rfl : (s.managers.allocateWarrior.2.allocateId p).2 = m := congrArg Prod.snd hm
  have hallocate : Goes s.managers (s.managers.allocateWarrior.2.allocateId p).2 :=
    hanswer.trans (goes_allocateId _ p)
  have hnew : ((s.managers.allocateWarrior.2.allocateId p).2.combat p).idAlloctor = id := by
    rw [← hid]
    exact congrArg CombatField.idAlloctor (modifyCombat_combat hlive fun combat =>
      { combat with idAlloctor := (s.managers.combat p).idAlloctor + 1 })
  have hrole : (s.managers.allocateWarrior.2.allocateId p).2.role q = s.managers.role q := rfl
  rw [← hrole] at hdescription
  rw [Server.buildWarrior]
  split
  · rename_i m' hfalse
    obtain rfl : s.managers.allocateWarrior.2 = m' := congrArg Prod.snd hfalse
    exact Or.inl ⟨_, hanswer, rfl⟩
  · rename_i m' htrue
    obtain rfl : s.managers.allocateWarrior.2 = m' := congrArg Prod.snd htrue
    rw [hm]
    dsimp only
    generalize (s.managers.allocateWarrior.2.allocateId p).2 = m at *
    have hadd : Goes m (m.modifyCombat p fun combat =>
        combat.addWarrior (.initializeWarrior id q (m.role q) description)) :=
      goes_addWarrior (fun hfields => hfields.descriptions q confId _ hdescription) id
    have hall := hallocate.trans hadd
    generalize (m.modifyCombat p fun combat =>
        combat.addWarrior (.initializeWarrior id q (m.role q) description)) = t at *
    have hcombatId : (t.combat p).id = combatId :=
      (hall.combat p).id.trans (he.combats combatId p hc).2
    have hfresh : (s.managers.combat p).idAlloctor < id := by omega
    have hgiven : id ≤ (t.combat p).idAlloctor := by
      rw [← hnew]
      exact (hadd.combat p).idAlloctor
    rw [hcombatId]
    refine Or.inr ⟨id, t, ?_⟩
    split
    · rename_i apps hfalse
      refine ⟨_, hall, hfresh, hgiven, goes_removeWarrior t p id, Or.inl ⟨?_, ?_⟩⟩
      · rw [hfalse]
      · rw [hfalse]
    · rename_i apps htrue
      have hpay : Goes t (t.modifyRole q fun role =>
          (role.incSupply description.supplyNeed).incFood (0 - description.foodNeed)) :=
        goes_modifyRole rfl
      have hpaid : ((t.modifyRole q fun role => (role.incSupply description.supplyNeed).incFood
          (0 - description.foodNeed)).combat p).id = combatId := hcombatId
      refine ⟨_, hall, hfresh, hgiven, hpay, Or.inr ⟨?_, ?_⟩⟩
      · rw [htrue]
      · rw [htrue, hpaid]

end Server

/-- `I` survives what changes the managers alone, a building of the AI that recovers, and the end of
a combat. -/
structure ServerFrame (I : CombatManagers → Apps → Prop) : Prop where
  goes : ∀ {m m' a}, I m a → m.Enrolled → Goes m m' → I m' a
  recovery : ∀ {m a} b {change : AiBuilding → AiBuilding}, I m a →
    (∀ building, (change building).host = building.host ∧
      (change building).targetedNum = building.targetedNum) →
    I m { a with buildingPool := a.buildingPool.modify b change }
  settle : ∀ {s : Server}, s.Keeps I → ∀ combatId, (s.onRequireCombatSettle combatId).2.Keeps I

namespace ServerFrame

open Server

variable {I : CombatManagers → Apps → Prop} {s : Server} {m m' : CombatManagers} {a : Apps}
  {p : Ptr} {combatId : Int}

theorem keeps_goes (frame : ServerFrame I) (he : m.Enrolled) (h : I m a) (hgoes : Goes m m') :
    Server.Keeps I ⟨m', a⟩ := ⟨hgoes.enrolled he, frame.goes h he hgoes⟩

/-! ## Resources -/

theorem recoverBuilding (frame : ServerFrame I) (h : s.Keeps I) {t : Server} (ht : t.Keeps I)
    (hgoes : Goes s.managers t.managers) {entry : Int × CombatBuildingField}
    (hentry : (s.managers.combat p).buildings[entry.1]? = some entry.2) :
    Ends (fun t => t.Keeps I ∧ Goes s.managers t.managers) (Server.Keeps I)
      (Server.recoverBuilding combatId p t entry) := by
  rw [Server.recoverBuilding]
  split
  · exact ht
  · rename_i b _
    split
    · obtain ⟨b', hb', hsite⟩ := (hgoes.combat p).keeps_building hentry
      have hid := (h.1.buildings p entry.1 entry.2 hentry).1
      rw [← hid] at hb'
      have hset : ∀ hp : Int, Goes t.managers (t.managers.modifyCombat p fun combat =>
          { combat with
            buildings := combat.buildings.insert entry.2.id { entry.2 with hp := hp } }) :=
        fun hp => goes_setBuilding hb' hsite.symm
      have hmodified : ∀ hp : Int, I t.managers { t.apps with
          buildingPool := t.apps.buildingPool.modify b fun old =>
            if old.presentStatus = some .retrieve ∧ entry.2.maxHp ≤ hp then
              { old with presentStatus := some .host }
            else old } := by
        refine fun hp => frame.recovery b ht.2 fun building => ?_
        split
        · exact ⟨rfl, rfl⟩
        · exact ⟨rfl, rfl⟩
      exact ⟨frame.keeps_goes ht.1 (hmodified _) (hset _), hgoes.trans (hset _)⟩
    · exact ⟨ht, hgoes⟩

theorem resourceRecover (frame : ServerFrame I) (h : s.Keeps I) (combatId : Int) :
    (s.onEventCombatResourceRecover combatId).Keeps I := by
  rw [onEventCombatResourceRecover]
  split
  · exact h
  · rename_i p _
    have hloop : Ends (fun t : Server => (∀ entry ∈ ([] : List (Int × CombatBuildingField)),
          (s.managers.combat p).buildings[entry.1]? = some entry.2) ∧
          t.Keeps I ∧ Goes s.managers t.managers) (Server.Keeps I)
        ((s.managers.combat p).buildings.toList.foldlM (Server.recoverBuilding combatId p) s) := by
      refine ends_foldlM (I := fun (l : List (Int × CombatBuildingField)) (t : Server) =>
        (∀ entry ∈ l, (s.managers.combat p).buildings[entry.1]? = some entry.2) ∧
          t.Keeps I ∧ Goes s.managers t.managers) ?_ _ ⟨fun entry hin => ?_, h, .refl _⟩
      · rintro entry rest t ⟨hentries, ht, hgoes⟩
        refine (frame.recoverBuilding h ht hgoes (hentries entry (List.mem_cons_self ..))).mono ?_
          fun _ => id
        exact fun t' ht' => ⟨fun entry' hin => hentries entry' (List.mem_cons_of_mem _ hin), ht'⟩
      · exact ExtTreeMap.mem_toList_iff_getElem?_eq_some.mp hin
    split
    · rename_i t hfold
      exact hloop.error hfold
    · rename_i t hfold
      obtain ⟨_, ht, _⟩ := hloop.ok hfold
      exact frame.keeps_goes ht.1 ht.2 (goes_recoverRoles _ _ _)

/-! ## Attacks -/

theorem attackWarrior (frame : ServerFrame I) (h : s.Keeps I) (combatId warriorId : Int)
    (active : CombatWarriorField) (target : CombatEntity) {passive : CombatWarriorField}
    (hpassive : (s.managers.combat p).warriors[target.id]? = some passive)
    (hattacked : ∀ m', I m' s.apps →
      I m' (s.apps.onEventCombatAttacked m' combatId warriorId target))
    (hdeath : CombatManagers.hit (toInt32 (active.attack - passive.defence)) passive.hp ≤ 0 → ∀ m' a,
      a = s.apps.onEventCombatAttacked m' combatId warriorId target → ∀ m, I m a →
        I m ((a.onEventCombatDeathAi combatId target).onEventCombatDeathScene combatId target)) :
    (s.attackWarrior combatId warriorId p active target passive).Keeps I := by
  have hhit : Goes s.managers (s.managers.modifyCombat p fun combat => { combat with
      warriors := combat.warriors.insert target.id
        { passive with hp := hit (toInt32 (active.attack - passive.defence)) passive.hp } }) :=
    goes_setWarrior hpassive ⟨rfl, rfl⟩
  rw [Server.attackWarrior]
  dsimp only
  generalize (s.managers.modifyCombat p fun combat => { combat with
      warriors := combat.warriors.insert target.id
        { passive with hp := hit (toInt32 (active.attack - passive.defence)) passive.hp } }) = m at *
  have hstruck := frame.keeps_goes h.1 h.2 hhit
  have htold := hattacked m hstruck.2
  split
  · exact ⟨hstruck.1, htold⟩
  · rename_i hhp
    have hrefund := goes_refund m p target.id
    have hdead := hdeath (Int.not_lt.mp hhp) m _ rfl _ (frame.goes htold hstruck.1 hrefund)
    exact frame.keeps_goes (hrefund.enrolled hstruck.1) hdead (goes_removeWarrior _ p target.id)

theorem attackBuilding (frame : ServerFrame I) (h : s.Keeps I) (combatId warriorId : Int)
    (active : CombatWarriorField) (target : CombatEntity) {passive : CombatBuildingField}
    (hlive : (s.managers.combatPool.objects p).isSome)
    (hpassive : (s.managers.combat p).buildings[target.id]? = some passive)
    (hattacked : ∀ m', I m' s.apps →
      I m' (s.apps.onEventCombatAttacked m' combatId warriorId target))
    (hconvertCamp : CombatManagers.hit active.attack passive.hp ≤ 0 → ∀ m' a,
      a = s.apps.onEventCombatAttacked m' combatId warriorId target → ∀ m, I m a →
        I m (a.onEventCombatConvertCampAi combatId target)) :
    (s.attackBuilding combatId warriorId p active target passive).Keeps I := by
  have hhit : Goes s.managers (s.managers.modifyCombat p fun combat => { combat with
      buildings := combat.buildings.insert target.id
        { passive with hp := hit active.attack passive.hp } }) :=
    goes_setBuilding hpassive rfl
  have hnew := modifyCombat_combat hlive fun combat => { combat with
    buildings := combat.buildings.insert target.id
      { passive with hp := hit active.attack passive.hp } }
  rw [Server.attackBuilding]
  dsimp only
  generalize (s.managers.modifyCombat p fun combat => { combat with
    buildings := combat.buildings.insert target.id
      { passive with hp := hit active.attack passive.hp } }) = m at *
  have hstruck := frame.keeps_goes h.1 h.2 hhit
  have htold := hattacked m hstruck.2
  split
  · exact ⟨hstruck.1, htold⟩
  · rename_i hhp
    have hthere : (m.combat p).buildings[target.id]? =
        some { passive with hp := hit active.attack passive.hp } := by
      rw [hnew]
      simp
    have hconvert := goes_setBuilding (s := m) (p := p) (d := { passive with
        hp := hit active.attack passive.hp, campId := active.campId, hostId := active.hostId })
      hthere rfl
    have hevent := hconvert.trans (goes_convertCamp _ p passive.hostId active.hostId)
    have hconverted := hconvertCamp (Int.not_lt.mp hhp) m _ rfl _ (frame.goes htold hstruck.1 hevent)
    split
    · exact frame.settle ⟨hevent.enrolled hstruck.1, hconverted⟩ _
    · exact ⟨hevent.enrolled hstruck.1, hconverted⟩

/-- An attack, given what becomes of `I` where the autos are told of it. -/
theorem formulaAttack (frame : ServerFrame I) (h : s.Keeps I) (combatId warriorId : Int)
    (target : CombatEntity)
    (hattacked : ∀ hp, s.struck combatId warriorId target = some hp → ∀ m', I m' s.apps →
      I m' (s.apps.onEventCombatAttacked m' combatId warriorId target))
    (hlost : ∀ hp, s.struck combatId warriorId target = some hp → hp ≤ 0 → ∀ m' a,
      a = s.apps.onEventCombatAttacked m' combatId warriorId target → ∀ m, I m a →
        I m ((a.onEventCombatDeathAi combatId target).onEventCombatDeathScene combatId target) ∧
        I m (a.onEventCombatConvertCampAi combatId target)) :
    (s.onRequireFormulaAttack combatId warriorId target).Keeps I := by
  rw [onRequireFormulaAttack]
  split
  · exact h
  · rename_i p hc
    split
    · exact h
    · rename_i active hactive
      split
      · rename_i htype
        split
        · exact h
        · rename_i passive hpassive
          have hhp : s.struck combatId warriorId target =
              some (hit (toInt32 (active.attack - passive.defence)) passive.hp) := by
            rw [struck, hc, Option.bind_some, hactive, Option.bind_some, htype]
            dsimp only
            rw [hpassive, Option.map_some]
          exact frame.attackWarrior h combatId warriorId active target hpassive (hattacked _ hhp)
            fun hzero m' a ha m hm => (hlost _ hhp hzero m' a ha m hm).1
      · rename_i htype
        split
        · exact h
        · rename_i passive hpassive
          have hhp : s.struck combatId warriorId target =
              some (hit active.attack passive.hp) := by
            rw [struck, hc, Option.bind_some, hactive, Option.bind_some, htype]
            dsimp only
            rw [hpassive, Option.map_some]
          exact frame.attackBuilding h combatId warriorId active target
            (h.1.combats combatId p hc).1.1 hpassive (hattacked _ hhp)
            fun hzero m' a ha m hm => (hlost _ hhp hzero m' a ha m hm).2

end ServerFrame

/-- `I` survives what happens to a scene, where a combat begins as `Begins` says and a request is
`Deployed`. -/
structure SceneRule (I : CombatManagers → Apps → Prop) (Begins : CombatManagers → Apps → Int → Prop)
    (Deployed : CombatInitialData → Prop) : Prop where
  calm : ∀ {m a a'}, I m a → Calm m a a' → I m a'
  goes : ∀ {m m' a}, I m a → m.Enrolled → Goes m m' → I m' a
  deploy : ∀ {m a} session hostId data, I m a → m.Enrolled → Deployed data →
    I (m.onMessageCombatDeployRequest session hostId data) a
  memory : ∀ {s : Server} memory, I s.managers s.apps →
    I (s.setMemory memory).managers (s.setMemory memory).apps
  timer : ∀ {m a} callback callTimes, I m a → I m (a.startTimer 1000 callback callTimes).2
  settleTimer : ∀ {m a} {c : Int} {p}, I m a → m.combats[c]? = some p →
    I m (a.startTimer (toInt32 ((m.combat p).maxTime * 1000)) (.settle p) 1).2
  stepTo : ∀ {m a sc w i j pos}, I m a → (a.warrior w).scene = some sc →
    (a.scene sc).getGrid (a.warriorPos w) = some i → (a.scene sc).getGrid pos = some j →
    I m (a.stepTo sc w i j pos)
  build : ∀ {m m' a} {c : Int} {p id}, I m a → m.Enrolled → Goes m m' →
    m.combats[c]? = some p → (m.combat p).idAlloctor < id → id ≤ (m'.combat p).idAlloctor →
    ∀ buildingId, I m' (a.onRequireSceneBuild m' c buildingId id).2
  death : ∀ {m a} combatId target, I m a → I m (a.onEventCombatDeathScene combatId target)
  begins : ∀ {m m' a a' c}, Begins m a c → Goes m m' → a'.board = a.board → Begins m' a' c
  begin : ∀ {m a a' c}, I m a → m.Enrolled → Begins m a c →
    a.onEventCombatBeginScene m c = some a' → I m a'
  settle : ∀ {m a} {c : Int} {p}, I m a → m.Enrolled → m.combats[c]? = some p →
    I (m.closeCombat c p) (a.onEventCombatSettleScene c)

namespace SceneRule

open Server

variable {I : CombatManagers → Apps → Prop} {Begins : CombatManagers → Apps → Int → Prop}
  {Deployed : CombatInitialData → Prop} {s : Server} {m : CombatManagers} {a : Apps} {p q : Ptr}
  {combatId : Int}

/-! ## Settling and beginning -/

theorem stopCombatTimer_calm (s : Server) (id : Int) :
    (s.stopCombatTimer id).managers = s.managers ∧
      ∀ m, Calm m s.apps (s.stopCombatTimer id).apps := by
  rw [Server.stopCombatTimer]
  split
  · exact ⟨rfl, fun m => .refl m s.apps⟩
  · exact ⟨rfl, fun m => calm_stopTimer s.apps id⟩

theorem requireSettle (rule : SceneRule I Begins Deployed) (h : s.Keeps I) (combatId : Int) :
    (s.onRequireCombatSettle combatId).2.Keeps I := by
  rw [onRequireCombatSettle]
  split
  · exact h
  · rename_i p hc
    have hai := rule.calm h.2 (calm_settleAi s.apps combatId)
    have hsettle := rule.settle hai h.1 hc
    dsimp only
    rw [Server.closeCombat]
    dsimp only
    obtain ⟨hmanagers, hcalm⟩ := stopCombatTimer_calm ⟨s.managers,
      (s.apps.onEventCombatSettleAi s.managers combatId).onEventCombatSettleScene combatId⟩
      (s.managers.combat p).timerIdSettle
    obtain ⟨hmanagers', hcalm'⟩ := stopCombatTimer_calm (Server.stopCombatTimer ⟨s.managers,
      (s.apps.onEventCombatSettleAi s.managers combatId).onEventCombatSettleScene combatId⟩
      (s.managers.combat p).timerIdSettle) (s.managers.combat p).timerIdResourceRecover
    have hsame := hmanagers'.trans hmanagers
    dsimp only at hsame
    rw [hsame]
    exact ⟨(h.1.closeCombat hc).enrolled, rule.calm (rule.calm hsettle (hcalm _)) (hcalm' _)⟩

theorem beginRequest (rule : SceneRule I Begins Deployed) (h : s.Keeps I) (session : SessionPtr)
    (hbegins : Begins s.managers s.apps combatId) :
    (s.onMessageCombatBeginRequest session combatId).Keeps I := by
  rw [onMessageCombatBeginRequest]
  split
  · have hsend := goes_send s.managers session (.beginResponse false combatId)
    exact ⟨hsend.enrolled h.1, rule.goes h.2 h.1 hsend⟩
  · rename_i p hc
    have htimer : ∀ (m : CombatManagers) (id : Int),
        Goes m (m.modifyCombat p fun combat => { combat with timerIdSettle := toInt32 id }) :=
      fun m id => goes_beside ⟨rfl, rfl, rfl, Int.le_refl _, fun _ => rfl⟩ rfl rfl rfl
    have htimer' : ∀ (m : CombatManagers) (id : Int),
        Goes m (m.modifyCombat p fun combat =>
          { combat with timerIdResourceRecover := toInt32 id }) :=
      fun m id => goes_beside ⟨rfl, rfl, rfl, Int.le_refl _, fun _ => rfl⟩ rfl rfl rfl
    have hsettle : Goes s.managers (s.setSettleTimer p).managers := htimer s.managers _
    have hrecover : Goes s.managers ((s.setSettleTimer p).setResourceRecoverTimer p).managers :=
      hsettle.trans (htimer' _ _)
    have hsupply : Goes s.managers (s.beginning p).managers :=
      hrecover.trans (goes_allocateSupplies _ _ _)
    have hI : I (s.setSettleTimer p).managers (s.setSettleTimer p).apps :=
      rule.goes (rule.settleTimer h.2 hc) h.1 hsettle
    have hI' : I ((s.setSettleTimer p).setResourceRecoverTimer p).managers
        ((s.setSettleTimer p).setResourceRecoverTimer p).apps :=
      rule.goes (rule.timer _ _ hI) (hsettle.enrolled h.1) (htimer' _ _)
    have hready : I (s.beginning p).managers (s.beginning p).apps :=
      rule.goes hI' (hrecover.enrolled h.1) (goes_allocateSupplies _ _ _)
    have hai := calm_beginAi (m := (s.beginning p).managers) (s.beginning p).apps combatId
    dsimp only
    split
    · exact h
    · rename_i hb
      have hbegan := rule.begin (rule.calm hready hai) (hsupply.enrolled h.1)
        (rule.begins hbegins hsupply hai.board) hb
      have hsend := goes_send (s.beginning p).managers session (.beginResponse true combatId)
      exact ⟨hsend.enrolled (hsupply.enrolled h.1), rule.goes hbegan (hsupply.enrolled h.1) hsend⟩

/-! ## Actions of a role -/

theorem buildWarrior (rule : SceneRule I Begins Deployed) (h : s.Keeps I)
    (hc : s.managers.combats[combatId]? = some p) (buildingId : Int) {confId : Int}
    {description : WarriorDescription}
    (hdescription : (s.managers.role q).warriorDescriptions[confId]? = some description) :
    (s.buildWarrior q p buildingId description).2.Keeps I := by
  rcases buildWarrior_outcome h.1 hc buildingId hdescription with
    ⟨m, hgoes, heq⟩ | ⟨id, m, m', hgoes, hfresh, hgiven, hrest, hbuilt⟩
  · rw [heq]
    exact ⟨hgoes.enrolled h.1, rule.goes h.2 h.1 hgoes⟩
  · have he := hgoes.enrolled h.1
    have hplaced := rule.goes (rule.build h.2 h.1 hgoes hc hfresh hgiven buildingId) he hrest
    rcases hbuilt with ⟨_, heq⟩ | ⟨_, heq⟩
    · rw [heq]
      exact ⟨hrest.enrolled he, hplaced⟩
    · rw [heq]
      exact ⟨hrest.enrolled he, rule.calm hplaced (calm_buildAction _ combatId id)⟩

theorem buildAction (rule : SceneRule I Begins Deployed) (h : s.Keeps I) (q : Ptr)
    (warriorConfId buildingId : Int) : (s.doBuildAction q warriorConfId buildingId).2.Keeps I := by
  rw [doBuildAction]
  split
  · rename_i description p hdescription _
    split
    · exact h
    · rename_i building hbuilding
      have hc := (h.1.buildings p buildingId building hbuilding).2
      split
      · exact h
      · split
        · exact h
        · split
          · exact h
          · exact rule.buildWarrior h hc buildingId hdescription
  · exact h

theorem moveAction (rule : SceneRule I Begins Deployed) (h : s.Keeps I) (q : Ptr)
    (warriorIds : List Int) (pos : Position) : (s.doMoveAction q warriorIds pos).Keeps I := by
  rw [doMoveAction]
  split
  · exact h
  · rename_i p _
    refine ⟨h.1, rule.calm h.2 (calm_foldl (f := fun (a : Apps) (id : Int) =>
      (a.onRequireSceneMove (s.managers.combat p).id id pos).2) (fun a id => ?_) warriorIds s.apps)⟩
    exact calm_sceneMove a _ id pos

/-! ## Attacks -/

theorem frame (rule : SceneRule I Begins Deployed) : ServerFrame I where
  goes := fun h he hgoes => rule.goes h he hgoes
  recovery := fun _ _ h _ => rule.calm h (.same rfl rfl)
  settle := fun h combatId => rule.requireSettle h combatId

theorem formulaAttack (rule : SceneRule I Begins Deployed) (h : s.Keeps I)
    (combatId warriorId : Int) (target : CombatEntity) :
    (s.onRequireFormulaAttack combatId warriorId target).Keeps I := by
  refine rule.frame.formulaAttack h combatId warriorId target (fun _ _ m' hm' => ?_)
    fun _ _ _ _ a _ m hm => ⟨?_, ?_⟩
  · exact rule.calm hm' (calm_attacked s.apps combatId warriorId target)
  · exact rule.death combatId target (rule.calm hm (calm_deathAi a combatId target))
  · exact rule.calm hm (calm_convertCampAi a combatId target)

/-! ## Timers -/

theorem moveStep (rule : SceneRule I Begins Deployed) (h : I m a) (w : Ptr) :
    I m (a.moveStep m w) := by
  rw [Apps.moveStep]
  split
  · exact rule.calm h (calm_moveReset a w)
  · rename_i sc hsc
    split
    · exact rule.calm h (calm_moveReset a w)
    · rename_i i hi
      dsimp only
      have hindex : Calm m a (a.modifyWarrior w fun warrior =>
          { warrior with pathIndex := warrior.pathIndex + 1 }) :=
        calm_modifyWarrior fun _ => rfl
      have hscene : ∀ pos, ((a.modifyWarrior w fun warrior =>
          { warrior with pathIndex := warrior.pathIndex + 1 }).scene sc).getGrid pos =
            (a.scene sc).getGrid pos := fun _ => rfl
      have hpost := post_warrior hindex.board w
      simp only [Warrior.post, Prod.mk.injEq] at hpost
      have hpos : (a.modifyWarrior w fun warrior =>
          { warrior with pathIndex := warrior.pathIndex + 1 }).warriorPos w = a.warriorPos w := by
        rw [warriorPos, warriorPos, hpost.1]
        rfl
      generalize (a.modifyWarrior w fun warrior =>
          { warrior with pathIndex := warrior.pathIndex + 1 }) = b at *
      split
      · exact rule.calm h (hindex.trans (calm_moveReset b w))
      · rename_i j hj
        have hstep := rule.stepTo (rule.calm h hindex) (hpost.2.1.trans hsc)
          (by rw [hscene, hpos]; exact hi) hj
        exact rule.calm hstep (calm_dispatch (calm_onMoveStep _) _ _ _)

theorem call (rule : SceneRule I Begins Deployed) (h : s.Keeps I) (callback : TimerCallback) :
    (s.call callback).Keeps I := by
  cases callback with
  | settle p => exact rule.requireSettle h _
  | resourceRecover p => exact rule.frame.resourceRecover h _
  | printStatusImage sc => exact h
  | move w => exact ⟨h.1, rule.moveStep h.2 w⟩
  | search x => exact ⟨h.1, rule.calm h.2 (calm_onTimerSearch s.apps x)⟩
  | refindPath x => exact ⟨h.1, rule.calm h.2 (calm_onTimerRefindPath s.apps x)⟩
  | attack x =>
    rw [Server.call]
    split
    · exact h
    · exact rule.formulaAttack h _ _ _

theorem expire (rule : SceneRule I Begins Deployed) (h : s.Keeps I) (timerId : Int) :
    (s.expire timerId).Keeps I := by
  rw [Server.expire]
  split
  · exact h
  · rename_i callback timers _
    have hcalm : Calm s.managers s.apps { s.apps with timers := timers } := .same rfl rfl
    have hset : Server.Keeps I { s with apps := { s.apps with timers := timers } } :=
      ⟨h.1, rule.calm h.2 hcalm⟩
    dsimp only
    split
    · exact rule.call hset callback
    · exact hset

/-! ## Steps -/

/-- The combats that begin and the requests are as the rule needs them. -/
def Guard (Begins : CombatManagers → Apps → Int → Prop) (Deployed : CombatInitialData → Prop)
    (s : Server) (action : Action) : Prop :=
  (∀ session combatId, action = .begin session combatId → Begins s.managers s.apps combatId) ∧
    ∀ session hostId data, action = .deploy session hostId data → Deployed data

theorem step (rule : SceneRule I Begins Deployed) (h : s.Keeps I) {action : Action}
    (hguard : Guard Begins Deployed s action) : (s.step action).Keeps I := by
  have hgoes : ∀ {m : CombatManagers}, Goes s.managers m → Server.Keeps I ⟨m, s.apps⟩ :=
    fun hm => ⟨hm.enrolled h.1, rule.goes h.2 h.1 hm⟩
  cases action with
  | memory memory =>
    have hmemory : Goes s.managers (s.setMemory memory).managers :=
      goes_outside _ _ _ _ _ _
    exact ⟨hmemory.enrolled h.1, rule.memory memory h.2⟩
  | accept session => exact hgoes (goes_accept s.managers session)
  | close session => exact hgoes (goes_closeSession s.managers session)
  | deploy session hostId data =>
    exact ⟨(h.1.deploy session hostId data).1,
      rule.deploy session hostId data h.2 h.1 (hguard.2 session hostId data rfl)⟩
  | connectArgent session roleArgentId combatId =>
    exact hgoes (goes_connectArgent s.managers session roleArgentId combatId)
  | reconnect session roleArgentId combatId =>
    exact hgoes (goes_reconnect s.managers session roleArgentId combatId)
  | begin session combatId =>
    exact rule.beginRequest h session (hguard.1 session combatId rfl)
  | build roleArgentId warriorConfId buildingId =>
    rw [Server.step]
    split
    · exact h
    · exact rule.buildAction h _ _ _
  | move roleArgentId warriorIds pos =>
    rw [Server.step]
    split
    · exact h
    · exact rule.moveAction h _ _ _
  | attack combatId warriorId target => exact rule.formulaAttack h combatId warriorId target
  | expire timerId => exact rule.expire h timerId

end SceneRule

end Mysya
