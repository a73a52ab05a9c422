import Mysya.SupplyCounts

/-!
# Combats beside each other

A server runs its combats one beside the other, and the objects of all are in the same pools. What
is done for one combat leaves the field of every other as it is, with its buildings, its warriors
and its roles, whatever is deployed, settled, connected or closed meanwhile.
-/

open Std Attempts GuardedRuns

namespace Mysya

/-- The combat, whoever is connected to it. -/
def CombatField.detached (combat : CombatField) : CombatField :=
  { combat with appSession := none }

/-- The role, whoever is connected to it. -/
def CombatRoleField.detached (role : CombatRoleField) : CombatRoleField :=
  { role with appSession := none }

namespace CombatManagers

variable {m m' m'' : CombatManagers} {p q : Ptr} {c combatId : Int}

/-- The combat and its roles are still registered, and they are as before. -/
structure Unaltered (c : Int) (m m' : CombatManagers) : Prop where
  combat : ∀ p, m.combats[c]? = some p →
    m'.combats[c]? = some p ∧ (m'.combat p).detached = (m.combat p).detached
  role : ∀ p r q, m.combats[c]? = some p → r ∈ (m.combat p).roles → m.roles[r]? = some q →
    m'.roles[r]? = some q ∧ (m'.role q).detached = (m.role q).detached

theorem roles_of_detached {x y : CombatField} (h : x.detached = y.detached) :
    x.roles = y.roles := by
  have hroles := congrArg CombatField.roles h
  exact hroles

theorem Unaltered.refl (c : Int) (m : CombatManagers) : Unaltered c m m :=
  ⟨fun _ hp => ⟨hp, rfl⟩, fun _ _ _ _ _ hq => ⟨hq, rfl⟩⟩

theorem Unaltered.trans (h : Unaltered c m m') (h' : Unaltered c m' m'') :
    Unaltered c m m'' where
  combat p hp := by
    obtain ⟨hp', hsame⟩ := h.combat p hp
    obtain ⟨hp'', hsame'⟩ := h'.combat p hp'
    exact ⟨hp'', hsame'.trans hsame⟩
  role p r q hp hr hq := by
    obtain ⟨hp', hsame⟩ := h.combat p hp
    obtain ⟨hq', hrole⟩ := h.role p r q hp hr hq
    obtain ⟨hq'', hrole'⟩ := h'.role p r q hp' (roles_of_detached hsame ▸ hr) hq'
    exact ⟨hq'', hrole'.trans hrole⟩

/-- A change that neither registers nor removes anything, and touches other combats only. -/
structure Spares (c : Int) (m m' : CombatManagers) : Prop where
  combats : m'.combats = m.combats
  roles : m'.roles = m.roles
  combat : ∀ p, m.combats[c]? = some p → (m'.combat p).detached = (m.combat p).detached
  role : ∀ p r q, m.combats[c]? = some p → r ∈ (m.combat p).roles → m.roles[r]? = some q →
    (m'.role q).detached = (m.role q).detached

theorem Spares.unaltered (h : Spares c m m') : Unaltered c m m' where
  combat p hp := ⟨h.combats ▸ hp, h.combat p hp⟩
  role p r q hp hr hq := ⟨h.roles ▸ hq, h.role p r q hp hr hq⟩

theorem Spares.trans (h : Spares c m m') (h' : Spares c m' m'') : Spares c m m'' where
  combats := h'.combats.trans h.combats
  roles := h'.roles.trans h.roles
  combat p hp := (h'.combat p (h.combats ▸ hp)).trans (h.combat p hp)
  role p r q hp hr hq :=
    (h'.role p r q (h.combats ▸ hp) (roles_of_detached (h.combat p hp) ▸ hr)
      (h.roles ▸ hq)).trans (h.role p r q hp hr hq)

/-- A change beside the registries and the objects. -/
theorem spares_outside (c : Int) (hcombats : m'.combats = m.combats) (hroles : m'.roles = m.roles)
    (hcombat : ∀ p, m'.combat p = m.combat p) (hrole : ∀ q, m'.role q = m.role q) :
    Spares c m m' where
  combats := hcombats
  roles := hroles
  combat p _ := by rw [hcombat]
  role p r q _ _ _ := by rw [hrole]

theorem Spares.refl (c : Int) (m : CombatManagers) : Spares c m m :=
  spares_outside c rfl rfl (fun _ => rfl) fun _ => rfl

theorem spares_send (c : Int) (m : CombatManagers) (session : SessionPtr)
    (message : CombatMessage) : Spares c m (m.send session message) :=
  spares_outside c rfl rfl (fun _ => rfl) fun _ => rfl

/-! ## Changes of an object -/

/-- The combat at `p` is not `c`. -/
def Elsewhere (m : CombatManagers) (c : Int) (p : Ptr) : Prop := m.combats[c]? ≠ some p

/-- The role at `q` is not of the combat `c`. -/
def Foreign (m : CombatManagers) (c : Int) (q : Ptr) : Prop :=
  ∀ p r, m.combats[c]? = some p → r ∈ (m.combat p).roles → m.roles[r]? ≠ some q

theorem Elsewhere.spares (h : m.Elsewhere c p) (hspares : Spares c m m') : m'.Elsewhere c p := by
  rw [Elsewhere, hspares.combats]
  exact h

theorem Foreign.spares (h : m.Foreign c q) (hspares : Spares c m m') : m'.Foreign c q := by
  intro p r hp hr
  rw [hspares.combats] at hp
  rw [roles_of_detached (hspares.combat p hp)] at hr
  rw [hspares.roles]
  exact h p r hp hr

/-- A role of another combat is foreign. -/
theorem Consistent.foreign (h : m.Consistent none) (hc : m.combats[combatId]? = some p)
    (hne : combatId ≠ c) {r : UInt64} (hr : r ∈ (m.combat p).roles) (hq : m.roles[r]? = some q) :
    m.Foreign c q := by
  intro p' r' hp' hr' hq'
  obtain rfl := h.alone r r' q hq hq'
  obtain rfl := h.member_unique hc hp' hr hr'
  exact hne (h.combat_unique hc hp')

theorem Consistent.elsewhere (h : m.Consistent none) (hc : m.combats[combatId]? = some p)
    (hne : combatId ≠ c) : m.Elsewhere c p :=
  fun hp => hne (h.combat_unique hc hp)

theorem spares_modifyCombat (h : m.Elsewhere c p) (change : CombatField → CombatField) :
    Spares c m (m.modifyCombat p change) where
  combats := rfl
  roles := rfl
  combat p' hp' := by
    have hne : p' ≠ p := by
      rintro rfl
      exact h hp'
    exact congrArg CombatField.detached (PoolTemplate.read_modify_other _ hne change)
  role _ _ _ _ _ _ := rfl

theorem spares_modifyRole (h : m.Foreign c q) (change : CombatRoleField → CombatRoleField) :
    Spares c m (m.modifyRole q change) where
  combats := rfl
  roles := rfl
  combat _ _ := rfl
  role p r q' hp hr hq' := by
    have hne : q' ≠ q := by
      rintro rfl
      exact h p r hp hr hq'
    exact congrArg CombatRoleField.detached (PoolTemplate.read_modify_other _ hne change)

/-- Who is connected to a combat may change. -/
theorem spares_attachCombat (c : Int) (m : CombatManagers) (p : Ptr)
    {change : CombatField → CombatField}
    (hchange : (change (m.combat p)).detached = (m.combat p).detached) :
    Spares c m (m.modifyCombat p change) where
  combats := rfl
  roles := rfl
  combat p' _ := by
    rcases modifyCombat_or m p p' change with hsame | ⟨rfl, hchanged⟩
    · rw [hsame]
    · rw [hchanged, hchange]
  role _ _ _ _ _ _ := rfl

theorem spares_attachRole (c : Int) (m : CombatManagers) (q : Ptr)
    {change : CombatRoleField → CombatRoleField}
    (hchange : (change (m.role q)).detached = (m.role q).detached) :
    Spares c m (m.modifyRole q change) where
  combats := rfl
  roles := rfl
  combat _ _ := rfl
  role _ _ q' _ _ _ := by
    rcases modifyRole_or m q q' change with hsame | ⟨rfl, hchanged⟩
    · rw [hsame]
    · rw [hchanged, hchange]

/-! ## Sessions -/

theorem spares_setAppSession (c : Int) (m : CombatManagers) (q : Ptr) (session : SessionPtr) :
    Spares c m (m.setAppSession q session) :=
  (spares_attachRole c m q rfl).trans (spares_outside c rfl rfl (fun _ => rfl) fun _ => rfl)

theorem spares_connectArgent (c : Int) (m : CombatManagers) (session : SessionPtr) (r : UInt64)
    (combatId : Int) : Spares c m (m.onMessageCombatConnectArgentRequest session r combatId) := by
  rw [onMessageCombatConnectArgentRequest]
  split
  · exact spares_send c m _ _
  · exact (spares_setAppSession c m _ _).trans (spares_send c _ _ _)

theorem spares_reconnect (c : Int) (m : CombatManagers) (session : SessionPtr) (r : UInt64)
    (combatId : Int) : Spares c m (m.onMessageCombatReconnectRequest session r combatId) := by
  rw [onMessageCombatReconnectRequest]
  split
  · exact (spares_setAppSession c m _ _).trans (spares_send c _ _ _)
  · exact .refl c m

theorem spares_accept (c : Int) (m : CombatManagers) (session : SessionPtr) :
    Spares c m (m.accept session) := by
  rw [accept]
  split
  · exact .refl c m
  · exact spares_outside c rfl rfl (fun _ => rfl) fun _ => rfl

theorem spares_foldl {α : Type} {f : CombatManagers → α → CombatManagers}
    (hf : ∀ m x, Spares c m (f m x)) (l : List α) (m : CombatManagers) :
    Spares c m (l.foldl f m) := by
  induction l generalizing m with
  | nil => exact .refl c m
  | cons x l ih => exact (hf m x).trans (ih (f m x))

theorem spares_closeSession (c : Int) (m : CombatManagers) (session : SessionPtr) :
    Spares c m (m.closeSession session) := by
  rw [closeSession]
  split
  · exact .refl c m
  · rename_i x _
    have hcombats := spares_foldl (f := resetCombat) (fun m p => spares_attachCombat c m p rfl)
      x.connectedCombats.toList m
    have hroles := spares_foldl (f := resetRole) (fun m q => spares_attachRole c m q rfl)
      x.connectedRoles.toList (x.connectedCombats.toList.foldl resetCombat m)
    exact (hcombats.trans hroles).trans (spares_outside c rfl rfl (fun _ => rfl) fun _ => rfl)

/-! ## Roles of another combat -/

theorem spares_allocateSupplies (combat : CombatField) (l : List UInt64)
    (h : ∀ r ∈ l, ∀ q, m.roles[r]? = some q → m.Foreign c q) :
    Spares c m (m.allocateSupplies combat l) :=
  keeps_allocateSupplies (fun _ hs r hr q hq _ =>
    hs.trans (spares_modifyRole ((h r hr q (hs.roles ▸ hq)).spares hs) _)) (.refl c m)

theorem spares_recoverRoles (combat : CombatField) (l : List UInt64)
    (h : ∀ r ∈ l, ∀ q, m.roles[r]? = some q → m.Foreign c q) :
    Spares c m (m.recoverRoles combat l) :=
  keeps_recoverRoles (fun _ hs r hr q hq _ _ =>
    hs.trans (spares_modifyRole ((h r hr q (hs.roles ▸ hq)).spares hs) _)) (.refl c m)

theorem Consistent.foreign_roles (h : m.Consistent none) (hc : m.combats[combatId]? = some p)
    (hne : combatId ≠ c) :
    ∀ r ∈ (m.combat p).roles.toList, ∀ q, m.roles[r]? = some q → m.Foreign c q :=
  fun _ hr _ hq => h.foreign hc hne (ExtTreeSet.mem_toList.mp hr) hq

theorem spares_refund (h : m.Consistent none) (hc : m.combats[combatId]? = some p)
    (hne : combatId ≠ c) (warriorId : Int) : Spares c m (m.refund p warriorId) := by
  rw [refund]
  split
  · exact .refl c m
  · rename_i warrior hwarrior
    obtain ⟨_, hmember, hhost⟩ := (h.fielded combatId p hc).warriors warriorId warrior hwarrior
    exact spares_modifyRole (h.foreign hc hne hmember hhost) _

/-- The roles that the event about a building finds are of its combat. -/
def Finds (m : CombatManagers) (p : Ptr) (originalHostId hostId : UInt64) : Prop :=
  ∀ q original, m.roles[eventHostId hostId]? = some q →
    m.roles[eventHostId originalHostId]? = some original →
      eventHostId hostId ∈ (m.combat p).roles ∧ eventHostId originalHostId ∈ (m.combat p).roles

theorem spares_convertCamp (h : m.Consistent none) (hc : m.combats[combatId]? = some p)
    (hne : combatId ≠ c) {originalHostId hostId : UInt64}
    (hfinds : m.Finds p originalHostId hostId) :
    Spares c m (m.onEventCombatConvertCamp p originalHostId hostId) := by
  rw [onEventCombatConvertCamp]
  split
  · rename_i q original hq horiginal
    obtain ⟨hmember, hmember'⟩ := hfinds q original hq horiginal
    have hfirst := spares_modifyRole (h.foreign hc hne hmember hq) fun role =>
      role.incBuildingNum 1
    have hsecond := hfirst.trans (spares_modifyRole
      ((h.foreign hc hne hmember' horiginal).spares hfirst) fun role => role.incBuildingNum (-1))
    exact hsecond.trans (spares_allocateSupplies _ _ fun r hr q' hq' =>
      (h.foreign_roles hc hne r hr q' hq').spares hsecond)
  · exact .refl c m

/-! ## Combats that come and go -/

theorem unaltered_closeCombat (h : m.Consistent none) (hc : m.combats[combatId]? = some p)
    (hne : combatId ≠ c) : Unaltered c m (m.closeCombat combatId p) := by
  have hdown := closeCombat_takenDown h hc
  have hsend : Spares c m (m.sendSettlement p) := by
    rw [sendSettlement]
    split
    · exact .refl c m
    · exact spares_send c m _ _
  have hsteady := steady_sendSettlement h p
  refine hsend.unaltered.trans ⟨fun p' hp' => ?_, fun p' r q hp' hr hq => ?_⟩
  · have hleft := hdown.combats_iff.mpr ⟨Ne.symm hne, hp'⟩
    refine ⟨hleft, ?_⟩
    rw [(hdown.combat_left hsteady.consistent (hsteady.at hc) hleft).2.2.2]
  · have hout : r ∉ ((m.sendSettlement p).combat p).roles := fun hin =>
      hsteady.consistent.foreign (hsteady.at hc) hne hin hq p' r hp' hr hq
    have hleft : (m.closeCombat combatId p).roles[r]? = some q := by
      rw [hdown.roles, if_neg hout, hq]
    exact ⟨hleft, by rw [(hdown.role_left hsteady.consistent hleft).2.2]⟩

theorem Kept.unaltered (h : Kept m m') (hm : m.Consistent none)
    (hcombats : ∀ p, m.combats[c]? = some p → m'.combats[c]? = some p)
    (hroles : ∀ (r : UInt64) (q : Ptr), m.roles[r]? = some q → m'.roles[r]? = some q) :
    Unaltered c m m' where
  combat p hp := ⟨hcombats p hp, by rw [h.combat_eq (hm.combats c p hp).1]⟩
  role p r q hp hr hq := ⟨hroles r q hq, by rw [h.role_eq (hm.held r q hq)]⟩

theorem unaltered_deploy (h : m.Consistent none) {data : CombatInitialData}
    (hrefused : m.refusesRoleBuilding data = false) (session : SessionPtr) (hostId : Int) :
    Unaltered c m (m.onMessageCombatDeployRequest session hostId data) := by
  have hends : Ends (fun r => Deployed m data r.1 r.2) (Refused m) (m.deployCombat session data) :=
    ends_deployCombat h hrefused
  have hcombats : ∀ p, m.combats[c]? = some p →
      (m.onMessageCombatDeployRequest session hostId data).combats[c]? = some p :=
    fun _ hp => Server.deploy_combats h hrefused session hostId hp
  rw [onMessageCombatDeployRequest] at hcombats ⊢
  split
  · rename_i t ht
    have hrefusal := hends.error ht
    rw [ht] at hcombats
    refine (hrefusal.kept.unaltered h hcombats fun r q hq => ?_).trans
      (spares_send c t _ _).unaltered
    rw [hrefusal.registeredRoles, hq]
  · rename_i p t ht
    have hdeployed := hends.ok ht
    rw [ht] at hcombats
    exact (hdeployed.kept.unaltered h hcombats hdeployed.rolesKept).trans
      (spares_send c t _ _).unaltered

end CombatManagers

namespace Server

open CombatManagers

variable {s : Server} {p q : Ptr} {c combatId : Int}

/-! ## The steps of the server -/

theorem begin_spares (h : s.managers.Consistent none) (session : SessionPtr)
    (hne : combatId ≠ c) :
    Spares c s.managers (s.onMessageCombatBeginRequest session combatId).managers := by
  rw [onMessageCombatBeginRequest]
  split
  · exact spares_send c _ _ _
  · rename_i p hc
    have hsettle : Spares c s.managers (s.setSettleTimer p).managers :=
      spares_modifyCombat (h.elsewhere hc hne) _
    have hrecover : Spares c (s.setSettleTimer p).managers
        ((s.setSettleTimer p).setResourceRecoverTimer p).managers :=
      spares_modifyCombat ((h.elsewhere hc hne).spares hsettle) _
    have htimers := hsettle.trans hrecover
    have hsame : SameCounts s.managers ((s.setSettleTimer p).setResourceRecoverTimer p).managers :=
      (frame_modifyCombat rfl).sameCounts.trans (frame_modifyCombat rfl).sameCounts
    have hsupply : Spares c ((s.setSettleTimer p).setResourceRecoverTimer p).managers
        (s.beginning p).managers :=
      spares_allocateSupplies _ _ fun r hr q hq =>
        (h.foreign_roles hc hne r (hsame.members p ▸ hr) q hq).spares htimers
    dsimp only
    split
    · exact .refl c s.managers
    · exact (htimers.trans hsupply).trans (spares_send c _ _ _)

theorem settle_unaltered (h : s.managers.Consistent none) (hne : combatId ≠ c) :
    Unaltered c s.managers (s.onRequireCombatSettle combatId).2.managers := by
  rw [onRequireCombatSettle]
  split
  · exact .refl c _
  · rename_i p hc
    dsimp only
    rw [closeCombat_managers]
    exact unaltered_closeCombat h hc hne

theorem buildWarrior_spares (h : s.managers.Consistent none)
    (hc : s.managers.combats[combatId]? = some p) (hne : combatId ≠ c) {r : UInt64}
    (hr : r ∈ (s.managers.combat p).roles) (hq : s.managers.roles[r]? = some q) (buildingId : Int)
    (description : WarriorDescription) :
    Spares c s.managers (s.buildWarrior q p buildingId description).2.managers := by
  have helsewhere := h.elsewhere hc hne
  have hforeign := h.foreign hc hne hr hq
  have hanswer : Spares c s.managers s.managers.allocateWarrior.2 :=
    spares_outside c rfl rfl (fun _ => rfl) fun _ => rfl
  have halloc : Spares c s.managers (s.managers.allocateWarrior.2.allocateId p).2 :=
    hanswer.trans (spares_modifyCombat (helsewhere.spares hanswer) _)
  have hchange : ∀ {m : CombatManagers}, Spares c s.managers m →
      ∀ change, Spares c s.managers (m.modifyCombat p change) :=
    fun hm change => hm.trans (spares_modifyCombat (helsewhere.spares hm) change)
  rw [buildWarrior]
  split
  · rename_i m hfalse
    obtain rfl : m = s.managers.allocateWarrior.2 := by rw [hfalse]
    exact hanswer
  · rename_i m htrue
    obtain rfl : m = s.managers.allocateWarrior.2 := by rw [htrue]
    dsimp only
    split
    · exact hchange (hchange halloc _) _
    · exact (hchange halloc _).trans (spares_modifyRole (hforeign.spares (hchange halloc _)) _)

theorem build_spares (h : s.managers.Consistent none) {r : UInt64}
    (hq : s.managers.roles[r]? = some q)
    (hout : ∀ p, s.managers.combats[c]? = some p → r ∉ (s.managers.combat p).roles)
    (warriorConfId buildingId : Int) :
    Spares c s.managers (s.doBuildAction q warriorConfId buildingId).2.managers := by
  rw [doBuildAction]
  split
  · rename_i description p _ hcombat
    obtain ⟨combatId, hc, hr⟩ := h.role_combat hq hcombat
    have hne : combatId ≠ c := by
      rintro rfl
      exact hout p hc hr
    split
    · exact .refl c _
    · split
      · exact .refl c _
      · split
        · exact .refl c _
        · split
          · exact .refl c _
          · exact buildWarrior_spares h hc hne hr hq _ _
  · exact .refl c _

theorem attackWarrior_spares (h : s.managers.Consistent none)
    (hc : s.managers.combats[combatId]? = some p) (hne : combatId ≠ c) (warriorId : Int)
    (active : CombatWarriorField) (target : CombatEntity) {passive : CombatWarriorField}
    (hpassive : (s.managers.combat p).warriors[target.id]? = some passive) :
    Spares c s.managers (s.attackWarrior combatId warriorId p active target passive).managers := by
  have helsewhere := h.elsewhere hc hne
  have hsteady : Steady s.managers (s.managers.modifyCombat p fun combat => { combat with
      warriors := combat.warriors.insert target.id
        { passive with hp := hit (toInt32 (active.attack - passive.defence)) passive.hp } }) :=
    steady_setWarrior h hc hpassive ⟨rfl, rfl⟩
  have hhit : Spares c s.managers (s.managers.modifyCombat p fun combat => { combat with
      warriors := combat.warriors.insert target.id
        { passive with hp := hit (toInt32 (active.attack - passive.defence)) passive.hp } }) :=
    spares_modifyCombat helsewhere _
  rw [attackWarrior]
  dsimp only
  split
  · exact hhit
  · have hrefund := hhit.trans (spares_refund hsteady.consistent (hsteady.at hc) hne target.id)
    exact hrefund.trans (spares_modifyCombat (helsewhere.spares hrefund) _)

theorem attackBuilding_unaltered (h : s.managers.Consistent none)
    (hc : s.managers.combats[combatId]? = some p) (hne : combatId ≠ c) (warriorId : Int)
    (active : CombatWarriorField) (target : CombatEntity) {passive : CombatBuildingField}
    (hpassive : (s.managers.combat p).buildings[target.id]? = some passive)
    (hfinds : hit active.attack passive.hp ≤ 0 →
      s.managers.Finds p passive.hostId active.hostId) :
    Unaltered c s.managers
      (s.attackBuilding combatId warriorId p active target passive).managers := by
  have helsewhere := h.elsewhere hc hne
  have hsteady := steady_setBuilding (d := { passive with hp := hit active.attack passive.hp }) h hc
    hpassive rfl
  have hhit : Spares c s.managers (s.managers.modifyCombat p fun combat => { combat with
      buildings := combat.buildings.insert target.id
        { passive with hp := hit active.attack passive.hp } }) :=
    spares_modifyCombat helsewhere _
  rw [attackBuilding]
  dsimp only
  split
  · exact hhit.unaltered
  · rename_i hdestroyed
    have hstruck : ((s.managers.modifyCombat p fun combat => { combat with
        buildings := combat.buildings.insert target.id
          { passive with hp := hit active.attack passive.hp } }).combat p).buildings[target.id]? =
          some { passive with hp := hit active.attack passive.hp } := by
      rw [modifyCombat_combat (h.combats combatId p hc).1.1]
      simp
    have hsteady' := hsteady.trans (steady_setBuilding (d := { passive with
        hp := hit active.attack passive.hp, campId := active.campId, hostId := active.hostId })
      hsteady.consistent (hsteady.at hc) hstruck rfl)
    have hconvert := hhit.trans (spares_modifyCombat (helsewhere.spares hhit) fun combat =>
      { combat with buildings := combat.buildings.insert target.id { passive with
          hp := hit active.attack passive.hp, campId := active.campId, hostId := active.hostId } })
    have hevent := steady_convertCamp hsteady'.consistent p passive.hostId active.hostId
    have hspares := hconvert.trans (spares_convertCamp hsteady'.consistent (hsteady'.at hc) hne
      (fun q original hq horiginal => by
        rw [hsteady'.roles] at hq horiginal
        rw [(hsteady'.combat p).2]
        exact hfinds (Int.not_lt.mp hdestroyed) q original hq horiginal))
    have hall := hsteady'.trans hevent
    split
    · refine hspares.unaltered.trans (settle_unaltered (s := ⟨_, _⟩) hall.consistent ?_)
      rw [(hall.consistent.combats combatId p (hall.at hc)).2.1]
      exact hne
    · exact hspares.unaltered

/-- The roles that the event about a conquered building finds are of the combat. -/
def FindsOwn (m : CombatManagers) (combatId warriorId : Int) (target : CombatEntity) : Prop :=
  ∀ p active passive, m.combats[combatId]? = some p →
    (m.combat p).warriors[warriorId]? = some active → target.type = .building →
      (m.combat p).buildings[target.id]? = some passive → hit active.attack passive.hp ≤ 0 →
        m.Finds p passive.hostId active.hostId

theorem attack_unaltered (h : s.managers.Consistent none) (hne : combatId ≠ c) {warriorId : Int}
    {target : CombatEntity} (hfinds : FindsOwn s.managers combatId warriorId target) :
    Unaltered c s.managers (s.onRequireFormulaAttack combatId warriorId target).managers := by
  rw [onRequireFormulaAttack]
  split
  · exact .refl c _
  · rename_i p hc
    split
    · exact .refl c _
    · rename_i active hactive
      split
      · split
        · exact .refl c _
        · rename_i passive hpassive
          exact (attackWarrior_spares h hc hne warriorId active target hpassive).unaltered
      · rename_i htype
        split
        · exact .refl c _
        · rename_i passive hpassive
          exact attackBuilding_unaltered h hc hne warriorId active target hpassive
            (hfinds p active passive hc hactive htype hpassive)

/-- The loop over the buildings changes nothing of the combat but them. -/
theorem recoverBuilding_spares (combatId : Int) (l : List (Int × CombatBuildingField))
    (helsewhere : s.managers.Elsewhere c p) :
    Ends (fun t : Server => Spares c s.managers t.managers ∧
        (t.managers.combat p).roles = (s.managers.combat p).roles)
      (fun t : Server => Spares c s.managers t.managers)
      (l.foldlM (recoverBuilding combatId p) s) := by
  refine ends_foldlM (I := fun _ (t : Server) => Spares c s.managers t.managers ∧
    (t.managers.combat p).roles = (s.managers.combat p).roles) ?_ l ⟨.refl c _, rfl⟩
  rintro entry rest t ⟨ht, hroles⟩
  rw [recoverBuilding]
  split
  · exact ht
  · rename_i x _
    split
    · refine ⟨ht.trans (spares_modifyCombat (helsewhere.spares ht) _), ?_⟩
      obtain ⟨hp, hrecover⟩ := recoveryHp_managers t p x entry.2
      rw [hrecover, ← hroles]
      rcases modifyCombat_or t.managers p p (fun combat => { combat with
        buildings := combat.buildings.insert entry.2.id { entry.2 with hp := hp } }) with
        hsame | ⟨_, hchanged⟩
      · rw [hsame]
      · rw [hchanged]
    · exact ⟨ht, hroles⟩

theorem resourceRecover_spares (h : s.managers.Consistent none) (hne : combatId ≠ c) :
    Spares c s.managers (s.onEventCombatResourceRecover combatId).managers := by
  rw [onEventCombatResourceRecover]
  split
  · exact .refl c _
  · rename_i p hc
    have hends := recoverBuilding_spares combatId (s.managers.combat p).buildings.toList
      (h.elsewhere hc hne)
    split
    · rename_i t hfold
      exact hends.error hfold
    · rename_i t hfold
      obtain ⟨ht, hroles⟩ := hends.ok hfold
      refine ht.trans (spares_recoverRoles _ _ fun r hr q hq => ?_)
      rw [hroles] at hr
      rw [ht.roles] at hq
      exact (h.foreign_roles hc hne r hr q hq).spares ht

/-- The combats whose fields a timer's callback may change. -/
def CallsFor (s : Server) (c : Int) : TimerCallback → Prop
  | .settle p => (s.managers.combat p).id = c
  | .resourceRecover p => (s.managers.combat p).id = c
  | .attack x => ∃ combat, s.apps.autoCombat s.managers x = some combat ∧ combat.id = c
  | .printStatusImage _ => False
  | .move _ => False
  | .search _ => False
  | .refindPath _ => False

/-- The step is taken for the combat: it begins, one of its roles builds, one of its warriors
attacks, or its resources recover or its time is up. -/
def Concerns (s : Server) (c : Int) : Action → Prop
  | .begin _ combatId => combatId = c
  | .build r _ _ => ∃ p, s.managers.combats[c]? = some p ∧ r ∈ (s.managers.combat p).roles
  | .attack combatId _ _ => combatId = c
  | .expire timerId => ∃ callback timers, s.apps.timers.expire timerId = some (callback, timers) ∧
      s.CallsFor c callback
  | .memory _ => False
  | .accept _ => False
  | .close _ => False
  | .deploy _ _ _ => False
  | .connectArgent _ _ _ => False
  | .reconnect _ _ _ => False
  | .move _ _ _ => False

/-- The step is not taken for the combat, no building of a role is refused, and an event about a
conquered building finds roles of its own combat. -/
def Remote (c : Int) (s : Server) (a : Action) : Prop :=
  s.SupplyGuard a ∧ ¬ s.Concerns c a ∧ ∀ combatId warriorId target,
    s.attackOf a = some (combatId, warriorId, target) →
      FindsOwn s.managers combatId warriorId target

theorem expire_unaltered (h : s.managers.Consistent none) {timerId : Int}
    (hremote : s.Remote c (.expire timerId)) :
    Unaltered c s.managers (s.expire timerId).managers := by
  obtain ⟨_, hconcerns, hfinds⟩ := hremote
  rw [expire]
  split
  · exact .refl c _
  · rename_i callback timers hexpire
    have hother : ¬ s.CallsFor c callback := fun hcalls =>
      hconcerns ⟨callback, timers, hexpire, hcalls⟩
    dsimp only
    split
    · rename_i hbound
      cases callback with
      | settle p =>
        exact settle_unaltered (s := { s with apps := { s.apps with timers := timers } }) h hother
      | resourceRecover p =>
        exact (resourceRecover_spares (s := { s with apps := { s.apps with timers := timers } }) h
          hother).unaltered
      | attack x =>
        have hbound : s.bound (.attack x) := hbound
        rw [call]
        split
        · exact .refl c _
        · rename_i combat hcombat
          have hcombat : s.apps.autoCombat s.managers x = some combat := hcombat
          have hne : combat.id ≠ c := fun heq => hother ⟨combat, hcombat, heq⟩
          refine attack_unaltered (s := { s with apps := { s.apps with timers := timers } }) h hne
            (hfinds _ _ _ ?_)
          simp only [attackOf, hexpire, hbound, hcombat]
          rfl
      | printStatusImage sc => exact .refl c _
      | move w => exact .refl c _
      | search x => exact .refl c _
      | refindPath x => exact .refl c _
    · exact .refl c _

theorem step_unaltered (h : s.managers.Consistent none) {a : Action} (hremote : s.Remote c a) :
    Unaltered c s.managers (s.step a).managers := by
  cases a with
  | memory memory =>
    have hspares : Spares c s.managers (s.setMemory memory).managers :=
      spares_outside c rfl rfl (fun _ => rfl) fun _ => rfl
    exact hspares.unaltered
  | accept session => exact (spares_accept c _ session).unaltered
  | close session => exact (spares_closeSession c _ session).unaltered
  | deploy session hostId data =>
    exact unaltered_deploy h (hremote.1 session hostId data rfl) session hostId
  | connectArgent session r combatId => exact (spares_connectArgent c _ session r combatId).unaltered
  | reconnect session r combatId => exact (spares_reconnect c _ session r combatId).unaltered
  | begin session combatId => exact (begin_spares h session hremote.2.1).unaltered
  | build r warriorConfId buildingId =>
    rw [step]
    split
    · exact .refl c _
    · rename_i q hq
      exact (build_spares h hq (fun p hp hr => hremote.2.1 ⟨p, hp, hr⟩) _ _).unaltered
  | move r warriorIds pos =>
    rw [step]
    split
    · exact .refl c _
    · rw [doMoveAction]
      split
      · exact .refl c _
      · exact .refl c _
  | attack combatId warriorId target =>
    exact attack_unaltered h hremote.2.1 (hremote.2.2 combatId warriorId target rfl)
  | expire timerId => exact expire_unaltered h hremote

theorem run_unaltered {t : Server} (h : s.managers.Consistent none)
    (ht : Reaches (fun s a => some (step s a)) (Remote c) s t) :
    Unaltered c s.managers t.managers := by
  have hall : t.managers.Consistent none ∧ Unaltered c s.managers t.managers := by
    refine ht.invariant (I := fun t => t.managers.Consistent none ∧
      Unaltered c s.managers t.managers) ⟨h, .refl c _⟩ ?_
    rintro u a u' ⟨hu, hsame⟩ hremote hstep
    cases hstep
    exact ⟨(step_keepsMargins hu hremote.1).consistent, hsame.trans (step_unaltered hu hremote)⟩
  exact hall.2

/-- Whatever is done for the other combats, a combat stays as it is: its field with its buildings
and its warriors, and the field of each of its roles. -/
theorem combats_apart (configs : Configs) (memory : Memory) (s t : Server) (c : Int)
    (hs : Reaches (fun s a => some (step s a)) SupplyGuard (started configs memory) s)
    (ht : Reaches (fun s a => some (step s a)) (Remote c) s t) (p : Ptr)
    (hp : s.managers.combats[c]? = some p) :
    t.managers.combats[c]? = some p ∧
      (t.managers.combat p).detached = (s.managers.combat p).detached ∧
      ∀ r ∈ (s.managers.combat p).roles, ∀ q, s.managers.roles[r]? = some q →
        t.managers.roles[r]? = some q ∧
          (t.managers.role q).detached = (s.managers.role q).detached := by
  have hconsistent : s.managers.Consistent none := by
    refine hs.invariant (I := fun s => s.managers.Consistent none)
      (started_consistent _ _ _ _ _ _ _ _) ?_
    intro s a s' h hguard hstep
    cases hstep
    exact (step_keepsMargins h hguard).consistent
  have hsame := run_unaltered hconsistent ht
  obtain ⟨hreg, hcombat⟩ := hsame.combat p hp
  exact ⟨hreg, hcombat, fun r hr q hq => hsame.role p r q hp hr hq⟩

theorem remote_quiet {a : Action} (hguard : s.SupplyGuard a) (hconcerns : ¬ s.Concerns c a)
    (hattack : s.attackOf a = none) : Remote c s a :=
  ⟨hguard, hconcerns, fun _ _ _ h => (by rw [hattack] at h; cases h)⟩

/-- A server with room for two combats. -/
def quarter : Server :=
  .small (fun _ => some ⟨1, 4, ['0', '0', '0', '0']⟩) ⟨[some 0, some 1], [some 0, some 1, some 2],
    [true, true, true, true], [true], [some 0, some 1], [some 0, some 1, some 2, some 3], [some 0],
    [some 0], [some 0, some 1, some 2, some 3]⟩

def firstCombat : Server := (quarter.step (.accept 0)).step (.deploy 0 5 rivals)

def secondCombat : Server := firstCombat.step (.deploy 0 6 (housed [(17, troops)]))

/-- The second combat has begun, and its role has a warrior. -/
def neighbours : Server := (secondCombat.step (.begin 0 1)).step (.build 17 1 1)

theorem firstCombat_reached :
    Reaches (fun s a => some (step s a)) SupplyGuard quarter firstCombat := by
  have hrefused : (quarter.step (.accept 0)).managers.refusesRoleBuilding rivals = false := by
    decide +kernel
  have hguard : (quarter.step (.accept 0)).SupplyGuard (.deploy 0 5 rivals) := by
    intro session hostId data hdeploy
    cases hdeploy
    exact hrefused
  exact (Reaches.refl.snoc (.accept 0) (supplyGuard_quiet fun _ _ _ h => by cases h) rfl).snoc
    (.deploy 0 5 rivals) hguard rfl

theorem neighbours_reached :
    Reaches (fun s a => some (step s a)) (Remote 0) firstCombat neighbours := by
  have hrefused : firstCombat.managers.refusesRoleBuilding (housed [(17, troops)]) = false := by
    decide +kernel
  have hguard : firstCombat.SupplyGuard (.deploy 0 6 (housed [(17, troops)])) := by
    intro session hostId data hdeploy
    cases hdeploy
    exact hrefused
  have hbegin : ¬ secondCombat.Concerns 0 (.begin 0 1) := by
    rw [Concerns]
    omega
  have hfacts : (secondCombat.step (.begin 0 1)).managers.combats[(0 : Int)]? = some 0 ∧
      17 ∉ ((secondCombat.step (.begin 0 1)).managers.combat 0).roles := by
    decide +kernel
  have hbuild : ¬ (secondCombat.step (.begin 0 1)).Concerns 0 (.build 17 1 1) := by
    rintro ⟨p, hp, hr⟩
    obtain rfl : 0 = p := Option.some.inj (hfacts.1.symm.trans hp)
    exact hfacts.2 hr
  have hsecond : Reaches (fun s a => some (step s a)) (Remote 0) firstCombat secondCombat :=
    Reaches.refl.snoc (.deploy 0 6 (housed [(17, troops)])) (remote_quiet hguard id rfl) rfl
  have hbegun : Reaches (fun s a => some (step s a)) (Remote 0) firstCombat
      (secondCombat.step (.begin 0 1)) :=
    hsecond.snoc (.begin 0 1)
      (remote_quiet (supplyGuard_quiet fun _ _ _ h => by cases h) hbegin rfl) rfl
  exact hbegun.snoc (.build 17 1 1)
    (remote_quiet (supplyGuard_quiet fun _ _ _ h => by cases h) hbuild rfl) rfl

theorem neighbours_settle : Remote 0 neighbours (.expire 1) := by
  have hfacts : (neighbours.apps.timers.expire 1).map Prod.fst = some (.settle 1) ∧
      (neighbours.managers.combat 1).id = 1 ∧ (neighbours.attackOf (.expire 1)).isNone := by
    decide +kernel
  obtain ⟨hexpire, hid, hattack⟩ := hfacts
  refine remote_quiet (supplyGuard_quiet fun _ _ _ h => by cases h) ?_
    (Option.isNone_iff_eq_none.mp hattack)
  rintro ⟨callback, timers, heq, hcalls⟩
  rw [heq] at hexpire
  obtain rfl : callback = .settle 1 := Option.some.inj hexpire
  rw [CallsFor, hid] at hcalls
  cases hcalls

theorem combats_apart_neighbours :
    (neighbours.step (.expire 1)).managers.combats[(1 : Int)]? = none ∧
      (neighbours.step (.expire 1)).managers.combats[(0 : Int)]? = some 0 ∧
        ((neighbours.step (.expire 1)).managers.combat 0).detached =
          (firstCombat.managers.combat 0).detached := by
  have hfacts : firstCombat.managers.combats[(0 : Int)]? = some 0 ∧
      (neighbours.step (.expire 1)).managers.combats[(1 : Int)]? = none := by
    decide +kernel
  obtain ⟨hstays, hsame, _⟩ := combats_apart _ _ firstCombat (neighbours.step (.expire 1)) 0
    firstCombat_reached (neighbours_reached.snoc (.expire 1) neighbours_settle rfl) 0 hfacts.1
  exact ⟨hfacts.2, hstays, hsame⟩

end Server

end Mysya
