import Mysya.CleanStart
import Mysya.ConsistentDeploys
import Mysya.ServerReports
import Mysya.SupplyCounts

/-!
# The roles of a combat and their sessions

A new combat has the roles that its message asks for, and no others. Once a role is connected to a
session it stays so while its combat lasts, whatever happens to the others.
-/

open Std Attempts

namespace Mysya

namespace CombatManagers

variable {m m' : CombatManagers} {p q : Ptr} {c : Int} {r : UInt64} {session : SessionPtr}
  {data : CombatInitialData}

theorem mem_argentIds : r ∈ data.argentIds ↔ ∃ x ∈ data.roles, x.2.argentId = r := by
  rw [CombatInitialData.argentIds, List.mem_map]

theorem deployed_named (h : m.Consistent none) (hrefused : m.refusesRoleBuilding data = false)
    (hdeployed : m.deployCombat session data = .ok (p, m')) (hr : r ∈ (m'.combat p).roles) :
    r ∈ data.argentIds := by
  obtain ⟨answer, pool, hanswer⟩ : ∃ answer pool, m.combatPool.allocate = (answer, pool) :=
    ⟨_, _, rfl⟩
  cases answer with
  | none =>
    rw [deployCombat_none hanswer] at hdeployed
    cases hdeployed
  | some p' =>
    obtain ⟨hverdict, hstart⟩ := idle_start session h hanswer hrefused
    have hends := (layingRule data m session p' hverdict).ends_deployCamps hstart
    rw [deployCombat_eq data session h hanswer] at hdeployed
    cases hloop : data.camps.foldlM (deployCamp p') (m.registerCombat p' pool data session) with
    | error t =>
      rw [hloop] at hdeployed
      cases hdeployed
    | ok t =>
      rw [hloop] at hdeployed
      obtain ⟨rfl, rfl⟩ := Prod.mk.inj (Except.ok.inj hdeployed)
      exact mem_argentIds.mpr ((hends.ok hloop).2.1.named r (.inl hr))

theorem deployed_seated (h : m.Consistent none)
    (hdeployed : m.deployCombat session data = .ok (p, m')) (hr : r ∈ data.argentIds) :
    ∃ q, m'.roles[r]? = some q ∧ (m'.role q).combatField = some p := by
  obtain ⟨opened, hopened, _, hloop⟩ := deployCombat_ok h.combatPool hdeployed
  have hstart : Progress m data p [] (data.items.filterMap DeployItem.role?)
      { opened with combats := opened.combats.insert m.combatIds p } := by
    rw [filterMap_items]
    refine ⟨(hopened.registered h.toOrderly).sound, rfl, ?_, fun x hx => by cases hx⟩
    rw [hopened.rolePool]
    rfl
  obtain ⟨done, hdone⟩ := ((cleanRule m data p).ends_deployCamps ⟨[], hstart⟩).ok hloop
  have hroles := hdone.roles
  rw [List.filterMap_nil, List.append_nil] at hroles
  obtain ⟨y, hy, rfl⟩ := mem_argentIds.mp hr
  rw [hroles] at hy
  obtain ⟨x, hx, rfl⟩ := List.mem_map.mp hy
  obtain ⟨q, hseat⟩ := hdone.seated x hx
  refine ⟨q, hseat.registered, ?_⟩
  rw [hseat.role]
  rfl

/-- A new combat has the roles of its message. -/
theorem deployed_roles (h : m.Consistent none) (hrefused : m.refusesRoleBuilding data = false)
    (hdeployed : m.deployCombat session data = .ok (p, m')) :
    r ∈ (m'.combat p).roles ↔ r ∈ data.argentIds := by
  constructor
  · exact deployed_named h hrefused hdeployed
  · intro hr
    obtain ⟨q, hq, hfield⟩ := deployed_seated h hdeployed hr
    have hconsistent := ((ends_deployCombat h hrefused).ok hdeployed).toConsistent
    obtain ⟨_, _, hin⟩ := hconsistent.role_combat hq hfield
    exact hin

/-! ## Sessions of the roles -/

/-- The role is known, and its messages go to the session. -/
def ConnectedTo (m : CombatManagers) (session : SessionPtr) (r : UInt64) : Prop :=
  ∃ q, m.roles[r]? = some q ∧ (m.role q).appSession = some session

/-- The roles of the combats that last stay connected. -/
def KeepsConnected (session : SessionPtr) (m m' : CombatManagers) : Prop :=
  ∀ (c : Int) p r, m.combats[c]? = some p → m'.combats[c]? = some p → r ∈ (m.combat p).roles →
    m.ConnectedTo session r → m'.ConnectedTo session r

theorem keepsConnected_same (hroles : m'.roles = m.roles)
    (hrole : ∀ q, (m'.role q).appSession = (m.role q).appSession) :
    KeepsConnected session m m' := by
  rintro c p r _ _ _ ⟨q, hq, happ⟩
  exact ⟨q, hroles ▸ hq, (hrole q).trans happ⟩

theorem keepsConnected_settles (hsettles : Settles c m m') :
    KeepsConnected session m m' := by
  obtain ⟨p, t, hsteady, hreg, rfl⟩ := hsettles
  rintro c' p' r hc' hleft hr ⟨q, hq, happ⟩
  have hsend := steady_sendSettlement hsteady.consistent p
  have hreg' := hsend.at hreg
  have htaken := hsend.consistent.takenDown hreg'
  rw [closeCombat_eq hsteady.consistent hreg] at hleft ⊢
  have hall := hsteady.trans hsend
  obtain ⟨hin, hne, _, hcombat⟩ := htaken.combat_left hsend.consistent hreg' hleft
  have hr' : r ∈ ((t.sendSettlement p).combat p').roles := by
    rw [(hall.combat p').2]
    exact hr
  have hq' : ((t.sendSettlement p).abandonCombat p).roles[r]? = some q := by
    rw [htaken.roles, if_neg, hall.roles, hq]
    exact fun hother => hne (hsend.consistent.member_unique hin hreg' hr' hother)
  refine ⟨q, hq', ?_⟩
  rw [(htaken.role_left hsend.consistent hq').2.2, hall.role, happ]

theorem keepsConnected_kept (h : m.Consistent none) (hkept : Kept m m')
    (hroles : ∀ (r : UInt64) q, m.roles[r]? = some q → m'.roles[r]? = some q) :
    KeepsConnected session m m' := by
  rintro c p r _ _ _ ⟨q, hq, happ⟩
  have hrole : m'.role q = m.role q := by
    simp only [CombatManagers.role, PoolTemplate.read, (hkept.role q (h.held r q hq)).2]
  exact ⟨q, hroles r q hq, hrole ▸ happ⟩

/-- A session is given to the role at `q`, and to no other. -/
theorem setAppSession_role (h : m.Consistent none) (hq : m.roles[r]? = some q) :
    ((m.setAppSession q session).role q).appSession = some session := by
  have hrole : (m.setAppSession q session).role q = _ :=
    modifyRole_role (h.held r q hq).1 fun role => { role with appSession := some session }
  rw [hrole]

theorem setAppSession_keeps (h : m.Consistent none) (hq : m.roles[r]? = some q) {r' : UInt64}
    (hr' : m.ConnectedTo session r') : (m.setAppSession q session).ConnectedTo session r' := by
  obtain ⟨q', hq', happ⟩ := hr'
  refine ⟨q', hq', ?_⟩
  by_cases heq : q' = q
  · rw [heq]
    exact setAppSession_role h hq
  · have hother : (m.setAppSession q session).role q' = m.role q' := by
      rcases modifyRole_or m q q' fun role => { role with appSession := some session } with
        hsame | ⟨hsame, _⟩
      · exact hsame
      · exact absurd hsame heq
    rw [hother, happ]

theorem keepsConnected_connect (h : m.Consistent none) (r : UInt64) (c : Int) :
    KeepsConnected session m (m.onMessageCombatConnectArgentRequest session r c) := by
  intro c' p' r' _ _ _ hr'
  rw [onMessageCombatConnectArgentRequest]
  split
  · exact hr'
  · rename_i q hq
    exact setAppSession_keeps h hq hr'

theorem connect_connects (h : m.Consistent none) {q : Ptr} (hq : m.roles[r]? = some q) (c : Int) :
    (m.onMessageCombatConnectArgentRequest session r c).ConnectedTo session r := by
  rw [onMessageCombatConnectArgentRequest, hq]
  exact ⟨q, hq, setAppSession_role h hq⟩

theorem keepsConnected_reconnect (h : m.Consistent none) (r : UInt64) (c : Int) :
    KeepsConnected session m (m.onMessageCombatReconnectRequest session r c) := by
  intro c' p' r' _ _ _ hr'
  rw [onMessageCombatReconnectRequest]
  split
  · rename_i q p hq hp
    exact setAppSession_keeps h hq hr'
  · exact hr'

end CombatManagers

namespace Server

open CombatManagers

variable {s : Server} {session : SessionPtr}

/-- What goes on in the combats is steady, or settles one. -/
theorem inside_outcome (h : s.managers.Consistent none) {a : Action} (ha : a.Inside) :
    Steady s.managers (s.step a).managers ∨ ∃ c, Settles c s.managers (s.step a).managers := by
  cases a with
  | memory memory =>
    exact .inl (steady_outside h memory.combats memory.roles memory.buildingAnswers
      memory.warriorAnswers s.managers.sent)
  | accept session => cases ha
  | close session => cases ha
  | deploy session hostId data => cases ha
  | connectArgent session r combatId => cases ha
  | reconnect session r combatId => cases ha
  | begin session combatId => cases ha
  | build r warriorConfId buildingId =>
    rw [step]
    split
    · exact .inl (.refl h)
    · rename_i q hq
      exact .inl (build_steady h hq warriorConfId buildingId)
  | move r warriorIds pos =>
    rw [step]
    split
    · exact .inl (.refl h)
    · rw [doMoveAction]
      split
      · exact .inl (.refl h)
      · exact .inl (.refl h)
  | attack combatId warriorId target =>
    exact (attack_outcome h combatId warriorId target).imp_right fun hsettles => ⟨_, hsettles.2⟩
  | expire timerId =>
    exact (expire_outcome h timerId).imp_right fun hsettles =>
      hsettles.imp fun _ hsettles => hsettles.2

theorem inside_connected (h : s.managers.Consistent none) {a : Action} (ha : a.Inside) :
    KeepsConnected session s.managers (s.step a).managers := by
  rcases inside_outcome h ha with hsteady | ⟨c, hsettles⟩
  · exact keepsConnected_same hsteady.roles hsteady.role
  · exact keepsConnected_settles hsettles

/-- The requests leave the roles of the combats that last connected. -/
theorem request_connected (h : s.managers.Consistent none) {r : Request}
    (hguard : ∀ hostId data, r = .deploy hostId data →
      s.managers.refusesRoleBuilding data = false) :
    KeepsConnected session s.managers (s.step (r.action session)).managers := by
  cases r with
  | deploy hostId data =>
    have hsupplied := hguard hostId data rfl
    show KeepsConnected session s.managers
      (s.managers.onMessageCombatDeployRequest session hostId data)
    rw [onMessageCombatDeployRequest]
    split
    · rename_i t ht
      have hrefused := (ends_deployCombat h hsupplied).error ht
      exact keepsConnected_kept h ⟨hrefused.kept.combat, hrefused.kept.role⟩
        fun r q hq => hrefused.registeredRoles ▸ hq
    · rename_i p t ht
      have hdeployed := (ends_deployCombat h hsupplied).ok ht
      exact keepsConnected_kept h ⟨hdeployed.kept.combat, hdeployed.kept.role⟩ hdeployed.rolesKept
  | connectArgent r c => exact keepsConnected_connect h r c
  | reconnect r c => exact keepsConnected_reconnect h r c
  | begin c =>
    obtain ⟨hstays, _, hrole⟩ := begin_report s session c
    exact keepsConnected_same hstays.roles hrole

end Server

end Mysya
