import Mysya.ResourceRecovery
import Mysya.SceneRegistry

/-!
# The answers to the requests

A deploy and a connect request are always answered with one message, a reconnect request only where
both ids are known. A begin request that finds its combat is answered with success, even if there is
no memory for the buildings of the scene or of the AI; where there is none for the scene itself,
`SceneManager::Allocate` ends the process before the answer.
-/

open Std Attempts GuardedRuns

namespace Mysya

open CombatManagers

/-! ## The registry of scenes -/

namespace Apps

variable {a a' : Apps} {m : CombatManagers} {c : Int} {sc w : Ptr}

end Apps

namespace CombatManagers

variable {m t : CombatManagers} {p q : Ptr} {c : Int} {session : SessionPtr}

/-! ## Deploying -/

theorem abandonCombat_sent (m : CombatManagers) (p : Ptr) : (m.abandonCombat p).sent = m.sent := by
  show ((m.removeCombat (m.combat p).id).finalizeCombat p).sent = m.sent
  rw [finalizeCombat_eq]
  rfl

theorem abandonRole_sent (m : CombatManagers) (q : Ptr) : (m.abandonRole q).sent = m.sent := by
  show (m.disconnectRole q).sent = m.sent
  rw [disconnectRole]
  split
  · rfl
  · rfl

theorem joinRole_sent (m : CombatManagers) (p : Ptr) (r : UInt64) :
    (m.joinRole p r).sent = m.sent := by
  rw [joinRole]
  split
  · rfl
  · rfl

/-- Nothing is sent while a combat is deployed. -/
theorem quietRule (m : CombatManagers) (p : Ptr) :
    DeployRule p (fun _ t => t.sent = m.sent) (fun _ _ t => t.sent = m.sent)
      (fun t => t.sent = m.sent) where
  role := by
    intro camp role rest t ht
    rw [registerRole]
    split
    · rename_i u hu
      obtain rfl : t.allocateRole.2 = u := congrArg Prod.snd hu
      exact (abandonCombat_sent _ p).trans ht
    · rename_i q u hu
      obtain rfl : t.allocateRole.2 = u := congrArg Prod.snd hu
      dsimp only
      split
      · exact ((abandonCombat_sent _ p).trans (abandonRole_sent _ q)).trans ht
      · rename_i added hadded
        rw [addRole] at hadded
        split at hadded
        · cases hadded
        · obtain rfl := Option.some.inj hadded
          exact ht
  roleBuilding := by
    intro q campId description rest t ht
    rw [deployRoleBuilding]
    split
    · rename_i u hu
      obtain rfl : t.allocateBuilding.2 = u := congrArg Prod.snd hu
      exact ((abandonCombat_sent _ p).trans (abandonRole_sent _ q)).trans ht
    · rename_i u hu
      obtain rfl : t.allocateBuilding.2 = u := congrArg Prod.snd hu
      exact ht
  joinRole := by
    intro q rest t ht
    exact (joinRole_sent t p _).trans ht
  campBuilding := by
    intro campId description rest t ht
    rw [deployCampBuilding]
    split
    · rename_i u hu
      obtain rfl : t.allocateBuilding.2 = u := congrArg Prod.snd hu
      exact (abandonCombat_sent _ p).trans ht
    · rename_i u hu
      obtain rfl : t.allocateBuilding.2 = u := congrArg Prod.snd hu
      exact ht

/-- A deploy that succeeds registers a new combat, and one that fails registers none. -/
theorem Enrolled.ends_registers (h : m.Enrolled) (session : SessionPtr) (data : CombatInitialData) :
    Ends (fun r => r.2.sent = m.sent ∧ m.combats[(r.2.combat r.1).id]? = none ∧
        r.2.combats[(r.2.combat r.1).id]? = some r.1)
      (fun t => t.sent = m.sent ∧
        ∀ (c : Int) p, t.combats[c]? = some p → m.combats[c]? = some p)
      (m.deployCombat session data) := by
  obtain ⟨answer, pool, hanswer⟩ : ∃ answer pool, m.combatPool.allocate = (answer, pool) :=
    ⟨_, _, rfl⟩
  cases answer with
  | none =>
    rw [deployCombat_none hanswer]
    exact ⟨rfl, fun _ _ => id⟩
  | some p =>
    obtain ⟨_, hheld, _, _, hcombatId, _⟩ := h.opened hanswer data session
    have hadd : (m.openCombat p pool data session).addCombat p =
        if m.combats.contains m.combatIds then none
        else some (m.enrollCombat p pool data session) := by
      rw [addCombat, hcombatId]
      rfl
    by_cases hid : m.combats.contains m.combatIds
    · rw [deployCombat_taken hanswer (hadd.trans (if_pos hid))]
      have hcombats : ((m.openCombat p pool data session).finalizeCombat p).combats = m.combats :=
        finalizeCombat_combats _ p
      have hsent : ((m.openCombat p pool data session).finalizeCombat p).sent = m.sent := by
        rw [finalizeCombat_eq]
        rfl
      refine ⟨hsent, fun c p' hc => ?_⟩
      rw [← hcombats]
      exact hc
    · rw [deployCombat_added hanswer (hadd.trans (if_neg hid))]
      have hnew : m.combatIds ∉ m.combats := fun hin => hid (ExtTreeMap.contains_iff_mem.mpr hin)
      have henrolled := h.enrollCombat hanswer hnew data session
      have hids : ((m.enrollCombat p pool data session).combat p).id = m.combatIds :=
        (henrolled.1.combats _ p henrolled.2.2.2).2
      have hquiet : Ends (fun t => t.sent = m.sent) (fun t => t.sent = m.sent)
          (data.camps.foldlM (deployCamp p) (m.enrollCombat p pool data session)) :=
        (quietRule (m.enrollCombat p pool data session) p).ends_deployCamps rfl
      have hloop := ((deploysRule data (m.enrollCombat p pool data session) p).ends_deployCamps
        ⟨fun item hin => hin, Deploys.refl data p _⟩).and hquiet
      have hfree : m.combats[m.combatIds]? = none := by
        rw [ExtTreeMap.mem_iff_isSome_getElem?] at hnew
        simpa using hnew
      refine Ends.bind (G := fun t => t.sent = m.sent ∧
        m.combats[(t.combat p).id]? = none ∧ t.combats[(t.combat p).id]? = some p)
        (hloop.mono ?_ ?_) ?_
      · rintro t ⟨⟨_, ht⟩, hsent⟩
        rw [ht.combat.1, hids, ht.combats]
        exact ⟨hsent, hfree, henrolled.2.2.2⟩
      · rintro t ⟨⟨u, hu, rfl⟩, hsent⟩
        refine ⟨hsent, fun c p' hc => ?_⟩
        have hcombats : (u.abandonCombat p).combats = u.combats.erase (u.combat p).id :=
          finalizeCombat_combats _ p
        rw [hcombats, hu.combat.1, hids, hu.combats, ExtTreeMap.getElem?_erase] at hc
        split at hc
        · cases hc
        · rename_i hne
          rw [CombatManagers.enrollCombat, ExtTreeMap.getElem?_insert, if_neg hne] at hc
          exact hc
      · intro t ht
        exact ht

/-- The role is registered, and its messages go to the session. -/
def Attached (m : CombatManagers) (session : SessionPtr) (r : UInt64) : Prop :=
  ∃ q, m.roles[r]? = some q ∧ ∀ role ∈ m.rolePool.objects q, role.appSession = some session

end CombatManagers

/-- The response carries a failure code. -/
def CombatMessage.failed : CombatMessage → Bool
  | .deployResponse _ .failure _ => true
  | .connectArgentResponse complete _ _ => !complete
  | .beginResponse success _ => !success
  | _ => false

namespace Server

variable {s t : Server} {c : Int} {p : Ptr} {session : SessionPtr}

inductive Request
  | deploy (hostId : Int) (data : CombatInitialData)
  | connectArgent (roleArgentId : UInt64) (combatId : Int)
  | reconnect (roleArgentId : UInt64) (combatId : Int)
  | begin (combatId : Int)

namespace Request

def action (session : SessionPtr) : Request → Action
  | .deploy hostId data => .deploy session hostId data
  | .connectArgent roleArgentId combatId => .connectArgent session roleArgentId combatId
  | .reconnect roleArgentId combatId => .reconnect session roleArgentId combatId
  | .begin combatId => .begin session combatId

/-- The response is of the type of the request, and has its ids. -/
def AnsweredBy : Request → CombatMessage → Prop
  | .deploy hostId _, .deployResponse hostId' _ _ => hostId' = hostId
  | .connectArgent r c, .connectArgentResponse _ r' c' => r' = r ∧ c' = c
  | .reconnect r c, .reconnectResponse r' c' => r' = r ∧ c' = c
  | .begin c, .beginResponse _ c' => c' = c
  | _, _ => False

/-- A combat is there that was not, the role is attached to the session, or the combat is on a
scene and has its buildings raised. -/
def CarriedOut (session : SessionPtr) (s t : Server) : Request → Prop
  | .deploy _ _ => ∃ (c : Int) (p : Ptr), s.managers.combats[c]? = none ∧
      t.managers.combats[c]? = some p
  | .connectArgent r _ => t.managers.Attached session r
  | .reconnect r c => (t.managers.combats[c]?).isSome ∧ t.managers.Attached session r
  | .begin c => ∃ p, t.managers.combats[c]? = some p ∧ (t.apps.scenes c).isSome ∧ t.AllRaised c p

/-- One response, and only one, to the session, with a failure code exactly if nothing was done. -/
def Answered (request : Request) (session : SessionPtr) (s t : Server) : Prop :=
  ∃ message, t.managers.sent = s.managers.sent ++ [(session, message)] ∧
    request.AnsweredBy message ∧
    (message.failed = true ↔ ¬ request.CarriedOut session s t)

end Request

end Server

end Mysya
