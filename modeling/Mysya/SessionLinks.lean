import Mysya.ConsistentDeploys
import Mysya.GuardedRuns
import Mysya.ServerSteps

/-!
# Sessions, combats and roles

A session keeps the combats and the roles that are connected to it, and each of them points back
to its session. `Linked` says that the two sides agree. Most steps touch neither; the session
operations, a combat that is settled and a deploy request are looked at one by one.
-/

open Std Attempts

namespace Mysya

namespace CombatManagers

variable {s s' : CombatManagers} {p q : Ptr} {c : Int} {session : SessionPtr}

structure Linked (s : CombatManagers) : Prop where
  combats : ∀ session p, (s.combat p).appSession = some session ↔
    ∃ x, s.sessions session = some x ∧ p ∈ x.connectedCombats
  roles : ∀ session q, (s.role q).appSession = some session ↔
    ∃ x, s.sessions session = some x ∧ q ∈ x.connectedRoles
  held : ∀ q, ¬ s.rolePool.Held q → (s.role q).appSession = none

theorem Linked.of_same (h : s.Linked) (hsessions : s'.sessions = s.sessions)
    (hcombat : ∀ p, (s'.combat p).appSession = (s.combat p).appSession)
    (hrole : ∀ q, (s'.role q).appSession = (s.role q).appSession)
    (hheld : ∀ q, ¬ s'.rolePool.Held q → (s.role q).appSession = none) : s'.Linked where
  combats := fun session p => by
    rw [hcombat, hsessions]
    exact h.combats session p
  roles := fun session q => by
    rw [hrole, hsessions]
    exact h.roles session q
  held := fun q hq => (hrole q).trans (hheld q hq)

theorem Linked.steady (h : s.Linked) (hs : Steady s s') : s'.Linked :=
  h.of_same hs.sessions (fun p => (hs.combat p).1) hs.role
    fun q hq => h.held q fun hheld => hq (hs.roleHeld q hheld)

/-- A combat in the pool has no session. -/
theorem Linked.combat_free (h : s.Linked) (hc : s.Consistent none) (hp : ¬ s.combatPool.Held p) :
    (s.combat p).appSession = none := by
  cases hsession : (s.combat p).appSession with
  | none => rfl
  | some session =>
    obtain ⟨x, hx, hin⟩ := (h.combats session p).mp hsession
    exact absurd (hc.connected session x p hx hin) hp

/-! ## The session operations -/

theorem Consistent.setSessions (h : s.Consistent none) {sessions : SessionPtr → Option AppSession}
    (hsessions : ∀ session x p, sessions session = some x → p ∈ x.connectedCombats →
      ∃ y, s.sessions session = some y ∧ p ∈ y.connectedCombats) :
    ({ s with sessions := sessions } : CombatManagers).Consistent none := by
  refine h.alike ?_ fun c p hc => (h.fielded c p hc).same rfl rfl
  constructor
  · exact id
  · exact fun p => Iff.rfl
  · exact id
  · exact fun _ q _ => id
  · rfl
  · rfl
  · rfl
  · exact hsessions
  · exact fun session x p _ _ => rfl
  · exact fun p => ⟨rfl, rfl⟩
  · exact fun _ q _ _ => ⟨rfl, rfl, id⟩
  · exact fun p _ => rfl

theorem Consistent.accept (h : s.Consistent none) (session : SessionPtr) :
    (s.accept session).Consistent none := by
  rw [CombatManagers.accept]
  split
  · exact h
  · refine h.setSessions fun session' x p hx hp => ?_
    by_cases heq : session' = session
    · rw [heq, Function.update_self] at hx
      obtain rfl := Option.some.inj hx
      simp at hp
    · rw [Function.update_of_ne heq] at hx
      exact ⟨x, hx, hp⟩

theorem Linked.accept (h : s.Linked) (session : SessionPtr) : (s.accept session).Linked := by
  rw [CombatManagers.accept]
  split
  · exact h
  · rename_i hnone
    have hnone : s.sessions session = none := by simpa using hnone
    have hkept : ∀ (connected : AppSession → ExtTreeSet Ptr) (session' : SessionPtr) (o : Ptr),
        connected ⟨∅, ∅⟩ = ∅ →
        ((∃ x, Function.update s.sessions session (some ⟨∅, ∅⟩) session' = some x ∧
          o ∈ connected x) ↔ ∃ x, s.sessions session' = some x ∧ o ∈ connected x) := by
      intro connected session' o hempty
      by_cases heq : session' = session
      · rw [heq, Function.update_self, hnone]
        simp [hempty]
      · rw [Function.update_of_ne heq]
    constructor
    · intro session' p
      exact (h.combats session' p).trans (hkept AppSession.connectedCombats session' p rfl).symm
    · intro session' q
      exact (h.roles session' q).trans (hkept AppSession.connectedRoles session' q rfl).symm
    · exact h.held

theorem Consistent.setAppSession (h : s.Consistent none) (q : Ptr) (session : SessionPtr) :
    (s.setAppSession q session).Consistent none := by
  have hset : (s.modifyRole q fun role => { role with appSession := some session }).Consistent none :=
    h.modifyRole rfl rfl id
  refine hset.setSessions fun session' x p hx hp => ?_
  by_cases heq : session' = session
  · rw [heq, Function.update_self, Option.map_eq_some_iff] at hx
    obtain ⟨y, hy, rfl⟩ := hx
    exact ⟨y, heq ▸ hy, hp⟩
  · rw [Function.update_of_ne heq] at hx
    exact ⟨x, hx, hp⟩

/-- A role is connected that has no other session. -/
theorem Linked.setAppSession (h : s.Linked) (hq : s.rolePool.Held q)
    (hlive : (s.sessions session).isSome)
    (hfree : (s.role q).appSession = none ∨ (s.role q).appSession = some session) :
    (s.setAppSession q session).Linked := by
  obtain ⟨x, hx⟩ := Option.isSome_iff_exists.mp hlive
  have hsessions : ∀ session', (s.setAppSession q session).sessions session' =
      if session' = session then some { x with connectedRoles := x.connectedRoles.insert q }
      else s.sessions session' := by
    intro session'
    show Function.update s.sessions session _ session' = _
    by_cases heq : session' = session
    · rw [heq, Function.update_self, if_pos rfl]
      show (s.sessions session).map _ = _
      rw [hx]
      rfl
    · rw [Function.update_of_ne heq, if_neg heq]
  have hself : (s.setAppSession q session).role q = { s.role q with appSession := some session } :=
    modifyRole_role hq.1 _
  have hother : ∀ {q'}, q' ≠ q → (s.setAppSession q session).role q' = s.role q' :=
    fun hne => PoolTemplate.read_modify_other _ hne _
  constructor
  · intro session' p
    show (s.combat p).appSession = some session' ↔ _
    rw [h.combats, hsessions]
    by_cases heq : session' = session
    · subst heq
      simp [hx]
    · rw [if_neg heq]
  · intro session' q'
    rw [hsessions]
    by_cases hq' : q' = q
    · subst hq'
      rw [hself]
      by_cases heq : session' = session
      · subst heq
        simp
      · rw [if_neg heq, ← h.roles]
        have hne : (s.role q').appSession ≠ some session' := by
          rcases hfree with hnone | hsame
          · rw [hnone]
            simp
          · rw [hsame]
            simpa using Ne.symm heq
        simp [hne, Ne.symm heq]
    · rw [hother hq', h.roles]
      by_cases heq : session' = session
      · subst heq
        simp [hx, Ne.symm hq']
      · rw [if_neg heq]
  · intro q' hq'
    have hout : ¬ s.rolePool.Held q' := fun hheld => hq' ((PoolTemplate.held_modify _).mpr hheld)
    have hne : q' ≠ q := by
      rintro rfl
      exact hout hq
    rw [hother hne]
    exact h.held q' hout

/-! ### The destructor of a session -/

def resetCombat (s : CombatManagers) (p : Ptr) : CombatManagers :=
  s.modifyCombat p fun combat => { combat with appSession := none }

def resetRole (s : CombatManagers) (q : Ptr) : CombatManagers :=
  s.modifyRole q fun role => { role with appSession := none }

theorem foldl_resetCombat_frame (l : List Ptr) (s : CombatManagers)
    (sessions : SessionPtr → Option AppSession) :
    (l.foldl resetCombat s).sessions = s.sessions ∧
      l.foldl resetCombat { s with sessions := sessions } =
        { l.foldl resetCombat s with sessions := sessions } := by
  induction l generalizing s with
  | nil => exact ⟨rfl, rfl⟩
  | cons p l ih => exact ih (s.resetCombat p)

theorem foldl_resetRole_frame (l : List Ptr) (s : CombatManagers)
    (sessions : SessionPtr → Option AppSession) :
    (l.foldl resetRole s).sessions = s.sessions ∧
      l.foldl resetRole { s with sessions := sessions } =
        { l.foldl resetRole s with sessions := sessions } := by
  induction l generalizing s with
  | nil => exact ⟨rfl, rfl⟩
  | cons q l ih => exact ih (s.resetRole q)

theorem closeSession_eq {x : AppSession} (hx : s.sessions session = some x) :
    s.closeSession session = x.connectedRoles.toList.foldl resetRole
      (x.connectedCombats.toList.foldl resetCombat
        { s with sessions := Function.update s.sessions session none }) := by
  obtain ⟨hcombats, hcombats'⟩ := foldl_resetCombat_frame x.connectedCombats.toList s
    (Function.update s.sessions session none)
  obtain ⟨hroles, hroles'⟩ := foldl_resetRole_frame x.connectedRoles.toList
    (x.connectedCombats.toList.foldl resetCombat s) (Function.update s.sessions session none)
  rw [hcombats', hroles', ← hcombats, ← hroles, closeSession, hx]
  rfl

theorem resetCombat_combat (s : CombatManagers) (p p' : Ptr) :
    ((s.resetCombat p).combat p').appSession =
      if p' = p then none else (s.combat p').appSession := by
  by_cases hp : p' = p
  · rw [if_pos hp, hp]
    by_cases hlive : (s.combatPool.objects p).isSome
    · exact congrArg CombatField.appSession (modifyCombat_combat hlive _)
    · rw [Option.not_isSome_iff_eq_none] at hlive
      simp [resetCombat, combat, modifyCombat, PoolTemplate.read, PoolTemplate.modify, hlive]
      rfl
  · rw [if_neg hp]
    exact congrArg CombatField.appSession (PoolTemplate.read_modify_other _ hp _)

theorem resetRole_role (s : CombatManagers) (q q' : Ptr) :
    ((s.resetRole q).role q').appSession = if q' = q then none else (s.role q').appSession := by
  by_cases hq : q' = q
  · rw [if_pos hq, hq]
    by_cases hlive : (s.rolePool.objects q).isSome
    · exact congrArg CombatRoleField.appSession (modifyRole_role hlive _)
    · rw [Option.not_isSome_iff_eq_none] at hlive
      simp [resetRole, role, modifyRole, PoolTemplate.read, PoolTemplate.modify, hlive]
      rfl
  · rw [if_neg hq]
    exact congrArg CombatRoleField.appSession (PoolTemplate.read_modify_other _ hq _)

/-- A combat that no session has is let go of. -/
theorem Consistent.resetCombat (h : s.Consistent none) (hp : s.combatPool.Held p)
    (hout : ∀ session x, s.sessions session = some x → p ∉ x.connectedCombats) :
    (s.resetCombat p).Consistent none := by
  refine h.alike (alike_modifyCombat hp rfl rfl fun session x hx hin => ?_) fun c p' hc => ?_
  · exact absurd hin (hout session x hx)
  · by_cases hne : p' = p
    · subst hne
      have hcombat : (s.resetCombat p').combat p' = { s.combat p' with appSession := none } :=
        modifyCombat_combat hp.1 _
      have hfielded := h.fielded c p' hc
      constructor
      · rw [hcombat]
        exact hfielded.warriors
      · rw [hcombat]
        exact hfielded.buildings
    · exact (h.fielded c p' hc).same (PoolTemplate.read_modify_other _ hne _) rfl

theorem foldl_resetCombat (l : List Ptr) (h : s.Consistent none)
    (hheld : ∀ p ∈ l, s.combatPool.Held p)
    (hout : ∀ p ∈ l, ∀ session x, s.sessions session = some x → p ∉ x.connectedCombats) :
    (l.foldl resetCombat s).Consistent none ∧
      (l.foldl resetCombat s).rolePool = s.rolePool ∧
      (l.foldl resetCombat s).sessions = s.sessions ∧
      ∀ p, ((l.foldl resetCombat s).combat p).appSession =
        if p ∈ l then none else (s.combat p).appSession := by
  induction l generalizing s with
  | nil => exact ⟨h, rfl, rfl, fun p => by simp⟩
  | cons p l ih =>
    have hreset := h.resetCombat (hheld p (List.mem_cons_self ..)) (hout p (List.mem_cons_self ..))
    obtain ⟨hconsistent, hroles, hsessions, hcombat⟩ := ih hreset
      (fun p' hp' => (PoolTemplate.held_modify _).mpr (hheld p' (List.mem_cons_of_mem _ hp')))
      fun p' hp' => hout p' (List.mem_cons_of_mem _ hp')
    refine ⟨hconsistent, hroles, hsessions, fun p' => ?_⟩
    rw [List.foldl_cons, hcombat, resetCombat_combat]
    by_cases hp : p' = p
    · simp [hp]
    · simp [hp]

theorem foldl_resetRole (l : List Ptr) (h : s.Consistent none) :
    (l.foldl resetRole s).Consistent none ∧
      (∀ p, (l.foldl resetRole s).combat p = s.combat p) ∧
      (l.foldl resetRole s).sessions = s.sessions ∧
      (∀ q, (l.foldl resetRole s).rolePool.Held q ↔ s.rolePool.Held q) ∧
      ∀ q, ((l.foldl resetRole s).role q).appSession =
        if q ∈ l then none else (s.role q).appSession := by
  induction l generalizing s with
  | nil => exact ⟨h, fun _ => rfl, rfl, fun _ => Iff.rfl, fun q => by simp⟩
  | cons q l ih =>
    have hreset : (s.resetRole q).Consistent none := h.modifyRole rfl rfl id
    obtain ⟨hconsistent, hcombat, hsessions, hheld, hrole⟩ := ih hreset
    refine ⟨hconsistent, hcombat, hsessions, fun q' => ?_, fun q' => ?_⟩
    · exact (hheld q').trans (PoolTemplate.held_modify _)
    · rw [List.foldl_cons, hrole, resetRole_role]
      by_cases hq : q' = q
      · simp [hq]
      · simp [hq]

/-- The combats of a session that closes are let go of. -/
theorem Consistent.resetCombats (h : s.Consistent none) {x : AppSession}
    (hx : s.sessions session = some x) {t : CombatManagers}
    (ht : x.connectedCombats.toList.foldl CombatManagers.resetCombat
      { s with sessions := Function.update s.sessions session none } = t) :
    t.Consistent none ∧ t.rolePool = s.rolePool ∧
      t.sessions = Function.update s.sessions session none ∧
      ∀ p, (t.combat p).appSession =
        if p ∈ x.connectedCombats.toList then none else (s.combat p).appSession := by
  subst ht
  have hremoved : ∀ {session' y}, Function.update s.sessions session none session' = some y →
      session' ≠ session ∧ s.sessions session' = some y := by
    intro session' y hy
    by_cases heq : session' = session
    · rw [heq, Function.update_self] at hy
      cases hy
    · rw [Function.update_of_ne heq] at hy
      exact ⟨heq, hy⟩
  have hgone : ({ s with sessions := Function.update s.sessions session none } :
      CombatManagers).Consistent none :=
    h.setSessions fun session' y p hy hp => ⟨y, (hremoved hy).2, hp⟩
  refine foldl_resetCombat x.connectedCombats.toList hgone
    (fun p hp => h.connected session x p hx (ExtTreeSet.mem_toList.mp hp))
    fun p hp session' y hy hin => ?_
  obtain ⟨hne, hy⟩ := hremoved hy
  have hthis := h.linked session x p hx (ExtTreeSet.mem_toList.mp hp)
  have hother := h.linked session' y p hy hin
  exact hne (Option.some.inj (hother.symm.trans hthis))

theorem Consistent.closeSession (h : s.Consistent none) (session : SessionPtr) :
    (s.closeSession session).Consistent none := by
  cases hx : s.sessions session with
  | none =>
    rw [CombatManagers.closeSession, hx]
    exact h
  | some x =>
    rw [closeSession_eq hx]
    exact (foldl_resetRole x.connectedRoles.toList (h.resetCombats hx rfl).1).1

/-- The combats and roles of a session that closes are let go of, and no others. -/
theorem Linked.closeSession (h : s.Linked) (hc : s.Consistent none) (session : SessionPtr) :
    (s.closeSession session).Consistent none ∧ (s.closeSession session).Linked ∧
      ∀ q, ((s.closeSession session).role q).appSession =
        if (s.role q).appSession = some session then none else (s.role q).appSession := by
  cases hx : s.sessions session with
  | none =>
    have hsame : s.closeSession session = s := by rw [CombatManagers.closeSession, hx]
    rw [hsame]
    refine ⟨hc, h, fun q => ?_⟩
    rw [if_neg]
    intro happ
    obtain ⟨x, hx', _⟩ := (h.roles session q).mp happ
    rw [hx] at hx'
    cases hx'
  | some x =>
    have hcombats : ∀ p, p ∈ x.connectedCombats.toList ↔ (s.combat p).appSession = some session := by
      intro p
      rw [h.combats, hx, ExtTreeSet.mem_toList]
      simp
    have hroles : ∀ q, q ∈ x.connectedRoles.toList ↔ (s.role q).appSession = some session := by
      intro q
      rw [h.roles, hx, ExtTreeSet.mem_toList]
      simp
    obtain ⟨hconsistent, hpool, hsessions, hcombat⟩ := hc.resetCombats hx rfl
    obtain ⟨hconsistent, hcombat', hsessions', hheld, hrole⟩ :=
      foldl_resetRole x.connectedRoles.toList hconsistent
    rw [closeSession_eq hx]
    have hrole' : ∀ q, ((x.connectedRoles.toList.foldl resetRole
        (x.connectedCombats.toList.foldl resetCombat
          { s with sessions := Function.update s.sessions session none })).role q).appSession =
        if (s.role q).appSession = some session then none else (s.role q).appSession := by
      intro q
      have hsame : (x.connectedCombats.toList.foldl resetCombat
          { s with sessions := Function.update s.sessions session none }).role q = s.role q :=
        congrArg (fun pool => PoolTemplate.read pool q) hpool
      rw [hrole q, hsame]
      simp only [hroles]
    have hleft : ∀ (connected : AppSession → ExtTreeSet Ptr) (o : Ptr) (app : Option SessionPtr),
        (∀ session', app = some session' ↔
          ∃ y, s.sessions session' = some y ∧ o ∈ connected y) → ∀ session',
        ((if app = some session then none else app) = some session' ↔
          ∃ y, Function.update s.sessions session none session' = some y ∧ o ∈ connected y) := by
      intro connected o app happ session'
      by_cases heq : session' = session
      · subst heq
        rw [Function.update_self]
        split
        · simp
        · rename_i hne
          simp [hne]
      · rw [Function.update_of_ne heq, ← happ]
        split
        · rename_i hsame
          rw [hsame]
          simpa using Ne.symm heq
        · rfl
    refine ⟨hconsistent, ⟨fun session' p => ?_, fun session' q => ?_, fun q hq => ?_⟩, hrole'⟩
    · rw [hcombat' p, hcombat p, hsessions', hsessions]
      simp only [hcombats]
      exact hleft AppSession.connectedCombats p _ (fun session' => h.combats session' p) session'
    · rw [hrole' q, hsessions', hsessions]
      exact hleft AppSession.connectedRoles q _ (fun session' => h.roles session' q) session'
    · have hq : ¬ s.rolePool.Held q := by
        intro hin
        refine hq ((hheld q).mpr ?_)
        rw [hpool]
        exact hin
      rw [hrole' q, h.held q hq]
      simp

/-! ## A combat that goes -/

theorem abandonCombat_role (s : CombatManagers) (p q : Ptr) :
    (s.abandonCombat p).role q = s.role q ∨ (s.abandonCombat p).role q = default := by
  rw [abandonCombat, finalizeCombat_eq]
  exact foldl_dropRole_role _ (s.removeCombat (s.combat p).id) q

theorem abandonCombat_combat (s : CombatManagers) (p p' : Ptr) :
    ((s.abandonCombat p).combat p').appSession = none ∨
      p' ≠ p ∧ (s.abandonCombat p).combat p' = s.combat p' := by
  have hpool : (s.abandonCombat p).combatPool =
      (s.combatPool.modify p CombatField.clear).deallocate p := by
    rw [abandonCombat, finalizeCombat_eq]
    rfl
  have hread : (s.abandonCombat p).combat p' =
      ((s.combatPool.modify p CombatField.clear).deallocate p).read p' :=
    congrArg (fun pool => PoolTemplate.read pool p') hpool
  rcases PoolTemplate.deallocate_objects_or (s.combatPool.modify p CombatField.clear) p p' with
    hsame | hnone
  · have hread : (s.abandonCombat p).combat p' = (s.modifyCombat p CombatField.clear).combat p' :=
      hread.trans (congrArg (fun object => object.getD default) hsame)
    by_cases hp : p' = p
    · refine Or.inl ?_
      rw [hread, hp]
      by_cases hlive : (s.combatPool.objects p).isSome
      · rw [modifyCombat_combat hlive]
        rfl
      · rw [Option.not_isSome_iff_eq_none] at hlive
        simp [combat, modifyCombat, PoolTemplate.read, PoolTemplate.modify, hlive]
        rfl
    · exact Or.inr ⟨hp, hread.trans (PoolTemplate.read_modify_other _ hp _)⟩
  · refine Or.inl ?_
    rw [hread, PoolTemplate.read, hnone]
    rfl

theorem abandonCombat_sessions (s : CombatManagers) (p : Ptr) :
    (s.abandonCombat p).sessions = (s.disconnectCombat p).sessions := by
  rw [abandonCombat, finalizeCombat_eq]
  show ((s.removeCombat (s.combat p).id).disconnectCombat p).sessions = _
  have hcombat : (s.removeCombat (s.combat p).id).combat p = s.combat p := rfl
  unfold disconnectCombat
  rw [hcombat]
  cases (s.combat p).appSession with
  | none => rfl
  | some session => rfl

/-- Only the combat itself is taken out of its session. -/
theorem disconnectCombat_kept (connected : AppSession → ExtTreeSet Ptr) (o : Ptr)
    (hkept : ∀ x : AppSession, o ∈ connected { x with
      connectedCombats := x.connectedCombats.erase p } ↔ o ∈ connected x) (session : SessionPtr) :
    (∃ x, (s.disconnectCombat p).sessions session = some x ∧ o ∈ connected x) ↔
      ∃ x, s.sessions session = some x ∧ o ∈ connected x := by
  unfold disconnectCombat
  split
  · rfl
  · rename_i session' _
    by_cases heq : session = session'
    · subst heq
      simp [modifySession, hkept]
    · simp [modifySession, heq]

/-- A combat whose roles have no session is taken down. -/
theorem Linked.abandonCombat (h : s.Linked) (hc : s.Consistent none) (hreg : s.combats[c]? = some p)
    (hout : ∀ r ∈ (s.combat p).roles, ∀ q, s.roles[r]? = some q → (s.role q).appSession = none) :
    (s.abandonCombat p).Linked := by
  have htaken := hc.takenDown hreg
  have hstays : ∀ {q session}, (s.role q).appSession = some session →
      (s.abandonCombat p).rolePool.Held q ∧ (s.abandonCombat p).role q = s.role q := by
    intro q session happ
    have hq : s.rolePool.Held q := by
      by_contra hq
      rw [h.held q hq] at happ
      cases happ
    obtain ⟨hheld, hsame⟩ := htaken.role q hq fun r hr hrole => by
      rw [hout r hr q hrole] at happ
      cases happ
    exact ⟨hheld, congrArg (fun object => object.getD default) hsame⟩
  have hrole : ∀ q, ((s.abandonCombat p).role q).appSession = (s.role q).appSession := by
    intro q
    cases happ : (s.role q).appSession with
    | none =>
      rcases abandonCombat_role s p q with hsame | hdefault
      · rw [hsame, happ]
      · rw [hdefault]
        rfl
    | some session => rw [(hstays happ).2, happ]
  constructor
  · intro session p'
    rw [abandonCombat_sessions]
    by_cases hp : p' = p
    · subst hp
      have hnone : ((s.abandonCombat p').combat p').appSession = none := by
        rcases abandonCombat_combat s p' p' with hnone | ⟨hne, _⟩
        · exact hnone
        · exact absurd rfl hne
      rw [hnone]
      constructor
      · intro hsome
        cases hsome
      · rintro ⟨x, hx, hin⟩
        obtain ⟨y, hy, hin, hne⟩ := disconnectCombat_connected hx hin
        exact absurd ((h.combats session p').mpr ⟨y, hy, hin⟩) (hne rfl)
    · have herased : ∀ x : AppSession, p' ∈ x.connectedCombats.erase p ↔ p' ∈ x.connectedCombats := by
        intro x
        simp [Ne.symm hp]
      rw [disconnectCombat_kept AppSession.connectedCombats p' herased, ← h.combats]
      constructor
      · intro happ
        rcases abandonCombat_combat s p p' with hnone | ⟨_, hsame⟩
        · rw [hnone] at happ
          cases happ
        · rwa [hsame] at happ
      · intro happ
        obtain ⟨x, hx, hin⟩ := (h.combats session p').mp happ
        rw [htaken.combat_eq (hc.connected session x p' hx hin) hp, happ]
  · intro session q
    rw [hrole, abandonCombat_sessions, h.roles,
      disconnectCombat_kept AppSession.connectedRoles q fun _ => Iff.rfl]
  · intro q hq
    rw [hrole]
    cases happ : (s.role q).appSession with
    | none => rfl
    | some session => exact absurd (hstays happ).1 hq

/-- A combat is settled none of whose roles has a session. -/
theorem Linked.closeCombat (h : s.Linked) (hc : s.Consistent none) (hreg : s.combats[c]? = some p)
    (hout : ∀ r ∈ (s.combat p).roles, ∀ q, s.roles[r]? = some q → (s.role q).appSession = none) :
    (s.closeCombat c p).Consistent none ∧ (s.closeCombat c p).Linked := by
  have hsend := steady_sendSettlement hc p
  rw [closeCombat_eq hc hreg]
  refine ⟨(hsend.consistent.takenDown (hsend.at hreg)).consistent hsend.consistent (hsend.at hreg), ?_⟩
  refine (h.steady hsend).abandonCombat hsend.consistent (hsend.at hreg) fun r hr q hq => ?_
  rw [hsend.role]
  rw [(hsend.combat p).2] at hr
  rw [hsend.roles] at hq
  exact hout r hr q hq

/-! ## Deploying -/

section Deploy

variable {s₀ : CombatManagers} {data : CombatInitialData}

/-- On the way of a request: the new combat at `p` is connected, and nothing else is new to a
session. -/
structure Linking (s₀ : CombatManagers) (session : SessionPtr) (p : Ptr) (s : CombatManagers) :
    Prop where
  roles : ∀ q, ¬ s₀.rolePool.Held q → (s.role q).appSession = none
  combats : ∀ p', ¬ s₀.combatPool.Held p' → p' ≠ p → (s.combat p').appSession = none
  combat : (s.combat p).appSession = some session
  sessions : s.sessions = (s₀.modifySession session fun x =>
    { x with connectedCombats := x.connectedCombats.insert p }).sessions

/-- A request that failed left nothing in a session. -/
structure Unlinking (s₀ s : CombatManagers) : Prop where
  roles : ∀ q, ¬ s₀.rolePool.Held q → (s.role q).appSession = none
  combats : ∀ p', ¬ s₀.combatPool.Held p' → (s.combat p').appSession = none
  sessions : s.sessions = s₀.sessions

theorem Linking.congr (h : Linking s₀ session p s) (hsessions : s'.sessions = s.sessions)
    (hcombat : ∀ p', (s'.combat p').appSession = (s.combat p').appSession)
    (hrole : ∀ q, (s'.role q).appSession = (s.role q).appSession ∨ (s'.role q).appSession = none) :
    Linking s₀ session p s' where
  roles := fun q hq => by
    rcases hrole q with hsame | hnone
    · rw [hsame, h.roles q hq]
    · exact hnone
  combats := fun p' hp' hne => (hcombat p').trans (h.combats p' hp' hne)
  combat := (hcombat p).trans h.combat
  sessions := hsessions.trans h.sessions

theorem Linking.modifyRole (h : Linking s₀ session p s) {change : CombatRoleField → CombatRoleField}
    (hchange : (change (s.role q)).appSession = (s.role q).appSession ∨
      (change (s.role q)).appSession = none) : Linking s₀ session p (s.modifyRole q change) := by
  refine h.congr rfl (fun _ => rfl) fun q' => ?_
  rcases modifyRole_or s q q' change with hsame | ⟨rfl, hchanged⟩
  · rw [hsame]
    exact Or.inl rfl
  · rw [hchanged]
    exact hchange

theorem Linking.modifyCombat (h : Linking s₀ session p s) {change : CombatField → CombatField}
    (p' : Ptr) (hchange : (change (s.combat p')).appSession = (s.combat p').appSession) :
    Linking s₀ session p (s.modifyCombat p' change) := by
  refine h.congr rfl (fun p'' => ?_) fun _ => Or.inl rfl
  rcases modifyCombat_or s p' p'' change with hsame | ⟨rfl, hchanged⟩
  · rw [hsame]
  · rw [hchanged, hchange]

theorem Linking.raiseBuilding (h : Linking s₀ session p s) (hostId : UInt64) (campId : Int)
    (description : BuildingDescription) :
    Linking s₀ session p (s.raiseBuilding p hostId campId description) := by
  have hid : Linking s₀ session p (s.modifyCombat p fun combat =>
      { combat with idAlloctor := (s.combat p).idAlloctor + 1 }) := h.modifyCombat p rfl
  exact hid.modifyCombat p rfl

theorem Linking.joinRole (h : Linking s₀ session p s) (r : UInt64) :
    Linking s₀ session p (s.joinRole p r) := by
  rw [CombatManagers.joinRole]
  split
  · exact h
  · have hjoined : Linking s₀ session p (s.modifyCombat p fun combat =>
        { combat with roles := combat.roles.insert r }) := h.modifyCombat p rfl
    exact hjoined.modifyRole (Or.inl rfl)

theorem Linking.abandonRole (h : Linking s₀ session p s) (hq : (s.role q).appSession = none) :
    Linking s₀ session p (s.abandonRole q) := by
  rw [abandonRole_eq hq]
  have hfinal : Linking s₀ session p (s.modifyRole q CombatRoleField.finalize) :=
    h.modifyRole (Or.inl rfl)
  refine hfinal.congr rfl (fun _ => rfl) fun q' => ?_
  rcases PoolTemplate.deallocate_objects_or (s.rolePool.modify q CombatRoleField.finalize) q q' with
    hsame | hnone
  · exact Or.inl (congrArg (fun object => (object.getD default).appSession) hsame)
  · exact Or.inr (congrArg (fun object => (object.getD default).appSession) hnone)

theorem Linking.abandonCombat (h : Linking s₀ session p s)
    (hnew : ∀ x, s₀.sessions session = some x → p ∉ x.connectedCombats) :
    Unlinking s₀ (s.abandonCombat p) where
  roles := fun q hq => by
    rcases abandonCombat_role s p q with hsame | hdefault
    · rw [hsame, h.roles q hq]
    · rw [hdefault]
      rfl
  combats := fun p' hp' => by
    rcases abandonCombat_combat s p p' with hnone | ⟨hne, hsame⟩
    · exact hnone
    · rw [hsame, h.combats p' hp' hne]
  sessions := by
    rw [abandonCombat_sessions]
    funext session'
    simp only [disconnectCombat, h.combat, modifySession, h.sessions]
    by_cases heq : session' = session
    · subst heq
      simp only [Function.update_self, Option.map_map]
      cases hx : s₀.sessions session' with
      | none => rfl
      | some x =>
        have herase : (x.connectedCombats.insert p).erase p = x.connectedCombats := by
          ext1 p'
          have hout := hnew x hx
          grind
        simp [herase]
    · simp [heq]

theorem Linking.registerRole (h : Linking s₀ session p s)
    (hnew : ∀ x, s₀.sessions session = some x → p ∉ x.connectedCombats) (hkept : Kept s₀ s)
    (hsound : s.rolePool.Sound) (camp : CombatCampData) (role : CombatRoleData) :
    Ends (fun r => Linking s₀ session p r.2 ∧ ¬ s₀.rolePool.Held r.1) (Unlinking s₀)
      (s.registerRole p camp role) := by
  obtain ⟨answer, pool, hanswer⟩ : ∃ answer pool, s.rolePool.allocate = (answer, pool) :=
    ⟨_, _, rfl⟩
  have hgrown := PoolTemplate.grown_of_allocate hsound hanswer
  have hgrow : Linking s₀ session p { s with rolePool := pool } := by
    refine h.congr rfl (fun _ => rfl) fun q => ?_
    rcases hgrown.objects q with hsame | ⟨_, hdefault⟩
    · exact Or.inl (congrArg (fun object => (object.getD default).appSession) hsame)
    · exact Or.inr (congrArg (fun object => (object.getD default).appSession) hdefault)
  simp only [CombatManagers.registerRole, allocateRole, hanswer]
  cases answer with
  | none => exact hgrow.abandonCombat hnew
  | some q =>
    have hfresh : ¬ s₀.rolePool.Held q :=
      fun hin => (PoolTemplate.allocate_held hsound hanswer).2 (hkept.role q hin).1
    have hset : Linking s₀ session p ({ s with rolePool := pool }.modifyRole q fun object =>
        (object.initializeRole role.argentId role.name).setCamp camp) :=
      hgrow.modifyRole (Or.inr rfl)
    dsimp only
    split
    · exact (hset.abandonRole (hset.roles q hfresh)).abandonCombat hnew
    · rename_i added hadded
      have hadd : Linking s₀ session p added := by
        rw [addRole] at hadded
        split at hadded
        · cases hadded
        · cases hadded
          exact hset.congr rfl (fun _ => rfl) fun _ => Or.inl rfl
      refine ⟨hadd.modifyRole (Or.inl ?_), hfresh⟩
      rw [CombatRoleField.addWarriorDescriptions_eq]

variable {Idle : List DeployItem → CombatManagers → Prop}
  {Pending : Ptr → List DeployItem → CombatManagers → Prop} {Failed : CombatManagers → Prop}

/-- What is known of the sessions goes along with any rule that keeps what was handed out. -/
theorem linkingRule (rule : DeployRule p Idle Pending Failed)
    (hnew : ∀ x, s₀.sessions session = some x → p ∉ x.connectedCombats)
    (hidle : ∀ items s, Idle items s → Kept s₀ s ∧ s.rolePool.Sound) :
    DeployRule p (fun items s => Idle items s ∧ Linking s₀ session p s)
      (fun q items s => Pending q items s ∧ Linking s₀ session p s ∧ ¬ s₀.rolePool.Held q)
      (fun s => Failed s ∧ Unlinking s₀ s) := by
  constructor
  · rintro camp role rest s ⟨hitems, hlinking⟩
    obtain ⟨hkept, hsound⟩ := hidle _ s hitems
    exact (rule.role camp role rest s hitems).and
      (hlinking.registerRole hnew hkept hsound camp role)
  · rintro q campId description rest s ⟨hpending, hlinking, hq⟩
    refine (rule.roleBuilding q campId description rest s hpending).and ?_
    have hanswered : Linking s₀ session p { s with buildingAnswers := s.buildingAnswers.tail } :=
      hlinking.congr rfl (fun _ => rfl) fun _ => Or.inl rfl
    simp only [deployRoleBuilding, allocateBuilding]
    cases s.buildingAnswers.headD false with
    | false => exact (hanswered.abandonRole (hanswered.roles q hq)).abandonCombat hnew
    | true => exact ⟨(hanswered.raiseBuilding _ campId description).modifyRole (Or.inl rfl), hq⟩
  · rintro q rest s ⟨hpending, hlinking, _⟩
    exact ⟨rule.joinRole q rest s hpending, hlinking.joinRole _⟩
  · rintro campId description rest s ⟨hitems, hlinking⟩
    refine (rule.campBuilding campId description rest s hitems).and ?_
    have hanswered : Linking s₀ session p { s with buildingAnswers := s.buildingAnswers.tail } :=
      hlinking.congr rfl (fun _ => rfl) fun _ => Or.inl rfl
    simp only [deployCampBuilding, allocateBuilding]
    cases s.buildingAnswers.headD false with
    | false => exact hanswered.abandonCombat hnew
    | true => exact hanswered.raiseBuilding 0 campId description

theorem ends_linking (h : s.Consistent none) (hl : s.Linked)
    (hrefused : s.refusesRoleBuilding data = false) :
    Ends (fun r => Linking s session r.1 r.2) (Unlinking s) (s.deployCombat session data) := by
  obtain ⟨answer, pool, hanswer⟩ : ∃ answer pool, s.combatPool.allocate = (answer, pool) :=
    ⟨_, _, rfl⟩
  cases answer with
  | none =>
    have hgrown := PoolTemplate.grown_of_allocate h.combatPool hanswer
    rw [deployCombat_none hanswer]
    refine ⟨hl.held, fun p' hp' => ?_, rfl⟩
    rcases hgrown.objects p' with hsame | ⟨_, hdefault⟩
    · exact (congrArg (fun object => (object.getD default).appSession) hsame).trans
        (hl.combat_free h hp')
    · exact congrArg (fun object => (object.getD default).appSession) hdefault
  | some p =>
    have hfresh := (PoolTemplate.allocate_held h.combatPool hanswer).2
    have hnew : ∀ x, s.sessions session = some x → p ∉ x.connectedCombats :=
      fun x hx hin => hfresh (h.connected session x p hx hin)
    obtain ⟨hverdict, hstart⟩ := idle_start session h hanswer hrefused
    have hlinking : Linking s session p (s.registerCombat p pool data session) := by
      refine ⟨hl.held, fun p' hp' hne => ?_, (registerCombat_combat data session h hanswer).2.1, rfl⟩
      rcases registerCombat_other data session h hanswer hne with hsame | hdefault
      · rw [hsame]
        exact hl.combat_free h hp'
      · rw [hdefault]
        rfl
    have hends := (linkingRule (layingRule data s session p hverdict) hnew
      fun items t ht => ⟨ht.2.1.kept, ht.2.1.sound⟩).ends_deployCamps ⟨hstart, hlinking⟩
    rw [deployCombat_eq data session h hanswer]
    refine Ends.bind (hends.mono (fun _ h => h) fun e he => he.2) ?_
    rintro t ⟨_, ht⟩
    exact ht

/-- Nothing that was handed out before changes its session. -/
theorem Linked.unlinking (h : s.Linked) (hc : s.Consistent none) (hu : Unlinking s s')
    (hkept : Kept s s') : s'.Linked := by
  refine h.of_same hu.sessions (fun p => ?_) (fun q => ?_) fun q hq => ?_
  · by_cases hp : s.combatPool.Held p
    · rw [hkept.combat_eq hp]
    · rw [hu.combats p hp, h.combat_free hc hp]
  · by_cases hq : s.rolePool.Held q
    · rw [hkept.role_eq hq]
    · rw [hu.roles q hq, h.held q hq]
  · exact h.held q fun hin => hq (hkept.role q hin).1

theorem Linked.linking (h : s.Linked) (hc : s.Consistent none) (hlive : (s.sessions session).isSome)
    (hl : Linking s session p s') (hkept : Kept s s') (hnew : ¬ s.combatPool.Held p) :
    s'.Linked := by
  obtain ⟨x, hx⟩ := Option.isSome_iff_exists.mp hlive
  have hsessions : ∀ session', s'.sessions session' = if session' = session then
      some { x with connectedCombats := x.connectedCombats.insert p }
      else s.sessions session' := by
    intro session'
    rw [hl.sessions]
    by_cases heq : session' = session
    · subst heq
      simp [modifySession, hx]
    · simp [modifySession, heq]
  have hrole : ∀ q, (s'.role q).appSession = (s.role q).appSession := by
    intro q
    by_cases hq : s.rolePool.Held q
    · rw [hkept.role_eq hq]
    · rw [hl.roles q hq, h.held q hq]
  have hout : ∀ {session' y}, s.sessions session' = some y → p ∉ y.connectedCombats :=
    fun hy hin => hnew (hc.connected _ _ p hy hin)
  constructor
  · intro session' p'
    rw [hsessions]
    by_cases hp : p' = p
    · subst hp
      rw [hl.combat]
      by_cases heq : session' = session
      · subst heq
        simp
      · rw [if_neg heq]
        constructor
        · intro hsame
          exact absurd (Option.some.inj hsame).symm heq
        · rintro ⟨y, hy, hin⟩
          exact absurd hin (hout hy)
    · have hcombat : (s'.combat p').appSession = (s.combat p').appSession := by
        by_cases hheld : s.combatPool.Held p'
        · rw [hkept.combat_eq hheld]
        · rw [hl.combats p' hheld hp, h.combat_free hc hheld]
      rw [hcombat, h.combats]
      by_cases heq : session' = session
      · subst heq
        simp [hx, Ne.symm hp]
      · rw [if_neg heq]
  · intro session' q
    rw [hrole, h.roles, hsessions]
    by_cases heq : session' = session
    · subst heq
      simp [hx]
    · rw [if_neg heq]
  · intro q hq
    rw [hrole]
    exact h.held q fun hin => hq (hkept.role q hin).1

/-- A deploy request that is not refused a role's building. -/
theorem Linked.deploy (h : s.Linked) (hc : s.Consistent none) (hlive : (s.sessions session).isSome)
    (hrefused : s.refusesRoleBuilding data = false) (hostId : Int) :
    (s.onMessageCombatDeployRequest session hostId data).Consistent none ∧
      (s.onMessageCombatDeployRequest session hostId data).Linked := by
  have hends : Ends (fun r => Deployed s data r.1 r.2 ∧ Linking s session r.1 r.2)
      (fun e => Refused s e ∧ Unlinking s e) (s.deployCombat session data) :=
    (ends_deployCombat hc hrefused).and (ends_linking hc h hrefused)
  have hsend : ∀ {t : CombatManagers} (message : CombatMessage), t.Consistent none → t.Linked →
      (t.send session message).Consistent none ∧ (t.send session message).Linked :=
    fun message ht hlinked => ⟨(steady_send ht session message).consistent,
      hlinked.steady (steady_send ht session message)⟩
  rw [onMessageCombatDeployRequest]
  split
  · rename_i t ht
    obtain ⟨hrefused, hunlinking⟩ := hends.error ht
    exact hsend _ hrefused.toConsistent (h.unlinking hc hunlinking hrefused.kept)
  · rename_i p t ht
    obtain ⟨hdeployed, hlinking⟩ := hends.ok ht
    exact hsend _ hdeployed.toConsistent
      (h.linking hc hlive hlinking hdeployed.kept hdeployed.new)

end Deploy

theorem started_linked (combatSize combatExtend roleSize roleExtend : Nat)
    (combatNews roleNews : List (Option Ptr)) (buildingAnswers warriorAnswers : List Bool) :
    (started (.new combatSize combatExtend combatNews) (.new roleSize roleExtend roleNews)
      buildingAnswers warriorAnswers).Linked := by
  have hnone : ∀ {E : Type} [Inhabited E] (pool : PoolTemplate E) (app : E → Option SessionPtr),
      app default = none → (∀ p, pool.objects p = none ∨ pool.objects p = some default) →
      ∀ p, app (pool.read p) = none := by
    intro E _ pool app hdefault hobjects p
    rcases hobjects p with h | h
    · rw [PoolTemplate.read, h]
      exact hdefault
    · rw [PoolTemplate.read, h]
      exact hdefault
  have hcombat := hnone (PoolTemplate.new combatSize combatExtend combatNews)
    CombatField.appSession rfl fun p =>
      ((PoolTemplate.new_grown combatSize combatExtend combatNews).objects p).imp id And.right
  have hrole := hnone (PoolTemplate.new roleSize roleExtend roleNews)
    CombatRoleField.appSession rfl fun q =>
      ((PoolTemplate.new_grown roleSize roleExtend roleNews).objects q).imp id And.right
  constructor
  · intro session p
    have happ : ((started (.new combatSize combatExtend combatNews)
      (.new roleSize roleExtend roleNews) buildingAnswers warriorAnswers).combat p).appSession =
        none := hcombat p
    rw [happ]
    simp [started]
  · intro session q
    have happ : ((started (.new combatSize combatExtend combatNews)
      (.new roleSize roleExtend roleNews) buildingAnswers warriorAnswers).role q).appSession =
        none := hrole q
    rw [happ]
    simp [started]
  · exact fun q _ => hrole q

end CombatManagers

namespace Server

open CombatManagers GuardedRuns

variable {s : Server}

/-- The role is connected to no session, or to this one. -/
def Unclaimed (m : CombatManagers) (session : SessionPtr) (r : UInt64) : Prop :=
  ∀ q, m.roles[r]? = some q → (m.role q).appSession = none ∨ (m.role q).appSession = some session

/-- The step is the end of a combat one of whose roles is connected. -/
def SettlesConnected (s : Server) (a : Action) : Prop :=
  ∃ (c : Int) (p : Ptr) (r : UInt64) (q : Ptr), s.Ending a c ∧ s.managers.combats[c]? = some p ∧
    r ∈ (s.managers.combat p).roles ∧ s.managers.roles[r]? = some q ∧
    (s.managers.role q).appSession ≠ none

/-- Messages come from sessions that are there; a role moves to a session only from none, no
request is refused a role's building, and the roles of a combat that is settled are not
connected. -/
def Separate (s : Server) (a : Action) : Prop :=
  match a with
  | .deploy session _ data =>
    (s.managers.sessions session).isSome ∧ s.managers.refusesRoleBuilding data = false
  | .connectArgent session r _ =>
    (s.managers.sessions session).isSome ∧ Unclaimed s.managers session r
  | .reconnect session r combatId => (s.managers.sessions session).isSome ∧
    ((s.managers.combats[combatId]?).isSome → Unclaimed s.managers session r)
  | .attack _ _ _ => ¬ s.SettlesConnected a
  | .expire _ => ¬ s.SettlesConnected a
  | _ => True

/-- The managers are consistent, and the sessions fit. -/
def Sound (s : Server) : Prop := s.managers.Consistent none ∧ s.managers.Linked

theorem sound_of_outcome (h : s.Sound) {a : Action} (hguard : ¬ s.SettlesConnected a)
    (houtcome : Steady s.managers (s.step a).managers ∨
      ∃ c, s.Ending a c ∧ Settles c s.managers (s.step a).managers) : (s.step a).Sound := by
  rcases houtcome with hsteady | ⟨c, hending, p, t, hsteady, hreg, hclose⟩
  · exact ⟨hsteady.consistent, h.2.steady hsteady⟩
  · have hpair := (h.2.steady hsteady).closeCombat hsteady.consistent hreg fun r hr q hq => ?_
    · rw [← hclose] at hpair
      exact hpair
    · by_contra happ
      rw [hsteady.role] at happ
      rw [(hsteady.combat p).2] at hr
      rw [hsteady.roles] at hq
      rw [hsteady.combats] at hreg
      exact hguard ⟨c, p, r, q, hending, hreg, hr, hq, happ⟩

theorem sound_connect {m : CombatManagers} (hc : m.Consistent none) (hl : m.Linked)
    {session : SessionPtr} {r : UInt64} {q : Ptr} (hlive : (m.sessions session).isSome)
    (hfree : Unclaimed m session r) (hq : m.roles[r]? = some q) (message : CombatMessage) :
    ((m.setAppSession q session).send session message).Consistent none ∧
      ((m.setAppSession q session).send session message).Linked := by
  have hsend := steady_send (hc.setAppSession q session) session message
  exact ⟨hsend.consistent,
    (hl.setAppSession (hc.held r q hq) hlive (hfree q hq)).steady hsend⟩

theorem sound_connectArgent {m : CombatManagers} (hc : m.Consistent none) (hl : m.Linked)
    {session : SessionPtr} {r : UInt64} (combatId : Int) (hlive : (m.sessions session).isSome)
    (hfree : Unclaimed m session r) :
    (m.onMessageCombatConnectArgentRequest session r combatId).Consistent none ∧
      (m.onMessageCombatConnectArgentRequest session r combatId).Linked := by
  rw [onMessageCombatConnectArgentRequest]
  split
  · have hsend := steady_send hc session (.connectArgentResponse false r combatId)
    exact ⟨hsend.consistent, hl.steady hsend⟩
  · rename_i q hq
    exact sound_connect hc hl hlive hfree hq _

theorem sound_reconnect {m : CombatManagers} (hc : m.Consistent none) (hl : m.Linked)
    {session : SessionPtr} {r : UInt64} {combatId : Int} (hlive : (m.sessions session).isSome)
    (hfree : (m.combats[combatId]?).isSome → Unclaimed m session r) :
    (m.onMessageCombatReconnectRequest session r combatId).Consistent none ∧
      (m.onMessageCombatReconnectRequest session r combatId).Linked := by
  rw [onMessageCombatReconnectRequest]
  split
  · rename_i q p hq hreg
    exact sound_connect hc hl hlive (hfree (by rw [hreg]; rfl)) hq _
  · exact ⟨hc, hl⟩

theorem step_sound (h : s.Sound) {a : Action} (hguard : s.Separate a) : (s.step a).Sound := by
  have hsteady : ∀ {t : Server}, Steady s.managers t.managers → t.Sound :=
    fun ht => ⟨ht.consistent, h.2.steady ht⟩
  cases a with
  | memory memory =>
    exact hsteady (steady_outside h.1 memory.combats memory.roles memory.buildingAnswers
      memory.warriorAnswers s.managers.sent)
  | accept session => exact ⟨h.1.accept session, h.2.accept session⟩
  | close session =>
    obtain ⟨hconsistent, hlinked, _⟩ := h.2.closeSession h.1 session
    exact ⟨hconsistent, hlinked⟩
  | deploy session hostId data => exact h.2.deploy h.1 hguard.1 hguard.2 hostId
  | connectArgent session r combatId =>
    exact sound_connectArgent h.1 h.2 combatId hguard.1 hguard.2
  | reconnect session r combatId => exact sound_reconnect h.1 h.2 hguard.1 hguard.2
  | begin session combatId => exact hsteady (begin_steady h.1 session combatId)
  | build r warriorConfId buildingId =>
    rw [step]
    split
    · exact h
    · rename_i q hq
      exact hsteady (build_steady h.1 hq warriorConfId buildingId)
  | move r warriorIds pos =>
    rw [step]
    split
    · exact h
    · rw [doMoveAction]
      split
      · exact h
      · exact h
  | attack combatId warriorId target =>
    refine sound_of_outcome h hguard ((attack_outcome h.1 combatId warriorId target).imp_right ?_)
    rintro ⟨hconquers, hsettles⟩
    exact ⟨combatId, Or.inr ⟨_, _, rfl, hconquers⟩, hsettles⟩
  | expire timerId => exact sound_of_outcome h hguard (expire_outcome h.1 timerId)

/-- While no role moves from session to session and no connected role is settled, a session has
the roles and combats that point to it and none that is in a pool, and closing one leaves the
roles of the others. -/
theorem sessions_linked (configs : Configs) (memory : Memory) (s : Server)
    (hs : Reaches (fun s a => some (step s a)) Separate (started configs memory) s) :
    (∀ session x, s.managers.sessions session = some x →
      (∀ q, q ∈ x.connectedRoles ↔ (s.managers.role q).appSession = some session) ∧
      (∀ p, p ∈ x.connectedCombats ↔ (s.managers.combat p).appSession = some session) ∧
      (∀ q ∈ x.connectedRoles, s.managers.rolePool.Held q) ∧
      ∀ p ∈ x.connectedCombats, s.managers.combatPool.Held p) ∧
    ∀ session session' q, session ≠ session' →
      (s.managers.role q).appSession = some session' →
      ((s.step (.close session)).managers.role q).appSession = some session' := by
  have hsound : s.Sound := by
    refine hs.invariant ⟨started_consistent _ _ _ _ _ _ _ _, started_linked _ _ _ _ _ _ _ _⟩ ?_
    intro s a s' hs hguard hstep
    cases hstep
    exact step_sound hs hguard
  obtain ⟨hconsistent, hlinked⟩ := hsound
  refine ⟨fun session x hx => ⟨fun q => ?_, fun p => ?_, fun q hq => ?_, ?_⟩, ?_⟩
  · rw [hlinked.roles, hx]
    simp
  · rw [hlinked.combats, hx]
    simp
  · by_contra hout
    have happ := (hlinked.roles session q).mpr ⟨x, hx, hq⟩
    rw [hlinked.held q hout] at happ
    cases happ
  · exact fun p hp => hconsistent.connected session x p hx hp
  · intro session session' q hne happ
    have hclose := (hlinked.closeSession hconsistent session).2.2 q
    rw [happ, if_neg fun hsame => hne (Option.some.inj hsame).symm] at hclose
    exact hclose

/-- One object in each pool, and two buildings. -/
def roomy : Server :=
  .small (fun _ => none) ⟨[some 0], [some 0], [true, true], [], [], [], [], [], []⟩

def connected : List Action :=
  [.accept 0, .accept 1, .deploy 0 5 smallRequest, .connectArgent 1 7 0]

theorem sessions_linked_connected :
    ∃ s x, run roomy connected = s ∧ s.managers.sessions 1 = some x ∧ 0 ∈ x.connectedRoles ∧
      s.managers.rolePool.Held 0 := by
  have hreaches : Reaches (fun s a => some (step s a)) Separate roomy (run roomy connected) := by
    refine Reaches.refl.run (l := connected) ?_ rfl
    refine ⟨trivial, fun _ hs => ?_⟩
    cases hs
    refine ⟨trivial, fun _ hs => ?_⟩
    cases hs
    refine ⟨⟨by decide, by decide⟩, fun _ hs => ?_⟩
    cases hs
    refine ⟨⟨by decide, fun q hq => Or.inl ?_⟩, fun _ _ => trivial⟩
    have hzero : q = 0 := by
      have hrole : (run roomy [.accept 0, .accept 1, .deploy 0 5 smallRequest]).managers.roles[
        (7 : UInt64)]? = some 0 := by decide
      exact Option.some.inj (hq.symm.trans hrole)
    rw [hzero]
    rfl
  have hlinked := sessions_linked _ _ _ hreaches
  obtain ⟨x, hx⟩ : ∃ x, (run roomy connected).managers.sessions 1 = some x := ⟨_, rfl⟩
  have hin := ((hlinked.1 1 x hx).1 0).mpr rfl
  exact ⟨_, x, rfl, hx, hin, (hlinked.1 1 x hx).2.2.1 0 hin⟩

/-- A role that moved to session 2 is let go of when session 1 closes, and a connected role goes
back to the pool when its combat is settled. -/
theorem sessions_apart :
    (∃ x, (run roomy [.accept 0, .accept 1, .accept 2, .deploy 0 5 smallRequest,
        .connectArgent 1 7 0, .reconnect 2 7 0, .close 1]).managers.sessions 2 = some x ∧
      0 ∈ x.connectedRoles ∧ ((run roomy [.accept 0, .accept 1, .accept 2,
        .deploy 0 5 smallRequest, .connectArgent 1 7 0, .reconnect 2 7 0,
        .close 1]).managers.role 0).appSession = none) ∧
    ∃ x, (run roomy (connected ++ [.begin 0 0, .expire 1])).managers.sessions 1 = some x ∧
      0 ∈ x.connectedRoles ∧
      ¬ (run roomy (connected ++ [.begin 0 0, .expire 1])).managers.rolePool.Held 0 := by
  constructor
  · exact ⟨_, rfl, by decide, rfl⟩
  · exact ⟨_, rfl, by decide, fun hheld => hheld.2 (by decide)⟩

end Server

end Mysya
