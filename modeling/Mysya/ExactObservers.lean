import Mysya.AutoObservers
import Mysya.AutoSights

/-!
# Runs in which autos observe what they are to

An auto that changes its status while it is told of something no longer observes its own warrior:
it leaves the observers at the end of the dispatch, after it joined them again. Where what an auto
is told of never makes it change, and no search finds another target than the one that is left, the
autos observe their warriors and their targets, and nothing else.
-/

open Std OwnedTimers Attempts GuardedRuns

namespace Mysya

open CombatManagers

namespace Apps

variable {a b : Apps} {m m' : CombatManagers} {k : EntityKey} {x : Ptr}
  {combatId warriorId autoId : Int} {entity : CombatEntity}

/-! ## What changes no status -/

/-- No auto of the combat chases or attacks the entity. -/
def Unwanted (a : Apps) (combatId : Int) (entity : CombatEntity) : Prop :=
  ∀ autoId x, a.autoes (combatId, autoId) = some x →
    (a.auto x).presentStatus ≠ some .search → (a.auto x).target ≠ entity

/-- No auto chases that of the warrior or the warrior into its range, and none that attacks the
warrior has it out of its range. -/
def Unmoved (m : CombatManagers) (a : Apps) (combatId warriorId : Int) : Prop :=
  ∀ autoId x, a.autoes (combatId, autoId) = some x →
    ((a.auto x).presentStatus = some .chase →
      autoId = warriorId ∨ (a.auto x).target.id = warriorId →
      a.checkTargetAttackReachable m x = false) ∧
    ¬ SteppedOut m combatId autoId warriorId x a

/-- What `SearchTarget` finds. -/
def sought (m : CombatManagers) (a : Apps) (x : Ptr) : Option CombatEntity :=
  match a.autoCombat m x, m.getWarrior (a.autoKey x).1 (a.autoKey x).2 with
  | some combat, some field =>
    (a.onRequireSceneFetch m combat.id field.campId (a.originPos (a.autoKey x))
      field.searchRange).bind fun around =>
        match around.2.find? combat.warriors.contains with
        | some warriorId => some ⟨.warrior, warriorId⟩
        | none => (around.1.find? combat.buildings.contains).map fun buildingId =>
            ⟨.building, buildingId⟩
  | _, _ => none

theorem searchTarget_sought (m : CombatManagers) (a : Apps) (x : Ptr) :
    a.searchTarget m x = (a.sought m x).elim (false, a) fun entity =>
      (true, a.setTarget x entity.type entity.id) := by
  rw [searchTarget, sought]
  cases a.autoCombat m x with
  | none => rfl
  | some combat =>
    cases m.getWarrior (a.autoKey x).1 (a.autoKey x).2 with
    | none => rfl
    | some field =>
      dsimp only
      cases a.onRequireSceneFetch m combat.id field.campId (a.originPos (a.autoKey x))
        field.searchRange with
      | none => rfl
      | some around =>
        rw [Option.bind_some]
        dsimp only
        cases around.2.find? combat.warriors.contains with
        | some id => rfl
        | none =>
          cases around.1.find? combat.buildings.contains with
          | some id => rfl
          | none => rfl

theorem Aside.distance (h : Aside a b) (hpos : b.originPos = a.originPos) (x : Ptr) :
    b.getTargetDistance m x = a.getTargetDistance m x := by
  obtain ⟨_, _, htarget⟩ := h.fields x
  simp only [getTargetDistance, targetPos, autoCombat, h.autoKey, htarget, hpos]

theorem Aside.unmoved (h : Aside a b) (hpos : b.originPos = a.originPos)
    (hunmoved : a.Unmoved m combatId warriorId) : b.Unmoved m combatId warriorId := by
  intro autoId x hx
  rw [h.autoes] at hx
  obtain ⟨hchase, hattack⟩ := hunmoved autoId x hx
  obtain ⟨_, hstatus, htarget⟩ := h.fields x
  refine ⟨fun hchasing hconcerned => ?_, fun hout => hattack ?_⟩
  · rw [hstatus] at hchasing
    rw [htarget] at hconcerned
    rw [checkTargetAttackReachable, h.distance hpos, h.autoKey]
    exact hchase hchasing hconcerned
  · refine ⟨hx, hstatus.symm.trans hout.attacking, htarget.symm.trans hout.target, ?_⟩
    rw [← h.distance hpos]
    exact hout.away

theorem Unmoved.dispatching (h : a.Unmoved m combatId warriorId) :
    ({ a with dispatching := true } : Apps).Unmoved m combatId warriorId :=
  fun autoId x hx => ⟨(h autoId x hx).1, fun hout => (h autoId x hx).2 (hout.congr rfl rfl rfl)⟩

theorem Aside.unwanted (h : Aside a b) (hunwanted : a.Unwanted combatId entity) :
    b.Unwanted combatId entity := by
  intro autoId x hx hstatus
  rw [h.autoes] at hx
  rw [(h.fields x).2.1] at hstatus
  rw [(h.fields x).2.2]
  exact hunwanted autoId x hx hstatus

/-! ## Dispatches that change no status -/

/-- What is told to the autos changes nothing where telling one of them does not. -/
theorem aside_dispatch {handler : Apps → Ptr → Apps} {entityId : Int}
    (hpending : a.pendingRemoves = []) (hidle : a.dispatching = false)
    (hhandled : ∀ b x, Handled x b (handler b x))
    (hhandler : ∀ b autoId x, Aside { a with dispatching := true } b → b.originPos = a.originPos →
      b.autoes (combatId, autoId) = some x → Aside b (handler b x)) :
    Aside a (a.dispatch combatId entityId handler) := by
  cases hsome : (a.observers (combatId, entityId)).isEmpty with
  | true =>
    rw [Apps.dispatch, if_pos hsome]
    exact .refl a
  | false =>
    rw [dispatch_eq _ hsome, callAutos]
    have hloop : Aside { a with dispatching := true } ((a.observers (combatId,
        entityId)).toList.foldl (callAuto combatId handler) { a with dispatching := true }) ∧
        ((a.observers (combatId, entityId)).toList.foldl (callAuto combatId handler)
          { a with dispatching := true }).originPos = a.originPos := by
      refine List.foldlRecOn (motive := fun b => Aside { a with dispatching := true } b ∧
        b.originPos = a.originPos) _ _ ⟨.refl _, rfl⟩ ?_
      rintro b ⟨hb, hpos⟩ autoId _
      rw [callAuto]
      split
      · exact ⟨hb, hpos⟩
      · rename_i x hx
        exact ⟨hb.trans (hhandler b autoId x hb hpos hx), (hhandled b x).originPos.trans hpos⟩
    generalize (a.observers (combatId, entityId)).toList.foldl (callAuto combatId handler)
      { a with dispatching := true } = b at hloop
    obtain ⟨hloop, _⟩ := hloop
    have hnone : b.pendingRemoves = [] :=
      (congrArg EventObserver.pendingRemoves hloop.observer).trans hpending
    have hobservers : b.observers = a.observers :=
      congrArg EventObserver.observers hloop.observer
    have hfinish : b.finishDispatch = { b with dispatching := false, pendingRemoves := [] } := by
      rw [finishDispatch, hnone]
      rfl
    rw [hfinish]
    refine ⟨hloop.autoes, ?_, hloop.live, hloop.sight⟩
    rw [observer, observer, hobservers, hpending, hidle]

theorem Unmoved.onMoveStep (h : a.Unmoved m combatId warriorId)
    (hx : a.autoes (combatId, autoId) = some x) (hkey : a.autoKey x = (combatId, autoId)) :
    Aside a (onMoveStep m warriorId a x) := by
  obtain ⟨hchase, hattack⟩ := h autoId x hx
  rw [Apps.onMoveStep]
  split
  · rename_i hstatus
    split
    · exact .refl a
    · rename_i hconcerned
      have hreach := hchase hstatus (by rw [hkey] at hconcerned; tauto)
      rw [if_neg (by simp [hreach])]
      split
      · exact aside_setRefindPathTimer a x
      · exact .refl a
  · rename_i hstatus
    split
    · exact .refl a
    · rename_i htarget
      split
      · rename_i distance warrior hdistance hwarrior
        split
        · rename_i haway
          rw [hkey] at hwarrior
          exact absurd ⟨hx, hstatus, not_not.mp htarget, distance, warrior, hdistance, hwarrior,
            haway⟩ hattack
        · exact .refl a
      · exact .refl a
  · exact .refl a

theorem Unwanted.onTargetLost (h : a.Unwanted combatId entity)
    (hx : a.autoes (combatId, autoId) = some x) : onTargetLost entity a x = a := by
  rw [Apps.onTargetLost]
  split
  · rfl
  · rfl
  · rename_i hsearch _
    exact if_pos (h autoId x hx hsearch)

/-- A search goes on unless it is the own warrior that was attacked. -/
theorem onAttacked_other (hkey : a.autoKey x = (combatId, autoId)) {hostId : Int}
    (hstatus : autoId = hostId → (a.auto x).presentStatus ≠ some .search) :
    onAttacked m hostId warriorId a x = a := by
  rw [onAttacked]
  split
  · rename_i hsearch
    rw [hkey]
    exact if_pos fun heq => hstatus heq.symm hsearch
  · rfl

/-! ## The invariant -/

/-- The observers are the registered autos, each of its warrior and of its target if it has one. -/
def ObservesExactly (a : Apps) : Prop :=
  ∀ (key : EntityKey) (entityId : Int), key.2 ∈ a.observers (key.1, entityId) ↔
    ∃ x, a.autoes key = some x ∧ (a.auto x).Heeds key entityId

/-- The entities that the auto of the warrior observes. -/
def observed (a : Apps) (key : EntityKey) : Set Int :=
  {entityId | key.2 ∈ a.observers (key.1, entityId)}

/-- Autos are of warriors whose ids were given out. -/
def Given (m : CombatManagers) (a : Apps) : Prop :=
  ∀ (c id : Int) p, (a.autoes (c, id)).isSome → m.combats[c]? = some p →
    id ≤ (m.combat p).idAlloctor

theorem Given.fewer (h : Given m a) (hautoes : ∀ k, (b.autoes k).isSome → (a.autoes k).isSome) :
    Given m b := fun c id p hid => h c id p (hautoes _ hid)

/-- All autos observe what they are to. -/
structure Watchful (m : CombatManagers) (a : Apps) : Prop where
  tallied : Tallied m a
  given : Given m a
  sees : Sees (fun _ => True) a

theorem Watchful.exact (h : Watchful m a) : a.ObservesExactly :=
  fun key entityId => h.sees.observers key trivial entityId

theorem Watchful.aside (h : Watchful m a) (htallied : Tallied m b) (haside : Aside a b) :
    Watchful m b := by
  refine ⟨htallied, h.given.fewer fun k => ?_, h.sees.aside haside⟩
  rw [haside.autoes]
  exact id

theorem Watchful.outside (h : Watchful m a) (houtside : Outside a b) : Watchful m b :=
  h.aside (talliedRule.outside h.tallied houtside) houtside.aside

theorem Watchful.managers (h : Watchful m a) {ended : Option Int} (hlasts : Lasts ended m m')
    (hadmits : CombatManagers.Admits m m') (hended : ∀ c, ended = some c → m'.combats[c]? = none) :
    Watchful m' a := by
  refine ⟨talliedRule.managers h.tallied hlasts hadmits hended, fun c id p hid hc => ?_, h.sees⟩
  rcases hadmits.2 c p hc with hold | hnew
  · have hne : ended ≠ some c := by
      intro heq
      rw [hended c heq] at hc
      cases hc
    exact Int.le_trans (h.given c id p hid hold) (hlasts c p hold hne).2.idAlloctor
  · have hbefore := h.tallied.2.given c (h.tallied.2.autoes c id hid)
    omega

theorem Watchful.keyed (h : Watchful m a) (hx : a.autoes (combatId, autoId) = some x) :
    a.autoKey x = (combatId, autoId) := h.tallied.1.keyed combatId autoId x hx

/-! ## Autos that come and go -/

theorem dropAuto_autoes (hdrop : a.dropAuto k = some b) :
    b.autoes = Function.update a.autoes k none := by
  rw [dropAuto, Option.map_eq_some_iff] at hdrop
  obtain ⟨x, _, rfl⟩ := hdrop
  exact finalizeAuto_autoes { a with autoes := Function.update a.autoes k none } x

theorem Given.dropAuto (h : Given m a) (hdrop : a.dropAuto k = some b) : Given m b := by
  refine h.fewer fun key hkey => ?_
  rw [dropAuto_autoes hdrop] at hkey
  by_cases heq : key = k
  · rw [heq, Function.update_self] at hkey
    cases hkey
  · rwa [Function.update_of_ne heq] at hkey

theorem Watchful.dropAuto (h : Watchful m a) (hdrop : a.dropAuto k = some b) : Watchful m b :=
  ⟨h.tallied.dropAuto hdrop, h.given.dropAuto hdrop, h.sees.dropAuto h.tallied.1 hdrop⟩

theorem Watchful.settleAi (h : Watchful m a) (combatId : Int) :
    Watchful m (a.onEventCombatSettleAi m combatId) := by
  have hdrops : ∀ (l : List Int) (a : Apps), Watchful m a → Watchful m (a.dropAutos combatId l) := by
    intro l
    induction l with
    | nil => exact fun _ h => h
    | cons warriorId l ih =>
      intro a h
      rw [dropAutos]
      split
      · exact h
      · rename_i b hb
        exact ih b (h.dropAuto hb)
  rw [onEventCombatSettleAi]
  split
  · exact h
  · exact hdrops _ a h

theorem buildAction_autoes (h : (a.onEventCombatBuildAction m combatId warriorId).autoes k ≠
    a.autoes k) : k = (combatId, warriorId) := by
  by_contra hk
  refine h ?_
  rw [onEventCombatBuildAction]
  split
  · rfl
  · split
    · rfl
    · dsimp only
      split
      · exact congrFun (finalizeAuto_autoes _ _) k
      · exact Function.update_of_ne hk _ _

theorem Watchful.buildAction (h : Watchful m a) (hgoes : Goes m m') {p : Ptr}
    (hc : m.combats[combatId]? = some p) (hfresh : (m.combat p).idAlloctor < warriorId)
    (hgiven : warriorId ≤ (m'.combat p).idAlloctor) (houtside : Outside a b)
    (hraised : b.Raised combatId) :
    Watchful m' (b.onEventCombatBuildAction m' combatId warriorId) := by
  have hnone : b.autoes (combatId, warriorId) = none := by
    rw [houtside.autoes, ← Option.not_isSome_iff_eq_none]
    intro hsome
    have hold := h.given combatId warriorId p hsome hc
    omega
  have hb := (h.managers (hgoes.lasts none) hgoes.admits fun _ h => by cases h).outside houtside
  refine ⟨hb.tallied.buildAi hraised warriorId, fun c id p' hid hc' => ?_,
    hb.sees.buildAction hb.tallied.1 combatId warriorId hnone⟩
  by_cases hsame : (b.onEventCombatBuildAction m' combatId warriorId).autoes (c, id) =
      b.autoes (c, id)
  · rw [hsame] at hid
    exact hb.given c id p' hid hc'
  · obtain ⟨rfl, rfl⟩ := Prod.mk.inj (buildAction_autoes hsame)
    rw [hgoes.combats, hc] at hc'
    obtain rfl := Option.some.inj hc'
    exact hgiven

/-! ## Events and timers -/

theorem Watchful.aside_attacked (h : Watchful m a) (m' : CombatManagers) (combatId warriorId : Int)
    {host : CombatEntity} (hstatus : host.type = .warrior → ∀ x,
      a.autoes (combatId, host.id) = some x → (a.auto x).presentStatus ≠ some .search) :
    Aside a (a.onEventCombatAttacked m' combatId warriorId host) := by
  rw [onEventCombatAttacked]
  split
  · exact .refl a
  · rename_i hwarrior
    refine aside_dispatch h.sees.pending h.sees.idle (handled_onAttacked m' host.id warriorId) ?_
    intro b autoId x hb _ hx
    have hx : a.autoes (combatId, autoId) = some x := (congrFun hb.autoes _).symm.trans hx
    rw [onAttacked_other ((hb.autoKey x).trans (h.keyed hx))]
    · exact .refl b
    · rintro rfl
      rw [(hb.fields x).2.1]
      exact hstatus hwarrior x hx

theorem tallied_targetLost (h : Tallied m a) (combatId : Int) (entity : CombatEntity) :
    Tallied m (a.dispatch combatId entity.id (onTargetLost entity)) :=
  h.targeted (h.1.dispatch combatId entity.id fun _ _ _ hb hx => hb.onTargetLost hx entity)

theorem Watchful.targetLost (h : Watchful m a) (hunwanted : a.Unwanted combatId entity) :
    Watchful m (a.dispatch combatId entity.id (onTargetLost entity)) := by
  refine h.aside (tallied_targetLost h.tallied combatId entity) ?_
  refine aside_dispatch h.sees.pending h.sees.idle (handled_onTargetLost entity) ?_
  intro b autoId x hb _ hx
  rw [(hb.unwanted hunwanted).onTargetLost hx]
  exact .refl b

theorem Watchful.deathAi (h : Watchful m a) (hunwanted : a.Unwanted combatId entity) :
    Watchful m (a.onEventCombatDeathAi combatId entity) := by
  have hlost := h.targetLost hunwanted
  rw [onEventCombatDeathAi]
  split
  · exact hlost
  · cases hdrop : (a.dispatch combatId entity.id (onTargetLost entity)).dropAuto
      (combatId, entity.id) with
    | none => exact hlost
    | some b => exact hlost.dropAuto hdrop

theorem Watchful.convertCampAi (h : Watchful m a) (hunwanted : a.Unwanted combatId entity) :
    Watchful m (a.onEventCombatConvertCampAi combatId entity) := by
  have htallied := h.tallied.convertCampAi combatId entity
  have hlost := h.targetLost hunwanted
  rw [onEventCombatConvertCampAi] at htallied ⊢
  split
  · exact hlost
  · split
    · exact hlost
    · exact hlost.aside (by simpa [*] using htallied) (.same rfl rfl rfl)

/-- The autos are told of the step, or the AI stays as it is. -/
theorem moveStep_outcome (m : CombatManagers) (a : Apps) (w : Ptr) :
    a.moveStepEvent w = none ∧ Outside a (a.moveStep m w) ∨
    ∃ combatId warriorId b, a.moveStepEvent w = some (combatId, warriorId, b) ∧ Outside a b ∧
      a.moveStep m w = b.dispatch combatId warriorId (onMoveStep m warriorId) := by
  rw [moveStepEvent, moveStep]
  cases hscene : (a.warrior w).scene with
  | none => exact Or.inl ⟨rfl, outside_moveReset a w⟩
  | some sc =>
    dsimp only
    cases hgrid : (a.scene sc).getGrid (a.warriorPos w) with
    | none => exact Or.inl ⟨rfl, outside_moveReset a w⟩
    | some i =>
      dsimp only
      have hindex : Outside a (a.modifyWarrior w fun warrior =>
          { warrior with pathIndex := warrior.pathIndex + 1 }) := .same rfl rfl rfl rfl rfl rfl
      generalize (a.modifyWarrior w fun warrior =>
          { warrior with pathIndex := warrior.pathIndex + 1 }) = b at *
      cases hnext : (b.scene sc).getGrid (((a.warrior w).movePaths[(a.warrior
          w).pathIndex.toNat]?).getD ⟨0, 0⟩) with
      | none => exact Or.inl ⟨rfl, hindex.trans (outside_moveReset b w)⟩
      | some j =>
        refine Or.inr ⟨_, _, _, rfl, hindex.trans ?_, rfl⟩
        rw [stepTo]
        dsimp only
        split
        · refine Outside.trans ?_ (outside_moveReset _ w)
          exact .same rfl rfl rfl rfl rfl rfl
        · exact .same rfl rfl rfl rfl rfl rfl

theorem Watchful.moveStep (h : Watchful m a) (w : Ptr)
    (hunmoved : ∀ combatId warriorId b, a.moveStepEvent w = some (combatId, warriorId, b) →
      b.Unmoved m combatId warriorId) : Watchful m (a.moveStep m w) := by
  have htallied := h.tallied.moveStep m w
  rcases moveStep_outcome m a w with ⟨_, houtside⟩ | ⟨combatId, warriorId, b, hevent, houtside, hstep⟩
  · exact h.outside houtside
  · have hb := h.outside houtside
    rw [hstep] at htallied ⊢
    refine hb.aside htallied (aside_dispatch hb.sees.pending hb.sees.idle
      (handled_onMoveStep m warriorId) ?_)
    intro c autoId x hc hpos hx
    have hbx : b.autoes (combatId, autoId) = some x := (congrFun hc.autoes _).symm.trans hx
    exact (hc.unmoved hpos (hunmoved combatId warriorId b hevent).dispatching).onMoveStep hx
      ((hc.autoKey x).trans (hb.keyed hbx))

/-- A search that finds the target that the auto has, or the first one. -/
theorem Watchful.onTimerSearch (h : Watchful m a) (hstatus : (a.auto x).presentStatus = some .search)
    (hsought : ∀ entity, a.sought m x = some entity → entity.id ≠ 0 ∧
      ((a.auto x).target.id = 0 ∨ (a.auto x).target.id = entity.id)) :
    Watchful m (a.onTimerSearch m x) := by
  have htallied := h.tallied.onTimerSearch m hstatus
  obtain ⟨k, hk⟩ := h.tallied.1.listed (x := x) (by simp [hstatus])
  rw [Apps.onTimerSearch, searchTarget_sought] at htallied ⊢
  cases hfound : a.sought m x with
  | none => exact h
  | some entity =>
    obtain ⟨hid, hfree⟩ := hsought entity hfound
    have hautoes : ((a.setTarget x entity.type entity.id).gotoChase m x).autoes = a.autoes :=
      ((handled_setTarget a x _ _).trans (handled_gotoChase _ x)).autoes
    rw [hfound] at htallied
    refine ⟨htallied, h.given.fewer fun k => ?_, ?_⟩
    · exact fun hsome => by rwa [← hautoes]
    · exact (h.sees.setTarget hk entity.type hid hfree).gotoChase hk m

theorem Watchful.onTimerRefindPath (h : Watchful m a)
    (htallied : Tallied m (a.onTimerRefindPath m x)) (hstatus : (a.auto x).presentStatus ≠ none) :
    Watchful m (a.onTimerRefindPath m x) := by
  obtain ⟨k, hk⟩ := h.tallied.1.listed hstatus
  have haside : Aside a (a.modifyAuto x fun auto => { auto with
      timerIdRefindPath := -1, refindPath := false }) := aside_modifyAuto a x fun _ => rfl
  have hautoes : (a.onTimerRefindPath m x).autoes = a.autoes :=
    (handled_chase (a.modifyAuto x fun auto => { auto with
      timerIdRefindPath := -1, refindPath := false }) x).autoes
  refine ⟨htallied, h.given.fewer fun key => ?_, (h.sees.aside haside).chase hk m⟩
  rw [hautoes]
  exact id

end Apps

open Apps

theorem watchfulFrame : AiFrame Watchful True where
  outside := fun h houtside => h.outside houtside
  managers := fun h hlasts hadmits hended => h.managers hlasts hadmits hended
  memory := fun memory h =>
    h.aside (talliedRule.memory memory h.tallied) ⟨rfl, rfl, fun _ => rfl, fun _ => rfl⟩
  settle := fun combatId h => h.settleAi combatId
  begin := fun combatId _ h =>
    h.aside (talliedRule.begin combatId trivial h.tallied) (aside_beginAi _ _ combatId)
  build := fun h hgoes hc hfresh hgiven houtside hraised =>
    h.buildAction hgoes hc hfresh hgiven houtside hraised
  recovery := fun b _ h hchange =>
    h.aside (talliedRule.recovery b h.tallied hchange) (.same rfl rfl rfl)
  expired := fun h hexpire =>
    h.aside (talliedRule.expired h.tallied hexpire) (.same rfl rfl rfl)
  refindPath := fun {m a id x timers} h hexpire => by
    have hexpired : Watchful m { a with timers := timers } :=
      h.aside (talliedRule.expired h.tallied hexpire) (.same rfl rfl rfl)
    exact hexpired.onTimerRefindPath (talliedRule.refindPath h.tallied hexpire)
      (h.tallied.1.status_of_timer hexpire (Or.inr rfl))

namespace Server

variable {s : Server} {timerId : Int}

/-! ## Guarded steps -/

/-- There is no attack, or it is not of a warrior whose auto searches, and if it takes the last hp
then no auto chases or attacks the target. -/
def Unnoticed (s : Server) (combatId warriorId : Int) (target : CombatEntity) : Prop :=
  ∀ hp, s.struck combatId warriorId target = some hp →
    (target.type = .warrior → ∀ x, s.apps.autoes (combatId, target.id) = some x →
      (s.apps.auto x).presentStatus ≠ some .search) ∧
    (hp ≤ 0 → s.apps.Unwanted combatId target)

/-- No auto is told of anything that makes it change its status, and no search finds another
target than the one that is left. -/
def Undisturbed (s : Server) : Action → Prop
  | .attack combatId warriorId target => s.Unnoticed combatId warriorId target
  | .expire timerId =>
    (∀ combatId warriorId a, s.moveStepEvent timerId = some (combatId, warriorId, a) →
      a.Unmoved s.managers combatId warriorId) ∧
    (∀ x timers, s.apps.timers.expire timerId = some (.search x, timers) → s.bound (.search x) →
      ∀ entity, s.apps.sought s.managers x = some entity → entity.id ≠ 0 ∧
        ((s.apps.auto x).target.id = 0 ∨ (s.apps.auto x).target.id = entity.id)) ∧
    ∀ x timers, s.apps.timers.expire timerId = some (.attack x, timers) → s.bound (.attack x) →
      ∀ combat, s.apps.autoCombat s.managers x = some combat →
        s.Unnoticed combat.id (s.apps.autoKey x).2 (s.apps.auto x).target
  | _ => True

theorem Unnoticed.formulaAttack {combatId warriorId : Int} {target : CombatEntity}
    (h : s.Unnoticed combatId warriorId target) (hs : s.Keeps Watchful) :
    (s.onRequireFormulaAttack combatId warriorId target).Keeps Watchful := by
  refine watchfulFrame.formulaAttack hs combatId warriorId target (fun hp hhp m' hm' => ?_) ?_
  · exact hm'.aside (hm'.tallied.attacked m' combatId warriorId target)
      (hm'.aside_attacked m' combatId warriorId (h hp hhp).1)
  · rintro hp hhp hzero m' a rfl m hm
    have haside := hs.2.aside_attacked m' combatId warriorId (h hp hhp).1
    have hunwanted := haside.unwanted ((h hp hhp).2 hzero)
    exact ⟨hm.deathAi hunwanted, hm.convertCampAi hunwanted⟩

theorem Undisturbed.step {action : Action} (h : s.Undisturbed action) (hs : s.Keeps Watchful) :
    (s.step action).Keeps Watchful := by
  refine watchfulFrame.step hs (fun _ _ _ => trivial) ?_ ?_
  · rintro combatId warriorId target rfl
    exact Unnoticed.formulaAttack h hs
  · rintro timerId rfl
    obtain ⟨hmoves, hsearches, hattacks⟩ := h
    refine watchfulFrame.expire hs timerId (fun w timers hexpire hbound => ?_)
      (fun x timers hexpire hbound => ?_) fun x timers hexpire hbound => ?_
    · have hexpired := watchfulFrame.expired hs.2 hexpire
      refine hexpired.moveStep w fun combatId warriorId b hevent => ?_
      refine hmoves combatId warriorId b ?_
      rw [moveStepEvent, hexpire]
      dsimp only
      rw [if_pos hbound]
      exact hevent
    · have hexpired := watchfulFrame.expired hs.2 hexpire
      obtain ⟨old, hold, heq⟩ := Option.map_eq_some_iff.mp hexpire
      have hsearch := (hs.2.tallied.1.search timerId old x hold (Prod.mk.inj heq).1).2.1
      exact hexpired.onTimerSearch hsearch (hsearches x timers hexpire hbound)
    · have hexpired : Server.Keeps Watchful ⟨s.managers, { s.apps with timers := timers }⟩ :=
        ⟨hs.1, watchfulFrame.expired hs.2 hexpire⟩
      rw [call]
      split
      · exact hexpired
      · rename_i combat hcombat
        exact Unnoticed.formulaAttack (s := ⟨s.managers, { s.apps with timers := timers }⟩)
          (hattacks x timers hexpire hbound combat hcombat) hexpired

/-! ## Runs -/

end Server

end Mysya
