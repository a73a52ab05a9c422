import Mysya.AiApp
import Mysya.Attempts
import Mysya.EventObserver
import Mysya.FiberCounts

/-!
# Who attacks a building

`targeted_num_` of a building goes up when an auto starts to attack it and down when it stops.
Between the two an auto owes the number: it counts as attacking what it does not attack. Every
change of status passes through that, and at its end nothing is owed.
-/

open Std OwnedTimers FiberCounts Attempts

namespace Mysya

/-- The building that an auto attacks. -/
def Auto.aim (auto : Auto) : Option EntityKey :=
  auto.host.bind fun key =>
    if auto.presentStatus = some .attack ∧ auto.target.type = .building then
      some (key.1, auto.target.id)
    else none

theorem Auto.aim_none {auto : Auto} (h : auto.presentStatus ≠ some .attack) : auto.aim = none := by
  rw [aim]
  cases auto.host with
  | none => rfl
  | some key => exact if_neg fun hattack => h hattack.1

namespace Apps

variable {a a' a'' : Apps} {x y : Ptr} {k : EntityKey} {u v : Option EntityKey}
  {A B : EntityKey → Option Ptr} {R : EntityKey → Ptr → Prop} {st : Option AutoStatus}

def targetedNum (a : Apps) (b : Ptr) : Int := (a.buildingPool.read b).targetedNum

/-- What each auto attacks. -/
def aims (a : Apps) (x : Ptr) : Option EntityKey := (a.auto x).aim

/-- The ids of timers are positive, and the next one is free. -/
def TimersSound (a : Apps) : Prop :=
  0 ≤ a.timers.ids ∧ ∀ id timer, a.timers.armed id = some timer → 0 < id ∧ id ≤ a.timers.ids

/-- `A` and `B` are the registries, the autos of `R` are in use, and every building counts those
that `f` sends to it. -/
structure Targeted (a : Apps) (A B : EntityKey → Option Ptr) (R : EntityKey → Ptr → Prop)
    (f : Ptr → Option EntityKey) : Prop where
  autoes : a.autoes = A
  buildings : a.buildings = B
  autoPool : a.autoPool.Sound
  registered : ∀ k y, R k y → a.autoPool.Held y ∧ (a.auto y).host = some k
  idle : ∀ y, (∀ k, ¬ R k y) → (a.auto y).presentStatus = none
  small : Small fun y => (a.auto y).presentStatus
  buildingPool : a.buildingPool.Sound
  raised : ∀ k b, a.buildings k = some b →
    a.buildingPool.Held b ∧ (a.buildingPool.read b).host = some k
  counted : ∀ k b, a.buildings k = some b → a.targetedNum b = hits f k
  timers : a.TimersSound
  search : ∀ id timer y, a.timers.armed id = some timer → timer.callback = .search y →
    timer.callTimes = -1 ∧ (a.auto y).presentStatus = some .search ∧ (a.auto y).timerIdSearch = id
  refindPath : ∀ id timer y, a.timers.armed id = some timer → timer.callback = .refindPath y →
    timer.callTimes = 1 ∧ (a.auto y).presentStatus = some .chase ∧
      (a.auto y).timerIdRefindPath = id ∧ (a.auto y).refindPath = true

/-- No timer that changes a status calls the auto. -/
def Free (a : Apps) (x : Ptr) : Prop :=
  ∀ id timer, a.timers.armed id = some timer →
    timer.callback ≠ .search x ∧ timer.callback ≠ .refindPath x

/-- The same with `x`, the auto of `k`, at status `st`: it is free and counts as attacking `u`. -/
structure Owing (a : Apps) (A B : EntityKey → Option Ptr) (R : EntityKey → Ptr → Prop) (x : Ptr)
    (k : EntityKey) (st : Option AutoStatus) (u : Option EntityKey) : Prop
    extends a.Targeted A B R (Function.update a.aims x u) where
  member : R k x
  status : (a.auto x).presentStatus = st
  free : a.Free x

theorem Targeted.owing (h : a.Targeted A B R a.aims) (hx : R k x) (hfree : a.Free x) :
    a.Owing A B R x k (a.auto x).presentStatus (a.aims x) :=
  ⟨by rwa [Function.update_eq_self], hx, rfl, hfree⟩

/-- Nothing is owed. -/
theorem Owing.targeted (h : a.Owing A B R x k st (a.aims x)) : a.Targeted A B R a.aims := by
  have htargeted := h.toTargeted
  rwa [Function.update_eq_self] at htargeted

theorem Targeted.live (h : a.Targeted A B R a'.aims) (hx : R k x) : (a.autoPool.objects x).isSome :=
  (h.registered k x hx).1.1

/-! ## What happens beside the autos and the buildings -/

structure Beside (a a' : Apps) : Prop where
  autoPool : a'.autoPool = a.autoPool
  autoes : a'.autoes = a.autoes
  buildings : a'.buildings = a.buildings
  buildingPool : a'.buildingPool = a.buildingPool
  timers : a.TimersSound → a'.TimersSound
  calls : ∀ id timer, a'.timers.armed id = some timer → a.timers.armed id = some timer ∨
    ∀ y, timer.callback ≠ .search y ∧ timer.callback ≠ .refindPath y

theorem Beside.refl (a : Apps) : Beside a a := ⟨rfl, rfl, rfl, rfl, id, fun _ _ => Or.inl⟩

theorem Beside.trans (h : Beside a a') (h' : Beside a' a'') : Beside a a'' where
  autoPool := h'.autoPool.trans h.autoPool
  autoes := h'.autoes.trans h.autoes
  buildings := h'.buildings.trans h.buildings
  buildingPool := h'.buildingPool.trans h.buildingPool
  timers := fun ht => h'.timers (h.timers ht)
  calls := fun id timer harmed => by
    rcases h'.calls id timer harmed with hold | hother
    · exact h.calls id timer hold
    · exact Or.inr hother

/-- A change of what is neither of the AI nor a timer. -/
theorem Beside.same (hautoPool : a'.autoPool = a.autoPool) (hautoes : a'.autoes = a.autoes)
    (hbuildings : a'.buildings = a.buildings) (hpool : a'.buildingPool = a.buildingPool)
    (htimers : a'.timers = a.timers) : Beside a a' where
  autoPool := hautoPool
  autoes := hautoes
  buildings := hbuildings
  buildingPool := hpool
  timers := fun h => by rwa [TimersSound, htimers]
  calls := fun id timer harmed => Or.inl (htimers ▸ harmed)

theorem beside_stopTimer (a : Apps) (id : Int) : Beside a (a.stopTimer id) where
  autoPool := rfl
  autoes := rfl
  buildings := rfl
  buildingPool := rfl
  timers := fun h => by
    refine ⟨h.1, fun id' timer harmed => h.2 id' timer ?_⟩
    have harmed : Function.update a.timers.armed id none id' = some timer := harmed
    by_cases heq : id' = id
    · rw [heq, Function.update_self] at harmed
      cases harmed
    · rwa [Function.update_of_ne heq] at harmed
  calls := fun id' timer harmed => by
    have harmed : Function.update a.timers.armed id none id' = some timer := harmed
    by_cases heq : id' = id
    · rw [heq, Function.update_self] at harmed
      cases harmed
    · rw [Function.update_of_ne heq] at harmed
      exact Or.inl harmed

theorem timersSound_start (h : a.TimersSound) (expireMs : Int) (callback : TimerCallback)
    (callTimes : Int) : (a.startTimer expireMs callback callTimes).2.TimersSound := by
  obtain ⟨hids, hbounds⟩ := h
  refine ⟨Int.le_add_one hids, fun id timer harmed => ?_⟩
  have harmed : Function.update a.timers.armed (a.timers.ids + 1) (some ⟨callback, expireMs,
    callTimes⟩) id = some timer := harmed
  show 0 < id ∧ id ≤ a.timers.ids + 1
  by_cases heq : id = a.timers.ids + 1
  · omega
  · rw [Function.update_of_ne heq] at harmed
    have hbound := hbounds id timer harmed
    omega

theorem beside_startTimer (a : Apps) (expireMs : Int) (callback : TimerCallback) (callTimes : Int)
    (hcallback : ∀ y, callback ≠ .search y ∧ callback ≠ .refindPath y) :
    Beside a (a.startTimer expireMs callback callTimes).2 where
  autoPool := rfl
  autoes := rfl
  buildings := rfl
  buildingPool := rfl
  timers := fun h => timersSound_start h expireMs callback callTimes
  calls := fun id timer harmed => by
    have harmed : Function.update a.timers.armed (a.timers.ids + 1) (some ⟨callback, expireMs,
      callTimes⟩) id = some timer := harmed
    by_cases heq : id = a.timers.ids + 1
    · rw [heq, Function.update_self] at harmed
      obtain rfl := Option.some.inj harmed
      exact Or.inr hcallback
    · rw [Function.update_of_ne heq] at harmed
      exact Or.inl harmed

theorem Beside.auto (h : Beside a a') (y : Ptr) : a'.auto y = a.auto y :=
  congrArg (fun pool => PoolTemplate.read pool y) h.autoPool

theorem Beside.aims (h : Beside a a') : a'.aims = a.aims :=
  funext fun y => congrArg Auto.aim (h.auto y)

/-- A timer that changes a status was armed before. -/
theorem Beside.armed (h : Beside a a') {id : Int} {timer : Timer TimerCallback}
    (harmed : a'.timers.armed id = some timer)
    (hcallback : timer.callback = .search y ∨ timer.callback = .refindPath y) :
    a.timers.armed id = some timer := by
  rcases h.calls id timer harmed with hold | hother
  · exact hold
  · rcases hcallback with hsearch | hrefind
    · exact absurd hsearch (hother y).1
    · exact absurd hrefind (hother y).2

theorem Beside.targeted {f : Ptr → Option EntityKey} (h : Beside a a') (ht : a.Targeted A B R f) :
    a'.Targeted A B R f := by
  have hnum : ∀ b, a'.targetedNum b = a.targetedNum b :=
    fun b => congrArg (fun pool => (PoolTemplate.read pool b).targetedNum) h.buildingPool
  constructor
  · rw [h.autoes, ht.autoes]
  · rw [h.buildings, ht.buildings]
  · rw [h.autoPool]
    exact ht.autoPool
  · intro k y hy
    rw [h.autoPool, h.auto]
    exact ht.registered k y hy
  · intro y hy
    rw [h.auto]
    exact ht.idle y hy
  · have hsmall := ht.small
    simp only [← h.auto] at hsmall
    exact hsmall
  · rw [h.buildingPool]
    exact ht.buildingPool
  · intro k b hb
    rw [h.buildings] at hb
    rw [h.buildingPool]
    exact ht.raised k b hb
  · intro k b hb
    rw [h.buildings] at hb
    rw [hnum]
    exact ht.counted k b hb
  · exact h.timers ht.timers
  · intro id timer y harmed hcallback
    rw [h.auto]
    exact ht.search id timer y (h.armed harmed (Or.inl hcallback)) hcallback
  · intro id timer y harmed hcallback
    rw [h.auto]
    exact ht.refindPath id timer y (h.armed harmed (Or.inr hcallback)) hcallback

theorem Beside.free (h : Beside a a') (hfree : a.Free x) : a'.Free x := by
  intro id timer harmed
  constructor
  · intro hcallback
    exact (hfree id timer (h.armed harmed (Or.inl hcallback))).1 hcallback
  · intro hcallback
    exact (hfree id timer (h.armed harmed (Or.inr hcallback))).2 hcallback

theorem Beside.owing (h : Beside a a') (ho : a.Owing A B R x k st u) : a'.Owing A B R x k st u := by
  refine ⟨?_, ho.member, ?_, h.free ho.free⟩
  · rw [h.aims]
    exact h.targeted ho.toTargeted
  · rw [h.auto]
    exact ho.status

/-! ## Changes of one auto -/

theorem modifyAuto_self (hlive : (a.autoPool.objects x).isSome) (change : Auto → Auto) :
    (a.modifyAuto x change).auto x = change (a.auto x) :=
  PoolTemplate.read_modify hlive change

theorem modifyAuto_other (a : Apps) (hy : y ≠ x) (change : Auto → Auto) :
    (a.modifyAuto x change).auto y = a.auto y :=
  PoolTemplate.read_modify_other _ hy change

theorem Owing.live (h : a.Owing A B R x k st u) : (a.autoPool.objects x).isSome :=
  (h.registered k x h.member).1.1

theorem Owing.host (h : a.Owing A B R x k st u) : (a.auto x).host = some k :=
  (h.registered k x h.member).2

/-- The auto that owes may change but for its host. -/
theorem Owing.modifyAuto (h : a.Owing A B R x k st u) {change : Auto → Auto}
    (hhost : (change (a.auto x)).host = (a.auto x).host)
    {st' : Option AutoStatus} (hstatus : (change (a.auto x)).presentStatus = st') :
    (a.modifyAuto x change).Owing A B R x k st' u := by
  have hself := modifyAuto_self h.live change
  have hother := fun {y : Ptr} (hy : y ≠ x) => modifyAuto_other a hy change
  have haims : Function.update (a.modifyAuto x change).aims x u = Function.update a.aims x u := by
    funext y
    by_cases hy : y = x
    · rw [hy, Function.update_self, Function.update_self]
    · rw [Function.update_of_ne hy, Function.update_of_ne hy]
      exact congrArg Auto.aim (hother hy)
  have hcalls : ∀ {id timer y}, a.timers.armed id = some timer →
      timer.callback = .search y ∨ timer.callback = .refindPath y → y ≠ x := by
    rintro id timer y harmed (hsearch | hrefind) rfl
    · exact (h.free id timer harmed).1 hsearch
    · exact (h.free id timer harmed).2 hrefind
  refine ⟨?_, h.member, by rw [hself, hstatus], h.free⟩
  constructor
  · exact h.autoes
  · exact h.buildings
  · exact h.autoPool.modify x change
  · intro k' y hy
    refine ⟨(PoolTemplate.held_modify change).mpr (h.registered k' y hy).1, ?_⟩
    by_cases heq : y = x
    · subst heq
      rw [hself, hhost]
      exact (h.registered k' y hy).2
    · rw [hother heq]
      exact (h.registered k' y hy).2
  · intro y hy
    have heq : y ≠ x := by
      rintro rfl
      exact hy k h.member
    rw [hother heq]
    exact h.idle y hy
  · refine (h.small.update x st').congr fun y => ?_
    by_cases heq : y = x
    · rw [heq, Function.update_self, hself, hstatus]
    · rw [Function.update_of_ne heq, hother heq]
  · exact h.buildingPool
  · exact h.raised
  · rw [haims]
    exact h.counted
  · exact h.timers
  · intro id timer y harmed hcallback
    rw [hother (hcalls harmed (Or.inl hcallback))]
    exact h.search id timer y harmed hcallback
  · intro id timer y harmed hcallback
    rw [hother (hcalls harmed (Or.inr hcallback))]
    exact h.refindPath id timer y harmed hcallback

/-! ## The number of a building -/

theorem Auto.status_of_aim {auto : Auto} (h : auto.aim.isSome) : auto.presentStatus.isSome := by
  by_contra hnone
  rw [Auto.aim_none] at h
  · cases h
  · rintro hattack
    rw [hattack] at hnone
    exact hnone rfl

theorem Targeted.small_aims {f : Ptr → Option EntityKey} (h : a.Targeted A B R f) : Small a.aims :=
  h.small.subset fun _ hy => Auto.status_of_aim hy

/-- Other numbers of the buildings, for other aims. -/
theorem Targeted.recount {f g : Ptr → Option EntityKey} (h : a.Targeted A B R f)
    {pool : PoolTemplate AiBuilding} (hsound : pool.Sound)
    (hbuildings : ∀ k b, a.buildings k = some b → pool.Held b ∧ (pool.read b).host = some k ∧
      (pool.read b).targetedNum = hits g k) : ({ a with buildingPool := pool }).Targeted A B R g where
  autoes := h.autoes
  buildings := h.buildings
  autoPool := h.autoPool
  registered := h.registered
  idle := h.idle
  small := h.small
  buildingPool := hsound
  raised := fun k b hb => ⟨(hbuildings k b hb).1, (hbuildings k b hb).2.1⟩
  counted := fun k b hb => (hbuildings k b hb).2.2
  timers := h.timers
  search := h.search
  refindPath := h.refindPath

/-- The building that the auto counts for, if it attacks. -/
def targetKey (a : Apps) (x : Ptr) : Option EntityKey :=
  if (a.auto x).target.type = .building then some ((a.autoKey x).1, (a.auto x).target.id) else none

theorem Owing.aims_attack (h : a.Owing A B R x k (some .attack) u) : a.aims x = a.targetKey x := by
  simp only [aims, Auto.aim, targetKey, autoKey, h.host, h.status, true_and, Option.bind_some,
    Option.getD_some]

/-- The number changes as what the auto owes does. -/
theorem Owing.changeTargetedNum (h : a.Owing A B R x k st u) {i : Int}
    (hchange : ∀ k', (if v = some k' then 1 else 0) - (if u = some k' then 1 else 0) =
      if a.targetKey x = some k' then i else 0) :
    (a.changeTargetedNum x i).Owing A B R x k st v := by
  have hsame : (∀ k' b, a.buildings k' = some b → a.targetKey x ≠ some k') →
      a.Owing A B R x k st v := by
    intro hout
    refine ⟨h.toTargeted.recount h.buildingPool fun k' b hb => ?_, h.member, h.status, h.free⟩
    obtain ⟨hheld, hhost⟩ := h.raised k' b hb
    refine ⟨hheld, hhost, ?_⟩
    have hcounted : (a.buildingPool.read b).targetedNum = _ := h.counted k' b hb
    rw [hcounted, h.small_aims.hits_change x u v, hchange, if_neg (hout k' b hb), Int.add_zero]
  rw [Apps.changeTargetedNum]
  split
  · rename_i htype
    refine hsame fun k' b _ => ?_
    simp [targetKey, htype]
  · rename_i htype
    have hkey : a.targetKey x = some ((a.autoKey x).1, (a.auto x).target.id) := by
      simp [targetKey, htype]
    split
    · rename_i hnone
      refine hsame fun k' b hb hk' => ?_
      rw [hkey] at hk'
      rw [← Option.some.inj hk', hnone] at hb
      cases hb
    · rename_i b hb
      refine ⟨h.toTargeted.recount (h.buildingPool.modify b _) fun k' b' hb' => ?_, h.member,
        h.status, h.free⟩
      obtain ⟨hheld, hhost⟩ := h.raised k' b' hb'
      have hcounted : (a.buildingPool.read b').targetedNum = _ := h.counted k' b' hb'
      have hnew := h.small_aims.hits_change x u v k'
      rw [hchange] at hnew
      refine ⟨(PoolTemplate.held_modify _).mpr hheld, ?_⟩
      show _ ∧ _ = hits (Function.update a.aims x v) k'
      by_cases heq : b' = b
      · subst heq
        have hk' : a.targetKey x = some k' := by
          rw [hkey, ← hhost, (h.raised _ b' hb).2]
        rw [if_pos hk'] at hnew
        rw [PoolTemplate.read_modify hheld.1]
        exact ⟨hhost, by rw [hnew, ← hcounted]⟩
      · have hk' : a.targetKey x ≠ some k' := by
          rw [hkey]
          intro hk'
          rw [Option.some.inj hk', hb'] at hb
          exact heq (Option.some.inj hb)
        rw [if_neg hk', Int.add_zero] at hnew
        rw [PoolTemplate.read_modify_other _ heq]
        exact ⟨hhost, by rw [hnew, ← hcounted]⟩

/-! ## Leaving a status -/

theorem beside_observerAdd (a : Apps) (combatId entityId autoId : Int) :
    Beside a (a.observerAdd combatId entityId autoId) := .same rfl rfl rfl rfl rfl

theorem beside_observerRemove (a : Apps) (combatId entityId autoId : Int) :
    Beside a (a.observerRemove combatId entityId autoId) := by
  rw [observerRemove]
  split
  · exact .same rfl rfl rfl rfl rfl
  · exact .same rfl rfl rfl rfl rfl

theorem Owing.resetTarget (h : a.Owing A B R x k st u) : (a.resetTarget x).Owing A B R x k st u := by
  rw [Apps.resetTarget]
  split
  · exact h
  · exact ((beside_observerRemove a _ _ _).owing h).modifyAuto rfl
      ((beside_observerRemove a _ _ _).owing h).status

theorem Owing.resetAttackTimer (h : a.Owing A B R x k st u) :
    (a.resetAttackTimer x).Owing A B R x k st u := by
  rw [Apps.resetAttackTimer]
  split
  · exact h
  · exact ((beside_stopTimer a _).owing h).modifyAuto rfl ((beside_stopTimer a _).owing h).status

theorem Owing.stopAttack (h : a.Owing A B R x k (some .attack) (a.aims x)) :
    (a.stopAttack x).Owing A B R x k (some .attack) none := by
  have hleft : (a.changeTargetedNum x (-1)).Owing A B R x k (some .attack) none := by
    refine h.changeTargetedNum fun k' => ?_
    rw [h.aims_attack, if_neg (by simp)]
    split
    · rfl
    · rfl
  exact hleft.resetAttackTimer.resetTarget

theorem aims_none (h : (a.auto x).presentStatus ≠ some .attack) : a.aims x = none :=
  Auto.aim_none h

/-- A timer whose id is known is stopped. -/
theorem armed_stopTimer {id id' : Int} {timer : Timer TimerCallback}
    (h : (a.stopTimer id).timers.armed id' = some timer) :
    id' ≠ id ∧ a.timers.armed id' = some timer := by
  have h : Function.update a.timers.armed id none id' = some timer := h
  by_cases heq : id' = id
  · rw [heq, Function.update_self] at h
    cases h
  · rw [Function.update_of_ne heq] at h
    exact ⟨heq, h⟩

theorem Targeted.stopSearch (h : a.Targeted A B R a.aims) (hx : R k x)
    (hstatus : (a.auto x).presentStatus = some .search) :
    (a.stopSearch x).Owing A B R x k (some .search) none := by
  have haims : a.aims x = none := aims_none (by simp [hstatus])
  have hrefind : ∀ id timer, a.timers.armed id = some timer → timer.callback ≠ .refindPath x := by
    intro id timer harmed hcallback
    have hchase := (h.refindPath id timer x harmed hcallback).2.1
    rw [hstatus] at hchase
    cases hchase
  rw [Apps.stopSearch]
  split
  · rename_i hnone
    have hfree : a.Free x := by
      refine fun id timer harmed => ⟨fun hcallback => ?_, hrefind id timer harmed⟩
      have hid := (h.search id timer x harmed hcallback).2.2
      have hpos := (h.timers.2 id timer harmed).1
      omega
    have howing := h.owing hx hfree
    rwa [hstatus, haims] at howing
  · have hbeside := beside_stopTimer a (a.auto x).timerIdSearch
    have hfree : (a.stopTimer (a.auto x).timerIdSearch).Free x := by
      intro id timer harmed
      obtain ⟨hne, hold⟩ := armed_stopTimer harmed
      exact ⟨fun hcallback => hne (h.search id timer x hold hcallback).2.2.symm,
        hrefind id timer hold⟩
    have hstopped : (a.stopTimer (a.auto x).timerIdSearch).Targeted A B R
        (a.stopTimer (a.auto x).timerIdSearch).aims := by
      rw [hbeside.aims]
      exact hbeside.targeted h
    have howing := hstopped.owing hx hfree
    rw [hbeside.aims, haims] at howing
    exact howing.modifyAuto rfl hstatus

theorem Targeted.stopChase (h : a.Targeted A B R a.aims) (hx : R k x)
    (hstatus : (a.auto x).presentStatus = some .chase) :
    (a.stopChase x).Owing A B R x k (some .chase) none := by
  have haims : a.aims x = none := aims_none (by simp [hstatus])
  have hsearch : ∀ id timer, a.timers.armed id = some timer → timer.callback ≠ .search x := by
    intro id timer harmed hcallback
    have hsearch := (h.search id timer x harmed hcallback).2.1
    rw [hstatus] at hsearch
    cases hsearch
  rw [Apps.stopChase]
  split
  · rename_i hnone
    have hfree : a.Free x := by
      refine fun id timer harmed => ⟨hsearch id timer harmed, fun hcallback => ?_⟩
      have hid := (h.refindPath id timer x harmed hcallback).2.2.1
      have hpos := (h.timers.2 id timer harmed).1
      omega
    have howing := h.owing hx hfree
    rwa [hstatus, haims] at howing
  · have hbeside := beside_stopTimer a (a.auto x).timerIdRefindPath
    have hfree : (a.stopTimer (a.auto x).timerIdRefindPath).Free x := by
      intro id timer harmed
      obtain ⟨hne, hold⟩ := armed_stopTimer harmed
      exact ⟨hsearch id timer hold,
        fun hcallback => hne (h.refindPath id timer x hold hcallback).2.2.1.symm⟩
    have hstopped : (a.stopTimer (a.auto x).timerIdRefindPath).Targeted A B R
        (a.stopTimer (a.auto x).timerIdRefindPath).aims := by
      rw [hbeside.aims]
      exact hbeside.targeted h
    have howing := hstopped.owing hx hfree
    rw [hbeside.aims, haims] at howing
    exact howing.modifyAuto rfl hstatus

/-- An auto of another status is called by no timer of a status. -/
theorem Targeted.free (h : a.Targeted A B R a.aims)
    (hsearch : (a.auto x).presentStatus ≠ some .search)
    (hchase : (a.auto x).presentStatus ≠ some .chase) : a.Free x :=
  fun id timer harmed => ⟨fun hcallback => hsearch (h.search id timer x harmed hcallback).2.1,
    fun hcallback => hchase (h.refindPath id timer x harmed hcallback).2.1⟩

theorem Targeted.stopPresentStatus (h : a.Targeted A B R a.aims) (hx : R k x) :
    (a.stopPresentStatus x).Owing A B R x k (a.auto x).presentStatus none := by
  rw [Apps.stopPresentStatus]
  split
  · rename_i hstatus
    have howing := h.owing hx (h.free (by simp [hstatus]) (by simp [hstatus]))
    rwa [aims_none (by simp [hstatus])] at howing
  · rename_i status hstatus
    refine (beside_observerRemove _ _ _ _).owing ?_
    rw [hstatus]
    cases status with
    | search => exact h.stopSearch hx hstatus
    | chase => exact h.stopChase hx hstatus
    | attack =>
      have howing := h.owing hx (h.free (by simp [hstatus]) (by simp [hstatus]))
      rw [hstatus] at howing
      exact howing.stopAttack

theorem Targeted.switchStatus (h : a.Targeted A B R a.aims) (hx : R k x) (status : AutoStatus) :
    (a.switchStatus x status).Owing A B R x k (some status) none :=
  (beside_observerAdd _ _ _ _).owing ((h.stopPresentStatus hx).modifyAuto rfl rfl)

/-! ## The scenes -/

/-- And the event observer is as it was. -/
structure Outside (a a' : Apps) : Prop extends Beside a a' where
  observer : a'.observer = a.observer

theorem Outside.observers (h : Outside a a') : a'.observers = a.observers :=
  congrArg EventObserver.observers h.observer

theorem Outside.refl (a : Apps) : Outside a a := ⟨.refl a, rfl⟩

theorem Outside.trans (h : Outside a a') (h' : Outside a' a'') : Outside a a'' :=
  ⟨h.toBeside.trans h'.toBeside, h'.observer.trans h.observer⟩

theorem Outside.same (hautoPool : a'.autoPool = a.autoPool) (hautoes : a'.autoes = a.autoes)
    (hbuildings : a'.buildings = a.buildings) (hpool : a'.buildingPool = a.buildingPool)
    (htimers : a'.timers = a.timers) (hobserver : a'.observer = a.observer) : Outside a a' :=
  ⟨.same hautoPool hautoes hbuildings hpool htimers, hobserver⟩

theorem outside_stopTimer (a : Apps) (id : Int) : Outside a (a.stopTimer id) :=
  ⟨beside_stopTimer a id, rfl⟩

theorem outside_startTimer (a : Apps) (expireMs : Int) (callback : TimerCallback) (callTimes : Int)
    (hcallback : ∀ y, callback ≠ .search y ∧ callback ≠ .refindPath y) :
    Outside a (a.startTimer expireMs callback callTimes).2 :=
  ⟨beside_startTimer a expireMs callback callTimes hcallback, rfl⟩

theorem outside_foldl {α : Type} {f : Apps → α → Apps} (hf : ∀ a e, Outside a (f a e)) (l : List α)
    (a : Apps) : Outside a (l.foldl f a) :=
  foldl_chain .refl .trans hf l a

theorem outside_moveReset (a : Apps) (w : Ptr) : Outside a (a.moveReset w) := by
  rw [moveReset]
  split
  · exact .same rfl rfl rfl rfl rfl rfl
  · exact (outside_stopTimer a _).trans (.same rfl rfl rfl rfl rfl rfl)

theorem outside_moveStart (a : Apps) (w : Ptr) (destPos : Position) :
    Outside a (a.moveStart w destPos) := by
  have hstart : ∀ {b : Apps}, Outside a b → ∀ (ms : Int) (paths : List Position),
      Outside a (if paths.isEmpty then b
        else
          (b.startTimer ms (.move w) (-1)).2.modifyWarrior w fun warrior =>
            { warrior with timerMoveToken := (b.startTimer ms (.move w) (-1)).1 }) := by
    intro b hb ms paths
    split
    · exact hb
    · exact (hb.trans (outside_startTimer b ms (.move w) (-1) fun _ => by simp)).trans
        (.same rfl rfl rfl rfl rfl rfl)
  have hreset : Outside a (if (a.warrior w).movePaths.isEmpty then a else a.moveFinish w) := by
    split
    · exact .refl a
    · exact outside_moveReset a w
  rw [moveStart]
  split
  · exact .refl a
  · split
    · exact .refl a
    · split
      · exact .refl a
      · dsimp only
        split
        · exact hreset
        · refine hstart ?_ _ _
          exact hreset.trans (.same rfl rfl rfl rfl rfl rfl)

theorem outside_finalizeWarrior (a : Apps) (w : Ptr) : Outside a (a.finalizeWarrior w) :=
  (outside_moveReset a w).trans (.same rfl rfl rfl rfl rfl rfl)

theorem outside_deallocateWarrior (a : Apps) (w : Ptr) : Outside a (a.deallocateWarrior w) :=
  (outside_moveReset a w).trans (.same rfl rfl rfl rfl rfl rfl)

theorem outside_abandonScene (a : Apps) (sc : Ptr) : Outside a (a.abandonScene sc) := by
  have hstop : Outside a (if (a.scene sc).timerIdPrintStatusImage = -1 then a
      else a.stopTimer (a.scene sc).timerIdPrintStatusImage) := by
    split
    · exact .refl a
    · exact outside_stopTimer a _
  have hbuildings := outside_foldl
    (f := fun (a : Apps) (entry : Int × Ptr) => a.deallocateBuilding entry.2)
    (fun a _ => .same rfl rfl rfl rfl rfl rfl)
  have hwarriors := outside_foldl
    (f := fun (a : Apps) (entry : Int × Ptr) => a.deallocateWarrior entry.2)
    fun a entry => outside_deallocateWarrior a entry.2
  exact ((hstop.trans (hbuildings _ _)).trans (hwarriors _ _)).trans (.same rfl rfl rfl rfl rfl rfl)

theorem outside_initializeScene (a : Apps) (sc : Ptr) (combatId : Int) :
    Outside a (a.initializeScene sc combatId) :=
  (outside_startTimer a 1000 (.printStatusImage sc) (-1) fun _ => by simp).trans
    (.same rfl rfl rfl rfl rfl rfl)

theorem outside_placeBuilding (m : CombatManagers) (combatId : Int) (sc : Ptr) (a : Apps)
    (entry : Int × CombatBuildingField) :
    Ends (Outside a) (Outside a) (placeBuilding m combatId sc a entry) := by
  rw [placeBuilding]
  split
  · refine Outside.trans ?_ (outside_abandonScene _ sc)
    exact .same rfl rfl rfl rfl rfl rfl
  · dsimp only
    split
    · refine Outside.trans ?_ (outside_abandonScene _ sc)
      exact .same rfl rfl rfl rfl rfl rfl
    · exact .same rfl rfl rfl rfl rfl rfl

theorem outside_raiseScene (m : CombatManagers) (combat : CombatField) (sc : Ptr) (a : Apps) :
    Outside a (a.raiseScene m combat sc) := by
  have hends : Ends (Outside a) (Outside a)
      (combat.buildings.toList.foldlM (placeBuilding m combat.id sc)
        (a.initializeScene sc combat.id)) := by
    refine ends_foldlM (I := fun _ => Outside a) ?_ _ (outside_initializeScene a sc combat.id)
    intro entry rest b hb
    exact (outside_placeBuilding m combat.id sc b entry).mono (fun _ => hb.trans) fun _ => hb.trans
  rw [raiseScene]
  split
  · rename_i b hb
    exact hends.error hb
  · rename_i b hb
    have hb := hends.ok hb
    split
    · exact hb.trans (outside_abandonScene b sc)
    · exact hb.trans (.same rfl rfl rfl rfl rfl rfl)

theorem outside_allocateScene {mapId : Int} {answer : Option Ptr}
    (h : a.allocateScene mapId = some (answer, a')) : Outside a a' := by
  rw [allocateScene] at h
  split at h
  · obtain ⟨_, ⟨⟩⟩ := Option.ite_none_left_eq_some.mp h
    exact .same rfl rfl rfl rfl rfl rfl
  · cases h
    exact .same rfl rfl rfl rfl rfl rfl

theorem outside_beginScene {m : CombatManagers} {combatId : Int}
    (h : a.onEventCombatBeginScene m combatId = some a') : Outside a a' := by
  rw [onEventCombatBeginScene] at h
  split at h
  · cases h
    exact .refl a
  · split at h
    · cases h
    · rename_i hb
      cases h
      exact outside_allocateScene hb
    · rename_i sc b hb
      cases h
      exact (outside_allocateScene hb).trans (outside_raiseScene m _ sc b)

theorem outside_deathScene (a : Apps) (combatId : Int) (target : CombatEntity) :
    Outside a (a.onEventCombatDeathScene combatId target) := by
  rw [onEventCombatDeathScene]
  split
  · exact .refl a
  · split
    · exact .refl a
    · split
      · exact .refl a
      · refine Outside.trans ?_ (outside_deallocateWarrior _ _)
        refine Outside.trans ?_ (outside_finalizeWarrior _ _)
        exact .same rfl rfl rfl rfl rfl rfl

theorem outside_lockTarget (a : Apps) (combatId warriorId : Int) :
    Outside a (a.onEventCombatLockTarget combatId warriorId) := by
  rw [onEventCombatLockTarget]
  split
  · exact .refl a
  · split
    · exact .refl a
    · exact outside_moveReset a _

theorem outside_settleScene (a : Apps) (combatId : Int) :
    Outside a (a.onEventCombatSettleScene combatId) := by
  rw [onEventCombatSettleScene]
  split
  · exact .refl a
  · refine Outside.trans ?_ (outside_abandonScene _ _)
    exact .same rfl rfl rfl rfl rfl rfl

theorem outside_sceneBuild (m : CombatManagers) (a : Apps) (combatId buildingId warriorId : Int) :
    Outside a (a.onRequireSceneBuild m combatId buildingId warriorId).2 := by
  have hplace : ∀ {b : Apps}, Outside a b → ∀ (sc building w : Ptr) (key : EntityKey) (speed : Int),
      Outside a (b.placeWarrior m sc building w key speed).2 := by
    intro b hb sc building w key speed
    have hset : Outside a (b.initializeWarrior w key sc speed) :=
      hb.trans (.same rfl rfl rfl rfl rfl rfl)
    rw [placeWarrior]
    dsimp only
    split
    · exact hset.trans (outside_deallocateWarrior _ w)
    · split
      · refine Outside.trans ?_ (outside_deallocateWarrior _ w)
        refine Outside.trans ?_ (outside_finalizeWarrior _ w)
        exact hset.trans (.same rfl rfl rfl rfl rfl rfl)
      · exact hset.trans (.same rfl rfl rfl rfl rfl rfl)
  rw [onRequireSceneBuild]
  split
  · exact .refl a
  · split
    · exact .refl a
    · split
      · split
        · exact .same rfl rfl rfl rfl rfl rfl
        · refine hplace ?_ _ _ _ _ _
          exact .same rfl rfl rfl rfl rfl rfl
      · exact .refl a

theorem outside_sceneMove (a : Apps) (combatId warriorId : Int) (destPos : Position) :
    Outside a (a.onRequireSceneMove combatId warriorId destPos).2 := by
  rw [onRequireSceneMove]
  split
  · exact .refl a
  · split
    · exact .refl a
    · split
      · exact .refl a
      · exact outside_moveStart a _ destPos

/-! ## Entering a status -/

/-- The auto waits for a timer that belongs to its status. -/
theorem Owing.startTimer (h : a.Owing A B R x k st (a.aims x)) (expireMs : Int)
    {callback : TimerCallback} {callTimes : Int}
    (hcallback : callback = .search x ∧ callTimes = -1 ∧
        (a.auto x).presentStatus = some .search ∧ (a.auto x).timerIdSearch = a.timers.ids + 1 ∨
      callback = .refindPath x ∧ callTimes = 1 ∧ (a.auto x).presentStatus = some .chase ∧
        (a.auto x).timerIdRefindPath = a.timers.ids + 1 ∧ (a.auto x).refindPath = true) :
    (a.startTimer expireMs callback callTimes).2.Targeted A B R a.aims := by
  have ht := h.targeted
  have harmed : ∀ {id : Int} {timer : Timer TimerCallback},
      (a.startTimer expireMs callback callTimes).2.timers.armed id = some timer →
      id = a.timers.ids + 1 ∧ timer = ⟨callback, expireMs, callTimes⟩ ∨
        a.timers.armed id = some timer := by
    intro id timer harmed
    have harmed : Function.update a.timers.armed (a.timers.ids + 1) (some ⟨callback, expireMs,
      callTimes⟩) id = some timer := harmed
    by_cases heq : id = a.timers.ids + 1
    · rw [heq, Function.update_self] at harmed
      exact Or.inl ⟨heq, (Option.some.inj harmed).symm⟩
    · rw [Function.update_of_ne heq] at harmed
      exact Or.inr harmed
  refine ⟨ht.autoes, ht.buildings, ht.autoPool, ht.registered, ht.idle, ht.small, ht.buildingPool,
    ht.raised, ht.counted, timersSound_start ht.timers expireMs callback callTimes, ?_, ?_⟩
  · intro id timer y hnew hsearch
    rcases harmed hnew with ⟨rfl, rfl⟩ | hold
    · rcases hcallback with ⟨rfl, htimes, hstatus, hid⟩ | ⟨rfl, _⟩
      · obtain rfl := TimerCallback.search.inj hsearch
        exact ⟨htimes, hstatus, hid⟩
      · cases hsearch
    · exact ht.search id timer y hold hsearch
  · intro id timer y hnew hrefind
    rcases harmed hnew with ⟨rfl, rfl⟩ | hold
    · rcases hcallback with ⟨rfl, _⟩ | ⟨rfl, htimes, hstatus, hid, hflag⟩
      · cases hrefind
      · obtain rfl := TimerCallback.refindPath.inj hrefind
        exact ⟨htimes, hstatus, hid, hflag⟩
    · exact ht.refindPath id timer y hold hrefind

theorem Owing.startSearch (h : a.Owing A B R x k (some .search) none) :
    (a.startSearch x).Targeted A B R (a.startSearch x).aims := by
  have hset : (a.modifyAuto x fun auto =>
      { auto with timerIdSearch := a.timers.ids + 1 }).Owing A B R x k (some .search) none :=
    h.modifyAuto rfl h.status
  have hself := modifyAuto_self h.live fun auto =>
    { auto with timerIdSearch := a.timers.ids + 1 }
  rw [← aims_none (a := a.modifyAuto x fun auto =>
    { auto with timerIdSearch := a.timers.ids + 1 }) (x := x) (by simp [hset.status])] at hset
  exact hset.startTimer 200
    (Or.inl ⟨rfl, rfl, hset.status, congrArg Auto.timerIdSearch hself⟩)

theorem Owing.setRefindPathTimer (h : a.Owing A B R x k (some .chase) none) :
    (a.setRefindPathTimer x).Targeted A B R (a.setRefindPathTimer x).aims := by
  have hset : (a.modifyAuto x fun auto => { auto with
      timerIdRefindPath := a.timers.ids + 1, refindPath := true }).Owing A B R x k (some .chase) none :=
    h.modifyAuto rfl h.status
  have hself := modifyAuto_self h.live fun auto => { auto with
    timerIdRefindPath := a.timers.ids + 1, refindPath := true }
  rw [← aims_none (a := a.modifyAuto x fun auto => { auto with
    timerIdRefindPath := a.timers.ids + 1, refindPath := true }) (x := x)
    (by simp [hset.status])] at hset
  exact hset.startTimer 600 (Or.inr ⟨rfl, rfl, hset.status,
    congrArg Auto.timerIdRefindPath hself, congrArg Auto.refindPath hself⟩)

theorem Owing.startAttack (h : a.Owing A B R x k (some .attack) none) (m : CombatManagers) :
    (a.startAttack m x).Targeted A B R (a.startAttack m x).aims := by
  have hlocked : ∀ {b : Apps}, b.Owing A B R x k (some .attack) none →
      (b.changeTargetedNum x 1).Targeted A B R (b.changeTargetedNum x 1).aims := by
    intro b hb
    have hentered : (b.changeTargetedNum x 1).Owing A B R x k (some .attack) (b.aims x) := by
      refine hb.changeTargetedNum fun k' => ?_
      rw [hb.aims_attack, if_neg (by simp : ¬ none = some k'), Int.sub_zero]
    have hauto : (b.changeTargetedNum x 1).aims x = b.aims x := by
      rw [Apps.changeTargetedNum]
      split
      · rfl
      · split
        · rfl
        · rfl
    rw [← hauto] at hentered
    exact hentered.targeted
  refine hlocked ((outside_lockTarget _ _ _).toBeside.owing ?_)
  exact ((beside_startTimer a _ (.attack x) (-1) fun _ => by simp).owing h).modifyAuto rfl
    ((beside_startTimer a _ (.attack x) (-1) fun _ => by simp).owing h).status

theorem Targeted.gotoSearch (h : a.Targeted A B R a.aims) (hx : R k x) :
    (a.gotoSearch x).Targeted A B R (a.gotoSearch x).aims :=
  (h.switchStatus hx .search).startSearch

theorem Targeted.gotoAttack (h : a.Targeted A B R a.aims) (hx : R k x) (m : CombatManagers) :
    (a.gotoAttack m x).Targeted A B R (a.gotoAttack m x).aims :=
  (h.switchStatus hx .attack).startAttack m

theorem Beside.targeted_aims (hb : Beside a a') (h : a.Targeted A B R a.aims) :
    a'.Targeted A B R a'.aims := by
  rw [hb.aims]
  exact hb.targeted h

theorem outside_moveTarget (m : CombatManagers) (a : Apps) (x : Ptr) :
    Outside a (a.moveTarget m x).2 := by
  rw [moveTarget]
  split
  · exact .refl a
  · split
    · exact outside_sceneMove a _ _ _
    · exact .refl a

theorem Targeted.chase (h : a.Targeted A B R a.aims) (hx : R k x) (m : CombatManagers) :
    (a.chase m x).Targeted A B R (a.chase m x).aims := by
  rw [Apps.chase]
  split
  · exact h.gotoAttack hx m
  · have hmove := (outside_moveTarget m a x).toBeside
    split
    · rename_i b hb
      rw [hb] at hmove
      exact hmove.targeted_aims h
    · rename_i b hb
      rw [hb] at hmove
      exact (hmove.targeted_aims h).gotoSearch hx

theorem Targeted.gotoChase (h : a.Targeted A B R a.aims) (hx : R k x) (m : CombatManagers) :
    (a.gotoChase m x).Targeted A B R (a.gotoChase m x).aims := by
  have howing := h.switchStatus hx .chase
  rw [← aims_none (a := a.switchStatus x .chase) (x := x) (by simp [howing.status])] at howing
  exact howing.targeted.chase hx m

/-! ## Events -/

/-- The targets of the autos are not looked at, and neither is the rest of the pool. -/
theorem Targeted.repool {f : Ptr → Option EntityKey} (h : a.Targeted A B R f)
    {pool : PoolTemplate Auto} (hsound : pool.Sound)
    (hheld : ∀ y, a.autoPool.Held y → pool.Held y)
    (hread : ∀ y, ∃ target, ({ a with autoPool := pool } : Apps).auto y =
      { a.auto y with target := target }) : ({ a with autoPool := pool }).Targeted A B R f := by
  constructor
  · exact h.autoes
  · exact h.buildings
  · exact hsound
  · intro k y hy
    obtain ⟨_, hauto⟩ := hread y
    rw [hauto]
    exact ⟨hheld y (h.registered k y hy).1, (h.registered k y hy).2⟩
  · intro y hy
    obtain ⟨_, hauto⟩ := hread y
    rw [hauto]
    exact h.idle y hy
  · refine h.small.congr fun y => ?_
    obtain ⟨_, hauto⟩ := hread y
    rw [hauto]
  · exact h.buildingPool
  · exact h.raised
  · exact h.counted
  · exact h.timers
  · intro id timer y harmed hcallback
    obtain ⟨_, hauto⟩ := hread y
    rw [hauto]
    exact h.search id timer y harmed hcallback
  · intro id timer y harmed hcallback
    obtain ⟨_, hauto⟩ := hread y
    rw [hauto]
    exact h.refindPath id timer y harmed hcallback

/-- An auto that attacks nothing takes a target. -/
theorem Targeted.setTarget (h : a.Targeted A B R a.aims) (hx : R k x)
    (hstatus : (a.auto x).presentStatus ≠ some .attack) (type : CombatEntityType) (id : Int) :
    (a.setTarget x type id).Targeted A B R (a.setTarget x type id).aims := by
  refine (beside_observerAdd _ _ _ _).targeted_aims ?_
  have hself := modifyAuto_self (h.live hx) fun auto => { auto with target := ⟨type, id⟩ }
  have hauto : ∀ y, ((a.modifyAuto x fun auto => { auto with target := ⟨type, id⟩ }).auto y) =
      { a.auto y with target := if y = x then ⟨type, id⟩ else (a.auto y).target } := by
    intro y
    by_cases hy : y = x
    · rw [hy, hself, if_pos rfl]
    · rw [modifyAuto_other a hy, if_neg hy]
  have haims : (a.modifyAuto x fun auto => { auto with target := ⟨type, id⟩ }).aims = a.aims := by
    funext y
    by_cases hy : y = x
    · rw [hy, aims_none hstatus, aims_none]
      rw [hauto]
      exact hstatus
    · exact congrArg Auto.aim (modifyAuto_other a hy _)
  rw [haims]
  exact h.repool (h.autoPool.modify x _) (fun y => (PoolTemplate.held_modify _).mpr)
    fun y => ⟨_, hauto y⟩

theorem Targeted.onMoveStep (h : a.Targeted A B R a.aims) (hx : R k x) (m : CombatManagers)
    (warriorId : Int) :
    (a.onMoveStep m warriorId x).Targeted A B R (a.onMoveStep m warriorId x).aims := by
  rw [Apps.onMoveStep]
  split
  · rename_i hstatus
    split
    · exact h
    · split
      · exact h.gotoAttack hx m
      · split
        · rename_i hrefind
          have hfree : a.Free x := by
            refine fun id timer harmed => ⟨fun hcallback => ?_, fun hcallback => ?_⟩
            · have hsearch := (h.search id timer x harmed hcallback).2.1
              rw [hstatus] at hsearch
              cases hsearch
            · have hflag := (h.refindPath id timer x harmed hcallback).2.2.2
              rw [hrefind.2] at hflag
              cases hflag
          have howing := h.owing hx hfree
          rw [hstatus, aims_none (by simp [hstatus])] at howing
          exact howing.setRefindPathTimer
        · exact h
  · split
    · exact h
    · split
      · split
        · exact h.gotoChase hx m
        · exact h
      · exact h
  · exact h

theorem Targeted.onTargetLost (h : a.Targeted A B R a.aims) (hx : R k x) (entity : CombatEntity) :
    (a.onTargetLost entity x).Targeted A B R (a.onTargetLost entity x).aims := by
  rw [Apps.onTargetLost]
  split
  · exact h
  · exact h
  · split
    · exact h
    · exact h.gotoSearch hx

theorem Targeted.onAttacked (h : a.Targeted A B R a.aims) (hx : R k x) (m : CombatManagers)
    (hostId warriorId : Int) :
    (a.onAttacked m hostId warriorId x).Targeted A B R (a.onAttacked m hostId warriorId x).aims := by
  rw [Apps.onAttacked]
  split
  · rename_i hstatus
    split
    · exact h
    · exact (h.setTarget hx (by simp [hstatus]) .warrior warriorId).gotoChase hx m
  · exact h

end Apps

end Mysya
