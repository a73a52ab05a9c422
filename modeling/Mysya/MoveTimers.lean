import Mysya.AutoRuns
import Mysya.SceneIndex
import Mysya.SceneSteps

/-!
# The timers that move warriors

A warrior on its way has one timer, whose id is in its `timer_move_token_`, and whoever clears the
way stops the timer. What else stops timers has ids of its own for that: the statuses of the autos
and the scenes keep them whole.
-/

open Std OwnedTimers

namespace Mysya

/-- The ids by which the statuses of an auto stop timers. -/
def Auto.timerIds (auto : Auto) : List Int :=
  [auto.timerIdSearch, auto.timerIdRefindPath, auto.timerIdAttack]

/-- The way of a warrior, with where it is and who moves it. -/
def Warrior.way (warrior : Warrior) : List Position × Int × Int :=
  (warrior.movePaths, warrior.pathIndex, warrior.timerMoveToken)

namespace Apps

variable {a a' a'' : Apps} {m : CombatManagers} {w w' x sc : Ptr}

/-- An armed timer moves the warrior. -/
def MoveTimer (a : Apps) (id : Int) (w : Ptr) : Prop :=
  ∃ timer, a.timers.armed id = some timer ∧ timer.callback = .move w

/-- The id was handed out, and not for a move. -/
def Foreign (a : Apps) (id : Int) : Prop := id ≤ a.timers.ids ∧ ∀ w, ¬ a.MoveTimer id w

/-- The autos and the scenes stop timers by this id. -/
def Stops (a : Apps) (id : Int) : Prop :=
  (∃ x, id ∈ (a.auto x).timerIds) ∨ ∃ sc, id = (a.scene sc).timerIdPrintStatusImage

/-- The move timers are those of the warriors that have a way. -/
structure Timed (a : Apps) : Prop where
  pool : a.sceneWarriors.Bare
  timers : a.TimersSound
  stops : ∀ id, a.Stops id → a.Foreign id
  own : ∀ id timer w, a.timers.armed id = some timer → timer.callback = .move w →
    timer.callTimes = -1 ∧ (a.sceneWarriors.objects w).isSome ∧
      (a.warrior w).timerMoveToken = id ∧ (a.warrior w).movePaths ≠ []
  moving : ∀ w, (a.warrior w).movePaths ≠ [] → a.MoveTimer (a.warrior w).timerMoveToken w
  idle : ∀ w, (a.warrior w).movePaths = [] → (a.warrior w).timerMoveToken = -1

/-- The next step of the warrior is on its way. -/
def Indexed (a : Apps) (w : Ptr) : Prop :=
  0 ≤ (a.warrior w).pathIndex ∧
    ((a.warrior w).movePaths = [] → (a.warrior w).pathIndex = 0) ∧
    ((a.warrior w).movePaths ≠ [] → (a.warrior w).pathIndex < (a.warrior w).movePaths.length)

/-- What holds of the ways of all warriors. -/
def Moving (a : Apps) : Prop := a.Timed ∧ ∀ w, a.Indexed w

/-- The ways stay sound, and no warrior sets out. -/
def Quiet (a a' : Apps) : Prop :=
  a.Moving → a'.Moving ∧ ∀ id w, a'.MoveTimer id w → a.MoveTimer id w

theorem Quiet.refl (a : Apps) : Quiet a a := fun h => ⟨h, fun _ _ => id⟩

theorem Quiet.trans (h : Quiet a a') (h' : Quiet a' a'') : Quiet a a'' := by
  intro ha
  obtain ⟨ha', hmoves⟩ := h ha
  obtain ⟨ha'', hmoves'⟩ := h' ha'
  exact ⟨ha'', fun id w hmove => hmoves id w (hmoves' id w hmove)⟩

theorem Quiet.moving (h : Quiet a a') (ha : a.Moving) : a'.Moving := (h ha).1

/-- The ways stay but for where the warriors are on them, and so do the move timers. -/
theorem Timed.keep (h : a.Timed) (hpool : a'.sceneWarriors.Bare)
    (hpaths : ∀ w, (a'.warrior w).movePaths = (a.warrior w).movePaths)
    (htoken : ∀ w, (a'.warrior w).timerMoveToken = (a.warrior w).timerMoveToken)
    (hlive : ∀ id w, a.MoveTimer id w → (a'.sceneWarriors.objects w).isSome)
    (htimers : a'.TimersSound) (hids : a.timers.ids ≤ a'.timers.ids)
    (hold : ∀ id timer w, a'.timers.armed id = some timer → timer.callback = .move w →
      a.timers.armed id = some timer)
    (hkept : ∀ id timer w, a.timers.armed id = some timer → timer.callback = .move w →
      a'.timers.armed id = some timer)
    (hstops : ∀ id, a'.Stops id → a.Stops id ∨ a'.Foreign id) : a'.Timed := by
  constructor
  · exact hpool
  · exact htimers
  · intro id hid
    rcases hstops id hid with hstop | hforeign
    · obtain ⟨hle, hnone⟩ := h.stops id hstop
      refine ⟨Int.le_trans hle hids, fun w hmove => hnone w ?_⟩
      obtain ⟨timer, harmed, hcallback⟩ := hmove
      exact ⟨timer, hold id timer w harmed hcallback, hcallback⟩
    · exact hforeign
  · intro id timer w harmed hcallback
    have harmed' := hold id timer w harmed hcallback
    obtain ⟨hforever, _, hown, hway⟩ := h.own id timer w harmed' hcallback
    rw [htoken, hpaths]
    exact ⟨hforever, hlive id w ⟨timer, harmed', hcallback⟩, hown, hway⟩
  · intro w hway
    rw [hpaths] at hway
    rw [htoken]
    obtain ⟨timer, harmed, hcallback⟩ := h.moving w hway
    exact ⟨timer, hkept _ timer w harmed hcallback, hcallback⟩
  · intro w hway
    rw [hpaths] at hway
    rw [htoken]
    exact h.idle w hway

/-- The ways stay, and the move timers. -/
theorem Moving.keep (h : a.Moving) (hpool : a'.sceneWarriors.Bare)
    (hways : ∀ w, (a'.warrior w).way = (a.warrior w).way)
    (hlive : ∀ id w, a.MoveTimer id w → (a'.sceneWarriors.objects w).isSome)
    (htimers : a'.TimersSound) (hids : a.timers.ids ≤ a'.timers.ids)
    (hold : ∀ id timer w, a'.timers.armed id = some timer → timer.callback = .move w →
      a.timers.armed id = some timer)
    (hkept : ∀ id timer w, a.timers.armed id = some timer → timer.callback = .move w →
      a'.timers.armed id = some timer)
    (hstops : ∀ id, a'.Stops id → a.Stops id ∨ a'.Foreign id) : a'.Moving := by
  have hpaths : ∀ w, (a'.warrior w).movePaths = (a.warrior w).movePaths :=
    fun w => congrArg Prod.fst (hways w)
  have hindex : ∀ w, (a'.warrior w).pathIndex = (a.warrior w).pathIndex :=
    fun w => congrArg (fun way => way.2.1) (hways w)
  have htoken : ∀ w, (a'.warrior w).timerMoveToken = (a.warrior w).timerMoveToken :=
    fun w => congrArg (fun way => way.2.2) (hways w)
  refine ⟨h.1.keep hpool hpaths htoken hlive htimers hids hold hkept hstops, fun w => ?_⟩
  rw [Indexed, hpaths, hindex]
  exact h.2 w

/-- Nothing happens to the timers, and no id is new to an auto or a scene. -/
theorem quiet_ways (htimers : a'.timers = a.timers)
    (hways : a.Moving → a'.sceneWarriors.Bare ∧ (∀ w, (a'.warrior w).way = (a.warrior w).way) ∧
      ∀ id w, a.MoveTimer id w → (a'.sceneWarriors.objects w).isSome)
    (hstops : a.Moving → ∀ id, a'.Stops id → a.Stops id ∨ a.Foreign id) : Quiet a a' := by
  intro h
  obtain ⟨hpool, hways, hlive⟩ := hways h
  refine ⟨h.keep hpool hways hlive ?_ ?_ ?_ ?_ ?_, fun id w hmove => ?_⟩
  · rw [TimersSound, htimers]
    exact h.1.timers
  · rw [htimers]
  · intro id timer w harmed _
    rwa [htimers] at harmed
  · intro id timer w harmed _
    rwa [htimers]
  · intro id hid
    refine (hstops h id hid).imp_right fun hforeign => ?_
    rw [Foreign, htimers]
    refine ⟨hforeign.1, fun w hmove => hforeign.2 w ?_⟩
    rwa [MoveTimer, htimers] at hmove
  · rwa [MoveTimer, htimers] at hmove

/-- The warriors of sound ways are there. -/
theorem Moving.live (h : a.Moving) {id : Int} (hmove : a.MoveTimer id w) :
    (a.sceneWarriors.objects w).isSome := by
  obtain ⟨timer, harmed, hcallback⟩ := hmove
  exact (h.1.own id timer w harmed hcallback).2.1

theorem quiet_beside (hwarriors : a'.sceneWarriors = a.sceneWarriors)
    (htimers : a'.timers = a.timers)
    (hstops : a.Moving → ∀ id, a'.Stops id → a.Stops id ∨ a.Foreign id) : Quiet a a' := by
  refine quiet_ways htimers (fun h => ⟨?_, fun w => ?_, fun id w hmove => ?_⟩) hstops
  · rw [hwarriors]
    exact h.1.pool
  · rw [warrior, hwarriors, warrior]
  · rw [hwarriors]
    exact h.live hmove

theorem quiet_same (hwarriors : a'.sceneWarriors = a.sceneWarriors)
    (htimers : a'.timers = a.timers) (hautos : a'.autoPool = a.autoPool)
    (hscenes : a'.scenePool = a.scenePool) : Quiet a a' := by
  refine quiet_beside hwarriors htimers fun _ id hid => Or.inl ?_
  rcases hid with ⟨x, hx⟩ | ⟨sc, hsc⟩
  · rw [auto, hautos] at hx
    exact Or.inl ⟨x, hx⟩
  · rw [scene, hscenes] at hsc
    exact Or.inr ⟨sc, hsc⟩

theorem Timed.foreign_none (h : a.Timed) : a.Foreign (-1) := by
  refine ⟨by have := h.timers.1; omega, ?_⟩
  rintro w ⟨timer, harmed, _⟩
  have hpositive := (h.timers.2 _ timer harmed).1
  omega

/-- A timer is stopped that moves no warrior. -/
theorem quiet_stopTimer {id : Int} (hid : a.Moving → ∀ w, ¬ a.MoveTimer id w) :
    Quiet a (a.stopTimer id) := by
  intro h
  have hforeign := hid h
  have hold : ∀ id' timer, (a.stopTimer id).timers.armed id' = some timer →
      a.timers.armed id' = some timer := by
    intro id' timer harmed
    have harmed : Function.update a.timers.armed id none id' = some timer := harmed
    by_cases heq : id' = id
    · rw [heq, Function.update_self] at harmed
      cases harmed
    · rwa [Function.update_of_ne heq] at harmed
  refine ⟨h.keep h.1.pool (fun _ => rfl) (fun _ _ => h.live) ⟨h.1.timers.1, fun id' timer harmed =>
    h.1.timers.2 id' timer (hold id' timer harmed)⟩ (Int.le_refl _)
    (fun id' timer w harmed _ => hold id' timer harmed) ?_ fun id' => Or.inl, ?_⟩
  · intro id' timer w harmed hcallback
    show Function.update a.timers.armed id none id' = some timer
    rw [Function.update_of_ne, harmed]
    rintro rfl
    exact hforeign w ⟨timer, harmed, hcallback⟩
  · rintro id' w ⟨timer, harmed, hcallback⟩
    exact ⟨timer, hold id' timer harmed, hcallback⟩

/-- A timer is started that moves no warrior; its id is new. -/
theorem quiet_startTimer (a : Apps) (expireMs : Int) {callback : TimerCallback} (callTimes : Int)
    (hcallback : ∀ w, callback ≠ .move w) :
    Quiet a (a.startTimer expireMs callback callTimes).2 ∧
      (a.Moving → (a.startTimer expireMs callback callTimes).2.Foreign
        (a.startTimer expireMs callback callTimes).1) := by
  have hold : ∀ id timer w, (a.startTimer expireMs callback callTimes).2.timers.armed id =
      some timer → timer.callback = .move w → a.timers.armed id = some timer := by
    intro id timer w harmed hmove
    have harmed : Function.update a.timers.armed (a.timers.ids + 1) (some ⟨callback, expireMs,
      callTimes⟩) id = some timer := harmed
    by_cases heq : id = a.timers.ids + 1
    · rw [heq, Function.update_self] at harmed
      obtain rfl := Option.some.inj harmed
      exact absurd hmove (hcallback w)
    · rwa [Function.update_of_ne heq] at harmed
  refine ⟨fun h => ⟨h.keep h.1.pool (fun _ => rfl) (fun _ _ => h.live)
    (timersSound_start h.1.timers expireMs callback callTimes) (Int.le_add_one (Int.le_refl _))
    hold ?_ fun id => Or.inl, ?_⟩, fun h => ⟨Int.le_refl _, ?_⟩⟩
  · intro id timer w harmed _
    show Function.update a.timers.armed (a.timers.ids + 1) _ id = some timer
    rw [Function.update_of_ne, harmed]
    have hbound := (h.1.timers.2 id timer harmed).2
    omega
  · rintro id w ⟨timer, harmed, hmove⟩
    exact ⟨timer, hold id timer w harmed hmove, hmove⟩
  · rintro w ⟨timer, harmed, hmove⟩
    have hbound := (h.1.timers.2 _ timer (hold _ timer w harmed hmove)).2
    have hnew : (a.startTimer expireMs callback callTimes).1 = a.timers.ids + 1 := rfl
    omega

/-- An auto changes, and has no id that is new and moves a warrior. -/
theorem quiet_modifyAuto {change : Auto → Auto}
    (hchange : a.Moving → ∀ auto, ∀ id ∈ (change auto).timerIds,
      id ∈ auto.timerIds ∨ a.Foreign id) : Quiet a (a.modifyAuto x change) := by
  refine quiet_beside rfl rfl fun h id hid => ?_
  rcases hid with ⟨y, hy⟩ | hsc
  · by_cases heq : y = x
    · subst heq
      rw [auto, modifyAuto, PoolTemplate.read, PoolTemplate.modify_self] at hy
      cases hobject : a.autoPool.objects y with
      | none =>
        refine Or.inl (Or.inl ⟨y, ?_⟩)
        rw [auto, PoolTemplate.read, hobject]
        rw [hobject] at hy
        exact hy
      | some old =>
        rw [hobject] at hy
        refine (hchange h old id hy).imp_left fun hin => Or.inl ⟨y, ?_⟩
        rw [auto, PoolTemplate.read, hobject]
        exact hin
    · rw [auto, modifyAuto, PoolTemplate.read_modify_other _ heq] at hy
      exact Or.inl (Or.inl ⟨y, hy⟩)
  · exact Or.inl (Or.inr hsc)

theorem quiet_setAuto (a : Apps) (x : Ptr) {change : Auto → Auto}
    (hchange : ∀ auto, (change auto).timerIds = auto.timerIds) : Quiet a (a.modifyAuto x change) :=
  quiet_modifyAuto fun _ auto _ hid => Or.inl (hchange auto ▸ hid)

/-- A status stops its timer. -/
theorem quiet_stopAuto (a : Apps) (x : Ptr) {id : Int} (hid : id ∈ (a.auto x).timerIds)
    {change : Auto → Auto}
    (hchange : ∀ auto, ∀ i ∈ (change auto).timerIds, i ∈ auto.timerIds ∨ i = -1) :
    Quiet a ((a.stopTimer id).modifyAuto x change) := by
  refine (quiet_stopTimer fun h => (h.1.stops id (Or.inl ⟨x, hid⟩)).2).trans
    (quiet_modifyAuto fun h auto i hi => (hchange auto i hi).imp_right ?_)
  rintro rfl
  exact h.1.foreign_none

/-- A status starts a timer. -/
theorem quiet_startAuto (a : Apps) (x : Ptr) (expireMs : Int) (callback : TimerCallback)
    (callTimes : Int) (hcallback : ∀ w, callback ≠ .move w) {change : Auto → Auto}
    (hchange : ∀ auto, ∀ i ∈ (change auto).timerIds,
      i ∈ auto.timerIds ∨ i = (a.startTimer expireMs callback callTimes).1) :
    Quiet a ((a.startTimer expireMs callback callTimes).2.modifyAuto x change) := by
  obtain ⟨hquiet, hnew⟩ := quiet_startTimer a expireMs callTimes hcallback
  intro ha
  refine (hquiet.trans (quiet_modifyAuto fun _ auto i hi => (hchange auto i hi).imp_right ?_)) ha
  rintro rfl
  exact hnew ha

/-! ## Clearing a way -/

/-- What `MoveAction::Reset` leaves. -/
structure Parked (w : Ptr) (a a' : Apps) : Prop where
  pool : a.sceneWarriors.Bare → a'.sceneWarriors.Bare
  live : ∀ w', (a'.sceneWarriors.objects w').isSome = (a.sceneWarriors.objects w').isSome
  autos : a'.autoPool = a.autoPool
  scenes : a'.scenePool = a.scenePool
  ids : a'.timers.ids = a.timers.ids
  armed : ∀ id timer, a'.timers.armed id = some timer ↔
    a.timers.armed id = some timer ∧ ((a.warrior w).timerMoveToken ≠ -1 →
      id ≠ (a.warrior w).timerMoveToken)
  others : ∀ w', w' ≠ w → a'.warrior w' = a.warrior w'
  way : (a'.warrior w).movePaths = [] ∧ (a'.warrior w).pathIndex = 0 ∧
    (a'.warrior w).timerMoveToken = -1

theorem warrior_modifyWarrior_live (hlive : (a.sceneWarriors.objects w).isSome)
    (change : Warrior → Warrior) : (a.modifyWarrior w change).warrior w = change (a.warrior w) :=
  PoolTemplate.read_modify hlive change

theorem warrior_modifyWarrior (a : Apps) (w : Ptr) (change : Warrior → Warrior) :
    (a.modifyWarrior w change).warrior w = a.warrior w ∧ a.sceneWarriors.objects w = none ∨
      (a.modifyWarrior w change).warrior w = change (a.warrior w) := by
  cases hobject : a.sceneWarriors.objects w with
  | none =>
    refine Or.inl ⟨?_, rfl⟩
    rw [warrior, modifyWarrior, PoolTemplate.read, PoolTemplate.modify_self, hobject, warrior,
      PoolTemplate.read, hobject]
    rfl
  | some old => exact Or.inr (warrior_modifyWarrior_live (by rw [hobject]; rfl) change)

theorem warrior_modifyWarrior_other (a : Apps) (hne : w' ≠ w) (change : Warrior → Warrior) :
    (a.modifyWarrior w change).warrior w' = a.warrior w' :=
  PoolTemplate.read_modify_other _ hne change

theorem parked_moveReset (a : Apps) (w : Ptr) : Parked w a (a.moveReset w) := by
  have hdead : ∀ {b : Apps}, b.sceneWarriors.objects w = none → (b.warrior w).movePaths = [] ∧
      (b.warrior w).pathIndex = 0 ∧ (b.warrior w).timerMoveToken = -1 := by
    intro b hnone
    rw [warrior_of_none hnone]
    exact ⟨rfl, rfl, rfl⟩
  rw [moveReset]
  split
  · rename_i htoken
    constructor
    · exact fun hbare => hbare.modify w _
    · exact fun w' => PoolTemplate.modify_isSome _
    · rfl
    · rfl
    · rfl
    · exact fun id timer => ⟨fun harmed => ⟨harmed, fun hne => absurd htoken hne⟩, And.left⟩
    · exact fun w' hne => warrior_modifyWarrior_other a hne _
    · rcases warrior_modifyWarrior a w (fun warrior =>
        { warrior with pathIndex := 0, movePaths := [] }) with ⟨hsame, hnone⟩ | hchanged
      · rw [hsame]
        exact hdead hnone
      · rw [hchanged]
        exact ⟨rfl, rfl, htoken⟩
  · rename_i htoken
    constructor
    · exact fun hbare => (hbare.modify w _).modify w _
    · exact fun w' => (PoolTemplate.modify_isSome _).trans (PoolTemplate.modify_isSome _)
    · rfl
    · rfl
    · rfl
    · intro id timer
      show Function.update a.timers.armed (a.warrior w).timerMoveToken none id = some timer ↔ _
      by_cases heq : id = (a.warrior w).timerMoveToken
      · rw [heq, Function.update_self]
        exact ⟨fun h => (by cases h), fun h => absurd rfl (h.2 htoken)⟩
      · rw [Function.update_of_ne heq]
        exact ⟨fun harmed => ⟨harmed, fun _ => heq⟩, And.left⟩
    · intro w' hne
      rw [warrior_modifyWarrior_other _ hne, warrior_modifyWarrior_other _ hne]
      rfl
    · rcases warrior_modifyWarrior (a.stopTimer (a.warrior w).timerMoveToken) w (fun warrior =>
        { warrior with timerMoveToken := -1 }) with ⟨_, hnone⟩ | hchanged
      · have hnone : a.sceneWarriors.objects w = none := hnone
        have hstill : (((a.stopTimer (a.warrior w).timerMoveToken).modifyWarrior w fun warrior =>
            { warrior with timerMoveToken := -1 }).modifyWarrior w fun warrior =>
            { warrior with pathIndex := 0, movePaths := [] }).sceneWarriors.objects w = none := by
          show ((a.sceneWarriors.modify w _).modify w _).objects w = none
          rw [PoolTemplate.modify_self, PoolTemplate.modify_self, hnone]
          rfl
        exact hdead hstill
      · rcases warrior_modifyWarrior ((a.stopTimer (a.warrior w).timerMoveToken).modifyWarrior w
          fun warrior => { warrior with timerMoveToken := -1 }) w (fun warrior =>
          { warrior with pathIndex := 0, movePaths := [] }) with ⟨hsame, hnone⟩ | hchanged'
        · rw [hsame]
          exact hdead hnone
        · rw [hchanged', hchanged]
          exact ⟨rfl, rfl, rfl⟩

theorem Parked.timed (hp : Parked w a a') (h : a.Timed) : a'.Timed := by
  have hbefore : ∀ {id : Int} {v : Ptr}, a'.MoveTimer id v → a.MoveTimer id v :=
    fun ⟨timer, harmed, hcallback⟩ => ⟨timer, ((hp.armed _ timer).mp harmed).1, hcallback⟩
  -- a timer that stays is not the one of the warrior at hand
  have hother : ∀ {id : Int} {timer : Timer TimerCallback} {v : Ptr},
      a'.timers.armed id = some timer → timer.callback = .move v → v ≠ w := by
    rintro id timer v harmed hcallback rfl
    obtain ⟨hold, hne⟩ := (hp.armed id timer).mp harmed
    obtain ⟨_, _, htoken, _⟩ := h.own id timer v hold hcallback
    have hpositive := (h.timers.2 id timer hold).1
    exact hne (by omega) htoken.symm
  constructor
  · exact hp.pool h.pool
  · rw [TimersSound, hp.ids]
    exact ⟨h.timers.1, fun id timer harmed => h.timers.2 id timer ((hp.armed id timer).mp harmed).1⟩
  · intro id hid
    have hstop : a.Stops id := by
      rcases hid with ⟨x, hx⟩ | ⟨sc, hsc⟩
      · rw [auto, hp.autos] at hx
        exact Or.inl ⟨x, hx⟩
      · rw [scene, hp.scenes] at hsc
        exact Or.inr ⟨sc, hsc⟩
    obtain ⟨hle, hnone⟩ := h.stops id hstop
    exact ⟨by rw [hp.ids]; exact hle, fun v hmove => hnone v (hbefore hmove)⟩
  · intro id timer v harmed hcallback
    rw [hp.live, hp.others v (hother harmed hcallback)]
    exact h.own id timer v ((hp.armed id timer).mp harmed).1 hcallback
  · intro v hpaths
    have hne : v ≠ w := by
      rintro rfl
      exact hpaths hp.way.1
    rw [hp.others v hne] at hpaths ⊢
    obtain ⟨timer, harmed, hcallback⟩ := h.moving v hpaths
    refine ⟨timer, (hp.armed _ timer).mpr ⟨harmed, fun htoken heq => ?_⟩, hcallback⟩
    rw [heq] at harmed
    by_cases hway : (a.warrior w).movePaths = []
    · exact htoken (h.idle w hway)
    · obtain ⟨timer', harmed', hcallback'⟩ := h.moving w hway
      obtain rfl := Option.some.inj (harmed.symm.trans harmed')
      rw [hcallback] at hcallback'
      exact hne (TimerCallback.move.inj hcallback')
  · intro v hpaths
    by_cases hne : v = w
    · rw [hne]
      exact hp.way.2.2
    · rw [hp.others v hne] at hpaths ⊢
      exact h.idle v hpaths

theorem Parked.indexed (hp : Parked w a a') (h : w' ≠ w → a.Indexed w') : a'.Indexed w' := by
  by_cases hne : w' = w
  · rw [hne, Indexed, hp.way.1, hp.way.2.1]
    exact ⟨Int.le_refl 0, fun _ => rfl, fun hway => absurd rfl hway⟩
  · rw [Indexed, hp.others w' hne]
    exact h hne

theorem Parked.quiet (hp : Parked w a a') : Quiet a a' := by
  intro h
  refine ⟨⟨hp.timed h.1, fun w' => hp.indexed fun _ => h.2 w'⟩, ?_⟩
  rintro id v ⟨timer, harmed, hcallback⟩
  exact ⟨timer, ((hp.armed id timer).mp harmed).1, hcallback⟩

theorem quiet_moveReset (a : Apps) (w : Ptr) : Quiet a (a.moveReset w) :=
  (parked_moveReset a w).quiet

/-! ## Observers and targets -/

theorem quiet_observerAdd (a : Apps) (combatId entityId autoId : Int) :
    Quiet a (a.observerAdd combatId entityId autoId) := quiet_same rfl rfl rfl rfl

theorem quiet_observerRemove (a : Apps) (combatId entityId autoId : Int) :
    Quiet a (a.observerRemove combatId entityId autoId) := by
  rw [observerRemove]
  split
  · exact quiet_same rfl rfl rfl rfl
  · exact quiet_same rfl rfl rfl rfl

/-- What handlers keep is kept by handing out an event, where the observers do not matter. -/
theorem dispatch_keeps {I : Apps → Prop} (hbeside : ∀ {b b' : Apps}, Quiet b b' → I b → I b')
    {handler : Apps → Ptr → Apps} (hhandler : ∀ b x, I b → I (handler b x)) (h : I a)
    (combatId entityId : Int) : I (a.dispatch combatId entityId handler) := by
  refine dispatch_rule h ?_ ?_ ?_ ?_ ?_
  · exact hbeside (quiet_same rfl rfl rfl rfl)
  · exact fun b _ x _ hb => hhandler b x hb
  · exact fun b => hbeside (quiet_same rfl rfl rfl rfl)
  · exact fun b _ _ _ => hbeside (quiet_observerRemove b _ _ _)
  · exact fun b => hbeside (quiet_same rfl rfl rfl rfl)

theorem quiet_setTarget (a : Apps) (x : Ptr) (type : CombatEntityType) (id : Int) :
    Quiet a (a.setTarget x type id) := by
  have hset : Quiet a (a.modifyAuto x fun auto => { auto with target := ⟨type, id⟩ }) :=
    quiet_setAuto a x fun _ => rfl
  exact hset.trans (quiet_observerAdd _ _ _ _)

theorem quiet_resetTarget (a : Apps) (x : Ptr) : Quiet a (a.resetTarget x) := by
  rw [resetTarget]
  split
  · exact .refl a
  · exact (quiet_observerRemove a _ _ _).trans (quiet_setAuto _ x fun _ => rfl)

theorem quiet_searchTarget (a : Apps) (x : Ptr) : Quiet a (a.searchTarget m x).2 := by
  rw [searchTarget]
  split
  · split
    · exact .refl a
    · split
      · exact quiet_setTarget a x _ _
      · split
        · exact quiet_setTarget a x _ _
        · exact .refl a
  · exact .refl a

/-! ## Statuses -/

theorem quiet_changeTargetedNum (a : Apps) (x : Ptr) (increment : Int) :
    Quiet a (a.changeTargetedNum x increment) := by
  rw [changeTargetedNum]
  split
  · exact .refl a
  · split
    · exact .refl a
    · exact quiet_same rfl rfl rfl rfl

theorem quiet_stopSearch (a : Apps) (x : Ptr) : Quiet a (a.stopSearch x) := by
  rw [stopSearch]
  split
  · exact .refl a
  · exact quiet_stopAuto a x (by simp [Auto.timerIds]) fun auto i hi => by
      simp only [Auto.timerIds, List.mem_cons, List.not_mem_nil, or_false] at hi ⊢
      omega

theorem quiet_stopChase (a : Apps) (x : Ptr) : Quiet a (a.stopChase x) := by
  rw [stopChase]
  split
  · exact .refl a
  · exact quiet_stopAuto a x (by simp [Auto.timerIds]) fun auto i hi => by
      simp only [Auto.timerIds, List.mem_cons, List.not_mem_nil, or_false] at hi ⊢
      omega

theorem quiet_resetAttackTimer (a : Apps) (x : Ptr) : Quiet a (a.resetAttackTimer x) := by
  rw [resetAttackTimer]
  split
  · exact .refl a
  · exact quiet_stopAuto a x (by simp [Auto.timerIds]) fun auto i hi => by
      simp only [Auto.timerIds, List.mem_cons, List.not_mem_nil, or_false] at hi ⊢
      omega

theorem quiet_stopPresentStatus (a : Apps) (x : Ptr) : Quiet a (a.stopPresentStatus x) := by
  rw [stopPresentStatus]
  split
  · exact .refl a
  · rename_i status _
    refine Quiet.trans ?_ (quiet_observerRemove _ _ _ _)
    cases status with
    | search => exact quiet_stopSearch a x
    | chase => exact quiet_stopChase a x
    | attack =>
      exact ((quiet_changeTargetedNum a x (-1)).trans (quiet_resetAttackTimer _ x)).trans
        (quiet_resetTarget _ x)

theorem quiet_switchStatus (a : Apps) (x : Ptr) (status : AutoStatus) :
    Quiet a (a.switchStatus x status) := by
  have hset : ∀ b : Apps, Quiet b (b.modifyAuto x fun auto =>
      { auto with presentStatus := some status }) :=
    fun b => quiet_setAuto b x fun _ => rfl
  exact ((quiet_stopPresentStatus a x).trans (hset _)).trans (quiet_observerAdd _ _ _ _)

theorem quiet_startSearch (a : Apps) (x : Ptr) : Quiet a (a.startSearch x) := by
  have hstart : Quiet a ((a.startTimer 200 (.search x) (-1)).2.modifyAuto x fun auto =>
      { auto with timerIdSearch := (a.startTimer 200 (.search x) (-1)).1 }) :=
    quiet_startAuto a x 200 (.search x) (-1) (fun _ h => by cases h) fun auto i hi => by
      simp only [Auto.timerIds, List.mem_cons, List.not_mem_nil, or_false] at hi ⊢
      omega
  exact hstart

theorem quiet_gotoSearch (a : Apps) (x : Ptr) : Quiet a (a.gotoSearch x) :=
  (quiet_switchStatus a x .search).trans (quiet_startSearch _ x)

theorem quiet_setRefindPathTimer (a : Apps) (x : Ptr) : Quiet a (a.setRefindPathTimer x) := by
  have hstart : Quiet a ((a.startTimer 600 (.refindPath x) 1).2.modifyAuto x fun auto =>
      { auto with
        timerIdRefindPath := (a.startTimer 600 (.refindPath x) 1).1
        refindPath := true }) :=
    quiet_startAuto a x 600 (.refindPath x) 1 (fun _ h => by cases h) fun auto i hi => by
      simp only [Auto.timerIds, List.mem_cons, List.not_mem_nil, or_false] at hi ⊢
      omega
  exact hstart

theorem quiet_lockTarget (a : Apps) (combatId warriorId : Int) :
    Quiet a (a.onEventCombatLockTarget combatId warriorId) := by
  rw [onEventCombatLockTarget]
  split
  · exact .refl a
  · split
    · exact .refl a
    · exact quiet_moveReset a _

theorem quiet_startAttack (a : Apps) (x : Ptr) : Quiet a (a.startAttack m x) := by
  have hstart : ∀ expireMs : Int, Quiet a ((a.startTimer expireMs (.attack x) (-1)).2.modifyAuto x
      fun auto => { auto with timerIdAttack := (a.startTimer expireMs (.attack x) (-1)).1 }) :=
    fun expireMs => quiet_startAuto a x expireMs (.attack x) (-1) (fun _ h => by cases h) fun auto i hi => by
      simp only [Auto.timerIds, List.mem_cons, List.not_mem_nil, or_false] at hi ⊢
      omega
  exact ((hstart _).trans (quiet_lockTarget _ _ _)).trans (quiet_changeTargetedNum _ x 1)

theorem quiet_gotoAttack (a : Apps) (x : Ptr) : Quiet a (a.gotoAttack m x) :=
  (quiet_switchStatus a x .attack).trans (quiet_startAttack _ x)

theorem quiet_modifyWarrior (a : Apps) (w : Ptr) {change : Warrior → Warrior}
    (hchange : a.Moving → (change (a.warrior w)).way = (a.warrior w).way) :
    Quiet a (a.modifyWarrior w change) := by
  refine quiet_ways rfl (fun h => ⟨h.1.pool.modify w change, fun w' => ?_, fun id w' hmove => ?_⟩)
    fun _ _ => Or.inl
  · by_cases hne : w' = w
    · rw [hne]
      rcases warrior_modifyWarrior a w change with ⟨hsame, _⟩ | hchanged
      · rw [hsame]
      · rw [hchanged, hchange h]
    · rw [warrior_modifyWarrior_other a hne]
  · exact (PoolTemplate.modify_isSome change).trans (h.live hmove)

/-- A pool of scenes in which no scene has an id that is new and moves a warrior. -/
theorem quiet_scenePool (a : Apps) {pool : PoolTemplate TimedScene}
    (hpool : a.Moving → ∀ sc, (pool.read sc).timerIdPrintStatusImage =
      (a.scene sc).timerIdPrintStatusImage ∨
        a.Foreign (pool.read sc).timerIdPrintStatusImage) :
    Quiet a { a with scenePool := pool } := by
  refine quiet_beside rfl rfl fun h id hid => ?_
  rcases hid with hx | ⟨sc, hsc⟩
  · exact Or.inl (Or.inl hx)
  · have hsc : id = (pool.read sc).timerIdPrintStatusImage := hsc
    rw [hsc]
    exact (hpool h sc).imp_left fun hsame => Or.inr ⟨sc, hsame⟩

theorem quiet_modifyScene (a : Apps) (sc : Ptr) {change : TimedScene → TimedScene}
    (hchange : a.Moving → ∀ scene, (change scene).timerIdPrintStatusImage =
      scene.timerIdPrintStatusImage ∨ a.Foreign (change scene).timerIdPrintStatusImage) :
    Quiet a (a.modifyScene sc change) := by
  refine quiet_scenePool a fun h sc' => ?_
  by_cases heq : sc' = sc
  · rw [heq, PoolTemplate.read, PoolTemplate.modify_self, scene, PoolTemplate.read]
    cases a.scenePool.objects sc with
    | none => exact Or.inl rfl
    | some old => exact hchange h old
  · rw [PoolTemplate.read_modify_other _ heq]
    exact Or.inl rfl

theorem quiet_setScene (a : Apps) (sc : Ptr) {change : TimedScene → TimedScene}
    (hchange : ∀ scene, (change scene).timerIdPrintStatusImage =
      scene.timerIdPrintStatusImage) : Quiet a (a.modifyScene sc change) :=
  quiet_modifyScene a sc fun _ scene => Or.inl (hchange scene)

/-- A warrior without a way gets one, and its timer. -/
theorem Moving.setOut (h : a.Moving) (hlive : (a.sceneWarriors.objects w).isSome)
    (hway : (a.warrior w).movePaths = []) {paths : List Position} (hpaths : paths ≠ [])
    (expireMs : Int) :
    (((a.modifyWarrior w fun warrior => { warrior with movePaths := paths }).startTimer expireMs
      (.move w) (-1)).2.modifyWarrior w fun warrior =>
        { warrior with timerMoveToken := a.timers.ids + 1 }).Moving := by
  obtain ⟨htimed, hindexed⟩ := h
  generalize hb : (((a.modifyWarrior w fun warrior => { warrior with movePaths := paths }).startTimer
    expireMs (.move w) (-1)).2.modifyWarrior w fun warrior =>
      { warrior with timerMoveToken := a.timers.ids + 1 }) = b
  have hids : b.timers.ids = a.timers.ids + 1 := by rw [← hb]; rfl
  have harmed : b.timers.armed = Function.update a.timers.armed (a.timers.ids + 1)
      (some ⟨.move w, expireMs, -1⟩) := by rw [← hb]; rfl
  have hself : b.warrior w = { a.warrior w with
      movePaths := paths, timerMoveToken := a.timers.ids + 1 } := by
    have hset : (a.modifyWarrior w fun warrior => { warrior with movePaths := paths }).warrior w =
        { a.warrior w with movePaths := paths } := warrior_modifyWarrior_live hlive _
    have hlive' : (((a.modifyWarrior w fun warrior => { warrior with movePaths := paths }).startTimer
        expireMs (.move w) (-1)).2.sceneWarriors.objects w).isSome :=
      (PoolTemplate.modify_isSome _).trans hlive
    rw [← hb, warrior_modifyWarrior_live hlive', show ((a.modifyWarrior w fun warrior =>
      { warrior with movePaths := paths }).startTimer expireMs (.move w) (-1)).2.warrior w =
        { a.warrior w with movePaths := paths } from hset]
  have hothers : ∀ v, v ≠ w → b.warrior v = a.warrior v := by
    intro v hne
    rw [← hb, warrior_modifyWarrior_other _ hne]
    exact warrior_modifyWarrior_other a hne _
  have hobjects : ∀ v, (b.sceneWarriors.objects v).isSome = (a.sceneWarriors.objects v).isSome := by
    intro v
    rw [← hb]
    exact (PoolTemplate.modify_isSome _).trans (PoolTemplate.modify_isSome _)
  have hpool : b.sceneWarriors.Bare := by
    rw [← hb]
    exact (htimed.pool.modify w _).modify w _
  have hstops : ∀ id, b.Stops id → a.Stops id := by
    intro id hid
    rw [← hb] at hid
    exact hid
  have hsound : b.TimersSound := by
    rw [← hb]
    exact timersSound_start htimed.timers expireMs (.move w) (-1)
  clear hb
  have hfresh : ∀ {id : Int} {timer : Timer TimerCallback}, a.timers.armed id = some timer →
      b.timers.armed id = some timer := by
    intro id timer hold
    have hbound := (htimed.timers.2 id timer hold).2
    rw [harmed, Function.update_of_ne (by omega), hold]
  have hcases : ∀ {id : Int} {timer : Timer TimerCallback}, b.timers.armed id = some timer →
      id = a.timers.ids + 1 ∧ timer = ⟨.move w, expireMs, -1⟩ ∨
        a.timers.armed id = some timer := by
    intro id timer hnew
    rw [harmed] at hnew
    by_cases heq : id = a.timers.ids + 1
    · rw [heq, Function.update_self] at hnew
      exact Or.inl ⟨heq, (Option.some.inj hnew).symm⟩
    · rw [Function.update_of_ne heq] at hnew
      exact Or.inr hnew
  refine ⟨⟨hpool, hsound, ?_, ?_, ?_, ?_⟩, fun v => ?_⟩
  · intro id hid
    obtain ⟨hle, hnone⟩ := htimed.stops id (hstops id hid)
    refine ⟨by omega, fun v ⟨timer, hnew, hcallback⟩ => ?_⟩
    rcases hcases hnew with ⟨heq, _⟩ | hold
    · omega
    · exact hnone v ⟨timer, hold, hcallback⟩
  · intro id timer v hnew hcallback
    rw [hobjects]
    rcases hcases hnew with ⟨heq, rfl⟩ | hold
    · obtain rfl : w = v := TimerCallback.move.inj hcallback
      rw [hself]
      exact ⟨rfl, hlive, heq.symm, hpaths⟩
    · obtain ⟨hforever, hthere, htoken, hway'⟩ := htimed.own id timer v hold hcallback
      have hne : v ≠ w := by
        rintro rfl
        exact hway' hway
      rw [hothers v hne]
      exact ⟨hforever, hthere, htoken, hway'⟩
  · intro v hway'
    by_cases hne : v = w
    · subst hne
      rw [hself]
      refine ⟨⟨.move v, expireMs, -1⟩, ?_, rfl⟩
      rw [harmed]
      exact Function.update_self ..
    · rw [hothers v hne] at hway' ⊢
      obtain ⟨timer, hold, hcallback⟩ := htimed.moving v hway'
      exact ⟨timer, hfresh hold, hcallback⟩
  · intro v hway'
    by_cases hne : v = w
    · rw [hne, hself] at hway'
      exact absurd hway' hpaths
    · rw [hothers v hne] at hway' ⊢
      exact htimed.idle v hway'
  · by_cases hne : v = w
    · subst hne
      have hindex := (hindexed v).2.1 hway
      rw [Indexed, hself]
      refine ⟨Int.le_of_eq hindex.symm, fun _ => hindex, fun _ => ?_⟩
      show (a.warrior v).pathIndex < (paths.length : Int)
      have hpositive := List.length_pos_iff.mpr hpaths
      omega
    · rw [Indexed, hothers v hne]
      exact hindexed v

end Apps

end Mysya
