import Mysya.GuardedRuns
import Mysya.SceneSteps

/-!
# The periods that come from a request

`move_speed` and `attack_speed` of a warrior and `max_time` of a combat get from a deploy request
to `StartTimer` and to a division, and nobody looks at them on the way. Where the requests keep
them in bounds no timer has a period below one millisecond, and nothing is divided by zero.
-/

open Std OwnedTimers GuardedRuns

namespace Mysya

open CombatManagers

namespace Apps

variable {a a' : Apps} {m : CombatManagers} {w sc : Ptr}

/-- No period is below a millisecond, no divisor was zero, and no warrior on a scene moves faster
than a step a millisecond. -/
structure Paced (a : Apps) : Prop where
  periods : ∀ ms ∈ a.periods, 1 ≤ ms
  divisors : ∀ n ∈ a.divisors, n ≠ 0
  moves : ∀ w, (a.warrior w).scene.isSome → 1 ≤ (a.warrior w).moveMs

theorem Paced.calm (h : a.Paced) (hm : m.PacedFields) (hcalm : Calm m a a') : a'.Paced := by
  constructor
  · intro ms hin
    rcases hcalm.periods ms hin with hold | hsearch | hrefind | ⟨w, hscene, rfl⟩ |
        ⟨combatId, warriorId, field, hfield, rfl⟩
    · exact h.periods ms hold
    · omega
    · omega
    · exact h.moves w hscene
    · obtain ⟨p, _, hp⟩ := Option.bind_eq_some_iff.mp hfield
      exact (hm.warriors p warriorId field hp).2.2
  · rw [show a'.divisors = a.divisors from congrArg Board.divisors hcalm.board]
    exact h.divisors
  · intro w hscene
    have hpost := post_warrior hcalm.board w
    simp only [Warrior.post, Prod.mk.injEq] at hpost
    rw [hpost.2.1] at hscene
    rw [hpost.2.2]
    exact h.moves w hscene

/-! ## The scenes -/

theorem Paced.same (h : a.Paced) (hperiods : a'.periods = a.periods)
    (hdivisors : a'.divisors = a.divisors) (hwarriors : ∀ w, a'.warrior w = a.warrior w) :
    a'.Paced := by
  constructor
  · rw [hperiods]
    exact h.periods
  · rw [hdivisors]
    exact h.divisors
  · intro w hscene
    rw [hwarriors] at hscene ⊢
    exact h.moves w hscene

theorem Paced.startTimer (h : a.Paced) {ms : Int} (hms : 1 ≤ ms) (callback : TimerCallback)
    (callTimes : Int) : (a.startTimer ms callback callTimes).2.Paced where
  periods := fun ms' hin => by
    have hin : ms' ∈ a.periods ++ [ms] := hin
    rcases List.mem_append.mp hin with hold | hnew
    · exact h.periods ms' hold
    · rw [List.mem_singleton.mp hnew]
      exact hms
  divisors := h.divisors
  moves := h.moves

theorem Paced.modifyWarrior (h : a.Paced) {change : Warrior → Warrior}
    (hchange : (change (a.warrior w)).scene.isSome → 1 ≤ (change (a.warrior w)).moveMs) :
    (a.modifyWarrior w change).Paced where
  periods := h.periods
  divisors := h.divisors
  moves := fun w' hscene => by
    by_cases heq : w' = w
    · subst heq
      cases hlive : (a.sceneWarriors.objects w').isSome with
      | true =>
        rw [show (a.modifyWarrior w' change).warrior w' = _ from PoolTemplate.read_modify hlive _]
          at hscene ⊢
        exact hchange hscene
      | false =>
        have hnone : (a.modifyWarrior w' change).warrior w' = default := by
          have hmodified : ((a.sceneWarriors.modify w' change).objects w').isSome =
              (a.sceneWarriors.objects w').isSome := PoolTemplate.modify_isSome change
          rw [hlive, Option.isSome_eq_false_iff, Option.isNone_iff_eq_none] at hmodified
          rw [warrior, PoolTemplate.read, Apps.modifyWarrior, hmodified]
          rfl
        rw [hnone] at hscene
        cases hscene
    · rw [show (a.modifyWarrior w change).warrior w' = _ from
        PoolTemplate.read_modify_other _ heq _] at hscene ⊢
      exact h.moves w' hscene

theorem Paced.moveReset (h : a.Paced) (w : Ptr) : (a.moveReset w).Paced := by
  have hclear : ∀ {a : Apps}, a.Paced → (a.modifyWarrior w fun warrior =>
      { warrior with pathIndex := 0, movePaths := [] }).Paced :=
    fun ha => ha.modifyWarrior (ha.moves w)
  rw [Apps.moveReset]
  split
  · exact hclear h
  · have hstop : (a.stopTimer (a.warrior w).timerMoveToken).Paced := h.same rfl rfl fun _ => rfl
    exact hclear (hstop.modifyWarrior (hstop.moves w))

theorem Paced.finalizeWarrior (h : a.Paced) (w : Ptr) : (a.finalizeWarrior w).Paced :=
  (h.moveReset w).modifyWarrior nofun

theorem Paced.deallocateWarrior (h : a.Paced) (w : Ptr) : (a.deallocateWarrior w).Paced where
  periods := (h.moveReset w).periods
  divisors := (h.moveReset w).divisors
  moves := fun w' hscene => by
    rcases PoolTemplate.deallocate_read_or (a.moveReset w).sceneWarriors w w' with hsame | hnew
    · rw [show (a.deallocateWarrior w).warrior w' = (a.moveReset w).warrior w' from hsame]
        at hscene ⊢
      exact (h.moveReset w).moves w' hscene
    · rw [show (a.deallocateWarrior w).warrior w' = default from hnew] at hscene
      cases hscene

theorem paced_foldl {α : Type} {f : Apps → α → Apps} (hf : ∀ a e, a.Paced → (f a e).Paced)
    (l : List α) {a : Apps} (h : a.Paced) : (l.foldl f a).Paced := by
  induction l generalizing a with
  | nil => exact h
  | cons e l ih => exact ih (hf a e h)

theorem Paced.abandonScene (h : a.Paced) (sc : Ptr) : (a.abandonScene sc).Paced := by
  have hstop : (if (a.scene sc).timerIdPrintStatusImage = -1 then a
      else a.stopTimer (a.scene sc).timerIdPrintStatusImage).Paced := by
    split
    · exact h
    · exact h.same rfl rfl fun _ => rfl
  have hbuildings := paced_foldl
    (f := fun (a : Apps) (entry : Int × Ptr) => a.deallocateBuilding entry.2)
    (fun a _ ha => ha.same rfl rfl fun _ => rfl) (a.scene sc).buildings.toList hstop
  have hwarriors := paced_foldl
    (f := fun (a : Apps) (entry : Int × Ptr) => a.deallocateWarrior entry.2)
    (fun a entry ha => ha.deallocateWarrior entry.2) (a.scene sc).warriors.toList hbuildings
  exact hwarriors.same rfl rfl fun _ => rfl

theorem Paced.placeBuilding (h : a.Paced) (m : CombatManagers) (combatId : Int) (sc : Ptr)
    (entry : Int × CombatBuildingField) :
    Attempts.Ends Paced Paced (placeBuilding m combatId sc a entry) := by
  rw [Apps.placeBuilding]
  split
  · rename_i pool _
    have hset : Paced { a with sceneBuildings := pool } := h.same rfl rfl fun _ => rfl
    exact hset.abandonScene sc
  · rename_i b pool _
    dsimp only
    split
    · have hset : Paced (deallocateBuilding { a with sceneBuildings := pool.modify b fun _ =>
          ⟨some (combatId, entry.1), some sc⟩ } b) := h.same rfl rfl fun _ => rfl
      exact hset.abandonScene sc
    · exact h.same rfl rfl fun _ => rfl

theorem Paced.raiseScene (h : a.Paced) (m : CombatManagers) (combat : CombatField) (sc : Ptr) :
    (a.raiseScene m combat sc).Paced := by
  have hinit : (a.initializeScene sc combat.id).Paced :=
    (h.startTimer (by omega) (.printStatusImage sc) (-1)).same rfl rfl fun _ => rfl
  have hends : Attempts.Ends Paced Paced
      (combat.buildings.toList.foldlM (Apps.placeBuilding m combat.id sc)
        (a.initializeScene sc combat.id)) := by
    refine Attempts.ends_foldlM (I := fun _ => Paced) ?_ _ hinit
    intro entry rest b hb
    exact hb.placeBuilding m combat.id sc entry
  rw [Apps.raiseScene]
  split
  · rename_i b hb
    exact hends.error hb
  · rename_i b hb
    have hb := hends.ok hb
    split
    · exact hb.abandonScene sc
    · exact hb.same rfl rfl fun _ => rfl

theorem Paced.allocateScene (h : a.Paced) {mapId : Int} {answer : Option Ptr}
    (hallocate : a.allocateScene mapId = some (answer, b)) : b.Paced := by
  rw [Apps.allocateScene] at hallocate
  split at hallocate
  · obtain ⟨_, ⟨⟩⟩ := Option.ite_none_left_eq_some.mp hallocate
    exact h.same rfl rfl fun _ => rfl
  · cases hallocate
    exact h.same rfl rfl fun _ => rfl

theorem Paced.beginScene (h : a.Paced) {m : CombatManagers} {combatId : Int}
    (hbegin : a.onEventCombatBeginScene m combatId = some b) : b.Paced := by
  rw [onEventCombatBeginScene] at hbegin
  split at hbegin
  · cases hbegin
    exact h
  · split at hbegin
    · cases hbegin
    · rename_i hb
      cases hbegin
      exact h.allocateScene hb
    · rename_i sc d hd
      cases hbegin
      exact (h.allocateScene hd).raiseScene m _ sc

theorem Paced.deathScene (h : a.Paced) (combatId : Int) (target : CombatEntity) :
    (a.onEventCombatDeathScene combatId target).Paced := by
  rw [onEventCombatDeathScene]
  split
  · exact h
  · split
    · exact h
    · split
      · exact h
      · rename_i sc _ _ _ _ w _
        have hremove : (a.modifyScene sc fun scene =>
            { scene with toBattleScene := scene.removeWarrior (a.warriorEntity w) }).Paced :=
          h.same rfl rfl fun _ => rfl
        exact (hremove.finalizeWarrior w).deallocateWarrior w

theorem Paced.settleScene (h : a.Paced) (combatId : Int) :
    (a.onEventCombatSettleScene combatId).Paced := by
  rw [onEventCombatSettleScene]
  split
  · exact h
  · rename_i sc _
    have hremove : Paced { a with scenes := Function.update a.scenes combatId none } :=
      h.same rfl rfl fun _ => rfl
    exact hremove.abandonScene sc

theorem Paced.stepTo (h : a.Paced) (sc w : Ptr) (i j : Nat) (pos : Position) :
    (a.stepTo sc w i j pos).Paced := by
  rw [Apps.stepTo]
  dsimp only
  split
  · refine Paced.moveReset ?_ w
    exact h.same rfl rfl fun _ => rfl
  · exact h.same rfl rfl fun _ => rfl

/-- The speed of a warrior in bounds gives its move a period. -/
theorem Paced.initializeWarrior (h : a.Paced) (key : EntityKey) {speed : Int}
    (hspeed : 1 ≤ speed ∧ speed ≤ 1000) : (a.initializeWarrior w key sc speed).Paced := by
  have hmove : 1 ≤ (1000 : Int).tdiv speed := by
    rw [Int.tdiv_eq_ediv_of_nonneg (by omega)]
    exact (Int.le_ediv_iff_mul_le (by omega)).mpr (by omega)
  have hdivided : Paced { a with divisors := a.divisors ++ [speed] } := by
    refine ⟨h.periods, fun n hin => ?_, h.moves⟩
    rcases List.mem_append.mp hin with hold | hnew
    · exact h.divisors n hold
    · rw [List.mem_singleton.mp hnew]
      omega
  exact hdivided.modifyWarrior fun _ => hmove

theorem Paced.sceneBuild (h : a.Paced) (hm : m.PacedFields) (combatId buildingId warriorId : Int) :
    (a.onRequireSceneBuild m combatId buildingId warriorId).2.Paced := by
  rw [onRequireSceneBuild]
  split
  · exact h
  · split
    · exact h
    · rename_i sc _
      split
      · rename_i field _ hfield
        obtain ⟨p, _, hp⟩ := Option.bind_eq_some_iff.mp hfield
        have hspeed := hm.warriors p warriorId field hp
        have hread := fun w => allocate_read a.sceneWarriors w
        split
        · rename_i pool hallocate
          rw [hallocate] at hread
          exact h.same rfl rfl hread
        · rename_i w pool hallocate
          rw [hallocate] at hread
          have hnew : Paced { a with sceneWarriors := pool } := h.same rfl rfl hread
          have hset : (Apps.initializeWarrior { a with sceneWarriors := pool } w (combatId, warriorId) sc
              field.moveSpeed).Paced :=
            hnew.initializeWarrior (combatId, warriorId) ⟨hspeed.1, hspeed.2.1⟩
          rw [placeWarrior]
          dsimp only
          split
          · exact hset.deallocateWarrior w
          · rename_i pos _
            split
            · refine Paced.deallocateWarrior (Paced.finalizeWarrior ?_ w) w
              exact hset.same rfl rfl fun _ => rfl
            · exact hset.same rfl rfl fun _ => rfl
      · exact h

end Apps

namespace Server

/-! ## Runs -/

/-- The attributes of warriors and the times of combats are in bounds, and the periods are. -/
def PacedThrough (m : CombatManagers) (a : Apps) : Prop := m.Paced ∧ a.Paced

/-- A positive time in milliseconds that does not overflow is a period. -/
theorem period_of_time {maxTime : Int} (h : PacedTime maxTime) :
    1 ≤ toInt32 (maxTime * 1000) := by
  obtain ⟨hlower, hupper⟩ := h
  rw [toInt32_eq (by omega)]
  omega

theorem pacedRule : SceneRule PacedThrough (fun _ _ _ => True) CombatInitialData.Paced where
  calm := fun ⟨hm, ha⟩ hcalm => ⟨hm, ha.calm hm.toPacedFields hcalm⟩
  goes := fun ⟨hm, ha⟩ _ hgoes => ⟨hgoes.keepsPace hm, ha⟩
  deploy := fun session hostId data ⟨hm, ha⟩ he hdata =>
    ⟨(he.deploy session hostId data).2.2.1 hdata hm, ha⟩
  memory := fun {s} memory ⟨hm, ha⟩ => by
    have hgoes : Goes s.managers (s.setMemory memory).managers :=
      goes_outside _ _ _ _ _ _
    exact ⟨hgoes.keepsPace hm, ha.same rfl rfl fun _ => rfl⟩
  timer := fun callback callTimes ⟨hm, ha⟩ => ⟨hm, ha.startTimer (by omega) callback callTimes⟩
  settleTimer := fun {m a c p} ⟨hm, ha⟩ hc =>
    ⟨hm, ha.startTimer (period_of_time (hm.times c p hc)) (.settle p) 1⟩
  stepTo := fun {m a sc w i j pos} ⟨hm, ha⟩ _ _ _ => ⟨hm, ha.stepTo sc w i j pos⟩
  build := fun {m m' a c p id} ⟨hm, ha⟩ _ hgoes _ _ _ buildingId =>
    ⟨hgoes.keepsPace hm, ha.sceneBuild (hgoes.keepsPace hm).toPacedFields c buildingId id⟩
  death := fun combatId target ⟨hm, ha⟩ => ⟨hm, ha.deathScene combatId target⟩
  begins := fun _ _ _ => trivial
  begin := fun ⟨hm, ha⟩ _ _ hbegin => ⟨hm, ha.beginScene hbegin⟩
  settle := fun {m a c p} ⟨hm, ha⟩ he hc => ⟨(he.closeCombat hc).paced hm, ha.settleScene c⟩

/-- Every deploy request has its warriors' attributes and its time in bounds. -/
def PaceGuard (_ : Server) (action : Action) : Prop :=
  ∀ session hostId data, action = .deploy session hostId data → data.Paced

/-- In a run of such requests no timer is started with a period below one millisecond and nothing
is divided by zero; the moves and the attacks of the warriors that are there have periods. -/
theorem attributes_paced (configs : Configs) (memory : Memory) (s : Server)
    (hs : Reaches (fun s a => some (step s a)) PaceGuard (started configs memory) s) :
    (∀ ms ∈ s.apps.periods, 1 ≤ ms) ∧ (∀ n ∈ s.apps.divisors, n ≠ 0) ∧
      ∀ combatId warriorId warrior, s.managers.getWarrior combatId warriorId = some warrior →
        warrior.moveSpeed ≠ 0 ∧ 1 ≤ (1000 : Int).tdiv warrior.moveSpeed ∧
          1 ≤ warrior.attackSpeed := by
  have hkeeps : s.Keeps PacedThrough := by
    refine hs.invariant ?_ fun s a s' h hguard hstep => ?_
    · obtain ⟨henrolled, hpaced⟩ := started_combats configs.combatInitialSize
        configs.combatExtendSize configs.combatRoleInitialSize configs.combatRoleExtendSize
        memory.combats memory.roles memory.buildingAnswers memory.warriorAnswers
      refine ⟨henrolled, hpaced, ⟨nofun, nofun, fun w hscene => ?_⟩⟩
      have hnew : (started configs memory).apps.warrior w = default := rfl
      rw [hnew] at hscene
      cases hscene
    · cases hstep
      exact pacedRule.step h ⟨fun _ _ _ => trivial, hguard⟩
  refine ⟨hkeeps.2.2.periods, hkeeps.2.2.divisors, fun combatId warriorId warrior h => ?_⟩
  obtain ⟨p, _, hp⟩ := Option.bind_eq_some_iff.mp h
  obtain ⟨hlower, hupper, hattack⟩ := hkeeps.2.1.warriors p warriorId warrior hp
  refine ⟨by omega, ?_, hattack⟩
  rw [Int.tdiv_eq_ediv_of_nonneg (by omega)]
  exact (Int.le_ediv_iff_mul_le (by omega)).mpr (by omega)

/-- One role with a building, and a warrior of these speeds. -/
def recruits (moveSpeed attackSpeed : Int) : CombatInitialData where
  mapId := 1
  maxTime := 60
  camps := [
    { id := 1
      initFood := 10
      maxFood := 100
      initElixir := 10
      maxElixir := 100
      roles := [⟨7, "role", [⟨1, 1, 10, 20, 1, moveSpeed, attackSpeed, 1, 1, 1, 1⟩],
        [⟨1, 1, 50, 1, 0, 1, 5, 1, 1⟩]⟩]
      buildings := [] }]

/-- The combat has begun, the role has a warrior, and it is sent to another grid. -/
def marching (moveSpeed attackSpeed : Int) : Server :=
  (((((small (fun _ => some ⟨1, 4, ['0', '0', '0', '0']⟩) ⟨[some 0], [some 0], [true], [true],
    [some 0], [some 0], [some 0], [some 0], [some 0]⟩).step (.accept 0)).step
      (.deploy 0 5 (recruits moveSpeed attackSpeed))).step (.begin 0 0)).step (.build 7 1 1)).step
        (.move 7 [2] ⟨2, 0⟩)

theorem attributes_paced_marching :
    (∀ ms ∈ (marching 5 400).apps.periods, 1 ≤ ms) ∧
      ∀ n ∈ (marching 5 400).apps.divisors, n ≠ 0 := by
  have hdeploy : PaceGuard ((small (fun _ => some ⟨1, 4, ['0', '0', '0', '0']⟩) ⟨[some 0], [some 0],
      [true], [true], [some 0], [some 0], [some 0], [some 0], [some 0]⟩).step (.accept 0))
        (.deploy 0 5 (recruits 5 400)) := by
    intro session hostId data h
    cases h
    refine ⟨by decide, fun camp hcamp role hrole d hd => ?_⟩
    obtain rfl := List.mem_singleton.mp hcamp
    obtain rfl := List.mem_singleton.mp hrole
    obtain rfl := List.mem_singleton.mp hd
    decide
  have hreaches : Reaches (fun s a => some (step s a)) PaceGuard _ (marching 5 400) :=
    ((((Reaches.refl.snoc (.accept 0) nofun rfl).snoc (.deploy 0 5 (recruits 5 400)) hdeploy
      rfl).snoc (.begin 0 0) nofun rfl).snoc (.build 7 1 1) nofun rfl).snoc (.move 7 [2] ⟨2, 0⟩)
        nofun rfl
  have hpaced := attributes_paced _ _ (marching 5 400) hreaches
  exact ⟨hpaced.1, hpaced.2.1⟩

/-- A warrior without a speed divides by zero, and one that is too fast moves without a period. -/
theorem speeds_unchecked : 0 ∈ (marching 0 400).apps.divisors ∧
    0 ∈ (marching 2000 400).apps.periods := by
  decide +kernel

end Server

end Mysya
