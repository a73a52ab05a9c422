import Mysya.AutoCounts

/-!
# Autos that come and go

What the events make of the autos and of the numbers of the buildings: a dispatch calls the
registered autos that observe, an auto is taken from the pool and given back, and the buildings of
a combat are raised while it has no auto.
-/

open Std OwnedTimers FiberCounts Attempts

namespace Mysya.Apps

variable {a a' : Apps} {x y : Ptr} {k key : EntityKey} {A B : EntityKey → Option Ptr}
  {R : EntityKey → Ptr → Prop} {pool : PoolTemplate Auto}

/-- The registry as a relation. -/
def Listed (A : EntityKey → Option Ptr) (k : EntityKey) (x : Ptr) : Prop := A k = some x

/-- The invariant of the AI: nothing is owed, and the autos in use are those in the registry. -/
def Counting (a : Apps) : Prop := a.Targeted a.autoes a.buildings (Listed a.autoes) a.aims

theorem Targeted.counting (h : a.Targeted A B (Listed A) a.aims) : a.Counting := by
  rw [Counting, h.autoes, h.buildings]
  exact h

theorem Beside.counting (hb : Beside a a') (h : a.Counting) : a'.Counting :=
  (hb.targeted_aims h).counting

/-! ## Dispatching -/

/-- A handler that keeps the invariant for every auto in the registry. -/
theorem Counting.dispatch (h : a.Counting) (combatId entityId : Int) {handler : Apps → Ptr → Apps}
    (hhandler : ∀ (b : Apps) (k : EntityKey) (x : Ptr),
      b.Targeted a.autoes a.buildings (Listed a.autoes) b.aims → a.autoes k = some x →
      (handler b x).Targeted a.autoes a.buildings (Listed a.autoes) (handler b x).aims) :
    (a.dispatch combatId entityId handler).Targeted a.autoes a.buildings (Listed a.autoes)
      (a.dispatch combatId entityId handler).aims := by
  refine dispatch_rule (I := fun b => b.Targeted a.autoes a.buildings (Listed a.autoes) b.aims)
    h ?_ ?_ ?_ ?_ ?_
  · exact Beside.targeted_aims (.same rfl rfl rfl rfl rfl)
  · intro b autoId x hx hb
    rw [hb.autoes] at hx
    exact hhandler b _ x hb hx
  · exact fun b => Beside.targeted_aims (.same rfl rfl rfl rfl rfl)
  · exact fun b _ _ _ => (beside_observerRemove b _ _ _).targeted_aims
  · exact fun b => Beside.targeted_aims (.same rfl rfl rfl rfl rfl)

/-! ## Taking an auto from the pool and giving it back -/

/-- What is taken from the pool is read as before. -/
theorem Targeted.allocated (h : a.Targeted A B R a.aims) {answer : Option Ptr}
    (hp : a.autoPool.allocate = (answer, pool)) :
    ({ a with autoPool := pool }).Targeted A B R ({ a with autoPool := pool } : Apps).aims := by
  have hgrown := PoolTemplate.grown_of_allocate h.autoPool hp
  have hauto : ∀ y, ({ a with autoPool := pool } : Apps).auto y = a.auto y := by
    intro y
    rcases hgrown.objects y with hsame | ⟨hnone, hdefault⟩
    · exact congrArg (fun object => object.getD default) hsame
    · show (pool.objects y).getD default = (a.autoPool.objects y).getD default
      rw [hnone, hdefault]
      rfl
  have haims : ({ a with autoPool := pool } : Apps).aims = a.aims :=
    funext fun y => congrArg Auto.aim (hauto y)
  rw [haims]
  exact h.repool hgrown.sound (fun y => hgrown.held) fun y => ⟨_, hauto y⟩

/-- An auto that was taken from the pool is in use for the warrior. -/
theorem Targeted.initializeAuto (h : a.Targeted A B R a.aims)
    (hp : a.autoPool.allocate = (some x, pool)) (key : EntityKey) :
    ({ a with autoPool := pool }.initializeAuto x key).Targeted A B
      (fun k y => R k y ∨ k = key ∧ y = x) ({ a with autoPool := pool }.initializeAuto x key).aims := by
  obtain ⟨hheld, hnew⟩ := PoolTemplate.allocate_held h.autoPool hp
  have hpool := h.allocated hp
  have hout : ∀ k, ¬ R k x := fun k hk => hnew (h.registered k x hk).1
  have hstatus := hpool.idle x hout
  obtain ⟨b, hb⟩ : ∃ b, b = { a with autoPool := pool }.modifyAuto x fun auto => { auto with
      host := some key, presentStatus := some .search, target := ⟨.building, 0⟩ } := ⟨_, rfl⟩
  have hself : b.auto x = { ({ a with autoPool := pool } : Apps).auto x with
      host := some key, presentStatus := some .search, target := ⟨.building, 0⟩ } := by
    rw [hb]
    exact modifyAuto_self hheld.1 _
  have hother : ∀ {y}, y ≠ x → b.auto y = ({ a with autoPool := pool } : Apps).auto y := by
    intro y hy
    rw [hb]
    exact modifyAuto_other _ hy _
  have haims : Function.update b.aims x none = ({ a with autoPool := pool } : Apps).aims := by
    funext y
    by_cases hy : y = x
    · rw [hy, Function.update_self, aims_none (by simp [hstatus])]
    · rw [Function.update_of_ne hy]
      exact congrArg Auto.aim (hother hy)
  have hcalls : ∀ {id timer y}, a.timers.armed id = some timer →
      timer.callback = .search y ∨ timer.callback = .refindPath y → y ≠ x := by
    rintro id timer y harmed hcallback rfl
    rcases hcallback with hsearch | hrefind
    · have hsearch := (hpool.search id timer y harmed hsearch).2.1
      rw [hstatus] at hsearch
      cases hsearch
    · have hchase := (hpool.refindPath id timer y harmed hrefind).2.1
      rw [hstatus] at hchase
      cases hchase
  have howing : b.Owing A B (fun k y => R k y ∨ k = key ∧ y = x) x key (some .search) none := by
    refine ⟨?_, Or.inr ⟨rfl, rfl⟩, by rw [hself], ?_⟩
    · rw [haims]
      constructor
      · rw [hb]
        exact hpool.autoes
      · rw [hb]
        exact hpool.buildings
      · rw [hb]
        exact hpool.autoPool.modify x _
      · rintro k y (hy | ⟨rfl, rfl⟩)
        · have hne : y ≠ x := by
            rintro rfl
            exact hout k hy
          rw [hother hne, hb]
          exact ⟨(PoolTemplate.held_modify _).mpr (hpool.registered k y hy).1,
            (hpool.registered k y hy).2⟩
        · rw [hself, hb]
          exact ⟨(PoolTemplate.held_modify _).mpr hheld, rfl⟩
      · intro y hy
        have hne : y ≠ x := by
          rintro rfl
          exact hy key (Or.inr ⟨rfl, rfl⟩)
        rw [hother hne]
        exact hpool.idle y fun k hk => hy k (Or.inl hk)
      · refine (hpool.small.update x (some .search)).congr fun y => ?_
        by_cases hy : y = x
        · rw [hy, Function.update_self, hself]
        · rw [Function.update_of_ne hy, hother hy]
      · rw [hb]
        exact hpool.buildingPool
      · rw [hb]
        exact hpool.raised
      · rw [hb]
        exact hpool.counted
      · rw [hb]
        exact hpool.timers
      · intro id timer y harmed hcallback
        rw [hb] at harmed
        rw [hother (hcalls harmed (Or.inl hcallback))]
        exact hpool.search id timer y harmed hcallback
      · intro id timer y harmed hcallback
        rw [hb] at harmed
        rw [hother (hcalls harmed (Or.inr hcallback))]
        exact hpool.refindPath id timer y harmed hcallback
    · intro id timer harmed
      rw [hb] at harmed
      exact ⟨fun hcallback => hcalls harmed (Or.inl hcallback) rfl,
        fun hcallback => hcalls harmed (Or.inr hcallback) rfl⟩
  rw [Apps.initializeAuto]
  refine Owing.startSearch (k := key) ((beside_observerAdd _ _ _ _).owing ?_)
  rw [← hb]
  exact howing

/-- An auto that is finalised goes back to the pool. -/
theorem Targeted.finalizeAuto (h : a.Targeted A B R a.aims) (hx : R k x) :
    ((a.finalizeAuto x).deallocateAuto x).Targeted A B (fun k y => R k y ∧ y ≠ x)
      ((a.finalizeAuto x).deallocateAuto x).aims := by
  have hstatus : ((a.stopPresentStatus x).modifyAuto x fun auto =>
      { auto with presentStatus := none }).Owing A B R x k none none :=
    (h.stopPresentStatus hx).modifyAuto rfl rfl
  have hstop := hstatus.resetTarget
  obtain ⟨b, hb⟩ : ∃ b, b = ((a.stopPresentStatus x).modifyAuto x fun auto =>
    { auto with presentStatus := none }).resetTarget x := ⟨_, rfl⟩
  rw [← hb] at hstop
  obtain ⟨c, hc⟩ : ∃ c, c = (a.finalizeAuto x).deallocateAuto x := ⟨_, rfl⟩
  have hcb : c = (b.modifyAuto x fun auto => { auto with host := none }).deallocateAuto x := by
    rw [hc, hb]
    rfl
  rw [← hc]
  have hsound := hstop.autoPool.modify x fun auto => { auto with host := none }
  have hheld : (b.autoPool.modify x fun auto => { auto with host := none }).Held x :=
    (PoolTemplate.held_modify _).mpr (hstop.registered k x hx).1
  have hkept : ∀ {k' y}, R k' y → y ≠ x → c.autoPool.Held y ∧ c.auto y = b.auto y := by
    intro k' y hy hne
    have hy' : (b.autoPool.modify x fun auto => { auto with host := none }).Held y :=
      (PoolTemplate.held_modify _).mpr (hstop.registered k' y hy).1
    have hobject := PoolTemplate.deallocate_objects hsound hheld hy'.2 hne
    rw [hcb]
    refine ⟨PoolTemplate.deallocate_held hsound hheld hy' hne, ?_⟩
    exact (congrArg (fun object => object.getD default) hobject).trans
      (PoolTemplate.read_modify_other _ hne _)
  have hidle : ∀ y, (∀ k', ¬ (R k' y ∧ y ≠ x)) → (c.auto y).presentStatus = none := by
    intro y hy
    have hmodified : ((b.modifyAuto x fun auto => { auto with host := none }).auto
        y).presentStatus = none := by
      by_cases hne : y = x
      · rw [hne, modifyAuto_self hstop.live]
        exact hstop.status
      · rw [modifyAuto_other _ hne]
        exact hstop.idle y fun k' hk' => hy k' ⟨hk', hne⟩
    rw [hcb]
    rcases PoolTemplate.deallocate_objects_or
      (b.autoPool.modify x fun auto => { auto with host := none }) x y with hsame | hnone
    · exact (congrArg (fun object => (object.getD default).presentStatus) hsame).trans hmodified
    · exact congrArg (fun object => (object.getD default).presentStatus) hnone
  have hstatus : ∀ y, (c.auto y).presentStatus = (b.auto y).presentStatus := by
    intro y
    by_cases hy : ∃ k', R k' y ∧ y ≠ x
    · obtain ⟨k', hk', hne⟩ := hy
      rw [(hkept hk' hne).2]
    · have hy : ∀ k', ¬ (R k' y ∧ y ≠ x) := fun k' hk' => hy ⟨k', hk'⟩
      rw [hidle y hy]
      by_cases hne : y = x
      · rw [hne, hstop.status]
      · exact (hstop.idle y fun k' hk' => hy k' ⟨hk', hne⟩).symm
  have haims : c.aims = Function.update b.aims x none := by
    funext y
    by_cases hy : ∃ k', R k' y ∧ y ≠ x
    · obtain ⟨k', hk', hne⟩ := hy
      rw [Function.update_of_ne hne]
      exact congrArg Auto.aim (hkept hk' hne).2
    · have hy : ∀ k', ¬ (R k' y ∧ y ≠ x) := fun k' hk' => hy ⟨k', hk'⟩
      rw [aims_none (by simp [hidle y hy])]
      by_cases hne : y = x
      · rw [hne, Function.update_self]
      · rw [Function.update_of_ne hne, aims_none]
        rw [← hstatus, hidle y hy]
        simp
  have hmember : ∀ {y}, (b.auto y).presentStatus ≠ none → ∃ k', R k' y ∧ y ≠ x := by
    intro y hy
    by_contra hout
    rw [← hstatus] at hy
    exact hy (hidle y fun k' hk' => hout ⟨k', hk'⟩)
  rw [haims]
  constructor
  · rw [hcb]
    exact hstop.autoes
  · rw [hcb]
    exact hstop.buildings
  · rw [hcb]
    exact (PoolTemplate.deallocate_reduced hsound hheld).sound
  · rintro k' y ⟨hy, hne⟩
    obtain ⟨hheld', hauto⟩ := hkept hy hne
    rw [hauto]
    exact ⟨hheld', (hstop.registered k' y hy).2⟩
  · exact hidle
  · exact hstop.small.congr fun y => (hstatus y).symm
  · rw [hcb]
    exact hstop.buildingPool
  · rw [hcb]
    exact hstop.raised
  · rw [hcb]
    exact hstop.counted
  · rw [hcb]
    exact hstop.timers
  · intro id timer y harmed hcallback
    rw [hcb] at harmed
    have hold := hstop.search id timer y harmed hcallback
    obtain ⟨k', hk', hne⟩ := hmember (y := y) (by simp [hold.2.1])
    rw [(hkept hk' hne).2]
    exact hold
  · intro id timer y harmed hcallback
    rw [hcb] at harmed
    have hold := hstop.refindPath id timer y harmed hcallback
    obtain ⟨k', hk', hne⟩ := hmember (y := y) (by simp [hold.2.1])
    rw [(hkept hk' hne).2]
    exact hold

theorem Targeted.relist {f : Ptr → Option EntityKey} (h : a.Targeted A B R f)
    (A' : EntityKey → Option Ptr) : ({ a with autoes := A' }).Targeted A' B R f :=
  { h with autoes := rfl }

theorem Counting.dropAuto (h : a.Counting) (hdrop : a.dropAuto key = some a') : a'.Counting := by
  rw [Apps.dropAuto, Option.map_eq_some_iff] at hdrop
  obtain ⟨x, hx, rfl⟩ := hdrop
  have hdropped := (Targeted.relist h (Function.update a.autoes key none)).finalizeAuto hx
  have hlisted : (fun k y => Listed a.autoes k y ∧ y ≠ x) =
      Listed (Function.update a.autoes key none) := by
    funext k y
    refine propext ?_
    show a.autoes k = some y ∧ y ≠ x ↔ Function.update a.autoes key none k = some y
    by_cases hk : k = key
    · rw [hk, Function.update_self, hx]
      simp [eq_comm]
    · rw [Function.update_of_ne hk]
      refine ⟨And.left, fun hy => ⟨hy, ?_⟩⟩
      rintro rfl
      have hhost := (h.registered k y hy).2
      rw [(h.registered key y hx).2] at hhost
      exact hk (Option.some.inj hhost).symm
  rw [hlisted] at hdropped
  exact hdropped.counting

theorem Counting.build (h : a.Counting) (m : CombatManagers) (combatId warriorId : Int) :
    (a.onEventCombatBuildAction m combatId warriorId).Counting := by
  rw [onEventCombatBuildAction]
  split
  · exact h
  · split
    · rename_i pool hp
      exact (h.allocated hp).counting
    · rename_i x pool hp
      have hnew := h.initializeAuto hp (combatId, warriorId)
      have hout : ∀ k, ¬ Listed a.autoes k x :=
        fun k hk => (PoolTemplate.allocate_held h.autoPool hp).2 (h.registered k x hk).1
      dsimp only
      split
      · have hback := hnew.finalizeAuto (Or.inr ⟨rfl, rfl⟩)
        have hlisted : (fun k y => (Listed a.autoes k y ∨ k = (combatId, warriorId) ∧ y = x) ∧
            y ≠ x) = Listed a.autoes := by
          funext k y
          refine propext ⟨?_, fun hy => ⟨Or.inl hy, ?_⟩⟩
          · rintro ⟨hy | ⟨_, hy⟩, hne⟩
            · exact hy
            · exact absurd hy hne
          · rintro rfl
            exact hout k hy
        rw [hlisted] at hback
        exact hback.counting
      · rename_i hfree
        rw [hnew.autoes] at hfree ⊢
        have hfree : a.autoes (combatId, warriorId) = none := by simpa using hfree
        have hlisted : (fun k y => Listed a.autoes k y ∨ k = (combatId, warriorId) ∧ y = x) =
            Listed (Function.update a.autoes (combatId, warriorId) (some x)) := by
          funext k y
          refine propext ?_
          show a.autoes k = some y ∨ k = (combatId, warriorId) ∧ y = x ↔
            Function.update a.autoes (combatId, warriorId) (some x) k = some y
          by_cases hk : k = (combatId, warriorId)
          · rw [hk, Function.update_self, hfree]
            simp [eq_comm]
          · rw [Function.update_of_ne hk]
            simp [hk]
        rw [hlisted] at hnew
        exact (hnew.relist _).counting

/-! ## The buildings -/

/-- Other objects for the buildings, with the same numbers. -/
theorem Counting.setPool (h : a.Counting) {pool : PoolTemplate AiBuilding} (hsound : pool.Sound)
    (hbuildings : ∀ k b, a.buildings k = some b → pool.Held b ∧
      (pool.read b).host = (a.buildingPool.read b).host ∧
      (pool.read b).targetedNum = (a.buildingPool.read b).targetedNum) :
    ({ a with buildingPool := pool } : Apps).Counting := by
  refine Targeted.counting (h.recount hsound fun k b hb => ?_)
  obtain ⟨hheld, hhost, hnum⟩ := hbuildings k b hb
  refine ⟨hheld, ?_, ?_⟩
  · rw [hhost]
    exact (h.raised k b hb).2
  · rw [hnum]
    exact h.counted k b hb

/-- A building changes but for its number. -/
theorem Counting.modifyBuilding (h : a.Counting) (b : Ptr) {change : AiBuilding → AiBuilding}
    (hchange : ∀ building, (change building).host = building.host ∧
      (change building).targetedNum = building.targetedNum) :
    ({ a with buildingPool := a.buildingPool.modify b change } : Apps).Counting := by
  refine h.setPool (h.buildingPool.modify b change) fun k b' hb' => ?_
  have hheld := (h.raised k b' hb').1
  refine ⟨(PoolTemplate.held_modify _).mpr hheld, ?_⟩
  by_cases heq : b' = b
  · subst heq
    rw [PoolTemplate.read_modify hheld.1]
    exact hchange _
  · rw [PoolTemplate.read_modify_other _ heq]
    exact ⟨rfl, rfl⟩

/-- No auto of the combat is registered. -/
def Deserted (a : Apps) (combatId : Int) : Prop := ∀ warriorId, a.autoes (combatId, warriorId) = none

theorem Counting.deserted_hits (h : a.Counting) {combatId : Int} (hdeserted : a.Deserted combatId)
    (buildingId : Int) : hits a.aims (combatId, buildingId) = 0 := by
  rw [h.small_aims.hits_eq_zero]
  intro x hx
  have hstatus : (a.auto x).presentStatus ≠ none := by
    have haim : (a.auto x).aim.isSome := by
      rw [show (a.auto x).aim = _ from hx]
      rfl
    have hsome := Auto.status_of_aim haim
    intro hnone
    rw [hnone] at hsome
    cases hsome
  obtain ⟨k, hk⟩ : ∃ k, a.autoes k = some x := by
    by_contra hout
    exact hstatus (h.idle x fun k hk => hout ⟨k, hk⟩)
  have hx : (a.auto x).aim = some (combatId, buildingId) := hx
  rw [Auto.aim, (h.registered k x hk).2, Option.bind_some] at hx
  split at hx
  · have hfst : k.1 = combatId := congrArg Prod.fst (Option.some.inj hx)
    have hnone := hdeserted k.2
    rw [← hfst] at hnone
    rw [show (k.1, k.2) = k from rfl, hk] at hnone
    cases hnone
  · cases hx

/-- A building is raised while its combat has no auto, and once. -/
theorem Counting.raiseAiBuilding (h : a.Counting) {combatId buildingId : Int}
    (hready : a.Deserted combatId ∨ (a.buildings (combatId, buildingId)).isSome) :
    Ends (fun a' => a'.Counting ∧ a'.autoes = a.autoes ∧
      a.buildings (combatId, buildingId) = none) Counting
      (a.raiseAiBuilding combatId buildingId) := by
  have hread : ∀ {answer : Option Ptr} {pool : PoolTemplate AiBuilding},
      a.buildingPool.allocate = (answer, pool) → ∀ b, pool.read b = a.buildingPool.read b := by
    intro answer pool hp b
    rcases (PoolTemplate.grown_of_allocate h.buildingPool hp).objects b with hsame | ⟨hnone, hdefault⟩
    · exact congrArg (fun object => object.getD default) hsame
    · show (pool.objects b).getD default = (a.buildingPool.objects b).getD default
      rw [hnone, hdefault]
      rfl
  rw [Apps.raiseAiBuilding]
  split
  · rename_i pool hp
    have hgrown := PoolTemplate.grown_of_allocate h.buildingPool hp
    refine h.setPool hgrown.sound fun k b hb => ⟨hgrown.held (h.raised k b hb).1, ?_⟩
    rw [hread hp]
    exact ⟨rfl, rfl⟩
  · rename_i b pool hp
    have hgrown := PoolTemplate.grown_of_allocate h.buildingPool hp
    obtain ⟨hheld, hnew⟩ := PoolTemplate.allocate_held h.buildingPool hp
    have hne : ∀ {k b'}, a.buildings k = some b' → b' ≠ b := by
      rintro k b' hb' rfl
      exact hnew (h.raised k b' hb').1
    have hold : ∀ (building : AiBuilding) {k b'}, a.buildings k = some b' →
        (pool.modify b fun _ => building).Held b' ∧
          (pool.modify b fun _ => building).read b' = a.buildingPool.read b' := by
      intro building k b' hb'
      refine ⟨(PoolTemplate.held_modify _).mpr (hgrown.held (h.raised k b' hb').1), ?_⟩
      rw [PoolTemplate.read_modify_other _ (hne hb'), hread hp]
    split
    · have hsound := hgrown.sound.modify b fun _ => (⟨none, 0, none⟩ : AiBuilding)
      have hheld' : (pool.modify b fun _ => (⟨none, 0, none⟩ : AiBuilding)).Held b :=
        (PoolTemplate.held_modify _).mpr hheld
      refine h.setPool (PoolTemplate.deallocate_reduced hsound hheld').sound fun k b' hb' => ?_
      obtain ⟨hkept, hsame⟩ := hold ⟨none, 0, none⟩ hb'
      have hobject := PoolTemplate.deallocate_objects hsound hheld' hkept.2 (hne hb')
      have hread' : ((pool.modify b fun _ => (⟨none, 0, none⟩ : AiBuilding)).deallocate b).read b' =
          a.buildingPool.read b' :=
        (congrArg (fun object => object.getD default) hobject).trans hsame
      rw [hread']
      exact ⟨PoolTemplate.deallocate_held hsound hheld' hkept (hne hb'), rfl, rfl⟩
    · rename_i hfree
      have hdeserted : a.Deserted combatId := hready.resolve_right hfree
      refine ⟨?_, rfl, by simpa using hfree⟩
      have hzero := h.deserted_hits hdeserted buildingId
      have hself := PoolTemplate.read_modify hheld.1
        fun _ => (⟨some (combatId, buildingId), 0, some .host⟩ : AiBuilding)
      refine Targeted.counting (A := a.autoes) (B := Function.update a.buildings
        (combatId, buildingId) (some b)) ?_
      refine ⟨h.autoes, rfl, h.autoPool, h.registered, h.idle, h.small, hgrown.sound.modify b _, ?_, ?_,
        h.timers, h.search, h.refindPath⟩
      · intro k b' hb'
        have hb' : Function.update a.buildings (combatId, buildingId) (some b) k = some b' := hb'
        by_cases hk : k = (combatId, buildingId)
        · rw [hk, Function.update_self] at hb'
          obtain rfl := Option.some.inj hb'
          rw [hk]
          exact ⟨(PoolTemplate.held_modify _).mpr hheld, congrArg AiBuilding.host hself⟩
        · rw [Function.update_of_ne hk] at hb'
          obtain ⟨hkept, hsame⟩ := hold ⟨some (combatId, buildingId), 0, some .host⟩ hb'
          refine ⟨hkept, ?_⟩
          rw [hsame]
          exact (h.raised k b' hb').2
      · intro k b' hb'
        have hb' : Function.update a.buildings (combatId, buildingId) (some b) k = some b' := hb'
        by_cases hk : k = (combatId, buildingId)
        · rw [hk, Function.update_self] at hb'
          obtain rfl := Option.some.inj hb'
          rw [hk]
          exact (congrArg AiBuilding.targetedNum hself).trans hzero.symm
        · rw [Function.update_of_ne hk] at hb'
          obtain ⟨_, hsame⟩ := hold ⟨some (combatId, buildingId), 0, some .host⟩ hb'
          exact (congrArg AiBuilding.targetedNum hsame).trans (h.counted k b' hb')

/-- The first building of the combat is raised. -/
def FirstRaised (a : Apps) (combatId : Int) (buildingIds : List Int) : Prop :=
  ∀ buildingId ∈ buildingIds.head?, (a.buildings (combatId, buildingId)).isSome

/-- A combat begins that has no auto, or has begun before. -/
theorem Counting.begin (h : a.Counting) (m : CombatManagers) (combatId : Int)
    (hready : ∀ p, m.combats[combatId]? = some p →
      a.Deserted combatId ∨ a.FirstRaised combatId (m.combat p).buildings.keys) :
    (a.onEventCombatBeginAi m combatId).Counting := by
  rw [onEventCombatBeginAi]
  split
  · exact h
  · rename_i p hp
    have hends : Ends Counting Counting
        ((m.combat p).buildings.keys.foldlM (Apps.raiseAiBuilding combatId) a) := by
      rcases hready p hp with hdeserted | hfirst
      · refine (ends_foldlM (I := fun _ b => b.Counting ∧ b.autoes = a.autoes) ?_ _
          ⟨h, rfl⟩).mono (fun b hb => hb.1) fun b hb => hb
        rintro buildingId rest b ⟨hb, hsame⟩
        have hdeserted' : b.Deserted combatId := by
          intro warriorId
          rw [hsame]
          exact hdeserted warriorId
        exact (hb.raiseAiBuilding (Or.inl hdeserted')).mono
          (fun c hc => ⟨hc.1, hc.2.1.trans hsame⟩) fun c hc => hc
      · cases hkeys : (m.combat p).buildings.keys with
        | nil => exact h
        | cons buildingId rest =>
          have hraised : (a.buildings (combatId, buildingId)).isSome :=
            hfirst buildingId (by rw [hkeys]; rfl)
          rw [List.foldlM_cons]
          refine (h.raiseAiBuilding (Or.inr hraised)).bind fun b hb => ?_
          rw [hb.2.2] at hraised
          cases hraised
    split
    · rename_i b hb
      exact hends.error hb
    · rename_i b hb
      exact hends.ok hb

end Mysya.Apps
