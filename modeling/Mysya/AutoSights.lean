import Mysya.AutoRuns
import Mysya.LostTargets

/-!
# What an auto observes

An auto is to observe its own warrior and, if it has one, its target. Outside of a dispatch every
change of status keeps that: the auto leaves the observers of its warrior and joins them again, and
an attack that ends takes its target away with what was observed of it. A target that is set where
another one is left is the exception.
-/

open Std OwnedTimers Attempts

namespace Mysya

/-- What decides what an auto is to observe. -/
def Auto.sight (auto : Auto) : Option EntityKey × Option AutoStatus × CombatEntity :=
  (auto.host, auto.presentStatus, auto.target)

/-- The auto of `key` is to observe the entity. -/
def Auto.Heeds (auto : Auto) (key : EntityKey) (entityId : Int) : Prop :=
  entityId = key.2 ∨ auto.target.id ≠ 0 ∧ entityId = auto.target.id

theorem Auto.Heeds.congr {auto auto' : Auto} (h : auto'.target = auto.target) {key : EntityKey}
    {entityId : Int} : auto'.Heeds key entityId ↔ auto.Heeds key entityId := by
  rw [Heeds, Heeds, h]

namespace Apps

variable {a b d : Apps} {m : CombatManagers} {K : EntityKey → Prop} {k : EntityKey} {x y : Ptr}
  {O O' : Int → Prop}

/-! ## Steps that leave all sights -/

/-- The autos are to observe what they were to, and the event observer is as it was. -/
structure Aside (a b : Apps) : Prop where
  autoes : b.autoes = a.autoes
  observer : b.observer = a.observer
  live : ∀ y, (b.autoPool.objects y).isSome = (a.autoPool.objects y).isSome
  sight : ∀ y, (b.auto y).sight = (a.auto y).sight

theorem Aside.same (hautoes : b.autoes = a.autoes) (hobserver : b.observer = a.observer)
    (hpool : b.autoPool = a.autoPool) : Aside a b where
  autoes := hautoes
  observer := hobserver
  live := fun y => by rw [hpool]
  sight := fun y => by rw [auto, auto, hpool]

theorem Aside.refl (a : Apps) : Aside a a := .same rfl rfl rfl

theorem Aside.trans (h : Aside a b) (h' : Aside b d) : Aside a d where
  autoes := h'.autoes.trans h.autoes
  observer := h'.observer.trans h.observer
  live := fun y => (h'.live y).trans (h.live y)
  sight := fun y => (h'.sight y).trans (h.sight y)

theorem Aside.fields (h : Aside a b) (y : Ptr) : (b.auto y).host = (a.auto y).host ∧
    (b.auto y).presentStatus = (a.auto y).presentStatus ∧ (b.auto y).target = (a.auto y).target := by
  have hsight := h.sight y
  simp only [Auto.sight, Prod.mk.injEq] at hsight
  exact hsight

theorem Aside.autoKey (h : Aside a b) (y : Ptr) : b.autoKey y = a.autoKey y := by
  rw [Apps.autoKey, Apps.autoKey, (h.fields y).1]

theorem Outside.aside (h : Outside a b) : Aside a b := .same h.autoes h.observer h.autoPool

theorem aside_modifyAuto (a : Apps) (x : Ptr) {change : Auto → Auto}
    (hchange : ∀ auto, (change auto).sight = auto.sight) : Aside a (a.modifyAuto x change) where
  autoes := rfl
  observer := rfl
  live := fun _ => PoolTemplate.modify_isSome change
  sight := fun y => PoolTemplate.view_read (f := Auto.sight)
    (PoolTemplate.view_modify fun auto _ => hchange auto) y

theorem aside_startTimer (a : Apps) (expireMs : Int) (callback : TimerCallback) (callTimes : Int) :
    Aside a (a.startTimer expireMs callback callTimes).2 := .same rfl rfl rfl

theorem aside_resetTimer (a : Apps) (x : Ptr) (id : Int) {change : Auto → Auto}
    (hchange : ∀ auto, (change auto).sight = auto.sight) :
    Aside a ((a.stopTimer id).modifyAuto x change) := by
  have hstop : Aside a (a.stopTimer id) := .same rfl rfl rfl
  exact hstop.trans (aside_modifyAuto _ x hchange)

theorem aside_stopSearch (a : Apps) (x : Ptr) : Aside a (a.stopSearch x) := by
  rw [stopSearch]
  split
  · exact .refl a
  · exact aside_resetTimer a x _ fun _ => rfl

theorem aside_stopChase (a : Apps) (x : Ptr) : Aside a (a.stopChase x) := by
  rw [stopChase]
  split
  · exact .refl a
  · exact aside_resetTimer a x _ fun _ => rfl

theorem aside_resetAttackTimer (a : Apps) (x : Ptr) : Aside a (a.resetAttackTimer x) := by
  rw [resetAttackTimer]
  split
  · exact .refl a
  · exact aside_resetTimer a x _ fun _ => rfl

theorem aside_changeTargetedNum (a : Apps) (x : Ptr) (increment : Int) :
    Aside a (a.changeTargetedNum x increment) := by
  rw [changeTargetedNum]
  split
  · exact .refl a
  · split
    · exact .refl a
    · exact .same rfl rfl rfl

theorem aside_startSearch (a : Apps) (x : Ptr) : Aside a (a.startSearch x) :=
  (aside_startTimer a 200 (.search x) (-1)).trans (aside_modifyAuto _ x fun _ => rfl)

theorem aside_setRefindPathTimer (a : Apps) (x : Ptr) : Aside a (a.setRefindPathTimer x) :=
  (aside_startTimer a 600 (.refindPath x) 1).trans (aside_modifyAuto _ x fun _ => rfl)

theorem aside_startAttack (m : CombatManagers) (a : Apps) (x : Ptr) :
    Aside a (a.startAttack m x) := by
  rw [startAttack]
  refine Aside.trans ?_ (aside_changeTargetedNum _ x 1)
  refine Aside.trans ?_ (outside_lockTarget _ _ _).aside
  exact (aside_startTimer a _ (.attack x) (-1)).trans (aside_modifyAuto _ x fun _ => rfl)

/-! ## Autos that observe what they are to -/

/-- The auto at `y` is in use as that of `key`. -/
structure Awake (a : Apps) (key : EntityKey) (y : Ptr) : Prop where
  live : (a.autoPool.objects y).isSome
  host : (a.auto y).host = some key
  status : (a.auto y).presentStatus ≠ none

/-- Nothing is being dispatched, and under the keys of `K` exactly the registered autos observe
what they are to. -/
structure Sees (K : EntityKey → Prop) (a : Apps) : Prop where
  idle : a.dispatching = false
  pending : a.pendingRemoves = []
  awake : ∀ key y, K key → a.autoes key = some y → a.Awake key y
  observers : ∀ key, K key → ∀ entityId, key.2 ∈ a.observers (key.1, entityId) ↔
    ∃ y, a.autoes key = some y ∧ (a.auto y).Heeds key entityId

/-- The auto at `x`, of `k`, observes `O`, and all others what they are to. -/
structure Observes (k : EntityKey) (x : Ptr) (O : Int → Prop) (a : Apps) : Prop
    extends Sees (· ≠ k) a where
  live : (a.autoPool.objects x).isSome
  host : (a.auto x).host = some k
  own : ∀ entityId, k.2 ∈ a.observers (k.1, entityId) ↔ O entityId

theorem Awake.aside (h : Awake a k y) (hab : Aside a b) : Awake b k y := by
  obtain ⟨hhost, hstatus, _⟩ := hab.fields y
  refine ⟨(hab.live y).trans h.live, hhost.trans h.host, ?_⟩
  rw [hstatus]
  exact h.status

theorem Sees.aside (h : Sees K a) (hab : Aside a b) : Sees K b where
  idle := (congrArg EventObserver.dispatching hab.observer).trans h.idle
  pending := (congrArg EventObserver.pendingRemoves hab.observer).trans h.pending
  awake := fun key y hkey hy => by
    rw [hab.autoes] at hy
    exact (h.awake key y hkey hy).aside hab
  observers := fun key hkey entityId => by
    have hobservers : b.observers = a.observers :=
      congrArg EventObserver.observers hab.observer
    rw [hobservers, hab.autoes, h.observers key hkey entityId]
    simp only [Auto.Heeds, (hab.fields _).2.2]

theorem Observes.aside (h : Observes k x O a) (hab : Aside a b) : Observes k x O b := by
  refine ⟨h.toSees.aside hab, (hab.live x).trans h.live, ((hab.fields x).1).trans h.host,
    fun entityId => ?_⟩
  have hobservers : b.observers = a.observers := congrArg EventObserver.observers hab.observer
  rw [hobservers]
  exact h.own entityId

theorem Observes.congr (h : Observes k x O a) (hO : ∀ entityId, O entityId ↔ O' entityId) :
    Observes k x O' a :=
  ⟨h.toSees, h.live, h.host, fun entityId => (h.own entityId).trans (hO entityId)⟩

theorem Sees.pool (h : Sees K a) {pool : PoolTemplate Auto}
    (hpool : ∀ key y, K key → a.autoes key = some y → pool.objects y = a.autoPool.objects y) :
    Sees K { a with autoPool := pool } := by
  have hauto : ∀ key y, K key → a.autoes key = some y →
      ({ a with autoPool := pool } : Apps).auto y = a.auto y :=
    fun key y hkey hy => congrArg (fun object => object.getD default) (hpool key y hkey hy)
  refine ⟨h.idle, h.pending, fun key y hkey hy => ?_, fun key hkey entityId => ?_⟩
  · have hawake := h.awake key y hkey hy
    refine ⟨?_, ?_, ?_⟩
    · show (pool.objects y).isSome
      rw [hpool key y hkey hy]
      exact hawake.live
    · rw [hauto key y hkey hy]
      exact hawake.host
    · rw [hauto key y hkey hy]
      exact hawake.status
  · refine (h.observers key hkey entityId).trans (exists_congr fun y => and_congr_right fun hy => ?_)
    rw [hauto key y hkey hy]

theorem Sees.modifyAuto (h : Sees K a) (hx : ∀ key, K key → a.autoes key ≠ some x)
    (change : Auto → Auto) : Sees K (a.modifyAuto x change) := by
  refine h.pool fun key y hkey hy => PoolTemplate.modify_other _ ?_ change
  rintro rfl
  exact hx key hkey hy

theorem Sees.mono {K' : EntityKey → Prop} (h : Sees K a) (hK : ∀ key, K' key → K key) :
    Sees K' a :=
  ⟨h.idle, h.pending, fun key y hkey => h.awake key y (hK key hkey),
    fun key hkey => h.observers key (hK key hkey)⟩

theorem Observes.out (h : Observes k x O a) : ∀ key, key ≠ k → a.autoes key ≠ some x := by
  intro key hkey hx
  have hhost := (h.awake key x hkey hx).host
  rw [h.host] at hhost
  exact hkey (Option.some.inj hhost).symm

theorem Observes.modifyAuto (h : Observes k x O a) {change : Auto → Auto}
    (hhost : (change (a.auto x)).host = (a.auto x).host) :
    Observes k x O (a.modifyAuto x change) := by
  refine ⟨h.toSees.modifyAuto h.out change, (PoolTemplate.modify_isSome change).trans h.live, ?_,
    h.own⟩
  rw [modifyAuto_self h.live, hhost, h.host]

/-! ## Joining and leaving the observers -/

theorem mem_observerAdd (a : Apps) (combatId entityId autoId id : Int) (key : EntityKey) :
    id ∈ (a.observerAdd combatId entityId autoId).observers key ↔
      id ∈ a.observers key ∨ key = (combatId, entityId) ∧ id = autoId := by
  show id ∈ Function.update a.observers (combatId, entityId) _ key ↔ _
  by_cases hkey : key = (combatId, entityId)
  · rw [hkey, Function.update_self, ExtTreeSet.mem_insert, Std.compare_eq_iff_eq]
    constructor
    · rintro (rfl | hold)
      · exact Or.inr ⟨rfl, rfl⟩
      · exact Or.inl hold
    · rintro (hold | ⟨_, rfl⟩)
      · exact Or.inr hold
      · exact Or.inl rfl
  · rw [Function.update_of_ne hkey]
    exact ⟨Or.inl, fun h => h.resolve_right fun hnew => hkey hnew.1⟩

theorem mem_observerRemove (hidle : a.dispatching = false) (combatId entityId autoId id : Int)
    (key : EntityKey) : id ∈ (a.observerRemove combatId entityId autoId).observers key ↔
      id ∈ a.observers key ∧ ¬ (key = (combatId, entityId) ∧ id = autoId) := by
  have heq : a.observerRemove combatId entityId autoId = { a with
      observers := Function.update a.observers (combatId, entityId)
        ((a.observers (combatId, entityId)).erase autoId) } := by
    rw [observerRemove, if_neg (by simp [hidle])]
  rw [heq]
  show id ∈ Function.update a.observers (combatId, entityId) _ key ↔ _
  by_cases hkey : key = (combatId, entityId)
  · rw [hkey, Function.update_self, ExtTreeSet.mem_erase, ne_eq, Std.compare_eq_iff_eq]
    constructor
    · rintro ⟨hne, hold⟩
      exact ⟨hold, fun h => hne h.2.symm⟩
    · rintro ⟨hold, hne⟩
      exact ⟨fun heq => hne ⟨rfl, heq.symm⟩, hold⟩
  · rw [Function.update_of_ne hkey]
    exact ⟨fun h => ⟨h, fun hnew => hkey hnew.1⟩, And.left⟩

theorem Observes.add (h : Observes k x O a) (entityId : Int) :
    Observes k x (fun e => O e ∨ e = entityId) (a.observerAdd k.1 entityId k.2) := by
  refine ⟨⟨h.idle, h.pending, fun key y hkey hy => ?_, fun key hkey e => ?_⟩, h.live, h.host,
    fun e => ?_⟩
  · have hawake := h.awake key y hkey hy
    exact ⟨hawake.live, hawake.host, hawake.status⟩
  · rw [mem_observerAdd]
    refine Iff.trans (or_iff_left fun hnew => hkey (Prod.ext ?_ hnew.2)) (h.observers key hkey e)
    exact (Prod.mk.inj hnew.1).1
  · rw [mem_observerAdd, h.own]
    refine or_congr_right ⟨fun hnew => congrArg Prod.snd hnew.1, fun heq => ⟨?_, rfl⟩⟩
    rw [heq]

theorem Observes.remove (h : Observes k x O a) (entityId : Int) :
    Observes k x (fun e => O e ∧ e ≠ entityId) (a.observerRemove k.1 entityId k.2) := by
  have heq : a.observerRemove k.1 entityId k.2 = { a with
      observers := Function.update a.observers (k.1, entityId)
        ((a.observers (k.1, entityId)).erase k.2) } := by
    rw [observerRemove, if_neg (by simp [h.idle])]
  have hmem := mem_observerRemove h.idle k.1 entityId k.2
  rw [heq] at hmem ⊢
  refine ⟨⟨h.idle, h.pending, fun key y hkey hy => ?_, fun key hkey e => ?_⟩, h.live, h.host,
    fun e => ?_⟩
  · have hawake := h.awake key y hkey hy
    exact ⟨hawake.live, hawake.host, hawake.status⟩
  · rw [hmem]
    refine Iff.trans (and_iff_left fun hnew => hkey (Prod.ext ?_ hnew.2)) (h.observers key hkey e)
    exact (Prod.mk.inj hnew.1).1
  · rw [hmem, h.own]
    refine and_congr_right fun _ => not_congr ⟨fun hnew => congrArg Prod.snd hnew.1,
      fun heq => ⟨?_, rfl⟩⟩
    rw [heq]

/-! ## Targets and statuses -/

theorem Observes.key (h : Observes k x O a) : a.autoKey x = k := by
  rw [autoKey, h.host]
  rfl

theorem Observes.resetTarget (h : Observes k x O a) :
    Observes k x (fun e => O e ∧ ¬ ((a.auto x).target.id ≠ 0 ∧ e = (a.auto x).target.id))
      (a.resetTarget x) := by
  rw [Apps.resetTarget]
  split
  · rename_i hzero
    exact h.congr fun e => (and_iff_left fun htarget => htarget.1 hzero).symm
  · rename_i hsome
    rw [h.key]
    refine ((h.remove (a.auto x).target.id).modifyAuto rfl).congr fun e => ?_
    exact and_congr_right fun _ => not_congr (and_iff_right hsome).symm

/-- An auto without its status observes its target only. -/
theorem Observes.stopPresentStatus (h : Observes k x O a)
    (hheeds : ∀ e, O e ↔ (a.auto x).Heeds k e) (hstatus : (a.auto x).presentStatus ≠ none) :
    Observes k x (fun e => e ≠ k.2 ∧ ((a.stopPresentStatus x).auto x).Heeds k e)
      (a.stopPresentStatus x) := by
  have hleave : ∀ {b : Apps} {O' : Int → Prop}, Observes k x O' b →
      (∀ e, O' e ∧ e ≠ k.2 ↔ e ≠ k.2 ∧ (b.auto x).Heeds k e) →
      Observes k x (fun e => e ≠ k.2 ∧
        ((b.observerRemove (a.autoKey x).1 (a.autoKey x).2 (a.autoKey x).2).auto x).Heeds k e)
        (b.observerRemove (a.autoKey x).1 (a.autoKey x).2 (a.autoKey x).2) := by
    intro b O' hb hO'
    rw [h.key]
    refine (hb.remove k.2).congr fun e => ?_
    have hauto : (b.observerRemove k.1 k.2 k.2).auto x = b.auto x :=
      congrArg (PoolTemplate.read · x) (beside_observerRemove b k.1 k.2 k.2).autoPool
    rw [hauto]
    exact hO' e
  have haside : ∀ {b : Apps}, Aside a b → Observes k x O b ∧
      ∀ e, O e ∧ e ≠ k.2 ↔ e ≠ k.2 ∧ (b.auto x).Heeds k e := by
    intro b hb
    refine ⟨h.aside hb, fun e => ?_⟩
    rw [hheeds, Auto.Heeds.congr (hb.fields x).2.2]
    exact and_comm
  rw [Apps.stopPresentStatus]
  cases hpresent : (a.auto x).presentStatus with
  | none => exact absurd hpresent hstatus
  | some status =>
    dsimp only
    cases status with
    | search =>
      obtain ⟨hb, hO⟩ := haside (aside_stopSearch a x)
      exact hleave hb hO
    | chase =>
      obtain ⟨hb, hO⟩ := haside (aside_stopChase a x)
      exact hleave hb hO
    | attack =>
      have hb := (aside_changeTargetedNum a x (-1)).trans (aside_resetAttackTimer _ x)
      obtain ⟨hobserves, _⟩ := haside hb
      have htarget := (hb.fields x).2.2
      have hreset := hobserves.resetTarget
      have hzero := resetTarget_target hobserves.live
      refine hleave hreset fun e => ?_
      rw [htarget, hheeds, Auto.Heeds, Auto.Heeds]
      constructor
      · rintro ⟨⟨hold | hold, hnot⟩, hne⟩
        · exact absurd hold hne
        · exact absurd hold hnot
      · rintro ⟨hne, hold | hold⟩
        · exact absurd hold hne
        · exact absurd hzero hold.1

/-- An auto that is registered and observes what it is to. -/
theorem Observes.sees (h : Observes k x O a) (hx : a.autoes k = some x)
    (hstatus : (a.auto x).presentStatus ≠ none) (hheeds : ∀ e, O e ↔ (a.auto x).Heeds k e) :
    Sees (fun _ => True) a := by
  refine ⟨h.idle, h.pending, fun key y _ hy => ?_, fun key _ e => ?_⟩
  · by_cases hkey : key = k
    · rw [hkey] at hy ⊢
      obtain rfl := Option.some.inj (hx.symm.trans hy)
      exact ⟨h.live, h.host, hstatus⟩
    · exact h.awake key y hkey hy
  · by_cases hkey : key = k
    · rw [hkey, h.own, hheeds]
      constructor
      · exact fun hheed => ⟨x, hx, hheed⟩
      · rintro ⟨y, hy, hheed⟩
        obtain rfl := Option.some.inj (hx.symm.trans hy)
        exact hheed
    · exact h.observers key hkey e

theorem Sees.observes (h : Sees (fun _ => True) a) (hx : a.autoes k = some x) :
    Observes k x (fun e => (a.auto x).Heeds k e) a := by
  have hawake := h.awake k x trivial hx
  refine ⟨⟨h.idle, h.pending, fun key y _ => h.awake key y trivial,
    fun key _ => h.observers key trivial⟩, hawake.live, hawake.host, fun e => ?_⟩
  rw [h.observers k trivial]
  constructor
  · rintro ⟨y, hy, hheed⟩
    obtain rfl := Option.some.inj (hx.symm.trans hy)
    exact hheed
  · exact fun hheed => ⟨x, hx, hheed⟩

/-- A change of status outside of a dispatch. -/
theorem Sees.switchStatus (h : Sees (fun _ => True) a) (hx : a.autoes k = some x)
    (status : AutoStatus) : Sees (fun _ => True) (a.switchStatus x status) := by
  have hobserves := h.observes hx
  have hstop := hobserves.stopPresentStatus (fun _ => Iff.rfl) (h.awake k x trivial hx).status
  have hset : Observes k x _ ((a.stopPresentStatus x).modifyAuto x fun auto =>
      { auto with presentStatus := some status }) := hstop.modifyAuto rfl
  have hself : ((a.stopPresentStatus x).modifyAuto x fun auto =>
      { auto with presentStatus := some status }).auto x =
        { (a.stopPresentStatus x).auto x with presentStatus := some status } :=
    modifyAuto_self hstop.live _
  have hautoes : (a.stopPresentStatus x).autoes k = some x := by
    rw [(handled_stopPresentStatus a x).autoes]
    exact hx
  rw [Apps.switchStatus, hset.key]
  refine (hset.add k.2).sees hautoes ?_ fun e => ?_
  · show (((a.stopPresentStatus x).modifyAuto x fun auto =>
      { auto with presentStatus := some status }).auto x).presentStatus ≠ none
    rw [hself]
    simp
  · show _ ↔ (((a.stopPresentStatus x).modifyAuto x fun auto =>
      { auto with presentStatus := some status }).auto x).Heeds k e
    rw [hself]
    show _ ↔ ((a.stopPresentStatus x).auto x).Heeds k e
    constructor
    · rintro (⟨_, hheed⟩ | hown)
      · exact hheed
      · exact Or.inl hown
    · intro hheed
      by_cases hown : e = k.2
      · exact Or.inr hown
      · exact Or.inl ⟨hown, hheed⟩

theorem switchStatus_autoes (a : Apps) (x : Ptr) (status : AutoStatus) :
    (a.switchStatus x status).autoes = a.autoes := (handled_switchStatus a x status).autoes

theorem Sees.gotoSearch (h : Sees (fun _ => True) a) (hx : a.autoes k = some x) :
    Sees (fun _ => True) (a.gotoSearch x) :=
  (h.switchStatus hx .search).aside (aside_startSearch _ x)

theorem Sees.gotoAttack (h : Sees (fun _ => True) a) (hx : a.autoes k = some x)
    (m : CombatManagers) : Sees (fun _ => True) (a.gotoAttack m x) :=
  (h.switchStatus hx .attack).aside (aside_startAttack m _ x)

theorem Sees.chase (h : Sees (fun _ => True) a) (hx : a.autoes k = some x) (m : CombatManagers) :
    Sees (fun _ => True) (a.chase m x) := by
  rw [Apps.chase]
  split
  · exact h.gotoAttack hx m
  · have hmove := (outside_moveTarget m a x).aside
    split
    · rename_i b hb
      rw [hb] at hmove
      exact h.aside hmove
    · rename_i b hb
      rw [hb] at hmove
      refine (h.aside hmove).gotoSearch (k := k) ?_
      rw [hmove.autoes]
      exact hx

theorem Sees.gotoChase (h : Sees (fun _ => True) a) (hx : a.autoes k = some x)
    (m : CombatManagers) : Sees (fun _ => True) (a.gotoChase m x) := by
  refine (h.switchStatus hx .chase).chase (k := k) ?_ m
  rw [switchStatus_autoes]
  exact hx

/-- A target that takes the place of none, or of itself. -/
theorem Sees.setTarget (h : Sees (fun _ => True) a) (hx : a.autoes k = some x)
    (type : CombatEntityType) {id : Int} (hid : id ≠ 0)
    (hfree : (a.auto x).target.id = 0 ∨ (a.auto x).target.id = id) :
    Sees (fun _ => True) (a.setTarget x type id) := by
  have hobserves := h.observes hx
  have hset : Observes k x _ (a.modifyAuto x fun auto => { auto with target := ⟨type, id⟩ }) :=
    hobserves.modifyAuto rfl
  have hself : (a.modifyAuto x fun auto => { auto with target := ⟨type, id⟩ }).auto x =
      { a.auto x with target := ⟨type, id⟩ } := modifyAuto_self hobserves.live _
  rw [Apps.setTarget, hset.key]
  refine (hset.add id).sees hx ?_ fun e => ?_
  · show ((a.modifyAuto x fun auto => { auto with target := ⟨type, id⟩ }).auto x).presentStatus ≠ _
    rw [hself]
    exact (h.awake k x trivial hx).status
  · show _ ↔ ((a.modifyAuto x fun auto => { auto with target := ⟨type, id⟩ }).auto x).Heeds k e
    rw [hself, Auto.Heeds, Auto.Heeds]
    constructor
    · rintro ((hown | ⟨hsome, htarget⟩) | hnew)
      · exact Or.inl hown
      · exact Or.inr ⟨hid, htarget.trans (hfree.resolve_left hsome)⟩
      · exact Or.inr ⟨hid, hnew⟩
    · rintro (hown | ⟨_, hnew⟩)
      · exact Or.inl (Or.inl hown)
      · exact Or.inr hnew

/-! ## Autos that come and go -/

/-- The registry says something else of `k`. -/
theorem Observes.relist (h : Observes k x O a) (answer : Option Ptr) :
    Observes k x O { a with autoes := Function.update a.autoes k answer } := by
  refine ⟨⟨h.idle, h.pending, fun key y hkey hy => ?_, fun key hkey e => ?_⟩, h.live, h.host, h.own⟩
  · have hy : Function.update a.autoes k answer key = some y := hy
    rw [Function.update_of_ne hkey] at hy
    have hawake := h.awake key y hkey hy
    exact ⟨hawake.live, hawake.host, hawake.status⟩
  · show _ ↔ ∃ y, Function.update a.autoes k answer key = some y ∧ _
    rw [Function.update_of_ne hkey]
    exact h.observers key hkey e

/-- Where there is no auto of `k` and nothing that it observes, the rest is all. -/
theorem Sees.all (h : Sees (· ≠ k) a) (hnone : a.autoes k = none)
    (hout : ∀ entityId, k.2 ∉ a.observers (k.1, entityId)) : Sees (fun _ => True) a := by
  refine ⟨h.idle, h.pending, fun key y _ hy => h.awake key y ?_ hy, fun key _ e => ?_⟩
  · rintro rfl
    rw [hnone] at hy
    cases hy
  · by_cases hkey : key = k
    · rw [hkey, hnone]
      exact iff_of_false (hout e) (by simp)
    · exact h.observers key hkey e

theorem finalizeAuto_autoes (a : Apps) (x : Ptr) : (a.finalizeAuto x).autoes = a.autoes :=
  (handled_resetTarget ((a.stopPresentStatus x).modifyAuto x fun auto =>
    { auto with presentStatus := none }) x).autoes.trans (handled_stopPresentStatus a x).autoes

/-- The end of an auto that is no longer registered. -/
theorem Observes.finalizeAuto (h : Observes k x O a) (hheeds : ∀ e, O e ↔ (a.auto x).Heeds k e)
    (hstatus : (a.auto x).presentStatus ≠ none) (hnone : a.autoes k = none) :
    Sees (fun _ => True) (a.finalizeAuto x) := by
  have hstop := h.stopPresentStatus hheeds hstatus
  have hset : Observes k x _ ((a.stopPresentStatus x).modifyAuto x fun auto =>
      { auto with presentStatus := none }) := hstop.modifyAuto rfl
  have hself : ((a.stopPresentStatus x).modifyAuto x fun auto =>
      { auto with presentStatus := none }).auto x =
        { (a.stopPresentStatus x).auto x with presentStatus := none } := modifyAuto_self hstop.live _
  have hreset := hset.resetTarget
  refine (hreset.toSees.modifyAuto hreset.out _).all
    ((congrFun (finalizeAuto_autoes a x) k).trans hnone) fun e hin => ?_
  obtain ⟨⟨hne, hheed⟩, hnot⟩ := (hreset.own e).mp hin
  rw [hself] at hnot
  rcases hheed with hown | htarget
  · exact hne hown
  · exact hnot htarget

theorem Sees.dropAuto (h : Sees (fun _ => True) a) (hcounting : a.Counting)
    (hdrop : a.dropAuto k = some b) : Sees (fun _ => True) b := by
  have hlisted := (hcounting.dropAuto hdrop).registered
  rw [Apps.dropAuto, Option.map_eq_some_iff] at hdrop
  obtain ⟨x, hx, rfl⟩ := hdrop
  have hend : Sees (fun _ => True)
      ({ a with autoes := Function.update a.autoes k none }.finalizeAuto x) :=
    ((h.observes hx).relist none).finalizeAuto (fun _ => Iff.rfl) (h.awake k x trivial hx).status
      (Function.update_self ..)
  refine hend.pool fun key y _ hy => ?_
  rcases PoolTemplate.deallocate_objects_or _ x y with hsame | hnone
  · exact hsame
  · obtain ⟨hlive, _⟩ := (hlisted key y hy).1
    exact absurd hlive (by simp [deallocateAuto, hnone])

theorem aside_beginAi (m : CombatManagers) (a : Apps) (combatId : Int) :
    Aside a (a.onEventCombatBeginAi m combatId) := by
  have hround : ∀ (b : Apps) (buildingId : Int), Aside a b →
      Ends (Aside a) (Aside a) (b.raiseAiBuilding combatId buildingId) := by
    intro b buildingId hb
    rw [raiseAiBuilding]
    split
    · exact hb.trans (.same rfl rfl rfl)
    · split
      · exact hb.trans (.same rfl rfl rfl)
      · exact hb.trans (.same rfl rfl rfl)
  have hloop : ∀ l : List Int, Ends (Aside a) (Aside a) (l.foldlM (raiseAiBuilding combatId) a) :=
    fun l => ends_foldlM (I := fun _ => Aside a) (fun buildingId _ b => hround b buildingId) l
      (.refl a)
  rw [onEventCombatBeginAi]
  split
  · exact .refl a
  · split
    · rename_i b hb
      exact (hloop _).error hb
    · rename_i b hb
      exact (hloop _).ok hb

/-- An auto that begins for a warrior that has none. -/
theorem Sees.initializeAuto (h : Sees (fun _ => True) a) (hfresh : a.autoes k = none)
    (hlive : (a.autoPool.objects x).isSome) (hout : ∀ key, a.autoes key ≠ some x) :
    Sees (fun _ => True)
      { a.initializeAuto x k with autoes := Function.update a.autoes k (some x) } := by
  obtain ⟨b, hb⟩ : ∃ b, b = a.modifyAuto x fun auto => { auto with
      host := some k, presentStatus := some .search, target := ⟨.building, 0⟩ } := ⟨_, rfl⟩
  have hself : b.auto x = { a.auto x with
      host := some k, presentStatus := some .search, target := ⟨.building, 0⟩ } := by
    rw [hb]
    exact modifyAuto_self hlive _
  have hbegun : Observes k x (fun _ => False) b := by
    refine ⟨?_, ?_, by rw [hself], fun e => iff_of_false ?_ id⟩
    · rw [hb]
      exact (h.mono fun _ _ => trivial).modifyAuto (fun key _ => hout key) _
    · rw [hb]
      exact (PoolTemplate.modify_isSome _).trans hlive
    · rw [hb]
      intro hin
      obtain ⟨y, hy, _⟩ := (h.observers k trivial e).mp hin
      rw [hfresh] at hy
      cases hy
  have haside := aside_startSearch (b.observerAdd k.1 k.2 k.2) x
  have hsearch : Observes k x _ ((b.observerAdd k.1 k.2 k.2).startSearch x) :=
    (hbegun.add k.2).aside haside
  obtain ⟨_, hstatus, htarget⟩ := haside.fields x
  have hstatus : (((b.observerAdd k.1 k.2 k.2).startSearch x).auto x).presentStatus =
      some .search := hstatus.trans (congrArg Auto.presentStatus hself)
  have htarget : (((b.observerAdd k.1 k.2 k.2).startSearch x).auto x).target = ⟨.building, 0⟩ :=
    htarget.trans (congrArg Auto.target hself)
  have hinit : a.initializeAuto x k = (b.observerAdd k.1 k.2 k.2).startSearch x := by
    rw [Apps.initializeAuto, hb]
  rw [hinit]
  have hautoes : ((b.observerAdd k.1 k.2 k.2).startSearch x).autoes = a.autoes := by
    rw [hb]
    rfl
  rw [← hautoes]
  refine (hsearch.relist (some x)).sees (Function.update_self ..) ?_ fun e => ?_
  · show (((b.observerAdd k.1 k.2 k.2).startSearch x).auto x).presentStatus ≠ none
    rw [hstatus]
    simp
  · show _ ↔ (((b.observerAdd k.1 k.2 k.2).startSearch x).auto x).Heeds k e
    rw [Auto.Heeds, htarget]
    simp

theorem Sees.buildAction (h : Sees (fun _ => True) a) (hcounting : a.Counting)
    (combatId warriorId : Int) (hfresh : a.autoes (combatId, warriorId) = none) :
    Sees (fun _ => True) (a.onEventCombatBuildAction m combatId warriorId) := by
  have hpool : ∀ {answer : Option Ptr} {pool : PoolTemplate Auto},
      a.autoPool.allocate = (answer, pool) → Sees (fun _ => True) { a with autoPool := pool } := by
    intro answer pool hp
    refine h.pool fun key y _ hy => ?_
    obtain ⟨old, hold⟩ := Option.isSome_iff_exists.mp (hcounting.registered key y hy).1.1
    rw [hold]
    exact (PoolTemplate.grown_of_allocate hcounting.autoPool hp).some hold
  rw [onEventCombatBuildAction]
  split
  · exact h
  · split
    · rename_i pool hp
      exact hpool hp
    · rename_i x pool hp
      obtain ⟨hheld, hnew⟩ := PoolTemplate.allocate_held hcounting.autoPool hp
      have hautoes : (Apps.initializeAuto { a with autoPool := pool } x
        (combatId, warriorId)).autoes = a.autoes := rfl
      dsimp only
      rw [hautoes, if_neg (by simp [hfresh])]
      exact (hpool hp).initializeAuto hfresh hheld.1
        fun key hx => hnew (hcounting.registered key x hx).1

end Apps

end Mysya
