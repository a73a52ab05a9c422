import Mysya.AiSteps
import Mysya.GuardedRuns

/-!
# The numbers of the attacked buildings

Over the steps of the server the buildings of the AI keep counting the autos that attack them. A
combat has autos only once its first building is raised, and a second begin stops at that building.
-/

open Std OwnedTimers FiberCounts Attempts GuardedRuns

namespace Mysya

open CombatManagers

/-! ## Where there are autos, there is a building -/

/-- Where two combats have buildings under the same ids, they list them alike. -/
theorem CombatField.Continues.keys {x y : CombatField} (h : x.Continues y) :
    y.buildings.keys = x.buildings.keys := by
  have hmaps : y.buildings.map (fun _ b => b.site) = x.buildings.map (fun _ b => b.site) := by
    refine ExtTreeMap.ext_getElem? fun id => ?_
    rw [ExtTreeMap.getElem?_map, ExtTreeMap.getElem?_map]
    exact h.sites id
  rw [← ExtTreeMap.keys_map (f := fun _ b => CombatBuildingField.site b), hmaps, ExtTreeMap.keys_map]

namespace Apps

variable {a a' : Apps} {m m' : CombatManagers} {c : Int} {p x : Ptr}

/-- The raised buildings of the combat are the first ones of `ids`. -/
def Fronted (a : Apps) (c : Int) (ids : List Int) : Prop :=
  ∃ front, front <+: ids ∧ ∀ id, (a.buildings (c, id)).isSome ↔ id ∈ front

theorem Fronted.unraised {ids : List Int} (h : ¬ a.Raised c) : a.Fronted c ids :=
  ⟨[], List.nil_prefix, fun id => ⟨fun hid => absurd ⟨id, hid⟩ h, nofun⟩⟩

/-- Autos are of combats with a raised building, and the raised buildings of a combat are its
first. -/
structure Sited (m : CombatManagers) (a : Apps) : Prop where
  autoes : ∀ c id, (a.autoes (c, id)).isSome → a.Raised c
  fronted : ∀ (c : Int) p, m.combats[c]? = some p → a.Fronted c (m.combat p).buildings.keys
  given : ∀ c, a.Raised c → c < m.combatIds
  registered : ∀ (c : Int) p, m.combats[c]? = some p → c < m.combatIds

theorem Sited.fewer (h : Sited m a) (hbuildings : a'.buildings = a.buildings)
    (hautoes : ∀ k, (a'.autoes k).isSome → (a.autoes k).isSome) : Sited m a' := by
  have hraised : ∀ c, a'.Raised c ↔ a.Raised c := by
    intro c
    rw [Raised, Raised, hbuildings]
  refine ⟨fun c id hid => ?_, fun c p hc => ?_, fun c hr => ?_, h.registered⟩
  · rw [hraised]
    exact h.autoes c id (hautoes _ hid)
  · rw [Fronted, hbuildings]
    exact h.fronted c p hc
  · rw [hraised] at hr
    exact h.given c hr

theorem Sited.managers (h : Sited m a) {ended : Option Int} (hlasts : Lasts ended m m')
    (hadmits : Admits m m') (hended : ∀ c, ended = some c → m'.combats[c]? = none) : Sited m' a := by
  refine ⟨h.autoes, fun c p hc => ?_, fun c hr => ?_, fun c p hc => ?_⟩
  · rcases hadmits.2 c p hc with hold | hnew
    · have hne : ended ≠ some c := by
        intro heq
        rw [hended c heq] at hc
        cases hc
      rw [(hlasts c p hold hne).2.keys]
      exact h.fronted c p hold
    · refine .unraised fun hr => ?_
      have := h.given c hr
      omega
  · exact Int.lt_of_lt_of_le (h.given c hr) hadmits.1
  · rcases hadmits.2 c p hc with hold | hnew
    · exact Int.lt_of_lt_of_le (h.registered c p hold) hadmits.1
    · exact hnew.2

/-- The AI is ready for the combat to begin. -/
theorem Sited.ready (h : Sited m a) (hc : m.combats[c]? = some p) :
    a.Deserted c ∨ a.FirstRaised c (m.combat p).buildings.keys := by
  obtain ⟨front, hprefix, hfront⟩ := h.fronted c p hc
  cases front with
  | nil =>
    refine Or.inl fun id => ?_
    rw [← Option.not_isSome_iff_eq_none]
    intro hid
    obtain ⟨id', hid'⟩ := h.autoes c id hid
    cases (hfront id').mp hid'
  | cons first front =>
    refine Or.inr fun id hid => ?_
    obtain ⟨rest, hkeys⟩ := hprefix
    rw [← hkeys] at hid
    obtain rfl : first = id := Option.some.inj hid
    exact (hfront first).mpr (List.mem_cons_self ..)

/-! ## Autos and buildings that come and go -/

/-- A building is raised once, or nothing is. -/
theorem raiseAiBuilding_registries (a : Apps) (c id : Int) :
    Ends (fun a' => a'.autoes = a.autoes ∧ a.buildings (c, id) = none ∧
        (a'.buildings (c, id)).isSome ∧ ∀ k, k ≠ (c, id) → a'.buildings k = a.buildings k)
      (fun a' => a'.autoes = a.autoes ∧ a'.buildings = a.buildings)
      (a.raiseAiBuilding c id) := by
  rw [raiseAiBuilding]
  split
  · exact ⟨rfl, rfl⟩
  · split
    · exact ⟨rfl, rfl⟩
    · rename_i hfree
      refine ⟨rfl, by simpa using hfree, ?_, fun k hk => ?_⟩
      · show (Function.update a.buildings (c, id) _ (c, id)).isSome
        rw [Function.update_self]
        rfl
      · exact Function.update_of_ne hk _ _

/-- What a begin of `c` leaves of the registries. -/
structure Raises (c : Int) (ids : List Int) (a a' : Apps) : Prop where
  autoes : a'.autoes = a.autoes
  others : ∀ k, k.1 ≠ c → a'.buildings k = a.buildings k
  raised : a.Raised c → a'.Raised c
  fronted : a'.Fronted c ids

/-- Of a combat without a raised building the loop raises the first ones. -/
theorem raises_loop (hnone : ¬ a.Raised c) (ids : List Int) :
    Ends (Raises c ids a) (Raises c ids a) (ids.foldlM (raiseAiBuilding c) a) := by
  refine (ends_foldlM (I := fun rest b => b.autoes = a.autoes ∧
    (∀ k, k.1 ≠ c → b.buildings k = a.buildings k) ∧
    ∃ front, front ++ rest = ids ∧ ∀ id, (b.buildings (c, id)).isSome ↔ id ∈ front) ?_ ids
    ⟨rfl, fun _ _ => rfl, [], rfl, fun id => ⟨fun hid => absurd ⟨id, hid⟩ hnone, nofun⟩⟩).mono
    ?_ fun _ => id
  · rintro id rest b ⟨hsame, hothers, front, hids, hfront⟩
    refine (raiseAiBuilding_registries b c id).mono ?_ ?_
    · rintro d ⟨hautoes, _, hid, hkept⟩
      refine ⟨hautoes.trans hsame, fun k hk => ?_, front ++ [id], ?_, fun id' => ?_⟩
      · rw [hkept k fun heq => hk (congrArg Prod.fst heq)]
        exact hothers k hk
      · rw [← hids, List.append_assoc, List.singleton_append]
      · rw [List.mem_append, List.mem_singleton]
        by_cases heq : id' = id
        · rw [heq]
          exact ⟨fun _ => Or.inr rfl, fun _ => hid⟩
        · rw [hkept (c, id') fun h => heq (congrArg Prod.snd h), hfront]
          exact ⟨Or.inl, fun h => h.resolve_right heq⟩
    · rintro d ⟨hautoes, hbuildings⟩
      refine ⟨hautoes.trans hsame, fun k hk => ?_, (absurd · hnone), front, ⟨_, hids⟩,
        fun id' => ?_⟩
      · rw [hbuildings]
        exact hothers k hk
      · rw [hbuildings]
        exact hfront id'
  · rintro d ⟨hsame, hothers, front, hids, hfront⟩
    rw [List.append_nil] at hids
    exact ⟨hsame, hothers, (absurd · hnone), front, ⟨[], by rw [List.append_nil, hids]⟩, hfront⟩

/-- A combat with a raised building does not begin again. -/
theorem raises_again {first : Int} {rest ids : List Int} (h : a.Fronted c ids)
    (hids : ids = first :: rest) (hfirst : (a.buildings (c, first)).isSome) :
    Ends (Raises c ids a) (Raises c ids a) (ids.foldlM (raiseAiBuilding c) a) := by
  have hround : Ends (fun _ => False) (Raises c ids a) (a.raiseAiBuilding c first) := by
    refine (raiseAiBuilding_registries a c first).mono ?_ ?_
    · rintro b ⟨_, hnone, _⟩
      rw [hnone] at hfirst
      cases hfirst
    · rintro b ⟨hautoes, hbuildings⟩
      refine ⟨hautoes, fun k _ => by rw [hbuildings], ?_, ?_⟩
      · rw [Raised, Raised, hbuildings]
        exact id
      · rw [Fronted, hbuildings]
        exact h
  rw [hids, List.foldlM_cons, ← hids]
  exact hround.bind fun _ => False.elim

theorem Sited.raises (h : Sited m a) (hc : m.combats[c]? = some p) :
    Raises c (m.combat p).buildings.keys a (a.onEventCombatBeginAi m c) := by
  have hends : Ends (Raises c (m.combat p).buildings.keys a)
      (Raises c (m.combat p).buildings.keys a)
      ((m.combat p).buildings.keys.foldlM (raiseAiBuilding c) a) := by
    obtain ⟨front, hprefix, hfront⟩ := h.fronted c p hc
    cases front with
    | nil =>
      refine raises_loop ?_ _
      rintro ⟨id, hid⟩
      cases (hfront id).mp hid
    | cons first front =>
      obtain ⟨rest, hkeys⟩ := hprefix
      exact raises_again (h.fronted c p hc) hkeys.symm
        ((hfront first).mpr (List.mem_cons_self ..))
  rw [onEventCombatBeginAi, hc]
  dsimp only
  split
  · rename_i b hb
    exact hends.error hb
  · rename_i b hb
    exact hends.ok hb

theorem Sited.begin (h : Sited m a) (c : Int) : Sited m (a.onEventCombatBeginAi m c) := by
  cases hc : m.combats[c]? with
  | none =>
    rw [onEventCombatBeginAi, hc]
    exact h
  | some p =>
    have hraises := h.raises hc
    generalize a.onEventCombatBeginAi m c = b at *
    have hothers : ∀ c' id, c' ≠ c → b.buildings (c', id) = a.buildings (c', id) :=
      fun c' id hne => hraises.others (c', id) hne
    refine ⟨fun c' id hid => ?_, fun c' p' hc' => ?_, fun c' hr => ?_, h.registered⟩
    · rw [hraises.autoes] at hid
      by_cases heq : c' = c
      · rw [heq] at hid ⊢
        exact hraises.raised (h.autoes c id hid)
      · obtain ⟨id', hid'⟩ := h.autoes c' id hid
        rw [← hothers c' id' heq] at hid'
        exact ⟨id', hid'⟩
    · by_cases heq : c' = c
      · subst heq
        obtain rfl : p = p' := Option.some.inj (hc.symm.trans hc')
        exact hraises.fronted
      · simp only [Fronted, hothers c' _ heq]
        exact h.fronted c' p' hc'
    · by_cases heq : c' = c
      · rw [heq]
        exact h.registered c p hc
      · obtain ⟨id, hid⟩ := hr
        rw [hothers c' id heq] at hid
        exact h.given c' ⟨id, hid⟩

/-- The buildings count the autos that attack them, and autos are where buildings are. -/
def Tallied (m : CombatManagers) (a : Apps) : Prop := a.Counting ∧ Sited m a

theorem Tallied.targeted (h : Tallied m a)
    (ht : a'.Targeted a.autoes a.buildings (Listed a.autoes) a'.aims) : Tallied m a' := by
  refine ⟨ht.counting, h.2.fewer ht.buildings fun k hk => ?_⟩
  rwa [ht.autoes] at hk

theorem Tallied.beside (h : Tallied m a) (hb : Beside a a') : Tallied m a' :=
  h.targeted (hb.targeted_aims h.1)

theorem Tallied.goes (h : Tallied m a) (hgoes : Goes m m') : Tallied m' a :=
  ⟨h.1, h.2.managers (hgoes.lasts none) hgoes.admits (fun _ h => by cases h)⟩

/-! ## Events -/

theorem Tallied.dropAuto {key : EntityKey} (h : Tallied m a) (hdrop : a.dropAuto key = some a') :
    Tallied m a' := by
  refine ⟨h.1.dropAuto hdrop, ?_⟩
  rw [Apps.dropAuto, Option.map_eq_some_iff] at hdrop
  obtain ⟨x, hx, rfl⟩ := hdrop
  have hdropped := (Targeted.relist h.1 (Function.update a.autoes key none)).finalizeAuto hx
  refine h.2.fewer hdropped.buildings fun k hk => ?_
  rw [hdropped.autoes] at hk
  by_cases heq : k = key
  · rw [heq, hx]
    rfl
  · rwa [Function.update_of_ne heq] at hk

theorem Tallied.dropAutos (h : Tallied m a) (combatId : Int) (l : List Int) :
    Tallied m (a.dropAutos combatId l) := by
  induction l generalizing a with
  | nil => exact h
  | cons warriorId l ih =>
    rw [Apps.dropAutos]
    split
    · exact h
    · rename_i b hb
      exact ih (h.dropAuto hb)

theorem Tallied.settleAi (h : Tallied m a) (combatId : Int) :
    Tallied m (a.onEventCombatSettleAi m combatId) := by
  rw [onEventCombatSettleAi]
  split
  · exact h
  · exact h.dropAutos combatId _

theorem Tallied.attacked (h : Tallied m a) (m' : CombatManagers) (combatId warriorId : Int)
    (host : CombatEntity) : Tallied m (a.onEventCombatAttacked m' combatId warriorId host) := by
  rw [onEventCombatAttacked]
  split
  · exact h
  · exact h.targeted (h.1.dispatch combatId host.id fun b k x hb hx =>
      hb.onAttacked hx m' host.id warriorId)

theorem Tallied.deathAi (h : Tallied m a) (combatId : Int) (target : CombatEntity) :
    Tallied m (a.onEventCombatDeathAi combatId target) := by
  have hdispatch : Tallied m (a.dispatch combatId target.id (onTargetLost target)) :=
    h.targeted (h.1.dispatch combatId target.id fun b k x hb hx => hb.onTargetLost hx target)
  rw [onEventCombatDeathAi]
  split
  · exact hdispatch
  · cases hdrop : (a.dispatch combatId target.id (onTargetLost target)).dropAuto
      (combatId, target.id) with
    | none => exact hdispatch
    | some b => exact hdispatch.dropAuto hdrop

theorem Tallied.modifyBuilding (h : Tallied m a) (b : Ptr) {change : AiBuilding → AiBuilding}
    (hchange : ∀ building, (change building).host = building.host ∧
      (change building).targetedNum = building.targetedNum) :
    Tallied m { a with buildingPool := a.buildingPool.modify b change } :=
  ⟨h.1.modifyBuilding b hchange, h.2.fewer rfl fun _ => id⟩

theorem Tallied.convertCampAi (h : Tallied m a) (combatId : Int) (host : CombatEntity) :
    Tallied m (a.onEventCombatConvertCampAi combatId host) := by
  have hdispatch : Tallied m (a.dispatch combatId host.id (onTargetLost host)) :=
    h.targeted (h.1.dispatch combatId host.id fun b k x hb hx => hb.onTargetLost hx host)
  rw [onEventCombatConvertCampAi]
  split
  · exact hdispatch
  · split
    · exact hdispatch
    · refine hdispatch.modifyBuilding _ fun building => ?_
      split
      · exact ⟨rfl, rfl⟩
      · exact ⟨rfl, rfl⟩

theorem Tallied.beginAi (h : Tallied m a) (combatId : Int) :
    Tallied m (a.onEventCombatBeginAi m combatId) :=
  ⟨h.1.begin m combatId fun _ hc => h.2.ready hc, h.2.begin combatId⟩

/-- A combat with a raised building gets an auto. -/
theorem Tallied.buildAi (h : Tallied m a) {combatId : Int} (hraised : a.Raised combatId)
    (warriorId : Int) : Tallied m (a.onEventCombatBuildAction m combatId warriorId) := by
  refine ⟨h.1.build m combatId warriorId, ?_⟩
  rw [onEventCombatBuildAction]
  split
  · exact h.2
  · split
    · exact h.2.fewer rfl fun _ => id
    · rename_i x pool hp
      have hnew := h.1.initializeAuto hp (combatId, warriorId)
      dsimp only
      split
      · have hback := hnew.finalizeAuto (Or.inr ⟨rfl, rfl⟩)
        refine h.2.fewer hback.buildings fun k hk => ?_
        rwa [hback.autoes] at hk
      · have hbuildings := hnew.buildings
        have hautoes := hnew.autoes
        generalize Apps.initializeAuto { a with autoPool := pool } x (combatId, warriorId) = b at *
        have hsame : Sited m b := h.2.fewer hbuildings fun k hk => by rwa [hautoes] at hk
        refine ⟨fun c id hid => ?_, hsame.fronted, hsame.given, hsame.registered⟩
        by_cases heq : (c, id) = (combatId, warriorId)
        · obtain ⟨id', hid'⟩ := hraised
          obtain rfl : c = combatId := congrArg Prod.fst heq
          refine ⟨id', ?_⟩
          show (b.buildings (c, id')).isSome
          rw [hbuildings]
          exact hid'
        · have hid : (Function.update b.autoes (combatId, warriorId) (some x) (c, id)).isSome := hid
          rw [Function.update_of_ne heq] at hid
          exact hsame.autoes c id hid

/-! ## Timers -/

/-- What an expired timer leaves of the timers that were armed. -/
theorem armed_expire {timers timers' : Timers TimerCallback} {id id' : Int} {callback : TimerCallback}
    {timer : Timer TimerCallback} (hexpire : timers.expire id = some (callback, timers'))
    (harmed : timers'.armed id' = some timer) :
    ∃ old, timers.armed id' = some old ∧ old.callback = timer.callback ∧
      (id' = id → Timers.Timer.again old = some timer) ∧ (id' ≠ id → old = timer) := by
  obtain ⟨old, hold, heq⟩ := Option.map_eq_some_iff.mp hexpire
  obtain ⟨rfl, rfl⟩ := Prod.mk.inj heq
  have harmed : Function.update timers.armed id (Timers.Timer.again old) id' = some timer := harmed
  by_cases hid : id' = id
  · subst hid
    rw [Function.update_self] at harmed
    refine ⟨old, hold, ?_, fun _ => harmed, fun hne => absurd rfl hne⟩
    rw [Timers.Timer.again] at harmed
    split at harmed
    · cases harmed
      rfl
    · split at harmed
      · cases harmed
        rfl
      · cases harmed
  · rw [Function.update_of_ne hid] at harmed
    exact ⟨timer, harmed, rfl, fun heq => absurd heq hid, fun _ => rfl⟩

theorem again_forever {timer timer' : Timer TimerCallback} (htimes : timer.callTimes = -1)
    (h : Timers.Timer.again timer = some timer') : timer' = timer := by
  rw [Timers.Timer.again, if_pos (by omega)] at h
  exact (Option.some.inj h).symm

theorem again_once {timer : Timer TimerCallback} (htimes : timer.callTimes = 1) :
    Timers.Timer.again timer = none := by
  rw [Timers.Timer.again, if_neg (by omega), if_neg (by omega)]

theorem Tallied.expired (h : Tallied m a) {id : Int} {callback : TimerCallback}
    {timers : Timers TimerCallback} (hexpire : a.timers.expire id = some (callback, timers)) :
    Tallied m { a with timers := timers } := by
  have hids : timers.ids = a.timers.ids := by
    obtain ⟨old, _, heq⟩ := Option.map_eq_some_iff.mp hexpire
    rw [← (Prod.mk.inj heq).2]
  refine h.targeted ⟨rfl, rfl, h.1.autoPool, h.1.registered, h.1.idle, h.1.small, h.1.buildingPool,
    h.1.raised, h.1.counted, ⟨?_, fun id' timer harmed => ?_⟩, fun id' timer y harmed hcallback => ?_,
    fun id' timer y harmed hcallback => ?_⟩
  · rw [show (Apps.timers { a with timers := timers }).ids = _ from hids]
    exact h.1.timers.1
  · obtain ⟨old, hold, _⟩ := armed_expire hexpire harmed
    rw [show (Apps.timers { a with timers := timers }).ids = _ from hids]
    exact h.1.timers.2 id' old hold
  · obtain ⟨old, hold, hsame, hagain, hother⟩ := armed_expire hexpire harmed
    have hsearch := h.1.search id' old y hold (hsame.trans hcallback)
    obtain rfl : timer = old := by
      by_cases hid : id' = id
      · exact again_forever hsearch.1 (hagain hid)
      · exact (hother hid).symm
    exact hsearch
  · obtain ⟨old, hold, hsame, hagain, hother⟩ := armed_expire hexpire harmed
    have hrefind := h.1.refindPath id' old y hold (hsame.trans hcallback)
    by_cases hid : id' = id
    · have hnone := again_once hrefind.1
      rw [hagain hid] at hnone
      cases hnone
    · obtain rfl := hother hid
      exact hrefind

/-- An auto of some status is registered. -/
theorem Counting.listed (h : a.Counting) (hstatus : (a.auto x).presentStatus ≠ none) :
    ∃ k, a.autoes k = some x := by
  by_contra hout
  exact hstatus (h.idle x fun k hk => hout ⟨k, hk⟩)

theorem Tallied.onTimerSearch (h : Tallied m a) (m' : CombatManagers)
    (hstatus : (a.auto x).presentStatus = some .search) : Tallied m (a.onTimerSearch m' x) := by
  obtain ⟨k, hk⟩ := h.1.listed (x := x) (by simp [hstatus])
  have hset : ∀ (type : CombatEntityType) (id : Int),
      Tallied m ((a.setTarget x type id).gotoChase m' x) := fun type id =>
    h.targeted ((Targeted.setTarget h.1 hk (by simp [hstatus]) type id).gotoChase hk m')
  rw [Apps.onTimerSearch]
  split
  · rename_i b hb
    rw [searchTarget] at hb
    split at hb
    · split at hb
      · cases hb
      · split at hb
        · obtain ⟨_, rfl⟩ := Prod.mk.inj hb
          exact hset _ _
        · split at hb
          · obtain ⟨_, rfl⟩ := Prod.mk.inj hb
            exact hset _ _
          · cases hb
    · cases hb
  · rename_i b hb
    rw [searchTarget] at hb
    split at hb
    · split at hb
      · obtain ⟨_, rfl⟩ := Prod.mk.inj hb
        exact h
      · split at hb
        · cases hb
        · split at hb
          · cases hb
          · obtain ⟨_, rfl⟩ := Prod.mk.inj hb
            exact h
    · obtain ⟨_, rfl⟩ := Prod.mk.inj hb
      exact h

theorem Tallied.onTimerRefindPath (h : Tallied m a) (m' : CombatManagers)
    (hstatus : (a.auto x).presentStatus = some .chase)
    (hunarmed : ∀ id timer, a.timers.armed id = some timer → timer.callback ≠ .refindPath x) :
    Tallied m (a.onTimerRefindPath m' x) := by
  obtain ⟨k, hk⟩ := h.1.listed (x := x) (by simp [hstatus])
  have hfree : a.Free x := by
    refine fun id timer harmed => ⟨fun hcallback => ?_, hunarmed id timer harmed⟩
    have hsearch := (h.1.search id timer x harmed hcallback).2.1
    rw [hstatus] at hsearch
    cases hsearch
  have howing := Targeted.owing h.1 hk hfree
  rw [hstatus, aims_none (by simp [hstatus])] at howing
  have hcleared : (a.modifyAuto x fun auto => { auto with
      timerIdRefindPath := -1, refindPath := false }).Owing a.autoes a.buildings (Listed a.autoes)
        x k (some .chase) none := howing.modifyAuto rfl hstatus
  rw [← aims_none (a := a.modifyAuto x fun auto => { auto with
    timerIdRefindPath := -1, refindPath := false }) (x := x) (by simp [hcleared.status])] at hcleared
  exact h.targeted (hcleared.targeted.chase hk m')

theorem Tallied.moveStep (h : Tallied m a) (m' : CombatManagers) (w : Ptr) :
    Tallied m (a.moveStep m' w) := by
  rw [Apps.moveStep]
  split
  · exact h.beside (outside_moveReset a w).toBeside
  · split
    · exact h.beside (outside_moveReset a w).toBeside
    · dsimp only
      have hindex : Beside a (a.modifyWarrior w fun warrior =>
          { warrior with pathIndex := warrior.pathIndex + 1 }) := .same rfl rfl rfl rfl rfl
      generalize (a.modifyWarrior w fun warrior =>
          { warrior with pathIndex := warrior.pathIndex + 1 }) = b at *
      split
      · exact h.beside (hindex.trans (outside_moveReset b w).toBeside)
      · rename_i sc _ _ i _ _ j _
        have hstep : Beside b (b.stepTo sc w i j (((a.warrior w).movePaths[(a.warrior
            w).pathIndex.toNat]?).getD ⟨0, 0⟩)) := by
          rw [stepTo]
          dsimp only
          split
          · refine Beside.trans ?_ (outside_moveReset _ w).toBeside
            exact .same rfl rfl rfl rfl rfl
          · exact .same rfl rfl rfl rfl rfl
        have hmoved := h.beside (hindex.trans hstep)
        exact hmoved.targeted (hmoved.1.dispatch _ _ fun b k x hb hx => hb.onMoveStep hx m' _)

end Apps

open Apps

/-- Other answers of `new` to come. -/
theorem tallied_memory {s : Server} (memory : Server.Memory) (h : Tallied s.managers s.apps) :
    Tallied s.managers (s.setMemory memory).apps :=
  ⟨⟨rfl, rfl, ⟨h.1.autoPool.nodup, h.1.autoPool.live⟩, h.1.registered, h.1.idle, h.1.small,
    ⟨h.1.buildingPool.nodup, h.1.buildingPool.live⟩, h.1.raised, h.1.counted, h.1.timers,
    h.1.search, h.1.refindPath⟩, h.2.fewer rfl fun _ => id⟩

theorem talliedRule : AiRule Tallied True where
  outside := fun h houtside => h.beside houtside.toBeside
  managers := fun h hlasts hadmits hended => ⟨h.1, h.2.managers hlasts hadmits hended⟩
  memory := fun memory h => tallied_memory memory h
  settle := fun combatId h => h.settleAi combatId
  begin := fun combatId _ h => h.beginAi combatId
  build := fun h hgoes _ _ _ houtside hraised =>
    ((h.goes hgoes).beside houtside.toBeside).buildAi hraised _
  attacked := fun m' combatId warriorId host h => h.attacked m' combatId warriorId host
  death := fun combatId target h => h.deathAi combatId target
  convertCamp := fun combatId host h => h.convertCampAi combatId host
  recovery := fun b _ h hchange => h.modifyBuilding b hchange
  expired := fun h hexpire => h.expired hexpire
  search := fun {m a id x timers} h hexpire => by
    obtain ⟨old, hold, heq⟩ := Option.map_eq_some_iff.mp hexpire
    exact (h.expired hexpire).onTimerSearch m (h.1.search id old x hold (Prod.mk.inj heq).1).2.1
  refindPath := fun {m a id x timers} h hexpire => by
    obtain ⟨old, hold, heq⟩ := Option.map_eq_some_iff.mp hexpire
    have hrefind := h.1.refindPath id old x hold (Prod.mk.inj heq).1
    refine (h.expired hexpire).onTimerRefindPath m hrefind.2.1 fun id' timer harmed hagain => ?_
    obtain ⟨timer', htimer', hsame, hthis, _⟩ := armed_expire hexpire harmed
    have hother := h.1.refindPath id' timer' x htimer' (hsame.trans hagain)
    have hnone := again_once hother.1
    rw [hthis (hother.2.2.1.symm.trans hrefind.2.2.1)] at hnone
    cases hnone
  move := fun w h => h.moveStep _ w

/-! ## Runs -/

namespace Server

/-- The combats are enrolled, and the buildings count. -/
def Tallies (s : Server) : Prop := s.managers.Enrolled ∧ Tallied s.managers s.apps

theorem Tallies.step {s : Server} (h : s.Tallies) (action : Action) : (s.step action).Tallies :=
  talliedRule.step h fun _ _ _ => trivial

end Server

end Mysya
