import Mysya.AutoRuns
import Mysya.BuildingCounts

/-!
# The recovery of buildings

When the resources of a combat recover, the loop over its buildings stops at the first one that
the AI has not raised. What is raised comes before, and recovers hit points unless an auto attacks
it.
-/

open Std OwnedTimers FiberCounts Attempts GuardedRuns

namespace Mysya

open CombatManagers

/-- The building after `RecoveryHp`. -/
def CombatBuildingField.recovered (building : CombatBuildingField) : CombatBuildingField :=
  { building with hp :=
      if building.maxHp < building.hp + building.hpRecovery then building.maxHp
      else building.hp + building.hpRecovery }

namespace Apps

variable {a : Apps} {c : Int}

theorem targetedNum_modify (a : Apps) (b : Ptr) {change : AiBuilding → AiBuilding}
    (hchange : ∀ building, (change building).targetedNum = building.targetedNum) (b' : Ptr) :
    targetedNum { a with buildingPool := a.buildingPool.modify b change } b' =
      a.targetedNum b' := by
  rw [targetedNum, targetedNum]
  by_cases heq : b' = b
  · rw [heq, PoolTemplate.read, PoolTemplate.modify_self, PoolTemplate.read]
    cases a.buildingPool.objects b with
    | none => rfl
    | some building => exact hchange building
  · rw [PoolTemplate.read_modify_other _ heq]

/-- What a recovery of the resources makes of a building. -/
def recover (a : Apps) (c buildingId : Int) (building : CombatBuildingField) :
    CombatBuildingField :=
  match a.buildings (c, buildingId) with
  | none => building
  | some b => if a.targetedNum b ≤ 0 then building.recovered else building

end Apps

theorem CombatManagers.recoverRoles_combatPool (combat : CombatField) (l : List UInt64)
    (s : CombatManagers) : (s.recoverRoles combat l).combatPool = s.combatPool :=
  keeps_recoverRoles (P := fun t => t.combatPool = s.combatPool) (fun _ h _ _ _ _ _ _ => h) rfl

namespace Server

variable {s t : Server} {c : Int} {p b : Ptr}

/-! ## One recovery -/

theorem recoveryHp_buildings (hlive : (t.managers.combatPool.objects p).isSome)
    (building : CombatBuildingField) :
    ((t.recoveryHp p b building).managers.combat p).buildings =
      (t.managers.combat p).buildings.insert building.id building.recovered := by
  have hnew := modifyCombat_combat hlive fun combat => { combat with
    buildings := combat.buildings.insert building.id building.recovered }
  exact congrArg CombatField.buildings hnew

theorem recoveryHp_live (hlive : (t.managers.combatPool.objects p).isSome)
    (building : CombatBuildingField) :
    ((t.recoveryHp p b building).managers.combatPool.objects p).isSome :=
  PoolTemplate.modify_isSome _ |>.trans hlive

theorem recoveryHp_targeted (building : CombatBuildingField) (b' : Ptr) :
    (t.recoveryHp p b building).apps.targetedNum b' = t.apps.targetedNum b' := by
  have hstatus : ∀ (hp : Int) (old : AiBuilding),
      (if old.presentStatus = some .retrieve ∧ building.maxHp ≤ hp then
        { old with presentStatus := some .host }
      else old).targetedNum = old.targetedNum := by
    intro hp old
    split
    · rfl
    · rfl
  exact Apps.targetedNum_modify t.apps b (hstatus _) b'

/-! ## The loop -/

/-- In the loop only the buildings of `rest` have not recovered. -/
structure Recovers (s : Server) (c : Int) (p : Ptr) (rest : List (Int × CombatBuildingField))
    (t : Server) : Prop where
  buildings : t.apps.buildings = s.apps.buildings
  targeted : ∀ b, t.apps.targetedNum b = s.apps.targetedNum b
  live : (t.managers.combatPool.objects p).isSome
  fields : ∀ id : Int, (t.managers.combat p).buildings[id]? =
    (s.managers.combat p).buildings[id]?.map fun building =>
      if id ∈ rest.map Prod.fst then building else s.apps.recover c id building

theorem Recovers.start (hlive : (s.managers.combatPool.objects p).isSome) :
    s.Recovers c p (s.managers.combat p).buildings.toList s := by
  refine ⟨rfl, fun _ => rfl, hlive, fun id => ?_⟩
  cases hbuilding : (s.managers.combat p).buildings[id]? with
  | none => rfl
  | some building =>
    have hin : id ∈ (s.managers.combat p).buildings.toList.map Prod.fst :=
      List.mem_map_of_mem (ExtTreeMap.mem_toList_iff_getElem?_eq_some.mpr hbuilding)
    rw [Option.map_some, if_pos hin]

theorem nodup_rest {buildings : ExtTreeMap Int CombatBuildingField}
    {front rest : List (Int × CombatBuildingField)} (h : front ++ rest = buildings.toList) :
    (rest.map Prod.fst).Nodup := by
  have hnodup := buildings.nodup_keys
  rw [← ExtTreeMap.map_fst_toList_eq_keys, ← h, List.map_append] at hnodup
  exact (List.nodup_append.mp hnodup).2.1

/-- The next building is as before, and has its turn. -/
theorem Recovers.next {entry : Int × CombatBuildingField}
    {rest : List (Int × CombatBuildingField)} (h : s.Recovers c p (entry :: rest) t)
    (hnodup : ((entry :: rest).map Prod.fst).Nodup)
    (hentry : (s.managers.combat p).buildings[entry.1]? = some entry.2) {t' : Server}
    (hbuildings : t'.apps.buildings = t.apps.buildings)
    (htargeted : ∀ b, t'.apps.targetedNum b = t.apps.targetedNum b)
    (hlive : (t'.managers.combatPool.objects p).isSome)
    (hself : (t'.managers.combat p).buildings[entry.1]? =
      some (s.apps.recover c entry.1 entry.2))
    (hothers : ∀ id, id ≠ entry.1 →
      (t'.managers.combat p).buildings[id]? = (t.managers.combat p).buildings[id]?) :
    s.Recovers c p rest t' := by
  have hout : entry.1 ∉ rest.map Prod.fst := (List.nodup_cons.mp hnodup).1
  refine ⟨hbuildings.trans h.buildings, fun b => (htargeted b).trans (h.targeted b), hlive,
    fun id => ?_⟩
  by_cases heq : id = entry.1
  · rw [heq, hself, hentry, Option.map_some, if_neg hout]
  · rw [hothers id heq, h.fields id, List.map_cons]
    simp only [List.mem_cons, heq, false_or]

theorem Recovers.round (hs : s.managers.Enrolled) {entry : Int × CombatBuildingField}
    {front rest : List (Int × CombatBuildingField)}
    (hlist : front ++ entry :: rest = (s.managers.combat p).buildings.toList)
    (h : s.Recovers c p (entry :: rest) t) :
    Ends (s.Recovers c p rest)
      (fun t => s.Recovers c p (entry :: rest) t ∧ s.apps.buildings (c, entry.1) = none)
      (recoverBuilding c p t entry) := by
  have hnodup := nodup_rest hlist
  have hentry : (s.managers.combat p).buildings[entry.1]? = some entry.2 := by
    rw [← ExtTreeMap.mem_toList_iff_getElem?_eq_some, ← hlist]
    exact List.mem_append_right _ (List.mem_cons_self ..)
  have hid : entry.2.id = entry.1 := (hs.buildings p entry.1 entry.2 hentry).1
  rw [recoverBuilding, h.buildings]
  split
  · rename_i hnone
    exact ⟨h, hnone⟩
  · rename_i b hb
    have hturn : ∀ field, s.apps.recover c entry.1 field =
        if t.apps.targetedNum b ≤ 0 then field.recovered else field := by
      intro field
      rw [Apps.recover, hb, h.targeted b]
    split
    · rename_i hfree
      have hnew := recoveryHp_buildings (b := b) h.live entry.2
      rw [hid] at hnew
      refine h.next hnodup hentry rfl (recoveryHp_targeted entry.2) (recoveryHp_live h.live entry.2)
        ?_ fun id hne => ?_
      · rw [hnew, hturn, ExtTreeMap.getElem?_insert_self]
        exact congrArg some (if_pos hfree).symm
      · rw [hnew, ExtTreeMap.getElem?_insert, if_neg]
        rw [Std.compare_eq_iff_eq]
        exact Ne.symm hne
    · rename_i hbusy
      refine h.next hnodup hentry rfl (fun _ => rfl) h.live ?_ fun _ _ => rfl
      have hwaits : entry.1 ∈ (entry :: rest).map Prod.fst := List.mem_cons_self ..
      rw [h.fields, hentry, Option.map_some, if_pos hwaits, hturn]
      exact congrArg some (if_neg hbusy).symm

/-- What the AI has raised comes before what it has not. -/
theorem raised_before {a : Apps} {entry : Int × CombatBuildingField}
    {buildings : ExtTreeMap Int CombatBuildingField}
    {front rest : List (Int × CombatBuildingField)} (h : a.Fronted c buildings.keys)
    (hlist : front ++ entry :: rest = buildings.toList)
    (hentry : a.buildings (c, entry.1) = none) {id : Int} (hid : (a.buildings (c, id)).isSome) :
    id ∉ (entry :: rest).map Prod.fst := by
  obtain ⟨raised, ⟨others, hkeys⟩, hraised⟩ := h
  have hout : entry.1 ∉ raised := by
    rw [← hraised, hentry]
    nofun
  have hin : id ∈ raised := (hraised id).mp hid
  have hnodup := buildings.nodup_keys
  have hsplit : raised ++ others = front.map Prod.fst ++ (entry :: rest).map Prod.fst := by
    rw [hkeys, ← ExtTreeMap.map_fst_toList_eq_keys, ← hlist, List.map_append]
  rw [← hkeys, hsplit] at hnodup
  intro hrest
  rcases List.append_eq_append_iff.mp hsplit with ⟨middle, hfront, _⟩ | ⟨middle, hfront, hback⟩
  · refine (List.nodup_append.mp hnodup).2.2 id ?_ id hrest rfl
    rw [hfront]
    exact List.mem_append_left _ hin
  · cases middle with
    | nil =>
      rw [List.append_nil] at hfront
      rw [hfront] at hin
      exact (List.nodup_append.mp hnodup).2.2 id hin id hrest rfl
    | cons first middle =>
      obtain ⟨rfl, _⟩ := List.cons.inj hback
      refine hout ?_
      rw [hfront]
      exact List.mem_append_right _ (List.mem_cons_self ..)

/-- The loop ends at the first building that the AI has not raised, and `recover` leaves all of
those as they are. -/
theorem recovers_fronted (he : s.managers.Enrolled) (hc : s.managers.combats[c]? = some p)
    (hfronted : s.apps.Fronted c (s.managers.combat p).buildings.keys) (id : Int) :
    ((s.onEventCombatResourceRecover c).managers.combat p).buildings[id]? =
      (s.managers.combat p).buildings[id]?.map (s.apps.recover c id) := by
  have hloop : Ends (fun t => ∃ rest, s.Recovers c p rest t ∧
        ∀ id ∈ rest.map Prod.fst, s.apps.buildings (c, id) = none)
      (fun t => ∃ rest, s.Recovers c p rest t ∧
        ∀ id ∈ rest.map Prod.fst, s.apps.buildings (c, id) = none)
      ((s.managers.combat p).buildings.toList.foldlM (Server.recoverBuilding c p) s) := by
    refine (ends_foldlM (I := fun rest t =>
      (∃ front, front ++ rest = (s.managers.combat p).buildings.toList) ∧ s.Recovers c p rest t)
      ?_ _ ⟨⟨[], rfl⟩, .start (he.combats c p hc).1.1⟩).mono ?_ fun _ ht => ht
    · rintro entry rest t ⟨⟨front, hlist⟩, hrecovers⟩
      refine (hrecovers.round he hlist).mono (fun t' ht' => ⟨⟨front ++ [entry], ?_⟩, ht'⟩) ?_
      · rw [List.append_assoc, List.singleton_append, hlist]
      · rintro t' ⟨ht', hnone⟩
        refine ⟨_, ht', fun id hid => ?_⟩
        by_contra hraised
        exact raised_before hfronted hlist hnone (Option.isSome_iff_ne_none.mpr hraised) hid
    · rintro t ⟨_, ht⟩
      exact ⟨[], ht, nofun⟩
  have hdone : ∀ t, (∃ rest, s.Recovers c p rest t ∧
      ∀ id ∈ rest.map Prod.fst, s.apps.buildings (c, id) = none) →
      (t.managers.combat p).buildings[id]? =
        (s.managers.combat p).buildings[id]?.map (s.apps.recover c id) := by
    rintro t ⟨rest, ht, hunraised⟩
    rw [ht.fields id]
    by_cases hrest : id ∈ rest.map Prod.fst
    · have hstays : s.apps.recover c id = fun building => building := by
        funext building
        rw [Apps.recover, hunraised id hrest]
      simp only [hrest, if_true, hstays]
    · simp only [hrest, if_false]
  rw [onEventCombatResourceRecover, hc]
  dsimp only
  split
  · rename_i t hfold
    exact hdone t (hloop.error hfold)
  · rename_i t hfold
    rw [CombatManagers.combat, recoverRoles_combatPool]
    exact hdone t (hloop.ok hfold)

theorem started_tallies (configs : Configs) (memory : Memory) :
    (started configs memory).Tallies := by
  have hauto : ∀ x, (started configs memory).apps.auto x = default := by
    intro x
    rcases (PoolTemplate.new_grown (E := Auto) configs.combatWarriorInitialSize
      configs.combatWarriorExtendSize memory.autos).objects x with hnone | ⟨_, hnew⟩
    · rw [Apps.auto, started, PoolTemplate.read, hnone]
      rfl
    · rw [Apps.auto, started, PoolTemplate.read, hnew]
      rfl
  have hidle : ∀ x, ((started configs memory).apps.auto x).presentStatus = none := by
    intro x
    rw [hauto]
    rfl
  have hunraised : ∀ k b, (started configs memory).apps.buildings k ≠ some b := by
    intro k b hk
    cases hk
  have hunarmed : ∀ id timer, (started configs memory).apps.timers.armed id ≠ some timer := by
    intro id timer harmed
    cases harmed
  refine ⟨(started_combats _ _ _ _ _ _ _ _).1, ?_, ?_⟩
  · constructor
    · rfl
    · rfl
    · exact (PoolTemplate.new_grown _ _ _).sound
    · intro k y hk
      cases hk
    · exact fun x _ => hidle x
    · simp [FiberCounts.Small, hidle]
    · exact (PoolTemplate.new_grown _ _ _).sound
    · exact fun k b hk => absurd hk (hunraised k b)
    · exact fun k b hk => absurd hk (hunraised k b)
    · exact ⟨Int.le_refl 0, fun id timer harmed => absurd harmed (hunarmed id timer)⟩
    · exact fun id timer _ harmed => absurd harmed (hunarmed id timer)
    · exact fun id timer _ harmed => absurd harmed (hunarmed id timer)
  · refine ⟨fun c id hid => (by cases hid), fun c p hc => ?_, ?_, fun c p hc => ?_⟩
    · simp [started, CombatManagers.started] at hc
    · rintro c ⟨id, hid⟩
      cases hid
    · simp [started, CombatManagers.started] at hc

/-- A building of another camp next to the place where the warriors start. -/
def siege : CombatInitialData := conquest [⟨8, "rival", [], [⟨2, 1, 10, 1, 0, 1, 5, 1, 1⟩]⟩] []

/-- The warrior has searched and found that building. -/
def besieged : Server := (armed siege).step (.expire 4)

end Server

end Mysya
