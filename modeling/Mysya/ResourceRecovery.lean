import Mysya.RoleLoops

/-!
# The recovery of resources

The loop over the buildings returns at the first one that the AI has not raised, and then no role
gets anything. What the event should do is said for a role and for a building alone, and what
stands in its way is said about the state before.
-/

open Std StoppedLoops Attempts

namespace Mysya

open CombatManagers

/-- The role got what the buildings of its camp add. -/
structure CombatRoleField.Supplied (combat : CombatField) (before after : CombatRoleField) :
    Prop where
  food : after.food =
    min before.foodMax (before.food + combat.campTotal CombatBuildingField.foodAdd before.campId)
  elixir : after.elixir = min before.elixirMax
    (before.elixir + combat.campTotal CombatBuildingField.elixirAdd before.campId)

/-- The hit points after a recovery. -/
def CombatBuildingField.restoredHp (building : CombatBuildingField) : Int :=
  min building.maxHp (building.hp + building.hpRecovery)

theorem CombatBuildingField.recovered_hp (building : CombatBuildingField) :
    building.recovered.hp = building.restoredHp := by
  rw [recovered, restoredHp]
  dsimp only
  split
  · omega
  · omega

namespace CombatField

/-- Food and elixir of a camp, for a camp that has a building. -/
def campResources (combat : CombatField) (campId : Int) : Option (Int × Int) :=
  match combat.campSum CombatBuildingField.foodAdd campId,
      combat.campSum CombatBuildingField.elixirAdd campId with
  | some food, some elixir => some (food, elixir)
  | _, _ => none

variable {combat : CombatField} {campId : Int}

theorem campResources_of_owns (h : combat.Owns campId) : combat.campResources campId =
    some (combat.campTotal CombatBuildingField.foodAdd campId,
      combat.campTotal CombatBuildingField.elixirAdd campId) := by
  rw [campResources, campSum_of_owns h, campSum_of_owns h]

theorem campResources_isSome (combat : CombatField) (campId : Int) :
    (combat.campResources campId).isSome ↔ combat.Owns campId := by
  by_cases howns : combat.Owns campId
  · rw [campResources_of_owns howns]
    exact iff_of_true rfl howns
  · rw [campResources, campSum_of_not_owns howns]
    exact iff_of_false nofun howns

end CombatField

namespace CombatRoleField

theorem setFood_food (role : CombatRoleField) (value : Int) :
    (role.setFood value).food = min role.foodMax value := by
  rw [setFood]
  dsimp only
  split
  · omega
  · omega

theorem setElixir_elixir (role : CombatRoleField) (value : Int) :
    (role.setElixir value).elixir = min role.elixirMax value := by
  rw [setElixir]
  dsimp only
  split
  · omega
  · omega

theorem supplied_inc {combat : CombatField} (role : CombatRoleField) :
    role.Supplied combat ((role.incFood
      (combat.campTotal CombatBuildingField.foodAdd role.campId)).incElixir
        (combat.campTotal CombatBuildingField.elixirAdd role.campId)) := by
  constructor
  · exact setFood_food role _
  · exact setElixir_elixir (role.incFood _) _

end CombatRoleField

namespace CombatManagers

variable {m : CombatManagers} {p q : Ptr} {r : UInt64}

theorem recoverRoles_eq (combat : CombatField) (l : List UInt64) (m : CombatManagers) :
    m.recoverRoles combat l = m.serveRoles combat.campResources
      (fun amounts role => (role.incFood amounts.1).incElixir amounts.2) l := by
  induction l generalizing m with
  | nil => rfl
  | cons r rest ih =>
    rw [recoverRoles, serveRoles]
    cases m.roles[r]? with
    | none => rfl
    | some q =>
      dsimp only
      rw [CombatField.campResources]
      cases combat.campSum CombatBuildingField.foodAdd (m.role q).campId with
      | none => rfl
      | some food =>
        cases combat.campSum CombatBuildingField.elixirAdd (m.role q).campId with
        | none => rfl
        | some elixir => exact ih _

theorem recoverRoles_supplied (hm : m.Manned (m.combat p).roles.toList)
    (hr : r ∈ (m.combat p).roles) (hq : m.roles[r]? = some q) :
    (m.role q).Supplied (m.combat p)
        ((m.recoverRoles (m.combat p) (m.combat p).roles.toList).role q) ↔
      m.ServedUpTo p r ∨ (m.role q).Supplied (m.combat p) (m.role q) := by
  obtain ⟨hreached, hmissed⟩ := serveRoles_role
    (g := fun amounts role => (role.incFood amounts.1).incElixir amounts.2)
    (CombatField.campResources_isSome (m.combat p)) (fun _ _ => rfl) hm (nodup_roles _)
    (ExtTreeSet.mem_toList.mpr hr) hq
  rw [mem_served hr, ← recoverRoles_eq] at hreached hmissed
  by_cases hserved : m.ServedUpTo p r
  · obtain ⟨amounts, hamounts, hrole⟩ := hreached hserved
    have howns := (CombatField.campResources_isSome _ _).mp (Option.isSome_of_eq_some hamounts)
    rw [CombatField.campResources_of_owns howns, Option.some.injEq] at hamounts
    rw [hrole, ← hamounts]
    exact iff_of_true (CombatRoleField.supplied_inc _) (Or.inl hserved)
  · rw [hmissed hserved]
    exact ⟨Or.inr, fun h => h.resolve_left hserved⟩

end CombatManagers

/-- An auto attacks the building. -/
def Apps.UnderAttack (a : Apps) (c id : Int) : Prop :=
  ∃ b, a.buildings (c, id) = some b ∧ 0 < a.targetedNum b

namespace Server

variable {s t : Server} {c id : Int} {p q : Ptr} {r : UInt64}

/-- The AI has raised every building of the combat up to this one. -/
def RaisedUpTo (s : Server) (c : Int) (p : Ptr) (id : Int) : Prop :=
  Reached (s.managers.combat p).buildings.keys (fun id => (s.apps.buildings (c, id)).isSome) id

def AllRaised (s : Server) (c : Int) (p : Ptr) : Prop :=
  ∀ id ∈ (s.managers.combat p).buildings.keys, (s.apps.buildings (c, id)).isSome

/-- Every role got what its camp's buildings add, and every building that nobody attacks has
recovered. -/
structure ResourcesRecovered (s : Server) (c : Int) (p : Ptr) (t : Server) : Prop where
  roles : ∀ r ∈ (s.managers.combat p).roles, ∀ q, s.managers.roles[r]? = some q →
    (s.managers.role q).Supplied (s.managers.combat p) (t.managers.role q)
  buildings : ∀ (id : Int) building, (s.managers.combat p).buildings[id]? = some building →
    ¬ s.apps.UnderAttack c id →
      (t.managers.combat p).buildings[id]?.map CombatBuildingField.hp = some building.restoredHp

/-- Whom the loops do not reach would get nothing. -/
structure NothingMissed (s : Server) (c : Int) (p : Ptr) : Prop where
  roles : ∀ r ∈ (s.managers.combat p).roles, ∀ q, s.managers.roles[r]? = some q →
    (s.AllRaised c p ∧ s.managers.ServedUpTo p r) ∨
      (s.managers.role q).Supplied (s.managers.combat p) (s.managers.role q)
  buildings : ∀ (id : Int) building, (s.managers.combat p).buildings[id]? = some building →
    s.RaisedUpTo c p id ∨ s.apps.UnderAttack c id ∨ building.hp = building.restoredHp

/-! ## The buildings -/

/-- The roles, and which of them the combat has, are as before. -/
structure SameRoles (p : Ptr) (s t : Server) : Prop where
  roles : t.managers.roles = s.managers.roles
  rolePool : t.managers.rolePool = s.managers.rolePool
  members : (t.managers.combat p).roles = (s.managers.combat p).roles

theorem SameRoles.trans {u : Server} (h : SameRoles p s t) (h' : SameRoles p t u) :
    SameRoles p s u where
  roles := h'.roles.trans h.roles
  rolePool := h'.rolePool.trans h.rolePool
  members := h'.members.trans h.members

theorem SameRoles.role (h : SameRoles p s t) (q : Ptr) : t.managers.role q = s.managers.role q := by
  rw [CombatManagers.role, h.rolePool, CombatManagers.role]

theorem recoveryHp_members {b : Ptr} (building : CombatBuildingField) :
    ((t.recoveryHp p b building).managers.combat p).roles = (t.managers.combat p).roles := by
  rcases modifyCombat_or t.managers p p fun combat => { combat with
    buildings := combat.buildings.insert building.id building.recovered } with hsame | ⟨_, hchanged⟩
  · exact congrArg CombatField.roles hsame
  · have hroles := congrArg CombatField.roles hchanged
    exact hroles

theorem recoverBuilding_sameRoles (entry : Int × CombatBuildingField) :
    Ends (SameRoles p t) (SameRoles p t) (recoverBuilding c p t entry) := by
  rw [recoverBuilding]
  split
  · exact ⟨rfl, rfl, rfl⟩
  · split
    · exact ⟨rfl, rfl, recoveryHp_members entry.2⟩
    · exact ⟨rfl, rfl, rfl⟩

theorem recoverBuilding_raised (entry : Int × CombatBuildingField) :
    Ends (fun _ => (t.apps.buildings (c, entry.1)).isSome) (fun _ => True)
      (recoverBuilding c p t entry) := by
  rw [recoverBuilding]
  split
  · trivial
  · rename_i b hb
    rw [hb]
    split
    · rfl
    · rfl

/-- The loop comes to its end, or to a building that the AI has not raised. -/
theorem recoverBuildings_ends (h : s.managers.Enrolled) (hc : s.managers.combats[c]? = some p) :
    Ends (fun t => s.Recovers c p [] t ∧ SameRoles p s t ∧ s.AllRaised c p)
      (fun t => ∃ front entry rest, front ++ entry :: rest =
        (s.managers.combat p).buildings.toList ∧
        (∀ e ∈ front, (s.apps.buildings (c, e.1)).isSome) ∧
        s.apps.buildings (c, entry.1) = none ∧ s.Recovers c p (entry :: rest) t ∧ SameRoles p s t)
      ((s.managers.combat p).buildings.toList.foldlM (recoverBuilding c p) s) := by
  refine (ends_foldlM (I := fun rest t =>
    (∃ front, front ++ rest = (s.managers.combat p).buildings.toList ∧
      ∀ e ∈ front, (s.apps.buildings (c, e.1)).isSome) ∧ s.Recovers c p rest t ∧ SameRoles p s t)
    ?_ _ ⟨⟨[], rfl, nofun⟩, .start (h.combats c p hc).1.1, rfl, rfl, rfl⟩).mono ?_ fun _ ht => ht
  · rintro entry rest t ⟨⟨front, hlist, hfront⟩, hrecovers, hroles⟩
    have hround := ((hrecovers.round h hlist).and (recoverBuilding_sameRoles entry)).and
      (recoverBuilding_raised (c := c) (p := p) (t := t) entry)
    refine hround.mono ?_ ?_
    · rintro t' ⟨⟨ht', hsame⟩, hraised⟩
      rw [hrecovers.buildings] at hraised
      refine ⟨⟨front ++ [entry], ?_, fun e he => ?_⟩, ht', hroles.trans hsame⟩
      · rw [List.append_assoc, List.singleton_append, hlist]
      · rcases List.mem_append.mp he with he | he
        · exact hfront e he
        · rw [List.mem_singleton.mp he]
          exact hraised
    · rintro t' ⟨⟨⟨ht', hnone⟩, hsame⟩, _⟩
      exact ⟨front, entry, rest, hlist, hfront, hnone, ht', hroles.trans hsame⟩
  · rintro t ⟨⟨front, hlist, hfront⟩, hrecovers, hroles⟩
    refine ⟨hrecovers, hroles, fun id hid => ?_⟩
    rw [← ExtTreeMap.map_fst_toList_eq_keys, ← hlist, List.append_nil, List.mem_map] at hid
    obtain ⟨e, he, rfl⟩ := hid
    exact hfront e he

theorem sorted_keys (combat : CombatField) : combat.buildings.keys.Pairwise (· < ·) := by
  refine combat.buildings.ordered_keys.imp ?_
  intro id id' h
  exact Int.compare_eq_lt.mp h

theorem keys_split {combat : CombatField} {front rest : List (Int × CombatBuildingField)}
    {entry : Int × CombatBuildingField}
    (h : front ++ entry :: rest = combat.buildings.toList) :
    combat.buildings.keys = front.map Prod.fst ++ entry.1 :: rest.map Prod.fst := by
  rw [← ExtTreeMap.map_fst_toList_eq_keys, ← h, List.map_append, List.map_cons]

/-- A building that the loop reaches has its turn, and another stays as it is. -/
theorem recovery_buildings (h : s.managers.Enrolled) (hc : s.managers.combats[c]? = some p)
    {building : CombatBuildingField}
    (hbuilding : (s.managers.combat p).buildings[id]? = some building) :
    (s.RaisedUpTo c p id →
      ((s.onEventCombatResourceRecover c).managers.combat p).buildings[id]? =
        some (s.apps.recover c id building)) ∧
    (¬ s.RaisedUpTo c p id →
      ((s.onEventCombatResourceRecover c).managers.combat p).buildings[id]? = some building) := by
  have hin : id ∈ (s.managers.combat p).buildings.keys := by
    rw [ExtTreeMap.mem_keys, ExtTreeMap.mem_iff_isSome_getElem?, hbuilding]
    rfl
  have hends := recoverBuildings_ends h hc
  rw [onEventCombatResourceRecover, hc]
  dsimp only
  split
  · rename_i t hfold
    obtain ⟨front, entry, rest, hlist, hfront, hnone, hrecovers, _⟩ := hends.error hfold
    have hkeys := keys_split hlist
    have hsorted := sorted_keys (s.managers.combat p)
    rw [hkeys] at hin hsorted
    rw [RaisedUpTo, hkeys, hrecovers.fields, hbuilding, Option.map_some]
    rcases List.mem_append.mp hin with hfirst | hback
    · have hreached := reached_front (p := fun id => (s.apps.buildings (c, id)).isSome)
        hsorted (by simpa using hfront) hfirst
      have hout : id ∉ (entry :: rest).map Prod.fst := by
        intro hback
        have hlt := (List.pairwise_append.mp hsorted).2.2 id hfirst id hback
        exact Int.lt_irrefl id hlt
      rw [if_neg hout]
      exact ⟨fun _ => rfl, fun hnot => absurd hreached hnot⟩
    · have hstop : ¬ (s.apps.buildings (c, entry.1)).isSome := by
        rw [hnone]
        exact Bool.false_ne_true
      rw [List.map_cons, if_pos hback]
      exact ⟨fun hreached => absurd hreached (not_reached_rest hsorted hstop hback), fun _ => rfl⟩
  · rename_i t hfold
    obtain ⟨hrecovers, _, hall⟩ := hends.ok hfold
    rw [CombatManagers.combat, recoverRoles_combatPool]
    have hfields := hrecovers.fields id
    rw [hbuilding, Option.map_some, List.map_nil, if_neg List.not_mem_nil] at hfields
    exact ⟨fun _ => hfields, fun hnot => absurd (fun id' hid' _ => hall id' hid') hnot⟩

theorem recover_hp_iff (hraised : s.RaisedUpTo c p id) {building : CombatBuildingField}
    (hbuilding : (s.managers.combat p).buildings[id]? = some building)
    (hfree : ¬ s.apps.UnderAttack c id) :
    (s.apps.recover c id building).hp = building.restoredHp := by
  have hin : id ∈ (s.managers.combat p).buildings.keys := by
    rw [ExtTreeMap.mem_keys, ExtTreeMap.mem_iff_isSome_getElem?, hbuilding]
    rfl
  obtain ⟨b, hb⟩ := Option.isSome_iff_exists.mp (hraised id hin (Int.le_refl id))
  rw [Apps.recover, hb]
  dsimp only
  rw [if_pos, CombatBuildingField.recovered_hp]
  by_contra hbusy
  exact hfree ⟨b, hb, by omega⟩

/-! ## The roles -/

theorem recover_fixed (a : Apps) (c id : Int) (building : CombatBuildingField) :
    (a.recover c id building).campId = building.campId ∧
      (a.recover c id building).foodAdd = building.foodAdd ∧
      (a.recover c id building).elixirAdd = building.elixirAdd := by
  rw [Apps.recover]
  split
  · exact ⟨rfl, rfl, rfl⟩
  · split
    · exact ⟨rfl, rfl, rfl⟩
    · exact ⟨rfl, rfl, rfl⟩

theorem Recovers.buildings_eq (h : s.Recovers c p [] t) :
    (t.managers.combat p).buildings = (s.managers.combat p).buildings.map (s.apps.recover c) := by
  refine ExtTreeMap.ext_getElem? fun id => ?_
  rw [h.fields, ExtTreeMap.getElem?_map]
  simp

theorem Recovers.filter_eq (h : s.Recovers c p [] t) (campId : Int) :
    ((t.managers.combat p).buildings.toList.filter fun entry => entry.2.campId == campId) =
      ((s.managers.combat p).buildings.toList.filter fun entry => entry.2.campId == campId).map
        fun entry => (entry.1, s.apps.recover c entry.1 entry.2) := by
  rw [h.buildings_eq, ExtTreeMap.toList_map, List.filter_map]
  congr 1
  refine List.filter_congr fun entry _ => ?_
  simp only [Function.comp_apply, (recover_fixed s.apps c entry.1 entry.2).1]

theorem Recovers.campTotal_eq (h : s.Recovers c p [] t) {amount : CombatBuildingField → Int}
    (hamount : ∀ id building, amount (s.apps.recover c id building) = amount building)
    (campId : Int) :
    (t.managers.combat p).campTotal amount campId =
      (s.managers.combat p).campTotal amount campId := by
  rw [CombatField.campTotal, h.filter_eq, List.map_map, CombatField.campTotal]
  congr 1
  refine List.map_congr_left fun entry _ => ?_
  exact hamount entry.1 entry.2

theorem Recovers.owns_iff (h : s.Recovers c p [] t) (campId : Int) :
    (t.managers.combat p).Owns campId ↔ (s.managers.combat p).Owns campId := by
  rw [CombatField.Owns, h.buildings_eq, ExtTreeMap.toList_map]
  simp only [List.mem_map, exists_exists_and_eq_and, (recover_fixed s.apps c _ _).1]
  rfl

theorem Recovers.supplied_iff (h : s.Recovers c p [] t) (before after : CombatRoleField) :
    before.Supplied (t.managers.combat p) after ↔ before.Supplied (s.managers.combat p) after := by
  have hfood := h.campTotal_eq (fun id building => (recover_fixed s.apps c id building).2.1)
    before.campId
  have helixir := h.campTotal_eq (fun id building => (recover_fixed s.apps c id building).2.2)
    before.campId
  constructor
  · rintro ⟨hf, he⟩
    rw [hfood] at hf
    rw [helixir] at he
    exact ⟨hf, he⟩
  · rintro ⟨hf, he⟩
    rw [← hfood] at hf
    rw [← helixir] at he
    exact ⟨hf, he⟩

/-- After the loop over the buildings the roles are as before, and reached as before. -/
theorem Recovers.role_iff (h : s.Recovers c p [] t) (hsame : SameRoles p s t)
    (hm : s.managers.Manned (s.managers.combat p).roles.toList)
    (hr : r ∈ (s.managers.combat p).roles) (hq : s.managers.roles[r]? = some q) :
    (s.managers.role q).Supplied (s.managers.combat p) ((t.managers.recoverRoles
        (t.managers.combat p) (t.managers.combat p).roles.toList).role q) ↔
      s.managers.ServedUpTo p r ∨
        (s.managers.role q).Supplied (s.managers.combat p) (s.managers.role q) := by
  have hmanned : t.managers.Manned (t.managers.combat p).roles.toList := by
    rw [hsame.members]
    constructor
    · rw [hsame.roles, hsame.rolePool]
      exact hm.live
    · rw [hsame.roles]
      exact hm.apart
  have hserved : t.managers.ServedUpTo p r ↔ s.managers.ServedUpTo p r := by
    rw [ServedUpTo, ServedUpTo, hsame.members]
    have hprovides : ∀ r, t.managers.Provides (t.managers.combat p) r ↔
        s.managers.Provides (s.managers.combat p) r := by
      intro r
      rw [Provides, Provides, hsame.roles]
      simp only [hsame.role, h.owns_iff]
    simp only [Reached, hprovides]
  have hmember := hr
  rw [← hsame.members] at hmember
  have hregistered := hq
  rw [← hsame.roles] at hregistered
  have hloop := recoverRoles_supplied hmanned hmember hregistered
  rw [hserved, h.supplied_iff, h.supplied_iff, hsame.role] at hloop
  exact hloop

theorem recovery_role (h : s.managers.Enrolled) (hc : s.managers.combats[c]? = some p)
    (hm : s.managers.Manned (s.managers.combat p).roles.toList)
    (hr : r ∈ (s.managers.combat p).roles) (hq : s.managers.roles[r]? = some q) :
    (s.managers.role q).Supplied (s.managers.combat p)
        ((s.onEventCombatResourceRecover c).managers.role q) ↔
      (s.AllRaised c p ∧ s.managers.ServedUpTo p r) ∨
        (s.managers.role q).Supplied (s.managers.combat p) (s.managers.role q) := by
  have hends := recoverBuildings_ends h hc
  rw [onEventCombatResourceRecover, hc]
  dsimp only
  split
  · rename_i t hfold
    obtain ⟨front, entry, rest, hlist, _, hnone, _, hsame⟩ := hends.error hfold
    have hnot : ¬ s.AllRaised c p := by
      intro hall
      have hraised := hall entry.1 (by rw [keys_split hlist]; simp)
      rw [hnone] at hraised
      cases hraised
    rw [hsame.role]
    exact ⟨Or.inr, fun hor => hor.resolve_left fun hand => hnot hand.1⟩
  · rename_i t hfold
    obtain ⟨hrecovers, hsame, hall⟩ := hends.ok hfold
    rw [hrecovers.role_iff hsame hm hr hq]
    exact ⟨fun hor => hor.imp_left fun hserved => ⟨hall, hserved⟩,
      fun hor => hor.imp_left And.right⟩

/-- A recovery is complete exactly where the loops reach everyone who would get something. -/
theorem resources_recovered (s : Server) (c : Int) (p : Ptr) (h : s.managers.Enrolled)
    (hc : s.managers.combats[c]? = some p)
    (hm : s.managers.Manned (s.managers.combat p).roles.toList) :
    s.ResourcesRecovered c p (s.onEventCombatResourceRecover c) ↔ s.NothingMissed c p := by
  constructor
  · intro hall
    constructor
    · intro r hr q hq
      exact (recovery_role h hc hm hr hq).mp (hall.roles r hr q hq)
    · intro id building hbuilding
      by_cases hraised : s.RaisedUpTo c p id
      · exact Or.inl hraised
      · by_cases hbusy : s.apps.UnderAttack c id
        · exact Or.inr (Or.inl hbusy)
        · have hafter := hall.buildings id building hbuilding hbusy
          rw [(recovery_buildings h hc hbuilding).2 hraised, Option.map_some,
            Option.some.injEq] at hafter
          exact Or.inr (Or.inr hafter)
  · intro hnothing
    constructor
    · intro r hr q hq
      exact (recovery_role h hc hm hr hq).mpr (hnothing.roles r hr q hq)
    · intro id building hbuilding hfree
      by_cases hraised : s.RaisedUpTo c p id
      · rw [(recovery_buildings h hc hbuilding).1 hraised, Option.map_some,
          recover_hp_iff hraised hbuilding hfree]
      · rw [(recovery_buildings h hc hbuilding).2 hraised, Option.map_some]
        rcases hnothing.buildings id building hbuilding with hup | hbusy | hfull
        · exact absurd hup hraised
        · exact absurd hbusy hfree
        · rw [hfull]

/-- The combat of two roles has begun. -/
def begun (data : CombatInitialData) : Server := (deployed data).step (.begin 0 0)

theorem resources_recovered_rivals :
    (begun rivals).ResourcesRecovered 0 0 ((begun rivals).onEventCombatResourceRecover 0) := by
  have htallies : (begun rivals).Tallies :=
    (((started_tallies _ _).step (.accept 0)).step (.deploy 0 5 rivals)).step (.begin 0 0)
  have hconsistent : (begun rivals).managers.Consistent none :=
    (begin_steady deployed_consistent 0 0).consistent
  have hcombat : (begun rivals).managers.combats[(0 : Int)]? = some 0 := by decide +kernel
  have hraised : (begun rivals).AllRaised 0 0 := by
    rw [AllRaised]
    decide +kernel
  have hserved : ((begun rivals).managers.combat 0).roles.toList.all (fun r =>
      decide ((begun rivals).managers.Provides ((begun rivals).managers.combat 0) r)) := by
    decide +kernel
  refine (resources_recovered (begun rivals) 0 0 htallies.1 hcombat
    (hconsistent.manned hcombat)).mpr ⟨fun r hr q _ => ?_, fun id building hbuilding => ?_⟩
  · exact Or.inl ⟨hraised, fun r' hr' _ =>
      of_decide_eq_true (List.all_eq_true.mp hserved r' hr')⟩
  · exact Or.inl fun id' hid' _ => hraised id' hid'

/-- The role with the building gets nothing, since the role before it has none. -/
theorem resources_withheld :
    ¬ (begun guests).ResourcesRecovered 0 0 ((begun guests).onEventCombatResourceRecover 0) := by
  intro h
  have hfood := (h.roles 7 (by decide +kernel) 0 (by decide +kernel)).food
  revert hfood
  decide +kernel

end Server

end Mysya
