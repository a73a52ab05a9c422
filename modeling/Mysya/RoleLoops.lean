import Mysya.StoppedLoops
import Mysya.BuildingRecovery
import Mysya.SupplyCounts

/-!
# What the roles of a combat get

The supply and the resources of a camp's buildings go to its roles one by one, in the order of
their ids. Both loops return at the first role that is not registered or whose camp has no
building, and the roles behind it get nothing.
-/

open Std StoppedLoops GuardedRuns

namespace Mysya

namespace CombatField

/-- The amounts of a camp's buildings added up. -/
def campTotal (combat : CombatField) (amount : CombatBuildingField → Int) (campId : Int) : Int :=
  ((combat.buildings.toList.filter fun entry => entry.2.campId == campId).map
    fun entry => amount entry.2).sum

/-- The camp has a building. -/
def Owns (combat : CombatField) (campId : Int) : Prop :=
  ∃ entry ∈ combat.buildings.toList, entry.2.campId = campId

variable {combat : CombatField} {amount : CombatBuildingField → Int} {campId : Int}

theorem campSum_of_owns (h : combat.Owns campId) :
    combat.campSum amount campId = some (combat.campTotal amount campId) := by
  obtain ⟨entry, hentry, hcamp⟩ := h
  rw [campSum, if_neg]
  · rfl
  · rw [List.isEmpty_iff, List.filter_eq_nil_iff]
    intro hnone
    exact hnone entry hentry (beq_iff_eq.mpr hcamp)

theorem filter_of_not_owns (h : ¬ combat.Owns campId) :
    (combat.buildings.toList.filter fun entry => entry.2.campId == campId) = [] := by
  rw [List.filter_eq_nil_iff]
  intro entry hentry hcamp
  exact h ⟨entry, hentry, beq_iff_eq.mp hcamp⟩

theorem campSum_of_not_owns (h : ¬ combat.Owns campId) : combat.campSum amount campId = none := by
  rw [campSum, filter_of_not_owns h]
  rfl

instance (combat : CombatField) (campId : Int) : Decidable (combat.Owns campId) :=
  decidable_of_iff (combat.buildings.toList.any fun entry => decide (entry.2.campId = campId)) (by
    simp [Owns])

end CombatField

namespace CombatManagers

variable {m : CombatManagers} {combat : CombatField} {p q : Ptr} {r : UInt64}

/-- A role is registered under the id, and its camp has a building. -/
def Provides (m : CombatManagers) (combat : CombatField) (r : UInt64) : Prop :=
  ∃ q ∈ m.roles[r]?, combat.Owns (m.role q).campId

instance (m : CombatManagers) (combat : CombatField) (r : UInt64) :
    Decidable (m.Provides combat r) :=
  decidable_of_iff ((m.roles[r]?).any fun q => decide (combat.Owns (m.role q).campId)) (by
    simp [Provides, Option.any_eq_true])

/-- Ids of roles that have an object each. -/
structure Manned (m : CombatManagers) (l : List UInt64) : Prop where
  live : ∀ r ∈ l, ∀ q, m.roles[r]? = some q → (m.rolePool.objects q).isSome
  apart : ∀ r ∈ l, ∀ r' ∈ l, ∀ q, m.roles[r]? = some q → m.roles[r']? = some q → r = r'

theorem Consistent.manned (h : m.Consistent none) {c : Int} (hc : m.combats[c]? = some p) :
    m.Manned (m.combat p).roles.toList := by
  constructor
  · intro r hr q hq
    obtain ⟨q', hq', _⟩ := h.members c p r hc (ExtTreeSet.mem_toList.mp hr)
    obtain rfl := Option.some.inj (hq.symm.trans hq')
    exact (h.held r q hq).1
  · intro r _ r' _ q hq hq'
    rw [← (h.roles r q hq).1, (h.roles r' q hq').1]

theorem Manned.tail {l : List UInt64} (h : m.Manned (r :: l)) : m.Manned l where
  live := fun r' hr' => h.live r' (List.mem_cons_of_mem _ hr')
  apart := fun r' hr' r'' hr'' =>
    h.apart r' (List.mem_cons_of_mem _ hr') r'' (List.mem_cons_of_mem _ hr'')

theorem Manned.modifyRole {l : List UInt64} (h : m.Manned l)
    (change : CombatRoleField → CombatRoleField) : (m.modifyRole q change).Manned l where
  live := fun r hr q' hq' => by
    rw [CombatManagers.modifyRole, PoolTemplate.modify_isSome]
    exact h.live r hr q' hq'
  apart := h.apart

/-! ## A loop over roles -/

/-- Each role gets its camp's amount, until one is not registered or its camp has none. -/
def serveRoles {β : Type} (amount : Int → Option β)
    (change : β → CombatRoleField → CombatRoleField) (m : CombatManagers) :
    List UInt64 → CombatManagers
  | [] => m
  | r :: rest =>
    match m.roles[r]? with
    | none => m
    | some q =>
      match amount (m.role q).campId with
      | none => m
      | some v => (m.modifyRole q (change v)).serveRoles amount change rest

section Loop

variable {β : Type} {amount : Int → Option β} {g : β → CombatRoleField → CombatRoleField}
  {l : List UInt64}

theorem serveRoles_other (hout : ∀ r ∈ l, m.roles[r]? ≠ some q) :
    (m.serveRoles amount g l).role q = m.role q := by
  induction l generalizing m with
  | nil => rfl
  | cons r rest ih =>
    rw [serveRoles]
    split
    · rfl
    · rename_i q' hq'
      split
      · rfl
      · rename_i v _
        have hne : q ≠ q' := by
          rintro rfl
          exact hout r (List.mem_cons_self ..) hq'
        have hrest : ∀ r' ∈ rest, (m.modifyRole q' (g v)).roles[r']? ≠ some q :=
          fun r' hr' => hout r' (List.mem_cons_of_mem _ hr')
        rw [ih hrest]
        exact PoolTemplate.read_modify_other _ hne _

theorem provides_modifyRole {f : CombatRoleField → CombatRoleField}
    (hf : ∀ role, (f role).campId = role.campId) :
    (m.modifyRole q f).Provides combat r ↔ m.Provides combat r := by
  have hcamp : ∀ q', ((m.modifyRole q f).role q').campId = (m.role q').campId := by
    intro q'
    rcases modifyRole_or m q q' f with hsame | ⟨rfl, hchanged⟩
    · rw [hsame]
    · rw [hchanged, hf]
  rw [Provides, Provides]
  simp only [hcamp]
  rfl

theorem provides_of_owns (hq : m.roles[r]? = some q) :
    m.Provides combat r ↔ combat.Owns (m.role q).campId := by
  rw [Provides, hq]
  simp

/-- The roles that the loop reaches get the amount, and the others stay as they are. -/
theorem serveRoles_role (hamount : ∀ campId, (amount campId).isSome ↔ combat.Owns campId)
    (hchange : ∀ v role, (g v role).campId = role.campId) (hm : m.Manned l) (hnodup : l.Nodup)
    (hr : r ∈ l) (hq : m.roles[r]? = some q) :
    (r ∈ l.takeWhile (fun r => decide (m.Provides combat r)) →
      ∃ v, amount (m.role q).campId = some v ∧
        (m.serveRoles amount g l).role q = g v (m.role q)) ∧
    (r ∉ l.takeWhile (fun r => decide (m.Provides combat r)) →
      (m.serveRoles amount g l).role q = m.role q) := by
  induction l generalizing m with
  | nil => cases hr
  | cons first rest ih =>
    have hstop : ¬ m.Provides combat first →
        (first :: rest).takeWhile (fun r => decide (m.Provides combat r)) = [] := by
      intro hnot
      rw [List.takeWhile_cons_of_neg]
      simpa using hnot
    rw [serveRoles]
    split
    · rename_i hnone
      rw [hstop]
      · exact ⟨nofun, fun _ => rfl⟩
      · rintro ⟨q', hq', _⟩
        rw [hnone] at hq'
        cases hq'
    · rename_i q' hq'
      split
      · rename_i hnone
        rw [hstop]
        · exact ⟨nofun, fun _ => rfl⟩
        · rw [provides_of_owns hq', ← hamount, hnone]
          nofun
      · rename_i v hv
        have hprovides : m.Provides combat first := by
          rw [provides_of_owns hq', ← hamount, hv]
          rfl
        have hgo : (first :: rest).takeWhile (fun r => decide (m.Provides combat r)) =
            first :: rest.takeWhile fun r =>
              decide ((m.modifyRole q' (g v)).Provides combat r) := by
          rw [List.takeWhile_cons_of_pos (by simpa using hprovides)]
          simp only [provides_modifyRole (hchange v)]
        have hnew := hm.tail.modifyRole (q := q') (g v)
        rw [hgo]
        by_cases hfirst : r = first
        · subst hfirst
          obtain rfl : q' = q := Option.some.inj (hq'.symm.trans hq)
          refine ⟨fun _ => ⟨v, hv, ?_⟩, fun hout => absurd (List.mem_cons_self ..) hout⟩
          rw [serveRoles_other]
          · exact modifyRole_role (hm.live r hr q' hq) _
          · intro r' hr' hsame
            have heq := hm.apart r hr r' (List.mem_cons_of_mem _ hr') q' hq hsame
            rw [heq] at hnodup
            exact (List.nodup_cons.mp hnodup).1 hr'
        · have hrest : r ∈ rest := (List.mem_cons.mp hr).resolve_left hfirst
          have hne : q ≠ q' := by
            rintro rfl
            exact hfirst (hm.apart r hr first (List.mem_cons_self ..) q hq hq')
          have hsame : (m.modifyRole q' (g v)).role q = m.role q :=
            PoolTemplate.read_modify_other _ hne _
          have hlater := ih hnew (List.nodup_cons.mp hnodup).2 hrest hq
          rw [hsame] at hlater
          simpa only [List.mem_cons, hfirst, false_or] using hlater

theorem serveRoles_roles : (m.serveRoles amount g l).roles = m.roles := by
  induction l generalizing m with
  | nil => rfl
  | cons r rest ih =>
    rw [serveRoles]
    split
    · rfl
    · split
      · rfl
      · exact ih

theorem campSum_isSome (combat : CombatField) (amount : CombatBuildingField → Int) (campId : Int) :
    (combat.campSum amount campId).isSome ↔ combat.Owns campId := by
  by_cases howns : combat.Owns campId
  · rw [CombatField.campSum_of_owns howns]
    exact iff_of_true rfl howns
  · rw [CombatField.campSum_of_not_owns howns]
    exact iff_of_false nofun howns

theorem sorted_roles (combat : CombatField) : combat.roles.toList.Pairwise (· < ·) := by
  refine combat.roles.ordered_toList.imp ?_
  intro r r' h
  exact compareOfLessAndEq_eq_lt.mp h

theorem nodup_roles (combat : CombatField) : combat.roles.toList.Nodup :=
  (sorted_roles combat).imp fun h heq => by
    rw [heq] at h
    exact absurd h (UInt64.lt_irrefl _)

/-- Every role of the combat up to this one is registered, and its camp has a building. -/
def ServedUpTo (m : CombatManagers) (p : Ptr) (r : UInt64) : Prop :=
  Reached (m.combat p).roles.toList (m.Provides (m.combat p)) r

theorem mem_served (hr : r ∈ (m.combat p).roles) :
    r ∈ (m.combat p).roles.toList.takeWhile (fun r => decide (m.Provides (m.combat p) r)) ↔
      m.ServedUpTo p r :=
  mem_takeWhile (sorted_roles _) (ExtTreeSet.mem_toList.mpr hr)

end Loop

/-! ## Supply -/

theorem allocateSupplies_eq (combat : CombatField) (l : List UInt64) (m : CombatManagers) :
    m.allocateSupplies combat l = m.serveRoles (combat.campSum CombatBuildingField.supply)
      (fun supply role => { role with supplyMax := toInt32 supply }) l := by
  induction l generalizing m with
  | nil => rfl
  | cons r rest ih =>
    rw [allocateSupplies, serveRoles]
    cases m.roles[r]? with
    | none => rfl
    | some q =>
      dsimp only
      cases combat.campSum CombatBuildingField.supply (m.role q).campId with
      | none => rfl
      | some supply => exact ih _

/-- What the buildings of the role's camp give. -/
def suppliesOf (m : CombatManagers) (p q : Ptr) : Int :=
  (m.combat p).campTotal CombatBuildingField.supply (m.role q).campId

/-- The role may have as much supply as the buildings of its camp give. -/
def HasSupply (m : CombatManagers) (p q : Ptr) : Prop :=
  (m.role q).supplyMax = m.suppliesOf p q

def SuppliesFollow (m : CombatManagers) (p : Ptr) : Prop :=
  ∀ r ∈ (m.combat p).roles, ∀ q, m.roles[r]? = some q → m.HasSupply p q

/-- The loop reaches the role, and what its camp's buildings give is an `int32`; or it does not, and
the role has that before. -/
def Supplying (m : CombatManagers) (p q : Ptr) (r : UInt64) : Prop :=
  m.ServedUpTo p r ∧ FitsInt32 (m.suppliesOf p q) ∨ ¬ m.ServedUpTo p r ∧ m.HasSupply p q

/-- One role gets its supply if the loop reaches it, and had it before otherwise. -/
theorem hasSupply_iff (hm : m.Manned (m.combat p).roles.toList) (hr : r ∈ (m.combat p).roles)
    (hq : m.roles[r]? = some q) :
    (m.allocateBuildingSupply p).HasSupply p q ↔ m.Supplying p q r := by
  have hcombat : (m.allocateBuildingSupply p).combat p = m.combat p :=
    allocateSupplies_combat _ _ _ p
  obtain ⟨hreached, hmissed⟩ := serveRoles_role
    (g := fun supply role => { role with supplyMax := toInt32 supply })
    (campSum_isSome (m.combat p) CombatBuildingField.supply) (fun _ _ => rfl) hm
    (nodup_roles _) (ExtTreeSet.mem_toList.mpr hr) hq
  rw [mem_served hr, ← allocateSupplies_eq] at hreached hmissed
  rw [HasSupply, suppliesOf, hcombat, allocateBuildingSupply, Supplying]
  by_cases hserved : m.ServedUpTo p r
  · obtain ⟨supply, hsupply, hrole⟩ := hreached hserved
    have howns := (campSum_isSome _ _ _).mp (Option.isSome_of_eq_some hsupply)
    rw [CombatField.campSum_of_owns howns, Option.some.injEq] at hsupply
    rw [hrole, ← hsupply]
    have hfits : toInt32 (m.suppliesOf p q) = m.suppliesOf p q ↔ FitsInt32 (m.suppliesOf p q) :=
      ⟨fun h => h ▸ toInt32_range _, toInt32_eq⟩
    refine Iff.trans hfits ⟨fun h => Or.inl ⟨hserved, h⟩, ?_⟩
    rintro (⟨_, h⟩ | ⟨hnot, _⟩)
    · exact h
    · exact absurd hserved hnot
  · rw [hmissed hserved]
    refine ⟨fun h => Or.inr ⟨hserved, h⟩, ?_⟩
    rintro (⟨h, _⟩ | ⟨_, h⟩)
    · exact absurd h hserved
    · exact h

/-- The supply of every role follows the buildings exactly where what they give each role that the
loop reaches is an `int32`, and each role that it does not reach already has what they give. -/
theorem supply_follows_buildings (m : CombatManagers) (p : Ptr)
    (hm : m.Manned (m.combat p).roles.toList) :
    (m.allocateBuildingSupply p).SuppliesFollow p ↔
      ∀ r ∈ (m.combat p).roles, ∀ q, m.roles[r]? = some q → m.Supplying p q r := by
  have hcombat : (m.allocateBuildingSupply p).combat p = m.combat p :=
    allocateSupplies_combat _ _ _ p
  have hroles : (m.allocateBuildingSupply p).roles = m.roles := by
    rw [allocateBuildingSupply, allocateSupplies_eq]
    exact serveRoles_roles
  rw [SuppliesFollow, hcombat, hroles]
  constructor
  · intro hall r hr q hq
    exact (hasSupply_iff hm hr hq).mp (hall r hr q hq)
  · intro hall r hr q hq
    exact (hasSupply_iff hm hr hq).mpr (hall r hr q hq)

end CombatManagers

namespace Server

open CombatManagers

/-- A combat of two roles was deployed. -/
def deployed (data : CombatInitialData) : Server :=
  (battlefield.step (.accept 0)).step (.deploy 0 5 data)

theorem deployed_consistent : (deployed rivals).managers.Consistent none := by
  have hstart : battlefield.managers.Consistent none := started_consistent _ _ _ _ _ _ _ _
  have haccept : (battlefield.step (.accept 0)).managers.Consistent none := hstart.accept 0
  have hguard : (battlefield.step (.accept 0)).SupplyGuard (.deploy 0 5 rivals) := by
    intro session hostId data h
    cases h
    decide
  exact (step_keepsMargins haccept hguard).consistent

theorem supply_follows_rivals :
    ((deployed rivals).managers.allocateBuildingSupply 0).SuppliesFollow 0 := by
  have hcombat : (deployed rivals).managers.combats[(0 : Int)]? = some 0 := by decide +kernel
  have hall : ((deployed rivals).managers.combat 0).roles.toList.all (fun r =>
      decide ((deployed rivals).managers.Provides ((deployed rivals).managers.combat 0) r)) := by
    decide +kernel
  have hsmall : ((deployed rivals).managers.combat 0).roles.toList.all (fun r =>
      ((deployed rivals).managers.roles[r]?).all fun q =>
        decide (FitsInt32 ((deployed rivals).managers.suppliesOf 0 q))) := by
    decide +kernel
  refine (supply_follows_buildings _ 0 (deployed_consistent.manned hcombat)).mpr fun r hr q hq => ?_
  have hserved : (deployed rivals).managers.ServedUpTo 0 r := fun r' hr' _ =>
    of_decide_eq_true (List.all_eq_true.mp hall r' hr')
  have hfits := List.all_eq_true.mp hsmall r (ExtTreeSet.mem_toList.mpr hr)
  rw [hq, Option.all_some] at hfits
  exact Or.inl ⟨hserved, of_decide_eq_true hfits⟩

/-- A role whose camp has no building comes before one whose camp has one. -/
def guests : CombatInitialData := conquest [⟨3, "guest", [], []⟩] []

theorem supply_withheld : ¬ ((deployed guests).managers.allocateBuildingSupply 0).SuppliesFollow 0 := by
  intro h
  have hsupply := h 7 (by decide +kernel) 0 (by decide +kernel)
  rw [HasSupply] at hsupply
  revert hsupply
  decide +kernel

end Server

end Mysya
