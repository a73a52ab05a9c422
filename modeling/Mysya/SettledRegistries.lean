import Mysya.AutoObservers
import Mysya.BuildingRecovery
import Mysya.MoveRuns
import Mysya.SceneRegistry
import Mysya.SupplyCounts

/-!
# The registries after a settlement

A settlement takes the combat, its roles and its scene out of their registries, and the autos with
what they observe. Nothing takes a building out of the registry of the AI. Where no building of the
combat was raised there is no auto either, so nothing at all is left, and nothing comes again.
-/

open Std GuardedRuns

namespace Mysya

/-- No key of `own` is registered, and nothing that was registered under one. -/
def Forgets {K V : Type} (own : K → Prop) (before after : K → Option V) : Prop :=
  ∀ k v, after k = some v → ¬ own k ∧ ∀ k', own k' → before k' ≠ some v

section Forgets

variable {K V : Type} {own : K → Prop} {before after : K → Option V}

theorem forgets_of_fewer (hfewer : ∀ k v, after k = some v → before k = some v)
    (hnone : ∀ k, own k → after k = none)
    (honce : ∀ k k' v, before k = some v → before k' = some v → k = k') :
    Forgets own before after := by
  intro k v hk
  have hout : ¬ own k := by
    intro hown
    rw [hnone k hown] at hk
    cases hk
  refine ⟨hout, fun k' hown hk' => hout ?_⟩
  rw [honce k k' v (hfewer k v hk) hk']
  exact hown

theorem forgets_of_none (hbefore : ∀ k, own k → before k = none)
    (hafter : ∀ k, own k → after k = none) : Forgets own before after := by
  intro k v hk
  constructor
  · intro hown
    rw [hafter k hown] at hk
    cases hk
  · intro k' hown hk'
    rw [hbefore k' hown] at hk'
    cases hk'

end Forgets

namespace CombatManagers

variable {s s' : CombatManagers} {c : Int} {p : Ptr}

/-- What a settlement leaves of the registries of the combats and of the roles. -/
theorem Settles.registries (h : Settles c s s') (hc : s.combats[c]? = some p) :
    s'.combats = s.combats.erase c ∧ ∀ r : UInt64, s'.roles[r]? =
      if r ∈ (s.combat p).roles then none else s.roles[r]? := by
  obtain ⟨p', t, hsteady, hreg, rfl⟩ := h
  obtain rfl : p = p' := Option.some.inj ((hsteady.at hc).symm.trans hreg)
  have hsend := steady_sendSettlement hsteady.consistent p
  have hall := hsteady.trans hsend
  have htaken := hall.consistent.takenDown (hall.at hc)
  rw [closeCombat_eq hsteady.consistent hreg]
  refine ⟨htaken.combats.trans (by rw [hall.combats]), fun r => ?_⟩
  rw [htaken.roles, (hall.combat p).2, hall.roles]

end CombatManagers

namespace Apps

open CombatManagers

variable {m m' : CombatManagers} {a a' : Apps} {c : Int} {R : Prop}

/-- The combat `c` is over, and whether one of its buildings is raised is told by `R`. -/
structure Over (c : Int) (R : Prop) (m : CombatManagers) (a : Apps) : Prop where
  observed : Observed m a
  given : c < m.combatIds
  gone : m.combats[c]? = none
  raised : a.Raised c ↔ R

theorem Over.watched (h : Over c R m a) (ha : Tallied m a' ∧ Watched a.buildings a') :
    Over c R m a' := by
  refine ⟨observed_of_watched ha, h.given, h.gone, ?_⟩
  rw [Raised, ha.2.buildings]
  exact h.raised

/-- A combat that is over does not begin, and others raise their own buildings. -/
theorem Over.beginAi (h : Over c R m a) (combatId : Int) :
    Over c R m (a.onEventCombatBeginAi m combatId) := by
  refine ⟨observedRule.begin combatId trivial h.observed, h.given, h.gone, ?_⟩
  cases hc : m.combats[combatId]? with
  | none =>
    rw [onEventCombatBeginAi, hc]
    exact h.raised
  | some p =>
    have hraises := h.observed.1.2.raises hc
    have hne : c ≠ combatId := by
      rintro rfl
      rw [h.gone] at hc
      cases hc
    have hsame : ∀ id, (a.onEventCombatBeginAi m combatId).buildings (c, id) = a.buildings (c, id) :=
      fun id => hraises.others (c, id) hne
    simp only [Raised, hsame]
    exact h.raised

theorem Over.managers {ended : Option Int} (h : Over c R m a)
    (hlasts : CombatManagers.Lasts ended m m') (hadmits : CombatManagers.Admits m m')
    (hended : ∀ c, ended = some c → m'.combats[c]? = none) : Over c R m' a := by
  refine ⟨observedRule.managers h.observed hlasts hadmits hended,
    Int.lt_of_lt_of_le h.given hadmits.1, ?_, h.raised⟩
  rw [← Option.not_isSome_iff_eq_none]
  intro hsome
  obtain ⟨p, hp⟩ := Option.isSome_iff_exists.mp hsome
  rcases hadmits.2 c p hp with hold | ⟨hnew, _⟩
  · rw [h.gone] at hold
    cases hold
  · exact absurd h.given (Int.not_lt.mpr hnew)

theorem overRule (c : Int) (R : Prop) : AiRule (Over c R) True :=
  .of_watched Over.observed Over.watched Over.managers fun combatId h => h.beginAi combatId

end Apps

namespace Server

open CombatManagers Apps

variable {s t : Server} {c : Int} {p : Ptr} {a : Action}

/-- Nothing of the combat `c`, which was at `p` in `s`, is left in the registries of `t`. -/
structure Forgotten (c : Int) (p : Ptr) (s t : Server) : Prop where
  combats : Forgets (· = c) (fun c => s.managers.combats[c]?) fun c => t.managers.combats[c]?
  roles : Forgets (· ∈ (s.managers.combat p).roles) (fun r => s.managers.roles[r]?)
    fun r => t.managers.roles[r]?
  members : ∀ (r : UInt64) q, t.managers.roles[r]? = some q →
    (t.managers.role q).combatField ≠ some p
  scenes : Forgets (· = c) s.apps.scenes t.apps.scenes
  autoes : Forgets (fun key => key.1 = c) s.apps.autoes t.apps.autoes
  buildings : Forgets (fun key => key.1 = c) s.apps.buildings t.apps.buildings
  observers : ∀ key id, id ∈ t.apps.observers key → key.1 ≠ c

/-- No registry has an entry under the combat `c`. -/
structure Cleared (c : Int) (t : Server) : Prop where
  combats : t.managers.combats[c]? = none
  scenes : t.apps.scenes c = none
  autoes : ∀ id, t.apps.autoes (c, id) = none
  buildings : ∀ id, t.apps.buildings (c, id) = none
  observers : ∀ entityId id, id ∉ t.apps.observers (c, entityId)

/-- What the registries have is of the combats that are registered. -/
structure Filed (s : Server) : Prop where
  consistent : s.managers.Consistent none
  observed : s.Keeps Observed
  housed : s.Keeps Housed

/-! ## Steps -/

theorem started_filed (configs : Configs) (memory : Memory) : (started configs memory).Filed := by
  have htallies := started_tallies configs memory
  refine ⟨started_consistent _ _ _ _ _ _ _ _, ⟨htallies.1, htallies.2, rfl, ?_⟩, htallies.1,
    (PoolTemplate.new_grown _ _ _).sound, ?_, ?_, ?_⟩
  · intro key id hid
    exact absurd hid ExtTreeSet.not_mem_empty
  · intro c sc hc
    cases hc
  · intro c c' sc hc
    cases hc
  · intro c sc hc
    cases hc

theorem Filed.step (h : s.Filed) (hguard : s.SupplyGuard a) : (s.step a).Filed :=
  ⟨(step_keepsMargins h.consistent hguard).consistent,
    observedRule.step h.observed fun _ _ _ => trivial,
    housedRule.step h.housed ⟨fun _ _ _ => trivial, fun _ _ _ _ => trivial⟩⟩

theorem Filed.settle (h : s.Filed) (c : Int) : (s.onRequireCombatSettle c).2.Filed := by
  refine ⟨?_, observedRule.requireSettle h.observed c, housedRule.requireSettle h.housed c⟩
  cases hc : s.managers.combats[c]? with
  | none =>
    rw [onRequireCombatSettle, hc]
    exact h.consistent
  | some p =>
    rw [AiRule.settle_managers s hc]
    exact (h.consistent.closeCombat hc).1

/-- A combat goes in a step that is no begin, by a settlement. -/
theorem settles_of_gone (h : s.Filed) (hc : s.managers.combats[c]? = some p)
    (hgone : (s.step a).managers.combats[c]? = none) :
    Settles c s.managers (s.step a).managers ∧ ∀ session combatId, a ≠ .begin session combatId := by
  have hkept : ∀ {m : CombatManagers}, m.combats = s.managers.combats → m.combats[c]? ≠ none := by
    intro m hm hnone
    rw [hm, hc] at hnone
    cases hnone
  have hsettles : ∀ {combatId : Int} {m : CombatManagers}, m.combats[c]? = none →
      Settles combatId s.managers m → Settles c s.managers m := by
    intro combatId m hnone hm
    obtain ⟨p', t, hsteady, hreg, rfl⟩ := hm
    have hcombats := (Settles.registries ⟨p', t, hsteady, hreg, rfl⟩
      (hsteady.combats ▸ hreg)).1
    rw [hcombats, ExtTreeMap.getElem?_erase] at hnone
    split at hnone
    · rename_i heq
      rw [← Std.compare_eq_iff_eq.mp heq]
      exact ⟨p', t, hsteady, hreg, rfl⟩
    · rw [hc] at hnone
      cases hnone
  have hgoes : ∀ {m : CombatManagers}, Goes s.managers m → m.combats[c]? ≠ none :=
    fun hm => hkept hm.combats
  cases a with
  | memory memory => exact absurd hgone (hkept rfl)
  | accept session => exact absurd hgone (hgoes (goes_accept s.managers session))
  | close session => exact absurd hgone (hgoes (goes_closeSession s.managers session))
  | deploy session hostId data =>
    obtain ⟨_, hlasts, _⟩ := h.observed.1.deploy session hostId data
    have hstays := (hlasts c p hc (fun h => by cases h)).1
    exact absurd (hstays.symm.trans hgone) (fun h => by cases h)
  | connectArgent session r combatId =>
    exact absurd hgone (hgoes (goes_connectArgent s.managers session r combatId))
  | reconnect session r combatId =>
    exact absurd hgone (hgoes (goes_reconnect s.managers session r combatId))
  | begin session combatId =>
    exact absurd hgone (hkept (begin_steady h.consistent session combatId).combats)
  | build r warriorConfId buildingId =>
    rw [Server.step] at hgone
    split at hgone
    · exact absurd hgone (hkept rfl)
    · rename_i q hq
      exact absurd hgone (hkept (build_steady h.consistent hq warriorConfId buildingId).combats)
  | move r warriorIds pos =>
    rw [Server.step] at hgone
    split at hgone
    · exact absurd hgone (hkept rfl)
    · rw [doMoveAction] at hgone
      split at hgone
      · exact absurd hgone (hkept rfl)
      · exact absurd hgone (hkept rfl)
  | attack combatId warriorId target =>
    refine ⟨?_, fun _ _ h => by cases h⟩
    rcases attack_outcome h.consistent combatId warriorId target with hsteady | ⟨_, hends⟩
    · exact absurd hgone (hkept hsteady.combats)
    · exact hsettles hgone hends
  | expire timerId =>
    refine ⟨?_, fun _ _ h => by cases h⟩
    rcases expire_outcome h.consistent timerId with hsteady | ⟨_, _, hends⟩
    · exact absurd hgone (hkept hsteady.combats)
    · exact hsettles hgone hends

/-! ## What a settlement leaves -/

theorem Filed.unraised (h : s.Filed) (hnone : ¬ s.apps.Raised c) :
    (∀ id, s.apps.autoes (c, id) = none) ∧ (∀ id, s.apps.buildings (c, id) = none) ∧
      ∀ entityId id, id ∉ s.apps.observers (c, entityId) := by
  refine ⟨fun id => ?_, fun id => ?_, fun entityId id hid => ?_⟩
  · rw [← Option.not_isSome_iff_eq_none]
    exact fun hid => hnone (h.observed.2.1.2.autoes c id hid)
  · rw [← Option.not_isSome_iff_eq_none]
    exact fun hid => hnone ⟨id, hid⟩
  · exact hnone (h.observed.2.2.raised (c, entityId) id hid)

/-- A settlement that leaves the buildings of the AI and brings no scene. -/
theorem Filed.forgotten_iff (h : s.Filed) (ht : t.Filed) (hc : s.managers.combats[c]? = some p)
    (hsettles : Settles c s.managers t.managers) (hbuildings : t.apps.buildings = s.apps.buildings)
    (hscenes : Among s.apps.scenes t.apps) : Forgotten c p s t ↔ ¬ s.apps.Raised c := by
  obtain ⟨hcombats, hroles⟩ := hsettles.registries hc
  have hgone : t.managers.combats[c]? = none := by
    rw [hcombats, ExtTreeMap.getElem?_erase, if_pos (Std.compare_eq_iff_eq.mpr rfl)]
  have hold : ∀ (c' : Int) p', t.managers.combats[c']? = some p' →
      s.managers.combats[c']? = some p' := by
    intro c' p' hc'
    rw [hcombats, ExtTreeMap.getElem?_erase] at hc'
    split at hc'
    · cases hc'
    · exact hc'
  constructor
  · rintro hforgotten ⟨id, hid⟩
    obtain ⟨b, hb⟩ := Option.isSome_iff_exists.mp hid
    have hleft : t.apps.buildings (c, id) = some b := by rw [hbuildings, hb]
    exact (hforgotten.buildings (c, id) b hleft).1 rfl
  · intro hnone
    obtain ⟨hautoes, hunraised, _⟩ := h.unraised hnone
    have hnone' : ¬ t.apps.Raised c := by
      rw [Raised, hbuildings]
      exact hnone
    obtain ⟨hautoes', hunraised', hobservers'⟩ := ht.unraised hnone'
    constructor
    · refine forgets_of_fewer hold (fun c' heq => heq ▸ hgone) fun c' c'' p' hc' hc'' => ?_
      exact h.consistent.combat_unique hc' hc''
    · refine forgets_of_fewer (fun r q hq => ?_) (fun r hr => ?_) fun r r' q hq hq' => ?_
      · rw [hroles] at hq
        split at hq
        · cases hq
        · exact hq
      · rw [hroles, if_pos hr]
      · exact (h.consistent.alone r r' q hq hq').symm
    · intro r q hq hcombat
      obtain ⟨c', hc', _⟩ := ht.consistent.role_combat hq hcombat
      have heq := h.consistent.combat_unique (hold c' p hc') hc
      rw [heq, hgone] at hc'
      cases hc'
    · refine forgets_of_fewer hscenes (fun c' heq => ?_) h.housed.2.once
      rw [heq, ← Option.not_isSome_iff_eq_none]
      intro hsome
      obtain ⟨sc, hsc⟩ := Option.isSome_iff_exists.mp hsome
      have hregistered := ht.housed.2.given c sc hsc
      rw [hgone] at hregistered
      cases hregistered
    · refine forgets_of_none (fun key heq => ?_) fun key heq => ?_
      · subst heq
        exact hautoes key.2
      · subst heq
        exact hautoes' key.2
    · refine forgets_of_none (fun key heq => ?_) fun key heq => ?_
      · subst heq
        exact hunraised key.2
      · subst heq
        exact hunraised' key.2
    · intro key id hid heq
      subst heq
      exact hobservers' key.2 id hid

theorem Filed.settle_iff (h : s.Filed) (hc : s.managers.combats[c]? = some p) :
    Forgotten c p s (s.onRequireCombatSettle c).2 ↔ ¬ s.apps.Raised c := by
  have hbuildings := (watchedRule s.apps.buildings).requireSettle h.observed c
  have hscenes := (amongRule s.apps.scenes).requireSettle (s := s)
    ⟨h.observed.1, fun _ _ => id⟩ c
  refine h.forgotten_iff (h.settle c) hc ⟨p, s.managers, .refl h.consistent, hc, ?_⟩
    hbuildings.2.2.buildings hscenes.2
  exact AiRule.settle_managers s hc

theorem Filed.gone_iff (h : s.Filed) (hguard : s.SupplyGuard a)
    (hc : s.managers.combats[c]? = some p) (hgone : (s.step a).managers.combats[c]? = none) :
    Forgotten c p s (s.step a) ↔ ¬ s.apps.Raised c := by
  obtain ⟨hsettles, hbegin⟩ := settles_of_gone h hc hgone
  have hbuildings := (watchedRule s.apps.buildings).step h.observed
    fun session combatId heq => hbegin session combatId heq
  have hscenes := (amongRule s.apps.scenes).step (s := s) ⟨h.observed.1, fun _ _ => id⟩
    ⟨fun session combatId heq => hbegin session combatId heq, fun _ _ _ _ => trivial⟩
  exact h.forgotten_iff (h.step hguard) hc hsettles hbuildings.2.2.buildings hscenes.2

/-- A combat that is over has no entry again, but its buildings keep theirs. -/
theorem Filed.cleared_iff (h : s.Filed) {R : Prop} (hover : Over c R s.managers s.apps)
    (hrun : Reaches (fun s a => some (Server.step s a)) SupplyGuard s t) : Cleared c t ↔ ¬ R := by
  obtain ⟨ht, hover'⟩ : t.Filed ∧ Over c R t.managers t.apps := by
    refine hrun.invariant (I := fun t => t.Filed ∧ Over c R t.managers t.apps) ⟨h, hover⟩ ?_
    rintro s a s' ⟨hs, hsover⟩ hguard hstep
    cases hstep
    have hkeeps : (s.step a).Keeps (Over c R) :=
      (overRule c R).step ⟨hs.observed.1, hsover⟩ fun _ _ _ => trivial
    exact ⟨hs.step hguard, hkeeps.2⟩
  rw [← hover'.raised]
  constructor
  · rintro hcleared ⟨id, hid⟩
    rw [hcleared.buildings id] at hid
    cases hid
  · intro hnone
    obtain ⟨hautoes, hbuildings, hobservers⟩ := ht.unraised hnone
    refine ⟨hover'.gone, ?_, hautoes, hbuildings, hobservers⟩
    rw [← Option.not_isSome_iff_eq_none]
    intro hsome
    obtain ⟨sc, hsc⟩ := Option.isSome_iff_exists.mp hsome
    have hregistered := ht.housed.2.given c sc hsc
    rw [hover'.gone] at hregistered
    cases hregistered

/-- While no request is refused a building of a role, a settlement clears the registries exactly of
the combats of which the AI raised no building, and nothing comes under their ids again. -/
theorem settle_forgets_iff (configs : Configs) (memory : Memory) (s : Server)
    (hs : Reaches (fun s a => some (step s a)) SupplyGuard (started configs memory) s) (c : Int)
    (p : Ptr) (hc : s.managers.combats[c]? = some p) :
    (s.onRequireCombatSettle c).1 = true ∧
      (Forgotten c p s (s.onRequireCombatSettle c).2 ↔ ¬ s.apps.Raised c) ∧
      ∀ a, s.SupplyGuard a → (s.step a).managers.combats[c]? = none →
        (Forgotten c p s (s.step a) ↔ ¬ s.apps.Raised c) ∧
        ∀ t, Reaches (fun s a => some (step s a)) SupplyGuard (s.step a) t →
          (Cleared c t ↔ ¬ s.apps.Raised c) := by
  have h : s.Filed := by
    refine hs.invariant (started_filed configs memory) ?_
    intro s a s' h hguard hstep
    cases hstep
    exact h.step hguard
  refine ⟨?_, h.settle_iff hc, fun a hguard hgone => ⟨h.gone_iff hguard hc hgone, fun t ht => ?_⟩⟩
  · rw [onRequireCombatSettle, hc]
  · have hstep := h.step hguard
    have hbuildings := (watchedRule s.apps.buildings).step h.observed
      fun session combatId heq => (settles_of_gone h hc hgone).2 session combatId heq
    have hraised : (s.step a).apps.Raised c ↔ s.apps.Raised c := by
      rw [Raised, Raised, hbuildings.2.2.buildings]
    have hgiven := Int.lt_of_lt_of_le (h.consistent.combats c p hc).2.2
      (step_keepsMargins h.consistent hguard).combatIds
    exact hstep.cleared_iff ⟨hstep.observed.2, hgiven, hgone, hraised⟩ ht

/-- A combat of one role that has no building. -/
def camped : CombatInitialData where
  mapId := 1
  maxTime := 60
  camps := [⟨1, 10, 100, 10, 100, [⟨9, "role", [], []⟩], []⟩]

/-- A combat without buildings has begun. -/
def encampment : Server :=
  ((battlefield.step (.accept 0)).step (.deploy 0 5 camped)).step (.begin 0 0)

theorem settle_forgets_iff_encampment :
    Forgotten 0 0 encampment (encampment.step (.expire 1)) ∧
      Cleared 0 (encampment.step (.expire 1)) := by
  have hguard : (battlefield.step (.accept 0)).SupplyGuard (.deploy 0 5 camped) := by
    intro session hostId data hdeploy
    cases hdeploy
    decide
  have hreaches : Reaches (fun s a => some (step s a)) SupplyGuard battlefield encampment :=
    ((Reaches.refl.snoc (.accept 0) (supplyGuard_quiet fun _ _ _ h => by cases h) rfl).snoc
      (.deploy 0 5 camped) hguard rfl).snoc
        (.begin 0 0) (supplyGuard_quiet fun _ _ _ h => by cases h) rfl
  obtain ⟨hc, hkeys, hgone⟩ : encampment.managers.combats[(0 : Int)]? = some 0 ∧
      (encampment.managers.combat 0).buildings.keys = [] ∧
      (encampment.step (.expire 1)).managers.combats[(0 : Int)]? = none := by
    decide +kernel
  have hnone : ¬ encampment.apps.Raised 0 := by
    have h : encampment.Tallies := hreaches.invariant (started_tallies _ _) fun s a s' h _ hstep => by
      cases hstep
      exact h.step a
    obtain ⟨front, hfront, hraised⟩ := h.2.2.fronted 0 0 hc
    rw [hkeys, List.prefix_nil] at hfront
    rintro ⟨id, hid⟩
    rw [hraised, hfront] at hid
    cases hid
  obtain ⟨hforgotten, hcleared⟩ := (settle_forgets_iff _ _ _ hreaches 0 0 hc).2.2 (.expire 1)
    (supplyGuard_quiet fun _ _ _ h => by cases h) hgone
  exact ⟨hforgotten.mpr hnone, (hcleared _ .refl).mpr hnone⟩

/-- The time of a combat is up whose buildings the AI had raised: they stay registered. -/
theorem settled_buildings_left :
    (armed rivals).managers.combats[(0 : Int)]? = some 0 ∧
      ((armed rivals).step (.expire 1)).managers.combats[(0 : Int)]? = none ∧
      ¬ Forgotten 0 0 (armed rivals) ((armed rivals).step (.expire 1)) := by
  obtain ⟨hc, hgone, hleft⟩ : (armed rivals).managers.combats[(0 : Int)]? = some 0 ∧
      ((armed rivals).step (.expire 1)).managers.combats[(0 : Int)]? = none ∧
      (((armed rivals).step (.expire 1)).apps.buildings (0, 1)).isSome := by
    decide +kernel
  refine ⟨hc, hgone, fun hforgotten => ?_⟩
  obtain ⟨b, hb⟩ := Option.isSome_iff_exists.mp hleft
  exact (hforgotten.buildings (0, 1) b hb).1 rfl

end Server

end Mysya
