import Mysya.HitPointChanges

/-!
# What the events say about damage

`SendEventCombatAttack` gets what a damage formula returned, and that is what the target has left.
A book is kept of each target, of what the events report and what it recovers. It balances as long
as what is left is just what was taken.
-/

open Std GuardedRuns

namespace Mysya

namespace Server

open CombatManagers

variable {s : Server}

/-! ## Books -/

/-- What a target began with, what the events reported of it, and what it recovered. -/
structure Account where
  initial : Int
  reported : Int
  recovered : Int
  deriving DecidableEq

/-- The account of a target after a step; it is opened when the target is there. -/
def book (s : Server) (a : Action) (c : Int) (target : CombatEntity) (account : Account) :
    Account :=
  match s.managers.hitPoints c target, (s.step a).managers.hitPoints c target with
  | none, some hp => ⟨hp, 0, 0⟩
  | _, _ =>
    { account with
      reported := account.reported + s.reported a c target
      recovered := account.recovered + s.regained a c target }

abbrev Accounts := Int → CombatEntity → Account

def bookedStep (s : Server × Accounts) (a : Action) : Option (Server × Accounts) :=
  some (s.1.step a, fun c target => s.1.book a c target (s.2 c target))

/-- A request has no negative hit points and none that a recovery takes out of an `int32_t`, and an
attack halves what it strikes or finds it down. -/
def HonestGuard (s : Server × Accounts) (a : Action) : Prop :=
  (∀ session hostId data, a = .deploy session hostId data → data.Vital) ∧
  ∀ combatId warriorId target, s.1.attackOf a = some (combatId, warriorId, target) →
    s.1.managers.Halves combatId warriorId target

/-- Then the events of a step report what it takes. -/
theorem reported_eq {a : Action} (hhalves : ∀ combatId warriorId target,
    s.attackOf a = some (combatId, warriorId, target) →
      s.managers.Halves combatId warriorId target) (c : Int) (target : CombatEntity) :
    s.reported a c target = s.damage a c target := by
  rw [reported, damage]
  cases hattack : s.attackOf a with
  | none => rfl
  | some attack =>
    obtain ⟨combatId, warriorId, target'⟩ := attack
    dsimp only
    cases hstrike : s.managers.formulaAttack combatId warriorId target' with
    | none =>
      rw [attackEvents, hstrike, taken_none hstrike]
    | some strike =>
      have hdamage := (reported_iff_halves hstrike).mpr (hhalves _ _ _ hattack)
      rw [attackEvents_some hstrike, taken, hstrike, hdamage]
      rfl

/-- The books balance, and no target has negative hit points. -/
structure Balanced (s : Server × Accounts) : Prop where
  tallies : s.1.Tallies
  vital : s.1.managers.Vital
  balance : ∀ c target hp, s.1.managers.hitPoints c target = some hp →
    (s.2 c target).reported + hp - (s.2 c target).recovered = (s.2 c target).initial

theorem Balanced.step {x : Server × Accounts} (h : Balanced x) {a : Action}
    (hguard : HonestGuard x a) :
    Balanced (x.1.step a, fun c target => x.1.book a c target (x.2 c target)) := by
  have hchanges := step_changes h.tallies hguard.1
  refine ⟨h.tallies.step a, hchanges.vital h.vital, fun c target hp hhp => ?_⟩
  dsimp only at hhp ⊢
  rw [book, hhp]
  cases hbefore : x.1.managers.hitPoints c target with
  | none =>
    dsimp only
    omega
  | some before =>
    have hbalance := h.balance c target before hbefore
    have hchange := hchanges.hitPoints c target before hp hbefore hhp
    have hreported := reported_eq hguard.2 c target
    dsimp only
    omega

theorem started_vital (configs : Configs) (memory : Memory) :
    (started configs memory).managers.Vital := by
  obtain ⟨m, hm⟩ : ∃ m, (started configs memory).managers = m := ⟨_, rfl⟩
  have hcombat : ∀ p, m.combat p = default := hm ▸ started_combat _ _ _ _ _ _
  have hrole : ∀ q, m.role q = default := hm ▸ started_role _ _ _ _ _ _
  rw [hm]
  refine ⟨fun p id b hb => ?_, fun p id w hw => ?_, fun q id d hd => ?_⟩
  · rw [hcombat, new_buildings] at hb
    cases hb
  · rw [hcombat, new_warriors] at hw
    cases hw
  · rw [hrole, new_descriptions] at hd
    cases hd

/-! ## Runs -/

/-- While attacks halve what they strike or find it down, the reports on each target add up with
what it has and what it recovered to what it began with, and no recovery leaves `int32_t`. Of the
next attack both events report what the target has left, and that is what it lost exactly on this
condition. -/
theorem damage_reported (configs : Configs) (memory : Memory) (s : Server) (accounts : Accounts)
    (hs : Reaches bookedStep HonestGuard (started configs memory, fun _ _ => ⟨0, 0, 0⟩)
      (s, accounts)) :
    (∀ combatId target hp, s.managers.hitPoints combatId target = some hp →
      0 ≤ hp ∧ (accounts combatId target).reported + hp - (accounts combatId target).recovered =
        (accounts combatId target).initial) ∧
    (∀ combatId buildingId building, s.managers.getBuilding combatId buildingId = some building →
      FitsInt32 (building.hp + building.hpRecovery)) ∧
    ∀ combatId warriorId target strike,
      s.managers.formulaAttack combatId warriorId target = some strike →
        s.managers.attackEvents combatId warriorId target =
          some (sendEventCombatAttack combatId warriorId target strike.damage) ∧
        s.managers.hitPoints combatId target = some strike.before ∧ 0 ≤ strike.after ∧
        (∀ hp, (s.onRequireFormulaAttack combatId warriorId target).managers.hitPoints combatId
          target = some hp → hp = strike.after) ∧
        (strike.damage = strike.before - strike.after ↔
          s.managers.Halves combatId warriorId target) ∧
        (s.managers.Halves combatId warriorId target →
          (accounts combatId target).reported + strike.damage + strike.after -
            (accounts combatId target).recovered = (accounts combatId target).initial) := by
  have h : Balanced (s, accounts) := by
    refine hs.invariant ⟨started_tallies configs memory, started_vital configs memory, ?_⟩ ?_
    · intro c target hp hhp
      simp [hitPoints, started, CombatManagers.started] at hhp
    · intro x a x' hx hguard hstep
      rw [← Option.some.inj hstep]
      exact hx.step hguard
  refine ⟨fun combatId target hp hhp => ⟨h.vital.hitPoints hhp, h.balance _ _ _ hhp⟩,
    fun combatId buildingId building hbuilding => ?_, ?_⟩
  · obtain ⟨p, _, hin⟩ := Option.bind_eq_some_iff.mp hbuilding
    exact (h.vital.buildings p buildingId building hin).fits
  intro combatId warriorId target strike hstrike
  have hbefore := formulaAttack_before hstrike
  have hdamage := reported_iff_halves hstrike
  refine ⟨attackEvents_some hstrike, hbefore, (formulaAttack_damage hstrike).2, fun hp hhp => ?_,
    hdamage, fun hhalves => ?_⟩
  · have hleft := (attack_changes h.tallies.1 combatId warriorId target).hitPoints combatId target
      strike.before hp hbefore hhp
    rw [taken, if_pos ⟨rfl, rfl⟩, hstrike] at hleft
    dsimp only at hleft
    omega
  · have hbalance := h.balance combatId target strike.before hbefore
    have heq := hdamage.mpr hhalves
    dsimp only at hbalance
    omega

/-- The warrior has found the building of another role, which has these hit points. -/
def assault (hp : Int) : Server :=
  (armed (conquest [⟨8, "rival", [], [⟨2, 1, hp, 1, 0, 1, 5, 1, 1⟩]⟩] [])).step (.expire 4)

theorem damage_reported_assault : ∃ accounts : Accounts,
    Reaches bookedStep HonestGuard (battlefield, fun _ _ => ⟨0, 0, 0⟩)
      ((assault 40).step (.expire 5), accounts) ∧
    ((assault 40).step (.expire 5)).managers.hitPoints 0 ⟨.building, 2⟩ = some 20 ∧
    (accounts 0 ⟨.building, 2⟩).reported + 20 - (accounts 0 ⟨.building, 2⟩).recovered =
      (accounts 0 ⟨.building, 2⟩).initial := by
  have hstep : ∀ {s : Server} (a : Action),
      (∃ accounts, Reaches bookedStep HonestGuard (battlefield, fun _ _ => ⟨0, 0, 0⟩)
        (s, accounts)) → (∀ accounts, HonestGuard (s, accounts) a) →
      ∃ accounts, Reaches bookedStep HonestGuard (battlefield, fun _ _ => ⟨0, 0, 0⟩)
        (s.step a, accounts) := by
    rintro s a ⟨accounts, hreaches⟩ hguard
    exact ⟨_, hreaches.snoc a (hguard accounts) rfl⟩
  have hquiet : ∀ {s : Server} {a : Action},
      (∀ session hostId data, a ≠ .deploy session hostId data) → s.attackOf a = none →
        ∀ accounts, HonestGuard (s, accounts) a := by
    intro s a hdeploy hattack accounts
    refine ⟨fun _ _ _ h => absurd h (hdeploy _ _ _), fun _ _ _ h => ?_⟩
    dsimp only at h
    rw [hattack] at h
    cases h
  have hdeploy : ∀ accounts, HonestGuard (battlefield.step (.accept 0), accounts)
      (.deploy 0 5 (conquest [⟨8, "rival", [], [⟨2, 1, 40, 1, 0, 1, 5, 1, 1⟩]⟩] [])) := by
    intro accounts
    refine ⟨fun session hostId data h => ?_, nofun⟩
    cases h
    decide
  have hsearch : (armed (conquest [⟨8, "rival", [], [⟨2, 1, 40, 1, 0, 1, 5, 1, 1⟩]⟩] [])).attackOf
      (.expire 4) = none := by
    decide +kernel
  have hattackOf : (assault 40).attackOf (.expire 5) = some (0, 3, ⟨.building, 2⟩) := by
    decide +kernel
  have hstrike : (assault 40).managers.formulaAttack 0 3 ⟨.building, 2⟩ = some ⟨40, 20, 20⟩ := by
    decide +kernel
  have hattack : ∀ accounts, HonestGuard (assault 40, accounts) (.expire 5) := by
    intro accounts
    refine ⟨nofun, fun combatId warriorId target h => ?_⟩
    dsimp only at h
    rw [hattackOf] at h
    cases h
    exact (reported_iff_halves hstrike).mp (by decide)
  have haccepted := hstep (.accept 0) ⟨_, .refl⟩ (hquiet nofun rfl)
  have hdeployed := hstep _ haccepted hdeploy
  have hbegun := hstep (.begin 0 0) hdeployed (hquiet nofun rfl)
  have harmed := hstep (.build 7 1 1) hbegun (hquiet nofun rfl)
  have hfound := hstep (.expire 4) harmed (hquiet nofun hsearch)
  obtain ⟨accounts, hreaches⟩ := hstep (.expire 5) hfound hattack
  have hleft : ((assault 40).step (.expire 5)).managers.hitPoints 0 ⟨.building, 2⟩ = some 20 := by
    decide +kernel
  exact ⟨accounts, hreaches, hleft,
    ((damage_reported _ _ _ _ hreaches).1 0 ⟨.building, 2⟩ 20 hleft).2⟩

/-- A building loses 20 of its 50 hit points, and both events report the 30 that are left. -/
theorem remaining_reported :
    Reaches (fun s a => some (step s a)) (fun _ _ => True) battlefield (assault 50) ∧
      (assault 50).attackOf (.expire 5) = some (0, 3, ⟨.building, 2⟩) ∧
      (assault 50).managers.hitPoints 0 ⟨.building, 2⟩ = some 50 ∧
      ((assault 50).step (.expire 5)).managers.hitPoints 0 ⟨.building, 2⟩ = some 30 ∧
      (assault 50).managers.attackEvents 0 3 ⟨.building, 2⟩ =
        some (⟨0, 3, ⟨.building, 2⟩, 30⟩, ⟨0, 3, ⟨.building, 2⟩, 30⟩) := by
  refine ⟨?_, by decide +kernel, by decide +kernel, by decide +kernel, by decide +kernel⟩
  exact ((((Reaches.refl.snoc (.accept 0) trivial rfl).snoc (.deploy 0 5 _) trivial rfl).snoc
    (.begin 0 0) trivial rfl).snoc (.build 7 1 1) trivial rfl).snoc (.expire 4) trivial rfl

end Server

end Mysya
