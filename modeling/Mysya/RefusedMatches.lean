import Mysya.Matchmaking

/-!
# Refused matches

`PushCombat` returns false at three places. At the last of them the combat is registered, the two
actors point to it and their camps are set, and of all this only the partner is put back.
-/

namespace Mysya

open GuardedRuns

namespace Gateway

variable {s t u : Gateway} {name other left right : String} {p : Nat}

def camp (s : Gateway) (name : String) : Option Int := (s.combatActors name).map CombatActor.campId

/-- Those who wait, the tables of combats, and the combat and the camp of each actor are the
same. -/
structure Unchanged (s t : Gateway) : Prop where
  waiting : ∀ name, name ∈ t.pendingCombatActors ↔ name ∈ s.pendingCombatActors
  pendingCombats : t.pendingCombats = s.pendingCombats
  combats : t.combats = s.combats
  fights : t.fights = s.fights
  camp : t.camp = s.camp

/-- A partner waits, there is memory for a combat, and there is no session to deploy it. -/
def LosesSession (s : Gateway) (mapId : Int) (allocated : Option Nat) (session : Bool) : Prop :=
  (s.maps mapId).isSome ∧ s.pendingCombatActors ≠ [] ∧ allocated.isSome ∧ session = false

instance (s : Gateway) (mapId : Int) (allocated : Option Nat) (session : Bool) :
    Decidable (s.LosesSession mapId allocated session) := inferInstanceAs (Decidable (_ ∧ _ ∧ _ ∧ _))

/-- The next id is taken, and both actors already point to the memory of the new combat and have
the camps that it gives them. -/
def Marked (s : Gateway) (left : String) : Option Nat → Prop
  | none => False
  | some p => (s.pendingCombats (s.idAllocator + 1)).isSome ∧ s.fights left = some p ∧
      ∀ right ∈ s.pendingCombatActors.head?, s.fights right = some p ∧ s.camp right = some 2 ∧
        (left ≠ right → s.camp left = some 1)

theorem camp_setCombat (s : Gateway) (name : String) (combat : Option Nat) :
    (s.setCombat name combat).camp = s.camp := by
  funext other
  unfold camp setCombat modifyActor
  by_cases heq : other = name
  · subst heq
    cases hactor : s.combatActors other with
    | none => simp
    | some actor => simp
  · simp [heq]

theorem camp_setCampId (h : (s.combatActors name).isSome) (campId : Int) :
    (s.setCampId name campId).camp = Function.update s.camp name (some campId) := by
  obtain ⟨actor, hactor⟩ := Option.isSome_iff_exists.mp h
  funext other
  unfold camp setCampId modifyActor
  by_cases heq : other = name
  · subst heq
    simp [hactor]
  · simp [heq]

theorem mem_addPendingCombatActor (s : Gateway) (name other : String) :
    other ∈ (s.addPendingCombatActor name).pendingCombatActors ↔
      other = name ∨ other ∈ s.pendingCombatActors := by
  unfold addPendingCombatActor
  dsimp only
  split
  · rename_i hin
    constructor
    · exact .inr
    · rintro (rfl | hother)
      · exact hin
      · exact hother
  · rw [List.mem_append, List.mem_singleton, or_comm]

/-- What is left of a match that loses its session. -/
structure Abandoned (left right : String) (p : Nat) (s t : Gateway) : Prop where
  waiting : ∀ name, name ∈ t.pendingCombatActors ↔ name = right ∨ name ∈ s.pendingCombatActors
  pendingCombats : t.pendingCombats = if (s.pendingCombats (s.idAllocator + 1)).isSome then
    s.pendingCombats else Function.update s.pendingCombats (s.idAllocator + 1) (some p)
  combats : t.combats = s.combats
  fights : t.fights = Function.update (Function.update s.fights left (some p)) right (some p)
  camp : t.camp = Function.update (Function.update s.camp left (some 1)) right (some 2)

theorem deploy_abandoned {conf : MapConf} {mapId : Int} (hfree : s.memory p = none)
    (hdeploy : s.deploy conf mapId left right p false = some (t, false)) :
    Abandoned left right p s t := by
  have hpaired := deploy_paired hfree hdeploy
  -- What is deployed but for the two camp ids.
  obtain ⟨mid, hmid⟩ : ∃ mid : Gateway, mid = (((((s.allocate p).modifyCombat p
    fun c => { c with mapId := mapId }).setLeft p left).setRight p right).modifyCombat p
      fun c => { c with maxTime := combatMaxTime }) := ⟨_, rfl⟩
  have hpending : mid.pendingCombats = if (s.pendingCombats (s.idAllocator + 1)).isSome then
      s.pendingCombats else Function.update s.pendingCombats (s.idAllocator + 1) (some p) := by
    rw [hmid]
    simp only [allocate, addPendiong, setLeft, setRight, setCombat, modifyActor, modifyCombat]
    split
    · rfl
    · rfl
  have hcamp : mid.camp = s.camp := by
    have hset : mid.camp = ((s.setCombat left (some p)).setCombat right (some p)).camp := by
      rw [hmid]
      simp only [allocate, addPendiong, setLeft, setRight, setCombat, modifyActor, modifyCombat]
      split
      · rfl
      · rfl
    rw [hset, camp_setCombat, camp_setCombat]
  simp only [deploy, ← hmid] at hdeploy
  split at hdeploy
  · rename_i al ar hal har
    rw [if_neg Bool.false_ne_true, Option.some.injEq, Prod.mk.injEq] at hdeploy
    obtain ⟨rfl, -⟩ := hdeploy
    have hl : (mid.combatActors left).isSome := by
      rw [hal]
      rfl
    have hr : ((mid.setCampId left 1).combatActors right).isSome := by
      rw [setCampId, combatActors_modifyActor_isSome, har]
      rfl
    refine ⟨fun name => ?_, hpending, hpaired.combats, hpaired.fights, ?_⟩
    · rw [hpaired.waiting, if_neg Bool.false_ne_true]
      exact mem_addPendingCombatActor s right name
    · have hset := camp_setCampId hr 2
      rw [camp_setCampId hl, hcamp] at hset
      exact hset
  · cases hdeploy

/-- Once there are a partner and a combat, only the session decides. -/
theorem deploy_result {conf : MapConf} {mapId : Int} {session ok : Bool}
    (hdeploy : s.deploy conf mapId left right p session = some (t, ok)) : ok = session := by
  simp only [deploy] at hdeploy
  split at hdeploy
  · split at hdeploy
    · rename_i hsession
      rw [Option.some.injEq, Prod.mk.injEq] at hdeploy
      rw [hsession, hdeploy.2]
    · rename_i hsession
      rw [Option.some.injEq, Prod.mk.injEq] at hdeploy
      rw [Bool.not_eq_true] at hsession
      rw [hsession, hdeploy.2]
  · cases hdeploy

/-- A match that loses its session changes something, unless all that it sets was so before. -/
theorem unchanged_iff_marked {waiting : List String}
    (hwaiting : s.pendingCombatActors = right :: waiting)
    (h : Abandoned left right p { s with pendingCombatActors := waiting } t) :
    Unchanged s t ↔ s.Marked left (some p) := by
  have hfights : t.fights = Function.update (Function.update s.fights left (some p)) right
      (some p) := h.fights
  have hcamp : t.camp = Function.update (Function.update s.camp left (some 1)) right (some 2) :=
    h.camp
  have hpending : t.pendingCombats = if (s.pendingCombats (s.idAllocator + 1)).isSome then
      s.pendingCombats else Function.update s.pendingCombats (s.idAllocator + 1) (some p) :=
    h.pendingCombats
  have hhead : ∀ other, other ∈ s.pendingCombatActors.head? ↔ other = right := by
    intro other
    rw [hwaiting, List.head?_cons, Option.mem_some_iff, eq_comm]
  constructor
  · intro hsame
    have hleft := congrFun (hfights.symm.trans hsame.fights) left
    have hright := congrFun (hfights.symm.trans hsame.fights) right
    have hcampRight := congrFun (hcamp.symm.trans hsame.camp) right
    rw [Function.update_self] at hright hcampRight
    refine ⟨?_, ?_, fun other hother => ?_⟩
    · have hid := congrFun (hpending.symm.trans hsame.pendingCombats) (s.idAllocator + 1)
      split at hid
      · rename_i htaken
        exact htaken
      · rw [Function.update_self] at hid
        rw [← hid]
        rfl
    · by_cases heq : left = right
      · rw [heq]
        exact hright.symm
      · rw [Function.update_of_ne heq, Function.update_self] at hleft
        exact hleft.symm
    · rw [(hhead other).mp hother]
      refine ⟨hright.symm, hcampRight.symm, fun hne => ?_⟩
      have hcampLeft := congrFun (hcamp.symm.trans hsame.camp) left
      rw [Function.update_of_ne hne, Function.update_self] at hcampLeft
      exact hcampLeft.symm
  · rintro ⟨htaken, hleft, hpartner⟩
    obtain ⟨hright, hcampRight, hcampLeft⟩ := hpartner right ((hhead right).mpr rfl)
    refine ⟨fun name => ?_, ?_, h.combats, ?_, ?_⟩
    · rw [h.waiting, hwaiting, List.mem_cons]
    · rw [hpending, if_pos htaken]
    · rw [hfights, ← hleft, Function.update_eq_self, hleft, ← hright, Function.update_eq_self]
    · rw [hcamp]
      by_cases heq : left = right
      · rw [heq, Function.update_idem, ← hcampRight, Function.update_eq_self]
      · rw [← hcampLeft heq, Function.update_eq_self, ← hcampRight, Function.update_eq_self]

/-- A refused match changes nothing if and only if it did not lose its session, or all that it
sets was so before. -/
theorem refused_unchanged_iff (s : Gateway) (name : String) (mapId : Int) (allocated : Option Nat)
    (session : Bool) (h : s.pushCombat name mapId allocated session = some (t, false)) :
    Unchanged s t ↔ ¬ s.LosesSession mapId allocated session ∨ s.Marked name allocated := by
  rw [pushCombat] at h
  split at h
  · rename_i hnone
    rw [Option.some.injEq, Prod.mk.injEq] at h
    obtain ⟨rfl, -⟩ := h
    refine ⟨fun _ => .inl fun hloses => ?_, fun _ => ⟨fun _ => Iff.rfl, rfl, rfl, rfl, rfl⟩⟩
    have hsome := hloses.1
    rw [hnone] at hsome
    cases hsome
  · rename_i conf hmap
    split at h
    · rw [Option.some.injEq, Prod.mk.injEq] at h
      cases h.2
    · rename_i right waiting hwaiting
      split at h
      · rw [Option.some.injEq, Prod.mk.injEq] at h
        obtain ⟨rfl, -⟩ := h
        refine ⟨fun _ => .inl fun hloses => ?_, fun _ => ⟨fun name => ?_, rfl, rfl, rfl, rfl⟩⟩
        · cases hloses.2.2.1
        · rw [mem_addPendingCombatActor, hwaiting, List.mem_cons]
      · rename_i q
        dsimp only at h
        split at h
        · cases h
        · rename_i hfree
          obtain rfl := deploy_result h
          have hloses : s.LosesSession mapId (some q) false := by
            refine ⟨?_, ?_, rfl, rfl⟩
            · rw [hmap]
              rfl
            · rw [hwaiting]
              exact List.cons_ne_nil _ _
          rw [unchanged_iff_marked hwaiting (deploy_abandoned hfree h)]
          exact ⟨.inr, fun hor => hor.resolve_left fun hnot => hnot hloses⟩

theorem refused_unchanged_iff_pair :
    ∃ t, requested.pushCombat "b" 3 (some 0) false = some (t, false) ∧
      (Unchanged requested t ↔
        ¬ requested.LosesSession 3 (some 0) false ∨ requested.Marked "b" (some 0)) :=
  ⟨_, rfl, refused_unchanged_iff requested "b" 3 (some 0) false rfl⟩

/-- The second of two players asks while there is no session to the combat server. -/
theorem refused_linked : ¬ ∀ (s t : Gateway) (name : String) (mapId : Int)
    (allocated : Option Nat) (session : Bool),
    s.pushCombat name mapId allocated session = some (t, false) → Unchanged s t := by
  intro hall
  have hsame := (hall requested _ "b" 3 (some 0) false rfl).fights
  have hlinked := congrFun hsame "b"
  exact absurd hlinked (by decide)

/-! ## Runs -/

/-- An actor that points to a combat is one of the two of it. -/
structure Pointed (s : Gateway) : Prop where
  linked : ∀ name p, s.fights name = some p → ∃ c, s.memory p = some c ∧ c.Has name
  sided : ∀ p c, s.memory p = some c → ∃ l r, c.al = some l ∧ c.ar = some r

theorem Pointed.same (h : s.Pointed) (hsame : Same s t) : t.Pointed where
  linked := fun name p hfights => by
    rw [hsame.fights] at hfights
    exact (hsame.exists_iff fun i => i.2.2.1 = some name ∨ i.2.2.2 = some name).mpr
      (h.linked name p hfights)
  sided := fun p c hc => by
    obtain ⟨c', hc', hidentity⟩ := (hsame.exists_iff fun i => i = c.identity).mp ⟨c, hc, rfl⟩
    obtain ⟨l, r, hl, hr⟩ := h.sided p c' hc'
    have hal : c'.al = c.al := congrArg (fun i => i.2.2.1) hidentity
    have har : c'.ar = c.ar := congrArg (fun i => i.2.2.2) hidentity
    exact ⟨l, r, hal.symm.trans hl, har.symm.trans hr⟩

theorem Pointed.paired (h : s.Pointed) {waiting : List String}
    (hpaired : Paired left right waiting p s t) : t.Pointed := by
  obtain ⟨c, hmemory, hidentity⟩ := hpaired.memory
  have hal : c.al = some left := congrArg (fun i => i.2.2.1) hidentity
  have har : c.ar = some right := congrArg (fun i => i.2.2.2) hidentity
  constructor
  · intro name p' hfights
    rw [hpaired.fights] at hfights
    rw [hmemory]
    rcases Table.insert_some hfights with ⟨rfl, rfl⟩ | ⟨_, hfights⟩
    · exact ⟨c, Function.update_self .., .inr har⟩
    · rcases Table.insert_some hfights with ⟨rfl, rfl⟩ | ⟨_, hfights⟩
      · exact ⟨c, Function.update_self .., .inl hal⟩
      · obtain ⟨c', hc', hin⟩ := h.linked name p' hfights
        have hne : p' ≠ p := by
          rintro rfl
          rw [hpaired.free] at hc'
          cases hc'
        exact ⟨c', by rw [Function.update_of_ne hne, hc'], hin⟩
  · intro p' c' hc'
    rw [hmemory] at hc'
    rcases Table.insert_some hc' with ⟨_, rfl⟩ | ⟨_, hold⟩
    · exact ⟨left, right, hal, har⟩
    · exact h.sided p' c' hold

theorem Pointed.ended (h : s.Pointed) {c : Combat} (hended : Ended p c s t) : t.Pointed := by
  obtain ⟨l, r, hl, hr⟩ := h.sided p c hended.live
  constructor
  · intro name p' hfights
    rw [hended.fights l r hl hr] at hfights
    obtain ⟨hright, hfights⟩ := Table.erase_some hfights
    obtain ⟨hleft, hfights⟩ := Table.erase_some hfights
    obtain ⟨c', hc', hin⟩ := h.linked name p' hfights
    have hne : p' ≠ p := by
      rintro rfl
      rw [hended.live, Option.some.injEq] at hc'
      rw [← hc', Combat.Has, hl, hr, Option.some.injEq, Option.some.injEq] at hin
      rcases hin with heq | heq
      · exact hleft heq.symm
      · exact hright heq.symm
    exact ⟨c', by rw [hended.memory, Function.update_of_ne hne, hc'], hin⟩
  · intro p' c' hc'
    rw [hended.memory] at hc'
    exact h.sided p' c' (Table.erase_some hc').2

theorem Pointed.step (h : s.Pointed) {a : Action} (hstep : s.step a = some t) : t.Pointed := by
  have hwait : ∀ waiting, Pointed { s with pendingCombatActors := waiting } :=
    fun _ => ⟨h.linked, h.sided⟩
  cases moved hstep with
  | same hsame => exact h.same hsame
  | waits _ _ _ hsame => exact (hwait _).same hsame
  | requeued _ hsame => exact (hwait _).same hsame
  | paired _ _ _ hpaired hsame => exact (h.paired hpaired).same hsame
  | leaves name hsame => exact (hwait _).same hsame
  | ended hended => exact h.ended hended
  | @deployed serverId hostId combatId p _ _ _ hsame =>
    refine Pointed.same ?_ hsame
    have hsides := sides_modifyCombat s p (f := fun c =>
      { c with combatArgentId := combatId, combatServerId := serverId }) (fun _ => rfl) fun _ => rfl
    have hkeys : (s.modifyCombat p fun c =>
        { c with combatArgentId := combatId, combatServerId := serverId }).Pointed := by
      refine ⟨fun name p' hfights => ?_, fun p' c' hc' => ?_⟩
      · obtain ⟨c, hc, hin⟩ := h.linked name p' hfights
        obtain ⟨c', hc', hl, hr⟩ := (hsides p').2 c hc
        exact ⟨c', hc', by rwa [Combat.Has, hl, hr]⟩
      · obtain ⟨c, hc, hl, hr⟩ := (hsides p').1 c' hc'
        rw [hl, hr]
        exact h.sided p' c hc
    unfold addCombat
    split
    · exact hkeys
    · exact ⟨hkeys.linked, hkeys.sided⟩

/-- What would hide a lost session does not come about. -/
theorem not_marked {maps : Int → Option MapConf} {warriorConfs : List WarriorDescription}
    (h : Reaches step (fun _ _ => True) (start maps warriorConfs) s) (hfree : s.memory p = none) :
    ¬ s.Marked name (some p) := by
  have hpointed : s.Pointed := by
    refine h.invariant ⟨fun _ _ hfights => ?_, fun _ _ hc => by cases hc⟩
      fun s a s' hs _ hstep => hs.step hstep
    cases hfights
  rintro ⟨_, hfights, _⟩
  obtain ⟨c, hc, _⟩ := hpointed.linked name p hfights
  rw [hfree] at hc
  cases hc

end Gateway

end Mysya
