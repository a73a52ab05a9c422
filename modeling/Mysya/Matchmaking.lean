import Mysya.GatewayCombats

/-!
# Matchmaking and the tables of combats

A step of the gateway leaves the combats as they are, lets an actor wait or stop waiting,
pairs two actors in a new combat, ends a combat, or records that one was deployed.
-/

namespace Mysya

open GuardedRuns

/-- What of a combat the actors and the tables depend on. -/
def Combat.identity (c : Combat) : Int × (Int × Int) × Option String × Option String :=
  (c.id, c.argentKey, c.al, c.ar)

namespace Gateway

variable {s t u : Gateway} {name other : String} {p : Nat}

/-- The combat an actor points to. -/
def fights (s : Gateway) (name : String) : Option Nat :=
  (s.combatActors name).bind CombatActor.combat

theorem fights_modifyActor (s : Gateway) (name : String) {f : CombatActor → CombatActor}
    (hf : ∀ actor, (f actor).combat = actor.combat) : (s.modifyActor name f).fights = s.fights := by
  funext other
  show (Function.update s.combatActors name ((s.combatActors name).map f) other).bind _ = _
  by_cases heq : other = name
  · subst heq
    rw [Function.update_self]
    show _ = (s.combatActors other).bind _
    cases s.combatActors other with
    | none => rfl
    | some actor => exact hf actor
  · rw [Function.update_of_ne heq]
    rfl

theorem fights_setCombat (h : (s.combatActors name).isSome) (combat : Option Nat) :
    (s.setCombat name combat).fights = Function.update s.fights name combat := by
  obtain ⟨actor, hactor⟩ := Option.isSome_iff_exists.mp h
  funext other
  unfold fights setCombat modifyActor
  by_cases heq : other = name
  · subst heq
    simp [hactor]
  · simp [heq]

theorem fights_setCombat_none (s : Gateway) (name : String) :
    (s.setCombat name none).fights = Function.update s.fights name none := by
  funext other
  unfold fights setCombat modifyActor
  by_cases heq : other = name
  · subst heq
    cases hactor : s.combatActors other <;> simp
  · simp [heq]

theorem combatActors_modifyActor_isSome (s : Gateway) (name other : String)
    (f : CombatActor → CombatActor) :
    ((s.modifyActor name f).combatActors other).isSome = (s.combatActors other).isSome := by
  unfold modifyActor
  by_cases heq : other = name
  · subst heq
    simp
  · simp [heq]

/-! ## What a step does -/

/-- The combats, those who wait and the tables are the same. -/
structure Same (s t : Gateway) : Prop where
  fights : t.fights = s.fights
  memory : ∀ p, (t.memory p).map Combat.identity = (s.memory p).map Combat.identity
  waiting : t.pendingCombatActors = s.pendingCombatActors
  idAllocator : t.idAllocator = s.idAllocator
  pendingCombats : t.pendingCombats = s.pendingCombats
  combats : t.combats = s.combats

theorem Same.refl (s : Gateway) : Same s s := ⟨rfl, fun _ => rfl, rfl, rfl, rfl, rfl⟩

theorem Same.trans (h : Same s t) (h' : Same t u) : Same s u where
  fights := h'.fights.trans h.fights
  memory := fun p => (h'.memory p).trans (h.memory p)
  waiting := h'.waiting.trans h.waiting
  idAllocator := h'.idAllocator.trans h.idAllocator
  pendingCombats := h'.pendingCombats.trans h.pendingCombats
  combats := h'.combats.trans h.combats

theorem Same.send (s : Gateway) (message : GatewaySent) : Same s (s.send message) :=
  ⟨rfl, fun _ => rfl, rfl, rfl, rfl, rfl⟩

theorem Same.sendActor (s : Gateway) (name : Option String) (message : Int → GatewaySent) :
    Same s (s.sendActor name message) := by
  unfold Gateway.sendActor
  split
  · exact .refl s
  · exact .send s _

theorem sendActor_memory (s : Gateway) (name : Option String) (message : Int → GatewaySent) :
    (s.sendActor name message).memory = s.memory := by
  unfold sendActor
  split <;> rfl

theorem Same.modifyActor (s : Gateway) (name : String) {f : CombatActor → CombatActor}
    (hf : ∀ actor, (f actor).combat = actor.combat) : Same s (s.modifyActor name f) :=
  ⟨fights_modifyActor s name hf, fun _ => rfl, rfl, rfl, rfl, rfl⟩

theorem Same.modifyCombat (s : Gateway) (p : Nat) {f : Combat → Combat}
    (hf : ∀ c, (f c).identity = c.identity) : Same s (s.modifyCombat p f) where
  fights := rfl
  memory := fun p' => by
    show (Function.update s.memory p ((s.memory p).map f) p').map _ = _
    by_cases heq : p' = p
    · subst heq
      rw [Function.update_self, Option.map_map]
      exact Option.map_congr fun c _ => hf c
    · rw [Function.update_of_ne heq]
  waiting := rfl
  idAllocator := rfl
  pendingCombats := rfl
  combats := rfl

theorem Same.exists_iff (h : Same s t)
    (P : Int × (Int × Int) × Option String × Option String → Prop) :
    (∃ c, t.memory p = some c ∧ P c.identity) ↔ ∃ c, s.memory p = some c ∧ P c.identity := by
  have hmap := h.memory p
  cases hs : s.memory p with
  | none =>
    rw [hs, Option.map_none, Option.map_eq_none_iff] at hmap
    simp [hmap]
  | some c =>
    rw [hs, Option.map_some, Option.map_eq_some_iff] at hmap
    obtain ⟨c', hc', hsame⟩ := hmap
    simp [hc', hsame]

theorem Same.setCampId (s : Gateway) (name : String) (campId : Int) :
    Same s (s.setCampId name campId) :=
  .modifyActor s name fun _ => rfl

theorem Same.setUser (s : Gateway) (name : String) (user : Option Int) :
    Same s (s.modifyActor name fun actor => { actor with actor := user }) :=
  .modifyActor s name fun _ => rfl

/-- Two actors are put into a new combat, and perhaps one of them waits again. -/
structure Paired (left right : String) (waiting : List String) (p : Nat) (s t : Gateway) :
    Prop where
  free : s.memory p = none
  fights : t.fights = Function.update (Function.update s.fights left (some p)) right (some p)
  memory : ∃ c, t.memory = Function.update s.memory p (some c) ∧
    c.identity = (s.idAllocator + 1, (0, 0), some left, some right)
  waiting : t.pendingCombatActors = waiting
  idAllocator : t.idAllocator = s.idAllocator + 1
  pendingCombats : s.pendingCombats (s.idAllocator + 1) = none →
    t.pendingCombats = Function.update s.pendingCombats (s.idAllocator + 1) (some p)
  combats : t.combats = s.combats

/-- The combat at `p` is deleted. -/
structure Ended (p : Nat) (c : Combat) (s t : Gateway) : Prop where
  live : s.memory p = some c
  fights : ∀ l r, c.al = some l → c.ar = some r →
    t.fights = Function.update (Function.update s.fights l none) r none
  memory : t.memory = Function.update s.memory p none
  waiting : t.pendingCombatActors = s.pendingCombatActors
  idAllocator : t.idAllocator = s.idAllocator
  pendingCombats : t.pendingCombats = Function.update s.pendingCombats c.id none
  combats : ∀ key, s.combats key = none → t.combats key = none

theorem deallocate_ended (hstep : s.deallocate p = some t) : ∃ c, Ended p c s t := by
  unfold deallocate at hstep
  cases hc : s.memory p with
  | none => simp [hc] at hstep
  | some c =>
    simp only [hc, Option.some.injEq] at hstep
    subst hstep
    have hreset : ∀ (s : Gateway) name, (s.resetCombat name).memory = s.memory ∧
        (s.resetCombat name).pendingCombatActors = s.pendingCombatActors ∧
        (s.resetCombat name).idAllocator = s.idAllocator ∧
        (s.resetCombat name).pendingCombats = s.pendingCombats ∧
        (s.resetCombat name).combats = s.combats := by
      intro s name
      cases name <;> exact ⟨rfl, rfl, rfl, rfl, rfl⟩
    refine ⟨c, hc, ?_, ?_, ?_, ?_, ?_, ?_⟩
    · intro l r hl hr
      rw [hl, hr]
      show ((Gateway.resetCombat _ (some l)).setCombat r none).fights = _
      rw [fights_setCombat_none]
      exact congrArg (Function.update · r none) (fights_setCombat_none _ l)
    · simp only [hreset]
    · simp only [hreset]
    · simp only [hreset]
    · simp only [hreset]
    · intro key hkey
      simp only [hreset]
      exact Table.erase_none hkey _

theorem deploy_paired {conf : MapConf} {mapId : Int} {left right : String} {session ok : Bool}
    (hfree : s.memory p = none) (hdeploy : s.deploy conf mapId left right p session = some (t, ok)) :
    Paired left right (if session then s.pendingCombatActors
      else (s.addPendingCombatActor right).pendingCombatActors) p s t := by
  let c₀ : Combat := .new (s.idAllocator + 1)
  let c : Combat := { c₀ with mapId := mapId, al := some left, ar := some right
                              maxTime := combatMaxTime }
  -- What is deployed but for the two camp ids.
  let mid : Gateway := (((((s.allocate p).modifyCombat p fun c => { c with mapId := mapId }).setLeft p
    left).setRight p right).modifyCombat p fun c => { c with maxTime := combatMaxTime })
  have hmemory : mid.memory = Function.update s.memory p (some c) := by
    simp only [mid, allocate, addPendiong, setLeft, setRight, setCombat, modifyActor, modifyCombat]
    split <;> simp [c, c₀]
  have hactors : mid.combatActors =
      (((s.setCombat left (some p)).setCombat right (some p)).combatActors) := by
    simp only [mid, allocate, addPendiong, setLeft, setRight, setCombat, modifyActor, modifyCombat]
    split <;> rfl
  have hisSome : ∀ name, (mid.combatActors name).isSome = (s.combatActors name).isSome := by
    intro name
    rw [hactors]
    exact (combatActors_modifyActor_isSome _ right name _).trans
      (combatActors_modifyActor_isSome s left name _)
  have hpending : s.pendingCombats (s.idAllocator + 1) = none →
      mid.pendingCombats = Function.update s.pendingCombats (s.idAllocator + 1) (some p) := by
    intro hnone
    simp only [mid, allocate, addPendiong, setLeft, setRight, setCombat, modifyActor, modifyCombat]
    simp [hnone]
  have hrest : mid.pendingCombatActors = s.pendingCombatActors ∧
      mid.idAllocator = s.idAllocator + 1 ∧ mid.combats = s.combats := by
    simp only [mid, allocate, addPendiong, setLeft, setRight, setCombat, modifyActor, modifyCombat]
    split <;> exact ⟨rfl, rfl, rfl⟩
  have hsame : ∀ campId campId' : Int, Same mid ((mid.setCampId left campId).setCampId right campId') :=
    fun _ _ => (Same.setCampId mid left _).trans (.setCampId _ right _)
  simp only [deploy] at hdeploy
  split at hdeploy
  · rename_i al ar hal har
    have hl : (s.combatActors left).isSome := by
      rw [← hisSome, hal]
      rfl
    have hr : (s.combatActors right).isSome := by
      rw [← hisSome, har]
      rfl
    have hfights : mid.fights = Function.update (Function.update s.fights left (some p)) right
        (some p) := by
      have hset : mid.fights = ((s.setCombat left (some p)).setCombat right (some p)).fights := by
        unfold fights
        rw [hactors]
      rw [hset, fights_setCombat, fights_setCombat hl]
      exact (combatActors_modifyActor_isSome s left right _).trans hr
    have hpaired : ∀ u, Same mid u → u.memory = mid.memory →
        Paired left right mid.pendingCombatActors p s u := by
      intro u hu humemory
      exact ⟨hfree, hu.fights.trans hfights, ⟨c, humemory.trans hmemory, rfl⟩, hu.waiting,
        hu.idAllocator.trans hrest.2.1, fun hnone => hu.pendingCombats.trans (hpending hnone),
        hu.combats.trans hrest.2.2⟩
    split at hdeploy
    · rename_i hsession
      simp only [Option.some.injEq, Prod.mk.injEq] at hdeploy
      obtain ⟨rfl, _⟩ := hdeploy
      rw [if_pos hsession, ← hrest.1]
      exact hpaired _ ((hsame 1 2).trans (.send _ _)) rfl
    · rename_i hsession
      simp only [Option.some.injEq, Prod.mk.injEq] at hdeploy
      obtain ⟨rfl, _⟩ := hdeploy
      have hbase := hpaired _ (hsame 1 2) rfl
      rw [if_neg hsession]
      refine ⟨hfree, hbase.fights, hbase.memory, ?_, hbase.idAllocator, hbase.pendingCombats,
        hbase.combats⟩
      show (if right ∈ mid.pendingCombatActors then mid.pendingCombatActors
        else mid.pendingCombatActors ++ [right]) = _
      rw [hrest.1]
      rfl
  · cases hdeploy

/-- What the steps do to the combats, to those who wait and to the tables. -/
inductive Moved (s : Gateway) : Action → Gateway → Prop
  | same {a : Action} {t : Gateway} : Same s t → Moved s a t
  | waits {sockfd : Int} {allocated : Option Nat} {session : Bool} {name : String} {t : Gateway} :
      s.actors sockfd = some (some name) → (s.maps 3).isSome → s.pendingCombatActors = [] →
      Same { s with pendingCombatActors := [name] } t →
      Moved s (.combatRequest sockfd true allocated session) t
  | requeued {a : Action} {right : String} {waiting : List String} {t : Gateway} :
      s.pendingCombatActors = right :: waiting →
      Same (addPendingCombatActor { s with pendingCombatActors := waiting } right) t → Moved s a t
  | paired {sockfd : Int} {session : Bool} {left right : String} {waiting : List String}
      {p : Nat} {t u : Gateway} :
      s.actors sockfd = some (some left) → (s.maps 3).isSome →
      s.pendingCombatActors = right :: waiting →
      Paired left right (if session then waiting else
        (addPendingCombatActor { s with pendingCombatActors := waiting } right).pendingCombatActors)
        p s t → Same t u → Moved s (.combatRequest sockfd true (some p) session) u
  | leaves {sockfd : Int} {t : Gateway} (name : String) :
      Same (s.removePendingCombatActor name) t → Moved s (.close sockfd) t
  | ended {a : Action} {p : Nat} {c : Combat} {t : Gateway} : Ended p c s t → Moved s a t
  | deployed {serverId hostId combatId : Int} {p : Nat} {t : Gateway} :
      s.pendingCombats hostId = some p → (s.memory p).isSome →
      Same ((s.modifyCombat p fun c =>
        { c with combatArgentId := combatId, combatServerId := serverId }).addCombat
          (serverId, combatId) p) t → Moved s (.deployResponse serverId hostId true combatId) t

theorem Same.ended {c : Combat} (hsame : Same s t) (hmemory : t.memory = s.memory)
    (hended : Ended p c t u) : Ended p c s u where
  live := by rw [← hmemory]; exact hended.live
  fights := by rw [← hsame.fights]; exact hended.fights
  memory := by rw [← hmemory]; exact hended.memory
  waiting := hended.waiting.trans hsame.waiting
  idAllocator := hended.idAllocator.trans hsame.idAllocator
  pendingCombats := by rw [← hsame.pendingCombats]; exact hended.pendingCombats
  combats := by rw [← hsame.combats]; exact hended.combats

theorem refuseCombat_ended {c : Combat} (hrefuse : s.refuseCombat p c = some t) :
    ∃ c', Ended p c' s t := by
  obtain ⟨c', hended⟩ := deallocate_ended hrefuse
  refine ⟨c', Same.ended ((Same.sendActor s _ _).trans (.sendActor _ _ _)) ?_ hended⟩
  rw [sendActor_memory, sendActor_memory]

theorem Same.sendBegun (s : Gateway) (c : Combat) (name : Option String) :
    Same s (s.sendBegun c name) := by
  unfold Gateway.sendBegun
  split
  · exact .refl s
  · exact .sendActor s _ _

theorem Same.allocateActor (h : s.combatActors name = none) : Same s (s.allocateActor name) where
  fights := by
    funext other
    show (Function.update s.combatActors name _ other).bind CombatActor.combat =
      (s.combatActors other).bind CombatActor.combat
    by_cases heq : other = name
    · subst heq
      rw [Function.update_self, h]
      rfl
    · rw [Function.update_of_ne heq]
  memory := fun _ => rfl
  waiting := rfl
  idAllocator := rfl
  pendingCombats := rfl
  combats := rfl

theorem onMessageLoginRequest_same {sockfd : Int} {name : Option String} {allocated session : Bool}
    (hlogin : s.onMessageLoginRequest sockfd name allocated session = some t) : Same s t := by
  unfold onMessageLoginRequest at hlogin
  split at hlogin
  · cases hlogin
    exact .refl s
  · rename_i name _
    split at hlogin
    · cases hlogin
      exact .send s _
    · have hfound : Same s (if (s.combatActors name).isNone then s.allocateActor name else s) := by
        split
        · rename_i hnone
          exact .allocateActor (Option.isNone_iff_eq_none.mp hnone)
        · exact .refl s
      dsimp only at hlogin
      split at hlogin
      · cases hlogin
      · split at hlogin
        · cases hlogin
          exact hfound.trans (.send _ _)
        · have hbound : ∀ (u : Gateway), Same (u.modifyActor name fun actor =>
              { actor with actor := some sockfd }) t → Same u t :=
            fun u h => (Same.setUser u name (some sockfd)).trans h
          refine hfound.trans (hbound _ ?_)
          split at hlogin
          · cases hlogin
            exact ⟨rfl, fun _ => rfl, rfl, rfl, rfl, rfl⟩
          · split at hlogin
            · cases hlogin
            · split at hlogin
              · cases hlogin
                exact ⟨rfl, fun _ => rfl, rfl, rfl, rfl, rfl⟩
              · cases hlogin
                exact ⟨rfl, fun _ => rfl, rfl, rfl, rfl, rfl⟩
  · cases hlogin
    exact .send s _

theorem onMessageCombatRequest_moved {sockfd : Int} {parsed session : Bool}
    {allocated : Option Nat}
    (hrequest : s.onMessageCombatRequest sockfd parsed allocated session = some t) :
    Moved s (.combatRequest sockfd parsed allocated session) t := by
  have hsame : ∀ t, Same s t → Moved s (.combatRequest sockfd parsed allocated session) t :=
    fun _ h => .same h
  unfold onMessageCombatRequest at hrequest
  split at hrequest
  · cases hrequest
    exact hsame _ (.refl s)
  · cases hrequest
    exact hsame _ (.send s _)
  · rename_i name hactor
    split at hrequest
    · cases hrequest
      exact hsame _ (.send s _)
    · rename_i hparsed
      obtain rfl : parsed = true := by simpa using hparsed
      -- Whether the request was granted only shows in a refusal that is sent.
      have hpush : ∃ u ok, s.pushCombat name 3 allocated session = some (u, ok) ∧ Same u t := by
        split at hrequest
        · cases hrequest
        · rename_i hpush
          cases hrequest
          exact ⟨_, true, hpush, .refl _⟩
        · rename_i hpush
          cases hrequest
          exact ⟨_, false, hpush, .send _ _⟩
      obtain ⟨u, ok, hpush, hlast⟩ := hpush
      unfold pushCombat at hpush
      split at hpush
      · cases hpush
        exact hsame t hlast
      · rename_i conf hmap
        have hmap' : (s.maps 3).isSome := by
          rw [hmap]
          rfl
        split at hpush
        · rename_i hwaiting
          cases hpush
          refine .waits hactor hmap' hwaiting (Same.trans ?_ hlast)
          exact ⟨rfl, fun _ => rfl, by simp [addPendingCombatActor, hwaiting], rfl, rfl, rfl⟩
        · rename_i right waiting hwaiting
          split at hpush
          · cases hpush
            exact .requeued hwaiting hlast
          · rename_i p
            dsimp only at hpush
            split at hpush
            · cases hpush
            · rename_i hfree
              have hpaired := deploy_paired (s := { s with pendingCombatActors := waiting }) hfree hpush
              exact .paired hactor hmap' hwaiting ⟨hfree, hpaired.fights, hpaired.memory,
                hpaired.waiting, hpaired.idAllocator, hpaired.pendingCombats, hpaired.combats⟩ hlast

theorem onMessageCombatDeployResponse_moved {serverId hostId combatId : Int} {complete : Bool}
    (hdeploy : s.onMessageCombatDeployResponse serverId hostId complete combatId = some t) :
    Moved s (.deployResponse serverId hostId complete combatId) t := by
  unfold onMessageCombatDeployResponse at hdeploy
  split at hdeploy
  · cases hdeploy
    exact .same (.refl s)
  · rename_i p hp
    split at hdeploy
    · cases hdeploy
    · rename_i c hc
      split at hdeploy
      · split at hdeploy
        · obtain ⟨c', hended⟩ := refuseCombat_ended hdeploy
          exact .ended hended
        · rename_i hcomplete
          obtain rfl : complete = true := by simpa using hcomplete
          cases hdeploy
          refine .deployed hp (by rw [hc]; rfl) ?_
          exact (Same.send _ _).trans (.send _ _)
      · cases hdeploy
        exact .same (.refl s)

theorem onMessageCombatConnectArgentResponse_moved {serverId combatId : Int} {complete : Bool}
    (hconnect : s.onMessageCombatConnectArgentResponse serverId combatId complete = some t) :
    Moved s (.connectArgentResponse serverId combatId complete) t := by
  unfold onMessageCombatConnectArgentResponse at hconnect
  split at hconnect
  · cases hconnect
    exact .same (.refl s)
  · rename_i p _
    split at hconnect
    · cases hconnect
    · split at hconnect
      · cases hconnect
        exact .same (.refl s)
      · split at hconnect
        · obtain ⟨c', hended⟩ := refuseCombat_ended hconnect
          exact .ended hended
        · have hcounted : Same s (s.modifyCombat p fun c =>
              { c with connectedNum := c.connectedNum + 1 }) := .modifyCombat s p fun _ => rfl
          dsimp only at hconnect
          split at hconnect
          · cases hconnect
            exact .same (hcounted.trans (.send _ _))
          · cases hconnect
            exact .same hcounted

theorem onMessageCombatBeginResponse_moved {serverId combatId : Int} {complete : Bool}
    (hbegin : s.onMessageCombatBeginResponse serverId combatId complete = some t) :
    Moved s (.beginResponse serverId combatId complete) t := by
  unfold onMessageCombatBeginResponse at hbegin
  split at hbegin
  · cases hbegin
    exact .same (.refl s)
  · split at hbegin
    · cases hbegin
    · split at hbegin
      · cases hbegin
        exact .same (.refl s)
      · split at hbegin
        · obtain ⟨c', hended⟩ := refuseCombat_ended hbegin
          exact .ended hended
        · cases hbegin
          exact .same ((Same.sendBegun s _ _).trans (.sendBegun _ _ _))

theorem onMessageCombatSettlementSync_moved {serverId combatId : Int}
    (hsettle : s.onMessageCombatSettlementSync serverId combatId = some t) :
    Moved s (.settlementSync serverId combatId) t := by
  unfold onMessageCombatSettlementSync at hsettle
  split at hsettle
  · cases hsettle
    exact .same (.refl s)
  · dsimp only at hsettle
    split at hsettle
    · cases hsettle
    · obtain ⟨c', hended⟩ := deallocate_ended hsettle
      have hsent := Same.ended ((Same.sendActor (s.removeCombat (serverId, combatId)) _ _).trans
        (.sendActor _ _ _)) (by rw [sendActor_memory, sendActor_memory]) hended
      refine .ended ⟨hsent.live, hsent.fights, hsent.memory, hsent.waiting, hsent.idAllocator,
        hsent.pendingCombats, fun key hkey => hsent.combats key ?_⟩
      exact Table.erase_none hkey _

theorem moved {a : Action} (hstep : s.step a = some t) : Moved s a t := by
  cases a with
  | connected sockfd =>
    cases hstep
    refine .same ?_
    unfold onConnected
    split
    · exact .refl s
    · exact ⟨rfl, fun _ => rfl, rfl, rfl, rfl, rfl⟩
  | loginRequest sockfd name allocated session => exact .same (onMessageLoginRequest_same hstep)
  | combatRequest sockfd parsed allocated session => exact onMessageCombatRequest_moved hstep
  | close sockfd =>
    cases hstep
    unfold onClose
    split
    · exact .same (.refl s)
    · dsimp only
      split
      · exact .same ⟨rfl, fun _ => rfl, rfl, rfl, rfl, rfl⟩
      · rename_i name _
        refine .leaves name (Same.trans ?_ (.setUser _ name none))
        exact ⟨rfl, fun _ => rfl, rfl, rfl, rfl, rfl⟩
  | deployResponse serverId hostId complete combatId =>
    exact onMessageCombatDeployResponse_moved hstep
  | connectArgentResponse serverId combatId complete =>
    exact onMessageCombatConnectArgentResponse_moved hstep
  | beginResponse serverId combatId complete => exact onMessageCombatBeginResponse_moved hstep
  | settlementSync serverId combatId => exact onMessageCombatSettlementSync_moved hstep

/-! ## Actors and their combats -/

/-- An actor points to the combat it is in, and one that waits is in none. -/
structure Matched (s : Gateway) : Prop where
  linked : ∀ name p, s.fights name = some p ↔ ∃ c, s.memory p = some c ∧ c.Has name
  sided : ∀ p c, s.memory p = some c → ∃ l r, c.al = some l ∧ c.ar = some r ∧ l ≠ r
  waiting : ∀ name ∈ s.pendingCombatActors, s.fights name = none
  single : s.pendingCombatActors.length ≤ 1

/-- A request comes from an actor that neither waits nor fights, and where two actors are
paired there is a session to deploy their combat. -/
def Pairs (s : Gateway) : Action → Prop
  | .combatRequest sockfd parsed allocated session => ∀ name, parsed = true →
      s.actors sockfd = some (some name) → (s.maps 3).isSome →
        match s.pendingCombatActors with
        | [] => s.fights name = none
        | right :: _ => allocated.isSome → name ≠ right ∧ s.fights name = none ∧ session = true
  | _ => True

theorem start_matched (maps : Int → Option MapConf) (warriorConfs : List WarriorDescription) :
    (start maps warriorConfs).Matched where
  linked := fun name p => by simp [start, fights]
  sided := fun _ _ hc => by cases hc
  waiting := fun _ hname => absurd hname List.not_mem_nil
  single := Nat.zero_le 1

theorem Matched.same (h : s.Matched) (hsame : Same s t) : t.Matched where
  linked := fun name p => by
    rw [hsame.fights, h.linked]
    exact (hsame.exists_iff fun i => i.2.2.1 = some name ∨ i.2.2.2 = some name).symm
  sided := fun p c hc => by
    obtain ⟨c', hc', hidentity⟩ := (hsame.exists_iff fun i => i = c.identity).mp ⟨c, hc, rfl⟩
    obtain ⟨l, r, hl, hr, hne⟩ := h.sided p c' hc'
    have hal : c'.al = c.al := congrArg (fun i => i.2.2.1) hidentity
    have har : c'.ar = c.ar := congrArg (fun i => i.2.2.2) hidentity
    exact ⟨l, r, hal.symm.trans hl, har.symm.trans hr, hne⟩
  waiting := fun name hname => by
    rw [hsame.waiting] at hname
    rw [hsame.fights]
    exact h.waiting name hname
  single := by
    rw [hsame.waiting]
    exact h.single

/-- Who waits may change, as long as those who do are in no combat. -/
theorem Matched.wait (h : s.Matched) {waiting : List String}
    (hfree : ∀ name ∈ waiting, s.fights name = none) (hsingle : waiting.length ≤ 1) :
    Matched { s with pendingCombatActors := waiting } :=
  ⟨h.linked, h.sided, hfree, hsingle⟩

theorem Matched.paired (h : s.Matched) {left right : String} {waiting : List String}
    (hpaired : Paired left right waiting p s t) (hne : left ≠ right) (hleft : s.fights left = none)
    (hright : s.fights right = none) (hwaiting : waiting = []) : t.Matched := by
  obtain ⟨c, hmemory, hidentity⟩ := hpaired.memory
  have hal : c.al = some left := congrArg (fun i => i.2.2.1) hidentity
  have har : c.ar = some right := congrArg (fun i => i.2.2.2) hidentity
  have hfights : ∀ name, t.fights name =
      if name = left ∨ name = right then some p else s.fights name := by
    intro name
    rw [hpaired.fights]
    by_cases hr : name = right
    · simp [hr]
    · by_cases hl : name = left
      · simp [hl, hne]
      · simp [hl, hr]
  have hhas : ∀ name, c.Has name ↔ name = left ∨ name = right := by
    intro name
    rw [Combat.Has, hal, har, Option.some.injEq, Option.some.injEq, @eq_comm _ left,
      @eq_comm _ right]
  constructor
  · intro name p'
    rw [hfights, hmemory]
    by_cases hp : p' = p
    · subst hp
      simp only [Function.update_self, Option.some.injEq, exists_eq_left', hhas]
      split
      · next hin => simp [hin]
      · next hnot =>
        simp only [hnot, iff_false]
        rw [h.linked, hpaired.free]
        simp
    · rw [Function.update_of_ne hp, ← h.linked]
      split
      · next hin =>
        have hnone : s.fights name = none := by
          rcases hin with rfl | rfl
          · exact hleft
          · exact hright
        simp [hnone, Ne.symm hp]
      · exact Iff.rfl
  · intro p' c' hc'
    rw [hmemory] at hc'
    rcases Table.insert_some hc' with ⟨_, rfl⟩ | ⟨_, hold⟩
    · exact ⟨left, right, hal, har, hne⟩
    · exact h.sided p' c' hold
  · intro name hname
    rw [hpaired.waiting, hwaiting] at hname
    exact absurd hname List.not_mem_nil
  · rw [hpaired.waiting, hwaiting]
    exact Nat.zero_le 1

theorem Matched.ended (h : s.Matched) {c : Combat} (hended : Ended p c s t) : t.Matched := by
  obtain ⟨l, r, hl, hr, hne⟩ := h.sided p c hended.live
  have hhas : ∀ name, c.Has name ↔ name = l ∨ name = r := by
    intro name
    rw [Combat.Has, hl, hr, Option.some.injEq, Option.some.injEq, @eq_comm _ l, @eq_comm _ r]
  have hfights : ∀ name, t.fights name = if c.Has name then none else s.fights name := by
    intro name
    rw [hended.fights l r hl hr, if_congr (hhas name) rfl rfl]
    by_cases hr : name = r
    · simp [hr]
    · by_cases hl : name = l
      · simp [hl, hne]
      · simp [hl, hr]
  constructor
  · intro name p'
    rw [hfights, hended.memory]
    by_cases hp : p' = p
    · subst hp
      rw [Function.update_self]
      split
      · simp
      · next hnot =>
        have hother : ¬ ∃ c', s.memory p' = some c' ∧ c'.Has name := by
          rintro ⟨c', hc', hin⟩
          rw [hended.live, Option.some.injEq] at hc'
          rw [hc'] at hnot
          exact hnot hin
        rw [h.linked]
        simp [hother]
    · rw [Function.update_of_ne hp, ← h.linked]
      split
      · next hin =>
        have hfight : s.fights name = some p := (h.linked name p).mpr ⟨c, hended.live, hin⟩
        simp [hfight, Ne.symm hp]
      · exact Iff.rfl
  · intro p' c' hc'
    rw [hended.memory] at hc'
    exact h.sided p' c' (Table.erase_some hc').2
  · intro name hname
    rw [hended.waiting] at hname
    rw [hfights, h.waiting name hname, ite_self]
  · rw [hended.waiting]
    exact h.single

/-- The combats have the same actors after a change of something else. -/
theorem sides_modifyCombat (s : Gateway) (p : Nat) {f : Combat → Combat}
    (hal : ∀ c, (f c).al = c.al) (har : ∀ c, (f c).ar = c.ar) (p' : Nat) :
    (∀ c', (s.modifyCombat p f).memory p' = some c' →
      ∃ c, s.memory p' = some c ∧ c'.al = c.al ∧ c'.ar = c.ar) ∧
    ∀ c, s.memory p' = some c →
      ∃ c', (s.modifyCombat p f).memory p' = some c' ∧ c'.al = c.al ∧ c'.ar = c.ar := by
  constructor
  · intro c' hc'
    change Function.update s.memory p ((s.memory p).map f) p' = some c' at hc'
    by_cases hp : p' = p
    · subst hp
      rw [Function.update_self, Option.map_eq_some_iff] at hc'
      obtain ⟨c, hc, rfl⟩ := hc'
      exact ⟨c, hc, hal c, har c⟩
    · rw [Function.update_of_ne hp] at hc'
      exact ⟨c', hc', rfl, rfl⟩
  · intro c hc
    show ∃ c', Function.update s.memory p ((s.memory p).map f) p' = some c' ∧ _
    by_cases hp : p' = p
    · subst hp
      exact ⟨f c, by rw [Function.update_self, hc]; rfl, hal c, har c⟩
    · exact ⟨c, by rw [Function.update_of_ne hp, hc], rfl, rfl⟩

/-- The keys of a combat do not matter to its actors. -/
theorem Matched.deployed (h : s.Matched) (p : Nat) {f : Combat → Combat}
    (hal : ∀ c, (f c).al = c.al) (har : ∀ c, (f c).ar = c.ar) : (s.modifyCombat p f).Matched := by
  have hsides := sides_modifyCombat s p hal har
  refine ⟨fun name p' => (h.linked name p').trans ⟨?_, ?_⟩, ?_, h.waiting, h.single⟩
  · rintro ⟨c, hc, hin⟩
    obtain ⟨c', hc', hl, hr⟩ := (hsides p').2 c hc
    exact ⟨c', hc', by rwa [Combat.Has, hl, hr]⟩
  · rintro ⟨c', hc', hin⟩
    obtain ⟨c, hc, hl, hr⟩ := (hsides p').1 c' hc'
    exact ⟨c, hc, by rwa [Combat.Has, ← hl, ← hr]⟩
  · intro p' c' hc'
    obtain ⟨c, hc, hl, hr⟩ := (hsides p').1 c' hc'
    rw [hl, hr]
    exact h.sided p' c hc

theorem Matched.step (h : s.Matched) {a : Action} (hguard : s.Pairs a)
    (hstep : s.step a = some t) : t.Matched := by
  cases moved hstep with
  | same hsame => exact h.same hsame
  | @waits sockfd allocated session name _ hactor hmap hwaiting hsame =>
    have hfree := hguard name rfl hactor hmap
    simp only [hwaiting] at hfree
    have hwait : Matched { s with pendingCombatActors := [name] } := by
      refine h.wait ?_ (Nat.le_refl 1)
      intro other hother
      rw [List.mem_singleton.mp hother]
      exact hfree
    exact hwait.same hsame
  | @requeued _ right waiting _ hwaiting hsame =>
    have hright : s.fights right = none := h.waiting right (by simp [hwaiting])
    have hnil : waiting = [] := by
      have hsingle := h.single
      rw [hwaiting, List.length_cons] at hsingle
      exact List.length_eq_zero_iff.mp (by omega)
    have hwait : Matched { s with pendingCombatActors := [right] } := by
      refine h.wait ?_ (Nat.le_refl 1)
      intro other hother
      rw [List.mem_singleton.mp hother]
      exact hright
    refine hwait.same (Same.trans ?_ hsame)
    exact ⟨rfl, fun _ => rfl, by simp [addPendingCombatActor, hnil], rfl, rfl, rfl⟩
  | @paired sockfd session left right waiting p _ _ hactor hmap hwaiting hpaired hsame =>
    have hfree := hguard left rfl hactor hmap
    simp only [hwaiting] at hfree
    obtain ⟨hne, hleft, rfl⟩ := hfree rfl
    have hright : s.fights right = none := h.waiting right (by simp [hwaiting])
    have hnil : waiting = [] := by
      have hsingle := h.single
      rw [hwaiting, List.length_cons] at hsingle
      exact List.length_eq_zero_iff.mp (by omega)
    exact (h.paired hpaired hne hleft hright hnil).same hsame
  | @leaves sockfd _ name hsame =>
    refine Matched.same (h.wait ?_ ?_) hsame
    · exact fun other hother => h.waiting other (List.mem_filter.mp hother).1
    · exact Nat.le_trans (List.length_filter_le _ _) h.single
  | ended hended => exact h.ended hended
  | @deployed serverId hostId combatId p _ _ _ hsame =>
    refine Matched.same ?_ hsame
    have hkeys : (s.modifyCombat p fun c =>
        { c with combatArgentId := combatId, combatServerId := serverId }).Matched :=
      h.deployed p (fun _ => rfl) fun _ => rfl
    unfold addCombat
    split
    · exact hkeys
    · exact ⟨hkeys.linked, hkeys.sided, hkeys.waiting, hkeys.single⟩

/-- While no actor that waits or fights asks for a combat, and each pair is deployed, the
actors and the combats agree. -/
theorem actors_matched (maps : Int → Option MapConf) (warriorConfs : List WarriorDescription)
    (s : Gateway) (h : Reaches step Pairs (start maps warriorConfs) s) :
    (∀ name p, s.fights name = some p ↔ ∃ c, s.memory p = some c ∧ c.Has name) ∧
    (∀ p c name, s.memory p = some c → ¬ (c.al = some name ∧ c.ar = some name)) ∧
    (∀ p p' c c' name, s.memory p = some c → s.memory p' = some c' → c.Has name → c'.Has name →
      p = p') ∧
    ∀ name ∈ s.pendingCombatActors, s.fights name = none := by
  have hmatched : s.Matched :=
    h.invariant (start_matched maps warriorConfs) fun s a s' hs hguard hstep => hs.step hguard hstep
  refine ⟨hmatched.linked, ?_, ?_, hmatched.waiting⟩
  · rintro p c name hc ⟨hl, hr⟩
    obtain ⟨l, r, hl', hr', hne⟩ := hmatched.sided p c hc
    rw [hl, Option.some.injEq] at hl'
    rw [hr, Option.some.injEq] at hr'
    exact hne (hl'.symm.trans hr')
  · intro p p' c c' name hc hc' hin hin'
    have hp := (hmatched.linked name p).mpr ⟨c, hc, hin⟩
    have hp' := (hmatched.linked name p').mpr ⟨c', hc', hin'⟩
    rw [hp, Option.some.injEq] at hp'
    exact hp'

def plainMap : Int → Option MapConf := fun id => if id = 3 then some ⟨fun _ => []⟩ else none

/-- Two users who log in. -/
def logins : List Action :=
  [.connected 7, .loginRequest 7 (some "a") true false,
    .connected 8, .loginRequest 8 (some "b") true false]

def pairing : List Action :=
  logins ++ [.combatRequest 7 true none true, .combatRequest 8 true (some 0) true]

def loggedIn : Gateway := (run step logins (start plainMap [])).getD (start plainMap [])

def requested : Gateway := (loggedIn.step (.combatRequest 7 true none true)).getD loggedIn

def pairedGateway : Gateway :=
  (requested.step (.combatRequest 8 true (some 0) true)).getD requested

theorem actors_matched_pair : pairedGateway.fights "a" = some 0 := by
  have hlogins : Reaches step Pairs (start plainMap []) loggedIn := by
    have hrun : run step logins (start plainMap []) = some loggedIn := rfl
    have hguarded : Guarded step Pairs logins (start plainMap []) :=
      ⟨trivial, fun _ _ => ⟨trivial, fun _ _ => ⟨trivial, fun _ _ => ⟨trivial, fun _ _ => trivial⟩⟩⟩⟩
    exact Reaches.refl.run hguarded hrun
  have hrequested : Reaches step Pairs (start plainMap []) requested := by
    refine .snoc (.combatRequest 7 true none true) hlogins ?_ rfl
    intro name _ hactor _
    have hname : loggedIn.actors 7 = some (some "a") := rfl
    rw [hname] at hactor
    cases hactor
    show loggedIn.fights "a" = none
    rfl
  have hpaired : Reaches step Pairs (start plainMap []) pairedGateway := by
    refine .snoc (.combatRequest 8 true (some 0) true) hrequested ?_ rfl
    intro name _ hactor _
    have hname : requested.actors 8 = some (some "b") := rfl
    rw [hname] at hactor
    cases hactor
    show (some 0).isSome = true → "b" ≠ "a" ∧ requested.fights "b" = none ∧ true = true
    exact fun _ => ⟨by decide, rfl, rfl⟩
  exact ((actors_matched plainMap [] _ hpaired).1 "a" 0).mpr ⟨_, rfl, by decide⟩

/-- An actor that asks twice is paired with itself, and one that fights can be paired again. -/
theorem actor_twice :
    (∃ s, Reaches step (fun _ _ => True) (start plainMap []) s ∧
      (s.memory 0).map (fun c => (c.al, c.ar)) = some (some "a", some "a")) ∧
    ∃ s, Reaches step (fun _ _ => True) (start plainMap []) s ∧
      (s.memory 0).map (fun c => (c.al, c.ar)) = some (some "b", some "a") ∧
      (s.memory 1).map (fun c => (c.al, c.ar)) = some (some "a", some "b") := by
  constructor
  · exact ⟨_, reaches_of_run (l := logins ++
      [.combatRequest 7 true none true, .combatRequest 7 true (some 0) true]) rfl, by decide⟩
  · exact ⟨_, reaches_of_run (l := pairing ++
      [.combatRequest 8 true none true, .combatRequest 7 true (some 1) true]) rfl,
      by decide, by decide⟩

/-! ## Pending and active combats -/

/-- Each combat is in one of the two tables, under its number or its current key, and the
tables hold nothing else. -/
structure Partitioned (s : Gateway) : Prop where
  one : ∀ p c, s.memory p = some c →
    (s.pendingCombats c.id = some p ∧ ∀ key, s.combats key ≠ some p) ∨
      ((∀ id, s.pendingCombats id ≠ some p) ∧ s.combats c.argentKey = some p)
  pending : ∀ id p, s.pendingCombats id = some p → ∃ c, s.memory p = some c ∧ c.id = id
  active : ∀ key p, s.combats key = some p → ∃ c, s.memory p = some c ∧ c.argentKey = key

/-- No deploy response is a success for a combat that is pending. -/
def StaysPending (s : Gateway) : Action → Prop
  | .deployResponse _ hostId true _ => s.pendingCombats hostId = none
  | _ => True

structure AllPending (s : Gateway) : Prop where
  pending : ∀ p c, s.memory p = some c → s.pendingCombats c.id = some p
  live : ∀ id p, s.pendingCombats id = some p → ∃ c, s.memory p = some c ∧ c.id = id
  numbered : ∀ id p, s.pendingCombats id = some p → id ≤ s.idAllocator
  active : ∀ key, s.combats key = none

theorem AllPending.partitioned (h : s.AllPending) : s.Partitioned where
  one := fun p c hc => Or.inl ⟨h.pending p c hc, fun key hkey => by
    rw [h.active key] at hkey
    cases hkey⟩
  pending := h.live
  active := fun key p hp => by
    rw [h.active key] at hp
    cases hp

theorem start_allPending (maps : Int → Option MapConf) (warriorConfs : List WarriorDescription) :
    (start maps warriorConfs).AllPending :=
  ⟨fun _ _ hc => (by cases hc), fun _ _ hp => (by cases hp), fun _ _ hp => (by cases hp),
    fun _ => rfl⟩

theorem AllPending.same (h : s.AllPending) (hsame : Same s t) : t.AllPending where
  pending := fun p c hc => by
    obtain ⟨c', hc', hidentity⟩ := (hsame.exists_iff fun i => i = c.identity).mp ⟨c, hc, rfl⟩
    have hid : c'.id = c.id := congrArg Prod.fst hidentity
    rw [hsame.pendingCombats, ← hid]
    exact h.pending p c' hc'
  live := fun id p hp => by
    rw [hsame.pendingCombats] at hp
    exact (hsame.exists_iff fun i => i.1 = id).mpr (h.live id p hp)
  numbered := fun id p hp => by
    rw [hsame.pendingCombats] at hp
    rw [hsame.idAllocator]
    exact h.numbered id p hp
  active := fun key => by
    rw [hsame.combats]
    exact h.active key

theorem AllPending.paired (h : s.AllPending) {left right : String} {waiting : List String}
    (hpaired : Paired left right waiting p s t) : t.AllPending := by
  obtain ⟨c, hmemory, hidentity⟩ := hpaired.memory
  have hid : c.id = s.idAllocator + 1 := congrArg Prod.fst hidentity
  have hfresh : s.pendingCombats (s.idAllocator + 1) = none := by
    by_contra hsome
    obtain ⟨p', hp'⟩ := Option.ne_none_iff_exists'.mp hsome
    have := h.numbered _ p' hp'
    omega
  have hpending := hpaired.pendingCombats hfresh
  constructor
  · intro p' c' hc'
    rw [hmemory] at hc'
    rw [hpending]
    rcases Table.insert_some hc' with ⟨rfl, rfl⟩ | ⟨_, hold⟩
    · rw [hid, Function.update_self]
    · exact Table.insert_kept (h.pending p' c' hold) (by rw [hfresh]; simp) p
  · intro id p' hp'
    rw [hpending] at hp'
    rw [hmemory]
    rcases Table.insert_some hp' with ⟨rfl, rfl⟩ | ⟨_, hold⟩
    · exact ⟨c, Function.update_self _ _ _, hid⟩
    · obtain ⟨c', hc', hid'⟩ := h.live id p' hold
      exact ⟨c', Table.insert_kept hc' (by rw [hpaired.free]; simp) c, hid'⟩
  · rw [hpending, hpaired.idAllocator]
    refine Table.insert_all (fun id p' hp' => ?_) (Int.le_refl _)
    have := h.numbered id p' hp'
    omega
  · rw [hpaired.combats]
    exact h.active

theorem AllPending.ended (h : s.AllPending) {c : Combat} (hended : Ended p c s t) :
    t.AllPending := by
  constructor
  · intro p' c' hc'
    rw [hended.memory] at hc'
    obtain ⟨hne, hold⟩ := Table.erase_some hc'
    have hp' := h.pending p' c' hold
    have hid : c'.id ≠ c.id := by
      intro heq
      rw [heq, h.pending p c hended.live, Option.some.injEq] at hp'
      exact hne hp'.symm
    rw [hended.pendingCombats, Function.update_of_ne hid]
    exact hp'
  · intro id p' hp'
    rw [hended.pendingCombats] at hp'
    obtain ⟨hne, hold⟩ := Table.erase_some hp'
    obtain ⟨c', hc', hid⟩ := h.live id p' hold
    refine ⟨c', ?_, hid⟩
    have hp : p' ≠ p := by
      rintro rfl
      rw [hended.live, Option.some.injEq] at hc'
      rw [← hc'] at hid
      exact hne hid.symm
    rw [hended.memory, Function.update_of_ne hp]
    exact hc'
  · rw [hended.pendingCombats, hended.idAllocator]
    exact Table.erase_all h.numbered c.id
  · exact fun key => hended.combats key (h.active key)

theorem AllPending.step (h : s.AllPending) {a : Action} (hguard : s.StaysPending a)
    (hstep : s.step a = some t) : t.AllPending := by
  have hwait : ∀ waiting, AllPending { s with pendingCombatActors := waiting } :=
    fun _ => ⟨h.pending, h.live, h.numbered, h.active⟩
  cases moved hstep with
  | same hsame => exact h.same hsame
  | waits _ _ _ hsame => exact (hwait _).same hsame
  | requeued _ hsame => exact (hwait _).same hsame
  | paired _ _ _ hpaired hsame => exact (h.paired hpaired).same hsame
  | leaves name hsame => exact (hwait _).same hsame
  | ended hended => exact h.ended hended
  | deployed hpending _ _ =>
    have hnone : s.pendingCombats _ = none := hguard
    rw [hnone] at hpending
    cases hpending

/-- While no pending combat is deployed with success, the tables hold the combats there are,
each in one of them, and all of them are pending. -/
theorem combats_partitioned (maps : Int → Option MapConf) (warriorConfs : List WarriorDescription)
    (s : Gateway) (h : Reaches step StaysPending (start maps warriorConfs) s) :
    s.Partitioned ∧ ∀ p c, s.memory p = some c → s.pendingCombats c.id = some p := by
  have hpending : s.AllPending :=
    h.invariant (start_allPending maps warriorConfs)
      fun s a s' hs hguard hstep => hs.step hguard hstep
  exact ⟨hpending.partitioned, hpending.pending⟩

theorem combats_partitioned_pair : pairedGateway.pendingCombats 1 = some 0 := by
  have hrun : run step pairing (start plainMap []) = some pairedGateway := rfl
  have hguarded : Guarded step StaysPending pairing (start plainMap []) :=
    ⟨trivial, fun _ _ => ⟨trivial, fun _ _ => ⟨trivial, fun _ _ => ⟨trivial, fun _ _ =>
      ⟨trivial, fun _ _ => ⟨trivial, fun _ _ => trivial⟩⟩⟩⟩⟩⟩
  exact (combats_partitioned plainMap [] _ (Reaches.refl.run hguarded hrun)).2 0 _ rfl

/-- A combat deployed with success is in both tables, and a second response to the same
request finds it pending and enters it under a second key, which stays when the combat is
settled. -/
theorem deployed_pending :
    (∃ s, Reaches step (fun _ _ => True) (start plainMap []) s ∧
      s.pendingCombats 1 = some 0 ∧ s.combats (1, 5) = some 0) ∧
    ∃ s, Reaches step (fun _ _ => True) (start plainMap []) s ∧
      s.memory 0 = none ∧ s.combats (1, 5) = some 0 := by
  constructor
  · exact ⟨_, reaches_of_run (l := pairing ++ [.deployResponse 1 1 true 5]) rfl, rfl, rfl⟩
  · exact ⟨_, reaches_of_run (l := pairing ++
      [.deployResponse 1 1 true 5, .deployResponse 1 1 true 6, .settlementSync 1 6]) rfl, rfl, rfl⟩

end Gateway

end Mysya
