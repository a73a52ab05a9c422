import Mysya.Matchmaking

/-!
# Who is logged in

An actor is logged in through one connection, and through each connection at most one actor is. Who
waits for a combat is logged in. This holds whatever the users and the combat servers send.
-/

namespace Mysya

open GuardedRuns

namespace Gateway

variable {s t u : Gateway} {name left right : String} {p : Nat}

/-- The connection of the user who is logged in as the actor. -/
def online (s : Gateway) (name : String) : Option Int :=
  (s.combatActors name).bind CombatActor.actor

theorem online_modifyActor (s : Gateway) (name : String) {f : CombatActor → CombatActor}
    (hf : ∀ actor, (f actor).actor = actor.actor) : (s.modifyActor name f).online = s.online := by
  funext other
  show (Function.update s.combatActors name ((s.combatActors name).map f) other).bind _ = _
  by_cases heq : other = name
  · subst heq
    rw [Function.update_self]
    show _ = (s.combatActors other).bind _
    cases s.combatActors other with
    | none => rfl
    | some actor => exact hf actor
  · rw [Function.update_of_ne heq]
    rfl

def argent (s : Gateway) (name : String) : Option UInt64 :=
  (s.combatActors name).map CombatActor.combatArgentId

theorem argent_modifyActor (s : Gateway) (name : String) {f : CombatActor → CombatActor}
    (hf : ∀ actor, (f actor).combatArgentId = actor.combatArgentId) :
    (s.modifyActor name f).argent = s.argent := by
  funext other
  show (Function.update s.combatActors name ((s.combatActors name).map f) other).map _ = _
  by_cases heq : other = name
  · subst heq
    rw [Function.update_self, Option.map_map]
    exact Option.map_congr fun actor _ => hf actor
  · rw [Function.update_of_ne heq]
    rfl

theorem online_setActor (h : (s.combatActors name).isSome) (user : Option Int) :
    (s.modifyActor name fun actor => { actor with actor := user }).online =
      Function.update s.online name user := by
  obtain ⟨actor, hactor⟩ := Option.isSome_iff_exists.mp h
  funext other
  unfold online modifyActor
  by_cases heq : other = name
  · subst heq
    simp [hactor]
  · simp [heq]

/-! ## Nobody comes or goes -/

/-- The same users are logged in, and nobody else waits. -/
structure Users (s t : Gateway) : Prop where
  actors : t.actors = s.actors
  online : t.online = s.online
  waiting : ∀ name ∈ t.pendingCombatActors,
    name ∈ s.pendingCombatActors ∨ (s.online name).isSome

theorem Users.refl (s : Gateway) : Users s s := ⟨rfl, rfl, fun _ => .inl⟩

/-- And the actors and their argent ids are the same. -/
structure SameActors (s t : Gateway) : Prop extends Users s t where
  argent : t.argent = s.argent
  argentIds : t.argentIds = s.argentIds

theorem SameActors.refl (s : Gateway) : SameActors s s := ⟨.refl s, rfl, rfl⟩

theorem Users.trans (h : Users s t) (h' : Users t u) : Users s u where
  actors := h'.actors.trans h.actors
  online := h'.online.trans h.online
  waiting := fun name hname => by
    rcases h'.waiting name hname with hwaits | honline
    · exact h.waiting name hwaits
    · exact .inr (h.online ▸ honline)

theorem SameActors.trans (h : SameActors s t) (h' : SameActors t u) : SameActors s u :=
  ⟨h.toUsers.trans h'.toUsers, h'.argent.trans h.argent, h'.argentIds.trans h.argentIds⟩

theorem users_same (hactors : t.actors = s.actors) (honline : t.online = s.online)
    (hwaiting : t.pendingCombatActors = s.pendingCombatActors) : Users s t :=
  ⟨hactors, honline, fun _ hname => .inl (hwaiting ▸ hname)⟩

theorem sameActors_same (hactors : t.actors = s.actors)
    (hcombatActors : t.combatActors = s.combatActors)
    (hwaiting : t.pendingCombatActors = s.pendingCombatActors) (hids : t.argentIds = s.argentIds) :
    SameActors s t := by
  refine ⟨users_same hactors ?_ hwaiting, ?_, hids⟩
  · unfold online
    rw [hcombatActors]
  · unfold argent
    rw [hcombatActors]

theorem sameActors_send (s : Gateway) (message : GatewaySent) : SameActors s (s.send message) :=
  sameActors_same rfl rfl rfl rfl

theorem sameActors_sendActor (s : Gateway) (name : Option String) (message : Int → GatewaySent) :
    SameActors s (s.sendActor name message) := by
  rw [sendActor]
  split
  · exact .refl s
  · exact sameActors_send s _

theorem sameActors_modifyActor (s : Gateway) (name : String) {f : CombatActor → CombatActor}
    (hf : ∀ actor, (f actor).actor = actor.actor ∧
      (f actor).combatArgentId = actor.combatArgentId) : SameActors s (s.modifyActor name f) :=
  ⟨users_same rfl (online_modifyActor s name fun actor => (hf actor).1) rfl,
    argent_modifyActor s name fun actor => (hf actor).2, rfl⟩

theorem sameActors_setCombat (s : Gateway) (name : String) (combat : Option Nat) :
    SameActors s (s.setCombat name combat) :=
  sameActors_modifyActor s name fun _ => ⟨rfl, rfl⟩

theorem sameActors_resetCombat (s : Gateway) (name : Option String) :
    SameActors s (s.resetCombat name) := by
  cases name with
  | none => exact .refl s
  | some name => exact sameActors_setCombat s name none

theorem sameActors_addCombat (s : Gateway) (key : Int × Int) (p : Nat) :
    SameActors s (s.addCombat key p) := by
  rw [addCombat]
  split
  · exact .refl s
  · exact sameActors_same rfl rfl rfl rfl

theorem sameActors_allocate (s : Gateway) (p : Nat) : SameActors s (s.allocate p) := by
  rw [allocate, addPendiong]
  split
  · exact sameActors_same rfl rfl rfl rfl
  · exact sameActors_same rfl rfl rfl rfl

theorem sameActors_modifyCombat (s : Gateway) (p : Nat) (f : Combat → Combat) :
    SameActors s (s.modifyCombat p f) := sameActors_same rfl rfl rfl rfl

theorem sameActors_setLeft (s : Gateway) (p : Nat) (name : String) :
    SameActors s (s.setLeft p name) :=
  (sameActors_modifyCombat s p _).trans (sameActors_setCombat _ name _)

theorem sameActors_setRight (s : Gateway) (p : Nat) (name : String) :
    SameActors s (s.setRight p name) :=
  (sameActors_modifyCombat s p _).trans (sameActors_setCombat _ name _)

/-- Who is logged in may wait. -/
theorem sameActors_addPending (h : (s.online name).isSome) :
    SameActors s (s.addPendingCombatActor name) := by
  refine ⟨⟨rfl, rfl, fun other hother => ?_⟩, rfl, rfl⟩
  rw [addPendingCombatActor] at hother
  dsimp only at hother
  split at hother
  · exact .inl hother
  · rcases List.mem_append.mp hother with hother | hother
    · exact .inl hother
    · rw [List.mem_singleton.mp hother]
      exact .inr h

theorem sameActors_deallocate (h : s.deallocate p = some t) : SameActors s t := by
  rw [deallocate] at h
  split at h
  · cases h
  · rename_i c _
    obtain rfl := Option.some.inj h
    have herased : SameActors s { s with
        pendingCombats := Function.update s.pendingCombats c.id none
        combats := Function.update s.combats c.argentKey none } := sameActors_same rfl rfl rfl rfl
    have hreset := (herased.trans (sameActors_resetCombat _ c.al)).trans
      (sameActors_resetCombat _ c.ar)
    exact ⟨⟨hreset.actors, hreset.online, hreset.waiting⟩, hreset.argent, hreset.argentIds⟩

theorem sameActors_told {a b : Option String} {message : Int → GatewaySent}
    (h : ((s.sendActor a message).sendActor b message).deallocate p = some t) : SameActors s t :=
  ((sameActors_sendActor s a message).trans (sameActors_sendActor _ b message)).trans
    (sameActors_deallocate h)

theorem sameActors_sendBegun (s : Gateway) (c : Combat) (name : Option String) :
    SameActors s (s.sendBegun c name) := by
  rw [sendBegun]
  split
  · exact .refl s
  · exact sameActors_sendActor s _ _

theorem sameActors_deploy {conf : MapConf} {mapId : Int} {session ok : Bool}
    (hright : (s.online right).isSome)
    (hdeploy : s.deploy conf mapId left right p session = some (t, ok)) : SameActors s t := by
  have hmid := ((((sameActors_allocate s p).trans (sameActors_modifyCombat _ p fun c =>
    { c with mapId := mapId })).trans (sameActors_setLeft _ p left)).trans
      (sameActors_setRight _ p right)).trans (sameActors_modifyCombat _ p fun c =>
        { c with maxTime := combatMaxTime })
  have hcamps := (hmid.trans (sameActors_modifyActor _ left (f := fun actor =>
    { actor with campId := 1 }) fun _ => ⟨rfl, rfl⟩)).trans (sameActors_modifyActor _ right
      (f := fun actor => { actor with campId := 2 }) fun _ => ⟨rfl, rfl⟩)
  simp only [deploy] at hdeploy
  split at hdeploy
  · split at hdeploy
    · rw [Option.some.injEq, Prod.mk.injEq] at hdeploy
      obtain ⟨rfl, -⟩ := hdeploy
      exact hcamps.trans (sameActors_send _ _)
    · rw [Option.some.injEq, Prod.mk.injEq] at hdeploy
      obtain ⟨rfl, -⟩ := hdeploy
      exact hcamps.trans (sameActors_addPending (hcamps.online ▸ hright))
  · cases hdeploy

/-! ## Steps -/

/-- One connection for each user, and those who wait are logged in. -/
structure Online (s : Gateway) : Prop where
  seated : ∀ sockfd name, s.actors sockfd = some (some name) ↔ s.online name = some sockfd
  waiting : ∀ name ∈ s.pendingCombatActors, (s.online name).isSome

theorem start_online (maps : Int → Option MapConf) (warriorConfs : List WarriorDescription) :
    (start maps warriorConfs).Online :=
  ⟨fun _ _ => ⟨fun h => (by cases h), fun h => (by cases h)⟩, fun _ hname => by cases hname⟩

theorem Online.users (h : s.Online) (husers : Users s t) : t.Online := by
  constructor
  · rw [husers.actors, husers.online]
    exact h.seated
  · intro name hname
    rw [husers.online]
    rcases husers.waiting name hname with hwaits | honline
    · exact h.waiting name hwaits
    · exact honline

theorem pushCombat_sameActors {mapId : Int} {allocated : Option Nat} {session ok : Bool}
    (hname : (s.online name).isSome) (hwaiting : ∀ other ∈ s.pendingCombatActors,
      (s.online other).isSome) (hpush : s.pushCombat name mapId allocated session = some (t, ok)) :
    SameActors s t := by
  rw [pushCombat] at hpush
  split at hpush
  · cases hpush
    exact .refl s
  · split at hpush
    · cases hpush
      exact sameActors_addPending hname
    · rename_i right waiting hlist
      have hright : (s.online right).isSome := hwaiting right (by
        rw [hlist]
        exact List.mem_cons_self ..)
      have hshort : SameActors s { s with pendingCombatActors := waiting } := by
        refine ⟨⟨rfl, rfl, fun other hother => .inl ?_⟩, rfl, rfl⟩
        rw [hlist]
        exact List.mem_cons_of_mem _ hother
      dsimp only at hpush
      split at hpush
      · cases hpush
        exact hshort.trans (sameActors_addPending hright)
      · split at hpush
        · cases hpush
        · exact hshort.trans (sameActors_deploy hright hpush)

theorem Online.combatRequest (h : s.Online) {sockfd : Int} {parsed session : Bool}
    {allocated : Option Nat}
    (hrequest : s.onMessageCombatRequest sockfd parsed allocated session = some t) :
    SameActors s t := by
  rw [onMessageCombatRequest] at hrequest
  split at hrequest
  · cases hrequest
    exact .refl s
  · cases hrequest
    exact sameActors_send s _
  · rename_i name hactor
    have hname := Option.isSome_of_eq_some ((h.seated sockfd name).mp hactor)
    split at hrequest
    · cases hrequest
      exact sameActors_send s _
    · split at hrequest
      · cases hrequest
      · rename_i hpush
        cases hrequest
        exact pushCombat_sameActors hname h.waiting hpush
      · rename_i hpush
        cases hrequest
        exact (pushCombat_sameActors hname h.waiting hpush).trans (sameActors_send _ _)

/-- A user is logged in through a connection that nobody is logged in through. -/
theorem Online.seat (h : s.Online) {sockfd : Int} (hfree : s.actors sockfd = some none)
    (hname : (s.combatActors name).isSome) (hoffline : s.online name = none) :
    Online { s.modifyActor name fun actor => { actor with actor := some sockfd } with
      actors := Function.update s.actors sockfd (some (some name)) } := by
  have honline := online_setActor hname (some sockfd)
  constructor
  · intro fd other
    show Function.update s.actors sockfd _ fd = _ ↔ (s.modifyActor name fun actor =>
      { actor with actor := some sockfd }).online other = _
    rw [honline]
    by_cases hfd : fd = sockfd
    · subst hfd
      rw [Function.update_self]
      by_cases hother : other = name
      · subst hother
        rw [Function.update_self]
        exact iff_of_true rfl rfl
      · rw [Function.update_of_ne hother]
        refine iff_of_false (fun heq => hother ?_) fun heq => ?_
        · exact (Option.some.inj (Option.some.inj heq)).symm
        · rw [← h.seated, hfree] at heq
          cases heq
    · rw [Function.update_of_ne hfd]
      by_cases hother : other = name
      · subst hother
        rw [Function.update_self, h.seated, hoffline]
        refine iff_of_false (fun heq => by cases heq) fun heq => hfd ?_
        exact (Option.some.inj heq).symm
      · rw [Function.update_of_ne hother]
        exact h.seated fd other
  · intro other hother
    show ((s.modifyActor name fun actor => { actor with actor := some sockfd }).online other).isSome
    rw [honline]
    by_cases heq : other = name
    · subst heq
      rw [Function.update_self]
      rfl
    · rw [Function.update_of_ne heq]
      exact h.waiting other hother

theorem users_allocateActor (h : s.combatActors name = none) : Users s (s.allocateActor name) := by
  refine users_same rfl ?_ rfl
  funext other
  show (Function.update s.combatActors name _ other).bind _ = (s.combatActors other).bind _
  by_cases heq : other = name
  · subst heq
    rw [Function.update_self, h]
    rfl
  · rw [Function.update_of_ne heq]

theorem Online.login (h : s.Online) {sockfd : Int} {name : Option String}
    {allocated session : Bool}
    (hlogin : s.onMessageLoginRequest sockfd name allocated session = some t) : t.Online := by
  unfold onMessageLoginRequest at hlogin
  split at hlogin
  · cases hlogin
    exact h
  · rename_i name hfree
    split at hlogin
    · cases hlogin
      exact h.users (sameActors_send s _).toUsers
    · have hfound : Users s
          (if (s.combatActors name).isNone then s.allocateActor name else s) := by
        split
        · rename_i hnone
          exact users_allocateActor (Option.isNone_iff_eq_none.mp hnone)
        · exact .refl s
      dsimp only at hlogin
      generalize (if (s.combatActors name).isNone then s.allocateActor name else s) = u at *
      have hu := h.users hfound
      split at hlogin
      · cases hlogin
      · rename_i actor hactor
        split at hlogin
        · cases hlogin
          exact hu.users (sameActors_send u _).toUsers
        · rename_i hoffline
          have hseat := hu.seat (hfound.actors ▸ hfree) (Option.isSome_of_eq_some hactor) (by
            show (u.combatActors name).bind _ = none
            rw [hactor]
            exact Option.not_isSome_iff_eq_none.mp hoffline)
          have hbound := hseat.users (sameActors_send _ (.loginResponse sockfd true)).toUsers
          split at hlogin
          · cases hlogin
            exact hbound
          · split at hlogin
            · cases hlogin
            · split at hlogin
              · cases hlogin
                exact hbound.users (sameActors_send _ _).toUsers
              · cases hlogin
                exact hbound
  · cases hlogin
    exact h.users (sameActors_send s _).toUsers

theorem Online.connected (h : s.Online) (sockfd : Int) : (s.onConnected sockfd).Online := by
  rw [onConnected]
  split
  · exact h
  · rename_i hfree
    refine ⟨fun fd name => ?_, h.waiting⟩
    show Function.update s.actors sockfd (some none) fd = _ ↔ s.online name = _
    rw [← h.seated]
    by_cases heq : fd = sockfd
    · subst heq
      rw [Function.update_self, Option.not_isSome_iff_eq_none.mp hfree]
      exact iff_of_false (fun heq => by cases heq) fun heq => by cases heq
    · rw [Function.update_of_ne heq]

theorem Online.close (h : s.Online) (sockfd : Int) : (s.onClose sockfd).Online := by
  rw [onClose]
  split
  · exact h
  · rename_i combatActor hactor
    dsimp only
    split
    · refine ⟨fun fd name => ?_, h.waiting⟩
      show Function.update s.actors sockfd none fd = _ ↔ s.online name = _
      rw [← h.seated]
      by_cases heq : fd = sockfd
      · subst heq
        rw [Function.update_self, hactor]
        exact iff_of_false (fun heq => by cases heq) fun heq => by cases heq
      · rw [Function.update_of_ne heq]
    · rename_i name
      have hseated := (h.seated sockfd name).mp hactor
      have hname : (s.combatActors name).isSome := by
        cases hnone : s.combatActors name with
        | none =>
          rw [online, hnone] at hseated
          cases hseated
        | some _ => rfl
      have honline := online_setActor hname none
      constructor
      · intro fd other
        show Function.update s.actors sockfd none fd = _ ↔
          (s.modifyActor name fun actor => { actor with actor := none }).online other = _
        rw [honline]
        by_cases hother : other = name
        · subst hother
          rw [Function.update_self]
          refine iff_of_false (fun heq => ?_) fun heq => by cases heq
          obtain ⟨hne, heq⟩ := Table.erase_some heq
          rw [h.seated, hseated] at heq
          exact hne (Option.some.inj heq).symm
        · rw [Function.update_of_ne hother, ← h.seated]
          by_cases hfd : fd = sockfd
          · subst hfd
            rw [Function.update_self, hactor]
            refine iff_of_false (fun heq => by cases heq) fun heq => hother ?_
            exact (Option.some.inj (Option.some.inj heq)).symm
          · rw [Function.update_of_ne hfd]
      · intro other hother
        obtain ⟨hin, hne⟩ := List.mem_filter.mp hother
        have hne : other ≠ name := by simpa using hne
        show ((s.modifyActor name fun actor => { actor with actor := none }).online other).isSome
        rw [honline, Function.update_of_ne hne]
        exact h.waiting other hin

theorem deployResponse_sameActors {serverId hostId combatId : Int} {complete : Bool}
    (h : s.onMessageCombatDeployResponse serverId hostId complete combatId = some t) :
    SameActors s t := by
  rw [onMessageCombatDeployResponse] at h
  split at h
  · cases h
    exact .refl s
  · rename_i p _
    split at h
    · cases h
    · split at h
      · split at h
        · exact sameActors_told h
        · cases h
          exact (((sameActors_modifyCombat s p _).trans (sameActors_addCombat _ _ p)).trans
            (sameActors_send _ _)).trans (sameActors_send _ _)
      · cases h
        exact .refl s

theorem connectResponse_sameActors {serverId combatId : Int} {complete : Bool}
    (h : s.onMessageCombatConnectArgentResponse serverId combatId complete = some t) :
    SameActors s t := by
  rw [onMessageCombatConnectArgentResponse] at h
  split at h
  · cases h
    exact .refl s
  · rename_i p _
    split at h
    · cases h
    · split at h
      · cases h
        exact .refl s
      · split at h
        · exact sameActors_told h
        · dsimp only at h
          split at h
          · cases h
            exact (sameActors_modifyCombat s p _).trans (sameActors_send _ _)
          · cases h
            exact sameActors_modifyCombat s p _

theorem beginResponse_sameActors {serverId combatId : Int} {complete : Bool}
    (h : s.onMessageCombatBeginResponse serverId combatId complete = some t) : SameActors s t := by
  rw [onMessageCombatBeginResponse] at h
  split at h
  · cases h
    exact .refl s
  · split at h
    · cases h
    · rename_i c _
      split at h
      · cases h
        exact .refl s
      · split at h
        · exact sameActors_told h
        · cases h
          exact (sameActors_sendBegun s c c.al).trans (sameActors_sendBegun _ c c.ar)

theorem settlementSync_sameActors {serverId combatId : Int}
    (h : s.onMessageCombatSettlementSync serverId combatId = some t) : SameActors s t := by
  rw [onMessageCombatSettlementSync] at h
  split at h
  · cases h
    exact .refl s
  · dsimp only at h
    split at h
    · cases h
    · have hremoved : SameActors s (s.removeCombat (serverId, combatId)) :=
        sameActors_same rfl rfl rfl rfl
      exact hremoved.trans (sameActors_told h)

/-- The other steps leave the actors as they are. -/
theorem Online.sameActors (h : s.Online) {a : Action} (hstep : s.step a = some t) :
    SameActors s t ∨ (∃ sockfd, a = .connected sockfd ∨ a = .close sockfd) ∨
      ∃ sockfd name allocated session, a = .loginRequest sockfd name allocated session := by
  cases a with
  | connected sockfd => exact .inr (.inl ⟨sockfd, .inl rfl⟩)
  | loginRequest sockfd name allocated session => exact .inr (.inr ⟨_, _, _, _, rfl⟩)
  | combatRequest sockfd parsed allocated session => exact .inl (h.combatRequest hstep)
  | close sockfd => exact .inr (.inl ⟨sockfd, .inr rfl⟩)
  | deployResponse serverId hostId complete combatId =>
    exact .inl (deployResponse_sameActors hstep)
  | connectArgentResponse serverId combatId complete =>
    exact .inl (connectResponse_sameActors hstep)
  | beginResponse serverId combatId complete => exact .inl (beginResponse_sameActors hstep)
  | settlementSync serverId combatId => exact .inl (settlementSync_sameActors hstep)

theorem Online.step (h : s.Online) {a : Action} (hstep : s.step a = some t) : t.Online := by
  rcases h.sameActors hstep with hsame | ⟨sockfd, rfl | rfl⟩ | ⟨sockfd, name, allocated, session, rfl⟩
  · exact h.users hsame.toUsers
  · cases hstep
    exact h.connected sockfd
  · cases hstep
    exact h.close sockfd
  · exact h.login hstep

/-- A connection through which an actor is logged in is the only one through which it is, and who
waits for a combat is logged in. -/
theorem logged_in_once (maps : Int → Option MapConf) (warriorConfs : List WarriorDescription)
    (s : Gateway) (h : Reaches step (fun _ _ => True) (start maps warriorConfs) s) :
    (∀ sockfd name, s.actors sockfd = some (some name) ↔ s.online name = some sockfd) ∧
      ∀ name ∈ s.pendingCombatActors, ∃ sockfd, s.actors sockfd = some (some name) := by
  have honline : s.Online :=
    h.invariant (start_online maps warriorConfs) fun _ _ _ hs _ hstep => hs.step hstep
  refine ⟨honline.seated, fun name hname => ?_⟩
  obtain ⟨sockfd, hsockfd⟩ := Option.isSome_iff_exists.mp (honline.waiting name hname)
  exact ⟨sockfd, (honline.seated sockfd name).mpr hsockfd⟩

theorem logged_in_once_requested : requested.online "a" = some 7 ∧
    ∃ sockfd, requested.actors sockfd = some (some "a") := by
  have hreached : Reaches step (fun _ _ => True) (start plainMap []) requested :=
    reaches_of_run (l := logins ++ [.combatRequest 7 true none true]) rfl
  obtain ⟨hseated, hwaiting⟩ := logged_in_once plainMap [] requested hreached
  exact ⟨(hseated 7 "a").mp rfl, hwaiting "a" (by decide)⟩

end Gateway

end Mysya
