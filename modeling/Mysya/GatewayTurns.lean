import Mysya.OnlineActors
import Mysya.RefusedMatches
import Mysya.ServerReports

/-!
# What the gateway asks of the combat server

A step of the gateway leaves the combats as they are, opens one, deletes one, enters one that was
deployed in the table, or counts a connected role. With each of these goes what it asks of the
combat server 1: to deploy the new combat, to connect the two roles of a deployed one, or to begin
when both are connected.
-/

namespace Mysya

/-- The request that goes to the combat server 1. -/
def GatewaySent.request : GatewaySent → Option Server.Request
  | .deployRequest hostId data => some (.deploy hostId data)
  | .connectArgentRequest serverId combatId r =>
    if serverId = 1 then some (.connectArgent r combatId) else none
  | .beginRequest serverId combatId => if serverId = 1 then some (.begin combatId) else none
  | .reconnectRequest serverId combatId r =>
    if serverId = 1 then some (.reconnect r combatId) else none
  | _ => none

namespace Gateway

variable {s t u : Gateway} {name left right : String} {p : Nat} {l l' : List Server.Request}

/-- What was sent since `s`, the first first. -/
def asked (s t : Gateway) : List Server.Request :=
  (t.sent.take (t.sent.length - s.sent.length)).reverse.filterMap GatewaySent.request

/-- `l` is what was asked of the combat server between the two states. -/
def Asks (s t : Gateway) (l : List Server.Request) : Prop :=
  ∃ sent, t.sent = sent ++ s.sent ∧ sent.reverse.filterMap GatewaySent.request = l

theorem Asks.asked (h : Asks s t l) : s.asked t = l := by
  obtain ⟨sent, hsent, hrequests⟩ := h
  rw [Gateway.asked, hsent, List.length_append, Nat.add_sub_cancel,
    List.take_left, hrequests]

theorem asks_same (h : t.sent = s.sent) : Asks s t [] := ⟨[], h, rfl⟩

theorem Asks.trans (h : Asks s t l) (h' : Asks t u l') : Asks s u (l ++ l') := by
  obtain ⟨sent, hsent, hl⟩ := h
  obtain ⟨sent', hsent', hl'⟩ := h'
  refine ⟨sent' ++ sent, ?_, ?_⟩
  · rw [hsent', hsent, List.append_assoc]
  · rw [List.reverse_append, List.filterMap_append, hl, hl']

theorem asks_send (s : Gateway) (message : GatewaySent) :
    Asks s (s.send message) message.request.toList := by
  refine ⟨[message], rfl, ?_⟩
  cases h : message.request with
  | none => simp [h]
  | some r => simp [h]

/-! ## Actors keep their argent ids -/

theorem argent_setCombat (s : Gateway) (name : String) (combat : Option Nat) :
    (s.setCombat name combat).argent = s.argent :=
  argent_modifyActor s name (f := fun actor => { actor with combat := combat }) fun _ => rfl

theorem argent_setCampId (s : Gateway) (name : String) (campId : Int) :
    (s.setCampId name campId).argent = s.argent :=
  argent_modifyActor s name (f := fun actor => { actor with campId := campId }) fun _ => rfl

theorem argent_resetCombat (s : Gateway) (name : Option String) :
    (s.resetCombat name).argent = s.argent := by
  cases name with
  | none => rfl
  | some name => exact argent_setCombat s name none

/-- Who is known keeps the argent id. -/
def KeepsIds (s t : Gateway) : Prop := ∀ name x, s.argent name = some x → t.argent name = some x

theorem keepsIds_same (h : t.argent = s.argent) : KeepsIds s t := fun _ _ hx => by rwa [h]

theorem KeepsIds.trans (h : KeepsIds s t) (h' : KeepsIds t u) : KeepsIds s u :=
  fun name x hx => h' name x (h name x hx)

/-! ## Steps that leave the combats as they are -/

/-- The combats and their tables are the same, the actors keep their argent ids, and `l` is
asked. -/
structure Still (s t : Gateway) (l : List Server.Request) : Prop where
  memory : t.memory = s.memory
  pendingCombats : t.pendingCombats = s.pendingCombats
  combats : t.combats = s.combats
  idAllocator : t.idAllocator = s.idAllocator
  argents : KeepsIds s t
  asks : Asks s t l

theorem still_same (hmemory : t.memory = s.memory) (hpending : t.pendingCombats = s.pendingCombats)
    (hcombats : t.combats = s.combats) (hid : t.idAllocator = s.idAllocator)
    (hargent : t.argent = s.argent) (hsent : t.sent = s.sent) : Still s t [] :=
  ⟨hmemory, hpending, hcombats, hid, keepsIds_same hargent, asks_same hsent⟩

theorem Still.refl (s : Gateway) : Still s s [] := still_same rfl rfl rfl rfl rfl rfl

theorem Still.trans (h : Still s t l) (h' : Still t u l') : Still s u (l ++ l') where
  memory := h'.memory.trans h.memory
  pendingCombats := h'.pendingCombats.trans h.pendingCombats
  combats := h'.combats.trans h.combats
  idAllocator := h'.idAllocator.trans h.idAllocator
  argents := h.argents.trans h'.argents
  asks := h.asks.trans h'.asks

theorem still_send (s : Gateway) (message : GatewaySent) :
    Still s (s.send message) message.request.toList :=
  ⟨rfl, rfl, rfl, rfl, fun _ _ hx => hx, asks_send s message⟩

theorem still_tell (s : Gateway) {message : GatewaySent} (h : message.request = none) :
    Still s (s.send message) [] := by
  have hsend := still_send s message
  rwa [h] at hsend

theorem still_sendActor (s : Gateway) (name : Option String) {message : Int → GatewaySent}
    (h : ∀ sockfd, (message sockfd).request = none) : Still s (s.sendActor name message) [] := by
  rw [sendActor]
  split
  · exact .refl s
  · exact still_tell s (h _)

theorem still_modifyActor (s : Gateway) (name : String) {f : CombatActor → CombatActor}
    (hf : ∀ actor, (f actor).combatArgentId = actor.combatArgentId) :
    Still s (s.modifyActor name f) [] :=
  still_same rfl rfl rfl rfl (argent_modifyActor s name hf) rfl

theorem still_sendBegun (s : Gateway) (c : Combat) (name : Option String) :
    Still s (s.sendBegun c name) [] := by
  rw [sendBegun]
  split
  · exact .refl s
  · exact still_sendActor s _ fun _ => rfl

theorem still_allocateActor (h : s.combatActors name = none) :
    Still s (s.allocateActor name) [] where
  memory := rfl
  pendingCombats := rfl
  combats := rfl
  idAllocator := rfl
  argents := fun other x hx => by
    have hne : other ≠ name := by
      rintro rfl
      rw [argent, h] at hx
      cases hx
    show (Function.update s.combatActors name _ other).map _ = _
    rw [Function.update_of_ne hne]
    exact hx
  asks := asks_same rfl

/-- All that is asked is to connect again. -/
def Reconnects (l : List Server.Request) : Prop := ∀ r ∈ l, ∃ id c, r = .reconnect id c

theorem login_still {sockfd : Int} {name : Option String} {allocated session : Bool}
    (hlogin : s.onMessageLoginRequest sockfd name allocated session = some t) :
    ∃ l, Still s t l ∧ Reconnects l := by
  have hnone : ∀ {t}, Still s t [] → ∃ l, Still s t l ∧ Reconnects l :=
    fun h => ⟨[], h, fun _ hr => by cases hr⟩
  unfold onMessageLoginRequest at hlogin
  split at hlogin
  · cases hlogin
    exact hnone (.refl s)
  · rename_i name _
    split at hlogin
    · cases hlogin
      exact hnone (still_tell s rfl)
    · have hfound : Still s (if (s.combatActors name).isNone then s.allocateActor name else s) [] := by
        split
        · rename_i hnone
          exact still_allocateActor (Option.isNone_iff_eq_none.mp hnone)
        · exact .refl s
      dsimp only at hlogin
      generalize (if (s.combatActors name).isNone then s.allocateActor name else s) = u at *
      split at hlogin
      · cases hlogin
      · rename_i actor _
        split at hlogin
        · cases hlogin
          exact hnone (hfound.trans (still_tell u rfl))
        · have honline := still_modifyActor u name
            (f := fun actor => { actor with actor := some sockfd }) fun _ => rfl
          have hbound : Still s (send { u.modifyActor name fun actor =>
              { actor with actor := some sockfd } with
              actors := Function.update u.actors sockfd (some (some name)) }
                (.loginResponse sockfd true)) [] :=
            hfound.trans (honline.trans
              ⟨rfl, rfl, rfl, rfl, fun _ _ hx => hx, ⟨[.loginResponse sockfd true], rfl, rfl⟩⟩)
          split at hlogin
          · cases hlogin
            exact hnone hbound
          · split at hlogin
            · cases hlogin
            · rename_i c _
              split at hlogin
              · cases hlogin
                refine ⟨_, hbound.trans (still_send _ _), fun r hr => ?_⟩
                rw [List.nil_append, GatewaySent.request] at hr
                split at hr
                · exact ⟨_, _, List.mem_singleton.mp hr⟩
                · cases hr
              · cases hlogin
                exact hnone hbound
  · cases hlogin
    exact hnone (still_tell s rfl)

/-! ## New combats -/

/-- A combat for the two actors is at `p`, and is to be deployed if there is a session. -/
structure Opens (left right : String) (p : Nat) (session : Bool) (s t : Gateway)
    (l : List Server.Request) : Prop where
  free : s.memory p = none
  memory : ∃ c, t.memory = Function.update s.memory p (some c) ∧
    c.identity = (s.idAllocator + 1, (0, 0), some left, some right) ∧ c.connectedNum = 0
  pendingCombats : s.pendingCombats (s.idAllocator + 1) = none →
    t.pendingCombats = Function.update s.pendingCombats (s.idAllocator + 1) (some p)
  combats : t.combats = s.combats
  idAllocator : t.idAllocator = s.idAllocator + 1
  argents : KeepsIds s t
  asks : Asks s t l
  sides : ∃ x y data, s.argent left = some x ∧ s.argent right = some y ∧
    data.argentIds = [x, y] ∧ l = if session then [.deploy (s.idAllocator + 1) data] else []

theorem Opens.waiting {session : Bool} {waiting : List String}
    (h : Opens left right p session { s with pendingCombatActors := waiting } t l) :
    Opens left right p session s t l :=
  ⟨h.free, h.memory, h.pendingCombats, h.combats, h.idAllocator, h.argents, h.asks, h.sides⟩

theorem Opens.still {session : Bool} (h : Opens left right p session s t l) (h' : Still t u []) :
    Opens left right p session s u l where
  free := h.free
  memory := by
    rw [h'.memory]
    exact h.memory
  pendingCombats := by
    rw [h'.pendingCombats]
    exact h.pendingCombats
  combats := h'.combats.trans h.combats
  idAllocator := h'.idAllocator.trans h.idAllocator
  argents := h.argents.trans h'.argents
  asks := by
    have hasks := h.asks.trans h'.asks
    rwa [List.append_nil] at hasks
  sides := h.sides

theorem deploy_opens {conf : MapConf} {mapId : Int} {session ok : Bool} (hfree : s.memory p = none)
    (hdeploy : s.deploy conf mapId left right p session = some (t, ok)) :
    ∃ l, Opens left right p session s t l := by
  have hpaired := deploy_paired hfree hdeploy
  -- What is deployed but for the two camp ids.
  obtain ⟨mid, hmid⟩ : ∃ mid : Gateway, mid = (((((s.allocate p).modifyCombat p
    fun c => { c with mapId := mapId }).setLeft p left).setRight p right).modifyCombat p
      fun c => { c with maxTime := combatMaxTime }) := ⟨_, rfl⟩
  have hmemory : mid.memory = Function.update s.memory p (some { Combat.new (s.idAllocator + 1) with
      mapId := mapId, al := some left, ar := some right, maxTime := combatMaxTime }) := by
    rw [hmid]
    simp only [allocate, addPendiong, setLeft, setRight, setCombat, modifyActor, modifyCombat]
    split
    · simp
    · simp
  have hargent : mid.argent = s.argent := by
    have hset : mid.argent = ((s.setCombat left (some p)).setCombat right (some p)).argent := by
      rw [hmid]
      simp only [allocate, addPendiong, setLeft, setRight, setCombat, modifyActor, modifyCombat]
      split
      · rfl
      · rfl
    rw [hset]
    exact (argent_setCombat _ right _).trans (argent_setCombat s left _)
  have hsent : mid.sent = s.sent := by
    rw [hmid]
    simp only [allocate, addPendiong, setLeft, setRight, setCombat, modifyActor, modifyCombat]
    split
    · rfl
    · rfl
  have hid : mid.idAllocator = s.idAllocator + 1 := by
    rw [hmid]
    simp only [allocate, addPendiong, setLeft, setRight, setCombat, modifyActor, modifyCombat]
    split
    · rfl
    · rfl
  have hcamps : ∀ campId campId' : Int,
      KeepsIds s ((mid.setCampId left campId).setCampId right campId') := fun _ _ =>
    keepsIds_same (((argent_setCampId _ right _).trans (argent_setCampId mid left _)).trans hargent)
  have hid₀ : (s.allocate p).idAllocator = s.idAllocator + 1 := by
    rw [allocate, addPendiong]
    split
    · rfl
    · rfl
  simp only [deploy, ← hmid, hid₀] at hdeploy
  split at hdeploy
  · rename_i al ar hal har
    have hleft : s.argent left = some al.combatArgentId := by
      rw [← hargent, argent, hal]
      rfl
    have hright : s.argent right = some ar.combatArgentId := by
      rw [← hargent, argent, har]
      rfl
    generalize hdata : (⟨mapId, combatMaxTime, [campData conf left al 1, campData conf right ar 2]⟩ :
      CombatInitialData) = data at hdeploy
    have hids : data.argentIds = [al.combatArgentId, ar.combatArgentId] := by
      rw [← hdata]
      rfl
    split at hdeploy
    · rename_i hsession
      rw [Option.some.injEq, Prod.mk.injEq] at hdeploy
      obtain ⟨rfl, -⟩ := hdeploy
      refine ⟨[.deploy (s.idAllocator + 1) data], hfree, ⟨_, hmemory, rfl, rfl⟩,
        hpaired.pendingCombats, hpaired.combats, hid, hcamps 1 2,
        ⟨[.deployRequest (s.idAllocator + 1) data], congrArg _ hsent, rfl⟩,
        al.combatArgentId, ar.combatArgentId, data, hleft, hright, hids, ?_⟩
      rw [if_pos hsession]
    · rename_i hsession
      rw [Option.some.injEq, Prod.mk.injEq] at hdeploy
      obtain ⟨rfl, -⟩ := hdeploy
      refine ⟨[], hfree, ⟨_, hmemory, rfl, rfl⟩, hpaired.pendingCombats, hpaired.combats, hid,
        hcamps 1 2, ⟨[], hsent, rfl⟩, al.combatArgentId, ar.combatArgentId, data, hleft, hright,
        hids, ?_⟩
      rw [if_neg hsession]
  · cases hdeploy

/-! ## Combats that are deleted -/

/-- The combat at `p` is deleted, and at most one entry besides its own is erased, which also leads
to it. -/
structure Closes (p : Nat) (c : Combat) (s t : Gateway) : Prop where
  live : s.memory p = some c
  memory : t.memory = Function.update s.memory p none
  pendingCombats : t.pendingCombats = Function.update s.pendingCombats c.id none
  combats : ∃ key, (key = c.argentKey ∨ s.combats key = some p) ∧
    t.combats = Function.update (Function.update s.combats key none) c.argentKey none
  idAllocator : t.idAllocator = s.idAllocator
  argents : KeepsIds s t
  asks : Asks s t []

theorem deallocate_closes (hstep : s.deallocate p = some t) :
    ∃ c, Closes p c s t ∧ t.combats = Function.update s.combats c.argentKey none := by
  obtain ⟨c, hended⟩ := deallocate_ended hstep
  rw [deallocate, hended.live] at hstep
  simp only [Option.some.injEq] at hstep
  subst hstep
  have hreset : ∀ (s : Gateway) name, (s.resetCombat name).combats = s.combats ∧
      (s.resetCombat name).sent = s.sent := by
    intro s name
    cases name with
    | none => exact ⟨rfl, rfl⟩
    | some _ => exact ⟨rfl, rfl⟩
  have hcombats := ((hreset _ c.ar).1).trans (hreset { s with
    pendingCombats := Function.update s.pendingCombats c.id none
    combats := Function.update s.combats c.argentKey none } c.al).1
  refine ⟨c, ⟨hended.live, hended.memory, hended.pendingCombats, ⟨c.argentKey, .inl rfl, ?_⟩,
    hended.idAllocator, ?_, asks_same ?_⟩, hcombats⟩
  · rw [Function.update_idem]
    exact hcombats
  · exact keepsIds_same ((argent_resetCombat _ c.ar).trans (argent_resetCombat _ c.al))
  · exact ((hreset _ c.ar).2).trans (hreset _ c.al).2

/-- Telling the two actors does not matter to a combat that is deleted then. -/
theorem closes_told {a b : Option String} {message : Int → GatewaySent}
    (hmessage : ∀ sockfd, (message sockfd).request = none)
    (hstep : ((s.sendActor a message).sendActor b message).deallocate p = some t) :
    ∃ c, Closes p c s t ∧ t.combats = Function.update s.combats c.argentKey none := by
  have htold := (still_sendActor s a hmessage).trans (still_sendActor (s.sendActor a message) b hmessage)
  obtain ⟨c, hcloses, hcombats⟩ := deallocate_closes hstep
  rw [htold.combats] at hcombats
  refine ⟨c, ⟨?_, ?_, ?_, ⟨c.argentKey, .inl rfl, ?_⟩, ?_, ?_, ?_⟩, hcombats⟩
  · rw [← htold.memory]
    exact hcloses.live
  · rw [hcloses.memory, htold.memory]
  · rw [hcloses.pendingCombats, htold.pendingCombats]
  · rw [hcombats, Function.update_idem]
  · exact hcloses.idAllocator.trans htold.idAllocator
  · exact htold.argents.trans hcloses.argents
  · exact htold.asks.trans hcloses.asks

/-! ## The steps -/

/-- The two sides of each combat are actors. -/
def Sided (s : Gateway) : Prop :=
  ∀ p c, s.memory p = some c → ∃ l r x y, c.al = some l ∧ c.ar = some r ∧
    s.argent l = some x ∧ s.argent r = some y

/-- A message about a combat finds none, or is that of a success. -/
def Misses (s : Gateway) : Action → Prop
  | .deployResponse _ hostId _ _ => s.pendingCombats hostId = none
  | .connectArgentResponse serverId combatId _ => s.combats (serverId, combatId) = none
  | .beginResponse serverId combatId complete =>
    complete = false → s.combats (serverId, combatId) = none
  | .settlementSync serverId combatId => s.combats (serverId, combatId) = none
  | _ => True

/-- The message ends the combat at `p`. -/
def Dooms (s : Gateway) (p : Nat) : Action → Prop
  | .deployResponse _ hostId complete _ => complete = false ∧ s.pendingCombats hostId = some p
  | .connectArgentResponse serverId combatId complete =>
    complete = false ∧ s.combats (serverId, combatId) = some p
  | .beginResponse serverId combatId complete =>
    complete = false ∧ s.combats (serverId, combatId) = some p
  | .settlementSync serverId combatId => s.combats (serverId, combatId) = some p
  | _ => False

/-- The combat at `p` is entered under the key of the response, and its roles are to connect. -/
structure Enters (serverId hostId combatId : Int) (p : Nat) (c : Combat) (s t : Gateway)
    (l : List Server.Request) : Prop where
  found : s.pendingCombats hostId = some p
  live : s.memory p = some c
  memory : t.memory = Function.update s.memory p
    (some { c with combatArgentId := combatId, combatServerId := serverId })
  pendingCombats : t.pendingCombats = s.pendingCombats
  combats : s.combats (serverId, combatId) = none →
    t.combats = Function.update s.combats (serverId, combatId) (some p)
  idAllocator : t.idAllocator = s.idAllocator
  argents : KeepsIds s t
  asks : Asks s t l
  sides : ∃ left right x y, c.al = some left ∧ c.ar = some right ∧ s.argent left = some x ∧
    s.argent right = some y ∧
    l = if serverId = 1 then [.connectArgent x combatId, .connectArgent y combatId] else []

/-- One more role of the combat at `p` is connected, and with the second it is to begin. -/
structure Counts (serverId combatId : Int) (p : Nat) (c : Combat) (s t : Gateway)
    (l : List Server.Request) : Prop where
  found : s.combats (serverId, combatId) = some p
  live : s.memory p = some c
  memory : t.memory = Function.update s.memory p (some { c with connectedNum := c.connectedNum + 1 })
  pendingCombats : t.pendingCombats = s.pendingCombats
  combats : t.combats = s.combats
  idAllocator : t.idAllocator = s.idAllocator
  argents : KeepsIds s t
  asks : Asks s t l
  begins : l = if c.connectedNum + 1 ≥ 2 ∧ serverId = 1 then [.begin combatId] else []

/-- Only who logs in asks for something, to connect again. -/
def Idle (a : Action) (l : List Server.Request) : Prop :=
  l = [] ∨ (∃ sockfd name allocated session, a = .loginRequest sockfd name allocated session) ∧
    Reconnects l

theorem idle_nil {a : Action} : Idle a [] := .inl rfl

theorem Idle.reconnects {a : Action} (h : Idle a l) : Reconnects l := by
  rcases h with rfl | ⟨_, hl⟩
  · exact fun _ hr => by cases hr
  · exact hl

/-- What a step does to the combats, and what it asks of the combat server. -/
inductive Turn (s : Gateway) : Action → List Server.Request → Gateway → Prop
  | still {a : Action} {l : List Server.Request} {t : Gateway} :
      s.Misses a → Still s t l → Idle a l → Turn s a l t
  | opens {sockfd : Int} {session : Bool} {left right : String} {p : Nat}
      {l : List Server.Request} {t : Gateway} : s.actors sockfd = some (some left) →
      right ∈ s.pendingCombatActors → Opens left right p session s t l →
      Turn s (.combatRequest sockfd true (some p) session) l t
  | closes {a : Action} {p : Nat} {c : Combat} {t : Gateway} : s.Dooms p a → Closes p c s t →
      Turn s a [] t
  | enters {serverId hostId combatId : Int} {p : Nat} {c : Combat} {l : List Server.Request}
      {t : Gateway} : Enters serverId hostId combatId p c s t l →
      Turn s (.deployResponse serverId hostId true combatId) l t
  | counts {serverId combatId : Int} {p : Nat} {c : Combat} {l : List Server.Request}
      {t : Gateway} : Counts serverId combatId p c s t l →
      Turn s (.connectArgentResponse serverId combatId true) l t

theorem Turn.asks {a : Action} (h : Turn s a l t) : Asks s t l := by
  cases h with
  | still _ hstill _ => exact hstill.asks
  | opens _ _ hopens => exact hopens.asks
  | closes _ hcloses => exact hcloses.asks
  | enters henters => exact henters.asks
  | counts hcounts => exact hcounts.asks

theorem combatRequest_turn {sockfd : Int} {parsed session : Bool} {allocated : Option Nat}
    (hrequest : s.onMessageCombatRequest sockfd parsed allocated session = some t) :
    ∃ l, Turn s (.combatRequest sockfd parsed allocated session) l t := by
  have hstill : ∀ {t}, Still s t [] →
      ∃ l, Turn s (.combatRequest sockfd parsed allocated session) l t :=
    fun h => ⟨[], .still trivial h idle_nil⟩
  have hwait : ∀ waiting, Still s { s with pendingCombatActors := waiting } [] :=
    fun _ => still_same rfl rfl rfl rfl rfl rfl
  rw [onMessageCombatRequest] at hrequest
  split at hrequest
  · cases hrequest
    exact hstill (.refl s)
  · cases hrequest
    exact hstill (still_tell s rfl)
  · rename_i name hactor
    split at hrequest
    · cases hrequest
      exact hstill (still_tell s rfl)
    · rename_i hparsed
      obtain rfl : parsed = true := by simpa using hparsed
      have hpush : ∃ u ok, s.pushCombat name 3 allocated session = some (u, ok) ∧ Still u t [] := by
        split at hrequest
        · cases hrequest
        · rename_i hpush
          cases hrequest
          exact ⟨_, true, hpush, .refl _⟩
        · rename_i hpush
          cases hrequest
          exact ⟨_, false, hpush, still_tell _ rfl⟩
      obtain ⟨u, ok, hpush, hlast⟩ := hpush
      rw [pushCombat] at hpush
      split at hpush
      · cases hpush
        exact hstill hlast
      · split at hpush
        · cases hpush
          exact hstill ((hwait _).trans hlast)
        · rename_i right waiting hwaiting
          dsimp only at hpush
          split at hpush
          · cases hpush
            exact hstill ((hwait _).trans hlast)
          · rename_i p
            split at hpush
            · cases hpush
            · rename_i hfree
              obtain ⟨l, hopens⟩ :=
                deploy_opens (s := { s with pendingCombatActors := waiting }) hfree hpush
              have hright : right ∈ s.pendingCombatActors := by
                rw [hwaiting]
                exact List.mem_cons_self ..
              exact ⟨l, .opens hactor hright (hopens.waiting.still hlast)⟩

/-- Entering a combat writes in the table only. -/
theorem addCombat_rest (s : Gateway) (key : Int × Int) (p : Nat) :
    (s.addCombat key p).memory = s.memory ∧
      (s.addCombat key p).pendingCombats = s.pendingCombats ∧
      (s.addCombat key p).idAllocator = s.idAllocator ∧
      (s.addCombat key p).combatActors = s.combatActors ∧ (s.addCombat key p).sent = s.sent := by
  rw [addCombat]
  split
  · exact ⟨rfl, rfl, rfl, rfl, rfl⟩
  · exact ⟨rfl, rfl, rfl, rfl, rfl⟩

theorem addCombat_free {key : Int × Int} (h : s.combats key = none) (p : Nat) :
    (s.addCombat key p).combats = Function.update s.combats key (some p) := by
  rw [addCombat, h]
  rfl

/-- The combat at `p` is known under the key of the response, and its actors are to connect. -/
theorem enters_of_success (serverId combatId : Int) {hostId : Int} {c : Combat} {x y : UInt64}
    (hp : s.pendingCombats hostId = some p) (hc : s.memory p = some c) (hleft : c.al = some left)
    (hright : c.ar = some right) (hx : s.argent left = some x) (hy : s.argent right = some y) :
    ∃ l, Enters serverId hostId combatId p c s
      (((((s.modifyCombat p fun c =>
        { c with combatArgentId := combatId, combatServerId := serverId }).removePending
          c.id).addCombat (serverId, combatId) p).send
            (.connectArgentRequest serverId combatId x)).send
              (.connectArgentRequest serverId combatId y)) l := by
  obtain ⟨u, hu⟩ : ∃ u : Gateway, u = (s.modifyCombat p fun c =>
    { c with combatArgentId := combatId, combatServerId := serverId }).removePending c.id := ⟨_, rfl⟩
  have hmemory : u.memory = Function.update s.memory p
      (some { c with combatArgentId := combatId, combatServerId := serverId }) := by
    rw [hu]
    show Function.update s.memory p ((s.memory p).map _) = _
    rw [hc]
    rfl
  have hcombats : u.combats = s.combats := by rw [hu]; rfl
  have hpending : u.pendingCombats = s.pendingCombats := by rw [hu]; rfl
  have hid : u.idAllocator = s.idAllocator := by rw [hu]; rfl
  have hactors : u.combatActors = s.combatActors := by rw [hu]; rfl
  have hsent : u.sent = s.sent := by rw [hu]; rfl
  rw [← hu]
  obtain ⟨hmemory', hpending', hid', hactors', hsent'⟩ := addCombat_rest u (serverId, combatId) p
  have hasks := ((asks_same (hsent'.trans hsent)).trans (asks_send (u.addCombat (serverId, combatId) p)
    (.connectArgentRequest serverId combatId x))).trans (asks_send _
      (.connectArgentRequest serverId combatId y))
  refine ⟨_, hp, hc, hmemory'.trans hmemory, hpending'.trans hpending, fun hfree => ?_,
    hid'.trans hid, fun name z hz => ?_, hasks, left, right, x, y, hleft, hright, hx, hy, ?_⟩
  · rw [← hcombats] at hfree ⊢
    exact addCombat_free hfree p
  · show ((u.addCombat (serverId, combatId) p).combatActors name).map _ = _
    rw [hactors', hactors]
    exact hz
  · rw [GatewaySent.request, GatewaySent.request]
    split
    · rfl
    · rfl

theorem deployResponse_turn (hsided : s.Sided) {serverId hostId combatId : Int} {complete : Bool}
    (hdeploy : s.onMessageCombatDeployResponse serverId hostId complete combatId = some t) :
    ∃ l, Turn s (.deployResponse serverId hostId complete combatId) l t := by
  rw [onMessageCombatDeployResponse] at hdeploy
  split at hdeploy
  · rename_i hnone
    cases hdeploy
    exact ⟨[], .still hnone (.refl s) idle_nil⟩
  · rename_i p hp
    split at hdeploy
    · cases hdeploy
    · rename_i c hc
      obtain ⟨left, right, x, y, hleft, hright, hx, hy⟩ := hsided p c hc
      obtain ⟨al, hal, hx'⟩ := Option.map_eq_some_iff.mp hx
      obtain ⟨ar, har, hy'⟩ := Option.map_eq_some_iff.mp hy
      rw [hleft, hright, Option.bind_some, Option.bind_some, hal, har] at hdeploy
      dsimp only at hdeploy
      split at hdeploy
      · rename_i hfailed
        obtain ⟨c', hcloses, _⟩ := closes_told (fun _ => rfl) hdeploy
        exact ⟨[], .closes ⟨hfailed, hp⟩ hcloses⟩
      · rename_i hcomplete
        obtain rfl : complete = true := by simpa using hcomplete
        obtain ⟨l, henters⟩ := enters_of_success serverId combatId hp hc hleft hright hx hy
        rw [Option.some.injEq, hx', hy'] at hdeploy
        rw [← hdeploy]
        exact ⟨l, .enters henters⟩

theorem connectResponse_turn (hsided : s.Sided) {serverId combatId : Int} {complete : Bool}
    (hconnect : s.onMessageCombatConnectArgentResponse serverId combatId complete = some t) :
    ∃ l, Turn s (.connectArgentResponse serverId combatId complete) l t := by
  rw [onMessageCombatConnectArgentResponse] at hconnect
  split at hconnect
  · rename_i hnone
    cases hconnect
    exact ⟨[], .still hnone (.refl s) idle_nil⟩
  · rename_i p hp
    split at hconnect
    · cases hconnect
    · rename_i c hc
      obtain ⟨left, right, _, _, hleft, hright, _, _⟩ := hsided p c hc
      have hsides : ¬ (c.al.isNone || c.ar.isNone) = true := by
        rw [hleft, hright]
        exact Bool.false_ne_true
      rw [if_neg hsides] at hconnect
      split at hconnect
      · rename_i hfailed
        obtain ⟨c', hcloses, _⟩ := closes_told (fun _ => rfl) hconnect
        exact ⟨[], .closes ⟨hfailed, hp⟩ hcloses⟩
      · rename_i hcomplete
        obtain rfl : complete = true := by simpa using hcomplete
        have hmemory : (s.modifyCombat p fun c =>
            { c with connectedNum := c.connectedNum + 1 }).memory = Function.update s.memory p
              (some { c with connectedNum := c.connectedNum + 1 }) := by
          show Function.update s.memory p ((s.memory p).map _) = _
          rw [hc]
          rfl
        dsimp only at hconnect
        split at hconnect
        · rename_i hboth
          cases hconnect
          refine ⟨_, .counts ⟨hp, hc, hmemory, rfl, rfl, rfl, fun _ _ h => h, asks_send _ _, ?_⟩⟩
          rw [GatewaySent.request]
          split
          · rename_i hserver
            rw [if_pos ⟨hboth, hserver⟩]
            rfl
          · rename_i hserver
            rw [if_neg fun h => hserver h.2]
            rfl
        · rename_i hboth
          cases hconnect
          refine ⟨[], .counts ⟨hp, hc, hmemory, rfl, rfl, rfl, fun _ _ h => h, asks_same rfl, ?_⟩⟩
          rw [if_neg fun h => hboth h.1]

theorem beginResponse_turn (hsided : s.Sided) {serverId combatId : Int} {complete : Bool}
    (hbegin : s.onMessageCombatBeginResponse serverId combatId complete = some t) :
    ∃ l, Turn s (.beginResponse serverId combatId complete) l t := by
  rw [onMessageCombatBeginResponse] at hbegin
  split at hbegin
  · rename_i hnone
    cases hbegin
    exact ⟨[], .still (fun _ => hnone) (.refl s) idle_nil⟩
  · rename_i p hp
    split at hbegin
    · cases hbegin
    · rename_i c hc
      obtain ⟨left, right, _, _, hleft, hright, _, _⟩ := hsided p c hc
      have hsides : ¬ (c.al.isNone || c.ar.isNone) = true := by
        rw [hleft, hright]
        exact Bool.false_ne_true
      rw [if_neg hsides] at hbegin
      split at hbegin
      · rename_i hfailed
        obtain ⟨c', hcloses, _⟩ := closes_told (fun _ => rfl) hbegin
        exact ⟨[], .closes ⟨hfailed, hp⟩ hcloses⟩
      · rename_i hcomplete
        cases hbegin
        refine ⟨[], .still (fun hfailed => absurd hfailed hcomplete) ?_ idle_nil⟩
        exact (still_sendBegun s c c.al).trans (still_sendBegun _ c c.ar)

theorem settlementSync_turn {serverId combatId : Int}
    (hsettle : s.onMessageCombatSettlementSync serverId combatId = some t) :
    ∃ l, Turn s (.settlementSync serverId combatId) l t := by
  rw [onMessageCombatSettlementSync] at hsettle
  split at hsettle
  · rename_i hnone
    cases hsettle
    exact ⟨[], .still hnone (.refl s) idle_nil⟩
  · rename_i p hp
    dsimp only at hsettle
    split at hsettle
    · cases hsettle
    · rename_i c' hc'
      obtain ⟨c, hcloses, hcombats⟩ := closes_told (fun _ => rfl) hsettle
      obtain rfl : c' = c := Option.some.inj (hc'.symm.trans hcloses.live)
      exact ⟨[], .closes hp ⟨hcloses.live, hcloses.memory, hcloses.pendingCombats,
        ⟨(serverId, combatId), .inr hp, hcombats⟩, hcloses.idAllocator, hcloses.argents,
        hcloses.asks⟩⟩

theorem turn (hsided : s.Sided) {a : Action} (hstep : s.step a = some t) : ∃ l, Turn s a l t := by
  cases a with
  | connected sockfd =>
    cases hstep
    refine ⟨[], .still trivial ?_ idle_nil⟩
    rw [onConnected]
    split
    · exact .refl s
    · exact still_same rfl rfl rfl rfl rfl rfl
  | loginRequest sockfd name allocated session =>
    obtain ⟨l, hstill, hl⟩ := login_still hstep
    exact ⟨l, .still trivial hstill (.inr ⟨⟨_, _, _, _, rfl⟩, hl⟩)⟩
  | combatRequest sockfd parsed allocated session => exact combatRequest_turn hstep
  | close sockfd =>
    cases hstep
    refine ⟨[], .still trivial ?_ idle_nil⟩
    rw [onClose]
    split
    · exact .refl s
    · dsimp only
      split
      · exact still_same rfl rfl rfl rfl rfl rfl
      · rename_i name _
        have hleft : Still s (removePendingCombatActor
            { s with actors := Function.update s.actors sockfd none } name) [] :=
          still_same rfl rfl rfl rfl rfl rfl
        exact hleft.trans (still_modifyActor _ name
          (f := fun actor => { actor with actor := none }) fun _ => rfl)
  | deployResponse serverId hostId complete combatId => exact deployResponse_turn hsided hstep
  | connectArgentResponse serverId combatId complete => exact connectResponse_turn hsided hstep
  | beginResponse serverId combatId complete => exact beginResponse_turn hsided hstep
  | settlementSync serverId combatId => exact settlementSync_turn hstep

end Gateway

end Mysya
