import Mysya.ArgentIds
import Mysya.LinkTracking

/-!
# No pointer to a combat that is gone

The gateway follows its pointers to combats without a check. With the combat server at the other
end, which deploys each combat once and answers each request once, they all lead to combats that are
there.
-/

namespace Mysya

open GuardedRuns Channels

namespace Gateway

variable {s t : Gateway} {name left right : String} {p : Nat}

theorem argent_of_online (h : (s.online name).isSome) : (s.combatActors name).isSome := by
  rw [online] at h
  cases hactor : s.combatActors name with
  | none =>
    rw [hactor] at h
    cases h
  | some _ => rfl

/-! ## Users -/

theorem login_isSome (h : s.Pointed) (sockfd : Int) (name : Option String)
    (allocated session : Bool) :
    (s.onMessageLoginRequest sockfd name allocated session).isSome := by
  unfold onMessageLoginRequest
  split
  · rfl
  · rename_i name _
    split
    · rfl
    · obtain ⟨u, hu⟩ : ∃ u, u = if (s.combatActors name).isNone then s.allocateActor name else s :=
        ⟨_, rfl⟩
      have hsame : u.memory = s.memory ∧ u.fights = s.fights ∧ (u.combatActors name).isSome := by
        rw [hu]
        split
        · rename_i hnone
          refine ⟨rfl, (Same.allocateActor (Option.isNone_iff_eq_none.mp hnone)).fights, ?_⟩
          show (Function.update s.combatActors name _ name).isSome
          rw [Function.update_self]
          rfl
        · rename_i hsome
          refine ⟨rfl, rfl, ?_⟩
          cases hactor : s.combatActors name with
          | none =>
            rw [hactor] at hsome
            exact absurd rfl hsome
          | some _ => rfl
      dsimp only
      rw [← hu]
      obtain ⟨hmemory, hfights, hactor⟩ := hsame
      obtain ⟨actor, hactor⟩ := Option.isSome_iff_exists.mp hactor
      rw [hactor]
      dsimp only
      split
      · rfl
      · split
        · rfl
        · rename_i p hp
          have hlinked : s.fights name = some p := by
            rw [← hfights, fights, hactor]
            exact hp
          obtain ⟨c, hc, _⟩ := h.linked name p hlinked
          have hlive : u.memory p = some c := by rw [hmemory, hc]
          split
          · rename_i hgone
            have hgone : u.memory p = none := hgone
            rw [hlive] at hgone
            cases hgone
          · split
            · rfl
            · rfl
  · rfl

theorem deploy_isSome {conf : MapConf} {mapId : Int} {session : Bool}
    (hleft : (s.combatActors left).isSome) (hright : (s.combatActors right).isSome) (p : Nat) :
    (s.deploy conf mapId left right p session).isSome := by
  obtain ⟨mid, hmid⟩ : ∃ mid : Gateway, mid = (((((s.allocate p).modifyCombat p
    fun c => { c with mapId := mapId }).setLeft p left).setRight p right).modifyCombat p
      fun c => { c with maxTime := combatMaxTime }) := ⟨_, rfl⟩
  have hactors : mid.combatActors =
      ((s.setCombat left (some p)).setCombat right (some p)).combatActors := by
    rw [hmid]
    simp only [allocate, addPendiong, setLeft, setRight, setCombat, modifyActor, modifyCombat]
    split
    · rfl
    · rfl
  have hsome : ∀ name, (mid.combatActors name).isSome = (s.combatActors name).isSome := by
    intro name
    rw [hactors]
    exact (combatActors_modifyActor_isSome _ right name _).trans
      (combatActors_modifyActor_isSome s left name _)
  rw [← hsome] at hleft hright
  obtain ⟨al, hal⟩ := Option.isSome_iff_exists.mp hleft
  obtain ⟨ar, har⟩ := Option.isSome_iff_exists.mp hright
  simp only [deploy, ← hmid, hal, har]
  split
  · rfl
  · rfl

theorem combatRequest_isSome (h : s.Online) {sockfd : Int} {parsed session : Bool}
    {allocated : Option Nat} (hfree : ∀ p, allocated = some p → s.memory p = none) :
    (s.onMessageCombatRequest sockfd parsed allocated session).isSome := by
  rw [onMessageCombatRequest]
  split
  · rfl
  · rfl
  · rename_i name hactor
    have hname := argent_of_online (Option.isSome_of_eq_some ((h.seated sockfd name).mp hactor))
    split
    · rfl
    · have hpush : (s.pushCombat name 3 allocated session).isSome := by
        rw [pushCombat]
        split
        · rfl
        · split
          · rfl
          · rename_i right waiting hlist
            have hright := argent_of_online (h.waiting right (by
              rw [hlist]
              exact List.mem_cons_self ..))
            dsimp only
            split
            · rfl
            · rename_i p
              rw [hfree p rfl]
              exact deploy_isSome (s := { s with pendingCombatActors := waiting }) hname hright p
      obtain ⟨r, hr⟩ := Option.isSome_iff_exists.mp hpush
      rw [hr]
      obtain ⟨u, ok⟩ := r
      cases ok with
      | true => rfl
      | false => rfl

theorem user_isSome (honline : s.Online) (hpointed : s.Pointed) {a : Action}
    (ha : s.FromUser a) : (s.step a).isSome := by
  cases a with
  | connected sockfd => rfl
  | loginRequest sockfd name allocated session => exact login_isSome hpointed _ _ _ _
  | combatRequest sockfd parsed allocated session =>
    exact combatRequest_isSome honline ha.2
  | close sockfd => rfl
  | deployResponse serverId hostId complete combatId => cases ha
  | connectArgentResponse serverId combatId complete => cases ha
  | beginResponse serverId combatId complete => cases ha
  | settlementSync serverId combatId => cases ha

/-! ## Messages of the combat server -/

theorem told_isSome {c : Combat} {a b : Option String} {message : Int → GatewaySent}
    (hc : s.memory p = some c) :
    (((s.sendActor a message).sendActor b message).deallocate p).isSome := by
  have hmemory : ((s.sendActor a message).sendActor b message).memory p = some c := by
    rw [sendActor_memory, sendActor_memory, hc]
  rw [deallocate, hmemory]
  rfl

theorem receive_isSome (hfiled : s.Filed) (message : CombatMessage) :
    (s.receive message).isSome := by
  cases message with
  | deployResponse hostId result combatId =>
    rw [receive, onMessageCombatDeployResponse]
    split
    · rfl
    · rename_i p hp
      obtain ⟨c, hc, _⟩ := hfiled.pending hostId p hp
      rw [hc]
      dsimp only
      split
      · split
        · exact told_isSome hc
        · rfl
      · rfl
  | connectArgentResponse complete r combatId =>
    rw [receive, onMessageCombatConnectArgentResponse]
    split
    · rfl
    · rename_i p hp
      obtain ⟨_, c, hc, _⟩ := hfiled.active _ p hp
      rw [hc]
      dsimp only
      split
      · rfl
      · split
        · exact told_isSome hc
        · split
          · rfl
          · rfl
  | reconnectResponse r combatId =>
    rw [receive, Option.isSome_map, onMessageCombatReconnectResponse]
    split
    · rfl
    · rename_i p hp
      obtain ⟨_, c, hc, _⟩ := hfiled.active _ p hp
      rw [hc]
      dsimp only
      split
      · rfl
      · rfl
  | beginResponse success combatId =>
    rw [receive, onMessageCombatBeginResponse]
    split
    · rfl
    · rename_i p hp
      obtain ⟨_, c, hc, _⟩ := hfiled.active _ p hp
      rw [hc]
      dsimp only
      split
      · rfl
      · split
        · exact told_isSome hc
        · rfl
  | settlementSync combatId roles =>
    rw [receive, onMessageCombatSettlementSync]
    split
    · rfl
    · rename_i p hp
      obtain ⟨_, c, hc, _⟩ := hfiled.active _ p hp
      dsimp only
      have hlive : (s.removeCombat (1, combatId)).memory p = some c := hc
      rw [hlive]
      exact told_isSome hlive

/-- A message is taken as in a step, or changes nothing. -/
theorem receive_step {message : CombatMessage} (h : s.receive message = some t) :
    (∃ a, s.HasIds a ∧ s.step a = some t) ∨ t = s := by
  cases message with
  | deployResponse hostId result combatId =>
    exact .inl ⟨.deployResponse 1 hostId (result = .complete) (combatId.getD 0), trivial, h⟩
  | connectArgentResponse complete r combatId =>
    exact .inl ⟨.connectArgentResponse 1 combatId complete, trivial, h⟩
  | reconnectResponse r combatId =>
    obtain ⟨_, _, rfl⟩ := Option.map_eq_some_iff.mp h
    exact .inr rfl
  | beginResponse success combatId => exact .inl ⟨.beginResponse 1 combatId success, trivial, h⟩
  | settlementSync combatId roles => exact .inl ⟨.settlementSync 1 combatId, trivial, h⟩

end Gateway

namespace Link

variable {s t : Link} {maps : Int → Option MapConf} {warriorConfs : List WarriorDescription}
  {configs : Server.Configs} {memory : Server.Memory}

/-- What every step of the gateway keeps, it keeps in the runs of both. -/
theorem gateway_invariant {I : Gateway → Prop} (hstart : I (.start maps warriorConfs))
    (hsteps : ∀ g g' a, I g → g.step a = some g' → I g')
    (h : Reaches step Usual (start maps warriorConfs configs memory) s) : I s.gateway := by
  refine h.invariant (I := fun s => I s.gateway) hstart fun s a t hs husual hstep => ?_
  cases a with
  | gateway a =>
    obtain ⟨g, hg, rfl⟩ := Option.map_eq_some_iff.mp hstep
    exact hsteps _ _ a hs hg
  | server a =>
    cases hstep
    exact hs
  | request =>
    rw [Link.step] at hstep
    split at hstep
    · cases hstep
      exact hs
    · cases hstep
      exact hs
  | response =>
    rw [Link.step] at hstep
    split at hstep
    · cases hstep
      exact hs
    · obtain ⟨g, hg, rfl⟩ := Option.map_eq_some_iff.mp hstep
      rcases Gateway.receive_step hg with ⟨a, _, ha⟩ | rfl
      · exact hsteps _ _ a hs ha
      · exact hs

theorem online (h : Reaches step Usual (start maps warriorConfs configs memory) s) :
    s.gateway.Online :=
  gateway_invariant (Gateway.start_online maps warriorConfs) (fun _ _ _ hg => hg.step) h

theorem pointed (h : Reaches step Usual (start maps warriorConfs configs memory) s) :
    s.gateway.Pointed :=
  gateway_invariant ⟨fun _ _ hfights => (by cases hfights), fun _ _ hc => (by cases hc)⟩
    (fun _ _ _ hg => hg.step) h

theorem step_isSome (h : Reaches step Usual (start maps warriorConfs configs memory) s)
    {a : Link.Action} (husual : s.Usual a) : (s.step a).isSome := by
  cases a with
  | gateway a =>
    rw [Link.step, Option.isSome_map]
    exact Gateway.user_isSome (online h) (pointed h) husual
  | server a => rfl
  | request =>
    rw [Link.step]
    split
    · rfl
    · rfl
  | response =>
    rw [Link.step]
    split
    · rfl
    · rw [Option.isSome_map]
      exact Gateway.receive_isSome (tracked h).filed _

/-! ## Two users who meet -/

def roomConfigs : Server.Configs := ⟨1, 1, 2, 2, 1, 1, 1, 1, fun _ => none, 100⟩

def roomMemory : Server.Memory := ⟨[some 0], [some 0, some 1], [], [], [], [], [], [], []⟩

def room : Link := start Gateway.plainMap [] roomConfigs roomMemory

/-- Two users are matched, and all is done for their combat but that it begins. -/
def meeting : List Link.Action := Gateway.pairing.map .gateway ++
  [.request, .response, .request, .request, .response, .response]

def met : Link := (run step meeting room).getD room

theorem run_meeting : run step meeting room = some met := by
  have hsome : (run step meeting room).isSome := by decide
  obtain ⟨s, hs⟩ := Option.isSome_iff_exists.mp hsome
  rw [met, hs]
  rfl

theorem met_reached : Reaches step Usual room met :=
  Reaches.refl.run (l := meeting) (by decide) run_meeting

/-- Whatever comes next, the gateway follows no pointer to a combat that is gone: its tables and
actors lead to combats that are there, and each combat is in the table of its state. -/
theorem pointers_live (maps : Int → Option MapConf) (warriorConfs : List WarriorDescription)
    (configs : Server.Configs) (memory : Server.Memory) (s : Link)
    (h : Reaches step Usual (start maps warriorConfs configs memory) s) :
    (∀ a, s.Usual a → (s.step a).isSome) ∧
      (∀ hostId p, s.gateway.pendingCombats hostId = some p ↔
        ∃ x, s.gateway.memory p = some x ∧ x.id = hostId) ∧
      (∀ key p, s.gateway.combats key = some p ↔
        ∃ x, s.gateway.memory p = some x ∧ x.argentKey = key ∧ x.combatServerId ≠ 0) ∧
      ∀ name p, s.gateway.fights name = some p → ∃ x, s.gateway.memory p = some x ∧ x.Has name := by
  have hfiled := (tracked h).filed
  refine ⟨fun a husual => step_isSome h husual, fun hostId p => ⟨hfiled.pending hostId p, ?_⟩,
    fun key p => ⟨fun hp => ?_, ?_⟩, (pointed h).linked⟩
  · rintro ⟨x, hx, rfl⟩
    exact (hfiled.live p x hx).1
  · obtain ⟨hserver, x, hx, rfl⟩ := hfiled.active key p hp
    refine ⟨x, hx, rfl, fun hzero => ?_⟩
    rw [show x.argentKey.1 = x.combatServerId from rfl, hzero] at hserver
    cases hserver
  · rintro ⟨x, hx, rfl, hdeployed⟩
    exact (hfiled.deployed p x hx).resolve_right fun hnew => hdeployed hnew.1

theorem pointers_live_met : (met.step .request).isSome ∧
    ∃ x, met.gateway.memory 0 = some x ∧ x.argentKey = (1, 0) := by
  obtain ⟨hdefined, _, hcombats, _⟩ :=
    pointers_live Gateway.plainMap [] roomConfigs roomMemory met met_reached
  have hp : met.gateway.combats (1, 0) = some 0 := by decide
  obtain ⟨x, hx, hkey, _⟩ := (hcombats (1, 0) 0).mp hp
  exact ⟨hdefined .request trivial, x, hx, hkey⟩

/-- Each combat is begun at most once. -/
theorem begun_nodup (maps : Int → Option MapConf) (warriorConfs : List WarriorDescription)
    (configs : Server.Configs) (memory : Server.Memory) (s : Link)
    (h : Reaches step Usual (start maps warriorConfs configs memory) s) : s.begun.Nodup := by
  refine List.nodup_iff_count_le_one.mpr fun c => ?_
  have hle := (tracked h).begun c
  rw [beginning, List.count_append] at hle
  omega

theorem begun_nodup_met : ∃ s, met.step .request = some s ∧ s.begun = [0] ∧ s.begun.Nodup := by
  obtain ⟨s, hs⟩ := Option.isSome_iff_exists.mp (step_isSome met_reached (a := .request) trivial)
  have hbegun : (met.step .request).map Link.begun = some [0] := by decide
  rw [hs] at hbegun
  exact ⟨s, hs, Option.some.inj hbegun, begun_nodup Gateway.plainMap [] roomConfigs roomMemory s
    (.snoc .request met_reached trivial hs)⟩

/-! ## Messages run out -/

end Link

/-- How many messages may follow upon the request, itself included. -/
def Server.Request.weight : Server.Request → Nat
  | .deploy _ _ => 10
  | .connectArgent _ _ => 4
  | .reconnect _ _ => 2
  | .begin _ => 2

def CombatMessage.weight : CombatMessage → Nat
  | .deployResponse _ _ _ => 9
  | .connectArgentResponse _ _ _ => 3
  | .reconnectResponse _ _ => 1
  | .beginResponse _ _ => 1
  | .settlementSync _ _ => 1

namespace Gateway

variable {s t : Gateway} {message : CombatMessage}

/-- Only a login asks something without a change. -/
theorem Idle.nil {a : Action} {l : List Server.Request} (h : Idle a l)
    (hlogin : ∀ sockfd name allocated session, a ≠ .loginRequest sockfd name allocated session) :
    l = [] := by
  rcases h with hnil | ⟨⟨sockfd, name, allocated, session, heq⟩, _⟩
  · exact hnil
  · exact absurd heq (hlogin sockfd name allocated session)

/-- What a message makes the gateway ask weighs less. -/
theorem receive_weight (hsided : s.Sided) (h : s.receive message = some t) :
    ((s.asked t).map Server.Request.weight).sum < message.weight := by
  cases message with
  | deployResponse hostId result combatId =>
    obtain ⟨l, hturn⟩ := turn (a := .deployResponse 1 hostId (result = .complete) (combatId.getD 0))
      hsided h
    rw [hturn.asks.asked]
    generalize hcomplete : decide (result = .complete) = complete at hturn
    cases hturn with
    | still _ _ hidle =>
      obtain rfl := hidle.nil fun _ _ _ _ heq => (by cases heq)
      exact Nat.succ_pos 8
    | closes _ _ => exact Nat.succ_pos 8
    | enters henters =>
      obtain ⟨_, _, _, _, _, _, _, _, rfl⟩ := henters.sides
      exact Nat.lt_succ_self 8
  | connectArgentResponse complete r combatId =>
    obtain ⟨l, hturn⟩ := turn (a := .connectArgentResponse 1 combatId complete) hsided h
    rw [hturn.asks.asked]
    cases hturn with
    | still _ _ hidle =>
      obtain rfl := hidle.nil fun _ _ _ _ heq => (by cases heq)
      exact Nat.succ_pos 2
    | closes _ _ => exact Nat.succ_pos 2
    | counts hcounts =>
      rw [hcounts.begins]
      split
      · exact Nat.lt_succ_self 2
      · exact Nat.succ_pos 2
  | reconnectResponse r combatId =>
    obtain ⟨_, _, rfl⟩ := Option.map_eq_some_iff.mp h
    rw [(asks_same (s := s) rfl).asked]
    exact Nat.one_pos
  | beginResponse success combatId =>
    obtain ⟨l, hturn⟩ := turn (a := .beginResponse 1 combatId success) hsided h
    rw [hturn.asks.asked]
    cases hturn with
    | still _ _ hidle =>
      obtain rfl := hidle.nil fun _ _ _ _ heq => (by cases heq)
      exact Nat.one_pos
    | closes _ _ => exact Nat.one_pos
  | settlementSync combatId roles =>
    obtain ⟨l, hturn⟩ := turn (a := .settlementSync 1 combatId) hsided h
    rw [hturn.asks.asked]
    cases hturn with
    | still _ _ hidle =>
      obtain rfl := hidle.nil fun _ _ _ _ heq => (by cases heq)
      exact Nat.one_pos
    | closes _ _ => exact Nat.one_pos

end Gateway

namespace CombatManagers

theorem Answers.weight {session : SessionPtr} {m m' : CombatManagers} {r : Server.Request}
    {l : List CombatMessage} (h : Answers session m r l m') :
    (l.map CombatMessage.weight).sum < r.weight := by
  cases h with
  | refused _ => exact Nat.lt_succ_self 9
  | granted _ _ => exact Nat.lt_succ_self 9
  | connected _ => exact Nat.lt_succ_self 3
  | reconnected _ hl =>
    rcases hl with rfl | rfl
    · exact Nat.two_pos
    · exact Nat.lt_succ_self 1
  | begun _ hl =>
    rcases hl with rfl | rfl
    · exact Nat.two_pos
    · exact Nat.lt_succ_self 1

end CombatManagers

namespace Link

variable {s t : Link} {maps : Int → Option MapConf} {warriorConfs : List WarriorDescription}
  {configs : Server.Configs} {memory : Server.Memory}

def weight (s : Link) : Nat :=
  (s.requests.map Server.Request.weight).sum + (s.responses.map CombatMessage.weight).sum

/-- One of the parties takes a message. -/
def Delivers (s : Link) : Link.Action → Prop
  | .request => s.requests ≠ []
  | .response => s.responses ≠ []
  | _ => False

theorem Tracked.delivers_weight (h : s.Tracked) {a : Link.Action} (ha : s.Delivers a)
    (hstep : s.step a = some t) : t.weight < s.weight := by
  cases a with
  | gateway a => cases ha
  | server a => cases ha
  | request =>
    rw [Link.step] at hstep
    split at hstep
    · rename_i hnone
      exact absurd hnone ha
    · rename_i r rest hrequests
      cases hstep
      obtain ⟨l, hanswers, hresponses⟩ := served_answers h.tallies.1 r rest
      have hlight := hanswers.weight
      show (rest.map _).sum + ((s.served r rest).responses.map _).sum < s.weight
      rw [hresponses, weight, hrequests, List.map_cons, List.sum_cons, List.map_append,
        List.sum_append]
      omega
  | response =>
    rw [Link.step] at hstep
    split at hstep
    · rename_i hnone
      exact absurd hnone ha
    · rename_i y rest hresponses
      obtain ⟨g, hg, rfl⟩ := Option.map_eq_some_iff.mp hstep
      have hlight := Gateway.receive_weight h.sided hg
      show ((s.requests ++ s.gateway.asked g).map _).sum + (rest.map _).sum < s.weight
      rw [weight, hresponses, List.map_cons, List.sum_cons, List.map_append, List.sum_append]
      omega

theorem usual_of_delivers {a : Link.Action} (h : s.Delivers a) : s.Usual a := by
  cases a with
  | gateway a => cases h
  | server a => cases h
  | request => trivial
  | response => trivial

instance (s : Link) (a : Link.Action) : Decidable (s.Delivers a) := by
  unfold Delivers
  split
  · infer_instance
  · infer_instance
  · infer_instance

/-- While users and combats rest, no more messages are taken than the weight of those under way. -/
theorem Tracked.deliveries_le (h : s.Tracked) {l : List Link.Action}
    (hdelivers : Guarded Link.step Delivers l s) (hrun : run Link.step l s = some t) :
    t.Tracked ∧ l.length + t.weight ≤ s.weight := by
  induction l generalizing s with
  | nil =>
    cases hrun
    exact ⟨h, (Nat.zero_add _).le⟩
  | cons a l ih =>
    obtain ⟨u, hu, hrun⟩ := Option.bind_eq_some_iff.mp hrun
    have hless := h.delivers_weight hdelivers.1 hu
    obtain ⟨ht, hle⟩ := ih (h.step (usual_of_delivers hdelivers.1) hu) (hdelivers.2 u hu) hrun
    rw [List.length_cons]
    exact ⟨ht, by omega⟩

/-- Nothing is under way. -/
def Idle (s : Link) : Prop := s.requests = [] ∧ s.responses = []

/-- Each combat that the gateway has is deployed, its two roles are connected, and it was begun,
once. -/
theorem Tracked.idle_begun (h : s.Tracked) (hidle : s.Idle) {p : Nat} {x : Combat}
    (hx : s.gateway.memory p = some x) :
    ∃ c, s.gateway.combats (1, c) = some p ∧ x.connectedNum = 2 ∧ s.begun.count c = 1 := by
  obtain ⟨hrequests, hresponses⟩ := hidle
  have hhosts : s.hosts = [] := by
    rw [Link.hosts, hrequests, hresponses]
    rfl
  have hconnecting : s.connecting = [] := by
    rw [Link.connecting, hrequests, hresponses]
    rfl
  have hbeginning : s.beginning = s.begun := by
    rw [Link.beginning, hrequests]
    exact List.append_nil _
  have hwaits := h.waits p x hx
  rw [hhosts] at hwaits
  have hdeployed : x.combatServerId ≠ 0 := fun hzero => by
    rw [if_pos hzero] at hwaits
    cases hwaits
  have hp := (h.filed.deployed p x hx).resolve_right fun hnew => hdeployed hnew.1
  have hkey : x.argentKey = (1, x.combatArgentId) :=
    Prod.ext (h.filed.active _ p hp).1 rfl
  rw [hkey] at hp
  obtain ⟨hnum, hbegins⟩ := h.connected _ p x hp hx
  rw [hconnecting, List.count_nil] at hnum
  rw [hbeginning, if_pos (by omega)] at hbegins
  exact ⟨x.combatArgentId, hp, by omega, hbegins⟩

theorem reaches_of_delivers (h : Reaches step Usual (start maps warriorConfs configs memory) s)
    {l : List Link.Action} (hdelivers : Guarded step Delivers l s) (hrun : run step l s = some t) :
    Reaches step Usual (start maps warriorConfs configs memory) t := by
  refine h.run ?_ hrun
  clear h hrun
  induction l generalizing s with
  | nil => trivial
  | cons a l ih =>
    exact ⟨usual_of_delivers hdelivers.1, fun u hu => ih (hdelivers.2 u hu)⟩

/-- While users and combats rest, the messages come to an end in whatever order they are taken, and
then each combat of the gateway has its two roles connected and was begun, once. -/
theorem deliveries_end (maps : Int → Option MapConf) (warriorConfs : List WarriorDescription)
    (configs : Server.Configs) (memory : Server.Memory) (s t : Link)
    (h : Reaches step Usual (start maps warriorConfs configs memory) s) (l : List Link.Action)
    (hdelivers : Guarded step Delivers l s) (hrun : run step l s = some t) :
    l.length + t.weight ≤ s.weight ∧
      (¬ t.Idle → ∃ a u, t.Delivers a ∧ t.step a = some u) ∧
      (t.Idle → ∀ p x, t.gateway.memory p = some x →
        ∃ c, t.gateway.combats (1, c) = some p ∧ x.connectedNum = 2 ∧ t.begun.count c = 1) := by
  obtain ⟨htracked, hle⟩ := (tracked h).deliveries_le hdelivers hrun
  have hreaches := reaches_of_delivers h hdelivers hrun
  refine ⟨hle, fun hbusy => ?_, fun hidle p x hx => htracked.idle_begun hidle hx⟩
  have hsome : ∃ a, t.Delivers a := by
    by_cases hrequests : t.requests = []
    · exact ⟨.response, fun hresponses => hbusy ⟨hrequests, hresponses⟩⟩
    · exact ⟨.request, hrequests⟩
  obtain ⟨a, ha⟩ := hsome
  obtain ⟨u, hu⟩ := Option.isSome_iff_exists.mp (step_isSome hreaches (usual_of_delivers ha))
  exact ⟨a, u, ha, hu⟩

theorem deliveries_end_met : ∃ t, run step [.request, .response] met = some t ∧ t.Idle ∧
    ∃ c, t.gateway.combats (1, c) = some 0 ∧ t.begun.count c = 1 := by
  have hsome : (run step [.request, .response] met).isSome := by decide
  obtain ⟨t, ht⟩ := Option.isSome_iff_exists.mp hsome
  have hidle : (run step [.request, .response] met).map
      (fun s => (s.requests.length, s.responses.length)) = some (0, 0) := by decide
  have hlive : (run step [.request, .response] met).map
      (fun s => (s.gateway.memory 0).isSome) = some true := by decide
  rw [ht] at hidle hlive
  obtain ⟨hrequests, hresponses⟩ := Prod.mk.inj (Option.some.inj hidle)
  have hempty : t.Idle :=
    ⟨List.length_eq_zero_iff.mp hrequests, List.length_eq_zero_iff.mp hresponses⟩
  obtain ⟨x, hx⟩ := Option.isSome_iff_exists.mp (Option.some.inj hlive)
  obtain ⟨_, _, hall⟩ := deliveries_end Gateway.plainMap [] roomConfigs roomMemory met t met_reached
    [.request, .response] (by decide) ht
  obtain ⟨c, hc, _, hbegun⟩ := hall hempty 0 x hx
  exact ⟨t, ht, hempty, c, hc, hbegun⟩

end Link

end Mysya
