import Mysya.Channels
import Mysya.GatewayTurns
import Mysya.ServerReports

/-!
# The gateway and its combat server

The gateway and the combat server 1 with the messages that are under way between them. Users log
in, ask for combats and leave, and the combats go on, at any time; each party takes the next
message whenever it comes to it. A combat that the gateway opens is deployed, connected and begun by
requests that follow upon the responses.
-/

namespace Mysya

open GuardedRuns Channels

namespace Server.Request

def hostId : Request → Option Int
  | .deploy hostId _ => some hostId
  | _ => none

/-- The combat to which a role is to be connected. -/
def connects : Request → Option Int
  | .connectArgent _ combatId => some combatId
  | _ => none

def begins : Request → Option Int
  | .begin combatId => some combatId
  | _ => none

end Server.Request

namespace CombatMessage

def hostId : CombatMessage → Option Int
  | .deployResponse hostId _ _ => some hostId
  | _ => none

def connects : CombatMessage → Option Int
  | .connectArgentResponse _ _ combatId => some combatId
  | _ => none

/-- The combat that was deployed. -/
def announces : CombatMessage → Option Int
  | .deployResponse _ .complete combatId => some (combatId.getD 0)
  | _ => none

def settles : CombatMessage → Option Int
  | .settlementSync combatId _ => some combatId
  | _ => none

/-- The combat that the server did not have any more. -/
def ends : CombatMessage → Option Int
  | .connectArgentResponse false _ combatId => some combatId
  | .beginResponse false combatId => some combatId
  | .settlementSync combatId _ => some combatId
  | _ => none

end CombatMessage

/-- `MessageCombatBeginSync` without the status image. -/
structure BeginSync where
  sockfd : Int
  mapId : Int
  maxTime : Int
  hostId : UInt64
  campId : Int
  combatWarriorId : List Int

namespace Gateway

/-- `Combat::GetActorByArgentId`. -/
def getActorByArgentId (s : Gateway) (c : Combat) (roleArgentId : UInt64) : Option CombatActor :=
  ((c.al.bind s.combatActors).filter fun actor => actor.combatArgentId == roleArgentId).or
    ((c.ar.bind s.combatActors).filter fun actor => actor.combatArgentId == roleArgentId)

/-- What `OnMessageCombatReconnectResponse` sends to the user. -/
def onMessageCombatReconnectResponse (s : Gateway) (serverId combatId : Int)
    (roleArgentId : UInt64) : Option (Option BeginSync) :=
  match s.combats (serverId, combatId) with
  | none => some none
  | some p =>
    match s.memory p with
    | none => none
    | some c =>
      match s.getActorByArgentId c roleArgentId with
      | none => some none
      | some actor => some (actor.actor.map fun sockfd =>
          ⟨sockfd, c.mapId, c.maxTime, actor.combatArgentId, actor.campId, actor.warriors.map (·.id)⟩)

/-- A message of the combat server 1 reaches its handler. -/
def receive (s : Gateway) : CombatMessage → Option Gateway
  | .deployResponse hostId result combatId =>
    s.onMessageCombatDeployResponse 1 hostId (result = .complete) (combatId.getD 0)
  | .connectArgentResponse complete _ combatId =>
    s.onMessageCombatConnectArgentResponse 1 combatId complete
  | .reconnectResponse roleArgentId combatId =>
    (s.onMessageCombatReconnectResponse 1 combatId roleArgentId).map fun _ => s
  | .beginResponse success combatId => s.onMessageCombatBeginResponse 1 combatId success
  | .settlementSync combatId _ => s.onMessageCombatSettlementSync 1 combatId

/-- What users do, with a session to the combat server, and a new combat gets memory that is not in
use. -/
def FromUser (s : Gateway) : Action → Prop
  | .connected _ => True
  | .loginRequest _ _ _ _ => True
  | .combatRequest _ _ allocated session => session = true ∧ ∀ p ∈ allocated, s.memory p = none
  | .close _ => True
  | _ => False

instance (s : Gateway) (a : Action) : Decidable (s.FromUser a) := by
  unfold FromUser
  split
  · infer_instance
  · infer_instance
  · infer_instance
  · infer_instance
  · infer_instance

end Gateway

/-- `begun` are the combats of the begin requests that the combat server took. -/
structure Link where
  gateway : Gateway
  server : Server
  requests : List Server.Request
  responses : List CombatMessage
  begun : List Int

namespace Link

/-- The session of the gateway at the combat server. -/
def session : SessionPtr := 0

/-- The gateway and the server are connected, and nothing else happened. -/
def start (maps : Int → Option MapConf) (warriorConfs : List WarriorDescription)
    (configs : Server.Configs) (memory : Server.Memory) : Link where
  gateway := .start maps warriorConfs
  server := (Server.started configs memory).step (.accept session)
  requests := []
  responses := []
  begun := []

/-- The messages to the gateway since `m`. -/
def reported (m m' : CombatManagers) : List CombatMessage :=
  (m'.sent.drop m.sent.length).filterMap fun x => if x.1 = session then some x.2 else none

/-- The gateway goes on to `g`, and what it asked is under way. -/
def asking (s : Link) (g : Gateway) : Link :=
  { s with gateway := g, requests := s.requests ++ s.gateway.asked g }

def serverStep (s : Link) (a : Server.Action) : Link :=
  let server := s.server.step a
  { s with
    server := server
    responses := s.responses ++ reported s.server.managers server.managers }

inductive Action
  | gateway (a : Gateway.Action)
  | server (a : Server.Action)
  | request
  | response

def step (s : Link) : Action → Option Link
  | .gateway a => (s.gateway.step a).map s.asking
  | .server a => some (s.serverStep a)
  | .request =>
    match s.requests with
    | [] => some s
    | r :: rest => some ({ s with
        requests := rest
        begun := s.begun ++ r.begins.toList }.serverStep (r.action session))
  | .response =>
    match s.responses with
    | [] => some s
    | message :: rest =>
      (s.gateway.receive message).map { s with responses := rest }.asking

/-- Besides the messages only users and the combats do something. -/
def Usual (s : Link) : Action → Prop
  | .gateway a => s.gateway.FromUser a
  | .server a => a.Inside
  | _ => True

instance (s : Link) (a : Action) : Decidable (s.Usual a) := by
  unfold Usual
  split
  · infer_instance
  · infer_instance
  · infer_instance

/-! ## What is under way -/

/-- The combats of the gateway that are being deployed. -/
def hosts (s : Link) : List Int :=
  keys Server.Request.hostId CombatMessage.hostId s.requests s.responses

/-- The combats of the server with a role that is being connected. -/
def connecting (s : Link) : List Int :=
  keys Server.Request.connects CombatMessage.connects s.requests s.responses

/-- The combats of the server that the gateway is to learn of. -/
def announced (s : Link) : List Int := s.responses.filterMap CombatMessage.announces

/-- The combats that were or are being begun. -/
def beginning (s : Link) : List Int := s.begun ++ s.requests.filterMap Server.Request.begins

/-- The gateway knows the combat, or a message about it is under way. -/
def Named (s : Link) (c : Int) : Prop :=
  (s.gateway.combats (1, c)).isSome ∨
    0 < s.announced.count c + s.connecting.count c + s.beginning.count c

end Link

/-- The tables of the gateway lead to its combats, to each by its own id, and by its key once it
was deployed. -/
structure Gateway.Filed (g : Gateway) : Prop where
  pending : ∀ h p, g.pendingCombats h = some p → ∃ c, g.memory p = some c ∧ c.id = h
  live : ∀ p c, g.memory p = some c → g.pendingCombats c.id = some p ∧ c.id ≤ g.idAllocator
  active : ∀ key p, g.combats key = some p →
    key.1 = 1 ∧ ∃ c, g.memory p = some c ∧ c.argentKey = key
  deployed : ∀ p c, g.memory p = some c →
    g.combats c.argentKey = some p ∨ c.combatServerId = 0 ∧ c.connectedNum = 0

/-- What is under way fits what the two parties know: each new combat is deployed once, each
deployed one announced once, its two roles are connected once each, and it is begun once, when both
are. -/
structure Link.Tracked (s : Link) : Prop where
  sided : s.gateway.Sided
  filed : s.gateway.Filed
  tallies : s.server.Tallies
  awaited : ∀ h, 0 < s.hosts.count h → ∃ p, s.gateway.pendingCombats h = some p
  waits : ∀ p c, s.gateway.memory p = some c →
    s.hosts.count c.id = if c.combatServerId = 0 then 1 else 0
  named : ∀ c, s.Named c → c < s.server.managers.combatIds
  announced : ∀ c, s.announced.count c ≤ 1
  unheard : ∀ c, 0 < s.announced.count c →
    s.gateway.combats (1, c) = none ∧ s.connecting.count c = 0 ∧ s.beginning.count c = 0
  connected : ∀ c p x, s.gateway.combats (1, c) = some p → s.gateway.memory p = some x →
    x.connectedNum + s.connecting.count c = 2 ∧
      s.beginning.count c = if x.connectedNum = 2 then 1 else 0
  begun : ∀ c, s.beginning.count c ≤ 1

namespace Gateway

variable {s t : Gateway} {p : Nat} {c : Combat} {l : List Server.Request}

theorem start_sided (maps : Int → Option MapConf) (warriorConfs : List WarriorDescription) :
    (start maps warriorConfs).Sided := fun _ _ hc => by cases hc

theorem start_filed (maps : Int → Option MapConf) (warriorConfs : List WarriorDescription) :
    (start maps warriorConfs).Filed :=
  ⟨fun _ _ hp => (by cases hp), fun _ _ hc => (by cases hc), fun _ _ hp => (by cases hp),
    fun _ _ hc => (by cases hc)⟩

/-- A combat was there, or it is new and of two actors. -/
theorem Turn.origin {a : Action} (h : Turn s a l t) {q : Nat} (hc : t.memory q = some c) :
    (∃ c', s.memory q = some c' ∧ c'.id = c.id ∧ c'.al = c.al ∧ c'.ar = c.ar) ∨
      s.memory q = none ∧ c.id = s.idAllocator + 1 ∧ ∃ left right x y, c.al = some left ∧
        c.ar = some right ∧ s.argent left = some x ∧ s.argent right = some y ∧
          ∀ r ∈ l, ∃ data, r = .deploy c.id data ∧ data.argentIds = [x, y] := by
  cases h with
  | still _ hstill _ =>
    rw [hstill.memory] at hc
    exact .inl ⟨c, hc, rfl, rfl, rfl⟩
  | opens _ _ hopens =>
    obtain ⟨c', hmemory, hidentity, _⟩ := hopens.memory
    obtain ⟨x, y, data, hx, hy, hids, hl⟩ := hopens.sides
    rw [hmemory] at hc
    rcases Table.insert_some hc with ⟨rfl, rfl⟩ | ⟨_, hold⟩
    · have hid : c.id = s.idAllocator + 1 := congrArg (fun i => i.1) hidentity
      refine .inr ⟨hopens.free, hid, _, _, x, y, congrArg (fun i => i.2.2.1) hidentity,
        congrArg (fun i => i.2.2.2) hidentity, hx, hy, fun r hr => ⟨data, ?_, hids⟩⟩
      rw [hl] at hr
      split at hr
      · rw [hid]
        exact List.mem_singleton.mp hr
      · cases hr
    · exact .inl ⟨c, hold, rfl, rfl, rfl⟩
  | closes _ hcloses =>
    rw [hcloses.memory] at hc
    exact .inl ⟨c, (Table.erase_some hc).2, rfl, rfl, rfl⟩
  | enters henters =>
    rw [henters.memory] at hc
    rcases Table.insert_some hc with ⟨rfl, rfl⟩ | ⟨_, hold⟩
    · exact .inl ⟨_, henters.live, rfl, rfl, rfl⟩
    · exact .inl ⟨c, hold, rfl, rfl, rfl⟩
  | counts hcounts =>
    rw [hcounts.memory] at hc
    rcases Table.insert_some hc with ⟨rfl, rfl⟩ | ⟨_, hold⟩
    · exact .inl ⟨_, hcounts.live, rfl, rfl, rfl⟩
    · exact .inl ⟨c, hold, rfl, rfl, rfl⟩

theorem Turn.argents {a : Action} (h : Turn s a l t) : KeepsIds s t := by
  cases h with
  | still _ hstill _ => exact hstill.argents
  | opens _ _ hopens => exact hopens.argents
  | closes _ hcloses => exact hcloses.argents
  | enters henters => exact henters.argents
  | counts hcounts => exact hcounts.argents

theorem Sided.turn (h : s.Sided) {a : Action} (hturn : Turn s a l t) : t.Sided := by
  intro q c hc
  rcases hturn.origin hc with ⟨c', hc', _, hal, har⟩ | ⟨_, _, l, r, x, y, hl, hr, hx, hy, _⟩
  · obtain ⟨l, r, x, y, hl, hr, hx, hy⟩ := h q c' hc'
    exact ⟨l, r, x, y, hal ▸ hl, har ▸ hr, hturn.argents l x hx, hturn.argents r y hy⟩
  · exact ⟨l, r, x, y, hl, hr, hturn.argents l x hx, hturn.argents r y hy⟩

/-! ## The tables -/

/-- The combats have different ids. -/
theorem Filed.same (h : s.Filed) {p' : Nat} {c' : Combat} (hc : s.memory p = some c)
    (hc' : s.memory p' = some c') (hid : c'.id = c.id) : p' = p := by
  have hp := (h.live p c hc).1
  rw [← hid, (h.live p' c' hc').1] at hp
  exact Option.some.inj hp

theorem Filed.fresh (h : s.Filed) : s.pendingCombats (s.idAllocator + 1) = none := by
  cases hp : s.pendingCombats (s.idAllocator + 1) with
  | none => rfl
  | some p =>
    obtain ⟨c, hc, hid⟩ := h.pending _ p hp
    have hle := (h.live p c hc).2
    omega

theorem Filed.still (h : s.Filed) (hstill : Still s t l) : t.Filed := by
  obtain ⟨hmemory, hpending, hcombats, hid, _, _⟩ := hstill
  refine ⟨?_, ?_, ?_, ?_⟩
  · rw [hmemory, hpending]
    exact h.pending
  · rw [hmemory, hpending, hid]
    exact h.live
  · rw [hmemory, hcombats]
    exact h.active
  · rw [hmemory, hcombats]
    exact h.deployed

theorem Filed.opens (h : s.Filed) {left right : String} {session : Bool}
    (hopens : Opens left right p session s t l) : t.Filed := by
  obtain ⟨c, hmemory, hidentity, hnum⟩ := hopens.memory
  have hid : c.id = s.idAllocator + 1 := congrArg (fun i => i.1) hidentity
  have hkey : c.argentKey = (0, 0) := congrArg (fun i => i.2.1) hidentity
  have hpending := hopens.pendingCombats h.fresh
  have hne : ∀ {q c'}, s.memory q = some c' → q ≠ p := by
    rintro q c' hc' rfl
    rw [hopens.free] at hc'
    cases hc'
  refine ⟨fun k q hq => ?_, fun q c' hc' => ?_, fun key q hq => ?_, fun q c' hc' => ?_⟩
  · rw [hpending] at hq
    rw [hmemory]
    rcases Table.insert_some hq with ⟨rfl, rfl⟩ | ⟨_, hold⟩
    · exact ⟨c, Function.update_self .., hid⟩
    · obtain ⟨c', hc', hid'⟩ := h.pending k q hold
      exact ⟨c', (Function.update_of_ne (hne hc') ..).trans hc', hid'⟩
  · rw [hmemory] at hc'
    rw [hpending, hopens.idAllocator]
    rcases Table.insert_some hc' with ⟨rfl, rfl⟩ | ⟨_, hold⟩
    · rw [hid]
      exact ⟨Function.update_self .., Int.le_refl _⟩
    · obtain ⟨hp, hle⟩ := h.live q c' hold
      have hother : c'.id ≠ s.idAllocator + 1 := by omega
      exact ⟨(Function.update_of_ne hother ..).trans hp, by omega⟩
  · rw [hopens.combats] at hq
    obtain ⟨hserver, c', hc', hkey'⟩ := h.active key q hq
    rw [hmemory]
    exact ⟨hserver, c', (Function.update_of_ne (hne hc') ..).trans hc', hkey'⟩
  · rw [hmemory] at hc'
    rw [hopens.combats]
    rcases Table.insert_some hc' with ⟨rfl, rfl⟩ | ⟨_, hold⟩
    · exact .inr ⟨congrArg Prod.fst hkey, hnum⟩
    · exact h.deployed q c' hold

/-- The entries that are left lead to other combats. -/
theorem Filed.left (h : s.Filed) (hcloses : Closes p c s t) {key : Int × Int} {q : Nat}
    (hq : t.combats key = some q) : s.combats key = some q ∧ q ≠ p ∧ key ≠ c.argentKey := by
  obtain ⟨key', _, hcombats⟩ := hcloses.combats
  rw [hcombats] at hq
  obtain ⟨hne, hq⟩ := Table.erase_some hq
  obtain ⟨_, hq⟩ := Table.erase_some hq
  refine ⟨hq, ?_, hne⟩
  rintro rfl
  obtain ⟨_, c', hc', hkey'⟩ := h.active key q hq
  rw [hcloses.live, Option.some.injEq] at hc'
  rw [hc'] at hne
  exact hne hkey'.symm

/-- The other combats keep their entries. -/
theorem Filed.kept (h : s.Filed) (hcloses : Closes p c s t) {key : Int × Int} {q : Nat}
    (hq : s.combats key = some q) (hne : q ≠ p) : t.combats key = some q := by
  have hpoints : ∀ {key'}, key' = c.argentKey ∨ s.combats key' = some p → key ≠ key' := by
    rintro key' hkey' rfl
    rcases hkey' with rfl | hkey'
    · obtain ⟨hserver, _⟩ := h.active c.argentKey q hq
      rcases h.deployed p c hcloses.live with hown | ⟨hnone, _⟩
      · rw [hown, Option.some.injEq] at hq
        exact hne hq.symm
      · rw [show c.argentKey.1 = c.combatServerId from rfl, hnone] at hserver
        cases hserver
    · rw [hkey', Option.some.injEq] at hq
      exact hne hq.symm
  obtain ⟨key', hkey', hcombats⟩ := hcloses.combats
  rw [hcombats, Function.update_of_ne (hpoints (.inl rfl)), Function.update_of_ne (hpoints hkey')]
  exact hq

theorem Filed.closes (h : s.Filed) (hcloses : Closes p c s t) : t.Filed := by
  refine ⟨fun k q hq => ?_, fun q c' hc' => ?_, fun key q hq => ?_, fun q c' hc' => ?_⟩
  · rw [hcloses.pendingCombats] at hq
    obtain ⟨hne, hq⟩ := Table.erase_some hq
    obtain ⟨c', hc', rfl⟩ := h.pending k q hq
    have hother : q ≠ p := by
      rintro rfl
      rw [hcloses.live, Option.some.injEq] at hc'
      rw [hc'] at hne
      exact hne rfl
    refine ⟨c', ?_, rfl⟩
    rw [hcloses.memory, Function.update_of_ne hother]
    exact hc'
  · rw [hcloses.memory] at hc'
    obtain ⟨hne, hc'⟩ := Table.erase_some hc'
    obtain ⟨hq, hle⟩ := h.live q c' hc'
    have hother : c'.id ≠ c.id := fun hid => hne (h.same hcloses.live hc' hid)
    rw [hcloses.pendingCombats, Function.update_of_ne hother, hcloses.idAllocator]
    exact ⟨hq, hle⟩
  · obtain ⟨hq, hne, _⟩ := h.left hcloses hq
    obtain ⟨hserver, c', hc', hkey'⟩ := h.active key q hq
    refine ⟨hserver, c', ?_, hkey'⟩
    rw [hcloses.memory, Function.update_of_ne hne]
    exact hc'
  · rw [hcloses.memory] at hc'
    obtain ⟨hne, hc'⟩ := Table.erase_some hc'
    exact (h.deployed q c' hc').imp_left fun hq => h.kept hcloses hq hne

theorem Filed.enters (h : s.Filed) {hostId combatId : Int}
    (henters : Enters 1 hostId combatId p c s t l) (hfree : s.combats (1, combatId) = none)
    (hnew : c.combatServerId = 0) : t.Filed := by
  have hcombats := henters.combats hfree
  have hne : ∀ {key q}, s.combats key = some q → q ≠ p := by
    rintro key q hq rfl
    obtain ⟨hserver, c', hc', rfl⟩ := h.active key q hq
    rw [henters.live, Option.some.injEq] at hc'
    rw [← hc'] at hserver
    have hzero : c.argentKey.1 = 0 := hnew
    omega
  refine ⟨fun k q hq => ?_, fun q c' hc' => ?_, fun key q hq => ?_, fun q c' hc' => ?_⟩
  · rw [henters.pendingCombats] at hq
    rw [henters.memory]
    obtain ⟨c', hc', rfl⟩ := h.pending k q hq
    by_cases heq : q = p
    · subst heq
      rw [henters.live, Option.some.injEq] at hc'
      obtain rfl := hc'
      exact ⟨_, Function.update_self .., rfl⟩
    · exact ⟨c', (Function.update_of_ne heq ..).trans hc', rfl⟩
  · rw [henters.memory] at hc'
    rw [henters.pendingCombats, henters.idAllocator]
    rcases Table.insert_some hc' with ⟨rfl, rfl⟩ | ⟨_, hold⟩
    · exact h.live q c henters.live
    · exact h.live q c' hold
  · rw [hcombats] at hq
    rw [henters.memory]
    rcases Table.insert_some hq with ⟨rfl, rfl⟩ | ⟨_, hold⟩
    · exact ⟨rfl, _, Function.update_self .., rfl⟩
    · obtain ⟨hserver, c', hc', hkey'⟩ := h.active key q hold
      exact ⟨hserver, c', (Function.update_of_ne (hne hold) ..).trans hc', hkey'⟩
  · rw [henters.memory] at hc'
    rw [hcombats]
    rcases Table.insert_some hc' with ⟨rfl, rfl⟩ | ⟨_, hold⟩
    · exact .inl (Function.update_self ..)
    · refine (h.deployed q c' hold).imp_left fun hq => ?_
      have hkey : c'.argentKey ≠ (1, combatId) := by
        intro hkey
        rw [hkey, hfree] at hq
        cases hq
      exact (Function.update_of_ne hkey ..).trans hq

theorem Filed.counts (h : s.Filed) {combatId : Int} (hcounts : Counts 1 combatId p c s t l) :
    t.Filed := by
  refine ⟨fun k q hq => ?_, fun q c' hc' => ?_, fun key q hq => ?_, fun q c' hc' => ?_⟩
  · rw [hcounts.pendingCombats] at hq
    rw [hcounts.memory]
    obtain ⟨c', hc', rfl⟩ := h.pending k q hq
    by_cases heq : q = p
    · subst heq
      rw [hcounts.live, Option.some.injEq] at hc'
      obtain rfl := hc'
      exact ⟨_, Function.update_self .., rfl⟩
    · exact ⟨c', (Function.update_of_ne heq ..).trans hc', rfl⟩
  · rw [hcounts.memory] at hc'
    rw [hcounts.pendingCombats, hcounts.idAllocator]
    rcases Table.insert_some hc' with ⟨rfl, rfl⟩ | ⟨_, hold⟩
    · exact h.live q c hcounts.live
    · exact h.live q c' hold
  · rw [hcounts.combats] at hq
    rw [hcounts.memory]
    obtain ⟨hserver, c', hc', hkey'⟩ := h.active key q hq
    by_cases heq : q = p
    · subst heq
      rw [hcounts.live, Option.some.injEq] at hc'
      rw [← hc'] at hkey'
      exact ⟨hserver, _, Function.update_self .., hkey'⟩
    · exact ⟨hserver, c', (Function.update_of_ne heq ..).trans hc', hkey'⟩
  · rw [hcounts.memory] at hc'
    rw [hcounts.combats]
    rcases Table.insert_some hc' with ⟨rfl, rfl⟩ | ⟨_, hold⟩
    · obtain ⟨_, c', hc', hkey'⟩ := h.active (1, combatId) q hcounts.found
      rw [hcounts.live, Option.some.injEq] at hc'
      rw [← hc'] at hkey'
      refine .inl ?_
      show s.combats c.argentKey = _
      rw [hkey']
      exact hcounts.found
    · exact h.deployed q c' hold

end Gateway

end Mysya
