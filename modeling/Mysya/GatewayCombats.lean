import Mysya.GuardedRuns
import Mysya.Tables
import Mysya.CombatFields

/-!
# The gateway's combats

`CombatManager` of the gateway with the handlers that call it. `CombatActor` objects are
never deleted and there is one for each name, so a pointer to one is its name. `Combat`
objects are in `memory`, and to follow a pointer to one that is gone is undefined. What
the gateway sends is kept in `sent`, the latest first.
-/

namespace Mysya

structure Combat where
  id : Int
  combatServerId : Int
  combatArgentId : Int
  al : Option String
  ar : Option String
  mapId : Int
  connectedNum : Int
  maxTime : Int
  deriving DecidableEq

/-- `actor` is the descriptor of the `Actor` that logged in as this one. -/
structure CombatActor where
  actor : Option Int
  combat : Option Nat
  combatArgentId : UInt64
  campId : Int
  warriors : List WarriorDescription

structure MapConf where
  buildings : Int → List BuildingDescription

inductive GatewaySent
  | loginResponse (sockfd : Int) (result : Bool)
  /-- `MessageCombatResponse`, with the map, the time, the host, the camp and the warriors
  where the combat begins. -/
  | combatResponse (sockfd : Int) (begun : Option (Int × Int × UInt64 × Int × List Int))
  | settlementSync (sockfd : Int)
  | deployRequest (hostId : Int) (data : CombatInitialData)
  | connectArgentRequest (serverId combatId : Int) (roleArgentId : UInt64)
  | beginRequest (serverId combatId : Int)
  | reconnectRequest (serverId combatId : Int) (roleArgentId : UInt64)

structure Gateway where
  maps : Int → Option MapConf
  warriorConfs : List WarriorDescription
  /-- `AppServer::actors_`, with the `CombatActor` of each. -/
  actors : Int → Option (Option String)
  combatActors : String → Option CombatActor
  argentIds : UInt64
  memory : Nat → Option Combat
  idAllocator : Int
  pendingCombatActors : List String
  pendingCombats : Int → Option Nat
  combats : Int × Int → Option Nat
  sent : List GatewaySent

namespace Combat

def new (id : Int) : Combat := ⟨id, 0, 0, none, none, 0, 0, 0⟩

def argentKey (c : Combat) : Int × Int := (c.combatServerId, c.combatArgentId)

def Has (c : Combat) (name : String) : Prop := c.al = some name ∨ c.ar = some name

instance (c : Combat) (name : String) : Decidable (c.Has name) := by
  unfold Has
  infer_instance

end Combat

namespace Gateway

def combatMaxTime : Int := 240

def start (maps : Int → Option MapConf) (warriorConfs : List WarriorDescription) : Gateway where
  maps := maps
  warriorConfs := warriorConfs
  actors := fun _ => none
  combatActors := fun _ => none
  argentIds := 0
  memory := fun _ => none
  idAllocator := 0
  pendingCombatActors := []
  pendingCombats := fun _ => none
  combats := fun _ => none
  sent := []

def send (s : Gateway) (message : GatewaySent) : Gateway := { s with sent := message :: s.sent }

def modifyActor (s : Gateway) (name : String) (f : CombatActor → CombatActor) : Gateway :=
  { s with combatActors := Function.update s.combatActors name ((s.combatActors name).map f) }

def setCombat (s : Gateway) (name : String) (combat : Option Nat) : Gateway :=
  s.modifyActor name fun actor => { actor with combat := combat }

def setCampId (s : Gateway) (name : String) (campId : Int) : Gateway :=
  s.modifyActor name fun actor => { actor with campId := campId }

def modifyCombat (s : Gateway) (p : Nat) (f : Combat → Combat) : Gateway :=
  { s with memory := Function.update s.memory p ((s.memory p).map f) }

def setLeft (s : Gateway) (p : Nat) (name : String) : Gateway :=
  (s.modifyCombat p fun c => { c with al := some name }).setCombat name (some p)

def setRight (s : Gateway) (p : Nat) (name : String) : Gateway :=
  (s.modifyCombat p fun c => { c with ar := some name }).setCombat name (some p)

/-- To an actor whose user is online. -/
def sendActor (s : Gateway) (name : Option String) (message : Int → GatewaySent) : Gateway :=
  match name.bind fun name => (s.combatActors name).bind CombatActor.actor with
  | none => s
  | some sockfd => s.send (message sockfd)

/-! ## The combat manager -/

def addPendingCombatActor (s : Gateway) (name : String) : Gateway :=
  { s with pendingCombatActors :=
      if name ∈ s.pendingCombatActors then s.pendingCombatActors
      else s.pendingCombatActors ++ [name] }

def removePendingCombatActor (s : Gateway) (name : String) : Gateway :=
  { s with pendingCombatActors := s.pendingCombatActors.filter fun other => other ≠ name }

def addPendiong (s : Gateway) (id : Int) (p : Nat) : Gateway :=
  if (s.pendingCombats id).isSome then s
  else { s with pendingCombats := Function.update s.pendingCombats id (some p) }

def addCombat (s : Gateway) (key : Int × Int) (p : Nat) : Gateway :=
  if (s.combats key).isSome then s
  else { s with combats := Function.update s.combats key (some p) }

/-- `Allocate`, where memory gives a `Combat` at `p`. -/
def allocate (s : Gateway) (p : Nat) : Gateway :=
  let id := s.idAllocator + 1
  { s with memory := Function.update s.memory p (some (.new id))
           idAllocator := id }.addPendiong id p

def resetCombat (s : Gateway) : Option String → Gateway
  | none => s
  | some name => s.setCombat name none

/-- `Deallocate`, with the destructor of `Combat`. -/
def deallocate (s : Gateway) (p : Nat) : Option Gateway :=
  match s.memory p with
  | none => none
  | some c =>
    let s := { s with pendingCombats := Function.update s.pendingCombats c.id none
                      combats := Function.update s.combats c.argentKey none }
    let s := (s.resetCombat c.al).resetCombat c.ar
    some { s with memory := Function.update s.memory p none }

/-- `RemovePending` finds the combat, and leaves it in the map. -/
def removePending (s : Gateway) (_id : Int) : Gateway := s

def removeCombat (s : Gateway) (key : Int × Int) : Gateway :=
  { s with combats := Function.update s.combats key none }

def campData (conf : MapConf) (name : String) (actor : CombatActor) (campId : Int) :
    CombatCampData where
  id := campId
  initFood := 200
  maxFood := 300
  initElixir := 200
  maxElixir := 300
  roles := [⟨actor.combatArgentId, name, actor.warriors, conf.buildings campId⟩]
  buildings := []

/-- The end of `PushCombat`, with two actors and a combat for them at `p`. -/
def deploy (s : Gateway) (conf : MapConf) (mapId : Int) (left right : String) (p : Nat)
    (session : Bool) : Option (Gateway × Bool) :=
  let s := s.allocate p
  let hostId := s.idAllocator
  let s := s.modifyCombat p fun c => { c with mapId := mapId }
  let s := (s.setLeft p left).setRight p right
  let s := s.modifyCombat p fun c => { c with maxTime := combatMaxTime }
  match s.combatActors left, s.combatActors right with
  | some al, some ar =>
    let s := (s.setCampId left 1).setCampId right 2
    if session then
      some (s.send (.deployRequest hostId ⟨mapId, combatMaxTime,
        [campData conf left al 1, campData conf right ar 2]⟩), true)
    else some (s.addPendingCombatActor right, false)
  | _, _ => none

/-- `PushCombat`; `allocated` is the memory given for a `Combat`, and `session` says whether
there is a session to the combat server 1. At most one actor ever waits, so the order of the
set does not show. -/
def pushCombat (s : Gateway) (name : String) (mapId : Int) (allocated : Option Nat)
    (session : Bool) : Option (Gateway × Bool) :=
  match s.maps mapId with
  | none => some (s, false)
  | some conf =>
    match s.pendingCombatActors with
    | [] => some (s.addPendingCombatActor name, true)
    | right :: waiting =>
      let s := { s with pendingCombatActors := waiting }
      match allocated with
      | none => some (s.addPendingCombatActor right, false)
      | some p =>
        match s.memory p with
        | some _ => none
        | none => s.deploy conf mapId name right p session

/-! ## The handlers -/

/-- `OnMessageCombatRequest`, with a request that could be parsed or not. -/
def onMessageCombatRequest (s : Gateway) (sockfd : Int) (parsed : Bool) (allocated : Option Nat)
    (session : Bool) : Option Gateway :=
  match s.actors sockfd with
  | none => some s
  | some none => some (s.send (.combatResponse sockfd none))
  | some (some name) =>
    if parsed = false then some (s.send (.combatResponse sockfd none))
    else
      match s.pushCombat name 3 allocated session with
      | none => none
      | some (s, true) => some s
      | some (s, false) => some (s.send (.combatResponse sockfd none))

/-- `CombatActorManager::Allocate`, where there is none of the name. -/
def allocateActor (s : Gateway) (name : String) : Gateway :=
  let argentId := s.argentIds + 1
  { s with argentIds := argentId
           combatActors := Function.update s.combatActors name
             (some ⟨none, none, argentId, 0, s.warriorConfs⟩) }

/-- `OnMessageLoginRequest` for a name; `allocated` says whether memory gives a `CombatActor`
that is needed, and `session` whether there is a session to the server of its combat. -/
def onMessageLoginRequest (s : Gateway) (sockfd : Int) (name : Option String)
    (allocated session : Bool) : Option Gateway :=
  match s.actors sockfd, name with
  | none, _ => some s
  | some none, some name =>
    if (s.combatActors name).isNone && !allocated then some (s.send (.loginResponse sockfd false))
    else
      let s := if (s.combatActors name).isNone then s.allocateActor name else s
      match s.combatActors name with
      | none => none
      | some actor =>
        if actor.actor.isSome then some (s.send (.loginResponse sockfd false))
        else
          let s := s.modifyActor name fun actor => { actor with actor := some sockfd }
          let s := { s with actors := Function.update s.actors sockfd (some (some name)) }
          let s := s.send (.loginResponse sockfd true)
          match actor.combat with
          | none => some s
          | some p =>
            match s.memory p with
            | none => none
            | some c =>
              if session then some (s.send
                (.reconnectRequest c.combatServerId c.combatArgentId actor.combatArgentId))
              else some s
  | some _, _ => some (s.send (.loginResponse sockfd false))

/-- `OnConnected`; an `Actor` for a descriptor that has one is lost. -/
def onConnected (s : Gateway) (sockfd : Int) : Gateway :=
  if (s.actors sockfd).isSome then s
  else { s with actors := Function.update s.actors sockfd (some none) }

/-- `OnClose` and `OnError`, with the destructor of `Actor`. -/
def onClose (s : Gateway) (sockfd : Int) : Gateway :=
  match s.actors sockfd with
  | none => s
  | some combatActor =>
    let s := { s with actors := Function.update s.actors sockfd none }
    match combatActor with
    | none => s
    | some name =>
      (s.removePendingCombatActor name).modifyActor name fun actor => { actor with actor := none }

/-- A refusal sent to both actors, and the combat deleted. -/
def refuseCombat (s : Gateway) (p : Nat) (c : Combat) : Option Gateway :=
  ((s.sendActor c.al fun sockfd => .combatResponse sockfd none).sendActor c.ar
    fun sockfd => .combatResponse sockfd none).deallocate p

def onMessageCombatDeployResponse (s : Gateway) (serverId hostId : Int) (complete : Bool)
    (combatId : Int) : Option Gateway :=
  match s.pendingCombats hostId with
  | none => some s
  | some p =>
    match s.memory p with
    | none => none
    | some c =>
      match c.al.bind s.combatActors, c.ar.bind s.combatActors with
      | some al, some ar =>
        if complete = false then s.refuseCombat p c
        else
          let s := s.modifyCombat p fun c =>
            { c with combatArgentId := combatId, combatServerId := serverId }
          let s := (s.removePending c.id).addCombat (serverId, combatId) p
          some ((s.send (.connectArgentRequest serverId combatId al.combatArgentId)).send
            (.connectArgentRequest serverId combatId ar.combatArgentId))
      | _, _ => some s

def onMessageCombatConnectArgentResponse (s : Gateway) (serverId combatId : Int)
    (complete : Bool) : Option Gateway :=
  match s.combats (serverId, combatId) with
  | none => some s
  | some p =>
    match s.memory p with
    | none => none
    | some c =>
      if c.al.isNone || c.ar.isNone then some s
      else if complete = false then s.refuseCombat p c
      else
        let s := s.modifyCombat p fun c => { c with connectedNum := c.connectedNum + 1 }
        if c.connectedNum + 1 ≥ 2 then some (s.send (.beginRequest serverId combatId)) else some s

def sendBegun (s : Gateway) (c : Combat) (name : Option String) : Gateway :=
  match name.bind s.combatActors with
  | none => s
  | some actor => s.sendActor name fun sockfd => .combatResponse sockfd
      (some (c.mapId, c.maxTime, actor.combatArgentId, actor.campId, actor.warriors.map (·.id)))

def onMessageCombatBeginResponse (s : Gateway) (serverId combatId : Int) (complete : Bool) :
    Option Gateway :=
  match s.combats (serverId, combatId) with
  | none => some s
  | some p =>
    match s.memory p with
    | none => none
    | some c =>
      if c.al.isNone || c.ar.isNone then some s
      else if complete = false then s.refuseCombat p c
      else some ((s.sendBegun c c.al).sendBegun c c.ar)

def onMessageCombatSettlementSync (s : Gateway) (serverId combatId : Int) : Option Gateway :=
  match s.combats (serverId, combatId) with
  | none => some s
  | some p =>
    let s := s.removeCombat (serverId, combatId)
    match s.memory p with
    | none => none
    | some c =>
      ((s.sendActor c.al .settlementSync).sendActor c.ar .settlementSync).deallocate p

inductive Action
  | connected (sockfd : Int)
  | loginRequest (sockfd : Int) (name : Option String) (allocated session : Bool)
  | combatRequest (sockfd : Int) (parsed : Bool) (allocated : Option Nat) (session : Bool)
  | close (sockfd : Int)
  | deployResponse (serverId hostId : Int) (complete : Bool) (combatId : Int)
  | connectArgentResponse (serverId combatId : Int) (complete : Bool)
  | beginResponse (serverId combatId : Int) (complete : Bool)
  | settlementSync (serverId combatId : Int)

def step (s : Gateway) : Action → Option Gateway
  | .connected sockfd => some (s.onConnected sockfd)
  | .loginRequest sockfd name allocated session =>
    s.onMessageLoginRequest sockfd name allocated session
  | .combatRequest sockfd parsed allocated session =>
    s.onMessageCombatRequest sockfd parsed allocated session
  | .close sockfd => some (s.onClose sockfd)
  | .deployResponse serverId hostId complete combatId =>
    s.onMessageCombatDeployResponse serverId hostId complete combatId
  | .connectArgentResponse serverId combatId complete =>
    s.onMessageCombatConnectArgentResponse serverId combatId complete
  | .beginResponse serverId combatId complete =>
    s.onMessageCombatBeginResponse serverId combatId complete
  | .settlementSync serverId combatId => s.onMessageCombatSettlementSync serverId combatId

end Gateway

end Mysya
