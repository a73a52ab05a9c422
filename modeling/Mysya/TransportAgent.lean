import Mysya.TcpSocketApp

/-!
# The transport agents

`qservice::TransportAgent` and what `qservice::TcpService` does between its
agents. Sockets are named by their address, as the agents' timer maps name
them; channels by a number, so that `channels_` and the socket's handle may
point to one that is gone. A step is one handler, run to its end. The agents
call the application only through `PushWakeupCallback`, and `pushes` is the
list of what they have pushed, the latest first.
-/

namespace Mysya

namespace SocketErrno

def CONNECT_TIMEOUT : Int := -2

def ATTACH_EVENT_LOOP : Int := -3

def BUILD_CONNECTED_SOCKET : Int := -4

end SocketErrno

/-- The write callbacks of an agent's socket; the number is the agent bound in. -/
inductive AgentWriteCallback where
  | onAsyncConnectSocketWrite (agent : Nat)
  | onSocketWrite (agent : Nat)
  deriving DecidableEq, Repr

inductive AgentErrorCallback where
  | onAsyncConnectError (agent : Nat)
  | onSocketError (agent : Nat)
  deriving DecidableEq, Repr

/-- A `TcpSocket` with its `EventChannel`; the only read callback is `OnSocketRead`
of the agent given. -/
structure AgentSocket where
  object : Nat
  sockfd : Int
  appHandle : Option Nat
  onSocketRead : Option Nat
  writeCallback : Option AgentWriteCallback
  errorCallback : Option AgentErrorCallback
  deriving DecidableEq, Repr

inductive Push where
  | connected
  | asyncConnected
  | asyncConnectError (errno : Int)
  | closed
  | error (errno : Int)
  deriving DecidableEq, Repr

/-- A callback pushed to the application's event loop about a socket. -/
structure AgentNotice where
  object : Nat
  agent : Nat
  sockfd : Int
  push : Push
  deriving DecidableEq, Repr

structure TransportAgent where
  channels : Int → Option Nat
  timerSockets : Int → Option Nat
  socketTimers : Nat → Option Int
  timers : Int → Option Nat
  timerIds : Int

structure TcpService where
  agents : Nat → TransportAgent
  agentNum : Nat
  nextAgent : Nat
  sockets : Nat → Option AgentSocket
  heap : Nat → Option Connection
  heapNum : Nat
  objects : Nat
  connects : Nat → Option ConnectStatus
  pushes : List AgentNotice

namespace TcpService

inductive Action where
  | accept (address : Nat) (sockfd : Int) (build : BuildCalls)
  | asyncConnect (address : Nat) (sockfd : Int) (started attach : Bool) (timeoutMs : Int)
      (startTimer : Bool)
  | send (agent : Nat) (host : Int) (m : Message) (w : WriteResult)
  | read (address : Nat) (event : EpollEvent) (readableSize : Int) (r : ReadResult) (decoded : Nat)
  | write (address : Nat) (event : EpollEvent) (w : WriteResult) (build : BuildCalls)
  | error (address : Nat) (event : EpollEvent) (errno : Int)
  | timeout (agent : Nat) (timerId : Int)
  | finishConnect (object : Nat) (success : Bool)
  deriving DecidableEq, Repr

def init (agentNum : Nat) : TcpService where
  agents := fun _ => ⟨fun _ => none, fun _ => none, fun _ => none, fun _ => none, 0⟩
  agentNum := agentNum
  nextAgent := 0
  sockets := fun _ => none
  heap := fun _ => none
  heapNum := 0
  objects := 0
  connects := fun _ => none
  pushes := []

def setAgent (s : TcpService) (agent : Nat) (a : TransportAgent) : TcpService :=
  { s with agents := Function.update s.agents agent a }

def setSocket (s : TcpService) (address : Nat) (socket : AgentSocket) : TcpService :=
  { s with sockets := Function.update s.sockets address (some socket) }

def deleteSocket (s : TcpService) (address : Nat) : TcpService :=
  { s with sockets := Function.update s.sockets address none }

def setChannel (s : TcpService) (channel : Nat) (c : Option Connection) : TcpService :=
  { s with heap := Function.update s.heap channel c }

def pushWakeupCallback (s : TcpService) (n : AgentNotice) : TcpService :=
  { s with pushes := n :: s.pushes }

def addAsyncConnectSocketTimer (s : TcpService) (agent address object : Nat)
    (startTimer : Bool) : TcpService :=
  if startTimer then
    let a := s.agents agent
    let timerId := a.timerIds + 1
    s.setAgent agent
      { a with timerIds := timerId
               timers := Function.update a.timers timerId (some object)
               timerSockets := Function.update a.timerSockets timerId (some address)
               socketTimers := Function.update a.socketTimers address (some timerId) }
  else s

def removeAsyncConnectSocketTimer (s : TcpService) (agent address : Nat) : TcpService :=
  let a := s.agents agent
  match a.socketTimers address with
  | none => s
  | some timerId =>
    s.setAgent agent
      { a with timerSockets := Function.update a.timerSockets timerId none
               socketTimers := Function.update a.socketTimers address none
               timers := Function.update a.timers timerId none }

/-- `AddTcpSocket`. Where the attachment fails the channel is deleted, and `channels_`
and the socket keep their pointers to it. -/
def addTcpSocket (s : TcpService) (agent address : Nat) (socket : AgentSocket)
    (build : BuildCalls) : TcpService × Bool :=
  let a := s.agents agent
  if (a.channels socket.sockfd).isSome then (s, false)
  else if build.allocate = false then (s, false)
  else
    let channel := s.heapNum
    let s := { s.setChannel channel (some (.new socket.object 1024 256 DynamicBuffer.defaultExpandSize_pos)) with
      heapNum := channel + 1 }
    let s := s.setAgent agent
      { a with channels := Function.update a.channels socket.sockfd (some channel) }
    let s := s.setSocket address
      { socket with appHandle := some channel
                    onSocketRead := some agent
                    writeCallback := some (.onSocketWrite agent)
                    errorCallback := some (.onSocketError agent) }
    if build.attach = false then (s.setChannel channel none, false)
    else (s.pushWakeupCallback ⟨socket.object, agent, socket.sockfd, .connected⟩, true)

/-- `RemoveTcpSocket`. Its test is the wrong way round: a descriptor in the map is left
there, and for another one the end of the map is dereferenced. -/
def removeTcpSocket (s : TcpService) (agent : Nat) (sockfd : Int) :
    Option (TcpService × Option Nat) :=
  match (s.agents agent).channels sockfd with
  | none => none
  | some _ => some (s, none)

def closeTcpSocket (s : TcpService) (agent : Nat) (sockfd : Int) : Option TcpService :=
  match s.removeTcpSocket agent sockfd with
  | none => none
  | some (s, none) => some s
  | some (s, some address) => some (s.deleteSocket address)

def allocateTransportAgent (s : TcpService) : TcpService × Nat :=
  ({ s with nextAgent := s.nextAgent + 1 }, s.nextAgent % s.agentNum)

def buildConnectedSocket (s : TcpService) (address : Nat) (socket : AgentSocket)
    (build : BuildCalls) : TcpService × Bool :=
  if build.setup = false then (s, false)
  else
    let (s, agent) := s.allocateTransportAgent
    s.addTcpSocket agent address socket build

/-- One round of the loop of `OnListenRead`, with a socket the kernel has accepted. -/
def acceptRound (s : TcpService) (address : Nat) (sockfd : Int) (build : BuildCalls) : TcpService :=
  let socket : AgentSocket := ⟨s.objects, sockfd, none, none, none, none⟩
  let s := { s.setSocket address socket with objects := s.objects + 1 }
  match s.buildConnectedSocket address socket build with
  | (s, true) => s
  | (s, false) => s.deleteSocket address

/-- `AsyncConnect`, and `OnHandleAsyncConnect` in the event loop of the agent it picks. -/
def asyncConnect (s : TcpService) (address : Nat) (sockfd : Int) (started attach : Bool)
    (timeoutMs : Int) (startTimer : Bool) : TcpService :=
  let (s, agent) := s.allocateTransportAgent
  if started = false then s
  else
    let object := s.objects
    let s := { s with objects := object + 1
                      connects := Function.update s.connects object (some .pending) }
    if attach = false then
      s.pushWakeupCallback ⟨object, agent, sockfd, .asyncConnectError SocketErrno.ATTACH_EVENT_LOOP⟩
    else
      let s := s.setSocket address ⟨object, sockfd, none, none,
        some (.onAsyncConnectSocketWrite agent), some (.onAsyncConnectError agent)⟩
      if timeoutMs > 0 then s.addAsyncConnectSocketTimer agent address object startTimer else s

def onAsyncConnectSocketWrite (s : TcpService) (agent address : Nat) (socket : AgentSocket)
    (build : BuildCalls) : TcpService :=
  let s := s.removeAsyncConnectSocketTimer agent address
  match s.buildConnectedSocket address socket build with
  | (s, true) => s.pushWakeupCallback ⟨socket.object, agent, socket.sockfd, .asyncConnected⟩
  | (s, false) =>
    (s.deleteSocket address).pushWakeupCallback
      ⟨socket.object, agent, socket.sockfd, .asyncConnectError SocketErrno.BUILD_CONNECTED_SOCKET⟩

def onAsyncConnectError (s : TcpService) (agent address : Nat) (socket : AgentSocket)
    (errno : Int) : TcpService :=
  ((s.deleteSocket address).removeAsyncConnectSocketTimer agent address).pushWakeupCallback
    ⟨socket.object, agent, socket.sockfd, .asyncConnectError errno⟩

/-- `OnAsyncConnectTimeout`, once the timing wheel has taken the timer off. -/
def onAsyncConnectTimeout (s : TcpService) (agent : Nat) (timerId : Int) : Option TcpService :=
  let a := s.agents agent
  match a.timerSockets timerId with
  | none => some s
  | some address =>
    let s := s.setAgent agent
      { a with timerSockets := Function.update a.timerSockets timerId none
               socketTimers := Function.update a.socketTimers address none }
    match s.sockets address with
    | none => none
    | some socket =>
      some ((s.deleteSocket address).pushWakeupCallback
        ⟨socket.object, agent, socket.sockfd, .asyncConnectError SocketErrno.CONNECT_TIMEOUT⟩)

/-- The error push of the handlers of a connection, and the close that follows it. -/
def failChannel (s : TcpService) (agent channel : Nat) (socket : AgentSocket) (c : Connection) :
    Option TcpService :=
  ((s.setChannel channel (some c)).pushWakeupCallback
    ⟨socket.object, agent, socket.sockfd, .error c.errno⟩).closeTcpSocket agent socket.sockfd

/-- `OnSocketRead`; `decoded` is what the receive-decode callback takes off the buffer. -/
def onSocketRead (s : TcpService) (agent : Nat) (socket : AgentSocket) (readableSize : Int)
    (r : ReadResult) (decoded : Nat) : Option TcpService :=
  match socket.appHandle with
  | none => none
  | some channel =>
    match s.heap channel with
    | none => none
    | some c =>
      if c.ReceiveFits readableSize r then
        match c.receive readableSize r with
        | (c, .fatal) => s.failChannel agent channel socket c
        | (c, .done received peerClosed) =>
          let decodedBytes := if received then decoded else 0
          let c := { c with receiveBuffer := c.receiveBuffer.readBytes decodedBytes }
          let s := s.setChannel channel (some c)
          if peerClosed then
            (s.pushWakeupCallback ⟨socket.object, agent, socket.sockfd, .closed⟩).closeTcpSocket
              agent socket.sockfd
          else some s
      else none

def onSocketWrite (s : TcpService) (agent : Nat) (socket : AgentSocket) (w : WriteResult) :
    Option TcpService :=
  match socket.appHandle with
  | none => none
  | some channel =>
    match s.heap channel with
    | none => none
    | some c =>
      let sendableBytes := toInt32 c.sendBuffer.readableBytes
      if w.Fits (toSizeT sendableBytes) then
        match c.flush w with
        | (c, false) => s.failChannel agent channel socket c
        | (c, true) => some (s.setChannel channel (some c))
      else none

def onSocketError (s : TcpService) (agent : Nat) (socket : AgentSocket) (errno : Int) :
    Option TcpService :=
  match socket.appHandle with
  | none => none
  | some channel =>
    match s.heap channel with
    | none => none
    | some c => s.failChannel agent channel socket (c.setErrno errno)

/-- `OnSendQueueReady`, which drops the result of `SendMessage`. -/
def onSendQueueReady (s : TcpService) (agent : Nat) (host : Int) (m : Message) (w : WriteResult) :
    Option TcpService :=
  match (s.agents agent).channels host with
  | none => some s
  | some channel =>
    match s.heap channel with
    | none => none
    | some c => if c.SendFits m w then some (s.setChannel channel (some (c.sendMessage m w).1)) else none

def onRead (s : TcpService) (socket : AgentSocket) (readableSize : Int) (r : ReadResult)
    (decoded : Nat) : Option TcpService :=
  match socket.onSocketRead with
  | none => some s
  | some agent => s.onSocketRead agent socket readableSize r decoded

def onWrite (s : TcpService) (address : Nat) (socket : AgentSocket) (w : WriteResult)
    (build : BuildCalls) : Option TcpService :=
  match socket.writeCallback with
  | none => some s
  | some (.onAsyncConnectSocketWrite agent) =>
    some (s.onAsyncConnectSocketWrite agent address socket build)
  | some (.onSocketWrite agent) => s.onSocketWrite agent socket w

def onError (s : TcpService) (address : Nat) (socket : AgentSocket) (errno : Int) :
    Option TcpService :=
  match socket.errorCallback with
  | none => some s
  | some (.onAsyncConnectError agent) => some (s.onAsyncConnectError agent address socket errno)
  | some (.onSocketError agent) => s.onSocketError agent socket errno

/-- The allocator hands out free addresses only, and a timer fires only while it is armed. -/
def step (s : TcpService) : Action → Option TcpService
  | .accept address sockfd build =>
    match s.sockets address with
    | none => some (s.acceptRound address sockfd build)
    | some _ => none
  | .asyncConnect address sockfd started attach timeoutMs startTimer =>
    match s.sockets address with
    | none => some (s.asyncConnect address sockfd started attach timeoutMs startTimer)
    | some _ => none
  | .send agent host m w => s.onSendQueueReady agent host m w
  | .read address event readableSize r decoded =>
    match s.sockets address with
    | none => none
    | some socket => if event.read then s.onRead socket readableSize r decoded else none
  | .write address event w build =>
    match s.sockets address with
    | none => none
    | some socket => if event.write then s.onWrite address socket w build else none
  | .error address event errno =>
    match s.sockets address with
    | none => none
    | some socket => if event.error then s.onError address socket errno else none
  | .timeout agent timerId =>
    match (s.agents agent).timers timerId with
    | none => none
    | some _ =>
      let a := s.agents agent
      let s := s.setAgent agent { a with timers := Function.update a.timers timerId none }
      s.onAsyncConnectTimeout agent timerId
  | .finishConnect object success =>
    if s.connects object = some .pending then
      let status : ConnectStatus := if success then .succeeded else .failed
      some { s with connects := Function.update s.connects object (some status) }
    else none

end TcpService

end Mysya
