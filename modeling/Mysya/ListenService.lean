import Mysya.MessageQueue
import Mysya.TransportAgent

/-!
# Listening, and the event loops

The rest of `TcpService` and its agents: the listen sockets, the receive queues, and the event loop
on which each callback of the application is queued. Event loops are named by their address.
`queued` is what has been queued for the application, the latest first, and `listens` is what has
become of each `Listen` that got a socket.
-/

namespace Mysya

namespace SocketErrno

def DUPLICATE_SOCKET : Int := -5

end SocketErrno

/-- The loops of an agent, and the one on which its receive queue starts timers. -/
structure AgentLoops where
  networkEventLoop : Nat
  appEventLoop : Nat
  receiveConsumerLoop : Nat
  deriving DecidableEq, Repr

namespace AgentLoops

def new (networkEventLoop appEventLoop : Nat) : AgentLoops where
  networkEventLoop := networkEventLoop
  appEventLoop := appEventLoop
  receiveConsumerLoop := appEventLoop

/-- The loop that gets a notice: `AddTcpSocket` pushes the first, `OnAsyncConnectSocketWrite` the
second, and the handlers of the agent's sockets and timers the others. -/
def pushLoop (loops : AgentLoops) : Push → Nat
  | .connected => loops.appEventLoop
  | .asyncConnected => loops.appEventLoop
  | .asyncConnectError _ => loops.appEventLoop
  | .closed => loops.appEventLoop
  | .error _ => loops.appEventLoop

end AgentLoops

/-- What runs a callback of the application; `call` is the `Listen` that it is about. -/
inductive ServiceCallback where
  | listened (call : Nat) (sockfd : Int)
  | listenError (call : Nat) (sockfd errno : Int)
  | notice (n : AgentNotice)
  | receive (agent : Nat) (host : Int) (data : List UInt8)
  deriving DecidableEq, Repr

structure QueuedCallback where
  loop : Nat
  callback : ServiceCallback
  deriving DecidableEq, Repr

/-- How the system calls of `BuildListenSocket` end, and what `errno` is where one fails. -/
structure ListenCalls where
  setReuseAddr : Bool
  setTcpNoDelay : Bool
  bind : Bool
  listen : Bool
  setNonblock : Bool
  attach : Bool
  errno : Int
  deriving DecidableEq, Repr

structure ListenSocket where
  call : Nat
  sockfd : Int
  attached : Bool
  deriving DecidableEq, Repr

/-- `OnHandleListen` of an agent as it waits on its network event loop. -/
structure ListenWakeup where
  loop : Nat
  agent : Nat
  address : Nat
  deriving DecidableEq, Repr

/-- Whether `BuildListenSocket` has not been run for a call, has failed or has built its socket, and
whether that socket has failed since. -/
inductive ListenStatus where
  | pending
  | refused
  | built
  | failed
  deriving DecidableEq, Repr

structure ListenService extends TcpService where
  appEventLoop : Nat
  loops : Nat → AgentLoops
  receiveQueues : Nat → MessageQueue
  listenHeap : Nat → Option ListenSocket
  listenSockets : Nat → Option Nat
  wakeups : List ListenWakeup
  queued : List QueuedCallback
  listenNum : Nat
  listens : Nat → Option ListenStatus

/-- The first wakeup on a loop, and the others. -/
def takeWakeup (loop : Nat) : List ListenWakeup → Option (ListenWakeup × List ListenWakeup)
  | [] => none
  | wakeup :: wakeups =>
    if wakeup.loop = loop then some (wakeup, wakeups)
    else (takeWakeup loop wakeups).map fun (taken, rest) => (taken, wakeup :: rest)

/-- Where a step of the service puts a new `TcpSocket`. -/
def TcpService.Action.allocates : TcpService.Action → Option Nat
  | .accept address _ _ => some address
  | .asyncConnect address _ _ _ _ _ => some address
  | _ => none

namespace ListenService

inductive Action where
  | listen (address : Nat) (opened : Option Int)
  | handleListen (loop : Nat) (calls : ListenCalls)
  | listenRead (address accepted : Nat) (sockfd : Int) (build : BuildCalls)
  | listenError (address : Nat)
  | service (a : TcpService.Action)
  | receive (agent : Nat) (a : MessageQueue.Action)
  deriving DecidableEq, Repr

/-- The constructor, with an agent for each loop of the thread pool. -/
def init (appEventLoop : Nat) (threads : List Nat) (now : Timestamp) (timerIds : Nat → Int) :
    ListenService where
  toTcpService := .init threads.length
  appEventLoop := appEventLoop
  loops := fun agent => .new (threads.getD agent 0) appEventLoop
  receiveQueues := fun agent => .new true 10 1024 256 DynamicBuffer.defaultExpandSize_pos now (timerIds agent)
  listenHeap := fun _ => none
  listenSockets := fun _ => none
  wakeups := []
  queued := []
  listenNum := 0
  listens := fun _ => none

def pushCallbacks (s : ListenService) (callbacks : List QueuedCallback) : ListenService :=
  { s with queued := callbacks ++ s.queued }

def setListen (s : ListenService) (call : Nat) (status : ListenStatus) : ListenService :=
  { s with listens := Function.update s.listens call (some status) }

/-- `Listen`, with the descriptor of the socket where one is opened. -/
def listen (s : ListenService) (address : Nat) (opened : Option Int) : ListenService × Int :=
  let (service, agent) := s.allocateTransportAgent
  match opened with
  | none => ({ s with toTcpService := service }, -1)
  | some sockfd =>
    ({ s with
        toTcpService := service
        listenHeap := Function.update s.listenHeap address (some ⟨s.listenNum, sockfd, false⟩)
        wakeups := s.wakeups ++ [⟨(s.loops agent).networkEventLoop, agent, address⟩]
        listenNum := s.listenNum + 1
        listens := Function.update s.listens s.listenNum (some .pending) }, sockfd)

/-- `BuildListenSocket`, with `errno` where it returns false. -/
def buildListenSocket (s : ListenService) (agent address : Nat) (socket : ListenSocket)
    (calls : ListenCalls) : ListenService × Option Int :=
  if (s.listenSockets address).isSome then (s, some SocketErrno.DUPLICATE_SOCKET)
  else if calls.setReuseAddr = false then (s, some calls.errno)
  else if calls.setTcpNoDelay = false then (s, some calls.errno)
  else if calls.bind = false then (s, some calls.errno)
  else if calls.listen = false then (s, some calls.errno)
  else if calls.setNonblock = false then (s, some calls.errno)
  else
    let eventLoop := (s.loops agent).networkEventLoop
    if calls.attach = false then (s, some calls.errno)
    else
      let s := { s with
        listenHeap := Function.update s.listenHeap address (some { socket with attached := true })
        listenSockets := Function.update s.listenSockets address (some agent) }
      (s.pushCallbacks [⟨eventLoop, .listened socket.call socket.sockfd⟩], none)

def onHandleListen (s : ListenService) (agent address : Nat) (socket : ListenSocket)
    (calls : ListenCalls) : ListenService :=
  match s.buildListenSocket agent address socket calls with
  | (s, none) => s.setListen socket.call .built
  | (s, some errno) =>
    let s := { s with listenHeap := Function.update s.listenHeap address none }
    (s.pushCallbacks [⟨(s.loops agent).appEventLoop,
      .listenError socket.call socket.sockfd errno⟩]).setListen socket.call .refused

def onListenError (s : ListenService) (address : Nat) (socket : ListenSocket) : ListenService :=
  match s.listenSockets address with
  | none => s
  | some agent =>
    let s := { s with
      listenSockets := Function.update s.listenSockets address none
      listenHeap := Function.update s.listenHeap address none }
    (s.pushCallbacks [⟨(s.loops agent).appEventLoop,
      .listened socket.call socket.sockfd⟩]).setListen socket.call .failed

/-- A step of the connections, with what it pushes. -/
def serviceStep (s : ListenService) (a : TcpService.Action) : Option ListenService :=
  if (a.allocates.bind s.listenHeap).isSome then none
  else
    match s.toTcpService.step a with
    | none => none
    | some service =>
      let pushes := service.pushes.take (service.pushes.length - s.pushes.length)
      some ({ s with toTcpService := service }.pushCallbacks
        (pushes.map fun n : AgentNotice => ⟨(s.loops n.agent).pushLoop n.push, .notice n⟩))

/-- A step of an agent's receive queue, whose expirations run on the loop of their timer. -/
def receiveStep (s : ListenService) (agent : Nat) (a : MessageQueue.Action) :
    Option ListenService :=
  match (s.receiveQueues agent).step a with
  | none => none
  | some q =>
    let delivered := q.delivered.drop (s.receiveQueues agent).delivered.length
    some ({ s with receiveQueues := Function.update s.receiveQueues agent q }.pushCallbacks
      (delivered.map fun m : Int × List UInt8 =>
        ⟨(s.loops agent).receiveConsumerLoop, .receive agent m.1 m.2⟩))

/-- `AllocateTransportAgent` divides by the number of agents. Connections are accepted by
`OnListenRead`, and one step is a round of its loop. -/
def step (s : ListenService) : Action → Option ListenService
  | .listen address opened =>
    if s.agentNum = 0 ∨ (s.listenHeap address).isSome ∨ (s.sockets address).isSome then none
    else some (s.listen address opened).1
  | .handleListen loop calls =>
    match takeWakeup loop s.wakeups with
    | none => none
    | some (wakeup, wakeups) =>
      match s.listenHeap wakeup.address with
      | none => none
      | some socket =>
        some ({ s with wakeups := wakeups }.onHandleListen wakeup.agent wakeup.address socket calls)
  | .listenRead address accepted sockfd build =>
    match s.listenHeap address with
    | none => none
    | some socket => if socket.attached then s.serviceStep (.accept accepted sockfd build) else none
  | .listenError address =>
    match s.listenHeap address with
    | none => none
    | some socket => if socket.attached then some (s.onListenError address socket) else none
  | .service (.accept _ _ _) => none
  | .service a => s.serviceStep a
  | .receive agent a => s.receiveStep agent a

end ListenService

end Mysya
