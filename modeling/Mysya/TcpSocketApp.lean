import Mysya.Connection
import Mysya.GuardedRuns
import Mathlib.Logic.Function.Basic

/-!
# The socket application

`ioevent::TcpSocketApp` as a machine. An action is a call of the application,
the return of one of its callbacks, an answer of the kernel or a callback the
event loop makes; `stack` holds what the handlers that are running have still
to do, with `callback` on top while the application's code runs. Sockets are
keyed by descriptor, as `sockets_` is; `object` tells apart the sockets that
hold one descriptor one after another. `timers`, `connects` and `notices` stand
for the timing wheel, the kernel's side of the connects and what the
application has been told.
-/

namespace Mysya

inductive ReadCallback where
  | onListenRead
  | onSocketRead
  deriving DecidableEq, Repr

inductive WriteCallback where
  | onConnectWrite
  | onSocketWrite
  deriving DecidableEq, Repr

inductive ErrorCallback where
  | onListenError
  | onConnectError
  | onSocketError
  deriving DecidableEq, Repr

/-- A `TcpSocket` with its `EventChannel`; `epollIn` and `epollOut` are the mask the
event loop has registered for it. -/
structure TcpSocket where
  object : Nat
  readCallback : Option ReadCallback
  writeCallback : Option WriteCallback
  errorCallback : Option ErrorCallback
  epollIn : Bool
  epollOut : Bool
  deriving DecidableEq, Repr

namespace TcpSocket

/-- `EventLoop::AddEventChannel` and `UpdateEventChannel`: the mask of the callbacks set. -/
def register (s : TcpSocket) : TcpSocket :=
  { s with epollIn := s.readCallback.isSome, epollOut := s.writeCallback.isSome }

/-- A socket attached to the event loop with the callbacks given. -/
def attach (object : Nat) (readCallback : Option ReadCallback)
    (writeCallback : Option WriteCallback) (errorCallback : Option ErrorCallback) : TcpSocket :=
  register ⟨object, readCallback, writeCallback, errorCallback, false, false⟩

/-- The callbacks of an attached socket replaced by those of a connection. -/
def establish (s : TcpSocket) : TcpSocket :=
  register { s with readCallback := some .onSocketRead
                    writeCallback := some .onSocketWrite
                    errorCallback := some .onSocketError }

end TcpSocket

/-- The callbacks the application may set. -/
inductive AppCallback where
  | connection
  | receive
  | sendComplete
  | close
  | error
  deriving DecidableEq, Repr

inductive Handler where
  | sendMessage
  | onListenRead
  | onListenError
  | onConnectWrite
  | onConnectError
  | onConnectTimeout
  | onSocketRead
  | onSocketWrite
  | onSocketError
  deriving DecidableEq, Repr

/-- A callback of the application, run by a handler about a socket. -/
structure Notice where
  object : Nat
  handler : Handler
  callback : AppCallback
  deriving DecidableEq, Repr

/-- What a running handler has still to do. -/
inductive Frame where
  /-- A callback of the application is running. -/
  | callback
  /-- `Close(sockfd)`; for a timeout, with the socket its timer was started for. -/
  | close (sockfd : Int) (timedOut : Option Nat)
  /-- The next round of the loop of `OnListenRead`. -/
  | accept (listenSockfd : Int) (listenObject : Nat)
  /-- The end of `OnSocketRead`, after the receive callback. -/
  | received (sockfd : Int) (object : Nat) (peerClosed : Bool)
  deriving DecidableEq, Repr

inductive ConnectStatus where
  | pending
  | succeeded
  | failed
  deriving DecidableEq, Repr

/-- An event of `epoll_wait`, with the socket whose attachment raised it. -/
structure EpollEvent where
  source : Nat
  read : Bool
  write : Bool
  error : Bool
  deriving DecidableEq, Repr

/-- How the system calls and allocations of one attempt to build a socket end. -/
structure BuildCalls where
  setup : Bool
  attach : Bool
  allocate : Bool
  deriving DecidableEq, Repr

inductive AcceptResult where
  | accepted (sockfd : Int) (build : BuildCalls)
  | aborted
  | again
  | failed
  deriving DecidableEq, Repr

structure TcpSocketApp where
  sockets : Int → Option TcpSocket
  connections : Int → Option Connection
  installed : AppCallback → Bool
  timerSocketIds : Int → Option Int
  socketTimerIds : Int → Option Int
  socketBufferInitSize : Nat
  socketBufferExtendSize : Nat
  extendPositive : 0 < socketBufferExtendSize
  stack : List Frame
  objects : Nat
  timers : Int → Option Nat
  timerIds : Int
  connects : Nat → Option ConnectStatus
  notices : List Notice

namespace TcpSocketApp

inductive Action where
  | setCallback (callback : AppCallback) (present : Bool)
  | listen (sockfd : Int) (setup attach : Bool)
  | connect (sockfd : Int) (established : Bool) (build : BuildCalls)
  | asyncConnect (sockfd : Int) (started : Bool) (build : BuildCalls) (timeoutMs : Int)
      (startTimer : Bool)
  | sendMessage (sockfd : Int) (m : Message) (w : WriteResult)
  | close (sockfd : Int)
  | readBytes (sockfd : Int) (size : Nat)
  | ret
  | resume
  | accept (r : AcceptResult)
  | read (sockfd : Int) (event : EpollEvent) (readableSize : Int) (r : ReadResult)
  | write (sockfd : Int) (event : EpollEvent) (w : WriteResult)
  | error (sockfd : Int) (event : EpollEvent) (errno : Int)
  | timeout (timerId : Int)
  | finishConnect (object : Nat) (success : Bool)
  deriving DecidableEq, Repr

/-- The `socket_buffer_extend_size_` of the constructor. -/
theorem socketBufferExtendSize_pos : 0 < 64 := by decide

def init (initSize extendSize : Nat) (h : 0 < extendSize) : TcpSocketApp where
  sockets := fun _ => none
  connections := fun _ => none
  installed := fun _ => false
  timerSocketIds := fun _ => none
  socketTimerIds := fun _ => none
  socketBufferInitSize := initSize
  socketBufferExtendSize := extendSize
  extendPositive := h
  stack := []
  objects := 0
  timers := fun _ => none
  timerIds := 0
  connects := fun _ => none
  notices := []

def setConnection (s : TcpSocketApp) (sockfd : Int) (c : Connection) : TcpSocketApp :=
  { s with connections := Function.update s.connections sockfd (some c) }

def setSocket (s : TcpSocketApp) (sockfd : Int) (socket : TcpSocket) : TcpSocketApp :=
  { s with sockets := Function.update s.sockets sockfd (some socket) }

def setStack (s : TcpSocketApp) (stack : List Frame) : TcpSocketApp := { s with stack := stack }

def push (s : TcpSocketApp) (frame : Frame) : TcpSocketApp := s.setStack (frame :: s.stack)

/-- Run a callback of the application where it is installed. -/
def notify (s : TcpSocketApp) (n : Notice) : TcpSocketApp :=
  if s.installed n.callback then { s.push .callback with notices := n :: s.notices } else s

/-- `TcpSocketApp::Close`. -/
def closeSocket (s : TcpSocketApp) (sockfd : Int) : TcpSocketApp :=
  { s with connections := Function.update s.connections sockfd none
           sockets := Function.update s.sockets sockfd none }

/-- `AddSocketTimer`; `startTimer` is false where `StartTimer` fails. -/
def addSocketTimer (s : TcpSocketApp) (sockfd : Int) (object : Nat) (startTimer : Bool) :
    TcpSocketApp :=
  if startTimer then
    { s with timerIds := s.timerIds + 1
             timers := Function.update s.timers (s.timerIds + 1) (some object)
             timerSocketIds := Function.update s.timerSocketIds (s.timerIds + 1) (some sockfd)
             socketTimerIds := Function.update s.socketTimerIds sockfd (some (s.timerIds + 1)) }
  else s

def removeSocketTimer (s : TcpSocketApp) (sockfd : Int) : TcpSocketApp :=
  match s.socketTimerIds sockfd with
  | none => s
  | some timerId =>
    { s with socketTimerIds := Function.update s.socketTimerIds sockfd none
             timerSocketIds := Function.update s.timerSocketIds timerId none
             timers := Function.update s.timers timerId none }

def buildListenSocket (s : TcpSocketApp) (sockfd : Int) (setup attach : Bool) :
    TcpSocketApp × Bool :=
  if (s.sockets sockfd).isSome then (s, false)
  else if setup = false then (s, false)
  else if attach = false then (s, false)
  else
    ({ s.setSocket sockfd (.attach s.objects (some .onListenRead) none (some .onListenError)) with
        objects := s.objects + 1 }, true)

/-- The new entries of `sockets_` and `connections_`. -/
def insert (s : TcpSocketApp) (sockfd : Int) (socket : TcpSocket) : TcpSocketApp :=
  { (s.setSocket sockfd socket).setConnection sockfd
      (.new socket.object s.socketBufferInitSize s.socketBufferExtendSize s.extendPositive) with
    objects := s.objects + 1 }

def buildConnectedSocket (s : TcpSocketApp) (sockfd : Int) (build : BuildCalls) :
    TcpSocketApp × Bool :=
  if (s.sockets sockfd).isSome then (s, false)
  else if (s.connections sockfd).isSome then (s, false)
  else if build.setup = false then (s, false)
  else if build.attach = false then (s, false)
  else if build.allocate = false then (s, false)
  else
    -- the line that would set the write callback is commented out in the source
    (s.insert sockfd (.attach s.objects (some .onSocketRead) none (some .onSocketError)), true)

def buildAsyncConnectSocket (s : TcpSocketApp) (sockfd : Int) (build : BuildCalls)
    (timeoutMs : Int) (startTimer : Bool) : TcpSocketApp × Bool :=
  if (s.sockets sockfd).isSome then (s, false)
  else if (s.connections sockfd).isSome then (s, false)
  else if build.attach = false then (s, false)
  else if build.allocate = false then (s, false)
  else
    let object := s.objects
    let s := { s.insert sockfd (.attach object none (some .onConnectWrite) (some .onConnectError))
      with connects := Function.update s.connects object (some .pending) }
    (if timeoutMs > 0 then s.addSocketTimer sockfd object startTimer else s, true)

def onConnectWrite (s : TcpSocketApp) (sockfd : Int) (socket : TcpSocket) : TcpSocketApp :=
  let s := s.removeSocketTimer sockfd
  match s.connections sockfd with
  | none => s
  | some _ =>
    (s.setSocket sockfd socket.establish).notify ⟨socket.object, .onConnectWrite, .connection⟩

/-- The error callback, with `Close` to follow it. -/
def failConnection (s : TcpSocketApp) (sockfd : Int) (c : Connection) (handler : Handler)
    (timedOut : Option Nat) : TcpSocketApp :=
  ((s.setConnection sockfd c).push (.close sockfd timedOut)).notify ⟨c.tcpSocket, handler, .error⟩

def onConnectError (s : TcpSocketApp) (sockfd : Int) (errno : Int) : TcpSocketApp :=
  let s := s.removeSocketTimer sockfd
  match s.connections sockfd with
  | none => s
  | some c => s.failConnection sockfd (c.setErrno errno) .onConnectError none

def ETIMEDOUT : Int := 110

/-- `OnConnectTimeout`, once the timing wheel has taken the timer off. -/
def onConnectTimeout (s : TcpSocketApp) (timerId : Int) (started : Nat) : TcpSocketApp :=
  match s.timerSocketIds timerId with
  | none => s
  | some sockfd =>
    let s := { s with timerSocketIds := Function.update s.timerSocketIds timerId none
                      socketTimerIds := Function.update s.socketTimerIds sockfd none }
    match s.connections sockfd with
    | none => s
    | some c => s.failConnection sockfd (c.setErrno ETIMEDOUT) .onConnectTimeout (some started)

def onSocketRead (s : TcpSocketApp) (sockfd : Int) (readableSize : Int) (r : ReadResult) :
    Option TcpSocketApp :=
  match s.connections sockfd with
  | none => some s
  | some c =>
    if c.ReceiveFits readableSize r then
      match c.receive readableSize r with
      | (c, .fatal) => some (s.failConnection sockfd c .onSocketRead none)
      | (c, .done received peerClosed) =>
        let s := (s.setConnection sockfd c).push (.received sockfd c.tcpSocket peerClosed)
        some (if received then s.notify ⟨c.tcpSocket, .onSocketRead, .receive⟩ else s)
    else none

def onSocketWrite (s : TcpSocketApp) (sockfd : Int) (w : WriteResult) : Option TcpSocketApp :=
  match s.connections sockfd with
  | none => some s
  | some c =>
    let sendBytes := toInt32 c.sendBuffer.readableBytes
    if sendBytes ≤ 0 then some s
    else if w.Fits (toSizeT sendBytes) then
      match c.flush w with
      | (c, false) => some (s.failConnection sockfd c .onSocketWrite none)
      | (c, true) =>
        let s := s.setConnection sockfd c
        some (if c.sendBuffer.readableBytes = 0 then
          s.notify ⟨c.tcpSocket, .onSocketWrite, .sendComplete⟩ else s)
    else none

def onSocketError (s : TcpSocketApp) (sockfd : Int) (errno : Int) : TcpSocketApp :=
  match s.connections sockfd with
  | none => s
  | some c => s.failConnection sockfd (c.setErrno errno) .onSocketError none

def onListenError (s : TcpSocketApp) (sockfd : Int) (socket : TcpSocket) : TcpSocketApp :=
  (s.push (.close sockfd none)).notify ⟨socket.object, .onListenError, .error⟩

/-- `TcpSocketApp::SendMessage`. -/
def sendMessage (s : TcpSocketApp) (sockfd : Int) (m : Message) (w : WriteResult) :
    Option TcpSocketApp :=
  match s.connections sockfd with
  | none => some s
  | some c =>
    if c.SendFits m w then
      match c.sendMessage m w with
      | (c, .refused) => some (s.failConnection sockfd c .sendMessage none)
      | (c, .buffered) => some (s.setConnection sockfd c)
      | (c, .complete) =>
        some ((s.setConnection sockfd c).notify ⟨c.tcpSocket, .sendMessage, .sendComplete⟩)
    else none

/-- One round of the loop of `OnListenRead`. -/
def acceptRound (s : TcpSocketApp) (rest : List Frame) : AcceptResult → TcpSocketApp
  | .accepted sockfd build =>
    match s.buildConnectedSocket sockfd build with
    | (s, false) => s
    | (s', true) => s'.notify ⟨s.objects, .onListenRead, .connection⟩
  | .aborted => s
  | .again => s.setStack rest
  | .failed => s.setStack rest

/-- The application's code may run: in a callback, or between two of the event loop's. -/
def AppRuns (s : TcpSocketApp) : Prop := s.stack = [] ∨ s.stack.head? = some .callback

instance (s : TcpSocketApp) : Decidable s.AppRuns := by
  unfold AppRuns
  infer_instance

/-- What a handler goes on with once no callback runs above it. -/
def resume (s : TcpSocketApp) : Option TcpSocketApp :=
  match s.stack with
  | .close sockfd _ :: rest => some ((s.setStack rest).closeSocket sockfd)
  | .received _ object peerClosed :: rest =>
    let s := s.setStack rest
    some (if peerClosed then s.notify ⟨object, .onSocketRead, .close⟩ else s)
  | _ => none

/-- A call of the application. -/
def call (s : TcpSocketApp) : Action → Option TcpSocketApp
  | .setCallback callback present =>
    some { s with installed := Function.update s.installed callback present }
  | .listen sockfd setup attach => some (s.buildListenSocket sockfd setup attach).1
  | .connect sockfd established build =>
    some (if established then (s.buildConnectedSocket sockfd build).1 else s)
  | .asyncConnect sockfd started build timeoutMs startTimer =>
    some (if started then (s.buildAsyncConnectSocket sockfd build timeoutMs startTimer).1 else s)
  | .sendMessage sockfd m w => s.sendMessage sockfd m w
  | .close sockfd => some (s.closeSocket sockfd)
  | .readBytes sockfd size =>
    match s.connections sockfd with
    | none => none
    | some c =>
      some (s.setConnection sockfd { c with receiveBuffer := c.receiveBuffer.readBytes size })
  | _ => none

/-- A callback the event loop makes, of the event it is made for. -/
def dispatch (s : TcpSocketApp) : Action → Option TcpSocketApp
  | .read sockfd event readableSize r =>
    match s.sockets sockfd with
    | none => none
    | some socket =>
      if event.read = false then none
      else
        match socket.readCallback with
        | none => some s
        | some .onListenRead => some (s.push (.accept sockfd socket.object))
        | some .onSocketRead => s.onSocketRead sockfd readableSize r
  | .write sockfd event w =>
    match s.sockets sockfd with
    | none => none
    | some socket =>
      if event.write = false then none
      else
        match socket.writeCallback with
        | none => some s
        | some .onConnectWrite => some (s.onConnectWrite sockfd socket)
        | some .onSocketWrite => s.onSocketWrite sockfd w
  | .error sockfd event errno =>
    match s.sockets sockfd with
    | none => none
    | some socket =>
      if event.error = false then none
      else
        match socket.errorCallback with
        | none => some s
        | some .onListenError => some (s.onListenError sockfd socket)
        | some .onConnectError => some (s.onConnectError sockfd errno)
        | some .onSocketError => some (s.onSocketError sockfd errno)
  | .timeout timerId =>
    match s.timers timerId with
    | none => none
    | some started =>
      some ({ s with timers := Function.update s.timers timerId none }.onConnectTimeout
        timerId started)
  | _ => none

def step (s : TcpSocketApp) : Action → Option TcpSocketApp
  | .ret =>
    match s.stack with
    | .callback :: rest => some (s.setStack rest)
    | _ => none
  | .resume => s.resume
  | .accept r =>
    match s.stack with
    | .accept listenSockfd listenObject :: rest =>
      -- the loop goes on using the listening socket, which must not have been deleted
      if (s.sockets listenSockfd).map TcpSocket.object = some listenObject then
        some (s.acceptRound rest r)
      else none
    | _ => none
  | .finishConnect object success =>
    if s.connects object = some .pending then
      let status : ConnectStatus := if success then .succeeded else .failed
      some { s with connects := Function.update s.connects object (some status) }
    else none
  | .read sockfd event readableSize r =>
    if s.stack = [] then s.dispatch (.read sockfd event readableSize r) else none
  | .write sockfd event w => if s.stack = [] then s.dispatch (.write sockfd event w) else none
  | .error sockfd event errno =>
    if s.stack = [] then s.dispatch (.error sockfd event errno) else none
  | .timeout timerId => if s.stack = [] then s.dispatch (.timeout timerId) else none
  | a => if s.AppRuns then s.call a else none

/-- What a step can be, the action with what it runs. -/
theorem step_cases {s s' : TcpSocketApp} {a : Action} (h : s.step a = some s') :
    (∃ rest, a = .ret ∧ s.stack = .callback :: rest ∧ s' = s.setStack rest) ∨
    (a = .resume ∧ s.resume = some s') ∨
    (∃ r sockfd object rest, a = .accept r ∧ s.stack = .accept sockfd object :: rest ∧
      s' = s.acceptRound rest r) ∨
    (∃ object success status, a = .finishConnect object success ∧
      s.connects object = some .pending ∧
      s' = { s with connects := Function.update s.connects object (some status) }) ∨
    (s.stack = [] ∧ s.dispatch a = some s') ∨
    (s.AppRuns ∧ s.call a = some s') := by
  have dispatched : ∀ {o : Option TcpSocketApp}, (if s.stack = [] then o else none) = some s' →
      s.stack = [] ∧ o = some s' := fun h => by
    split at h
    · exact ⟨‹_›, h⟩
    · cases h
  cases a with
  | ret =>
    rw [step] at h
    split at h
    · cases h
      exact Or.inl ⟨_, rfl, ‹_›, rfl⟩
    · cases h
  | resume => exact Or.inr (Or.inl ⟨rfl, h⟩)
  | accept r =>
    rw [step] at h
    split at h
    · split at h
      · cases h
        exact Or.inr (Or.inr (Or.inl ⟨r, _, _, _, rfl, ‹_›, rfl⟩))
      · cases h
    · cases h
  | finishConnect object success =>
    rw [step] at h
    split at h
    · cases h
      exact Or.inr (Or.inr (Or.inr (Or.inl ⟨object, success, _, rfl, ‹_›, rfl⟩)))
    · cases h
  | read | write | error | timeout =>
    exact Or.inr (Or.inr (Or.inr (Or.inr (Or.inl (dispatched h)))))
  | _ =>
    refine Or.inr (Or.inr (Or.inr (Or.inr (Or.inr ?_))))
    rw [step] at h
    · split at h
      · exact ⟨‹_›, h⟩
      · cases h
    all_goals simp

end TcpSocketApp

end Mysya
