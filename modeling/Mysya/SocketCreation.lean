import Mysya.TcpSocketApp

/-!
# Making a socket

`Listen`, `Connect` and `AsyncConnect` call by call, with the descriptors of the
process beside the application's tables. What a system call or an allocation
answers is an argument, looked at where the code gets to it; a call on
descriptor -1 fails. `Open` goes on with that one where `SetCloseExec` fails.
-/

namespace Mysya

/-- The answers to one attempt. -/
structure CreationCalls where
  newSocket : Bool
  /-- The descriptor, if there is one. -/
  socket : Option Nat
  closeExec : Bool
  reuseAddr : Bool
  tcpNoDelay : Bool
  nonblock : Bool
  bind : Bool
  listen : Bool
  connect : Bool
  epollAdd : Bool
  epollDel : Bool
  newConnection : Bool
  startTimer : Bool
  deriving DecidableEq, Repr

/-- The application, the descriptors of the process that are open, and those that the epoll
instance of its event loop holds. -/
structure SocketProcess where
  app : TcpSocketApp
  isOpen : Int → Bool
  registered : Int → Bool

/-- A `TcpSocket` that is not the application's yet; whether `event_loop_` of its channel is set. -/
structure OwnedSocket where
  fd : Int
  attached : Bool
  deriving DecidableEq, Repr

namespace OwnedSocket

/-- A system call on the descriptor. -/
def answers (socket : OwnedSocket) (answer : Bool) : Bool := socket.fd ≠ -1 && answer

end OwnedSocket

/-- A value returned from a function whose result is a `bool`. -/
def intToBool (n : Int) : Bool := n ≠ 0

namespace SocketProcess

/-- `TcpSocket::Close`. A closed descriptor leaves the epoll instance by itself. -/
def close (p : SocketProcess) (socket : OwnedSocket) (calls : CreationCalls) :
    SocketProcess × OwnedSocket :=
  if socket.fd = -1 then (p, socket)
  else
    let registered := if socket.attached ∧ calls.epollDel then
      Function.update p.registered socket.fd false else p.registered
    ({ p with
        isOpen := Function.update p.isOpen socket.fd false
        registered := Function.update registered socket.fd false }, ⟨-1, false⟩)

/-- `TcpSocket::Open` of a new socket. -/
def openSocket (p : SocketProcess) (calls : CreationCalls) : SocketProcess × OwnedSocket × Bool :=
  match calls.socket with
  | none => (p, ⟨-1, false⟩, false)
  | some fd =>
    let p := { p with isOpen := Function.update p.isOpen fd true }
    let socket : OwnedSocket := ⟨fd, false⟩
    if socket.answers calls.closeExec = false then
      ((p.close socket calls).1, (p.close socket calls).2, true)
    else (p, socket, true)

/-- `TcpSocket::AsyncConnect`; `connect` may answer `EINPROGRESS`. -/
def startConnect (socket : OwnedSocket) (calls : CreationCalls) : Bool :=
  if socket.answers calls.nonblock = false ∨ socket.answers calls.reuseAddr = false ∨
      socket.answers calls.tcpNoDelay = false then false
  else socket.answers calls.connect

def attachEventLoop (p : SocketProcess) (socket : OwnedSocket) (calls : CreationCalls) :
    SocketProcess × OwnedSocket × Bool :=
  if socket.answers calls.epollAdd = false then (p, socket, false)
  else ({ p with registered := Function.update p.registered socket.fd true },
    { socket with attached := true }, true)

def buildListenSocket (p : SocketProcess) (socket : OwnedSocket) (calls : CreationCalls) :
    SocketProcess × OwnedSocket × Bool :=
  if (p.app.sockets socket.fd).isSome then (p, socket, false)
  else if socket.answers calls.reuseAddr = false then (p, socket, false)
  else if socket.answers calls.tcpNoDelay = false then (p, socket, false)
  else if socket.answers calls.bind = false then (p, socket, false)
  else if socket.answers calls.listen = false then (p, socket, false)
  else if socket.answers calls.nonblock = false then (p, socket, false)
  else
    match p.attachEventLoop socket calls with
    | (p, socket, false) => (p, socket, false)
    | (p, socket, true) =>
      let app := p.app.setSocket socket.fd
        (.attach p.app.objects (some .onListenRead) none (some .onListenError))
      ({ p with app := { app with objects := p.app.objects + 1 } }, socket, true)

def buildConnectedSocket (p : SocketProcess) (socket : OwnedSocket) (calls : CreationCalls) :
    SocketProcess × OwnedSocket × Bool :=
  if (p.app.sockets socket.fd).isSome then (p, socket, false)
  else if (p.app.connections socket.fd).isSome then (p, socket, false)
  else if socket.answers calls.reuseAddr = false then (p, socket, false)
  else if socket.answers calls.tcpNoDelay = false then (p, socket, false)
  else if socket.answers calls.nonblock = false then (p, socket, false)
  else
    match p.attachEventLoop socket calls with
    | (p, socket, false) => (p, socket, false)
    | (p, socket, true) =>
      if calls.newConnection = false then (p, socket, false)
      else
        let app := p.app.insert socket.fd
          (.attach p.app.objects (some .onSocketRead) none (some .onSocketError))
        ({ p with app := app }, socket, true)

def buildAsyncConnectSocket (p : SocketProcess) (socket : OwnedSocket) (calls : CreationCalls)
    (timeoutMs : Int) : SocketProcess × OwnedSocket × Bool :=
  if (p.app.sockets socket.fd).isSome then (p, socket, false)
  else if (p.app.connections socket.fd).isSome then (p, socket, false)
  else
    match p.attachEventLoop socket calls with
    | (p, socket, false) => (p, socket, false)
    | (p, socket, true) =>
      if calls.newConnection = false then (p, socket, false)
      else
        let object := p.app.objects
        let app := { p.app.insert socket.fd
          (.attach object none (some .onConnectWrite) (some .onConnectError)) with
            connects := Function.update p.app.connects object (some .pending) }
        ({ p with app := if timeoutMs > 0 then app.addSocketTimer socket.fd object calls.startTimer
            else app }, socket, true)

/-- `TcpSocketApp::Listen`. -/
def listen (p : SocketProcess) (calls : CreationCalls) : SocketProcess × Bool :=
  if calls.newSocket = false then (p, false)
  else
    match p.openSocket calls with
    | (p, _, false) => (p, intToBool (-1))
    | (p, socket, true) =>
      match p.buildListenSocket socket calls with
      | (p, socket, false) => ((p.close socket calls).1, false)
      | (p, _, true) => (p, true)

/-- `TcpSocketApp::Connect`. -/
def connect (p : SocketProcess) (calls : CreationCalls) : SocketProcess × Int :=
  if calls.newSocket = false then (p, -1)
  else
    match p.openSocket calls with
    | (p, _, false) => (p, -1)
    | (p, socket, true) =>
      let sockfd := socket.fd
      if socket.answers calls.connect = false then ((p.close socket calls).1, -1)
      else
        match p.buildConnectedSocket socket calls with
        | (p, socket, false) => ((p.close socket calls).1, -1)
        | (p, _, true) => (p, sockfd)

/-- `TcpSocketApp::AsyncConnect`. -/
def asyncConnect (p : SocketProcess) (calls : CreationCalls) (timeoutMs : Int) :
    SocketProcess × Int :=
  if calls.newSocket = false then (p, -1)
  else
    match p.openSocket calls with
    | (p, _, false) => (p, -1)
    | (p, socket, true) =>
      if startConnect socket calls = false then ((p.close socket calls).1, -1)
      else
        let connectSockfd := socket.fd
        match p.buildAsyncConnectSocket socket calls timeoutMs with
        | (p, socket, false) => ((p.close socket calls).1, -1)
        | (p, _, true) => (p, connectSockfd)

/-! ## What the parts leave -/

/-- A build that failed: at most the descriptor has been attached. -/
structure Refused (p : SocketProcess) (socket : OwnedSocket)
    (r : SocketProcess × OwnedSocket × Bool) : Prop where
  result : r.2.2 = false
  app : r.1.app = p.app
  isOpen : r.1.isOpen = p.isOpen
  registered : ∀ fd : Int, fd ≠ socket.fd ∨ socket.fd = -1 → r.1.registered fd = p.registered fd
  fd : r.2.1.fd = socket.fd

/-- A build that succeeded: the socket is the application's. -/
structure Adopted (p : SocketProcess) (socket : OwnedSocket) (connects : Bool)
    (r : SocketProcess × OwnedSocket × Bool) : Prop where
  result : r.2.2 = true
  fd : socket.fd ≠ -1
  sockets : p.app.sockets socket.fd = none ∧
    ∃ made, r.1.app.sockets = Function.update p.app.sockets socket.fd (some made)
  connections : if connects then p.app.connections socket.fd = none ∧
      ∃ c, r.1.app.connections = Function.update p.app.connections socket.fd (some c)
    else r.1.app.connections = p.app.connections
  isOpen : r.1.isOpen = p.isOpen
  attached : r.1.registered socket.fd = true

theorem Refused.eq {p : SocketProcess} {socket : OwnedSocket}
    {r : SocketProcess × OwnedSocket × Bool} (h : Refused p socket r) :
    r = (r.1, r.2.1, false) := by
  rw [← h.result]

theorem Adopted.eq {p : SocketProcess} {socket : OwnedSocket} {connects : Bool}
    {r : SocketProcess × OwnedSocket × Bool} (h : Adopted p socket connects r) :
    r = (r.1, r.2.1, true) := by
  rw [← h.result]

theorem refused_same (p : SocketProcess) (socket : OwnedSocket) :
    Refused p socket (p, socket, false) :=
  ⟨rfl, rfl, rfl, fun _ _ => rfl, rfl⟩

theorem attachEventLoop_cases (p : SocketProcess) (socket : OwnedSocket) (calls : CreationCalls) :
    p.attachEventLoop socket calls = (p, socket, false) ∨
      socket.fd ≠ -1 ∧ p.attachEventLoop socket calls =
        ({ p with registered := Function.update p.registered socket.fd true },
          { socket with attached := true }, true) := by
  unfold attachEventLoop
  split
  · exact Or.inl rfl
  · rename_i h
    refine Or.inr ⟨?_, rfl⟩
    intro hfd
    exact h (by simp [OwnedSocket.answers, hfd])

theorem refused_attached (p : SocketProcess) (socket : OwnedSocket) (h : socket.fd ≠ -1) :
    Refused p socket ({ p with registered := Function.update p.registered socket.fd true },
      { socket with attached := true }, false) := by
  refine ⟨rfl, rfl, rfl, ?_, rfl⟩
  intro fd hfd
  rcases hfd with hfd | hfd
  · exact Function.update_of_ne hfd _ _
  · exact absurd hfd h

theorem buildListenSocket_cases (p : SocketProcess) (socket : OwnedSocket)
    (calls : CreationCalls) :
    Refused p socket (p.buildListenSocket socket calls) ∨
      Adopted p socket false (p.buildListenSocket socket calls) := by
  unfold buildListenSocket
  split
  · exact Or.inl (refused_same p socket)
  rename_i hnew
  iterate 5
    split
    · exact Or.inl (refused_same p socket)
  rcases attachEventLoop_cases p socket calls with h | ⟨hfd, h⟩
  · rw [h]
    exact Or.inl (refused_same p socket)
  · rw [h]
    refine Or.inr ⟨rfl, hfd, ⟨by simpa using hnew, _, rfl⟩, rfl, rfl, ?_⟩
    exact Function.update_self _ _ _

theorem insert_adopted (p : SocketProcess) (socket : OwnedSocket) (made : TcpSocket)
    (hfd : socket.fd ≠ -1) (hs : p.app.sockets socket.fd = none)
    (hc : p.app.connections socket.fd = none) (app : TcpSocketApp)
    (h : app.sockets = (p.app.insert socket.fd made).sockets ∧
      app.connections = (p.app.insert socket.fd made).connections) :
    Adopted p socket true ({ p with
      app := app
      registered := Function.update p.registered socket.fd true },
        { socket with attached := true }, true) := by
  refine ⟨rfl, hfd, ⟨hs, _, h.1⟩, ⟨hc, _, h.2⟩, rfl, ?_⟩
  exact Function.update_self _ _ _

theorem buildConnectedSocket_cases (p : SocketProcess) (socket : OwnedSocket)
    (calls : CreationCalls) :
    Refused p socket (p.buildConnectedSocket socket calls) ∨
      Adopted p socket true (p.buildConnectedSocket socket calls) := by
  unfold buildConnectedSocket
  split
  · exact Or.inl (refused_same p socket)
  rename_i hnew
  split
  · exact Or.inl (refused_same p socket)
  rename_i hnew'
  iterate 3
    split
    · exact Or.inl (refused_same p socket)
  rcases attachEventLoop_cases p socket calls with h | ⟨hfd, h⟩
  · rw [h]
    exact Or.inl (refused_same p socket)
  · rw [h]
    dsimp only
    split
    · exact Or.inl (refused_attached p socket hfd)
    · exact Or.inr (insert_adopted p socket _ hfd (by simpa using hnew) (by simpa using hnew') _
        ⟨rfl, rfl⟩)

theorem addSocketTimer_maps (s : TcpSocketApp) (sockfd : Int) (object : Nat) (startTimer : Bool) :
    (s.addSocketTimer sockfd object startTimer).sockets = s.sockets ∧
      (s.addSocketTimer sockfd object startTimer).connections = s.connections := by
  unfold TcpSocketApp.addSocketTimer
  split
  · exact ⟨rfl, rfl⟩
  · exact ⟨rfl, rfl⟩

theorem buildAsyncConnectSocket_cases (p : SocketProcess) (socket : OwnedSocket)
    (calls : CreationCalls) (timeoutMs : Int) :
    Refused p socket (p.buildAsyncConnectSocket socket calls timeoutMs) ∨
      Adopted p socket true (p.buildAsyncConnectSocket socket calls timeoutMs) := by
  unfold buildAsyncConnectSocket
  split
  · exact Or.inl (refused_same p socket)
  rename_i hnew
  split
  · exact Or.inl (refused_same p socket)
  rename_i hnew'
  rcases attachEventLoop_cases p socket calls with h | ⟨hfd, h⟩
  · rw [h]
    exact Or.inl (refused_same p socket)
  · rw [h]
    dsimp only
    split
    · exact Or.inl (refused_attached p socket hfd)
    · refine Or.inr (insert_adopted p socket
        (.attach p.app.objects none (some .onConnectWrite) (some .onConnectError)) hfd
        (by simpa using hnew) (by simpa using hnew') _ ?_)
      split
      · exact addSocketTimer_maps _ _ _ _
      · exact ⟨rfl, rfl⟩

/-! ## All or nothing -/

/-- The descriptor is a new one of `sockets_`, and of `connections_` where it `connects`; it is
open and attached. -/
structure Gained (p p' : SocketProcess) (fd : Nat) (connects : Bool) : Prop where
  sockets : p.app.sockets fd = none ∧
    ∃ socket, p'.app.sockets = Function.update p.app.sockets fd (some socket)
  connections : if connects then p.app.connections fd = none ∧
      ∃ c, p'.app.connections = Function.update p.app.connections fd (some c)
    else p'.app.connections = p.app.connections
  isOpen : p'.isOpen fd = true
  attached : p'.registered fd = true

/-- Nothing of the application has changed, and a descriptor that was made is closed and
detached; the others are as they were. -/
structure Undone (p p' : SocketProcess) (calls : CreationCalls) : Prop where
  app : p'.app = p.app
  closed : ∀ fd : Nat, calls.newSocket = true → calls.socket = some fd →
    p'.isOpen fd = false ∧ p'.registered fd = false
  others : ∀ fd : Int,
    (∀ made : Nat, calls.newSocket = true → calls.socket = some made → fd ≠ made) →
      p'.isOpen fd = p.isOpen fd ∧ p'.registered fd = p.registered fd

/-- Success is reported exactly where the descriptor was gained, and a reported failure has left
nothing behind. -/
def Whole (p p' : SocketProcess) (calls : CreationCalls) (connects reported : Bool) : Prop :=
  (reported = true ↔ ∃ fd, calls.newSocket = true ∧ calls.socket = some fd ∧
    Gained p p' fd connects) ∧ (reported = false → Undone p p' calls)

/-- The process and the socket that `Open` leaves where it answers true. -/
structure Opened (p p' : SocketProcess) (calls : CreationCalls) (socket : OwnedSocket) : Prop where
  app : p'.app = p.app
  made : ∃ fd : Nat, calls.socket = some fd ∧
    (socket.fd = fd ∧ p'.isOpen fd = true ∨
      socket.fd = -1 ∧ p'.isOpen fd = false ∧ p'.registered fd = false)
  others : ∀ fd : Int, (∀ made : Nat, calls.socket = some made → fd ≠ made) →
    p'.isOpen fd = p.isOpen fd ∧ p'.registered fd = p.registered fd

theorem openSocket_cases (p : SocketProcess) (calls : CreationCalls) :
    calls.socket = none ∧ p.openSocket calls = (p, ⟨-1, false⟩, false) ∨
      ∃ p' socket, p.openSocket calls = (p', socket, true) ∧ Opened p p' calls socket := by
  unfold openSocket
  split
  · rename_i h
    exact Or.inl ⟨h, rfl⟩
  · rename_i fd h
    right
    have hfd : (fd : Int) ≠ -1 := by omega
    have hothers : ∀ other : Int, (∀ made : Nat, calls.socket = some made → other ≠ made) →
        other ≠ fd := fun other ho => ho fd h
    dsimp only
    split
    · refine ⟨_, _, rfl, ⟨by simp [close, hfd], ⟨fd, h, Or.inr ?_⟩, ?_⟩⟩
      · simp [close, hfd]
      · intro other ho
        simp [close, hfd, Function.update_of_ne (hothers other ho)]
    · refine ⟨_, _, rfl, ⟨rfl, ⟨fd, h, Or.inl ⟨rfl, Function.update_self _ _ _⟩⟩, ?_⟩⟩
      intro other ho
      exact ⟨Function.update_of_ne (hothers other ho) _ _, rfl⟩

theorem close_undone (p p' : SocketProcess) (calls : CreationCalls) (socket : OwnedSocket)
    (r : SocketProcess × OwnedSocket × Bool) (halloc : calls.newSocket = true)
    (ho : Opened p p' calls socket) (hr : Refused p' socket r) :
    Undone p (r.1.close r.2.1 calls).1 calls := by
  obtain ⟨fd, hfd, hmade⟩ := ho.made
  have happ : r.1.app = p.app := hr.app.trans ho.app
  have hothers : ∀ other : Int,
      (∀ made : Nat, calls.newSocket = true → calls.socket = some made → other ≠ made) →
        other ≠ fd ∧ p'.isOpen other = p.isOpen other ∧
          p'.registered other = p.registered other := by
    intro other hne
    exact ⟨hne fd halloc hfd, ho.others other fun made hm => hne made halloc hm⟩
  rcases hmade with ⟨hs, hopen⟩ | ⟨hs, hopen, hreg⟩
  · have hne : (fd : Int) ≠ -1 := by omega
    refine ⟨by simp [close, hr.fd, hs, hne, happ], ?_, ?_⟩
    · intro made _ hm
      obtain rfl : fd = made := by simpa [hfd] using hm
      simp [close, hne, hr.fd, hs]
    · intro other hother
      obtain ⟨hfd', ho1, ho2⟩ := hothers other hother
      have hreg := hr.registered other (Or.inl (by rw [hs]; exact hfd'))
      constructor
      · simp [close, hr.fd, hs, hne, hfd', hr.isOpen, ho1]
      · simp only [close, hr.fd, hs, hne, if_false]
        split
        · simp [hfd', hreg, ho2]
        · simp [hfd', hreg, ho2]
  · have heq : r.2.1.fd = -1 := hr.fd.trans hs
    have hsame : (r.1.close r.2.1 calls).1 = r.1 := by simp [close, heq]
    rw [hsame]
    refine ⟨happ, ?_, ?_⟩
    · intro made _ hm
      obtain rfl : fd = made := by simpa [hfd] using hm
      exact ⟨by rw [hr.isOpen, hopen], by rw [hr.registered fd (Or.inr hs), hreg]⟩
    · intro other hother
      obtain ⟨_, ho1, ho2⟩ := hothers other hother
      exact ⟨by rw [hr.isOpen, ho1], by rw [hr.registered other (Or.inr hs), ho2]⟩

theorem Undone.not_gained {p p' : SocketProcess} {calls : CreationCalls} (h : Undone p p' calls)
    (fd : Nat) (connects : Bool) : ¬Gained p p' fd connects := by
  intro hg
  obtain ⟨hnone, socket, hsocket⟩ := hg.sockets
  have hself : p'.app.sockets fd = some socket := by
    rw [hsocket]
    exact Function.update_self _ _ _
  rw [h.app, hnone] at hself
  exact absurd hself (by simp)

theorem Undone.whole {p p' : SocketProcess} {calls : CreationCalls} (h : Undone p p' calls)
    (connects : Bool) : Whole p p' calls connects false := by
  refine ⟨⟨fun hf => absurd hf (by simp), ?_⟩, fun _ => h⟩
  rintro ⟨fd, _, _, hg⟩
  exact absurd hg (h.not_gained fd connects)

theorem undone_same (p : SocketProcess) (calls : CreationCalls)
    (h : calls.newSocket = false ∨ calls.socket = none) : Undone p p calls := by
  refine ⟨rfl, ?_, fun _ _ => ⟨rfl, rfl⟩⟩
  intro fd hn hs
  rcases h with h | h
  · exact absurd (h.symm.trans hn) (by simp)
  · exact absurd (h.symm.trans hs) (by simp)

theorem Adopted.gained {p p' : SocketProcess} {calls : CreationCalls} {socket : OwnedSocket}
    {connects : Bool} {r : SocketProcess × OwnedSocket × Bool} (ho : Opened p p' calls socket)
    (ha : Adopted p' socket connects r) :
    ∃ fd : Nat, calls.socket = some fd ∧ socket.fd = fd ∧ Gained p r.1 fd connects := by
  obtain ⟨fd, hfd, hmade⟩ := ho.made
  rcases hmade with ⟨hs, hopen⟩ | ⟨hs, _, _⟩
  · refine ⟨fd, hfd, hs, ?_, ?_, ?_, ?_⟩
    · have h := ha.sockets
      rwa [ho.app, hs] at h
    · have h := ha.connections
      rwa [ho.app, hs] at h
    · rw [ha.isOpen, hopen]
    · have h := ha.attached
      rwa [hs] at h
  · exact absurd hs ha.fd

theorem Gained.whole {p p' : SocketProcess} {calls : CreationCalls} {fd : Nat} {connects : Bool}
    (halloc : calls.newSocket = true) (hfd : calls.socket = some fd)
    (h : Gained p p' fd connects) : Whole p p' calls connects true :=
  ⟨⟨fun _ => ⟨fd, halloc, hfd, h⟩, fun _ => rfl⟩, fun hf => absurd hf (by simp)⟩

/-- What is left once a build has failed, or has not. -/
theorem Opened.settled {p p' : SocketProcess} {calls : CreationCalls} {socket : OwnedSocket}
    {connects : Bool} {r : SocketProcess × OwnedSocket × Bool} (ho : Opened p p' calls socket)
    (halloc : calls.newSocket = true) (hr : Refused p' socket r ∨ Adopted p' socket connects r) :
    r = (r.1, r.2.1, false) ∧ Whole p (r.1.close r.2.1 calls).1 calls connects false ∨
      r = (r.1, r.2.1, true) ∧ socket.fd ≠ -1 ∧ Whole p r.1 calls connects true := by
  rcases hr with hr | ha
  · exact Or.inl ⟨hr.eq, (close_undone p p' calls socket r halloc ho hr).whole connects⟩
  · obtain ⟨fd, hfd, _, hg⟩ := ha.gained ho
    exact Or.inr ⟨ha.eq, ha.fd, hg.whole halloc hfd⟩

/-- Without a descriptor `Listen` answers true: its `return -1` is that of the two others. -/
theorem listen_noDescriptor (p : SocketProcess) (calls : CreationCalls)
    (halloc : calls.newSocket = true) (h : calls.socket = none) : p.listen calls = (p, true) := by
  simp [listen, openSocket, halloc, h, intToBool]

theorem listen_whole (p : SocketProcess) (calls : CreationCalls)
    (h : ¬(calls.newSocket = true ∧ calls.socket = none)) :
    Whole p (p.listen calls).1 calls false (p.listen calls).2 := by
  unfold listen
  split
  · rename_i halloc
    exact (undone_same p calls (Or.inl halloc)).whole false
  · rename_i halloc
    have halloc : calls.newSocket = true := by simpa using halloc
    rcases openSocket_cases p calls with ⟨hs, _⟩ | ⟨p', socket, hop, ho⟩
    · exact absurd ⟨halloc, hs⟩ h
    · rw [hop]
      dsimp only
      rcases ho.settled halloc (buildListenSocket_cases p' socket calls) with
        ⟨hr, hw⟩ | ⟨hr, _, hw⟩
      · rw [hr]
        exact hw
      · rw [hr]
        exact hw

theorem connect_whole (p : SocketProcess) (calls : CreationCalls) :
    Whole p (p.connect calls).1 calls true ((p.connect calls).2 ≠ -1) := by
  unfold connect
  split
  · rename_i halloc
    exact (undone_same p calls (Or.inl halloc)).whole true
  · rename_i halloc
    have halloc : calls.newSocket = true := by simpa using halloc
    rcases openSocket_cases p calls with ⟨hs, hop⟩ | ⟨p', socket, hop, ho⟩
    · rw [hop]
      exact (undone_same p calls (Or.inr hs)).whole true
    · rw [hop]
      dsimp only
      split
      · exact (close_undone p p' calls socket _ halloc ho (refused_same p' socket)).whole true
      rcases ho.settled halloc (buildConnectedSocket_cases p' socket calls) with
        ⟨hr, hw⟩ | ⟨hr, hfd, hw⟩
      · rw [hr]
        exact hw
      · rw [hr]
        simpa [hfd] using hw

theorem asyncConnect_whole (p : SocketProcess) (calls : CreationCalls) (timeoutMs : Int) :
    Whole p (p.asyncConnect calls timeoutMs).1 calls true
      ((p.asyncConnect calls timeoutMs).2 ≠ -1) := by
  unfold asyncConnect
  split
  · rename_i halloc
    exact (undone_same p calls (Or.inl halloc)).whole true
  · rename_i halloc
    have halloc : calls.newSocket = true := by simpa using halloc
    rcases openSocket_cases p calls with ⟨hs, hop⟩ | ⟨p', socket, hop, ho⟩
    · rw [hop]
      exact (undone_same p calls (Or.inr hs)).whole true
    · rw [hop]
      dsimp only
      split
      · exact (close_undone p p' calls socket _ halloc ho (refused_same p' socket)).whole true
      rcases ho.settled halloc (buildAsyncConnectSocket_cases p' socket calls timeoutMs) with
        ⟨hr, hw⟩ | ⟨hr, hfd, hw⟩
      · rw [hr]
        exact hw
      · rw [hr]
        simpa [hfd] using hw

/-- `Listen` is all or nothing exactly where a socket object has a descriptor to own, `Connect`
and `AsyncConnect` always. -/
theorem creation_whole_iff (p : SocketProcess) (calls : CreationCalls) (timeoutMs : Int) :
    (Whole p (p.listen calls).1 calls false (p.listen calls).2 ↔
      ¬(calls.newSocket = true ∧ calls.socket = none)) ∧
    Whole p (p.connect calls).1 calls true ((p.connect calls).2 ≠ -1) ∧
    Whole p (p.asyncConnect calls timeoutMs).1 calls true
      ((p.asyncConnect calls timeoutMs).2 ≠ -1) := by
  refine ⟨⟨?_, listen_whole p calls⟩, connect_whole p calls, asyncConnect_whole p calls timeoutMs⟩
  rintro hw ⟨halloc, hs⟩
  rw [listen_noDescriptor p calls halloc hs] at hw
  obtain ⟨fd, _, hfd, _⟩ := hw.1.mp rfl
  exact absurd (hs.symm.trans hfd) (by simp)

/-- Every call succeeds, but there is no descriptor left. -/
def exhaustedCalls : CreationCalls where
  newSocket := true
  socket := none
  closeExec := true
  reuseAddr := true
  tcpNoDelay := true
  nonblock := true
  bind := true
  listen := true
  connect := true
  epollAdd := true
  epollDel := true
  newConnection := true
  startTimer := true

def idleProcess : SocketProcess where
  app := .init 256 64 TcpSocketApp.socketBufferExtendSize_pos
  isOpen := fun _ => false
  registered := fun _ => false

theorem listen_reportsExhausted :
    (idleProcess.listen exhaustedCalls).2 = true ∧
    ¬∃ fd, Gained idleProcess (idleProcess.listen exhaustedCalls).1 fd false := by
  refine ⟨by decide, ?_⟩
  rintro ⟨fd, hg⟩
  have hopen : (idleProcess.listen exhaustedCalls).1.isOpen fd = false := rfl
  exact absurd (hopen.symm.trans hg.isOpen) (by decide)

/-! ## The calls of the application's machine -/

theorem buildListenSocket_app (p : SocketProcess) (socket : OwnedSocket) (calls : CreationCalls) :
    ∃ setup attach, (p.buildListenSocket socket calls).1.app =
      (p.app.buildListenSocket socket.fd setup attach).1 := by
  unfold buildListenSocket
  split
  · exact ⟨false, false, by simp [TcpSocketApp.buildListenSocket]⟩
  rename_i hnew
  iterate 5
    split
    · exact ⟨false, false, by simp [TcpSocketApp.buildListenSocket]⟩
  rcases attachEventLoop_cases p socket calls with h | ⟨_, h⟩
  · rw [h]
    exact ⟨true, false, by simp [TcpSocketApp.buildListenSocket]⟩
  · rw [h]
    exact ⟨true, true, by simp [TcpSocketApp.buildListenSocket, hnew]⟩

theorem buildConnectedSocket_app (p : SocketProcess) (socket : OwnedSocket)
    (calls : CreationCalls) :
    ∃ build, (p.buildConnectedSocket socket calls).1.app =
      (p.app.buildConnectedSocket socket.fd build).1 := by
  have hfailed : p.app = (p.app.buildConnectedSocket socket.fd ⟨false, false, false⟩).1 := by
    simp [TcpSocketApp.buildConnectedSocket]
  unfold buildConnectedSocket
  split
  · exact ⟨_, hfailed⟩
  rename_i hnew
  split
  · exact ⟨_, hfailed⟩
  rename_i hnew'
  iterate 3
    split
    · exact ⟨_, hfailed⟩
  rcases attachEventLoop_cases p socket calls with h | ⟨_, h⟩
  · rw [h]
    exact ⟨_, hfailed⟩
  · rw [h]
    dsimp only
    split
    · exact ⟨_, hfailed⟩
    · exact ⟨⟨true, true, true⟩, by simp [TcpSocketApp.buildConnectedSocket, hnew, hnew']⟩

theorem buildAsyncConnectSocket_app (p : SocketProcess) (socket : OwnedSocket)
    (calls : CreationCalls) (timeoutMs : Int) :
    ∃ build, (p.buildAsyncConnectSocket socket calls timeoutMs).1.app =
      (p.app.buildAsyncConnectSocket socket.fd build timeoutMs calls.startTimer).1 := by
  have hfailed : p.app = (p.app.buildAsyncConnectSocket socket.fd ⟨false, false, false⟩ timeoutMs
      calls.startTimer).1 := by
    simp [TcpSocketApp.buildAsyncConnectSocket]
  unfold buildAsyncConnectSocket
  split
  · exact ⟨_, hfailed⟩
  rename_i hnew
  split
  · exact ⟨_, hfailed⟩
  rename_i hnew'
  rcases attachEventLoop_cases p socket calls with h | ⟨_, h⟩
  · rw [h]
    exact ⟨_, hfailed⟩
  · rw [h]
    dsimp only
    split
    · exact ⟨_, hfailed⟩
    · exact ⟨⟨true, true, true⟩, by simp [TcpSocketApp.buildAsyncConnectSocket, hnew, hnew']⟩

theorem close_app (p : SocketProcess) (socket : OwnedSocket) (calls : CreationCalls) :
    (p.close socket calls).1.app = p.app := by
  unfold close
  split
  · rfl
  · rfl

/-- What the three calls do to the application is what calls of its machine do. -/
theorem listen_call (p : SocketProcess) (calls : CreationCalls) :
    ∃ sockfd setup attach,
      p.app.call (.listen sockfd setup attach) = some (p.listen calls).1.app := by
  have hfailed : p.app.call (.listen 0 false false) = some p.app := by
    simp [TcpSocketApp.call, TcpSocketApp.buildListenSocket]
  unfold listen
  split
  · exact ⟨_, _, _, hfailed⟩
  rcases openSocket_cases p calls with ⟨_, hop⟩ | ⟨p', socket, hop, ho⟩
  · rw [hop]
    exact ⟨_, _, _, hfailed⟩
  · rw [hop]
    dsimp only
    rcases buildListenSocket_cases p' socket calls with hr | ha
    · rw [hr.eq]
      refine ⟨0, false, false, hfailed.trans ?_⟩
      rw [close_app, hr.app, ho.app]
    · obtain ⟨setup, attach, h⟩ := buildListenSocket_app p' socket calls
      rw [ha.eq]
      refine ⟨socket.fd, setup, attach, ?_⟩
      simp only [TcpSocketApp.call, h, ho.app]

theorem connect_call (p : SocketProcess) (calls : CreationCalls) :
    ∃ sockfd established build,
      p.app.call (.connect sockfd established build) = some (p.connect calls).1.app := by
  have hfailed : p.app.call (.connect 0 false ⟨false, false, false⟩) = some p.app := rfl
  unfold connect
  split
  · exact ⟨_, _, _, hfailed⟩
  rcases openSocket_cases p calls with ⟨_, hop⟩ | ⟨p', socket, hop, ho⟩
  · rw [hop]
    exact ⟨_, _, _, hfailed⟩
  · rw [hop]
    dsimp only
    split
    · refine ⟨_, _, _, hfailed.trans ?_⟩
      rw [close_app, ho.app]
    rcases buildConnectedSocket_cases p' socket calls with hr | ha
    · rw [hr.eq]
      refine ⟨_, _, _, hfailed.trans ?_⟩
      rw [close_app, hr.app, ho.app]
    · obtain ⟨build, h⟩ := buildConnectedSocket_app p' socket calls
      rw [ha.eq]
      refine ⟨socket.fd, true, build, ?_⟩
      simp only [TcpSocketApp.call, h, ho.app, if_true]

theorem asyncConnect_call (p : SocketProcess) (calls : CreationCalls) (timeoutMs : Int) :
    ∃ sockfd started build,
      p.app.call (.asyncConnect sockfd started build timeoutMs calls.startTimer) =
        some (p.asyncConnect calls timeoutMs).1.app := by
  have hfailed : p.app.call (.asyncConnect 0 false ⟨false, false, false⟩ timeoutMs
      calls.startTimer) = some p.app := rfl
  unfold asyncConnect
  split
  · exact ⟨_, _, _, hfailed⟩
  rcases openSocket_cases p calls with ⟨_, hop⟩ | ⟨p', socket, hop, ho⟩
  · rw [hop]
    exact ⟨_, _, _, hfailed⟩
  · rw [hop]
    dsimp only
    split
    · refine ⟨_, _, _, hfailed.trans ?_⟩
      rw [close_app, ho.app]
    rcases buildAsyncConnectSocket_cases p' socket calls timeoutMs with hr | ha
    · rw [hr.eq]
      refine ⟨_, _, _, hfailed.trans ?_⟩
      rw [close_app, hr.app, ho.app]
    · obtain ⟨build, h⟩ := buildAsyncConnectSocket_app p' socket calls timeoutMs
      rw [ha.eq]
      refine ⟨socket.fd, true, build, ?_⟩
      simp only [TcpSocketApp.call, h, ho.app, if_true]

end SocketProcess

end Mysya
