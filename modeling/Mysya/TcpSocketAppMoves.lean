import Mysya.TcpSocketAppTables

/-!
# What a step of the socket application does

`Move` lists it once for every handler: the tables, the stack of running
handlers and the notices after the step, with the timers and the outcomes of
connects left out. `move_of_step` says that every step is one of them.
-/

namespace Mysya.TcpSocketApp

/-- The state but for the timers and the kernel's side of the connects. -/
def untimed (s : TcpSocketApp) : TcpSocketApp :=
  { s with timerSocketIds := fun _ => none
           socketTimerIds := fun _ => none
           timers := fun _ => none
           timerIds := 0
           connects := fun _ => none }

/-- Taking the timers away commutes with pushing a notice. -/
theorem untimed_notify (s : TcpSocketApp) (n : Notice) :
    (s.notify n).untimed = s.untimed.notify n := by
  by_cases hinstalled : s.installed n.callback = true
  · simp [notify, untimed, push, setStack, hinstalled]
  · simp [notify, untimed, hinstalled]

theorem untimed_removeSocketTimer (s : TcpSocketApp) (sockfd : Int) :
    (s.removeSocketTimer sockfd).untimed = s.untimed := by
  rw [removeSocketTimer]
  split
  · rfl
  · rfl

theorem untimed_addSocketTimer (s : TcpSocketApp) (sockfd : Int) (object : Nat)
    (startTimer : Bool) : (s.addSocketTimer sockfd object startTimer).untimed = s.untimed := by
  rw [addSocketTimer]
  split
  · rfl
  · rfl

theorem untimed_failConnection (s : TcpSocketApp) (sockfd : Int) (c : Connection)
    (handler : Handler) (timedOut : Option Nat) :
    (s.failConnection sockfd c handler timedOut).untimed =
      s.untimed.failConnection sockfd c handler timedOut :=
  untimed_notify _ _

/-- The descriptor whose connection an action is about. -/
def target (s : TcpSocketApp) : Action → Option Int
  | .sendMessage sockfd _ _ => some sockfd
  | .read sockfd _ _ _ => some sockfd
  | .write sockfd _ _ => some sockfd
  | .error sockfd _ _ => some sockfd
  | .timeout timerId => s.timerSocketIds timerId
  | _ => none

/-- What a step is, timers and outcomes of connects aside, with what holds before it. -/
inductive Move (s : TcpSocketApp) (a : Action) (s' : TcpSocketApp) : Prop where
  | idle : s'.untimed = s.untimed → Move s a s'
  | installed (callback : AppCallback) (present : Bool) : a = .setCallback callback present →
      s'.untimed = { s.untimed with
        installed := Function.update s.installed callback present } → Move s a s'
  | returned {rest : List Frame} : a = .ret → s.stack = .callback :: rest →
      s'.untimed = s.untimed.setStack rest → Move s a s'
  | accepting {sockfd : Int} {socket : TcpSocket} : s.stack = [] →
      s.sockets sockfd = some socket →
      s'.untimed = s.untimed.push (.accept sockfd socket.object) → Move s a s'
  | acceptDone {sockfd : Int} {object : Nat} {rest : List Frame} :
      s.stack = .accept sockfd object :: rest → s'.untimed = s.untimed.setStack rest → Move s a s'
  | accepted {listenSockfd : Int} {listenObject : Nat} {rest : List Frame} {sockfd : Int}
      (socket : TcpSocket) : s.stack = .accept listenSockfd listenObject :: rest →
      s.sockets sockfd = none → s.connections sockfd = none → socket.object = s.objects →
      socket.writeCallback = none →
      s'.untimed = (s.untimed.insert sockfd socket).notify
        ⟨socket.object, .onListenRead, .connection⟩ → Move s a s'
  | listened {sockfd : Int} {socket : TcpSocket} : s.AppRuns → s.sockets sockfd = none →
      socket.object = s.objects → socket.writeCallback = none →
      s'.untimed = { s.untimed.setSocket sockfd socket with objects := s.objects + 1 } →
      Move s a s'
  | inserted {sockfd : Int} (socket : TcpSocket) : s.AppRuns → s.sockets sockfd = none →
      s.connections sockfd = none → socket.object = s.objects →
      (socket.writeCallback = some .onConnectWrite → socket.readCallback = none) →
      s'.untimed = s.untimed.insert sockfd socket → Move s a s'
  | established {sockfd : Int} {socket : TcpSocket} {c : Connection} : s.stack = [] →
      s.target a = some sockfd → s.sockets sockfd = some socket →
      socket.writeCallback = some .onConnectWrite → s.connections sockfd = some c →
      s'.untimed = (s.untimed.setSocket sockfd socket.establish).notify
        ⟨socket.object, .onConnectWrite, .connection⟩ → Move s a s'
  | touched {sockfd : Int} {c : Connection} (c' : Connection) : s.connections sockfd = some c →
      c'.tcpSocket = c.tcpSocket → s'.untimed = s.untimed.setConnection sockfd c' → Move s a s'
  | completed {sockfd : Int} {c : Connection} (c' : Connection) (handler : Handler) : s.AppRuns →
      s.target a = some sockfd → s.connections sockfd = some c → c'.tcpSocket = c.tcpSocket →
      handler ≠ .onListenError → s'.untimed = (s.untimed.setConnection sockfd c').notify
        ⟨c'.tcpSocket, handler, .sendComplete⟩ → Move s a s'
  | failed {sockfd : Int} {c : Connection} (c' : Connection) (handler : Handler)
      (timedOut : Option Nat) : s.AppRuns → s.target a = some sockfd →
      (s.stack = [] ∨ ∃ m w, a = .sendMessage sockfd m w ∧ (c.sendMessage m w).2 = .refused) →
      s.connections sockfd = some c → c'.tcpSocket = c.tcpSocket → handler ≠ .onListenError →
      s'.untimed = s.untimed.failConnection sockfd c' handler timedOut → Move s a s'
  | listenFailed {sockfd : Int} {object : Nat} : s.stack = [] →
      s'.untimed = (s.untimed.push (.close sockfd none)).notify
        ⟨object, .onListenError, .error⟩ → Move s a s'
  | received {sockfd : Int} {socket : TcpSocket} {c : Connection} (c' : Connection) :
      s.stack = [] → s.target a = some sockfd → s.sockets sockfd = some socket →
      socket.readCallback = some .onSocketRead → s.connections sockfd = some c →
      c'.tcpSocket = c.tcpSocket →
      s'.untimed = ((s.untimed.setConnection sockfd c').push
        (.received sockfd c'.tcpSocket false)).notify ⟨c'.tcpSocket, .onSocketRead, .receive⟩ →
      Move s a s'
  | unreceived {sockfd : Int} {socket : TcpSocket} {c : Connection} (c' : Connection)
      (peerClosed : Bool) :
      s.stack = [] → s.target a = some sockfd → s.sockets sockfd = some socket →
      socket.readCallback = some .onSocketRead → s.connections sockfd = some c →
      c'.tcpSocket = c.tcpSocket →
      s'.untimed = (s.untimed.setConnection sockfd c').push
        (.received sockfd c'.tcpSocket peerClosed) → Move s a s'
  | closed {sockfd : Int} : a = .close sockfd → s.AppRuns →
      s'.untimed = s.untimed.closeSocket sockfd → Move s a s'
  | closing {sockfd : Int} {timedOut : Option Nat} {rest : List Frame} : a = .resume →
      s.stack = .close sockfd timedOut :: rest →
      s'.untimed = (s.untimed.setStack rest).closeSocket sockfd → Move s a s'
  | readDone {sockfd : Int} {object : Nat} {rest : List Frame} : a = .resume →
      s.stack = .received sockfd object false :: rest → s'.untimed = s.untimed.setStack rest →
      Move s a s'
  | peerClosed {sockfd : Int} {object : Nat} {rest : List Frame} : a = .resume →
      s.stack = .received sockfd object true :: rest →
      s'.untimed = (s.untimed.setStack rest).notify ⟨object, .onSocketRead, .close⟩ → Move s a s'

variable {s s' : TcpSocketApp}

theorem buildListenSocket_move (runs : s.AppRuns) (a : Action) (sockfd : Int)
    (setup attach : Bool) : Move s a (s.buildListenSocket sockfd setup attach).1 := by
  rw [buildListenSocket]
  split
  · exact .idle rfl
  · rename_i hfree
    split
    · exact .idle rfl
    · split
      · exact .idle rfl
      · exact .listened runs (by simpa using hfree) rfl rfl rfl

/-- Either nothing is built, or both tables were free at the descriptor. -/
theorem buildConnectedSocket_cases (s : TcpSocketApp) (sockfd : Int) (build : BuildCalls) :
    s.buildConnectedSocket sockfd build = (s, false) ∨
      s.sockets sockfd = none ∧ s.connections sockfd = none ∧
        s.buildConnectedSocket sockfd build =
          (s.insert sockfd (.attach s.objects (some .onSocketRead) none (some .onSocketError)),
            true) := by
  rw [buildConnectedSocket]
  split
  · exact Or.inl rfl
  · rename_i hfree
    split
    · exact Or.inl rfl
    · rename_i hfree'
      split
      · exact Or.inl rfl
      · split
        · exact Or.inl rfl
        · split
          · exact Or.inl rfl
          · exact Or.inr ⟨by simpa using hfree, by simpa using hfree', rfl⟩

theorem buildAsyncConnectSocket_cases (s : TcpSocketApp) (sockfd : Int) (build : BuildCalls)
    (timeoutMs : Int) (startTimer : Bool) :
    s.buildAsyncConnectSocket sockfd build timeoutMs startTimer = (s, false) ∨
      s.sockets sockfd = none ∧ s.connections sockfd = none ∧
        (s.buildAsyncConnectSocket sockfd build timeoutMs startTimer).1.untimed =
          s.untimed.insert sockfd
            (.attach s.objects none (some .onConnectWrite) (some .onConnectError)) := by
  rw [buildAsyncConnectSocket]
  split
  · exact Or.inl rfl
  · rename_i hfree
    split
    · exact Or.inl rfl
    · rename_i hfree'
      split
      · exact Or.inl rfl
      · split
        · exact Or.inl rfl
        · refine Or.inr ⟨by simpa using hfree, by simpa using hfree', ?_⟩
          dsimp only
          split
          · exact untimed_addSocketTimer _ _ _ _
          · rfl

theorem onConnectWrite_move (idle : s.stack = []) {sockfd : Int} {socket : TcpSocket}
    (h : s.sockets sockfd = some socket) (hwrite : socket.writeCallback = some .onConnectWrite)
    (event : EpollEvent) (w : WriteResult) :
    Move s (.write sockfd event w) (s.onConnectWrite sockfd socket) := by
  rw [onConnectWrite]
  split
  · exact .idle (untimed_removeSocketTimer s sockfd)
  · rename_i c hc
    rw [removeSocketTimer_connections] at hc
    refine .established idle rfl h hwrite hc ?_
    rw [untimed_notify]
    exact congrArg (fun t => (setSocket t sockfd socket.establish).notify _)
      (untimed_removeSocketTimer s sockfd)

theorem onConnectError_move (idle : s.stack = []) (sockfd errno : Int) (event : EpollEvent) :
    Move s (.error sockfd event errno) (s.onConnectError sockfd errno) := by
  rw [onConnectError]
  split
  · exact .idle (untimed_removeSocketTimer s sockfd)
  · rename_i c hc
    rw [removeSocketTimer_connections] at hc
    refine .failed (c.setErrno errno) .onConnectError none (Or.inl idle) rfl (Or.inl idle) hc rfl
      (by decide) ?_
    rw [untimed_failConnection, untimed_removeSocketTimer]

/-- `t` is the state after the timer has left the table of timers. -/
theorem onConnectTimeout_move {t : TcpSocketApp} (idle : s.stack = [])
    (hids : t.timerSocketIds = s.timerSocketIds) (huntimed : t.untimed = s.untimed)
    (hconnections : t.connections = s.connections) (timerId : Int) (started : Nat) :
    Move s (.timeout timerId) (t.onConnectTimeout timerId started) := by
  rw [onConnectTimeout]
  split
  · exact .idle huntimed
  · rename_i sockfd hid
    rw [hids] at hid
    dsimp only
    split
    · exact .idle huntimed
    · rename_i c hc
      rw [hconnections] at hc
      refine .failed (c.setErrno ETIMEDOUT) .onConnectTimeout (some started) (Or.inl idle) hid
        (Or.inl idle) hc rfl (by decide) ?_
      rw [untimed_failConnection]
      exact congrArg (fun t => failConnection t sockfd _ _ _) huntimed

/-- One round of the loop of `OnSocketRead` receives or finds the peer closed, never both. -/
theorem receive_not_both (c c' : Connection) (readableSize : Int) (r : ReadResult) :
    c.receive readableSize r ≠ (c', .done true true) := by
  rw [Connection.receive]
  split
  · simp
  · cases r with
    | received data =>
      dsimp only
      split
      · simp
      · simp
    | again => simp
    | failed errno => simp

/-- The `received` frame lies under the notice: the peer's close is told after the callback. -/
theorem onSocketRead_move (idle : s.stack = []) {sockfd readableSize : Int} {r : ReadResult}
    {event : EpollEvent} {socket : TcpSocket} (hsocket : s.sockets sockfd = some socket)
    (hread : socket.readCallback = some .onSocketRead)
    (h : s.onSocketRead sockfd readableSize r = some s') :
    Move s (.read sockfd event readableSize r) s' := by
  rw [onSocketRead] at h
  split at h
  · cases h
    exact .idle rfl
  · rename_i c hc
    have hsame := c.receive_tcpSocket readableSize r
    split at h
    · split at h
      · rename_i c' hreceive
        cases h
        rw [hreceive] at hsame
        exact .failed c' .onSocketRead none (Or.inl idle) rfl (Or.inl idle) hc hsame (by decide)
          (untimed_failConnection _ _ _ _ _)
      · rename_i c' received peerClosed hreceive
        rw [hreceive] at hsame
        cases h
        cases received with
        | true =>
          cases peerClosed with
          | true => exact absurd hreceive (receive_not_both c c' readableSize r)
          | false =>
            refine .received c' idle rfl hsocket hread hc hsame ?_
            exact untimed_notify _ _
        | false => exact .unreceived c' peerClosed idle rfl hsocket hread hc hsame rfl
    · cases h

theorem onSocketWrite_move (idle : s.stack = []) {sockfd : Int} {w : WriteResult}
    {event : EpollEvent} (h : s.onSocketWrite sockfd w = some s') :
    Move s (.write sockfd event w) s' := by
  rw [onSocketWrite] at h
  split at h
  · cases h
    exact .idle rfl
  · rename_i c hc
    have hsame : (c.flush w).1.tcpSocket = c.tcpSocket :=
      Connection.Touched.tcpSocket (.flush w : c.Touched (fun _ _ => False) _)
    dsimp only at h
    split at h
    · cases h
      exact .idle rfl
    · split at h
      · split at h
        · rename_i c' hflush
          cases h
          rw [hflush] at hsame
          exact .failed c' .onSocketWrite none (Or.inl idle) rfl (Or.inl idle) hc hsame (by decide)
            (untimed_failConnection _ _ _ _ _)
        · rename_i c' hflush
          rw [hflush] at hsame
          cases h
          split
          · exact .completed c' .onSocketWrite (Or.inl idle) rfl hc hsame (by decide)
              (untimed_notify _ _)
          · exact .touched c' hc hsame rfl
      · cases h

theorem onSocketError_move (idle : s.stack = []) (sockfd errno : Int) (event : EpollEvent) :
    Move s (.error sockfd event errno) (s.onSocketError sockfd errno) := by
  rw [onSocketError]
  split
  · exact .idle rfl
  · rename_i c hc
    exact .failed (c.setErrno errno) .onSocketError none (Or.inl idle) rfl (Or.inl idle) hc rfl
      (by decide) (untimed_failConnection _ _ _ _ _)

/-- A message may be refused inside a callback too, so `failed` does not ask for an empty stack. -/
theorem sendMessage_move (runs : s.AppRuns) {sockfd : Int} {m : Message} {w : WriteResult}
    (h : s.sendMessage sockfd m w = some s') : Move s (.sendMessage sockfd m w) s' := by
  rw [sendMessage] at h
  split at h
  · cases h
    exact .idle rfl
  · rename_i c hc
    split at h
    · have hsame := c.sendMessage_tcpSocket m w
      split at h
      · rename_i c' hsend
        cases h
        rw [hsend] at hsame
        exact .failed c' .sendMessage none runs rfl (Or.inr ⟨m, w, rfl, by rw [hsend]⟩) hc hsame
          (by decide)
          (untimed_failConnection _ _ _ _ _)
      · rename_i c' hsend
        cases h
        rw [hsend] at hsame
        exact .touched c' hc hsame rfl
      · rename_i c' hsend
        cases h
        rw [hsend] at hsame
        exact .completed c' .sendMessage runs rfl hc hsame (by decide)
          (untimed_notify _ _)
    · cases h

theorem acceptRound_move {a : Action} {listenSockfd : Int} {listenObject : Nat} {rest : List Frame}
    (hstack : s.stack = .accept listenSockfd listenObject :: rest) (r : AcceptResult) :
    Move s a (s.acceptRound rest r) := by
  cases r with
  | accepted sockfd build =>
    rw [acceptRound]
    rcases buildConnectedSocket_cases s sockfd build with hbuild | ⟨hfree, hfree', hbuild⟩
    · rw [hbuild]
      exact .idle rfl
    · rw [hbuild]
      exact .accepted (.attach s.objects (some .onSocketRead) none (some .onSocketError)) hstack
        hfree hfree' rfl rfl (untimed_notify _ _)
  | aborted => exact .idle rfl
  | again => exact .acceptDone hstack rfl
  | failed => exact .acceptDone hstack rfl

theorem resume_move (h : s.resume = some s') : Move s .resume s' := by
  rw [resume] at h
  split at h
  · rename_i hstack
    cases h
    exact .closing rfl hstack rfl
  · rename_i object peerClosed rest hstack
    cases h
    cases peerClosed with
    | true => exact .peerClosed rfl hstack (untimed_notify _ _)
    | false => exact .readDone rfl hstack rfl
  · cases h

theorem call_move (runs : s.AppRuns) {a : Action} (h : s.call a = some s') : Move s a s' := by
  cases a with
  | setCallback callback present => cases h; exact .installed callback present rfl rfl
  | listen sockfd setup attach => cases h; exact buildListenSocket_move runs _ _ _ _
  | connect sockfd established build =>
    cases h
    split
    · rcases buildConnectedSocket_cases s sockfd build with hbuild | ⟨hfree, hfree', hbuild⟩
      · rw [hbuild]
        exact .idle rfl
      · rw [hbuild]
        exact .inserted (.attach s.objects (some .onSocketRead) none (some .onSocketError)) runs
          hfree hfree' rfl (fun hwrite => by cases hwrite) rfl
    · exact .idle rfl
  | asyncConnect sockfd started build timeoutMs startTimer =>
    cases h
    split
    · rcases buildAsyncConnectSocket_cases s sockfd build timeoutMs startTimer with
        hbuild | ⟨hfree, hfree', huntimed⟩
      · rw [hbuild]
        exact .idle rfl
      · exact .inserted (.attach s.objects none (some .onConnectWrite) (some .onConnectError)) runs
          hfree hfree' rfl (fun _ => rfl) huntimed
    · exact .idle rfl
  | sendMessage sockfd m w => exact sendMessage_move runs h
  | close sockfd => cases h; exact .closed rfl runs rfl
  | readBytes sockfd size =>
    rw [call] at h
    split at h
    · cases h
    · rename_i c hc
      cases h
      exact .touched { c with receiveBuffer := c.receiveBuffer.readBytes size } hc rfl rfl
  | _ => cases h

theorem dispatch_move (idle : s.stack = []) {a : Action} (h : s.dispatch a = some s') :
    Move s a s' := by
  cases a with
  | read sockfd event readableSize r =>
    rw [dispatch] at h
    split at h
    · cases h
    · rename_i socket hsocket
      split at h
      · cases h
      · split at h
        · cases h; exact .idle rfl
        · cases h; exact .accepting idle hsocket rfl
        · rename_i hread
          exact onSocketRead_move idle hsocket hread h
  | write sockfd event w =>
    rw [dispatch] at h
    split at h
    · cases h
    · rename_i socket hsocket
      split at h
      · cases h
      · split at h
        · cases h; exact .idle rfl
        · rename_i hwrite
          cases h
          exact onConnectWrite_move idle hsocket hwrite event w
        · exact onSocketWrite_move idle h
  | error sockfd event errno =>
    rw [dispatch] at h
    split at h
    · cases h
    · split at h
      · cases h
      · split at h
        · cases h; exact .idle rfl
        · cases h; exact .listenFailed idle (untimed_notify _ _)
        · cases h; exact onConnectError_move idle sockfd errno event
        · cases h; exact onSocketError_move idle sockfd errno event
  | timeout timerId =>
    rw [dispatch] at h
    split at h
    · cases h
    · cases h
      exact onConnectTimeout_move
        (t := { s with timers := Function.update s.timers timerId none }) idle rfl rfl rfl _ _
  | _ => cases h

/-- Every step of the application is one of the moves. -/
theorem move_of_step {a : Action} (h : s.step a = some s') : Move s a s' := by
  rcases step_cases h with ⟨rest, rfl, hstack, rfl⟩ | ⟨rfl, hresume⟩ |
    ⟨r, sockfd, object, rest, rfl, hstack, rfl⟩ | ⟨object, success, status, rfl, hpending, rfl⟩ |
    ⟨idle, hdispatch⟩ | ⟨runs, hcall⟩
  · exact .returned rfl hstack rfl
  · exact resume_move hresume
  · exact acceptRound_move hstack r
  · exact .idle rfl
  · exact dispatch_move idle hdispatch
  · exact call_move runs hcall

end Mysya.TcpSocketApp
