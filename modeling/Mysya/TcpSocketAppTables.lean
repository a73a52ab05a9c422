import Mysya.TcpSocketApp
import Mysya.Tables

/-!
# What a step does to the tables

`sockets` and `connections` change in five ways only. `Effect` lists them, and
`step_effect` says that every step is one of them; what a step does to the
stack, the timers and the notices is left open here.
-/

namespace Mysya.TcpSocketApp

section Frames

variable (s : TcpSocketApp) (n : Notice) (sockfd : Int) (c : Connection)

/-- A notice goes on the stack or is dropped; the tables do not see it. -/
theorem notify_sockets : (s.notify n).sockets = s.sockets := by
  unfold notify
  split <;> rfl

theorem notify_connections : (s.notify n).connections = s.connections := by
  unfold notify
  split <;> rfl

theorem removeSocketTimer_sockets : (s.removeSocketTimer sockfd).sockets = s.sockets := by
  unfold removeSocketTimer
  split <;> rfl

theorem removeSocketTimer_connections :
    (s.removeSocketTimer sockfd).connections = s.connections := by
  unfold removeSocketTimer
  split <;> rfl

theorem addSocketTimer_sockets (object : Nat) (startTimer : Bool) :
    (s.addSocketTimer sockfd object startTimer).sockets = s.sockets := by
  unfold addSocketTimer
  split <;> rfl

theorem addSocketTimer_connections (object : Nat) (startTimer : Bool) :
    (s.addSocketTimer sockfd object startTimer).connections = s.connections := by
  unfold addSocketTimer
  split <;> rfl

theorem failConnection_sockets (handler : Handler) (timedOut : Option Nat) :
    (s.failConnection sockfd c handler timedOut).sockets = s.sockets :=
  notify_sockets _ _

/-- The connection that failed stays in its table until its `Close` frame is resumed. -/
theorem failConnection_connections (handler : Handler) (timedOut : Option Nat) :
    (s.failConnection sockfd c handler timedOut).connections =
      Function.update s.connections sockfd (some c) :=
  notify_connections _ _

end Frames

/-- The messages an action asks to send on a descriptor. -/
def Asked (a : Action) (sockfd : Int) (m : Message) (w : WriteResult) : Prop :=
  a = .sendMessage sockfd m w

/-- The five ways a step leaves the two tables, and the step that touches neither. -/
inductive Effect (s : TcpSocketApp) (a : Action) (s' : TcpSocketApp) : Prop where
  | frame : s'.sockets = s.sockets → s'.connections = s.connections → Effect s a s'
  | listened (sockfd : Int) (socket : TcpSocket) : s.sockets sockfd = none →
      s'.sockets = Function.update s.sockets sockfd (some socket) →
      s'.connections = s.connections → Effect s a s'
  | inserted (sockfd : Int) (socket : TcpSocket) :
      s.sockets sockfd = none → s.connections sockfd = none →
      socket = socket.register →
      s'.sockets = Function.update s.sockets sockfd (some socket) →
      s'.connections = Function.update s.connections sockfd (some (.new socket.object
        s.socketBufferInitSize s.socketBufferExtendSize s.extendPositive)) → Effect s a s'
  | touched (sockfd : Int) (c c' : Connection) : s.connections sockfd = some c →
      c.Touched (Asked a sockfd) c' → s'.sockets = s.sockets →
      s'.connections = Function.update s.connections sockfd (some c') → Effect s a s'
  | established (sockfd : Int) (socket : TcpSocket) : s.sockets sockfd = some socket →
      s'.sockets = Function.update s.sockets sockfd (some socket.establish) →
      s'.connections = s.connections → Effect s a s'
  | closed (sockfd : Int) : s'.sockets = Function.update s.sockets sockfd none →
      s'.connections = Function.update s.connections sockfd none → Effect s a s'

/-- Only the tables of the state after the step matter. -/
theorem Effect.congr {s s' t : TcpSocketApp} {a : Action} (h : Effect s a s')
    (hsockets : t.sockets = s'.sockets) (hconnections : t.connections = s'.connections) :
    Effect s a t := by
  cases h with
  | frame h1 h2 => exact .frame (hsockets.trans h1) (hconnections.trans h2)
  | listened fd socket h0 h1 h2 =>
    exact .listened fd socket h0 (hsockets.trans h1) (hconnections.trans h2)
  | inserted fd socket h0 h0' hr h1 h2 =>
    exact .inserted fd socket h0 h0' hr (hsockets.trans h1) (hconnections.trans h2)
  | touched fd c c' h0 ht h1 h2 =>
    exact .touched fd c c' h0 ht (hsockets.trans h1) (hconnections.trans h2)
  | established fd socket h0 h1 h2 =>
    exact .established fd socket h0 (hsockets.trans h1) (hconnections.trans h2)
  | closed fd h1 h2 => exact .closed fd (hsockets.trans h1) (hconnections.trans h2)

theorem Effect.notify {s s' : TcpSocketApp} {a : Action} (h : Effect s a s') (n : Notice) :
    Effect s a (s'.notify n) :=
  h.congr (notify_sockets s' n) (notify_connections s' n)

theorem failConnection_effect {s t : TcpSocketApp} {a : Action} {sockfd : Int} {c c' : Connection}
    (hsockets : t.sockets = s.sockets) (hconnections : t.connections = s.connections)
    (hc : s.connections sockfd = some c) (touched : c.Touched (Asked a sockfd) c') (handler : Handler)
    (timedOut : Option Nat) : Effect s a (t.failConnection sockfd c' handler timedOut) :=
  .touched sockfd c c' hc touched ((failConnection_sockets t sockfd c' handler timedOut).trans hsockets)
    ((failConnection_connections t sockfd c' handler timedOut).trans (by rw [hconnections]))

/-- A listening socket gets no connection. -/
theorem buildListenSocket_effect (s : TcpSocketApp) (a : Action) (sockfd : Int)
    (setup attach : Bool) : Effect s a (s.buildListenSocket sockfd setup attach).1 := by
  unfold buildListenSocket
  split
  · exact .frame rfl rfl
  · rename_i hfree
    split
    · exact .frame rfl rfl
    · split
      · exact .frame rfl rfl
      · exact .listened sockfd _ (by simpa using hfree) rfl rfl

/-- A connected socket enters both tables, or neither when a call of it fails. -/
theorem buildConnectedSocket_effect (s : TcpSocketApp) (a : Action) (sockfd : Int)
    (build : BuildCalls) : Effect s a (s.buildConnectedSocket sockfd build).1 := by
  unfold buildConnectedSocket
  split
  · exact .frame rfl rfl
  · rename_i hfree
    split
    · exact .frame rfl rfl
    · rename_i hfree'
      split
      · exact .frame rfl rfl
      · split
        · exact .frame rfl rfl
        · split
          · exact .frame rfl rfl
          · exact .inserted sockfd _ (by simpa using hfree) (by simpa using hfree') rfl rfl rfl

theorem buildAsyncConnectSocket_effect (s : TcpSocketApp) (a : Action) (sockfd : Int)
    (build : BuildCalls) (timeoutMs : Int) (startTimer : Bool) :
    Effect s a (s.buildAsyncConnectSocket sockfd build timeoutMs startTimer).1 := by
  unfold buildAsyncConnectSocket
  split
  · exact .frame rfl rfl
  · rename_i hfree
    split
    · exact .frame rfl rfl
    · rename_i hfree'
      split
      · exact .frame rfl rfl
      · split
        · exact .frame rfl rfl
        · refine .inserted sockfd (.attach s.objects none (some .onConnectWrite)
            (some .onConnectError)) (by simpa using hfree) (by simpa using hfree') rfl ?_ ?_
          · dsimp only
            split
            · exact addSocketTimer_sockets _ _ _ _
            · rfl
          · dsimp only
            split
            · exact addSocketTimer_connections _ _ _ _
            · rfl

theorem onConnectWrite_effect {s : TcpSocketApp} {sockfd : Int} {socket : TcpSocket}
    (h : s.sockets sockfd = some socket) (a : Action) :
    Effect s a (s.onConnectWrite sockfd socket) := by
  unfold onConnectWrite
  dsimp only
  split
  · exact .frame (removeSocketTimer_sockets s sockfd) (removeSocketTimer_connections s sockfd)
  · refine Effect.notify ?_ _
    exact .established sockfd socket h
      (congrArg (Function.update · sockfd _) (removeSocketTimer_sockets s sockfd))
      (removeSocketTimer_connections s sockfd)

theorem onConnectError_effect (s : TcpSocketApp) (a : Action) (sockfd errno : Int) :
    Effect s a (s.onConnectError sockfd errno) := by
  unfold onConnectError
  dsimp only
  split
  · exact .frame (removeSocketTimer_sockets s sockfd) (removeSocketTimer_connections s sockfd)
  · rename_i c hc
    rw [removeSocketTimer_connections] at hc
    exact failConnection_effect (removeSocketTimer_sockets s sockfd)
      (removeSocketTimer_connections s sockfd) hc (.errno errno) _ _

/-- `t` is the state after the timer has left the table of timers. -/
theorem onConnectTimeout_effect {s t : TcpSocketApp} (hsockets : t.sockets = s.sockets)
    (hconnections : t.connections = s.connections) (a : Action) (timerId : Int) (started : Nat) :
    Effect s a (t.onConnectTimeout timerId started) := by
  unfold onConnectTimeout
  split
  · exact .frame hsockets hconnections
  · dsimp only
    split
    · exact .frame hsockets hconnections
    · rename_i c hc
      rw [hconnections] at hc
      refine failConnection_effect ?_ ?_ hc (.errno _) _ _
      · exact hsockets
      · exact hconnections

/-- Every answer of `receive` leaves its connection in place, a failed one for its `Close` frame. -/
theorem onSocketRead_effect {s s' : TcpSocketApp} {sockfd readableSize : Int} {r : ReadResult}
    (h : s.onSocketRead sockfd readableSize r = some s') (a : Action) : Effect s a s' := by
  unfold onSocketRead at h
  split at h
  · cases h
    exact .frame rfl rfl
  · rename_i c hc
    split at h
    · split at h
      · rename_i c' hreceive
        cases h
        have touched : c.Touched (Asked a sockfd) c' := by
          have : c.Touched (Asked a sockfd) _ := .receive readableSize r
          rwa [hreceive] at this
        exact failConnection_effect rfl rfl hc touched _ _
      · rename_i c' received peerClosed hreceive
        have touched : c.Touched (Asked a sockfd) c' := by
          have : c.Touched (Asked a sockfd) _ := .receive readableSize r
          rwa [hreceive] at this
        have stored : Effect s a ((s.setConnection sockfd c').push
            (.received sockfd c'.tcpSocket peerClosed)) := .touched sockfd c c' hc touched rfl rfl
        cases h
        split
        · exact stored.notify _
        · exact stored
    · cases h

theorem onSocketWrite_effect {s s' : TcpSocketApp} {sockfd : Int} {w : WriteResult}
    (h : s.onSocketWrite sockfd w = some s') (a : Action) : Effect s a s' := by
  unfold onSocketWrite at h
  split at h
  · cases h
    exact .frame rfl rfl
  · rename_i c hc
    have touched : c.Touched (Asked a sockfd) (c.flush w).1 := .flush w
    dsimp only at h
    split at h
    · cases h
      exact .frame rfl rfl
    · split at h
      · split at h
        · rename_i c' hflush
          cases h
          rw [hflush] at touched
          exact failConnection_effect rfl rfl hc touched _ _
        · rename_i c' hflush
          rw [hflush] at touched
          have stored : Effect s a (s.setConnection sockfd c') :=
            .touched sockfd c c' hc touched rfl rfl
          cases h
          split
          · exact stored.notify _
          · exact stored
      · cases h

theorem onSocketError_effect (s : TcpSocketApp) (a : Action) (sockfd errno : Int) :
    Effect s a (s.onSocketError sockfd errno) := by
  unfold onSocketError
  split
  · exact .frame rfl rfl
  · rename_i c hc
    exact failConnection_effect rfl rfl hc (.errno errno) _ _

theorem sendMessage_effect {s s' : TcpSocketApp} {sockfd : Int} {m : Message} {w : WriteResult}
    (h : s.sendMessage sockfd m w = some s') : Effect s (.sendMessage sockfd m w) s' := by
  unfold sendMessage at h
  split at h
  · cases h
    exact .frame rfl rfl
  · rename_i c hc
    split at h
    · rename_i fits
      have touched : c.Touched (Asked (.sendMessage sockfd m w) sockfd) (c.sendMessage m w).1 :=
        .send m w rfl fits
      split at h
      · rename_i c' hsend
        cases h
        rw [hsend] at touched
        exact failConnection_effect rfl rfl hc touched _ _
      · rename_i c' hsend
        cases h
        rw [hsend] at touched
        exact .touched sockfd c c' hc touched rfl rfl
      · rename_i c' hsend
        cases h
        rw [hsend] at touched
        refine Effect.notify ?_ _
        exact .touched sockfd c c' hc touched rfl rfl
    · cases h

theorem acceptRound_effect (s : TcpSocketApp) (a : Action) (rest : List Frame) (r : AcceptResult) :
    Effect s a (s.acceptRound rest r) := by
  cases r with
  | accepted sockfd build =>
    have built := buildConnectedSocket_effect s a sockfd build
    rw [acceptRound]
    split
    · rename_i t hbuild
      rwa [hbuild] at built
    · rename_i t hbuild
      rw [hbuild] at built
      exact built.notify _
  | aborted => exact .frame rfl rfl
  | again => exact .frame rfl rfl
  | failed => exact .frame rfl rfl

/-- The `Close` that follows an error takes the descriptor out of both tables. -/
theorem resume_effect {s s' : TcpSocketApp} (h : s.resume = some s') (a : Action) :
    Effect s a s' := by
  unfold resume at h
  split at h
  · cases h
    exact .closed _ rfl rfl
  · cases h
    split
    · refine Effect.notify ?_ _
      exact .frame rfl rfl
    · exact .frame rfl rfl
  · cases h

theorem call_effect {s s' : TcpSocketApp} {a : Action} (h : s.call a = some s') :
    Effect s a s' := by
  cases a with
  | setCallback callback present => cases h; exact .frame rfl rfl
  | listen sockfd setup attach => cases h; exact buildListenSocket_effect s _ _ _ _
  | connect sockfd established build =>
    cases h
    split
    · exact buildConnectedSocket_effect s _ _ _
    · exact .frame rfl rfl
  | asyncConnect sockfd started build timeoutMs startTimer =>
    cases h
    split
    · exact buildAsyncConnectSocket_effect s _ _ _ _ _
    · exact .frame rfl rfl
  | sendMessage sockfd m w => exact sendMessage_effect h
  | close sockfd => cases h; exact .closed sockfd rfl rfl
  | readBytes sockfd size =>
    rw [call] at h
    split at h
    · cases h
    · rename_i c hc
      cases h
      exact .touched sockfd c _ hc (.consume size .refl) rfl rfl
  | _ => cases h

theorem dispatch_effect {s s' : TcpSocketApp} {a : Action} (h : s.dispatch a = some s') :
    Effect s a s' := by
  cases a with
  | read sockfd event readableSize r =>
    rw [dispatch] at h
    split at h
    · cases h
    · split at h
      · cases h
      · split at h
        · cases h; exact .frame rfl rfl
        · cases h; exact .frame rfl rfl
        · exact onSocketRead_effect h _
  | write sockfd event w =>
    rw [dispatch] at h
    split at h
    · cases h
    · rename_i socket hsocket
      split at h
      · cases h
      · split at h
        · cases h; exact .frame rfl rfl
        · cases h; exact onConnectWrite_effect hsocket _
        · exact onSocketWrite_effect h _
  | error sockfd event errno =>
    rw [dispatch] at h
    split at h
    · cases h
    · split at h
      · cases h
      · split at h
        · cases h; exact .frame rfl rfl
        · cases h
          refine Effect.notify ?_ _
          exact .frame rfl rfl
        · cases h; exact onConnectError_effect s _ _ _
        · cases h; exact onSocketError_effect s _ _ _
  | timeout timerId =>
    rw [dispatch] at h
    split at h
    · cases h
    · cases h
      refine onConnectTimeout_effect ?_ ?_ _ _ _
      · rfl
      · rfl
  | _ => cases h

/-- Every step of the application has one of the six effects on the tables. -/
theorem step_effect {s s' : TcpSocketApp} {a : Action} (h : s.step a = some s') :
    Effect s a s' := by
  rcases step_cases h with ⟨rest, rfl, hstack, rfl⟩ | ⟨rfl, hresume⟩ |
    ⟨r, sockfd, object, rest, rfl, hstack, rfl⟩ | ⟨object, success, status, rfl, hpending, rfl⟩ |
    ⟨idle, hdispatch⟩ | ⟨runs, hcall⟩
  · exact .frame rfl rfl
  · exact resume_effect hresume _
  · exact acceptRound_effect s _ rest r
  · exact .frame rfl rfl
  · exact dispatch_effect hdispatch
  · exact call_effect hcall

end Mysya.TcpSocketApp
