import Mysya.TcpSocketAppMoves

/-!
# The calls an owner of the socket application gets

Those who keep a table of their own beside `TcpSocketApp` see it through its callbacks. With
all of them installed, `Told` lists for every step the connections, the running handlers and
the callback that was called, and `told` is that callback with its descriptor.
-/

namespace Mysya.TcpSocketApp

/-- The descriptor that the callbacks of a step are called with. -/
def subject (s : TcpSocketApp) : Action → Option Int
  | .sendMessage sockfd _ _ => some sockfd
  | .read sockfd _ _ _ => some sockfd
  | .write sockfd _ _ => some sockfd
  | .error sockfd _ _ => some sockfd
  | .timeout timerId => s.timerSocketIds timerId
  | .accept (.accepted sockfd _) => some sockfd
  | .resume =>
    match s.stack with
    | .received sockfd _ _ :: _ => some sockfd
    | _ => none
  | _ => none

/-- The callback that a step from `s` to `s'` called. -/
def told (s : TcpSocketApp) (a : Action) (s' : TcpSocketApp) : Option (AppCallback × Int) :=
  if s'.notices.length = s.notices.length then none
  else s'.notices.head?.bind fun n => (s.subject a).map fun sockfd => (n.callback, sockfd)

/-- The socket objects of the connections, by descriptor. -/
def conn (s : TcpSocketApp) (sockfd : Int) : Option Nat :=
  (s.connections sockfd).map Connection.tcpSocket

/-- The callbacks a socket is attached with. -/
structure Callbacks where
  read : Option ReadCallback
  write : Option WriteCallback
  error : Option ErrorCallback
  deriving DecidableEq, Repr

namespace Callbacks

def listening : Callbacks := ⟨some .onListenRead, none, some .onListenError⟩

def connecting : Callbacks := ⟨none, some .onConnectWrite, some .onConnectError⟩

/-- Those of a connection that was accepted, or connected at once. -/
def connected : Callbacks := ⟨some .onSocketRead, none, some .onSocketError⟩

def established : Callbacks := ⟨some .onSocketRead, some .onSocketWrite, some .onSocketError⟩

def ofSocket (socket : TcpSocket) : Callbacks :=
  ⟨socket.readCallback, socket.writeCallback, socket.errorCallback⟩

end Callbacks

/-- The callbacks of the sockets, by descriptor. -/
def attached (s : TcpSocketApp) (sockfd : Int) : Option Callbacks :=
  (s.sockets sockfd).map .ofSocket

structure View where
  conn : Int → Option Nat
  attached : Int → Option Callbacks
  stack : List Frame

def view (s : TcpSocketApp) : View := ⟨s.conn, s.attached, s.stack⟩

/-- What makes a connection fail: an event, the timer of its connect, or a send. -/
inductive FailCause (s : TcpSocketApp) (a : Action) (sockfd : Int) : Prop
  | sent (m : Message) (w : WriteResult) : a = .sendMessage sockfd m w → FailCause s a sockfd
  | used (callbacks : Callbacks) : s.stack = [] → s.attached sockfd = some callbacks →
      callbacks.read = some .onSocketRead ∨ callbacks.write = some .onSocketWrite → FailCause s a sockfd
  | raised (event : EpollEvent) (errno : Int) : s.stack = [] → a = .error sockfd event errno →
      FailCause s a sockfd
  | expired (timerId : Int) : s.stack = [] → a = .timeout timerId →
      s.timerSocketIds timerId = some sockfd → FailCause s a sockfd

/-- A step that calls nothing and does not change what the owner can see. -/
structure Quiet (s s' : TcpSocketApp) (v : View) : Prop where
  view : s'.view = v
  notices : s'.notices = s.notices

/-- A step that makes a call. -/
structure Calls (s : TcpSocketApp) (a : Action) (s' : TcpSocketApp) (v : View) (n : Notice)
    (sockfd : Int) : Prop where
  view : s'.view = { v with stack := .callback :: v.stack }
  notices : s'.notices = n :: s.notices
  subject : s.subject a = some sockfd

inductive Told (s : TcpSocketApp) (a : Action) (s' : TcpSocketApp) : Prop
  | quiet : Quiet s s' s.view → Told s a s'
  | popped {frame : Frame} {rest : List Frame} : s.stack = frame :: rest →
      (∀ sockfd timedOut, frame ≠ .close sockfd timedOut) →
      Quiet s s' { s.view with stack := rest } → Told s a s'
  | accepting {sockfd : Int} {object : Nat} : s.stack = [] →
      Quiet s s' { s.view with stack := [.accept sockfd object] } → Told s a s'
  | reading {sockfd : Int} {object : Nat} {peerClosed : Bool} : s.stack = [] →
      s.conn sockfd = some object → (∃ event readableSize r, a = .read sockfd event readableSize r ∧
        (0 < readableSize → r ≠ .received [] → peerClosed = false)) →
      (∃ callbacks, s.attached sockfd = some callbacks ∧ callbacks.read = some .onSocketRead) →
      Quiet s s' { s.view with stack := [.received sockfd object peerClosed] } → Told s a s'
  | listened {sockfd : Int} : s.AppRuns → (∃ setup attach, a = .listen sockfd setup attach) →
      Quiet s s' { s.view with attached := Function.update s.attached sockfd (some .listening) } →
      Told s a s'
  | inserted {sockfd : Int} (callbacks : Callbacks) : s.AppRuns → s.conn sockfd = none →
      ((∃ established build, a = .connect sockfd established build) ∨
        (callbacks = .connecting ∧ ∃ started build timeoutMs startTimer,
          a = .asyncConnect sockfd started build timeoutMs startTimer)) →
      Quiet s s' { s.view with conn := Function.update s.conn sockfd (some s.objects)
                               attached := Function.update s.attached sockfd (some callbacks) } →
      Told s a s'
  | closed {sockfd : Int} : a = .close sockfd → s.AppRuns →
      Quiet s s' { s.view with conn := Function.update s.conn sockfd none
                               attached := Function.update s.attached sockfd none } → Told s a s'
  | closing {sockfd : Int} {timedOut : Option Nat} {rest : List Frame} :
      s.stack = .close sockfd timedOut :: rest →
      Quiet s s' ⟨Function.update s.conn sockfd none, Function.update s.attached sockfd none, rest⟩ →
      Told s a s'
  | accepted {sockfd listenSockfd : Int} {listenObject : Nat} {rest : List Frame} {n : Notice} :
      s.stack = .accept listenSockfd listenObject :: rest → s.conn sockfd = none →
      (∃ build, a = .accept (.accepted sockfd build)) → n.callback = .connection →
      Calls s a s' { s.view with conn := Function.update s.conn sockfd (some s.objects)
                                 attached := Function.update s.attached sockfd (some .connected) }
        n sockfd →
      Told s a s'
  | established {sockfd : Int} {object : Nat} {callbacks : Callbacks} {n : Notice} : s.stack = [] →
      s.conn sockfd = some object → s.attached sockfd = some callbacks →
      callbacks.write = some .onConnectWrite → n.callback = .connection →
      Calls s a s' { s.view with attached := Function.update s.attached sockfd (some .established) }
        n sockfd → Told s a s'
  | active {sockfd : Int} {object : Nat} {n : Notice} {frames : List Frame} : s.AppRuns →
      s.conn sockfd = some object → n.callback = .receive ∨ n.callback = .sendComplete →
      (frames = [] ∨ frames = [.received sockfd object false]) →
      Calls s a s' { s.view with stack := frames ++ s.stack } n sockfd → Told s a s'
  | failed {sockfd : Int} {object : Nat} {n : Notice} {timedOut : Option Nat} : s.AppRuns →
      s.conn sockfd = some object → n.callback = .error → n.object = object →
      FailCause s a sockfd →
      Calls s a s' { s.view with stack := .close sockfd timedOut :: s.stack } n sockfd → Told s a s'
  | listenFailed {sockfd : Int} {callbacks : Callbacks} {n : Notice} : s.stack = [] →
      s.attached sockfd = some callbacks → callbacks.error = some .onListenError →
      n.callback = .error → Calls s a s' { s.view with stack := [.close sockfd none] } n sockfd → Told s a s'
  | peerClosed {sockfd : Int} {object : Nat} {rest : List Frame} {n : Notice} :
      s.stack = .received sockfd object true :: rest → n.callback = .close → n.object = object →
      Calls s a s' { s.view with stack := rest } n sockfd → Told s a s'

variable {s s' : TcpSocketApp} {a : Action} {v : View} {n : Notice} {sockfd : Int}

theorem Quiet.told (h : Quiet s s' v) : s.told a s' = none := by
  unfold TcpSocketApp.told
  rw [h.notices, if_pos rfl]

theorem Calls.told (h : Calls s a s' v n sockfd) : s.told a s' = some (n.callback, sockfd) := by
  unfold TcpSocketApp.told
  rw [h.notices, h.subject, if_neg (by simp)]
  rfl

/-! ## The view after an update -/

theorem view_of_untimed {t : TcpSocketApp} (h : s'.untimed = t) : s'.view = t.view := by
  rw [← h]
  rfl

theorem notices_of_untimed {t : TcpSocketApp} (h : s'.untimed = t) : s'.notices = t.notices := by
  rw [← h]
  rfl

theorem Quiet.of_untimed {t : TcpSocketApp} (h : s'.untimed = t) (hnotices : t.notices = s.notices)
    (hview : t.view = v) : Quiet s s' v :=
  ⟨(view_of_untimed h).trans hview, (notices_of_untimed h).trans hnotices⟩

theorem Calls.of_untimed {t : TcpSocketApp} (installed : ∀ c, s.installed c = true)
    (h : s'.untimed = t.notify n) (hinstalled : t.installed = s.installed)
    (hnotices : t.notices = s.notices) (hview : t.view = v) (hsubject : s.subject a = some sockfd) :
    Calls s a s' v n sockfd := by
  rw [notify, if_pos (by rw [hinstalled]; exact installed _)] at h
  refine ⟨(view_of_untimed h).trans ?_, (notices_of_untimed h).trans ?_, hsubject⟩
  · rw [← hview]
    rfl
  · rw [← hnotices]

theorem conn_setConnection {c : Connection} (c' : Connection) (hc : s.connections sockfd = some c)
    (hsame : c'.tcpSocket = c.tcpSocket) : (s.setConnection sockfd c').conn = s.conn := by
  funext fd
  show (Function.update s.connections sockfd (some c') fd).map _ = (s.connections fd).map _
  by_cases heq : fd = sockfd
  · subst heq
    rw [Function.update_self, hc, Option.map_some, Option.map_some, hsame]
  · rw [Function.update_of_ne heq]

theorem view_setConnection {c : Connection} (c' : Connection) (hc : s.connections sockfd = some c)
    (hsame : c'.tcpSocket = c.tcpSocket) : (s.setConnection sockfd c').view = s.view :=
  congrArg (fun conn => View.mk conn s.attached s.stack) (conn_setConnection c' hc hsame)

theorem attached_setSocket (s : TcpSocketApp) (sockfd : Int) (socket : TcpSocket) :
    (s.setSocket sockfd socket).attached =
      Function.update s.attached sockfd (some (.ofSocket socket)) := by
  funext fd
  show (Function.update s.sockets sockfd (some socket) fd).map _ = _
  by_cases heq : fd = sockfd
  · subst heq
    rw [Function.update_self, Function.update_self]
    rfl
  · rw [Function.update_of_ne heq, Function.update_of_ne heq]
    rfl

theorem view_setSocket (s : TcpSocketApp) (sockfd : Int) (socket : TcpSocket) :
    (s.setSocket sockfd socket).view = { s.view with
      attached := Function.update s.attached sockfd (some (.ofSocket socket)) } :=
  congrArg (fun attached => View.mk s.conn attached s.stack) (attached_setSocket s sockfd socket)

theorem view_insert (s : TcpSocketApp) (sockfd : Int) (socket : TcpSocket)
    (hobject : socket.object = s.objects) :
    (s.insert sockfd socket).view = { s.view with
      conn := Function.update s.conn sockfd (some s.objects)
      attached := Function.update s.attached sockfd (some (.ofSocket socket)) } := by
  have hconn : (s.insert sockfd socket).conn = Function.update s.conn sockfd (some s.objects) := by
    funext fd
    show (Function.update s.connections sockfd (some (Connection.new _ _ _ _)) fd).map _ = _
    by_cases heq : fd = sockfd
    · subst heq
      rw [Function.update_self, Function.update_self, ← hobject]
      rfl
    · rw [Function.update_of_ne heq, Function.update_of_ne heq]
      rfl
  show View.mk _ (s.setSocket sockfd socket).attached s.stack = _
  rw [hconn, attached_setSocket]
  rfl

theorem view_closeSocket (s : TcpSocketApp) (sockfd : Int) : (s.closeSocket sockfd).view =
    { s.view with conn := Function.update s.conn sockfd none
                  attached := Function.update s.attached sockfd none } := by
  have hconn : (s.closeSocket sockfd).conn = Function.update s.conn sockfd none := by
    funext fd
    show (Function.update s.connections sockfd none fd).map _ = _
    by_cases heq : fd = sockfd
    · subst heq
      rw [Function.update_self, Function.update_self]
      rfl
    · rw [Function.update_of_ne heq, Function.update_of_ne heq]
      rfl
  have hattached : (s.closeSocket sockfd).attached = Function.update s.attached sockfd none := by
    funext fd
    show (Function.update s.sockets sockfd none fd).map _ = _
    by_cases heq : fd = sockfd
    · subst heq
      rw [Function.update_self, Function.update_self]
      rfl
    · rw [Function.update_of_ne heq, Function.update_of_ne heq]
      rfl
  show View.mk _ _ s.stack = _
  rw [hconn, hattached]
  rfl

/-! ## The handlers -/

theorem Told.idle {t : TcpSocketApp} (h : s'.untimed = t) (hnotices : t.notices = s.notices)
    (hview : t.view = s.view) : Told s a s' :=
  .quiet (.of_untimed h hnotices hview)

/-- Any connection may be touched along with what a step does to its stack. -/
theorem view_touched {c : Connection} (c' : Connection) (hc : s.connections sockfd = some c)
    (hsame : c'.tcpSocket = c.tcpSocket) (frames : List Frame) :
    ((s.untimed.setConnection sockfd c').setStack (frames ++ s.stack)).view =
      { s.view with stack := frames ++ s.stack } :=
  congrArg (fun v : View => { v with stack := frames ++ s.stack }) (view_setConnection c' hc hsame)

theorem told_failConnection {t : TcpSocketApp} {c c' : Connection} {handler : Handler}
    {timedOut : Option Nat} (installed : ∀ c, s.installed c = true) (runs : s.AppRuns)
    (hcause : FailCause s a sockfd) (ht : t.untimed = s.untimed)
    (hc : s.connections sockfd = some c) (hsame : c'.tcpSocket = c.tcpSocket)
    (hsubject : s.subject a = some sockfd) :
    Told s a (t.failConnection sockfd c' handler timedOut) := by
  have hconn : s.conn sockfd = some c'.tcpSocket := by
    rw [hsame]
    exact congrArg (Option.map _) hc
  have huntimed : (t.failConnection sockfd c' handler timedOut).untimed =
      (((s.untimed.setConnection sockfd c').setStack ([.close sockfd timedOut] ++ s.stack))).notify
        ⟨c'.tcpSocket, handler, .error⟩ := by
    rw [untimed_failConnection, ht]
    rfl
  exact .failed runs hconn rfl rfl hcause
    (.of_untimed installed huntimed rfl rfl (view_touched c' hc hsame _) hsubject)

theorem told_completed {t : TcpSocketApp} {c c' : Connection} {n : Notice} (frames : List Frame)
    (installed : ∀ c, s.installed c = true) (runs : s.AppRuns)
    (hcallback : n.callback = .receive ∨ n.callback = .sendComplete)
    (hframes : frames = [] ∨ frames = [.received sockfd c.tcpSocket false])
    (ht : t.untimed = (s.untimed.setConnection sockfd c').setStack (frames ++ s.stack))
    (hc : s.connections sockfd = some c) (hsame : c'.tcpSocket = c.tcpSocket)
    (hsubject : s.subject a = some sockfd) : Told s a (t.notify n) := by
  have hconn : s.conn sockfd = some c.tcpSocket := congrArg (Option.map _) hc
  have huntimed : (t.notify n).untimed =
      ((s.untimed.setConnection sockfd c').setStack (frames ++ s.stack)).notify n := by
    rw [untimed_notify, ht]
  exact .active runs hconn hcallback hframes
    (.of_untimed installed huntimed rfl rfl (view_touched c' hc hsame _) hsubject)

theorem sendMessage_told (installed : ∀ c, s.installed c = true) (runs : s.AppRuns) {m : Message}
    {w : WriteResult} (h : s.sendMessage sockfd m w = some s') :
    Told s (.sendMessage sockfd m w) s' := by
  rw [sendMessage] at h
  split at h
  · cases h
    exact .idle rfl rfl rfl
  · rename_i c hc
    split at h
    · have hsame := c.sendMessage_tcpSocket m w
      split at h
      · rename_i c' hsend
        cases h
        rw [hsend] at hsame
        exact told_failConnection installed runs (.sent m w rfl) rfl hc hsame rfl
      · rename_i c' hsend
        cases h
        rw [hsend] at hsame
        exact .idle rfl rfl (view_setConnection c' hc hsame)
      · rename_i c' hsend
        cases h
        rw [hsend] at hsame
        exact told_completed [] installed runs (.inr rfl) (.inl rfl) rfl hc hsame rfl
    · cases h

/-- A read that gets something, or nothing yet, does not find the peer closed. -/
theorem receive_open {c c' : Connection} {readableSize : Int} {r : ReadResult}
    {received peerClosed : Bool} (hreceive : c.receive readableSize r = (c', .done received peerClosed))
    (hsize : 0 < readableSize) (hr : r ≠ .received []) : peerClosed = false := by
  unfold Connection.receive at hreceive
  rw [if_neg (by omega)] at hreceive
  cases r with
  | received data =>
    have hlength : data.length > 0 := List.length_pos_iff.mpr fun hnil => hr (by rw [hnil])
    simp only [if_pos hlength] at hreceive
    cases hreceive
    rfl
  | again =>
    cases hreceive
    rfl
  | failed errno => cases hreceive

theorem onSocketRead_told (installed : ∀ c, s.installed c = true) (idle : s.stack = [])
    {event : EpollEvent} {readableSize : Int} {r : ReadResult} {socket : TcpSocket}
    (hsocket : s.sockets sockfd = some socket) (hread : socket.readCallback = some .onSocketRead)
    (h : s.onSocketRead sockfd readableSize r = some s') :
    Told s (.read sockfd event readableSize r) s' := by
  rw [onSocketRead] at h
  split at h
  · cases h
    exact .idle rfl rfl rfl
  · rename_i c hc
    have hsame := c.receive_tcpSocket readableSize r
    split at h
    · split at h
      · rename_i c' hreceive
        cases h
        rw [hreceive] at hsame
        exact told_failConnection installed (.inl idle)
          (.used _ idle (congrArg (Option.map _) hsocket) (.inl hread)) rfl hc hsame rfl
      · rename_i c' received peerClosed hreceive
        rw [hreceive] at hsame
        cases h
        cases received with
        | true =>
          cases peerClosed with
          | true => exact absurd hreceive (receive_not_both c c' readableSize r)
          | false =>
            refine told_completed [.received sockfd c.tcpSocket false] installed (.inl idle) (.inl rfl)
              (.inr rfl) ?_ hc hsame rfl
            rw [← hsame]
            rfl
        | false =>
          have hconn : s.conn sockfd = some c'.tcpSocket := by
            rw [hsame]
            exact congrArg (Option.map _) hc
          refine .reading idle hconn ⟨event, readableSize, r, rfl, receive_open hreceive⟩
            ⟨_, congrArg (Option.map _) hsocket, hread⟩ ?_
          have hview := view_touched c' hc hsame [.received sockfd c'.tcpSocket peerClosed]
          rw [idle] at hview
          have huntimed : (s.untimed.setConnection sockfd c').push
              (.received sockfd c'.tcpSocket peerClosed) =
              (s.untimed.setConnection sockfd c').setStack
                ([.received sockfd c'.tcpSocket peerClosed] ++ []) := by
            show (s.untimed.setConnection sockfd c').setStack (_ :: s.stack) = _
            rw [idle]
            rfl
          exact .of_untimed huntimed rfl hview
    · cases h

theorem onSocketWrite_told (installed : ∀ c, s.installed c = true) (idle : s.stack = [])
    {event : EpollEvent} {w : WriteResult} {socket : TcpSocket}
    (hsocket : s.sockets sockfd = some socket) (hwrite : socket.writeCallback = some .onSocketWrite)
    (h : s.onSocketWrite sockfd w = some s') :
    Told s (.write sockfd event w) s' := by
  rw [onSocketWrite] at h
  split at h
  · cases h
    exact .idle rfl rfl rfl
  · rename_i c hc
    have hsame : (c.flush w).1.tcpSocket = c.tcpSocket :=
      Connection.Touched.tcpSocket (.flush w : c.Touched (fun _ _ => False) _)
    dsimp only at h
    split at h
    · cases h
      exact .idle rfl rfl rfl
    · split at h
      · split at h
        · rename_i c' hflush
          cases h
          rw [hflush] at hsame
          exact told_failConnection installed (.inl idle)
            (.used _ idle (congrArg (Option.map _) hsocket) (.inr hwrite)) rfl hc hsame rfl
        · rename_i c' hflush
          rw [hflush] at hsame
          cases h
          split
          · exact told_completed [] installed (.inl idle) (.inr rfl) (.inl rfl) rfl hc hsame rfl
          · exact .idle rfl rfl (view_setConnection c' hc hsame)
      · cases h

theorem onConnectWrite_told (installed : ∀ c, s.installed c = true) (idle : s.stack = [])
    {socket : TcpSocket} (hsocket : s.sockets sockfd = some socket)
    (hwrite : socket.writeCallback = some .onConnectWrite) (event : EpollEvent) (w : WriteResult) :
    Told s (.write sockfd event w) (s.onConnectWrite sockfd socket) := by
  rw [onConnectWrite]
  split
  · exact .idle (untimed_removeSocketTimer s sockfd) rfl rfl
  · rename_i c hc
    rw [removeSocketTimer_connections] at hc
    have hconn : s.conn sockfd = some c.tcpSocket := congrArg (Option.map _) hc
    have huntimed : (((s.removeSocketTimer sockfd).setSocket sockfd socket.establish).notify
        ⟨socket.object, .onConnectWrite, .connection⟩).untimed =
        (s.untimed.setSocket sockfd socket.establish).notify
          ⟨socket.object, .onConnectWrite, .connection⟩ := by
      rw [untimed_notify]
      exact congrArg (fun t => (setSocket t sockfd socket.establish).notify _)
        (untimed_removeSocketTimer s sockfd)
    exact .established idle hconn (congrArg (Option.map _) hsocket) hwrite rfl
      (.of_untimed installed huntimed rfl rfl
        (view_setSocket s.untimed sockfd socket.establish) rfl)

theorem error_told (installed : ∀ c, s.installed c = true) (idle : s.stack = [])
    {event : EpollEvent} {errno : Int} (h : s.dispatch (.error sockfd event errno) = some s') :
    Told s (.error sockfd event errno) s' := by
  rw [dispatch] at h
  split at h
  · cases h
  · rename_i socket hsocket
    split at h
    · cases h
    · split at h
      · cases h
        exact .idle rfl rfl rfl
      · rename_i herror
        cases h
        refine .listenFailed idle (congrArg (Option.map _) hsocket) herror rfl
          (.of_untimed installed (untimed_notify _ _) rfl rfl ?_ rfl)
        exact congrArg (fun stack => View.mk s.conn s.attached (.close sockfd none :: stack)) idle
      · cases h
        rw [onConnectError]
        split
        · exact .idle (untimed_removeSocketTimer s sockfd) rfl rfl
        · rename_i c hc
          rw [removeSocketTimer_connections] at hc
          exact told_failConnection installed (.inl idle) (.raised event errno idle rfl)
            (untimed_removeSocketTimer s sockfd) hc rfl rfl
      · cases h
        rw [onSocketError]
        split
        · exact .idle rfl rfl rfl
        · rename_i c hc
          exact told_failConnection installed (.inl idle) (.raised event errno idle rfl)
            rfl hc rfl rfl

theorem onConnectTimeout_told {t : TcpSocketApp} (installed : ∀ c, s.installed c = true)
    (idle : s.stack = []) (hids : t.timerSocketIds = s.timerSocketIds)
    (huntimed : t.untimed = s.untimed) (hconnections : t.connections = s.connections)
    (timerId : Int) (started : Nat) :
    Told s (.timeout timerId) (t.onConnectTimeout timerId started) := by
  rw [onConnectTimeout]
  split
  · exact .idle huntimed rfl rfl
  · rename_i sockfd hid
    rw [hids] at hid
    dsimp only
    split
    · exact .idle huntimed rfl rfl
    · rename_i c hc
      rw [hconnections] at hc
      exact told_failConnection installed (.inl idle) (.expired timerId idle rfl hid)
        huntimed hc rfl hid

theorem acceptRound_told (installed : ∀ c, s.installed c = true) {listenSockfd : Int}
    {listenObject : Nat} {rest : List Frame}
    (hstack : s.stack = .accept listenSockfd listenObject :: rest) (r : AcceptResult) :
    Told s (.accept r) (s.acceptRound rest r) := by
  have hpopped : Told s (.accept r) (s.setStack rest) :=
    .popped hstack (fun _ _ heq => by cases heq) ⟨rfl, rfl⟩
  cases r with
  | accepted sockfd build =>
    rw [acceptRound]
    rcases buildConnectedSocket_cases s sockfd build with hbuild | ⟨_, hfree, hbuild⟩
    · rw [hbuild]
      exact .idle rfl rfl rfl
    · rw [hbuild]
      refine .accepted hstack (congrArg (Option.map _) hfree) ⟨build, rfl⟩ rfl
        (.of_untimed installed (untimed_notify _ _) rfl rfl ?_ rfl)
      exact view_insert s sockfd (.attach s.objects (some .onSocketRead) none (some .onSocketError))
        rfl
  | aborted => exact .idle rfl rfl rfl
  | again => exact hpopped
  | failed => exact hpopped

theorem resume_told (installed : ∀ c, s.installed c = true) (h : s.resume = some s') :
    Told s .resume s' := by
  rw [resume] at h
  split at h
  · rename_i hstack
    cases h
    exact .closing hstack ⟨view_closeSocket _ _, rfl⟩
  · rename_i sockfd object peerClosed rest hstack
    have hsubject : s.subject .resume = some sockfd := by
      simp only [subject, hstack]
    cases h
    cases peerClosed with
    | true =>
      exact .peerClosed hstack rfl rfl
        (.of_untimed installed (untimed_notify _ _) rfl rfl rfl hsubject)
    | false => exact .popped hstack (fun _ _ heq => by cases heq) ⟨rfl, rfl⟩
  · cases h

theorem call_told (installed : ∀ c, s.installed c = true) (runs : s.AppRuns)
    (h : s.call a = some s') : Told s a s' := by
  cases a with
  | setCallback callback present =>
    cases h
    exact .idle rfl rfl rfl
  | listen sockfd setup attach =>
    cases h
    rw [buildListenSocket]
    split
    · exact .idle rfl rfl rfl
    · split
      · exact .idle rfl rfl rfl
      · split
        · exact .idle rfl rfl rfl
        · have hview := view_setSocket s sockfd (.attach s.objects (some .onListenRead) none
            (some .onListenError))
          exact .listened runs ⟨setup, attach, rfl⟩ ⟨hview, rfl⟩
  | connect sockfd established build =>
    cases h
    split
    · rcases buildConnectedSocket_cases s sockfd build with hbuild | ⟨_, hfree, hbuild⟩
      · rw [hbuild]
        exact .idle rfl rfl rfl
      · rw [hbuild]
        have hview := view_insert s sockfd
          (.attach s.objects (some .onSocketRead) none (some .onSocketError)) rfl
        exact .inserted .connected runs (congrArg (Option.map _) hfree) (.inl ⟨_, _, rfl⟩) ⟨hview, rfl⟩
    · exact .idle rfl rfl rfl
  | asyncConnect sockfd started build timeoutMs startTimer =>
    cases h
    split
    · rcases buildAsyncConnectSocket_cases s sockfd build timeoutMs startTimer with
        hbuild | ⟨_, hfree, huntimed⟩
      · rw [hbuild]
        exact .idle rfl rfl rfl
      · refine .inserted .connecting runs (congrArg (Option.map _) hfree)
          (.inr ⟨rfl, _, _, _, _, rfl⟩) (.of_untimed huntimed rfl ?_)
        exact view_insert s.untimed sockfd _ rfl
    · exact .idle rfl rfl rfl
  | sendMessage sockfd m w => exact sendMessage_told installed runs h
  | close sockfd =>
    cases h
    exact .closed rfl runs ⟨view_closeSocket s sockfd, rfl⟩
  | readBytes sockfd size =>
    rw [call] at h
    split at h
    · cases h
    · rename_i c hc
      cases h
      exact .idle rfl rfl (view_setConnection _ hc rfl)
  | _ => cases h

theorem dispatch_told (installed : ∀ c, s.installed c = true) (idle : s.stack = [])
    (h : s.dispatch a = some s') : Told s a s' := by
  cases a with
  | read sockfd event readableSize r =>
    rw [dispatch] at h
    split at h
    · cases h
    · rename_i socket hsocket
      split at h
      · cases h
      · split at h
        · cases h
          exact .idle rfl rfl rfl
        · cases h
          have hview : (s.push (.accept sockfd socket.object)).view =
              { s.view with stack := [.accept sockfd socket.object] } :=
            congrArg (fun stack => View.mk s.conn s.attached (.accept sockfd socket.object :: stack))
              idle
          exact .accepting idle ⟨hview, rfl⟩
        · rename_i hread
          exact onSocketRead_told installed idle hsocket hread h
  | write sockfd event w =>
    rw [dispatch] at h
    split at h
    · cases h
    · rename_i socket hsocket
      split at h
      · cases h
      · split at h
        · cases h
          exact .idle rfl rfl rfl
        · rename_i hwrite
          cases h
          exact onConnectWrite_told installed idle hsocket hwrite event w
        · rename_i hwrite
          exact onSocketWrite_told installed idle hsocket hwrite h
  | error sockfd event errno => exact error_told installed idle h
  | timeout timerId =>
    rw [dispatch] at h
    split at h
    · cases h
    · cases h
      exact onConnectTimeout_told (t := { s with timers := Function.update s.timers timerId none })
        installed idle rfl rfl rfl _ _
  | _ => cases h

theorem told_of_step (installed : ∀ c, s.installed c = true) (h : s.step a = some s') :
    Told s a s' := by
  rcases step_cases h with ⟨rest, rfl, hstack, rfl⟩ | ⟨rfl, hresume⟩ |
    ⟨r, sockfd, object, rest, rfl, hstack, rfl⟩ | ⟨object, success, status, rfl, hpending, rfl⟩ |
    ⟨idle, hdispatch⟩ | ⟨runs, hcall⟩
  · exact .popped hstack (fun _ _ heq => by cases heq) ⟨rfl, rfl⟩
  · exact resume_told installed hresume
  · exact acceptRound_told installed hstack r
  · exact .idle rfl rfl rfl
  · exact dispatch_told installed idle hdispatch
  · exact call_told installed runs hcall

end Mysya.TcpSocketApp
