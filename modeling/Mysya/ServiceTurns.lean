import Mysya.AgentChannels

/-!
# What the network loops do to channels and sockets

A handler gives at most one socket a new channel and changes at most one other. A descriptor stays
in `channels_` once it is there, so it names one channel of its agent for good, and the sockets
that read are those of such descriptors.
-/

namespace Mysya

namespace Connection

@[simp] theorem receive_accepted (c : Connection) (readableSize : Int) (r : ReadResult) :
    (c.receive readableSize r).1.accepted = c.accepted := by
  unfold receive
  split
  · rfl
  · cases r with
    | received data =>
      dsimp only
      split
      · rfl
      · rfl
    | again => rfl
    | failed errno => rfl

theorem flush_accepted (c : Connection) (w : WriteResult) :
    (c.flush w).1.accepted = c.accepted := by
  cases w with
  | sent size => rfl
  | again => rfl
  | failed errno => rfl

theorem flush_receiveBuffer (c : Connection) (w : WriteResult) :
    (c.flush w).1.receiveBuffer = c.receiveBuffer := by
  cases w with
  | sent size => rfl
  | again => rfl
  | failed errno => rfl

theorem finishSend_keeps (c : Connection) (m : Message) (sendSize remainSize : Int) :
    (c.finishSend m sendSize remainSize).1.accepted = c.accepted ++ m.data ∧
      (c.finishSend m sendSize remainSize).1.receiveBuffer = c.receiveBuffer := by
  unfold finishSend
  split
  · exact ⟨rfl, rfl⟩
  · exact ⟨rfl, rfl⟩

theorem sendMessage_receiveBuffer (c : Connection) (m : Message) (w : WriteResult) :
    (c.sendMessage m w).1.receiveBuffer = c.receiveBuffer := by
  unfold sendMessage
  dsimp only
  split
  · cases w with
    | sent size => exact (finishSend_keeps _ m _ _).2
    | again => exact (finishSend_keeps c m _ _).2
    | failed errno => rfl
  · exact (finishSend_keeps c m _ _).2

/-- A message is accepted unless the direct write fails. -/
theorem sendMessage_accepted (c : Connection) (m : Message) {w : WriteResult}
    (hw : c.sendBuffer.readableBytes ≤ 0 → ∀ errno, w ≠ .failed errno) :
    (c.sendMessage m w).1.accepted = c.accepted ++ m.data := by
  unfold sendMessage
  dsimp only
  split
  · rename_i hempty
    cases w with
    | sent size => exact (finishSend_keeps _ m _ _).1
    | again => exact (finishSend_keeps c m _ _).1
    | failed errno => exact absurd rfl (hw hempty errno)
  · exact (finishSend_keeps c m _ _).1

/-- The connection after `OnSocketRead`, where the receive-decode callback takes `decoded` bytes
off the buffer. -/
def afterRead (c : Connection) (readableSize : Int) (r : ReadResult) (decoded : Nat) : Connection :=
  match c.receive readableSize r with
  | (c, .fatal) => c
  | (c, .done received _) =>
    { c with receiveBuffer := c.receiveBuffer.readBytes (if received then decoded else 0) }

theorem afterRead_fatal {c c' : Connection} {readableSize : Int} {r : ReadResult} (decoded : Nat)
    (h : c.receive readableSize r = (c', .fatal)) : c.afterRead readableSize r decoded = c' := by
  rw [afterRead, h]

theorem afterRead_done {c c' : Connection} {readableSize : Int} {r : ReadResult} (decoded : Nat)
    {received peerClosed : Bool} (h : c.receive readableSize r = (c', .done received peerClosed)) :
    c.afterRead readableSize r decoded =
      { c' with receiveBuffer := c'.receiveBuffer.readBytes (if received then decoded else 0) } := by
  rw [afterRead, h]

theorem afterRead_accepted (c : Connection) (readableSize : Int) (r : ReadResult) (decoded : Nat) :
    (c.afterRead readableSize r decoded).accepted = c.accepted := by
  have haccepted := c.receive_accepted readableSize r
  rw [afterRead]
  split
  · rename_i c' hreceive
    rw [hreceive] at haccepted
    exact haccepted
  · rename_i c' received peerClosed hreceive
    rw [hreceive] at haccepted
    exact haccepted

end Connection

namespace TcpService

variable {s t u : TcpService}

/-! ## Descriptors and sockets -/

/-- The descriptors are those of before, and so are the sockets that read. -/
structure Steady (s t : TcpService) : Prop where
  channels : ∀ agent, (t.agents agent).channels = (s.agents agent).channels
  heapNum : t.heapNum = s.heapNum
  sockets : ∀ address socket, t.sockets address = some socket → socket.onSocketRead.isSome →
    s.sockets address = some socket

/-- A descriptor of the agent has a new channel, and so has a socket, or none. -/
structure Opened (agent : Nat) (sockfd : Int) (c : Option Connection) (s t : TcpService) : Prop where
  fresh : (s.agents agent).channels sockfd = none
  channels : ∀ i, (t.agents i).channels = if i = agent then
    Function.update (s.agents i).channels sockfd (some s.heapNum) else (s.agents i).channels
  heapNum : t.heapNum = s.heapNum + 1
  heap : t.heap = Function.update s.heap s.heapNum c
  empty : ∀ d ∈ c, d.accepted = [] ∧ d.receiveBuffer.readable = []
  sockets : ∀ address socket, t.sockets address = some socket → socket.onSocketRead.isSome →
    s.sockets address = some socket ∨
      (socket.onSocketRead = some agent ∧ socket.appHandle = some s.heapNum ∧
        socket.sockfd = sockfd)

/-- What a handler does that neither reads nor sends a message. -/
inductive Turn (s t : TcpService) : Prop
  | still : Steady s t → t.heap = s.heap → Turn s t
  | touched (channel : Nat) (c c' : Connection) : Steady s t → s.heap channel = some c →
      t.heap = Function.update s.heap channel (some c') → c'.accepted = c.accepted →
      c'.receiveBuffer = c.receiveBuffer → Turn s t
  | opened (agent : Nat) (sockfd : Int) (c : Option Connection) : Opened agent sockfd c s t →
      Turn s t

theorem Steady.of_eq (hagents : t.agents = s.agents) (hnum : t.heapNum = s.heapNum)
    (hsockets : t.sockets = s.sockets) : Steady s t where
  channels _ := by rw [hagents]
  heapNum := hnum
  sockets address socket h _ := by rwa [hsockets] at h

theorem Steady.refl (s : TcpService) : Steady s s := .of_eq rfl rfl rfl

theorem Steady.trans (h : Steady s t) (h' : Steady t u) : Steady s u where
  channels agent := (h'.channels agent).trans (h.channels agent)
  heapNum := h'.heapNum.trans h.heapNum
  sockets address socket hsocket hreads :=
    h.sockets address socket (h'.sockets address socket hsocket hreads) hreads

theorem steady_setAgent (s : TcpService) (agent : Nat) {a : TransportAgent}
    (ha : a.channels = (s.agents agent).channels) : Steady s (s.setAgent agent a) where
  channels i := by
    show (Function.update s.agents agent a i).channels = _
    by_cases hi : i = agent
    · subst hi
      rw [Function.update_self]
      exact ha
    · rw [Function.update_of_ne hi]
  heapNum := rfl
  sockets _ _ h _ := h

theorem steady_setChannel (s : TcpService) (channel : Nat) (c : Option Connection) :
    Steady s (s.setChannel channel c) := .of_eq rfl rfl rfl

theorem steady_push (s : TcpService) (n : AgentNotice) : Steady s (s.pushWakeupCallback n) :=
  .of_eq rfl rfl rfl

theorem steady_deleteSocket (s : TcpService) (address : Nat) :
    Steady s (s.deleteSocket address) where
  channels _ := rfl
  heapNum := rfl
  sockets address' socket h _ := by
    have hsocket : Function.update s.sockets address none address' = some socket := h
    rw [Function.update_apply] at hsocket
    split at hsocket
    · cases hsocket
    · exact hsocket

/-- A socket that does not read yet. -/
theorem steady_setSocket (s : TcpService) (address : Nat) {socket : AgentSocket}
    (hreads : socket.onSocketRead = none) : Steady s (s.setSocket address socket) where
  channels _ := rfl
  heapNum := rfl
  sockets address' socket' h hreads' := by
    have hsocket : Function.update s.sockets address (some socket) address' = some socket' := h
    rw [Function.update_apply] at hsocket
    split at hsocket
    · obtain rfl := Option.some.inj hsocket
      rw [hreads] at hreads'
      cases hreads'
    · exact hsocket

theorem steady_removeTimer (s : TcpService) (agent address : Nat) :
    Steady s (s.removeAsyncConnectSocketTimer agent address) := by
  unfold removeAsyncConnectSocketTimer
  dsimp only
  split
  · exact .refl s
  · exact steady_setAgent s agent rfl

theorem failChannel_spec {agent channel : Nat} {socket : AgentSocket} {c : Connection}
    (h : s.failChannel agent channel socket c = some t) :
    Steady s t ∧ t.heap = Function.update s.heap channel (some c) := by
  rw [closeTcpSocket_eq h]
  exact ⟨.of_eq rfl rfl rfl, rfl⟩

theorem Opened.of_steady {agent : Nat} {sockfd : Int} {c : Option Connection}
    (h : Opened agent sockfd c s t) (hafter : Steady t u) (hheap : u.heap = t.heap) :
    Opened agent sockfd c s u where
  fresh := h.fresh
  channels i := (hafter.channels i).trans (h.channels i)
  heapNum := hafter.heapNum.trans h.heapNum
  heap := hheap.trans h.heap
  empty := h.empty
  sockets address socket hsocket hreads :=
    h.sockets address socket (hafter.sockets address socket hsocket hreads) hreads

theorem Opened.after_steady {agent : Nat} {sockfd : Int} {c : Option Connection}
    (h : Opened agent sockfd c t u) (hbefore : Steady s t) (hheap : t.heap = s.heap) :
    Opened agent sockfd c s u where
  fresh := (congrFun (hbefore.channels agent) sockfd).symm.trans h.fresh
  channels i := by
    rw [h.channels i, hbefore.channels i, hbefore.heapNum]
  heapNum := by rw [h.heapNum, hbefore.heapNum]
  heap := by rw [h.heap, hheap, hbefore.heapNum]
  empty := h.empty
  sockets address socket hsocket hreads := by
    rcases h.sockets address socket hsocket hreads with hsocket | ⟨hagent, hhandle, hsockfd⟩
    · exact .inl (hbefore.sockets address socket hsocket hreads)
    · exact .inr ⟨hagent, hbefore.heapNum ▸ hhandle, hsockfd⟩

/-! ## New channels -/

theorem addTcpSocket_opened (s : TcpService) (agent address : Nat) (socket : AgentSocket)
    (build : BuildCalls) : (s.addTcpSocket agent address socket build).1 = s ∨
      ∃ c, Opened agent socket.sockfd c s (s.addTcpSocket agent address socket build).1 := by
  have hchannels : ∀ i (a : TransportAgent), a.channels =
      Function.update (s.agents agent).channels socket.sockfd (some s.heapNum) →
      (Function.update s.agents agent a i).channels = if i = agent then
        Function.update (s.agents i).channels socket.sockfd (some s.heapNum)
        else (s.agents i).channels := by
    intro i a ha
    by_cases hi : i = agent
    · subst hi
      rw [Function.update_self, if_pos rfl, ha]
    · rw [Function.update_of_ne hi, if_neg hi]
  have hsockets : ∀ address' socket', Function.update s.sockets address (some { socket with
      appHandle := some s.heapNum, onSocketRead := some agent
      writeCallback := some (.onSocketWrite agent), errorCallback := some (.onSocketError agent) })
        address' = some socket' →
      s.sockets address' = some socket' ∨ (socket'.onSocketRead = some agent ∧
        socket'.appHandle = some s.heapNum ∧ socket'.sockfd = socket.sockfd) := by
    intro address' socket' h
    rw [Function.update_apply] at h
    split at h
    · obtain rfl := Option.some.inj h
      exact .inr ⟨rfl, rfl, rfl⟩
    · exact .inl h
  unfold addTcpSocket
  dsimp only
  split
  · exact .inl rfl
  · rename_i hfresh
    have hfresh : (s.agents agent).channels socket.sockfd = none := by simpa using hfresh
    split
    · exact .inl rfl
    · split
      · refine .inr ⟨none, hfresh, fun i => hchannels i _ rfl, rfl, Function.update_idem _ _ _,
          (fun d hd => by cases hd), fun address' socket' h _ => ?_⟩
        exact hsockets address' socket' h
      · refine .inr ⟨some _, hfresh, fun i => hchannels i _ rfl, rfl, rfl, fun d hd => ?_,
          fun address' socket' h _ => ?_⟩
        · obtain rfl := Option.some.inj hd
          exact ⟨rfl, DynamicBuffer.readable_new _ _ _⟩
        · exact hsockets address' socket' h

theorem buildConnectedSocket_opened (s : TcpService) (address : Nat) (socket : AgentSocket)
    (build : BuildCalls) :
    (Steady s (s.buildConnectedSocket address socket build).1 ∧
      (s.buildConnectedSocket address socket build).1.heap = s.heap) ∨
    ∃ agent c, Opened agent socket.sockfd c s (s.buildConnectedSocket address socket build).1 := by
  unfold buildConnectedSocket allocateTransportAgent
  dsimp only
  split
  · exact .inl ⟨.refl s, rfl⟩
  · have hturn : Steady s { s with nextAgent := s.nextAgent + 1 } := .of_eq rfl rfl rfl
    rcases addTcpSocket_opened { s with nextAgent := s.nextAgent + 1 } (s.nextAgent % s.agentNum)
      address socket build with heq | ⟨c, hopened⟩
    · rw [heq]
      exact .inl ⟨hturn, rfl⟩
    · exact .inr ⟨_, c, hopened.after_steady hturn rfl⟩

/-- A round of `OnListenRead`. -/
theorem acceptRound_turn (s : TcpService) (address : Nat) (sockfd : Int) (build : BuildCalls) :
    Turn s (s.acceptRound address sockfd build) := by
  unfold acceptRound
  dsimp only
  have hbefore : Steady s { s.setSocket address ⟨s.objects, sockfd, none, none, none, none⟩ with
      objects := s.objects + 1 } := (steady_setSocket s address rfl).trans (.of_eq rfl rfl rfl)
  have hbuilt := buildConnectedSocket_opened
    { s.setSocket address ⟨s.objects, sockfd, none, none, none, none⟩ with
      objects := s.objects + 1 } address ⟨s.objects, sockfd, none, none, none, none⟩ build
  split
  · rename_i t hbuild
    rw [hbuild] at hbuilt
    rcases hbuilt with ⟨hsteady, hheap⟩ | ⟨agent, c, hopened⟩
    · exact .still (hbefore.trans hsteady) hheap
    · exact .opened agent sockfd c (hopened.after_steady hbefore rfl)
  · rename_i t hbuild
    rw [hbuild] at hbuilt
    rcases hbuilt with ⟨hsteady, hheap⟩ | ⟨agent, c, hopened⟩
    · exact .still ((hbefore.trans hsteady).trans (steady_deleteSocket t address)) hheap
    · exact .opened agent sockfd c ((hopened.after_steady hbefore rfl).of_steady
        (steady_deleteSocket t address) rfl)

theorem onAsyncConnectSocketWrite_turn (s : TcpService) (agent address : Nat) (socket : AgentSocket)
    (build : BuildCalls) : Turn s (s.onAsyncConnectSocketWrite agent address socket build) := by
  unfold onAsyncConnectSocketWrite
  dsimp only
  have hbefore := steady_removeTimer s agent address
  have hheap := removeAsyncConnectSocketTimer_heap s agent address
  have hbuilt := buildConnectedSocket_opened (s.removeAsyncConnectSocketTimer agent address) address
    socket build
  split
  · rename_i t hbuild
    rw [hbuild] at hbuilt
    rcases hbuilt with ⟨hsteady, hsame⟩ | ⟨agent', c, hopened⟩
    · exact .still ((hbefore.trans hsteady).trans (steady_push t _)) (hsame.trans hheap)
    · exact .opened agent' _ c ((hopened.after_steady hbefore hheap).of_steady (steady_push t _) rfl)
  · rename_i t hbuild
    rw [hbuild] at hbuilt
    have hafter := (steady_deleteSocket t address).trans (steady_push (t.deleteSocket address)
      ⟨socket.object, agent, socket.sockfd, .asyncConnectError SocketErrno.BUILD_CONNECTED_SOCKET⟩)
    rcases hbuilt with ⟨hsteady, hsame⟩ | ⟨agent', c, hopened⟩
    · exact .still ((hbefore.trans hsteady).trans hafter) (hsame.trans hheap)
    · exact .opened agent' _ c ((hopened.after_steady hbefore hheap).of_steady hafter rfl)

/-! ## The other handlers -/

theorem asyncConnect_steady (s : TcpService) (address : Nat) (sockfd : Int) (started attach : Bool)
    (timeoutMs : Int) (startTimer : Bool) :
    Steady s (s.asyncConnect address sockfd started attach timeoutMs startTimer) := by
  unfold asyncConnect allocateTransportAgent
  dsimp only
  split
  · exact .of_eq rfl rfl rfl
  · split
    · exact .of_eq rfl rfl rfl
    · refine Steady.trans (t := { s with
          nextAgent := s.nextAgent + 1
          objects := s.objects + 1
          connects := Function.update s.connects s.objects (some .pending) }) (.of_eq rfl rfl rfl) ?_
      split
      · rw [addAsyncConnectSocketTimer]
        split
        · exact (steady_setSocket _ address rfl).trans (steady_setAgent _ _ rfl)
        · exact steady_setSocket _ address rfl
      · exact steady_setSocket _ address rfl

theorem onAsyncConnectError_steady (s : TcpService) (agent address : Nat) (socket : AgentSocket)
    (errno : Int) : Steady s (s.onAsyncConnectError agent address socket errno) :=
  ((steady_deleteSocket s address).trans (steady_removeTimer _ agent address)).trans
    (steady_push _ _)

theorem onAsyncConnectTimeout_steady {agent : Nat} {timerId : Int}
    (h : s.onAsyncConnectTimeout agent timerId = some t) : Steady s t := by
  unfold onAsyncConnectTimeout at h
  dsimp only at h
  split at h
  · cases h
    exact .refl s
  · split at h
    · cases h
    · cases h
      refine Steady.trans (steady_setAgent s agent ?_)
        ((steady_deleteSocket _ _).trans (steady_push _ _))
      rfl

theorem onSocketWrite_turn {agent : Nat} {socket : AgentSocket} {w : WriteResult}
    (h : s.onSocketWrite agent socket w = some t) : Turn s t := by
  unfold onSocketWrite at h
  split at h
  · cases h
  · rename_i channel _
    split at h
    · cases h
    · rename_i c hc
      have haccepted := c.flush_accepted w
      have hbuffer := c.flush_receiveBuffer w
      dsimp only at h
      split at h
      · split at h
        · rename_i c' hflush
          rw [hflush] at haccepted hbuffer
          obtain ⟨hsteady, hheap⟩ := failChannel_spec h
          exact .touched channel c c' hsteady hc hheap haccepted hbuffer
        · rename_i c' hflush
          rw [hflush] at haccepted hbuffer
          cases h
          exact .touched channel c c' (steady_setChannel s channel _) hc rfl haccepted hbuffer
      · cases h

theorem onSocketError_turn {agent : Nat} {socket : AgentSocket} {errno : Int}
    (h : s.onSocketError agent socket errno = some t) : Turn s t := by
  unfold onSocketError at h
  split at h
  · cases h
  · rename_i channel _
    split at h
    · cases h
    · rename_i c hc
      obtain ⟨hsteady, hheap⟩ := failChannel_spec h
      exact .touched channel c (c.setErrno errno) hsteady hc hheap rfl rfl

/-- The handlers that neither read nor send a message. -/
def Action.isOther : Action → Bool
  | .send _ _ _ _ => false
  | .read _ _ _ _ _ => false
  | _ => true

theorem turn {a : Action} (hother : a.isOther = true) (h : s.step a = some t) : Turn s t := by
  cases a with
  | send agent host m w => cases hother
  | read address event readableSize r decoded => cases hother
  | accept address sockfd build =>
    rw [step] at h
    split at h
    · cases h
      exact acceptRound_turn s address sockfd build
    · cases h
  | asyncConnect address sockfd started attach timeoutMs startTimer =>
    rw [step] at h
    split at h
    · cases h
      exact .still (asyncConnect_steady s _ _ _ _ _ _) (asyncConnect_heap s _ _ _ _ _ _)
    · cases h
  | write address event w build =>
    rw [step] at h
    split at h
    · cases h
    · split at h
      · unfold onWrite at h
        split at h
        · cases h
          exact .still (.refl s) rfl
        · cases h
          exact onAsyncConnectSocketWrite_turn s _ _ _ _
        · exact onSocketWrite_turn h
      · cases h
  | error address event errno =>
    rw [step] at h
    split at h
    · cases h
    · split at h
      · unfold onError at h
        split at h
        · cases h
          exact .still (.refl s) rfl
        · cases h
          exact .still (onAsyncConnectError_steady s _ _ _ _)
            (removeAsyncConnectSocketTimer_heap (s.deleteSocket address) _ _)
        · exact onSocketError_turn h
      · cases h
  | timeout agent timerId =>
    rw [step] at h
    split at h
    · cases h
    · dsimp only at h
      refine .still (Steady.trans (steady_setAgent s agent ?_) (onAsyncConnectTimeout_steady h))
        ((onAsyncConnectTimeout_heap h).trans rfl)
      rfl
  | finishConnect object success =>
    rw [step] at h
    split at h
    · cases h
      exact .still (.of_eq rfl rfl rfl) rfl
    · cases h

/-! ## Messages and reads -/

theorem onSendQueueReady_spec {agent : Nat} {host : Int} {m : Message} {w : WriteResult}
    (h : s.onSendQueueReady agent host m w = some t) :
    ((s.agents agent).channels host = none ∧ t = s) ∨
      ∃ channel c, (s.agents agent).channels host = some channel ∧ s.heap channel = some c ∧
        t = s.setChannel channel (some (c.sendMessage m w).1) := by
  unfold onSendQueueReady at h
  split at h
  · rename_i hnone
    cases h
    exact .inl ⟨hnone, rfl⟩
  · rename_i channel hchannel
    split at h
    · cases h
    · rename_i c hc
      split at h
      · cases h
        exact .inr ⟨channel, c, hchannel, hc, rfl⟩
      · cases h

/-- Who reads at an address: the agent, the descriptor, and the channel with its connection. -/
def readsOf (s : TcpService) (address : Nat) : Option (Nat × Int × Nat × Connection) :=
  (s.sockets address).bind fun socket => socket.onSocketRead.bind fun agent =>
    socket.appHandle.bind fun channel =>
      (s.heap channel).map fun c => (agent, socket.sockfd, channel, c)

theorem readsOf_eq_some {address agent : Nat} {sockfd : Int} {channel : Nat} {c : Connection} :
    s.readsOf address = some (agent, sockfd, channel, c) ↔
      ∃ socket, s.sockets address = some socket ∧ socket.onSocketRead = some agent ∧
        socket.appHandle = some channel ∧ socket.sockfd = sockfd ∧ s.heap channel = some c := by
  constructor
  · intro h
    obtain ⟨socket, hsocket, h⟩ := Option.bind_eq_some_iff.mp h
    obtain ⟨agent', hagent, h⟩ := Option.bind_eq_some_iff.mp h
    obtain ⟨channel', hchannel, h⟩ := Option.bind_eq_some_iff.mp h
    obtain ⟨c', hc, h⟩ := Option.map_eq_some_iff.mp h
    cases h
    exact ⟨socket, hsocket, hagent, hchannel, rfl, hc⟩
  · rintro ⟨socket, hsocket, hagent, hchannel, rfl, hc⟩
    rw [readsOf, hsocket, Option.bind_some, hagent, Option.bind_some, hchannel, Option.bind_some, hc]
    rfl

theorem read_spec {address : Nat} {event : EpollEvent} {readableSize : Int} {r : ReadResult}
    {decoded : Nat} (h : s.step (.read address event readableSize r decoded) = some t) :
    (s.readsOf address = none ∧ t = s) ∨
      ∃ agent sockfd channel c, s.readsOf address = some (agent, sockfd, channel, c) ∧
        c.ReceiveFits readableSize r ∧ Steady s t ∧
          t.heap = Function.update s.heap channel (some (c.afterRead readableSize r decoded)) := by
  rw [step] at h
  split at h
  · cases h
  · rename_i socket hsocket
    split at h
    · unfold onRead at h
      split at h
      · rename_i hnone
        cases h
        refine .inl ⟨?_, rfl⟩
        rw [readsOf, hsocket, Option.bind_some, hnone]
        rfl
      · rename_i agent hagent
        unfold onSocketRead at h
        split at h
        · cases h
        · rename_i channel hchannel
          split at h
          · cases h
          · rename_i c hc
            split at h
            · rename_i hfits
              refine .inr ⟨agent, socket.sockfd, channel, c, readsOf_eq_some.mpr
                ⟨socket, hsocket, hagent, hchannel, rfl, hc⟩, hfits, ?_⟩
              split at h
              · rename_i c' hreceive
                rw [Connection.afterRead_fatal decoded hreceive]
                exact failChannel_spec h
              · rename_i c' received peerClosed hreceive
                rw [Connection.afterRead_done decoded hreceive]
                dsimp only at h
                split at h
                · rw [closeTcpSocket_eq h]
                  exact ⟨.of_eq rfl rfl rfl, rfl⟩
                · cases h
                  exact ⟨steady_setChannel s channel _, rfl⟩
            · cases h
    · cases h

/-! ## One channel for each descriptor -/

/-- Channels are of one descriptor each, and the sockets that read are of their descriptor's. -/
structure Registered (s : TcpService) : Prop where
  bound : ∀ agent sockfd channel, (s.agents agent).channels sockfd = some channel →
    channel < s.heapNum
  distinct : ∀ agent sockfd agent' sockfd' channel, (s.agents agent).channels sockfd = some channel →
    (s.agents agent').channels sockfd' = some channel → agent' = agent ∧ sockfd' = sockfd
  reads : ∀ address socket agent channel, s.sockets address = some socket →
    socket.onSocketRead = some agent → socket.appHandle = some channel →
      (s.agents agent).channels socket.sockfd = some channel

theorem init_registered (agentNum : Nat) : (init agentNum).Registered :=
  ⟨fun _ _ _ h => (by cases h), fun _ _ _ _ _ h => (by cases h), fun _ _ _ _ h => (by cases h)⟩

theorem Registered.steady (h : s.Registered) (hsteady : Steady s t) : t.Registered where
  bound agent sockfd channel hchannel := by
    rw [hsteady.channels agent] at hchannel
    exact hsteady.heapNum ▸ h.bound agent sockfd channel hchannel
  distinct agent sockfd agent' sockfd' channel hchannel hchannel' := by
    rw [hsteady.channels agent] at hchannel
    rw [hsteady.channels agent'] at hchannel'
    exact h.distinct agent sockfd agent' sockfd' channel hchannel hchannel'
  reads address socket agent channel hsocket hagent hhandle := by
    rw [hsteady.channels agent]
    have hreads : socket.onSocketRead.isSome := by
      rw [hagent]
      rfl
    exact h.reads address socket agent channel (hsteady.sockets address socket hsocket hreads)
      hagent hhandle

/-- The channel of a descriptor after one was opened. -/
theorem Opened.channel {agent : Nat} {sockfd : Int} {c : Option Connection}
    (h : Opened agent sockfd c s t) {agent' : Nat} {sockfd' : Int} {channel : Nat}
    (hchannel : (t.agents agent').channels sockfd' = some channel) :
    (agent' = agent ∧ sockfd' = sockfd ∧ channel = s.heapNum) ∨
      (s.agents agent').channels sockfd' = some channel := by
  rw [h.channels agent'] at hchannel
  split at hchannel
  · rename_i heq
    rw [Function.update_apply] at hchannel
    split at hchannel
    · rename_i hsame
      exact .inl ⟨heq, hsame, (Option.some.inj hchannel).symm⟩
    · exact .inr hchannel
  · exact .inr hchannel

/-- Descriptors keep their channels. -/
theorem Opened.keeps {agent : Nat} {sockfd : Int} {c : Option Connection}
    (h : Opened agent sockfd c s t) {agent' : Nat} {sockfd' : Int} {channel : Nat}
    (hchannel : (s.agents agent').channels sockfd' = some channel) :
    (t.agents agent').channels sockfd' = some channel := by
  rw [h.channels agent']
  split
  · rename_i heq
    subst heq
    rw [Function.update_of_ne, hchannel]
    rintro rfl
    rw [h.fresh] at hchannel
    cases hchannel
  · exact hchannel

theorem Registered.opened (h : s.Registered) {agent : Nat} {sockfd : Int} {c : Option Connection}
    (hopened : Opened agent sockfd c s t) : t.Registered where
  bound agent' sockfd' channel hchannel := by
    rw [hopened.heapNum]
    rcases hopened.channel hchannel with ⟨_, _, rfl⟩ | hchannel
    · exact Nat.lt_succ_self _
    · exact Nat.lt_succ_of_lt (h.bound agent' sockfd' channel hchannel)
  distinct i fd i' fd' channel hchannel hchannel' := by
    rcases hopened.channel hchannel with ⟨rfl, rfl, rfl⟩ | hold
    · rcases hopened.channel hchannel' with ⟨rfl, rfl, _⟩ | hold'
      · exact ⟨rfl, rfl⟩
      · exact absurd (h.bound i' fd' _ hold') (Nat.lt_irrefl _)
    · rcases hopened.channel hchannel' with ⟨_, _, rfl⟩ | hold'
      · exact absurd (h.bound i fd _ hold) (Nat.lt_irrefl _)
      · exact h.distinct i fd i' fd' channel hold hold'
  reads address socket agent' channel hsocket hagent hhandle := by
    have hreads : socket.onSocketRead.isSome := by
      rw [hagent]
      rfl
    rcases hopened.sockets address socket hsocket hreads with hsocket | ⟨hagent', hhandle', hsockfd⟩
    · exact hopened.keeps (h.reads address socket agent' channel hsocket hagent hhandle)
    · obtain rfl : agent' = agent := Option.some.inj (hagent.symm.trans hagent')
      obtain rfl : channel = s.heapNum := Option.some.inj (hhandle.symm.trans hhandle')
      rw [hopened.channels agent', if_pos rfl, hsockfd, Function.update_self]

theorem Registered.turn (h : s.Registered) (hturn : Turn s t) : t.Registered := by
  cases hturn with
  | still hsteady => exact h.steady hsteady
  | touched channel c c' hsteady => exact h.steady hsteady
  | opened agent sockfd c hopened => exact h.opened hopened

end TcpService

end Mysya
