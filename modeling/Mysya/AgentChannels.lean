import Mysya.AgentOutcomes

/-!
# The channel tables of the transport agents

A successful `AddTcpSocket` pushes `OnHandleConnected`, and each handler that calls
`CloseTcpSocket` pushes `OnHandleClosed` or `OnHandleError` first. So the pushes tell
which descriptors should be in `channels_`, and to which agent the application sends.
-/

namespace Mysya

open GuardedRuns

def Push.IsChannel : Push → Bool
  | .connected => true
  | .closed => true
  | .error _ => true
  | _ => false

def lastNotice (pushes : List AgentNotice) (agent : Nat) (sockfd : Int) : Option AgentNotice :=
  (pushes.filter fun n => n.push.IsChannel).find? fun n => n.agent == agent && n.sockfd == sockfd

namespace TcpService

/-- The descriptor's last successful `AddTcpSocket` at the agent was not followed by
`CloseTcpSocket`. -/
def Open (s : TcpService) (agent : Nat) (sockfd : Int) : Prop :=
  (lastNotice s.pushes agent sockfd).map AgentNotice.push = some .connected

instance (s : TcpService) (agent : Nat) (sockfd : Int) : Decidable (s.Open agent sockfd) := by
  unfold Open
  infer_instance

/-- `AddTcpSocket` gets as far as `AttachEventLoop`. -/
def Attaches (s : TcpService) (agent : Nat) (sockfd : Int) (build : BuildCalls) : Prop :=
  (s.agents agent).channels sockfd = none ∧ build.allocate = true

/-- `BuildConnectedSocket` gets as far as `AttachEventLoop`. -/
def BuildAttaches (s : TcpService) (sockfd : Int) (build : BuildCalls) : Prop :=
  build.setup = true ∧ s.Attaches (s.nextAgent % s.agentNum) sockfd build

/-- No attachment fails, and the step does not reach `CloseTcpSocket`. -/
def KeepsOpen (s : TcpService) : Action → Prop
  | .accept _ sockfd build => s.BuildAttaches sockfd build → build.attach = true
  | .read address _ readableSize r _ => ∀ socket, s.sockets address = some socket →
      socket.onSocketRead.isSome →
        0 < readableSize ∧ r ≠ .received [] ∧ ∀ errno, r ≠ .failed errno
  | .write address _ w build => ∀ socket callback, s.sockets address = some socket →
      socket.writeCallback = some callback →
        match callback with
        | .onAsyncConnectSocketWrite _ => s.BuildAttaches socket.sockfd build → build.attach = true
        | .onSocketWrite _ => ∃ size, w = .sent size
  | .error address _ _ => ∀ socket agent, s.sockets address = some socket →
      socket.errorCallback ≠ some (.onSocketError agent)
  | _ => True

/-- A connect that completes is handed to the agent that started it. -/
def SameAgent (s : TcpService) : Action → Prop
  | .write address _ _ build => ∀ socket agent, s.sockets address = some socket →
      socket.writeCallback = some (.onAsyncConnectSocketWrite agent) →
        s.BuildAttaches socket.sockfd build → build.attach = true →
          agent = s.nextAgent % s.agentNum
  | _ => True

/-! ## What a step leaves in the tables -/

/-- The tables stay, the channels stay those of their sockets, and nothing of the kind
`p` is pushed. -/
structure Kept (p : Push → Bool) (s t : TcpService) : Prop where
  channels : ∀ agent, (t.agents agent).channels = (s.agents agent).channels
  heapNum : t.heapNum = s.heapNum
  heap : ∀ channel c, s.heap channel = some c →
    ∃ c', t.heap channel = some c' ∧ c'.tcpSocket = c.tcpSocket
  pushes : (t.pushes.filter fun n => p n.push) = s.pushes.filter fun n => p n.push

variable {p : Push → Bool} {s t u : TcpService}

theorem Kept.refl (s : TcpService) : Kept p s s :=
  ⟨fun _ => rfl, rfl, fun _ c hc => ⟨c, hc, rfl⟩, rfl⟩

theorem Kept.trans (h : Kept p s t) (h' : Kept p t u) : Kept p s u where
  channels := fun agent => (h'.channels agent).trans (h.channels agent)
  heapNum := h'.heapNum.trans h.heapNum
  heap := fun channel c hc => by
    obtain ⟨c', hc', hsame⟩ := h.heap channel c hc
    obtain ⟨c'', hc'', hsame'⟩ := h'.heap channel c' hc'
    exact ⟨c'', hc'', hsame'.trans hsame⟩
  pushes := h'.pushes.trans h.pushes

theorem Kept.setAgent (s : TcpService) (agent : Nat) {a : TransportAgent}
    (ha : a.channels = (s.agents agent).channels) : Kept p s (s.setAgent agent a) where
  channels := fun i => by
    show (Function.update s.agents agent a i).channels = _
    by_cases hi : i = agent
    · subst hi
      rw [Function.update_self]
      exact ha
    · rw [Function.update_of_ne hi]
  heapNum := rfl
  heap := fun _ c hc => ⟨c, hc, rfl⟩
  pushes := rfl

theorem Kept.setChannel {channel : Nat} {c c' : Connection} (hc : s.heap channel = some c)
    (hsame : c'.tcpSocket = c.tcpSocket) : Kept p s (s.setChannel channel (some c')) where
  channels := fun _ => rfl
  heapNum := rfl
  heap := fun channel' d hd => by
    show ∃ d', Function.update s.heap channel (some c') channel' = some d' ∧ _
    by_cases hchannel : channel' = channel
    · subst hchannel
      rw [hc] at hd
      cases hd
      exact ⟨c', Function.update_self _ _ _, hsame⟩
    · exact ⟨d, (Function.update_of_ne hchannel _ _).trans hd, rfl⟩
  pushes := rfl

theorem Kept.push {n : AgentNotice} (hn : p n.push = false) (s : TcpService) :
    Kept p s (s.pushWakeupCallback n) where
  channels := fun _ => rfl
  heapNum := rfl
  heap := fun _ c hc => ⟨c, hc, rfl⟩
  pushes := List.filter_cons_of_neg (by simp [hn])

theorem Kept.removeTimer (s : TcpService) (agent address : Nat) :
    Kept p s (s.removeAsyncConnectSocketTimer agent address) := by
  unfold removeAsyncConnectSocketTimer
  dsimp only
  split
  · exact .refl s
  · exact .setAgent s agent rfl

theorem Kept.deleteSocket (s : TcpService) (address : Nat) : Kept p s (s.deleteSocket address) :=
  ⟨fun _ => rfl, rfl, fun _ c hc => ⟨c, hc, rfl⟩, rfl⟩

theorem Kept.close {agent : Nat} {sockfd : Int} (hclose : s.closeTcpSocket agent sockfd = some t) :
    Kept p s t := by
  unfold closeTcpSocket removeTcpSocket at hclose
  cases hchannel : (s.agents agent).channels sockfd with
  | none => simp [hchannel] at hclose
  | some channel =>
    simp only [hchannel, Option.some.injEq] at hclose
    subst hclose
    exact .refl s

theorem Kept.failChannel {agent channel : Nat} {socket : AgentSocket} {c c' : Connection}
    (hp : p (.error c'.errno) = false) (hc : s.heap channel = some c)
    (hsame : c'.tcpSocket = c.tcpSocket) (hfail : s.failChannel agent channel socket c' = some t) :
    Kept p s t :=
  (Kept.setChannel hc hsame).trans ((Kept.push hp _).trans (.close hfail))

/-- What a connection reads that goes on. -/
theorem receive_quiet (c : Connection) {readableSize : Int} {r : ReadResult}
    (hsize : 0 < readableSize) (hreceived : r ≠ .received []) (hfailed : ∀ errno, r ≠ .failed errno) :
    ∃ c' received, c.receive readableSize r = (c', .done received false) := by
  unfold Connection.receive
  rw [if_neg (by omega)]
  cases r with
  | received data =>
    have hlength : data.length > 0 := List.length_pos_iff.mpr fun hnil => hreceived (by rw [hnil])
    exact ⟨_, true, by simp only [if_pos hlength]; rfl⟩
  | again => exact ⟨_, false, rfl⟩
  | failed errno => exact absurd rfl (hfailed errno)

/-- The pushes before `CloseTcpSocket` are not of the kind `p`. -/
def Quiet (p : Push → Bool) : Prop :=
  p .closed = false ∧ ∀ errno, p (.error errno) = false

theorem Kept.onSocketRead {agent : Nat} {socket : AgentSocket} {readableSize : Int}
    {r : ReadResult} {decoded : Nat}
    (hquiet : Quiet p ∨
      (0 < readableSize ∧ r ≠ .received [] ∧ ∀ errno, r ≠ .failed errno))
    (hread : s.onSocketRead agent socket readableSize r decoded = some t) : Kept p s t := by
  unfold TcpService.onSocketRead at hread
  split at hread
  · cases hread
  · rename_i channel _
    split at hread
    · cases hread
    · rename_i c hc
      split at hread
      · have hsame := c.receive_tcpSocket readableSize r
        split at hread
        · rename_i c' hreceive
          rw [hreceive] at hsame
          rcases hquiet with hquiet | ⟨hsize, hreceived, hfailed⟩
          · exact .failChannel (hquiet.2 _) hc hsame hread
          · obtain ⟨_, _, hdone⟩ := receive_quiet c hsize hreceived hfailed
            rw [hreceive] at hdone
            cases hdone
        · rename_i c' received peerClosed hreceive
          rw [hreceive] at hsame
          dsimp only at hread
          split at hread
          · rename_i hclosed
            rcases hquiet with hquiet | ⟨hsize, hreceived, hfailed⟩
            · refine (Kept.setChannel hc ?_).trans ((Kept.push hquiet.1 _).trans (.close hread))
              exact hsame
            · obtain ⟨_, _, hdone⟩ := receive_quiet c hsize hreceived hfailed
              rw [hreceive] at hdone
              cases hdone
              cases hclosed
          · cases hread
            exact .setChannel hc hsame
      · cases hread

theorem Kept.onSocketWrite {agent : Nat} {socket : AgentSocket} {w : WriteResult}
    (hquiet : Quiet p ∨ ∃ size, w = .sent size)
    (hwrite : s.onSocketWrite agent socket w = some t) : Kept p s t := by
  unfold TcpService.onSocketWrite at hwrite
  split at hwrite
  · cases hwrite
  · rename_i channel _
    split at hwrite
    · cases hwrite
    · rename_i c hc
      dsimp only at hwrite
      split at hwrite
      · have hsame := c.flush_tcpSocket w
        split at hwrite
        · rename_i c' hflush
          rw [hflush] at hsame
          rcases hquiet with hquiet | ⟨size, rfl⟩
          · exact .failChannel (hquiet.2 _) hc hsame hwrite
          · cases hflush
        · rename_i c' hflush
          rw [hflush] at hsame
          cases hwrite
          exact .setChannel hc hsame
      · cases hwrite

theorem Kept.onSocketError {agent : Nat} {socket : AgentSocket} {errno : Int} (hquiet : Quiet p)
    (herror : s.onSocketError agent socket errno = some t) : Kept p s t := by
  unfold TcpService.onSocketError at herror
  split at herror
  · cases herror
  · split at herror
    · cases herror
    · rename_i c hc
      have hsame : (c.setErrno errno).tcpSocket = c.tcpSocket := rfl
      exact .failChannel (hquiet.2 _) hc hsame herror

theorem Kept.onSendQueueReady {agent : Nat} {host : Int} {m : Message} {w : WriteResult}
    (hsend : s.onSendQueueReady agent host m w = some t) : Kept p s t := by
  unfold TcpService.onSendQueueReady at hsend
  split at hsend
  · cases hsend
    exact .refl s
  · split at hsend
    · cases hsend
    · rename_i c hc
      split at hsend
      · cases hsend
        exact .setChannel hc (c.sendMessage_tcpSocket m w)
      · cases hsend

theorem Kept.onAsyncConnectError (hp : ∀ errno, p (.asyncConnectError errno) = false)
    (s : TcpService) (agent address : Nat) (socket : AgentSocket) (errno : Int) :
    Kept p s (s.onAsyncConnectError agent address socket errno) :=
  (Kept.deleteSocket s address).trans ((Kept.removeTimer _ agent address).trans (.push (hp errno) _))

theorem Kept.onAsyncConnectTimeout (hp : ∀ errno, p (.asyncConnectError errno) = false)
    {agent : Nat} {timerId : Int} (htimeout : s.onAsyncConnectTimeout agent timerId = some t) :
    Kept p s t := by
  unfold TcpService.onAsyncConnectTimeout at htimeout
  dsimp only at htimeout
  split at htimeout
  · cases htimeout
    exact .refl s
  · rename_i address _
    split at htimeout
    · cases htimeout
    · cases htimeout
      refine Kept.trans ?_ (.push (hp _) _)
      refine Kept.trans ?_ (.deleteSocket _ address)
      exact .setAgent s agent rfl

theorem Kept.asyncConnect (hp : ∀ errno, p (.asyncConnectError errno) = false) (s : TcpService)
    (address : Nat) (sockfd : Int) (started attach : Bool) (timeoutMs : Int) (startTimer : Bool) :
    Kept p s (s.asyncConnect address sockfd started attach timeoutMs startTimer) := by
  have hsame : ∀ t : TcpService, t.agents = s.agents → t.heapNum = s.heapNum → t.heap = s.heap →
      t.pushes = s.pushes → Kept p s t := by
    intro t hagents hheapNum hheap hpushes
    exact ⟨fun _ => by rw [hagents], hheapNum, fun _ c hc => ⟨c, by rw [hheap]; exact hc, rfl⟩,
      by rw [hpushes]⟩
  unfold TcpService.asyncConnect allocateTransportAgent
  dsimp only
  split
  · exact hsame _ rfl rfl rfl rfl
  · split
    · refine Kept.trans ?_ (.push (hp _) _)
      exact hsame _ rfl rfl rfl rfl
    · split
      · unfold addAsyncConnectSocketTimer
        split
        · refine Kept.trans ?_ (.setAgent _ _ rfl)
          exact hsame _ rfl rfl rfl rfl
        · exact hsame _ rfl rfl rfl rfl
      · exact hsame _ rfl rfl rfl rfl

/-! ## What building a connected socket leaves -/

/-- A new channel at the agent, and nothing pushed yet. -/
structure Stored (agent : Nat) (sockfd : Int) (c : Option Connection) (s t : TcpService) : Prop where
  channels : ∀ i, (t.agents i).channels = if i = agent then
    Function.update (s.agents i).channels sockfd (some s.heapNum) else (s.agents i).channels
  heapNum : t.heapNum = s.heapNum + 1
  heap : t.heap = Function.update s.heap s.heapNum c
  pushes : t.pushes = s.pushes

inductive BuiltChannel (p : Push → Bool) (s : TcpService) (socket : AgentSocket) (build : BuildCalls) :
    TcpService × Bool → Prop
  | refused (t : TcpService) : ¬ s.BuildAttaches socket.sockfd build → Kept p s t →
      BuiltChannel p s socket build (t, false)
  | failed (t : TcpService) : s.BuildAttaches socket.sockfd build → build.attach = false →
      Stored (s.nextAgent % s.agentNum) socket.sockfd none s t → BuiltChannel p s socket build (t, false)
  | connected (t : TcpService) (c : Connection) : s.BuildAttaches socket.sockfd build →
      build.attach = true → c.tcpSocket = socket.object →
      Stored (s.nextAgent % s.agentNum) socket.sockfd (some c) s t →
      BuiltChannel p s socket build (t.pushWakeupCallback
        ⟨socket.object, s.nextAgent % s.agentNum, socket.sockfd, .connected⟩, true)

theorem builtChannel (p : Push → Bool) (s : TcpService) (address : Nat) (socket : AgentSocket)
    (build : BuildCalls) :
    BuiltChannel p s socket build (s.buildConnectedSocket address socket build) := by
  have hsame : ∀ n, Kept p s { s with nextAgent := n } :=
    fun n => ⟨fun _ => rfl, rfl, fun _ c hc => ⟨c, hc, rfl⟩, rfl⟩
  have hchannels : ∀ i (a : TransportAgent) agent, a.channels =
      Function.update (s.agents agent).channels socket.sockfd (some s.heapNum) →
      (Function.update s.agents agent a i).channels = if i = agent then
        Function.update (s.agents i).channels socket.sockfd (some s.heapNum)
        else (s.agents i).channels := by
    intro i a agent ha
    by_cases hi : i = agent
    · subst hi
      rw [Function.update_self, if_pos rfl, ha]
    · rw [Function.update_of_ne hi, if_neg hi]
  unfold buildConnectedSocket allocateTransportAgent addTcpSocket
  dsimp only
  split
  · rename_i hsetup
    exact .refused s (fun h => by rw [h.1] at hsetup; cases hsetup) (.refl s)
  · rename_i hsetup
    split
    · rename_i hpresent
      exact .refused _ (fun h => by rw [h.2.1] at hpresent; cases hpresent) (hsame _)
    · rename_i habsent
      split
      · rename_i hallocate
        exact .refused _ (fun h => by rw [h.2.2] at hallocate; cases hallocate) (hsame _)
      · rename_i hallocate
        have hattaches : s.BuildAttaches socket.sockfd build :=
          ⟨by simpa using hsetup, by simpa using habsent, by simpa using hallocate⟩
        split
        · rename_i hattach
          exact .failed _ hattaches hattach
            ⟨fun i => hchannels i _ _ rfl, rfl, Function.update_idem _ _ _, rfl⟩
        · rename_i hattach
          exact .connected _ (.new socket.object 1024 256 (by decide)) hattaches
            (by simpa using hattach) rfl ⟨fun i => hchannels i _ _ rfl, rfl, rfl, rfl⟩

theorem removeTimer_turn (s : TcpService) (agent address : Nat) :
    (s.removeAsyncConnectSocketTimer agent address).nextAgent = s.nextAgent ∧
    (s.removeAsyncConnectSocketTimer agent address).agentNum = s.agentNum := by
  unfold removeAsyncConnectSocketTimer
  dsimp only
  split <;> exact ⟨rfl, rfl⟩

theorem buildAttaches_removeTimer {agent address : Nat} {sockfd : Int} {build : BuildCalls} :
    (s.removeAsyncConnectSocketTimer agent address).BuildAttaches sockfd build ↔
      s.BuildAttaches sockfd build := by
  have hkept : Kept Push.IsChannel s (s.removeAsyncConnectSocketTimer agent address) :=
    .removeTimer s agent address
  unfold BuildAttaches Attaches
  rw [(removeTimer_turn s agent address).1, (removeTimer_turn s agent address).2, hkept.channels]

/-- A step that keeps the tables, or one that builds a connected socket. -/
inductive Stepped (p : Push → Bool) (s : TcpService) : Action → TcpService → Prop
  | kept {a : Action} {t : TcpService} : Kept p s t → Stepped p s a t
  | accepted (address : Nat) (sockfd : Int) (build : BuildCalls) :
      Stepped p s (.accept address sockfd build) (s.acceptRound address sockfd build)
  | completed (address : Nat) (event : EpollEvent) (w : WriteResult) (build : BuildCalls)
      (agent : Nat) (socket : AgentSocket) : s.sockets address = some socket →
      socket.writeCallback = some (.onAsyncConnectSocketWrite agent) →
      Stepped p s (.write address event w build)
        (s.onAsyncConnectSocketWrite agent address socket build)

theorem stepped (hp : ∀ errno, p (.asyncConnectError errno) = false) {a : Action}
    (hquiet : Quiet p ∨ s.KeepsOpen a) (hstep : s.step a = some t) : Stepped p s a t := by
  cases a with
  | accept address sockfd build =>
    simp only [step] at hstep
    split at hstep
    · cases hstep
      exact .accepted address sockfd build
    · cases hstep
  | asyncConnect address sockfd started attach timeoutMs startTimer =>
    simp only [step] at hstep
    split at hstep
    · cases hstep
      exact .kept (.asyncConnect hp s address sockfd started attach timeoutMs startTimer)
    · cases hstep
  | send agent host m w => exact .kept (.onSendQueueReady hstep)
  | read address event readableSize r decoded =>
    simp only [step] at hstep
    split at hstep
    · cases hstep
    · rename_i socket hsocket
      split at hstep
      · unfold onRead at hstep
        split at hstep
        · cases hstep
          exact .kept (.refl s)
        · rename_i agent hagent
          refine .kept (.onSocketRead (hquiet.imp_right fun hguard => ?_) hstep)
          exact hguard socket hsocket (by rw [hagent]; rfl)
      · cases hstep
  | write address event w build =>
    simp only [step] at hstep
    split at hstep
    · cases hstep
    · rename_i socket hsocket
      split at hstep
      · unfold onWrite at hstep
        split at hstep
        · cases hstep
          exact .kept (.refl s)
        · rename_i agent hcallback
          cases hstep
          exact .completed address event w build agent socket hsocket hcallback
        · rename_i agent hcallback
          refine .kept (.onSocketWrite (hquiet.imp_right fun hguard => ?_) hstep)
          exact hguard socket _ hsocket hcallback
      · cases hstep
  | error address event errno =>
    simp only [step] at hstep
    split at hstep
    · cases hstep
    · rename_i socket hsocket
      split at hstep
      · unfold onError at hstep
        split at hstep
        · cases hstep
          exact .kept (.refl s)
        · rename_i agent _
          cases hstep
          exact .kept (.onAsyncConnectError hp s agent address socket errno)
        · rename_i agent hcallback
          rcases hquiet with hquiet | hguard
          · exact .kept (.onSocketError hquiet hstep)
          · exact absurd hcallback (hguard socket agent hsocket)
      · cases hstep
  | timeout agent timerId =>
    simp only [step] at hstep
    split at hstep
    · cases hstep
    · refine .kept (Kept.trans ?_ (.onAsyncConnectTimeout hp hstep))
      exact .setAgent s agent rfl
  | finishConnect object success =>
    simp only [step] at hstep
    split at hstep
    · cases hstep
      exact .kept ⟨fun _ => rfl, rfl, fun _ c hc => ⟨c, hc, rfl⟩, rfl⟩
    · cases hstep

/-! ## The tables hold what is open -/

def Tracked (s : TcpService) : Prop :=
  ∀ agent sockfd, ((s.agents agent).channels sockfd).isSome ↔ s.Open agent sockfd

theorem Tracked.kept (h : s.Tracked) (hkept : Kept Push.IsChannel s t) : t.Tracked := by
  intro agent sockfd
  rw [hkept.channels]
  unfold Open lastNotice
  rw [hkept.pushes]
  exact h agent sockfd

theorem open_connected (s : TcpService) (object agent : Nat) (sockfd : Int) (i : Nat) (fd : Int) :
    (s.pushWakeupCallback ⟨object, agent, sockfd, .connected⟩).Open i fd ↔
      (i = agent ∧ fd = sockfd) ∨ s.Open i fd := by
  unfold Open lastNotice pushWakeupCallback
  rw [List.filter_cons_of_pos (by rfl), List.find?_cons]
  by_cases hi : i = agent ∧ fd = sockfd
  · obtain ⟨rfl, rfl⟩ := hi
    simp
  · have hne : (agent == i && sockfd == fd) = false := by
      rw [Bool.and_eq_false_iff, beq_eq_false_iff_ne, beq_eq_false_iff_ne]
      by_contra hboth
      push Not at hboth
      exact hi ⟨hboth.1.symm, hboth.2.symm⟩
    simp only [hne, hi, false_or]

theorem Tracked.stored (h : s.Tracked) {agent : Nat} {sockfd : Int} {c : Option Connection}
    (hstored : Stored agent sockfd c s t) (object : Nat) :
    (t.pushWakeupCallback ⟨object, agent, sockfd, .connected⟩).Tracked := by
  intro i fd
  have hopen : t.Open i fd ↔ s.Open i fd := by
    unfold Open
    rw [hstored.pushes]
  rw [open_connected, hopen, ← h i fd]
  show ((t.agents i).channels fd).isSome ↔ _
  rw [hstored.channels]
  by_cases hi : i = agent
  · subst hi
    by_cases hfd : fd = sockfd
    · subst hfd
      simp
    · simp [hfd]
  · simp [hi]

theorem Tracked.build (h : s.Tracked) {socket : AgentSocket} {build : BuildCalls}
    {r : TcpService × Bool} (hguard : s.BuildAttaches socket.sockfd build → build.attach = true)
    (hbuilt : BuiltChannel Push.IsChannel s socket build r) : r.1.Tracked := by
  cases hbuilt with
  | refused t _ hkept => exact h.kept hkept
  | failed t hattaches hattach _ =>
    rw [hguard hattaches] at hattach
    cases hattach
  | connected t c _ _ _ hstored => exact h.stored hstored socket.object

theorem acceptRound_tracked (h : s.Tracked) (address : Nat) {sockfd : Int} {build : BuildCalls}
    (hguard : s.BuildAttaches sockfd build → build.attach = true) :
    (s.acceptRound address sockfd build).Tracked := by
  let socket : AgentSocket := ⟨s.objects, sockfd, none, none, none, none⟩
  let s' : TcpService := { s.setSocket address socket with objects := s.objects + 1 }
  have hs' : s'.Tracked := h
  have hguard' : s'.BuildAttaches socket.sockfd build → build.attach = true := hguard
  have hbuilt := hs'.build hguard' (builtChannel _ s' address socket build)
  unfold acceptRound
  dsimp only
  split
  · rename_i t hbuild
    rw [hbuild] at hbuilt
    exact hbuilt
  · rename_i t hbuild
    rw [hbuild] at hbuilt
    exact hbuilt.kept (.deleteSocket t address)

theorem onAsyncConnectSocketWrite_tracked (h : s.Tracked) (agent address : Nat)
    {socket : AgentSocket} {build : BuildCalls}
    (hguard : s.BuildAttaches socket.sockfd build → build.attach = true) :
    (s.onAsyncConnectSocketWrite agent address socket build).Tracked := by
  have hkept : Kept Push.IsChannel s (s.removeAsyncConnectSocketTimer agent address) :=
    .removeTimer s agent address
  have hbuilt := (h.kept hkept).build
    (r := (s.removeAsyncConnectSocketTimer agent address).buildConnectedSocket address socket build)
    (fun hattaches => hguard (buildAttaches_removeTimer.mp hattaches))
    (builtChannel _ _ address socket build)
  unfold onAsyncConnectSocketWrite
  dsimp only
  split
  · rename_i t hbuild
    rw [hbuild] at hbuilt
    exact hbuilt.kept (.push rfl t)
  · rename_i t hbuild
    rw [hbuild] at hbuilt
    exact hbuilt.kept ((Kept.deleteSocket t address).trans (.push rfl _))

theorem Tracked.step (h : s.Tracked) {a : Action} (hguard : s.KeepsOpen a)
    (hstep : s.step a = some t) : t.Tracked := by
  have hstepped : Stepped Push.IsChannel s a t := stepped (fun _ => rfl) (.inr hguard) hstep
  cases hstepped with
  | kept hkept => exact h.kept hkept
  | accepted address sockfd build => exact acceptRound_tracked h address hguard
  | completed address event w build agent socket hsocket hcallback =>
    exact onAsyncConnectSocketWrite_tracked h agent address (hguard socket _ hsocket hcallback)

theorem init_tracked (agentNum : Nat) : (init agentNum).Tracked := by
  intro agent sockfd
  simp [init, Open, lastNotice]

/-- What is said of `RemoveTcpSocket`. -/
def Removes (s : TcpService) (agent : Nat) (sockfd : Int) : Prop :=
  ∃ t address, s.removeTcpSocket agent sockfd = some (t, address) ∧
    (∀ i, (t.agents i).channels = if i = agent then
      Function.update (s.agents i).channels sockfd none else (s.agents i).channels) ∧
    ((s.agents agent).channels sockfd).isSome = address.isSome

theorem not_removes (s : TcpService) (agent : Nat) (sockfd : Int) : ¬ s.Removes agent sockfd := by
  rintro ⟨t, address, hremove, _, hsome⟩
  unfold removeTcpSocket at hremove
  cases hchannel : (s.agents agent).channels sockfd with
  | none => simp [hchannel] at hremove
  | some channel =>
    simp only [hchannel, Option.some.injEq, Prod.mk.injEq] at hremove
    obtain ⟨_, rfl⟩ := hremove
    rw [hchannel] at hsome
    cases hsome

theorem addTcpSocket_refused (s : TcpService) (agent address : Nat) (socket : AgentSocket)
    (build : BuildCalls) :
    ((s.addTcpSocket agent address socket build).2 = false → ∀ i,
      ((s.addTcpSocket agent address socket build).1.agents i).channels = (s.agents i).channels) ↔
    (s.Attaches agent socket.sockfd build → build.attach = true) := by
  unfold addTcpSocket Attaches
  dsimp only
  split
  · rename_i hpresent
    simp only [implies_true, true_iff]
    intro hattaches
    rw [hattaches.1] at hpresent
    cases hpresent
  · rename_i habsent
    rw [Bool.not_eq_true, Option.isSome_eq_false_iff, Option.isNone_iff_eq_none] at habsent
    split
    · rename_i hallocate
      simp [hallocate]
    · rename_i hallocate
      split
      · rename_i hattach
        simp only [hattach, habsent, hallocate, true_implies, Bool.false_eq_true]
        constructor
        · intro hsame _
          have hagent := congrFun (hsame agent) socket.sockfd
          simp [setChannel, setSocket, setAgent, habsent] at hagent
        · intro hnot
          exact absurd ⟨trivial, by simp⟩ hnot
      · rename_i hattach
        simp [hattach]

/-- While no attachment of a new channel fails and no connection is closed, the tables hold
what is open. An `AddTcpSocket` that fails changes them exactly where its attachment fails,
and `RemoveTcpSocket` never does its work. -/
theorem channel_tables (agentNum : Nat) (s : TcpService)
    (h : Reaches step KeepsOpen (init agentNum) s) :
    (∀ agent sockfd, ((s.agents agent).channels sockfd).isSome ↔ s.Open agent sockfd) ∧
    (∀ agent address socket build,
      ((s.addTcpSocket agent address socket build).2 = false → ∀ i,
        ((s.addTcpSocket agent address socket build).1.agents i).channels =
          (s.agents i).channels) ↔
      (s.Attaches agent socket.sockfd build → build.attach = true)) ∧
    ∀ agent sockfd, ¬ s.Removes agent sockfd := by
  refine ⟨?_, s.addTcpSocket_refused, s.not_removes⟩
  exact h.invariant (init_tracked agentNum) fun s a s' hs hguard hstep => hs.step hguard hstep

def allDone : BuildCalls := ⟨true, true, true⟩

theorem channel_tables_accepted : (((init 2).acceptRound 0 7 allDone).agents 0).channels 7 ≠ none := by
  have h : Reaches step KeepsOpen (init 2) ((init 2).acceptRound 0 7 allDone) :=
    .snoc (.accept 0 7 allDone) .refl (fun _ => rfl) rfl
  have hopen : ((init 2).acceptRound 0 7 allDone).Open 0 7 := by decide
  have hsome := ((channel_tables 2 _ h).1 0 7).mpr hopen
  intro hnone
  rw [hnone] at hsome
  cases hsome

/-- A socket whose attachment failed is still in the table, and so is one its peer closed. -/
theorem closed_kept :
    (∃ s, Reaches step (fun _ _ => True) (init 2) s ∧
      ((s.agents 0).channels 7).isSome ∧ ¬ s.Open 0 7 ∧ s.pushes = []) ∧
    ∃ s, Reaches step (fun _ _ => True) (init 2) s ∧
      ((s.agents 0).channels 7).isSome ∧ ¬ s.Open 0 7 ∧
      s.pushes.map AgentNotice.push = [.closed, .connected] := by
  constructor
  · exact ⟨_, reaches_of_run (l := [.accept 0 7 ⟨true, false, true⟩]) rfl,
      by decide, by decide, rfl⟩
  · exact ⟨_, reaches_of_run (l := [.accept 0 7 allDone, .read 0 ⟨0, true, false, false⟩ 0 .again 0])
      rfl, by decide, by decide, rfl⟩

/-! ## The agent given to the application -/

structure Owned (s : TcpService) : Prop where
  numbered : ∀ agent sockfd channel, (s.agents agent).channels sockfd = some channel →
    channel < s.heapNum
  owners : ∀ n ∈ s.pushes.filter fun n => n.push.IsSuccess, ∃ channel c,
    (s.agents n.agent).channels n.sockfd = some channel ∧ s.heap channel = some c ∧
      c.tcpSocket = n.object

theorem Owned.kept (h : s.Owned) (hkept : Kept Push.IsSuccess s t) : t.Owned where
  numbered := fun agent sockfd channel hchannel => by
    rw [hkept.channels] at hchannel
    rw [hkept.heapNum]
    exact h.numbered agent sockfd channel hchannel
  owners := fun n hn => by
    rw [hkept.pushes] at hn
    obtain ⟨channel, c, hchannel, hc, hobject⟩ := h.owners n hn
    obtain ⟨c', hc', hsame⟩ := hkept.heap channel c hc
    exact ⟨channel, c', by rw [hkept.channels]; exact hchannel, hc', hsame.trans hobject⟩

/-- The new channel takes the place of none. -/
theorem Owned.stored (h : s.Owned) {agent : Nat} {sockfd : Int} {c : Option Connection}
    (habsent : (s.agents agent).channels sockfd = none) (hstored : Stored agent sockfd c s t) :
    t.Owned where
  numbered := fun i fd channel hchannel => by
    rw [hstored.channels] at hchannel
    rw [hstored.heapNum]
    by_cases hi : i = agent
    · subst hi
      rw [if_pos rfl] at hchannel
      rcases Table.insert_some hchannel with ⟨_, rfl⟩ | ⟨_, hold⟩
      · exact Nat.lt_succ_self _
      · exact Nat.lt_succ_of_lt (h.numbered i fd channel hold)
    · rw [if_neg hi] at hchannel
      exact Nat.lt_succ_of_lt (h.numbered i fd channel hchannel)
  owners := fun n hn => by
    rw [hstored.pushes] at hn
    obtain ⟨channel, d, hchannel, hd, hobject⟩ := h.owners n hn
    refine ⟨channel, d, ?_, ?_, hobject⟩
    · rw [hstored.channels]
      by_cases hi : n.agent = agent
      · rw [if_pos hi]
        have hne : n.sockfd ≠ sockfd := by
          intro hsame
          rw [hi, hsame, habsent] at hchannel
          cases hchannel
        rw [Function.update_of_ne hne]
        exact hchannel
      · rw [if_neg hi]
        exact hchannel
    · rw [hstored.heap, Function.update_of_ne (Nat.ne_of_lt (h.numbered _ _ _ hchannel))]
      exact hd

theorem Owned.push (h : s.Owned) {n : AgentNotice} (howner : n.push.IsSuccess = true →
    ∃ channel c, (s.agents n.agent).channels n.sockfd = some channel ∧ s.heap channel = some c ∧
      c.tcpSocket = n.object) : (s.pushWakeupCallback n).Owned where
  numbered := h.numbered
  owners := fun n' hn' => by
    obtain ⟨hmem, hsuccess⟩ := List.mem_filter.mp hn'
    rcases List.mem_cons.mp hmem with rfl | hold
    · exact howner hsuccess
    · exact h.owners n' (List.mem_filter.mpr ⟨hold, hsuccess⟩)

/-- Where a socket was built, the agent whose turn it was holds it. -/
theorem Owned.build (h : s.Owned) {socket : AgentSocket} {build : BuildCalls}
    {r : TcpService × Bool} (hbuilt : BuiltChannel Push.IsSuccess s socket build r) :
    r.1.Owned ∧ (r.2 = true → s.BuildAttaches socket.sockfd build ∧ build.attach = true ∧
      ∃ channel c, (r.1.agents (s.nextAgent % s.agentNum)).channels socket.sockfd = some channel ∧
        r.1.heap channel = some c ∧ c.tcpSocket = socket.object) := by
  cases hbuilt with
  | refused t _ hkept => exact ⟨h.kept hkept, fun hfalse => by cases hfalse⟩
  | failed t hattaches _ hstored =>
    exact ⟨h.stored hattaches.2.1 hstored, fun hfalse => by cases hfalse⟩
  | connected t c hattaches hattach hobject hstored =>
    have hchannel : (t.agents (s.nextAgent % s.agentNum)).channels socket.sockfd =
        some s.heapNum := by
      rw [hstored.channels, if_pos rfl, Function.update_self]
    have hheap : t.heap s.heapNum = some c := by
      rw [hstored.heap, Function.update_self]
    refine ⟨(h.stored hattaches.2.1 hstored).push fun _ => ⟨_, c, hchannel, hheap, hobject⟩, ?_⟩
    exact fun _ => ⟨hattaches, hattach, _, c, hchannel, hheap, hobject⟩

theorem acceptRound_owned (h : s.Owned) (address : Nat) (sockfd : Int) (build : BuildCalls) :
    (s.acceptRound address sockfd build).Owned := by
  let socket : AgentSocket := ⟨s.objects, sockfd, none, none, none, none⟩
  let s' : TcpService := { s.setSocket address socket with objects := s.objects + 1 }
  have hs' : s'.Owned := ⟨h.numbered, h.owners⟩
  have hbuilt := (hs'.build (builtChannel _ s' address socket build)).1
  unfold acceptRound
  dsimp only
  split
  · rename_i t hbuild
    rw [hbuild] at hbuilt
    exact hbuilt
  · rename_i t hbuild
    rw [hbuild] at hbuilt
    exact hbuilt.kept (.deleteSocket t address)

theorem onAsyncConnectSocketWrite_owned (h : s.Owned) {agent : Nat} (address : Nat)
    {socket : AgentSocket} {build : BuildCalls}
    (hguard : s.BuildAttaches socket.sockfd build → build.attach = true →
      agent = s.nextAgent % s.agentNum) :
    (s.onAsyncConnectSocketWrite agent address socket build).Owned := by
  have hkept : Kept Push.IsSuccess s (s.removeAsyncConnectSocketTimer agent address) :=
    .removeTimer s agent address
  obtain ⟨howned, hholds⟩ := (h.kept hkept).build (builtChannel _ _ address socket build)
  unfold onAsyncConnectSocketWrite
  dsimp only
  split
  · rename_i t hbuild
    rw [hbuild] at howned hholds
    obtain ⟨hattaches, hattach, hchannel⟩ := hholds rfl
    refine howned.push fun _ => ?_
    show ∃ channel c, (t.agents agent).channels socket.sockfd = some channel ∧ _
    rw [hguard (buildAttaches_removeTimer.mp hattaches) hattach]
    rwa [(removeTimer_turn s agent address).1, (removeTimer_turn s agent address).2] at hchannel
  · rename_i t hbuild
    rw [hbuild] at howned
    exact howned.kept ((Kept.deleteSocket t address).trans (.push rfl _))

theorem Owned.step (h : s.Owned) {a : Action} (hguard : s.SameAgent a)
    (hstep : s.step a = some t) : t.Owned := by
  have hstepped : Stepped Push.IsSuccess s a t :=
    stepped (fun _ => rfl) (.inl ⟨rfl, fun _ => rfl⟩) hstep
  cases hstepped with
  | kept hkept => exact h.kept hkept
  | accepted address sockfd build => exact acceptRound_owned h address sockfd build
  | completed address event w build agent socket hsocket hcallback =>
    exact onAsyncConnectSocketWrite_owned h address (hguard socket agent hsocket hcallback)

theorem init_owned (agentNum : Nat) : (init agentNum).Owned :=
  ⟨fun _ _ _ hchannel => (by cases hchannel), fun _ hn => absurd hn List.not_mem_nil⟩

/-- While each connect that completes is handed to the agent that started it, the agent the
application is given holds the socket, and what is sent through that agent reaches it. -/
theorem notified_agent_owns (agentNum : Nat) (s : TcpService)
    (h : Reaches step SameAgent (init agentNum) s) (n : AgentNotice) (hn : n ∈ s.pushes)
    (hsuccess : n.push = .connected ∨ n.push = .asyncConnected) :
    ∃ channel c, (s.agents n.agent).channels n.sockfd = some channel ∧
      s.heap channel = some c ∧ c.tcpSocket = n.object ∧
      ∀ m w, c.SendFits m w → s.onSendQueueReady n.agent n.sockfd m w =
        some (s.setChannel channel (some (c.sendMessage m w).1)) := by
  have howned : s.Owned :=
    h.invariant (init_owned agentNum) fun s a s' hs hguard hstep => hs.step hguard hstep
  have hpush : n.push.IsSuccess = true := by
    rcases hsuccess with hpush | hpush
    · rw [hpush]
      rfl
    · rw [hpush]
      rfl
  obtain ⟨channel, c, hchannel, hc, hobject⟩ :=
    howned.owners n (List.mem_filter.mpr ⟨hn, hpush⟩)
  refine ⟨channel, c, hchannel, hc, hobject, fun m w hfits => ?_⟩
  unfold onSendQueueReady
  simp only [hchannel, hc, if_pos hfits]

def connectRun : List Action :=
  [.asyncConnect 0 7 true true 0 false, .finishConnect 0 true,
    .write 0 ⟨0, false, true, false⟩ .again allDone]

/-- A single agent is always the one whose turn it is. -/
theorem notified_agent_owns_single : ∃ s, run step connectRun (init 1) = some s ∧
    ∃ channel, (s.agents 0).channels 7 = some channel := by
  refine ⟨_, rfl, ?_⟩
  have hguarded : Guarded step SameAgent connectRun (init 1) := by
    refine ⟨trivial, fun s hs => ⟨trivial, fun t ht => ⟨?_, fun _ _ => trivial⟩⟩⟩
    cases hs
    cases ht
    intro socket agent hsocket hcallback _ _
    cases hsocket
    cases hcallback
    rfl
  have h := Reaches.refl.run hguarded rfl
  obtain ⟨channel, _, hchannel, _⟩ := notified_agent_owns 1 _ h ⟨0, 0, 7, .asyncConnected⟩
    (List.mem_cons_self ..) (.inr rfl)
  exact ⟨channel, hchannel⟩

/-- With two agents, the application is told of one and the socket is with the other. -/
theorem notified_agent_differs : ∃ s, Reaches step (fun _ _ => True) (init 2) s ∧
    s.pushes.map (fun n => (n.agent, n.push)) = [(0, .asyncConnected), (1, .connected)] ∧
    (s.agents 0).channels 7 = none ∧ ((s.agents 1).channels 7).isSome :=
  ⟨_, reaches_of_run (l := connectRun) rfl, rfl, rfl, rfl⟩

end TcpService

end Mysya
