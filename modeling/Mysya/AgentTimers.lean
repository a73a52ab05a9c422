import Mysya.AgentOutcomes

/-!
# The connect timers of the transport agents

`async_connect_timer_sockets_` and `async_connect_socket_timers_` name a socket by its address,
which a later socket may have too. Each handler that deletes a connecting socket erases its
entries before it returns, so the maps never speak of a later socket at the same address, and
a timeout finds the socket its timer was started for.
-/

namespace Mysya

open GuardedRuns

/-- The socket waits for the connect that the agent started. -/
structure AgentSocket.Connects (socket : AgentSocket) (agent : Nat) : Prop where
  write : socket.writeCallback = some (.onAsyncConnectSocketWrite agent)
  error : socket.errorCallback = some (.onAsyncConnectError agent)

namespace TransportAgent

/-- The two maps and the armed timers of an agent, against the sockets there are. -/
structure Keyed (agent : Nat) (a : TransportAgent) (sockets : Nat → Option AgentSocket) : Prop where
  inverse : ∀ t address, a.timerSockets t = some address ↔ a.socketTimers address = some t
  numbered : ∀ t address, a.timerSockets t = some address → t ≤ a.timerIds
  started : ∀ t address, a.timerSockets t = some address →
    ∃ socket, sockets address = some socket ∧ socket.Connects agent ∧
      a.timers t = some socket.object
  armed : ∀ t object, a.timers t = some object → ∃ address, a.timerSockets t = some address

/-- The connect timers are the same. -/
structure SameTimers (a b : TransportAgent) : Prop where
  timerSockets : b.timerSockets = a.timerSockets
  socketTimers : b.socketTimers = a.socketTimers
  timers : b.timers = a.timers
  timerIds : b.timerIds = a.timerIds

variable {agent : Nat} {a b : TransportAgent} {sockets : Nat → Option AgentSocket}

theorem Keyed.congr (h : Keyed agent a sockets) (same : SameTimers a b) :
    Keyed agent b sockets := by
  constructor
  · rw [same.timerSockets, same.socketTimers]
    exact h.inverse
  · rw [same.timerSockets, same.timerIds]
    exact h.numbered
  · rw [same.timerSockets, same.timers]
    exact h.started
  · rw [same.timers, same.timerSockets]
    exact h.armed

/-- A change at an address that no timer names. -/
theorem Keyed.update (h : Keyed agent a sockets) {address : Nat}
    (unnamed : a.socketTimers address = none) (v : Option AgentSocket) :
    Keyed agent a (Function.update sockets address v) := by
  refine ⟨h.inverse, h.numbered, ?_, h.armed⟩
  intro t address' ht
  have hne : address' ≠ address := by
    rintro rfl
    rw [(h.inverse t address').mp ht] at unnamed
    cases unnamed
  obtain ⟨socket, hsocket, rest⟩ := h.started t address' ht
  exact ⟨socket, (Function.update_of_ne hne _ _).trans hsocket, rest⟩

/-- Only the agent that the socket at an address waits for can have a timer for it. -/
theorem Keyed.unnamed (h : Keyed agent a sockets) {address : Nat}
    (hother : ∀ socket, sockets address = some socket → ¬ socket.Connects agent) :
    a.socketTimers address = none := by
  cases htimer : a.socketTimers address with
  | none => rfl
  | some t =>
    obtain ⟨socket, hsocket, hconnects, _⟩ := h.started t address ((h.inverse t address).mpr htimer)
    exact absurd hconnects (hother socket hsocket)

/-- The agent after the entries of a timer are erased and the timer is gone. -/
def dropTimer (a : TransportAgent) (t : Int) (address : Nat) : TransportAgent :=
  { a with timerSockets := Function.update a.timerSockets t none
           socketTimers := Function.update a.socketTimers address none
           timers := Function.update a.timers t none }

theorem Keyed.dropTimer (h : Keyed agent a sockets) {t : Int} {address : Nat}
    (htimer : a.socketTimers address = some t) : Keyed agent (a.dropTimer t address) sockets := by
  have hsame : ∀ t' address', a.timerSockets t' = some address' → (t' = t ↔ address' = address) := by
    intro t' address' ht'
    have hback := (h.inverse t' address').mp ht'
    constructor
    · rintro rfl
      exact Option.some.inj (ht'.symm.trans ((h.inverse t' address).mpr htimer))
    · rintro rfl
      exact Option.some.inj (hback.symm.trans htimer)
  constructor
  · intro t' address'
    constructor
    · intro ht'
      obtain ⟨hne, hold⟩ := Table.erase_some ht'
      have haddress : address' ≠ address := fun h' => hne ((hsame t' address' hold).mpr h')
      exact (Function.update_of_ne haddress _ _).trans ((h.inverse t' address').mp hold)
    · intro haddress'
      obtain ⟨hne, hold⟩ := Table.erase_some haddress'
      have hforward := (h.inverse t' address').mpr hold
      have ht : t' ≠ t := fun h' => hne ((hsame t' address' hforward).mp h')
      exact (Function.update_of_ne ht _ _).trans hforward
  · intro t' address' ht'
    exact h.numbered t' address' (Table.erase_some ht').2
  · intro t' address' ht'
    obtain ⟨hne, hold⟩ := Table.erase_some ht'
    obtain ⟨socket, hsocket, hconnects, htimer'⟩ := h.started t' address' hold
    exact ⟨socket, hsocket, hconnects, (Function.update_of_ne hne _ _).trans htimer'⟩
  · intro t' object ht'
    obtain ⟨hne, hold⟩ := Table.erase_some ht'
    obtain ⟨address', haddress'⟩ := h.armed t' object hold
    exact ⟨address', (Function.update_of_ne hne _ _).trans haddress'⟩

/-- The agent after it has started a timer for a socket. -/
def startTimer (a : TransportAgent) (address object : Nat) : TransportAgent :=
  { a with timerIds := a.timerIds + 1
           timers := Function.update a.timers (a.timerIds + 1) (some object)
           timerSockets := Function.update a.timerSockets (a.timerIds + 1) (some address)
           socketTimers := Function.update a.socketTimers address (some (a.timerIds + 1)) }

theorem Keyed.startTimer (h : Keyed agent a sockets) {address : Nat} {socket : AgentSocket}
    (unnamed : a.socketTimers address = none) (hsocket : sockets address = some socket)
    (hconnects : socket.Connects agent) :
    Keyed agent (a.startTimer address socket.object) sockets := by
  have hfresh : ∀ t address', a.timerSockets t = some address' → t ≠ a.timerIds + 1 := by
    intro t address' ht hsame
    have := h.numbered t address' ht
    omega
  constructor
  · intro t address'
    constructor
    · intro ht
      rcases Table.insert_some ht with ⟨rfl, rfl⟩ | ⟨_, hold⟩
      · exact Function.update_self _ _ _
      · have hback := (h.inverse t address').mp hold
        have hne : address' ≠ address := by
          rintro rfl
          rw [unnamed] at hback
          cases hback
        exact (Function.update_of_ne hne _ _).trans hback
    · intro haddress
      rcases Table.insert_some haddress with ⟨rfl, rfl⟩ | ⟨_, hold⟩
      · exact Function.update_self _ _ _
      · have hforward := (h.inverse t address').mpr hold
        exact (Function.update_of_ne (hfresh t address' hforward) _ _).trans hforward
  · intro t address' ht
    show t ≤ a.timerIds + 1
    rcases Table.insert_some ht with ⟨rfl, _⟩ | ⟨_, hold⟩
    · exact Int.le_refl _
    · have := h.numbered t address' hold
      omega
  · intro t address' ht
    rcases Table.insert_some ht with ⟨rfl, rfl⟩ | ⟨hne, hold⟩
    · exact ⟨socket, hsocket, hconnects, Function.update_self _ _ _⟩
    · obtain ⟨other, hother, hconnects', htimer⟩ := h.started t address' hold
      exact ⟨other, hother, hconnects', (Function.update_of_ne hne _ _).trans htimer⟩
  · intro t object ht
    rcases Table.insert_some ht with ⟨rfl, _⟩ | ⟨hne, hold⟩
    · exact ⟨address, Function.update_self _ _ _⟩
    · obtain ⟨address', haddress'⟩ := h.armed t object hold
      exact ⟨address', (Function.update_of_ne hne _ _).trans haddress'⟩

end TransportAgent

namespace TcpService

structure Timed (s : TcpService) : Prop where
  keyed : ∀ agent, TransportAgent.Keyed agent (s.agents agent) s.sockets
  callbacks : ∀ address socket, s.sockets address = some socket → ∀ agent,
    socket.writeCallback = some (.onAsyncConnectSocketWrite agent) ↔
      socket.errorCallback = some (.onAsyncConnectError agent)
  objects : ∀ address socket, s.sockets address = some socket → socket.object < s.objects
  distinct : ∀ address address' a b, s.sockets address = some a → s.sockets address' = some b →
    a.object = b.object → address = address'

/-- No agent has a timer for the address. -/
def Unnamed (s : TcpService) (address : Nat) : Prop :=
  ∀ agent, (s.agents agent).socketTimers address = none

variable {s t : TcpService}

theorem init_timed (agentNum : Nat) : (init agentNum).Timed where
  keyed := fun _ => {
    inverse := fun _ _ => ⟨fun h => (by cases h), fun h => (by cases h)⟩
    numbered := fun _ _ h => by cases h
    started := fun _ _ h => by cases h
    armed := fun _ _ h => by cases h }
  callbacks := fun _ _ h => by cases h
  objects := fun _ _ h => by cases h
  distinct := fun _ _ _ _ h => by cases h

theorem Timed.connects (h : s.Timed) {address : Nat} {socket : AgentSocket} {agent : Nat}
    (hsocket : s.sockets address = some socket)
    (hwrite : socket.writeCallback = some (.onAsyncConnectSocketWrite agent)) :
    socket.Connects agent :=
  ⟨hwrite, (h.callbacks address socket hsocket agent).mp hwrite⟩

theorem Timed.frame (h : s.Timed) (hsockets : t.sockets = s.sockets) (hobjects : s.objects ≤ t.objects)
    (htimers : ∀ agent, TransportAgent.SameTimers (s.agents agent) (t.agents agent)) : t.Timed := by
  constructor
  · intro agent
    rw [hsockets]
    exact (h.keyed agent).congr (htimers agent)
  · rw [hsockets]
    exact h.callbacks
  · rw [hsockets]
    intro address socket hsocket
    exact Nat.lt_of_lt_of_le (h.objects address socket hsocket) hobjects
  · rw [hsockets]
    exact h.distinct

theorem Timed.unnamed_of_free (h : s.Timed) {address : Nat} (hfree : s.sockets address = none) :
    s.Unnamed address := by
  intro agent
  refine (h.keyed agent).unnamed ?_
  intro socket hsocket
  rw [hfree] at hsocket
  cases hsocket

theorem Timed.deleteSocket (h : s.Timed) {address : Nat} (unnamed : s.Unnamed address) :
    (s.deleteSocket address).Timed where
  keyed := fun agent => (h.keyed agent).update (unnamed agent) none
  callbacks := fun address' socket hsocket => h.callbacks address' socket (Table.erase_some hsocket).2
  objects := fun address' socket hsocket => h.objects address' socket (Table.erase_some hsocket).2
  distinct := fun _ _ a b ha hb => h.distinct _ _ a b (Table.erase_some ha).2 (Table.erase_some hb).2

theorem Timed.setSocket (h : s.Timed) {address : Nat} (unnamed : s.Unnamed address)
    {socket : AgentSocket} (hobject : socket.object < s.objects)
    (alone : ∀ address' other, s.sockets address' = some other →
      other.object = socket.object → address' = address)
    (hcallbacks : ∀ agent, socket.writeCallback = some (.onAsyncConnectSocketWrite agent) ↔
      socket.errorCallback = some (.onAsyncConnectError agent)) :
    (s.setSocket address socket).Timed where
  keyed := fun agent => (h.keyed agent).update (unnamed agent) (some socket)
  callbacks := Table.insert_all h.callbacks hcallbacks
  objects := Table.insert_all h.objects hobject
  distinct := Table.insert_distinct h.distinct alone

/-- The object of a new socket. -/
theorem Timed.newSocket (h : s.Timed) {address : Nat} (hfree : s.sockets address = none)
    {socket : AgentSocket} (hobject : socket.object = s.objects)
    (hcallbacks : ∀ agent, socket.writeCallback = some (.onAsyncConnectSocketWrite agent) ↔
      socket.errorCallback = some (.onAsyncConnectError agent))
    (ht : t.sockets = s.sockets) (hobjects : t.objects = s.objects + 1)
    (hagents : t.agents = s.agents) : (t.setSocket address socket).Timed := by
  have hframe : t.Timed := by
    refine h.frame ht (by omega) ?_
    intro agent
    rw [hagents]
    exact ⟨rfl, rfl, rfl, rfl⟩
  refine hframe.setSocket (hframe.unnamed_of_free (by rw [ht]; exact hfree)) (by omega) ?_ hcallbacks
  intro address' other hother hsame
  rw [ht] at hother
  have := h.objects address' other hother
  omega

theorem Timed.setAgent (h : s.Timed) (agent : Nat) {a : TransportAgent}
    (ha : TransportAgent.Keyed agent a s.sockets) : (s.setAgent agent a).Timed :=
  { h with
    keyed := by
      intro i
      show TransportAgent.Keyed i (Function.update s.agents agent a i) s.sockets
      by_cases hi : i = agent
      · subst hi
        rw [Function.update_self]
        exact ha
      · rw [Function.update_of_ne hi]
        exact h.keyed i }

theorem removeTimer_eq {agent address : Nat} {timerId : Int}
    (htimer : (s.agents agent).socketTimers address = some timerId) :
    s.removeAsyncConnectSocketTimer agent address =
      s.setAgent agent ((s.agents agent).dropTimer timerId address) := by
  simp only [removeAsyncConnectSocketTimer, htimer]
  rfl

/-- With the timer removed by the agent it waits for, no agent has a timer for the socket. -/
theorem Timed.removeTimer (h : s.Timed) {agent address : Nat} {socket : AgentSocket}
    (hsocket : s.sockets address = some socket) (hconnects : socket.Connects agent) :
    (s.removeAsyncConnectSocketTimer agent address).Timed ∧
      (s.removeAsyncConnectSocketTimer agent address).Unnamed address := by
  have hother : ∀ i, i ≠ agent → (s.agents i).socketTimers address = none := by
    intro i hi
    refine (h.keyed i).unnamed ?_
    intro socket' hsocket' hconnects'
    rw [hsocket] at hsocket'
    cases hsocket'
    have hsame := hconnects.write.symm.trans hconnects'.write
    cases hsame
    exact hi rfl
  cases htimer : (s.agents agent).socketTimers address with
  | none =>
    have hsame : s.removeAsyncConnectSocketTimer agent address = s := by
      simp only [removeAsyncConnectSocketTimer, htimer]
    rw [hsame]
    refine ⟨h, fun i => ?_⟩
    by_cases hi : i = agent
    · rw [hi]
      exact htimer
    · exact hother i hi
  | some timerId =>
    rw [removeTimer_eq htimer]
    refine ⟨h.setAgent agent ((h.keyed agent).dropTimer htimer), fun i => ?_⟩
    show (Function.update s.agents agent _ i).socketTimers address = none
    by_cases hi : i = agent
    · subst hi
      rw [Function.update_self]
      exact Function.update_self _ _ _
    · rw [Function.update_of_ne hi]
      exact hother i hi

/-! ## The handlers -/

theorem setAgent_sameTimer (s : TcpService) (agent : Nat) {a : TransportAgent}
    (same : TransportAgent.SameTimers (s.agents agent) a) (i : Nat) :
    TransportAgent.SameTimers (s.agents i) ((s.setAgent agent a).agents i) := by
  show TransportAgent.SameTimers (s.agents i) (Function.update s.agents agent a i)
  by_cases hi : i = agent
  · subst hi
    rw [Function.update_self]
    exact same
  · rw [Function.update_of_ne hi]
    exact ⟨rfl, rfl, rfl, rfl⟩

/-- Building a connected socket starts no timer, whether it succeeds or not. -/
theorem Timed.addTcpSocket (h : s.Timed) {address : Nat} {socket : AgentSocket}
    (hsocket : s.sockets address = some socket) (unnamed : s.Unnamed address) (agent : Nat)
    (build : BuildCalls) :
    (s.addTcpSocket agent address socket build).1.Timed ∧
      (s.addTcpSocket agent address socket build).1.Unnamed address := by
  unfold TcpService.addTcpSocket
  dsimp only
  split
  · exact ⟨h, unnamed⟩
  · split
    · exact ⟨h, unnamed⟩
    · let a := s.agents agent
      let stored := ({ s.setChannel s.heapNum (some (.new socket.object 1024 256 (by decide))) with
        heapNum := s.heapNum + 1 }).setAgent agent
          { a with channels := Function.update a.channels socket.sockfd (some s.heapNum) }
      have hsame : ∀ i, TransportAgent.SameTimers (s.agents i) (stored.agents i) :=
        setAgent_sameTimer _ agent ⟨rfl, rfl, rfl, rfl⟩
      have hstored : stored.Timed := h.frame rfl (Nat.le_refl _) hsame
      have hunnamed : stored.Unnamed address := by
        intro i
        rw [(hsame i).socketTimers]
        exact unnamed i
      let wired : AgentSocket := { socket with
        appHandle := some s.heapNum
        onSocketRead := some agent
        writeCallback := some (.onSocketWrite agent)
        errorCallback := some (.onSocketError agent) }
      have hobject : wired.object < stored.objects := h.objects address socket hsocket
      have hset := hstored.setSocket hunnamed hobject
        (fun address' other hother hobject => h.distinct _ _ _ _ hother hsocket hobject)
        (fun i => ⟨fun hw => (by cases hw), fun he => (by cases he)⟩)
      split
      · exact ⟨hset.frame rfl (Nat.le_refl _) (fun _ => ⟨rfl, rfl, rfl, rfl⟩), hunnamed⟩
      · exact ⟨hset.frame rfl (Nat.le_refl _) (fun _ => ⟨rfl, rfl, rfl, rfl⟩), hunnamed⟩

theorem Timed.buildConnectedSocket (h : s.Timed) {address : Nat} {socket : AgentSocket}
    (hsocket : s.sockets address = some socket) (unnamed : s.Unnamed address) (build : BuildCalls) :
    (s.buildConnectedSocket address socket build).1.Timed ∧
      (s.buildConnectedSocket address socket build).1.Unnamed address := by
  unfold TcpService.buildConnectedSocket
  split
  · exact ⟨h, unnamed⟩
  · have hnext : Timed { s with nextAgent := s.nextAgent + 1 } :=
      h.frame rfl (Nat.le_refl _) (fun _ => ⟨rfl, rfl, rfl, rfl⟩)
    exact hnext.addTcpSocket hsocket unnamed (s.nextAgent % s.agentNum) build

theorem Timed.acceptRound (h : s.Timed) {address : Nat} (hfree : s.sockets address = none)
    (sockfd : Int) (build : BuildCalls) : (s.acceptRound address sockfd build).Timed := by
  let t : TcpService := { s with objects := s.objects + 1 }
  have hset : (t.setSocket address ⟨s.objects, sockfd, none, none, none, none⟩).Timed :=
    h.newSocket hfree rfl (fun i => ⟨fun hw => (by cases hw), fun he => (by cases he)⟩) rfl rfl rfl
  have built := hset.buildConnectedSocket (Function.update_self _ _ _)
    (h.unnamed_of_free hfree) build
  unfold TcpService.acceptRound
  dsimp only
  split
  · rename_i t' hbuild
    have hresult : t' = _ := (congrArg Prod.fst hbuild).symm
    rw [hresult]
    exact built.1
  · rename_i t' hbuild
    have hresult : t' = _ := (congrArg Prod.fst hbuild).symm
    rw [hresult]
    exact built.1.deleteSocket built.2

theorem Timed.asyncConnect (h : s.Timed) {address : Nat} (hfree : s.sockets address = none)
    (sockfd : Int) (started attach : Bool) (timeoutMs : Int) (startTimer : Bool) :
    (s.asyncConnect address sockfd started attach timeoutMs startTimer).Timed := by
  unfold TcpService.asyncConnect allocateTransportAgent
  dsimp only
  split
  · exact h.frame rfl (Nat.le_refl _) (fun _ => ⟨rfl, rfl, rfl, rfl⟩)
  · split
    · exact h.frame rfl (Nat.le_succ _) (fun _ => ⟨rfl, rfl, rfl, rfl⟩)
    · let agent := s.nextAgent % s.agentNum
      let socket : AgentSocket := ⟨s.objects, sockfd, none, none,
        some (.onAsyncConnectSocketWrite agent), some (.onAsyncConnectError agent)⟩
      let t : TcpService := { s with
        nextAgent := s.nextAgent + 1
        objects := s.objects + 1
        connects := Function.update s.connects s.objects (some .pending) }
      have hset : (t.setSocket address socket).Timed :=
        h.newSocket hfree rfl (fun i => ⟨fun hw => (by cases hw; rfl), fun he => (by cases he; rfl)⟩)
          rfl rfl rfl
      split
      · unfold addAsyncConnectSocketTimer
        split
        · exact hset.setAgent agent ((hset.keyed agent).startTimer (h.unnamed_of_free hfree agent)
            (Function.update_self _ _ _) ⟨rfl, rfl⟩)
        · exact hset
      · exact hset

theorem Timed.onAsyncConnectSocketWrite (h : s.Timed) {agent address : Nat} {socket : AgentSocket}
    (hsocket : s.sockets address = some socket) (hconnects : socket.Connects agent)
    (build : BuildCalls) : (s.onAsyncConnectSocketWrite agent address socket build).Timed := by
  obtain ⟨hremoved, hunnamed⟩ := h.removeTimer hsocket hconnects
  have built := hremoved.buildConnectedSocket
    (by rw [(removeTimer_rest s agent address).1]; exact hsocket) hunnamed build
  unfold TcpService.onAsyncConnectSocketWrite
  dsimp only
  split
  · rename_i t' hbuild
    rw [hbuild] at built
    exact built.1.frame rfl (Nat.le_refl _) (fun _ => ⟨rfl, rfl, rfl, rfl⟩)
  · rename_i t' hbuild
    rw [hbuild] at built
    exact (built.1.deleteSocket built.2).frame rfl (Nat.le_refl _)
      (fun _ => ⟨rfl, rfl, rfl, rfl⟩)

/-- A connecting socket deleted and its timer removed, with the push that follows. -/
theorem Timed.dropSocket (h : s.Timed) {agent address : Nat} {socket : AgentSocket}
    (hsocket : s.sockets address = some socket) (hconnects : socket.Connects agent)
    (n : AgentNotice) :
    (((s.removeAsyncConnectSocketTimer agent address).deleteSocket address).pushWakeupCallback
      n).Timed := by
  obtain ⟨hremoved, hunnamed⟩ := h.removeTimer hsocket hconnects
  exact (hremoved.deleteSocket hunnamed).frame rfl (Nat.le_refl _) (fun _ => ⟨rfl, rfl, rfl, rfl⟩)

/-- A timeout does to the socket its timer was started for what a removal and a deletion do, and
reports it. -/
theorem Timed.timeout (h : s.Timed) {agent : Nat} {timerId : Int} {object : Nat}
    (htimer : (s.agents agent).timers timerId = some object) :
    ∃ address socket, s.sockets address = some socket ∧ socket.object = object ∧
      socket.Connects agent ∧ s.step (.timeout agent timerId) =
        some (((s.removeAsyncConnectSocketTimer agent address).deleteSocket
          address).pushWakeupCallback
            ⟨object, agent, socket.sockfd, .asyncConnectError SocketErrno.CONNECT_TIMEOUT⟩) := by
  obtain ⟨address, haddress⟩ := (h.keyed agent).armed timerId object htimer
  obtain ⟨socket, hsocket, hconnects, htimer'⟩ := (h.keyed agent).started timerId address haddress
  have hobject : socket.object = object := Option.some.inj (htimer'.symm.trans htimer)
  have hback := ((h.keyed agent).inverse timerId address).mp haddress
  refine ⟨address, socket, hsocket, hobject, hconnects, ?_⟩
  rw [removeTimer_eq hback, step, htimer]
  dsimp only
  unfold onAsyncConnectTimeout
  simp only [TcpService.setAgent, Function.update_self, haddress, hsocket, Function.update_idem,
    hobject]
  rfl

/-- The handlers of a connection leave all sockets and all timers. -/
structure Untouched (s t : TcpService) : Prop where
  sockets : t.sockets = s.sockets
  agents : t.agents = s.agents
  objects : t.objects = s.objects

theorem Timed.untouched (h : s.Timed) (same : Untouched s t) : t.Timed := by
  refine h.frame same.sockets (Nat.le_of_eq same.objects.symm) ?_
  intro agent
  rw [same.agents]
  exact ⟨rfl, rfl, rfl, rfl⟩

theorem failChannel_untouched {agent channel : Nat} {socket : AgentSocket} {c : Connection}
    (hstep : s.failChannel agent channel socket c = some t) : Untouched s t := by
  rw [closeTcpSocket_eq hstep]
  exact ⟨rfl, rfl, rfl⟩

theorem onSocketRead_untouched {agent : Nat} {socket : AgentSocket} {readableSize : Int}
    {r : ReadResult} {decoded : Nat}
    (hstep : s.onSocketRead agent socket readableSize r decoded = some t) : Untouched s t := by
  unfold TcpService.onSocketRead at hstep
  split at hstep
  · cases hstep
  · split at hstep
    · cases hstep
    · split at hstep
      · split at hstep
        · exact failChannel_untouched hstep
        · dsimp only at hstep
          split at hstep
          · rw [closeTcpSocket_eq hstep]
            exact ⟨rfl, rfl, rfl⟩
          · cases hstep
            exact ⟨rfl, rfl, rfl⟩
      · cases hstep

theorem onSocketWrite_untouched {agent : Nat} {socket : AgentSocket} {w : WriteResult}
    (hstep : s.onSocketWrite agent socket w = some t) : Untouched s t := by
  unfold TcpService.onSocketWrite at hstep
  split at hstep
  · cases hstep
  · split at hstep
    · cases hstep
    · dsimp only at hstep
      split at hstep
      · split at hstep
        · exact failChannel_untouched hstep
        · cases hstep
          exact ⟨rfl, rfl, rfl⟩
      · cases hstep

theorem onSocketError_untouched {agent : Nat} {socket : AgentSocket} {errno : Int}
    (hstep : s.onSocketError agent socket errno = some t) : Untouched s t := by
  unfold TcpService.onSocketError at hstep
  split at hstep
  · cases hstep
  · split at hstep
    · cases hstep
    · exact failChannel_untouched hstep

theorem onSendQueueReady_untouched {agent : Nat} {host : Int} {m : Message} {w : WriteResult}
    (hstep : s.onSendQueueReady agent host m w = some t) : Untouched s t := by
  unfold TcpService.onSendQueueReady at hstep
  split at hstep
  · cases hstep
    exact ⟨rfl, rfl, rfl⟩
  · split at hstep
    · cases hstep
    · split at hstep
      · cases hstep
        exact ⟨rfl, rfl, rfl⟩
      · cases hstep

theorem step_timed {a : Action} (h : s.Timed) (hstep : s.step a = some t) : t.Timed := by
  cases a with
  | accept address sockfd build =>
    rw [step] at hstep
    split at hstep
    · rename_i hfree
      cases hstep
      exact h.acceptRound hfree _ _
    · cases hstep
  | asyncConnect address sockfd started attach timeoutMs startTimer =>
    rw [step] at hstep
    split at hstep
    · rename_i hfree
      cases hstep
      exact h.asyncConnect hfree _ _ _ _ _
    · cases hstep
  | send agent host m w => exact h.untouched (onSendQueueReady_untouched hstep)
  | read address event readableSize r decoded =>
    rw [step] at hstep
    split at hstep
    · cases hstep
    · split at hstep
      · unfold onRead at hstep
        split at hstep
        · cases hstep
          exact h
        · exact h.untouched (onSocketRead_untouched hstep)
      · cases hstep
  | write address event w build =>
    rw [step] at hstep
    split at hstep
    · cases hstep
    · rename_i socket hsocket
      split at hstep
      · unfold onWrite at hstep
        split at hstep
        · cases hstep
          exact h
        · rename_i agent hwrite
          cases hstep
          exact h.onAsyncConnectSocketWrite hsocket (h.connects hsocket hwrite) build
        · exact h.untouched (onSocketWrite_untouched hstep)
      · cases hstep
  | error address event errno =>
    rw [step] at hstep
    split at hstep
    · cases hstep
    · rename_i socket hsocket
      split at hstep
      · unfold onError at hstep
        split at hstep
        · cases hstep
          exact h
        · rename_i agent herror
          cases hstep
          have hwrite := (h.callbacks address socket hsocket agent).mpr herror
          unfold onAsyncConnectError
          rw [deleteSocket_removeTimer]
          exact h.dropSocket hsocket ⟨hwrite, herror⟩ _
        · exact h.untouched (onSocketError_untouched hstep)
      · cases hstep
  | timeout agent timerId =>
    cases htimer : (s.agents agent).timers timerId with
    | none =>
      rw [step, htimer] at hstep
      cases hstep
    | some object =>
      obtain ⟨address, socket, hsocket, _, hconnects, heq⟩ := h.timeout htimer
      rw [heq] at hstep
      cases hstep
      exact h.dropSocket hsocket hconnects _
  | finishConnect object success =>
    rw [step] at hstep
    split at hstep
    · cases hstep
      exact h.frame rfl (Nat.le_refl _) (fun _ => ⟨rfl, rfl, rfl, rfl⟩)
    · cases hstep

/-- In every state the two maps of an agent are inverse to each other and name only sockets that
are there and wait for the connect that the agent started; a timeout deletes the socket its timer
was started for, and no other. -/
theorem agent_timers_right (agentNum : Nat) (s : TcpService)
    (hs : Reaches step (fun _ _ => True) (init agentNum) s) (agent : Nat) :
    (∀ t address, (s.agents agent).timerSockets t = some address ↔
      (s.agents agent).socketTimers address = some t) ∧
    (∀ t address, (s.agents agent).timerSockets t = some address →
      ∃ socket, s.sockets address = some socket ∧ socket.Connects agent ∧
        (s.agents agent).timers t = some socket.object) ∧
    ∀ t object, (s.agents agent).timers t = some object →
      ∃ address socket s', s.sockets address = some socket ∧ socket.object = object ∧
        s.step (.timeout agent t) = some s' ∧
        s'.sockets = Function.update s.sockets address none ∧
        ∀ address' other, s.sockets address' = some other → other.object = object →
          address' = address := by
  have timed := hs.invariant (I := Timed) (init_timed agentNum)
    (fun _ _ _ hm _ hstep => step_timed hm hstep)
  refine ⟨(timed.keyed agent).inverse, (timed.keyed agent).started, ?_⟩
  intro t object ht
  obtain ⟨address, socket, hsocket, hobject, _, hstep⟩ := timed.timeout ht
  refine ⟨address, socket, _, hsocket, hobject, hstep, ?_, ?_⟩
  · show Function.update (s.removeAsyncConnectSocketTimer agent address).sockets address none = _
    rw [(removeTimer_rest s agent address).1]
  · intro address' other hother hsame
    exact timed.distinct _ _ _ _ hother hsocket (hsame.trans hobject.symm)

/-- An attempt fails, and the next one gets a socket at the address of the first. -/
def reusedAddress : List Action :=
  [.asyncConnect 0 7 true true 100 true, .error 0 ⟨0, false, true, true⟩ 111,
    .asyncConnect 0 7 true true 100 true]

theorem agent_timers_right_reused :
    ∃ s, run step reusedAddress (init 1) = some s ∧
      ∃ address socket s', s.sockets address = some socket ∧ socket.object = 1 ∧
        s.step (.timeout 0 2) = some s' ∧
        s'.sockets = Function.update s.sockets address none ∧
        ∀ address' other, s.sockets address' = some other → other.object = 1 →
          address' = address := by
  obtain ⟨s, hrun, htimer⟩ := Option.map_eq_some_iff.mp
    (by decide : (run step reusedAddress (init 1)).map (fun s => (s.agents 0).timers 2) =
      some (some 1))
  exact ⟨s, hrun, (agent_timers_right 1 s (reaches_of_run hrun) 0).2.2 2 1 htimer⟩

end TcpService

end Mysya
