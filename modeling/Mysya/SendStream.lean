import Mysya.TcpSocketAppTables
import Mysya.TransportAgent

/-!
# The byte stream of the send path

Both owners of connections change them only as `Connection.Touched` allows, so
a stream stays whole along every run in which no message is sent that would
block in the direct write or does not fit an `int`. The counterexample is the
would-block: the remainder is then taken from one byte in front of the message.
-/

namespace Mysya

open GuardedRuns

namespace TcpSocketApp

def SendGuard (s : TcpSocketApp) : Action → Prop
  | .sendMessage sockfd m w => ∀ c, s.connections sockfd = some c → c.SendSafe m w
  | _ => True

def StreamsIntact (s : TcpSocketApp) : Prop := ∀ sockfd c, s.connections sockfd = some c → c.Intact

theorem step_streamsIntact {s s' : TcpSocketApp} {a : Action} (h : s.StreamsIntact)
    (safe : s.SendGuard a) (hstep : s.step a = some s') : s'.StreamsIntact := by
  intro fd c' hc'
  cases step_effect hstep with
  | frame _ hconnections => exact h fd c' (hconnections ▸ hc')
  | listened sockfd socket _ _ hconnections => exact h fd c' (hconnections ▸ hc')
  | inserted sockfd socket _ _ _ _ hconnections =>
    rw [hconnections, Function.update_apply] at hc'
    split at hc'
    · cases hc'
      exact Connection.new_intact _ _ _ _
    · exact h fd c' hc'
  | touched sockfd c t hc touched _ hconnections =>
    rw [hconnections, Function.update_apply] at hc'
    split at hc'
    · cases hc'
      refine touched.intact (h sockfd c hc) ?_
      rintro m w rfl
      exact safe c hc
    · exact h fd c' hc'
  | established sockfd socket _ _ hconnections => exact h fd c' (hconnections ▸ hc')
  | closed sockfd _ hconnections =>
    rw [hconnections, Function.update_apply] at hc'
    split at hc'
    · cases hc'
    · exact h fd c' hc'

end TcpSocketApp

namespace TcpService

/-- Each channel of `s'` is new, or one of the old heap touched. -/
def HeapEffect (heap : Nat → Option Connection) (asked : Nat → Message → WriteResult → Prop)
    (s' : TcpService) : Prop :=
  ∀ channel c', s'.heap channel = some c' →
    (∃ object, c' = .new object 1024 256 DynamicBuffer.defaultExpandSize_pos) ∨
      ∃ c, heap channel = some c ∧ c.Touched (asked channel) c'

variable {s s' t : TcpService} {asked : Nat → Message → WriteResult → Prop}
  {heap : Nat → Option Connection}

theorem HeapEffect.of_eq (h : s'.heap = heap) : HeapEffect heap asked s' := by
  intro channel c' hc'
  rw [h] at hc'
  exact Or.inr ⟨c', hc', .refl⟩

theorem HeapEffect.congr (h : HeapEffect heap asked s') (heq : t.heap = s'.heap) :
    HeapEffect heap asked t := by
  intro channel c' hc'
  rw [heq] at hc'
  exact h channel c' hc'

theorem HeapEffect.delete (h : HeapEffect heap asked s') (channel : Nat) :
    HeapEffect heap asked (s'.setChannel channel none) := by
  intro channel' c' hc'
  have hheap : Function.update s'.heap channel none channel' = some c' := hc'
  rw [Function.update_apply] at hheap
  split at hheap
  · cases hheap
  · exact h channel' c' hheap

theorem setChannel_effect {channel : Nat} {c c' : Connection} (hc : s.heap channel = some c)
    (touched : c.Touched (asked channel) c') :
    HeapEffect s.heap asked (s.setChannel channel (some c')) := by
  intro channel' c'' hc''
  have hheap : Function.update s.heap channel (some c') channel' = some c'' := hc''
  rw [Function.update_apply] at hheap
  split at hheap
  · rename_i hsame
    subst hsame
    cases hheap
    exact Or.inr ⟨c, hc, touched⟩
  · exact Or.inr ⟨c'', hheap, .refl⟩

theorem closeTcpSocket_eq {agent : Nat} {sockfd : Int}
    (h : s.closeTcpSocket agent sockfd = some s') : s' = s := by
  unfold closeTcpSocket removeTcpSocket at h
  cases hchannel : (s.agents agent).channels sockfd with
  | none => rw [hchannel] at h; cases h
  | some channel => rw [hchannel] at h; cases h; rfl

theorem failChannel_effect {agent channel : Nat} {socket : AgentSocket} {c c' : Connection}
    (h : s.failChannel agent channel socket c' = some s') (hc : s.heap channel = some c)
    (touched : c.Touched (asked channel) c') : HeapEffect s.heap asked s' := by
  rw [closeTcpSocket_eq h]
  exact (setChannel_effect hc touched).congr rfl

theorem addTcpSocket_effect (s : TcpService) (agent address : Nat) (socket : AgentSocket)
    (build : BuildCalls) : HeapEffect s.heap asked (s.addTcpSocket agent address socket build).1 := by
  have added : HeapEffect s.heap asked
      (s.setChannel s.heapNum (some (.new socket.object 1024 256 DynamicBuffer.defaultExpandSize_pos))) := by
    intro channel c' hc'
    have hheap : Function.update s.heap s.heapNum _ channel = some c' := hc'
    rw [Function.update_apply] at hheap
    split at hheap
    · cases hheap
      exact Or.inl ⟨socket.object, rfl⟩
    · exact Or.inr ⟨c', hheap, .refl⟩
  unfold addTcpSocket
  dsimp only
  split
  · exact .of_eq rfl
  · split
    · exact .of_eq rfl
    · split
      · exact (added.delete s.heapNum).congr rfl
      · exact added.congr rfl

theorem buildConnectedSocket_effect (asked : Nat → Message → WriteResult → Prop)
    (s : TcpService) (address : Nat) (socket : AgentSocket) (build : BuildCalls) :
    HeapEffect s.heap asked (s.buildConnectedSocket address socket build).1 := by
  unfold buildConnectedSocket
  split
  · exact .of_eq rfl
  · exact addTcpSocket_effect { s with nextAgent := s.nextAgent + 1 } _ address socket build

theorem removeAsyncConnectSocketTimer_heap (s : TcpService) (agent address : Nat) :
    (s.removeAsyncConnectSocketTimer agent address).heap = s.heap := by
  unfold removeAsyncConnectSocketTimer
  dsimp only
  split <;> rfl

theorem acceptRound_effect (s : TcpService) (address : Nat) (sockfd : Int) (build : BuildCalls) :
    HeapEffect s.heap asked (s.acceptRound address sockfd build) := by
  unfold acceptRound
  dsimp only
  have built := buildConnectedSocket_effect asked
    { s.setSocket address ⟨s.objects, sockfd, none, none, none, none⟩ with
      objects := s.objects + 1 } address ⟨s.objects, sockfd, none, none, none, none⟩ build
  split
  · rename_i t hbuild
    rw [hbuild] at built
    exact built
  · rename_i t hbuild
    rw [hbuild] at built
    exact built.congr rfl

theorem asyncConnect_heap (s : TcpService) (address : Nat) (sockfd : Int) (started attach : Bool)
    (timeoutMs : Int) (startTimer : Bool) :
    (s.asyncConnect address sockfd started attach timeoutMs startTimer).heap = s.heap := by
  unfold asyncConnect
  dsimp only
  split
  · rfl
  · split
    · rfl
    · split
      · unfold addAsyncConnectSocketTimer
        split <;> rfl
      · rfl

theorem onAsyncConnectSocketWrite_effect (s : TcpService) (agent address : Nat)
    (socket : AgentSocket) (build : BuildCalls) :
    HeapEffect s.heap asked (s.onAsyncConnectSocketWrite agent address socket build) := by
  have built := buildConnectedSocket_effect asked
    (s.removeAsyncConnectSocketTimer agent address) address socket build
  rw [removeAsyncConnectSocketTimer_heap] at built
  unfold onAsyncConnectSocketWrite
  dsimp only
  split
  · rename_i t hbuild
    rw [hbuild] at built
    exact built.congr rfl
  · rename_i t hbuild
    rw [hbuild] at built
    exact built.congr rfl

theorem onAsyncConnectTimeout_heap {agent : Nat} {timerId : Int}
    (h : s.onAsyncConnectTimeout agent timerId = some s') : s'.heap = s.heap := by
  unfold onAsyncConnectTimeout at h
  dsimp only at h
  split at h
  · cases h; rfl
  · split at h
    · cases h
    · cases h; rfl

theorem onSocketRead_effect {agent : Nat} {socket : AgentSocket} {readableSize : Int}
    {r : ReadResult} {decoded : Nat}
    (h : s.onSocketRead agent socket readableSize r decoded = some s') :
    HeapEffect s.heap asked s' := by
  unfold onSocketRead at h
  split at h
  · cases h
  · rename_i channel _
    split at h
    · cases h
    · rename_i c hc
      have touched : c.Touched (asked channel) (c.receive readableSize r).1 :=
        .receive readableSize r
      split at h
      · split at h
        · rename_i c' hreceive
          rw [hreceive] at touched
          exact failChannel_effect h hc touched
        · rename_i c' received peerClosed hreceive
          rw [hreceive] at touched
          have stored : HeapEffect s.heap asked (s.setChannel channel (some _)) := setChannel_effect hc
            (touched.consume (if received = true then decoded else 0))
          dsimp only at h
          split at h
          · rw [closeTcpSocket_eq h]
            exact stored.congr rfl
          · cases h
            exact stored
      · cases h

theorem onSocketWrite_effect {agent : Nat} {socket : AgentSocket} {w : WriteResult}
    (h : s.onSocketWrite agent socket w = some s') : HeapEffect s.heap asked s' := by
  unfold onSocketWrite at h
  split at h
  · cases h
  · rename_i channel _
    split at h
    · cases h
    · rename_i c hc
      have touched : c.Touched (asked channel) (c.flush w).1 := .flush w
      dsimp only at h
      split at h
      · split at h
        · rename_i c' hflush
          rw [hflush] at touched
          exact failChannel_effect h hc touched
        · rename_i c' hflush
          rw [hflush] at touched
          cases h
          exact setChannel_effect hc touched
      · cases h

theorem onSocketError_effect {agent : Nat} {socket : AgentSocket} {errno : Int}
    (h : s.onSocketError agent socket errno = some s') : HeapEffect s.heap asked s' := by
  unfold onSocketError at h
  split at h
  · cases h
  · split at h
    · cases h
    · rename_i c hc
      exact failChannel_effect h hc (.errno errno)

/-- The messages an action asks a channel to send. -/
def Asked (s : TcpService) (a : Action) (channel : Nat) (m : Message) (w : WriteResult) : Prop :=
  ∃ agent host, a = .send agent host m w ∧ (s.agents agent).channels host = some channel

theorem step_heapEffect {a : Action} (h : s.step a = some s') :
    HeapEffect s.heap (s.Asked a) s' := by
  cases a with
  | accept address sockfd build =>
    rw [step] at h
    split at h
    · cases h; exact acceptRound_effect s address sockfd build
    · cases h
  | asyncConnect address sockfd started attach timeoutMs startTimer =>
    rw [step] at h
    split at h
    · cases h; exact .of_eq (asyncConnect_heap s _ _ _ _ _ _)
    · cases h
  | send agent host m w =>
    rw [step, onSendQueueReady] at h
    split at h
    · cases h; exact .of_eq rfl
    · rename_i channel hchannel
      split at h
      · cases h
      · rename_i c hc
        split at h
        · rename_i fits
          cases h
          exact setChannel_effect hc (.send m w ⟨agent, host, rfl, hchannel⟩ fits)
        · cases h
  | read address event readableSize r decoded =>
    rw [step] at h
    split at h
    · cases h
    · split at h
      · unfold onRead at h
        split at h
        · cases h; exact .of_eq rfl
        · exact onSocketRead_effect h
      · cases h
  | write address event w build =>
    rw [step] at h
    split at h
    · cases h
    · split at h
      · unfold onWrite at h
        split at h
        · cases h; exact .of_eq rfl
        · cases h; exact onAsyncConnectSocketWrite_effect s _ _ _ _
        · exact onSocketWrite_effect h
      · cases h
  | error address event errno =>
    rw [step] at h
    split at h
    · cases h
    · split at h
      · unfold onError at h
        split at h
        · cases h; exact .of_eq rfl
        · cases h
          exact .of_eq (removeAsyncConnectSocketTimer_heap (s.deleteSocket address) _ _)
        · exact onSocketError_effect h
      · cases h
  | timeout agent timerId =>
    rw [step] at h
    split at h
    · cases h
    · dsimp only at h
      exact .of_eq ((onAsyncConnectTimeout_heap h).trans rfl)
  | finishConnect object success =>
    rw [step] at h
    split at h
    · cases h; exact .of_eq rfl
    · cases h

def SendGuard (s : TcpService) : Action → Prop
  | .send agent host m w => ∀ channel c, (s.agents agent).channels host = some channel →
      s.heap channel = some c → c.SendSafe m w
  | _ => True

def StreamsIntact (s : TcpService) : Prop := ∀ channel c, s.heap channel = some c → c.Intact

theorem step_streamsIntact {a : Action} (h : s.StreamsIntact) (safe : s.SendGuard a)
    (hstep : s.step a = some s') : s'.StreamsIntact := by
  intro channel c' hc'
  rcases step_heapEffect hstep channel c' hc' with ⟨object, rfl⟩ | ⟨c, hc, touched⟩
  · exact Connection.new_intact _ _ _ _
  · refine touched.intact (h channel c hc) ?_
    rintro m w ⟨agent, host, rfl, hchannel⟩
    exact safe channel c hchannel hc

end TcpService

/-- As long as no message meets `WouldBlock` or `Oversized`, every connection of either
owner has handed to the kernel, or still holds, exactly what it has accepted. -/
theorem send_streams_intact (initSize extendSize agentNum : Nat) (h : 0 < extendSize) :
    (∀ s, Reaches TcpSocketApp.step TcpSocketApp.SendGuard (.init initSize extendSize h) s →
      ∀ sockfd c, s.connections sockfd = some c → c.wire ++ c.sendBuffer.readable = c.accepted) ∧
    (∀ s, Reaches TcpService.step TcpService.SendGuard (.init agentNum) s →
      ∀ channel c, s.heap channel = some c → c.wire ++ c.sendBuffer.readable = c.accepted) := by
  constructor
  · intro s hs
    refine hs.invariant (I := TcpSocketApp.StreamsIntact) (fun _ _ hc => by cases hc) ?_
    exact fun s a s' intact safe hstep => TcpSocketApp.step_streamsIntact intact safe hstep
  · intro s hs
    refine hs.invariant (I := TcpService.StreamsIntact) (fun _ _ hc => by cases hc) ?_
    exact fun s a s' intact safe hstep => TcpService.step_streamsIntact intact safe hstep

/-- A short write that leaves two bytes in the buffer. -/
def partialSend : List TcpSocketApp.Action :=
  [.connect 5 true ⟨true, true, true⟩, .sendMessage 5 ⟨0, [1, 2, 3]⟩ (.sent 1)]

def partialAgentSend : List TcpService.Action :=
  [.accept 0 5 ⟨true, true, true⟩, .send 0 5 ⟨0, [1, 2, 3]⟩ (.sent 1)]

theorem send_streams_intact_partial :
    (∃ s c, s.connections 5 = some c ∧ c.wire = [1] ∧
      Reaches TcpSocketApp.step TcpSocketApp.SendGuard (.init 256 64 (by decide)) s ∧
      c.wire ++ c.sendBuffer.readable = c.accepted) ∧
    (∃ s c, s.heap 0 = some c ∧ c.wire = [1] ∧
      Reaches TcpService.step TcpService.SendGuard (.init 1) s ∧
      c.wire ++ c.sendBuffer.readable = c.accepted) := by
  have safe : ∀ c : Connection, c.SendSafe ⟨0, [1, 2, 3]⟩ (.sent 1) :=
    fun c => ⟨fun h => (by cases h.2.1), fun h => absurd h.1 (by decide)⟩
  constructor
  · have hs : Reaches TcpSocketApp.step TcpSocketApp.SendGuard (.init 256 64 (by decide)) _ :=
      Reaches.refl.run (l := partialSend)
      ⟨trivial, fun _ _ => ⟨fun c _ => safe c, fun _ _ => trivial⟩⟩ rfl
    exact ⟨_, _, rfl, rfl, hs, (send_streams_intact 256 64 1 (by decide)).1 _ hs 5 _ rfl⟩
  · have hs : Reaches TcpService.step TcpService.SendGuard (.init 1) _ :=
      Reaches.refl.run (l := partialAgentSend)
      ⟨trivial, fun _ _ => ⟨fun _ c _ _ => safe c, fun _ _ => trivial⟩⟩ rfl
    exact ⟨_, _, rfl, rfl, hs, (send_streams_intact 256 64 1 (by decide)).2 _ hs 0 _ rfl⟩

def refusedSend : List TcpSocketApp.Action :=
  [.connect 5 true ⟨true, true, true⟩, .sendMessage 5 ⟨7, [1, 2]⟩ .again]

def refusedAgentSend : List TcpService.Action :=
  [.accept 0 5 ⟨true, true, true⟩, .send 0 5 ⟨7, [1, 2]⟩ .again]

/-- A direct write that would block leaves the byte in front of the message in the
buffer, and its last byte nowhere: the streams then read 7, 1 in place of 1, 2. -/
theorem refused_send_breaks_streams :
    (¬ ∀ s, Reaches TcpSocketApp.step (fun _ _ => True) (.init 256 64 (by decide)) s →
      ∀ sockfd c, s.connections sockfd = some c →
        c.wire ++ c.sendBuffer.readable = c.accepted) ∧
    (¬ ∀ s, Reaches TcpService.step (fun _ _ => True) (.init 1) s →
      ∀ channel c, s.heap channel = some c → c.wire ++ c.sendBuffer.readable = c.accepted) := by
  constructor
  · intro hall
    have hbroken := hall _ (reaches_of_run (l := refusedSend) rfl) 5 _ rfl
    revert hbroken
    decide +kernel
  · intro hall
    have hbroken := hall _ (reaches_of_run (l := refusedAgentSend) rfl) 0 _ rfl
    revert hbroken
    decide +kernel

end Mysya
