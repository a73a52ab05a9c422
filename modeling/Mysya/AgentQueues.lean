import Mysya.MessageQueue
import Mysya.ServiceTurns

/-!
# The queues of the transport agents

Each `TransportAgent` has a message queue in either direction between the application's event loop
and its own. `SendMessage` pushes to the one that `OnSendQueueReady` reads, and the receive-decode
callback pushes with `DoReceive` to the one that `OnReceiveQueueReady` reads for the application.
`arrived` is what was read of each channel.
-/

namespace Mysya

open FrameStream GuardedRuns

/-- The messages with a host. -/
def messagesOf (host : Int) (l : List (Int × List UInt8)) : List (List UInt8) :=
  (l.filter fun x => x.1 = host).map Prod.snd

@[simp] theorem messagesOf_append (host : Int) (l l' : List (Int × List UInt8)) :
    messagesOf host (l ++ l') = messagesOf host l ++ messagesOf host l' := by
  rw [messagesOf, List.filter_append, List.map_append]
  rfl

theorem messagesOf_single_self (host : Int) (m : List UInt8) :
    messagesOf host [(host, m)] = [m] := by
  rw [messagesOf, List.filter_singleton, decide_eq_true rfl]
  rfl

theorem messagesOf_single_of_ne {host host' : Int} (h : host' ≠ host) (m : List UInt8) :
    messagesOf host [(host', m)] = [] := by
  rw [messagesOf, List.filter_singleton, decide_eq_false h]
  rfl

theorem messagesOf_map_self (host : Int) (l : List (List UInt8)) :
    messagesOf host (l.map fun m => (host, m)) = l := by
  induction l with
  | nil => rfl
  | cons m l ih =>
    rw [List.map_cons, ← List.singleton_append, messagesOf_append, ih, messagesOf_single_self]
    rfl

theorem messagesOf_map_of_ne {host host' : Int} (h : host' ≠ host) (l : List (List UInt8)) :
    messagesOf host (l.map fun m => (host', m)) = [] := by
  induction l with
  | nil => rfl
  | cons m l ih =>
    rw [List.map_cons, ← List.singleton_append, messagesOf_append, ih, messagesOf_single_of_ne h]
    rfl

theorem prefix_messagesOf {l l' : List (Int × List UInt8)} (h : l <+: l') (host : Int) :
    messagesOf host l <+: messagesOf host l' := by
  obtain ⟨rest, rfl⟩ := h
  rw [messagesOf_append]
  exact List.prefix_append _ _

namespace MessageQueue

variable {q q' : MessageQueue} {held waiting : List (Int × List UInt8)}

/-- The message that the next round takes off. -/
def popped (q : MessageQueue) : Option (Int × List UInt8) :=
  if q.pop.2.2 ≤ 0 then none
  else some (q.pop.2.1, q.pop.1.readBuffer.readBegin.take q.pop.2.2.toNat)

theorem round_delivered (hread : q.readCb = true) :
    q.round.delivered = q.delivered ++ q.popped.toList := by
  have hpop : q.pop.1.readCb = q.readCb ∧ q.pop.1.delivered = q.delivered := by
    rw [pop]
    split
    · exact ⟨rfl, rfl⟩
    · exact ⟨rfl, rfl⟩
  rw [round, popped]
  split
  rename_i q' host readSize heq
  rw [heq] at hpop ⊢
  dsimp only at hpop ⊢
  split
  · exact hpop.2.trans (List.append_nil _).symm
  · show (if q'.readCb = true then _ else q'.delivered) = _
    rw [hpop.1, if_pos hread, hpop.2]
    rfl

theorem round_pushed (q : MessageQueue) : q.round.pushed = q.pushed := by
  have hpop : q.pop.1.pushed = q.pushed := by
    rw [pop]
    split
    · rfl
    · rfl
  rw [round]
  split
  rename_i q' host readSize heq
  rw [heq] at hpop
  split
  · exact hpop
  · exact hpop

/-- Pushes the messages one behind the other. -/
def pushAll (q : MessageQueue) (host : Int) : List (List UInt8) → Option MessageQueue
  | [] => some q
  | m :: l => (q.step (.push host m)).bind fun q => q.pushAll host l

/-- The order of the messages is that of their pushes. -/
def Ordered (q : MessageQueue) : Prop := ∃ held waiting, q.Queued held waiting

theorem Ordered.delivered (h : q.Ordered) :
    q.delivered <+: q.pushed ∧ (2 ≤ q.quiet → q.delivered = q.pushed) := by
  obtain ⟨held, waiting, hqueued⟩ := h
  rw [← hqueued.order]
  constructor
  · rw [List.append_assoc]
    exact List.prefix_append _ _
  · intro hquiet
    rw [hqueued.quietConsumer hquiet, hqueued.quietProducer (by omega), List.append_nil,
      List.append_nil]

theorem Ordered.step (h : q.Ordered) {a : Action} (hguard : q.PushGuard a)
    (hstep : q.step a = some q') : q'.Ordered := by
  obtain ⟨held, waiting, hqueued⟩ := h
  exact step_queued hqueued hguard hstep

theorem Ordered.round_delivered (h : q.Ordered) :
    q.round.delivered = q.delivered ++ q.popped.toList := by
  obtain ⟨held, waiting, hqueued⟩ := h
  exact MessageQueue.round_delivered hqueued.readCb

theorem pushAll_spec (h : q.Ordered) {host : Int} {l : List (List UInt8)} (hl : ∀ m ∈ l, m ≠ [])
    (hpush : q.pushAll host l = some q') : q'.Ordered ∧ q'.delivered = q.delivered ∧
      q'.pushed = q.pushed ++ l.map fun m => (host, m) := by
  induction l generalizing q with
  | nil =>
    cases hpush
    exact ⟨h, rfl, (List.append_nil _).symm⟩
  | cons m l ih =>
    obtain ⟨p, hp, hpush⟩ := Option.bind_eq_some_iff.mp hpush
    have hordered := h.step (a := .push host m) (hl m (List.mem_cons_self ..)) hp
    obtain ⟨hq', hdelivered, hpushed⟩ :=
      ih hordered (fun m' hin => hl m' (List.mem_cons_of_mem _ hin)) hpush
    rw [MessageQueue.step] at hp
    split at hp
    · cases hp
      refine ⟨hq', hdelivered, hpushed.trans ?_⟩
      show q.pushed ++ [(host, m)] ++ _ = _
      rw [List.append_assoc]
      rfl
    · cases hp

/-- Steps that take nothing off the queue and push nothing. -/
theorem step_same {a : Action} (ha : (∃ now timerId, a = .expire now timerId) ∨ a = .exchange)
    (hstep : q.step a = some q') : q'.pushed = q.pushed ∧ q'.delivered = q.delivered := by
  rcases ha with ⟨now, timerId, rfl⟩ | rfl
  · rw [step] at hstep
    split at hstep
    · cases hstep
      exact ⟨rfl, rfl⟩
    · cases hstep
  · rw [step] at hstep
    split at hstep
    · cases hstep
      exact ⟨rfl, rfl⟩
    · cases hstep

end MessageQueue

/-! ## The receive-decode callback -/

/-- What a call of the callback does that returns true: the message for `DoReceive`, and the bytes
taken off the buffer. -/
structure Decoded where
  message : List UInt8
  size : Nat
  deriving DecidableEq, Repr

/-- The loop about the callback: the bytes it takes off in all, and the messages. -/
def decodeLoop (decode : List UInt8 → Option Decoded) :
    Nat → List UInt8 → Option (Nat × List (List UInt8))
  | 0, _ => none
  | fuel + 1, bytes =>
    match decode bytes with
    | none => some (0, [])
    | some d =>
      (decodeLoop decode fuel (bytes.drop d.size)).map fun x => (d.size + x.1, d.message :: x.2)

/-- The callback takes frames: whole ones off the front of the buffer, and no part of one. A buffer
with as many bytes as an `int` does not count is not one it can take from. -/
structure Framing (decode : List UInt8 → Option Decoded)
    (frame : List UInt8 → List UInt8 → Prop) : Prop where
  empty : decode [] = none
  whole : ∀ m b rest, frame m b → (b ++ rest).length < 2147483648 →
    decode (b ++ rest) = some ⟨m, b.length⟩
  part : ∀ m b missing, frame m (b ++ missing) → missing ≠ [] → decode b = none

/-- The callback has nothing to take off. -/
def Drained (decode : List UInt8 → Option Decoded) (buffer : List UInt8) : Prop :=
  buffer.length < 2147483648 ∧ decode buffer = none

variable {decode : List UInt8 → Option Decoded} {frame : List UInt8 → List UInt8 → Prop}

/-- Frames of which none is whole in the buffer. -/
theorem Framing.nil_of_drained (h : Framing decode frame) {ms : List (List UInt8)}
    {buffer : List UInt8} (hframes : Frames frame ms buffer) (hdrained : Drained decode buffer) :
    ms = [] := by
  cases ms with
  | nil => rfl
  | cons m ms =>
    obtain ⟨b, rest, hb, rfl, _⟩ := frames_cons.mp hframes
    have hnone := hdrained.2
    rw [h.whole m b rest hb hdrained.1] at hnone
    cases hnone

/-- The loop takes off the frames that are whole, and leaves the buffer with nothing to take. -/
theorem decodeLoop_frames (h : Framing decode frame) {ms : List (List UInt8)}
    {buffer future : List UInt8} (hframes : Frames frame ms (buffer ++ future)) {fuel : Nat}
    (hsmall : buffer.length < 2147483648) (hfuel : buffer.length < fuel) :
    ∃ size taken left, decodeLoop decode fuel buffer = some (size, taken) ∧ ms = taken ++ left ∧
      Frames frame left (buffer.drop size ++ future) ∧ Drained decode (buffer.drop size) := by
  induction fuel generalizing ms buffer with
  | zero => exact absurd hfuel (Nat.not_lt_zero _)
  | succ fuel ih =>
    have hend : decode buffer = none → ∃ size taken left,
        decodeLoop decode (fuel + 1) buffer = some (size, taken) ∧ ms = taken ++ left ∧
          Frames frame left (buffer.drop size ++ future) ∧ Drained decode (buffer.drop size) := by
      intro hnone
      refine ⟨0, [], ms, ?_, rfl, hframes, hsmall, hnone⟩
      rw [decodeLoop, hnone]
    cases ms with
    | nil =>
      have hempty := (List.append_eq_nil_iff.mp (frames_nil.mp hframes)).1
      refine hend ?_
      rw [hempty]
      exact h.empty
    | cons m ms =>
      rcases hframes.first with ⟨b, rest, hb, rfl, hrest⟩ | ⟨missing, hpart, hmissing, _⟩
      · have hwhole := h.whole m b rest hb hsmall
        have hpositive : 0 < b.length := by
          rcases Nat.eq_zero_or_pos b.length with hzero | hpos
          · rw [List.length_eq_zero_iff.mp hzero] at hb
            have hsome := h.whole m [] [] hb (by decide)
            rw [List.append_nil, h.empty] at hsome
            cases hsome
          · exact hpos
        rw [List.length_append] at hsmall hfuel
        obtain ⟨size, taken, left, hloop, rfl, hleft, hdone⟩ :=
          ih hrest (by omega) (by omega)
        refine ⟨b.length + size, m :: taken, left, ?_, rfl, ?_, ?_⟩
        · rw [decodeLoop, hwhole]
          dsimp only
          rw [List.drop_left, hloop]
          rfl
        · rw [← List.drop_drop, List.drop_left]
          exact hleft
        · rw [← List.drop_drop, List.drop_left]
          exact hdone
      · exact hend (h.part m buffer missing hpart hmissing)

/-! ## The service with the queues of its agents -/

structure AgentQueues where
  service : TcpService
  sendQueues : Nat → MessageQueue
  receiveQueues : Nat → MessageQueue
  arrived : Nat → List UInt8

namespace AgentQueues

/-- The queues of all agents, with what their constructors pass on. -/
def start (agentNum : Nat) (now : Timestamp) (timerId : Int) : AgentQueues where
  service := .init agentNum
  sendQueues _ := .new true 10 1024 256 DynamicBuffer.defaultExpandSize_pos now timerId
  receiveQueues _ := .new true 10 1024 256 DynamicBuffer.defaultExpandSize_pos now timerId
  arrived _ := []

def setSendQueue (s : AgentQueues) (agent : Nat) (q : MessageQueue) : AgentQueues :=
  { s with sendQueues := Function.update s.sendQueues agent q }

def setReceiveQueue (s : AgentQueues) (agent : Nat) (q : MessageQueue) : AgentQueues :=
  { s with receiveQueues := Function.update s.receiveQueues agent q }

/-- What the loop about the receive-decode callback takes off after a read. -/
def decoded (decode : List UInt8 → Option Decoded) (c : Connection) (readableSize : Int)
    (r : ReadResult) : Option (Nat × List (List UInt8)) :=
  match c.receive readableSize r with
  | (c, .done true _) =>
    decodeLoop decode (c.receiveBuffer.readable.length + 1) c.receiveBuffer.readable
  | _ => some (0, [])

/-- The bytes that a read gets. -/
def bytesRead (readableSize : Int) : ReadResult → List UInt8
  | .received data => if readableSize ≤ 0 then [] else data
  | _ => []

/-- `OnSocketRead`, with the `DoReceive` of the messages. -/
def onSocketRead (decode : List UInt8 → Option Decoded) (s : AgentQueues) (address : Nat)
    (event : EpollEvent) (readableSize : Int) (r : ReadResult) : Option AgentQueues :=
  match s.service.readsOf address with
  | none => (s.service.step (.read address event readableSize r 0)).map fun service =>
      { s with service := service }
  | some (agent, sockfd, channel, c) =>
    (decoded decode c readableSize r).bind fun x =>
      (s.service.step (.read address event readableSize r x.1)).bind fun service =>
        ((s.receiveQueues agent).pushAll sockfd x.2).map fun q =>
          { s.setReceiveQueue agent q with
            service := service
            arrived := Function.update s.arrived channel
              (s.arrived channel ++ bytesRead readableSize r) }

/-- A round of the send queue, with `OnSendQueueReady` of the message it takes off. -/
def sendRound (s : AgentQueues) (agent : Nat) (before : UInt8) (w : WriteResult) :
    Option AgentQueues :=
  if (s.sendQueues agent).phase = .draining then
    match (s.sendQueues agent).popped with
    | none => some (s.setSendQueue agent (s.sendQueues agent).round)
    | some (host, data) =>
      (s.service.onSendQueueReady agent host ⟨before, data⟩ w).map fun service =>
        { s.setSendQueue agent (s.sendQueues agent).round with service := service }
  else none

inductive Action where
  | sendMessage (agent : Nat) (sockfd : Int) (data : List UInt8)
  | sendExpired (agent : Nat) (now : Timestamp) (timerId : Int)
  | sendRound (agent : Nat) (before : UInt8) (w : WriteResult)
  | sendExchange (agent : Nat)
  | read (address : Nat) (event : EpollEvent) (readableSize : Int) (r : ReadResult)
  | network (a : TcpService.Action)
  | receiveExpired (agent : Nat) (now : Timestamp) (timerId : Int)
  | receiveRound (agent : Nat)
  | receiveExchange (agent : Nat)

def step (decode : List UInt8 → Option Decoded) (s : AgentQueues) : Action → Option AgentQueues
  | .sendMessage agent sockfd data =>
    ((s.sendQueues agent).step (.push sockfd data)).map (s.setSendQueue agent)
  | .sendExpired agent now timerId =>
    ((s.sendQueues agent).step (.expire now timerId)).map (s.setSendQueue agent)
  | .sendRound agent before w => s.sendRound agent before w
  | .sendExchange agent => ((s.sendQueues agent).step .exchange).map (s.setSendQueue agent)
  | .read address event readableSize r => s.onSocketRead decode address event readableSize r
  | .network a =>
    if a.isOther then (s.service.step a).map fun service => { s with service := service } else none
  | .receiveExpired agent now timerId =>
    ((s.receiveQueues agent).step (.expire now timerId)).map (s.setReceiveQueue agent)
  | .receiveRound agent =>
    ((s.receiveQueues agent).step .round).map (s.setReceiveQueue agent)
  | .receiveExchange agent =>
    ((s.receiveQueues agent).step .exchange).map (s.setReceiveQueue agent)

/-- No message is empty, no direct write of one would block or fail, and no receive buffer holds
more bytes than an `int` counts. -/
def Calm (decode : List UInt8 → Option Decoded) (s : AgentQueues) : Action → Prop
  | .sendMessage _ _ data => data ≠ []
  | .sendRound agent before w => ∀ x ∈ (s.sendQueues agent).popped,
      ∀ channel ∈ (s.service.agents agent).channels x.1, ∀ c ∈ s.service.heap channel,
        c.SendSafe ⟨before, x.2⟩ w ∧
          (c.sendBuffer.readableBytes ≤ 0 → ∀ errno, w ≠ .failed errno)
  | .read address _ readableSize r => ∀ x ∈ s.service.readsOf address,
      (x.2.2.2.receiveBuffer.readable ++ bytesRead readableSize r).length < 2147483648 ∧
        ∀ y ∈ decoded decode x.2.2.2 readableSize r, ∀ m ∈ y.2, m ≠ []
  | .sendExpired _ _ _ => True
  | .sendExchange _ => True
  | .network _ => True
  | .receiveExpired _ _ _ => True
  | .receiveRound _ => True
  | .receiveExchange _ => True

instance decidableNotFailed : ∀ w : WriteResult, Decidable (∀ errno, w ≠ .failed errno)
  | .sent _ => .isTrue fun _ h => WriteResult.noConfusion h
  | .again => .isTrue fun _ h => WriteResult.noConfusion h
  | .failed errno => .isFalse fun h => h errno rfl

instance (c : Connection) (m : Message) (w : WriteResult) : Decidable (c.SendSafe m w) :=
  inferInstanceAs (Decidable (¬ (c.sendBuffer.readableBytes ≤ 0 ∧ w = .again ∧ 0 < m.size) ∧
    ¬ (2147483648 ≤ m.size ∧
      (c.sendBuffer.readableBytes ≤ 0 → ∀ errno, w ≠ .failed errno))))

instance (decode : List UInt8 → Option Decoded) (s : AgentQueues) :
    ∀ a, Decidable (s.Calm decode a)
  | .sendMessage _ _ data => inferInstanceAs (Decidable (data ≠ []))
  | .sendRound agent before w => inferInstanceAs (Decidable (∀ x ∈ (s.sendQueues agent).popped,
      ∀ channel ∈ (s.service.agents agent).channels x.1, ∀ c ∈ s.service.heap channel,
        c.SendSafe ⟨before, x.2⟩ w ∧
          (c.sendBuffer.readableBytes ≤ 0 → ∀ errno, w ≠ .failed errno)))
  | .read address _ readableSize r => inferInstanceAs (Decidable (
      ∀ x ∈ s.service.readsOf address,
        (x.2.2.2.receiveBuffer.readable ++ bytesRead readableSize r).length < 2147483648 ∧
          ∀ y ∈ decoded decode x.2.2.2 readableSize r, ∀ m ∈ y.2, m ≠ []))
  | .sendExpired _ _ _ => instDecidableTrue
  | .sendExchange _ => instDecidableTrue
  | .network _ => instDecidableTrue
  | .receiveExpired _ _ _ => instDecidableTrue
  | .receiveRound _ => instDecidableTrue
  | .receiveExchange _ => instDecidableTrue

end AgentQueues

end Mysya
