import Mysya.DynamicBuffer
import Mysya.FrameStream
import Mysya.GuardedRuns
import Mysya.LittleEndian
import Mysya.MachineInts
import Mysya.Timestamp

/-!
# The message queue

`qservice::MessageQueue`: a producer buffer and a consumer buffer that change
places at the end of each `OnExporedPendingRead`. An expiration is taken apart
into its rounds, since `Push` may come between any two of them. `pushed` and
`delivered` are what was given to `Push` and to the read callback, and `quiet`
counts the expirations that have ended since the last `Push`.
-/

namespace Mysya

open FrameStream GuardedRuns

/-- What `OnExporedPendingRead` does next: nothing, a round of its loop, or `Exchange`. -/
inductive ExpiredPhase where
  | idle
  | draining
  | drained
  deriving DecidableEq, Repr

structure MessageQueue where
  producer : DynamicBuffer
  consumer : DynamicBuffer
  readCb : Bool
  readBuffer : DynamicBuffer
  maxPendingReadExpiredMesec : Nat
  pendingReadExpiredMsec : Nat
  pendingReadTimerId : Int
  pendingReadNum : Int
  readTimestamp : Timestamp
  phase : ExpiredPhase
  pushed : List (Int × List UInt8)
  delivered : List (Int × List UInt8)
  quiet : Nat

/-- A `MessageQueueElement` with its data. Nothing is stored between `host_` and `size_`, and
`padding` is what the memory held there. -/
def messageQueueElement (padding : List UInt8) (host : Int) (data : List UInt8) : List UInt8 :=
  LittleEndian.bytes 4 (toUint32 host) ++ padding ++ LittleEndian.bytes 8 data.length ++ data

namespace MessageQueue

inductive Action where
  | push (host : Int) (data : List UInt8)
  | expire (now : Timestamp) (timerId : Int)
  | round
  | exchange
  deriving DecidableEq, Repr

/-- What `SetPendingReadTimer` passes to `StartTimer`, which takes an `int`. -/
def expireMs (q : MessageQueue) : Int := toInt32 q.pendingReadExpiredMsec

/-- `timerId` is the answer of `StartTimer`, which gets the new `expireMs`. -/
def setPendingReadTimer (q : MessageQueue) (now : Timestamp) (timerId : Int) : MessageQueue :=
  let distanceMsec := now.distanceMillisecond q.readTimestamp
  let expired :=
    if q.pendingReadNum ≤ 0 then toUint32 (q.pendingReadExpiredMsec * 2 + 1)
    else toUint32 (distanceMsec.tdiv q.pendingReadNum + 1)
  { q with
    pendingReadExpiredMsec :=
      if expired > q.maxPendingReadExpiredMesec then q.maxPendingReadExpiredMesec else expired
    pendingReadTimerId := timerId }

def new (readCb : Bool) (maxExpiredMsec : Int) (initSize extSize : Nat) (h : 0 < extSize)
    (now : Timestamp) (timerId : Int) : MessageQueue :=
  setPendingReadTimer
    { producer := .new initSize extSize h
      consumer := .new initSize extSize h
      readCb := readCb
      readBuffer := .new 1024 256 DynamicBuffer.defaultExpandSize_pos
      maxPendingReadExpiredMesec := toUint32 maxExpiredMsec
      pendingReadExpiredMsec := toUint32 maxExpiredMsec
      pendingReadTimerId := -1
      pendingReadNum := 0
      readTimestamp := ⟨0, 0⟩
      phase := .idle
      pushed := []
      delivered := []
      quiet := 0 } now timerId

/-- `Push`, where `data` holds `size` bytes. -/
def push (q : MessageQueue) (host : Int) (data : List UInt8) : MessageQueue :=
  let writeSize := data.length + 16
  let producer := q.producer.reserveWritableBytes writeSize
  let padding := (producer.buffer.drop (producer.writeIndex + 4)).take 4
  { q with
    pendingReadNum := toInt32 (q.pendingReadNum + 1)
    producer := (producer.fill (messageQueueElement padding host data)).writtenBytes writeSize
    pushed := q.pushed ++ [(host, data)]
    quiet := 0 }

def exchange (q : MessageQueue) : MessageQueue :=
  { q with producer := q.consumer, consumer := q.producer }

/-- `Pop` into the read buffer, with the host and the size it returns. -/
def pop (q : MessageQueue) : MessageQueue × Int × Int :=
  if q.consumer.readableBytes ≤ 0 then (q, -1, 0)
  else
    let element := q.consumer.readBegin
    let size := LittleEndian.value ((element.drop 8).take 8)
    let retSize := toInt32 size
    let host := toInt32 (LittleEndian.value (element.take 4))
    ({ q with
        readBuffer := q.readBuffer.append ((element.drop 16).take size)
        consumer := q.consumer.readBytes (toSizeT (retSize + 16)) }, host, retSize)

/-- One round of the loop of `OnExporedPendingRead`. -/
def round (q : MessageQueue) : MessageQueue :=
  match q.pop with
  | (q, host, readSize) =>
    if readSize ≤ 0 then { q with phase := .drained }
    else
      { q with
        delivered := if q.readCb then
            q.delivered ++ [(host, q.readBuffer.readBegin.take readSize.toNat)]
          else q.delivered
        readBuffer := q.readBuffer.readBytes (toSizeT readSize) }

def step (q : MessageQueue) : Action → Option MessageQueue
  | .push host data =>
    if (-2147483648 ≤ host ∧ host < 2147483648) ∧ data.length < 2147483648 then
      some (q.push host data)
    else none
  | .expire now timerId =>
    if q.phase = .idle then
      some { q.setPendingReadTimer now timerId with
        pendingReadNum := 0, readTimestamp := now, phase := .draining }
    else none
  | .round => if q.phase = .draining then some q.round else none
  | .exchange =>
    if q.phase = .drained then
      some { q.exchange with phase := .idle, quiet := q.quiet + 1 }
    else none

/-- A message as `Push` takes it, in the bytes of a buffer. -/
structure IsElement (m : Int × List UInt8) (bytes : List UInt8) : Prop where
  host : -2147483648 ≤ m.1 ∧ m.1 < 2147483648
  small : m.2.length < 2147483648
  bytes : ∃ padding, padding.length = 4 ∧ bytes = messageQueueElement padding m.1 m.2

theorem IsElement.length {m : Int × List UInt8} {bytes : List UInt8} (h : IsElement m bytes) :
    bytes.length = 16 + m.2.length := by
  obtain ⟨padding, hpadding, rfl⟩ := h.bytes
  simp only [messageQueueElement, List.length_append, LittleEndian.length_bytes, hpadding]

/-- The fields of an element are read where they were written. -/
theorem IsElement.fields {m : Int × List UInt8} {bytes : List UInt8} (h : IsElement m bytes)
    (rest : List UInt8) :
    LittleEndian.value ((bytes ++ rest).take 4) = toUint32 m.1 ∧
      LittleEndian.value (((bytes ++ rest).drop 8).take 8) = m.2.length ∧
      ((bytes ++ rest).drop 16).take m.2.length = m.2 := by
  obtain ⟨padding, hpadding, rfl⟩ := h.bytes
  have hhost : (LittleEndian.bytes 4 (toUint32 m.1)).length = 4 := LittleEndian.length_bytes _ _
  have hsize : (LittleEndian.bytes 8 m.2.length).length = 8 := LittleEndian.length_bytes _ _
  simp only [messageQueueElement, List.append_assoc]
  refine ⟨?_, ?_, ?_⟩
  · exact LittleEndian.value_take_bytes (Nat.le_refl 4) (by unfold toUint32; omega) _
  · rw [← List.append_assoc, List.drop_left' (by rw [List.length_append, hhost, hpadding])]
    exact LittleEndian.value_take_bytes (Nat.le_refl 8) (by have := h.small; omega) _
  · rw [← List.append_assoc, ← List.append_assoc,
      List.drop_left' (by simp only [List.length_append, hhost, hpadding, hsize]),
      List.take_left' rfl]

/-- `Push` appends one element. -/
theorem push_readable (q : MessageQueue) {host : Int} {data : List UInt8}
    (hhost : -2147483648 ≤ host ∧ host < 2147483648) (hdata : data.length < 2147483648) :
    ∃ bytes, IsElement (host, data) bytes ∧
      (q.push host data).producer.readable = q.producer.readable ++ bytes := by
  have hroom := DynamicBuffer.le_writableBytes_reserve q.producer (data.length + 16)
  have hreadable := DynamicBuffer.readable_reserveWritableBytes q.producer (data.length + 16)
  unfold push
  dsimp only
  generalize q.producer.reserveWritableBytes (data.length + 16) = producer at hroom hreadable ⊢
  have hpadding : ((producer.buffer.drop (producer.writeIndex + 4)).take 4).length = 4 := by
    unfold DynamicBuffer.writableBytes at hroom
    rw [List.length_take, List.length_drop]
    omega
  have element : IsElement (host, data) (messageQueueElement
      ((producer.buffer.drop (producer.writeIndex + 4)).take 4) host data) :=
    ⟨hhost, hdata, _, hpadding, rfl⟩
  refine ⟨_, element, ?_⟩
  have hlength : _ = 16 + data.length := element.length
  rw [DynamicBuffer.readable_fill_writtenBytes _ (by omega) hroom, hreadable,
    List.take_of_length_le (by omega)]

/-- `Pop` takes one element off. -/
theorem pop_element {q : MessageQueue} {m : Int × List UInt8} {bytes rest : List UInt8}
    (h : IsElement m bytes) (hq : q.consumer.readable = bytes ++ rest) :
    ∃ consumer, consumer.readable = rest ∧
      q.pop = ({ q with readBuffer := q.readBuffer.append m.2, consumer := consumer },
        m.1, (m.2.length : Int)) := by
  have hlength := h.length
  have hsmall := h.small
  have hnonempty : ¬ q.consumer.readableBytes ≤ 0 := by
    rw [← DynamicBuffer.length_readable, hq, List.length_append]
    omega
  obtain ⟨beyond, hbegin⟩ := q.consumer.readable_isPrefix
  rw [hq, List.append_assoc] at hbegin
  obtain ⟨hhost, hsize, hdata⟩ := h.fields (rest ++ beyond)
  have hret : toInt32 m.2.length = m.2.length := toInt32_of_lt hsmall
  have htotal : toSizeT ((m.2.length : Int) + 16) = bytes.length := by
    unfold toSizeT
    omega
  refine ⟨q.consumer.readBytes bytes.length, ?_, ?_⟩
  · rw [DynamicBuffer.readable_readBytes, hq, List.drop_left]
  · unfold pop
    rw [if_neg hnonempty]
    dsimp only
    rw [← hbegin, hhost, hsize, hdata, toInt32_toUint32 h.host, hret, htotal]

/-- Every message pushed has at least one byte. -/
def PushGuard (_ : MessageQueue) : Action → Prop
  | .push _ data => data ≠ []
  | _ => True

/-- The messages not delivered yet are those held by the consumer, then those waiting at the
producer. -/
structure Queued (q : MessageQueue) (held waiting : List (Int × List UInt8)) : Prop where
  consumer : Frames IsElement held q.consumer.readable
  producer : Frames IsElement waiting q.producer.readable
  order : q.delivered ++ held ++ waiting = q.pushed
  nonempty : ∀ m ∈ held ++ waiting, m.2 ≠ []
  drained : q.phase = .drained → held = []
  quietProducer : 1 ≤ q.quiet → waiting = []
  quietConsumer : 2 ≤ q.quiet → held = []
  readCb : q.readCb = true
  readBuffer : q.readBuffer.readable = []

theorem round_queued {q : MessageQueue} {held waiting : List (Int × List UInt8)}
    (h : Queued q held waiting) : ∃ held, Queued q.round held waiting := by
  cases held with
  | nil =>
    have hempty : q.consumer.readableBytes ≤ 0 := by
      exact Nat.le_of_eq (DynamicBuffer.readableBytes_eq_zero.mpr (frames_nil.mp h.consumer))
    have hpop : q.pop = (q, -1, 0) := by rw [pop, if_pos hempty]
    have hround : q.round = { q with phase := .drained } := by
      rw [round, hpop]
      rfl
    rw [hround]
    exact ⟨[], { h with drained := fun _ => rfl }⟩
  | cons m held =>
    obtain ⟨bytes, rest, element, hq, hrest⟩ := frames_cons.mp h.consumer
    obtain ⟨consumer, hconsumer, hpop⟩ := pop_element element hq
    have hread : (q.readBuffer.append m.2).readable = m.2 := by
      rw [DynamicBuffer.readable_append, h.readBuffer, List.nil_append]
    have hpositive : 0 < m.2.length :=
      List.length_pos_iff.mpr (h.nonempty m (by simp))
    have hsize : toSizeT (m.2.length : Int) = m.2.length :=
      toSizeT_natCast (by have := element.small; omega)
    have hdelivered : (q.readBuffer.append m.2).readBegin.take m.2.length = m.2 := by
      obtain ⟨beyond, hbegin⟩ := (q.readBuffer.append m.2).readable_isPrefix
      rw [← hbegin, hread, List.take_left]
    have hround : q.round = { q with
        consumer := consumer
        delivered := q.delivered ++ [m]
        readBuffer := (q.readBuffer.append m.2).readBytes m.2.length } := by
      rw [round, hpop]
      dsimp only
      rw [if_neg (by omega), if_pos h.readCb, Int.toNat_natCast, hdelivered, hsize]
    rw [hround]
    refine ⟨held, hconsumer ▸ hrest, h.producer, ?_, ?_, ?_, h.quietProducer, ?_, h.readCb, ?_⟩
    · have horder := h.order
      rw [List.append_cons] at horder
      exact horder
    · intro m' hm'
      exact h.nonempty m' (List.mem_cons_of_mem m hm')
    · intro hphase
      cases h.drained hphase
    · intro hquiet
      cases h.quietConsumer hquiet
    · show ((q.readBuffer.append m.2).readBytes m.2.length).readable = []
      rw [DynamicBuffer.readable_readBytes, hread, List.drop_length]

theorem push_queued {q : MessageQueue} {held waiting : List (Int × List UInt8)}
    (h : Queued q held waiting) {host : Int} {data : List UInt8}
    (hhost : -2147483648 ≤ host ∧ host < 2147483648) (hdata : data.length < 2147483648)
    (nonempty : data ≠ []) : Queued (q.push host data) held (waiting ++ [(host, data)]) := by
  obtain ⟨bytes, element, hproducer⟩ := push_readable q hhost hdata
  refine ⟨h.consumer, hproducer ▸ h.producer.snoc element, ?_, ?_, h.drained, ?_, ?_, h.readCb,
    h.readBuffer⟩
  · show q.delivered ++ held ++ (waiting ++ [(host, data)]) = q.pushed ++ [(host, data)]
    rw [← List.append_assoc, h.order]
  · intro m hm
    rw [← List.append_assoc, List.mem_append, List.mem_singleton] at hm
    rcases hm with hm | rfl
    · exact h.nonempty m hm
    · exact nonempty
  · intro hquiet
    cases hquiet
  · intro hquiet
    cases hquiet

/-- Only a drained consumer changes places with the producer. -/
theorem exchange_queued {q : MessageQueue} {waiting : List (Int × List UInt8)}
    (h : Queued q [] waiting) :
    Queued { q.exchange with phase := .idle, quiet := q.quiet + 1 } waiting [] where
  consumer := h.producer
  producer := h.consumer
  order := by
    have horder := h.order
    rwa [List.append_nil] at horder ⊢
  nonempty := by
    have hnonempty := h.nonempty
    rwa [List.append_nil]
  drained hphase := by cases hphase
  quietProducer _ := rfl
  quietConsumer hquiet := h.quietProducer (Nat.le_of_succ_le_succ hquiet)
  readCb := h.readCb
  readBuffer := h.readBuffer

theorem step_queued {q q' : MessageQueue} {a : Action} {held waiting : List (Int × List UInt8)}
    (h : Queued q held waiting) (guarded : q.PushGuard a) (hstep : q.step a = some q') :
    ∃ held waiting, Queued q' held waiting := by
  cases a with
  | push host data =>
    rw [step] at hstep
    split at hstep
    · rename_i hsize
      cases hstep
      exact ⟨_, _, push_queued h hsize.1 hsize.2 guarded⟩
    · cases hstep
  | expire now timerId =>
    rw [step] at hstep
    split at hstep
    · cases hstep
      exact ⟨held, waiting, h.consumer, h.producer, h.order, h.nonempty,
        (fun hphase => by cases hphase), h.quietProducer, h.quietConsumer, h.readCb, h.readBuffer⟩
    · cases hstep
  | round =>
    rw [step] at hstep
    split at hstep
    · cases hstep
      obtain ⟨held, h⟩ := round_queued h
      exact ⟨held, waiting, h⟩
    · cases hstep
  | exchange =>
    rw [step] at hstep
    split at hstep
    · rename_i hphase
      cases hstep
      cases h.drained hphase
      exact ⟨_, _, exchange_queued h⟩
    · cases hstep

theorem new_queued (maxExpiredMsec : Int) (initSize extSize : Nat) (h : 0 < extSize)
    (now : Timestamp) (timerId : Int) :
    Queued (new true maxExpiredMsec initSize extSize h now timerId) [] [] where
  consumer := frames_nil.mpr (DynamicBuffer.readable_new _ _ _)
  producer := frames_nil.mpr (DynamicBuffer.readable_new _ _ _)
  order := rfl
  nonempty m hm := by cases hm
  drained _ := rfl
  quietProducer _ := rfl
  quietConsumer _ := rfl
  readCb := rfl
  readBuffer := DynamicBuffer.readable_new _ _ _

/-- With no empty message pushed, the callback gets the messages in order, and has got them all
once two expirations have ended since the last `Push`. -/
theorem delivered_in_order {maxExpiredMsec : Int} {initSize extSize : Nat} {h : 0 < extSize}
    {now : Timestamp} {timerId : Int} {q : MessageQueue}
    (hq : Reaches step PushGuard (new true maxExpiredMsec initSize extSize h now timerId) q) :
    q.delivered <+: q.pushed ∧ (2 ≤ q.quiet → q.delivered = q.pushed) := by
  obtain ⟨held, waiting, queued⟩ := hq.invariant (I := fun q => ∃ held waiting, Queued q held waiting)
    ⟨[], [], new_queued _ _ _ _ _ _⟩
    (fun q a q' ⟨_, _, queued⟩ guarded hstep => step_queued queued guarded hstep)
  rw [← queued.order]
  refine ⟨?_, fun hquiet => ?_⟩
  · rw [List.append_assoc]
    exact List.prefix_append _ _
  · rw [queued.quietConsumer hquiet, queued.quietProducer (by omega), List.append_nil,
      List.append_nil]

def newQueue : MessageQueue := new true 10 1024 256 DynamicBuffer.defaultExpandSize_pos ⟨0, 0⟩ 0

/-- Two messages, the second pushed while the first expiration drains. -/
def pushWhileDraining : List Action :=
  [.push 3 [1, 2], .expire ⟨0, 0⟩ 1, .push (-4) [5], .round, .exchange,
    .expire ⟨0, 0⟩ 2, .round, .round, .round, .exchange]

instance (q : MessageQueue) (a : Action) : Decidable (q.PushGuard a) := by
  cases a <;> unfold PushGuard <;> infer_instance

theorem delivered_in_order_twice :
    ∃ q, run step pushWhileDraining newQueue = some q ∧
      q.delivered = [(3, [1, 2]), (-4, [5])] ∧ q.delivered = q.pushed := by
  obtain ⟨q, hq, hdelivered⟩ := Option.map_eq_some_iff.mp
    (by decide +kernel : (run step pushWhileDraining newQueue).map
      (fun q => (q.delivered, q.quiet)) = some ([(3, [1, 2]), (-4, [5])], 2))
  have hquiet : q.quiet = 2 := congrArg Prod.snd hdelivered
  exact ⟨q, hq, congrArg Prod.fst hdelivered,
    (delivered_in_order (Reaches.refl.run (by decide +kernel) hq)).2 (by omega)⟩

/-- A message without bytes in front of another. -/
def pushEmpty : List Action :=
  [.push 1 [], .push 2 [9], .expire ⟨0, 0⟩ 1, .round, .exchange,
    .expire ⟨0, 0⟩ 2, .round, .exchange]

/-- The empty message ends the loop that should go on to the other one. -/
theorem empty_push_stops_delivery :
    ¬ ∀ q, Reaches step (fun _ _ => True) newQueue q →
      q.delivered <+: q.pushed ∧ (2 ≤ q.quiet → q.delivered = q.pushed) := by
  intro hall
  obtain ⟨q, hq, hdelivered⟩ := Option.map_eq_some_iff.mp
    (by decide +kernel : (run step pushEmpty newQueue).map
      (fun q => (q.delivered, q.pushed, q.quiet)) = some ([], [(1, []), (2, [9])], 2))
  simp only [Prod.mk.injEq] at hdelivered
  obtain ⟨hnone, hpushed, hquiet⟩ := hdelivered
  have hbad := (hall q (reaches_of_run hq)).2 (by omega)
  rw [hnone, hpushed] at hbad
  cases hbad

end MessageQueue

end Mysya
