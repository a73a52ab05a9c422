import Mathlib.Algebra.Ring.Nat
import Mysya.GatewayCodec
import Mysya.GuardedRuns

/-!
# Streams through the gateway codec

`OnMessage` counts the header of a message twice, so twelve bytes behind it go
with it. A message comes through when it is the last thing in the buffer, and
then only: no call takes fewer bytes off than the callbacks it made account
for, and it takes more where one of them was followed by anything.
-/

namespace Mysya

namespace GatewayCodec

/-! ## One message in the buffer -/

section Round

variable {buffer : DynamicBuffer} {n : Int}

/-- What a round sees of the bytes still to read. -/
def remaining (buffer : DynamicBuffer) (n : Int) : Int := toInt32 (buffer.readableBytes - n)

theorem onMessageLoop_stop (fuel : Nat) (delivered : List GatewayDelivery)
    (h : remaining buffer n < 14) :
    onMessageLoop true (fuel + 1) buffer delivered n = some (buffer, delivered, n) := by
  rw [onMessageLoop]
  simp only [kProtocoMinSize]
  exact if_pos (Or.inr h)

theorem onMessageLoop_part (fuel : Nat) (delivered : List GatewayDelivery) (hn : 0 ≤ n)
    (h : remaining buffer n < messageSizeAt buffer n.toNat + 2) :
    onMessageLoop true (fuel + 1) buffer delivered n = some (buffer, delivered, n) := by
  by_cases hshort : remaining buffer n < 14
  · exact onMessageLoop_stop fuel delivered hshort
  · rw [remaining] at h hshort
    rw [onMessageLoop]
    simp only [kProtocoMinSize]
    rw [if_neg (by omega), if_neg (by omega), if_pos h]

theorem onMessageLoop_whole (fuel : Nat) (delivered : List GatewayDelivery) (hn : 0 ≤ n)
    (hlong : 14 ≤ remaining buffer n)
    (h : messageSizeAt buffer n.toNat + 2 ≤ remaining buffer n) :
    onMessageLoop true (fuel + 1) buffer delivered n =
      onMessageLoop true fuel
        (buffer.writeAt (n.toNat + 14) (deliveryAt buffer n.toNat).data)
        (delivered ++ [deliveryAt buffer n.toNat])
        (toInt32 (n + (messageSizeAt buffer n.toNat + 2 + 12))) := by
  rw [remaining] at h hlong
  rw [onMessageLoop]
  simp only [kProtocoMinSize]
  rw [if_neg (by omega), if_neg (by omega), if_neg (by omega), if_pos trivial]

end Round

section Single

variable {buffer : DynamicBuffer} {message : GatewayMessage}

/-- The fields of a message whose bytes the readable ones begin. -/
theorem messageSizeAt_part (hlength : message.data.length ≤ 65521) {missing : List UInt8}
    (hframe : buffer.readable ++ missing = frameBytes message)
    (hlong : 2 ≤ buffer.readable.length) :
    messageSizeAt buffer 0 = message.data.length + 12 := by
  obtain ⟨beyond, hbegin⟩ := buffer.readable_isPrefix
  have hfield := (header_fields hlength []).1
  rw [List.append_nil, ← hframe, List.take_append_of_le_length hlong] at hfield
  rw [messageSizeAt, List.drop_zero, ← hbegin, List.take_append_of_le_length hlong]
  exact hfield

theorem deliveryAt_frame (hlength : message.data.length ≤ 65521)
    (hframe : buffer.readable = frameBytes message) :
    messageSizeAt buffer 0 = message.data.length + 12 ∧
      deliveryAt buffer 0 = message.delivery := by
  obtain ⟨beyond, hbegin⟩ := buffer.readable_isPrefix
  obtain ⟨hsize, htype, hdata⟩ := header_fields hlength beyond
  rw [hframe] at hbegin
  have hsizeAt : messageSizeAt buffer 0 = message.data.length + 12 := by
    rw [messageSizeAt, List.drop_zero, ← hbegin]
    exact hsize
  refine ⟨hsizeAt, ?_⟩
  have hdataSize : ((message.data.length + 12 : Nat) : Int) - 12 = message.data.length := by
    omega
  rw [deliveryAt, GatewayMessage.delivery]
  simp only [hsizeAt, hdataSize, List.drop_zero, ← hbegin, htype, kProtocoMinSize,
    Int.toNat_natCast, hdata, decode_cipher]

/-- A part of a message stays in the buffer. -/
theorem onMessage_part (hlength : message.data.length ≤ 65521) {missing : List UInt8}
    (hframe : buffer.readable ++ missing = frameBytes message) (hmissing : missing ≠ []) :
    onMessage true buffer = some (buffer.readBytes 0, [], 0) := by
  have hpos := List.length_pos_iff.mpr hmissing
  have hbytes := congrArg List.length hframe
  rw [List.length_append, length_frameBytes, DynamicBuffer.length_readable] at hbytes
  have hremaining : remaining buffer 0 = buffer.readableBytes := by
    rw [remaining, Int.sub_zero]
    exact toInt32_of_lt (by omega)
  have hloop : onMessageLoop true (buffer.readableBytes + 2) buffer [] 0 =
      some (buffer, [], 0) := by
    by_cases hshort : buffer.readableBytes < 14
    · exact onMessageLoop_stop _ [] (by rw [hremaining]; omega)
    · have hsize := messageSizeAt_part hlength hframe
        (by rw [DynamicBuffer.length_readable]; omega)
      apply onMessageLoop_part _ [] le_rfl
      rw [hremaining, Int.toNat_zero, hsize]
      omega
  rw [onMessage, hloop]
  rfl

/-- A message that is all of the buffer is delivered, and the buffer is empty then. -/
theorem onMessage_frame (hlength : message.data.length ≤ 65521)
    (hframe : buffer.readable = frameBytes message) :
    ∃ buffer' : DynamicBuffer, onMessage true buffer =
        some (buffer', [message.delivery], (message.data.length : Int) + 26) ∧
      buffer'.readable = [] := by
  have hbytes := congrArg List.length hframe
  rw [length_frameBytes, DynamicBuffer.length_readable] at hbytes
  obtain ⟨hsize, hdelivery⟩ := deliveryAt_frame hlength hframe
  have hremaining : remaining buffer 0 = message.data.length + 14 := by
    rw [remaining, hbytes, Int.sub_zero, toInt32_of_lt (by omega)]
    omega
  have hread : toInt32 (0 + ((messageSizeAt buffer 0 : Int) + 2 + 12)) =
      message.data.length + 26 := by
    rw [hsize, toInt32_eq (by omega)]
    omega
  have hfirst := onMessageLoop_whole (buffer.readableBytes + 1) [] (n := 0) le_rfl
    (by rw [hremaining]; omega) (by rw [hremaining, Int.toNat_zero, hsize]; omega)
  rw [Int.toNat_zero, hread, hdelivery, List.nil_append] at hfirst
  have hshort : remaining (buffer.writeAt (0 + 14) message.delivery.data)
      ((message.data.length : Int) + 26) < 14 := by
    rw [remaining, DynamicBuffer.readableBytes_writeAt, hbytes, toInt32_eq (by omega)]
    omega
  have hlast := onMessageLoop_stop buffer.readableBytes [message.delivery] hshort
  refine ⟨(buffer.writeAt (0 + 14) message.delivery.data).readBytes
    (toSizeT (message.data.length + 26)), ?_, ?_⟩
  · rw [onMessage, hfirst, hlast]
    rfl
  · have hcount : toSizeT ((message.data.length : Int) + 26) = message.data.length + 26 := by
      rw [toSizeT]
      omega
    rw [DynamicBuffer.readable_readBytes, hcount]
    apply List.drop_of_length_le
    rw [DynamicBuffer.length_readable, DynamicBuffer.readableBytes_writeAt, hbytes]
    omega

end Single

/-! ## What a call takes off -/

section Account

variable {buffer buffer' : DynamicBuffer} {n n' : Int}

theorem messageSizeAt_lt (buffer : DynamicBuffer) (offset : Nat) :
    messageSizeAt buffer offset < 65536 :=
  LittleEndian.value_field_lt buffer.readBegin offset 2

/-- The bytes a message with these arguments has on the wire. -/
def wireSize (delivered : List GatewayDelivery) : Nat :=
  (delivered.map fun d => d.size.toNat + 14).sum

@[simp] theorem wireSize_nil : wireSize [] = 0 := rfl

@[simp] theorem wireSize_cons (d : GatewayDelivery) (rest : List GatewayDelivery) :
    wireSize (d :: rest) = d.size.toNat + 14 + wireSize rest := by
  simp [wireSize]

@[simp] theorem wireSize_append (ds es : List GatewayDelivery) :
    wireSize (ds ++ es) = wireSize ds + wireSize es := by
  simp [wireSize]

/-- The loop's messages lie in the buffer one behind the other, twelve bytes apart. -/
theorem onMessageLoop_account {fuel : Nat} {delivered delivered' : List GatewayDelivery}
    (h : onMessageLoop true fuel buffer delivered n = some (buffer', delivered', n'))
    (hn : -2147483648 ≤ n ∧ n < 2147483648) :
    ∃ new, delivered' = delivered ++ new ∧ buffer'.readableBytes = buffer.readableBytes ∧
      ((∀ d ∈ new, 0 ≤ d.size) → new = [] ∧ n' = n ∨
        0 ≤ n ∧ new ≠ [] ∧
          n + wireSize new + 12 * new.length ≤ buffer.readableBytes + 12 ∧
          (n' = n + wireSize new + 12 * new.length ∧ n' < 2147483648 ∨
            n' < 0 ∧ -2147483648 ≤ n' ∧ n + wireSize new + 12 * new.length < 4294967296)) := by
  induction fuel generalizing buffer delivered n with
  | zero => simp [onMessageLoop] at h
  | succ fuel ih =>
    by_cases hshort : remaining buffer n < 14
    · rw [onMessageLoop_stop fuel delivered hshort] at h
      simp only [Option.some.injEq, Prod.mk.injEq] at h
      obtain ⟨rfl, rfl, rfl⟩ := h
      exact ⟨[], by simp, rfl, fun _ => Or.inl ⟨rfl, rfl⟩⟩
    by_cases hneg : n < 0
    · have hnone : onMessageLoop true (fuel + 1) buffer delivered n = none := by
        rw [remaining] at hshort
        rw [onMessageLoop]
        simp only [kProtocoMinSize]
        rw [if_neg (by omega), if_pos hneg]
      rw [hnone] at h
      simp at h
    by_cases hpart : remaining buffer n < messageSizeAt buffer n.toNat + 2
    · rw [onMessageLoop_part fuel delivered (by omega) hpart] at h
      simp only [Option.some.injEq, Prod.mk.injEq] at h
      obtain ⟨rfl, rfl, rfl⟩ := h
      exact ⟨[], by simp, rfl, fun _ => Or.inl ⟨rfl, rfl⟩⟩
    rw [onMessageLoop_whole fuel delivered (by omega) (by omega) (by omega)] at h
    have hsize := messageSizeAt_lt buffer n.toNat
    have hroom : n + messageSizeAt buffer n.toNat + 2 ≤ buffer.readableBytes := by
      rw [remaining, toInt32, toUint32] at hshort hpart
      omega
    have hnext : (0 ≤ n + messageSizeAt buffer n.toNat + 14 ∧
          toInt32 (n + (messageSizeAt buffer n.toNat + 2 + 12)) =
            n + messageSizeAt buffer n.toNat + 14) ∨
        toInt32 (n + (messageSizeAt buffer n.toNat + 2 + 12)) < 0 := by
      rw [toInt32, toUint32]
      omega
    obtain ⟨new, hdelivered, hbytes, haccount⟩ := ih h (toInt32_range _)
    refine ⟨deliveryAt buffer n.toNat :: new, by rw [hdelivered]; simp, hbytes, ?_⟩
    intro hsizes
    have hfirst : 0 ≤ (deliveryAt buffer n.toNat).size := hsizes _ List.mem_cons_self
    have hwire : ((deliveryAt buffer n.toNat).size.toNat : Int) + 14 =
        messageSizeAt buffer n.toNat + 2 := by
      have heq : (deliveryAt buffer n.toNat).size = messageSizeAt buffer n.toNat - 12 := rfl
      omega
    rw [DynamicBuffer.readableBytes_writeAt] at haccount
    right
    rcases haccount (fun d hd => hsizes d (List.mem_cons_of_mem _ hd)) with
      ⟨rfl, hlast⟩ | ⟨hn1, hne, hlie, hlast⟩
    · have hrange := toInt32_range (n + (messageSizeAt buffer n.toNat + 2 + 12))
      simp only [wireSize_cons, wireSize_nil, List.length_cons, List.length_nil]
      refine ⟨by omega, by simp, by omega, ?_⟩
      omega
    · simp only [wireSize_cons, List.length_cons]
      refine ⟨by omega, by simp, by omega, ?_⟩
      omega

/-- A call takes off at least the messages it delivers, and no more only where it delivers
nothing or all of the buffer as one message. -/
theorem onMessage_account {delivered : List GatewayDelivery}
    (h : onMessage true buffer = some (buffer', delivered, n))
    (sizes : ∀ d ∈ delivered, 0 ≤ d.size) :
    buffer'.readableBytes + wireSize delivered ≤ buffer.readableBytes ∧
      (buffer'.readableBytes + wireSize delivered = buffer.readableBytes → delivered = [] ∨
        ∃ d, delivered = [d] ∧ wireSize delivered = buffer.readableBytes) := by
  rw [onMessage, Option.map_eq_some_iff] at h
  obtain ⟨⟨last, new, read⟩, hloop, heq⟩ := h
  simp only [Prod.mk.injEq] at heq
  obtain ⟨rfl, rfl, rfl⟩ := heq
  obtain ⟨new', hnew, hbytes, haccount⟩ := onMessageLoop_account hloop (by omega)
  rw [List.nil_append] at hnew
  subst hnew
  have hleft : (last.readBytes (toSizeT read)).readableBytes =
      buffer.readableBytes - toSizeT read := by
    rw [← DynamicBuffer.length_readable, DynamicBuffer.readable_readBytes, List.length_drop,
      DynamicBuffer.length_readable, hbytes]
  rw [hleft]
  rcases haccount sizes with ⟨rfl, _⟩ | ⟨_, hne, hlie, hread⟩
  · refine ⟨by rw [wireSize_nil]; omega, fun _ => Or.inl rfl⟩
  have hlength : 1 ≤ new.length := List.length_pos_iff.mpr hne
  have htaken : wireSize new + 12 * new.length ≤ toSizeT read := by
    rw [toSizeT]
    omega
  refine ⟨by omega, ?_⟩
  intro hexact
  have hone : new.length = 1 := by omega
  obtain ⟨d, rfl⟩ := List.length_eq_one_iff.mp hone
  exact Or.inr ⟨d, rfl, by omega⟩

end Account

/-! ## A stream of messages -/

def Accepted (message : GatewayMessage) : Prop :=
  message.data.length ≤ kMaxMessageSize - kProtocoMinSize

instance (message : GatewayMessage) : Decidable (Accepted message) :=
  inferInstanceAs (Decidable (_ ≤ _))

/-- The bytes of one `SendMessage` after another. -/
def sendAll : List GatewayMessage → GatewayCodec → Option (GatewayCodec × List UInt8)
  | [], codec => some (codec, [])
  | message :: rest, codec =>
    match codec.sendMessage message with
    | some (codec', some bytes) =>
      (sendAll rest codec').map fun (last, wire) => (last, bytes ++ wire)
    | _ => none

def sendStep (codec : GatewayCodec) (message : GatewayMessage) : Option GatewayCodec :=
  (codec.sendMessage message).map Prod.fst

/-- The bytes `messages` have on the wire. -/
def streamSize (messages : List GatewayMessage) : Nat :=
  (messages.map fun message => message.data.length + kProtocoMinSize).sum

/-- Every end of a message is the end of a chunk. -/
def Aligned (messages : List GatewayMessage) (chunks : List (List UInt8)) : Prop :=
  ∀ k ≤ messages.length, ∃ j ≤ chunks.length,
    streamSize (messages.take k) = (chunks.take j).flatten.length

theorem length_stream (messages : List GatewayMessage) :
    (messages.flatMap frameBytes).length = streamSize messages := by
  simp [List.length_flatMap, streamSize, length_frameBytes, kProtocoMinSize]

theorem wireSize_delivery (messages : List GatewayMessage) :
    wireSize (messages.map GatewayMessage.delivery) = streamSize messages := by
  simp [wireSize, streamSize, GatewayMessage.delivery, kProtocoMinSize, Function.comp_def]

theorem sendAll_cons_none {codec : GatewayCodec} {message : GatewayMessage}
    (rest : List GatewayMessage) (h : ¬ codec.SendGuard message) :
    sendAll (message :: rest) codec = none := by
  rw [sendAll, sendMessage_none codec h]

theorem sendAll_cons_some {codec next : GatewayCodec} {message : GatewayMessage}
    (rest : List GatewayMessage)
    (h : codec.sendMessage message = some (next, some (frameBytes message))) :
    sendAll (message :: rest) codec =
      (sendAll rest next).map fun (last, wire) => (last, frameBytes message ++ wire) := by
  rw [sendAll, h]

theorem sendAll_eq {messages : List GatewayMessage} (accepted : ∀ m ∈ messages, Accepted m)
    {codec codec' : GatewayCodec} {wire : List UInt8}
    (h : sendAll messages codec = some (codec', wire)) : wire = messages.flatMap frameBytes := by
  induction messages generalizing codec codec' wire with
  | nil =>
    simp only [sendAll, Option.some.injEq, Prod.mk.injEq] at h
    exact h.2.symm
  | cons message rest ih =>
    have hlength : message.data.length ≤ 65521 := accepted message List.mem_cons_self
    by_cases guard : codec.SendGuard message
    · obtain ⟨next, hsend⟩ := sendMessage_some codec hlength guard
      rw [sendAll_cons_some rest hsend, Option.map_eq_some_iff] at h
      obtain ⟨⟨last, tail⟩, hrest, heq⟩ := h
      simp only [Prod.mk.injEq] at heq
      rw [← heq.2, ih (fun m hm => accepted m (List.mem_cons_of_mem _ hm)) hrest,
        List.flatMap_cons]
    · rw [sendAll_cons_none rest guard] at h
      cases h

/-- Messages can be sent exactly when each meets the guard. -/
theorem sendAll_some_iff {messages : List GatewayMessage}
    (accepted : ∀ m ∈ messages, Accepted m) (codec : GatewayCodec) :
    (∃ codec' wire, sendAll messages codec = some (codec', wire)) ↔
      GuardedRuns.Guarded sendStep SendGuard messages codec := by
  induction messages generalizing codec with
  | nil => simp [sendAll, GuardedRuns.Guarded]
  | cons message rest ih =>
    have hlength : message.data.length ≤ 65521 := accepted message List.mem_cons_self
    have hrest := fun m hm => accepted m (List.mem_cons_of_mem message hm)
    rw [GuardedRuns.Guarded]
    by_cases guard : codec.SendGuard message
    · obtain ⟨next, hsend⟩ := sendMessage_some codec hlength guard
      have hstep : sendStep codec message = some next := by simp [sendStep, hsend]
      constructor
      · rintro ⟨codec', wire, h⟩
        rw [sendAll_cons_some rest hsend, Option.map_eq_some_iff] at h
        obtain ⟨⟨last, tail⟩, htail, _⟩ := h
        refine ⟨guard, ?_⟩
        intro s' hs'
        obtain rfl : next = s' := Option.some.inj (hstep.symm.trans hs')
        exact (ih hrest next).mp ⟨last, tail, htail⟩
      · rintro ⟨_, hguarded⟩
        obtain ⟨last, tail, htail⟩ := (ih hrest next).mpr (hguarded next hstep)
        exact ⟨last, frameBytes message ++ tail, by rw [sendAll_cons_some rest hsend, htail]; rfl⟩
    · constructor
      · rintro ⟨codec', wire, h⟩
        rw [sendAll_cons_none rest guard] at h
        cases h
      · rintro ⟨hguard, _⟩
        exact absurd hguard guard

theorem streamSize_cons (message : GatewayMessage) (rest : List GatewayMessage) :
    streamSize (message :: rest) = message.data.length + 14 + streamSize rest := by
  simp [streamSize, kProtocoMinSize]

theorem streamSize_nil : streamSize [] = 0 := rfl

theorem onMessage_empty {buffer : DynamicBuffer} (h : buffer.readable = []) :
    onMessage true buffer = some (buffer.readBytes 0, [], 0) := by
  let empty : GatewayMessage := ⟨0, [], by omega⟩
  have hframe : buffer.readable ++ frameBytes empty = frameBytes empty := by
    rw [h, List.nil_append]
  have hsome : frameBytes empty ≠ [] := by
    rw [← List.length_pos_iff, length_frameBytes]
    omega
  exact onMessage_part (Nat.zero_le _) hframe hsome

end GatewayCodec

namespace GatewayReceiver

open GatewayCodec

/-- A receiver with a part of the first of `messages`, the rest of which is in `chunks`, cut
at every end of a message. -/
structure Waiting (s : GatewayReceiver) (messages : List GatewayMessage)
    (chunks : List (List UInt8)) : Prop where
  accepted : ∀ m ∈ messages, Accepted m
  stream : s.buffer.readable ++ chunks.flatten = messages.flatMap frameBytes
  part : ∀ m ∈ messages.head?, s.buffer.readable.length < m.data.length + 14
  aligned : ∀ k, 0 < k → k ≤ messages.length → ∃ j ≤ chunks.length,
    streamSize (messages.take k) = s.buffer.readable.length + (chunks.take j).flatten.length

theorem step_eq {s : GatewayReceiver} {chunk : List UInt8} {buffer : DynamicBuffer}
    {delivered : List GatewayDelivery} {n : Int}
    (h : onMessage true (s.buffer.append chunk) = some (buffer, delivered, n)) :
    s.step chunk = some ⟨buffer, s.delivered ++ delivered⟩ := by
  rw [step, h]
  rfl

namespace Waiting

variable {s : GatewayReceiver} {message : GatewayMessage} {messages : List GatewayMessage}
  {chunk : List UInt8} {chunks : List (List UInt8)}

theorem chunk_le (hw : Waiting s (message :: messages) (chunk :: chunks)) :
    s.buffer.readable.length + chunk.length ≤ message.data.length + 14 := by
  obtain ⟨j, hj, hend⟩ := hw.aligned 1 Nat.one_pos (by simp)
  have hpart := hw.part message rfl
  rw [List.take_succ_cons, List.take_zero, streamSize_cons, streamSize_nil] at hend
  cases j with
  | zero =>
    simp at hend
    omega
  | succ j =>
    simp at hend
    omega

/-- The rest of the first message comes, and nothing of the next. -/
theorem step_whole (hw : Waiting s (message :: messages) (chunk :: chunks))
    (hall : s.buffer.readable.length + chunk.length = message.data.length + 14) :
    ∃ s', s.step chunk = some s' ∧ s'.delivered = s.delivered ++ [message.delivery] ∧
      Waiting s' messages chunks := by
  have hlength : message.data.length ≤ 65521 := hw.accepted message List.mem_cons_self
  have hpart := hw.part message rfl
  have hstream := hw.stream
  rw [List.flatten_cons, ← List.append_assoc, List.flatMap_cons] at hstream
  obtain ⟨hframe, htail⟩ := List.append_inj hstream
    (by rw [List.length_append, hall, length_frameBytes])
  rw [← DynamicBuffer.readable_append] at hframe
  obtain ⟨buffer', hmessage, hempty⟩ := onMessage_frame hlength hframe
  refine ⟨_, step_eq hmessage, rfl, ?_⟩
  constructor
  · intro m hm
    exact hw.accepted m (List.mem_cons_of_mem _ hm)
  · rw [hempty, List.nil_append, htail]
  · intro m _
    rw [hempty, List.length_nil]
    omega
  · intro k hk hk'
    obtain ⟨j, hj, hend⟩ := hw.aligned (k + 1) (by omega) (by simpa using hk')
    rw [List.take_succ_cons, streamSize_cons] at hend
    rw [hempty, List.length_nil]
    cases j with
    | zero =>
      simp at hend
      omega
    | succ j =>
      simp only [List.take_succ_cons, List.flatten_cons, List.length_append] at hend
      exact ⟨j, by simpa using hj, by omega⟩

/-- The first message is not complete yet. -/
theorem step_part (hw : Waiting s (message :: messages) (chunk :: chunks))
    (hsome : s.buffer.readable.length + chunk.length < message.data.length + 14) :
    ∃ s', s.step chunk = some s' ∧ s'.delivered = s.delivered ∧
      Waiting s' (message :: messages) chunks := by
  have hlength : message.data.length ≤ 65521 := hw.accepted message List.mem_cons_self
  have hpart := hw.part message rfl
  have hstream := hw.stream
  rw [List.flatten_cons, ← List.append_assoc, List.flatMap_cons] at hstream
  have htake := congrArg (List.take (s.buffer.readable ++ chunk).length) hstream
  rw [List.take_left, List.take_append_of_le_length
    (by rw [List.length_append, length_frameBytes]; omega)] at htake
  have hframe : (s.buffer.append chunk).readable ++
      (frameBytes message).drop (s.buffer.readable ++ chunk).length = frameBytes message := by
    rw [DynamicBuffer.readable_append]
    nth_rewrite 1 [htake]
    exact List.take_append_drop _ _
  have hmissing : (frameBytes message).drop (s.buffer.readable ++ chunk).length ≠ [] := by
    rw [← List.length_pos_iff, List.length_drop, List.length_append, length_frameBytes]
    omega
  have hread : ((s.buffer.append chunk).readBytes 0).readable = s.buffer.readable ++ chunk := by
    rw [DynamicBuffer.readable_readBytes, DynamicBuffer.readable_append, List.drop_zero]
  refine ⟨_, step_eq (onMessage_part hlength hframe hmissing), List.append_nil _, ?_⟩
  constructor
  · exact hw.accepted
  · rw [hread, hstream, List.flatMap_cons]
  · intro m hm
    obtain rfl : message = m := by simpa using hm
    rw [hread, List.length_append]
    exact hsome
  · intro k hk hk'
    obtain ⟨j, hj, hend⟩ := hw.aligned k hk hk'
    rw [hread, List.length_append]
    cases j with
    | zero =>
      have hfirst : message.data.length + 14 ≤ streamSize ((message :: messages).take k) := by
        obtain ⟨k, rfl⟩ : ∃ m, k = m + 1 := ⟨k - 1, by omega⟩
        rw [List.take_succ_cons, streamSize_cons]
        omega
      simp at hend
      omega
    | succ j =>
      simp only [List.take_succ_cons, List.flatten_cons, List.length_append] at hend
      exact ⟨j, by simpa using hj, by omega⟩

theorem step_none (hw : Waiting s [] (chunk :: chunks)) :
    ∃ s', s.step chunk = some s' ∧ s'.delivered = s.delivered ∧ Waiting s' [] chunks := by
  have hstream := hw.stream
  simp only [List.flatten_cons, List.flatMap_nil, List.append_eq_nil_iff] at hstream
  obtain ⟨hbuffer, hchunk, hchunks⟩ := hstream
  have hempty : (s.buffer.append chunk).readable = [] := by
    rw [DynamicBuffer.readable_append, hbuffer, hchunk]
    rfl
  have hread : ((s.buffer.append chunk).readBytes 0).readable = [] := by
    rw [DynamicBuffer.readable_readBytes, hempty, List.drop_nil]
  refine ⟨_, step_eq (onMessage_empty hempty), List.append_nil _, ?_⟩
  constructor
  · exact hw.accepted
  · rw [hread, hchunks]
    rfl
  · intro m hm
    simp at hm
  · intro k hk hk'
    simp at hk'
    omega

theorem step (hw : Waiting s messages (chunk :: chunks)) :
    ∃ s' k, s.step chunk = some s' ∧ k ≤ messages.length ∧
      s'.delivered = s.delivered ++ (messages.take k).map GatewayMessage.delivery ∧
      Waiting s' (messages.drop k) chunks := by
  cases messages with
  | nil =>
    obtain ⟨s', hstep, hdelivered, hnext⟩ := hw.step_none
    exact ⟨s', 0, hstep, le_rfl, by simpa using hdelivered, hnext⟩
  | cons message messages =>
    have hle := hw.chunk_le
    by_cases hall : s.buffer.readable.length + chunk.length = message.data.length + 14
    · obtain ⟨s', hstep, hdelivered, hnext⟩ := hw.step_whole hall
      exact ⟨s', 1, hstep, by simp, by simpa using hdelivered, hnext⟩
    · obtain ⟨s', hstep, hdelivered, hnext⟩ := hw.step_part (by omega)
      exact ⟨s', 0, hstep, by simp, by simpa using hdelivered, hnext⟩

theorem run (hw : Waiting s messages chunks) (n : Nat) :
    ∃ s' k, GuardedRuns.run GatewayReceiver.step (chunks.take n) s = some s' ∧
      k ≤ messages.length ∧
      s'.delivered = s.delivered ++ (messages.take k).map GatewayMessage.delivery ∧
      Waiting s' (messages.drop k) (chunks.drop n) := by
  induction n generalizing s messages chunks with
  | zero => exact ⟨s, 0, rfl, Nat.zero_le _, by simp, hw⟩
  | succ n ih =>
    cases chunks with
    | nil => exact ⟨s, 0, rfl, Nat.zero_le _, by simp, hw⟩
    | cons chunk chunks =>
      obtain ⟨s₁, k₁, hstep, hk₁, hd₁, hw₁⟩ := hw.step
      obtain ⟨s₂, k₂, hrun, hk₂, hd₂, hw₂⟩ := ih hw₁
      rw [List.length_drop] at hk₂
      refine ⟨s₂, k₁ + k₂, ?_, by omega, ?_, ?_⟩
      · rw [List.take_succ_cons, GuardedRuns.run, hstep]
        exact hrun
      · rw [hd₂, hd₁, List.take_add, List.map_append, List.append_assoc]
      · rw [List.drop_succ_cons, ← List.drop_drop]
        exact hw₂

end Waiting

/-! ## What a run of calls takes off -/

theorem step_account {s s' : GatewayReceiver} {chunk : List UInt8}
    (h : s.step chunk = some s') (sizes : ∀ d ∈ s'.delivered, 0 ≤ d.size) :
    ∃ new, s'.delivered = s.delivered ++ new ∧
      s'.buffer.readable.length + wireSize new ≤ s.buffer.readable.length + chunk.length ∧
      (s'.buffer.readable.length + wireSize new = s.buffer.readable.length + chunk.length →
        new = [] ∨ ∃ d, new = [d] ∧
          wireSize new = s.buffer.readable.length + chunk.length) := by
  rw [GatewayReceiver.step, Option.map_eq_some_iff] at h
  obtain ⟨⟨buffer, new, n⟩, hmessage, rfl⟩ := h
  have haccount := onMessage_account hmessage
    (fun d hd => sizes d (List.mem_append_right _ hd))
  rw [← DynamicBuffer.length_readable, ← DynamicBuffer.length_readable,
    DynamicBuffer.readable_append, List.length_append] at haccount
  exact ⟨new, rfl, haccount.1, haccount.2⟩

/-- Where nothing is lost, every message delivered ends with a chunk. -/
theorem run_account {s s' : GatewayReceiver} {chunks : List (List UInt8)}
    (h : GuardedRuns.run GatewayReceiver.step chunks s = some s')
    (sizes : ∀ d ∈ s'.delivered, 0 ≤ d.size) :
    ∃ new, s'.delivered = s.delivered ++ new ∧
      s'.buffer.readable.length + wireSize new ≤
        s.buffer.readable.length + chunks.flatten.length ∧
      (s'.buffer.readable.length + wireSize new =
          s.buffer.readable.length + chunks.flatten.length →
        ∀ k, 0 < k → k ≤ new.length → ∃ j ≤ chunks.length,
          wireSize (new.take k) = s.buffer.readable.length + (chunks.take j).flatten.length) := by
  induction chunks generalizing s with
  | nil =>
    cases h
    refine ⟨[], by simp, by simp, ?_⟩
    intro _ k hk hk'
    simp at hk'
    omega
  | cons chunk chunks ih =>
    obtain ⟨s₁, hstep, hrun⟩ := Option.bind_eq_some_iff.mp h
    obtain ⟨new₂, hd₂, hle₂, hends₂⟩ := ih hrun
    have hsizes : ∀ d ∈ s₁.delivered, 0 ≤ d.size := by
      intro d hd
      apply sizes
      rw [hd₂]
      exact List.mem_append_left _ hd
    obtain ⟨new₁, hd₁, hle₁, hone⟩ := step_account hstep hsizes
    refine ⟨new₁ ++ new₂, by rw [hd₂, hd₁, List.append_assoc], ?_, ?_⟩
    · rw [wireSize_append, List.flatten_cons, List.length_append]
      omega
    intro hexact k hk hk'
    rw [wireSize_append, List.flatten_cons, List.length_append] at hexact
    rcases hone (by omega) with rfl | ⟨d, rfl, hwhole⟩
    · obtain ⟨j, hj, hend⟩ := hends₂ (by omega) k hk (by simpa using hk')
      rw [wireSize_nil] at hexact hle₁
      refine ⟨j + 1, by simpa using hj, ?_⟩
      rw [List.nil_append, List.take_succ_cons, List.flatten_cons, List.length_append]
      omega
    · obtain ⟨k, rfl⟩ : ∃ m, k = m + 1 := ⟨k - 1, by omega⟩
      have hsplit : wireSize (([d] ++ new₂).take (k + 1)) = wireSize [d] + wireSize (new₂.take k) := by
        rw [List.singleton_append, List.take_succ_cons, ← List.singleton_append, wireSize_append]
      rw [hsplit]
      by_cases hk0 : k = 0
      · refine ⟨1, by simp, ?_⟩
        simpa [hk0] using hwhole
      · obtain ⟨j, hj, hend⟩ := hends₂ (by omega) k (by omega) (by simpa using hk')
        refine ⟨j + 1, by simpa using hj, ?_⟩
        rw [List.take_succ_cons, List.flatten_cons, List.length_append]
        omega

end GatewayReceiver

namespace GatewayCodec

open GatewayReceiver

/-- The messages come out of the stream as they went in, and after every chunk the buffer
holds what has come of those not delivered yet. -/
structure RoundTrips (codec : GatewayCodec) (buffer : DynamicBuffer)
    (messages : List GatewayMessage) (chunks : List (List UInt8)) : Prop where
  sent : ∃ codec' wire, sendAll messages codec = some (codec', wire) ∧ chunks.flatten = wire
  received : ∃ s, GuardedRuns.run GatewayReceiver.step chunks ⟨buffer, []⟩ = some s ∧
    s.delivered = messages.map GatewayMessage.delivery ∧ s.buffer.readable = []
  apart : ∀ n s, GuardedRuns.run GatewayReceiver.step (chunks.take n) ⟨buffer, []⟩ = some s →
    s.buffer.readable = (chunks.take n).flatten.drop (wireSize s.delivered)

section Stream

variable {codec : GatewayCodec} {buffer : DynamicBuffer} {messages : List GatewayMessage}
  {chunks : List (List UInt8)}

theorem RoundTrips.aligned (hempty : buffer.readable = [])
    (accepted : ∀ m ∈ messages, Accepted m) (h : RoundTrips codec buffer messages chunks) :
    Aligned messages chunks := by
  obtain ⟨codec', wire, hsent, hwire⟩ := h.sent
  obtain ⟨s, hrun, hdelivered, hleft⟩ := h.received
  have hsizes : ∀ d ∈ s.delivered, 0 ≤ d.size := by
    intro d hd
    rw [hdelivered, List.mem_map] at hd
    obtain ⟨m, _, rfl⟩ := hd
    exact Int.natCast_nonneg _
  obtain ⟨new, hnew, _, hends⟩ := run_account hrun hsizes
  obtain rfl : new = messages.map GatewayMessage.delivery := by
    rw [← hdelivered, hnew, List.nil_append]
  have htotal : chunks.flatten.length = streamSize messages := by
    rw [hwire, sendAll_eq accepted hsent, length_stream]
  have hexact := hends (by
    rw [hleft, hempty, wireSize_delivery, htotal, List.length_nil])
  intro k hk
  by_cases hk0 : k = 0
  · exact ⟨0, Nat.zero_le _, by simp [hk0, streamSize_nil]⟩
  · obtain ⟨j, hj, hend⟩ := hexact k (by omega) (by simpa using hk)
    rw [← List.map_take, wireSize_delivery, hempty, List.length_nil, Nat.zero_add] at hend
    exact ⟨j, hj, hend⟩

theorem waiting_start (hempty : buffer.readable = []) (accepted : ∀ m ∈ messages, Accepted m)
    (hwire : chunks.flatten = messages.flatMap frameBytes) (aligned : Aligned messages chunks) :
    Waiting ⟨buffer, []⟩ messages chunks := by
  constructor
  · exact accepted
  · rw [hempty, hwire, List.nil_append]
  · intro m _
    rw [hempty, List.length_nil]
    omega
  · intro k _ hk'
    obtain ⟨j, hj, hend⟩ := aligned k hk'
    exact ⟨j, hj, by rw [hempty, List.length_nil, hend, Nat.zero_add]⟩

theorem apart_of_waiting {n : Nat} {s : GatewayReceiver} {k : Nat}
    (hwire : chunks.flatten = messages.flatMap frameBytes)
    (hdelivered : s.delivered = (messages.take k).map GatewayMessage.delivery)
    (hw : Waiting s (messages.drop k) (chunks.drop n)) :
    s.buffer.readable = (chunks.take n).flatten.drop (wireSize s.delivered) := by
  have hchunks : (chunks.take n).flatten ++ (chunks.drop n).flatten =
      (messages.take k).flatMap frameBytes ++ (s.buffer.readable ++ (chunks.drop n).flatten) := by
    rw [hw.stream, ← List.flatten_append, ← List.flatMap_append, List.take_append_drop,
      List.take_append_drop, hwire]
  rw [← List.append_assoc] at hchunks
  have hcome := List.append_cancel_right hchunks
  rw [hcome, hdelivered, wireSize_delivery, ← length_stream, List.drop_left]

theorem roundTrips_of_aligned (hempty : buffer.readable = [])
    (accepted : ∀ m ∈ messages, Accepted m)
    (split : ∀ codec' wire, sendAll messages codec = some (codec', wire) →
      chunks.flatten = wire)
    (guarded : GuardedRuns.Guarded sendStep SendGuard messages codec)
    (aligned : Aligned messages chunks) : RoundTrips codec buffer messages chunks := by
  obtain ⟨codec', wire, hsent⟩ := (sendAll_some_iff accepted codec).mpr guarded
  have hwire : chunks.flatten = messages.flatMap frameBytes := by
    rw [split codec' wire hsent, sendAll_eq accepted hsent]
  have hstart := waiting_start hempty accepted hwire aligned
  constructor
  · exact ⟨codec', wire, hsent, split codec' wire hsent⟩
  · obtain ⟨s, k, hrun, hk, hdelivered, hw⟩ := hstart.run chunks.length
    rw [List.take_length] at hrun
    have hstream := hw.stream
    rw [List.drop_length, List.flatten_nil, List.append_nil] at hstream
    have hlast : messages.drop k = [] := by
      cases hrest : messages.drop k with
      | nil => rfl
      | cons m rest =>
        have hpart := hw.part m (by rw [hrest]; rfl)
        rw [hstream, hrest, length_stream, streamSize_cons] at hpart
        omega
    refine ⟨s, hrun, ?_, ?_⟩
    · have htake := List.take_append_drop k messages
      rw [hlast, List.append_nil] at htake
      rw [hdelivered, htake, List.nil_append]
    · rw [hstream, hlast]
      rfl
  · intro n s' hrun'
    obtain ⟨s, k, hrun, _, hdelivered, hw⟩ := hstart.run n
    obtain rfl : s = s' := Option.some.inj (hrun.symm.trans hrun')
    exact apart_of_waiting hwire hdelivered hw

/-- The messages round trip exactly where every end of a message is the end of a chunk and
no empty payload is sent while the payload area has no zero byte. -/
theorem round_trips_iff (hempty : buffer.readable = [])
    (accepted : ∀ m ∈ messages, Accepted m)
    (split : ∀ codec' wire, sendAll messages codec = some (codec', wire) →
      chunks.flatten = wire) :
    RoundTrips codec buffer messages chunks ↔
      GuardedRuns.Guarded sendStep SendGuard messages codec ∧ Aligned messages chunks := by
  constructor
  · intro h
    obtain ⟨codec', wire, hsent, _⟩ := h.sent
    exact ⟨(sendAll_some_iff accepted codec).mp ⟨codec', wire, hsent⟩, h.aligned hempty accepted⟩
  · rintro ⟨guarded, aligned⟩
    exact roundTrips_of_aligned hempty accepted split guarded aligned

end Stream

/-! ## Two messages -/

def clearCodec : GatewayCodec := ⟨List.replicate 65535 0, List.length_replicate⟩

def receiveBuffer : DynamicBuffer := .new 1024 256 DynamicBuffer.defaultExpandSize_pos

def oneByte (messageType : Int) (b : UInt8)
    (isInt : -2147483648 ≤ messageType ∧ messageType < 2147483648) : GatewayMessage where
  messageType := messageType
  data := [b]
  isInt := isInt

def firstMessage : GatewayMessage := oneByte 1 1 (by decide)

def secondMessage : GatewayMessage := oneByte 2 2 (by decide)

def firstFrame : List UInt8 := [13, 0, 1, 0, 0, 0, 0, 0, 0, 0, 0, 0, 0, 0, 7]

def secondFrame : List UInt8 := [13, 0, 2, 0, 0, 0, 0, 0, 0, 0, 0, 0, 0, 0, 4]

theorem frames_eq : frameBytes firstMessage = firstFrame ∧
    frameBytes secondMessage = secondFrame := by
  decide +kernel

theorem sendGuard_oneByte (codec : GatewayCodec) {message : GatewayMessage}
    (h : message.data ≠ []) : codec.SendGuard message :=
  fun hempty => absurd hempty h

theorem both_accepted : ∀ m ∈ [firstMessage, secondMessage], Accepted m := by
  decide

theorem both_guarded (codec : GatewayCodec) :
    GuardedRuns.Guarded sendStep SendGuard [firstMessage, secondMessage] codec :=
  ⟨sendGuard_oneByte codec (by decide), fun s' _ =>
    ⟨sendGuard_oneByte s' (by decide), fun _ _ => trivial⟩⟩

theorem both_sent {codec' : GatewayCodec} {wire : List UInt8}
    (h : sendAll [firstMessage, secondMessage] clearCodec = some (codec', wire)) :
    wire = firstFrame ++ secondFrame := by
  rw [sendAll_eq both_accepted h, ← frames_eq.1, ← frames_eq.2]
  simp

/-- A chunk for each message. -/
theorem round_trips_apart : RoundTrips clearCodec receiveBuffer [firstMessage, secondMessage]
    [firstFrame, secondFrame] := by
  have hsplit : ∀ codec' wire,
      sendAll [firstMessage, secondMessage] clearCodec = some (codec', wire) →
        [firstFrame, secondFrame].flatten = wire := by
    intro codec' wire h
    rw [both_sent h]
    rfl
  refine (round_trips_iff (DynamicBuffer.readable_new _ _ _) both_accepted hsplit).mpr
    ⟨both_guarded _, ?_⟩
  intro k hk
  refine ⟨k, hk, ?_⟩
  have hcases : k = 0 ∨ k = 1 ∨ k = 2 := by
    simp at hk
    omega
  rcases hcases with rfl | rfl | rfl <;> decide

/-- Of two messages that come together the second is not delivered, and three of its bytes
are left. -/
theorem second_message_lost :
    (∃ codec', sendAll [firstMessage, secondMessage] clearCodec =
      some (codec', firstFrame ++ secondFrame)) ∧
    (GuardedRuns.run GatewayReceiver.step [firstFrame ++ secondFrame]
        ⟨receiveBuffer, []⟩).map (fun s => (s.delivered, s.buffer.readable)) =
      some ([firstMessage.delivery], [0, 0, 4]) ∧
    ¬ RoundTrips clearCodec receiveBuffer [firstMessage, secondMessage]
      [firstFrame ++ secondFrame] := by
  have hrun : (GuardedRuns.run GatewayReceiver.step [firstFrame ++ secondFrame]
      ⟨receiveBuffer, []⟩).map (fun s => (s.delivered, s.buffer.readable)) =
        some ([firstMessage.delivery], [0, 0, 4]) := by
    decide +kernel
  obtain ⟨codec', wire, hsent⟩ :=
    (sendAll_some_iff both_accepted clearCodec).mpr (both_guarded clearCodec)
  refine ⟨⟨codec', by rw [hsent, both_sent hsent]⟩, hrun, ?_⟩
  intro h
  obtain ⟨s, hs, hdelivered, _⟩ := h.received
  rw [hs, Option.map_some, Option.some.injEq, Prod.mk.injEq, hdelivered] at hrun
  exact absurd hrun.1 (by decide)

end GatewayCodec

end Mysya
