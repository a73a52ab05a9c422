import Mathlib.Algebra.Ring.Int.Defs
import Mysya.DynamicBuffer
import Mysya.FrameStream
import Mysya.GuardedRuns
import Mysya.LittleEndian
import Mysya.MachineInts

/-!
# The protobuf codec

`codec::ProtobufCodec` over what it uses of the protobuf library, which is a
parameter. A frame is its own length, the length of the type name, the name and
the serialised message; the type length is written as four bytes and read as
two. `OnMessage` counts in `int`, so a buffer of `2 ^ 31` bytes stalls it.
-/

namespace Mysya

open FrameStream GuardedRuns

/-- The protobuf library. `serializeToArray` gives the bytes it writes, and `parseFromArray`
gets the memory from its pointer on; both give nothing where the library answers false. -/
structure ProtobufLibrary (Message : Type) where
  Descriptor : Type
  typeName : Message → List UInt8
  byteSize : Message → Int
  serializeToArray : Message → Int → Option (List UInt8)
  findMessageTypeByName : List UInt8 → Option Descriptor
  getPrototype : Descriptor → Option Message
  new : Message → Message
  parseFromArray : Message → List UInt8 → Int → Option Message

/-- How `OnMessage` ends: with a count, with -1, or with the exception of a string of
negative length. -/
inductive OnMessageReturn where
  | bytes (readMessageBytes : Int)
  | failed
  | thrown
  deriving DecidableEq, Repr

/-- What a round of the loop of `OnMessage` comes to. -/
inductive ProtobufRound (Message : Type) where
  | stop
  | leave (r : OnMessageReturn)
  | frame (protocolBytes : Int) (message : Option Message)

namespace ProtobufLibrary

variable {Message : Type} (lib : ProtobufLibrary Message)

def createMessage (type : List UInt8) : Option Message :=
  match lib.findMessageTypeByName type with
  | none => none
  | some descriptor => (lib.getPrototype descriptor).map lib.new

/-- `SendMessage`: the bytes it hands to the socket application, and what it returns when that
answers `accepted`. -/
def sendMessage (message : Message) (accepted : Bool) : Option (List UInt8) × Int :=
  let typeName := lib.typeName message
  let typeBytes := toInt32 typeName.length
  let messageBytes := lib.byteSize message
  let protocolBytes := toInt32 (messageBytes + 4 + 4 + typeBytes)
  let buffer := (DynamicBuffer.new 1024 256 DynamicBuffer.defaultExpandSize_pos).reserveWritableBytes
    (toSizeT protocolBytes)
  let buffer := buffer.append (LittleEndian.bytes 4 (toUint32 protocolBytes))
  let buffer := buffer.append (LittleEndian.bytes 4 (toUint32 typeBytes))
  let buffer := buffer.append typeName
  match lib.serializeToArray message messageBytes with
  | none => (none, -1)
  | some payload =>
    let buffer := (buffer.fill payload).writtenBytes (toSizeT messageBytes)
    (some buffer.readable, if accepted then toInt32 buffer.readableBytes else -1)

/-- One round of the loop of `OnMessage`; nothing where it reads past the end of the vector. -/
def round (buffer : DynamicBuffer) : Option (ProtobufRound Message) :=
  let readableBytes := toInt32 buffer.readableBytes
  if readableBytes ≤ 0 ∨ readableBytes < 4 then some .stop
  else
    let data := buffer.readBegin
    let protocolBytes := toInt32 (LittleEndian.value (data.take 4))
    if readableBytes < protocolBytes then some .stop
    else if protocolBytes < 4 then some .stop
    else if data.length < 6 then none
    else
      let typeBytes := toInt16 (LittleEndian.value ((data.drop 4).take 2))
      if typeBytes < 0 then some (.leave .thrown)
      else if data.length < 8 + typeBytes then none
      else
        match lib.createMessage ((data.drop 8).take typeBytes.toNat) with
        | none => some (.leave .failed)
        | some message =>
          some (.frame protocolBytes (lib.parseFromArray message
            (data.drop (8 + typeBytes.toNat)) (protocolBytes - 4 - 4 - typeBytes)))

/-- The loop of `OnMessage`, with the messages passed to the callback. -/
def onMessageLoop (messageCb : Bool) : Nat → DynamicBuffer → List Message → Int →
    Option (DynamicBuffer × List Message × OnMessageReturn)
  | 0, _, _, _ => none
  | fuel + 1, buffer, messages, readMessageBytes =>
    match lib.round buffer with
    | none => none
    | some .stop => some (buffer, messages, .bytes readMessageBytes)
    | some (.leave r) => some (buffer, messages, r)
    | some (.frame protocolBytes message) =>
      onMessageLoop messageCb fuel (buffer.readBytes (toSizeT protocolBytes))
        (messages ++ if messageCb then message.toList else [])
        (toInt32 (readMessageBytes + protocolBytes))

/-- Each round but the last takes bytes off the buffer, so there are enough of them. -/
def onMessage (messageCb : Bool) (buffer : DynamicBuffer) :
    Option (DynamicBuffer × List Message × OnMessageReturn) :=
  lib.onMessageLoop messageCb (buffer.readableBytes + 1) buffer [] 0

end ProtobufLibrary

/-- A receive buffer with what has been made of it. -/
structure ProtobufReceiver (Message : Type) where
  buffer : DynamicBuffer
  messages : List Message
  returns : List OnMessageReturn

namespace ProtobufReceiver

variable {Message : Type}

def new (initSize expandSize : Nat) (h : 0 < expandSize) : ProtobufReceiver Message where
  buffer := .new initSize expandSize h
  messages := []
  returns := []

/-- A chunk is appended and `OnMessage` called. -/
def step (lib : ProtobufLibrary Message) (s : ProtobufReceiver Message) (chunk : List UInt8) :
    Option (ProtobufReceiver Message) :=
  match lib.onMessage true (s.buffer.append chunk) with
  | none => none
  | some (buffer, messages, r) => some ⟨buffer, s.messages ++ messages, s.returns ++ [r]⟩

/-- No call of `OnMessage` finds more in the buffer than an `int` counts. -/
def ChunkGuard (s : ProtobufReceiver Message) (chunk : List UInt8) : Prop :=
  (s.buffer.readable ++ chunk).length < 2147483648

instance (s : ProtobufReceiver Message) (chunk : List UInt8) : Decidable (s.ChunkGuard chunk) := by
  unfold ChunkGuard
  infer_instance

/-- All of the messages have come, out of all of the bytes. -/
structure Received (s : ProtobufReceiver Message) (messages : List Message) (total : Nat) :
    Prop where
  messages : s.messages = messages
  returns : ∃ counts : List Int, s.returns = counts.map .bytes ∧ counts.sum = total
  buffer : s.buffer.readable = []

end ProtobufReceiver

namespace ProtobufLibrary

variable {Message : Type} {lib : ProtobufLibrary Message}

/-- A message of a registered type, which is parsed to what was serialised, with the sizes the
frame has fields for. -/
structure Registered (lib : ProtobufLibrary Message) (message : Message) : Prop where
  typeShort : (lib.typeName message).length < 32768
  frameShort : 8 + (lib.typeName message).length + lib.byteSize message < 2147483648
  parsed : ∃ payload prototype, lib.serializeToArray message (lib.byteSize message) = some payload ∧
    payload.length = lib.byteSize message ∧
    lib.createMessage (lib.typeName message) = some prototype ∧
    ∀ rest, lib.parseFromArray prototype (payload ++ rest) (lib.byteSize message) = some message

/-- The bytes `SendMessage` sends for a message of a registered type. -/
def Sent (lib : ProtobufLibrary Message) (message : Message) (bytes : List UInt8) : Prop :=
  lib.Registered message ∧ (lib.sendMessage message true).1 = some bytes

/-- The fields of a frame. -/
def frameBytes (typeName payload : List UInt8) : List UInt8 :=
  LittleEndian.bytes 4 (8 + typeName.length + payload.length) ++
    (LittleEndian.bytes 4 typeName.length ++ (typeName ++ payload))

theorem length_frameBytes (typeName payload : List UInt8) :
    (frameBytes typeName payload).length = 8 + typeName.length + payload.length := by
  simp only [frameBytes, List.length_append, LittleEndian.length_bytes]
  omega

/-- `SendMessage` sends the fields of the frame. -/
theorem sendMessage_eq {message : Message} {payload : List UInt8}
    (htype : (lib.typeName message).length < 32768)
    (hframe : 8 + (lib.typeName message).length + lib.byteSize message < 2147483648)
    (hpayload : lib.serializeToArray message (lib.byteSize message) = some payload)
    (hlength : payload.length = lib.byteSize message) (accepted : Bool) :
    (lib.sendMessage message accepted).1 = some (frameBytes (lib.typeName message) payload) := by
  have htypeBytes : toInt32 (lib.typeName message).length = (lib.typeName message).length :=
    toInt32_of_lt (by omega)
  have hprotocol : toInt32 (lib.byteSize message + 4 + 4 + (lib.typeName message).length) =
      (8 + (lib.typeName message).length + payload.length : Nat) := by
    rw [← toInt32_of_lt (n := 8 + (lib.typeName message).length + payload.length) (by omega)]
    congr 1
    omega
  have hreserve : toSizeT ((8 + (lib.typeName message).length + payload.length : Nat) : Int) =
      8 + (lib.typeName message).length + payload.length := toSizeT_natCast (by omega)
  have hwritten : toSizeT (lib.byteSize message) = payload.length := by
    unfold toSizeT
    omega
  unfold sendMessage
  dsimp only
  rw [hpayload, htypeBytes, hprotocol, hreserve, hwritten, toUint32_of_lt (by omega),
    toUint32_of_lt (by omega)]
  have hroom := DynamicBuffer.le_writableBytes_reserve (.new 1024 256 DynamicBuffer.defaultExpandSize_pos)
    (8 + (lib.typeName message).length + payload.length)
  have hempty := DynamicBuffer.readable_reserveWritableBytes (.new 1024 256 DynamicBuffer.defaultExpandSize_pos)
    (8 + (lib.typeName message).length + payload.length)
  generalize (DynamicBuffer.new 1024 256 DynamicBuffer.defaultExpandSize_pos).reserveWritableBytes _ = buffer
    at hroom hempty ⊢
  have hfour (n : Nat) : (LittleEndian.bytes 4 n).length = 4 := LittleEndian.length_bytes 4 n
  have hroomLength := DynamicBuffer.writableBytes_append (b := buffer)
    (LittleEndian.bytes 4 (8 + (lib.typeName message).length + payload.length))
    (by rw [hfour]; omega)
  generalize hb₁ : buffer.append (LittleEndian.bytes 4 _) = b₁ at hroomLength ⊢
  have hroomType := DynamicBuffer.writableBytes_append (b := b₁)
    (LittleEndian.bytes 4 (lib.typeName message).length)
    (by rw [hroomLength, hfour, hfour]; omega)
  generalize hb₂ : b₁.append (LittleEndian.bytes 4 _) = b₂ at hroomType ⊢
  have hroomName := DynamicBuffer.writableBytes_append (b := b₂) (lib.typeName message)
    (by rw [hroomType, hroomLength, hfour, hfour]; omega)
  have hpayloadRoom : payload.length ≤ (b₂.append (lib.typeName message)).writableBytes := by
    rw [hroomName, hroomType, hroomLength, hfour, hfour]
    omega
  dsimp only
  rw [DynamicBuffer.readable_fill_writtenBytes _ (Nat.le_refl _) hpayloadRoom, List.take_length,
    DynamicBuffer.readable_append, ← hb₂, DynamicBuffer.readable_append, ← hb₁,
    DynamicBuffer.readable_append, hempty, DynamicBuffer.readable_new, List.nil_append]
  simp only [frameBytes, List.append_assoc]

/-- The frame of a message, with what is parsed out of it. -/
structure IsFrame (lib : ProtobufLibrary Message) (message : Message) (bytes : List UInt8) :
    Prop where
  fields : ∃ payload, bytes = frameBytes (lib.typeName message) payload ∧
    payload.length = lib.byteSize message ∧
    ∃ prototype, lib.createMessage (lib.typeName message) = some prototype ∧
      ∀ rest, lib.parseFromArray prototype (payload ++ rest) (lib.byteSize message) = some message
  typeShort : (lib.typeName message).length < 32768
  short : bytes.length < 2147483648
  long : 8 ≤ bytes.length

theorem Sent.isFrame {message : Message} {bytes : List UInt8} (h : lib.Sent message bytes) :
    lib.IsFrame message bytes := by
  obtain ⟨⟨htype, hframe, payload, prototype, hpayload, hlength, hcreate, hparse⟩, hsent⟩ := h
  rw [sendMessage_eq htype hframe hpayload hlength] at hsent
  cases hsent
  have hbytes := length_frameBytes (lib.typeName message) payload
  exact ⟨⟨payload, rfl, hlength, prototype, hcreate, hparse⟩, htype, by omega, by omega⟩

theorem IsFrame.length_field {message : Message} {bytes : List UInt8}
    (h : lib.IsFrame message bytes) (rest : List UInt8) :
    toInt32 (LittleEndian.value ((bytes ++ rest).take 4)) = bytes.length := by
  have hshort := h.short
  obtain ⟨payload, hbytes, -⟩ := h.fields
  have hlength := length_frameBytes (lib.typeName message) payload
  rw [← hbytes] at hlength
  obtain ⟨tail, hfront⟩ : ∃ tail, LittleEndian.bytes 4 bytes.length ++ tail = bytes :=
    ⟨_, by rw [hlength]; exact hbytes.symm⟩
  have htake : (bytes ++ rest).take 4 =
      (LittleEndian.bytes 4 bytes.length ++ (tail ++ rest)).take 4 := by
    rw [← List.append_assoc, hfront]
  rw [htake, LittleEndian.value_take_bytes (Nat.le_refl 4) (by omega), toInt32_of_lt hshort]

/-- The type and the message are read where they were written. -/
theorem IsFrame.type_fields {message : Message} {bytes : List UInt8}
    (h : lib.IsFrame message bytes) (rest : List UInt8) :
    8 + (lib.typeName message).length ≤ bytes.length ∧
      toInt16 (LittleEndian.value (((bytes ++ rest).drop 4).take 2)) =
        (lib.typeName message).length ∧
      ((bytes ++ rest).drop 8).take (lib.typeName message).length = lib.typeName message ∧
      ∃ prototype, lib.createMessage (lib.typeName message) = some prototype ∧
        lib.parseFromArray prototype ((bytes ++ rest).drop (8 + (lib.typeName message).length))
          (bytes.length - 4 - 4 - (lib.typeName message).length) = some message := by
  have htypeShort := h.typeShort
  obtain ⟨payload, hbytes, hpayload, prototype, hcreate, hparse⟩ := h.fields
  have hlength := length_frameBytes (lib.typeName message) payload
  rw [← hbytes] at hlength
  have hdata : bytes ++ rest = LittleEndian.bytes 4 bytes.length ++
      (LittleEndian.bytes 4 (lib.typeName message).length ++
        (lib.typeName message ++ (payload ++ rest))) := by
    rw [hlength, hbytes, frameBytes]
    simp only [List.append_assoc]
  have hheader : (LittleEndian.bytes 4 bytes.length ++
      LittleEndian.bytes 4 (lib.typeName message).length).length = 8 := by
    rw [List.length_append, LittleEndian.length_bytes, LittleEndian.length_bytes]
  rw [hdata]
  refine ⟨by omega, ?_, ?_, prototype, hcreate, ?_⟩
  · rw [List.drop_left' (LittleEndian.length_bytes 4 _),
      LittleEndian.value_take_bytes (by decide) (by omega), toInt16_of_lt htypeShort]
  · rw [← List.append_assoc, List.drop_left' hheader, List.take_left' rfl]
  · have hsize : (bytes.length : Int) - 4 - 4 - (lib.typeName message).length =
        lib.byteSize message := by omega
    rw [← List.drop_drop, ← List.append_assoc, List.drop_left' hheader, List.drop_left' rfl, hsize,
      hparse]

/-- A round takes the whole frame at the front of the buffer. -/
theorem round_frame {message : Message} {bytes rest : List UInt8} {buffer : DynamicBuffer}
    (h : lib.IsFrame message bytes) (hbuffer : buffer.readable = bytes ++ rest)
    (hsmall : buffer.readable.length < 2147483648) :
    lib.round buffer = some (.frame bytes.length (some message)) := by
  have hlong := h.long
  have hreadable : toInt32 buffer.readableBytes = (bytes.length + rest.length : Nat) := by
    rw [← DynamicBuffer.length_readable, toInt32_of_lt hsmall, hbuffer, List.length_append]
  obtain ⟨beyond, hbegin⟩ := buffer.readable_isPrefix
  rw [hbuffer, List.append_assoc] at hbegin
  have hmemory : buffer.readBegin.length = bytes.length + rest.length + beyond.length := by
    rw [← hbegin]
    simp only [List.length_append, Nat.add_assoc]
  have hfield := h.length_field (rest ++ beyond)
  obtain ⟨hroom, htype, hname, prototype, hcreate, hparse⟩ := h.type_fields (rest ++ beyond)
  rw [hbegin] at hfield htype hname hparse
  unfold round
  rw [hreadable]
  dsimp only
  rw [hfield, if_neg (by omega), if_neg (by omega), if_neg (by omega), if_neg (by omega), htype,
    if_neg (by omega), if_neg (by omega), Int.toNat_natCast, hname, hcreate]
  dsimp only
  rw [hparse]

/-- A round stops at a part of a frame. -/
theorem round_part {message : Message} {missing : List UInt8} {buffer : DynamicBuffer}
    (h : lib.IsFrame message (buffer.readable ++ missing)) (hmissing : missing ≠ []) :
    lib.round buffer = some .stop := by
  have hshort := h.short
  have hpos := List.length_pos_iff.mpr hmissing
  rw [List.length_append] at hshort
  have hreadable : toInt32 buffer.readableBytes = buffer.readable.length := by
    rw [← DynamicBuffer.length_readable, toInt32_of_lt (by omega)]
  unfold round
  rw [hreadable]
  dsimp only
  by_cases hheader : buffer.readable.length < 4
  · rw [if_pos (by omega)]
  · obtain ⟨beyond, hbegin⟩ := buffer.readable_isPrefix
    have hfield : toInt32 (LittleEndian.value (buffer.readBegin.take 4)) =
        (buffer.readable.length + missing.length : Nat) := by
      have hlength := h.length_field []
      rw [List.append_nil, List.take_append_of_le_length (by omega), List.length_append] at hlength
      rw [← hbegin, List.take_append_of_le_length (by omega), hlength]
    rw [if_neg (by omega), hfield, if_pos (by omega)]

theorem onMessageLoop_succ (messageCb : Bool) (fuel : Nat) (buffer : DynamicBuffer)
    (messages : List Message) (n : Int) :
    lib.onMessageLoop messageCb (fuel + 1) buffer messages n =
      match lib.round buffer with
      | none => none
      | some .stop => some (buffer, messages, .bytes n)
      | some (.leave r) => some (buffer, messages, r)
      | some (.frame protocolBytes message) =>
        lib.onMessageLoop messageCb fuel (buffer.readBytes (toSizeT protocolBytes))
          (messages ++ if messageCb then message.toList else []) (toInt32 (n + protocolBytes)) :=
  rfl

theorem round_empty {buffer : DynamicBuffer} (h : buffer.readable = []) :
    lib.round buffer = some .stop := by
  have hzero := DynamicBuffer.readableBytes_eq_zero.mpr h
  unfold round
  rw [hzero]
  rfl

/-- The loop takes off every frame that lies in the buffer whole. -/
theorem onMessageLoop_frames {messages : List Message} {buffer : DynamicBuffer}
    {future : List UInt8} (h : Frames lib.IsFrame messages (buffer.readable ++ future))
    (fuel n : Nat) (hfuel : buffer.readable.length < fuel)
    (hsmall : n + buffer.readable.length < 2147483648) (received : List Message) :
    ∃ done rest buffer', messages = done ++ rest ∧
      lib.onMessageLoop true fuel buffer received n = some (buffer', received ++ done,
        .bytes (n + buffer.readable.length - buffer'.readable.length)) ∧
      Frames lib.IsFrame rest (buffer'.readable ++ future) ∧ (future = [] → rest = []) := by
  induction messages generalizing buffer fuel n received with
  | nil =>
    obtain ⟨fuel, rfl⟩ : ∃ m, fuel = m + 1 := ⟨fuel - 1, by omega⟩
    have hempty : buffer.readable = [] := (List.append_eq_nil_iff.mp (frames_nil.mp h)).1
    refine ⟨[], [], buffer, rfl, ?_, h, fun _ => rfl⟩
    rw [onMessageLoop_succ, round_empty hempty, List.append_nil, Int.add_sub_cancel]
  | cons message messages ih =>
    obtain ⟨fuel, rfl⟩ : ∃ m, fuel = m + 1 := ⟨fuel - 1, by omega⟩
    rcases h.first with ⟨bytes, rest, hframe, hbuffer, hrest⟩ | ⟨missing, hframe, hmissing, hfuture⟩
    · have hshort := hframe.short
      have hlong := hframe.long
      have hlength : buffer.readable.length = bytes.length + rest.length := by
        rw [hbuffer, List.length_append]
      have hsize : toSizeT (bytes.length : Int) = bytes.length := toSizeT_natCast (by omega)
      have hcount : toInt32 ((n : Int) + bytes.length) = (n + bytes.length : Nat) :=
        toInt32_of_lt (n := n + bytes.length) (by omega)
      have hread : (buffer.readBytes bytes.length).readable = rest := by
        rw [DynamicBuffer.readable_readBytes, hbuffer, List.drop_left]
      rw [← hread] at hrest
      obtain ⟨done, messages', buffer', hmessages, hloop, hframes, hall⟩ :=
        ih hrest fuel (n + bytes.length) (by rw [hread]; omega)
          (by rw [hread]; omega) (received ++ [message])
      refine ⟨message :: done, messages', buffer', by rw [hmessages, List.cons_append], ?_,
        hframes, hall⟩
      rw [onMessageLoop_succ, round_frame hframe hbuffer (by omega)]
      dsimp only
      rw [if_pos rfl, Option.toList_some, hsize, hcount, hloop, hread, hlength, List.append_assoc,
        List.singleton_append]
      have hsum : ((n + bytes.length : Nat) : Int) + rest.length =
          n + (bytes.length + rest.length : Nat) := by omega
      rw [hsum]
    · refine ⟨[], message :: messages, buffer, rfl, ?_, h, ?_⟩
      · rw [onMessageLoop_succ, round_part hframe hmissing, List.append_nil, Int.add_sub_cancel]
      · rintro rfl
        exact absurd (List.prefix_nil.mp hfuture) hmissing

/-- A round that takes a frame finds its size among what an `int` counts. -/
theorem round_bounds {buffer : DynamicBuffer} {protocolBytes : Int} {message : Option Message}
    (h : lib.round buffer = some (.frame protocolBytes message)) :
    4 ≤ protocolBytes ∧ protocolBytes ≤ toInt32 buffer.readableBytes := by
  unfold round at h
  dsimp only at h
  split at h
  · cases h
  · split at h
    · cases h
    · rename_i hreadable
      split at h
      · cases h
      · rename_i hprotocol
        have hbounds : protocolBytes = toInt32 (LittleEndian.value (buffer.readBegin.take 4)) := by
          split at h
          · cases h
          · split at h
            · cases h
            · split at h
              · cases h
              · split at h
                · cases h
                · cases h; rfl
        omega

/-- A buffer that outgrows an `int` is never emptied below it again. -/
theorem onMessageLoop_large {fuel : Nat} {buffer buffer' : DynamicBuffer}
    {messages messages' : List Message} {n : Int} {r : OnMessageReturn}
    (h : lib.onMessageLoop true fuel buffer messages n = some (buffer', messages', r))
    (hlarge : 2147483648 ≤ buffer.readable.length) : 2147483648 ≤ buffer'.readable.length := by
  induction fuel generalizing buffer messages n with
  | zero => cases h
  | succ fuel ih =>
    rw [onMessageLoop_succ] at h
    split at h
    · cases h
    · cases h
      exact hlarge
    · cases h
      exact hlarge
    · rename_i protocolBytes message hround
      obtain ⟨hpositive, hreadable⟩ := round_bounds hround
      refine ih h ?_
      rw [← DynamicBuffer.length_readable] at hreadable
      rw [DynamicBuffer.readable_readBytes, List.length_drop]
      unfold toSizeT
      unfold toInt32 toUint32 at hreadable
      omega

end ProtobufLibrary

namespace ProtobufReceiver

open ProtobufLibrary

variable {Message : Type} {lib : ProtobufLibrary Message} {s s' : ProtobufReceiver Message}

/-- A call hands over the messages whose frames the chunk completes. -/
theorem step_frames {messages : List Message} {chunk future : List UInt8}
    (h : Frames lib.IsFrame messages (s.buffer.readable ++ (chunk ++ future)))
    (guarded : s.ChunkGuard chunk) :
    ∃ done rest s', ∃ count : Int, messages = done ++ rest ∧ step lib s chunk = some s' ∧
      s'.messages = s.messages ++ done ∧ s'.returns = s.returns ++ [.bytes count] ∧
      count = s.buffer.readable.length + chunk.length - s'.buffer.readable.length ∧
      Frames lib.IsFrame rest (s'.buffer.readable ++ future) ∧ (future = [] → rest = []) := by
  have happend := DynamicBuffer.readable_append s.buffer chunk
  rw [← List.append_assoc, ← happend] at h
  unfold ChunkGuard at guarded
  rw [← happend] at guarded
  obtain ⟨done, rest, buffer', hmessages, hloop, hframes, hall⟩ := onMessageLoop_frames h
    ((s.buffer.append chunk).readableBytes + 1) 0
    (by rw [DynamicBuffer.length_readable]; omega) (by omega) []
  refine ⟨done, rest, ⟨buffer', s.messages ++ done, s.returns ++
    [.bytes (0 + (s.buffer.append chunk).readable.length - buffer'.readable.length)]⟩, _,
    hmessages, ?_, rfl, rfl, ?_, hframes, hall⟩
  · unfold step onMessage
    rw [Int.natCast_zero] at hloop
    rw [hloop]
    rfl
  · show 0 + ((s.buffer.append chunk).readable.length : Int) - buffer'.readable.length = _
    rw [happend, List.length_append]
    dsimp only
    omega

/-- Over guarded chunks, everything that is complete has been handed over. -/
theorem run_frames {messages : List Message} {chunks : List (List UInt8)}
    (h : Frames lib.IsFrame messages (s.buffer.readable ++ chunks.flatten))
    (hidle : chunks = [] → messages = []) (guarded : Guarded (step lib) ChunkGuard chunks s) :
    ∃ s', ∃ counts : List Int, run (step lib) chunks s = some s' ∧ s'.messages = s.messages ++ messages ∧
      s'.returns = s.returns ++ counts.map OnMessageReturn.bytes ∧
      counts.sum = s.buffer.readable.length + (chunks.flatten.length : Int) ∧
      s'.buffer.readable = [] := by
  induction chunks generalizing s messages with
  | nil =>
    have hnone := hidle rfl
    subst hnone
    have hempty := frames_nil.mp h
    rw [List.flatten_nil, List.append_nil] at hempty
    exact ⟨s, [], rfl, (List.append_nil _).symm, (List.append_nil _).symm, by simp [hempty], hempty⟩
  | cons chunk chunks ih =>
    rw [List.flatten_cons] at h
    obtain ⟨done, rest, t, count, hmessages, hstep, hdone, hreturns, hcount, hframes, hall⟩ :=
      step_frames h guarded.1
    obtain ⟨s', counts, hrun, hrest, hreturns', hsum, hempty⟩ := ih hframes
      (fun hlast => hall (by rw [hlast]; rfl)) (guarded.2 t hstep)
    refine ⟨s', count :: counts, ?_, ?_, ?_, ?_, hempty⟩
    · rw [run, hstep]
      exact hrun
    · rw [hrest, hdone, hmessages, List.append_assoc]
    · rw [hreturns', hreturns, List.append_assoc]
      rfl
    · rw [List.sum_cons, hsum, hcount, List.flatten_cons, List.length_append]
      omega

/-- A run that ends within an `int` was within it at every call. -/
theorem guarded_of_run {chunks : List (List UInt8)} (h : run (step lib) chunks s = some s')
    (hsmall : s'.buffer.readable.length < 2147483648) :
    Guarded (step lib) ChunkGuard chunks s ∧ s.buffer.readable.length < 2147483648 := by
  induction chunks generalizing s with
  | nil =>
    cases h
    exact ⟨trivial, hsmall⟩
  | cons chunk chunks ih =>
    obtain ⟨t, hstep, hrun⟩ := Option.bind_eq_some_iff.mp h
    obtain ⟨hguarded, ht⟩ := ih hrun
    have hcall : s.ChunkGuard chunk := by
      by_contra hlarge
      unfold ChunkGuard at hlarge
      rw [← DynamicBuffer.readable_append] at hlarge
      unfold step onMessage at hstep
      split at hstep
      · cases hstep
      · rename_i buffer messages r hloop
        cases hstep
        have := onMessageLoop_large hloop (by omega)
        dsimp only at ht
        omega
    refine ⟨⟨hcall, fun t' ht' => ?_⟩, ?_⟩
    · cases hstep.symm.trans ht'
      exact hguarded
    · unfold ChunkGuard at hcall
      rw [List.length_append] at hcall
      omega

theorem frames_of_sent {messages : List Message} {bytes : List UInt8}
    (h : Frames lib.Sent messages bytes) : Frames lib.IsFrame messages bytes := by
  induction h with
  | nil => exact .nil
  | cons hsent _ ih => exact .cons hsent.isFrame ih

/-- A frame is not empty, so no message is sent without chunks. -/
theorem eq_nil_of_frames {messages : List Message} (h : Frames lib.IsFrame messages []) :
    messages = [] := by
  cases messages with
  | nil => rfl
  | cons message messages =>
    obtain ⟨bytes, rest, hframe, hnil, _⟩ := frames_cons.mp h
    have hlong := hframe.long
    rw [(List.append_eq_nil_iff.mp hnil.symm).1] at hlong
    cases hlong

/-- However the stream of the messages is cut into chunks, all of them come out of it, in order
and with nothing left over, exactly when no call finds `2 ^ 31` bytes or more in the buffer. -/
theorem protobuf_round_trip {messages : List Message} {chunks : List (List UInt8)}
    (sent : Frames lib.Sent messages chunks.flatten) (initSize expandSize : Nat)
    (h : 0 < expandSize) :
    (∃ s, run (step lib) chunks (new initSize expandSize h) = some s ∧
        s.Received messages chunks.flatten.length) ↔
      Guarded (step lib) ChunkGuard chunks (new initSize expandSize h) := by
  have hframes := frames_of_sent sent
  have hempty : (new initSize expandSize h : ProtobufReceiver Message).buffer.readable = [] :=
    DynamicBuffer.readable_new _ _ _
  constructor
  · rintro ⟨s, hrun, hreceived⟩
    refine (guarded_of_run hrun ?_).1
    rw [hreceived.buffer]
    exact Nat.zero_lt_succ _
  · intro guarded
    obtain ⟨s, counts, hrun, hmessages, hreturns, hsum, hbuffer⟩ := run_frames
      (by rwa [hempty, List.nil_append]) (by rintro rfl; exact eq_nil_of_frames hframes) guarded
    refine ⟨s, hrun, hmessages, ⟨counts, hreturns, ?_⟩, hbuffer⟩
    rw [hsum, hempty]
    exact Int.zero_add _

/-- A library with one type, named `[7]`, whose messages are their bytes. -/
def plainLibrary : ProtobufLibrary (List UInt8) where
  Descriptor := Unit
  typeName _ := [7]
  byteSize message := message.length
  serializeToArray message size := if size = message.length then some message else none
  findMessageTypeByName type := if type = [7] then some () else none
  getPrototype _ := some []
  new prototype := prototype
  parseFromArray _ memory size := some (memory.take size.toNat)

theorem plainLibrary_registered {message : List UInt8} (h : message.length < 2147483639) :
    plainLibrary.Registered message where
  typeShort := (by decide : 1 < 32768)
  frameShort := by
    show 8 + ((1 : Nat) : Int) + message.length < 2147483648
    omega
  parsed := by
    refine ⟨message, [], if_pos rfl, rfl, rfl, fun rest => ?_⟩
    show some ((message ++ rest).take ((message.length : Int)).toNat) = some message
    rw [Int.toNat_natCast, List.take_left]

theorem plainLibrary_sent {message : List UInt8} (h : message.length < 2147483639) :
    plainLibrary.Sent message (frameBytes [7] message) := by
  have registered := plainLibrary_registered h
  exact ⟨registered, sendMessage_eq registered.typeShort registered.frameShort (if_pos rfl) rfl _⟩

/-- Two messages in three chunks that end inside the first header and inside the second frame. -/
theorem protobuf_round_trip_split :
    ∃ s, run (step plainLibrary) [[10, 0], [0, 0, 1, 0, 0, 0, 7, 5, 9, 0, 0, 0, 1], [0, 0, 0, 7]]
        (new 16 8 (by decide)) = some s ∧ s.Received [[5], []] 19 := by
  have sent : Frames plainLibrary.Sent [[5], []]
      (frameBytes [7] [5] ++ (frameBytes [7] [] ++ [])) :=
    .cons (plainLibrary_sent (by decide)) (.cons (plainLibrary_sent (by decide)) .nil)
  exact (@protobuf_round_trip _ plainLibrary [[5], []]
    [[10, 0], [0, 0, 1, 0, 0, 0, 7, 5, 9, 0, 0, 0, 1], [0, 0, 0, 7]]
    sent 16 8 (by decide)).mpr (by decide +kernel)

/-- A stream of `2 ^ 31` bytes in one chunk stalls: its size is negative as an `int`. -/
theorem huge_chunk_stalls :
    ¬ ∀ (messages : List (List UInt8)) (chunks : List (List UInt8)),
      Frames plainLibrary.Sent messages chunks.flatten →
        ∃ s, run (step plainLibrary) chunks (new 1024 256 DynamicBuffer.defaultExpandSize_pos) = some s ∧
          s.Received messages chunks.flatten.length := by
  intro hall
  obtain ⟨message, hmessage⟩ : ∃ message : List UInt8, message.length = 1073741815 :=
    ⟨List.replicate 1073741815 0, List.length_replicate⟩
  have hsent : plainLibrary.Sent message (frameBytes [7] message) :=
    plainLibrary_sent (by omega)
  have hlength := length_frameBytes [7] message
  generalize frameBytes [7] message = bytes at hsent hlength
  have sent : Frames plainLibrary.Sent [message, message] (bytes ++ (bytes ++ [])) :=
    .cons hsent (.cons hsent .nil)
  obtain ⟨s, hrun, hreceived⟩ := hall [message, message] [bytes ++ (bytes ++ [])]
    (by rwa [List.flatten_singleton])
  have hguarded := (guarded_of_run hrun (by rw [hreceived.buffer]; exact Nat.zero_lt_succ _)).1.1
  unfold ChunkGuard at hguarded
  simp only [List.length_append, List.length_nil, hlength, hmessage, List.length_singleton]
    at hguarded
  omega

end ProtobufReceiver

end Mysya
