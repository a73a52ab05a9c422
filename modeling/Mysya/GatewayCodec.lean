import Mysya.Aes
import Mysya.DynamicBuffer
import Mysya.LittleEndian
import Mysya.MachineInts

/-!
# The gateway codec

`gateway::Codec`. A frame is a size that counts all but itself, a header of a
type and an account, and the enciphered payload. `SendMessage` builds it in one
buffer it keeps; a result of nothing is an access past that buffer's end.
`OnMessage` deciphers in place and takes everything off the buffer at its end.
-/

namespace Mysya

namespace DynamicBuffer

theorem writeIndex_le_overwrite (b : DynamicBuffer) (i : Nat) (d : List UInt8) :
    b.writeIndex ≤ (overwrite b.buffer (b.readIndex + i) d).length := by
  have := b.writeInside
  simp only [overwrite, List.length_append, List.length_take, List.length_drop]
  omega

/-- `d` copied to `ReadBegin() + i`. -/
def writeAt (b : DynamicBuffer) (i : Nat) (d : List UInt8) : DynamicBuffer :=
  { b with
    buffer := overwrite b.buffer (b.readIndex + i) d
    writeInside := writeIndex_le_overwrite b i d }

@[simp] theorem readableBytes_writeAt (b : DynamicBuffer) (i : Nat) (d : List UInt8) :
    (b.writeAt i d).readableBytes = b.readableBytes := rfl

end DynamicBuffer

/-- What `SendMessage` is given: an `int` and the bytes. -/
structure GatewayMessage where
  messageType : Int
  data : List UInt8
  isInt : -2147483648 ≤ messageType ∧ messageType < 2147483648
  deriving DecidableEq, Repr

/-- What the message callback is given. -/
structure GatewayDelivery where
  messageType : Int
  data : List UInt8
  size : Int
  deriving DecidableEq, Repr

def GatewayMessage.delivery (message : GatewayMessage) : GatewayDelivery where
  messageType := message.messageType
  data := message.data
  size := message.data.length

structure GatewayCodec where
  messageSendBuffer : List UInt8
  sized : messageSendBuffer.length = 65535
  deriving DecidableEq

namespace GatewayCodec

def kMaxMessageSize : Nat := 65535

/-- The size field and the packed `ProtocolHeader`. -/
def kProtocoMinSize : Nat := 14

def kAesKey : List UInt8 := [2, 3, 4, 5, 2, 4, 1, 8, 5, 98, 5, 3, 64, 3, 2, 0]

def roundKeys : Nat → Aes.State := Aes.keyExpansion kAesKey

theorem sized_overwrite (codec : GatewayCodec) (i : Nat) (d : List UInt8) :
    (overwrite codec.messageSendBuffer i d).length = 65535 := by
  have := codec.sized
  simp only [overwrite, List.length_append, List.length_take, List.length_drop]
  omega

/-- `d` copied to `message_send_buffer_ + i`. -/
def write (codec : GatewayCodec) (i : Nat) (d : List UInt8) : GatewayCodec where
  messageSendBuffer := overwrite codec.messageSendBuffer i d
  sized := sized_overwrite codec i d

/-- The send buffer with the fields and the payload of a message in it. -/
def prepare (codec : GatewayCodec) (message : GatewayMessage) : GatewayCodec :=
  let codec := codec.write 0 (LittleEndian.bytes 2 (message.data.length + 12))
  let codec := codec.write 2 (LittleEndian.bytes 4 (toUint32 message.messageType))
  let codec := codec.write 6 (LittleEndian.bytes 8 0)
  codec.write kProtocoMinSize message.data

/-- `SendMessage`: the bytes handed to the socket application, or none where it answers -1. -/
def sendMessage (codec : GatewayCodec) (message : GatewayMessage) :
    Option (GatewayCodec × Option (List UInt8)) :=
  if kMaxMessageSize - kProtocoMinSize < message.data.length then some (codec, none)
  else
    let codec := codec.prepare message
    let size := message.data.length
    (Aes.encode roundKeys (codec.messageSendBuffer.drop kProtocoMinSize) size).map fun memory =>
      let codec := codec.write kProtocoMinSize memory
      (codec, some (codec.messageSendBuffer.take (size + kProtocoMinSize)))

/-- The size field at `ReadBegin() + offset`. -/
def messageSizeAt (buffer : DynamicBuffer) (offset : Nat) : Nat :=
  LittleEndian.value ((buffer.readBegin.drop offset).take 2)

/-- The callback's arguments for a message at `ReadBegin() + offset`, deciphered. -/
def deliveryAt (buffer : DynamicBuffer) (offset : Nat) : GatewayDelivery :=
  let protocolPtr := buffer.readBegin.drop offset
  let dataSize : Int := messageSizeAt buffer offset - 12
  { messageType := toInt32 (LittleEndian.value ((protocolPtr.drop 2).take 4))
    data := Aes.decode roundKeys ((protocolPtr.drop kProtocoMinSize).take dataSize.toNat) dataSize
    size := dataSize }

/-- The loop of `OnMessage`; nothing where it reads before the buffer. -/
def onMessageLoop (messageCb : Bool) :
    Nat → DynamicBuffer → List GatewayDelivery → Int →
      Option (DynamicBuffer × List GatewayDelivery × Int)
  | 0, _, _, _ => none
  | fuel + 1, buffer, delivered, readMessageBytes =>
    let readableBytes := toInt32 (buffer.readableBytes - readMessageBytes)
    if readableBytes ≤ 0 ∨ readableBytes < kProtocoMinSize then
      some (buffer, delivered, readMessageBytes)
    else if readMessageBytes < 0 then none
    else
      let offset := readMessageBytes.toNat
      let messageSize := messageSizeAt buffer offset
      if readableBytes < messageSize + 2 then some (buffer, delivered, readMessageBytes)
      else
        let delivery := deliveryAt buffer offset
        onMessageLoop messageCb fuel
          (buffer.writeAt (offset + kProtocoMinSize) delivery.data)
          (delivered ++ if messageCb then [delivery] else [])
          (toInt32 (readMessageBytes + (messageSize + 2 + 12)))

/-- Each round but the last moves on by a message, so there are enough of them. -/
def onMessage (messageCb : Bool) (buffer : DynamicBuffer) :
    Option (DynamicBuffer × List GatewayDelivery × Int) :=
  (onMessageLoop messageCb (buffer.readableBytes + 2) buffer [] 0).map
    fun (buffer, delivered, readMessageBytes) =>
      (buffer.readBytes (toSizeT readMessageBytes), delivered, readMessageBytes)

end GatewayCodec

/-- A receive buffer with the callbacks made from it. -/
structure GatewayReceiver where
  buffer : DynamicBuffer
  delivered : List GatewayDelivery

namespace GatewayReceiver

/-- A chunk is appended and `OnMessage` called. -/
def step (s : GatewayReceiver) (chunk : List UInt8) : Option GatewayReceiver :=
  (GatewayCodec.onMessage true (s.buffer.append chunk)).map fun (buffer, delivered, _) =>
    ⟨buffer, s.delivered ++ delivered⟩

end GatewayReceiver

/-! ## What is sent -/

theorem drop_overwrite {α : Type*} {l : List α} {i k : Nat} (d : List α)
    (hi : i + d.length ≤ k) (hk : k ≤ l.length) : (overwrite l i d).drop k = l.drop k := by
  have hfront : (l.take i ++ d.take (l.length - i)).length = i + d.length := by
    rw [List.length_append, List.length_take, List.length_take]
    omega
  rw [overwrite, List.drop_append, List.drop_of_length_le (by rw [hfront]; exact hi), hfront,
    List.nil_append, List.drop_drop]
  congr 1
  omega

namespace GatewayCodec

def header (message : GatewayMessage) : List UInt8 :=
  LittleEndian.bytes 2 (message.data.length + 12) ++
    (LittleEndian.bytes 4 (toUint32 message.messageType) ++ LittleEndian.bytes 8 0)

def cipher (message : GatewayMessage) : List UInt8 :=
  Aes.transform (Aes.encodeBlock roundKeys) message.data.length message.data

/-- The bytes of a message. -/
def frameBytes (message : GatewayMessage) : List UInt8 := header message ++ cipher message

theorem length_header (message : GatewayMessage) : (header message).length = 14 := by
  simp [header]

theorem length_cipher (message : GatewayMessage) :
    (cipher message).length = message.data.length :=
  Aes.length_transform (Aes.length_encodeBlock roundKeys) _ _ le_rfl

theorem length_frameBytes (message : GatewayMessage) :
    (frameBytes message).length = message.data.length + 14 := by
  rw [frameBytes, List.length_append, length_header, length_cipher, Nat.add_comm]

theorem prepare_take (codec : GatewayCodec) {message : GatewayMessage}
    (h : message.data.length ≤ 65521) :
    (codec.prepare message).messageSendBuffer.take (14 + message.data.length) =
      header message ++ message.data := by
  have hsized : ∀ c : GatewayCodec, c.messageSendBuffer.length = 65535 := fun c => c.sized
  have hstep : ∀ (c : GatewayCodec) (i : Nat) (d : List UInt8), i + d.length ≤ 65535 →
      (c.write i d).messageSendBuffer.take (i + d.length) = c.messageSendBuffer.take i ++ d := by
    intro c i d hroom
    have htake := take_overwrite (l := c.messageSendBuffer) (i := i)
      (by rw [hsized]; omega) d le_rfl (by rw [hsized]; exact hroom)
    rwa [List.take_length] at htake
  have h₁ := hstep codec 0 (LittleEndian.bytes 2 (message.data.length + 12)) (by simp)
  have h₂ := hstep (codec.write 0 (LittleEndian.bytes 2 (message.data.length + 12))) 2
    (LittleEndian.bytes 4 (toUint32 message.messageType)) (by simp)
  have h₃ := hstep ((codec.write 0 (LittleEndian.bytes 2 (message.data.length + 12))).write 2
    (LittleEndian.bytes 4 (toUint32 message.messageType))) 6 (LittleEndian.bytes 8 0) (by simp)
  have h₄ := hstep (((codec.write 0 (LittleEndian.bytes 2 (message.data.length + 12))).write 2
    (LittleEndian.bytes 4 (toUint32 message.messageType))).write 6 (LittleEndian.bytes 8 0)) 14
    message.data (by omega)
  simp only [LittleEndian.length_bytes, Nat.zero_add, List.take_zero, List.nil_append,
    Nat.reduceAdd] at h₁ h₂ h₃
  rw [prepare]
  simp only [kProtocoMinSize]
  rw [h₄, h₃, h₂, h₁, header]
  simp only [List.append_assoc]

theorem prepare_drop (codec : GatewayCodec) {message : GatewayMessage}
    (h : message.data.length ≤ 65521) :
    (codec.prepare message).messageSendBuffer.drop (14 + message.data.length) =
      codec.messageSendBuffer.drop (14 + message.data.length) := by
  have hstep : ∀ (c : GatewayCodec) (i : Nat) (d : List UInt8),
      i + d.length ≤ 14 + message.data.length →
      (c.write i d).messageSendBuffer.drop (14 + message.data.length) =
        c.messageSendBuffer.drop (14 + message.data.length) := by
    intro c i d hroom
    exact drop_overwrite d hroom (by rw [c.sized]; omega)
  simp only [prepare]
  rw [hstep _ _ _ (by simp [kProtocoMinSize]),
    hstep _ _ _ (by rw [LittleEndian.length_bytes]; omega),
    hstep _ _ _ (by rw [LittleEndian.length_bytes]; omega),
    hstep _ _ _ (by rw [LittleEndian.length_bytes]; omega)]

/-- The memory `Encode` gets: the payload, then what the buffer held there. -/
theorem prepare_memory (codec : GatewayCodec) {message : GatewayMessage}
    (h : message.data.length ≤ 65521) :
    (codec.prepare message).messageSendBuffer.drop 14 =
      message.data ++ codec.messageSendBuffer.drop (14 + message.data.length) := by
  have htake := prepare_take codec h
  have hdrop := prepare_drop codec h
  have hall : (codec.prepare message).messageSendBuffer = header message ++ (message.data ++
      codec.messageSendBuffer.drop (14 + message.data.length)) := by
    rw [← List.append_assoc, ← htake, ← hdrop, List.take_append_drop]
  rw [hall, List.drop_left' (length_header message)]

theorem write_memory (codec : GatewayCodec) {message : GatewayMessage}
    (h : message.data.length ≤ 65521) (enciphered : List UInt8)
    (hlength : message.data.length ≤ enciphered.length) :
    ((codec.prepare message).write 14 enciphered).messageSendBuffer.take
        (message.data.length + 14) =
      header message ++ enciphered.take message.data.length := by
  have hhead : (codec.prepare message).messageSendBuffer.take 14 = header message := by
    have htake := congrArg (List.take 14) (prepare_take codec h)
    rwa [List.take_take, Nat.min_eq_left (by omega), List.take_left' (length_header message)]
      at htake
  have hsized := (codec.prepare message).sized
  rw [← hhead, Nat.add_comm]
  exact take_overwrite (by omega) enciphered hlength (by omega)

/-- An empty payload is sent only while the payload area holds a zero byte. -/
def SendGuard (codec : GatewayCodec) (message : GatewayMessage) : Prop :=
  message.data = [] → 0 ∈ codec.messageSendBuffer.drop 14

theorem encode_prepared (codec : GatewayCodec) {message : GatewayMessage}
    (h : message.data.length ≤ 65521) (guard : codec.SendGuard message) :
    ∃ memory, Aes.encode roundKeys ((codec.prepare message).messageSendBuffer.drop 14)
        message.data.length = some memory ∧ message.data.length ≤ memory.length ∧
      memory.take message.data.length = cipher message := by
  rw [prepare_memory codec h, Aes.encode]
  by_cases hempty : message.data = []
  · have hcipher : cipher message = [] := by
      rw [← List.length_eq_zero_iff, length_cipher, hempty, List.length_nil]
    have hzero : 0 ∈ message.data ++
        codec.messageSendBuffer.drop (14 + message.data.length) := by
      simpa [hempty] using guard hempty
    rw [Aes.scan, if_pos hzero, hcipher, if_pos (by simp [hempty])]
    exact ⟨_, rfl, by simp [hempty], by simp [hempty]⟩
  · have hlength : message.data.length ≠ 0 := by
      rw [ne_eq, List.length_eq_zero_iff]
      exact hempty
    rw [if_neg hlength, Option.map_some]
    refine ⟨_, rfl, ?_, ?_⟩
    · rw [Aes.length_transform (Aes.length_encodeBlock roundKeys) _ _
        (by rw [List.length_append]; omega), List.length_append]
      omega
    · rw [Aes.transform_append]
      exact List.take_left' (length_cipher message)

theorem sendMessage_some (codec : GatewayCodec) {message : GatewayMessage}
    (h : message.data.length ≤ 65521) (guard : codec.SendGuard message) :
    ∃ codec', codec.sendMessage message = some (codec', some (frameBytes message)) := by
  have hroom : ¬ kMaxMessageSize - kProtocoMinSize < message.data.length := by
    simp only [kMaxMessageSize, kProtocoMinSize]
    omega
  obtain ⟨memory, hencode, hlength, htake⟩ := encode_prepared codec h guard
  refine ⟨(codec.prepare message).write 14 memory, ?_⟩
  rw [sendMessage, if_neg hroom]
  simp only [kProtocoMinSize, hencode, Option.map_some]
  rw [write_memory codec h memory hlength, htake]
  rfl

theorem sendMessage_none (codec : GatewayCodec) {message : GatewayMessage}
    (h : ¬ codec.SendGuard message) : codec.sendMessage message = none := by
  rw [SendGuard, Classical.not_imp] at h
  obtain ⟨hempty, hzero⟩ := h
  have hmemory : (codec.prepare message).messageSendBuffer.drop 14 =
      message.data ++ codec.messageSendBuffer.drop (14 + message.data.length) :=
    prepare_memory codec (by simp [hempty])
  rw [hempty, List.length_nil, List.nil_append, Nat.add_zero] at hmemory
  rw [sendMessage, if_neg (by simp [hempty])]
  simp only [kProtocoMinSize, hmemory, Aes.encode, hempty, List.length_nil, if_true]
  rw [Aes.scan, if_neg hzero]
  rfl

/-! ## What is received -/

theorem header_fields {message : GatewayMessage} (h : message.data.length ≤ 65521)
    (rest : List UInt8) :
    LittleEndian.value ((frameBytes message ++ rest).take 2) = message.data.length + 12 ∧
      toInt32 (LittleEndian.value (((frameBytes message ++ rest).drop 2).take 4)) =
        message.messageType ∧
      ((frameBytes message ++ rest).drop 14).take message.data.length = cipher message := by
  refine ⟨?_, ?_, ?_⟩
  · rw [frameBytes, header, List.append_assoc, List.append_assoc]
    exact LittleEndian.value_take_bytes le_rfl (by omega) _
  · have hint := message.isInt
    have hlt : toUint32 message.messageType < 256 ^ 4 := by
      simp only [toUint32]
      omega
    rw [frameBytes, header, List.append_assoc, List.append_assoc,
      List.drop_left' (LittleEndian.length_bytes 2 _), List.append_assoc,
      LittleEndian.value_take_bytes le_rfl hlt]
    exact toInt32_toUint32 hint
  · rw [frameBytes, List.append_assoc, List.drop_left' (length_header message),
      List.take_left' (length_cipher message)]

theorem decode_cipher (message : GatewayMessage) :
    Aes.decode roundKeys (cipher message) message.data.length = message.data := by
  rw [Aes.decode, Int.toNat_natCast]
  exact Aes.transform_inverse roundKeys message.data

end GatewayCodec

end Mysya
