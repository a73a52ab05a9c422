import Mysya.GatewayStream

/-!
# What a gateway message's payload is enciphered with

The loop of `Encode` over blocks stops sixteen bytes before the end, so of a
payload of whole blocks the last one is sent as it is. And for no bytes
`Encode` takes those up to a zero, which are then not the payload's at all.
-/

namespace Mysya

namespace Aes

/-- The sixteen bytes of block `j`. -/
def block (mem : List UInt8) (j : Nat) : List UInt8 := (mem.drop (16 * j)).take 16

theorem block_succ (mem : List UInt8) (j : Nat) : block mem (j + 1) = block (mem.drop 16) j := by
  rw [block, block, List.drop_drop]
  congr 2
  omega

theorem block_append {mem : List UInt8} {j : Nat} (h : 16 * j + 16 ≤ mem.length)
    (rest : List UInt8) : block (mem ++ rest) j = block mem j := by
  rw [block, block, List.drop_append_of_le_length (by omega),
    List.take_append_of_le_length (by rw [List.length_drop]; omega)]

section Coverage

variable {f : List UInt8 → List UInt8} (hf : ∀ b, (f b).length = 16)
include hf

/-- The loop reaches every block that does not end the stretch. -/
theorem block_mapBlocks (length : Nat) (mem : List UInt8) (j : Nat)
    (hj : 16 * j + 16 < length) : block (mapBlocks f length mem) j = f (block mem j) := by
  induction j generalizing length mem with
  | zero =>
    rw [mapBlocks_of_lt f (by omega), block, Nat.mul_zero, List.drop_zero,
      List.take_left' (hf _), block, Nat.mul_zero, List.drop_zero]
  | succ j ih =>
    rw [mapBlocks_of_lt f (by omega), block_succ, List.drop_left' (hf _), block_succ]
    exact ih (length - 16) (mem.drop 16) (by omega)

/-- What it has not reached is as it was. -/
theorem drop_mapBlocks (length : Nat) (mem : List UInt8) (j : Nat) (hj : 16 * j < length)
    (hlast : length ≤ 16 * j + 16) :
    (mapBlocks f length mem).drop (16 * j) = mem.drop (16 * j) := by
  induction j generalizing length mem with
  | zero => rw [mapBlocks_of_le f (by omega)]
  | succ j ih =>
    have hsplit : 16 * (j + 1) = 16 + 16 * j := by omega
    have hfirst := ih (length - 16) (mem.drop 16) (by omega) (by omega)
    rw [mapBlocks_of_lt f (by omega), hsplit, ← List.drop_drop, List.drop_left' (hf _), hfirst,
      List.drop_drop]

theorem block_transform (length : Nat) (mem : List UInt8) (j : Nat)
    (hj : 16 * j + 16 < length) : block (transform f length mem) j = f (block mem j) := by
  rw [transform, if_neg (by omega)]
  exact block_mapBlocks hf length mem j hj

theorem block_transform_last (mem : List UInt8) (j : Nat) (hj : 1 ≤ j) :
    block (transform f (16 * j + 16) mem) j = block mem j := by
  rw [transform, if_neg (by omega), block,
    drop_mapBlocks hf (16 * j + 16) mem j (by omega) le_rfl, block]

end Coverage

theorem length_decodeBlock (w : Nat → State) (b : List UInt8) : (decodeBlock w b).length = 16 :=
  State.sized _

/-- `Encode` and `Decode` of `n` bytes apply the cipher to each of their complete blocks. -/
def CoversBlocks (w : Nat → State) (n : Nat) : Prop :=
  ∀ payload rest : List UInt8, payload.length = n → ∀ j < n / 16,
    (∃ out, encode w (payload ++ rest) n = some out ∧
      block out j = encodeBlock w (block payload j)) ∧
    block (decode w (payload ++ rest) n) j = decodeBlock w (block payload j)

theorem coversBlocks_of_partial (w : Nat → State) {n : Nat} (hn : 16 < n) (h : n % 16 ≠ 0) :
    CoversBlocks w n := by
  intro payload rest hlength j hj
  have hinside : 16 * j + 16 < n := by omega
  have hblock : block (payload ++ rest) j = block payload j := block_append (by omega) rest
  constructor
  · refine ⟨transform (encodeBlock w) n (payload ++ rest), ?_, ?_⟩
    · rw [encode, if_neg (by omega), Option.map_some]
    · rw [block_transform (length_encodeBlock w) n _ j hinside, hblock]
  · rw [decode, Int.toNat_natCast, block_transform (length_decodeBlock w) n _ j hinside, hblock]

/-- Of a stretch of whole blocks the last comes out as it went in. -/
theorem encode_last_clear (w : Nat → State) {n : Nat} (hn : 16 < n) (h : n % 16 = 0)
    {payload out : List UInt8} (hencode : encode w payload n = some out) :
    block out (n / 16 - 1) = block payload (n / 16 - 1) := by
  have hwhole : n = 16 * (n / 16 - 1) + 16 := by omega
  rw [encode, if_neg (by omega), Option.map_some, Option.some.injEq] at hencode
  rw [← hencode]
  have hlast := block_transform_last (length_encodeBlock w) payload (n / 16 - 1) (by omega)
  rwa [← hwhole] at hlast

end Aes

namespace GatewayCodec

theorem encodeBlock_zeros :
    Aes.encodeBlock roundKeys (List.replicate 16 0) ≠ List.replicate 16 0 := by
  decide +kernel

theorem block_zeros {n j : Nat} (h : 16 * j + 16 ≤ n) :
    Aes.block (List.replicate n 0) j = List.replicate 16 0 := by
  rw [Aes.block, List.drop_replicate, List.take_replicate, Nat.min_eq_left (by omega)]

/-- Every complete block of the payload of a message of `n` bytes is enciphered on the wire. -/
def WireCovered (n : Nat) : Prop :=
  ∀ (codec : GatewayCodec) (message : GatewayMessage), message.data.length = n →
    ∃ codec' wire, codec.sendMessage message = some (codec', some wire) ∧
      ∀ j < n / 16, Aes.block (wire.drop 14) j =
        Aes.encodeBlock roundKeys (Aes.block message.data j)

theorem wireCovered_of_partial {n : Nat} (hn : 16 < n) (hroom : n ≤ 65521) (h : n % 16 ≠ 0) :
    WireCovered n := by
  intro codec message hlength
  have hguard : codec.SendGuard message := by
    intro hempty
    rw [hempty, List.length_nil] at hlength
    omega
  obtain ⟨codec', hsend⟩ := sendMessage_some codec (by omega) hguard
  refine ⟨codec', frameBytes message, hsend, ?_⟩
  intro j hj
  rw [frameBytes, List.drop_left' (length_header message), cipher, hlength]
  exact Aes.block_transform (Aes.length_encodeBlock roundKeys) n _ j (by omega)

/-- The wire of a message whose payload is whole blocks ends with the last of them in clear. -/
theorem wire_last_clear (codec : GatewayCodec) {message : GatewayMessage}
    (hlong : 16 < message.data.length) (hroom : message.data.length ≤ 65521)
    (h : message.data.length % 16 = 0) {codec' : GatewayCodec} {wire : List UInt8}
    (hsend : codec.sendMessage message = some (codec', some wire)) :
    Aes.block (wire.drop 14) (message.data.length / 16 - 1) =
      Aes.block message.data (message.data.length / 16 - 1) := by
  have hguard : codec.SendGuard message := by
    intro hempty
    rw [hempty, List.length_nil] at hlong
    omega
  obtain ⟨last, hframe⟩ := sendMessage_some codec hroom hguard
  rw [hsend, Option.some.injEq, Prod.mk.injEq, Option.some.injEq] at hframe
  rw [hframe.2, frameBytes, List.drop_left' (length_header message)]
  apply Aes.encode_last_clear roundKeys hlong h
  rw [Aes.encode, if_neg (by omega), Option.map_some, cipher]

theorem not_coversBlocks {n : Nat} (hn : 16 < n) (h : n % 16 = 0) :
    ¬ Aes.CoversBlocks roundKeys n := by
  intro hcovers
  obtain ⟨⟨out, hencode, hblock⟩, _⟩ :=
    hcovers (List.replicate n 0) [] List.length_replicate (n / 16 - 1) (by omega)
  rw [List.append_nil] at hencode
  rw [Aes.encode_last_clear roundKeys hn h hencode, block_zeros (by omega)] at hblock
  exact encodeBlock_zeros hblock.symm

def zeroMessage (n : Nat) : GatewayMessage := ⟨0, List.replicate n 0, by decide⟩

theorem not_wireCovered {n : Nat} (hn : 16 < n) (hroom : n ≤ 65521) (h : n % 16 = 0) :
    ¬ WireCovered n := by
  intro hcovered
  have hlength : (zeroMessage n).data.length = n := List.length_replicate
  obtain ⟨codec', wire, hsend, hblocks⟩ := hcovered clearCodec (zeroMessage n) hlength
  have hblock := hblocks (n / 16 - 1) (by omega)
  have hclear := wire_last_clear clearCodec (by omega) (by omega) (by omega) hsend
  rw [hlength, hblock] at hclear
  have hzeros : Aes.block (zeroMessage n).data (n / 16 - 1) = List.replicate 16 0 :=
    block_zeros (by omega)
  rw [hzeros] at hclear
  exact encodeBlock_zeros hclear

/-- Every complete block of `n` bytes is enciphered, under the gateway's key as under any,
exactly where `n` is not a multiple of the block size. -/
theorem blocks_enciphered_iff (n : Nat) (hn : 16 < n) :
    ((∀ key, Aes.CoversBlocks (Aes.keyExpansion key) n) ↔ n % 16 ≠ 0) ∧
      (Aes.CoversBlocks roundKeys n ↔ n % 16 ≠ 0) ∧
      (n ≤ kMaxMessageSize - kProtocoMinSize → (WireCovered n ↔ n % 16 ≠ 0)) := by
  refine ⟨⟨?_, ?_⟩, ⟨?_, ?_⟩, ?_⟩
  · intro hcovers hwhole
    exact not_coversBlocks hn hwhole (hcovers kAesKey)
  · intro hpart key
    exact Aes.coversBlocks_of_partial _ hn hpart
  · intro hcovers hwhole
    exact not_coversBlocks hn hwhole hcovers
  · exact Aes.coversBlocks_of_partial roundKeys hn
  · intro hroom
    simp only [kMaxMessageSize, kProtocoMinSize] at hroom
    constructor
    · intro hcovered hwhole
      exact not_wireCovered hn (by omega) hwhole hcovered
    · exact wireCovered_of_partial hn (by omega)

/-- Thirty-three bytes, of which two blocks are enciphered. -/
theorem blocks_enciphered_thirty_three :
    Aes.CoversBlocks roundKeys 33 ∧ WireCovered 33 :=
  have h := blocks_enciphered_iff 33 (by decide)
  ⟨h.2.1.mpr (by decide), (h.2.2 (by decide)).mpr (by decide)⟩

/-- Of thirty-two bytes the second block stays in clear, and is sent so. -/
theorem second_block_clear :
    ¬ (∀ n, 16 < n → Aes.CoversBlocks roundKeys n) ∧
      (Aes.encode roundKeys (List.replicate 32 0) 32).map (fun out => Aes.block out 1) =
        some (List.replicate 16 0) ∧
      ∃ codec' wire, clearCodec.sendMessage (zeroMessage 32) = some (codec', some wire) ∧
        Aes.block (wire.drop 14) 1 = List.replicate 16 0 := by
  refine ⟨?_, by decide +kernel, ?_⟩
  · intro hcovers
    exact not_coversBlocks (by decide) (by decide) (hcovers 32 (by decide))
  · have hguard : clearCodec.SendGuard (zeroMessage 32) := fun hempty => absurd hempty (by decide)
    obtain ⟨codec', hsend⟩ := sendMessage_some clearCodec (by decide) hguard
    refine ⟨codec', frameBytes (zeroMessage 32), hsend, ?_⟩
    exact wire_last_clear clearCodec (by decide) (by decide) (by decide) hsend

/-! ## What lies beside the payload -/

/-- After every history of sends, `Encode` of the message's payload changes that alone, to
something the payload alone decides. -/
def TouchesPayloadOnly (message : GatewayMessage) : Prop :=
  ∃ enciphered : List UInt8, enciphered.length = message.data.length ∧
    ∀ (start codec : GatewayCodec) (earlier : List GatewayMessage),
      GuardedRuns.run sendStep earlier start = some codec →
      Aes.encode roundKeys ((codec.prepare message).messageSendBuffer.drop kProtocoMinSize)
          message.data.length =
        some (enciphered ++ codec.messageSendBuffer.drop (kProtocoMinSize + message.data.length))

theorem touchesPayloadOnly_of_ne_nil {message : GatewayMessage} (accepted : Accepted message)
    (h : message.data ≠ []) : TouchesPayloadOnly message := by
  have hroom : message.data.length ≤ 65521 := accepted
  refine ⟨cipher message, length_cipher message, ?_⟩
  intro start codec earlier _
  have hlength : message.data.length ≠ 0 := by
    rw [ne_eq, List.length_eq_zero_iff]
    exact h
  simp only [kProtocoMinSize]
  rw [prepare_memory codec hroom, Aes.encode, if_neg hlength, Option.map_some,
    Aes.transform_append, cipher]

/-- For no bytes the zero that `Encode` stops behind is enciphered too. -/
theorem encode_nil_ne (rest : List UInt8) :
    Aes.encode roundKeys (0 :: rest) 0 ≠ some (0 :: rest) := by
  intro h
  have hscan : Aes.scan (0 :: rest) = some 1 := by
    rw [Aes.scan, if_pos List.mem_cons_self, List.idxOf_cons_self]
  have hout : Aes.encode roundKeys (0 :: rest) 0 = some (6 :: rest) := by
    rw [Aes.encode, if_pos rfl, hscan]
    rfl
  rw [hout, Option.some.injEq, List.cons.injEq] at h
  exact absurd h.1 (by decide)

theorem not_touchesPayloadOnly {message : GatewayMessage} (h : message.data = []) :
    ¬ TouchesPayloadOnly message := by
  rintro ⟨enciphered, hlength, honly⟩
  rw [h, List.length_nil, List.length_eq_zero_iff] at hlength
  subst hlength
  have hencode := honly clearCodec clearCodec [] rfl
  simp only [kProtocoMinSize] at hencode
  rw [prepare_memory clearCodec (by simp [h]), h, List.length_nil, List.nil_append]
    at hencode
  have hzero : clearCodec.messageSendBuffer.drop (14 + 0) = 0 :: List.replicate 65520 0 := by
    rw [clearCodec, List.drop_replicate]
    rfl
  rw [hzero] at hencode
  exact encode_nil_ne _ hencode

/-- Whatever was sent before, `Encode` stays on the payload exactly where there is one. -/
theorem touches_payload_only_iff (message : GatewayMessage) (accepted : Accepted message) :
    TouchesPayloadOnly message ↔ message.data ≠ [] := by
  constructor
  · intro honly hempty
    exact not_touchesPayloadOnly hempty honly
  · exact touchesPayloadOnly_of_ne_nil accepted

theorem first_message_touches_payload : TouchesPayloadOnly firstMessage :=
  (touches_payload_only_iff firstMessage (by decide)).mpr (by decide)

theorem first_accepted : firstMessage.data.length ≤ 65521 := by
  decide

theorem empty_accepted : (zeroMessage 0).data.length ≤ 65521 := by
  decide

theorem drop_write (codec : GatewayCodec) {memory : List UInt8} (h : memory.length = 65521) :
    (codec.write 14 memory).messageSendBuffer.drop 14 = memory := by
  have hsized := codec.sized
  have hwrite : (codec.write 14 memory).messageSendBuffer =
      codec.messageSendBuffer.take 14 ++ memory.take (codec.messageSendBuffer.length - 14) ++
        codec.messageSendBuffer.drop (14 + memory.length) := rfl
  rw [hwrite, List.append_assoc, List.drop_left' (by rw [List.length_take]; omega),
    List.take_of_length_le (by omega), List.drop_of_length_le (by omega), List.append_nil]

/-- The payload area behind a message of one byte, where it ended with `rest`. -/
theorem sendStep_firstMessage {codec : GatewayCodec} {rest : List UInt8}
    (hrest : codec.messageSendBuffer.drop 15 = rest) : ∃ codec', sendStep codec firstMessage =
      some codec' ∧ codec'.messageSendBuffer.drop 14 = 7 :: rest := by
  have hencode : Aes.encode roundKeys
      ((codec.prepare firstMessage).messageSendBuffer.drop 14) firstMessage.data.length =
        some (7 :: rest) := by
    have hmemory := prepare_memory codec first_accepted
    have hdata : firstMessage.data = [1] := rfl
    rw [hdata, List.length_singleton, hrest] at hmemory
    rw [hmemory]
    rfl
  refine ⟨(codec.prepare firstMessage).write 14 (7 :: rest), ?_, ?_⟩
  · rw [sendStep, sendMessage, if_neg (by decide)]
    simp only [kProtocoMinSize]
    rw [hencode]
    rfl
  · apply drop_write
    rw [← hrest, List.length_cons, List.length_drop, codec.sized]

theorem scan_second (b : UInt8) (hb : b ≠ 0) (rest : List UInt8) :
    Aes.scan (b :: 0 :: rest) = some 2 := by
  rw [Aes.scan, if_pos (by simp), List.idxOf_cons_ne _ hb, List.idxOf_cons_self]

/-- The empty message behind a message of one byte: two bytes outside its payload change. -/
theorem empty_message_touches_beside :
    (∃ codec, GuardedRuns.run sendStep [firstMessage] clearCodec = some codec ∧
      codec.messageSendBuffer.drop 14 = 7 :: 0 :: List.replicate 65519 0 ∧
      Aes.encode roundKeys ((codec.prepare (zeroMessage 0)).messageSendBuffer.drop 14) 0 =
        some (1 :: 6 :: List.replicate 65519 0)) ∧
      ¬ ∀ message, Accepted message → TouchesPayloadOnly message := by
  constructor
  · have htail : clearCodec.messageSendBuffer.drop 15 = 0 :: List.replicate 65519 0 := by
      rw [clearCodec, List.drop_replicate]
      exact List.replicate_succ
    obtain ⟨codec, hstep, hbuffer⟩ := sendStep_firstMessage htail
    refine ⟨codec, ?_, hbuffer, ?_⟩
    · rw [GuardedRuns.run, hstep]
      rfl
    · have hmemory := prepare_memory codec empty_accepted
      have hempty : (zeroMessage 0).data = [] := rfl
      rw [hempty, List.length_nil, List.nil_append, Nat.add_zero, hbuffer] at hmemory
      rw [hmemory, Aes.encode, if_pos rfl, scan_second 7 (by decide)]
      rfl
  · intro honly
    exact not_touchesPayloadOnly rfl (honly (zeroMessage 0) (by decide))

end GatewayCodec

end Mysya
