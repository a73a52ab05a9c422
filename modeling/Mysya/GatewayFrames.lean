import Mysya.PayloadCipher

/-!
# The frames of a receive buffer

What the readable bytes hold by their own length fields, and the payload ranges
`OnMessage` deciphers in place. After a message the loop goes on twelve bytes
behind its end, so a range is a frame's payload only where a frame starts there
again, and the bytes counted are there only where twelve more follow.
-/

namespace Mysya

namespace GatewayCodec

/-- The length field at `offset`. -/
def sizeAt (bytes : List UInt8) (offset : Nat) : Nat :=
  LittleEndian.value ((bytes.drop offset).take 2)

/-- Where frame `k` starts; the first one that is not complete stays the last. -/
def frameStart (bytes : List UInt8) : Nat → Nat
  | 0 => 0
  | k + 1 =>
    if frameStart bytes k + 2 + sizeAt bytes (frameStart bytes k) ≤ bytes.length then
      frameStart bytes k + 2 + sizeAt bytes (frameStart bytes k)
    else frameStart bytes k

theorem frameStart_mono (bytes : List UInt8) {j k : Nat} (h : j ≤ k) :
    frameStart bytes j ≤ frameStart bytes k := by
  induction h with
  | refl => exact le_rfl
  | step _ ih =>
    refine ih.trans ?_
    rw [frameStart]
    split <;> omega

/-- No frame ends behind the start of one that is not complete. -/
theorem frameStart_le (bytes : List UInt8) {k : Nat}
    (hlast : bytes.length < frameStart bytes k + 2 + sizeAt bytes (frameStart bytes k)) (j : Nat) :
    frameStart bytes j ≤ frameStart bytes k := by
  induction j with
  | zero => exact Nat.zero_le _
  | succ j ih =>
    rcases Nat.lt_or_ge j k with hj | hj
    · exact frameStart_mono bytes hj
    · have hstay : frameStart bytes j = frameStart bytes k :=
        Nat.le_antisymm ih (frameStart_mono bytes hj)
      rw [frameStart, hstay, if_neg (by omega)]

/-- The offset and the size of each payload the loop deciphers in place and hands on. -/
def payloadRanges : Nat → DynamicBuffer → Int → List (Nat × Int)
  | 0, _, _ => []
  | fuel + 1, buffer, readMessageBytes =>
    let readableBytes := toInt32 (buffer.readableBytes - readMessageBytes)
    if readableBytes ≤ 0 ∨ readableBytes < kProtocoMinSize then []
    else if readMessageBytes < 0 then []
    else
      let offset := readMessageBytes.toNat
      let messageSize := messageSizeAt buffer offset
      if readableBytes < messageSize + 2 then []
      else
        (offset + kProtocoMinSize, (messageSize : Int) - 12) ::
          payloadRanges fuel
            (buffer.writeAt (offset + kProtocoMinSize) (deliveryAt buffer offset).data)
            (toInt32 (readMessageBytes + (messageSize + 2 + 12)))

section Round

variable {buffer : DynamicBuffer} {n : Int}

theorem payloadRanges_stop (fuel : Nat) (h : remaining buffer n < 14) :
    payloadRanges (fuel + 1) buffer n = [] := by
  rw [payloadRanges]
  exact if_pos (Or.inr h)

theorem payloadRanges_part (fuel : Nat) (hn : 0 ≤ n)
    (h : remaining buffer n < messageSizeAt buffer n.toNat + 2) :
    payloadRanges (fuel + 1) buffer n = [] := by
  by_cases hshort : remaining buffer n < 14
  · exact payloadRanges_stop fuel hshort
  · have hlong : ¬ (remaining buffer n ≤ 0 ∨ remaining buffer n < (14 : Nat)) := by omega
    rw [payloadRanges]
    refine (if_neg hlong).trans ((if_neg (by omega)).trans ?_)
    exact if_pos h

theorem payloadRanges_whole (fuel : Nat) (hn : 0 ≤ n) (hlong : 14 ≤ remaining buffer n)
    (h : messageSizeAt buffer n.toNat + 2 ≤ remaining buffer n) :
    payloadRanges (fuel + 1) buffer n =
      (n.toNat + 14, (messageSizeAt buffer n.toNat : Int) - 12) ::
        payloadRanges fuel (buffer.writeAt (n.toNat + 14) (deliveryAt buffer n.toNat).data)
          (toInt32 (n + (messageSizeAt buffer n.toNat + 2 + 12))) := by
  have hlong' : ¬ (remaining buffer n ≤ 0 ∨ remaining buffer n < (14 : Nat)) := by omega
  have hwhole : ¬ remaining buffer n < messageSizeAt buffer n.toNat + 2 := by omega
  rw [payloadRanges]
  refine (if_neg hlong').trans ((if_neg (by omega)).trans ?_)
  exact if_neg hwhole

/-- A loop that ends has stopped at once, or taken a message and gone on. -/
theorem onMessageLoop_cases {fuel : Nat} {delivered delivered' : List GatewayDelivery}
    {buffer' : DynamicBuffer} {n' : Int}
    (h : onMessageLoop true (fuel + 1) buffer delivered n = some (buffer', delivered', n')) :
    (buffer' = buffer ∧ n' = n ∧ delivered' = delivered ∧
      payloadRanges (fuel + 1) buffer n = []) ∨
      (0 ≤ n ∧ 14 ≤ remaining buffer n ∧
        messageSizeAt buffer n.toNat + 2 ≤ remaining buffer n) := by
  by_cases hshort : remaining buffer n < 14
  · rw [onMessageLoop_stop fuel delivered hshort] at h
    simp only [Option.some.injEq, Prod.mk.injEq] at h
    exact Or.inl ⟨h.1.symm, h.2.2.symm, h.2.1.symm, payloadRanges_stop fuel hshort⟩
  by_cases hneg : n < 0
  · have hnone : onMessageLoop true (fuel + 1) buffer delivered n = none := by
      rw [remaining] at hshort
      rw [onMessageLoop]
      simp only [kProtocoMinSize]
      rw [if_neg (by omega), if_pos hneg]
    rw [hnone] at h
    cases h
  by_cases hpart : remaining buffer n < messageSizeAt buffer n.toNat + 2
  · rw [onMessageLoop_part fuel delivered (by omega) hpart] at h
    simp only [Option.some.injEq, Prod.mk.injEq] at h
    exact Or.inl ⟨h.1.symm, h.2.2.symm, h.2.1.symm,
      payloadRanges_part fuel (by omega) hpart⟩
  · exact Or.inr ⟨by omega, by omega, by omega⟩

end Round

/-- The ranges are those of the callbacks. -/
theorem payloadRanges_delivered {fuel : Nat} {buffer buffer' : DynamicBuffer} {n n' : Int}
    {delivered delivered' : List GatewayDelivery}
    (h : onMessageLoop true fuel buffer delivered n = some (buffer', delivered', n')) :
    delivered'.map GatewayDelivery.size =
      delivered.map GatewayDelivery.size ++ (payloadRanges fuel buffer n).map Prod.snd := by
  induction fuel generalizing buffer delivered n with
  | zero => simp [onMessageLoop] at h
  | succ fuel ih =>
    rcases onMessageLoop_cases h with ⟨_, _, hdelivered, hranges⟩ | ⟨hn, hlong, hwhole⟩
    · rw [hranges, hdelivered, List.map_nil, List.append_nil]
    · rw [onMessageLoop_whole fuel delivered hn hlong hwhole] at h
      rw [ih h, payloadRanges_whole fuel hn hlong hwhole, List.map_append, List.append_assoc]
      rfl

/-! ## The bytes behind a message -/

theorem sizeAt_readable {buffer : DynamicBuffer} {offset : Nat}
    (h : offset + 2 ≤ buffer.readableBytes) :
    messageSizeAt buffer offset = sizeAt buffer.readable offset := by
  obtain ⟨beyond, hbegin⟩ := buffer.readable_isPrefix
  have hlength := buffer.length_readable
  rw [messageSizeAt, sizeAt, ← hbegin, List.drop_append_of_le_length (by omega),
    List.take_append_of_le_length (by rw [List.length_drop]; omega)]

theorem sizeAt_congr {bytes bytes' : List UInt8} {n : Nat} (h : bytes'.drop n = bytes.drop n) :
    sizeAt bytes' n = sizeAt bytes n := by
  rw [sizeAt, sizeAt, h]

theorem readable_writeAt_drop (buffer : DynamicBuffer) {i k : Nat} {d : List UInt8}
    (h : i + d.length ≤ k) : (buffer.writeAt i d).readable.drop k = buffer.readable.drop k := by
  by_cases hk : buffer.readIndex + k ≤ buffer.buffer.length
  · have hover : (overwrite buffer.buffer (buffer.readIndex + i) d).drop (buffer.readIndex + k) =
        buffer.buffer.drop (buffer.readIndex + k) := drop_overwrite d (by omega) hk
    have hread : ∀ b : DynamicBuffer, b.readable.drop k =
        (b.buffer.drop (b.readIndex + k)).take (b.writeIndex - (b.readIndex + k)) := by
      intro b
      rw [DynamicBuffer.readable, List.drop_drop, List.drop_take]
    rw [hread, hread]
    exact congrArg (List.take _) hover
  · have hwrite := buffer.writeInside
    have hbytes : buffer.readableBytes = buffer.writeIndex - buffer.readIndex := rfl
    rw [List.drop_of_length_le, List.drop_of_length_le]
    · rw [DynamicBuffer.length_readable]
      omega
    · rw [DynamicBuffer.length_readable, DynamicBuffer.readableBytes_writeAt]
      omega

theorem length_deliveryAt {buffer : DynamicBuffer} {offset : Nat}
    (h : offset + messageSizeAt buffer offset + 2 ≤ buffer.readableBytes) :
    (deliveryAt buffer offset).data.length = messageSizeAt buffer offset - 12 := by
  have hbegin : buffer.readableBytes ≤ buffer.readBegin.length := by
    rw [← DynamicBuffer.length_readable]
    exact buffer.readable_isPrefix.length_le
  have hsize : ((messageSizeAt buffer offset : Int) - 12).toNat =
      messageSizeAt buffer offset - 12 := by omega
  have htake : (((buffer.readBegin.drop offset).drop 14).take
      (messageSizeAt buffer offset - 12)).length = messageSizeAt buffer offset - 12 := by
    rw [List.length_take, List.length_drop, List.length_drop]
    omega
  rw [deliveryAt]
  simp only [kProtocoMinSize, Aes.decode, hsize]
  rw [Aes.length_transform (Aes.length_decodeBlock roundKeys) _ _ (by rw [htake]), htake]

/-- `buffer` has the bytes from `n` on unread. -/
structure Ahead (bytes : List UInt8) (buffer : DynamicBuffer) (n : Nat) : Prop where
  length : buffer.readableBytes = bytes.length
  behind : buffer.readable.drop n = bytes.drop n
  small : n < 2147483648

/-- Of the bytes from `n` on the loop takes no message. -/
def Stops (bytes : List UInt8) (n : Nat) : Prop :=
  toInt32 ((bytes.length : Int) - n) < 14 ∨
    toInt32 ((bytes.length : Int) - n) < sizeAt bytes n + 2

instance (bytes : List UInt8) (n : Nat) : Decidable (Stops bytes n) :=
  inferInstanceAs (Decidable (_ ∨ _))

section Ahead

variable {bytes : List UInt8} {buffer : DynamicBuffer} {n : Nat}

theorem Ahead.room (h : Ahead bytes buffer n)
    (hlong : 14 ≤ toInt32 ((bytes.length : Int) - n)) :
    toInt32 ((bytes.length : Int) - n) ≤ bytes.length - n ∧ n + 14 ≤ bytes.length := by
  have hsmall := h.small
  rw [toInt32, toUint32] at hlong ⊢
  omega

theorem Ahead.size (h : Ahead bytes buffer n) (hroom : n + 2 ≤ bytes.length) :
    messageSizeAt buffer n = sizeAt bytes n := by
  rw [sizeAt_readable (by rw [h.length]; exact hroom), sizeAt_congr h.behind]

/-- What the loop does with the bytes from `n` on, read off those bytes. -/
theorem Ahead.loop_stop (h : Ahead bytes buffer n) (hstops : Stops bytes n) (fuel : Nat)
    (delivered : List GatewayDelivery) :
    onMessageLoop true (fuel + 1) buffer delivered n = some (buffer, delivered, (n : Int)) ∧
      payloadRanges (fuel + 1) buffer n = [] := by
  have hremaining : remaining buffer n = toInt32 ((bytes.length : Int) - n) := by
    rw [remaining, h.length]
  by_cases hshort : remaining buffer n < 14
  · exact ⟨onMessageLoop_stop fuel delivered hshort, payloadRanges_stop fuel hshort⟩
  · have hroom := h.room (by omega)
    have hsize := h.size (by omega)
    have hpart : remaining buffer n < messageSizeAt buffer (n : Int).toNat + 2 := by
      rw [Stops] at hstops
      rw [Int.toNat_natCast, hsize]
      omega
    exact ⟨onMessageLoop_part fuel delivered (by omega) hpart,
      payloadRanges_part fuel (by omega) hpart⟩

/-- The buffer with the message at `n` deciphered. -/
def decipheredAt (buffer : DynamicBuffer) (n : Nat) : DynamicBuffer :=
  buffer.writeAt (n + 14) (deliveryAt buffer n).data

theorem Ahead.loop_whole (h : Ahead bytes buffer n) (hgoes : ¬ Stops bytes n) (fuel : Nat)
    (delivered : List GatewayDelivery) :
    n + sizeAt bytes n + 2 ≤ bytes.length ∧
      onMessageLoop true (fuel + 1) buffer delivered n =
        onMessageLoop true fuel (decipheredAt buffer n) (delivered ++ [deliveryAt buffer n])
          (toInt32 ((n : Int) + sizeAt bytes n + 14)) ∧
      payloadRanges (fuel + 1) buffer n = (n + 14, (sizeAt bytes n : Int) - 12) ::
        payloadRanges fuel (decipheredAt buffer n) (toInt32 ((n : Int) + sizeAt bytes n + 14)) := by
  have hremaining : remaining buffer n = toInt32 ((bytes.length : Int) - n) := by
    rw [remaining, h.length]
  rw [Stops, not_or] at hgoes
  have hroom := h.room (by omega)
  have hsize : messageSizeAt buffer (n : Int).toNat = sizeAt bytes n := h.size (by omega)
  have hnext : (n : Int) + ((sizeAt bytes n : Int) + 2 + 12) = (n : Int) + sizeAt bytes n + 14 := by
    omega
  have hlong : 14 ≤ remaining buffer n := by omega
  have hfits : messageSizeAt buffer (n : Int).toNat + 2 ≤ remaining buffer n := by
    rw [hsize]
    omega
  have hloop := onMessageLoop_whole fuel delivered (by omega) hlong hfits
  have hranges := payloadRanges_whole fuel (by omega) hlong hfits
  rw [hsize, hnext, Int.toNat_natCast] at hloop hranges
  exact ⟨by omega, hloop, hranges⟩

/-- What is deciphered ends with the payload. -/
theorem Ahead.deciphered_drop (h : Ahead bytes buffer n) (hgoes : ¬ Stops bytes n) {k : Nat}
    (hk : n + 14 + (sizeAt bytes n - 12) ≤ k) :
    (decipheredAt buffer n).readable.drop k = buffer.readable.drop k := by
  obtain ⟨hwhole, _⟩ := h.loop_whole hgoes 0 []
  have hsize := h.size (by omega)
  have hlength := h.length
  apply readable_writeAt_drop
  rw [length_deliveryAt (by rw [hsize]; omega), hsize]
  exact hk

theorem Ahead.next (h : Ahead bytes buffer n) (hgoes : ¬ Stops bytes n)
    (hsmall : n + sizeAt bytes n + 14 < 2147483648) :
    Ahead bytes (decipheredAt buffer n) (n + sizeAt bytes n + 14) := by
  refine ⟨h.length, ?_, hsmall⟩
  rw [h.deciphered_drop hgoes (by omega)]
  have hbehind := congrArg (List.drop (sizeAt bytes n + 14)) h.behind
  rwa [List.drop_drop, List.drop_drop, ← Nat.add_assoc] at hbehind

end Ahead

/-! ## Ranges inside their frames -/

/-- The range is the payload of a frame of the buffer. -/
def InOwnFrame (bytes : List UInt8) (start : Nat) (size : Int) : Prop :=
  ∃ k, start = frameStart bytes k + 14 ∧ 0 ≤ size ∧
    start + size ≤ frameStart bytes k + 2 + sizeAt bytes (frameStart bytes k) ∧
    frameStart bytes k + 2 + sizeAt bytes (frameStart bytes k) ≤ bytes.length

/-- What `OnMessage` deciphers stays inside the frames, and it counts no byte that is not there. -/
def StaysInside (buffer : DynamicBuffer) : Prop :=
  ∃ last delivered count, onMessageLoop true (buffer.readableBytes + 2) buffer [] 0 =
      some (last, delivered, count) ∧
    (∀ range ∈ payloadRanges (buffer.readableBytes + 2) buffer 0,
      InOwnFrame buffer.readable range.1 range.2) ∧
    (∀ k, buffer.readableBytes <
        frameStart buffer.readable k + 2 + sizeAt buffer.readable (frameStart buffer.readable k) →
      last.readable.drop (frameStart buffer.readable k) =
        buffer.readable.drop (frameStart buffer.readable k)) ∧
    0 ≤ count ∧ count ≤ buffer.readableBytes

/-- From `n` on every message taken starts where a frame does, announces no less than its header
and has twelve bytes behind it. -/
inductive KeepsToFrames (bytes : List UInt8) : Nat → Prop where
  | stop {n : Nat} (stops : Stops bytes n) : KeepsToFrames bytes n
  | take {n : Nat} (goes : ¬ Stops bytes n) (aligned : ∃ k, frameStart bytes k = n)
      (header : 12 ≤ sizeAt bytes n) (behind : n + sizeAt bytes n + 14 ≤ bytes.length)
      (small : n + sizeAt bytes n + 14 < 2147483648)
      (rest : KeepsToFrames bytes (n + sizeAt bytes n + 14)) : KeepsToFrames bytes n

section Inside

variable {bytes : List UInt8} {buffer last : DynamicBuffer} {n : Nat}
  {delivered delivered' : List GatewayDelivery} {count : Int}

/-- The offset never falls, as long as it stays an offset. -/
theorem onMessageLoop_le {fuel : Nat} {m : Int} (hm : m < 2147483648)
    (h : onMessageLoop true fuel buffer delivered m = some (last, delivered', count))
    (hcount : 0 ≤ count) : 0 ≤ m ∧ m ≤ count := by
  induction fuel generalizing buffer delivered m with
  | zero => simp [onMessageLoop] at h
  | succ fuel ih =>
    rcases onMessageLoop_cases h with ⟨_, rfl, _, _⟩ | ⟨hn, hlong, hwhole⟩
    · exact ⟨hcount, le_rfl⟩
    · rw [onMessageLoop_whole fuel delivered hn hlong hwhole] at h
      obtain ⟨hnext, hle⟩ := ih (toInt32_range _).2 h
      have hsize := messageSizeAt_lt buffer m.toNat
      rw [toInt32, toUint32] at hnext hle
      omega

theorem keepsToFrames_of_inside {fuel : Nat} (ahead : Ahead bytes buffer n)
    (h : onMessageLoop true fuel buffer delivered n = some (last, delivered', count))
    (hranges : ∀ range ∈ payloadRanges fuel buffer n, InOwnFrame bytes range.1 range.2)
    (hcount : 0 ≤ count) (hle : count ≤ bytes.length) : KeepsToFrames bytes n := by
  induction fuel generalizing buffer delivered n with
  | zero => simp [onMessageLoop] at h
  | succ fuel ih =>
    by_cases hstops : Stops bytes n
    · exact .stop hstops
    obtain ⟨hwhole, hloop, hrange⟩ := ahead.loop_whole hstops fuel delivered
    rw [hloop] at h
    rw [hrange] at hranges
    obtain ⟨k, hstart, hsize, _⟩ :
        InOwnFrame bytes (n + 14) ((sizeAt bytes n : Int) - 12) := hranges _ List.mem_cons_self
    obtain ⟨hnext, hnextle⟩ := onMessageLoop_le (toInt32_range _).2 h hcount
    have hsmall := ahead.small
    have hlt : sizeAt bytes n < 65536 := LittleEndian.value_field_lt bytes n 2
    have heq : toInt32 ((n : Int) + sizeAt bytes n + 14) =
          ((n + sizeAt bytes n + 14 : Nat) : Int) ∧
        n + sizeAt bytes n + 14 < 2147483648 := by
      rw [toInt32, toUint32] at hnext ⊢
      omega
    rw [heq.1] at h hranges hnextle
    exact .take hstops ⟨k, by omega⟩ (by omega) (by omega) heq.2
      (ih (ahead.next hstops heq.2) h fun range hmem => hranges range (List.mem_cons_of_mem _ hmem))

theorem KeepsToFrames.inside (h : KeepsToFrames bytes n) (ahead : Ahead bytes buffer n)
    (hn : n ≤ bytes.length) (fuel : Nat) (hfuel : bytes.length < n + fuel)
    (delivered : List GatewayDelivery) :
    ∃ last delivered' count,
      onMessageLoop true fuel buffer delivered n = some (last, delivered', count) ∧
      (∀ range ∈ payloadRanges fuel buffer n, InOwnFrame bytes range.1 range.2) ∧
      (∀ k, bytes.length < frameStart bytes k + 2 + sizeAt bytes (frameStart bytes k) →
        last.readable.drop (frameStart bytes k) = buffer.readable.drop (frameStart bytes k)) ∧
      0 ≤ count ∧ count ≤ bytes.length := by
  induction h generalizing buffer fuel delivered with
  | @stop n stops =>
    obtain ⟨fuel, rfl⟩ : ∃ m, fuel = m + 1 := ⟨fuel - 1, by omega⟩
    obtain ⟨hloop, hranges⟩ := ahead.loop_stop stops fuel delivered
    refine ⟨buffer, delivered, n, hloop, ?_, fun _ _ => rfl, by omega, by omega⟩
    rw [hranges]
    intro range hmem
    cases hmem
  | @take n goes aligned header behind small rest ih =>
    obtain ⟨fuel, rfl⟩ : ∃ m, fuel = m + 1 := ⟨fuel - 1, by omega⟩
    obtain ⟨hwhole, hloop, hranges⟩ := ahead.loop_whole goes fuel delivered
    obtain ⟨j, hj⟩ := aligned
    have hnext : toInt32 ((n : Int) + sizeAt bytes n + 14) =
        ((n + sizeAt bytes n + 14 : Nat) : Int) := by
      rw [toInt32_eq (by omega)]
      omega
    obtain ⟨last, delivered', count, hrest, hinside, hkept, hcount⟩ :=
      ih (ahead.next goes small) behind fuel (by omega)
        (delivered ++ [deliveryAt buffer n])
    rw [hnext] at hloop hranges
    refine ⟨last, delivered', count, hloop.trans hrest, ?_, ?_, hcount⟩
    · rw [hranges]
      intro range hmem
      rcases List.mem_cons.mp hmem with rfl | hmem
      · have hown : InOwnFrame bytes (n + 14) ((sizeAt bytes n : Int) - 12) :=
          ⟨j, by rw [hj], by omega, by rw [hj]; omega, by rw [hj]; omega⟩
        exact hown
      · exact hinside range hmem
    · intro k hlast
      have hend : frameStart bytes (j + 1) = n + 2 + sizeAt bytes n := by
        rw [frameStart, hj, if_pos (by omega)]
      have hbefore := frameStart_le bytes hlast (j + 1)
      rw [hkept k hlast]
      exact ahead.deciphered_drop goes (by omega)

end Inside

/-- `OnMessage` stays inside the frames exactly where each message it takes, going on twelve
bytes behind the one before, is a frame of the buffer with its header and twelve bytes more. -/
theorem stays_inside_iff (buffer : DynamicBuffer) :
    StaysInside buffer ↔ KeepsToFrames buffer.readable 0 := by
  have hlength := buffer.length_readable
  have ahead : Ahead buffer.readable buffer 0 := ⟨hlength.symm, rfl, by omega⟩
  constructor
  · rintro ⟨last, delivered, count, hloop, hranges, _, hcount, hle⟩
    exact keepsToFrames_of_inside ahead hloop hranges hcount (by omega)
  · intro h
    have hinside := h.inside ahead (Nat.zero_le _) (buffer.readableBytes + 2) (by omega) []
    rwa [hlength] at hinside

/-! ## One frame alone -/

def received (bytes : List UInt8) : DynamicBuffer := receiveBuffer.append bytes

theorem readable_received (bytes : List UInt8) : (received bytes).readable = bytes := by
  rw [received, DynamicBuffer.readable_append, receiveBuffer, DynamicBuffer.readable_new,
    List.nil_append]

/-- A frame with twelve bytes of the next one behind it. -/
theorem stays_inside_followed :
    StaysInside (received (firstFrame ++ secondFrame.take 12)) := by
  apply (stays_inside_iff _).mpr
  rw [readable_received]
  refine .take (by decide) ⟨0, rfl⟩ (by decide) (by decide) (by decide) ?_
  exact .stop (by decide)

/-- Of a frame alone twelve bytes more are counted than were received, and a header behind a
length field of zero makes a payload of minus twelve bytes. -/
theorem counts_past_end :
    (onMessage true (received firstFrame)).map (fun r => r.2.2) = some 27 ∧
      (received firstFrame).readableBytes = 15 ∧
      (onMessage true (received (List.replicate 14 0))).map
        (fun r => r.2.1.map GatewayDelivery.size) = some [-12] ∧
      ¬ ∀ buffer, StaysInside buffer := by
  have hcount : (onMessageLoop true 17 (received firstFrame) [] 0).map (fun r => r.2.2) =
      some 27 := by
    decide +kernel
  refine ⟨by decide +kernel, by decide +kernel, by decide +kernel, ?_⟩
  intro hall
  obtain ⟨last, delivered, count, hloop, _, _, _, hle⟩ := hall (received firstFrame)
  have hreadable : (received firstFrame).readableBytes = 15 := by decide +kernel
  rw [hreadable] at hloop hle
  rw [hloop, Option.map_some, Option.some.injEq] at hcount
  dsimp only at hcount
  omega

end GatewayCodec

end Mysya
