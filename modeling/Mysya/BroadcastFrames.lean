import Mysya.AgentQueues

/-!
# The frames of the broadcast tests

The broadcast client and the broadcast server put the size of a message in front of its bytes, and
their receive-decode callback waits until a frame is whole.
-/

namespace Mysya

open FrameStream GuardedRuns

/-- `OnReceiveDecode` of the broadcast client. -/
def onReceiveDecode (bytes : List UInt8) : Option Decoded :=
  if toInt32 bytes.length < 4 then none
  else
    let messageSize := toInt32 (LittleEndian.value (bytes.take 4))
    if toInt32 bytes.length < toInt32 (messageSize + 4) then none
    else some ⟨(bytes.drop 4).take messageSize.toNat, toSizeT (messageSize + 4)⟩

/-- A message behind its size, as the broadcast client takes it. -/
def HeadedFrame (m b : List UInt8) : Prop :=
  m.length + 4 < 2147483648 ∧ b = LittleEndian.bytes 4 m.length ++ m

theorem onReceiveDecode_short {bytes : List UInt8} (h : bytes.length < 4) :
    onReceiveDecode bytes = none := by
  rw [onReceiveDecode, if_pos]
  rw [toInt32_of_lt (by omega)]
  omega

/-- The size of a message is read, as soon as its four bytes are there. -/
theorem onReceiveDecode_headed {size : Nat} (hsize : size + 4 < 2147483648) (rest : List UInt8)
    (hrest : rest.length + 4 < 2147483648) :
    onReceiveDecode (LittleEndian.bytes 4 size ++ rest) =
      if rest.length < size then none else some ⟨rest.take size, size + 4⟩ := by
  have hhead : (LittleEndian.bytes 4 size).length = 4 := LittleEndian.length_bytes 4 size
  have hlength : (LittleEndian.bytes 4 size ++ rest).length = rest.length + 4 := by
    rw [List.length_append, hhead, Nat.add_comm]
  have hvalue : LittleEndian.value ((LittleEndian.bytes 4 size ++ rest).take 4) = size :=
    LittleEndian.value_take_bytes (Nat.le_refl 4) (by omega) rest
  have hmessage : toInt32 (LittleEndian.value ((LittleEndian.bytes 4 size ++ rest).take 4)) =
      size := by
    rw [hvalue, toInt32_of_lt (by omega)]
  have htotal : toInt32 ((size : Int) + 4) = size + 4 := toInt32_eq (by omega)
  rw [onReceiveDecode, hmessage, hlength, toInt32_of_lt hrest, if_neg (by omega)]
  dsimp only
  rw [htotal, List.drop_left' hhead, Int.toNat_natCast]
  by_cases hpart : rest.length < size
  · rw [if_pos hpart, if_pos (by omega)]
  · have htaken : toSizeT ((size : Int) + 4) = size + 4 := by
      unfold toSizeT
      omega
    rw [if_neg hpart, if_neg (by omega), htaken]

theorem headed_framing : Framing onReceiveDecode HeadedFrame where
  empty := onReceiveDecode_short (by decide)
  whole m b rest hb hlength := by
    obtain ⟨hsmall, rfl⟩ := hb
    have hhead : (LittleEndian.bytes 4 m.length).length = 4 := LittleEndian.length_bytes 4 m.length
    rw [List.append_assoc, List.length_append, hhead, List.length_append] at hlength
    rw [List.append_assoc, onReceiveDecode_headed hsmall _ (by rw [List.length_append]; omega),
      if_neg (by rw [List.length_append]; omega), List.take_left, List.length_append, hhead,
      Nat.add_comm]
  part m b missing hb hmissing := by
    obtain ⟨hsmall, heq⟩ := hb
    have hpositive : 0 < missing.length := List.length_pos_iff.mpr hmissing
    have hhead : (LittleEndian.bytes 4 m.length).length = 4 := LittleEndian.length_bytes 4 m.length
    rcases List.append_eq_append_iff.mp heq with ⟨more, hmore, _⟩ | ⟨rest, rfl, hm⟩
    · by_cases hshort : b.length < 4
      · exact onReceiveDecode_short hshort
      · have hlength := congrArg List.length hmore
        rw [List.length_append, hhead] at hlength
        have hnil : more = [] := List.length_eq_zero_iff.mp (by omega)
        rw [hnil, List.append_nil] at hmore
        have hwhole := onReceiveDecode_headed hsmall [] (by decide)
        rw [List.append_nil, hmore] at hwhole
        have htotal := congrArg List.length heq
        rw [List.length_append, List.length_append, hhead] at htotal
        rw [hwhole, if_pos]
        rw [List.length_nil]
        omega
    · rw [hm, List.length_append] at hsmall ⊢
      rw [onReceiveDecode_headed hsmall rest (by omega), if_pos (by omega)]

namespace AgentQueues

/-! ## A message in either direction -/

theorem headedFrame_seven : HeadedFrame [7] [1, 0, 0, 0, 7] := ⟨by decide, by decide⟩

def begun : AgentQueues := start 1 ⟨0, 0⟩ 0

/-- A descriptor gets its channel. -/
def opening : List Action := [.network (.accept 0 5 ⟨true, true, true⟩)]

/-- A frame is sent, the kernel takes two bytes of it first, and two expirations end. -/
def sending : List Action :=
  [.sendMessage 0 5 [1, 0, 0, 0, 7], .sendExpired 0 ⟨0, 0⟩ 0, .sendRound 0 0 .again,
    .sendExchange 0, .sendExpired 0 ⟨0, 0⟩ 0, .sendRound 0 0 (.sent 2),
    .network (.write 0 ⟨0, false, true, false⟩ (.sent 3) ⟨true, true, true⟩),
    .sendRound 0 0 .again, .sendExchange 0]

/-- The frame is read in two parts, and two expirations end. -/
def reading : List Action :=
  [.read 0 ⟨0, true, false, false⟩ 2 (.received [1, 0]),
    .read 0 ⟨0, true, false, false⟩ 3 (.received [0, 0, 7]), .receiveExpired 0 ⟨0, 0⟩ 0,
    .receiveRound 0, .receiveExchange 0, .receiveExpired 0 ⟨0, 0⟩ 0, .receiveRound 0,
    .receiveRound 0, .receiveExchange 0]

theorem run_of_isSome {l : List Action} {s : AgentQueues}
    (h : (run (step onReceiveDecode) l s).isSome) :
    run (step onReceiveDecode) l s = some ((run (step onReceiveDecode) l s).getD s) := by
  obtain ⟨t, ht⟩ := Option.isSome_iff_exists.mp h
  rw [ht]
  rfl

def opened : AgentQueues := (run (step onReceiveDecode) opening begun).getD begun

def sentFrame : AgentQueues := (run (step onReceiveDecode) sending opened).getD opened

def readFrame : AgentQueues := (run (step onReceiveDecode) reading opened).getD opened

theorem opened_reached : Reaches (step onReceiveDecode) (Calm onReceiveDecode) begun opened :=
  Reaches.refl.run (by decide +kernel) (run_of_isSome (by decide +kernel : (run _ opening _).isSome))

theorem sentFrame_reached : Reaches (step onReceiveDecode) (Calm onReceiveDecode) opened sentFrame :=
  Reaches.refl.run (by decide +kernel) (run_of_isSome (by decide +kernel : (run _ sending _).isSome))

theorem readFrame_reached :
    Reaches (step onReceiveDecode) (Calm onReceiveDecode) begun readFrame :=
  opened_reached.run (by decide +kernel)
    (run_of_isSome (by decide +kernel : (run _ reading _).isSome))

end AgentQueues

end Mysya
