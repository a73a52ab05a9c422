import Mathlib.Tactic.Common
import Mysya.MachineInts

/-!
# Base 64

`base64_encode` and `base64_decode` of the combat server: the two functions on
raw memory, which stop at the end of the output they are given, and the two on
strings, which guess how much output they need.
-/

namespace Mysya

namespace Base64

/-- `s_encode_table`. -/
def encodeTable : List UInt8 :=
  [65, 66, 67, 68, 69, 70, 71, 72, 73, 74, 75, 76, 77, 78, 79, 80, 81, 82, 83, 84, 85, 86, 87, 88,
   89, 90, 97, 98, 99, 100, 101, 102, 103, 104, 105, 106, 107, 108, 109, 110, 111, 112, 113, 114,
   115, 116, 117, 118, 119, 120, 121, 122, 48, 49, 50, 51, 52, 53, 54, 55, 56, 57, 43, 47]

/-- `s_decode_table`. -/
def decodeTable : List Int8 :=
  [62, -1, -1, -1, 63, 52, 53, 54, 55, 56,
   57, 58, 59, 60, 61, -1, -1, -1, -2, -1,
   -1, -1,  0,  1,  2,  3,  4,  5,  6,  7,
    8,  9, 10, 11, 12, 13, 14, 15, 16, 17,
   18, 19, 20, 21, 22, 23, 24, 25, -1, -1,
   -1, -1, -1, -1, 26, 27, 28, 29, 30, 31,
   32, 33, 34, 35, 36, 37, 38, 39, 40, 41,
   42, 43, 44, 45, 46, 47, 48, 49, 50, 51]

/-- What a function returns, and the bytes it has put from `out` on. -/
structure Written where
  count : Int
  out : List UInt8

/-- `out - out_start`, or `-1` where the loop gave up. -/
def Written.of : List UInt8 × Bool → Written
  | (out, finished) => { count := if finished then toInt32 out.length else -1, out := out }

def encodeByte (i : UInt8) : UInt8 := encodeTable.getD i.toNat 0

/-- The four characters for `bLen` bytes. -/
def encodeGroup (b₀ b₁ b₂ : UInt8) (bLen : Nat) : List UInt8 :=
  [encodeByte (b₀ >>> 2),
   encodeByte (((b₀ &&& 0x03) <<< 4) ||| ((b₁ &&& 0xf0) >>> 4)),
   if 1 < bLen then encodeByte (((b₁ &&& 0x0f) <<< 2) ||| ((b₂ &&& 0xc0) >>> 6)) else 61,
   if 2 < bLen then encodeByte (b₂ &&& 0x3f) else 61]

/-- The loop, with the room left in the output; whether it ran to the end. -/
def encodeLoop : List UInt8 → Nat → List UInt8 × Bool
  | [], _ => ([], true)
  | [b₀], room => if room < 4 then ([], false) else (encodeGroup b₀ 0 0 1, true)
  | [b₀, b₁], room => if room < 4 then ([], false) else (encodeGroup b₀ b₁ 0 2, true)
  | b₀ :: b₁ :: b₂ :: rest, room =>
    if room < 4 then ([], false)
    else
      (encodeGroup b₀ b₁ b₂ 3 ++ (encodeLoop rest (room - 4)).1, (encodeLoop rest (room - 4)).2)

def base64Encode (input : List UInt8) (outSize : Nat) : Written :=
  .of (encodeLoop input outSize)

/-- The six bits of a character; nothing for one that is skipped. A `char` is signed. -/
def decodeByte (c : UInt8) : Option UInt8 :=
  if c.toInt8 < 43 ∨ 122 < c.toInt8 ∨ c = 61 then none
  else some (decodeTable.getD (c.toNat - 43) 0).toUInt8

/-- The number of characters of a group that are not skipped. -/
def groupLen (group : List UInt8) : Nat := (group.filterMap decodeByte).length

/-- The bytes of a group of four characters of which `bLen` are not skipped. -/
def decodeGroup (b₀ b₁ b₂ b₃ : UInt8) (bLen : Nat) : List UInt8 :=
  [b₀ <<< 2 ||| b₁ >>> 4] ++ (if 2 < bLen then [b₁ <<< 4 ||| b₂ >>> 2] else []) ++
    if 3 < bLen then [b₂ <<< 6 ||| b₃] else []

def decodeLoop : List UInt8 → Nat → List UInt8 × Bool
  | [], _ => ([], true)
  | c₀ :: c₁ :: c₂ :: c₃ :: rest, room =>
    let b c := (decodeByte c).getD 0
    let bLen := groupLen [c₀, c₁, c₂, c₃]
    if bLen < 2 then ([], false)
    else if room < bLen - 1 then ([], false)
    else
      let group := decodeGroup (b c₀) (b c₁) (b c₂) (b c₃) bLen
      (group ++ (decodeLoop rest (room - group.length)).1,
        (decodeLoop rest (room - group.length)).2)
  | _, _ => ([], false)

def base64Decode (input : List UInt8) (outSize : Nat) : Written :=
  .of (decodeLoop input outSize)

/-- The string of `count` bytes at the start of a vector of `size` bytes written from its start. -/
def Written.toStr (w : Written) (size : Nat) : List UInt8 :=
  if w.count ≤ 0 then []
  else (w.out ++ List.replicate (size - w.out.length) 0).take w.count.toNat

/-- `base64_encode(const std::string &)`. -/
def base64EncodeString (str : List UInt8) : List UInt8 :=
  let size := max 5 (toSizeT (str.length * 2))
  (base64Encode str size).toStr size

/-- `base64_decode(const std::string &)`. -/
def base64DecodeString (str : List UInt8) : List UInt8 :=
  (base64Decode str str.length).toStr str.length

/-! ## One group -/

theorem decodeByte_encodeByte : ∀ i : UInt8, i < 64 → decodeByte (encodeByte i) = some i :=
  forall_byte (by decide +kernel)

theorem decodeByte_padding : decodeByte 61 = none := by decide

/-- The parts of a byte are sextets. -/
theorem parts_lt : ∀ b : UInt8, b >>> 2 < 64 ∧ (b &&& 0x03) <<< 4 < 64 ∧
    (b &&& 0xf0) >>> 4 < 64 ∧ (b &&& 0x0f) <<< 2 < 64 ∧ (b &&& 0xc0) >>> 6 < 64 ∧
    b &&& 0x3f < 64 :=
  forall_byte (by decide +kernel)

/-- The parts of a byte put together again, and what falls out of them when they are shifted. -/
theorem parts_joined : ∀ b : UInt8, (b >>> 2) <<< 2 ||| ((b &&& 0x03) <<< 4) >>> 4 = b ∧
    ((b &&& 0xf0) >>> 4) <<< 4 ||| ((b &&& 0x0f) <<< 2) >>> 2 = b ∧
    ((b &&& 0xc0) >>> 6) <<< 6 ||| (b &&& 0x3f) = b ∧ ((b &&& 0xf0) >>> 4) >>> 4 = 0 ∧
    ((b &&& 0x03) <<< 4) <<< 4 = 0 ∧ ((b &&& 0xc0) >>> 6) >>> 2 = 0 ∧
    ((b &&& 0x0f) <<< 2) <<< 6 = 0 ∧ ((b &&& 0x03) <<< 4) &&& 0x0f = 0 ∧
    ((b &&& 0x0f) <<< 2) &&& 0x03 = 0 :=
  forall_byte (by decide +kernel)

theorem first_sextet_lt (b : UInt8) : b >>> 2 < 64 := (parts_lt b).1

theorem last_sextet_lt (b : UInt8) : b &&& 0x3f < 64 := (parts_lt b).2.2.2.2.2

theorem or_lt_sextet {a b : UInt8} (ha : a < 64) (hb : b < 64) : a ||| b < 64 := by
  rw [UInt8.lt_iff_toNat_lt] at *
  rw [UInt8.toNat_or]
  exact Nat.or_lt_two_pow (n := 6) ha hb

theorem second_sextet_lt (b₀ b₁ : UInt8) :
    ((b₀ &&& 0x03) <<< 4) ||| ((b₁ &&& 0xf0) >>> 4) < 64 :=
  or_lt_sextet (parts_lt b₀).2.1 (parts_lt b₁).2.2.1

theorem third_sextet_lt (b₁ b₂ : UInt8) :
    ((b₁ &&& 0x0f) <<< 2) ||| ((b₂ &&& 0xc0) >>> 6) < 64 :=
  or_lt_sextet (parts_lt b₁).2.2.2.1 (parts_lt b₂).2.2.2.2.1

theorem decode_first (b₀ b₁ : UInt8) :
    (b₀ >>> 2) <<< 2 ||| (((b₀ &&& 0x03) <<< 4) ||| ((b₁ &&& 0xf0) >>> 4)) >>> 4 = b₀ := by
  obtain ⟨hself, _⟩ := parts_joined b₀
  obtain ⟨_, _, _, hnext, _⟩ := parts_joined b₁
  rw [UInt8.shiftRight_or, hnext, UInt8.or_zero, hself]

theorem decode_second (b₀ b₁ b₂ : UInt8) :
    (((b₀ &&& 0x03) <<< 4) ||| ((b₁ &&& 0xf0) >>> 4)) <<< 4 |||
      (((b₁ &&& 0x0f) <<< 2) ||| ((b₂ &&& 0xc0) >>> 6)) >>> 2 = b₁ := by
  obtain ⟨_, _, _, _, hbefore, _⟩ := parts_joined b₀
  obtain ⟨_, hself, _⟩ := parts_joined b₁
  obtain ⟨_, _, _, _, _, hnext, _⟩ := parts_joined b₂
  rw [UInt8.shiftLeft_or, UInt8.shiftRight_or, hbefore, hnext, UInt8.zero_or, UInt8.or_zero,
    hself]

theorem decode_third (b₁ b₂ : UInt8) :
    (((b₁ &&& 0x0f) <<< 2) ||| ((b₂ &&& 0xc0) >>> 6)) <<< 6 ||| (b₂ &&& 0x3f) = b₂ := by
  obtain ⟨_, _, _, _, _, _, hbefore, _⟩ := parts_joined b₁
  obtain ⟨_, _, hself, _⟩ := parts_joined b₂
  rw [UInt8.shiftLeft_or, hbefore, UInt8.zero_or, hself]

theorem decodeLoop_cons {c₀ c₁ c₂ c₃ : UInt8} (bLen : Nat) (group rest : List UInt8) {room : Nat}
    (hlen : groupLen [c₀, c₁, c₂, c₃] = bLen) (htwo : 2 ≤ bLen) (hroom : bLen - 1 ≤ room)
    (hgroup : decodeGroup ((decodeByte c₀).getD 0) ((decodeByte c₁).getD 0)
      ((decodeByte c₂).getD 0) ((decodeByte c₃).getD 0) bLen = group) :
    decodeLoop (c₀ :: c₁ :: c₂ :: c₃ :: rest) room =
      (group ++ (decodeLoop rest (room - group.length)).1,
        (decodeLoop rest (room - group.length)).2) := by
  rw [decodeLoop]
  simp only [hlen, hgroup]
  rw [if_neg (by omega), if_neg (by omega)]

/-- Four characters for three bytes are these bytes again. -/
theorem decodeLoop_three (b₀ b₁ b₂ : UInt8) (rest : List UInt8) {room : Nat} (h : 3 ≤ room) :
    decodeLoop (encodeGroup b₀ b₁ b₂ 3 ++ rest) room =
      ([b₀, b₁, b₂] ++ (decodeLoop rest (room - 3)).1, (decodeLoop rest (room - 3)).2) := by
  have h₀ := decodeByte_encodeByte _ (first_sextet_lt b₀)
  have h₁ := decodeByte_encodeByte _ (second_sextet_lt b₀ b₁)
  have h₂ := decodeByte_encodeByte _ (third_sextet_lt b₁ b₂)
  have h₃ := decodeByte_encodeByte _ (last_sextet_lt b₂)
  refine decodeLoop_cons 4 [b₀, b₁, b₂] rest ?_ (by omega) (by omega) ?_
  · simp only [groupLen, Nat.reduceLT, if_true, List.filterMap_cons, h₀, h₁, h₂, h₃]
    rfl
  · simp only [Nat.reduceLT, if_true, h₀, h₁, h₂, h₃, Option.getD_some, decodeGroup, decode_first,
      decode_second, decode_third]
    rfl

theorem decodeLoop_two (b₀ b₁ : UInt8) {room : Nat} (h : 2 ≤ room) :
    decodeLoop (encodeGroup b₀ b₁ 0 2) room = ([b₀, b₁], true) := by
  have h₀ := decodeByte_encodeByte _ (first_sextet_lt b₀)
  have h₁ := decodeByte_encodeByte _ (second_sextet_lt b₀ b₁)
  have h₂ := decodeByte_encodeByte _ (third_sextet_lt b₁ 0)
  refine decodeLoop_cons 3 [b₀, b₁] [] ?_ (by omega) (by omega) ?_
  · simp only [groupLen, Nat.reduceLT, if_true, if_false, List.filterMap_cons, h₀, h₁, h₂,
      decodeByte_padding]
    rfl
  · simp only [Nat.reduceLT, if_true, if_false, h₀, h₁, h₂, Option.getD_some, decodeGroup,
      decode_first, decode_second]
    rfl

theorem decodeLoop_one (b₀ : UInt8) {room : Nat} (h : 1 ≤ room) :
    decodeLoop (encodeGroup b₀ 0 0 1) room = ([b₀], true) := by
  have h₀ := decodeByte_encodeByte _ (first_sextet_lt b₀)
  have h₁ := decodeByte_encodeByte _ (second_sextet_lt b₀ 0)
  refine decodeLoop_cons 2 [b₀] [] ?_ (by omega) (by omega) ?_
  · simp only [groupLen, Nat.reduceLT, if_false, List.filterMap_cons, h₀, h₁, decodeByte_padding]
    rfl
  · simp only [Nat.reduceLT, if_false, h₀, h₁, Option.getD_some, decodeGroup, decode_first]
    rfl

/-! ## The loops -/

theorem length_encodeGroup (b₀ b₁ b₂ : UInt8) (bLen : Nat) :
    (encodeGroup b₀ b₁ b₂ bLen).length = 4 := rfl

/-- The loop writes the whole encoding if that fits, and never more than fits. -/
theorem encodeLoop_length (input : List UInt8) (room : Nat) :
    ((encodeLoop input room).2 = true ↔ 4 * ((input.length + 2) / 3) ≤ room) ∧
    ((encodeLoop input room).2 = true →
      (encodeLoop input room).1.length = 4 * ((input.length + 2) / 3)) ∧
    (encodeLoop input room).1.length ≤ room := by
  fun_induction encodeLoop input room with
  | case1 => simp
  | case2 b room h => simp; omega
  | case3 b room h => simp [length_encodeGroup]; omega
  | case4 b c room h => simp; omega
  | case5 b c room h => simp [length_encodeGroup]; omega
  | case6 b₀ b₁ b₂ rest room h => simp; omega
  | case7 b₀ b₁ b₂ rest room h ih =>
    obtain ⟨hfits, hlength, hroom⟩ := ih
    have hgroups : (rest.length + 1 + 1 + 1 + 2) / 3 = (rest.length + 2) / 3 + 1 := by omega
    simp only [List.length_cons, List.length_append, length_encodeGroup, hgroups]
    refine ⟨?_, ?_, ?_⟩
    · rw [hfits]
      omega
    · intro hfinished
      rw [hlength hfinished]
      omega
    · omega

theorem length_decodeGroup (b₀ b₁ b₂ b₃ : UInt8) {bLen : Nat} (h : 2 ≤ bLen ∧ bLen ≤ 4) :
    (decodeGroup b₀ b₁ b₂ b₃ bLen).length = bLen - 1 := by
  obtain rfl | rfl | rfl : bLen = 2 ∨ bLen = 3 ∨ bLen = 4 := by omega
  · rfl
  · rfl
  · rfl

theorem groupLen_le (group : List UInt8) : groupLen group ≤ group.length :=
  List.length_filterMap_le decodeByte group

theorem decodeLoop_length (input : List UInt8) (room : Nat) :
    (decodeLoop input room).1.length ≤ room := by
  fun_induction decodeLoop input room with
  | case1 => exact Nat.zero_le _
  | case2 => exact Nat.zero_le _
  | case3 => exact Nat.zero_le _
  | case4 c₀ c₁ c₂ c₃ rest room b bLen htwo hroom group ih =>
    have hfour : bLen ≤ 4 := groupLen_le [c₀, c₁, c₂, c₃]
    have hgroup : group.length = bLen - 1 := length_decodeGroup _ _ _ _ (by omega)
    rw [List.length_append]
    omega
  | case5 => exact Nat.zero_le _

/-- A finished encoding decodes to what was encoded, wherever that fits. -/
theorem decodeLoop_encodeLoop (input : List UInt8) (room room' : Nat)
    (h : (encodeLoop input room).2 = true) (hroom : input.length ≤ room') :
    decodeLoop (encodeLoop input room).1 room' = (input, true) := by
  fun_induction encodeLoop input room generalizing room' with
  | case1 => rfl
  | case2 b room hshort => cases h
  | case3 b room hfits => exact decodeLoop_one b hroom
  | case4 b c room hshort => cases h
  | case5 b c room hfits => exact decodeLoop_two b c hroom
  | case6 b₀ b₁ b₂ rest room hshort => cases h
  | case7 b₀ b₁ b₂ rest room hfits ih =>
    simp only [List.length_cons] at hroom
    rw [decodeLoop_three b₀ b₁ b₂ _ (by omega), ih (room' - 3) h (by omega)]
    rfl

/-! ## The functions -/

theorem base64Encode_count {input : List UInt8} {outSize : Nat}
    (h : 4 * ((input.length + 2) / 3) ≤ outSize) :
    (base64Encode input outSize).count = toInt32 (4 * ((input.length + 2) / 3) : Nat) := by
  obtain ⟨hfits, hlength, _⟩ := encodeLoop_length input outSize
  have hfinished := hfits.mpr h
  rw [← hlength hfinished, base64Encode, Written.of, if_pos hfinished]

theorem base64Encode_eq_neg_one (input : List UInt8) (outSize : Nat) :
    (base64Encode input outSize).count = -1 ↔ outSize < 4 * ((input.length + 2) / 3) := by
  constructor
  · intro hcount
    by_contra hfits
    rw [base64Encode_count (by omega)] at hcount
    unfold toInt32 toUint32 at hcount
    omega
  · intro hshort
    have hunfinished : ¬(encodeLoop input outSize).2 = true := by
      rw [(encodeLoop_length input outSize).1]
      omega
    rw [base64Encode, Written.of, if_neg hunfinished]

/-- What the raw functions do when each has room for its output. -/
theorem base64Decode_base64Encode {str : List UInt8} {outSize outSize' : Nat}
    (hsize : 4 * ((str.length + 2) / 3) ≤ outSize) (hsize' : str.length ≤ outSize')
    (hshort : str.length < 2147483648) :
    (base64Encode str outSize).out.length = 4 * ((str.length + 2) / 3) ∧
    base64Decode (base64Encode str outSize).out outSize' = { count := str.length, out := str } := by
  obtain ⟨hfits, hlength, _⟩ := encodeLoop_length str outSize
  have hfinished := hfits.mpr hsize
  constructor
  · exact hlength hfinished
  · rw [base64Encode, Written.of, base64Decode,
      decodeLoop_encodeLoop str outSize outSize' hfinished hsize', Written.of, if_pos rfl,
      toInt32_of_lt hshort]

theorem Written.toStr_of_count {w : Written} {size : Nat} (h : w.count = w.out.length) :
    w.toStr size = w.out := by
  rw [Written.toStr, h]
  split
  · rename_i hempty
    exact (List.length_eq_zero_iff.mp (by omega)).symm
  · rw [Int.toNat_natCast, List.take_left]

/-- The size guessed by the wrapper is enough. -/
theorem encoded_fits {n : Nat} (h : n < 1073741824) :
    4 * ((n + 2) / 3) ≤ max 5 (toSizeT (n * 2)) := by
  have hsize : toSizeT ((n : Int) * 2) = n * 2 := by
    unfold toSizeT
    omega
  rw [hsize]
  omega

theorem base64EncodeString_eq {str : List UInt8} (h : str.length < 1073741824) :
    base64EncodeString str =
      (base64Encode str (max 5 (toSizeT (str.length * 2)))).out := by
  have hfits := encoded_fits h
  apply Written.toStr_of_count
  rw [base64Encode_count hfits, (base64Decode_base64Encode hfits (Nat.le_refl _) (by omega)).1,
    toInt32_of_lt (by omega)]

theorem base64DecodeString_base64EncodeString {str : List UInt8} (h : str.length < 1073741824) :
    base64DecodeString (base64EncodeString str) = str := by
  have hlength : (base64EncodeString str).length = 4 * ((str.length + 2) / 3) := by
    rw [base64EncodeString_eq h]
    exact (base64Decode_base64Encode (encoded_fits h) (Nat.le_refl _) (by omega)).1
  have hback : base64Decode (base64EncodeString str) (base64EncodeString str).length =
      { count := str.length, out := str } := by
    conv_lhs => rw [base64EncodeString_eq h]
    exact (base64Decode_base64Encode (encoded_fits h)
      (by rw [← base64EncodeString_eq h]; omega) (by omega)).2
  rw [base64DecodeString, hback]
  exact Written.toStr_of_count rfl

/-- Both pairs of functions give back what was encoded; the encoder fails exactly where its
output does not fit, and neither raw function writes outside its output. -/
theorem base64_round_trip :
    (∀ str : List UInt8, str.length < 1073741824 →
      base64DecodeString (base64EncodeString str) = str) ∧
    (∀ (str : List UInt8) (outSize outSize' : Nat), str.length < 1073741824 →
      4 * ((str.length + 2) / 3) ≤ outSize → str.length ≤ outSize' →
        (base64Encode str outSize).count = (base64Encode str outSize).out.length ∧
        base64Decode (base64Encode str outSize).out outSize' =
          { count := str.length, out := str }) ∧
    (∀ (input : List UInt8) (outSize : Nat),
      (base64Encode input outSize).count = -1 ↔ outSize < 4 * ((input.length + 2) / 3)) ∧
    ∀ (input : List UInt8) (outSize : Nat), (base64Encode input outSize).out.length ≤ outSize ∧
      (base64Decode input outSize).out.length ≤ outSize := by
  refine ⟨?_, ?_, base64Encode_eq_neg_one, ?_⟩
  · intro str h
    exact base64DecodeString_base64EncodeString h
  · intro str outSize outSize' h hsize hsize'
    obtain ⟨hlength, hback⟩ := base64Decode_base64Encode hsize hsize' (by omega)
    refine ⟨?_, hback⟩
    rw [base64Encode_count hsize, hlength, toInt32_of_lt (by omega)]
  · intro input outSize
    exact ⟨(encodeLoop_length input outSize).2.2, decodeLoop_length input outSize⟩

/-- A zero, a high byte and an equals sign, by way of eight characters. -/
theorem base64_round_trip_four :
    base64DecodeString (base64EncodeString [0, 255, 61, 128]) = [0, 255, 61, 128] ∧
    base64EncodeString [0, 255, 61, 128] = [65, 80, 56, 57, 103, 65, 61, 61] :=
  ⟨base64_round_trip.1 [0, 255, 61, 128] (by decide), by decide⟩

end Base64

end Mysya
