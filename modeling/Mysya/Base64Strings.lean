import Mysya.Base64

/-!
# The strings the decoder accepts

`base64_decode` skips a character outside its range and counts those it does
not skip; where a skipped one stood, which of the table's holes a character hit
and what bits the padding covers make no difference to it.
-/

namespace Mysya

namespace Base64

/-- The index of a character in `s_encode_table`. -/
def sextet (c : UInt8) : UInt8 := UInt8.ofNat (encodeTable.idxOf c)

/-- A string `base64_encode` can have made: groups of four characters of the alphabet, the last
one perhaps with one or two padding characters over bits that are zero. -/
def Canonical : List UInt8 → Bool
  | [] => true
  | [c₀, c₁, 61, 61] => c₀ ∈ encodeTable && c₁ ∈ encodeTable && sextet c₁ &&& 0x0f == 0
  | [c₀, c₁, c₂, 61] =>
    c₀ ∈ encodeTable && c₁ ∈ encodeTable && c₂ ∈ encodeTable && sextet c₂ &&& 0x03 == 0
  | c₀ :: c₁ :: c₂ :: c₃ :: rest =>
    c₀ ∈ encodeTable && c₁ ∈ encodeTable && c₂ ∈ encodeTable && c₃ ∈ encodeTable &&
      Canonical rest
  | _ => false

/-- Groups of four with at least two characters each that are not skipped. -/
def Whole : List UInt8 → Bool
  | [] => true
  | c₀ :: c₁ :: c₂ :: c₃ :: rest => 2 ≤ groupLen [c₀, c₁, c₂, c₃] && Whole rest
  | _ => false

/-- A byte for every character of a group that is not skipped but the first. -/
def decodedLength : List UInt8 → Nat
  | c₀ :: c₁ :: c₂ :: c₃ :: rest => groupLen [c₀, c₁, c₂, c₃] - 1 + decodedLength rest
  | _ => 0

/-! ## What a decoder makes of a string -/

theorem decodeLoop_finished (input : List UInt8) (room : Nat) :
    ((decodeLoop input room).2 = true ↔ Whole input = true ∧ decodedLength input ≤ room) ∧
      ((decodeLoop input room).2 = true →
        (decodeLoop input room).1.length = decodedLength input) := by
  fun_induction decodeLoop input room with
  | case1 room => simp [Whole, decodedLength]
  | case2 c₀ c₁ c₂ c₃ rest room bLen htwo =>
    have hlen : groupLen [c₀, c₁, c₂, c₃] < 2 := htwo
    simp [Whole]
    omega
  | case3 c₀ c₁ c₂ c₃ rest room bLen htwo hroom =>
    have hlen : room < groupLen [c₀, c₁, c₂, c₃] - 1 := hroom
    simp [Whole, decodedLength]
    omega
  | case4 c₀ c₁ c₂ c₃ rest room b bLen htwo hroom group ih =>
    have hlen : groupLen [c₀, c₁, c₂, c₃] = bLen := rfl
    have hfour : bLen ≤ 4 := groupLen_le [c₀, c₁, c₂, c₃]
    have hgroup : group.length = bLen - 1 := length_decodeGroup _ _ _ _ (by omega)
    obtain ⟨hfinished, hlength⟩ := ih
    constructor
    · rw [Whole, decodedLength, hlen, Bool.and_eq_true, decide_eq_true_eq]
      dsimp only
      rw [hfinished]
      constructor
      · rintro ⟨hwhole, hfits⟩
        exact ⟨⟨by omega, hwhole⟩, by omega⟩
      · rintro ⟨⟨_, hwhole⟩, hfits⟩
        exact ⟨hwhole, by omega⟩
    · intro hdone
      rw [List.length_append, hlength hdone, decodedLength, hlen]
      omega
  | case5 input room hempty hgroup =>
    have hpart : Whole input = false := by
      rcases input with _ | ⟨c₀, _ | ⟨c₁, _ | ⟨c₂, _ | ⟨c₃, rest⟩⟩⟩⟩
      · exact absurd rfl hempty
      · rfl
      · rfl
      · rfl
      · exact absurd rfl (hgroup c₀ c₁ c₂ c₃ rest)
    simp [hpart]

/-- A loop that has finished does so in more room. -/
theorem decodeLoop_mono {input : List UInt8} {room room' : Nat}
    (h : (decodeLoop input room).2 = true) (hle : room ≤ room') :
    decodeLoop input room' = decodeLoop input room := by
  fun_induction decodeLoop input room generalizing room' with
  | case1 room => rfl
  | case2 => cases h
  | case3 => cases h
  | case4 c₀ c₁ c₂ c₃ rest room b bLen htwo hroom group =>
    rename_i ih
    rw [decodeLoop_cons bLen group rest rfl (by omega) (by omega) rfl, ih h (by omega)]
  | case5 => cases h

/-! ## What an encoder makes -/

theorem encodeByte_sextet (c : UInt8) (hc : c ∈ encodeTable) :
    encodeByte (sextet c) = c ∧ sextet c < 64 := by
  have hlt : encodeTable.idxOf c < encodeTable.length := List.idxOf_lt_length_iff.mpr hc
  have hsize : encodeTable.length = 64 := rfl
  have hindex : (sextet c).toNat = encodeTable.idxOf c := by
    rw [sextet, UInt8.toNat_ofNat']
    exact Nat.mod_eq_of_lt (by omega)
  constructor
  · rw [encodeByte, hindex, List.getD_eq_getElem?_getD, List.getElem?_eq_getElem hlt,
      List.getElem_idxOf hlt]
    rfl
  · rw [UInt8.lt_iff_toNat_lt, hindex]
    exact Nat.lt_of_lt_of_eq hlt hsize

/-- A property of sextets from its 64 cases. -/
theorem forall_sextet {p : UInt8 → Prop} (h : ∀ n < 64, p (UInt8.ofNat n)) (s : UInt8)
    (hs : s < 64) : p s := by
  have hp := h s.toNat (UInt8.lt_iff_toNat_lt.mp hs)
  rwa [UInt8.ofNat_toNat] at hp

/-- The bits of four sextets in three bytes and back; of the last one under the padding; and the
character of each. -/
theorem sextet_back : ∀ s : UInt8, s < 64 →
    ((s <<< 2) >>> 2 = s ∧ (s <<< 2) &&& 0x03 = 0 ∧
      (s >>> 4) >>> 2 = 0 ∧ ((s >>> 4) &&& 0x03) <<< 4 ||| ((s <<< 4) &&& 0xf0) >>> 4 = s ∧
      ((s >>> 2) &&& 0xf0) >>> 4 = 0) ∧
    (((s <<< 4) &&& 0x0f) <<< 2 = 0 ∧
      ((s >>> 2) &&& 0x0f) <<< 2 ||| ((s <<< 6) &&& 0xc0) >>> 6 = s ∧ (s &&& 0xc0) >>> 6 = 0 ∧
      (s <<< 6) &&& 0x3f = 0 ∧ s &&& 0x3f = s) ∧
    ((s &&& 0x03 = 0 → ((s >>> 2) &&& 0x0f) <<< 2 = s) ∧
      (s &&& 0x0f = 0 → ((s >>> 4) &&& 0x03) <<< 4 = s)) ∧
    encodeByte s ∈ encodeTable ∧ sextet (encodeByte s) = s ∧ encodeByte s ≠ 61 :=
  forall_sextet (by decide +kernel)

theorem or_and (a b mask : UInt8) : (a ||| b) &&& mask = (a &&& mask) ||| (b &&& mask) := by
  apply UInt8.toBitVec_inj.mp
  ext i
  simp [Bool.and_or_distrib_right]

section Groups

variable {c₀ c₁ c₂ c₃ : UInt8} (h₀ : c₀ ∈ encodeTable) (h₁ : c₁ ∈ encodeTable)
include h₀ h₁

theorem encode_first (b₁ : UInt8) (h : (b₁ &&& 0xf0) >>> 4 = ((sextet c₁ <<< 4) &&& 0xf0) >>> 4) :
    encodeByte ((sextet c₀ <<< 2 ||| sextet c₁ >>> 4) >>> 2) = c₀ ∧
      encodeByte ((((sextet c₀ <<< 2 ||| sextet c₁ >>> 4) &&& 0x03) <<< 4) |||
        ((b₁ &&& 0xf0) >>> 4)) = c₁ := by
  obtain ⟨hc₀, hs₀⟩ := encodeByte_sextet c₀ h₀
  obtain ⟨hc₁, hs₁⟩ := encodeByte_sextet c₁ h₁
  obtain ⟨hself, hlow, _⟩ := (sextet_back _ hs₀).1
  obtain ⟨_, _, hhigh, hboth, _⟩ := (sextet_back _ hs₁).1
  constructor
  · rw [UInt8.shiftRight_or, hself, hhigh, UInt8.or_zero, hc₀]
  · rw [h, or_and, hlow, UInt8.zero_or, hboth, hc₁]

theorem encodeGroup_three (h₂ : c₂ ∈ encodeTable) (h₃ : c₃ ∈ encodeTable) :
    encodeGroup (sextet c₀ <<< 2 ||| sextet c₁ >>> 4) (sextet c₁ <<< 4 ||| sextet c₂ >>> 2)
      (sextet c₂ <<< 6 ||| sextet c₃) 3 = [c₀, c₁, c₂, c₃] := by
  obtain ⟨_, hs₁⟩ := encodeByte_sextet c₁ h₁
  obtain ⟨hc₂, hs₂⟩ := encodeByte_sextet c₂ h₂
  obtain ⟨hc₃, hs₃⟩ := encodeByte_sextet c₃ h₃
  obtain ⟨_, _, _, _, hnext⟩ := (sextet_back _ hs₂).1
  obtain ⟨hbefore, _⟩ := (sextet_back _ hs₁).2.1
  obtain ⟨_, hboth, _, hgone, _⟩ := (sextet_back _ hs₂).2.1
  obtain ⟨_, _, habove, _, hlast⟩ := (sextet_back _ hs₃).2.1
  have hfirst := encode_first h₀ h₁ (sextet c₁ <<< 4 ||| sextet c₂ >>> 2)
    (by rw [or_and, UInt8.shiftRight_or, hnext, UInt8.or_zero])
  rw [encodeGroup, if_pos (by decide), if_pos (by decide), hfirst.1, hfirst.2]
  rw [or_and, UInt8.shiftLeft_or, hbefore, UInt8.zero_or, or_and, UInt8.shiftRight_or, habove,
    UInt8.or_zero, hboth, hc₂, or_and, hgone, UInt8.zero_or, hlast, hc₃]

theorem encodeGroup_two (h₂ : c₂ ∈ encodeTable) (hzero : sextet c₂ &&& 0x03 = 0) :
    encodeGroup (sextet c₀ <<< 2 ||| sextet c₁ >>> 4) (sextet c₁ <<< 4 ||| sextet c₂ >>> 2) 0 2 =
      [c₀, c₁, c₂, 61] := by
  obtain ⟨_, hs₁⟩ := encodeByte_sextet c₁ h₁
  obtain ⟨hc₂, hs₂⟩ := encodeByte_sextet c₂ h₂
  obtain ⟨_, _, _, _, hnext⟩ := (sextet_back _ hs₂).1
  obtain ⟨hbefore, _⟩ := (sextet_back _ hs₁).2.1
  have hfirst := encode_first h₀ h₁ (sextet c₁ <<< 4 ||| sextet c₂ >>> 2)
    (by rw [or_and, UInt8.shiftRight_or, hnext, UInt8.or_zero])
  have hnone : ((0 : UInt8) &&& 0xc0) >>> 6 = 0 := by decide
  rw [encodeGroup, if_pos (by decide), if_neg (by decide), hfirst.1, hfirst.2, hnone,
    UInt8.or_zero, or_and, UInt8.shiftLeft_or, hbefore, UInt8.zero_or,
    (sextet_back _ hs₂).2.2.1.1 hzero, hc₂]

theorem encodeGroup_one (hzero : sextet c₁ &&& 0x0f = 0) :
    encodeGroup (sextet c₀ <<< 2 ||| sextet c₁ >>> 4) 0 0 1 = [c₀, c₁, 61, 61] := by
  obtain ⟨hc₀, hs₀⟩ := encodeByte_sextet c₀ h₀
  obtain ⟨hc₁, hs₁⟩ := encodeByte_sextet c₁ h₁
  obtain ⟨hself, hlow, _⟩ := (sextet_back _ hs₀).1
  obtain ⟨_, _, hhigh, _⟩ := (sextet_back _ hs₁).1
  have hnone : ((0 : UInt8) &&& 0xf0) >>> 4 = 0 := by decide
  rw [encodeGroup, if_neg (by decide), if_neg (by decide), UInt8.shiftRight_or, hself, hhigh,
    UInt8.or_zero, hc₀, hnone, UInt8.or_zero, or_and, hlow, UInt8.zero_or,
    (sextet_back _ hs₁).2.2.1.2 hzero, hc₁]

end Groups

/-- A canonical string is the encoding of some bytes. -/
theorem canonical_encoded {input : List UInt8} (h : Canonical input = true) :
    ∃ bytes, ∀ room, input.length ≤ room → encodeLoop bytes room = (input, true) := by
  fun_induction Canonical input with
  | case1 => exact ⟨[], fun _ _ => rfl⟩
  | case2 c₀ c₁ =>
    simp only [Bool.and_eq_true, decide_eq_true_eq, beq_iff_eq] at h
    obtain ⟨⟨h₀, h₁⟩, hzero⟩ := h
    refine ⟨[sextet c₀ <<< 2 ||| sextet c₁ >>> 4], fun room hroom => ?_⟩
    rw [encodeLoop, if_neg (by simpa using hroom), encodeGroup_one h₀ h₁ hzero]
  | case3 c₀ c₁ c₂ _ =>
    simp only [Bool.and_eq_true, decide_eq_true_eq, beq_iff_eq] at h
    obtain ⟨⟨⟨h₀, h₁⟩, h₂⟩, hzero⟩ := h
    refine ⟨[sextet c₀ <<< 2 ||| sextet c₁ >>> 4, sextet c₁ <<< 4 ||| sextet c₂ >>> 2],
      fun room hroom => ?_⟩
    rw [encodeLoop, if_neg (by simpa using hroom), encodeGroup_two h₀ h₁ h₂ hzero]
  | case4 c₀ c₁ c₂ c₃ rest _ _ ih =>
    simp only [Bool.and_eq_true, decide_eq_true_eq] at h
    obtain ⟨⟨⟨⟨h₀, h₁⟩, h₂⟩, h₃⟩, hrest⟩ := h
    obtain ⟨bytes, hbytes⟩ := ih hrest
    refine ⟨(sextet c₀ <<< 2 ||| sextet c₁ >>> 4) :: (sextet c₁ <<< 4 ||| sextet c₂ >>> 2) ::
      (sextet c₂ <<< 6 ||| sextet c₃) :: bytes, fun room hroom => ?_⟩
    simp only [List.length_cons] at hroom
    rw [encodeLoop, if_neg (by omega), hbytes (room - 4) (by omega),
      encodeGroup_three h₀ h₁ h₂ h₃]
    rfl
  | case5 => cases h

/-- Every byte the encoder writes is of the alphabet. -/
theorem encodeByte_mem (i : UInt8) (hi : i < 64) : encodeByte i ∈ encodeTable ∧
    sextet (encodeByte i) = i ∧ encodeByte i ≠ 61 :=
  (sextet_back i hi).2.2.2

section Made

variable {i j k l : UInt8} (hi : i < 64) (hj : j < 64)
include hi hj

theorem canonical_one (hzero : j &&& 0x0f = 0) :
    Canonical [encodeByte i, encodeByte j, 61, 61] = true := by
  obtain ⟨h₀, _⟩ := encodeByte_mem i hi
  obtain ⟨h₁, hs₁, _⟩ := encodeByte_mem j hj
  simp [Canonical, h₀, h₁, hs₁, hzero]

theorem canonical_two (hk : k < 64) (hzero : k &&& 0x03 = 0) :
    Canonical [encodeByte i, encodeByte j, encodeByte k, 61] = true := by
  obtain ⟨h₀, _⟩ := encodeByte_mem i hi
  obtain ⟨h₁, _⟩ := encodeByte_mem j hj
  obtain ⟨h₂, hs₂, hne⟩ := encodeByte_mem k hk
  rw [Canonical]
  · simp [h₀, h₁, h₂, hs₂, hzero]
  · exact hne

theorem canonical_three (hk : k < 64) (hl : l < 64) {rest : List UInt8}
    (hrest : Canonical rest = true) :
    Canonical ([encodeByte i, encodeByte j, encodeByte k, encodeByte l] ++ rest) = true := by
  obtain ⟨h₀, _⟩ := encodeByte_mem i hi
  obtain ⟨h₁, _⟩ := encodeByte_mem j hj
  obtain ⟨h₂, _⟩ := encodeByte_mem k hk
  obtain ⟨h₃, _, hne⟩ := encodeByte_mem l hl
  simp only [List.cons_append, List.nil_append]
  rw [Canonical]
  · simp [h₀, h₁, h₂, h₃, hrest]
  · exact fun _ hl _ => hne hl
  · exact fun hl _ => hne hl

end Made

theorem encoded_canonical {bytes : List UInt8} {room : Nat}
    (h : (encodeLoop bytes room).2 = true) : Canonical (encodeLoop bytes room).1 = true := by
  fun_induction encodeLoop bytes room with
  | case1 => rfl
  | case2 => cases h
  | case3 b room hfits =>
    apply canonical_one (first_sextet_lt b) (second_sextet_lt b 0)
    have hnone : ((0 : UInt8) &&& 0xf0) >>> 4 = 0 := by decide
    rw [hnone, UInt8.or_zero]
    exact (parts_joined b).2.2.2.2.2.2.2.1
  | case4 => cases h
  | case5 b c room hfits =>
    apply canonical_two (first_sextet_lt b) (second_sextet_lt b c) (third_sextet_lt c 0)
    have hnone : ((0 : UInt8) &&& 0xc0) >>> 6 = 0 := by decide
    rw [hnone, UInt8.or_zero]
    exact (parts_joined c).2.2.2.2.2.2.2.2
  | case6 => cases h
  | case7 b₀ b₁ b₂ rest room hfits ih =>
    exact canonical_three (first_sextet_lt b₀) (second_sextet_lt b₀ b₁) (third_sextet_lt b₁ b₂)
      (last_sextet_lt b₂) (ih h)

/-- The canonical strings are those the encoder makes. -/
theorem canonical_iff (input : List UInt8) : Canonical input = true ↔
    ∃ bytes room, encodeLoop bytes room = (input, true) := by
  constructor
  · intro h
    obtain ⟨bytes, hbytes⟩ := canonical_encoded h
    exact ⟨bytes, input.length, hbytes _ (Nat.le_refl _)⟩
  · rintro ⟨bytes, room, hbytes⟩
    have hdone : (encodeLoop bytes room).2 = true := by rw [hbytes]
    have hcanonical := encoded_canonical hdone
    rwa [hbytes] at hcanonical

/-! ## Which strings are refused -/

/-- What comes back non-negative encodes to the string, and a string the encoder does not make
is refused. -/
def AcceptsEncodings (input : List UInt8) (outSize : Nat) : Prop :=
  (0 ≤ (base64Decode input outSize).count → ∀ room, input.length ≤ room →
    (base64Encode (base64Decode input outSize).out room).out = input) ∧
  (Canonical input = false → (base64Decode input outSize).count = -1)

theorem canonical_accepts {input : List UInt8} (h : Canonical input = true) (outSize : Nat) :
    AcceptsEncodings input outSize := by
  obtain ⟨bytes, hbytes⟩ := canonical_encoded h
  refine ⟨fun hcount room hroom => ?_, fun hnot => absurd (h.symm.trans hnot) (by decide)⟩
  rw [base64Decode, Written.of] at hcount ⊢
  have hfinished : (decodeLoop input outSize).2 = true := by
    by_contra hstopped
    dsimp only at hcount
    rw [if_neg hstopped] at hcount
    omega
  have hencoded := hbytes input.length (Nat.le_refl _)
  have hback := decodeLoop_encodeLoop bytes input.length (max outSize bytes.length)
    (by rw [hencoded]) (Nat.le_max_right _ _)
  rw [hencoded, decodeLoop_mono hfinished (Nat.le_max_left _ _)] at hback
  rw [hback, base64Encode, Written.of, hbytes room hroom]

/-- The decoder accepts encodings only, exactly where the string is one, or is refused for its
length, for too few characters in a group or for want of room; a count that wraps to `-1` apart. -/
theorem accepts_encodings_iff (input : List UInt8) (outSize : Nat) :
    AcceptsEncodings input outSize ↔ Canonical input = true ∨ Whole input = false ∨
      outSize < decodedLength input ∨ decodedLength input % 4294967296 = 4294967295 := by
  obtain ⟨hfinished, hlength⟩ := decodeLoop_finished input outSize
  have hcount : (base64Decode input outSize).count = if (decodeLoop input outSize).2 then
      toInt32 (decodeLoop input outSize).1.length else -1 := rfl
  constructor
  · rintro ⟨_, hrefused⟩
    by_cases hcanonical : Canonical input = true
    · exact Or.inl hcanonical
    refine Or.inr ?_
    by_cases hdone : (decodeLoop input outSize).2 = true
    · have hneg := hrefused (Bool.not_eq_true _ ▸ hcanonical)
      rw [hcount, if_pos hdone, hlength hdone] at hneg
      refine Or.inr (Or.inr ?_)
      rw [toInt32, toUint32] at hneg
      omega
    · rw [hfinished, not_and_or, Nat.not_le] at hdone
      rcases hdone with hpart | hroom
      · exact Or.inl (Bool.not_eq_true _ ▸ hpart)
      · exact Or.inr (Or.inl hroom)
  · rintro (hcanonical | hrefused)
    · exact canonical_accepts hcanonical outSize
    · have hneg : (base64Decode input outSize).count = -1 := by
        rw [hcount]
        split
        · rename_i hdone
          obtain ⟨hwhole, hfits⟩ := hfinished.mp hdone
          rw [hlength hdone, toInt32, toUint32]
          rcases hrefused with hpart | hroom | hwraps
          · rw [hpart] at hwhole
            cases hwhole
          · omega
          · omega
        · rfl
      refine ⟨fun hnonneg => ?_, fun _ => hneg⟩
      omega

/-- The encoding of one byte, and three characters that are no group. -/
theorem accepts_encodings_two : AcceptsEncodings [65, 65, 61, 61] 4 ∧
    AcceptsEncodings [65, 66, 67] 3 :=
  ⟨(accepts_encodings_iff _ _).mpr (Or.inl (by decide)),
    (accepts_encodings_iff _ _).mpr (Or.inr (Or.inl (by decide)))⟩

/-- `AB==` has bits under its padding, `A=BC` the padding in its second place, and `AAA,` a
character that is in a hole of the table: none is refused. -/
theorem accepts_more : (base64Decode [65, 66, 61, 61] 4).count = 1 ∧
    (base64Decode [65, 61, 66, 67] 4).count = 2 ∧
    (base64Decode [65, 65, 65, 44] 4).count = 3 ∧
    ¬ ∀ input outSize, AcceptsEncodings input outSize := by
  refine ⟨by decide, by decide, by decide, ?_⟩
  intro hall
  have hrefused := (hall [65, 66, 61, 61] 4).2 (by decide)
  exact absurd hrefused (by decide)

end Base64

end Mysya
