import Mathlib.Data.Fintype.Basic
import Mathlib.Data.List.OfFn
import Mathlib.Tactic.Common
import Mathlib.Tactic.FinCases
import Mysya.MachineInts

/-!
# The gateway's cipher

`gateway::Aes`: the block cipher on a four by four state, and the two functions
on a stretch of memory, which exchange a byte with `0x06` where there are at
most sixteen of them and otherwise go over blocks, the last one to sixteen
bytes left as they are. Given length zero, `Encode` takes the bytes up to a zero.
-/

namespace Mysya

namespace Aes

/-- `unsigned char state[4][4]`, column by column. -/
structure State where
  bytes : List UInt8
  sized : bytes.length = 16

namespace State

/-- `state[r][c]`. -/
def get (state : State) (r c : Fin 4) : UInt8 := state.bytes.getD (c * 4 + r) 0

def fill (f : Fin 4 → Fin 4 → UInt8) : State where
  bytes := List.ofFn fun i : Fin 16 => f (Fin.ofNat 4 (i % 4)) (Fin.ofNat 4 (i / 4))
  sized := by simp

@[simp] theorem get_fill (f : Fin 4 → Fin 4 → UInt8) (r c : Fin 4) :
    (fill f).get r c = f r c := by
  fin_cases r <;> fin_cases c <;> rfl

theorem ext_get {state other : State} (h : ∀ r c, state.get r c = other.get r c) :
    state = other := by
  obtain ⟨bs, hbs⟩ := state
  obtain ⟨cs, hcs⟩ := other
  congr 1
  apply List.ext_getElem (by omega)
  intro i hi hi'
  have hcell := h (Fin.ofNat 4 (i % 4)) (Fin.ofNat 4 (i / 4))
  have hindex : i / 4 % 4 * 4 + i % 4 % 4 = i := by omega
  simp only [get, Fin.val_ofNat, hindex, List.getD_eq_getElem?_getD] at hcell
  rwa [List.getElem?_eq_getElem hi, List.getElem?_eq_getElem hi'] at hcell

end State

def box : List UInt8 :=
  [0x63, 0x7c, 0x77, 0x7b, 0xf2, 0x6b, 0x6f, 0xc5, 0x30, 0x01, 0x67, 0x2b, 0xfe, 0xd7, 0xab, 0x76,
   0xca, 0x82, 0xc9, 0x7d, 0xfa, 0x59, 0x47, 0xf0, 0xad, 0xd4, 0xa2, 0xaf, 0x9c, 0xa4, 0x72, 0xc0,
   0xb7, 0xfd, 0x93, 0x26, 0x36, 0x3f, 0xf7, 0xcc, 0x34, 0xa5, 0xe5, 0xf1, 0x71, 0xd8, 0x31, 0x15,
   0x04, 0xc7, 0x23, 0xc3, 0x18, 0x96, 0x05, 0x9a, 0x07, 0x12, 0x80, 0xe2, 0xeb, 0x27, 0xb2, 0x75,
   0x09, 0x83, 0x2c, 0x1a, 0x1b, 0x6e, 0x5a, 0xa0, 0x52, 0x3b, 0xd6, 0xb3, 0x29, 0xe3, 0x2f, 0x84,
   0x53, 0xd1, 0x00, 0xed, 0x20, 0xfc, 0xb1, 0x5b, 0x6a, 0xcb, 0xbe, 0x39, 0x4a, 0x4c, 0x58, 0xcf,
   0xd0, 0xef, 0xaa, 0xfb, 0x43, 0x4d, 0x33, 0x85, 0x45, 0xf9, 0x02, 0x7f, 0x50, 0x3c, 0x9f, 0xa8,
   0x51, 0xa3, 0x40, 0x8f, 0x92, 0x9d, 0x38, 0xf5, 0xbc, 0xb6, 0xda, 0x21, 0x10, 0xff, 0xf3, 0xd2,
   0xcd, 0x0c, 0x13, 0xec, 0x5f, 0x97, 0x44, 0x17, 0xc4, 0xa7, 0x7e, 0x3d, 0x64, 0x5d, 0x19, 0x73,
   0x60, 0x81, 0x4f, 0xdc, 0x22, 0x2a, 0x90, 0x88, 0x46, 0xee, 0xb8, 0x14, 0xde, 0x5e, 0x0b, 0xdb,
   0xe0, 0x32, 0x3a, 0x0a, 0x49, 0x06, 0x24, 0x5c, 0xc2, 0xd3, 0xac, 0x62, 0x91, 0x95, 0xe4, 0x79,
   0xe7, 0xc8, 0x37, 0x6d, 0x8d, 0xd5, 0x4e, 0xa9, 0x6c, 0x56, 0xf4, 0xea, 0x65, 0x7a, 0xae, 0x08,
   0xba, 0x78, 0x25, 0x2e, 0x1c, 0xa6, 0xb4, 0xc6, 0xe8, 0xdd, 0x74, 0x1f, 0x4b, 0xbd, 0x8b, 0x8a,
   0x70, 0x3e, 0xb5, 0x66, 0x48, 0x03, 0xf6, 0x0e, 0x61, 0x35, 0x57, 0xb9, 0x86, 0xc1, 0x1d, 0x9e,
   0xe1, 0xf8, 0x98, 0x11, 0x69, 0xd9, 0x8e, 0x94, 0x9b, 0x1e, 0x87, 0xe9, 0xce, 0x55, 0x28, 0xdf,
   0x8c, 0xa1, 0x89, 0x0d, 0xbf, 0xe6, 0x42, 0x68, 0x41, 0x99, 0x2d, 0x0f, 0xb0, 0x54, 0xbb, 0x16]

def invBox : List UInt8 :=
  [0x52, 0x09, 0x6a, 0xd5, 0x30, 0x36, 0xa5, 0x38, 0xbf, 0x40, 0xa3, 0x9e, 0x81, 0xf3, 0xd7, 0xfb,
   0x7c, 0xe3, 0x39, 0x82, 0x9b, 0x2f, 0xff, 0x87, 0x34, 0x8e, 0x43, 0x44, 0xc4, 0xde, 0xe9, 0xcb,
   0x54, 0x7b, 0x94, 0x32, 0xa6, 0xc2, 0x23, 0x3d, 0xee, 0x4c, 0x95, 0x0b, 0x42, 0xfa, 0xc3, 0x4e,
   0x08, 0x2e, 0xa1, 0x66, 0x28, 0xd9, 0x24, 0xb2, 0x76, 0x5b, 0xa2, 0x49, 0x6d, 0x8b, 0xd1, 0x25,
   0x72, 0xf8, 0xf6, 0x64, 0x86, 0x68, 0x98, 0x16, 0xd4, 0xa4, 0x5c, 0xcc, 0x5d, 0x65, 0xb6, 0x92,
   0x6c, 0x70, 0x48, 0x50, 0xfd, 0xed, 0xb9, 0xda, 0x5e, 0x15, 0x46, 0x57, 0xa7, 0x8d, 0x9d, 0x84,
   0x90, 0xd8, 0xab, 0x00, 0x8c, 0xbc, 0xd3, 0x0a, 0xf7, 0xe4, 0x58, 0x05, 0xb8, 0xb3, 0x45, 0x06,
   0xd0, 0x2c, 0x1e, 0x8f, 0xca, 0x3f, 0x0f, 0x02, 0xc1, 0xaf, 0xbd, 0x03, 0x01, 0x13, 0x8a, 0x6b,
   0x3a, 0x91, 0x11, 0x41, 0x4f, 0x67, 0xdc, 0xea, 0x97, 0xf2, 0xcf, 0xce, 0xf0, 0xb4, 0xe6, 0x73,
   0x96, 0xac, 0x74, 0x22, 0xe7, 0xad, 0x35, 0x85, 0xe2, 0xf9, 0x37, 0xe8, 0x1c, 0x75, 0xdf, 0x6e,
   0x47, 0xf1, 0x1a, 0x71, 0x1d, 0x29, 0xc5, 0x89, 0x6f, 0xb7, 0x62, 0x0e, 0xaa, 0x18, 0xbe, 0x1b,
   0xfc, 0x56, 0x3e, 0x4b, 0xc6, 0xd2, 0x79, 0x20, 0x9a, 0xdb, 0xc0, 0xfe, 0x78, 0xcd, 0x5a, 0xf4,
   0x1f, 0xdd, 0xa8, 0x33, 0x88, 0x07, 0xc7, 0x31, 0xb1, 0x12, 0x10, 0x59, 0x27, 0x80, 0xec, 0x5f,
   0x60, 0x51, 0x7f, 0xa9, 0x19, 0xb5, 0x4a, 0x0d, 0x2d, 0xe5, 0x7a, 0x9f, 0x93, 0xc9, 0x9c, 0xef,
   0xa0, 0xe0, 0x3b, 0x4d, 0xae, 0x2a, 0xf5, 0xb0, 0xc8, 0xeb, 0xbb, 0x3c, 0x83, 0x53, 0x99, 0x61,
   0x17, 0x2b, 0x04, 0x7e, 0xba, 0x77, 0xd6, 0x26, 0xe1, 0x69, 0x14, 0x63, 0x55, 0x21, 0x0c, 0x7d]

def rc : List UInt8 := [0x01, 0x02, 0x04, 0x08, 0x10, 0x20, 0x40, 0x80, 0x1b, 0x36]

/-- `bw[i]`. -/
def bw (b : UInt8) : Nat → UInt8
  | 0 => b
  | i + 1 => (bw b i <<< 1) ^^^ (if bw b i &&& 0x80 = 0 then 0 else 0x1b)

def ffmul (a b : UInt8) : UInt8 :=
  (List.range 4).foldl
    (fun res i => if (a >>> UInt8.ofNat i) &&& 0x01 = 0 then res else res ^^^ bw b i) 0

def subBytes (state : State) : State := .fill fun r c => box.getD (state.get r c).toNat 0

def shiftRows (state : State) : State := .fill fun r c => state.get r (c + r)

/-- Each byte of a column from all four, its own first. -/
def mixWith (k₀ k₁ k₂ k₃ : UInt8) (state : State) : State := .fill fun r c =>
  ffmul k₀ (state.get r c) ^^^ ffmul k₁ (state.get (r + 1) c) ^^^
    ffmul k₂ (state.get (r + 2) c) ^^^ ffmul k₃ (state.get (r + 3) c)

def mixColumns : State → State := mixWith 0x02 0x03 0x01 0x01

def addRoundKey (state k : State) : State := .fill fun r c => state.get r c ^^^ k.get r c

def invSubBytes (state : State) : State :=
  .fill fun r c => invBox.getD (state.get r c).toNat 0

def invShiftRows (state : State) : State := .fill fun r c => state.get r (c - r)

def invMixColumns : State → State := mixWith 0x0e 0x0b 0x0d 0x09

/-- Column `j` of the round key after `w`, from the column before it. -/
def keyColumn (w : State) (rcon : UInt8) : Nat → Fin 4 → UInt8
  | 0, r => w.get r 0 ^^^ (box.getD (w.get (r + 1) 3).toNat 0 ^^^ if r = 0 then rcon else 0)
  | j + 1, r => w.get r (Fin.ofNat 4 (j + 1)) ^^^ keyColumn w rcon j r

def load (input : List UInt8) : State := .fill fun r c => input.getD (c * 4 + r) 0

def keyExpansion (key : List UInt8) : Nat → State
  | 0 => load key
  | i + 1 =>
    let w := keyExpansion key i
    .fill fun r c => keyColumn w (rc.getD i 0) c r

/-- The first `i` rounds. -/
def encodeRounds (w : Nat → State) : Nat → State → State
  | 0, state => addRoundKey state (w 0)
  | i + 1, state =>
    let state := shiftRows (subBytes (encodeRounds w i state))
    let state := if i + 1 ≠ 10 then mixColumns state else state
    addRoundKey state (w (i + 1))

/-- The rounds from `i` down to zero. -/
def decodeRounds (w : Nat → State) : Nat → State → State
  | 0, state => addRoundKey (invSubBytes (invShiftRows state)) (w 0)
  | i + 1, state =>
    decodeRounds w i
      (invMixColumns (addRoundKey (invSubBytes (invShiftRows state)) (w (i + 1))))

/-- `Encode(unsigned char *)`. -/
def encodeBlock (w : Nat → State) (input : List UInt8) : List UInt8 :=
  (encodeRounds w 10 (load input)).bytes

/-- `Decode(unsigned char *)`. -/
def decodeBlock (w : Nat → State) (input : List UInt8) : List UInt8 :=
  (decodeRounds w 9 (addRoundKey (load input) (w 10))).bytes

/-- The loop over the blocks of `length` bytes. -/
def mapBlocks (f : List UInt8 → List UInt8) (length : Nat) (mem : List UInt8) : List UInt8 :=
  if 16 < length then f (mem.take 16) ++ mapBlocks f (length - 16) (mem.drop 16) else mem
termination_by length

/-- The bytes of at most a block, exchanged with `0x06`. -/
def exchange (length : Nat) (mem : List UInt8) : List UInt8 :=
  (mem.take length).map (· ^^^ 0x06) ++ mem.drop length

/-- `while (*(in + length++))`; nothing where no zero is left in the memory. -/
def scan (mem : List UInt8) : Option Nat :=
  if 0 ∈ mem then some (mem.idxOf 0 + 1) else none

def transform (f : List UInt8 → List UInt8) (length : Nat) (mem : List UInt8) : List UInt8 :=
  if length ≤ 16 then exchange length mem else mapBlocks f length mem

/-- `Encode(void *, int)` on the memory from `input` on. -/
def encode (w : Nat → State) (mem : List UInt8) (length : Nat) : Option (List UInt8) :=
  (if length = 0 then scan mem else some length).map fun n => transform (encodeBlock w) n mem

/-- `Decode(void *, int)`; a negative length is one of no bytes. -/
def decode (w : Nat → State) (mem : List UInt8) (length : Int) : List UInt8 :=
  transform (decodeBlock w) length.toNat mem

/-! ## Each step has its inverse -/

/-- The table of the inverse, looked up along the table. -/
theorem box_map_invBox :
    (box.map fun b => invBox.getD b.toNat 0) = (List.range 256).map UInt8.ofNat := by
  decide +kernel

theorem invBox_box (b : UInt8) : invBox.getD (box.getD b.toNat 0).toNat 0 = b := by
  have hsize : box.length = 256 := by
    simpa only [List.length_map, List.length_range] using congrArg List.length box_map_invBox
  have hlength : b.toNat < box.length := hsize ▸ b.toNat_lt
  have hrow : (box.map fun b => invBox.getD b.toNat 0)[b.toNat]? =
      ((List.range 256).map UInt8.ofNat)[b.toNat]? := by
    rw [box_map_invBox]
  rw [List.getElem?_map, List.getElem?_map, List.getElem?_eq_getElem hlength,
    List.getElem?_range b.toNat_lt] at hrow
  rw [List.getD_eq_getElem?_getD (l := box), List.getElem?_eq_getElem hlength]
  simpa using hrow

/-- The highest bit of a byte, and its two nibbles. -/
theorem byte_parts : ∀ b : UInt8, (b &&& 0x80 = 0 ∨ b &&& 0x80 = 0x80) ∧
    UInt8.ofNat (16 * (b.toNat / 16)) ^^^ UInt8.ofNat (b.toNat % 16) = b :=
  forall_byte (by decide +kernel)

theorem and_xor (a b mask : UInt8) : (a ^^^ b) &&& mask = (a &&& mask) ^^^ (b &&& mask) := by
  apply UInt8.toBitVec_inj.mp
  ext i
  simp [Bool.and_xor_distrib_right]

theorem xor_left_comm (a b c : UInt8) : a ^^^ (b ^^^ c) = b ^^^ (a ^^^ c) := by
  rw [← UInt8.xor_assoc, UInt8.xor_comm a b, UInt8.xor_assoc]

theorem bw_xor (a b : UInt8) (i : Nat) : bw (a ^^^ b) i = bw a i ^^^ bw b i := by
  induction i with
  | zero => rfl
  | succ i ih =>
    have hwrap : (if (bw a i ^^^ bw b i) &&& 0x80 = 0 then (0 : UInt8) else 0x1b) =
        (if bw a i &&& 0x80 = 0 then 0 else 0x1b) ^^^
          (if bw b i &&& 0x80 = 0 then 0 else 0x1b) := by
      rw [and_xor]
      rcases (byte_parts (bw a i)).1 with ha | ha <;>
        rcases (byte_parts (bw b i)).1 with hb | hb <;>
        rw [ha, hb] <;> rfl
    rw [bw, bw, bw, ih, UInt8.shiftLeft_xor, hwrap]
    simp only [UInt8.xor_assoc, xor_left_comm]

theorem ffmul_xor (k a b : UInt8) : ffmul k (a ^^^ b) = ffmul k a ^^^ ffmul k b := by
  have hfold : ∀ (l : List Nat) (ra rb : UInt8),
      l.foldl (fun res i => if (k >>> UInt8.ofNat i) &&& 0x01 = 0 then res
          else res ^^^ bw (a ^^^ b) i) (ra ^^^ rb) =
        l.foldl (fun res i => if (k >>> UInt8.ofNat i) &&& 0x01 = 0 then res
          else res ^^^ bw a i) ra ^^^
        l.foldl (fun res i => if (k >>> UInt8.ofNat i) &&& 0x01 = 0 then res
          else res ^^^ bw b i) rb := by
    intro l
    induction l with
    | nil =>
      intro ra rb
      rfl
    | cons i rest ih =>
      intro ra rb
      simp only [List.foldl_cons]
      by_cases hbit : (k >>> UInt8.ofNat i) &&& 0x01 = 0
      · simp only [hbit, if_true]
        exact ih ra rb
      · simp only [hbit, if_false]
        rw [← ih, bw_xor]
        congr 1
        ac_rfl
  exact hfold (List.range 4) 0 0

/-- A sum of products is additive, so it is known from the sixteen values of each nibble. -/
theorem mix_eq (k₀ k₁ k₂ k₃ j₀ j₁ j₂ j₃ : UInt8) (g : UInt8 → UInt8)
    (hg : ∀ a b, g (a ^^^ b) = g a ^^^ g b)
    (h : ∀ n < 16, ∀ b ∈ [UInt8.ofNat (16 * n), UInt8.ofNat n],
      ffmul k₀ (ffmul j₀ b) ^^^ ffmul k₁ (ffmul j₁ b) ^^^ ffmul k₂ (ffmul j₂ b) ^^^
        ffmul k₃ (ffmul j₃ b) = g b) (b : UInt8) :
    ffmul k₀ (ffmul j₀ b) ^^^ ffmul k₁ (ffmul j₁ b) ^^^ ffmul k₂ (ffmul j₂ b) ^^^
      ffmul k₃ (ffmul j₃ b) = g b := by
  have hlt := b.toNat_lt
  have hhigh := h (b.toNat / 16) (by omega) _ (List.mem_cons_self ..)
  have hlow := h (b.toNat % 16) (by omega) _ (List.mem_cons_of_mem _ (List.mem_cons_self ..))
  rw [← (byte_parts b).2]
  rw [hg, ← hhigh, ← hlow]
  simp only [ffmul_xor]
  ac_rfl

/-- The two matrices, one against the other. -/
theorem mix_nibbles : ∀ n < 16, ∀ b ∈ [UInt8.ofNat (16 * n), UInt8.ofNat n],
    ffmul 0x0e (ffmul 0x02 b) ^^^ ffmul 0x0b (ffmul 0x01 b) ^^^ ffmul 0x0d (ffmul 0x01 b) ^^^
      ffmul 0x09 (ffmul 0x03 b) = b ∧
    ffmul 0x0e (ffmul 0x03 b) ^^^ ffmul 0x0b (ffmul 0x02 b) ^^^ ffmul 0x0d (ffmul 0x01 b) ^^^
      ffmul 0x09 (ffmul 0x01 b) = 0 ∧
    ffmul 0x0e (ffmul 0x01 b) ^^^ ffmul 0x0b (ffmul 0x03 b) ^^^ ffmul 0x0d (ffmul 0x02 b) ^^^
      ffmul 0x09 (ffmul 0x01 b) = 0 ∧
    ffmul 0x0e (ffmul 0x01 b) ^^^ ffmul 0x0b (ffmul 0x01 b) ^^^ ffmul 0x0d (ffmul 0x03 b) ^^^
      ffmul 0x09 (ffmul 0x02 b) = 0 := by
  decide +kernel

theorem mix_same : ∀ b : UInt8, ffmul 0x0e (ffmul 0x02 b) ^^^ ffmul 0x0b (ffmul 0x01 b) ^^^
    ffmul 0x0d (ffmul 0x01 b) ^^^ ffmul 0x09 (ffmul 0x03 b) = b :=
  mix_eq _ _ _ _ _ _ _ _ id (fun _ _ => rfl) fun n hn b hb => (mix_nibbles n hn b hb).1

theorem mix_next : ∀ b : UInt8, ffmul 0x0e (ffmul 0x03 b) ^^^ ffmul 0x0b (ffmul 0x02 b) ^^^
    ffmul 0x0d (ffmul 0x01 b) ^^^ ffmul 0x09 (ffmul 0x01 b) = 0 :=
  mix_eq _ _ _ _ _ _ _ _ (fun _ => 0) (fun _ _ => rfl)
    fun n hn b hb => (mix_nibbles n hn b hb).2.1

theorem mix_opposite : ∀ b : UInt8, ffmul 0x0e (ffmul 0x01 b) ^^^ ffmul 0x0b (ffmul 0x03 b) ^^^
    ffmul 0x0d (ffmul 0x02 b) ^^^ ffmul 0x09 (ffmul 0x01 b) = 0 :=
  mix_eq _ _ _ _ _ _ _ _ (fun _ => 0) (fun _ _ => rfl)
    fun n hn b hb => (mix_nibbles n hn b hb).2.2.1

theorem mix_previous : ∀ b : UInt8, ffmul 0x0e (ffmul 0x01 b) ^^^ ffmul 0x0b (ffmul 0x01 b) ^^^
    ffmul 0x0d (ffmul 0x03 b) ^^^ ffmul 0x09 (ffmul 0x02 b) = 0 :=
  mix_eq _ _ _ _ _ _ _ _ (fun _ => 0) (fun _ _ => rfl)
    fun n hn b hb => (mix_nibbles n hn b hb).2.2.2

/-- Four columns of a four by four sum, each from the row before it. -/
theorem xor_diagonals (a₀ a₁ a₂ a₃ b₀ b₁ b₂ b₃ c₀ c₁ c₂ c₃ d₀ d₁ d₂ d₃ : UInt8) :
    (a₀ ^^^ a₁ ^^^ a₂ ^^^ a₃) ^^^ (b₁ ^^^ b₂ ^^^ b₃ ^^^ b₀) ^^^ (c₂ ^^^ c₃ ^^^ c₀ ^^^ c₁) ^^^
        (d₃ ^^^ d₀ ^^^ d₁ ^^^ d₂) =
      (a₀ ^^^ b₀ ^^^ c₀ ^^^ d₀) ^^^ (a₁ ^^^ b₁ ^^^ c₁ ^^^ d₁) ^^^ (a₂ ^^^ b₂ ^^^ c₂ ^^^ d₂) ^^^
        (a₃ ^^^ b₃ ^^^ c₃ ^^^ d₃) := by
  ac_rfl

theorem invMixColumns_mixColumns (state : State) : invMixColumns (mixColumns state) = state := by
  apply State.ext_get
  intro r c
  have hrow : r + 1 + 1 = r + 2 ∧ r + 1 + 2 = r + 3 ∧ r + 1 + 3 = r ∧ r + 2 + 1 = r + 3 ∧
      r + 2 + 2 = r ∧ r + 2 + 3 = r + 1 ∧ r + 3 + 1 = r ∧ r + 3 + 2 = r + 1 ∧
      r + 3 + 3 = r + 2 := by
    revert r
    decide
  simp only [invMixColumns, mixColumns, mixWith, State.get_fill, ffmul_xor, hrow]
  rw [xor_diagonals, mix_same, mix_next, mix_opposite, mix_previous]
  simp

theorem invSubBytes_subBytes (state : State) : invSubBytes (subBytes state) = state := by
  apply State.ext_get
  intro r c
  simp only [invSubBytes, subBytes, State.get_fill]
  exact invBox_box _

theorem invShiftRows_shiftRows (state : State) : invShiftRows (shiftRows state) = state := by
  apply State.ext_get
  intro r c
  have hback : c - r + r = c := by
    revert r c
    decide
  simp only [invShiftRows, shiftRows, State.get_fill, hback]

theorem addRoundKey_addRoundKey (state k : State) :
    addRoundKey (addRoundKey state k) k = state := by
  apply State.ext_get
  intro r c
  simp only [addRoundKey, State.get_fill]
  rw [UInt8.xor_assoc, UInt8.xor_self, UInt8.xor_zero]

/-! ## A block comes back -/

/-- What the last round of an encryption undoes first. -/
theorem invSubBytes_invShiftRows (state : State) :
    invSubBytes (invShiftRows (shiftRows (subBytes state))) = state := by
  rw [invShiftRows_shiftRows, invSubBytes_subBytes]

theorem decodeRounds_encodeRounds (w : Nat → State) (i : Nat) (hi : i < 10) (state : State) :
    decodeRounds w i (shiftRows (subBytes (encodeRounds w i state))) = state := by
  induction i with
  | zero => rw [decodeRounds, invSubBytes_invShiftRows, encodeRounds, addRoundKey_addRoundKey]
  | succ i ih =>
    have hmix : i + 1 ≠ 10 := by omega
    rw [decodeRounds, invSubBytes_invShiftRows, encodeRounds]
    simp only [hmix, ne_eq, not_false_eq_true, if_true]
    rw [addRoundKey_addRoundKey, invMixColumns_mixColumns, ih (by omega)]

theorem load_bytes (state : State) : load state.bytes = state := by
  apply State.ext_get
  intro r c
  rw [load, State.get_fill]
  rfl

theorem bytes_load {block : List UInt8} (h : block.length = 16) : (load block).bytes = block := by
  have hload : load block = ⟨block, h⟩ := load_bytes ⟨block, h⟩
  rw [hload]

theorem decodeBlock_encodeBlock (w : Nat → State) {block : List UInt8}
    (h : block.length = 16) : decodeBlock w (encodeBlock w block) = block := by
  rw [decodeBlock, encodeBlock, load_bytes, encodeRounds]
  simp only [ne_eq, not_true_eq_false, if_false]
  rw [addRoundKey_addRoundKey, decodeRounds_encodeRounds w 9 (by omega), bytes_load h]

theorem length_encodeBlock (w : Nat → State) (block : List UInt8) :
    (encodeBlock w block).length = 16 :=
  State.sized _

/-- The published example of the cipher. -/
example : encodeBlock (keyExpansion ((List.range 16).map UInt8.ofNat))
    ((List.range 16).map fun i => UInt8.ofNat (i * 17)) =
      [0x69, 0xc4, 0xe0, 0xd8, 0x6a, 0x7b, 0x04, 0x30, 0xd8, 0xcd, 0xb7, 0x80, 0x70, 0xb4,
        0xc5, 0x5a] := by
  decide +kernel

/-! ## A stretch of memory comes back -/

theorem mapBlocks_of_lt (f : List UInt8 → List UInt8) {length : Nat} (h : 16 < length)
    (mem : List UInt8) :
    mapBlocks f length mem = f (mem.take 16) ++ mapBlocks f (length - 16) (mem.drop 16) := by
  rw [mapBlocks, if_pos h]

theorem mapBlocks_of_le (f : List UInt8 → List UInt8) {length : Nat} (h : length ≤ 16)
    (mem : List UInt8) : mapBlocks f length mem = mem := by
  rw [mapBlocks, if_neg (by omega)]

theorem length_mapBlocks {f : List UInt8 → List UInt8} (hf : ∀ b, (f b).length = 16)
    (length : Nat) (mem : List UInt8) (h : length ≤ mem.length) :
    (mapBlocks f length mem).length = mem.length := by
  fun_induction mapBlocks f length mem with
  | case1 length mem hlong ih =>
    rw [List.length_append, hf, ih (by rw [List.length_drop]; omega), List.length_drop]
    omega
  | case2 => rfl

theorem mapBlocks_inverse {f g : List UInt8 → List UInt8} (hf : ∀ b, (f b).length = 16)
    (hgf : ∀ b : List UInt8, b.length = 16 → g (f b) = b) (length : Nat) (mem : List UInt8)
    (h : length ≤ mem.length) : mapBlocks g length (mapBlocks f length mem) = mem := by
  fun_induction mapBlocks f length mem with
  | case1 length mem hlong ih =>
    have hblock : (mem.take 16).length = 16 := List.length_take_of_le (by omega)
    rw [mapBlocks_of_lt g hlong, List.take_left' (hf _), List.drop_left' (hf _),
      ih (by rw [List.length_drop]; omega), hgf _ hblock, List.take_append_drop]
  | case2 length mem hshort => exact mapBlocks_of_le g (by omega) mem

/-- The blocks of the first `length` bytes do not depend on what follows them. -/
theorem mapBlocks_append (f : List UInt8 → List UInt8) (mem rest : List UInt8) :
    mapBlocks f mem.length (mem ++ rest) = mapBlocks f mem.length mem ++ rest := by
  generalize hlength : mem.length = length
  induction length using Nat.strong_induction_on generalizing mem with
  | _ length ih =>
    by_cases hlong : 16 < length
    · have htake : (mem ++ rest).take 16 = mem.take 16 :=
        List.take_append_of_le_length (by omega)
      have hdrop : (mem ++ rest).drop 16 = mem.drop 16 ++ rest :=
        List.drop_append_of_le_length (by omega)
      rw [mapBlocks_of_lt f hlong, mapBlocks_of_lt f hlong, htake, hdrop,
        ih (length - 16) (by omega) (mem.drop 16) (by rw [List.length_drop, hlength]),
        List.append_assoc]
    · rw [mapBlocks_of_le f (by omega), mapBlocks_of_le f (by omega)]

theorem length_transform {f : List UInt8 → List UInt8} (hf : ∀ b, (f b).length = 16)
    (length : Nat) (mem : List UInt8) (h : length ≤ mem.length) :
    (transform f length mem).length = mem.length := by
  rw [transform]
  split
  · simp only [exchange, List.length_append, List.length_map, List.length_take,
      List.length_drop]
    omega
  · exact length_mapBlocks hf length mem h

theorem exchange_length (mem : List UInt8) :
    exchange mem.length mem = mem.map (· ^^^ 0x06) := by
  simp [exchange]

theorem exchange_inverse (mem : List UInt8) :
    exchange mem.length (exchange mem.length mem) = mem := by
  have hlen : (mem.map (· ^^^ 0x06)).length = mem.length := List.length_map _
  rw [exchange_length, ← hlen, exchange_length, List.map_map]
  apply List.map_id''
  intro b
  show b ^^^ 0x06 ^^^ 0x06 = b
  rw [UInt8.xor_assoc, UInt8.xor_self, UInt8.xor_zero]

theorem transform_append (f : List UInt8 → List UInt8) (mem rest : List UInt8) :
    transform f mem.length (mem ++ rest) = transform f mem.length mem ++ rest := by
  rw [transform, transform]
  split
  · simp [exchange]
  · exact mapBlocks_append f mem rest

theorem transform_inverse (w : Nat → State) (mem : List UInt8) :
    transform (decodeBlock w) mem.length (transform (encodeBlock w) mem.length mem) = mem := by
  rw [transform, transform]
  split
  · exact exchange_inverse mem
  · exact mapBlocks_inverse (length_encodeBlock w)
      (fun _ hb => decodeBlock_encodeBlock w hb) mem.length mem le_rfl

/-- Decoding gives back the bytes encoded, in memory that goes on behind them and keeps its rest;
for a block alone any key schedule will do. -/
theorem decode_encode (key rest : List UInt8) {x : List UInt8} (hx : 1 ≤ x.length) :
    (∃ y, encode (keyExpansion key) (x ++ rest) x.length = some (y ++ rest) ∧
      y.length = x.length ∧ decode (keyExpansion key) (y ++ rest) x.length = x ++ rest) ∧
    ∀ (w : Nat → State) (block : List UInt8), block.length = 16 →
      decodeBlock w (encodeBlock w block) = block := by
  constructor
  · have hlength : (transform (encodeBlock (keyExpansion key)) x.length x).length = x.length :=
      length_transform (length_encodeBlock _) x.length x le_rfl
    refine ⟨transform (encodeBlock (keyExpansion key)) x.length x, ?_, hlength, ?_⟩
    · rw [encode, if_neg (by omega), Option.map_some, transform_append]
    · have hback := transform_append (decodeBlock (keyExpansion key))
        (transform (encodeBlock (keyExpansion key)) x.length x) rest
      rw [hlength] at hback
      rw [decode, Int.toNat_natCast, hback, transform_inverse]
  · intro w block hblock
    exact decodeBlock_encodeBlock w hblock

/-- Twenty bytes, of which the first block is enciphered. -/
theorem decode_encode_twenty : ∃ y,
    encode (keyExpansion ((List.range 16).map UInt8.ofNat)) (List.replicate 20 7 ++ [1, 2]) 20 =
      some (y ++ [1, 2]) ∧
    decode (keyExpansion ((List.range 16).map UInt8.ofNat)) (y ++ [1, 2]) 20 =
      List.replicate 20 7 ++ [1, 2] := by
  obtain ⟨⟨y, hencode, _, hdecode⟩, _⟩ := decode_encode ((List.range 16).map UInt8.ofNat) [1, 2]
    (x := List.replicate 20 7) (by decide)
  exact ⟨y, hencode, hdecode⟩

end Aes

end Mysya
