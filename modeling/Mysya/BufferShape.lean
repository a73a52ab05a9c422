import Mysya.ByteQueues
import Mysya.GuardedRuns
import Mysya.MachineInts

/-!
# The capacity of a buffer

The diagram of `ReserveWritableBytes`: a capacity is `init_size_` and a number
of times `expand_size_`. `Swap` exchanges the vector and the expand size but not
the init size, and `ReduceWritableBytes` divides what is free by two without
asking whether the readable bytes still fit.
-/

namespace Mysya

/-- `max_size` of a vector of `char`. -/
def kMaxVectorSize : Nat := 9223372036854775807

namespace DynamicBuffer

/-- A new vector of `size` bytes with the readable ones copied to it; nothing where it cannot be
made or is too short for them. -/
def shrink (b : DynamicBuffer) (size : Nat) : Option DynamicBuffer :=
  if kMaxVectorSize < size ∨ size < b.readableBytes then none else some (b.regrow size)

def reduceWritableBytes (b : DynamicBuffer) (_size : Nat) : Option DynamicBuffer :=
  let readableSize := b.readableBytes
  if readableSize ≤ b.initSize then
    let expandMultiple := toSizeT ((b.capacityBytes : Int) - b.initSize) / b.expandSize
    let expandMultiple := expandMultiple / 2
    b.shrink (toSizeT ((b.initSize + expandMultiple * b.expandSize : Nat)))
  else
    let readableExpandSize := readableSize - b.initSize
    let readableExpandMultiple := (readableExpandSize + b.expandSize) / b.expandSize
    let expandMultiple := toSizeT
      (((b.capacityBytes - readableSize) / b.expandSize : Nat) - readableExpandMultiple) / 2
    b.shrink (toSizeT ((b.initSize + expandMultiple * b.expandSize : Nat)))

/-- None of the subtractions of `ReduceWritableBytes` goes below zero. -/
def NoUnderflow (b : DynamicBuffer) : Prop :=
  if b.readableBytes ≤ b.initSize then b.initSize ≤ b.capacityBytes
  else b.readableBytes ≤ b.capacityBytes ∧
    (b.readableBytes - b.initSize + b.expandSize) / b.expandSize ≤
      (b.capacityBytes - b.readableBytes) / b.expandSize

instance (b : DynamicBuffer) : Decidable b.NoUnderflow :=
  inferInstanceAs (Decidable (if b.readableBytes ≤ b.initSize then b.initSize ≤ b.capacityBytes
    else _ ∧ _))

/-- `ReduceWritableBytes` keeps the readable bytes, in a capacity between theirs and the old. -/
def ReducesWell (b : DynamicBuffer) (size : Nat) : Prop :=
  b.NoUnderflow ∧ ∃ b', b.reduceWritableBytes size = some b' ∧ b'.readable = b.readable ∧
    b'.readableBytes ≤ b'.capacityBytes ∧ b'.capacityBytes ≤ b.capacityBytes

/-- The diagram. -/
def Shaped (b : DynamicBuffer) : Prop :=
  ∃ n, b.capacityBytes = b.initSize + n * b.expandSize

/-- `d` readable bytes more than `init_size_` leave `d / e + 1 + 2 * ⌈d / e⌉` expand sizes free. -/
def ReduceGuard (b : DynamicBuffer) : Prop :=
  b.readableBytes ≤ b.initSize ∨
    b.expandSize * ((b.readableBytes - b.initSize) / b.expandSize + 1 +
      2 * ((b.readableBytes - b.initSize + b.expandSize - 1) / b.expandSize)) ≤
        b.capacityBytes - b.readableBytes

instance (b : DynamicBuffer) : Decidable b.ReduceGuard := inferInstanceAs (Decidable (_ ∨ _))

/-- A buffer of `init_size_` `initSize` can take over the vector of `b`. -/
def Fits (initSize : Nat) (b : DynamicBuffer) : Prop :=
  initSize ≤ b.capacityBytes ∧ b.expandSize ∣ b.capacityBytes - initSize

instance (initSize : Nat) (b : DynamicBuffer) : Decidable (Fits initSize b) :=
  inferInstanceAs (Decidable (_ ∧ _))

/-- The capacity `ReserveWritableBytes` asks for. -/
def reservedBytes (b : DynamicBuffer) (size : Nat) : Nat :=
  if b.deprecatedBytes + b.writableBytes < size then
    b.capacityBytes + b.expandSize *
      ((size - (b.deprecatedBytes + b.writableBytes)) / b.expandSize + 1)
  else b.capacityBytes

section Shape

variable {b : DynamicBuffer}

theorem capacityBytes_regrow (size : Nat) (h : b.readableBytes ≤ size) :
    (b.regrow size).capacityBytes = size := by
  rw [capacityBytes, regrow, List.length_append, length_readable, List.length_replicate]
  omega

theorem readableBytes_le_capacityBytes (b : DynamicBuffer) :
    b.readableBytes ≤ b.capacityBytes := by
  have hwrite := b.writeInside
  rw [readableBytes, capacityBytes]
  omega

theorem capacityBytes_reserve (b : DynamicBuffer) (size : Nat) :
    (b.reserveWritableBytes size).capacityBytes = b.reservedBytes size := by
  have hread := b.readInside
  have hwrite := b.writeInside
  have hfits := b.readableBytes_le_capacityBytes
  rw [reserveWritableBytes, reservedBytes]
  split
  · rename_i hroom
    rw [if_neg (by omega)]
  · dsimp only
    split
    · exact capacityBytes_regrow _ (by rw [capacityBytes] at hfits; omega)
    · exact capacityBytes_regrow _ hfits

theorem capacityBytes_writtenBytes (data : List UInt8) (size : Nat) :
    ((b.fill data).writtenBytes size).capacityBytes = b.capacityBytes :=
  length_overwrite b.writeInside data

theorem capacityBytes_append (b : DynamicBuffer) (data : List UInt8) :
    (b.append data).capacityBytes = b.reservedBytes data.length := by
  rw [append, capacityBytes_writtenBytes, capacityBytes_reserve]

theorem sizes_reserve (b : DynamicBuffer) (size : Nat) :
    (b.reserveWritableBytes size).initSize = b.initSize ∧
      (b.reserveWritableBytes size).expandSize = b.expandSize := by
  rw [reserveWritableBytes]
  split
  · exact ⟨rfl, rfl⟩
  · exact ⟨rfl, rfl⟩

theorem Shaped.reserved (h : b.Shaped) (size : Nat) :
    ∃ n, b.reservedBytes size = b.initSize + n * b.expandSize := by
  obtain ⟨n, hn⟩ := h
  rw [reservedBytes]
  split
  · refine ⟨n + ((size - (b.deprecatedBytes + b.writableBytes)) / b.expandSize + 1), ?_⟩
    rw [hn, Nat.add_mul, Nat.mul_comm b.expandSize, Nat.add_assoc]
  · exact ⟨n, hn⟩

theorem Shaped.reserve (h : b.Shaped) (size : Nat) : (b.reserveWritableBytes size).Shaped := by
  obtain ⟨n, hn⟩ := h.reserved size
  obtain ⟨hinit, hexpand⟩ := b.sizes_reserve size
  exact ⟨n, by rw [capacityBytes_reserve, hinit, hexpand, hn]⟩

theorem Shaped.append (h : b.Shaped) (data : List UInt8) : (b.append data).Shaped := by
  obtain ⟨n, hn⟩ := h.reserve data.length
  exact ⟨n, (capacityBytes_writtenBytes data data.length).trans hn⟩

theorem readBytes_sizes (b : DynamicBuffer) (size : Nat) :
    (b.readBytes size).capacityBytes = b.capacityBytes ∧
      (b.readBytes size).initSize = b.initSize ∧
      (b.readBytes size).expandSize = b.expandSize := by
  rw [readBytes]
  split
  · exact ⟨rfl, rfl, rfl⟩
  · exact ⟨rfl, rfl, rfl⟩

theorem Shaped.readBytes (h : b.Shaped) (size : Nat) : (b.readBytes size).Shaped := by
  obtain ⟨n, hn⟩ := h
  obtain ⟨hcapacity, hinit, hexpand⟩ := b.readBytes_sizes size
  exact ⟨n, by rw [hcapacity, hinit, hexpand, hn]⟩

/-- The first of two buffers keeps the diagram through `Swap` exactly where the vector it gets
fits its init size. -/
theorem shaped_swap_iff (a b : DynamicBuffer) : (a.swap b).1.Shaped ↔ Fits a.initSize b := by
  constructor
  · rintro ⟨n, hn⟩
    have hcapacity : b.capacityBytes = a.initSize + n * b.expandSize := hn
    exact ⟨by omega, n, by rw [hcapacity, Nat.add_sub_cancel_left, Nat.mul_comm]⟩
  · rintro ⟨hle, n, hn⟩
    refine ⟨n, ?_⟩
    have hcapacity : b.capacityBytes = a.initSize + n * b.expandSize := by
      rw [Nat.mul_comm, ← hn]
      omega
    exact hcapacity

/-- How many times `e` hold `d`. -/
theorem le_mul_iff {d e m : Nat} (he : 0 < e) : d ≤ m * e ↔ (d + e - 1) / e ≤ m := by
  rw [← Nat.lt_succ_iff (m := (d + e - 1) / e), Nat.div_lt_iff_lt_mul he, Nat.succ_mul]
  omega

theorem half_mul_le {x y e : Nat} (h : x ≤ y / e) : x / 2 * e ≤ y :=
  calc x / 2 * e ≤ y / e * e := Nat.mul_le_mul_right e (Nat.le_trans (Nat.div_le_self x 2) h)
    _ ≤ y := Nat.div_mul_le_self y e

theorem toSizeT_sub {x y : Nat} (h : y ≤ x) (hx : x < 18446744073709551616) :
    toSizeT ((x : Int) - y) = x - y := by
  rw [toSizeT]
  omega

theorem shrink_some (b : DynamicBuffer) {size : Nat} (hmax : size ≤ kMaxVectorSize)
    (h : b.readableBytes ≤ size) :
    ∃ b', b.shrink size = some b' ∧ b'.readable = b.readable ∧
      b'.readableBytes ≤ b'.capacityBytes ∧ b'.capacityBytes = size ∧
      b'.initSize = b.initSize ∧ b'.expandSize = b.expandSize := by
  refine ⟨b.regrow size, if_neg (by omega), readable_regrow b size,
    readableBytes_le_capacityBytes _, capacityBytes_regrow size h, rfl, rfl⟩

/-- Where nothing goes below zero, the new vector is of the expand sizes the code counts. -/
theorem reduce_eq (hmax : b.capacityBytes ≤ kMaxVectorSize) (h : b.NoUnderflow) (size : Nat) :
    ∃ n, b.reduceWritableBytes size = b.shrink (b.initSize + n * b.expandSize) ∧
      b.initSize + n * b.expandSize ≤ b.capacityBytes ∧
      (b.initSize < b.readableBytes → n = ((b.capacityBytes - b.readableBytes) / b.expandSize -
        ((b.readableBytes - b.initSize) / b.expandSize + 1)) / 2) := by
  rw [kMaxVectorSize] at hmax
  have hsize : ∀ n, b.initSize + n * b.expandSize ≤ b.capacityBytes →
      toSizeT ((b.initSize + n * b.expandSize : Nat)) = b.initSize + n * b.expandSize :=
    fun n hn => toSizeT_natCast (by omega)
  rw [NoUnderflow] at h
  rw [reduceWritableBytes]
  by_cases hsmall : b.readableBytes ≤ b.initSize
  · rw [if_pos hsmall] at h
    have hhalf := half_mul_le (Nat.le_refl ((b.capacityBytes - b.initSize) / b.expandSize))
    have hle : b.initSize + (b.capacityBytes - b.initSize) / b.expandSize / 2 * b.expandSize ≤
        b.capacityBytes := by
      omega
    refine ⟨(b.capacityBytes - b.initSize) / b.expandSize / 2, ?_, hle, by omega⟩
    simp only [if_pos hsmall, toSizeT_sub h (show b.capacityBytes < _ by omega)]
    rw [hsize _ hle]
  · rw [if_neg hsmall] at h
    obtain ⟨hfits, hunits⟩ := h
    rw [Nat.add_div_right _ b.expandPositive] at hunits
    have hfree := Nat.div_le_self (b.capacityBytes - b.readableBytes) b.expandSize
    have hhalf := half_mul_le (Nat.sub_le ((b.capacityBytes - b.readableBytes) / b.expandSize)
      ((b.readableBytes - b.initSize) / b.expandSize + 1))
    have hle : b.initSize + ((b.capacityBytes - b.readableBytes) / b.expandSize -
        ((b.readableBytes - b.initSize) / b.expandSize + 1)) / 2 * b.expandSize ≤
          b.capacityBytes := by
      omega
    refine ⟨_, ?_, hle, fun _ => rfl⟩
    simp only [if_neg hsmall, Nat.add_div_right _ b.expandPositive]
    rw [toSizeT_sub hunits (by omega), hsize _ hle]

/-- A buffer of the diagram is reduced as it should be exactly where enough of it is free. -/
theorem reducesWell_iff (shaped : b.Shaped) (hmax : b.capacityBytes ≤ kMaxVectorSize)
    (size : Nat) : b.ReducesWell size ↔ b.ReduceGuard := by
  obtain ⟨k, hk⟩ := shaped
  have he := b.expandPositive
  by_cases hsmall : b.readableBytes ≤ b.initSize
  · refine ⟨fun _ => Or.inl hsmall, fun _ => ?_⟩
    have hno : b.NoUnderflow := by
      rw [NoUnderflow, if_pos hsmall]
      omega
    obtain ⟨n, heq, hle, _⟩ := reduce_eq hmax hno size
    obtain ⟨b', hb', hreadable, hfits, hcapacity, _⟩ :=
      shrink_some b (Nat.le_trans hle hmax) (by omega)
    exact ⟨hno, b', heq.trans hb', hreadable, hfits, by omega⟩
  · have hguard : b.ReduceGuard ↔ (b.readableBytes - b.initSize) / b.expandSize + 1 +
        2 * ((b.readableBytes - b.initSize + b.expandSize - 1) / b.expandSize) ≤
          (b.capacityBytes - b.readableBytes) / b.expandSize := by
      rw [ReduceGuard, Nat.le_div_iff_mul_le he, Nat.mul_comm]
      exact ⟨fun h => h.resolve_left hsmall, Or.inr⟩
    rw [hguard]
    constructor
    · rintro ⟨hno, b', hb', _⟩
      obtain ⟨n, heq, hle, hn⟩ := reduce_eq hmax hno size
      rw [heq, shrink] at hb'
      have hroom : b.readableBytes ≤ b.initSize + n * b.expandSize := by
        by_contra hshort
        rw [if_pos (Or.inr (by omega))] at hb'
        cases hb'
      have hunits := (le_mul_iff he).mp
        (show b.readableBytes - b.initSize ≤ n * b.expandSize by omega)
      rw [NoUnderflow, if_neg hsmall, Nat.add_div_right _ he] at hno
      have hn := hn (by omega)
      omega
    · intro h
      have hno : b.NoUnderflow := by
        rw [NoUnderflow, if_neg hsmall, Nat.add_div_right _ he]
        exact ⟨b.readableBytes_le_capacityBytes, by omega⟩
      obtain ⟨n, heq, hle, hn⟩ := reduce_eq hmax hno size
      have hn := hn (by omega)
      have hunits := (le_mul_iff he).mpr
        (show (b.readableBytes - b.initSize + b.expandSize - 1) / b.expandSize ≤ n by omega)
      have hroom : b.readableBytes ≤ b.initSize + n * b.expandSize := by omega
      obtain ⟨b', hb', hreadable, hfits, hcapacity, _⟩ :=
        shrink_some b (Nat.le_trans hle hmax) hroom
      exact ⟨hno, b', heq.trans hb', hreadable, hfits, by omega⟩

/-- What `ReduceWritableBytes` leaves is of the diagram again. -/
theorem Shaped.reduce (shaped : b.Shaped) (hmax : b.capacityBytes ≤ kMaxVectorSize)
    (guard : b.ReduceGuard) {size : Nat} {b' : DynamicBuffer}
    (h : b.reduceWritableBytes size = some b') :
    b'.Shaped ∧ b'.capacityBytes ≤ kMaxVectorSize := by
  obtain ⟨hno, b'', hb'', _, _, hle⟩ := (reducesWell_iff shaped hmax size).mpr guard
  obtain rfl : b' = b'' := Option.some.inj (h.symm.trans hb'')
  obtain ⟨n, heq, _, _⟩ := reduce_eq hmax hno size
  rw [heq, shrink] at h
  split at h
  · cases h
  · rename_i hroom
    cases h
    exact ⟨⟨n, capacityBytes_regrow _ (by omega)⟩, Nat.le_trans hle hmax⟩

end Shape

end DynamicBuffer

/-- A call on a set of buffers, `ReduceWritableBytes` among them. -/
inductive BufferOp (ι : Type) where
  | call (call : BufferCall ι)
  | reduceWritableBytes (i : ι) (size : Nat)

namespace Buffers

open DynamicBuffer GuardedRuns

variable {ι : Type} [DecidableEq ι]

/-- A state further, or nothing where the memory of a buffer is overrun. -/
def step (b : Buffers ι) : BufferOp ι → Option (Buffers ι)
  | .call call => some (b.apply call)
  | .reduceWritableBytes i size =>
    ((b i).reduceWritableBytes size).map fun reduced => Function.update b i reduced

/-- Each of two exchanged vectors fits the init size it gets, what is reduced has enough free,
and no capacity passes `max_size`. -/
def ShapeGuard (b : Buffers ι) : BufferOp ι → Prop
  | .call (.append i data) => (b i).reservedBytes data.length ≤ kMaxVectorSize
  | .call (.reserveWritableBytes i size) => (b i).reservedBytes size ≤ kMaxVectorSize
  | .call (.swap i j) => Fits (b i).initSize (b j) ∧ Fits (b j).initSize (b i)
  | .call call => b.Allowed call
  | .reduceWritableBytes i _ => (b i).ReduceGuard

instance (b : Buffers ι) : (op : BufferOp ι) → Decidable (b.ShapeGuard op)
  | .call (.append _ _) => inferInstanceAs (Decidable (_ ≤ _))
  | .call (.reserveWritableBytes _ _) => inferInstanceAs (Decidable (_ ≤ _))
  | .call (.swap _ _) => inferInstanceAs (Decidable (_ ∧ _))
  | .call (.write _ _ _) => inferInstanceAs (Decidable (_ ∧ _))
  | .call (.read _ _) => inferInstanceAs (Decidable True)
  | .call (.readBytes _ _) => inferInstanceAs (Decidable True)
  | .reduceWritableBytes i _ => inferInstanceAs (Decidable (b i).ReduceGuard)

/-- What every buffer of a guarded run is like. -/
def AllShaped (b : Buffers ι) : Prop :=
  ∀ i, (b i).Shaped ∧ (b i).capacityBytes ≤ kMaxVectorSize

theorem AllShaped.update {b : Buffers ι} (h : b.AllShaped) {i : ι} {x : DynamicBuffer}
    (hx : x.Shaped ∧ x.capacityBytes ≤ kMaxVectorSize) :
    AllShaped (Function.update b i x) := by
  intro j
  by_cases hj : j = i
  · subst hj
    rw [Function.update_self]
    exact hx
  · rw [Function.update_of_ne hj]
    exact h j

theorem AllShaped.step {b b' : Buffers ι} {op : BufferOp ι} (h : b.AllShaped)
    (guard : b.ShapeGuard op) (hstep : b.step op = some b') : b'.AllShaped := by
  cases op with
  | reduceWritableBytes i size =>
    obtain ⟨reduced, hreduced, rfl⟩ := Option.map_eq_some_iff.mp hstep
    exact h.update ((h i).1.reduce (h i).2 guard hreduced)
  | call call =>
    obtain rfl := Option.some.inj hstep
    cases call with
    | append i data =>
      refine h.update ⟨(h i).1.append data, ?_⟩
      rw [capacityBytes_append]
      exact guard
    | reserveWritableBytes i size =>
      refine h.update ⟨(h i).1.reserve size, ?_⟩
      rw [capacityBytes_reserve]
      exact guard
    | write i data size =>
      obtain ⟨⟨n, hn⟩, hmax⟩ := h i
      refine h.update ⟨⟨n, (capacityBytes_writtenBytes data size).trans hn⟩, ?_⟩
      rw [capacityBytes_writtenBytes]
      exact hmax
    | read i size => exact h
    | readBytes i size =>
      refine h.update ⟨(h i).1.readBytes size, ?_⟩
      rw [(readBytes_sizes (b i) size).1]
      exact (h i).2
    | swap i j =>
      have hi := (shaped_swap_iff (b i) (b j)).mpr guard.1
      have hj := (shaped_swap_iff (b j) (b i)).mpr guard.2
      exact (h.update ⟨hi, (h j).2⟩).update ⟨hj, (h i).2⟩

/-- In a run whose exchanges fit and whose reduced buffers have enough free, every buffer is of
the diagram; `ReduceWritableBytes` does as it should exactly under its guard, and an exchange
keeps the diagram exactly under its own. -/
theorem buffer_shape {initSize expandSize : ι → Nat} (positive : ∀ i, 0 < expandSize i)
    (made : ∀ i, initSize i ≤ kMaxVectorSize) {b : Buffers ι}
    (h : Reaches step ShapeGuard (new initSize expandSize positive) b) :
    (∀ i, (b i).Shaped) ∧
      (∀ i size, (b i).ReducesWell size ↔ (b i).ReduceGuard) ∧
      ∀ i j, ((b i).swap (b j)).1.Shaped ∧ ((b i).swap (b j)).2.Shaped ↔
        b.ShapeGuard (.call (.swap i j)) := by
  have hall : b.AllShaped := by
    refine h.invariant ?_ fun _ _ _ hs guard hstep => hs.step guard hstep
    intro i
    have hcapacity : (new initSize expandSize positive i).capacityBytes = initSize i :=
      List.length_replicate
    refine ⟨⟨0, ?_⟩, ?_⟩
    · rw [hcapacity, Nat.zero_mul]
      rfl
    · rw [hcapacity]
      exact made i
  refine ⟨fun i => (hall i).1, fun i size => reducesWell_iff (hall i).1 (hall i).2 size, ?_⟩
  intro i j
  rw [shaped_swap_iff]
  exact and_congr Iff.rfl (shaped_swap_iff (b j) (b i))

/-- Two buffers of the same expand size. -/
def pair (first second : Nat) : Buffers Bool :=
  new (fun i => if i then first else second) (fun _ => 4) (by decide)

/-- Both filled, one drained and reduced, then exchanged. -/
def exchanging : List (BufferOp Bool) :=
  [.call (.append true (List.replicate 24 1)), .call (.append false (List.replicate 10 2)),
    .call (.readBytes true 22), .reduceWritableBytes true 0, .call (.swap true false)]

theorem buffer_shape_exchanged : ∃ b, GuardedRuns.run step exchanging (pair 8 4) = some b ∧
    (∀ i, (b i).Shaped) ∧ ((b false).ReducesWell 0 ↔ (b false).ReduceGuard) := by
  have hsome : (GuardedRuns.run step exchanging (pair 8 4)).isSome := by decide +kernel
  obtain ⟨b, hrun⟩ := Option.isSome_iff_exists.mp hsome
  have hreaches : Reaches step ShapeGuard (pair 8 4) b :=
    Reaches.run .refl (by decide +kernel) hrun
  have hshape := buffer_shape (by decide) (by decide) hreaches
  exact ⟨b, hrun, hshape.1, hshape.2.1 false 0⟩

/-- A vector of four bytes under an init size of ten, and six readable bytes in a vector of eight
that go past the end of the one they are copied to. -/
theorem buffer_shape_lost :
    (∃ b, Reaches step (fun _ _ => True) (pair 10 4) b ∧ ¬ (b true).Shaped) ∧
      ∃ b, Reaches step (fun _ _ => True) (pair 10 4) b ∧
        (b false).capacityBytes = 8 ∧ (b false).readableBytes = 6 ∧
        ¬ (b false).NoUnderflow ∧ (b false).reduceWritableBytes 0 = none := by
  constructor
  · refine ⟨_, .snoc (.call (.swap true false)) .refl trivial rfl, ?_⟩
    rintro ⟨n, hn⟩
    have hcapacity : 4 = 10 + n * 4 := hn
    omega
  · refine ⟨_, .snoc (.call (.append false (List.replicate 6 1))) .refl trivial rfl, ?_⟩
    refine ⟨?_, ?_, ?_, ?_⟩
    · decide
    · decide
    · decide
    · decide

end Buffers

end Mysya
