import Mathlib.Data.List.Basic
import Mathlib.Tactic.Common

/-!
# The dynamic buffer

`ioevent::DynamicBuffer`, with the order of its two indices and the end of the
vector built into the type. `readable` is what lies between `ReadBegin` and
`WriteBegin`; each operation has one lemma that says what it does to it.
-/

namespace Mysya

/-- Memory `l` after the bytes `d` have been copied to index `i`, as far as it reaches. -/
def overwrite {α : Type*} (l : List α) (i : Nat) (d : List α) : List α :=
  l.take i ++ d.take (l.length - i) ++ l.drop (i + d.length)

theorem length_overwrite {α : Type*} {l : List α} {i : Nat} (h : i ≤ l.length) (d : List α) :
    (overwrite l i d).length = l.length := by
  simp only [overwrite, List.length_append, List.length_take, List.length_drop]
  omega

theorem take_overwrite {α : Type*} {l : List α} {i : Nat} (h : i ≤ l.length) (d : List α) {n : Nat}
    (hn : n ≤ d.length) (hroom : i + n ≤ l.length) :
    (overwrite l i d).take (i + n) = l.take i ++ d.take n := by
  have hi : (l.take i).length = i := List.length_take_of_le h
  have htake : (l.take i ++ (d.take (l.length - i) ++ l.drop (i + d.length))).take
      ((l.take i).length + n) = l.take i ++ (d.take (l.length - i) ++ l.drop (i + d.length)).take n :=
    List.take_length_add_append n
  rw [hi] at htake
  rw [overwrite, List.append_assoc, htake, List.take_append_of_le_length
    (by rw [List.length_take]; omega), List.take_take, Nat.min_eq_left (by omega)]

structure DynamicBuffer where
  buffer : List UInt8
  initSize : Nat
  expandSize : Nat
  readIndex : Nat
  writeIndex : Nat
  expandPositive : 0 < expandSize
  readInside : readIndex ≤ writeIndex
  writeInside : writeIndex ≤ buffer.length
  deriving DecidableEq, Repr

namespace DynamicBuffer

/-- The `expand_size` that the constructors of the source take when they are given none. -/
theorem defaultExpandSize_pos : 0 < 256 := by decide

def new (initSize expandSize : Nat) (h : 0 < expandSize) : DynamicBuffer where
  buffer := List.replicate initSize 0
  initSize := initSize
  expandSize := expandSize
  readIndex := 0
  writeIndex := 0
  expandPositive := h
  readInside := Nat.le_refl 0
  writeInside := Nat.zero_le _

/-- `Swap`, which leaves each buffer its own `init_size_`. -/
def swap (a b : DynamicBuffer) : DynamicBuffer × DynamicBuffer :=
  ({ b with initSize := a.initSize }, { a with initSize := b.initSize })

def capacityBytes (b : DynamicBuffer) : Nat := b.buffer.length

def deprecatedBytes (b : DynamicBuffer) : Nat := b.readIndex

def readableBytes (b : DynamicBuffer) : Nat := b.writeIndex - b.readIndex

def writableBytes (b : DynamicBuffer) : Nat := b.buffer.length - b.writeIndex

/-- The bytes from `ReadBegin` on that may be read. -/
def readable (b : DynamicBuffer) : List UInt8 := (b.buffer.take b.writeIndex).drop b.readIndex

/-- The memory from `ReadBegin` on, to the end of the vector. -/
def readBegin (b : DynamicBuffer) : List UInt8 := b.buffer.drop b.readIndex

theorem readable_isPrefix (b : DynamicBuffer) : b.readable <+: b.readBegin := by
  rw [readable, List.drop_take]
  exact List.take_prefix _ _

theorem length_readable (b : DynamicBuffer) : b.readable.length = b.readableBytes := by
  have := b.writeInside
  simp only [readable, readableBytes, List.length_drop, List.length_take]
  omega

theorem readableBytes_eq_zero {b : DynamicBuffer} : b.readableBytes = 0 ↔ b.readable = [] := by
  rw [← length_readable, List.length_eq_zero_iff]

@[simp] theorem readable_new (initSize expandSize : Nat) (h : 0 < expandSize) :
    (new initSize expandSize h).readable = [] := by
  simp [new, readable]

theorem readable_swap (a b : DynamicBuffer) :
    (a.swap b).1.readable = b.readable ∧ (a.swap b).2.readable = a.readable :=
  ⟨rfl, rfl⟩

def readBytes (b : DynamicBuffer) (size : Nat) : DynamicBuffer :=
  if b.readIndex + min size b.readableBytes = b.writeIndex then
    { b with readIndex := 0, writeIndex := 0, readInside := Nat.le_refl 0,
             writeInside := Nat.zero_le _ }
  else
    { b with readIndex := b.readIndex + min size b.readableBytes
             readInside := by
               have := b.readInside
               unfold readableBytes
               omega }

@[simp] theorem readable_readBytes (b : DynamicBuffer) (size : Nat) :
    (b.readBytes size).readable = b.readable.drop size := by
  have hread := b.readInside
  have hwrite := b.writeInside
  have hlen := b.length_readable
  unfold readBytes
  split
  · rename_i hall
    rw [List.drop_of_length_le (by rw [hlen]; unfold readableBytes at *; omega)]
    simp [readable]
  · rename_i hsome
    show (b.buffer.take b.writeIndex).drop (b.readIndex + min size b.readableBytes) = _
    rw [readable, List.drop_drop, Nat.min_eq_left (by unfold readableBytes at *; omega)]

/-- `::memcpy` or `::recv` into `WriteBegin`. -/
def fill (b : DynamicBuffer) (data : List UInt8) : DynamicBuffer :=
  { b with buffer := overwrite b.buffer b.writeIndex data
           writeInside := by rw [length_overwrite b.writeInside]; exact b.writeInside }

def writtenBytes (b : DynamicBuffer) (size : Nat) : DynamicBuffer :=
  { b with writeIndex := b.writeIndex + min size b.writableBytes
           readInside := Nat.le_add_right_of_le b.readInside
           writeInside := by
             have := b.writeInside
             unfold writableBytes
             omega }

theorem readable_fill_writtenBytes (b : DynamicBuffer) {data : List UInt8} {size : Nat}
    (hsize : size ≤ data.length) (hroom : size ≤ b.writableBytes) :
    ((b.fill data).writtenBytes size).readable = b.readable ++ data.take size := by
  have hread := b.readInside
  have hwrite := b.writeInside
  have hcapacity : (b.fill data).writableBytes = b.writableBytes := by
    show (overwrite b.buffer b.writeIndex data).length - b.writeIndex = _
    rw [length_overwrite hwrite]
    rfl
  show ((overwrite b.buffer b.writeIndex data).take
    (b.writeIndex + min size (b.fill data).writableBytes)).drop b.readIndex = _
  rw [hcapacity, Nat.min_eq_left hroom,
    take_overwrite hwrite data hsize (by unfold writableBytes at hroom; omega),
    List.drop_append_of_le_length (by rw [List.length_take]; omega)]
  rfl

/-- A vector of `callocSize` bytes that starts with the readable ones. -/
def regrow (b : DynamicBuffer) (callocSize : Nat) : DynamicBuffer where
  buffer := b.readable ++ List.replicate (callocSize - b.readableBytes) 0
  initSize := b.initSize
  expandSize := b.expandSize
  readIndex := 0
  writeIndex := b.readableBytes
  expandPositive := b.expandPositive
  readInside := Nat.zero_le _
  writeInside := by
    rw [List.length_append, length_readable]
    exact Nat.le_add_right _ _

@[simp] theorem readable_regrow (b : DynamicBuffer) (callocSize : Nat) :
    (b.regrow callocSize).readable = b.readable := by
  show (List.take b.readableBytes (b.readable ++ _)).drop 0 = _
  rw [← length_readable, List.take_left, List.drop_zero]

theorem writableBytes_regrow (b : DynamicBuffer) (callocSize : Nat) :
    (b.regrow callocSize).writableBytes = callocSize - b.readableBytes := by
  show (b.readable ++ List.replicate _ 0).length - b.readableBytes = _
  rw [List.length_append, length_readable, List.length_replicate, Nat.add_sub_cancel_left]

def reserveWritableBytes (b : DynamicBuffer) (size : Nat) : DynamicBuffer :=
  if b.writableBytes ≥ size then b
  else
    let freeSize := b.deprecatedBytes + b.writableBytes
    b.regrow <|
      if freeSize < size then
        b.buffer.length + b.expandSize * ((size - freeSize) / b.expandSize + 1)
      else b.buffer.length

@[simp] theorem readable_reserveWritableBytes (b : DynamicBuffer) (size : Nat) :
    (b.reserveWritableBytes size).readable = b.readable := by
  unfold reserveWritableBytes
  split
  · rfl
  · exact readable_regrow b _

/-- The room asked for is there afterwards. -/
theorem le_writableBytes_reserve (b : DynamicBuffer) (size : Nat) :
    size ≤ (b.reserveWritableBytes size).writableBytes := by
  have hread := b.readInside
  have hwrite := b.writeInside
  unfold reserveWritableBytes
  split
  · assumption
  · rw [writableBytes_regrow]
    split
    · have hround : size - (b.deprecatedBytes + b.writableBytes) <
          b.expandSize * ((size - (b.deprecatedBytes + b.writableBytes)) / b.expandSize + 1) :=
        Nat.lt_mul_div_succ _ b.expandPositive
      unfold deprecatedBytes writableBytes readableBytes at *
      omega
    · unfold deprecatedBytes writableBytes readableBytes at *
      omega

def append (b : DynamicBuffer) (data : List UInt8) : DynamicBuffer :=
  ((b.reserveWritableBytes data.length).fill data).writtenBytes data.length

@[simp] theorem readable_append (b : DynamicBuffer) (data : List UInt8) :
    (b.append data).readable = b.readable ++ data := by
  rw [append, readable_fill_writtenBytes _ (Nat.le_refl _) (le_writableBytes_reserve b _),
    readable_reserveWritableBytes, List.take_length]

theorem writableBytes_append {b : DynamicBuffer} (data : List UInt8)
    (h : data.length ≤ b.writableBytes) :
    (b.append data).writableBytes = b.writableBytes - data.length := by
  have hwrite := b.writeInside
  have hreserve : b.reserveWritableBytes data.length = b := if_pos h
  rw [append, hreserve]
  show (overwrite b.buffer b.writeIndex data).length -
    (b.writeIndex + min data.length ((overwrite b.buffer b.writeIndex data).length - _)) = _
  rw [length_overwrite hwrite]
  show _ = b.buffer.length - b.writeIndex - data.length
  unfold writableBytes at h
  show b.buffer.length - (b.writeIndex + min data.length (b.buffer.length - b.writeIndex)) = _
  omega

/-- `Read`: a copy of the first bytes, which stay in the buffer. -/
def read (b : DynamicBuffer) (size : Nat) : List UInt8 := b.readable.take (min size b.readableBytes)

theorem read_eq_take (b : DynamicBuffer) (size : Nat) : b.read size = b.readable.take size := by
  rw [read, ← length_readable]
  exact (List.take_eq_take_min).symm

end DynamicBuffer

end Mysya
