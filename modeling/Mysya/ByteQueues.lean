import Mathlib.Logic.Function.Basic
import Mysya.DynamicBuffer

/-!
# Buffers as queues of bytes

A set of dynamic buffers under any sequence of the calls its owners make, beside
as many queues under the same calls: what a buffer has readable is its queue. Sizes are
natural numbers, none of which overflows a `size_t`.
-/

namespace Mysya

variable {ι : Type} [DecidableEq ι]

/-- A call on buffer `i`. `write` puts bytes at `WriteBegin` and then calls `WrittenBytes`. -/
inductive BufferCall (ι : Type) where
  | append (i : ι) (data : List UInt8)
  | reserveWritableBytes (i : ι) (size : Nat)
  | write (i : ι) (data : List UInt8) (size : Nat)
  | read (i : ι) (size : Nat)
  | readBytes (i : ι) (size : Nat)
  | swap (i j : ι)

/-- Queues of bytes, one for each buffer. -/
abbrev ByteQueues (ι : Type) := ι → List UInt8

namespace ByteQueues

def apply (q : ByteQueues ι) : BufferCall ι → ByteQueues ι
  | .append i data => Function.update q i (q i ++ data)
  | .reserveWritableBytes _ _ => q
  | .write i data size => Function.update q i (q i ++ data.take size)
  | .read _ _ => q
  | .readBytes i size => Function.update q i ((q i).drop (min size (q i).length))
  | .swap i j => Function.update (Function.update q i (q j)) j (q i)

/-- The bytes a call hands to its caller. -/
def output (q : ByteQueues ι) : BufferCall ι → List UInt8
  | .read i size => (q i).take size
  | _ => []

def run (q : ByteQueues ι) : List (BufferCall ι) → ByteQueues ι × List (List UInt8)
  | [] => (q, [])
  | call :: calls => ((run (q.apply call) calls).1, q.output call :: (run (q.apply call) calls).2)

end ByteQueues

abbrev Buffers (ι : Type) := ι → DynamicBuffer

namespace Buffers

/-- Buffers as they are constructed. -/
def new (initSize expandSize : ι → Nat) (h : ∀ i, 0 < expandSize i) : Buffers ι :=
  fun i => .new (initSize i) (expandSize i) (h i)

def apply (b : Buffers ι) : BufferCall ι → Buffers ι
  | .append i data => Function.update b i ((b i).append data)
  | .reserveWritableBytes i size => Function.update b i ((b i).reserveWritableBytes size)
  | .write i data size => Function.update b i (((b i).fill data).writtenBytes size)
  | .read _ _ => b
  | .readBytes i size => Function.update b i ((b i).readBytes size)
  | .swap i j =>
    Function.update (Function.update b i ((b i).swap (b j)).1) j ((b i).swap (b j)).2

def output (b : Buffers ι) : BufferCall ι → List UInt8
  | .read i size => (b i).read size
  | _ => []

/-- The buffers after some calls, and what each call returned. -/
def run (b : Buffers ι) : List (BufferCall ι) → Buffers ι × List (List UInt8)
  | [] => (b, [])
  | call :: calls => ((run (b.apply call) calls).1, b.output call :: (run (b.apply call) calls).2)

/-- What the caller of `WrittenBytes` sees to: it has written that many bytes, into the room
there is. -/
def Allowed (b : Buffers ι) : BufferCall ι → Prop
  | .write i data size => size ≤ data.length ∧ data.length ≤ (b i).writableBytes
  | _ => True

def queues (b : Buffers ι) : ByteQueues ι := fun i => (b i).readable

theorem queues_update (b : Buffers ι) (i : ι) (x : DynamicBuffer) :
    queues (Function.update b i x) = Function.update b.queues i x.readable := by
  funext j
  by_cases h : j = i
  · subst h
    simp [queues]
  · simp [queues, h]

theorem queues_apply {b : Buffers ι} {call : BufferCall ι} (h : b.Allowed call) :
    (b.apply call).queues = b.queues.apply call := by
  cases call with
  | append i data =>
    rw [apply, queues_update, DynamicBuffer.readable_append]
    rfl
  | reserveWritableBytes i size =>
    rw [apply, queues_update, DynamicBuffer.readable_reserveWritableBytes]
    exact Function.update_eq_self i b.queues
  | write i data size =>
    rw [apply, queues_update,
      DynamicBuffer.readable_fill_writtenBytes _ h.1 (Nat.le_trans h.1 h.2)]
    rfl
  | read i size => rfl
  | readBytes i size =>
    rw [apply, queues_update, DynamicBuffer.readable_readBytes, List.drop_eq_drop_min]
    rfl
  | swap i j =>
    rw [apply, queues_update, queues_update, (DynamicBuffer.readable_swap (b i) (b j)).1,
      (DynamicBuffer.readable_swap (b i) (b j)).2]
    rfl

omit [DecidableEq ι] in
theorem output_eq (b : Buffers ι) (call : BufferCall ι) :
    b.output call = b.queues.output call := by
  cases call with
  | read i size => exact DynamicBuffer.read_eq_take (b i) size
  | append | reserveWritableBytes | write | readBytes | swap => rfl

/-- Every call is made as its caller may make it. -/
def AllAllowed (b : Buffers ι) : List (BufferCall ι) → Prop
  | [] => True
  | call :: calls => b.Allowed call ∧ AllAllowed (b.apply call) calls

/-- The queues simulate the buffers, with the same bytes returned. -/
theorem run_queues {b : Buffers ι} {calls : List (BufferCall ι)} (h : b.AllAllowed calls) :
    (b.run calls).1.queues = (b.queues.run calls).1 ∧ (b.run calls).2 = (b.queues.run calls).2 := by
  induction calls generalizing b with
  | nil => exact ⟨rfl, rfl⟩
  | cons call calls ih =>
    obtain ⟨hstate, houtputs⟩ := ih h.2
    rw [queues_apply h.1] at hstate houtputs
    constructor
    · exact hstate
    · rw [run, ByteQueues.run, output_eq, houtputs]

/-- After any calls each buffer has its indices in order, holds its queue, and makes the room it
is asked for. -/
theorem buffers_are_queues (b : Buffers ι) {calls : List (BufferCall ι)}
    (h : b.AllAllowed calls) :
    (∀ i, ((b.run calls).1 i).readIndex ≤ ((b.run calls).1 i).writeIndex ∧
      ((b.run calls).1 i).writeIndex ≤ ((b.run calls).1 i).capacityBytes) ∧
    (∀ i, ((b.run calls).1 i).readable = (b.queues.run calls).1 i) ∧
    (b.run calls).2 = (b.queues.run calls).2 ∧
    ∀ i size, size ≤ (((b.run calls).1.apply (.reserveWritableBytes i size)) i).writableBytes := by
  obtain ⟨hstate, houtputs⟩ := run_queues h
  refine ⟨?_, ?_, houtputs, ?_⟩
  · intro i
    exact ⟨((b.run calls).1 i).readInside, ((b.run calls).1 i).writeInside⟩
  · intro i
    exact congrFun hstate i
  · intro i size
    rw [apply, Function.update_self]
    exact DynamicBuffer.le_writableBytes_reserve _ size

/-- Two buffers of four bytes, exchanged between two writes. -/
theorem buffers_are_queues_swapped :
    (run (new (fun _ : Bool => 4) (fun _ => 4) (by decide))
      [.append true [1, 2, 3], .readBytes true 1, .swap true false, .write true [9, 8] 1,
        .append false [4, 5, 6]]).1.queues = fun i => if i then [9] else [2, 3, 4, 5, 6] := by
  have hallowed : AllAllowed (new (fun _ : Bool => 4) (fun _ => 4) (by decide))
      [.append true [1, 2, 3], .readBytes true 1, .swap true false, .write true [9, 8] 1,
        .append false [4, 5, 6]] :=
    ⟨trivial, trivial, trivial, ⟨by decide, by decide⟩, trivial, trivial⟩
  have hqueues := (buffers_are_queues _ hallowed).2.1
  funext i
  rw [queues, hqueues i]
  revert i
  decide

end Buffers

end Mysya
