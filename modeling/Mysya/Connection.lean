import Mysya.DynamicBuffer
import Mysya.MachineInts

/-!
# One connection

`TcpSocketApp::TcpConnection` and `TransportAgent::TransportChannel` hold the
same members, and their `SendMessage`, read loop and write share one body
each. The answers of the kernel are arguments. `wire` and `accepted` are
ghosts: the bytes the kernel has taken, and the messages `SendMessage` has
answered with true.
-/

namespace Mysya

def EAGAIN : Int := 11

inductive WriteResult where
  | sent (size : Nat)
  | again
  | failed (errno : Int)
  deriving DecidableEq, Repr

/-- A write takes at most what it is offered, and an `int` can say how much. -/
def WriteResult.Fits (offered : Nat) : WriteResult → Prop
  | .sent size => size ≤ offered ∧ size < 2147483648
  | .again => True
  | .failed _ => True

instance (offered : Nat) (w : WriteResult) : Decidable (w.Fits offered) := by
  cases w <;> unfold WriteResult.Fits <;> infer_instance

inductive ReadResult where
  | received (data : List UInt8)
  | again
  | failed (errno : Int)
  deriving DecidableEq, Repr

/-- A read returns at most what it has room for. -/
def ReadResult.Fits (room : Nat) : ReadResult → Prop
  | .received data => data.length ≤ room
  | .again => True
  | .failed _ => True

instance (room : Nat) (r : ReadResult) : Decidable (r.Fits room) := by
  cases r <;> unfold ReadResult.Fits <;> infer_instance

/-- A message in the caller's memory, with the byte just in front of `data`. -/
structure Message where
  before : UInt8
  data : List UInt8
  deriving DecidableEq, Repr

def Message.size (m : Message) : Nat := m.data.length

/-- The bytes from `data + offset` on. -/
def Message.slice (m : Message) (offset : Int) (size : Nat) : List UInt8 :=
  ((m.before :: m.data).drop (offset + 1).toNat).take size

/-- `tcpSocket` names the socket object the connection points to. -/
structure Connection where
  tcpSocket : Nat
  receiveBuffer : DynamicBuffer
  sendBuffer : DynamicBuffer
  errno : Int
  wire : List UInt8
  accepted : List UInt8
  deriving DecidableEq, Repr

namespace Connection

def new (tcpSocket initSize extendSize : Nat) (h : 0 < extendSize) : Connection where
  tcpSocket := tcpSocket
  receiveBuffer := .new initSize extendSize h
  sendBuffer := .new initSize extendSize h
  errno := 0
  wire := []
  accepted := []

def setErrno (c : Connection) (errno : Int) : Connection := { c with errno := errno }

inductive SendReturn where
  | refused
  | buffered
  | complete
  deriving DecidableEq, Repr

/-- The end of `SendMessage`, where it goes on to return true. -/
def finishSend (c : Connection) (m : Message) (sendSize remainSize : Int) :
    Connection × SendReturn :=
  if remainSize > 0 then
    ({ c with sendBuffer := c.sendBuffer.append (m.slice sendSize (toSizeT remainSize))
              accepted := c.accepted ++ m.data }, .buffered)
  else ({ c with accepted := c.accepted ++ m.data }, .complete)

/-- `SendMessage`, with the answer of `Write` where it is called. -/
def sendMessage (c : Connection) (m : Message) (w : WriteResult) : Connection × SendReturn :=
  let remainSize := toInt32 m.size
  if c.sendBuffer.readableBytes ≤ 0 then
    match w with
    | .sent size =>
      { c with wire := c.wire ++ m.data.take size }.finishSend m size (remainSize - size)
    | .again => c.finishSend m (-1) remainSize
    | .failed errno => (c.setErrno errno, .refused)
  else c.finishSend m 0 remainSize

def SendFits (c : Connection) (m : Message) (w : WriteResult) : Prop :=
  c.sendBuffer.readableBytes ≤ 0 → w.Fits m.size

instance (c : Connection) (m : Message) (w : WriteResult) : Decidable (c.SendFits m w) := by
  unfold SendFits
  infer_instance

/-- The write of a write handler, which hands over the front of the send buffer;
the result is false where `Write` fails. -/
def flush (c : Connection) : WriteResult → Connection × Bool
  | .sent size =>
    ({ c with sendBuffer := c.sendBuffer.readBytes size
              wire := c.wire ++ c.sendBuffer.readable.take size }, true)
  | .again => (c.setErrno EAGAIN, false)
  | .failed errno => (c.setErrno errno, false)

inductive ReceiveReturn where
  | fatal
  | done (received peerClosed : Bool)
  deriving DecidableEq, Repr

/-- The `for` loop of a read handler, which every path leaves in its first round;
`readableSize` is the answer of `ReadableSize`. -/
def receive (c : Connection) (readableSize : Int) (r : ReadResult) : Connection × ReceiveReturn :=
  if readableSize ≤ 0 then (c, .done false true)
  else
    let receiveBuffer := c.receiveBuffer.reserveWritableBytes (toSizeT readableSize)
    match r with
    | .received data =>
      if data.length > 0 then
        ({ c with receiveBuffer := (receiveBuffer.fill data).writtenBytes data.length },
          .done true false)
      else ({ c with receiveBuffer := receiveBuffer }, .done false true)
    | .again => ({ c with receiveBuffer := receiveBuffer }, .done false false)
    | .failed errno => ({ c with receiveBuffer := receiveBuffer, errno := errno }, .fatal)

def ReceiveFits (c : Connection) (readableSize : Int) (r : ReadResult) : Prop :=
  0 < readableSize →
    r.Fits (c.receiveBuffer.reserveWritableBytes (toSizeT readableSize)).writableBytes

instance (c : Connection) (readableSize : Int) (r : ReadResult) :
    Decidable (c.ReceiveFits readableSize r) := by
  unfold ReceiveFits
  infer_instance

@[simp] theorem setErrno_sendBuffer (c : Connection) (errno : Int) :
    (c.setErrno errno).sendBuffer = c.sendBuffer := rfl

@[simp] theorem receive_sendBuffer (c : Connection) (readableSize : Int) (r : ReadResult) :
    (c.receive readableSize r).1.sendBuffer = c.sendBuffer := by
  unfold receive
  split
  · rfl
  · cases r with
    | received data => dsimp only; split <;> rfl
    | again => rfl
    | failed errno => rfl

/-- A receive appends what it was given. -/
theorem receive_readable (c : Connection) {readableSize : Int} (h : 0 < readableSize)
    {data : List UInt8} (fits : c.ReceiveFits readableSize (.received data)) :
    (c.receive readableSize (.received data)).1.receiveBuffer.readable =
      c.receiveBuffer.readable ++ data := by
  have hroom : data.length ≤ _ := fits h
  unfold receive
  rw [if_neg (by omega)]
  dsimp only
  split
  · exact (DynamicBuffer.readable_fill_writtenBytes _ (Nat.le_refl _) hroom).trans
      (by rw [DynamicBuffer.readable_reserveWritableBytes, List.take_length])
  · have hempty : data = [] := List.length_eq_zero_iff.mp (by omega)
    rw [hempty, List.append_nil]
    exact DynamicBuffer.readable_reserveWritableBytes _ _

/-- The stream has lost nothing: what the kernel has and what waits are what was accepted. -/
def Intact (c : Connection) : Prop := c.wire ++ c.sendBuffer.readable = c.accepted

theorem new_intact (tcpSocket initSize extendSize : Nat) (h : 0 < extendSize) :
    (new tcpSocket initSize extendSize h).Intact := by
  simp [Intact, new]

theorem setErrno_intact {c : Connection} (h : c.Intact) (errno : Int) :
    (c.setErrno errno).Intact := h

theorem receive_intact {c : Connection} (h : c.Intact) (readableSize : Int) (r : ReadResult) :
    (c.receive readableSize r).1.Intact := by
  have hghost : (c.receive readableSize r).1.wire = c.wire ∧
      (c.receive readableSize r).1.accepted = c.accepted := by
    unfold receive
    split
    · exact ⟨rfl, rfl⟩
    · cases r with
      | received data => dsimp only; split <;> exact ⟨rfl, rfl⟩
      | again => exact ⟨rfl, rfl⟩
      | failed errno => exact ⟨rfl, rfl⟩
  rw [Intact, hghost.1, hghost.2, receive_sendBuffer]
  exact h

theorem flush_intact {c : Connection} (h : c.Intact) (w : WriteResult) : (c.flush w).1.Intact := by
  cases w with
  | sent size =>
    show (c.wire ++ c.sendBuffer.readable.take size) ++ (c.sendBuffer.readBytes size).readable = _
    rw [DynamicBuffer.readable_readBytes, List.append_assoc, List.take_append_drop]
    exact h
  | again => exact h
  | failed errno => exact h

theorem Message.slice_natCast (m : Message) (n size : Nat) :
    m.slice n size = (m.data.drop n).take size := by
  have hn : ((n : Int) + 1).toNat = n + 1 := by omega
  rw [Message.slice, hn, List.drop_succ_cons]

theorem finishSend_intact {c : Connection} {m : Message} (small : m.size < 2147483648) {n : Nat}
    (hn : n ≤ m.size) (h : c.wire ++ c.sendBuffer.readable = c.accepted ++ m.data.take n) :
    (c.finishSend m n (toInt32 m.size - n)).1.Intact := by
  have hlen : m.data.length = m.size := rfl
  rw [toInt32_of_lt small]
  unfold finishSend
  split
  · show c.wire ++ (c.sendBuffer.append _).readable = c.accepted ++ m.data
    have hremain : toSizeT ((m.size : Int) - n) = (m.data.drop n).length := by
      rw [List.length_drop]
      unfold toSizeT
      omega
    rw [DynamicBuffer.readable_append, ← List.append_assoc, h, Message.slice_natCast, hremain,
      List.take_length, List.append_assoc, List.take_append_drop]
  · show c.wire ++ c.sendBuffer.readable = c.accepted ++ m.data
    rw [h, List.take_of_length_le (by omega)]

/-- The kernel refuses the direct write of a message that has bytes. -/
def WouldBlock (c : Connection) (m : Message) (w : WriteResult) : Prop :=
  c.sendBuffer.readableBytes ≤ 0 ∧ w = .again ∧ 0 < m.size

/-- The message does not fit an `int`, and the call does not fail. -/
def Oversized (c : Connection) (m : Message) (w : WriteResult) : Prop :=
  2147483648 ≤ m.size ∧ (c.sendBuffer.readableBytes ≤ 0 → ∀ errno, w ≠ .failed errno)

def SendSafe (c : Connection) (m : Message) (w : WriteResult) : Prop :=
  ¬ c.WouldBlock m w ∧ ¬ c.Oversized m w

/-- `SendMessage` keeps the stream whole unless it would block or is oversized. -/
theorem sendMessage_intact {c : Connection} (h : c.Intact) {m : Message} {w : WriteResult}
    (fits : c.SendFits m w) (safe : c.SendSafe m w) : (c.sendMessage m w).1.Intact := by
  have small : (∃ errno, w = .failed errno ∧ c.sendBuffer.readableBytes ≤ 0) ∨
      m.size < 2147483648 := by
    by_contra hlarge
    rw [not_or] at hlarge
    refine safe.2 ⟨by omega, fun hempty errno hw => hlarge.1 ⟨errno, hw, hempty⟩⟩
  unfold sendMessage
  dsimp only
  split
  · rename_i hempty
    have hnil : c.sendBuffer.readable = [] :=
      DynamicBuffer.readableBytes_eq_zero.mp (Nat.le_zero.mp hempty)
    cases w with
    | sent size =>
      have hsize : m.size < 2147483648 := small.resolve_left (by rintro ⟨_, hw, _⟩; cases hw)
      refine finishSend_intact hsize (fits hempty).1 ?_
      show (c.wire ++ m.data.take size) ++ c.sendBuffer.readable = _
      unfold Intact at h
      rw [hnil, List.append_nil] at h ⊢
      rw [h]
    | again =>
      have hzero : m.size = 0 := by
        by_contra hpos
        exact safe.1 ⟨hempty, rfl, Nat.pos_of_ne_zero hpos⟩
      have hdata : m.data = [] := List.length_eq_zero_iff.mp hzero
      rw [hzero]
      show c.wire ++ c.sendBuffer.readable = c.accepted ++ m.data
      rw [hdata, List.append_nil]
      exact h
    | failed errno => exact h
  · rename_i hqueued
    have hsize : m.size < 2147483648 :=
      small.resolve_left (by rintro ⟨_, _, hempty⟩; exact hqueued hempty)
    have hdone := finishSend_intact hsize (Nat.zero_le m.size) (c := c)
      (by rw [List.take_zero, List.append_nil]; exact h)
    rwa [Int.natCast_zero, Int.sub_zero] at hdone

/-- What a step may make of a connection; `asked` are the messages it is asked to send. -/
inductive Touched (asked : Message → WriteResult → Prop) (c : Connection) : Connection → Prop where
  | refl : Touched asked c c
  | errno (errno : Int) : Touched asked c (c.setErrno errno)
  | receive (readableSize : Int) (r : ReadResult) : Touched asked c (c.receive readableSize r).1
  | flush (w : WriteResult) : Touched asked c (c.flush w).1
  | consume {c' : Connection} (size : Nat) : Touched asked c c' →
      Touched asked c { c' with receiveBuffer := c'.receiveBuffer.readBytes size }
  | send (m : Message) (w : WriteResult) : asked m w → c.SendFits m w →
      Touched asked c (c.sendMessage m w).1

theorem Touched.intact {asked : Message → WriteResult → Prop} {c c' : Connection}
    (h : Touched asked c c') (intact : c.Intact) (safe : ∀ m w, asked m w → c.SendSafe m w) :
    c'.Intact := by
  induction h with
  | refl => exact intact
  | errno errno => exact setErrno_intact intact errno
  | receive readableSize r => exact receive_intact intact readableSize r
  | flush w => exact flush_intact intact w
  | consume size _ ih => exact ih
  | send m w hasked fits => exact sendMessage_intact intact fits (safe m w hasked)

theorem finishSend_tcpSocket (c : Connection) (m : Message) (sendSize remainSize : Int) :
    (c.finishSend m sendSize remainSize).1.tcpSocket = c.tcpSocket := by
  unfold finishSend
  split <;> rfl

theorem sendMessage_tcpSocket (c : Connection) (m : Message) (w : WriteResult) :
    (c.sendMessage m w).1.tcpSocket = c.tcpSocket := by
  unfold sendMessage
  dsimp only
  split
  · cases w with
    | sent size => exact finishSend_tcpSocket _ _ _ _
    | again => exact finishSend_tcpSocket _ _ _ _
    | failed errno => rfl
  · exact finishSend_tcpSocket _ _ _ _

theorem flush_tcpSocket (c : Connection) (w : WriteResult) :
    (c.flush w).1.tcpSocket = c.tcpSocket := by
  cases w <;> rfl

theorem receive_tcpSocket (c : Connection) (readableSize : Int) (r : ReadResult) :
    (c.receive readableSize r).1.tcpSocket = c.tcpSocket := by
  unfold receive
  split
  · rfl
  · cases r with
    | received data =>
      dsimp only
      split <;> rfl
    | again => rfl
    | failed errno => rfl

theorem Touched.tcpSocket {asked : Message → WriteResult → Prop} {c c' : Connection}
    (h : Touched asked c c') : c'.tcpSocket = c.tcpSocket := by
  induction h with
  | refl => rfl
  | errno errno => rfl
  | receive readableSize r => exact c.receive_tcpSocket readableSize r
  | flush w => exact c.flush_tcpSocket w
  | consume size _ ih => exact ih
  | send m w _ _ => exact c.sendMessage_tcpSocket m w

end Connection

end Mysya
