import Mysya.SendStream

/-!
# Peer close

The kernel's side of a connection is a queue of bytes with a FIN behind it, and
an edge-triggered event for what has come since the last one. The two read
handlers differ only in how they tell the application, so the queue is run
against a `Reader`, of which both are instances. A handler takes an empty queue
for a close and does not look behind the bytes it gets.
-/

namespace Mysya

open GuardedRuns

/-- A read handler run to its end. `taken` is what the application took off the receive
buffer meanwhile, `closed` whether it was told that the peer has closed. -/
structure Reading (σ : Type) where
  state : σ
  taken : List UInt8
  closed : Bool

/-- An owner of a connection, with the read handler its events call. -/
structure Reader (σ : Type) where
  connection : σ → Option Connection
  read : σ → Int → ReadResult → Nat → Option (Reading σ)
  read_done : ∀ {s : σ} {c c' : Connection} {n : Int} {r : ReadResult} {received peerClosed : Bool}
    (consume : Nat), connection s = some c → c.ReceiveFits n r →
      c.receive n r = (c', .done received peerClosed) →
        ∃ reading c'', read s n r consume = some reading ∧ reading.closed = peerClosed ∧
          connection reading.state = some c'' ∧
          reading.taken ++ c''.receiveBuffer.readable = c'.receiveBuffer.readable

/-- One return of the handler, with what had arrived when its event was raised. -/
structure Return where
  arrivedBefore : List UInt8
  finBefore : Bool
  handed : List UInt8
  finByReturn : Bool
  closed : Bool
  deriving DecidableEq, Repr

/-- Everything from before the event was handed over, and a close was reported for a FIN:
for one from before the event in any case, for a later one at will. -/
def Return.Right (r : Return) : Prop :=
  r.arrivedBefore <+: r.handed ∧ (r.finBefore = true → r.closed = true) ∧
    (r.closed = true → r.finByReturn = true)

instance (r : Return) : Decidable r.Right := by
  unfold Return.Right
  infer_instance

/-- `ready` is the edge `epoll_wait` has not returned yet; `raised` is what had arrived when
it returned the event that is waiting for its handler. -/
structure Peer (σ : Type) where
  owner : σ
  queue : List UInt8
  fin : Bool
  ready : Bool
  raised : Option (List UInt8 × Bool)
  arrived : List UInt8
  consumed : List UInt8
  returns : List Return

namespace Peer

variable {σ : Type} {R : Reader σ} {s s' : Peer σ}

/-- In a call, `late` and `lateFin` arrive between `ReadableSize` and `Read`. -/
inductive Action (σ : Type) where
  | arrive (data : List UInt8)
  | arriveFin
  | raise
  | call (late : List UInt8) (lateFin : Bool) (consume : Nat)
  | others (owner : σ)

def start (R : Reader σ) (owner : σ) : Peer σ where
  owner := owner
  queue := []
  fin := false
  ready := false
  raised := none
  arrived := (R.connection owner).elim [] fun c => c.receiveBuffer.readable
  consumed := []
  returns := []

/-- The answer of `FIONREAD`. -/
def readableSize (s : Peer σ) : Int := toInt32 s.queue.length

/-- What `recv` takes once `late` has come; where nothing is readable there is no `recv`. -/
def recv (s : Peer σ) (c : Connection) (late : List UInt8) : List UInt8 :=
  if s.readableSize ≤ 0 then []
  else
    (s.queue ++ late).take
      (c.receiveBuffer.reserveWritableBytes (toSizeT s.readableSize)).writableBytes

def call (R : Reader σ) (s : Peer σ) (late : List UInt8) (lateFin : Bool) (consume : Nat) :
    Option (Peer σ) :=
  match R.connection s.owner, s.raised with
  | some c, some (arrivedBefore, finBefore) =>
    let data := s.recv c late
    match R.read s.owner s.readableSize (.received data) consume with
    | none => none
    | some reading =>
      let consumed := s.consumed ++ reading.taken
      let handed := consumed ++
        (R.connection reading.state).elim [] fun c => c.receiveBuffer.readable
      some { s with
        owner := reading.state
        queue := (s.queue ++ late).drop data.length
        fin := s.fin || lateFin
        ready := s.ready || !late.isEmpty || lateFin
        raised := none
        arrived := s.arrived ++ late
        consumed := consumed
        returns := ⟨arrivedBefore, finBefore, handed, s.fin || lateFin, reading.closed⟩ :: s.returns }
  | _, _ => none

/-- Nothing follows a FIN, and the queue never outgrows the `int` of `FIONREAD`. Between two
events the owner may do anything that leaves the connection there and adds nothing to its
receive buffer. -/
def step (R : Reader σ) (s : Peer σ) : Action σ → Option (Peer σ)
  | .arrive data =>
    if s.fin = false ∧ data ≠ [] ∧ (s.queue ++ data).length < 2147483648 then
      some { s with queue := s.queue ++ data, ready := true, arrived := s.arrived ++ data }
    else none
  | .arriveFin => if s.fin = false then some { s with fin := true, ready := true } else none
  | .raise =>
    if s.ready = true ∧ s.raised = none then
      some { s with ready := false, raised := some (s.arrived, s.fin) }
    else none
  | .call late lateFin consume =>
    if (s.fin = true → late = [] ∧ lateFin = false) ∧ (s.queue ++ late).length < 2147483648 then
      s.call R late lateFin consume
    else none
  | .others owner =>
    match R.connection s.owner, R.connection owner with
    | some c, some c' =>
      if c'.receiveBuffer.readable <:+ c.receiveBuffer.readable then
        some { s with
          owner := owner
          consumed := s.consumed ++ c.receiveBuffer.readable.take
            (c.receiveBuffer.readable.length - c'.receiveBuffer.readable.length) }
      else none
    | _, _ => none

/-- An event that finds no byte finds a FIN, and one that finds bytes was raised before it. -/
def CallGuard (s : Peer σ) : Action σ → Prop
  | .call _ lateFin _ => (s.queue = [] → s.fin = true ∨ lateFin = true) ∧
      (s.queue ≠ [] → ∀ event ∈ s.raised, event.2 = false)
  | _ => True

instance (s : Peer σ) (a : Action σ) : Decidable (s.CallGuard a) := by
  cases a <;> unfold CallGuard <;> infer_instance

/-- No byte is lost or reordered on its way, and events are not older than what they tell. -/
structure Sound (R : Reader σ) (s : Peer σ) : Prop where
  stream : ∀ c, R.connection s.owner = some c →
    s.consumed ++ c.receiveBuffer.readable ++ s.queue = s.arrived
  small : s.queue.length < 2147483648
  raised : ∀ event ∈ s.raised, event.1 <+: s.arrived ∧ (event.2 = true → s.fin = true)

theorem start_sound (R : Reader σ) (owner : σ) : Sound R (start R owner) where
  stream c hc := by
    have howner : R.connection owner = some c := hc
    simp [start, howner]
  small := Nat.zero_lt_succ _
  raised event hevent := by cases hevent

/-- The handler takes all that is queued, and says that the peer has closed exactly when
nothing is. -/
theorem read_queue (sound : Sound R s) {c : Connection} (hc : R.connection s.owner = some c)
    (late : List UInt8) (consume : Nat) :
    s.queue <+: s.recv c late ∧ s.recv c late <+: s.queue ++ late ∧
      ∃ reading c', R.read s.owner s.readableSize (.received (s.recv c late)) consume =
          some reading ∧
        reading.closed = decide (s.queue = []) ∧ R.connection reading.state = some c' ∧
        reading.taken ++ c'.receiveBuffer.readable = c.receiveBuffer.readable ++ s.recv c late := by
  have hsize : s.readableSize = s.queue.length := by rw [readableSize, toInt32_of_lt sound.small]
  by_cases hqueue : s.queue = []
  · have hnone : s.readableSize ≤ 0 := by simp [hsize, hqueue]
    have hrecv : s.recv c late = [] := by rw [recv, if_pos hnone]
    have hreceive : c.receive s.readableSize (.received []) = (c, .done false true) := by
      rw [Connection.receive, if_pos hnone]
    obtain ⟨reading, c', hread, hclosed, hc', htaken⟩ :=
      R.read_done consume hc (fun hpos => absurd hpos (by omega)) hreceive
    rw [hrecv, hqueue, List.append_nil]
    exact ⟨List.prefix_rfl, List.nil_prefix, reading, c', hread, hclosed, hc', htaken⟩
  · have hpos : 0 < s.queue.length := List.length_pos_iff.mpr hqueue
    have hsome : 0 < s.readableSize := by omega
    have hrecv : s.recv c late = (s.queue ++ late).take (c.receiveBuffer.reserveWritableBytes
        (toSizeT s.readableSize)).writableBytes := by
      rw [recv, if_neg (by omega)]
    have hroom : s.queue.length ≤ (c.receiveBuffer.reserveWritableBytes
        (toSizeT s.readableSize)).writableBytes := by
      have hasked : toSizeT s.readableSize = s.queue.length := by
        rw [hsize]
        exact toSizeT_natCast (by have := sound.small; omega)
      exact Nat.le_trans (Nat.le_of_eq hasked.symm) (DynamicBuffer.le_writableBytes_reserve _ _)
    have hqueued : s.queue <+: s.recv c late := by
      rw [hrecv]
      exact List.prefix_take_iff.mpr ⟨List.prefix_append _ _, hroom⟩
    have fits : c.ReceiveFits s.readableSize (.received (s.recv c late)) := by
      intro _
      rw [hrecv]
      exact List.length_take_le _ _
    obtain ⟨c₁, hreceive⟩ : ∃ c₁, c.receive s.readableSize (.received (s.recv c late)) =
        (c₁, .done true false) := by
      have hlen := hqueued.length_le
      unfold Connection.receive
      rw [if_neg (by omega)]
      dsimp only
      rw [if_pos (by omega)]
      exact ⟨_, rfl⟩
    have hreadable := Connection.receive_readable c hsome fits
    obtain ⟨reading, c', hread, hclosed, hc', htaken⟩ := R.read_done consume hc fits hreceive
    rw [hreceive] at hreadable
    refine ⟨hqueued, hrecv ▸ List.take_prefix _ _, reading, c', hread, ?_, hc', ?_⟩
    · rw [hclosed, decide_eq_false hqueue]
    · rw [htaken]
      exact hreadable

/-- What a call with an event waiting does. -/
structure Called (R : Reader σ) (s : Peer σ) (event : List UInt8 × Bool) (lateFin : Bool)
    (t : Peer σ) : Prop where
  returned : ∃ handed, s.arrived <+: handed ∧ t.returns =
    ⟨event.1, event.2, handed, s.fin || lateFin, decide (s.queue = [])⟩ :: s.returns
  stream : ∀ c, R.connection t.owner = some c →
    t.consumed ++ c.receiveBuffer.readable ++ t.queue = t.arrived
  raised : t.raised = none

theorem call_spec (sound : Sound R s) {c : Connection} (hc : R.connection s.owner = some c)
    {event : List UInt8 × Bool} (hraised : s.raised = some event) (late : List UInt8)
    (lateFin : Bool) (consume : Nat) :
    ∃ t, s.call R late lateFin consume = some t ∧ Called R s event lateFin t ∧
      t.queue.length ≤ (s.queue ++ late).length := by
  obtain ⟨hqueued, hrecv, reading, c', hread, hclosed, hc', htaken⟩ :=
    read_queue sound hc late consume
  have hstream := sound.stream c hc
  have hhanded : s.consumed ++ reading.taken ++ c'.receiveBuffer.readable =
      s.consumed ++ c.receiveBuffer.readable ++ s.recv c late := by
    rw [List.append_assoc, htaken, List.append_assoc]
  obtain ⟨arrivedBefore, finBefore⟩ := event
  unfold call
  rw [hc, hraised]
  dsimp only
  rw [hread]
  generalize s.recv c late = data at *
  refine ⟨_, rfl, ⟨⟨_, ?_, by rw [hclosed]⟩, fun c'' hc'' => ?_, rfl⟩, ?_⟩
  · rw [hc', Option.elim_some, hhanded, ← hstream]
    exact (List.prefix_append_right_inj _).mpr hqueued
  · cases hc'.symm.trans hc''
    show s.consumed ++ reading.taken ++ c'.receiveBuffer.readable ++
      (s.queue ++ late).drop data.length = s.arrived ++ late
    rw [hhanded, List.append_assoc, List.prefix_iff_eq_append.mp hrecv, ← List.append_assoc,
      hstream]
  · show ((s.queue ++ late).drop data.length).length ≤ _
    rw [List.length_drop]
    exact Nat.sub_le _ _

/-- A step keeps `Sound`, and returns rightly exactly when it meets `CallGuard`. -/
theorem step_sound (sound : Sound R s) {a : Action σ} (h : s.step R a = some s') :
    Sound R s' ∧ ((∀ r ∈ s.returns, r.Right) → ((∀ r ∈ s'.returns, r.Right) ↔ s.CallGuard a)) := by
  cases a with
  | arrive data =>
    rw [step] at h
    split at h
    · rename_i harrive
      cases h
      refine ⟨⟨fun c hc => ?_, harrive.2.2, fun event hevent => ?_⟩, fun hreturns => ?_⟩
      · show s.consumed ++ c.receiveBuffer.readable ++ (s.queue ++ data) = s.arrived ++ data
        rw [← List.append_assoc, sound.stream c hc]
      · obtain ⟨hbefore, hfin⟩ := sound.raised event hevent
        exact ⟨hbefore.trans (List.prefix_append _ _), hfin⟩
      · exact iff_of_true hreturns trivial
    · cases h
  | arriveFin =>
    rw [step] at h
    split at h
    · cases h
      exact ⟨⟨sound.stream, sound.small, fun event hevent => ⟨(sound.raised event hevent).1,
        fun _ => rfl⟩⟩, fun hreturns => iff_of_true hreturns trivial⟩
    · cases h
  | raise =>
    rw [step] at h
    split at h
    · cases h
      refine ⟨⟨sound.stream, sound.small, fun event hevent => ?_⟩,
        fun hreturns => iff_of_true hreturns trivial⟩
      cases hevent
      exact ⟨List.prefix_rfl, id⟩
    · cases h
  | call late lateFin consume =>
    rw [step] at h
    split at h
    · rename_i hlate
      cases hconnection : R.connection s.owner with
      | none => rw [call, hconnection] at h; cases h
      | some c =>
        cases hraised : s.raised with
        | none => rw [call, hconnection, hraised] at h; cases h
        | some event =>
          obtain ⟨t, hcall, called, hlen⟩ :=
            call_spec sound hconnection hraised late lateFin consume
          cases hcall.symm.trans h
          obtain ⟨hbefore, hfin⟩ := sound.raised event hraised
          obtain ⟨handed, hhanded, hreturned⟩ := called.returned
          refine ⟨⟨called.stream, by omega, fun e he => ?_⟩, fun hright => ?_⟩
          · rw [called.raised] at he
            cases he
          · rw [hreturned, List.forall_mem_cons, and_iff_left hright, CallGuard, hraised]
            by_cases hqueue : s.queue = []
            · simp [Return.Right, hqueue, hbefore.trans hhanded]
            · simp [Return.Right, hqueue, hbefore.trans hhanded]
    · cases h
  | others owner =>
    rw [step] at h
    split at h
    · rename_i c c' hc hc'
      split at h
      · rename_i hsuffix
        cases h
        refine ⟨⟨fun c'' hc'' => ?_, sound.small, sound.raised⟩,
          fun hreturns => iff_of_true hreturns trivial⟩
        cases hc'.symm.trans hc''
        have hsplit := List.suffix_iff_eq_append.mp hsuffix
        show s.consumed ++ _ ++ c'.receiveBuffer.readable ++ s.queue = s.arrived
        rw [List.append_assoc s.consumed, hsplit]
        exact sound.stream c hc
      · cases h
    · cases h

/-- A run whose calls all meet the guard returns rightly throughout, and its next step
goes on doing so exactly when that meets the guard as well. -/
theorem returns_right {owner : σ} (hs : Reaches (step R) CallGuard (start R owner) s) :
    (∀ r ∈ s.returns, r.Right) ∧
      ∀ a s', s.step R a = some s' → ((∀ r ∈ s'.returns, r.Right) ↔ s.CallGuard a) := by
  have hinv : Sound R s ∧ ∀ r ∈ s.returns, r.Right := by
    refine hs.invariant (I := fun s => Sound R s ∧ ∀ r ∈ s.returns, r.Right)
      ⟨start_sound R owner, fun r hr => by cases hr⟩ ?_
    rintro s a s' ⟨sound, hright⟩ guarded hstep
    obtain ⟨sound', hiff⟩ := step_sound sound hstep
    exact ⟨sound', (hiff hright).mpr guarded⟩
  exact ⟨hinv.2, fun a s' hstep => (step_sound hinv.1 hstep).2 hinv.2⟩

end Peer

namespace TcpSocketApp

/-- How often the application has been told of a close. -/
def closeNotices (s : TcpSocketApp) : Nat := s.notices.countP fun n => n.callback == .close

/-- The connection of `sockfd`, while its read events go to `OnSocketRead` and the application
has a callback for a close. -/
def readConnection (sockfd : Int) (s : TcpSocketApp) : Option Connection :=
  match s.sockets sockfd with
  | none => none
  | some socket =>
    if s.stack = [] ∧ socket.readCallback = some .onSocketRead ∧ s.installed .close = true then
      s.connections sockfd
    else none

/-- The receive callback, where it runs, takes `consume` bytes. -/
def receiveCallback (sockfd : Int) (consume : Nat) (s : TcpSocketApp) :
    Option (TcpSocketApp × List UInt8) :=
  if s.stack.head? = some .callback then
    match s.connections sockfd with
    | none => none
    | some c => (run step [.readBytes sockfd consume, .ret] s).map
        (·, c.receiveBuffer.readable.take consume)
  else some (s, [])

/-- The close callback, where it runs, does nothing. -/
def closeCallback (s : TcpSocketApp) : Option TcpSocketApp :=
  if s.stack.head? = some .callback then s.step .ret else some s

/-- `OnSocketRead` from the event to its end. -/
def readToEnd (sockfd : Int) (s : TcpSocketApp) (readableSize : Int) (r : ReadResult)
    (consume : Nat) : Option (Reading TcpSocketApp) := do
  let received ← s.step (.read sockfd ⟨0, true, false, false⟩ readableSize r)
  let (handled, taken) ← received.receiveCallback sockfd consume
  let resumed ← handled.step .resume
  let returned ← resumed.closeCallback
  pure ⟨returned, taken, s.closeNotices < returned.closeNotices⟩

variable {sockfd : Int} {s t : TcpSocketApp} {c : Connection}

/-- `t` is `s` inside `OnSocketRead`, with the connection at `c`. -/
structure Reads (sockfd : Int) (s t : TcpSocketApp) (stack : List Frame) (c : Connection) :
    Prop where
  stack : t.stack = stack
  sockets : t.sockets = s.sockets
  installed : t.installed = s.installed
  connection : t.connections sockfd = some c
  closeNotices : t.closeNotices = s.closeNotices

theorem readConnection_eq_some : s.readConnection sockfd = some c ↔
    ∃ socket, s.sockets sockfd = some socket ∧ s.stack = [] ∧
      socket.readCallback = some .onSocketRead ∧ s.installed .close = true ∧
      s.connections sockfd = some c := by
  unfold readConnection
  cases s.sockets sockfd with
  | none => simp
  | some socket => simp [and_assoc]

theorem Reads.notify {stack : List Frame} (h : Reads sockfd s t stack c) {n : Notice}
    (hn : n.callback ≠ .close) :
    ∃ rest, (rest = [] ∨ rest = [.callback]) ∧ Reads sockfd s (t.notify n) (rest ++ stack) c := by
  unfold TcpSocketApp.notify
  split
  · refine ⟨[.callback], Or.inr rfl, ?_, h.sockets, h.installed, h.connection, ?_⟩
    · rw [push, setStack, h.stack]
      rfl
    · rw [← h.closeNotices, TcpSocketApp.closeNotices, List.countP_cons_of_neg (by simpa using hn)]
      rfl
  · exact ⟨[], Or.inl rfl, h⟩

/-- The loop of `OnSocketRead`, up to the receive callback. -/
theorem step_read_reads {socket : TcpSocket} {c' : Connection} {n : Int} {r : ReadResult}
    {received peerClosed : Bool} (hsocket : s.sockets sockfd = some socket)
    (hstack : s.stack = []) (hread : socket.readCallback = some .onSocketRead)
    (hc : s.connections sockfd = some c) (fits : c.ReceiveFits n r)
    (hreceive : c.receive n r = (c', .done received peerClosed)) :
    ∃ t rest, s.step (.read sockfd ⟨0, true, false, false⟩ n r) = some t ∧
      (rest = [] ∨ rest = [.callback]) ∧
      Reads sockfd s t (rest ++ [.received sockfd c'.tcpSocket peerClosed]) c' := by
  have hstep : s.step (.read sockfd ⟨0, true, false, false⟩ n r) =
      s.onSocketRead sockfd n r := by
    simp [step, hstack, dispatch, hsocket, hread]
  rw [hstep, onSocketRead, hc]
  dsimp only
  rw [if_pos fits, hreceive]
  have plain : Reads sockfd s
      ((s.setConnection sockfd c').push (.received sockfd c'.tcpSocket peerClosed))
      [.received sockfd c'.tcpSocket peerClosed] c' :=
    ⟨by simp [push, setStack, setConnection, hstack], rfl, rfl, Function.update_self _ _ _, rfl⟩
  cases received with
  | false => exact ⟨_, [], rfl, Or.inl rfl, plain⟩
  | true =>
    obtain ⟨rest, hrest, reads⟩ := plain.notify
      (n := ⟨c'.tcpSocket, .onSocketRead, .receive⟩) (by simp)
    exact ⟨_, rest, rfl, hrest, reads⟩

/-- The receive callback, up to the rest of `OnSocketRead`. -/
theorem receiveCallback_reads {rest stack : List Frame} (hrest : rest = [] ∨ rest = [.callback])
    (hstack : stack.head? ≠ some .callback) (h : Reads sockfd s t (rest ++ stack) c)
    (consume : Nat) :
    ∃ t' taken c', t.receiveCallback sockfd consume = some (t', taken) ∧
      Reads sockfd s t' stack c' ∧
      taken ++ c'.receiveBuffer.readable = c.receiveBuffer.readable := by
  unfold receiveCallback
  rw [h.stack, h.connection]
  rcases hrest with rfl | rfl
  · rw [List.nil_append, if_neg hstack]
    exact ⟨t, [], c, rfl, h, rfl⟩
  · rw [List.singleton_append, if_pos (List.head?_cons ..)]
    refine ⟨(t.setConnection sockfd
      { c with receiveBuffer := c.receiveBuffer.readBytes consume }).setStack stack,
      c.receiveBuffer.readable.take consume,
      { c with receiveBuffer := c.receiveBuffer.readBytes consume }, ?_,
      ⟨rfl, h.sockets, h.installed, Function.update_self _ _ _, h.closeNotices⟩, ?_⟩
    · simp [run, step, AppRuns, h.stack, call, h.connection, setConnection, setStack]
    · rw [DynamicBuffer.readable_readBytes, List.take_append_drop]

/-- The end of `OnSocketRead`, and the close callback. -/
theorem resume_reads {object : Nat} {peerClosed : Bool} {c' : Connection}
    (hc : s.readConnection sockfd = some c)
    (h : Reads sockfd s t [.received sockfd object peerClosed] c') :
    ∃ resumed t', t.step .resume = some resumed ∧ resumed.closeCallback = some t' ∧
      t'.readConnection sockfd = some c' ∧ decide (s.closeNotices < t'.closeNotices) = peerClosed := by
  obtain ⟨socket, hsocket, hstack, hread, hclose, _⟩ := readConnection_eq_some.mp hc
  have hclose' : t.installed .close = true := by rw [h.installed, hclose]
  have hresume : t.step .resume = some (if peerClosed = true then
      (t.setStack []).notify ⟨object, .onSocketRead, .close⟩ else t.setStack []) := by
    rw [step, resume, h.stack]
  refine ⟨_, { t.setStack [] with
    notices := if peerClosed = true then ⟨object, .onSocketRead, .close⟩ :: t.notices
      else t.notices }, hresume, ?_, ?_, ?_⟩
  · cases peerClosed with
    | false => rfl
    | true => simp [notify, setStack, hclose', closeCallback, push, step]
  · refine readConnection_eq_some.mpr ⟨socket, ?_, rfl, hread, hclose', h.connection⟩
    exact (congrFun h.sockets sockfd).trans hsocket
  · have hnotices := h.closeNotices
    unfold closeNotices at hnotices ⊢
    cases peerClosed with
    | false => simp [hnotices]
    | true => simp [hnotices]

def reader (sockfd : Int) : Reader TcpSocketApp where
  connection := readConnection sockfd
  read := readToEnd sockfd
  read_done := by
    intro s c c' n r received peerClosed consume hc fits hreceive
    obtain ⟨socket, hsocket, hstack, hread, hclose, hconnection⟩ := readConnection_eq_some.mp hc
    obtain ⟨t, rest, hstep, hrest, reads⟩ :=
      step_read_reads hsocket hstack hread hconnection fits hreceive
    obtain ⟨t', taken, c'', hcallback, reads', htaken⟩ :=
      receiveCallback_reads hrest (by simp) reads consume
    obtain ⟨resumed, t'', hresume, hreturn, hc'', hclosed⟩ := resume_reads hc reads'
    refine ⟨⟨t'', taken, s.closeNotices < t''.closeNotices⟩, c'', ?_, hclosed, hc'', htaken⟩
    simp [readToEnd, hstep, hcallback, hresume, hreturn]

end TcpSocketApp

namespace TcpService

/-- The connection of the socket at `address`, once its read events go to `OnSocketRead`. -/
def readConnection (address : Nat) (s : TcpService) : Option Connection := do
  let socket ← s.sockets address
  let agent ← socket.onSocketRead
  let channel ← socket.appHandle
  let _ ← (s.agents agent).channels socket.sockfd
  s.heap channel

def closedPushes (s : TcpService) : Nat := s.pushes.countP fun n => n.push == .closed

/-- `OnSocketRead`, with a decode callback that takes `decoded` bytes where it is called. -/
def readToEnd (address : Nat) (s : TcpService) (readableSize : Int) (r : ReadResult)
    (decoded : Nat) : Option (Reading TcpService) := do
  let c ← s.readConnection address
  let taken := match c.receive readableSize r with
    | (c, .done true _) => c.receiveBuffer.readable.take decoded
    | _ => []
  let returned ← s.step (.read address ⟨0, true, false, false⟩ readableSize r decoded)
  pure ⟨returned, taken, s.closedPushes < returned.closedPushes⟩

variable {address : Nat} {s : TcpService} {c : Connection}

theorem readConnection_eq_some : s.readConnection address = some c ↔
    ∃ socket agent channel pointer, s.sockets address = some socket ∧
      socket.onSocketRead = some agent ∧ socket.appHandle = some channel ∧
      (s.agents agent).channels socket.sockfd = some pointer ∧ s.heap channel = some c := by
  simp only [readConnection, Option.bind_eq_bind, Option.bind_eq_some_iff]
  grind

theorem closeTcpSocket_of_mem {agent : Nat} {sockfd : Int} {channel : Nat}
    (h : (s.agents agent).channels sockfd = some channel) :
    s.closeTcpSocket agent sockfd = some s := by
  rw [closeTcpSocket, removeTcpSocket, h]

theorem readToEnd_done {c' : Connection} {n : Int} {r : ReadResult} {received peerClosed : Bool}
    (decoded : Nat) (hc : s.readConnection address = some c) (fits : c.ReceiveFits n r)
    (hreceive : c.receive n r = (c', .done received peerClosed)) :
    ∃ reading c'', readToEnd address s n r decoded = some reading ∧ reading.closed = peerClosed ∧
      readConnection address reading.state = some c'' ∧
      reading.taken ++ c''.receiveBuffer.readable = c'.receiveBuffer.readable := by
  obtain ⟨socket, agent, channel, pointer, hsocket, hread, hhandle, hpointer, hheap⟩ :=
    readConnection_eq_some.mp hc
  let decodedBytes := if received then decoded else 0
  let c'' := { c' with receiveBuffer := c'.receiveBuffer.readBytes decodedBytes }
  let t := if peerClosed then
      (s.setChannel channel (some c'')).pushWakeupCallback ⟨socket.object, agent, socket.sockfd, .closed⟩
    else s.setChannel channel (some c'')
  have hstep : s.step (.read address ⟨0, true, false, false⟩ n r decoded) = some t := by
    simp only [step, hsocket, onRead, hread, onSocketRead, hhandle, hheap, if_pos fits, hreceive,
      if_true]
    cases peerClosed with
    | false => rfl
    | true => exact closeTcpSocket_of_mem hpointer
  have hrest : t.sockets = s.sockets ∧ t.agents = s.agents ∧ t.heap channel = some c'' := by
    have hupdated : Function.update s.heap channel (some c'') channel = some c'' :=
      Function.update_self _ _ _
    cases peerClosed with
    | false => exact ⟨rfl, rfl, hupdated⟩
    | true => exact ⟨rfl, rfl, hupdated⟩
  have hclosed : decide (s.closedPushes < t.closedPushes) = peerClosed := by
    have hpushes : t.closedPushes = s.closedPushes + if peerClosed then 1 else 0 := by
      cases peerClosed with
      | false => rfl
      | true => exact List.countP_cons_of_pos (by rfl)
    rw [hpushes]
    cases peerClosed <;> simp
  refine ⟨⟨t, if received then c'.receiveBuffer.readable.take decoded else [],
    s.closedPushes < t.closedPushes⟩, c'', ?_, hclosed, ?_, ?_⟩
  · cases received with
    | false => simp [readToEnd, hc, hreceive, hstep]
    | true => simp [readToEnd, hc, hreceive, hstep]
  · refine readConnection_eq_some.mpr
      ⟨socket, agent, channel, pointer, ?_, hread, hhandle, ?_, hrest.2.2⟩
    · rw [hrest.1, hsocket]
    · rw [hrest.2.1, hpointer]
  · show _ ++ (c'.receiveBuffer.readBytes (if received then decoded else 0)).readable = _
    rw [DynamicBuffer.readable_readBytes]
    cases received with
    | false => rfl
    | true => exact List.take_append_drop _ _

def reader (address : Nat) : Reader TcpService where
  connection := readConnection address
  read := readToEnd address
  read_done := readToEnd_done

end TcpService

/-- As long as an event that finds no byte finds a FIN, and one that finds bytes was raised
before the FIN, both handlers hand over everything and report a close for a FIN only and for
each; where an event is not so, they do not. -/
theorem peer_close_right (sockfd : Int) (app : TcpSocketApp) (address : Nat)
    (service : TcpService) :
    (∀ s, Reaches (Peer.step (TcpSocketApp.reader sockfd)) Peer.CallGuard
        (.start (TcpSocketApp.reader sockfd) app) s →
      (∀ r ∈ s.returns, r.Right) ∧ ∀ a s', s.step (TcpSocketApp.reader sockfd) a = some s' →
        ((∀ r ∈ s'.returns, r.Right) ↔ s.CallGuard a)) ∧
    (∀ s, Reaches (Peer.step (TcpService.reader address)) Peer.CallGuard
        (.start (TcpService.reader address) service) s →
      (∀ r ∈ s.returns, r.Right) ∧ ∀ a s', s.step (TcpService.reader address) a = some s' →
        ((∀ r ∈ s'.returns, r.Right) ↔ s.CallGuard a)) :=
  ⟨fun _ => Peer.returns_right, fun _ => Peer.returns_right⟩

/-- An application with one connection and a callback for its close. -/
def closeable : TcpSocketApp :=
  { (TcpSocketApp.init 256 64 TcpSocketApp.socketBufferExtendSize_pos).insert 5
      (.attach 0 (some .onSocketRead) none (some .onSocketError)) with
    installed := Function.update (fun _ => false) .close true }

/-- A service with one agent and one connection. -/
def serving : TcpService := (TcpService.init 1).acceptRound 0 5 ⟨true, true, true⟩

/-- Two bytes, then a FIN, each with its event. -/
def finAfterData {σ : Type} : List (Peer.Action σ) :=
  [.arrive [1, 2], .raise, .call [] false 0, .arriveFin, .raise, .call [] false 0]

theorem peer_close_right_twice :
    (∃ s, run (Peer.step (TcpSocketApp.reader 5)) finAfterData
        (.start (TcpSocketApp.reader 5) closeable) = some s ∧
      s.returns.map Return.closed = [true, false] ∧ ∀ r ∈ s.returns, r.Right) ∧
    (∃ s, run (Peer.step (TcpService.reader 0)) finAfterData
        (.start (TcpService.reader 0) serving) = some s ∧
      s.returns.map Return.closed = [true, false] ∧ ∀ r ∈ s.returns, r.Right) := by
  constructor
  · obtain ⟨s, hs, hclosed⟩ := Option.map_eq_some_iff.mp
      (by decide +kernel : (run (Peer.step (TcpSocketApp.reader 5)) finAfterData
        (.start (TcpSocketApp.reader 5) closeable)).map (fun s => s.returns.map Return.closed) =
          some [true, false])
    exact ⟨s, hs, hclosed, ((peer_close_right 5 closeable 0 serving).1 s
      (Reaches.refl.run (by decide +kernel) hs)).1⟩
  · obtain ⟨s, hs, hclosed⟩ := Option.map_eq_some_iff.mp
      (by decide +kernel : (run (Peer.step (TcpService.reader 0)) finAfterData
        (.start (TcpService.reader 0) serving)).map (fun s => s.returns.map Return.closed) =
          some [true, false])
    exact ⟨s, hs, hclosed, ((peer_close_right 5 closeable 0 serving).2 s
      (Reaches.refl.run (by decide +kernel) hs)).1⟩

/-- A FIN that comes with the byte in front of it. -/
def finWithData {σ : Type} : List (Peer.Action σ) :=
  [.arrive [1], .arriveFin, .raise, .call [] false 0]

/-- A byte that is taken by the event before its own. -/
def spuriousEvent {σ : Type} : List (Peer.Action σ) :=
  [.arrive [1], .raise, .arrive [2], .call [] false 0, .raise, .call [] false 0]

/-- How a run ends: the edge and the FIN, and whether each return was right and told of a close. -/
def Peer.outcome {σ : Type} (s : Peer σ) : Bool × Bool × List (Bool × Bool) :=
  (s.ready, s.fin, s.returns.map fun r => (decide r.Right, r.closed))

/-- A FIN that comes with data is forgotten, with no event left to report it; and an event
that finds nothing is reported as a close where there is no FIN. -/
theorem peer_close_misreported :
    (run (Peer.step (TcpSocketApp.reader 5)) finWithData
      (.start (TcpSocketApp.reader 5) closeable)).map Peer.outcome =
        some (false, true, [(false, false)]) ∧
    (run (Peer.step (TcpService.reader 0)) finWithData
      (.start (TcpService.reader 0) serving)).map Peer.outcome =
        some (false, true, [(false, false)]) ∧
    (run (Peer.step (TcpSocketApp.reader 5)) spuriousEvent
      (.start (TcpSocketApp.reader 5) closeable)).map Peer.outcome =
        some (false, false, [(false, true), (true, false)]) ∧
    (run (Peer.step (TcpService.reader 0)) spuriousEvent
      (.start (TcpService.reader 0) serving)).map Peer.outcome =
        some (false, false, [(false, true), (true, false)]) := by
  refine ⟨?_, ?_, ?_, ?_⟩
  · decide +kernel
  · decide +kernel
  · decide +kernel
  · decide +kernel

end Mysya
