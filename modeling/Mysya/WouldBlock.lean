import Mysya.SendStream

/-!
# Would-block

`EAGAIN` is looked for after the writes of the two `SendMessage` and after the reads of the two
read handlers, and a connection survives it there. The two write handlers take any negative
answer for an error: an event of `epoll_wait` says that the socket was writable, but a message
sent from the read callback of the same event may have used that up.
-/

namespace Mysya

open GuardedRuns

/-- What the system call of a handler came to; `again` stands for `EAGAIN`, `failed` for any other
error. -/
inductive Answer where
  | done
  | ended
  | again
  | failed (errno : Int)
  deriving DecidableEq, Repr

def WriteResult.answer : WriteResult → Answer
  | .sent _ => .done
  | .again => .again
  | .failed errno => .failed errno

/-- The answer of `ReadableSize` and, where there is something to read, of `Read`. -/
def ReadResult.answer (readableSize : Int) (r : ReadResult) : Answer :=
  if readableSize ≤ 0 then .ended
  else
    match r with
    | .received [] => .ended
    | .received (_ :: _) => .done
    | .again => .again
    | .failed errno => .failed errno

theorem Connection.receive_answer (c : Connection) (readableSize : Int) (r : ReadResult) :
    ((c.receive readableSize r).2 = .fatal → ∃ errno, r.answer readableSize = .failed errno) ∧
      ∀ received, (c.receive readableSize r).2 = .done received true →
        r.answer readableSize = .ended := by
  unfold receive ReadResult.answer
  split
  · simp
  · cases r with
    | received data => cases data <;> simp
    | again => simp
    | failed errno => simp

theorem Connection.sendMessage_answer (c : Connection) (m : Message) (w : WriteResult)
    (h : (c.sendMessage m w).2 = .refused) : ∃ errno, w.answer = .failed errno := by
  have hfinish : ∀ (c : Connection) sendSize remainSize,
      (c.finishSend m sendSize remainSize).2 ≠ .refused := by
    intro c sendSize remainSize
    unfold finishSend
    split <;> simp
  unfold sendMessage at h
  dsimp only at h
  split at h
  · cases w with
    | sent size => exact absurd h (hfinish _ _ _)
    | again => exact absurd h (hfinish _ _ _)
    | failed errno => exact ⟨errno, rfl⟩
  · exact absurd h (hfinish _ _ _)

theorem Connection.flush_answer (c : Connection) (w : WriteResult) (h : (c.flush w).2 = false) :
    w.answer = .again ∨ ∃ errno, w.answer = .failed errno := by
  cases w with
  | sent size => cases h
  | again => exact Or.inl rfl
  | failed errno => exact Or.inr ⟨errno, rfl⟩

namespace TcpSocketApp

/-- The descriptor a handler works on and what its system call came to. -/
def handled (s : TcpSocketApp) : Action → Option (Int × Answer)
  | .sendMessage sockfd _ w => some (sockfd, w.answer)
  | .read sockfd _ readableSize r =>
    if (s.sockets sockfd).bind TcpSocket.readCallback = some .onSocketRead then
      some (sockfd, r.answer readableSize)
    else none
  | .write sockfd _ w =>
    if (s.sockets sockfd).bind TcpSocket.writeCallback = some .onSocketWrite then
      some (sockfd, w.answer)
    else none
  | _ => none

/-- The step leaves a handler that has this still to do. -/
def Pushed (s s' : TcpSocketApp) (frame : Frame) : Prop :=
  ∃ frames, s'.stack = frames ++ s.stack ∧ frame ∈ frames

/-- The handler closes the connection, or calls the error callback. -/
def Fails (s s' : TcpSocketApp) (sockfd : Int) : Prop :=
  Pushed s s' (.close sockfd none) ∨ ∃ n, s'.notices = n :: s.notices ∧ n.callback = .error

/-- The handler goes on to tell the application that the peer has closed. -/
def Closes (s s' : TcpSocketApp) (sockfd : Int) : Prop :=
  ∃ object, Pushed s s' (.received sockfd object true)

/-- A connection fails only by an error, and is taken for closed only at the end of its stream. -/
def Sparing (s : TcpSocketApp) (a : Action) (s' : TcpSocketApp) : Prop :=
  ∀ sockfd answer, s.handled a = some (sockfd, answer) →
    (s.Fails s' sockfd → ∃ errno, answer = .failed errno) ∧
      (s.Closes s' sockfd → answer = .ended)

/-- `OnSocketWrite` has bytes to send, and its write would block. -/
def WriteWouldBlock (s : TcpSocketApp) : Action → Prop
  | .write sockfd _ w => w = .again ∧
    (s.sockets sockfd).bind TcpSocket.writeCallback = some .onSocketWrite ∧
      ∃ c, s.connections sockfd = some c ∧ 0 < toInt32 c.sendBuffer.readableBytes
  | _ => False

variable {s s' : TcpSocketApp} {sockfd : Int}

theorem not_pushed {frames : List Frame} {frame : Frame} (hstack : s'.stack = frames ++ s.stack)
    (hframe : frame ∉ frames) : ¬ Pushed s s' frame := by
  rintro ⟨frames', hstack', hmem⟩
  rw [hstack] at hstack'
  have hsame := List.append_cancel_right hstack'
  subst hsame
  exact hframe hmem

/-- Nothing to do but to let a callback other than that of an error return. -/
structure Calm (s s' : TcpSocketApp) : Prop where
  stack : ∃ frames, s'.stack = frames ++ s.stack ∧ ∀ f ∈ frames, f = .callback
  notices : s'.notices = s.notices ∨ ∃ n, s'.notices = n :: s.notices ∧ n.callback ≠ .error

theorem Calm.refl (s : TcpSocketApp) : Calm s s :=
  ⟨⟨[], rfl, fun _ hf => by cases hf⟩, Or.inl rfl⟩

theorem Calm.notify (s : TcpSocketApp) {n : Notice} (hn : n.callback ≠ .error) :
    Calm s (s.notify n) := by
  unfold TcpSocketApp.notify
  split
  · exact ⟨⟨[.callback], rfl, fun f hf => List.mem_singleton.mp hf⟩, Or.inr ⟨n, rfl, hn⟩⟩
  · exact Calm.refl s

theorem Calm.not_fails (h : Calm s s') (sockfd : Int) : ¬ s.Fails s' sockfd := by
  obtain ⟨⟨frames, hstack, hframes⟩, hnotices⟩ := h
  rintro (hpushed | ⟨n, hn, herror⟩)
  · refine not_pushed hstack ?_ hpushed
    intro hmem
    cases hframes _ hmem
  · rcases hnotices with hsame | ⟨n', hn', hother⟩
    · rw [hsame] at hn
      exact List.cons_ne_self n s.notices hn.symm
    · rw [hn'] at hn
      cases hn
      exact hother herror

theorem Calm.not_closes (h : Calm s s') (sockfd : Int) : ¬ s.Closes s' sockfd := by
  obtain ⟨⟨frames, hstack, hframes⟩, _⟩ := h
  rintro ⟨object, hpushed⟩
  refine not_pushed hstack ?_ hpushed
  intro hmem
  cases hframes _ hmem

theorem failConnection_fails (s : TcpSocketApp) (sockfd : Int) (c : Connection)
    (handler : Handler) :
    s.Fails (s.failConnection sockfd c handler none) sockfd ∧
      ¬ s.Closes (s.failConnection sockfd c handler none) sockfd := by
  have hstack : ∃ frames, (s.failConnection sockfd c handler none).stack = frames ++ s.stack ∧
      .close sockfd none ∈ frames ∧ ∀ object, .received sockfd object true ∉ frames := by
    unfold failConnection notify
    split
    · exact ⟨[.callback, .close sockfd none], rfl, by simp, by simp⟩
    · exact ⟨[.close sockfd none], rfl, by simp, by simp⟩
  obtain ⟨frames, hframes, hclose, hreceived⟩ := hstack
  refine ⟨Or.inl ⟨frames, hframes, hclose⟩, ?_⟩
  rintro ⟨object, hpushed⟩
  exact not_pushed hframes (hreceived object) hpushed

/-- The rest of `OnSocketRead` is left to do. -/
theorem received_closes (s : TcpSocketApp) (c : Connection) (object : Nat) (peerClosed : Bool)
    (received : Bool) (s' : TcpSocketApp)
    (hs' : s' = if received then
        ((s.setConnection sockfd c).push (.received sockfd object peerClosed)).notify
          ⟨object, .onSocketRead, .receive⟩
      else (s.setConnection sockfd c).push (.received sockfd object peerClosed)) :
    ¬ s.Fails s' sockfd ∧ (s.Closes s' sockfd → peerClosed = true) := by
  have hrest : ∃ frames, s'.stack = frames ++ s.stack ∧
      (∀ f ∈ frames, f = .callback ∨ f = .received sockfd object peerClosed) ∧
      (s'.notices = s.notices ∨ ∃ n, s'.notices = n :: s.notices ∧ n.callback ≠ .error) := by
    subst hs'
    split
    · unfold notify
      split
      · exact ⟨[.callback, .received sockfd object peerClosed], rfl, by simp,
          Or.inr ⟨⟨object, .onSocketRead, .receive⟩, rfl, by simp⟩⟩
      · exact ⟨[.received sockfd object peerClosed], rfl, by simp, Or.inl rfl⟩
    · exact ⟨[.received sockfd object peerClosed], rfl, by simp, Or.inl rfl⟩
  obtain ⟨frames, hstack, hframes, hnotices⟩ := hrest
  constructor
  · rintro (hpushed | ⟨n, hn, herror⟩)
    · refine not_pushed hstack ?_ hpushed
      intro hmem
      rcases hframes _ hmem with hcallback | hreceived
      · cases hcallback
      · cases hreceived
    · rcases hnotices with hsame | ⟨n', hn', hother⟩
      · rw [hsame] at hn
        exact List.cons_ne_self n s.notices hn.symm
      · rw [hn'] at hn
        cases hn
        exact hother herror
  · rintro ⟨object', frames', hstack', hmem⟩
    rw [hstack] at hstack'
    have hsame := List.append_cancel_right hstack'
    subst hsame
    rcases hframes _ hmem with hcallback | hreceived
    · cases hcallback
    · cases hreceived
      rfl

theorem sendMessage_sparing {m : Message} {w : WriteResult}
    (h : s.sendMessage sockfd m w = some s') :
    (s.Fails s' sockfd → ∃ errno, w.answer = .failed errno) ∧ ¬ s.Closes s' sockfd := by
  have calm : Calm s s' → (s.Fails s' sockfd → ∃ errno, w.answer = .failed errno) ∧
      ¬ s.Closes s' sockfd :=
    fun hcalm => ⟨fun hfails => absurd hfails (hcalm.not_fails sockfd), hcalm.not_closes sockfd⟩
  unfold sendMessage at h
  split at h
  · cases h
    exact calm (.refl s)
  · rename_i c hc
    split at h
    · have hanswer := c.sendMessage_answer m w
      split at h
      · rename_i c' hsend
        rw [hsend] at hanswer
        cases h
        exact ⟨fun _ => hanswer rfl, (failConnection_fails s sockfd c' _).2⟩
      · cases h
        exact calm ⟨⟨[], rfl, fun _ hf => by cases hf⟩, Or.inl rfl⟩
      · rename_i c' hsend
        cases h
        have hnotify := Calm.notify (s.setConnection sockfd c')
          (n := ⟨c'.tcpSocket, .sendMessage, .sendComplete⟩) (by simp)
        exact calm ⟨hnotify.stack, hnotify.notices⟩
    · cases h

theorem onSocketRead_sparing {readableSize : Int} {r : ReadResult}
    (h : s.onSocketRead sockfd readableSize r = some s') :
    (s.Fails s' sockfd → ∃ errno, r.answer readableSize = .failed errno) ∧
      (s.Closes s' sockfd → r.answer readableSize = .ended) := by
  unfold onSocketRead at h
  split at h
  · cases h
    exact ⟨fun hfails => absurd hfails ((Calm.refl s).not_fails sockfd),
      fun hcloses => absurd hcloses ((Calm.refl s).not_closes sockfd)⟩
  · rename_i c hc
    split at h
    · obtain ⟨hfatal, hended⟩ := c.receive_answer readableSize r
      split at h
      · rename_i c' hreceive
        rw [hreceive] at hfatal
        cases h
        exact ⟨fun _ => hfatal rfl,
          fun hcloses => absurd hcloses (failConnection_fails s sockfd c' _).2⟩
      · rename_i c' received peerClosed hreceive
        rw [hreceive] at hended
        obtain ⟨hfails, hcloses⟩ := received_closes s c' c'.tcpSocket peerClosed received s'
          (Option.some.inj h).symm
        refine ⟨fun hf => absurd hf hfails, fun hclosed => ?_⟩
        have hpeer := hcloses hclosed
        subst hpeer
        exact hended received rfl
    · cases h

theorem onSocketWrite_sparing {w : WriteResult} (h : s.onSocketWrite sockfd w = some s') :
    ¬ s.Closes s' sockfd ∧ ((s.Fails s' sockfd → ∃ errno, w.answer = .failed errno) ↔
      ¬ (w = .again ∧ ∃ c, s.connections sockfd = some c ∧
        0 < toInt32 c.sendBuffer.readableBytes)) := by
  have calm : Calm s s' → (∀ c, s.connections sockfd = some c →
      0 < toInt32 c.sendBuffer.readableBytes → w ≠ .again) → ¬ s.Closes s' sockfd ∧
        ((s.Fails s' sockfd → ∃ errno, w.answer = .failed errno) ↔
          ¬ (w = .again ∧ ∃ c, s.connections sockfd = some c ∧
            0 < toInt32 c.sendBuffer.readableBytes)) := by
    intro hcalm hanswer
    refine ⟨hcalm.not_closes sockfd, ?_⟩
    constructor
    · rintro _ ⟨hagain, c, hc, hbytes⟩
      exact hanswer c hc hbytes hagain
    · intro _ hfails
      exact absurd hfails (hcalm.not_fails sockfd)
  unfold onSocketWrite at h
  split at h
  · rename_i hnone
    cases h
    refine calm (.refl s) (fun c hc _ => ?_)
    rw [hnone] at hc
    cases hc
  · rename_i c hc
    dsimp only at h
    split at h
    · rename_i hempty
      cases h
      refine calm (.refl s) (fun c' hc' hbytes => ?_)
      rw [hc] at hc'
      cases hc'
      omega
    · rename_i hbytes
      split at h
      · have hanswer := c.flush_answer w
        split at h
        · rename_i c' hflush
          rw [hflush] at hanswer
          cases h
          obtain ⟨hfails, hcloses⟩ := failConnection_fails s sockfd c' .onSocketWrite
          refine ⟨hcloses, ?_⟩
          constructor
          · rintro hspares ⟨rfl, _⟩
            obtain ⟨errno, hfailed⟩ := hspares hfails
            cases hfailed
          · intro hno _
            rcases hanswer rfl with hagain | hfailed
            · refine absurd ⟨?_, c, hc, by omega⟩ hno
              cases w with
              | again => rfl
              | sent size => cases hagain
              | failed errno => cases hagain
            · exact hfailed
        · rename_i c' hflush
          have hsent : w ≠ .again := by
            rintro rfl
            cases hflush
          refine calm ?_ (fun _ _ _ => hsent)
          have hs' := (Option.some.inj h).symm
          subst hs'
          split
          · have hnotify := Calm.notify (s.setConnection sockfd c')
              (n := ⟨c'.tcpSocket, .onSocketWrite, .sendComplete⟩) (by simp)
            exact ⟨hnotify.stack, hnotify.notices⟩
          · exact ⟨⟨[], rfl, fun _ hf => by cases hf⟩, Or.inl rfl⟩
      · cases h

theorem step_sparing {a : Action} (hstep : s.step a = some s') :
    s.Sparing a s' ↔ ¬ s.WriteWouldBlock a := by
  cases a with
  | sendMessage sockfd m w =>
    refine ⟨fun _ hblock => hblock, ?_⟩
    rintro _ sockfd' answer hhandled
    cases hhandled
    rw [step] at hstep
    split at hstep
    · obtain ⟨hfails, hcloses⟩ := sendMessage_sparing hstep
      exact ⟨hfails, fun hclosed => absurd hclosed hcloses⟩
    · cases hstep
    all_goals simp
  | read sockfd event readableSize r =>
    refine ⟨fun _ hblock => hblock, ?_⟩
    rintro _ sockfd' answer hhandled
    simp only [handled, Option.ite_none_right_eq_some, Option.some.injEq, Prod.mk.injEq] at hhandled
    obtain ⟨hcallback, rfl, rfl⟩ := hhandled
    obtain ⟨socket, hsocket, hread⟩ := Option.bind_eq_some_iff.mp hcallback
    rw [step] at hstep
    split at hstep
    · simp only [dispatch, hsocket, hread] at hstep
      split at hstep
      · cases hstep
      · exact onSocketRead_sparing hstep
    · cases hstep
  | write sockfd event w =>
    by_cases hcallback : (s.sockets sockfd).bind TcpSocket.writeCallback = some .onSocketWrite
    · obtain ⟨socket, hsocket, hwrite⟩ := Option.bind_eq_some_iff.mp hcallback
      rw [step] at hstep
      split at hstep
      · simp only [dispatch, hsocket, hwrite] at hstep
        split at hstep
        · cases hstep
        · obtain ⟨hcloses, hspares⟩ := onSocketWrite_sparing hstep
          have hhandled : s.handled (.write sockfd event w) = some (sockfd, w.answer) := by
            simp [handled, hcallback]
          constructor
          · rintro hsparing ⟨hagain, _, hbytes⟩
            exact hspares.mp (hsparing sockfd w.answer hhandled).1 ⟨hagain, hbytes⟩
          · intro hno sockfd' answer hsame
            rw [hhandled] at hsame
            cases hsame
            refine ⟨hspares.mpr ?_, fun hclosed => absurd hclosed hcloses⟩
            rintro ⟨hagain, hbytes⟩
            exact hno ⟨hagain, hcallback, hbytes⟩
      · cases hstep
    · refine ⟨fun _ hblock => hcallback hblock.2.1, ?_⟩
      intro _ sockfd' answer hhandled
      simp [handled, hcallback] at hhandled
  | _ =>
    refine ⟨fun _ hblock => hblock, ?_⟩
    intro _ sockfd' answer hhandled
    cases hhandled

end TcpSocketApp

namespace TcpService

/-- What the system call of a handler came to. -/
def handled (s : TcpService) : Action → Option Answer
  | .send _ _ _ w => some w.answer
  | .read address _ readableSize r _ =>
    if ((s.sockets address).bind AgentSocket.onSocketRead).isSome then some (r.answer readableSize)
    else none
  | .write address _ w _ =>
    match (s.sockets address).bind AgentSocket.writeCallback with
    | some (.onSocketWrite _) => some w.answer
    | _ => none
  | _ => none

/-- The handler reports an error, which it does where it closes the connection for one. -/
def Fails (s t : TcpService) : Prop := ∃ n errno, t.pushes = n :: s.pushes ∧ n.push = .error errno

/-- The handler reports that the peer has closed, and closes the connection. -/
def Closes (s t : TcpService) : Prop := ∃ n, t.pushes = n :: s.pushes ∧ n.push = .closed

/-- A connection fails only by an error, and is taken for closed only at the end of its stream. -/
def Sparing (s : TcpService) (a : Action) (t : TcpService) : Prop :=
  ∀ answer, s.handled a = some answer →
    (s.Fails t → ∃ errno, answer = .failed errno) ∧ (s.Closes t → answer = .ended)

/-- The write of `OnSocketWrite` would block. -/
def WriteWouldBlock (s : TcpService) : Action → Prop
  | .write address _ w _ => w = .again ∧
    ∃ agent, (s.sockets address).bind AgentSocket.writeCallback = some (.onSocketWrite agent)
  | _ => False

variable {s t : TcpService}

theorem calm_spares (h : t.pushes = s.pushes) : ¬ s.Fails t ∧ ¬ s.Closes t := by
  constructor
  · rintro ⟨n, errno, hn, _⟩
    rw [h] at hn
    exact List.cons_ne_self n s.pushes hn.symm
  · rintro ⟨n, hn, _⟩
    rw [h] at hn
    exact List.cons_ne_self n s.pushes hn.symm

theorem failChannel_fails {agent channel : Nat} {socket : AgentSocket} {c : Connection}
    (hstep : s.failChannel agent channel socket c = some t) : s.Fails t ∧ ¬ s.Closes t := by
  rw [closeTcpSocket_eq hstep]
  refine ⟨⟨_, _, rfl, rfl⟩, ?_⟩
  rintro ⟨n, hn, hpush⟩
  cases hn
  cases hpush

theorem onSendQueueReady_calm {agent : Nat} {host : Int} {m : Message} {w : WriteResult}
    (hstep : s.onSendQueueReady agent host m w = some t) : t.pushes = s.pushes := by
  unfold TcpService.onSendQueueReady at hstep
  split at hstep
  · cases hstep
    rfl
  · split at hstep
    · cases hstep
    · split at hstep
      · cases hstep
        rfl
      · cases hstep

theorem onSocketRead_sparing {agent : Nat} {socket : AgentSocket} {readableSize : Int}
    {r : ReadResult} {decoded : Nat}
    (hstep : s.onSocketRead agent socket readableSize r decoded = some t) :
    (s.Fails t → ∃ errno, r.answer readableSize = .failed errno) ∧
      (s.Closes t → r.answer readableSize = .ended) := by
  unfold TcpService.onSocketRead at hstep
  split at hstep
  · cases hstep
  · split at hstep
    · cases hstep
    · rename_i c hc
      split at hstep
      · obtain ⟨hfatal, hended⟩ := c.receive_answer readableSize r
        split at hstep
        · rename_i c' hreceive
          rw [hreceive] at hfatal
          exact ⟨fun _ => hfatal rfl, fun hclosed => absurd hclosed (failChannel_fails hstep).2⟩
        · rename_i c' received peerClosed hreceive
          rw [hreceive] at hended
          dsimp only at hstep
          split at hstep
          · rename_i hpeer
            subst hpeer
            rw [closeTcpSocket_eq hstep]
            refine ⟨?_, fun _ => hended received rfl⟩
            rintro ⟨n, errno, hn, hpush⟩
            cases hn
            cases hpush
          · cases hstep
            obtain ⟨hfails, hcloses⟩ := calm_spares (s := s) (t := s.setChannel _ _) rfl
            exact ⟨fun hf => absurd hf hfails, fun hclosed => absurd hclosed hcloses⟩
      · cases hstep

theorem onSocketWrite_sparing {agent : Nat} {socket : AgentSocket} {w : WriteResult}
    (hstep : s.onSocketWrite agent socket w = some t) :
    ¬ s.Closes t ∧ ((s.Fails t → ∃ errno, w.answer = .failed errno) ↔ w ≠ .again) := by
  unfold TcpService.onSocketWrite at hstep
  split at hstep
  · cases hstep
  · split at hstep
    · cases hstep
    · rename_i c hc
      dsimp only at hstep
      split at hstep
      · have hanswer := c.flush_answer w
        split at hstep
        · rename_i c' hflush
          rw [hflush] at hanswer
          obtain ⟨hfails, hcloses⟩ := failChannel_fails hstep
          refine ⟨hcloses, ?_⟩
          constructor
          · rintro hspares rfl
            obtain ⟨errno, hfailed⟩ := hspares hfails
            cases hfailed
          · intro hagain _
            refine (hanswer rfl).resolve_left ?_
            intro hsame
            cases w with
            | again => exact hagain rfl
            | sent size => cases hsame
            | failed errno => cases hsame
        · rename_i c' hflush
          cases hstep
          obtain ⟨hfails, hcloses⟩ := calm_spares (s := s) (t := s.setChannel _ (some c')) rfl
          refine ⟨hcloses, ⟨?_, fun _ hf => absurd hf hfails⟩⟩
          rintro _ rfl
          cases hflush
      · cases hstep

theorem step_sparing {a : Action} (hstep : s.step a = some t) :
    s.Sparing a t ↔ ¬ s.WriteWouldBlock a := by
  cases a with
  | send agent host m w =>
    refine ⟨fun _ hblock => hblock, ?_⟩
    intro _ answer _
    obtain ⟨hfails, hcloses⟩ := calm_spares (onSendQueueReady_calm hstep)
    exact ⟨fun hf => absurd hf hfails, fun hclosed => absurd hclosed hcloses⟩
  | read address event readableSize r decoded =>
    refine ⟨fun _ hblock => hblock, ?_⟩
    intro _ answer hhandled
    simp only [handled, Option.ite_none_right_eq_some, Option.some.injEq] at hhandled
    obtain ⟨hcallback, rfl⟩ := hhandled
    obtain ⟨agent, hagent⟩ := Option.isSome_iff_exists.mp hcallback
    obtain ⟨socket, hsocket, hread⟩ := Option.bind_eq_some_iff.mp hagent
    simp only [step, hsocket, onRead, hread, Option.ite_none_right_eq_some] at hstep
    exact onSocketRead_sparing hstep.2
  | write address event w build =>
    cases hsocket : s.sockets address with
    | none =>
      simp [step, hsocket] at hstep
    | some socket =>
      simp only [step, hsocket, Option.ite_none_right_eq_some, onWrite] at hstep
      obtain ⟨_, hstep⟩ := hstep
      cases hwrite : socket.writeCallback with
      | none => simp [Sparing, WriteWouldBlock, handled, hsocket, hwrite]
      | some callback =>
        cases callback with
        | onAsyncConnectSocketWrite agent =>
          simp [Sparing, WriteWouldBlock, handled, hsocket, hwrite]
        | onSocketWrite agent =>
          rw [hwrite] at hstep
          obtain ⟨hcloses, hspares⟩ := onSocketWrite_sparing hstep
          simp only [Sparing, WriteWouldBlock, handled, hsocket, hwrite, Option.bind_some,
            Option.some.injEq, forall_eq', hcloses, false_implies, and_true,
            AgentWriteCallback.onSocketWrite.injEq, exists_eq', hspares]
  | _ =>
    refine ⟨fun _ hblock => hblock, ?_⟩
    intro _ answer hhandled
    cases hhandled

end TcpService

/-- In every run a handler fails a connection only by an error of its system call, and takes it
for closed only at the end of its stream, at every step but those where the write of
`OnSocketWrite` would block; and there it fails the connection. -/
theorem would_block_spared (initSize extendSize agentNum : Nat) (h : 0 < extendSize) :
    (∀ s, Reaches TcpSocketApp.step (fun _ _ => True) (.init initSize extendSize h) s →
      ∀ a s', s.step a = some s' → (s.Sparing a s' ↔ ¬ s.WriteWouldBlock a)) ∧
    ∀ s, Reaches TcpService.step (fun _ _ => True) (.init agentNum) s →
      ∀ a s', s.step a = some s' → (s.Sparing a s' ↔ ¬ s.WriteWouldBlock a) :=
  ⟨fun _ _ _ _ hstep => TcpSocketApp.step_sparing hstep,
    fun _ _ _ _ hstep => TcpService.step_sparing hstep⟩

/-- One event, readable and writable, with a message sent from the receive callback. -/
def sharedEvent : List TcpSocketApp.Action :=
  [.setCallback .receive true, .asyncConnect 5 true ⟨true, true, true⟩ 0 false,
    .finishConnect 0 true, .write 5 ⟨0, false, true, false⟩ (.sent 0),
    .read 5 ⟨0, true, true, false⟩ 1 (.received [1]), .sendMessage 5 ⟨0, [1, 2]⟩ (.sent 1), .ret,
    .resume]

def sharedAgentEvent : List TcpService.Action :=
  [.accept 0 7 ⟨true, true, true⟩, .read 0 ⟨0, true, true, false⟩ 1 (.received [1]) 0,
    .send 0 7 ⟨0, [1, 2]⟩ (.sent 1)]

theorem would_block_spared_flushed :
    (∃ s s', run TcpSocketApp.step sharedEvent (.init 16 16 (by decide)) = some s ∧
      s.step (.write 5 ⟨0, true, true, false⟩ (.sent 1)) = some s' ∧
        s.Sparing (.write 5 ⟨0, true, true, false⟩ (.sent 1)) s') ∧
    ∃ s s', run TcpService.step sharedAgentEvent (.init 1) = some s ∧
      s.step (.write 0 ⟨0, true, true, false⟩ (.sent 1) ⟨true, true, true⟩) = some s' ∧
        s.Sparing (.write 0 ⟨0, true, true, false⟩ (.sent 1) ⟨true, true, true⟩) s' := by
  constructor
  · obtain ⟨s, hrun, hsome⟩ := Option.map_eq_some_iff.mp
      (by decide +kernel : (run TcpSocketApp.step sharedEvent
        (.init 16 16 (Nat.zero_lt_succ 15))).map
        (fun s => (s.step (.write 5 ⟨0, true, true, false⟩ (.sent 1))).isSome) = some true)
    obtain ⟨s', hstep⟩ := Option.isSome_iff_exists.mp hsome
    refine ⟨s, s', hrun, hstep, ?_⟩
    refine ((would_block_spared 16 16 1 (by decide)).1 s (reaches_of_run hrun) _ s' hstep).mpr ?_
    rintro ⟨hagain, _⟩
    cases hagain
  · obtain ⟨s, hrun, hsome⟩ := Option.map_eq_some_iff.mp
      (by decide +kernel : (run TcpService.step sharedAgentEvent (.init 1)).map
        (fun s => (s.step (.write 0 ⟨0, true, true, false⟩ (.sent 1)
          ⟨true, true, true⟩)).isSome) = some true)
    obtain ⟨s', hstep⟩ := Option.isSome_iff_exists.mp hsome
    refine ⟨s, s', hrun, hstep, ?_⟩
    refine ((would_block_spared 16 16 1 (by decide)).2 s (reaches_of_run hrun) _ s' hstep).mpr ?_
    rintro ⟨hagain, _⟩
    cases hagain

/-- The message leaves no room, so the write of the same event would block, and the connection
is failed. -/
theorem would_block_fatal :
    (¬ ∀ s, Reaches TcpSocketApp.step (fun _ _ => True) (.init 16 16 (by decide)) s →
      ∀ a s', s.step a = some s' → s.Sparing a s') ∧
    ¬ ∀ s, Reaches TcpService.step (fun _ _ => True) (.init 1) s →
      ∀ a s', s.step a = some s' → s.Sparing a s' := by
  constructor
  · intro hall
    obtain ⟨s, hrun, hsome⟩ := Option.map_eq_some_iff.mp
      (by decide +kernel : (run TcpSocketApp.step sharedEvent
        (.init 16 16 (Nat.zero_lt_succ 15))).map
        (fun s => ((s.step (.write 5 ⟨0, true, true, false⟩ .again)).isSome,
          (s.sockets 5).bind TcpSocket.writeCallback,
          (s.connections 5).map fun c => toInt32 c.sendBuffer.readableBytes)) =
            some (true, some .onSocketWrite, some 1))
    simp only [Prod.mk.injEq] at hsome
    obtain ⟨hstep, hwrite, hbytes⟩ := hsome
    obtain ⟨s', hstep⟩ := Option.isSome_iff_exists.mp hstep
    obtain ⟨c, hc, hone⟩ := Option.map_eq_some_iff.mp hbytes
    have hspares := hall s (reaches_of_run hrun) _ s' hstep
    exact (TcpSocketApp.step_sparing hstep).mp hspares ⟨rfl, hwrite, c, hc, by omega⟩
  · intro hall
    obtain ⟨s, hrun, hsome⟩ := Option.map_eq_some_iff.mp
      (by decide +kernel : (run TcpService.step sharedAgentEvent (.init 1)).map
        (fun s => ((s.step (.write 0 ⟨0, true, true, false⟩ .again ⟨true, true, true⟩)).isSome,
          (s.sockets 0).bind AgentSocket.writeCallback)) = some (true, some (.onSocketWrite 0)))
    simp only [Prod.mk.injEq] at hsome
    obtain ⟨hstep, hwrite⟩ := hsome
    obtain ⟨s', hstep⟩ := Option.isSome_iff_exists.mp hstep
    have hspares := hall s (reaches_of_run hrun) _ s' hstep
    exact (TcpService.step_sparing hstep).mp hspares ⟨rfl, 0, hwrite⟩

end Mysya
