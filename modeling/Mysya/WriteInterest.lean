import Mysya.TcpSocketAppTables

/-!
# Write interest

A connection that holds unsent bytes is flushed only by a write event, so its
channel must have a write callback. Only `BuildAsyncConnectSocket` installs
one: the connections of `BuildConnectedSocket` stay without, and lose the rest
of a message the kernel does not take at once.
-/

namespace Mysya

open GuardedRuns

/-- `SendMessage` will have something left to append to the send buffer. -/
def Connection.LeavesRest (c : Connection) (m : Message) (w : WriteResult) : Prop :=
  if c.sendBuffer.readableBytes ≤ 0 then
    match w with
    | .sent size => (size : Int) < toInt32 m.size
    | .again => 0 < toInt32 m.size
    | .failed _ => False
  else 0 < toInt32 m.size

theorem Connection.finishSend_readable {c : Connection} (h : c.sendBuffer.readable = [])
    (m : Message) {sendSize remainSize : Int} (hremain : remainSize ≤ 0) :
    (c.finishSend m sendSize remainSize).1.sendBuffer.readable = [] := by
  unfold finishSend
  rw [if_neg (by omega)]
  exact h

theorem Connection.sendMessage_readable {c : Connection} (h : c.sendBuffer.readable = [])
    {m : Message} {w : WriteResult} (rest : ¬ c.LeavesRest m w) :
    (c.sendMessage m w).1.sendBuffer.readable = [] := by
  have hempty : c.sendBuffer.readableBytes ≤ 0 :=
    Nat.le_zero.mpr (DynamicBuffer.readableBytes_eq_zero.mpr h)
  unfold LeavesRest at rest
  rw [if_pos hempty] at rest
  unfold sendMessage
  dsimp only
  rw [if_pos hempty]
  cases w with
  | sent size =>
    have hall : ¬ (size : Int) < toInt32 m.size := rest
    apply finishSend_readable (c := { c with wire := c.wire ++ m.data.take size }) h
    omega
  | again =>
    have hnone : ¬ 0 < toInt32 m.size := rest
    apply finishSend_readable h
    omega
  | failed errno => exact h

namespace TcpSocketApp

/-- No message is left unsent on a connection without a write callback. -/
def WriteGuard (s : TcpSocketApp) : Action → Prop
  | .sendMessage sockfd m w => ∀ c socket, s.connections sockfd = some c →
      s.sockets sockfd = some socket → socket.writeCallback = none → ¬ c.LeavesRest m w
  | _ => True

/-- A socket with the mask of its callbacks, and nothing to write unless it has one for it. -/
def Interested (socket : TcpSocket) (c : Connection) : Prop :=
  socket.epollOut = socket.writeCallback.isSome ∧
    (socket.writeCallback = none → c.sendBuffer.readable = [])

def AllInterested (s : TcpSocketApp) : Prop :=
  ∀ sockfd c, s.connections sockfd = some c →
    ∃ socket, s.sockets sockfd = some socket ∧ Interested socket c

theorem Interested.touched {socket : TcpSocket} {c c' : Connection}
    {asked : Message → WriteResult → Prop} (h : Interested socket c) (touched : c.Touched asked c')
    (safe : ∀ m w, asked m w → socket.writeCallback = none → ¬ c.LeavesRest m w) :
    Interested socket c' := by
  refine ⟨h.1, fun hnone => ?_⟩
  have hempty := h.2 hnone
  induction touched with
  | refl => exact hempty
  | errno errno => exact hempty
  | receive readableSize r => rw [Connection.receive_sendBuffer]; exact hempty
  | flush w =>
    cases w with
    | sent size =>
      show (c.sendBuffer.readBytes size).readable = []
      rw [DynamicBuffer.readable_readBytes, hempty, List.drop_nil]
    | again => exact hempty
    | failed errno => exact hempty
  | consume size _ ih => exact ih
  | send m w hasked _ => exact Connection.sendMessage_readable hempty (safe m w hasked hnone)

theorem step_allInterested {s s' : TcpSocketApp} {a : Action} (h : s.AllInterested)
    (guarded : s.WriteGuard a) (hstep : s.step a = some s') : s'.AllInterested := by
  intro fd c' hc'
  cases step_effect hstep with
  | frame hsockets hconnections =>
    rw [hsockets]
    exact h fd c' (hconnections ▸ hc')
  | listened sockfd socket hfree hsockets hconnections =>
    obtain ⟨socket', hsocket', hinterested⟩ := h fd c' (hconnections ▸ hc')
    refine ⟨socket', ?_, hinterested⟩
    have hne : fd ≠ sockfd := by
      rintro rfl
      rw [hfree] at hsocket'
      cases hsocket'
    rw [hsockets, Function.update_of_ne hne]
    exact hsocket'
  | inserted sockfd socket hfree _ hregister hsockets hconnections =>
    rw [hconnections, Function.update_apply] at hc'
    rw [hsockets, Function.update_apply]
    split at hc'
    · rename_i hsame
      cases hc'
      refine ⟨socket, by rw [if_pos hsame], ?_, fun _ => DynamicBuffer.readable_new _ _ _⟩
      rw [hregister]
      rfl
    · rename_i hne
      rw [if_neg hne]
      exact h fd c' hc'
  | touched sockfd c t hc touched hsockets hconnections =>
    rw [hconnections, Function.update_apply] at hc'
    rw [hsockets]
    split at hc'
    · rename_i hsame
      subst hsame
      cases hc'
      obtain ⟨socket, hsocket, hinterested⟩ := h fd c hc
      refine ⟨socket, hsocket, hinterested.touched touched ?_⟩
      rintro m w rfl hnone
      exact guarded c socket hc hsocket hnone
    · exact h fd c' hc'
  | established sockfd socket hsocket hsockets hconnections =>
    rw [hsockets, Function.update_apply]
    obtain ⟨socket', hsocket', hinterested⟩ := h fd c' (hconnections ▸ hc')
    by_cases hsame : fd = sockfd
    · rw [if_pos hsame]
      exact ⟨socket.establish, rfl, rfl, fun hnone => by cases hnone⟩
    · rw [if_neg hsame]
      exact ⟨socket', hsocket', hinterested⟩
  | closed sockfd hsockets hconnections =>
    rw [hconnections, Function.update_apply] at hc'
    rw [hsockets, Function.update_apply]
    split at hc'
    · cases hc'
    · rename_i hne
      rw [if_neg hne]
      exact h fd c' hc'

/-- A connection with unsent bytes has a write callback, and `EPOLLOUT` registered for it. -/
def Flushable (s : TcpSocketApp) : Prop :=
  ∀ sockfd c, s.connections sockfd = some c → c.sendBuffer.readable ≠ [] →
    ∃ socket, s.sockets sockfd = some socket ∧ socket.writeCallback.isSome ∧ socket.epollOut

/-- Unsent bytes are always flushed if no message is left unsent where there is no write callback. -/
theorem unsent_bytes_flushable {initSize extendSize : Nat} {h : 0 < extendSize} {s : TcpSocketApp}
    (hs : Reaches step WriteGuard (.init initSize extendSize h) s) : s.Flushable := by
  have hall : s.AllInterested := by
    refine hs.invariant (fun _ _ hc => by cases hc) ?_
    exact fun s a s' h guarded hstep => step_allInterested h guarded hstep
  intro sockfd c hc hunsent
  obtain ⟨socket, hsocket, hmask, hnone⟩ := hall sockfd c hc
  have hsome : socket.writeCallback.isSome := by
    by_contra hmissing
    exact hunsent (hnone (by simpa using hmissing))
  exact ⟨socket, hsocket, hsome, hmask.trans hsome⟩

/-- An attempt that is sent to before it succeeds. -/
def pendingSend : List Action :=
  [.asyncConnect 5 true ⟨true, true, true⟩ 0 false, .sendMessage 5 ⟨0, [1, 2]⟩ .again,
    .finishConnect 0 true, .write 5 ⟨0, false, true, false⟩ .again]

theorem unsent_bytes_flushable_pending :
    ∃ s, run step pendingSend (.init 256 64 (by decide)) = some s ∧ s.Flushable ∧
      ∃ c, s.connections 5 = some c ∧ c.sendBuffer.readable ≠ [] := by
  have guarded : Guarded step WriteGuard pendingSend (.init 256 64 (by decide)) := by
    refine ⟨trivial, fun s hs => ⟨?_, fun _ _ => ⟨trivial, fun _ _ => ⟨trivial, fun _ _ => trivial⟩⟩⟩⟩
    cases hs
    intro c socket _ hsocket hnone
    cases hsocket
    cases hnone
  have hs := Reaches.refl.run guarded rfl
  exact ⟨_, rfl, unsent_bytes_flushable hs, _, rfl, by decide +kernel⟩

def partialWrite : List Action :=
  [.connect 5 true ⟨true, true, true⟩, .sendMessage 5 ⟨0, [1, 2]⟩ (.sent 1)]

/-- A connection of `Connect` has no write callback when a write turns out partial. -/
theorem partial_write_not_flushable :
    ¬ ∀ s, Reaches step (fun _ _ => True) (.init 256 64 (by decide)) s → s.Flushable := by
  intro hall
  obtain ⟨socket, hsocket, hsome, _⟩ := hall _ (reaches_of_run (l := partialWrite) rfl) 5 _ rfl
    (by decide +kernel)
  cases hsocket
  cases hsome

end TcpSocketApp

end Mysya
