import Mysya.ProtobufCodec
import Mysya.TcpSocketAppMoves

/-!
# The life of a receive buffer

`ProtobufCodec::OnMessage` runs inside the receive callback, and the message
callback inside it. The buffer it goes through belongs to a connection, which
the message callback may close; `OnMessage` goes on with `ReadBytes` all the
same. Each round, each message callback and each `ReadBytes` is a step, and a
step that finds the connection gone has no meaning.
-/

namespace Mysya

open GuardedRuns TcpSocketApp

/-- Where `OnMessage` is: before a round, in the message callback of a frame, or behind it. -/
inductive CodecPhase (Message : Type) where
  | round
  | message (protocolBytes : Int) (message : Message)
  | consume (protocolBytes : Int)

/-- The next thing that `OnMessage` does is to use the buffer. -/
def CodecPhase.UsesBuffer {Message : Type} : CodecPhase Message → Prop
  | .round => True
  | .message _ _ => False
  | .consume _ => True

/-- A direct write of the connection that fails, for which `SendMessage` closes it. -/
def Connection.Refuses (c : Connection) : WriteResult → Prop
  | .failed _ => c.sendBuffer.readableBytes ≤ 0
  | _ => False

instance (c : Connection) : (w : WriteResult) → Decidable (c.Refuses w)
  | .sent _ => .isFalse id
  | .again => .isFalse id
  | .failed _ => inferInstanceAs (Decidable (c.sendBuffer.readableBytes ≤ 0))

theorem Connection.finishSend_ne_refused (c : Connection) (m : Message) (sendSize remainSize : Int) :
    (c.finishSend m sendSize remainSize).2 ≠ .refused := by
  rw [Connection.finishSend]
  split
  · simp
  · simp

theorem Connection.refuses_of_refused {c : Connection} {m : Message} {w : WriteResult}
    (h : (c.sendMessage m w).2 = .refused) : c.Refuses w := by
  simp only [Connection.sendMessage] at h
  split at h
  · rename_i hempty
    cases w with
    | sent size => exact absurd h (Connection.finishSend_ne_refused _ _ _ _)
    | again => exact absurd h (Connection.finishSend_ne_refused _ _ _ _)
    | failed errno => exact hempty
  · exact absurd h (Connection.finishSend_ne_refused _ _ _ _)

/-- A running call of `OnMessage` on the receive buffer of a connection. -/
structure CodecCall (Message : Type) where
  sockfd : Int
  object : Nat
  phase : CodecPhase Message
  readMessageBytes : Int

/-- The socket application whose receive callback is `AppServer::OnReceive`. -/
structure ProtobufServer (Message : Type) where
  app : TcpSocketApp
  call : Option (CodecCall Message)

namespace ProtobufServer

inductive Action where
  | app (a : TcpSocketApp.Action)
  | round
  | messageReturn
  | consume
  deriving DecidableEq, Repr

variable {Message : Type}

def init (initSize extendSize : Nat) (h : 0 < extendSize) : ProtobufServer Message where
  app := .init initSize extendSize h
  call := none

/-- `OnReceive` hands the buffer to `OnMessage` at once. -/
def onReceive (a : TcpSocketApp.Action) (stack : List Frame) : Option (CodecCall Message) :=
  match a, stack with
  | .read _ _ _ _, [.callback, .received sockfd object _] => some ⟨sockfd, object, .round, 0⟩
  | _, _ => none

/-- The connection that a call is about, while it is in `connections_`. -/
def connection (s : ProtobufServer Message) (call : CodecCall Message) : Option Connection :=
  (s.app.connections call.sockfd).filter fun c => c.tcpSocket == call.object

/-- A round of the loop of `OnMessage`. -/
def round (lib : ProtobufLibrary Message) (s : ProtobufServer Message) (call : CodecCall Message) :
    Option (ProtobufServer Message) :=
  match s.connection call with
  | none => none
  | some c =>
    match lib.round c.receiveBuffer with
    | none => none
    | some .stop => some { s with call := none }
    | some (.leave .thrown) => none
    | some (.leave _) => some { s with call := none }
    | some (.frame protocolBytes none) =>
      some { s with call := some { call with phase := .consume protocolBytes } }
    | some (.frame protocolBytes (some message)) =>
      some { s with call := some { call with phase := .message protocolBytes message } }

/-- `ReadBytes` behind a frame. -/
def consume (s : ProtobufServer Message) (call : CodecCall Message) (protocolBytes : Int) :
    Option (ProtobufServer Message) :=
  match s.connection call with
  | none => none
  | some c =>
    let c := { c with receiveBuffer := c.receiveBuffer.readBytes (toSizeT protocolBytes) }
    some
      { app := s.app.setConnection call.sockfd c
        call := some { call with
          phase := .round
          readMessageBytes := toInt32 (call.readMessageBytes + protocolBytes) } }

/-- Nothing that the message callback has called is still running. -/
def InReceive (s : ProtobufServer Message) : Prop := s.app.stack.length = 2

instance (s : ProtobufServer Message) : Decidable s.InReceive := by
  unfold InReceive
  infer_instance

def step (lib : ProtobufLibrary Message) (s : ProtobufServer Message) :
    Action → Option (ProtobufServer Message)
  | .app a =>
    match s.call with
    | none => (s.app.step a).map fun app => ⟨app, onReceive a app.stack⟩
    | some call =>
      match call.phase with
      | .message _ _ =>
        if a = .ret ∧ s.InReceive then none else (s.app.step a).map fun app => ⟨app, some call⟩
      | _ => none
  | .round =>
    match s.call with
    | some call =>
      match call.phase with
      | .round => s.round lib call
      | _ => none
    | none => none
  | .messageReturn =>
    match s.call with
    | some call =>
      match call.phase with
      | .message protocolBytes _ =>
        if s.InReceive then
          some { s with call := some { call with phase := .consume protocolBytes } }
        else none
      | _ => none
    | none => none
  | .consume =>
    match s.call with
    | some call =>
      match call.phase with
      | .consume protocolBytes => s.consume call protocolBytes
      | _ => none
    | none => none

/-- While `OnMessage` runs, the application does not close its connection, and sends on it only
what the kernel does not refuse. -/
def ReplyGuard (s : ProtobufServer Message) : Action → Prop
  | .app (.close sockfd) => ∀ call ∈ s.call, sockfd ≠ call.sockfd
  | .app (.sendMessage sockfd _ w) => ∀ call ∈ s.call, sockfd = call.sockfd →
      ∀ c ∈ s.app.connections sockfd, ¬ c.Refuses w
  | _ => True

instance (s : ProtobufServer Message) (a : Action) : Decidable (s.ReplyGuard a) := by
  unfold ReplyGuard
  split <;> infer_instance

/-- `OnMessage` uses its buffer while the connection is in `connections_`. -/
def BufferAlive (s : ProtobufServer Message) : Prop :=
  ∀ call ∈ s.call, call.phase.UsesBuffer → s.connection call ≠ none

/-- What runs above the receive callback: callbacks, and handlers that close other connections. -/
inductive InCallback (sockfd : Int) : List Frame → Prop where
  | base {object : Nat} : InCallback sockfd [.callback, .received sockfd object false]
  | callback {stack : List Frame} : InCallback sockfd stack →
      InCallback sockfd (.callback :: stack)
  | close {fd : Int} {timedOut : Option Nat} {stack : List Frame} : fd ≠ sockfd →
      InCallback sockfd stack → InCallback sockfd (.close fd timedOut :: stack)

theorem InCallback.ne_nil {sockfd : Int} {stack : List Frame} (h : InCallback sockfd stack) :
    stack ≠ [] := by
  cases h with
  | base => simp
  | callback => simp
  | close => simp

theorem InCallback.accept {sockfd fd : Int} {object : Nat} {rest : List Frame} :
    ¬ InCallback sockfd (.accept fd object :: rest) := by
  intro h
  cases h

theorem InCallback.received {sockfd fd : Int} {object : Nat} {peerClosed : Bool}
    {rest : List Frame} : ¬ InCallback sockfd (.received fd object peerClosed :: rest) := by
  intro h
  cases h

theorem InCallback.ret {sockfd : Int} {rest : List Frame}
    (h : InCallback sockfd (.callback :: rest)) : rest.length = 1 ∨ InCallback sockfd rest := by
  cases h with
  | base => exact Or.inl rfl
  | callback hrest => exact Or.inr hrest

theorem InCallback.resume {sockfd fd : Int} {timedOut : Option Nat} {rest : List Frame}
    (h : InCallback sockfd (.close fd timedOut :: rest)) :
    fd ≠ sockfd ∧ InCallback sockfd rest := by
  cases h with
  | close hne hrest => exact ⟨hne, hrest⟩

theorem InCallback.notify {sockfd : Int} {s : TcpSocketApp} (h : InCallback sockfd s.stack)
    (n : Notice) : InCallback sockfd (s.notify n).stack := by
  rw [TcpSocketApp.notify]
  split
  · exact .callback h
  · exact h

/-- The connection of a running `OnMessage` is there, and no running handler will close it. -/
structure Held (app : TcpSocketApp) (sockfd : Int) (object : Nat) : Prop where
  stack : InCallback sockfd app.stack
  alive : ∃ c, app.connections sockfd = some c ∧ c.tcpSocket = object

theorem Held.of_untimed {app : TcpSocketApp} {sockfd : Int} {object : Nat}
    (h : Held app.untimed sockfd object) : Held app sockfd object :=
  ⟨h.stack, h.alive⟩

theorem Held.setConnection {app : TcpSocketApp} {sockfd : Int} {object : Nat}
    (h : Held app sockfd object) {fd : Int} {c c' : Connection}
    (hc : app.connections fd = some c) (hsame : c'.tcpSocket = c.tcpSocket) :
    Held (app.setConnection fd c') sockfd object := by
  obtain ⟨alive, halive, hobject⟩ := h.alive
  refine ⟨h.stack, ?_⟩
  by_cases hfd : sockfd = fd
  · subst hfd
    cases hc.symm.trans halive
    exact ⟨c', Function.update_self _ _ _, hsame.trans hobject⟩
  · exact ⟨alive, (Function.update_of_ne hfd _ _).trans halive, hobject⟩

theorem Held.closeSocket {app : TcpSocketApp} {sockfd : Int} {object : Nat}
    (h : Held app sockfd object) {fd : Int} (hne : fd ≠ sockfd) :
    Held (app.closeSocket fd) sockfd object := by
  obtain ⟨alive, halive, hobject⟩ := h.alive
  exact ⟨h.stack, alive, (Function.update_of_ne (Ne.symm hne) _ _).trans halive, hobject⟩

/-- Whatever the message callback calls, its connection stays. -/
theorem Held.move {app app' : TcpSocketApp} {sockfd : Int} {object : Nat}
    {a : TcpSocketApp.Action} (h : Held app sockfd object) (hmove : Move app a app')
    (hret : a = .ret → app.stack.length ≠ 2) (hclose : a ≠ .close sockfd)
    (hsend : ∀ m w, a = .sendMessage sockfd m w →
      ∀ c, app.connections sockfd = some c → ¬ c.Refuses w) : Held app' sockfd object := by
  have ht : Held app.untimed sockfd object := ⟨h.stack, h.alive⟩
  refine Held.of_untimed ?_
  cases hmove with
  | idle heq => exact heq ▸ ht
  | installed _ _ _ heq => exact heq ▸ ⟨h.stack, h.alive⟩
  | returned ha hstack heq =>
    have hin := h.stack
    rw [hstack] at hin
    rw [heq]
    rcases hin.ret with hlength | hrest
    · exact absurd (by rw [hstack, List.length_cons, hlength]) (hret ha)
    · exact ⟨hrest, h.alive⟩
  | accepting hstack _ _ => exact absurd hstack h.stack.ne_nil
  | acceptDone hstack _ => exact absurd (hstack ▸ h.stack) InCallback.accept
  | accepted _ hstack _ _ _ _ _ => exact absurd (hstack ▸ h.stack) InCallback.accept
  | listened _ _ _ _ heq => exact heq ▸ ⟨h.stack, h.alive⟩
  | @inserted fd socket _ _ hfree _ _ heq =>
    rw [heq]
    obtain ⟨c, hc, hobject⟩ := h.alive
    have hne : sockfd ≠ fd := by
      rintro rfl
      rw [hfree] at hc
      cases hc
    exact ⟨h.stack, c, (Function.update_of_ne hne _ _).trans hc, hobject⟩
  | established hstack => exact absurd hstack h.stack.ne_nil
  | touched c' hc hsame heq => exact heq ▸ ht.setConnection hc hsame
  | completed c' handler _ _ hc hsame _ heq =>
    have set := ht.setConnection hc hsame
    rw [heq]
    refine ⟨set.stack.notify _, ?_⟩
    rw [notify_connections]
    exact set.alive
  | @failed fd c c' handler timedOut _ _ hidle hc hsame _ heq =>
    rcases hidle with hstack | ⟨m, w, ha, hrefused⟩
    · exact absurd hstack h.stack.ne_nil
    · have hne : fd ≠ sockfd := by
        rintro rfl
        exact hsend m w ha c hc (Connection.refuses_of_refused hrefused)
      have set := ht.setConnection hc hsame
      rw [heq]
      refine ⟨InCallback.notify (InCallback.close hne set.stack) _, ?_⟩
      rw [failConnection_connections]
      exact set.alive
  | listenFailed hstack => exact absurd hstack h.stack.ne_nil
  | received _ hstack => exact absurd hstack h.stack.ne_nil
  | unreceived _ _ hstack => exact absurd hstack h.stack.ne_nil
  | closed ha _ heq =>
    rw [heq]
    exact ht.closeSocket fun hfd => hclose (hfd ▸ ha)
  | closing _ hstack heq =>
    have hin := h.stack
    rw [hstack] at hin
    obtain ⟨hne, hrest⟩ := hin.resume
    have popped : Held (app.untimed.setStack _) sockfd object := ⟨hrest, h.alive⟩
    exact heq ▸ popped.closeSocket hne
  | readDone _ hstack => exact absurd (hstack ▸ h.stack) InCallback.received
  | peerClosed _ hstack => exact absurd (hstack ▸ h.stack) InCallback.received

theorem notify_stack (s : TcpSocketApp) (n : Notice) :
    (s.notify n).stack = s.stack ∨ (s.notify n).stack = .callback :: s.stack := by
  rw [TcpSocketApp.notify]
  split
  · exact Or.inr rfl
  · exact Or.inl rfl

/-- The read that calls `OnMessage` leaves its connection in the table. -/
theorem read_held {app app' : TcpSocketApp} {fd readableSize : Int} {event : EpollEvent}
    {r : ReadResult} (hstep : app.step (.read fd event readableSize r) = some app') {sockfd : Int}
    {object : Nat} {peerClosed : Bool}
    (hstack' : app'.stack = [.callback, .received sockfd object peerClosed]) :
    Held app' sockfd object := by
  have idle : app.stack = [] := by
    simp only [TcpSocketApp.step] at hstep
    split at hstep
    · assumption
    · cases hstep
  have hstack : app'.untimed.stack = [.callback, .received sockfd object peerClosed] := hstack'
  refine Held.of_untimed ?_
  -- the other moves push no receive callback, or one frame at most
  have hpush : ∀ (t : TcpSocketApp) (frames : List Frame), app'.untimed = t →
      t.stack = frames ++ app.stack → frames.length < 2 → False := by
    rintro t frames rfl hframes hlength
    rw [hframes, idle, List.append_nil] at hstack
    simp [hstack] at hlength
  have hnotify : ∀ (t : TcpSocketApp) (n : Notice) (frames : List Frame),
      app'.untimed = t.notify n → t.stack = frames ++ app.stack →
      (∀ fd o p, .received fd o p ∉ frames) → False := by
    intro t n frames heq hframes hframe
    rw [idle, List.append_nil] at hframes
    have hmem : .received sockfd object peerClosed ∈ (t.notify n).stack := by
      rw [← heq, hstack]
      simp
    rcases notify_stack t n with hsame | hcalled
    · exact hframe _ _ _ (by rwa [hsame, hframes] at hmem)
    · rw [hcalled, hframes] at hmem
      exact hframe _ _ _ (by simpa using hmem)
  cases move_of_step hstep with
  | idle heq => exact (hpush _ [] heq rfl (by simp)).elim
  | accepting _ _ heq => exact (hpush _ [_] heq rfl (by simp)).elim
  | acceptDone hstack _ => simp [idle] at hstack
  | accepted _ hstack => simp [idle] at hstack
  | listened _ _ _ _ heq => exact (hpush _ [] heq rfl (by simp)).elim
  | inserted _ _ _ _ _ _ heq => exact (hpush _ [] heq rfl (by simp)).elim
  | established _ _ _ _ _ heq => exact (hnotify _ _ [] heq rfl (by simp)).elim
  | touched _ _ _ heq => exact (hpush _ [] heq rfl (by simp)).elim
  | completed _ _ _ _ _ _ _ heq => exact (hnotify _ _ [] heq rfl (by simp)).elim
  | failed _ _ _ _ _ _ _ _ _ heq => exact (hnotify _ _ [_] heq rfl (by simp)).elim
  | listenFailed _ heq => exact (hnotify _ _ [_] heq rfl (by simp)).elim
  | @received fd' socket c c' _ _ _ _ hc hsame heq =>
    have hframes := hstack
    rw [heq] at hframes
    have hrest : ((app.untimed.setConnection fd' c').push
        (.received fd' c'.tcpSocket false)).stack = [.received fd' c'.tcpSocket false] :=
      congrArg (List.cons _) idle
    have hsameFrame : Frame.received sockfd object peerClosed = .received fd' c'.tcpSocket false := by
      rcases notify_stack ((app.untimed.setConnection fd' c').push
        (.received fd' c'.tcpSocket false)) ⟨c'.tcpSocket, .onSocketRead, .receive⟩ with hn | hn
      · rw [hn, hrest] at hframes
        simp at hframes
      · rw [hn, hrest] at hframes
        simpa using hframes.symm
    obtain ⟨rfl, rfl, rfl⟩ := Frame.received.inj hsameFrame
    refine ⟨hstack ▸ .base, c', ?_, rfl⟩
    rw [heq, notify_connections]
    exact Function.update_self _ _ _
  | unreceived _ _ _ _ _ _ _ _ heq => exact (hpush _ [_] heq rfl (by simp)).elim
  | closing ha => cases ha
  | readDone ha => cases ha
  | peerClosed ha => cases ha
  | installed _ _ ha => cases ha
  | returned ha => cases ha
  | closed ha => cases ha

/-- The connection of a running `OnMessage` is there. -/
def Lively (s : ProtobufServer Message) : Prop :=
  ∀ call ∈ s.call, Held s.app call.sockfd call.object

variable {lib : ProtobufLibrary Message} {s s' : ProtobufServer Message}

theorem Held.connection {call : CodecCall Message} (h : Held s.app call.sockfd call.object) :
    s.connection call ≠ none := by
  obtain ⟨c, hc, hobject⟩ := h.alive
  simp [ProtobufServer.connection, hc, hobject]

/-- A round leaves the application alone, and its call where it was if it goes on. -/
theorem round_app {call : CodecCall Message} (h : s.round lib call = some s') :
    s'.app = s.app ∧ ∀ call' ∈ s'.call, call'.sockfd = call.sockfd ∧ call'.object = call.object := by
  rw [ProtobufServer.round] at h
  split at h
  · cases h
  · split at h
    · cases h
    · cases h; exact ⟨rfl, by simp⟩
    · cases h
    · cases h; exact ⟨rfl, by simp⟩
    · cases h; exact ⟨rfl, by simp⟩
    · cases h; exact ⟨rfl, by simp⟩

theorem app_lively {a : TcpSocketApp.Action} (h : s.Lively) (guarded : s.ReplyGuard (.app a))
    (hstep : step lib s (.app a) = some s') : s'.Lively := by
  simp only [step] at hstep
  split at hstep
  · obtain ⟨app, happ, rfl⟩ := Option.map_eq_some_iff.mp hstep
    intro call hcall
    rw [Option.mem_def] at hcall
    dsimp only [onReceive] at hcall
    split at hcall
    · rename_i hstack
      cases hcall
      exact read_held happ hstack
    · cases hcall
  · rename_i call hcall
    split at hstep
    · split at hstep
      · cases hstep
      · rename_i hret
        obtain ⟨app, happ, rfl⟩ := Option.map_eq_some_iff.mp hstep
        intro call' hcall'
        cases Option.mem_some.mp hcall'
        refine (h call hcall).move (move_of_step happ) ?_ ?_ ?_
        · exact fun ha hlength => hret ⟨ha, hlength⟩
        · rintro rfl
          exact guarded call hcall rfl
        · rintro m w rfl c hc
          exact guarded call hcall rfl c hc
    · cases hstep

theorem step_lively {a : Action} (h : s.Lively) (guarded : s.ReplyGuard a)
    (hstep : step lib s a = some s') : s'.Lively := by
  cases a with
  | app a => exact app_lively h guarded hstep
  | round =>
    simp only [step] at hstep
    split at hstep
    · rename_i call hcall
      split at hstep
      · obtain ⟨happ, hsame⟩ := round_app hstep
        intro call' hcall'
        obtain ⟨hsockfd, hobject⟩ := hsame call' hcall'
        rw [happ, hsockfd, hobject]
        exact h call hcall
      · cases hstep
    · cases hstep
  | messageReturn =>
    simp only [step] at hstep
    split at hstep
    · rename_i call hcall
      split at hstep
      · split at hstep
        · cases hstep
          intro call' hcall'
          cases Option.mem_some.mp hcall'
          exact h call hcall
        · cases hstep
      · cases hstep
    · cases hstep
  | consume =>
    simp only [step] at hstep
    split at hstep
    · rename_i call hcall
      split at hstep
      · rw [ProtobufServer.consume] at hstep
        split at hstep
        · cases hstep
        · rename_i c hc
          cases hstep
          intro call' hcall'
          cases Option.mem_some.mp hcall'
          have halive := (Option.filter_eq_some_iff.mp hc).1
          exact (h call hcall).setConnection halive rfl
      · cases hstep
    · cases hstep

/-- What is left of `OnSocketRead` after the receive callback touches no connection. -/
theorem resume_keeps_tables {fd : Int} {object : Nat} {peerClosed : Bool} {rest : List Frame}
    (hstack : s.app.stack = .received fd object peerClosed :: rest)
    (hstep : step lib s (.app .resume) = some s') :
    s'.app.connections = s.app.connections ∧ s'.app.sockets = s.app.sockets := by
  have hkeeps : ∀ app, s.app.step .resume = some app →
      app.connections = s.app.connections ∧ app.sockets = s.app.sockets := by
    intro app happ
    simp only [TcpSocketApp.step, TcpSocketApp.resume, hstack, Option.some.injEq] at happ
    rw [← happ]
    split
    · exact ⟨notify_connections _ _, notify_sockets _ _⟩
    · exact ⟨rfl, rfl⟩
  simp only [step] at hstep
  split at hstep
  · obtain ⟨app, happ, rfl⟩ := Option.map_eq_some_iff.mp hstep
    exact hkeeps app happ
  · split at hstep
    · split at hstep
      · cases hstep
      · obtain ⟨app, happ, rfl⟩ := Option.map_eq_some_iff.mp hstep
        exact hkeeps app happ
    · cases hstep

/-- As long as no message callback closes the connection whose buffer `OnMessage` is going
through, by `Close` or by a send that the kernel refuses, the buffer is used only while its
connection is in `connections_`; and `OnSocketRead` uses none after the receive callback. -/
theorem buffer_outlives_call (lib : ProtobufLibrary Message) (initSize extendSize : Nat)
    (h : 0 < extendSize) (hs : Reaches (step lib) ReplyGuard (init initSize extendSize h) s) :
    s.BufferAlive ∧ ∀ fd object peerClosed rest s',
      s.app.stack = .received fd object peerClosed :: rest →
        step lib s (.app .resume) = some s' → s'.app.connections = s.app.connections := by
  have lively : s.Lively := hs.invariant (fun call hcall => by cases hcall)
    fun _ _ _ hlively guarded hstep => step_lively hlively guarded hstep
  refine ⟨fun call hcall _ => (lively call hcall).connection, ?_⟩
  intro fd object peerClosed rest s' hstack hstep
  exact (resume_keeps_tables hstack hstep).1

/-- A client connects and sends two frames at once. -/
def twoFrames : List Action :=
  [.app (.setCallback .receive true), .app (.setCallback .error true), .app (.listen 3 true true),
    .app (.read 3 ⟨0, true, false, false⟩ 0 .again),
    .app (.accept (.accepted 5 ⟨true, true, true⟩)), .app (.accept .again),
    .app (.read 5 ⟨1, true, false, false⟩ 20
      (.received (ProtobufLibrary.frameBytes [7] [1] ++ ProtobufLibrary.frameBytes [7] [2]))),
    .round]

/-- The first message is answered, and both frames are decoded. -/
def answered : List Action :=
  twoFrames ++ [.app (.sendMessage 5 ⟨0, [3]⟩ (.sent 1)), .messageReturn, .consume, .round,
    .messageReturn, .consume]

theorem buffer_outlives_call_answered :
    ∃ s, run (step ProtobufReceiver.plainLibrary) answered (init 256 64 (by decide)) = some s ∧
      s.call.isSome = true ∧ s.BufferAlive := by
  obtain ⟨s, hs, hcall⟩ := Option.map_eq_some_iff.mp
    (by decide +kernel : (run (step ProtobufReceiver.plainLibrary) answered
      (init 256 64 (Nat.succ_pos 63))).map (fun s => s.call.isSome) = some true)
  exact ⟨s, hs, hcall, (buffer_outlives_call ProtobufReceiver.plainLibrary 256 64 (by decide)
    (Reaches.refl.run (by decide +kernel) hs)).1⟩

/-- The reply to the first message fails: `SendMessage` closes the connection, and the message
callback returns into `OnMessage`. -/
def failedReply : List Action :=
  twoFrames ++ [.app (.sendMessage 5 ⟨0, [3]⟩ (.failed 32)), .app .ret, .app .resume,
    .messageReturn]

/-- `OnMessage` then goes on with `ReadBytes` on the buffer of the connection that is gone. -/
theorem failed_reply_dangles :
    ¬ ∀ s, Reaches (step ProtobufReceiver.plainLibrary) (fun _ _ => True)
      (init 256 64 (by decide)) s → s.BufferAlive := by
  intro hall
  obtain ⟨s, hs, hend⟩ := Option.map_eq_some_iff.mp
    (by decide +kernel : (run (step ProtobufReceiver.plainLibrary) failedReply
      (init 256 64 (Nat.succ_pos 63))).map (fun s => s.call.map fun call =>
        match call.phase with
        | .consume _ => (s.connection call).isNone
        | _ => false) = some (some true))
  obtain ⟨call, hcall, hgone⟩ := Option.map_eq_some_iff.mp hend
  have halive := hall s (reaches_of_run hs) call hcall
  split at hgone
  · rename_i hphase
    rw [hphase] at halive
    exact halive trivial (Option.isNone_iff_eq_none.mp hgone)
  · cases hgone

end ProtobufServer

end Mysya
