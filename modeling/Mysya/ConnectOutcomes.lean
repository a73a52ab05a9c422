import Mysya.AttemptOutcomes
import Mysya.TcpSocketAppTables

/-!
# Outcomes of the socket application's connects

An outcome is what `OnConnectWrite`, `OnConnectError` and `OnConnectTimeout`
tell the application about an attempt. `OnConnectWrite` never asks whether the
connect has failed, so the guard asks that no failed connect is reported to a
pending attempt; and as timers outlive closed attempts, that a timer fires only
for the attempt it was started for.
-/

namespace Mysya

open GuardedRuns

def Handler.IsConnect : Handler → Bool
  | .onConnectWrite => true
  | .onConnectError => true
  | .onConnectTimeout => true
  | _ => false

/-- What the application has been told about the outcome of an attempt. -/
def outcomes (notices : List Notice) (object : Nat) : List Notice :=
  outcomesOf Notice.object (fun n => n.handler.IsConnect) notices object

namespace TcpSocketApp

def HonestEvent (s : TcpSocketApp) (event : EpollEvent) : Prop := event.Honest s.connects

def Honest (s : TcpSocketApp) : Action → Prop
  | .read _ event _ _ => s.HonestEvent event
  | .write _ event _ => s.HonestEvent event
  | .error _ event _ => s.HonestEvent event
  | _ => True

/-- A pending attempt gets no event of another socket nor of a failed connect, and a timer
fires for the attempt it was started for or for nothing. -/
def OutcomeGuard (s : TcpSocketApp) : Action → Prop
  | .write sockfd event _ => ∀ socket, s.sockets sockfd = some socket →
      socket.writeCallback = some .onConnectWrite → s.installed .connection = true →
      event.source = socket.object ∧ s.connects socket.object ≠ some .failed
  | .timeout timerId => ∀ started sockfd socket, s.timers timerId = some started →
      s.timerSocketIds timerId = some sockfd → s.sockets sockfd = some socket →
      (s.connections sockfd).isSome → socket.object = started
  | _ => True

structure Settled (s : TcpSocketApp) : Prop where
  objects : ∀ fd socket, s.sockets fd = some socket → socket.object < s.objects
  distinct : ∀ fd fd' a b, s.sockets fd = some a → s.sockets fd' = some b →
    a.object = b.object → fd = fd'
  owned : ∀ fd c, s.connections fd = some c →
    ∃ socket, s.sockets fd = some socket ∧ socket.object = c.tcpSocket
  noticed : ∀ n ∈ s.notices, n.handler.IsConnect = true → n.object < s.objects
  attempted : ∀ fd socket, s.sockets fd = some socket →
    (socket.writeCallback = some .onConnectWrite ∨ socket.errorCallback = some .onConnectError) →
    socket.writeCallback = some .onConnectWrite ∧ (s.connects socket.object).isSome ∧
      (s.connections fd).isSome ∧
      (outcomes s.notices socket.object = [] ∨ ∃ timedOut, Frame.close fd timedOut ∈ s.stack)
  told : Told Notice.object (fun n => n.handler.IsConnect) (fun n => n.handler = .onConnectWrite)
    s.connects s.notices
  numbered : ∀ t fd, s.timerSocketIds t = some fd → t ≤ s.timerIds
  started : ∀ t a, s.timers t = some a → a < s.objects
  timed : ∀ t a fd socket, s.timers t = some a → s.timerSocketIds t = some fd →
    s.sockets fd = some socket → socket.object = a →
    socket.writeCallback = some .onConnectWrite ∧ s.socketTimerIds fd = some t

theorem init_settled (initSize extendSize : Nat) (h : 0 < extendSize) :
    (init initSize extendSize h).Settled where
  objects := fun _ _ h => by cases h
  distinct := fun _ _ _ _ h => by cases h
  owned := fun _ _ h => by cases h
  noticed := fun _ h => by cases h
  attempted := fun _ _ h => by cases h
  told := told_nil
  numbered := fun _ _ h => by cases h
  started := fun _ _ h => by cases h
  timed := fun _ _ _ _ h => by cases h

/-- A callback that is no outcome. -/
theorem Settled.notify {s : TcpSocketApp} (h : s.Settled) {n : Notice}
    (hother : n.handler.IsConnect = false) : (s.notify n).Settled := by
  unfold TcpSocketApp.notify
  split
  · exact { h with
      noticed := List.forall_mem_cons.mpr
        ⟨fun hconnect => (by rw [hother] at hconnect; cases hconnect), h.noticed⟩
      attempted := fun fd socket hsocket hpending => by
        obtain ⟨hwrite, hconnect, hconnection, hnone⟩ := h.attempted fd socket hsocket hpending
        refine ⟨hwrite, hconnect, hconnection, ?_⟩
        refine hnone.imp (outcomesOf_cons_other (n := n) (Or.inr hother) _).trans ?_
        exact Exists.imp fun _ => List.mem_cons_of_mem _
      told := h.told.other hother fun hwrite => by rw [hwrite] at hother; cases hother }
  · exact h

/-- The outcome of the one socket that has none yet and will not be asked for another. -/
theorem Settled.outcome {s : TcpSocketApp} (h : s.Settled) {n : Notice}
    (hobject : n.object < s.objects) (hnone : outcomes s.notices n.object = [])
    (done : ∀ fd socket, s.sockets fd = some socket → socket.object = n.object →
      (socket.writeCallback = some .onConnectWrite ∨ socket.errorCallback = some .onConnectError) →
      ∃ timedOut, Frame.close fd timedOut ∈ s.stack)
    (htrue : s.installed n.callback = true → n.handler = .onConnectWrite →
      s.connects n.object = some .succeeded) : (s.notify n).Settled := by
  unfold TcpSocketApp.notify
  split
  · rename_i hinstalled
    exact { h with
      noticed := List.forall_mem_cons.mpr ⟨fun _ => hobject, h.noticed⟩
      attempted := fun fd socket hsocket hpending => by
        obtain ⟨hwrite, hconnect, hconnection, hold⟩ := h.attempted fd socket hsocket hpending
        refine ⟨hwrite, hconnect, hconnection, ?_⟩
        by_cases hsame : socket.object = n.object
        · obtain ⟨x, hx⟩ := done fd socket hsocket hsame hpending
          exact Or.inr ⟨x, List.mem_cons_of_mem _ hx⟩
        · refine hold.imp (outcomesOf_cons_other (n := n) (Or.inl (Ne.symm hsame)) _).trans ?_
          exact Exists.imp fun _ => List.mem_cons_of_mem _
      told := h.told.outcome hnone (htrue hinstalled) }
  · exact h

theorem Settled.setConnection {s : TcpSocketApp} (h : s.Settled) {sockfd : Int} {c c' : Connection}
    (hc : s.connections sockfd = some c) (hsame : c'.tcpSocket = c.tcpSocket) :
    (s.setConnection sockfd c').Settled :=
  { h with
    owned := Table.insert_all h.owned (hsame ▸ h.owned sockfd c hc)
    attempted := fun fd socket hsocket hpending => by
      obtain ⟨hwrite, hconnect, hconnection, hnone⟩ := h.attempted fd socket hsocket hpending
      exact ⟨hwrite, hconnect, Table.insert_isSome hconnection sockfd c', hnone⟩ }

theorem Settled.push {s : TcpSocketApp} (h : s.Settled) (frame : Frame) :
    (s.push frame).Settled :=
  { h with
    attempted := fun fd socket hsocket hpending => by
      obtain ⟨hwrite, hconnect, hconnection, hnone⟩ := h.attempted fd socket hsocket hpending
      exact ⟨hwrite, hconnect, hconnection,
        hnone.imp_right fun ⟨x, hx⟩ => ⟨x, List.mem_cons_of_mem _ hx⟩⟩ }

theorem Settled.tcpSocket_lt {s : TcpSocketApp} (h : s.Settled) {sockfd : Int} {c : Connection}
    (hc : s.connections sockfd = some c) : c.tcpSocket < s.objects := by
  obtain ⟨socket, hsocket, hobject⟩ := h.owned sockfd c hc
  rw [← hobject]
  exact h.objects sockfd socket hsocket

/-- The error path of a handler that reports no outcome. -/
theorem Settled.failConnection {s : TcpSocketApp} (h : s.Settled) {sockfd : Int}
    {c : Connection} (hc : s.connections sockfd = some c) (c' : Connection)
    (hsame : c'.tcpSocket = c.tcpSocket) {handler : Handler} (hother : handler.IsConnect = false)
    (timedOut : Option Nat) :
    (s.failConnection sockfd c' handler timedOut).Settled :=
  Settled.notify ((h.setConnection hc hsame).push _) hother

/-- The error path of a handler that reports the outcome of a pending attempt. -/
theorem Settled.failConnection_outcome {s : TcpSocketApp} (h : s.Settled) {sockfd : Int}
    {c : Connection} (hc : s.connections sockfd = some c) (c' : Connection)
    (hsame : c'.tcpSocket = c.tcpSocket) {handler : Handler} (hfail : handler ≠ .onConnectWrite)
    (timedOut : Option Nat) (hnone : outcomes s.notices c.tcpSocket = []) :
    (s.failConnection sockfd c' handler timedOut).Settled := by
  refine Settled.outcome ((h.setConnection hc hsame).push _) ?_ ?_ ?_
    (fun _ heq => absurd heq hfail)
  · show c'.tcpSocket < s.objects
    rw [hsame]
    exact h.tcpSocket_lt hc
  · show outcomes s.notices c'.tcpSocket = []
    rw [hsame]
    exact hnone
  · intro fd socket hsocket hobject _
    have hsocket : s.sockets fd = some socket := hsocket
    have hobject : socket.object = c'.tcpSocket := hobject
    obtain ⟨owner, howner, hown⟩ := h.owned sockfd c hc
    have hfd := h.distinct fd sockfd socket owner hsocket howner (by rw [hobject, hown, hsame])
    exact ⟨timedOut, by rw [hfd]; exact List.mem_cons_self⟩

theorem Settled.pop {s : TcpSocketApp} (h : s.Settled) {frame : Frame} {rest : List Frame}
    (hstack : s.stack = frame :: rest) (hframe : ∀ fd timedOut, frame ≠ .close fd timedOut) :
    (s.setStack rest).Settled :=
  { h with
    attempted := fun fd socket hsocket hpending => by
      obtain ⟨hwrite, hconnect, hconnection, hnone⟩ := h.attempted fd socket hsocket hpending
      refine ⟨hwrite, hconnect, hconnection, hnone.imp_right ?_⟩
      rintro ⟨x, hx⟩
      rw [hstack] at hx
      rcases List.mem_cons.mp hx with heq | hx
      · exact absurd heq.symm (hframe fd x)
      · exact ⟨x, hx⟩ }

/-- `Close`, whether called or come to on the stack. -/
theorem Settled.closeSocket {s : TcpSocketApp} (h : s.Settled) {sockfd : Int} (stack : List Frame)
    (hstack : ∀ fd x, Frame.close fd x ∈ s.stack → fd = sockfd ∨ Frame.close fd x ∈ stack) :
    ((s.setStack stack).closeSocket sockfd).Settled :=
  { h with
    objects := Table.erase_all h.objects sockfd
    distinct := fun fd fd' a b ha hb =>
      h.distinct fd fd' a b (Table.erase_some ha).2 (Table.erase_some hb).2
    owned := Table.linked_erase h.owned sockfd
    attempted := fun fd socket hsocket hpending => by
      obtain ⟨hne, hold⟩ := Table.erase_some hsocket
      obtain ⟨hwrite, hconnect, hconnection, hnone⟩ := h.attempted fd socket hold hpending
      refine ⟨hwrite, hconnect, ?_, hnone.imp_right ?_⟩
      · show (Function.update s.connections sockfd none fd).isSome
        rw [Function.update_of_ne hne]
        exact hconnection
      · rintro ⟨x, hx⟩
        exact ⟨x, (hstack fd x hx).resolve_left hne⟩
    timed := fun t a fd socket ht hfd hsocket => h.timed t a fd socket ht hfd
      (Table.erase_some hsocket).2 }

theorem Settled.newSocket {s t : TcpSocketApp} (h : s.Settled) {sockfd : Int}
    (hfree : s.sockets sockfd = none) (socket : TcpSocket) (hobject : socket.object = s.objects)
    (hsockets : t.sockets = Function.update s.sockets sockfd (some socket))
    (hconnections : t.connections = s.connections ∨ ∃ c, c.tcpSocket = socket.object ∧
      t.connections = Function.update s.connections sockfd (some c))
    (hconnects : ∀ o, o < s.objects → t.connects o = s.connects o)
    (hpending : (socket.writeCallback = some .onConnectWrite ∨
      socket.errorCallback = some .onConnectError) → socket.writeCallback = some .onConnectWrite ∧
        (t.connects socket.object).isSome ∧ (t.connections sockfd).isSome)
    (hobjects : t.objects = s.objects + 1) (hnotices : t.notices = s.notices)
    (hstack : t.stack = s.stack) (htimers : t.timers = s.timers)
    (htimerIds : t.timerIds = s.timerIds) (htimerSocketIds : t.timerSocketIds = s.timerSocketIds)
    (hsocketTimerIds : t.socketTimerIds = s.socketTimerIds) : t.Settled := by
  have hold : ∀ fd socket', t.sockets fd = some socket' →
      (fd = sockfd ∧ socket' = socket) ∨ (fd ≠ sockfd ∧ s.sockets fd = some socket') := by
    rw [hsockets]
    exact fun fd socket' => Table.insert_some
  have hkept : ∀ fd, fd ≠ sockfd → t.connections fd = s.connections fd := by
    intro fd hne
    rcases hconnections with heq | ⟨c, _, heq⟩
    · rw [heq]
    · rw [heq, Function.update_of_ne hne]
  constructor
  · intro fd socket' hsocket'
    rcases hold fd socket' hsocket' with ⟨_, rfl⟩ | ⟨_, hs⟩
    · omega
    · have := h.objects fd socket' hs
      omega
  · rw [hsockets]
    refine Table.insert_distinct h.distinct (fun fd socket' hs hsame => ?_)
    have := h.objects fd socket' hs
    omega
  · rw [hsockets]
    rcases hconnections with heq | ⟨c', hc', heq⟩
    · rw [heq]
      exact Table.linked_fresh h.owned hfree socket
    · rw [heq]
      exact Table.linked_insert h.owned hc'.symm
  · intro n hn hconnect
    have := h.noticed n (by rw [← hnotices]; exact hn) hconnect
    omega
  · intro fd socket' hsocket' hp
    rcases hold fd socket' hsocket' with ⟨rfl, rfl⟩ | ⟨hne, hs⟩
    · obtain ⟨hwrite, hconnect, hconnection⟩ := hpending hp
      refine ⟨hwrite, hconnect, hconnection, Or.inl ?_⟩
      rw [hnotices, hobject]
      exact outcomesOf_fresh h.noticed
    · obtain ⟨hwrite, hconnect, hconnection, hnone⟩ := h.attempted fd socket' hs hp
      rw [hconnects _ (h.objects fd socket' hs), hkept fd hne, hnotices, hstack]
      exact ⟨hwrite, hconnect, hconnection, hnone⟩
  · rw [hnotices]
    refine ⟨h.told.once, fun n hn hwrite => ?_⟩
    rw [hconnects _ (h.noticed n hn (by rw [hwrite]; rfl))]
    exact h.told.truthful n hn hwrite
  · rw [htimerSocketIds, htimerIds]
    exact h.numbered
  · intro timer a ha
    have := h.started timer a (by rw [← htimers]; exact ha)
    omega
  · intro timer a fd socket' ha hfd hsocket' hsame
    rw [htimers] at ha
    rw [htimerSocketIds] at hfd
    rcases hold fd socket' hsocket' with ⟨_, rfl⟩ | ⟨_, hs⟩
    · have := h.started timer a ha
      omega
    · rw [hsocketTimerIds]
      exact h.timed timer a fd socket' ha hfd hs hsame

theorem Settled.addSocketTimer {s : TcpSocketApp} (h : s.Settled) {sockfd : Int}
    (socket : TcpSocket) (hsocket : s.sockets sockfd = some socket)
    (hwrite : socket.writeCallback = some .onConnectWrite)
    (fresh : ∀ t a, s.timers t = some a → a ≠ socket.object) (startTimer : Bool) :
    (s.addSocketTimer sockfd socket.object startTimer).Settled := by
  unfold TcpSocketApp.addSocketTimer
  split
  · exact { h with
      numbered := Table.insert_all (fun t fd ht => Int.le_trans (h.numbered t fd ht) (by
        dsimp only
        omega)) (Int.le_refl _)
      started := Table.insert_all h.started (h.objects sockfd socket hsocket)
      timed := fun t a fd socket' ht hfd hsocket' hsame => by
        have hs : s.sockets fd = some socket' := hsocket'
        rcases Table.insert_some hfd with ⟨rfl, rfl⟩ | ⟨hnew, hids⟩
        · rw [hsocket] at hs
          cases hs
          exact ⟨hwrite, Function.update_self _ _ _⟩
        · rcases Table.insert_some ht with ⟨heq, _⟩ | ⟨_, htimers⟩
          · exact absurd heq hnew
          · obtain ⟨hw, hentry⟩ := h.timed t a fd socket' htimers hids hs hsame
            have hne : fd ≠ sockfd := by
              rintro rfl
              rw [hsocket] at hs
              cases hs
              exact fresh t a htimers hsame.symm
            exact ⟨hw, (Function.update_of_ne hne _ _).trans hentry⟩ }
  · exact h

theorem Settled.removeSocketTimer {s : TcpSocketApp} (h : s.Settled) (sockfd : Int) :
    (s.removeSocketTimer sockfd).Settled ∧ (s.removeSocketTimer sockfd).socketTimerIds sockfd = none := by
  unfold TcpSocketApp.removeSocketTimer
  split
  · rename_i hnone
    exact ⟨h, hnone⟩
  · rename_i timerId hentry
    refine ⟨?_, Function.update_self _ _ _⟩
    exact { h with
      numbered := Table.erase_all h.numbered timerId
      started := Table.erase_all h.started timerId
      timed := fun t a fd socket ht hfd hsocket hsame => by
        obtain ⟨hne, ht⟩ := Table.erase_some ht
        obtain ⟨hw, hentry'⟩ :=
          h.timed t a fd socket ht (Table.erase_some hfd).2 hsocket hsame
        refine ⟨hw, ?_⟩
        have hfdne : fd ≠ sockfd := by
          rintro rfl
          rw [hentry] at hentry'
          exact hne (Option.some.inj hentry').symm
        exact (Function.update_of_ne hfdne _ _).trans hentry' }

theorem removeSocketTimer_rest (s : TcpSocketApp) (sockfd : Int) :
    (s.removeSocketTimer sockfd).stack = s.stack ∧
    (s.removeSocketTimer sockfd).notices = s.notices ∧
    (s.removeSocketTimer sockfd).connects = s.connects ∧
    (s.removeSocketTimer sockfd).objects = s.objects ∧
    (s.removeSocketTimer sockfd).installed = s.installed := by
  unfold removeSocketTimer
  split <;> exact ⟨rfl, rfl, rfl, rfl, rfl⟩

theorem Settled.outcomes_nil {s : TcpSocketApp} (h : s.Settled) (idle : s.stack = []) {fd : Int}
    {socket : TcpSocket} (hsocket : s.sockets fd = some socket)
    (hwrite : socket.writeCallback = some .onConnectWrite) :
    outcomes s.notices socket.object = [] := by
  obtain ⟨_, _, _, hnone | ⟨x, hx⟩⟩ := h.attempted fd socket hsocket (Or.inl hwrite)
  · exact hnone
  · rw [idle] at hx
    cases hx

theorem Settled.onConnectWrite {s : TcpSocketApp} (h : s.Settled) (idle : s.stack = [])
    {sockfd : Int} {socket : TcpSocket} (hsocket : s.sockets sockfd = some socket)
    (hwrite : socket.writeCallback = some .onConnectWrite)
    (htrue : s.installed .connection = true → s.connects socket.object = some .succeeded) :
    (s.onConnectWrite sockfd socket).Settled := by
  obtain ⟨hremoved, hentry⟩ := h.removeSocketTimer sockfd
  obtain ⟨_, hnotices, hconnects, _, hinstalled⟩ := removeSocketTimer_rest s sockfd
  have hnone := h.outcomes_nil idle hsocket hwrite
  have hsocket' : (s.removeSocketTimer sockfd).sockets sockfd = some socket := by
    rw [removeSocketTimer_sockets]
    exact hsocket
  have hold : ∀ fd socket', Function.update (s.removeSocketTimer sockfd).sockets sockfd
      (some socket.establish) fd = some socket' →
      (fd = sockfd ∧ socket' = socket.establish) ∨
        (fd ≠ sockfd ∧ (s.removeSocketTimer sockfd).sockets fd = some socket') :=
    fun fd socket' => Table.insert_some
  -- the old socket of an entry has the same object, so the two invariants on objects carry over
  have hfrom : ∀ fd socket', Function.update (s.removeSocketTimer sockfd).sockets sockfd
      (some socket.establish) fd = some socket' →
      ∃ old, (s.removeSocketTimer sockfd).sockets fd = some old ∧ old.object = socket'.object :=
    fun fd socket' => Table.replace_some hsocket' rfl
  have established : ((s.removeSocketTimer sockfd).setSocket sockfd socket.establish).Settled :=
    { hremoved with
      objects := fun fd socket' hs => by
        obtain ⟨old, hs', hsame⟩ := hfrom fd socket' hs
        rw [← hsame]
        exact hremoved.objects fd old hs'
      distinct := fun fd fd' a b ha hb hab => by
        obtain ⟨a', ha', haa⟩ := hfrom fd a ha
        obtain ⟨b', hb', hbb⟩ := hfrom fd' b hb
        exact hremoved.distinct fd fd' a' b' ha' hb' (by rw [haa, hbb]; exact hab)
      owned := Table.linked_replace hremoved.owned hsocket' (fun _ hown => hown)
      attempted := fun fd socket' hs hp => by
        rcases hold fd socket' hs with ⟨_, rfl⟩ | ⟨_, hs⟩
        · rcases hp with hp | hp <;> cases hp
        · exact hremoved.attempted fd socket' hs hp
      timed := fun t a fd socket' ht hfd hs hsame => by
        rcases hold fd socket' hs with ⟨rfl, rfl⟩ | ⟨_, hs⟩
        · obtain ⟨_, hentry'⟩ := hremoved.timed t a fd socket ht hfd hsocket' hsame
          rw [hentry] at hentry'
          cases hentry'
        · exact hremoved.timed t a fd socket' ht hfd hs hsame }
  unfold TcpSocketApp.onConnectWrite
  dsimp only
  split
  · exact hremoved
  · refine established.outcome ?_ ?_ ?_ ?_
    · exact hremoved.objects sockfd socket hsocket'
    · show outcomes (s.removeSocketTimer sockfd).notices socket.object = []
      rw [hnotices]
      exact hnone
    · intro fd socket' hs hsame hp
      have hfd := established.distinct fd sockfd socket' socket.establish hs
        (Function.update_self _ _ _) hsame
      rcases hold fd socket' hs with ⟨_, rfl⟩ | ⟨hne, _⟩
      · rcases hp with hp | hp <;> cases hp
      · exact absurd hfd hne
    · intro hinst _
      show (s.removeSocketTimer sockfd).connects socket.object = some .succeeded
      rw [hconnects]
      exact htrue (by rw [← hinstalled]; exact hinst)

theorem Settled.onConnectError {s : TcpSocketApp} (h : s.Settled) (idle : s.stack = [])
    {sockfd : Int} {socket : TcpSocket} (hsocket : s.sockets sockfd = some socket)
    (herror : socket.errorCallback = some .onConnectError) (errno : Int) :
    (s.onConnectError sockfd errno).Settled := by
  obtain ⟨hwrite, _⟩ := h.attempted sockfd socket hsocket (Or.inr herror)
  have hnone := h.outcomes_nil idle hsocket hwrite
  have hremoved := (h.removeSocketTimer sockfd).1
  unfold TcpSocketApp.onConnectError
  dsimp only
  split
  · exact hremoved
  · rename_i c hc
    obtain ⟨owner, howner, hown⟩ := hremoved.owned sockfd c hc
    rw [removeSocketTimer_sockets, hsocket] at howner
    cases howner
    refine hremoved.failConnection_outcome hc (c.setErrno errno) rfl (by decide) _ ?_
    rw [(removeSocketTimer_rest s sockfd).2.1, ← hown]
    exact hnone

theorem Settled.onConnectTimeout {s : TcpSocketApp} (h : s.Settled) (idle : s.stack = [])
    {timerId : Int} {started : Nat} (htimer : s.timers timerId = some started)
    (guarded : s.OutcomeGuard (.timeout timerId)) :
    (onConnectTimeout { s with timers := Function.update s.timers timerId none }
      timerId started).Settled := by
  unfold TcpSocketApp.onConnectTimeout
  split
  · exact { h with
      started := Table.erase_all h.started timerId
      timed := fun t a fd socket ht hfd hsocket hsame =>
        h.timed t a fd socket (Table.erase_some ht).2 hfd hsocket hsame }
  · rename_i sockfd hsome
    have hsome : s.timerSocketIds timerId = some sockfd := hsome
    have own : ∀ socket, s.sockets sockfd = some socket → (s.connections sockfd).isSome →
        socket.writeCallback = some .onConnectWrite ∧ s.socketTimerIds sockfd = some timerId := by
      intro socket hsocket hconnection
      exact h.timed timerId started sockfd socket htimer hsome hsocket
        (guarded started sockfd socket htimer hsome hsocket hconnection)
    have dropped : Settled { s with
        timers := Function.update s.timers timerId none
        timerSocketIds := Function.update s.timerSocketIds timerId none
        socketTimerIds := Function.update s.socketTimerIds sockfd none } :=
      { h with
        numbered := Table.erase_all h.numbered timerId
        started := Table.erase_all h.started timerId
        timed := fun t a fd socket ht hfd hsocket hsame => by
          obtain ⟨hne, ht⟩ := Table.erase_some ht
          obtain ⟨hw, hentry⟩ :=
            h.timed t a fd socket ht (Table.erase_some hfd).2 hsocket hsame
          refine ⟨hw, ?_⟩
          have hfdne : fd ≠ sockfd := by
            rintro rfl
            obtain ⟨_, _, hconnection, _⟩ := h.attempted fd socket hsocket (Or.inl hw)
            rw [(own socket hsocket hconnection).2] at hentry
            exact hne (Option.some.inj hentry).symm
          exact (Function.update_of_ne hfdne _ _).trans hentry }
    dsimp only
    split
    · exact dropped
    · rename_i c hc
      obtain ⟨owner, howner, hown⟩ := h.owned sockfd c hc
      have hconnection : (s.connections sockfd).isSome := by
        have hc' : s.connections sockfd = some c := hc
        rw [hc']
        rfl
      refine dropped.failConnection_outcome hc (c.setErrno ETIMEDOUT) rfl (by decide) _ ?_
      show outcomes s.notices c.tcpSocket = []
      rw [← hown]
      exact h.outcomes_nil idle howner (own owner howner hconnection).1

theorem Settled.onSocketRead {s s' : TcpSocketApp} (h : s.Settled) {sockfd readableSize : Int}
    {r : ReadResult} (hstep : s.onSocketRead sockfd readableSize r = some s') : s'.Settled := by
  unfold TcpSocketApp.onSocketRead at hstep
  split at hstep
  · cases hstep
    exact h
  · rename_i c hc
    have touched : c.Touched (fun _ _ => False) _ := .receive readableSize r
    have hsame := touched.tcpSocket
    split at hstep
    · split at hstep
      · rename_i c' hreceive
        rw [hreceive] at hsame
        cases hstep
        exact h.failConnection hc c' hsame rfl _
      · rename_i c' received peerClosed hreceive
        rw [hreceive] at hsame
        have stored := (h.setConnection hc hsame).push (.received sockfd c'.tcpSocket peerClosed)
        cases hstep
        split
        · exact stored.notify rfl
        · exact stored
    · cases hstep

theorem Settled.onSocketWrite {s s' : TcpSocketApp} (h : s.Settled) {sockfd : Int}
    {w : WriteResult} (hstep : s.onSocketWrite sockfd w = some s') : s'.Settled := by
  unfold TcpSocketApp.onSocketWrite at hstep
  split at hstep
  · cases hstep
    exact h
  · rename_i c hc
    have touched : c.Touched (fun _ _ => False) _ := .flush w
    have hsame := touched.tcpSocket
    dsimp only at hstep
    split at hstep
    · cases hstep
      exact h
    · split at hstep
      · split at hstep
        · rename_i c' hflush
          rw [hflush] at hsame
          cases hstep
          exact h.failConnection hc c' hsame rfl _
        · rename_i c' hflush
          rw [hflush] at hsame
          cases hstep
          split
          · exact (h.setConnection hc hsame).notify rfl
          · exact h.setConnection hc hsame
      · cases hstep

theorem Settled.onSocketError {s : TcpSocketApp} (h : s.Settled) (sockfd errno : Int) :
    (s.onSocketError sockfd errno).Settled := by
  unfold TcpSocketApp.onSocketError
  split
  · exact h
  · rename_i c hc
    exact h.failConnection hc (c.setErrno errno) rfl rfl _

theorem Settled.sendMessage {s s' : TcpSocketApp} (h : s.Settled) {sockfd : Int} {m : Message}
    {w : WriteResult} (hstep : s.sendMessage sockfd m w = some s') : s'.Settled := by
  unfold TcpSocketApp.sendMessage at hstep
  split at hstep
  · cases hstep
    exact h
  · rename_i c hc
    split at hstep
    · rename_i fits
      have touched : c.Touched (fun _ _ => True) _ := .send m w trivial fits
      have hsame := touched.tcpSocket
      split at hstep
      · rename_i c' hsend
        rw [hsend] at hsame
        cases hstep
        exact h.failConnection hc c' hsame rfl _
      · rename_i c' hsend
        rw [hsend] at hsame
        cases hstep
        exact h.setConnection hc hsame
      · rename_i c' hsend
        rw [hsend] at hsame
        cases hstep
        exact (h.setConnection hc hsame).notify rfl
    · cases hstep

theorem Settled.buildListenSocket {s : TcpSocketApp} (h : s.Settled) (sockfd : Int)
    (setup attach : Bool) : (s.buildListenSocket sockfd setup attach).1.Settled := by
  unfold TcpSocketApp.buildListenSocket
  split
  · exact h
  · rename_i hfree
    split
    · exact h
    · split
      · exact h
      · refine h.newSocket (by simpa using hfree) _ rfl rfl (Or.inl rfl) (fun _ _ => rfl) ?_ rfl rfl rfl
          rfl rfl rfl rfl
        rintro (hp | hp) <;> cases hp

theorem Settled.buildConnectedSocket {s : TcpSocketApp} (h : s.Settled) (sockfd : Int)
    (build : BuildCalls) : (s.buildConnectedSocket sockfd build).1.Settled := by
  unfold TcpSocketApp.buildConnectedSocket
  split
  · exact h
  · rename_i hfree
    split
    · exact h
    · split
      · exact h
      · split
        · exact h
        · split
          · exact h
          · refine h.newSocket (by simpa using hfree) _ rfl rfl (Or.inr ⟨_, rfl, rfl⟩) (fun _ _ => rfl)
              ?_ rfl rfl rfl rfl rfl rfl rfl
            rintro (hp | hp) <;> cases hp

theorem Settled.buildAsyncConnectSocket {s : TcpSocketApp} (h : s.Settled) (sockfd : Int)
    (build : BuildCalls) (timeoutMs : Int) (startTimer : Bool) :
    (s.buildAsyncConnectSocket sockfd build timeoutMs startTimer).1.Settled := by
  unfold TcpSocketApp.buildAsyncConnectSocket
  split
  · exact h
  · rename_i hfree
    split
    · exact h
    · split
      · exact h
      · split
        · exact h
        · dsimp only
          have inserted : Settled { s.insert sockfd (.attach s.objects none (some .onConnectWrite)
              (some .onConnectError)) with
                connects := Function.update s.connects s.objects (some .pending) } := by
            refine h.newSocket (by simpa using hfree) (.attach s.objects none
              (some .onConnectWrite) (some .onConnectError)) rfl rfl (Or.inr ⟨_, rfl, rfl⟩) ?_ ?_
              rfl rfl rfl rfl rfl rfl rfl
            · intro o ho
              exact Function.update_of_ne (Nat.ne_of_lt ho) _ _
            · intro _
              refine ⟨rfl, ?_, ?_⟩
              · show (Function.update s.connects s.objects _ s.objects).isSome
                rw [Function.update_self]
                rfl
              · show (Function.update s.connections sockfd _ sockfd).isSome
                rw [Function.update_self]
                rfl
          split
          · refine inserted.addSocketTimer (.attach s.objects none (some .onConnectWrite)
              (some .onConnectError)) (Function.update_self _ _ _) rfl ?_ startTimer
            intro t a ht
            exact Nat.ne_of_lt (h.started t a ht)
          · exact inserted

theorem Settled.acceptRound {s : TcpSocketApp} (h : s.Settled) {frame : Frame} {rest : List Frame}
    (hstack : s.stack = frame :: rest) (hframe : ∀ fd timedOut, frame ≠ .close fd timedOut)
    (r : AcceptResult) : (s.acceptRound rest r).Settled := by
  cases r with
  | accepted sockfd build =>
    have built := h.buildConnectedSocket sockfd build
    rw [TcpSocketApp.acceptRound]
    split
    · rename_i t hbuild
      rwa [hbuild] at built
    · rename_i t hbuild
      rw [hbuild] at built
      exact built.notify rfl
  | aborted => exact h
  | again => exact h.pop hstack hframe
  | failed => exact h.pop hstack hframe

theorem Settled.resume {s s' : TcpSocketApp} (h : s.Settled) (hstep : s.resume = some s') :
    s'.Settled := by
  unfold TcpSocketApp.resume at hstep
  split at hstep
  · rename_i sockfd timedOut rest hstack
    cases hstep
    refine h.closeSocket _ (fun fd x hx => ?_)
    rw [hstack] at hx
    rcases List.mem_cons.mp hx with heq | hx
    · cases heq
      exact Or.inl rfl
    · exact Or.inr hx
  · rename_i hstack
    have popped := h.pop hstack (fun fd timedOut heq => by cases heq)
    cases hstep
    split
    · exact popped.notify rfl
    · exact popped
  · cases hstep

theorem Settled.call {s s' : TcpSocketApp} {a : Action} (h : s.Settled)
    (hstep : s.call a = some s') : s'.Settled := by
  cases a with
  | setCallback callback present => cases hstep; exact { h with }
  | listen sockfd setup attach => cases hstep; exact h.buildListenSocket _ _ _
  | connect sockfd established build =>
    cases hstep
    split
    · exact h.buildConnectedSocket _ _
    · exact h
  | asyncConnect sockfd started build timeoutMs startTimer =>
    cases hstep
    split
    · exact h.buildAsyncConnectSocket _ _ _ _
    · exact h
  | sendMessage sockfd m w => exact h.sendMessage hstep
  | close sockfd =>
    cases hstep
    exact h.closeSocket s.stack (fun _ _ hx => Or.inr hx)
  | readBytes sockfd size =>
    rw [TcpSocketApp.call] at hstep
    split at hstep
    · cases hstep
    · rename_i c hc
      cases hstep
      exact h.setConnection hc rfl
  | _ => cases hstep

theorem Settled.dispatch {s s' : TcpSocketApp} {a : Action} (h : s.Settled) (idle : s.stack = [])
    (honest : s.Honest a) (guarded : s.OutcomeGuard a) (hstep : s.dispatch a = some s') :
    s'.Settled := by
  cases a with
  | read sockfd event readableSize r =>
    rw [TcpSocketApp.dispatch] at hstep
    split at hstep
    · cases hstep
    · split at hstep
      · cases hstep
      · split at hstep
        · cases hstep; exact h
        · cases hstep; exact h.push _
        · exact h.onSocketRead hstep
  | write sockfd event w =>
    rw [TcpSocketApp.dispatch] at hstep
    split at hstep
    · cases hstep
    · rename_i socket hsocket
      split at hstep
      · cases hstep
      · rename_i hflag
        split at hstep
        · cases hstep; exact h
        · rename_i hwrite
          cases hstep
          refine h.onConnectWrite idle hsocket hwrite (fun hinstalled => ?_)
          obtain ⟨hsource, hfailed⟩ := guarded socket hsocket hwrite hinstalled
          obtain ⟨_, hconnect, _⟩ := h.attempted sockfd socket hsocket (Or.inl hwrite)
          exact EpollEvent.Honest.succeeded honest (Bool.not_eq_false _ ▸ hflag) hsource hconnect
            hfailed
        · exact h.onSocketWrite hstep
  | error sockfd event errno =>
    rw [TcpSocketApp.dispatch] at hstep
    split at hstep
    · cases hstep
    · rename_i socket hsocket
      split at hstep
      · cases hstep
      · split at hstep
        · cases hstep; exact h
        · cases hstep
          exact (h.push _).notify rfl
        · rename_i herror
          cases hstep
          exact h.onConnectError idle hsocket herror _
        · cases hstep; exact h.onSocketError _ _
  | timeout timerId =>
    rw [TcpSocketApp.dispatch] at hstep
    split at hstep
    · cases hstep
    · rename_i started htimer
      cases hstep
      exact h.onConnectTimeout idle htimer guarded
  | _ => cases hstep

theorem Settled.finishConnect {s : TcpSocketApp} (h : s.Settled) {object : Nat}
    (hpending : s.connects object = some .pending) (status : ConnectStatus) :
    Settled { s with connects := Function.update s.connects object (some status) } :=
  { h with
    attempted := fun fd socket hsocket hp => by
      obtain ⟨hwrite, hconnect, hrest⟩ := h.attempted fd socket hsocket hp
      exact ⟨hwrite, Table.insert_isSome hconnect object status, hrest⟩
    told := h.told.finish hpending status fun _ => id }

theorem step_settled {s s' : TcpSocketApp} {a : Action} (h : s.Settled) (honest : s.Honest a)
    (guarded : s.OutcomeGuard a) (hstep : s.step a = some s') : s'.Settled := by
  rcases step_cases hstep with ⟨rest, rfl, hstack, rfl⟩ | ⟨rfl, hresume⟩ |
    ⟨r, sockfd, object, rest, rfl, hstack, rfl⟩ | ⟨object, success, status, rfl, hpending, rfl⟩ |
    ⟨idle, hdispatch⟩ | ⟨runs, hcall⟩
  · exact h.pop hstack (fun _ _ heq => by cases heq)
  · exact h.resume hresume
  · exact h.acceptRound hstack (fun _ _ heq => by cases heq) r
  · exact h.finishConnect hpending _
  · exact h.dispatch idle honest guarded hdispatch
  · exact h.call hcall

/-- Each attempt has one outcome at most, and only a completed one is reported connected. -/
def OutcomesRight (s : TcpSocketApp) : Prop :=
  (∀ object, (outcomes s.notices object).length ≤ 1) ∧
    ∀ n ∈ s.notices, n.handler = .onConnectWrite → s.connects n.object = some .succeeded

theorem outcomes_right {initSize extendSize : Nat} {h : 0 < extendSize} {s : TcpSocketApp}
    (hs : Reaches step (fun s a => s.Honest a ∧ s.OutcomeGuard a) (.init initSize extendSize h) s) :
    s.OutcomesRight := by
  have settled : s.Settled := hs.invariant (init_settled _ _ _)
    (fun s a s' h guarded hstep => step_settled h guarded.1 guarded.2 hstep)
  exact ⟨settled.told.once, settled.told.truthful⟩

end TcpSocketApp

end Mysya
