import Mysya.TcpSocketAppTables

/-!
# Connect timeouts

`timer_socket_ids_` and `socket_timer_ids_` against the attempts in progress.
`Close` does not mention the maps, so the guard asks that no descriptor with a
timer is closed by way of it, and that a callback of `OnConnectTimeout` does
not leave a new socket on the descriptor the handler is about to close. Under
it the maps are right in every state.
-/

namespace Mysya.TcpSocketApp

open GuardedRuns

/-- Above nothing or a running callback stands at most one thing still to do. -/
def Layered : List Frame → Prop
  | [] => True
  | f :: rest => (f = .callback ∨ rest = [] ∨ rest.head? = some .callback) ∧ Layered rest

/-- No timeout is about to close its descriptor. -/
def NoTimeoutClose (stack : List Frame) : Prop :=
  ∀ sockfd a rest, stack ≠ .close sockfd (some a) :: rest

theorem AppRuns.noTimeoutClose {s : TcpSocketApp} (h : s.AppRuns) : NoTimeoutClose s.stack := by
  rintro sockfd a rest hstack
  rcases h with hempty | hcallback
  · rw [hempty] at hstack; cases hstack
  · rw [hstack] at hcallback; cases hcallback

structure Timed (s : TcpSocketApp) : Prop where
  inverse : ∀ t fd, s.timerSocketIds t = some fd ↔ s.socketTimerIds fd = some t
  armed : ∀ fd t, s.socketTimerIds fd = some t → ∃ socket, s.sockets fd = some socket ∧
    socket.writeCallback = some .onConnectWrite ∧ s.timers t = some socket.object ∧
    (s.connections fd).isSome
  numbered : ∀ t fd, s.timerSocketIds t = some fd → t ≤ s.timerIds
  objects : ∀ fd socket, s.sockets fd = some socket → socket.object < s.objects
  layered : Layered s.stack
  pendingClose : ∀ fd a, Frame.close fd (some a) ∈ s.stack → a < s.objects ∧
    ∀ socket, s.sockets fd = some socket → socket.object = a →
      socket.writeCallback = some .onConnectWrite
  top : ∀ fd a rest, s.stack = .close fd (some a) :: rest →
    ∀ socket, s.sockets fd = some socket → socket.object = a

theorem init_timed (initSize extendSize : Nat) (h : 0 < extendSize) :
    (init initSize extendSize h).Timed where
  inverse := fun _ _ => ⟨fun h => (by cases h), fun h => (by cases h)⟩
  armed := fun _ _ h => by cases h
  numbered := fun _ _ h => by cases h
  objects := fun _ _ h => by cases h
  layered := trivial
  pendingClose := fun _ _ h => by cases h
  top := fun _ _ _ h => by cases h

theorem Timed.notify {s : TcpSocketApp} (h : s.Timed) (n : Notice) : (s.notify n).Timed := by
  unfold TcpSocketApp.notify
  split
  · exact { h with
      layered := ⟨Or.inl rfl, h.layered⟩
      pendingClose := fun fd a hmem => by
        rcases List.mem_cons.mp hmem with heq | hmem
        · cases heq
        · exact h.pendingClose fd a hmem
      top := fun _ _ _ hstack => by cases hstack }
  · exact h

theorem Timed.setConnection {s : TcpSocketApp} (h : s.Timed) (sockfd : Int) (c : Connection) :
    (s.setConnection sockfd c).Timed :=
  { h with
    armed := fun fd t ht => by
      obtain ⟨socket, hsocket, hwrite, htimer, hconnection⟩ := h.armed fd t ht
      refine ⟨socket, hsocket, hwrite, htimer, ?_⟩
      show (Function.update s.connections sockfd (some c) fd).isSome
      rw [Function.update_apply]
      split
      · rfl
      · exact hconnection }

/-- A frame goes on where no handler waits, and is no timeout's close unless `top` allows it. -/
theorem Timed.push {s : TcpSocketApp} (h : s.Timed) {frame : Frame}
    (runs : s.stack = [] ∨ s.stack.head? = some .callback)
    (hclose : ∀ fd a, frame = .close fd (some a) → a < s.objects ∧
      ∀ socket, s.sockets fd = some socket → socket.object = a ∧
        socket.writeCallback = some .onConnectWrite) : (s.push frame).Timed :=
  { h with
    layered := ⟨Or.inr runs, h.layered⟩
    pendingClose := fun fd a hmem => by
      rcases List.mem_cons.mp hmem with heq | hmem
      · obtain ⟨ha, hsocket⟩ := hclose fd a heq.symm
        exact ⟨ha, fun socket hs _ => (hsocket socket hs).2⟩
      · exact h.pendingClose fd a hmem
    top := fun fd a rest hstack socket hs => by
      cases hstack
      exact ((hclose fd a rfl).2 socket hs).1 }

theorem Timed.failConnection {s : TcpSocketApp} (h : s.Timed)
    (runs : s.stack = [] ∨ s.stack.head? = some .callback) (sockfd : Int) (c : Connection)
    (handler : Handler) (timedOut : Option Nat)
    (hclose : ∀ a, timedOut = some a → a < s.objects ∧
      ∀ socket, s.sockets sockfd = some socket → socket.object = a ∧
        socket.writeCallback = some .onConnectWrite) :
    (s.failConnection sockfd c handler timedOut).Timed := by
  refine Timed.notify (Timed.push (h.setConnection sockfd c) runs ?_) _
  rintro fd a hframe
  cases hframe
  exact hclose a rfl

theorem Timed.setStack {s : TcpSocketApp} (h : s.Timed) {frame : Frame} {rest : List Frame}
    (hstack : s.stack = frame :: rest)
    (hnext : ∀ fd a post, rest = .close fd (some a) :: post →
      ∀ socket, s.sockets fd = some socket → socket.object = a) : (s.setStack rest).Timed :=
  { h with
    layered := by
      have hlayered := h.layered
      rw [hstack] at hlayered
      exact hlayered.2
    pendingClose := fun fd a hmem => h.pendingClose fd a (by rw [hstack]; exact List.mem_cons_of_mem _ hmem)
    top := hnext }

/-- What is left of the stack under a handler's frame starts with a callback, if at all. -/
theorem Timed.noTimeoutClose_tail {s : TcpSocketApp} (h : s.Timed) {frame : Frame}
    {rest : List Frame} (hstack : s.stack = frame :: rest) (hframe : frame ≠ .callback) :
    NoTimeoutClose rest := by
  have hlayered := h.layered
  rw [hstack] at hlayered
  rintro fd a post hrest
  rcases hlayered.1 with heq | hempty | hcallback
  · exact hframe heq
  · rw [hrest] at hempty; cases hempty
  · rw [hrest] at hcallback; cases hcallback

theorem Timed.closeSocket {s : TcpSocketApp} (h : s.Timed) {sockfd : Int}
    (hnone : s.socketTimerIds sockfd = none) : (s.closeSocket sockfd).Timed := by
  have hold : ∀ fd socket, (s.closeSocket sockfd).sockets fd = some socket →
      s.sockets fd = some socket := by
    intro fd socket hsocket
    have hupdate : Function.update s.sockets sockfd none fd = some socket := hsocket
    rw [Function.update_apply] at hupdate
    split at hupdate
    · cases hupdate
    · exact hupdate
  exact { h with
    armed := fun fd t ht => by
      have hne : fd ≠ sockfd := by
        rintro rfl
        have : s.socketTimerIds fd = some t := ht
        rw [hnone] at this
        cases this
      obtain ⟨socket, hsocket, hwrite, htimer, hconnection⟩ := h.armed fd t ht
      refine ⟨socket, ?_, hwrite, htimer, ?_⟩
      · exact (Function.update_of_ne hne _ _).trans hsocket
      · show (Function.update s.connections sockfd none fd).isSome
        rw [Function.update_of_ne hne]
        exact hconnection
    objects := fun fd socket hsocket => h.objects fd socket (hold fd socket hsocket)
    pendingClose := fun fd a hmem =>
      ⟨(h.pendingClose fd a hmem).1, fun socket hsocket => (h.pendingClose fd a hmem).2 socket
        (hold fd socket hsocket)⟩
    top := fun fd a rest hstack socket hsocket => h.top fd a rest hstack socket
      (hold fd socket hsocket) }

/-- A new socket on a free descriptor. -/
theorem Timed.newSocket {s : TcpSocketApp} (h : s.Timed) {sockfd : Int} {socket : TcpSocket}
    (hfree : s.sockets sockfd = none) (hobject : socket.object = s.objects)
    (quiet : NoTimeoutClose s.stack) {t : TcpSocketApp}
    (hsockets : t.sockets = Function.update s.sockets sockfd (some socket))
    (hconnections : ∀ fd, (s.connections fd).isSome → (t.connections fd).isSome)
    (hobjects : t.objects = s.objects + 1) (hstack : t.stack = s.stack)
    (htimers : t.timers = s.timers) (htimerIds : t.timerIds = s.timerIds)
    (htimerSocketIds : t.timerSocketIds = s.timerSocketIds)
    (hsocketTimerIds : t.socketTimerIds = s.socketTimerIds) : t.Timed where
  inverse := by rw [htimerSocketIds, hsocketTimerIds]; exact h.inverse
  armed := by
    intro fd timer ht
    rw [hsocketTimerIds] at ht
    obtain ⟨socket', hsocket', hwrite, htimer, hconnection⟩ := h.armed fd timer ht
    have hne : fd ≠ sockfd := by
      rintro rfl
      rw [hfree] at hsocket'
      cases hsocket'
    refine ⟨socket', ?_, hwrite, by rw [htimers]; exact htimer, hconnections fd hconnection⟩
    rw [hsockets, Function.update_of_ne hne]
    exact hsocket'
  numbered := by rw [htimerSocketIds, htimerIds]; exact h.numbered
  objects := by
    intro fd socket' hsocket'
    rw [hsockets, Function.update_apply] at hsocket'
    rw [hobjects]
    split at hsocket'
    · cases hsocket'
      omega
    · have := h.objects fd socket' hsocket'
      omega
  layered := by rw [hstack]; exact h.layered
  pendingClose := by
    intro fd a hmem
    rw [hstack] at hmem
    obtain ⟨ha, hold⟩ := h.pendingClose fd a hmem
    refine ⟨by omega, fun socket' hsocket' hsame => ?_⟩
    rw [hsockets, Function.update_apply] at hsocket'
    split at hsocket'
    · cases hsocket'
      omega
    · exact hold socket' hsocket' hsame
  top := by
    intro fd a rest htop
    rw [hstack] at htop
    exact absurd htop (quiet fd a rest)

/-- Both entries of a timer taken out, and the timer disarmed. -/
def dropTimer (s : TcpSocketApp) (timerId sockfd : Int) : TcpSocketApp :=
  { s with socketTimerIds := Function.update s.socketTimerIds sockfd none
           timerSocketIds := Function.update s.timerSocketIds timerId none
           timers := Function.update s.timers timerId none }

theorem Timed.dropTimer {s : TcpSocketApp} (h : s.Timed) {timerId sockfd : Int}
    (hentry : s.socketTimerIds sockfd = some timerId) : (s.dropTimer timerId sockfd).Timed := by
  have hentry' := (h.inverse timerId sockfd).mpr hentry
  exact { h with
    inverse := fun t fd => by
      show Function.update s.timerSocketIds timerId none t = some fd ↔
        Function.update s.socketTimerIds sockfd none fd = some t
      rw [Function.update_apply, Function.update_apply]
      by_cases ht : t = timerId
      · subst ht
        rw [if_pos rfl]
        refine ⟨fun hnone => (by cases hnone), fun hfd => ?_⟩
        split at hfd
        · cases hfd
        · rename_i hne
          rw [← h.inverse, hentry'] at hfd
          exact absurd (Option.some.inj hfd).symm hne
      · rw [if_neg ht]
        by_cases hfd : fd = sockfd
        · subst hfd
          rw [if_pos rfl, h.inverse, hentry]
          exact ⟨fun hsame => absurd (Option.some.inj hsame).symm ht, fun hnone => (by cases hnone)⟩
        · rw [if_neg hfd]
          exact h.inverse t fd
    armed := fun fd t ht => by
      have hupdate : Function.update s.socketTimerIds sockfd none fd = some t := ht
      rw [Function.update_apply] at hupdate
      split at hupdate
      · cases hupdate
      · rename_i hne
        obtain ⟨socket, hsocket, hwrite, htimer, hconnection⟩ := h.armed fd t hupdate
        refine ⟨socket, hsocket, hwrite, ?_, hconnection⟩
        have htne : t ≠ timerId := by
          rintro rfl
          rw [← h.inverse, hentry'] at hupdate
          exact hne (Option.some.inj hupdate).symm
        exact (Function.update_of_ne htne _ _).trans htimer
    numbered := fun t fd ht => by
      have hupdate : Function.update s.timerSocketIds timerId none t = some fd := ht
      rw [Function.update_apply] at hupdate
      split at hupdate
      · cases hupdate
      · exact h.numbered t fd hupdate }

theorem Timed.removeSocketTimer {s : TcpSocketApp} (h : s.Timed) (sockfd : Int) :
    (s.removeSocketTimer sockfd).Timed ∧ (s.removeSocketTimer sockfd).socketTimerIds sockfd = none := by
  unfold TcpSocketApp.removeSocketTimer
  split
  · rename_i hnone
    exact ⟨h, hnone⟩
  · rename_i timerId hentry
    exact ⟨h.dropTimer hentry, Function.update_self _ _ _⟩

theorem removeSocketTimer_stack (s : TcpSocketApp) (sockfd : Int) :
    (s.removeSocketTimer sockfd).stack = s.stack := by
  unfold removeSocketTimer
  split <;> rfl

theorem Timed.addSocketTimer {s : TcpSocketApp} (h : s.Timed) {sockfd : Int} (socket : TcpSocket)
    (hsocket : s.sockets sockfd = some socket) (hwrite : socket.writeCallback = some .onConnectWrite)
    (hconnection : (s.connections sockfd).isSome) (hnone : s.socketTimerIds sockfd = none)
    (startTimer : Bool) : (s.addSocketTimer sockfd socket.object startTimer).Timed := by
  have hfresh : s.timerSocketIds (s.timerIds + 1) = none := by
    by_contra hsome
    obtain ⟨fd, hfd⟩ := Option.ne_none_iff_exists'.mp hsome
    have := h.numbered _ fd hfd
    omega
  unfold TcpSocketApp.addSocketTimer
  split
  · exact { h with
      inverse := fun t fd => by
        show Function.update s.timerSocketIds (s.timerIds + 1) (some sockfd) t = some fd ↔
          Function.update s.socketTimerIds sockfd (some (s.timerIds + 1)) fd = some t
        rw [Function.update_apply, Function.update_apply]
        by_cases ht : t = s.timerIds + 1
        · subst ht
          rw [if_pos rfl]
          by_cases hfd : fd = sockfd
          · subst hfd
            rw [if_pos rfl]
            exact ⟨fun _ => rfl, fun _ => rfl⟩
          · rw [if_neg hfd, ← h.inverse, hfresh]
            exact ⟨fun hsame => absurd (Option.some.inj hsame).symm hfd, fun hsame => (by cases hsame)⟩
        · rw [if_neg ht]
          by_cases hfd : fd = sockfd
          · subst hfd
            rw [if_pos rfl, h.inverse, hnone]
            exact ⟨fun hsame => (by cases hsame), fun hsame => absurd (Option.some.inj hsame).symm ht⟩
          · rw [if_neg hfd]
            exact h.inverse t fd
      armed := fun fd t ht => by
        have hupdate : Function.update s.socketTimerIds sockfd (some (s.timerIds + 1)) fd = some t :=
          ht
        rw [Function.update_apply] at hupdate
        split at hupdate
        · rename_i hsame
          cases hupdate
          rw [hsame]
          exact ⟨socket, hsocket, hwrite, Function.update_self _ _ _, hconnection⟩
        · obtain ⟨socket', hsocket', hwrite', htimer', hconnection'⟩ := h.armed fd t hupdate
          refine ⟨socket', hsocket', hwrite', ?_, hconnection'⟩
          have hle := h.numbered t fd ((h.inverse t fd).mpr hupdate)
          exact (Function.update_of_ne (by omega) _ _).trans htimer'
      numbered := fun t fd ht => by
        have hupdate : Function.update s.timerSocketIds (s.timerIds + 1) (some sockfd) t = some fd :=
          ht
        show t ≤ s.timerIds + 1
        rw [Function.update_apply] at hupdate
        split at hupdate
        · omega
        · have := h.numbered t fd hupdate
          omega }
  · exact h

theorem Timed.buildListenSocket {s : TcpSocketApp} (h : s.Timed) (quiet : NoTimeoutClose s.stack)
    (sockfd : Int) (setup attach : Bool) : (s.buildListenSocket sockfd setup attach).1.Timed := by
  unfold TcpSocketApp.buildListenSocket
  split
  · exact h
  · rename_i hfree
    split
    · exact h
    · split
      · exact h
      · exact h.newSocket (by simpa using hfree) rfl quiet rfl (fun _ hc => hc) rfl rfl rfl rfl rfl rfl

theorem Timed.insert {s : TcpSocketApp} (h : s.Timed) {sockfd : Int} {socket : TcpSocket}
    (hfree : s.sockets sockfd = none) (hobject : socket.object = s.objects)
    (quiet : NoTimeoutClose s.stack) : (s.insert sockfd socket).Timed := by
  refine h.newSocket hfree hobject quiet rfl (fun fd hc => ?_) rfl rfl rfl rfl rfl rfl
  show (Function.update s.connections sockfd _ fd).isSome
  rw [Function.update_apply]
  split
  · rfl
  · exact hc

theorem Timed.buildConnectedSocket {s : TcpSocketApp} (h : s.Timed)
    (quiet : NoTimeoutClose s.stack) (sockfd : Int) (build : BuildCalls) :
    (s.buildConnectedSocket sockfd build).1.Timed := by
  unfold TcpSocketApp.buildConnectedSocket
  split
  · exact h
  · rename_i hfree
    split
    · exact h
    · split
      · exact h
      · split
        · exact h
        · split
          · exact h
          · exact h.insert (by simpa using hfree) rfl quiet

theorem Timed.buildAsyncConnectSocket {s : TcpSocketApp} (h : s.Timed)
    (quiet : NoTimeoutClose s.stack) (sockfd : Int) (build : BuildCalls) (timeoutMs : Int)
    (startTimer : Bool) :
    (s.buildAsyncConnectSocket sockfd build timeoutMs startTimer).1.Timed := by
  unfold TcpSocketApp.buildAsyncConnectSocket
  split
  · exact h
  · rename_i hsome
    have hfree : s.sockets sockfd = none := by simpa using hsome
    split
    · exact h
    · split
      · exact h
      · split
        · exact h
        · dsimp only
          have inserted : Timed { s.insert sockfd (.attach s.objects none (some .onConnectWrite)
              (some .onConnectError)) with
                connects := Function.update s.connects s.objects (some .pending) } :=
            { h.insert hfree rfl quiet with }
          have hnone : s.socketTimerIds sockfd = none := by
            by_contra hentry
            obtain ⟨t, ht⟩ := Option.ne_none_iff_exists'.mp hentry
            obtain ⟨socket, hsocket, _⟩ := h.armed sockfd t ht
            rw [hfree] at hsocket
            cases hsocket
          split
          · refine inserted.addSocketTimer (.attach s.objects none (some .onConnectWrite)
              (some .onConnectError)) (Function.update_self _ _ _) rfl ?_ hnone startTimer
            show (Function.update s.connections sockfd _ sockfd).isSome
            rw [Function.update_self]
            rfl
          · exact inserted

theorem Timed.onConnectWrite {s : TcpSocketApp} (h : s.Timed) (idle : s.stack = []) {sockfd : Int}
    {socket : TcpSocket} (hsocket : s.sockets sockfd = some socket) :
    (s.onConnectWrite sockfd socket).Timed := by
  obtain ⟨hremoved, hnone⟩ := h.removeSocketTimer sockfd
  have hstack := (removeSocketTimer_stack s sockfd).trans idle
  unfold TcpSocketApp.onConnectWrite
  dsimp only
  split
  · exact hremoved
  · refine Timed.notify ?_ _
    exact { hremoved with
      armed := fun fd t ht => by
        have hne : fd ≠ sockfd := by
          rintro rfl
          have hentry : (s.removeSocketTimer fd).socketTimerIds fd = some t := ht
          rw [hnone] at hentry
          cases hentry
        obtain ⟨socket', hsocket', hrest⟩ := hremoved.armed fd t ht
        exact ⟨socket', (Function.update_of_ne hne _ _).trans hsocket', hrest⟩
      objects := fun fd socket' hs => by
        have hupdate : Function.update (s.removeSocketTimer sockfd).sockets sockfd
            (some socket.establish) fd = some socket' := hs
        rw [Function.update_apply] at hupdate
        split at hupdate
        · cases hupdate
          exact hremoved.objects sockfd socket (by rw [removeSocketTimer_sockets]; exact hsocket)
        · exact hremoved.objects fd socket' hupdate
      pendingClose := fun fd a hmem => by
        have hempty : Frame.close fd (some a) ∈ (s.removeSocketTimer sockfd).stack := hmem
        rw [hstack] at hempty
        cases hempty
      top := fun fd a rest htop => by
        have hempty : (s.removeSocketTimer sockfd).stack = _ := htop
        rw [hstack] at hempty
        cases hempty }

theorem Timed.onConnectError {s : TcpSocketApp} (h : s.Timed) (idle : s.stack = [])
    (sockfd errno : Int) : (s.onConnectError sockfd errno).Timed := by
  unfold TcpSocketApp.onConnectError
  dsimp only
  split
  · exact (h.removeSocketTimer sockfd).1
  · exact Timed.failConnection (h.removeSocketTimer sockfd).1
      (Or.inl ((removeSocketTimer_stack s sockfd).trans idle)) _ _ _ _ (fun a ha => by cases ha)

theorem Timed.onConnectTimeout {s : TcpSocketApp} (h : s.Timed) (idle : s.stack = [])
    {timerId : Int} {started : Nat} (htimer : s.timers timerId = some started) :
    (onConnectTimeout { s with timers := Function.update s.timers timerId none }
      timerId started).Timed := by
  unfold TcpSocketApp.onConnectTimeout
  split
  · rename_i hnone
    have hnone : s.timerSocketIds timerId = none := hnone
    exact { h with
      armed := fun fd t ht => by
        obtain ⟨socket, hsocket, hwrite, htimer', hconnection⟩ := h.armed fd t ht
        refine ⟨socket, hsocket, hwrite, ?_, hconnection⟩
        have hne : t ≠ timerId := by
          rintro rfl
          have := (h.inverse t fd).mpr ht
          rw [hnone] at this
          cases this
        exact (Function.update_of_ne hne _ _).trans htimer' }
  · rename_i sockfd hsome
    have hentry : s.socketTimerIds sockfd = some timerId := (h.inverse timerId sockfd).mp hsome
    have hdropped := h.dropTimer hentry
    obtain ⟨socket, hsocket, hwrite, hstarted, _⟩ := h.armed sockfd timerId hentry
    rw [htimer] at hstarted
    dsimp only
    split
    · exact hdropped
    · refine Timed.failConnection hdropped (Or.inl idle) _ _ _ _ ?_
      rintro a ha
      cases ha
      cases hstarted
      refine ⟨h.objects sockfd socket hsocket, fun socket' hsocket' => ?_⟩
      have hsame : s.sockets sockfd = some socket' := hsocket'
      rw [hsocket] at hsame
      cases hsame
      exact ⟨rfl, hwrite⟩

theorem Timed.onSocketRead {s s' : TcpSocketApp} (h : s.Timed) (idle : s.stack = [])
    {sockfd readableSize : Int} {r : ReadResult}
    (hstep : s.onSocketRead sockfd readableSize r = some s') : s'.Timed := by
  unfold TcpSocketApp.onSocketRead at hstep
  split at hstep
  · cases hstep
    exact h
  · split at hstep
    · split at hstep
      · cases hstep
        exact h.failConnection (Or.inl idle) _ _ _ _ (fun a ha => by cases ha)
      · rename_i c' received peerClosed _
        have stored : ((s.setConnection sockfd c').push
            (.received sockfd c'.tcpSocket peerClosed)).Timed :=
          (h.setConnection sockfd c').push (Or.inl idle) (fun fd a hframe => by cases hframe)
        cases hstep
        split
        · exact stored.notify _
        · exact stored
    · cases hstep

theorem Timed.onSocketWrite {s s' : TcpSocketApp} (h : s.Timed) (idle : s.stack = [])
    {sockfd : Int} {w : WriteResult} (hstep : s.onSocketWrite sockfd w = some s') : s'.Timed := by
  unfold TcpSocketApp.onSocketWrite at hstep
  split at hstep
  · cases hstep
    exact h
  · dsimp only at hstep
    split at hstep
    · cases hstep
      exact h
    · split at hstep
      · split at hstep
        · cases hstep
          exact h.failConnection (Or.inl idle) _ _ _ _ (fun a ha => by cases ha)
        · cases hstep
          split
          · exact (h.setConnection sockfd _).notify _
          · exact h.setConnection sockfd _
      · cases hstep

theorem Timed.onSocketError {s : TcpSocketApp} (h : s.Timed) (idle : s.stack = [])
    (sockfd errno : Int) : (s.onSocketError sockfd errno).Timed := by
  unfold TcpSocketApp.onSocketError
  split
  · exact h
  · exact h.failConnection (Or.inl idle) _ _ _ _ (fun a ha => by cases ha)

theorem Timed.sendMessage {s s' : TcpSocketApp} (h : s.Timed) (runs : s.AppRuns) {sockfd : Int}
    {m : Message} {w : WriteResult} (hstep : s.sendMessage sockfd m w = some s') : s'.Timed := by
  unfold TcpSocketApp.sendMessage at hstep
  split at hstep
  · cases hstep
    exact h
  · split at hstep
    · split at hstep
      · cases hstep
        exact h.failConnection runs _ _ _ _ (fun a ha => by cases ha)
      · cases hstep
        exact h.setConnection sockfd _
      · cases hstep
        exact (h.setConnection sockfd _).notify _
    · cases hstep

theorem Timed.acceptRound {s : TcpSocketApp} (h : s.Timed) {frame : Frame} {rest : List Frame}
    (hstack : s.stack = frame :: rest) (quiet : NoTimeoutClose s.stack)
    (hframe : frame ≠ .callback) (r : AcceptResult) : (s.acceptRound rest r).Timed := by
  have popped : (s.setStack rest).Timed :=
    h.setStack hstack (fun fd a post hrest => absurd hrest (h.noTimeoutClose_tail hstack hframe fd a post))
  cases r with
  | accepted sockfd build =>
    have built := h.buildConnectedSocket quiet sockfd build
    rw [TcpSocketApp.acceptRound]
    split
    · rename_i t hbuild
      rwa [hbuild] at built
    · rename_i t hbuild
      rw [hbuild] at built
      exact built.notify _
  | aborted => exact h
  | again => exact popped
  | failed => exact popped

/-- No descriptor with a timer is closed, and a timed-out descriptor holds its attempt or
nothing when the callback returns. -/
def TimerGuard (s : TcpSocketApp) : Action → Prop
  | .close sockfd => s.socketTimerIds sockfd = none
  | .resume => ∀ sockfd timedOut rest, s.stack = .close sockfd timedOut :: rest →
      s.socketTimerIds sockfd = none
  | .ret => ∀ sockfd a rest, s.stack = .callback :: .close sockfd (some a) :: rest →
      ∀ socket, s.sockets sockfd = some socket → socket.object = a
  | _ => True

theorem Timed.resume {s s' : TcpSocketApp} (h : s.Timed) (guarded : s.TimerGuard .resume)
    (hstep : s.resume = some s') : s'.Timed := by
  unfold TcpSocketApp.resume at hstep
  split at hstep
  · rename_i sockfd timedOut rest hstack
    cases hstep
    have popped := h.setStack hstack (fun fd a post hrest =>
      absurd hrest (h.noTimeoutClose_tail hstack (by simp) fd a post))
    exact popped.closeSocket (guarded sockfd timedOut rest hstack)
  · rename_i rest hstack
    have popped := h.setStack hstack (fun fd a post hrest =>
      absurd hrest (h.noTimeoutClose_tail hstack (by simp) fd a post))
    cases hstep
    split
    · exact popped.notify _
    · exact popped
  · cases hstep

theorem Timed.call {s s' : TcpSocketApp} {a : Action} (h : s.Timed) (runs : s.AppRuns)
    (guarded : s.TimerGuard a) (hstep : s.call a = some s') : s'.Timed := by
  have quiet := runs.noTimeoutClose
  cases a with
  | setCallback callback present => cases hstep; exact { h with }
  | listen sockfd setup attach => cases hstep; exact h.buildListenSocket quiet _ _ _
  | connect sockfd established build =>
    cases hstep
    split
    · exact h.buildConnectedSocket quiet _ _
    · exact h
  | asyncConnect sockfd started build timeoutMs startTimer =>
    cases hstep
    split
    · exact h.buildAsyncConnectSocket quiet _ _ _ _
    · exact h
  | sendMessage sockfd m w => exact h.sendMessage runs hstep
  | close sockfd => cases hstep; exact h.closeSocket guarded
  | readBytes sockfd size =>
    rw [TcpSocketApp.call] at hstep
    split at hstep
    · cases hstep
    · cases hstep
      exact h.setConnection sockfd _
  | _ => cases hstep

theorem Timed.dispatch {s s' : TcpSocketApp} {a : Action} (h : s.Timed) (idle : s.stack = [])
    (hstep : s.dispatch a = some s') : s'.Timed := by
  cases a with
  | read sockfd event readableSize r =>
    rw [TcpSocketApp.dispatch] at hstep
    split at hstep
    · cases hstep
    · split at hstep
      · cases hstep
      · split at hstep
        · cases hstep; exact h
        · cases hstep; exact h.push (Or.inl idle) (fun fd a hframe => by cases hframe)
        · exact h.onSocketRead idle hstep
  | write sockfd event w =>
    rw [TcpSocketApp.dispatch] at hstep
    split at hstep
    · cases hstep
    · rename_i socket hsocket
      split at hstep
      · cases hstep
      · split at hstep
        · cases hstep; exact h
        · cases hstep; exact h.onConnectWrite idle hsocket
        · exact h.onSocketWrite idle hstep
  | error sockfd event errno =>
    rw [TcpSocketApp.dispatch] at hstep
    split at hstep
    · cases hstep
    · split at hstep
      · cases hstep
      · split at hstep
        · cases hstep; exact h
        · cases hstep
          exact (h.push (Or.inl idle) (fun fd a hframe => by cases hframe)).notify _
        · cases hstep; exact h.onConnectError idle _ _
        · cases hstep; exact h.onSocketError idle _ _
  | timeout timerId =>
    rw [TcpSocketApp.dispatch] at hstep
    split at hstep
    · cases hstep
    · rename_i started htimer
      cases hstep
      exact h.onConnectTimeout idle htimer
  | _ => cases hstep

theorem step_timed {s s' : TcpSocketApp} {a : Action} (h : s.Timed) (guarded : s.TimerGuard a)
    (hstep : s.step a = some s') : s'.Timed := by
  rcases step_cases hstep with ⟨rest, rfl, hstack, rfl⟩ | ⟨rfl, hresume⟩ |
    ⟨r, sockfd, object, rest, rfl, hstack, rfl⟩ | ⟨object, success, status, rfl, hpending, rfl⟩ |
    ⟨idle, hdispatch⟩ | ⟨runs, hcall⟩
  · refine h.setStack hstack fun fd a post hrest => ?_
    exact guarded fd a post (by rw [hstack, hrest])
  · exact h.resume guarded hresume
  · refine h.acceptRound hstack ?_ (by simp) r
    rw [hstack]
    rintro fd a post hclose
    cases hclose
  · exact { h with }
  · exact h.dispatch idle hdispatch
  · exact h.call runs guarded hcall

/-- The timer maps are inverse, name only descriptors of attempts in progress, and a timeout
about to close its descriptor finds there the attempt its timer was started for. -/
def TimersRight (s : TcpSocketApp) : Prop :=
  (∀ timerId sockfd, s.timerSocketIds timerId = some sockfd ↔
    s.socketTimerIds sockfd = some timerId) ∧
  (∀ timerId sockfd, s.socketTimerIds sockfd = some timerId →
    (s.connections sockfd).isSome ∧ ∃ socket, s.sockets sockfd = some socket ∧
      socket.writeCallback = some .onConnectWrite ∧ s.timers timerId = some socket.object) ∧
  (∀ sockfd a rest, s.stack = .close sockfd (some a) :: rest →
    ∀ socket, s.sockets sockfd = some socket →
      socket.object = a ∧ socket.writeCallback = some .onConnectWrite)

/-- Unless a descriptor with a connect timer is closed, or a timed-out one reused before its
handler is done, the timer maps are right in every state. -/
theorem connect_timers_right {initSize extendSize : Nat} {h : 0 < extendSize} {s : TcpSocketApp}
    (hs : Reaches step TimerGuard (.init initSize extendSize h) s) : s.TimersRight := by
  have timed : s.Timed := hs.invariant (init_timed _ _ _)
    (fun s a s' h guarded hstep => step_timed h guarded hstep)
  refine ⟨timed.inverse, fun t fd ht => ?_, fun fd a rest hstack socket hsocket => ?_⟩
  · obtain ⟨socket, hsocket, hwrite, htimer, hconnection⟩ := timed.armed fd t ht
    exact ⟨hconnection, socket, hsocket, hwrite, htimer⟩
  · have hobject := timed.top fd a rest hstack socket hsocket
    exact ⟨hobject, (timed.pendingClose fd a (by rw [hstack]; exact List.mem_cons_self)).2 socket
      hsocket hobject⟩

/-- An attempt that times out, up to the `Close` of its handler. -/
def timedOutConnect : List Action :=
  [.setCallback .error true, .asyncConnect 5 true ⟨true, true, true⟩ 1000 true, .timeout 1, .ret]

theorem connect_timers_right_timeout :
    ∃ s, run step timedOutConnect (.init 256 64 (by decide)) = some s ∧
      s.stack = [.close 5 (some 0)] ∧ s.TimersRight := by
  have guarded : Guarded step TimerGuard timedOutConnect (.init 256 64 (by decide)) := by
    refine ⟨trivial, fun s₁ h₁ => ⟨trivial, fun s₂ h₂ => ⟨trivial, fun s₃ h₃ => ⟨?_, fun _ _ => trivial⟩⟩⟩⟩
    cases h₁
    cases h₂
    cases h₃
    intro sockfd a rest hstack socket hsocket
    cases hstack
    cases hsocket
    rfl
  exact ⟨_, rfl, rfl, connect_timers_right (Reaches.refl.run guarded rfl)⟩

/-- The application closes an attempt, and its descriptor is used again before the timer fires. -/
def reusedDescriptor : List Action :=
  [.asyncConnect 5 true ⟨true, true, true⟩ 1000 true, .close 5, .connect 5 true ⟨true, true, true⟩,
    .timeout 1]

/-- The timeout of a closed attempt then closes an established connection. -/
theorem closed_attempt_breaks_timers :
    ¬ ∀ s, Reaches step (fun _ _ => True) (.init 256 64 (by decide)) s → s.TimersRight := by
  intro hall
  obtain ⟨_, _, hclose⟩ := hall _ (reaches_of_run (l := reusedDescriptor) rfl)
  obtain ⟨hobject, _⟩ := hclose 5 0 [] rfl _ rfl
  cases hobject

end Mysya.TcpSocketApp
