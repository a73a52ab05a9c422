import Mysya.TcpSocketAppMoves

/-!
# The order of the application's callbacks

What the application is told about a connection, from its entry into
`connections_` on. Up to its end, the first close or error, that is in order
in every run. A handler that ends a connection calls the application first,
and `OnSocketRead` does not remove a connection it reports closed; so more is
told unless such a connection is left alone. A connection made by `Connect`
is never announced, and a failed attempt of `AsyncConnect` ends without
having been.
-/

namespace Mysya

open GuardedRuns

/-- The callbacks about the connection of a socket, the first one first. -/
def callbacks (notices : List Notice) (object : Nat) : List AppCallback :=
  ((notices.filter fun n => n.object == object && n.handler != .onListenError).map
    Notice.callback).reverse

theorem callbacks_cons_self {n : Notice} (h : n.handler ≠ .onListenError)
    (notices : List Notice) :
    callbacks (n :: notices) n.object = callbacks notices n.object ++ [n.callback] := by
  simp [callbacks, h]

theorem callbacks_cons_other {n : Notice} {object : Nat}
    (h : n.object ≠ object ∨ n.handler = .onListenError) (notices : List Notice) :
    callbacks (n :: notices) object = callbacks notices object := by
  rcases h with h | h
  · simp [callbacks, h]
  · simp [callbacks, h]

def AppCallback.Active (c : AppCallback) : Prop := c = .receive ∨ c = .sendComplete

def AppCallback.Ends (c : AppCallback) : Prop := c = .close ∨ c = .error

instance (c : AppCallback) : Decidable c.Ends := by
  unfold AppCallback.Ends
  infer_instance

/-- Any number of receive and send-complete callbacks, then at most one of close or error. -/
def Exchange (word : List AppCallback) : Prop :=
  ∃ active last, word = active ++ last ∧ (∀ c ∈ active, c.Active) ∧
    (last = [] ∨ last = [.close] ∨ last = [.error])

/-- The connection callback, then an exchange. -/
def Announced (word : List AppCallback) : Prop := ∃ rest, word = .connection :: rest ∧ Exchange rest

/-- Messages sent while the connect is under way are completed before it; then the connect
fails, or is announced. -/
def Attempted (word : List AppCallback) : Prop :=
  ∃ early rest, word = early ++ rest ∧ (∀ c ∈ early, c = .sendComplete) ∧
    (rest = [] ∨ rest = [.error] ∨ Announced rest)

/-- An exchange that is announced at most once, before all but sent messages. -/
def InOrder (word : List AppCallback) : Prop :=
  ∃ early rest, word = early ++ rest ∧ (∀ c ∈ early, c = .sendComplete) ∧
    (Exchange rest ∨ Announced rest)

def Ended (word : List AppCallback) : Prop := ∃ c ∈ word, c.Ends

instance (word : List AppCallback) : Decidable (Ended word) := by
  unfold Ended
  infer_instance

/-- A word up to its first end. -/
def untilEnd : List AppCallback → List AppCallback
  | [] => []
  | c :: word => if c.Ends then [c] else c :: untilEnd word

theorem untilEnd_isPrefix (word : List AppCallback) : untilEnd word <+: word := by
  induction word with
  | nil => exact List.prefix_rfl
  | cons c word ih =>
    rw [untilEnd]
    split
    · exact ⟨word, rfl⟩
    · exact (List.prefix_cons_inj c).mpr ih

theorem untilEnd_of_going {word : List AppCallback} (going : ¬ Ended word) :
    untilEnd word = word := by
  induction word with
  | nil => rfl
  | cons c word ih =>
    rw [untilEnd, if_neg fun hc => going ⟨c, List.mem_cons_self, hc⟩, ih fun ⟨x, hx, hends⟩ =>
      going ⟨x, List.mem_cons_of_mem _ hx, hends⟩]

theorem untilEnd_append {word : List AppCallback} (h : Ended word) (rest : List AppCallback) :
    untilEnd (word ++ rest) = untilEnd word := by
  induction word with
  | nil => exact absurd h (by simp [Ended])
  | cons c word ih =>
    rw [List.cons_append, untilEnd, untilEnd]
    by_cases hc : c.Ends
    · rw [if_pos hc, if_pos hc]
    · obtain ⟨x, hx, hends⟩ := h
      have hword : Ended word := by
        rcases List.mem_cons.mp hx with rfl | hin
        · exact absurd hends hc
        · exact ⟨x, hin, hends⟩
      rw [if_neg hc, if_neg hc, ih hword]

/-- The last callback of a word that has no other end. -/
theorem untilEnd_snoc {word : List AppCallback} (going : ¬ Ended word) (c : AppCallback) :
    untilEnd (word ++ [c]) = word ++ [c] := by
  induction word with
  | nil =>
    rw [List.nil_append, untilEnd, untilEnd]
    split
    · rfl
    · rfl
  | cons x word ih =>
    rw [List.cons_append, untilEnd, if_neg fun hx => going ⟨x, List.mem_cons_self, hx⟩,
      ih fun ⟨y, hy, hends⟩ => going ⟨y, List.mem_cons_of_mem _ hy, hends⟩]

theorem Exchange.nil : Exchange [] := ⟨[], [], rfl, by simp, Or.inl rfl⟩

theorem Exchange.snoc {word : List AppCallback} (h : Exchange word) (going : ¬ Ended word)
    {c : AppCallback} (hc : c ≠ .connection) : Exchange (word ++ [c]) := by
  obtain ⟨active, last, rfl, hactive, hlast⟩ := h
  have hnone : last = [] := by
    rcases hlast with rfl | rfl | rfl
    · rfl
    · exact absurd ⟨.close, by simp, Or.inl rfl⟩ going
    · exact absurd ⟨.error, by simp, Or.inr rfl⟩ going
  subst hnone
  rw [List.append_nil]
  cases c with
  | connection => exact absurd rfl hc
  | receive =>
    refine ⟨active ++ [.receive], [], by simp, ?_, Or.inl rfl⟩
    simpa [AppCallback.Active, or_imp, forall_and] using hactive
  | sendComplete =>
    refine ⟨active ++ [.sendComplete], [], by simp, ?_, Or.inl rfl⟩
    simpa [AppCallback.Active, or_imp, forall_and] using hactive
  | close => exact ⟨active, [.close], rfl, hactive, Or.inr (Or.inl rfl)⟩
  | error => exact ⟨active, [.error], rfl, hactive, Or.inr (Or.inr rfl)⟩

theorem Ended.append {word : List AppCallback} (h : Ended word) (front : List AppCallback) :
    Ended (front ++ word) := by
  obtain ⟨c, hc, hends⟩ := h
  exact ⟨c, by simp [hc], hends⟩

theorem Ended.cons {word : List AppCallback} (h : Ended word) (first : AppCallback) :
    Ended (first :: word) :=
  h.append [first]

theorem InOrder.snoc {word : List AppCallback} (h : InOrder word) (going : ¬ Ended word)
    {c : AppCallback} (hc : c ≠ .connection) : InOrder (word ++ [c]) := by
  obtain ⟨early, rest, rfl, hearly, hrest⟩ := h
  refine ⟨early, rest ++ [c], by simp, hearly, ?_⟩
  rcases hrest with hrest | ⟨tail, rfl, htail⟩
  · exact Or.inl (hrest.snoc (fun hended => going (hended.append early)) hc)
  · exact Or.inr ⟨tail ++ [c], rfl,
      htail.snoc (fun hended => going ((hended.cons .connection).append early)) hc⟩

/-- A word that is in order until its end goes on. -/
theorem InOrder.untilEnd_snoc {word : List AppCallback} (h : InOrder (untilEnd word))
    {c : AppCallback} (hc : ¬ Ended word → InOrder (word ++ [c])) :
    InOrder (untilEnd (word ++ [c])) := by
  by_cases hended : Ended word
  · rwa [untilEnd_append hended]
  · rw [Mysya.untilEnd_snoc hended]
    exact hc hended

theorem InOrder.announce {word : List AppCallback} (h : ∀ c ∈ word, c = .sendComplete) :
    InOrder (word ++ [.connection]) :=
  ⟨word, [.connection], rfl, h, Or.inr ⟨[], rfl, .nil⟩⟩

theorem Exchange.not_connection {word : List AppCallback} (h : Exchange word) :
    .connection ∉ word := by
  obtain ⟨active, last, rfl, hactive, hlast⟩ := h
  intro hmem
  rcases List.mem_append.mp hmem with hmem | hmem
  · rcases hactive _ hmem with hc | hc
    · cases hc
    · cases hc
  · rcases hlast with rfl | rfl | rfl
    · simp at hmem
    · simp at hmem
    · simp at hmem

/-- A word that starts with the connection callback is announced by it. -/
theorem InOrder.announced {rest : List AppCallback} (h : InOrder (.connection :: rest)) :
    Announced (.connection :: rest) := by
  obtain ⟨early, tail, hword, hearly, htail⟩ := h
  have hnone : early = [] := by
    cases early with
    | nil => rfl
    | cons c early =>
      have hfirst := hearly c List.mem_cons_self
      simp only [List.cons_append, List.cons.injEq] at hword
      rw [← hword.1] at hfirst
      cases hfirst
  subst hnone
  rw [List.nil_append] at hword
  rw [hword]
  rcases htail with htail | htail
  · exact absurd (hword ▸ List.mem_cons_self) htail.not_connection
  · exact htail

theorem InOrder.exchange {word : List AppCallback} (h : InOrder word)
    (hnone : .connection ∉ word) : Exchange word := by
  obtain ⟨early, rest, rfl, hearly, hrest⟩ := h
  rcases hrest with ⟨active, last, rfl, hactive, hlast⟩ | ⟨tail, rfl, -⟩
  · refine ⟨early ++ active, last, by simp, ?_, hlast⟩
    intro c hc
    rcases List.mem_append.mp hc with hc | hc
    · exact Or.inr (hearly c hc)
    · exact hactive c hc
  · exact absurd (by simp) hnone

/-- A word in which nothing has come before the connection callback but sent messages and
errors. -/
theorem InOrder.attempted {word : List AppCallback} (h : InOrder word)
    (hpending : .connection ∉ word → ∀ c ∈ word, c = .sendComplete ∨ c = .error) :
    Attempted word := by
  by_cases hnone : .connection ∈ word
  · obtain ⟨early, rest, rfl, hearly, hrest⟩ := h
    refine ⟨early, rest, rfl, hearly, Or.inr (Or.inr ?_)⟩
    rcases hrest with hrest | hrest
    · rcases List.mem_append.mp hnone with hmem | hmem
      · cases hearly _ hmem
      · exact absurd hmem hrest.not_connection
    · exact hrest
  · have honly := hpending hnone
    obtain ⟨active, last, rfl, hactive, hlast⟩ := h.exchange hnone
    refine ⟨active, last, rfl, ?_, ?_⟩
    · intro c hc
      rcases hactive c hc with rfl | hsent
      · rcases honly .receive (by simp [hc]) with h' | h'
        · cases h'
        · cases h'
      · exact hsent
    · rcases hlast with rfl | rfl | rfl
      · exact Or.inl rfl
      · rcases honly .close (by simp) with h' | h'
        · cases h'
        · cases h'
      · exact Or.inr (Or.inl rfl)

namespace TcpSocketApp

/-- No handler is about to report a connection closed. -/
def NoClosing (stack : List Frame) : Prop := ∀ sockfd object, .received sockfd object true ∉ stack

structure Orderly (s : TcpSocketApp) : Prop where
  objects : ∀ fd socket, s.sockets fd = some socket → socket.object < s.objects
  distinct : ∀ fd fd' a b, s.sockets fd = some a → s.sockets fd' = some b →
    a.object = b.object → fd = fd'
  owned : ∀ fd c, s.connections fd = some c →
    ∃ socket, s.sockets fd = some socket ∧ socket.object = c.tcpSocket
  noticed : ∀ object, s.objects ≤ object → callbacks s.notices object = []
  inOrder : ∀ object, InOrder (untilEnd (callbacks s.notices object))
  connecting : ∀ fd socket, s.sockets fd = some socket →
    socket.writeCallback = some .onConnectWrite → socket.readCallback = none ∧
      ∀ c ∈ callbacks s.notices socket.object, c = .sendComplete ∨ c = .error
  closing : ∀ fd object, .received fd object true ∈ s.stack →
    s.stack = [.received fd object true] ∧ object < s.objects ∧
      ∀ fd' socket, s.sockets fd' = some socket → socket.object = object →
        socket.writeCallback ≠ some .onConnectWrite

theorem init_orderly (initSize extendSize : Nat) (h : 0 < extendSize) :
    (init initSize extendSize h).Orderly where
  objects := fun _ _ h => by cases h
  distinct := fun _ _ _ _ h => by cases h
  owned := fun _ _ h => by cases h
  noticed := fun _ _ => rfl
  inOrder := fun _ => ⟨[], [], rfl, by simp, Or.inl .nil⟩
  connecting := fun _ _ h => by cases h
  closing := fun _ _ h => by cases h

variable {s s' : TcpSocketApp}

theorem Orderly.untimed (h : s.Orderly) : s.untimed.Orderly :=
  ⟨h.objects, h.distinct, h.owned, h.noticed, h.inOrder, h.connecting, h.closing⟩

theorem Orderly.of_untimed (h : s.untimed.Orderly) : s.Orderly :=
  ⟨h.objects, h.distinct, h.owned, h.noticed, h.inOrder, h.connecting, h.closing⟩

theorem Orderly.noClosing (h : s.Orderly) (runs : s.AppRuns) : NoClosing s.stack := by
  intro sockfd object hmem
  have hstack := (h.closing sockfd object hmem).1
  rcases runs with hempty | hcallback
  · simp [hempty] at hmem
  · simp [hstack] at hcallback

theorem Orderly.pop (h : s.Orderly) {frame : Frame} {rest : List Frame}
    (hstack : s.stack = frame :: rest) : (s.setStack rest).Orderly ∧ NoClosing rest := by
  have hnone : NoClosing rest := by
    intro fd object hmem
    have hwhole := (h.closing fd object (by rw [hstack]; exact List.mem_cons_of_mem _ hmem)).1
    rw [hstack, List.cons.injEq] at hwhole
    simp [hwhole.2] at hmem
  exact ⟨{ h with closing := fun fd object hmem => absurd hmem (hnone fd object) }, hnone⟩

theorem Orderly.push (h : s.Orderly) (quiet : NoClosing s.stack) (frame : Frame)
    (hframe : ∀ fd object, frame ≠ .received fd object true) :
    (s.push frame).Orderly ∧ NoClosing (s.push frame).stack := by
  have hnone : NoClosing (frame :: s.stack) := by
    intro fd object hmem
    rcases List.mem_cons.mp hmem with heq | hmem
    · exact hframe fd object heq.symm
    · exact quiet fd object hmem
  exact ⟨{ h with closing := fun fd object hmem => absurd hmem (hnone fd object) }, hnone⟩

/-- A callback about a connection that the language allows next, if the connection goes on. -/
theorem Orderly.notify (h : s.Orderly) (quiet : NoClosing s.stack) {n : Notice}
    (hobject : n.object < s.objects) (hhandler : n.handler ≠ .onListenError)
    (hword : ¬ Ended (callbacks s.notices n.object) →
      InOrder (callbacks s.notices n.object ++ [n.callback]))
    (hconnecting : n.callback = .sendComplete ∨ n.callback = .error ∨ ∀ fd socket,
      s.sockets fd = some socket → socket.object = n.object →
        socket.writeCallback ≠ some .onConnectWrite) : (s.notify n).Orderly := by
  rw [TcpSocketApp.notify]
  split
  · have hself := callbacks_cons_self hhandler s.notices
    refine { h with noticed := ?_, inOrder := ?_, connecting := ?_, closing := ?_ }
    · intro object hle
      show callbacks (n :: s.notices) object = []
      rw [callbacks_cons_other (Or.inl (by have : s.objects ≤ object := hle; omega))]
      exact h.noticed object hle
    · intro object
      show InOrder (untilEnd (callbacks (n :: s.notices) object))
      by_cases hsame : n.object = object
      · subst hsame
        rw [hself]
        exact (h.inOrder n.object).untilEnd_snoc hword
      · rw [callbacks_cons_other (Or.inl hsame)]
        exact h.inOrder object
    · intro fd socket hsocket hwrite
      obtain ⟨hread, honly⟩ := h.connecting fd socket hsocket hwrite
      refine ⟨hread, ?_⟩
      show ∀ c ∈ callbacks (n :: s.notices) socket.object, _
      by_cases hsame : n.object = socket.object
      · rw [← hsame, hself, hsame]
        intro c hc
        rcases List.mem_append.mp hc with hc | hc
        · exact honly c hc
        · rw [List.mem_singleton] at hc
          subst hc
          rcases hconnecting with hsent | herror | hnot
          · exact Or.inl hsent
          · exact Or.inr herror
          · exact absurd hwrite (hnot fd socket hsocket hsame.symm)
      · rw [callbacks_cons_other (Or.inl hsame)]
        exact honly
    · intro fd object hmem
      rcases List.mem_cons.mp hmem with heq | hmem
      · cases heq
      · exact absurd hmem (quiet fd object)
  · exact h

/-- The error of a listening socket, which is no connection. -/
theorem Orderly.notifyListen (h : s.Orderly) (quiet : NoClosing s.stack) {n : Notice}
    (hhandler : n.handler = .onListenError) : (s.notify n).Orderly := by
  rw [TcpSocketApp.notify]
  split
  · have hother : ∀ object, callbacks (n :: s.notices) object = callbacks s.notices object :=
      fun object => callbacks_cons_other (Or.inr hhandler) s.notices
    refine { h with noticed := ?_, inOrder := ?_, connecting := ?_, closing := ?_ }
    · intro object hle
      exact (hother object).trans (h.noticed object hle)
    · intro object
      show InOrder (untilEnd (callbacks (n :: s.notices) object))
      rw [hother]
      exact h.inOrder object
    · intro fd socket hsocket hwrite
      show _ ∧ ∀ c ∈ callbacks (n :: s.notices) socket.object, _
      rw [hother]
      exact h.connecting fd socket hsocket hwrite
    · intro fd object hmem
      rcases List.mem_cons.mp hmem with heq | hmem
      · cases heq
      · exact absurd hmem (quiet fd object)
  · exact h

theorem Orderly.setConnection (h : s.Orderly) {sockfd : Int} {c c' : Connection}
    (hc : s.connections sockfd = some c) (hsame : c'.tcpSocket = c.tcpSocket) :
    (s.setConnection sockfd c').Orderly :=
  { h with
    owned := Table.insert_all h.owned (hsame ▸ h.owned sockfd c hc) }

theorem Orderly.closeSocket (h : s.Orderly) (sockfd : Int) : (s.closeSocket sockfd).Orderly := by
  have hsockets : ∀ fd socket, Function.update s.sockets sockfd none fd = some socket →
      fd ≠ sockfd ∧ s.sockets fd = some socket := fun fd socket => Table.erase_some
  refine { h with objects := ?_, distinct := ?_, owned := ?_, connecting := ?_, closing := ?_ }
  · exact Table.erase_all h.objects sockfd
  · exact fun fd fd' a b ha hb =>
      h.distinct fd fd' a b (hsockets fd a ha).2 (hsockets fd' b hb).2
  · exact Table.linked_erase h.owned sockfd
  · exact fun fd socket hsocket => h.connecting fd socket (hsockets fd socket hsocket).2
  · intro fd object hmem
    obtain ⟨hstack, hobject, hwrite⟩ := h.closing fd object hmem
    exact ⟨hstack, hobject, fun fd' socket hsocket =>
      hwrite fd' socket (hsockets fd' socket hsocket).2⟩

/-- A new socket, with or without a connection. -/
theorem Orderly.newSocket {t : TcpSocketApp} (h : s.Orderly) {sockfd : Int}
    {socket : TcpSocket} (hfree : s.sockets sockfd = none) (hobject : socket.object = s.objects)
    (hwrite : socket.writeCallback = some .onConnectWrite → socket.readCallback = none)
    (hsockets : t.sockets = Function.update s.sockets sockfd (some socket))
    (hconnections : t.connections = s.connections ∨ ∃ c, c.tcpSocket = socket.object ∧
      t.connections = Function.update s.connections sockfd (some c))
    (hobjects : t.objects = s.objects + 1) (hnotices : t.notices = s.notices)
    (hstack : t.stack = s.stack) (quiet : NoClosing s.stack) : t.Orderly := by
  have hold : ∀ fd socket', t.sockets fd = some socket' →
      (fd = sockfd ∧ socket' = socket) ∨ (fd ≠ sockfd ∧ s.sockets fd = some socket') := by
    rw [hsockets]
    exact fun fd socket' => Table.insert_some
  constructor
  · intro fd socket' hsocket'
    rcases hold fd socket' hsocket' with ⟨_, rfl⟩ | ⟨_, hs⟩
    · omega
    · have := h.objects fd socket' hs
      omega
  · rw [hsockets]
    refine Table.insert_distinct h.distinct (fun fd socket' hs hsame => ?_)
    have := h.objects fd socket' hs
    omega
  · rw [hsockets]
    rcases hconnections with heq | ⟨c', hc', heq⟩
    · rw [heq]
      exact Table.linked_fresh h.owned hfree socket
    · rw [heq]
      exact Table.linked_insert h.owned hc'.symm
  · intro object hle
    rw [hnotices]
    exact h.noticed object (by omega)
  · rw [hnotices]
    exact h.inOrder
  · intro fd socket' hsocket' hwrite'
    rw [hnotices]
    rcases hold fd socket' hsocket' with ⟨_, rfl⟩ | ⟨_, hs⟩
    · rw [hobject, h.noticed s.objects (Nat.le_refl _)]
      exact ⟨hwrite hwrite', by simp⟩
    · exact h.connecting fd socket' hs hwrite'
  · intro fd object hmem
    rw [hstack] at hmem
    exact absurd hmem (quiet fd object)

/-- The callbacks of a connection on a socket whose connect is over. -/
theorem Orderly.establish (h : s.Orderly) {sockfd : Int} {socket : TcpSocket}
    (hsocket : s.sockets sockfd = some socket) (quiet : NoClosing s.stack) :
    (s.setSocket sockfd socket.establish).Orderly := by
  have hold : ∀ fd socket', Function.update s.sockets sockfd (some socket.establish) fd =
      some socket' → (fd = sockfd ∧ socket' = socket.establish) ∨
        (fd ≠ sockfd ∧ s.sockets fd = some socket') := fun fd socket' => Table.insert_some
  have hbefore : ∀ fd socket', Function.update s.sockets sockfd (some socket.establish) fd =
      some socket' → ∃ before, s.sockets fd = some before ∧ before.object = socket'.object :=
    fun fd socket' => Table.replace_some hsocket rfl
  refine { h with objects := ?_, distinct := ?_, owned := ?_, connecting := ?_, closing := ?_ }
  · intro fd socket' hsocket'
    obtain ⟨before, hs, hobject⟩ := hbefore fd socket' hsocket'
    exact hobject ▸ h.objects fd before hs
  · intro fd fd' a b ha hb hab
    obtain ⟨a', ha', hobject⟩ := hbefore fd a ha
    obtain ⟨b', hb', hobject'⟩ := hbefore fd' b hb
    exact h.distinct fd fd' a' b' ha' hb' (by rw [hobject, hobject', hab])
  · exact Table.linked_replace h.owned hsocket (fun _ hown => hown)
  · intro fd socket' hsocket' hwrite
    rcases hold fd socket' hsocket' with ⟨_, rfl⟩ | ⟨_, hs⟩
    · cases hwrite
    · exact h.connecting fd socket' hs hwrite
  · exact fun fd object hmem => absurd hmem (quiet fd object)

theorem Orderly.tcpSocket_lt (h : s.Orderly) {sockfd : Int} {c : Connection}
    (hc : s.connections sockfd = some c) : c.tcpSocket < s.objects := by
  obtain ⟨socket, hsocket, hobject⟩ := h.owned sockfd c hc
  rw [← hobject]
  exact h.objects sockfd socket hsocket

/-- A callback about a connection of the table. -/
theorem Orderly.notifyConnection (h : s.Orderly) (quiet : NoClosing s.stack) {sockfd : Int}
    {c c' : Connection} (hc : s.connections sockfd = some c) (hsame : c'.tcpSocket = c.tcpSocket)
    (handler : Handler) (callback : AppCallback)
    (hhandler : handler ≠ .onListenError) (hannounce : callback ≠ .connection)
    (hconnecting : callback = .sendComplete ∨ callback = .error ∨ ∀ socket,
      s.sockets sockfd = some socket → socket.writeCallback ≠ some .onConnectWrite) :
    (s.notify ⟨c'.tcpSocket, handler, callback⟩).Orderly := by
  refine h.notify quiet ?_ hhandler ?_ ?_
  · exact hsame ▸ h.tcpSocket_lt hc
  · intro going
    have inOrder := h.inOrder c'.tcpSocket
    rw [untilEnd_of_going going] at inOrder
    exact inOrder.snoc going hannounce
  · rcases hconnecting with hsent | herror | hnot
    · exact Or.inl hsent
    · exact Or.inr (Or.inl herror)
    · refine Or.inr (Or.inr fun fd socket hsocket hobject => ?_)
      obtain ⟨owner, howner, hown⟩ := h.owned sockfd c hc
      have hfd := h.distinct fd sockfd socket owner hsocket howner
        (hobject.trans (hsame.trans hown.symm))
      subst hfd
      exact hnot socket hsocket

/-- A socket that `OnSocketRead` serves is not connecting. -/
theorem Orderly.not_connecting (h : s.Orderly) {sockfd : Int} {socket : TcpSocket}
    (hsocket : s.sockets sockfd = some socket) (hread : socket.readCallback = some .onSocketRead) :
    socket.writeCallback ≠ some .onConnectWrite := by
  intro hwrite
  have hnone := (h.connecting sockfd socket hsocket hwrite).1
  rw [hread] at hnone
  cases hnone

theorem step_orderly {a : Action} (h : s.Orderly) (hstep : s.step a = some s') : s'.Orderly := by
  have ht := h.untimed
  refine Orderly.of_untimed ?_
  cases move_of_step hstep with
  | idle heq => exact heq ▸ ht
  | installed callback present _ heq =>
    rw [heq]
    exact ⟨h.objects, h.distinct, h.owned, h.noticed, h.inOrder, h.connecting, h.closing⟩
  | returned _ hstack heq => exact heq ▸ (ht.pop hstack).1
  | accepting hstack hsocket heq =>
    rw [heq]
    exact (ht.push (ht.noClosing (Or.inl hstack)) _ (by simp)).1
  | acceptDone hstack heq => exact heq ▸ (ht.pop hstack).1
  | @accepted _ _ _ sockfd socket hstack hfree hfree' hobject hwrite heq =>
    have quiet : NoClosing s.stack := fun fd object hmem => by
      have hwhole := (h.closing fd object hmem).1
      rw [hstack] at hwhole
      simp at hwhole
    have inserted : (s.untimed.insert sockfd socket).Orderly :=
      ht.newSocket hfree hobject (by simp [hwrite]) rfl (Or.inr ⟨_, rfl, rfl⟩) rfl rfl rfl quiet
    have hfresh : callbacks s.notices socket.object = [] :=
      h.noticed _ (Nat.le_of_eq hobject.symm)
    rw [heq]
    refine inserted.notify quiet ?_ (by simp) ?_ (Or.inr (Or.inr ?_))
    · show socket.object < s.objects + 1
      omega
    · intro _
      show InOrder (callbacks s.notices socket.object ++ [.connection])
      rw [hfresh]
      exact InOrder.announce (by simp)
    · intro fd other hother hsame
      rcases Table.insert_some hother with ⟨_, rfl⟩ | ⟨_, hold⟩
      · simp [hwrite]
      · have hlt := h.objects fd other hold
        have hsame : other.object = socket.object := hsame
        omega
  | listened runs hfree hobject hwrite heq =>
    rw [heq]
    exact ht.newSocket hfree hobject (by simp [hwrite]) rfl (Or.inl rfl) rfl rfl rfl
      (h.noClosing runs)
  | inserted socket runs hfree hfree' hobject hwrite heq =>
    rw [heq]
    exact ht.newSocket hfree hobject hwrite rfl (Or.inr ⟨_, rfl, rfl⟩) rfl rfl rfl
      (h.noClosing runs)
  | @established sockfd socket c hstack htarget hsocket hwrite hc heq =>
    have quiet := h.noClosing (Or.inl hstack)
    rw [heq]
    refine (ht.establish hsocket quiet).notify quiet (h.objects sockfd socket hsocket) (by simp) ?_
      (Or.inr (Or.inr ?_))
    · intro going
      refine InOrder.announce fun x hx => ?_
      rcases (h.connecting sockfd socket hsocket hwrite).2 x hx with hsent | herror
      · exact hsent
      · exact absurd ⟨x, hx, Or.inr herror⟩ going
    · intro fd other hother hsame
      rcases Table.insert_some hother with ⟨_, rfl⟩ | ⟨hne, hold⟩
      · simp [TcpSocket.establish, TcpSocket.register]
      · exact absurd (h.distinct fd sockfd other socket hold hsocket hsame) hne
  | touched c' hc hsame heq =>
    rw [heq]
    exact ht.setConnection hc hsame
  | completed c' handler runs htarget hc hsame hhandler heq =>
    rw [heq]
    exact (ht.setConnection hc hsame).notifyConnection (h.noClosing runs)
      (Function.update_self _ _ _) rfl handler _ hhandler (by simp) (Or.inl rfl)
  | failed c' handler timedOut runs htarget _ hc hsame hhandler heq =>
    obtain ⟨pushed, quiet⟩ := (ht.setConnection hc hsame).push (h.noClosing runs)
      (.close _ timedOut) (by simp)
    rw [heq]
    exact pushed.notifyConnection quiet (Function.update_self _ _ _) rfl handler _ hhandler
      (by simp) (Or.inr (Or.inl rfl))
  | listenFailed hstack heq =>
    obtain ⟨pushed, quiet⟩ := ht.push (h.noClosing (Or.inl hstack)) (.close _ none) (by simp)
    rw [heq]
    exact pushed.notifyListen quiet rfl
  | received c' hstack htarget hsocket hread hc hsame heq =>
    obtain ⟨pushed, quiet⟩ := (ht.setConnection hc hsame).push (h.noClosing (Or.inl hstack))
      (.received _ c'.tcpSocket false) (by simp)
    rw [heq]
    refine pushed.notifyConnection quiet (Function.update_self _ _ _) rfl _ _ (by simp) (by simp)
      (Or.inr (Or.inr ?_))
    intro socket hsocket'
    cases hsocket.symm.trans hsocket'
    exact h.not_connecting hsocket hread
  | @unreceived sockfd socket c c' peerClosed hstack htarget hsocket hread hc hsame heq =>
    have set := ht.setConnection hc hsame
    rw [heq]
    refine { set with closing := fun fd object hmem => ?_ }
    have hwhole : (s.untimed.setConnection sockfd c').stack = [] := hstack
    simp only [TcpSocketApp.push, setStack, hwhole, List.mem_singleton] at hmem ⊢
    obtain ⟨rfl, rfl, rfl⟩ := Frame.received.inj hmem
    refine ⟨rfl, hsame ▸ h.tcpSocket_lt hc, ?_⟩
    intro fd' other hother hobject
    obtain ⟨owner, howner, hown⟩ := h.owned fd c hc
    have hfd := h.distinct fd' fd other owner hother howner
      (hobject.trans (hsame.trans hown.symm))
    subst hfd
    cases hsocket.symm.trans hother
    exact h.not_connecting hsocket hread
  | closed _ runs heq =>
    rw [heq]
    exact ht.closeSocket _
  | closing _ hstack heq =>
    rw [heq]
    exact (ht.pop hstack).1.closeSocket _
  | readDone _ hstack heq => exact heq ▸ (ht.pop hstack).1
  | @peerClosed sockfd object rest _ hstack heq =>
    obtain ⟨popped, quiet⟩ := ht.pop hstack
    obtain ⟨-, hobject, hwrite⟩ := h.closing sockfd object (by simp [hstack])
    rw [heq]
    refine popped.notify quiet hobject (by simp) (fun going => ?_) (Or.inr (Or.inr hwrite))
    have going : ¬ Ended (callbacks s.notices object) := going
    have inOrder := h.inOrder object
    rw [untilEnd_of_going going] at inOrder
    exact inOrder.snoc going (by simp)

/-- What a callback about the connection of a socket comes from, in a step with the action. -/
inductive Cause (s : TcpSocketApp) (a : Action) (object : Nat) : AppCallback → Prop where
  | accepted : object = s.objects → Cause s a object .connection
  | established {fd : Int} {socket : TcpSocket} {c : Connection} : s.target a = some fd →
      s.sockets fd = some socket → socket.object = object →
      socket.writeCallback = some .onConnectWrite → s.connections fd = some c →
      Cause s a object .connection
  | received {fd : Int} {socket : TcpSocket} {c : Connection} : s.target a = some fd →
      s.sockets fd = some socket → socket.readCallback = some .onSocketRead →
      s.connections fd = some c → c.tcpSocket = object → Cause s a object .receive
  | completed {fd : Int} {c : Connection} : s.target a = some fd → s.connections fd = some c →
      c.tcpSocket = object → Cause s a object .sendComplete
  | failed {fd : Int} {c : Connection} : s.target a = some fd → s.connections fd = some c →
      c.tcpSocket = object → Cause s a object .error
  | closed {fd : Int} : .received fd object true ∈ s.stack → Cause s a object .close

theorem notify_notices {n : Notice} (h : s.installed n.callback = true) :
    (s.notify n).notices = n :: s.notices := by
  rw [TcpSocketApp.notify, if_pos h]

theorem notify_callbacks (s : TcpSocketApp) (n : Notice) (object : Nat) :
    callbacks (s.notify n).notices object = callbacks s.notices object ∨
      n.object = object ∧ n.handler ≠ .onListenError ∧ .callback ∈ (s.notify n).stack ∧
        callbacks (s.notify n).notices object = callbacks s.notices object ++ [n.callback] := by
  rw [TcpSocketApp.notify]
  split
  · by_cases hother : n.object ≠ object ∨ n.handler = .onListenError
    · exact Or.inl (callbacks_cons_other hother s.notices)
    · simp only [not_or, not_not] at hother
      obtain ⟨rfl, hhandler⟩ := hother
      exact Or.inr ⟨rfl, hhandler, List.mem_cons_self, callbacks_cons_self hhandler s.notices⟩
  · exact Or.inl rfl

/-- The callback that a step adds about a connection: the application runs, for a reason. -/
structure Adds (s : TcpSocketApp) (a : Action) (object : Nat) (c : AppCallback)
    (s' : TcpSocketApp) : Prop where
  word : callbacks s'.notices object = callbacks s.notices object ++ [c]
  cause : Cause s a object c
  runs : .callback ∈ s'.stack

theorem adds_of_notify (s : TcpSocketApp) {s' t : TcpSocketApp} {a : Action} {n : Notice}
    (heq : s'.untimed = t.notify n) (hnotices : t.notices = s.notices)
    (hcause : n.handler ≠ .onListenError → Cause s a n.object n.callback) (object : Nat) :
    callbacks s'.notices object = callbacks s.notices object ∨ ∃ c, Adds s a object c s' := by
  have hs' : s'.untimed.notices = (t.notify n).notices ∧ s'.untimed.stack = (t.notify n).stack :=
    ⟨congrArg TcpSocketApp.notices heq, congrArg TcpSocketApp.stack heq⟩
  have hs' : s'.notices = (t.notify n).notices ∧ s'.stack = (t.notify n).stack := hs'
  rw [hs'.1, ← hnotices]
  rcases notify_callbacks t n object with hsame | ⟨rfl, hhandler, hruns, happend⟩
  · exact Or.inl hsame
  · refine Or.inr ⟨n.callback, ?_, hcause hhandler, hs'.2 ▸ hruns⟩
    rw [hs'.1, ← hnotices]
    exact happend

/-- A step adds at most one callback about a connection. -/
theorem Move.callbacks {a : Action} (h : Move s a s') (object : Nat) :
    callbacks s'.notices object = callbacks s.notices object ∨ ∃ c, Adds s a object c s' := by
  have hquiet : ∀ t : TcpSocketApp, s'.untimed = t → t.notices = s.notices →
      Mysya.callbacks s'.notices object = Mysya.callbacks s.notices object := by
    rintro t heq hnotices
    rw [← hnotices, ← heq]
    rfl
  cases h with
  | idle heq => exact Or.inl (hquiet _ heq rfl)
  | installed _ _ _ heq => exact Or.inl (hquiet _ heq rfl)
  | returned _ _ heq => exact Or.inl (hquiet _ heq rfl)
  | accepting _ _ heq => exact Or.inl (hquiet _ heq rfl)
  | acceptDone _ heq => exact Or.inl (hquiet _ heq rfl)
  | accepted socket _ _ _ hobject _ heq =>
    exact adds_of_notify s heq rfl (fun _ => .accepted hobject) object
  | listened _ _ _ _ heq => exact Or.inl (hquiet _ heq rfl)
  | inserted _ _ _ _ _ _ heq => exact Or.inl (hquiet _ heq rfl)
  | established _ htarget hsocket hwrite hc heq =>
    exact adds_of_notify s heq rfl (fun _ => .established htarget hsocket rfl hwrite hc) object
  | touched _ _ _ heq => exact Or.inl (hquiet _ heq rfl)
  | completed _ _ _ htarget hc hsame _ heq =>
    exact adds_of_notify s heq rfl (fun _ => .completed htarget hc hsame.symm) object
  | failed _ _ _ _ htarget _ hc hsame _ heq =>
    exact adds_of_notify s heq rfl (fun _ => .failed htarget hc hsame.symm) object
  | listenFailed _ heq => exact adds_of_notify s heq rfl (fun hhandler => absurd rfl hhandler) object
  | received _ _ htarget hsocket hread hc hsame heq =>
    exact adds_of_notify s heq rfl (fun _ => .received htarget hsocket hread hc hsame.symm) object
  | unreceived _ _ _ _ _ _ _ _ heq => exact Or.inl (hquiet _ heq rfl)
  | closed _ _ heq => exact Or.inl (hquiet _ heq rfl)
  | closing _ _ heq => exact Or.inl (hquiet _ heq rfl)
  | readDone _ _ heq => exact Or.inl (hquiet _ heq rfl)
  | peerClosed _ hstack heq =>
    exact adds_of_notify s heq rfl (fun _ => .closed (hstack ▸ List.mem_cons_self)) object

/-- Where a socket of the table comes from. -/
theorem Move.sockets {a : Action} (h : Move s a s') {fd : Int} {socket : TcpSocket}
    (hsocket : s'.sockets fd = some socket) :
    s.sockets fd = some socket ∨ s.objects ≤ socket.object ∨
      ∃ before, s.sockets fd = some before ∧ socket = before.establish ∧
        (s.installed .connection = true →
          .connection ∈ Mysya.callbacks s'.notices socket.object) := by
  have hkept : ∀ t : TcpSocketApp, s'.untimed = t → t.sockets = s.sockets →
      s.sockets fd = some socket := by
    intro t heq hsockets
    rw [← hsockets, ← heq]
    exact hsocket
  have hnew : ∀ (t : TcpSocketApp) (sockfd : Int) (new : TcpSocket), s'.untimed = t →
      t.sockets = Function.update s.sockets sockfd (some new) → new.object = s.objects →
      s.sockets fd = some socket ∨ s.objects ≤ socket.object := by
    intro t sockfd new heq hsockets hobject
    have hupdate : Function.update s.sockets sockfd (some new) fd = some socket := by
      rw [← hsockets, ← heq]
      exact hsocket
    rcases Table.insert_some hupdate with ⟨_, rfl⟩ | ⟨_, hold⟩
    · exact Or.inr (Nat.le_of_eq hobject.symm)
    · exact Or.inl hold
  have hclosed : ∀ (t : TcpSocketApp) (sockfd : Int), s'.untimed = t →
      t.sockets = Function.update s.sockets sockfd none → s.sockets fd = some socket := by
    intro t sockfd heq hsockets
    have hupdate : Function.update s.sockets sockfd none fd = some socket := by
      rw [← hsockets, ← heq]
      exact hsocket
    exact (Table.erase_some hupdate).2
  cases h with
  | idle heq => exact Or.inl (hkept _ heq rfl)
  | installed _ _ _ heq => exact Or.inl (hkept _ heq rfl)
  | returned _ _ heq => exact Or.inl (hkept _ heq rfl)
  | accepting _ _ heq => exact Or.inl (hkept _ heq rfl)
  | acceptDone _ heq => exact Or.inl (hkept _ heq rfl)
  | accepted new _ _ _ hobject _ heq =>
    exact (hnew _ _ new heq (notify_sockets _ _) hobject).imp_right Or.inl
  | listened _ _ hobject _ heq => exact (hnew _ _ _ heq rfl hobject).imp_right Or.inl
  | inserted new _ _ _ hobject _ heq => exact (hnew _ _ new heq rfl hobject).imp_right Or.inl
  | @established sockfd before c _ _ hbefore _ _ heq =>
    have hupdate : Function.update s.sockets sockfd (some before.establish) fd = some socket := by
      have hall : s'.sockets = Function.update s.sockets sockfd (some before.establish) :=
        (congrArg TcpSocketApp.sockets heq).trans (notify_sockets _ _)
      rw [← hall]
      exact hsocket
    rcases Table.insert_some hupdate with ⟨rfl, rfl⟩ | ⟨_, hold⟩
    · refine Or.inr (Or.inr ⟨before, hbefore, rfl, fun hinstalled => ?_⟩)
      have hnotices : s'.untimed.notices = _ := congrArg TcpSocketApp.notices heq
      rw [notify_notices hinstalled] at hnotices
      have happend := @callbacks_cons_self ⟨before.object, .onConnectWrite, .connection⟩ (by simp)
        s.notices
      rw [show s'.notices = _ from hnotices]
      exact happend ▸ List.mem_append_right _ List.mem_cons_self
    · exact Or.inl hold
  | touched _ _ _ heq => exact Or.inl (hkept _ heq rfl)
  | completed _ _ _ _ _ _ _ heq => exact Or.inl (hkept _ heq (notify_sockets _ _))
  | failed _ _ _ _ _ _ _ _ _ heq => exact Or.inl (hkept _ heq (failConnection_sockets _ _ _ _ _))
  | listenFailed _ heq => exact Or.inl (hkept _ heq (notify_sockets _ _))
  | received _ _ _ _ _ _ _ heq => exact Or.inl (hkept _ heq (notify_sockets _ _))
  | unreceived _ _ _ _ _ _ _ _ heq => exact Or.inl (hkept _ heq rfl)
  | closed _ _ heq => exact Or.inl (hclosed _ _ heq rfl)
  | closing _ _ heq => exact Or.inl (hclosed _ _ heq rfl)
  | readDone _ _ heq => exact Or.inl (hkept _ heq rfl)
  | peerClosed _ _ heq => exact Or.inl (hkept _ heq (notify_sockets _ _))

theorem mem_notify_stack {n : Notice} {frame : Frame} (hframe : frame ≠ .callback)
    (h : frame ∈ (s.notify n).stack) : frame ∈ s.stack := by
  rw [TcpSocketApp.notify] at h
  split at h
  · rcases List.mem_cons.mp h with heq | hmem
    · exact absurd heq hframe
    · exact hmem
  · exact h

/-- Only the read of a served socket makes a handler report its connection closed. -/
theorem Move.closing_cause {a : Action} (h : Move s a s') {fd : Int} {object : Nat}
    (hframe : .received fd object true ∈ s'.stack) :
    .received fd object true ∈ s.stack ∨ ∃ socket c, s.target a = some fd ∧
      s.sockets fd = some socket ∧ socket.readCallback = some .onSocketRead ∧
      s.connections fd = some c ∧ c.tcpSocket = object := by
  have hkept : ∀ t : TcpSocketApp, s'.untimed = t →
      (.received fd object true ∈ t.stack → .received fd object true ∈ s.stack) →
      .received fd object true ∈ s.stack := by
    intro t heq hstack
    apply hstack
    rw [← heq]
    exact hframe
  have hpush : ∀ frame : Frame, frame ≠ .received fd object true →
      .received fd object true ∈ frame :: s.stack → .received fd object true ∈ s.stack := by
    intro frame hne hmem
    rcases List.mem_cons.mp hmem with heq | hmem
    · exact absurd heq.symm hne
    · exact hmem
  have hpop : ∀ (frame : Frame) (rest : List Frame), s.stack = frame :: rest →
      .received fd object true ∈ rest → .received fd object true ∈ s.stack := by
    intro frame rest hstack hmem
    rw [hstack]
    exact List.mem_cons_of_mem _ hmem
  cases h with
  | idle heq => exact Or.inl (hkept _ heq id)
  | installed _ _ _ heq => exact Or.inl (hkept _ heq id)
  | returned _ hstack heq => exact Or.inl (hkept _ heq (hpop _ _ hstack))
  | accepting _ _ heq => exact Or.inl (hkept _ heq (hpush _ (by simp)))
  | acceptDone hstack heq => exact Or.inl (hkept _ heq (hpop _ _ hstack))
  | accepted _ _ _ _ _ _ heq => exact Or.inl (hkept _ heq (mem_notify_stack (by simp)))
  | listened _ _ _ _ heq => exact Or.inl (hkept _ heq id)
  | inserted _ _ _ _ _ _ heq => exact Or.inl (hkept _ heq id)
  | established _ _ _ _ _ heq => exact Or.inl (hkept _ heq (mem_notify_stack (by simp)))
  | touched _ _ _ heq => exact Or.inl (hkept _ heq id)
  | completed _ _ _ _ _ _ _ heq => exact Or.inl (hkept _ heq (mem_notify_stack (by simp)))
  | failed _ _ _ _ _ _ _ _ _ heq =>
    exact Or.inl (hkept _ heq fun hmem => hpush _ (by simp) (mem_notify_stack (by simp) hmem))
  | listenFailed _ heq =>
    exact Or.inl (hkept _ heq fun hmem => hpush _ (by simp) (mem_notify_stack (by simp) hmem))
  | received _ _ _ _ _ _ _ heq =>
    exact Or.inl (hkept _ heq fun hmem => hpush _ (by simp) (mem_notify_stack (by simp) hmem))
  | @unreceived sockfd socket c c' peerClosed hstack htarget hsocket hread hc hsame heq =>
    have hmem : .received fd object true ∈ .received sockfd c'.tcpSocket peerClosed :: s.stack := by
      have hall : s'.untimed.stack = _ := congrArg TcpSocketApp.stack heq
      rw [show s'.stack = _ from hall] at hframe
      exact hframe
    rcases List.mem_cons.mp hmem with hsameFrame | hmem
    · obtain ⟨rfl, rfl, -⟩ := Frame.received.inj hsameFrame
      exact Or.inr ⟨socket, c, htarget, hsocket, hread, hc, hsame.symm⟩
    · exact Or.inl hmem
  | closed _ _ heq => exact Or.inl (hkept _ heq id)
  | closing _ hstack heq => exact Or.inl (hkept _ heq (hpop _ _ hstack))
  | readDone _ hstack heq => exact Or.inl (hkept _ heq (hpop _ _ hstack))
  | peerClosed _ hstack heq =>
    exact Or.inl (hkept _ heq fun hmem => hpop _ _ hstack (mem_notify_stack (by simp) hmem))

theorem notify_objects (s : TcpSocketApp) (n : Notice) : (s.notify n).objects = s.objects := by
  rw [TcpSocketApp.notify]
  split
  · rfl
  · rfl

theorem notify_installed (s : TcpSocketApp) (n : Notice) :
    (s.notify n).installed = s.installed := by
  rw [TcpSocketApp.notify]
  split
  · rfl
  · rfl

/-- Objects are only added, and `installed` changes for the application's own call only. -/
structure Grows (s : TcpSocketApp) (a : Action) (s' : TcpSocketApp) : Prop where
  objects : s.objects ≤ s'.objects
  installed : s'.installed = s.installed ∨ ∃ callback present, a = .setCallback callback present ∧
    s'.installed = Function.update s.installed callback present

theorem Grows.of_notify {a : Action} {t : TcpSocketApp} {n : Notice}
    (heq : s'.untimed = t.notify n) (hobjects : s.objects ≤ t.objects)
    (hinstalled : t.installed = s.installed) : Grows s a s' := by
  have hs' : s'.untimed.objects = (t.notify n).objects ∧
      s'.untimed.installed = (t.notify n).installed :=
    ⟨congrArg TcpSocketApp.objects heq, congrArg TcpSocketApp.installed heq⟩
  rw [notify_objects, notify_installed] at hs'
  exact ⟨Nat.le_trans hobjects (Nat.le_of_eq hs'.1.symm), Or.inl (hs'.2.trans hinstalled)⟩

theorem Move.grows {a : Action} (h : Move s a s') : Grows s a s' := by
  have hsame : ∀ t : TcpSocketApp, s'.untimed = t → s.objects ≤ t.objects →
      t.installed = s.installed → Grows s a s' := by
    rintro t rfl hle hinstalled
    exact ⟨hle, Or.inl hinstalled⟩
  cases h with
  | idle heq => exact hsame _ heq (Nat.le_refl _) rfl
  | installed callback present ha heq =>
    exact ⟨Nat.le_of_eq (congrArg TcpSocketApp.objects heq).symm,
      Or.inr ⟨callback, present, ha, congrArg TcpSocketApp.installed heq⟩⟩
  | returned _ _ heq => exact hsame _ heq (Nat.le_refl _) rfl
  | accepting _ _ heq => exact hsame _ heq (Nat.le_refl _) rfl
  | acceptDone _ heq => exact hsame _ heq (Nat.le_refl _) rfl
  | accepted _ _ _ _ _ _ heq => exact .of_notify heq (Nat.le_succ _) rfl
  | listened _ _ _ _ heq => exact hsame _ heq (Nat.le_succ _) rfl
  | inserted _ _ _ _ _ _ heq => exact hsame _ heq (Nat.le_succ _) rfl
  | established _ _ _ _ _ heq => exact .of_notify heq (Nat.le_refl _) rfl
  | touched _ _ _ heq => exact hsame _ heq (Nat.le_refl _) rfl
  | completed _ _ _ _ _ _ _ heq => exact .of_notify heq (Nat.le_refl _) rfl
  | failed _ _ _ _ _ _ _ _ _ heq => exact .of_notify heq (Nat.le_refl _) rfl
  | listenFailed _ heq => exact .of_notify heq (Nat.le_refl _) rfl
  | received _ _ _ _ _ _ _ heq => exact .of_notify heq (Nat.le_refl _) rfl
  | unreceived _ _ _ _ _ _ _ _ heq => exact hsame _ heq (Nat.le_refl _) rfl
  | closed _ _ heq => exact hsame _ heq (Nat.le_refl _) rfl
  | closing _ _ heq => exact hsame _ heq (Nat.le_refl _) rfl
  | readDone _ _ heq => exact hsame _ heq (Nat.le_refl _) rfl
  | peerClosed _ _ heq => exact .of_notify heq (Nat.le_refl _) rfl

theorem Move.callbacks_extended {a : Action} (h : Move s a s') (object : Nat) :
    Mysya.callbacks s.notices object <+: Mysya.callbacks s'.notices object := by
  rcases h.callbacks object with hsame | ⟨c, hadds⟩
  · exact hsame ▸ List.prefix_rfl
  · rw [hadds.word]
    exact List.prefix_append _ _

/-- A connection that has not been announced and is not going to be. -/
structure Unannounced (s : TcpSocketApp) (object : Nat) : Prop where
  object_lt : object < s.objects
  word : .connection ∉ Mysya.callbacks s.notices object
  served : ∀ fd socket, s.sockets fd = some socket → socket.object = object →
    socket.writeCallback ≠ some .onConnectWrite

theorem Unannounced.step {object : Nat} {a : Action} (h : s.Unannounced object)
    (move : Move s a s') : s'.Unannounced object := by
  refine ⟨Nat.lt_of_lt_of_le h.object_lt move.grows.objects, ?_, ?_⟩
  · rcases move.callbacks object with hsame | ⟨c, hadds⟩
    · rw [hsame]
      exact h.word
    · rw [hadds.word, List.mem_append, List.mem_singleton]
      rintro (hmem | rfl)
      · exact h.word hmem
      · cases hadds.cause with
        | accepted hobject => exact absurd hobject (Nat.ne_of_lt h.object_lt)
        | established _ hsocket hobject hwrite => exact h.served _ _ hsocket hobject hwrite
  · intro fd socket hsocket hobject
    rcases move.sockets hsocket with hold | hnew | ⟨before, -, rfl, -⟩
    · exact h.served fd socket hold hobject
    · have := h.object_lt
      omega
    · simp [TcpSocket.establish, TcpSocket.register]

/-- A connection of `AsyncConnect`: until it is announced it is not served. -/
structure Attempting (s : TcpSocketApp) (object : Nat) : Prop where
  object_lt : object < s.objects
  installed : s.installed .connection = true
  early : ∀ front, front <+: Mysya.callbacks s.notices object → .connection ∉ front →
    ∀ c ∈ front, c = .sendComplete ∨ c = .error
  pending : .connection ∉ Mysya.callbacks s.notices object →
    (∀ fd socket, s.sockets fd = some socket → socket.object = object →
      socket.writeCallback = some .onConnectWrite) ∧
    ∀ fd, .received fd object true ∉ s.stack

theorem Attempting.step {object : Nat} {a : Action} (h : s.Attempting object)
    (orderly : s.Orderly) (kept : a ≠ .setCallback .connection false) (move : Move s a s') :
    s'.Attempting object := by
  have hunserved : .connection ∉ Mysya.callbacks s.notices object → ∀ fd socket c,
      s.sockets fd = some socket → socket.readCallback = some .onSocketRead →
      s.connections fd = some c → c.tcpSocket ≠ object := by
    intro hnone fd socket c hsocket hread hc hobject
    obtain ⟨owner, howner, hown⟩ := orderly.owned fd c hc
    cases hsocket.symm.trans howner
    exact orderly.not_connecting hsocket hread
      ((h.pending hnone).1 fd socket hsocket (hown.trans hobject))
  refine ⟨Nat.lt_of_lt_of_le h.object_lt move.grows.objects, ?_, ?_, fun hnone => ?_⟩
  · rcases move.grows.installed with hsame | ⟨callback, present, ha, hupdate⟩
    · rw [hsame]
      exact h.installed
    · rw [hupdate, Function.update_apply]
      split
      · rename_i hcallback
        subst hcallback
        cases present with
        | true => rfl
        | false => exact absurd ha kept
      · exact h.installed
  · intro front hfront hnone
    rcases move.callbacks object with hsame | ⟨c, hadds⟩
    · exact h.early front (hsame ▸ hfront) hnone
    · rw [hadds.word, List.prefix_concat_iff] at hfront
      rcases hfront with rfl | hfront
      · have hbefore : .connection ∉ Mysya.callbacks s.notices object :=
          fun hmem => hnone (List.mem_append_left _ hmem)
        intro x hx
        rcases List.mem_append.mp hx with hx | hx
        · exact h.early _ List.prefix_rfl hbefore x hx
        · rw [List.mem_singleton] at hx
          subst hx
          cases hadds.cause with
          | accepted => exact absurd (by simp) hnone
          | established => exact absurd (by simp) hnone
          | received _ hsocket hread hc hobject =>
            exact absurd hobject (hunserved hbefore _ _ _ hsocket hread hc)
          | completed => exact Or.inl rfl
          | failed => exact Or.inr rfl
          | closed hframe => exact absurd hframe ((h.pending hbefore).2 _)
      · exact h.early front hfront hnone
  · have hbefore : .connection ∉ Mysya.callbacks s.notices object :=
      fun hmem => hnone ((move.callbacks_extended object).subset hmem)
    obtain ⟨hsockets, hframes⟩ := h.pending hbefore
    refine ⟨?_, ?_⟩
    · intro fd socket hsocket hobject
      rcases move.sockets hsocket with hold | hnew | ⟨before, -, -, hannounced⟩
      · exact hsockets fd socket hold hobject
      · have := h.object_lt
        omega
      · exact absurd (hobject ▸ hannounced h.installed) hnone
    · intro fd hframe
      rcases move.closing_cause hframe with hold | ⟨socket, c, _, hsocket, hread, hc, hobject⟩
      · exact hframes fd hold
      · exact hunserved hbefore fd socket c hsocket hread hc hobject

/-! ## After the end -/

/-- The connection of the object is acted on by nothing but `Close` once its end has been told. -/
def LeftAlone (object : Nat) (s : TcpSocketApp) (a : Action) : Prop :=
  ∀ c ∈ (s.target a).bind s.connections, c.tcpSocket = object →
    ¬ Ended (callbacks s.notices object)

instance (object : Nat) (s : TcpSocketApp) (a : Action) : Decidable (LeftAlone object s a) := by
  unfold LeftAlone
  infer_instance

/-- All of the connection's callbacks came up to its end, and no handler will report it closed
after that. -/
structure Finished (object : Nat) (s : TcpSocketApp) : Prop where
  word : untilEnd (callbacks s.notices object) = callbacks s.notices object
  closing : ∀ fd, .received fd object true ∈ s.stack → ¬ Ended (callbacks s.notices object)

theorem Cause.going {object : Nat} {a : Action} {c : AppCallback} (h : Cause s a object c)
    (orderly : s.Orderly) (alone : LeftAlone object s a)
    (closing : ∀ fd, .received fd object true ∈ s.stack → ¬ Ended (callbacks s.notices object)) :
    ¬ Ended (callbacks s.notices object) := by
  have htold : ∀ {fd c}, s.target a = some fd → s.connections fd = some c →
      c.tcpSocket = object → ¬ Ended (callbacks s.notices object) := fun htarget hc hobject =>
    alone _ (by rw [htarget]; exact hc) hobject
  cases h with
  | accepted hobject =>
    rw [orderly.noticed object (Nat.le_of_eq hobject.symm)]
    simp [Ended]
  | established htarget hsocket hobject _ hc =>
    obtain ⟨owner, howner, hown⟩ := orderly.owned _ _ hc
    cases hsocket.symm.trans howner
    exact htold htarget hc (hown.symm.trans hobject)
  | received htarget _ _ hc hobject => exact htold htarget hc hobject
  | completed htarget hc hobject => exact htold htarget hc hobject
  | failed htarget hc hobject => exact htold htarget hc hobject
  | closed hframe => exact closing _ hframe

theorem Finished.step {object : Nat} {a : Action} (h : Finished object s) (orderly : s.Orderly)
    (alone : LeftAlone object s a) (hstep : s.step a = some s') : Finished object s' := by
  have move := move_of_step hstep
  have later := step_orderly orderly hstep
  rcases move.callbacks object with hsame | ⟨c, hadds⟩
  · refine ⟨by rw [hsame, h.word], fun fd hframe => ?_⟩
    rw [hsame]
    rcases move.closing_cause hframe with hold | ⟨_, c, htarget, _, _, hc, hsocket⟩
    · exact h.closing fd hold
    · exact alone c (by rw [htarget]; exact hc) hsocket
  · have going := hadds.cause.going orderly alone h.closing
    refine ⟨by rw [hadds.word, untilEnd_snoc going], fun fd hframe => ?_⟩
    have hruns := hadds.runs
    rw [(later.closing fd object hframe).1, List.mem_singleton] at hruns
    cases hruns

/-- What the application is told about the connection an action makes. -/
def ConnectionWord : Action → List AppCallback → Prop
  | .accept _, word => Announced word
  | .connect _ _ _, word => Exchange word
  | .asyncConnect _ _ _ _ _, word => Attempted word
  | _, _ => True

/-- The connection callback is left in its place. -/
def Announcing (_ : TcpSocketApp) (a : Action) : Prop := a ≠ .setCallback .connection false

instance (s : TcpSocketApp) (a : Action) : Decidable (s.Announcing a) := by
  unfold Announcing
  infer_instance

theorem reaches_orderly {guard : TcpSocketApp → Action → Prop} {start : TcpSocketApp}
    (h : start.Orderly) (hs : Reaches step guard start s) : s.Orderly :=
  hs.invariant h fun _ _ _ orderly _ hstep => step_orderly orderly hstep

theorem reaches_extended (hs : Reaches step Announcing s s') (object : Nat) :
    callbacks s.notices object <+: callbacks s'.notices object := by
  refine hs.invariant (I := fun m => callbacks s.notices object <+: callbacks m.notices object)
    List.prefix_rfl ?_
  intro m a m' hprefix _ hstep
  exact hprefix.trans ((move_of_step hstep).callbacks_extended object)

/-- A connection that is accepted is announced at once. -/
theorem accept_announced {r : AcceptResult} (orderly : s.Orderly)
    (hstep : s.step (.accept r) = some s') (hobjects : s'.objects = s.objects + 1)
    (hinstalled : s'.installed .connection = true) :
    callbacks s'.notices s.objects = [.connection] := by
  rw [step] at hstep
  split at hstep
  · split at hstep
    · cases hstep
      cases r with
      | accepted sockfd build =>
        rw [acceptRound] at hobjects hinstalled ⊢
        rcases buildConnectedSocket_cases s sockfd build with hbuild | ⟨_, _, hbuild⟩
        · rw [hbuild] at hobjects
          exact absurd hobjects (Nat.ne_of_lt (Nat.lt_succ_self _))
        · rw [hbuild] at hinstalled ⊢
          dsimp only at hinstalled ⊢
          rw [notify_installed] at hinstalled
          rw [notify_notices hinstalled]
          have hfresh := orderly.noticed s.objects (Nat.le_refl _)
          have happend := @callbacks_cons_self ⟨s.objects, .onListenRead, .connection⟩ (by simp)
            s.notices
          rw [hfresh] at happend
          exact happend
      | aborted => exact absurd hobjects (Nat.ne_of_lt (Nat.lt_succ_self _))
      | again => exact absurd hobjects (Nat.ne_of_lt (Nat.lt_succ_self _))
      | failed => exact absurd hobjects (Nat.ne_of_lt (Nat.lt_succ_self _))
    · cases hstep
  · cases hstep

/-- The socket of a new object is the one put into the table for it. -/
theorem Orderly.inserted_socket (orderly : s.Orderly) {sockfd fd : Int} {new socket : TcpSocket}
    (hsocket : (s.insert sockfd new).sockets fd = some socket)
    (hobject : socket.object = s.objects) : socket = new := by
  rcases Table.insert_some hsocket with ⟨_, hnew⟩ | ⟨_, hold⟩
  · exact hnew
  · have := orderly.objects fd socket hold
    omega

theorem connect_unannounced {sockfd : Int} {established : Bool} {build : BuildCalls}
    (orderly : s.Orderly) (hstep : s.step (.connect sockfd established build) = some s')
    (hobjects : s'.objects = s.objects + 1) : s'.Unannounced s.objects := by
  simp only [step] at hstep
  split at hstep
  · cases hstep
    cases established with
    | true =>
      rw [if_pos rfl] at hobjects ⊢
      rcases buildConnectedSocket_cases s sockfd build with hbuild | ⟨_, _, hbuild⟩
      · rw [hbuild] at hobjects
        exact absurd hobjects (Nat.ne_of_lt (Nat.lt_succ_self _))
      · rw [hbuild]
        refine ⟨Nat.lt_succ_self _, ?_, ?_⟩
        · show .connection ∉ callbacks s.notices s.objects
          rw [orderly.noticed s.objects (Nat.le_refl _)]
          simp
        · intro fd socket hsocket hobject
          rw [orderly.inserted_socket hsocket hobject]
          simp [TcpSocket.attach, TcpSocket.register]
    | false => exact absurd hobjects (Nat.ne_of_lt (Nat.lt_succ_self _))
  · cases hstep

theorem asyncConnect_attempting {sockfd : Int} {started : Bool} {build : BuildCalls}
    {timeoutMs : Int} {startTimer : Bool} (orderly : s.Orderly)
    (hstep : s.step (.asyncConnect sockfd started build timeoutMs startTimer) = some s')
    (hobjects : s'.objects = s.objects + 1) (hinstalled : s'.installed .connection = true) :
    s'.Attempting s.objects := by
  simp only [step] at hstep
  split at hstep
  · rename_i runs
    cases hstep
    cases started with
    | true =>
      rw [if_pos rfl] at hobjects hinstalled ⊢
      rcases buildAsyncConnectSocket_cases s sockfd build timeoutMs startTimer with
        hbuild | ⟨_, _, huntimed⟩
      · rw [hbuild] at hobjects
        exact absurd hobjects (Nat.ne_of_lt (Nat.lt_succ_self _))
      · generalize (s.buildAsyncConnectSocket sockfd build timeoutMs startTimer).1 = t
          at hobjects hinstalled huntimed ⊢
        have hsockets : t.untimed.sockets = _ := congrArg TcpSocketApp.sockets huntimed
        have hnotices : t.untimed.notices = _ := congrArg TcpSocketApp.notices huntimed
        have hstack : t.untimed.stack = _ := congrArg TcpSocketApp.stack huntimed
        refine ⟨hobjects ▸ Nat.lt_succ_self _, hinstalled, ?_, fun _ => ⟨?_, ?_⟩⟩
        · intro front hfront
          rw [show t.notices = s.notices from hnotices,
            orderly.noticed s.objects (Nat.le_refl _), List.prefix_nil] at hfront
          simp [hfront]
        · intro fd socket hsocket hobject
          rw [show t.sockets = _ from hsockets] at hsocket
          rw [orderly.untimed.inserted_socket hsocket hobject]
          rfl
        · intro fd
          rw [show t.stack = s.stack from hstack]
          exact orderly.noClosing runs fd _
    | false => exact absurd hobjects (Nat.ne_of_lt (Nat.lt_succ_self _))
  · cases hstep

/-- The word of a connection up to its end is that of the way it was made. -/
theorem Orderly.connectionWord {a : Action} {t u : TcpSocketApp} (orderly : s.Orderly)
    (hstep : s.step a = some t) (hobjects : t.objects = s.objects + 1)
    (hinstalled : t.installed .connection = true) (hu : Reaches step Announcing t u) :
    ConnectionWord a (untilEnd (callbacks u.notices s.objects)) := by
  have entered := step_orderly orderly hstep
  have later := reaches_orderly entered hu
  cases a with
  | accept r =>
    obtain ⟨rest, hword⟩ := accept_announced orderly hstep hobjects hinstalled ▸
      reaches_extended hu s.objects
    have inOrder := later.inOrder s.objects
    have hfirst : untilEnd (.connection :: rest) = .connection :: untilEnd rest := by
      rw [untilEnd, if_neg (by decide)]
    rw [← hword, List.singleton_append, hfirst] at inOrder
    simp only [ConnectionWord, ← hword, List.singleton_append, hfirst]
    exact inOrder.announced
  | connect sockfd established build =>
    have unannounced := hu.invariant (I := fun m => m.Unannounced s.objects)
      (connect_unannounced orderly hstep hobjects)
      fun _ _ _ hm _ hmove => hm.step (move_of_step hmove)
    exact (later.inOrder s.objects).exchange fun hmem =>
      unannounced.word ((untilEnd_isPrefix _).subset hmem)
  | asyncConnect sockfd started build timeoutMs startTimer =>
    have attempting := hu.invariant (I := fun m => m.Orderly ∧ m.Attempting s.objects)
      ⟨entered, asyncConnect_attempting orderly hstep hobjects hinstalled⟩
      fun _ _ _ hm hguard hmove => ⟨step_orderly hm.1 hmove,
        hm.2.step hm.1 hguard (move_of_step hmove)⟩
    exact (later.inOrder s.objects).attempted (attempting.2.early _ (untilEnd_isPrefix _))
  | _ => trivial

/-- What the application is told about each connection is in order up to its end: at most one
connection callback, receives and completed sends, then one end; and the word of a connection is
that of the way it was made. Nothing more is told about a connection that is left alone after its
end. -/
theorem callbacks_in_order (initSize extendSize : Nat) (h : 0 < extendSize) :
    (∀ s, Reaches step (fun _ _ => True) (init initSize extendSize h) s →
      (∀ object, InOrder (untilEnd (callbacks s.notices object))) ∧
        ∀ a t u, s.step a = some t → t.objects = s.objects + 1 →
          t.installed .connection = true → Reaches step Announcing t u →
            ConnectionWord a (untilEnd (callbacks u.notices s.objects))) ∧
      ∀ object s, Reaches step (LeftAlone object) (init initSize extendSize h) s →
        untilEnd (callbacks s.notices object) = callbacks s.notices object := by
  constructor
  · intro s hs
    have orderly := reaches_orderly (init_orderly initSize extendSize h) hs
    exact ⟨orderly.inOrder, fun a t u hstep hobjects hinstalled hu =>
      orderly.connectionWord hstep hobjects hinstalled hu⟩
  · intro object s hs
    have finished := hs.invariant (I := fun m => m.Orderly ∧ Finished object m)
      ⟨init_orderly initSize extendSize h, rfl, fun fd hframe => nomatch hframe⟩
      fun _ _ _ hm alone hstep => ⟨step_orderly hm.1 hstep, hm.2.step hm.1 alone hstep⟩
    exact finished.2.word

/-- All callbacks are set, and a listening socket becomes readable. -/
def listening : List Action :=
  [.setCallback .connection true, .setCallback .receive true, .setCallback .sendComplete true,
    .setCallback .close true, .setCallback .error true, .listen 3 true true,
    .read 3 ⟨0, true, false, false⟩ 0 .again]

/-- A request, the reply to it, and the close of the peer, in whose callback the application
closes the connection. -/
def served : List Action :=
  [.ret, .accept .again, .read 5 ⟨1, true, false, false⟩ 2 (.received [1, 2]),
    .sendMessage 5 ⟨0, [3]⟩ (.sent 1), .ret, .readBytes 5 2, .ret, .resume,
    .read 5 ⟨1, true, false, false⟩ 0 .again, .resume, .close 5, .ret]

theorem callbacks_in_order_served :
    ∃ s t u, run step listening (.init 256 64 (by decide)) = some s ∧
      s.step (.accept (.accepted 5 ⟨true, true, true⟩)) = some t ∧ run step served t = some u ∧
      callbacks u.notices 1 = [.connection, .receive, .sendComplete, .close] ∧
      Announced (callbacks u.notices 1) := by
  obtain ⟨s, hs, hsome⟩ := Option.map_eq_some_iff.mp
    (by decide +kernel : (run step listening (.init 256 64 (Nat.succ_pos 63))).map
      (fun s => (decide (s.objects = 1 ∧
          LeftAlone 1 s (.accept (.accepted 5 ⟨true, true, true⟩))),
        (s.step (.accept (.accepted 5 ⟨true, true, true⟩))).map fun t =>
          (decide (t.objects = 2 ∧ t.installed .connection = true ∧
            Guarded step (LeftAlone 1) served t ∧ Guarded step Announcing served t),
            (run step served t).map fun u => callbacks u.notices 1))) =
        some (true, some (true, some [.connection, .receive, .sendComplete, .close])))
  simp only [Prod.mk.injEq, decide_eq_true_eq] at hsome
  obtain ⟨⟨hone, hguard⟩, hentry⟩ := hsome
  obtain ⟨t, ht, hentry⟩ := Option.map_eq_some_iff.mp hentry
  simp only [Prod.mk.injEq, decide_eq_true_eq] at hentry
  obtain ⟨⟨htwo, hinstalled, halone, hannouncing⟩, hrun⟩ := hentry
  obtain ⟨u, hu, hword⟩ := Option.map_eq_some_iff.mp hrun
  obtain ⟨hall, hfinished⟩ := callbacks_in_order 256 64 (by decide)
  have hbefore : Reaches step (LeftAlone 1) (.init 256 64 (by decide)) s :=
    Reaches.refl.run (by decide +kernel) hs
  have hwhole := hfinished 1 u (((hbefore.snoc _ hguard ht)).run halone hu)
  have hannounced := (hall s (reaches_of_run hs)).2 _ t u ht (by rw [htwo, hone]) hinstalled
    (Reaches.refl.run hannouncing hu)
  rw [hone, hwhole] at hannounced
  exact ⟨s, t, u, hs, ht, hu, hword, hannounced⟩

/-- A handler that reports the close of the peer leaves the connection in the tables, and is not
going to close it; the handlers that report an error are (`failConnection`). -/
theorem close_leaves {sockfd : Int} {object : Nat} {rest : List Frame}
    (hstack : s.stack = .received sockfd object true :: rest)
    (hstep : s.step .resume = some s') :
    s'.connections = s.connections ∧ s'.sockets = s.sockets ∧
      ∀ frame ∈ s'.stack, frame = .callback ∨ frame ∈ rest := by
  rw [step, resume, hstack] at hstep
  dsimp only at hstep
  rw [if_pos rfl] at hstep
  obtain rfl := Option.some.inj hstep
  refine ⟨notify_connections _ _, notify_sockets _ _, fun frame hframe => ?_⟩
  by_cases hcallback : frame = .callback
  · exact Or.inl hcallback
  · exact Or.inr (mem_notify_stack hcallback hframe)

/-- Where the application does not close the connection then, or sends in the callback of an error,
more is told after the end: a close again, an error, an error again. -/
example :
    [[.ret, .accept .again, .read 5 ⟨1, true, false, false⟩ 0 .again, .resume, .ret,
        .read 5 ⟨1, true, false, false⟩ 0 .again, .resume],
      [.ret, .accept .again, .read 5 ⟨1, true, false, false⟩ 0 .again, .resume, .ret,
        .error 5 ⟨1, false, false, true⟩ 104],
      [.ret, .accept .again, .error 5 ⟨1, false, false, true⟩ 104,
        .sendMessage 5 ⟨0, [3]⟩ (.failed 32)]].map
      (fun actions => (run step (listening ++ .accept (.accepted 5 ⟨true, true, true⟩) :: actions)
        (.init 256 64 (by decide))).map fun s => callbacks s.notices 1) =
    [some [.connection, .close, .close], some [.connection, .close, .error],
      some [.connection, .error, .error]] := by
  decide +kernel

/-- A connection of `Connect` that receives, a connect that fails, and one whose first message is
sent before `OnConnectWrite` comes. -/
def unannounced : List Action :=
  [.setCallback .connection true, .setCallback .receive true, .setCallback .sendComplete true,
    .setCallback .error true, .connect 4 true ⟨true, true, true⟩,
    .asyncConnect 5 true ⟨true, true, true⟩ 0 true, .asyncConnect 6 true ⟨true, true, true⟩ 0 true,
    .read 4 ⟨0, true, false, false⟩ 1 (.received [1]), .ret, .resume, .finishConnect 1 false,
    .error 5 ⟨1, false, true, true⟩ 111, .ret, .resume, .finishConnect 2 true,
    .sendMessage 6 ⟨0, [2]⟩ (.sent 1), .ret, .write 6 ⟨2, false, true, false⟩ (.sent 0)]

/-- The words of three connections of one run, none of which starts with the connection
callback. -/
theorem callbacks_unannounced :
    ¬ ∀ s, Reaches step (fun _ _ => True) (.init 256 64 (by decide)) s → ∀ object ∈ [0, 1, 2],
      callbacks s.notices object = [] ∨ Announced (callbacks s.notices object) := by
  intro hall
  obtain ⟨s, hs, hwords⟩ := Option.map_eq_some_iff.mp
    (by decide +kernel : (run step unannounced (.init 256 64 (Nat.succ_pos 63))).map
      (fun s => [0, 1, 2].map (callbacks s.notices)) =
        some [[.receive], [.error], [.sendComplete, .connection]])
  simp only [List.map_cons, List.map_nil, List.cons.injEq] at hwords
  rcases hall s (reaches_of_run hs) 0 (by simp) with hempty | ⟨rest, hword, -⟩
  · simp [hwords.1] at hempty
  · simp [hwords.1] at hword

end TcpSocketApp

end Mysya
