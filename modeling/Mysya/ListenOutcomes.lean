import Mysya.ListenService

/-!
# Listen outcomes

What the application is told of its `Listen` calls, and on which loop. `BuildListenSocket` queues
`OnHandleListened` on the network event loop of its agent, and `OnListenError` queues it again
where the socket has failed; all other callbacks are right.
-/

namespace Mysya

open GuardedRuns

theorem takeWakeup_spec {loop : Nat} {wakeups rest : List ListenWakeup} {wakeup : ListenWakeup}
    (h : takeWakeup loop wakeups = some (wakeup, rest)) :
    wakeup.loop = loop ∧ wakeups.Perm (wakeup :: rest) := by
  induction wakeups generalizing rest with
  | nil => cases h
  | cons first wakeups ih =>
    rw [takeWakeup] at h
    split at h
    · rename_i hloop
      cases h
      exact ⟨hloop, .refl _⟩
    · obtain ⟨⟨taken, others⟩, htaken, heq⟩ := Option.map_eq_some_iff.mp h
      cases heq
      obtain ⟨hloop, hperm⟩ := ih htaken
      exact ⟨hloop, (hperm.cons first).trans (.swap _ _ _)⟩

theorem takeWakeup_of_mem {loop : Nat} {wakeups : List ListenWakeup} {wakeup : ListenWakeup}
    (hin : wakeup ∈ wakeups) (hloop : wakeup.loop = loop) :
    ∃ taken, takeWakeup loop wakeups = some taken := by
  induction wakeups with
  | nil => cases hin
  | cons first wakeups ih =>
    rw [takeWakeup]
    split
    · exact ⟨_, rfl⟩
    · rename_i hfirst
      rcases List.mem_cons.mp hin with rfl | hin
      · exact absurd hloop hfirst
      · obtain ⟨taken, htaken⟩ := ih hin
        exact ⟨_, congrArg _ htaken⟩

/-- What waits on a loop. -/
def waitingOn (loop : Nat) (wakeups : List ListenWakeup) : List ListenWakeup :=
  wakeups.filter fun wakeup => wakeup.loop == loop

theorem length_waitingOn {loop : Nat} {wakeups rest : List ListenWakeup} {wakeup : ListenWakeup}
    (h : takeWakeup loop wakeups = some (wakeup, rest)) :
    (waitingOn loop wakeups).length = (waitingOn loop rest).length + 1 := by
  obtain ⟨hloop, hperm⟩ := takeWakeup_spec h
  have hfilter := (hperm.filter fun wakeup => wakeup.loop == loop).length_eq
  rw [List.filter_cons, if_pos (beq_iff_eq.mpr hloop), List.length_cons] at hfilter
  exact hfilter

namespace ServiceCallback

def isListened (call : Nat) : ServiceCallback → Bool
  | .listened call' _ => call' == call
  | _ => false

def isListenError (call : Nat) : ServiceCallback → Bool
  | .listenError call' _ _ => call' == call
  | _ => false

end ServiceCallback

namespace ListenStatus

def wasBuilt : ListenStatus → Bool
  | .built => true
  | .failed => true
  | _ => false

/-- The socket was not built, or has failed since. -/
def isFailure : ListenStatus → Bool
  | .refused => true
  | .failed => true
  | _ => false

end ListenStatus

def ListenCalls.succeed (calls : ListenCalls) : Bool :=
  calls.setReuseAddr && calls.setTcpNoDelay && calls.bind && calls.listen && calls.setNonblock &&
    calls.attach

namespace ListenService

variable {s t s' : ListenService} {agent address : Nat} {socket : ListenSocket}
  {calls : ListenCalls} {a : Action}

def listenedCount (s : ListenService) (call : Nat) : Nat :=
  s.queued.countP fun q => q.callback.isListened call

def listenErrorCount (s : ListenService) (call : Nat) : Nat :=
  s.queued.countP fun q => q.callback.isListenError call

def OnAppLoop (s : ListenService) : Prop := ∀ q ∈ s.queued, q.loop = s.appEventLoop

/-- A call is reported once as listened if and only if its socket was built, and once as an error
where that failed or the socket has failed since. One not reported yet waits to be handled. -/
structure Reported (s : ListenService) : Prop where
  listened : ∀ call, s.listenedCount call =
    if (s.listens call).any ListenStatus.wasBuilt then 1 else 0
  listenError : ∀ call, s.listenErrorCount call =
    if (s.listens call).any ListenStatus.isFailure then 1 else 0
  waiting : ∀ call, s.listens call = some .pending → ∃ wakeup ∈ s.wakeups, ∃ socket,
    s.listenHeap wakeup.address = some socket ∧ socket.call = call

/-- No socket is built on another loop than the application's, and none that was built fails. -/
def Meets (s : ListenService) : Action → Prop
  | .handleListen loop calls => calls.succeed = true → (∃ wakeup ∈ s.wakeups, wakeup.loop = loop) →
      loop = s.appEventLoop
  | .listenError address => s.listenSockets address = none
  | _ => True

/-- What holds in every run: in particular, how often the calls are really reported. -/
structure Sound (s : ListenService) : Prop where
  loops : ∀ agent, (s.loops agent).appEventLoop = s.appEventLoop ∧
    (s.loops agent).receiveConsumerLoop = s.appEventLoop
  fresh : ∀ call, s.listenNum ≤ call → s.listens call = none
  known : ∀ address socket, s.listenHeap address = some socket → s.listens socket.call ≠ none
  distinct : ∀ address address' a b, s.listenHeap address = some a →
    s.listenHeap address' = some b → a.call = b.call → address = address'
  nodup : (s.wakeups.map ListenWakeup.address).Nodup
  wakeups : ∀ wakeup ∈ s.wakeups, wakeup.loop = (s.loops wakeup.agent).networkEventLoop ∧
    ∃ socket, s.listenHeap wakeup.address = some socket ∧ s.listens socket.call = some .pending
  waiting : ∀ call, s.listens call = some .pending → ∃ wakeup ∈ s.wakeups, ∃ socket,
    s.listenHeap wakeup.address = some socket ∧ socket.call = call
  built : ∀ address agent, s.listenSockets address = some agent → ∃ socket,
    s.listenHeap address = some socket ∧ socket.attached = true ∧
      s.listens socket.call = some .built
  attached : ∀ address socket, s.listenHeap address = some socket → socket.attached = true →
    (s.listenSockets address).isSome
  listened : ∀ call, s.listenedCount call = match s.listens call with
    | some .built => 1
    | some .failed => 2
    | _ => 0
  listenError : ∀ call, s.listenErrorCount call = match s.listens call with
    | some .refused => 1
    | _ => 0

theorem init_sound (appEventLoop : Nat) (threads : List Nat) (now : Timestamp)
    (timerIds : Nat → Int) : (init appEventLoop threads now timerIds).Sound where
  loops := fun _ => ⟨rfl, rfl⟩
  fresh := fun _ _ => rfl
  known := fun _ _ h => by cases h
  distinct := fun _ _ _ _ h => by cases h
  nodup := List.nodup_nil
  wakeups := fun _ h => by cases h
  waiting := fun _ h => by cases h
  built := fun _ _ h => by cases h
  attached := fun _ _ h => by cases h
  listened := fun _ => rfl
  listenError := fun _ => rfl

/-- The reports are right unless a socket has failed. -/
theorem Sound.reported_iff (h : s.Sound) :
    s.Reported ↔ ∀ call, s.listens call ≠ some .failed := by
  constructor
  · intro hreported call hfailed
    have hlistened := h.listened call
    rw [hreported.listened, hfailed] at hlistened
    cases hlistened
  · intro hnone
    refine ⟨fun call => ?_, fun call => ?_, h.waiting⟩
    · rw [h.listened]
      have hcall := hnone call
      cases hstatus : s.listens call with
      | none => rfl
      | some status =>
        cases status with
        | failed => exact absurd hstatus hcall
        | _ => rfl
    · rw [h.listenError]
      have hcall := hnone call
      cases hstatus : s.listens call with
      | none => rfl
      | some status =>
        cases status with
        | failed => exact absurd hstatus hcall
        | _ => rfl

/-- Only the connections are another, and what is queued is not about listening. -/
structure SameListens (s t : ListenService) : Prop where
  appEventLoop : t.appEventLoop = s.appEventLoop
  loops : t.loops = s.loops
  listenHeap : t.listenHeap = s.listenHeap
  listenSockets : t.listenSockets = s.listenSockets
  wakeups : t.wakeups = s.wakeups
  listenNum : t.listenNum = s.listenNum
  listens : t.listens = s.listens
  queued : ∃ new, t.queued = new ++ s.queued ∧ ∀ q ∈ new, q.loop = s.appEventLoop ∧
    ∀ call, q.callback.isListened call = false ∧ q.callback.isListenError call = false

theorem Sound.same (h : s.Sound) (hsame : SameListens s t) : t.Sound := by
  obtain ⟨happ, hloops, hheap, hsockets, hwakeups, hnum, hlistens, new, hqueued, hnew⟩ := hsame
  have hlistened : ∀ call, t.listenedCount call = s.listenedCount call := by
    intro call
    rw [listenedCount, hqueued, List.countP_append,
      List.countP_eq_zero.mpr fun q hq => by rw [((hnew q hq).2 call).1]; decide, Nat.zero_add]
    rfl
  have hlistenError : ∀ call, t.listenErrorCount call = s.listenErrorCount call := by
    intro call
    rw [listenErrorCount, hqueued, List.countP_append,
      List.countP_eq_zero.mpr fun q hq => by rw [((hnew q hq).2 call).2]; decide, Nat.zero_add]
    rfl
  exact {
    loops := by rw [happ, hloops]; exact h.loops
    fresh := by rw [hnum, hlistens]; exact h.fresh
    known := by rw [hheap, hlistens]; exact h.known
    distinct := by rw [hheap]; exact h.distinct
    nodup := by rw [hwakeups]; exact h.nodup
    wakeups := by rw [hwakeups, hloops, hheap, hlistens]; exact h.wakeups
    waiting := by rw [hlistens, hwakeups, hheap]; exact h.waiting
    built := by rw [hsockets, hheap, hlistens]; exact h.built
    attached := by rw [hheap, hsockets]; exact h.attached
    listened := fun call => by rw [hlistened, hlistens]; exact h.listened call
    listenError := fun call => by rw [hlistenError, hlistens]; exact h.listenError call }

theorem OnAppLoop.same (h : s.OnAppLoop) (hsame : SameListens s t) : t.OnAppLoop := by
  obtain ⟨happ, _, _, _, _, _, _, new, hqueued, hnew⟩ := hsame
  intro q hq
  rw [hqueued, List.mem_append] at hq
  rw [happ]
  rcases hq with hq | hq
  · exact (hnew q hq).1
  · exact h q hq

/-- `address` gets rid of its socket or has it attached, and the call that made it has a status. -/
def settle (s : ListenService) (wakeups : List ListenWakeup) (address call : Nat)
    (left : Option (ListenSocket × Nat)) (status : ListenStatus) (q : QueuedCallback) :
    ListenService :=
  { s with
    wakeups := wakeups
    listenHeap := Function.update s.listenHeap address (left.map Prod.fst)
    listenSockets := Function.update s.listenSockets address (left.map Prod.snd)
    queued := q :: s.queued
    listens := Function.update s.listens call (some status) }

theorem buildListenSocket_of_succeed (hnone : s.listenSockets address = none)
    (hsucceed : calls.succeed = true) :
    s.buildListenSocket agent address socket calls =
      ({ s with
          listenHeap := Function.update s.listenHeap address (some { socket with attached := true })
          listenSockets := Function.update s.listenSockets address (some agent)
          queued := ⟨(s.loops agent).networkEventLoop, .listened socket.call socket.sockfd⟩ ::
            s.queued }, none) := by
  simp only [ListenCalls.succeed, Bool.and_eq_true] at hsucceed
  obtain ⟨⟨⟨⟨⟨hreuse, hdelay⟩, hbind⟩, hlisten⟩, hnonblock⟩, hattach⟩ := hsucceed
  simp [buildListenSocket, hnone, hreuse, hdelay, hbind, hlisten, hnonblock, hattach, pushCallbacks]

theorem buildListenSocket_of_not_succeed (hnone : s.listenSockets address = none)
    (hsucceed : ¬ calls.succeed = true) :
    s.buildListenSocket agent address socket calls = (s, some calls.errno) := by
  simp only [ListenCalls.succeed, Bool.and_eq_true] at hsucceed
  rw [buildListenSocket, hnone]
  grind

theorem onHandleListen_of_succeed (rest : List ListenWakeup)
    (hnone : s.listenSockets address = none) (hsucceed : calls.succeed = true) :
    { s with wakeups := rest }.onHandleListen agent address socket calls =
      s.settle rest address socket.call (some ({ socket with attached := true }, agent)) .built
        ⟨(s.loops agent).networkEventLoop, .listened socket.call socket.sockfd⟩ := by
  have hbuild : { s with wakeups := rest }.buildListenSocket agent address socket calls = _ :=
    buildListenSocket_of_succeed hnone hsucceed
  rw [onHandleListen, hbuild]
  rfl

theorem onHandleListen_of_not_succeed (rest : List ListenWakeup)
    (hnone : s.listenSockets address = none) (hsucceed : ¬ calls.succeed = true) :
    { s with wakeups := rest }.onHandleListen agent address socket calls =
      s.settle rest address socket.call none .refused
        ⟨(s.loops agent).appEventLoop, .listenError socket.call socket.sockfd calls.errno⟩ := by
  have hsockets : Function.update s.listenSockets address none = s.listenSockets := by
    rw [← hnone, Function.update_eq_self]
  have hbuild : { s with wakeups := rest }.buildListenSocket agent address socket calls = _ :=
    buildListenSocket_of_not_succeed hnone hsucceed
  rw [onHandleListen, hbuild, settle, Option.map_none, Option.map_none, hsockets]
  rfl

theorem onListenError_of_some (hsome : s.listenSockets address = some agent) :
    s.onListenError address socket = s.settle s.wakeups address socket.call none .failed
      ⟨(s.loops agent).appEventLoop, .listened socket.call socket.sockfd⟩ := by
  rw [onListenError, hsome]
  rfl

/-- No two sockets are those of one call. -/
theorem Sound.call_ne (h : s.Sound) {address' : Nat} {other : ListenSocket}
    (hsocket : s.listenHeap address = some socket) (hother : s.listenHeap address' = some other)
    (hne : address' ≠ address) : other.call ≠ socket.call :=
  fun heq => hne (h.distinct _ _ _ _ hother hsocket heq)

section

variable {wakeups : List ListenWakeup} {call : Nat} {left : Option (ListenSocket × Nat)}
  {status : ListenStatus} {q : QueuedCallback}

theorem settle_heap_of_ne {address' : Nat} (hne : address' ≠ address) :
    (s.settle wakeups address call left status q).listenHeap address' = s.listenHeap address' :=
  Function.update_of_ne hne _ _

/-- A socket is the one left at the address or was there before. -/
theorem settle_heap_cases {address' : Nat} {other : ListenSocket}
    (hother : (s.settle wakeups address call left status q).listenHeap address' = some other) :
    (address' = address ∧ ∃ agent, (other, agent) ∈ left) ∨
      (address' ≠ address ∧ s.listenHeap address' = some other) := by
  by_cases heq : address' = address
  · subst heq
    rw [settle] at hother
    dsimp only at hother
    rw [Function.update_self] at hother
    obtain ⟨⟨x, agent⟩, hx, rfl⟩ := Option.map_eq_some_iff.mp hother
    exact .inl ⟨rfl, agent, hx⟩
  · exact .inr ⟨heq, (settle_heap_of_ne heq).symm.trans hother⟩

theorem settle_sockets_cases {address' agent : Nat}
    (hagent : (s.settle wakeups address call left status q).listenSockets address' = some agent) :
    (address' = address ∧ ∃ other, (other, agent) ∈ left) ∨
      (address' ≠ address ∧ s.listenSockets address' = some agent) := by
  rw [settle] at hagent
  dsimp only at hagent
  rw [Function.update_apply] at hagent
  split at hagent
  · rename_i heq
    obtain ⟨⟨other, agent⟩, hx, rfl⟩ := Option.map_eq_some_iff.mp hagent
    exact .inl ⟨heq, other, hx⟩
  · rename_i hne
    exact .inr ⟨hne, hagent⟩

theorem settle_listens_self :
    (s.settle wakeups address call left status q).listens call = some status :=
  Function.update_self ..

theorem settle_listens_of_ne {call' : Nat} (hne : call' ≠ call) :
    (s.settle wakeups address call left status q).listens call' = s.listens call' :=
  Function.update_of_ne hne _ _

theorem Sound.settle (h : s.Sound) (hsocket : s.listenHeap address = some socket)
    (hwakeups : ∀ wakeup, wakeup ∈ wakeups ↔ wakeup ∈ s.wakeups ∧ wakeup.address ≠ address)
    (hnodup : (wakeups.map ListenWakeup.address).Nodup) (hstatus : status ≠ .pending)
    (hleft : ∀ x ∈ left, x.1.call = socket.call ∧ x.1.attached = true ∧ status = .built)
    (hother : ∀ call, call ≠ socket.call →
      q.callback.isListened call = false ∧ q.callback.isListenError call = false)
    (hlistened : s.listenedCount socket.call +
      (if q.callback.isListened socket.call = true then 1 else 0) = match some status with
        | some .built => 1
        | some .failed => 2
        | _ => 0)
    (hlistenError : s.listenErrorCount socket.call +
      (if q.callback.isListenError socket.call = true then 1 else 0) =
        match some status with
        | some .refused => 1
        | _ => 0) :
    (s.settle wakeups address socket.call left status q).Sound where
  loops := h.loops
  fresh := fun call hcall => by
    have hfresh := h.fresh call hcall
    rw [settle_listens_of_ne]
    · exact hfresh
    · rintro rfl
      exact h.known _ _ hsocket hfresh
  known := fun address' other hother => by
    obtain ⟨_, agent, hx⟩ | ⟨hne, hother⟩ := settle_heap_cases hother
    · rw [(hleft _ hx).1, settle_listens_self]
      exact Option.some_ne_none status
    · rw [settle_listens_of_ne (h.call_ne hsocket hother hne)]
      exact h.known address' other hother
  distinct := fun first second a b ha hb hcalls => by
    obtain ⟨hfirst, agent, hx⟩ | ⟨hfirst, ha⟩ := settle_heap_cases ha
    · obtain ⟨hsecond, agent', hy⟩ | ⟨hsecond, hb⟩ := settle_heap_cases hb
      · exact hfirst.trans hsecond.symm
      · exact absurd (hcalls.symm.trans (hleft _ hx).1) (h.call_ne hsocket hb hsecond)
    · obtain ⟨hsecond, agent', hy⟩ | ⟨hsecond, hb⟩ := settle_heap_cases hb
      · exact absurd (hcalls.trans (hleft _ hy).1) (h.call_ne hsocket ha hfirst)
      · exact h.distinct first second a b ha hb hcalls
  nodup := hnodup
  wakeups := fun wakeup hin => by
    obtain ⟨hwakeup, hne⟩ := (hwakeups wakeup).mp hin
    obtain ⟨hloop, other, hother, hpending⟩ := h.wakeups wakeup hwakeup
    refine ⟨hloop, other, (settle_heap_of_ne hne).trans hother, ?_⟩
    rw [settle_listens_of_ne (h.call_ne hsocket hother hne)]
    exact hpending
  waiting := fun call hcall => by
    have hne : call ≠ socket.call := by
      rintro rfl
      rw [settle_listens_self, Option.some.injEq] at hcall
      exact hstatus hcall
    rw [settle_listens_of_ne hne] at hcall
    obtain ⟨wakeup, hwakeup, other, hother, rfl⟩ := h.waiting call hcall
    have haddress : wakeup.address ≠ address := by
      intro heq
      rw [heq, hsocket, Option.some.injEq] at hother
      exact hne (congrArg ListenSocket.call hother).symm
    exact ⟨wakeup, (hwakeups wakeup).mpr ⟨hwakeup, haddress⟩, other,
      (settle_heap_of_ne haddress).trans hother, rfl⟩
  built := fun address' agent hagent => by
    obtain ⟨rfl, other, hx⟩ | ⟨hne, hagent⟩ := settle_sockets_cases hagent
    · obtain ⟨hcall, hattached, hbuilt⟩ := hleft _ hx
      refine ⟨other, ?_, hattached, ?_⟩
      · rw [ListenService.settle]
        dsimp only
        rw [Function.update_self, Option.map_eq_some_iff]
        exact ⟨_, hx, rfl⟩
      · rw [hcall, settle_listens_self, hbuilt]
    · obtain ⟨other, hother, hattached, hbuilt⟩ := h.built address' agent hagent
      refine ⟨other, (settle_heap_of_ne hne).trans hother, hattached, ?_⟩
      rw [settle_listens_of_ne (h.call_ne hsocket hother hne)]
      exact hbuilt
  attached := fun address' other hother hattached => by
    obtain ⟨rfl, agent, hx⟩ | ⟨hne, hother⟩ := settle_heap_cases hother
    · rw [ListenService.settle]
      dsimp only
      rw [Function.update_self, Option.mem_def.mp hx]
      rfl
    · rw [ListenService.settle]
      dsimp only
      rw [Function.update_of_ne hne]
      exact h.attached address' other hother hattached
  listened := fun call => by
    rw [listenedCount, ListenService.settle, List.countP_cons]
    by_cases heq : call = socket.call
    · subst heq
      dsimp only
      rw [Function.update_self]
      exact hlistened
    · dsimp only
      rw [Function.update_of_ne heq, (hother call heq).1]
      exact h.listened call
  listenError := fun call => by
    rw [listenErrorCount, ListenService.settle, List.countP_cons]
    by_cases heq : call = socket.call
    · subst heq
      dsimp only
      rw [Function.update_self]
      exact hlistenError
    · dsimp only
      rw [Function.update_of_ne heq, (hother call heq).2]
      exact h.listenError call

end

/-- What a step does to the listen sockets. -/
inductive Outcome (s : ListenService) : Action → ListenService → Prop where
  | same {a : Action} {t : ListenService} (meets : s.Meets a) (hsame : SameListens s t) :
      Outcome s a t
  | opened {address : Nat} {sockfd : Int} (hfree : s.listenHeap address = none) :
      Outcome s (.listen address (some sockfd)) (s.listen address (some sockfd)).1
  | built {loop : Nat} {calls : ListenCalls} {wakeup : ListenWakeup} {rest : List ListenWakeup}
      {socket : ListenSocket} (htake : takeWakeup loop s.wakeups = some (wakeup, rest))
      (hsocket : s.listenHeap wakeup.address = some socket) (hsucceed : calls.succeed = true) :
      Outcome s (.handleListen loop calls) (s.settle rest wakeup.address socket.call
        (some ({ socket with attached := true }, wakeup.agent)) .built
        ⟨(s.loops wakeup.agent).networkEventLoop, .listened socket.call socket.sockfd⟩)
  | refused {loop : Nat} {calls : ListenCalls} {wakeup : ListenWakeup} {rest : List ListenWakeup}
      {socket : ListenSocket} (htake : takeWakeup loop s.wakeups = some (wakeup, rest))
      (hsocket : s.listenHeap wakeup.address = some socket) (hsucceed : ¬ calls.succeed = true) :
      Outcome s (.handleListen loop calls) (s.settle rest wakeup.address socket.call none .refused
        ⟨(s.loops wakeup.agent).appEventLoop,
          .listenError socket.call socket.sockfd calls.errno⟩)
  | failed {address agent : Nat} {socket : ListenSocket}
      (hsocket : s.listenHeap address = some socket)
      (hagent : s.listenSockets address = some agent) :
      Outcome s (.listenError address) (s.settle s.wakeups address socket.call none .failed
        ⟨(s.loops agent).appEventLoop, .listened socket.call socket.sockfd⟩)

theorem serviceStep_same (h : s.Sound) {action : TcpService.Action}
    (hstep : s.serviceStep action = some s') : SameListens s s' := by
  rw [serviceStep] at hstep
  split at hstep
  · cases hstep
  · split at hstep
    · cases hstep
    · cases hstep
      refine ⟨rfl, rfl, rfl, rfl, rfl, rfl, rfl, _, rfl, fun q hq => ?_⟩
      obtain ⟨n, _, rfl⟩ := List.mem_map.mp hq
      refine ⟨?_, fun _ => ⟨rfl, rfl⟩⟩
      rw [← (h.loops n.agent).1]
      cases n.push with
      | _ => rfl

theorem receiveStep_same (h : s.Sound) {action : MessageQueue.Action}
    (hstep : s.receiveStep agent action = some s') : SameListens s s' := by
  rw [receiveStep] at hstep
  split at hstep
  · cases hstep
  · cases hstep
    refine ⟨rfl, rfl, rfl, rfl, rfl, rfl, rfl, _, rfl, fun q hq => ?_⟩
    obtain ⟨m, _, rfl⟩ := List.mem_map.mp hq
    exact ⟨(h.loops agent).2, fun _ => ⟨rfl, rfl⟩⟩

/-- A socket whose `OnHandleListen` waits is not built. -/
theorem Sound.taken (h : s.Sound) {loop : Nat} {wakeup : ListenWakeup} {rest : List ListenWakeup}
    (htake : takeWakeup loop s.wakeups = some (wakeup, rest))
    (hsocket : s.listenHeap wakeup.address = some socket) :
    wakeup ∈ s.wakeups ∧ s.listens socket.call = some .pending ∧
      s.listenSockets wakeup.address = none := by
  obtain ⟨_, hperm⟩ := takeWakeup_spec htake
  have hin : wakeup ∈ s.wakeups := hperm.mem_iff.mpr (List.mem_cons_self ..)
  obtain ⟨_, other, hother, hpending⟩ := h.wakeups wakeup hin
  rw [hsocket, Option.some.injEq] at hother
  subst hother
  refine ⟨hin, hpending, ?_⟩
  cases hagent : s.listenSockets wakeup.address with
  | none => rfl
  | some agent =>
    obtain ⟨other, hother, _, hbuilt⟩ := h.built _ _ hagent
    rw [hsocket, Option.some.injEq] at hother
    subst hother
    rw [hpending] at hbuilt
    cases hbuilt

theorem step_outcome (h : s.Sound) (hstep : s.step a = some s') : s.Outcome a s' := by
  cases a with
  | listen address opened =>
    rw [step] at hstep
    split at hstep
    · cases hstep
    · rename_i hguard
      cases hstep
      cases opened with
      | none => exact .same trivial ⟨rfl, rfl, rfl, rfl, rfl, rfl, rfl, [], rfl, by simp⟩
      | some sockfd =>
        refine .opened ?_
        cases hheap : s.listenHeap address with
        | none => rfl
        | some socket => exact absurd (.inr (.inl (by rw [hheap]; rfl))) hguard
  | handleListen loop calls =>
    rw [step] at hstep
    split at hstep
    · cases hstep
    · rename_i wakeup rest htake
      split at hstep
      · cases hstep
      · rename_i socket hsocket
        cases hstep
        obtain ⟨_, _, hnone⟩ := h.taken htake hsocket
        by_cases hsucceed : calls.succeed = true
        · rw [onHandleListen_of_succeed rest hnone hsucceed]
          exact .built htake hsocket hsucceed
        · rw [onHandleListen_of_not_succeed rest hnone hsucceed]
          exact .refused htake hsocket hsucceed
  | listenRead address accepted sockfd build =>
    rw [step] at hstep
    split at hstep
    · cases hstep
    · split at hstep
      · exact .same trivial (serviceStep_same h hstep)
      · cases hstep
  | listenError address =>
    rw [step] at hstep
    split at hstep
    · cases hstep
    · rename_i socket hsocket
      split at hstep
      · rename_i hattached
        cases hstep
        obtain ⟨agent, hagent⟩ := Option.isSome_iff_exists.mp (h.attached _ _ hsocket hattached)
        rw [onListenError_of_some hagent]
        exact .failed hsocket hagent
      · cases hstep
  | service action =>
    cases action with
    | accept => cases hstep
    | _ => exact .same trivial (serviceStep_same h hstep)
  | receive agent action => exact .same trivial (receiveStep_same h hstep)

theorem listen_heap_cases {address' : Nat} {sockfd : Int} {other : ListenSocket}
    (hother : (s.listen address (some sockfd)).1.listenHeap address' = some other) :
    (address' = address ∧ other = ⟨s.listenNum, sockfd, false⟩) ∨
      (address' ≠ address ∧ s.listenHeap address' = some other) := by
  change Function.update s.listenHeap address _ address' = some other at hother
  rw [Function.update_apply] at hother
  split at hother
  · rename_i heq
    exact .inl ⟨heq, (Option.some.inj hother).symm⟩
  · rename_i hne
    exact .inr ⟨hne, hother⟩

theorem Sound.call_ne_listenNum (h : s.Sound) (hsocket : s.listenHeap address = some socket) :
    socket.call ≠ s.listenNum :=
  fun heq => h.known _ _ hsocket (heq ▸ h.fresh _ (Nat.le_refl _))

theorem Sound.address_ne (h : s.Sound) (hfree : s.listenHeap address = none)
    {wakeup : ListenWakeup} (hin : wakeup ∈ s.wakeups) : wakeup.address ≠ address := by
  rintro rfl
  obtain ⟨_, other, hother, _⟩ := h.wakeups wakeup hin
  rw [hfree] at hother
  cases hother

theorem Sound.opened (h : s.Sound) (hfree : s.listenHeap address = none) (sockfd : Int) :
    (s.listen address (some sockfd)).1.Sound where
  loops := h.loops
  fresh := fun call hcall => by
    have hlater : s.listenNum + 1 ≤ call := hcall
    show Function.update s.listens s.listenNum (some .pending) call = none
    rw [Function.update_of_ne (by omega)]
    exact h.fresh call (by omega)
  known := fun address' other hother => by
    show Function.update s.listens s.listenNum (some .pending) other.call ≠ none
    rw [Function.update_apply]
    split
    · exact Option.some_ne_none _
    · rename_i hne
      obtain ⟨rfl, rfl⟩ | ⟨_, hother⟩ := listen_heap_cases hother
      · exact absurd rfl hne
      · exact h.known address' other hother
  distinct := fun first second a b ha hb hcalls => by
    obtain ⟨hfirst, rfl⟩ | ⟨_, ha⟩ := listen_heap_cases ha
    · obtain ⟨hsecond, rfl⟩ | ⟨_, hb⟩ := listen_heap_cases hb
      · exact hfirst.trans hsecond.symm
      · exact absurd hcalls.symm (h.call_ne_listenNum hb)
    · obtain ⟨_, rfl⟩ | ⟨_, hb⟩ := listen_heap_cases hb
      · exact absurd hcalls (h.call_ne_listenNum ha)
      · exact h.distinct first second a b ha hb hcalls
  nodup := by
    show ((s.wakeups ++ [_]).map ListenWakeup.address).Nodup
    rw [List.map_append, List.nodup_append]
    refine ⟨h.nodup, List.pairwise_singleton _ _, ?_⟩
    intro taken htaken new hnew
    obtain ⟨wakeup, hwakeup, rfl⟩ := List.mem_map.mp htaken
    rw [List.map_singleton, List.mem_singleton] at hnew
    rw [hnew]
    exact h.address_ne hfree hwakeup
  wakeups := fun wakeup hin => by
    rcases List.mem_append.mp hin with hin | hin
    · obtain ⟨hloop, other, hother, hpending⟩ := h.wakeups wakeup hin
      refine ⟨hloop, other, ?_, ?_⟩
      · show Function.update s.listenHeap address _ wakeup.address = some other
        rw [Function.update_of_ne (h.address_ne hfree hin)]
        exact hother
      · show Function.update s.listens s.listenNum _ other.call = some .pending
        rw [Function.update_of_ne (h.call_ne_listenNum hother)]
        exact hpending
    · rw [List.mem_singleton.mp hin]
      exact ⟨rfl, _, Function.update_self .., Function.update_self ..⟩
  waiting := fun call hcall => by
    change Function.update s.listens s.listenNum (some .pending) call = some .pending at hcall
    rw [Function.update_apply] at hcall
    split at hcall
    · rename_i heq
      exact ⟨_, List.mem_append_right _ (List.mem_singleton_self _), _, Function.update_self ..,
        heq.symm⟩
    · obtain ⟨wakeup, hwakeup, other, hother, heq⟩ := h.waiting call hcall
      refine ⟨wakeup, List.mem_append_left _ hwakeup, other, ?_, heq⟩
      show Function.update s.listenHeap address _ wakeup.address = some other
      rw [Function.update_of_ne (h.address_ne hfree hwakeup)]
      exact hother
  built := fun address' agent hagent => by
    obtain ⟨other, hother, hattached, hbuilt⟩ := h.built address' agent hagent
    refine ⟨other, ?_, hattached, ?_⟩
    · show Function.update s.listenHeap address _ address' = some other
      rw [Function.update_of_ne]
      · exact hother
      · rintro rfl
        rw [hfree] at hother
        cases hother
    · show Function.update s.listens s.listenNum _ other.call = some .built
      rw [Function.update_of_ne (h.call_ne_listenNum hother)]
      exact hbuilt
  attached := fun address' other hother hattached => by
    obtain ⟨_, rfl⟩ | ⟨_, hother⟩ := listen_heap_cases hother
    · cases hattached
    · exact h.attached address' other hother hattached
  listened := fun call => by
    show s.listenedCount call = match
      Function.update s.listens s.listenNum (some .pending) call with
      | some .built => 1
      | some .failed => 2
      | _ => 0
    have hcount := h.listened call
    by_cases heq : call = s.listenNum
    · subst heq
      rw [h.fresh _ (Nat.le_refl _)] at hcount
      rw [Function.update_self]
      exact hcount
    · rw [Function.update_of_ne heq]
      exact hcount
  listenError := fun call => by
    show s.listenErrorCount call = match
      Function.update s.listens s.listenNum (some .pending) call with
      | some .refused => 1
      | _ => 0
    have hcount := h.listenError call
    by_cases heq : call = s.listenNum
    · subst heq
      rw [h.fresh _ (Nat.le_refl _)] at hcount
      rw [Function.update_self]
      exact hcount
    · rw [Function.update_of_ne heq]
      exact hcount

/-- The wakeups left are those of the other sockets. -/
theorem Sound.rest (h : s.Sound) {loop : Nat} {wakeup : ListenWakeup} {rest : List ListenWakeup}
    (htake : takeWakeup loop s.wakeups = some (wakeup, rest)) :
    (∀ other, other ∈ rest ↔ other ∈ s.wakeups ∧ other.address ≠ wakeup.address) ∧
      (rest.map ListenWakeup.address).Nodup := by
  obtain ⟨_, hperm⟩ := takeWakeup_spec htake
  have hnodup := (hperm.map ListenWakeup.address).nodup_iff.mp h.nodup
  rw [List.map_cons, List.nodup_cons] at hnodup
  refine ⟨fun other => ?_, hnodup.2⟩
  rw [hperm.mem_iff, List.mem_cons]
  constructor
  · intro hin
    exact ⟨.inr hin, fun heq => hnodup.1 (heq ▸ List.mem_map_of_mem hin)⟩
  · rintro ⟨rfl | hin, hne⟩
    · exact absurd rfl hne
    · exact hin

theorem isListened_other {call call' : Nat} (sockfd : Int) (hne : call' ≠ call) :
    (ServiceCallback.listened call sockfd).isListened call' = false ∧
      (ServiceCallback.listened call sockfd).isListenError call' = false :=
  ⟨beq_false_of_ne hne.symm, rfl⟩

theorem isListenError_other {call call' : Nat} (sockfd errno : Int) (hne : call' ≠ call) :
    (ServiceCallback.listenError call sockfd errno).isListened call' = false ∧
      (ServiceCallback.listenError call sockfd errno).isListenError call' = false :=
  ⟨rfl, beq_false_of_ne hne.symm⟩

theorem Sound.outcome (h : s.Sound) (houtcome : s.Outcome a t) : t.Sound := by
  cases houtcome with
  | same _ hsame => exact h.same hsame
  | opened hfree => exact h.opened hfree _
  | @built loop calls wakeup rest socket htake hsocket hsucceed =>
    obtain ⟨_, hpending, _⟩ := h.taken htake hsocket
    obtain ⟨hrest, hnodup⟩ := h.rest htake
    refine h.settle hsocket hrest hnodup (by decide) ?_ (fun _ => isListened_other _) ?_ ?_
    · rintro x hx
      cases hx
      exact ⟨rfl, rfl, rfl⟩
    · rw [h.listened, hpending]
      simp [ServiceCallback.isListened]
    · rw [h.listenError, hpending]
      rfl
  | @refused loop calls wakeup rest socket htake hsocket hsucceed =>
    obtain ⟨_, hpending, _⟩ := h.taken htake hsocket
    obtain ⟨hrest, hnodup⟩ := h.rest htake
    refine h.settle hsocket hrest hnodup (by decide) ?_ (fun _ => isListenError_other _ _) ?_ ?_
    · rintro x hx
      cases hx
    · rw [h.listened, hpending]
      rfl
    · rw [h.listenError, hpending]
      simp [ServiceCallback.isListenError]
  | @failed address agent socket hsocket hagent =>
    obtain ⟨other, hother, _, hbuilt⟩ := h.built _ _ hagent
    rw [hsocket, Option.some.injEq] at hother
    subst hother
    refine h.settle hsocket ?_ h.nodup (by decide) ?_ (fun _ => isListened_other _) ?_ ?_
    · intro wakeup
      refine ⟨fun hin => ⟨hin, ?_⟩, And.left⟩
      rintro rfl
      obtain ⟨_, other, hother, hpending⟩ := h.wakeups wakeup hin
      rw [hsocket, Option.some.injEq] at hother
      subst hother
      rw [hbuilt] at hpending
      cases hpending
    · rintro x hx
      cases hx
    · rw [h.listened, hbuilt]
      simp [ServiceCallback.isListened]
    · rw [h.listenError, hbuilt]
      rfl

theorem settle_onAppLoop_iff (honly : s.OnAppLoop) {wakeups : List ListenWakeup} {call : Nat}
    {left : Option (ListenSocket × Nat)} {status : ListenStatus} {q : QueuedCallback} :
    (s.settle wakeups address call left status q).OnAppLoop ↔ q.loop = s.appEventLoop := by
  constructor
  · intro hsettled
    exact hsettled q (List.mem_cons_self ..)
  · intro hloop other hother
    rcases List.mem_cons.mp hother with rfl | hother
    · exact hloop
    · exact honly other hother

theorem settle_not_failed (hnone : ∀ call, s.listens call ≠ some .failed)
    {wakeups : List ListenWakeup} {call : Nat} {left : Option (ListenSocket × Nat)}
    {status : ListenStatus} {q : QueuedCallback} (hstatus : status ≠ .failed) (call' : Nat) :
    (s.settle wakeups address call left status q).listens call' ≠ some .failed := by
  by_cases heq : call' = call
  · subst heq
    rw [settle_listens_self]
    exact fun hfailed => hstatus (Option.some.inj hfailed)
  · rw [settle_listens_of_ne heq]
    exact hnone call'

/-- After a step the callbacks are on the application's loop and the reports right if and only if
it meets the condition. -/
theorem Sound.outcome_iff (h : s.Sound) (honly : s.OnAppLoop) (hreported : s.Reported)
    (houtcome : s.Outcome a t) : t.OnAppLoop ∧ t.Reported ↔ s.Meets a := by
  have hsound := h.outcome houtcome
  have hnone := h.reported_iff.mp hreported
  rw [hsound.reported_iff]
  cases houtcome with
  | same hmeets hsame =>
    refine ⟨fun _ => hmeets, fun _ => ⟨honly.same hsame, ?_⟩⟩
    rw [hsame.listens]
    exact hnone
  | opened hfree =>
    refine ⟨fun _ => trivial, fun _ => ⟨honly, fun call hfailed => ?_⟩⟩
    change Function.update s.listens s.listenNum (some .pending) call = some .failed at hfailed
    rw [Function.update_apply] at hfailed
    split at hfailed
    · cases hfailed
    · exact hnone call hfailed
  | @built loop calls wakeup rest socket htake hsocket hsucceed =>
    obtain ⟨hin, _, _⟩ := h.taken htake hsocket
    have hloop := (takeWakeup_spec htake).1
    rw [settle_onAppLoop_iff honly, ← (h.wakeups wakeup hin).1, hloop]
    constructor
    · rintro ⟨happ, _⟩ _ _
      exact happ
    · intro hmeets
      exact ⟨hmeets hsucceed ⟨wakeup, hin, hloop⟩, settle_not_failed hnone (by decide)⟩
  | @refused loop calls wakeup rest socket htake hsocket hsucceed =>
    rw [settle_onAppLoop_iff honly]
    refine ⟨fun _ hsucceed' => absurd hsucceed' hsucceed, fun _ => ⟨?_, ?_⟩⟩
    · exact (h.loops wakeup.agent).1
    · exact settle_not_failed hnone (by decide)
  | @failed address agent socket hsocket hagent =>
    constructor
    · rintro ⟨_, hnot⟩
      exact absurd settle_listens_self (hnot socket.call)
    · intro hmeets
      rw [Meets, hagent] at hmeets
      cases hmeets

/-- A wakeup that waits on a loop can be handled there. -/
theorem Sound.handleListen_some (h : s.Sound) {loop : Nat} {wakeup : ListenWakeup}
    (hin : wakeup ∈ s.wakeups) (hloop : wakeup.loop = loop) (calls : ListenCalls) :
    ∃ taken s', takeWakeup loop s.wakeups = some (taken, s'.wakeups) ∧
      s.step (.handleListen loop calls) = some s' := by
  obtain ⟨⟨taken, rest⟩, htake⟩ := takeWakeup_of_mem hin hloop
  have htaken : taken ∈ s.wakeups :=
    (takeWakeup_spec htake).2.mem_iff.mpr (List.mem_cons_self ..)
  obtain ⟨_, socket, hsocket, _⟩ := h.wakeups taken htaken
  obtain ⟨_, _, hnone⟩ := h.taken htake hsocket
  refine ⟨taken, { s with wakeups := rest }.onHandleListen taken.agent taken.address socket calls,
    ?_, ?_⟩
  · by_cases hsucceed : calls.succeed = true
    · rw [onHandleListen_of_succeed rest hnone hsucceed]
      exact htake
    · rw [onHandleListen_of_not_succeed rest hnone hsucceed]
      exact htake
  · rw [step, htake]
    dsimp only
    rw [hsocket]

theorem Sound.step_iff (h : s.Sound) (honly : s.OnAppLoop) (hreported : s.Reported) (a : Action) :
    (∀ s', s.step a = some s' → s'.OnAppLoop ∧ s'.Reported) ↔ s.Meets a := by
  cases hstep : s.step a with
  | some s' =>
    rw [← h.outcome_iff honly hreported (step_outcome h hstep)]
    constructor
    · intro hall
      exact hall s' rfl
    · rintro hreports _ ⟨⟩
      exact hreports
  | none =>
    refine ⟨fun _ => ?_, fun _ _ hsome => by cases hsome⟩
    cases a with
    | handleListen loop calls =>
      rintro _ ⟨wakeup, hin, hloop⟩
      obtain ⟨_, _, _, hsome⟩ := h.handleListen_some hin hloop calls
      rw [hstep] at hsome
      cases hsome
    | listenError address =>
      rw [Meets]
      cases hagent : s.listenSockets address with
      | none => rfl
      | some agent =>
        obtain ⟨socket, hsocket, hattached, _⟩ := h.built _ _ hagent
        rw [step, hsocket] at hstep
        dsimp only at hstep
        rw [if_pos hattached] at hstep
        cases hstep
    | _ => trivial

theorem Sound.reached (h : s.Sound) {acts : List Action} (hrun : run step acts s = some s') :
    s'.Sound :=
  (reaches_of_run hrun).invariant h fun _ _ _ h _ hstep => h.outcome (step_outcome h hstep)

/-- A loop that goes on handles all that waits on it. -/
theorem Sound.handled (h : s.Sound) {loop : Nat} {calls : List ListenCalls}
    (hlength : calls.length = (waitingOn loop s.wakeups).length) :
    ∃ s', run step (calls.map (Action.handleListen loop)) s = some s' ∧
      waitingOn loop s'.wakeups = [] := by
  induction calls generalizing s with
  | nil => exact ⟨s, rfl, List.length_eq_zero_iff.mp hlength.symm⟩
  | cons first calls ih =>
    have hpositive : 0 < (waitingOn loop s.wakeups).length := by
      rw [← hlength]
      exact Nat.succ_pos _
    obtain ⟨wakeup, hwaits⟩ := List.exists_mem_of_length_pos hpositive
    obtain ⟨hin, hloop⟩ := List.mem_filter.mp hwaits
    obtain ⟨taken, t, htake, hstep⟩ := h.handleListen_some hin (beq_iff_eq.mp hloop) first
    have hrest := length_waitingOn htake
    rw [← hlength, List.length_cons] at hrest
    obtain ⟨s', hrun, hnone⟩ := ih (h.outcome (step_outcome h hstep)) (Nat.succ.inj hrest)
    refine ⟨s', ?_, hnone⟩
    rw [List.map_cons, GuardedRuns.run, hstep]
    exact hrun

/-- In every run the callbacks are queued on the application's loop and each `Listen` is reported
as it ends, if and only if no socket is built on another loop and none fails afterwards. -/
theorem listens_reported_iff (appEventLoop : Nat) (threads : List Nat) (now : Timestamp)
    (timerIds : Nat → Int) (acts : List Action) :
    ((init appEventLoop threads now timerIds).OnAppLoop ∧
      (init appEventLoop threads now timerIds).Reported) ∧
    (Guarded step (fun s a => ∀ s', s.step a = some s' → s'.OnAppLoop ∧ s'.Reported) acts
        (init appEventLoop threads now timerIds) ↔
      Guarded step Meets acts (init appEventLoop threads now timerIds)) ∧
    ∀ s, run step acts (init appEventLoop threads now timerIds) = some s →
      ∀ (loop : Nat) (calls : List ListenCalls),
        calls.length = (waitingOn loop s.wakeups).length →
        ∃ s', run step (calls.map (Action.handleListen loop)) s = some s' ∧
          waitingOn loop s'.wakeups = [] := by
  have hinit := init_sound appEventLoop threads now timerIds
  have hreported : (init appEventLoop threads now timerIds).OnAppLoop ∧
      (init appEventLoop threads now timerIds).Reported := by
    refine ⟨fun q hq => ?_, hinit.reported_iff.mpr fun call hfailed => ?_⟩
    · cases hq
    · cases hfailed
  refine ⟨hreported, ?_, fun s hrun loop calls hlength => (hinit.reached hrun).handled hlength⟩
  refine guarded_iff (I := fun s => s.Sound ∧ s.OnAppLoop ∧ s.Reported) ?_ ?_ ⟨hinit, hreported⟩
  · rintro a _ s ⟨hsound, honly, hright⟩
    exact hsound.step_iff honly hright a
  · rintro a _ s s' ⟨hsound, honly, hright⟩ hmeets hstep
    exact ⟨hsound.outcome (step_outcome hsound hstep),
      (hsound.step_iff honly hright a).mpr hmeets s' hstep⟩

instance (s : ListenService) (a : Action) : Decidable (s.Meets a) := by
  cases a <;> unfold Meets <;> infer_instance

/-- All calls of `BuildListenSocket` succeed. -/
def listenCalls : ListenCalls := ⟨true, true, true, true, true, true, 0⟩

/-- A pool whose second loop is the application's: a socket is built there and one refused. -/
theorem listens_reported_own_loop :
    Guarded step (fun s a => ∀ s', s.step a = some s' → s'.OnAppLoop ∧ s'.Reported)
      [.listen 1 none, .listen 1 (some 3), .handleListen 8 listenCalls, .listen 2 none,
        .listen 2 (some 4), .handleListen 8 ⟨true, true, false, true, true, true, 98⟩]
      (init 8 [7, 8] ⟨0, 0⟩ fun _ => 0) :=
  (listens_reported_iff 8 [7, 8] ⟨0, 0⟩ (fun _ => 0) _).2.1.mpr (by decide)

/-- A socket built on a loop of the pool is reported there, and one that fails is reported as
listened. -/
theorem listened_on_network_loop :
    (¬ ∀ appEventLoop threads now timerIds acts,
      Guarded step (fun s a => ∀ s', s.step a = some s' → s'.OnAppLoop) acts
        (init appEventLoop threads now timerIds)) ∧
    ¬ ∀ appEventLoop threads now timerIds acts,
      Guarded step (fun s a => ∀ s', s.step a = some s' → s'.Reported) acts
        (init appEventLoop threads now timerIds) := by
  constructor
  · intro hall
    have hrun := hall 8 [7] ⟨0, 0⟩ (fun _ => 0) [.listen 1 (some 3), .handleListen 7 listenCalls]
    have honly := (hrun.2 _ rfl).1 _ rfl
    exact absurd (honly _ (List.mem_cons_self ..)) (by decide)
  · intro hall
    have hrun := hall 8 [7] ⟨0, 0⟩ (fun _ => 0)
      [.listen 1 (some 3), .handleListen 7 listenCalls, .listenError 1]
    have hreported := ((hrun.2 _ rfl).2 _ rfl).1 _ rfl
    exact absurd (hreported.listenError 0) (by decide)

end ListenService

end Mysya
