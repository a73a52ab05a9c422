import Mysya.ConnectOutcomes
import Mysya.SendStream

/-!
# Outcomes of the transport agents' connects

The agents' timer maps name socket objects and are cleaned on every path, so
here a timer always belongs to a pending attempt. What is left to ask for is
that `OnAsyncConnectSocketWrite` is not run for a failed connect, about which
it asks as little as `TcpSocketApp` does.
-/

namespace Mysya

open GuardedRuns

def Push.IsOutcome : Push → Bool
  | .asyncConnected => true
  | .asyncConnectError _ => true
  | _ => false

def Push.IsSuccess : Push → Bool
  | .asyncConnected => true
  | .connected => true
  | _ => false

def pushedOutcomes (pushes : List AgentNotice) (object : Nat) : List AgentNotice :=
  outcomesOf AgentNotice.object (fun n => n.push.IsOutcome) pushes object

/-- A socket one of whose callbacks still is that of an attempt. -/
def AgentSocket.Pending (socket : AgentSocket) : Prop :=
  (∃ agent, socket.writeCallback = some (.onAsyncConnectSocketWrite agent)) ∨
    ∃ agent, socket.errorCallback = some (.onAsyncConnectError agent)

namespace TcpService

def HonestEvent (s : TcpService) (event : EpollEvent) : Prop := event.Honest s.connects

def Honest (s : TcpService) : Action → Prop
  | .read _ event _ _ _ => s.HonestEvent event
  | .write _ event _ _ => s.HonestEvent event
  | .error _ event _ => s.HonestEvent event
  | _ => True

/-- A pending attempt gets no event of another socket nor of a failed connect. -/
def OutcomeGuard (s : TcpService) : Action → Prop
  | .write address event _ _ => ∀ socket agent, s.sockets address = some socket →
      socket.writeCallback = some (.onAsyncConnectSocketWrite agent) →
      event.source = socket.object ∧ s.connects socket.object ≠ some .failed
  | _ => True

structure Settled (s : TcpService) : Prop where
  objects : ∀ address socket, s.sockets address = some socket → socket.object < s.objects
  distinct : ∀ address address' a b, s.sockets address = some a → s.sockets address' = some b →
    a.object = b.object → address = address'
  tried : ∀ object, (s.connects object).isSome → object < s.objects
  noticed : ∀ n ∈ s.pushes, n.object < s.objects
  attempted : ∀ address socket, s.sockets address = some socket → socket.Pending →
    (∃ agent, socket.writeCallback = some (.onAsyncConnectSocketWrite agent) ∧
      socket.errorCallback = some (.onAsyncConnectError agent)) ∧
    (s.connects socket.object).isSome ∧ pushedOutcomes s.pushes socket.object = []
  told : Told AgentNotice.object (fun n => n.push.IsOutcome)
    (fun n => n.push.IsSuccess = true ∧ (s.connects n.object).isSome) s.connects s.pushes
  numbered : ∀ agent t address, (s.agents agent).timerSockets t = some address →
    t ≤ (s.agents agent).timerIds
  timed : ∀ agent t address, (s.agents agent).timerSockets t = some address →
    (s.agents agent).socketTimers address = some t ∧ ∃ socket, s.sockets address = some socket ∧
      socket.writeCallback = some (.onAsyncConnectSocketWrite agent)

theorem init_settled (agentNum : Nat) : (init agentNum).Settled where
  objects := fun _ _ h => by cases h
  distinct := fun _ _ _ _ h => by cases h
  tried := fun _ h => by cases h
  noticed := fun _ h => by cases h
  attempted := fun _ _ h => by cases h
  told := told_nil
  numbered := fun _ _ _ h => by cases h
  timed := fun _ _ _ h => by cases h

/-- The agents' connect timers are the same. -/
def SameTimers (s t : TcpService) : Prop :=
  ∀ agent, (t.agents agent).timerSockets = (s.agents agent).timerSockets ∧
    (t.agents agent).socketTimers = (s.agents agent).socketTimers ∧
    (t.agents agent).timerIds = (s.agents agent).timerIds

variable {s t : TcpService}

theorem Settled.frame (h : s.Settled) (hsockets : t.sockets = s.sockets)
    (hconnects : t.connects = s.connects) (hpushes : t.pushes = s.pushes)
    (hobjects : t.objects = s.objects) (htimers : SameTimers s t) : t.Settled where
  objects := by rw [hsockets, hobjects]; exact h.objects
  distinct := by rw [hsockets]; exact h.distinct
  tried := by rw [hconnects, hobjects]; exact h.tried
  noticed := by rw [hpushes, hobjects]; exact h.noticed
  attempted := by rw [hsockets, hconnects, hpushes]; exact h.attempted
  told := by rw [hpushes, hconnects]; exact h.told
  numbered := by
    intro agent timer address ht
    rw [(htimers agent).1] at ht
    rw [(htimers agent).2.2]
    exact h.numbered agent timer address ht
  timed := by
    intro agent timer address ht
    rw [(htimers agent).1] at ht
    rw [(htimers agent).2.1, hsockets]
    exact h.timed agent timer address ht

/-- A push that is no outcome; a `Connected` must be about a socket that is connected. -/
theorem Settled.pushOther (h : s.Settled) {n : AgentNotice} (hobject : n.object < s.objects)
    (hother : n.push.IsOutcome = false)
    (htrue : n.push.IsSuccess = true → (s.connects n.object).isSome →
      s.connects n.object = some .succeeded) : (s.pushWakeupCallback n).Settled :=
  { h with
    noticed := List.forall_mem_cons.mpr ⟨hobject, h.noticed⟩
    attempted := fun address socket hsocket hpending => by
      obtain ⟨hcallbacks, hconnect, hnone⟩ := h.attempted address socket hsocket hpending
      exact ⟨hcallbacks, hconnect, (outcomesOf_cons_other (n := n) (Or.inr hother) _).trans hnone⟩
    told := h.told.other hother fun hsuccess => htrue hsuccess.1 hsuccess.2 }

/-- The outcome of an object no pending socket has. -/
theorem Settled.pushOutcome (h : s.Settled) {n : AgentNotice} (hobject : n.object < s.objects)
    (hnone : pushedOutcomes s.pushes n.object = [])
    (done : ∀ address socket, s.sockets address = some socket → socket.object = n.object →
      ¬ socket.Pending)
    (htrue : n.push.IsSuccess = true → (s.connects n.object).isSome →
      s.connects n.object = some .succeeded) : (s.pushWakeupCallback n).Settled :=
  { h with
    noticed := List.forall_mem_cons.mpr ⟨hobject, h.noticed⟩
    attempted := fun address socket hsocket hpending => by
      obtain ⟨hcallbacks, hconnect, hold⟩ := h.attempted address socket hsocket hpending
      have hne : n.object ≠ socket.object :=
        fun hsame => done address socket hsocket hsame.symm hpending
      exact ⟨hcallbacks, hconnect, (outcomesOf_cons_other (n := n) (Or.inl hne) _).trans hold⟩
    told := h.told.outcome hnone fun hsuccess => htrue hsuccess.1 hsuccess.2 }

/-- No connect timer names the address. -/
def Untimed (s : TcpService) (address : Nat) : Prop :=
  ∀ agent t, (s.agents agent).timerSockets t ≠ some address

theorem Settled.untimed_of_free (h : s.Settled) {address : Nat} (hfree : s.sockets address = none) :
    s.Untimed address := by
  intro agent timer ht
  obtain ⟨_, socket, hsocket, _⟩ := h.timed agent timer address ht
  rw [hfree] at hsocket
  cases hsocket

theorem Settled.deleteSocket (h : s.Settled) {address : Nat} (untimed : s.Untimed address) :
    (s.deleteSocket address).Settled := by
  have hold : ∀ address' socket, (s.deleteSocket address).sockets address' = some socket →
      s.sockets address' = some socket :=
    fun address' socket hsocket => (Table.erase_some hsocket).2
  exact { h with
    objects := fun address' socket hsocket => h.objects address' socket (hold _ _ hsocket)
    distinct := fun _ _ a b ha hb => h.distinct _ _ a b (hold _ _ ha) (hold _ _ hb)
    attempted := fun address' socket hsocket => h.attempted address' socket (hold _ _ hsocket)
    timed := fun agent timer address' ht => by
      obtain ⟨hentry, socket, hsocket, hwrite⟩ := h.timed agent timer address' ht
      refine ⟨hentry, socket, ?_, hwrite⟩
      have hne : address' ≠ address := by
        rintro rfl
        exact untimed agent timer ht
      exact (Function.update_of_ne hne _ _).trans hsocket }

theorem Settled.removeTimer (h : s.Settled) (agent address : Nat) :
    (s.removeAsyncConnectSocketTimer agent address).Settled := by
  unfold TcpService.removeAsyncConnectSocketTimer
  dsimp only
  split
  · exact h
  · rename_i timerId hentry
    have hagents : ∀ i, i ≠ agent → ∀ a, Function.update s.agents agent a i = s.agents i :=
      fun i hi a => Function.update_of_ne hi _ _
    exact { h with
      numbered := fun i timer address' ht => by
        have hupdate : (Function.update s.agents agent _ i).timerSockets timer = some address' := ht
        show timer ≤ (Function.update s.agents agent _ i).timerIds
        by_cases hi : i = agent
        · subst hi
          rw [Function.update_self] at hupdate ⊢
          exact Table.erase_all (h.numbered i) timerId timer address' hupdate
        · rw [hagents i hi] at hupdate ⊢
          exact h.numbered i timer address' hupdate
      timed := fun i timer address' ht => by
        have hupdate : (Function.update s.agents agent _ i).timerSockets timer = some address' := ht
        show (Function.update s.agents agent _ i).socketTimers address' = some timer ∧ _
        by_cases hi : i = agent
        · subst hi
          rw [Function.update_self] at hupdate ⊢
          have hkept : Function.update (s.agents i).timerSockets timerId none timer = some address' :=
            hupdate
          obtain ⟨hne, hold⟩ := Table.erase_some hkept
          obtain ⟨hentry', hsocket⟩ := h.timed i timer address' hold
          refine ⟨?_, hsocket⟩
          have haddress : address' ≠ address := by
            rintro rfl
            rw [hentry] at hentry'
            exact hne (Option.some.inj hentry').symm
          exact (Function.update_of_ne haddress _ _).trans hentry'
        · rw [hagents i hi] at hupdate ⊢
          exact h.timed i timer address' hupdate }

/-- With its timer removed, a socket pending at an agent is named by no timer. -/
theorem Settled.removeTimer_untimed (h : s.Settled) {agent address : Nat} {socket : AgentSocket}
    (hsocket : s.sockets address = some socket)
    (hwrite : socket.writeCallback = some (.onAsyncConnectSocketWrite agent)) :
    (s.removeAsyncConnectSocketTimer agent address).Untimed address := by
  have hown : ∀ i timer, (s.agents i).timerSockets timer = some address →
      i = agent ∧ (s.agents agent).socketTimers address = some timer := by
    intro i timer ht
    obtain ⟨hentry, socket', hsocket', hwrite'⟩ := h.timed i timer address ht
    rw [hsocket] at hsocket'
    cases hsocket'
    rw [hwrite] at hwrite'
    cases hwrite'
    exact ⟨rfl, hentry⟩
  intro i timer ht
  unfold TcpService.removeAsyncConnectSocketTimer at ht
  dsimp only at ht
  split at ht
  · rename_i hnone
    rw [(hown i timer ht).2] at hnone
    cases hnone
  · rename_i timerId hentry
    have hupdate : (Function.update s.agents agent _ i).timerSockets timer = some address := ht
    by_cases hi : i = agent
    · subst hi
      rw [Function.update_self] at hupdate
      have hkept : Function.update (s.agents i).timerSockets timerId none timer = some address :=
        hupdate
      obtain ⟨hne, hold⟩ := Table.erase_some hkept
      rw [(hown i timer hold).2] at hentry
      exact hne (Option.some.inj hentry)
    · rw [Function.update_of_ne hi] at hupdate
      exact hi (hown i timer hupdate).1

theorem removeTimer_rest (s : TcpService) (agent address : Nat) :
    (s.removeAsyncConnectSocketTimer agent address).sockets = s.sockets ∧
    (s.removeAsyncConnectSocketTimer agent address).connects = s.connects ∧
    (s.removeAsyncConnectSocketTimer agent address).pushes = s.pushes ∧
    (s.removeAsyncConnectSocketTimer agent address).objects = s.objects := by
  unfold removeAsyncConnectSocketTimer
  dsimp only
  split <;> exact ⟨rfl, rfl, rfl, rfl⟩

theorem Settled.newObject (h : s.Settled) (connects : Nat → Option ConnectStatus)
    (hconnects : ∀ o, o ≠ s.objects → connects o = s.connects o) :
    Settled { s with objects := s.objects + 1, connects := connects } :=
  { h with
    objects := fun address socket hsocket => Nat.lt_succ_of_lt (h.objects address socket hsocket)
    tried := fun object hobject => by
      show object < s.objects + 1
      by_cases hnew : object = s.objects
      · omega
      · have hold : (connects object).isSome := hobject
        rw [hconnects object hnew] at hold
        have := h.tried object hold
        omega
    noticed := fun n hn => Nat.lt_succ_of_lt (h.noticed n hn)
    attempted := fun address socket hsocket hpending => by
      obtain ⟨hcallbacks, hconnect, hnone⟩ := h.attempted address socket hsocket hpending
      refine ⟨hcallbacks, ?_, hnone⟩
      show (connects socket.object).isSome
      rw [hconnects _ (Nat.ne_of_lt (h.objects address socket hsocket))]
      exact hconnect
    told := ⟨h.told.once, fun n hn ⟨hsuccess, hconnect⟩ => by
      have hsame := hconnects _ (Nat.ne_of_lt (h.noticed n hn))
      have hconnect : (connects n.object).isSome := hconnect
      show connects n.object = some .succeeded
      rw [hsame] at hconnect ⊢
      exact h.told.truthful n hn ⟨hsuccess, hconnect⟩⟩ }

/-- A socket put where no timer looks, whose object no other socket has. -/
theorem Settled.setSocket (h : s.Settled) (address : Nat) (socket : AgentSocket)
    (hobject : socket.object < s.objects)
    (unused : ∀ address' other, s.sockets address' = some other →
      other.object = socket.object → address' = address)
    (hpending : socket.Pending →
      (∃ agent, socket.writeCallback = some (.onAsyncConnectSocketWrite agent) ∧
        socket.errorCallback = some (.onAsyncConnectError agent)) ∧
      (s.connects socket.object).isSome ∧ pushedOutcomes s.pushes socket.object = [])
    (untimed : s.Untimed address) : (s.setSocket address socket).Settled := by
  have hold : ∀ address' other, (s.setSocket address socket).sockets address' = some other →
      (address' = address ∧ other = socket) ∨
        (address' ≠ address ∧ s.sockets address' = some other) :=
    fun address' other => Table.insert_some
  exact { h with
    objects := Table.insert_all h.objects hobject
    distinct := Table.insert_distinct h.distinct unused
    attempted := fun address' other hother hp => by
      rcases hold address' other hother with ⟨_, rfl⟩ | ⟨_, hs⟩
      · exact hpending hp
      · exact h.attempted address' other hs hp
    timed := fun agent timer address' ht => by
      obtain ⟨hentry, other, hother, hwrite⟩ := h.timed agent timer address' ht
      have hne : address' ≠ address := by
        rintro rfl
        exact untimed agent timer ht
      exact ⟨hentry, other, (Function.update_of_ne hne _ _).trans hother, hwrite⟩ }

theorem setAgent_sameTimers (s : TcpService) (agent : Nat) {a : TransportAgent}
    (hsockets : a.timerSockets = (s.agents agent).timerSockets)
    (htimers : a.socketTimers = (s.agents agent).socketTimers)
    (hids : a.timerIds = (s.agents agent).timerIds) : SameTimers s (s.setAgent agent a) := by
  intro i
  show (Function.update s.agents agent a i).timerSockets = _ ∧
    (Function.update s.agents agent a i).socketTimers = _ ∧
    (Function.update s.agents agent a i).timerIds = _
  by_cases hi : i = agent
  · subst hi
    rw [Function.update_self]
    exact ⟨hsockets, htimers, hids⟩
  · rw [Function.update_of_ne hi]
    exact ⟨rfl, rfl, rfl⟩

/-- What building a connected socket leaves, whether it succeeds or not. -/
structure Built (s : TcpService) (address object : Nat) (r : TcpService × Bool) : Prop where
  settled : r.1.Settled
  untimed : r.1.Untimed address
  objects : r.1.objects = s.objects
  connects : r.1.connects = s.connects
  outcomes : ∀ o, pushedOutcomes r.1.pushes o = pushedOutcomes s.pushes o
  socket : ∃ socket, r.1.sockets address = some socket ∧ socket.object = object ∧
    (r.2 = true → ¬ socket.Pending)

theorem Settled.addTcpSocket (h : s.Settled) {address : Nat} {socket : AgentSocket}
    (hsocket : s.sockets address = some socket) (untimed : s.Untimed address)
    (htrue : (s.connects socket.object).isSome → s.connects socket.object = some .succeeded)
    (agent : Nat) (build : BuildCalls) :
    Built s address socket.object (s.addTcpSocket agent address socket build) := by
  have unchanged : Built s address socket.object (s, false) :=
    ⟨h, untimed, rfl, rfl, fun _ => rfl, socket, hsocket, rfl, fun hfalse => by cases hfalse⟩
  unfold TcpService.addTcpSocket
  dsimp only
  split
  · exact unchanged
  · split
    · exact unchanged
    · let a := s.agents agent
      let stored := ({ s.setChannel s.heapNum (some (.new socket.object 1024 256 (by decide))) with
        heapNum := s.heapNum + 1 }).setAgent agent
          { a with channels := Function.update a.channels socket.sockfd (some s.heapNum) }
      let connected : AgentSocket :=
        { socket with appHandle := some s.heapNum
                      onSocketRead := some agent
                      writeCallback := some (.onSocketWrite agent)
                      errorCallback := some (.onSocketError agent) }
      have htimers : SameTimers s stored := setAgent_sameTimers _ agent rfl rfl rfl
      have hstored : stored.Settled := h.frame rfl rfl rfl rfl htimers
      have huntimed : stored.Untimed address := by
        intro i timer ht
        rw [(htimers i).1] at ht
        exact untimed i timer ht
      have hquiet : ¬ connected.Pending := by
        rintro (⟨i, hi⟩ | ⟨i, hi⟩) <;> cases hi
      have hset : (stored.setSocket address connected).Settled := by
        refine hstored.setSocket _ _ (h.objects address socket hsocket) ?_
          (fun hp => absurd hp hquiet) huntimed
        intro address' other hother hsame
        exact h.distinct address' address other socket hother hsocket hsame
      split
      · exact ⟨hset.frame rfl rfl rfl rfl (fun _ => ⟨rfl, rfl, rfl⟩), huntimed, rfl, rfl,
          fun _ => rfl, connected, Function.update_self _ _ _, rfl, fun hfalse => by cases hfalse⟩
      · refine ⟨hset.pushOther (h.objects address socket hsocket) rfl (fun _ => htrue), huntimed,
          rfl, rfl, fun o => outcomesOf_cons_other (Or.inr rfl) _, connected,
          Function.update_self _ _ _, rfl, fun _ => hquiet⟩

theorem Settled.buildConnectedSocket (h : s.Settled) {address : Nat} (socket : AgentSocket)
    (hsocket : s.sockets address = some socket) (untimed : s.Untimed address)
    (htrue : (s.connects socket.object).isSome → s.connects socket.object = some .succeeded)
    (build : BuildCalls) :
    Built s address socket.object (s.buildConnectedSocket address socket build) := by
  unfold TcpService.buildConnectedSocket
  split
  · exact ⟨h, untimed, rfl, rfl, fun _ => rfl, socket, hsocket, rfl, fun hfalse => by cases hfalse⟩
  · have hnext : Settled { s with nextAgent := s.nextAgent + 1 } :=
      h.frame rfl rfl rfl rfl (fun _ => ⟨rfl, rfl, rfl⟩)
    have built := hnext.addTcpSocket hsocket untimed htrue (s.nextAgent % s.agentNum) build
    exact ⟨built.settled, built.untimed, built.objects, built.connects, built.outcomes, built.socket⟩

theorem Settled.acceptRound (h : s.Settled) {address : Nat} (hfree : s.sockets address = none)
    (sockfd : Int) (build : BuildCalls) : (s.acceptRound address sockfd build).Settled := by
  have hfresh : s.connects s.objects = none := by
    by_contra hsome
    exact Nat.lt_irrefl _ (h.tried _ (Option.ne_none_iff_isSome.mp hsome))
  have hnew := h.newObject s.connects (fun _ _ => rfl)
  have huntimed := hnew.untimed_of_free hfree
  have hset := hnew.setSocket address ⟨s.objects, sockfd, none, none, none, none⟩
    (Nat.lt_succ_self _)
    (fun address' other hother hsame => absurd hsame (Nat.ne_of_lt (h.objects address' other hother)))
    (by rintro (⟨i, hi⟩ | ⟨i, hi⟩) <;> cases hi) huntimed
  have built := hset.buildConnectedSocket _ (Function.update_self _ _ _) huntimed
    (fun hsome => by
      have hsome' : (s.connects s.objects).isSome := hsome
      rw [hfresh] at hsome'
      cases hsome') build
  unfold TcpService.acceptRound
  dsimp only
  split
  · rename_i t hbuild
    have hsettled := built.settled
    have hsame : t = _ := (congrArg Prod.fst hbuild).symm
    rw [hsame]
    exact hsettled
  · rename_i t hbuild
    have hsame : t = _ := (congrArg Prod.fst hbuild).symm
    rw [hsame]
    exact built.settled.deleteSocket built.untimed

theorem Settled.addTimer (h : s.Settled) {agent address : Nat} {socket : AgentSocket}
    (hsocket : s.sockets address = some socket)
    (hwrite : socket.writeCallback = some (.onAsyncConnectSocketWrite agent))
    (untimed : s.Untimed address) (object : Nat) (startTimer : Bool) :
    (s.addAsyncConnectSocketTimer agent address object startTimer).Settled := by
  unfold TcpService.addAsyncConnectSocketTimer
  split
  · dsimp only
    exact { h with
      numbered := fun i timer address' ht => by
        have hupdate : (Function.update s.agents agent _ i).timerSockets timer = some address' := ht
        show timer ≤ (Function.update s.agents agent _ i).timerIds
        by_cases hi : i = agent
        · subst hi
          rw [Function.update_self] at hupdate ⊢
          refine Table.insert_all (fun t a ht => Int.le_trans (h.numbered i t a ht) ?_)
            (Int.le_refl _) timer address' hupdate
          dsimp only
          omega
        · rw [Function.update_of_ne hi] at hupdate ⊢
          exact h.numbered i timer address' hupdate
      timed := fun i timer address' ht => by
        have hupdate : (Function.update s.agents agent _ i).timerSockets timer = some address' := ht
        show (Function.update s.agents agent _ i).socketTimers address' = some timer ∧ _
        by_cases hi : i = agent
        · subst hi
          rw [Function.update_self] at hupdate ⊢
          have hkept : Function.update (s.agents i).timerSockets ((s.agents i).timerIds + 1)
            (some address) timer = some address' := hupdate
          show Function.update (s.agents i).socketTimers address
            (some ((s.agents i).timerIds + 1)) address' = some timer ∧ _
          rcases Table.insert_some hkept with ⟨hnew, rfl⟩ | ⟨_, hold⟩
          · exact ⟨by rw [Function.update_self, hnew], socket, hsocket, hwrite⟩
          · have hne : address' ≠ address := by
              rintro rfl
              exact untimed i timer hold
            rw [Function.update_of_ne hne]
            exact h.timed i timer address' hold
        · rw [Function.update_of_ne hi] at hupdate ⊢
          exact h.timed i timer address' hupdate }
  · exact h

theorem Settled.asyncConnect (h : s.Settled) {address : Nat} (hfree : s.sockets address = none)
    (sockfd : Int) (started attach : Bool) (timeoutMs : Int) (startTimer : Bool) :
    (s.asyncConnect address sockfd started attach timeoutMs startTimer).Settled := by
  have hnext : Settled { s with nextAgent := s.nextAgent + 1 } :=
    h.frame rfl rfl rfl rfl (fun _ => ⟨rfl, rfl, rfl⟩)
  have hnew := hnext.newObject
    (Function.update s.connects s.objects (some .pending))
    (fun o ho => Function.update_of_ne ho _ _)
  have hunused : ∀ address' other, s.sockets address' = some other →
      other.object ≠ s.objects :=
    fun address' other hother => Nat.ne_of_lt (h.objects address' other hother)
  have hnone : pushedOutcomes s.pushes s.objects = [] :=
    outcomesOf_fresh fun n hn _ => h.noticed n hn
  unfold TcpService.asyncConnect allocateTransportAgent
  dsimp only
  split
  · exact hnext
  · split
    · refine hnew.pushOutcome (Nat.lt_succ_self _) hnone ?_ (fun hsuccess => by cases hsuccess)
      intro address' other hother hsame
      exact absurd hsame (hunused address' other hother)
    · have huntimed := hnew.untimed_of_free hfree
      have hset := hnew.setSocket address ⟨s.objects, sockfd, none, none,
          some (.onAsyncConnectSocketWrite (s.nextAgent % s.agentNum)),
          some (.onAsyncConnectError (s.nextAgent % s.agentNum))⟩ (Nat.lt_succ_self _)
        (fun address' other hother hsame => absurd hsame (hunused address' other hother))
        (fun _ => ⟨⟨_, rfl, rfl⟩, by
          show (Function.update s.connects s.objects _ s.objects).isSome
          rw [Function.update_self]
          rfl, hnone⟩) huntimed
      split
      · exact hset.addTimer (Function.update_self _ _ _) rfl huntimed _ _
      · exact hset

theorem Settled.onAsyncConnectSocketWrite (h : s.Settled) {agent address : Nat}
    {socket : AgentSocket} (hsocket : s.sockets address = some socket)
    (hwrite : socket.writeCallback = some (.onAsyncConnectSocketWrite agent))
    (htrue : s.connects socket.object = some .succeeded) (build : BuildCalls) :
    (s.onAsyncConnectSocketWrite agent address socket build).Settled := by
  obtain ⟨hsockets, hconnects, hpushes, hobjects⟩ := removeTimer_rest s agent address
  obtain ⟨_, _, hnone⟩ := h.attempted address socket hsocket (Or.inl ⟨agent, hwrite⟩)
  have built := (h.removeTimer agent address).buildConnectedSocket socket
    (by rw [hsockets]; exact hsocket) (h.removeTimer_untimed hsocket hwrite)
    (fun _ => by rw [hconnects]; exact htrue) build
  have hlt : socket.object < s.objects := h.objects address socket hsocket
  unfold TcpService.onAsyncConnectSocketWrite
  dsimp only
  split
  · rename_i t hbuild
    rw [hbuild] at built
    obtain ⟨socket', hsocket', hsame, hquiet⟩ := built.socket
    refine built.settled.pushOutcome ?_ ?_ ?_ ?_
    · rw [built.objects, hobjects]
      exact hlt
    · rw [built.outcomes, hpushes]
      exact hnone
    · intro address' other hother hobject
      have haddress := built.settled.distinct address' address other socket' hother hsocket'
        (by rw [hobject, hsame])
      subst haddress
      rw [hsocket'] at hother
      cases hother
      exact hquiet rfl
    · intro _ _
      show t.connects socket.object = some .succeeded
      rw [built.connects, hconnects]
      exact htrue
  · rename_i t hbuild
    rw [hbuild] at built
    obtain ⟨socket', hsocket', hsame, _⟩ := built.socket
    refine (built.settled.deleteSocket built.untimed).pushOutcome ?_ ?_ ?_
      (fun hsuccess => by cases hsuccess)
    · show socket.object < t.objects
      rw [built.objects, hobjects]
      exact hlt
    · show pushedOutcomes t.pushes socket.object = []
      rw [built.outcomes, hpushes]
      exact hnone
    · intro address' other hother hobject
      obtain ⟨hne, hold⟩ := Table.erase_some hother
      exact absurd (built.settled.distinct address' address other socket' hold hsocket'
        (by rw [hobject, hsame])) hne

/-- The outcome of a pending socket that has just been deleted. -/
theorem Settled.failPending (h : s.Settled) {address : Nat} {socket : AgentSocket}
    (hsocket : s.sockets address = some socket) (hpending : socket.Pending)
    (untimed : s.Untimed address) (agent : Nat) (errno : Int) :
    ((s.deleteSocket address).pushWakeupCallback
      ⟨socket.object, agent, socket.sockfd, .asyncConnectError errno⟩).Settled := by
  refine (h.deleteSocket untimed).pushOutcome (h.objects address socket hsocket)
    (h.attempted address socket hsocket hpending).2.2 ?_ (fun hsuccess => by cases hsuccess)
  intro address' other hother hobject
  obtain ⟨hne, hold⟩ := Table.erase_some hother
  exact absurd (h.distinct address' address other socket hold hsocket hobject) hne

theorem deleteSocket_removeTimer (s : TcpService) (agent address : Nat) :
    (s.deleteSocket address).removeAsyncConnectSocketTimer agent address =
      (s.removeAsyncConnectSocketTimer agent address).deleteSocket address := by
  have hagents : (s.deleteSocket address).agents = s.agents := rfl
  unfold removeAsyncConnectSocketTimer
  rw [hagents]
  cases hentry : (s.agents agent).socketTimers address with
  | none => simp only [hentry]
  | some timerId =>
    simp only [hentry]
    rfl

theorem Settled.onAsyncConnectError (h : s.Settled) {agent address : Nat} {socket : AgentSocket}
    (hsocket : s.sockets address = some socket)
    (herror : socket.errorCallback = some (.onAsyncConnectError agent)) (errno : Int) :
    (s.onAsyncConnectError agent address socket errno).Settled := by
  have hpending : socket.Pending := Or.inr ⟨agent, herror⟩
  obtain ⟨⟨i, hwrite, herror'⟩, _⟩ := h.attempted address socket hsocket hpending
  rw [herror] at herror'
  cases herror'
  unfold TcpService.onAsyncConnectError
  rw [deleteSocket_removeTimer]
  refine (h.removeTimer agent address).failPending ?_ hpending
    (h.removeTimer_untimed hsocket hwrite) agent errno
  rw [(removeTimer_rest s agent address).1]
  exact hsocket

theorem Settled.onAsyncConnectTimeout {s' : TcpService} (h : s.Settled) {agent : Nat}
    {timerId : Int} (hstep : onAsyncConnectTimeout (s.setAgent agent { s.agents agent with
      timers := Function.update (s.agents agent).timers timerId none }) agent timerId = some s') :
    s'.Settled := by
  have hfired : (s.setAgent agent { s.agents agent with
      timers := Function.update (s.agents agent).timers timerId none }).agents agent =
      { s.agents agent with timers := Function.update (s.agents agent).timers timerId none } :=
    Function.update_self _ _ _
  unfold TcpService.onAsyncConnectTimeout at hstep
  rw [hfired] at hstep
  dsimp only at hstep
  split at hstep
  · cases hstep
    exact h.frame rfl rfl rfl rfl (setAgent_sameTimers s agent rfl rfl rfl)
  · rename_i address haddress
    obtain ⟨hentry, socket, hsocket, hwrite⟩ := h.timed agent timerId address haddress
    -- both erasures and the disarming are what removing the timer does
    have hremove : s.removeAsyncConnectSocketTimer agent address =
        (s.setAgent agent { s.agents agent with
          timers := Function.update (s.agents agent).timers timerId none }).setAgent agent
          { channels := (s.agents agent).channels
            timerSockets := Function.update (s.agents agent).timerSockets timerId none
            socketTimers := Function.update (s.agents agent).socketTimers address none
            timers := Function.update (s.agents agent).timers timerId none
            timerIds := (s.agents agent).timerIds } := by
      unfold TcpService.removeAsyncConnectSocketTimer
      simp only [hentry, setAgent, Function.update_idem]
    rw [← hremove] at hstep
    have hsocket' : (s.removeAsyncConnectSocketTimer agent address).sockets address = some socket := by
      rw [(removeTimer_rest s agent address).1]
      exact hsocket
    rw [hsocket'] at hstep
    cases hstep
    exact (h.removeTimer agent address).failPending hsocket' (Or.inl ⟨agent, hwrite⟩)
      (h.removeTimer_untimed hsocket hwrite) agent _

theorem Settled.failChannel {s' : TcpService} (h : s.Settled) {agent channel : Nat}
    {socket : AgentSocket} {c : Connection} (hobject : socket.object < s.objects)
    (hstep : s.failChannel agent channel socket c = some s') : s'.Settled := by
  rw [closeTcpSocket_eq hstep]
  refine Settled.pushOther ?_ hobject rfl (fun hsuccess => by cases hsuccess)
  exact h.frame rfl rfl rfl rfl (fun _ => ⟨rfl, rfl, rfl⟩)

theorem Settled.setChannel (h : s.Settled) (channel : Nat) (c : Option Connection) :
    (s.setChannel channel c).Settled :=
  h.frame rfl rfl rfl rfl (fun _ => ⟨rfl, rfl, rfl⟩)

theorem Settled.onSocketRead {s' : TcpService} (h : s.Settled) {agent : Nat}
    {socket : AgentSocket} (hobject : socket.object < s.objects) {readableSize : Int}
    {r : ReadResult} {decoded : Nat}
    (hstep : s.onSocketRead agent socket readableSize r decoded = some s') : s'.Settled := by
  unfold TcpService.onSocketRead at hstep
  split at hstep
  · cases hstep
  · split at hstep
    · cases hstep
    · split at hstep
      · split at hstep
        · exact h.failChannel hobject hstep
        · dsimp only at hstep
          split at hstep
          · rw [closeTcpSocket_eq hstep]
            exact (h.setChannel _ _).pushOther hobject rfl (fun hsuccess => by cases hsuccess)
          · cases hstep
            exact h.setChannel _ _
      · cases hstep

theorem Settled.onSocketWrite {s' : TcpService} (h : s.Settled) {agent : Nat}
    {socket : AgentSocket} (hobject : socket.object < s.objects) {w : WriteResult}
    (hstep : s.onSocketWrite agent socket w = some s') : s'.Settled := by
  unfold TcpService.onSocketWrite at hstep
  split at hstep
  · cases hstep
  · split at hstep
    · cases hstep
    · dsimp only at hstep
      split at hstep
      · split at hstep
        · exact h.failChannel hobject hstep
        · cases hstep
          exact h.setChannel _ _
      · cases hstep

theorem Settled.onSocketError {s' : TcpService} (h : s.Settled) {agent : Nat}
    {socket : AgentSocket} (hobject : socket.object < s.objects) {errno : Int}
    (hstep : s.onSocketError agent socket errno = some s') : s'.Settled := by
  unfold TcpService.onSocketError at hstep
  split at hstep
  · cases hstep
  · split at hstep
    · cases hstep
    · exact h.failChannel hobject hstep

theorem Settled.onSendQueueReady {s' : TcpService} (h : s.Settled) {agent : Nat} {host : Int}
    {m : Message} {w : WriteResult} (hstep : s.onSendQueueReady agent host m w = some s') :
    s'.Settled := by
  unfold TcpService.onSendQueueReady at hstep
  split at hstep
  · cases hstep
    exact h
  · split at hstep
    · cases hstep
    · split at hstep
      · cases hstep
        exact h.setChannel _ _
      · cases hstep

theorem Settled.finishConnect (h : s.Settled) {object : Nat}
    (hpending : s.connects object = some .pending) (status : ConnectStatus) :
    Settled { s with connects := Function.update s.connects object (some status) } := by
  have hsome : ∀ o, (Function.update s.connects object (some status) o).isSome →
      (s.connects o).isSome := by
    intro o ho
    obtain ⟨now, hnow⟩ := Option.isSome_iff_exists.mp ho
    rcases Table.insert_some hnow with ⟨rfl, _⟩ | ⟨_, hold⟩
    · simp [hpending]
    · simp [hold]
  exact { h with
    tried := fun o ho => h.tried o (hsome o ho)
    attempted := fun address socket hsocket hp => by
      obtain ⟨hcallbacks, hconnect, hnone⟩ := h.attempted address socket hsocket hp
      exact ⟨hcallbacks, Table.insert_isSome hconnect object status, hnone⟩
    told := h.told.finish hpending status fun n hsuccess =>
      ⟨hsuccess.1, hsome n.object hsuccess.2⟩ }

/-- A writable socket, whichever callback it has. -/
theorem Settled.onWrite {s' : TcpService} (h : s.Settled) {address : Nat} {socket : AgentSocket}
    (hsocket : s.sockets address = some socket)
    (htrue : ∀ agent, socket.writeCallback = some (.onAsyncConnectSocketWrite agent) →
      s.connects socket.object = some .succeeded) {w : WriteResult} {build : BuildCalls}
    (hstep : s.onWrite address socket w build = some s') : s'.Settled := by
  unfold TcpService.onWrite at hstep
  split at hstep
  · cases hstep
    exact h
  · rename_i agent hwrite
    cases hstep
    exact h.onAsyncConnectSocketWrite hsocket hwrite (htrue agent hwrite) build
  · exact h.onSocketWrite (h.objects address socket hsocket) hstep

theorem Settled.onError {s' : TcpService} (h : s.Settled) {address : Nat} {socket : AgentSocket}
    (hsocket : s.sockets address = some socket) {errno : Int}
    (hstep : s.onError address socket errno = some s') : s'.Settled := by
  unfold TcpService.onError at hstep
  split at hstep
  · cases hstep
    exact h
  · rename_i agent herror
    cases hstep
    exact h.onAsyncConnectError hsocket herror errno
  · exact h.onSocketError (h.objects address socket hsocket) hstep

/-- An honest event of a pending attempt's own socket that is writable comes when the connect has
succeeded. -/
theorem Settled.succeeded_of_write (h : s.Settled) {address : Nat} {socket : AgentSocket}
    {event : EpollEvent} (hsocket : s.sockets address = some socket) (honest : s.HonestEvent event)
    (hflag : event.write = true) {agent : Nat}
    (hwrite : socket.writeCallback = some (.onAsyncConnectSocketWrite agent))
    (hsource : event.source = socket.object) (hfailed : s.connects socket.object ≠ some .failed) :
    s.connects socket.object = some .succeeded := by
  obtain ⟨_, hconnect, _⟩ := h.attempted address socket hsocket (Or.inl ⟨agent, hwrite⟩)
  exact EpollEvent.Honest.succeeded honest hflag hsource hconnect hfailed

theorem step_settled {s' : TcpService} {a : Action} (h : s.Settled) (honest : s.Honest a)
    (guarded : s.OutcomeGuard a) (hstep : s.step a = some s') : s'.Settled := by
  cases a with
  | accept address sockfd build =>
    rw [step] at hstep
    split at hstep
    · rename_i hfree
      cases hstep
      exact h.acceptRound hfree _ _
    · cases hstep
  | asyncConnect address sockfd started attach timeoutMs startTimer =>
    rw [step] at hstep
    split at hstep
    · rename_i hfree
      cases hstep
      exact h.asyncConnect hfree _ _ _ _ _
    · cases hstep
  | send agent host m w => exact h.onSendQueueReady hstep
  | read address event readableSize r decoded =>
    rw [step] at hstep
    split at hstep
    · cases hstep
    · rename_i socket hsocket
      split at hstep
      · unfold onRead at hstep
        split at hstep
        · cases hstep; exact h
        · exact h.onSocketRead (h.objects address socket hsocket) hstep
      · cases hstep
  | write address event w build =>
    rw [step] at hstep
    split at hstep
    · cases hstep
    · rename_i socket hsocket
      split at hstep
      · rename_i hflag
        refine h.onWrite hsocket (fun agent hwrite => ?_) hstep
        obtain ⟨hsource, hfailed⟩ := guarded socket agent hsocket hwrite
        exact h.succeeded_of_write hsocket honest hflag hwrite hsource hfailed
      · cases hstep
  | error address event errno =>
    rw [step] at hstep
    split at hstep
    · cases hstep
    · rename_i socket hsocket
      split at hstep
      · exact h.onError hsocket hstep
      · cases hstep
  | timeout agent timerId =>
    rw [step] at hstep
    split at hstep
    · cases hstep
    · exact h.onAsyncConnectTimeout hstep
  | finishConnect object success =>
    rw [step] at hstep
    split at hstep
    · rename_i hpending
      cases hstep
      exact h.finishConnect hpending _
    · cases hstep

/-- Each attempt has one outcome at most, and only a completed one is reported connected. -/
def OutcomesRight (s : TcpService) : Prop :=
  (∀ object, (pushedOutcomes s.pushes object).length ≤ 1) ∧
    ∀ n ∈ s.pushes, n.push.IsSuccess = true → (s.connects n.object).isSome →
      s.connects n.object = some .succeeded

theorem outcomes_right {agentNum : Nat}
    (hs : Reaches step (fun s a => s.Honest a ∧ s.OutcomeGuard a) (.init agentNum) s) :
    s.OutcomesRight := by
  have settled : s.Settled := hs.invariant (init_settled _)
    (fun s a s' h guarded hstep => step_settled h guarded.1 guarded.2 hstep)
  exact ⟨settled.told.once, fun n hn hsuccess hconnect =>
    settled.told.truthful n hn ⟨hsuccess, hconnect⟩⟩

end TcpService

/-- With an honest kernel, connects of either owner have one truthful outcome at most, unless
a failed connect is taken for a writable one or a timer outlives its attempt. -/
theorem connect_outcomes_truthful (initSize extendSize agentNum : Nat) (h : 0 < extendSize) :
    (∀ s, Reaches TcpSocketApp.step (fun s a => s.Honest a ∧ s.OutcomeGuard a)
        (.init initSize extendSize h) s → s.OutcomesRight) ∧
    (∀ s, Reaches TcpService.step (fun s a => s.Honest a ∧ s.OutcomeGuard a)
        (.init agentNum) s → s.OutcomesRight) :=
  ⟨fun _ hs => TcpSocketApp.outcomes_right hs, fun _ hs => TcpService.outcomes_right hs⟩

/-- An attempt that the kernel completes, and its write event. -/
def completedConnect (success : Bool) : List TcpSocketApp.Action :=
  [.setCallback .connection true, .asyncConnect 5 true ⟨true, true, true⟩ 0 false,
    .finishConnect 0 success, .write 5 ⟨0, false, true, !success⟩ .again]

def completedAgentConnect (success : Bool) : List TcpService.Action :=
  [.asyncConnect 0 5 true true 0 false, .finishConnect 0 success,
    .write 0 ⟨0, false, true, !success⟩ .again ⟨true, true, true⟩]

theorem connect_outcomes_truthful_completed :
    (∃ s, run TcpSocketApp.step (completedConnect true) (.init 256 64 (by decide)) = some s ∧
      s.OutcomesRight ∧ (outcomes s.notices 0).length = 1) ∧
    (∃ s, run TcpService.step (completedAgentConnect true) (.init 1) = some s ∧
      s.OutcomesRight ∧ (pushedOutcomes s.pushes 0).length = 1) := by
  constructor
  · have guarded : Guarded TcpSocketApp.step (fun s a => s.Honest a ∧ s.OutcomeGuard a)
        (completedConnect true) (.init 256 64 (by decide)) := by
      refine ⟨⟨trivial, trivial⟩, fun s₁ h₁ => ⟨⟨trivial, trivial⟩, fun s₂ h₂ => ⟨⟨trivial, trivial⟩,
        fun s₃ h₃ => ⟨⟨⟨?_, ?_⟩, ?_⟩, fun _ _ => trivial⟩⟩⟩⟩
      all_goals cases h₁; cases h₂; cases h₃
      · intro hpending; cases hpending
      · intro hfailed; cases hfailed
      · intro socket hsocket _ _
        cases hsocket
        exact ⟨rfl, by decide⟩
    have hs := Reaches.refl.run guarded rfl
    exact ⟨_, rfl, (connect_outcomes_truthful 256 64 1 (by decide)).1 _ hs, by decide⟩
  · have guarded : Guarded TcpService.step (fun s a => s.Honest a ∧ s.OutcomeGuard a)
        (completedAgentConnect true) (.init 1) := by
      refine ⟨⟨trivial, trivial⟩, fun s₁ h₁ => ⟨⟨trivial, trivial⟩, fun s₂ h₂ =>
        ⟨⟨⟨?_, ?_⟩, ?_⟩, fun _ _ => trivial⟩⟩⟩
      all_goals cases h₁; cases h₂
      · intro hpending; cases hpending
      · intro hfailed; cases hfailed
      · intro socket agent hsocket _
        cases hsocket
        exact ⟨rfl, by decide⟩
    have hs := Reaches.refl.run guarded rfl
    exact ⟨_, rfl, (connect_outcomes_truthful 256 64 1 (by decide)).2 _ hs, by decide⟩

/-- A failed connect, reported as writable together with an error, is announced as a success. -/
theorem failed_connect_reported_success :
    (¬ ∀ s, Reaches TcpSocketApp.step TcpSocketApp.Honest (.init 256 64 (by decide)) s →
      s.OutcomesRight) ∧
    (¬ ∀ s, Reaches TcpService.step TcpService.Honest (.init 1) s → s.OutcomesRight) := by
  constructor
  · intro hall
    have guarded : Guarded TcpSocketApp.step TcpSocketApp.Honest (completedConnect false)
        (.init 256 64 (by decide)) := by
      refine ⟨trivial, fun s₁ h₁ => ⟨trivial, fun s₂ h₂ => ⟨trivial, fun s₃ h₃ =>
        ⟨⟨?_, fun _ => ⟨rfl, rfl⟩⟩, fun _ _ => trivial⟩⟩⟩⟩
      cases h₁; cases h₂; cases h₃
      intro hpending
      cases hpending
    have hsuccess := (hall _ (Reaches.refl.run guarded rfl)).2 _ List.mem_cons_self rfl
    cases hsuccess
  · intro hall
    have guarded : Guarded TcpService.step TcpService.Honest (completedAgentConnect false)
        (.init 1) := by
      refine ⟨trivial, fun s₁ h₁ => ⟨trivial, fun s₂ h₂ =>
        ⟨⟨?_, fun _ => ⟨rfl, rfl⟩⟩, fun _ _ => trivial⟩⟩⟩
      cases h₁; cases h₂
      intro hpending
      cases hpending
    have hsuccess := (hall _ (Reaches.refl.run guarded rfl)).2 _ List.mem_cons_self rfl rfl
    cases hsuccess

end Mysya
