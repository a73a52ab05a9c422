import Mysya.AgentQueues

/-!
# The streams between two applications

What an application sends on a descriptor reaches the kernel in order, through the send queue and
the channel of the descriptor, and the messages that come for a descriptor reach the application in
order, through the receive-decode callback and the receive queue. So of two applications at the
ends of a connection one gets what the other sends.
-/

namespace Mysya

open FrameStream GuardedRuns

namespace AgentQueues

variable {decode : List UInt8 → Option Decoded} {frame : List UInt8 → List UInt8 → Prop}
  {s t u : AgentQueues}

/-! ## What a step does -/

/-- What a step does where no message is empty and no direct write blocks or fails. -/
inductive Moved (decode : List UInt8 → Option Decoded) (s t : AgentQueues) : Prop
  | network : TcpService.Turn s.service t.service → t.sendQueues = s.sendQueues →
      t.receiveQueues = s.receiveQueues → t.arrived = s.arrived → Moved decode s t
  | queued (agent : Nat) (q : MessageQueue) : q.delivered = (s.sendQueues agent).delivered →
      t = s.setSendQueue agent q → Moved decode s t
  | dropped (agent : Nat) (host : Int) (data : List UInt8) (q : MessageQueue) :
      (s.service.agents agent).channels host = none →
      q.delivered = (s.sendQueues agent).delivered ++ [(host, data)] →
      t = s.setSendQueue agent q → Moved decode s t
  | sent (agent : Nat) (host : Int) (data : List UInt8) (q : MessageQueue) (channel : Nat)
      (c c' : Connection) : (s.service.agents agent).channels host = some channel →
      s.service.heap channel = some c → c'.accepted = c.accepted ++ data →
      c'.receiveBuffer = c.receiveBuffer →
      q.delivered = (s.sendQueues agent).delivered ++ [(host, data)] →
      t = { s.setSendQueue agent q with service := s.service.setChannel channel (some c') } →
      Moved decode s t
  | heard (agent : Nat) (q : MessageQueue) : q.pushed = (s.receiveQueues agent).pushed →
      t = s.setReceiveQueue agent q → Moved decode s t
  | read (address agent : Nat) (sockfd : Int) (channel : Nat) (c : Connection) (readableSize : Int)
      (r : ReadResult) (x : Nat × List (List UInt8)) (q : MessageQueue) (service : TcpService) :
      s.service.readsOf address = some (agent, sockfd, channel, c) →
      c.ReceiveFits readableSize r →
      (c.receiveBuffer.readable ++ bytesRead readableSize r).length < 2147483648 →
      decoded decode c readableSize r = some x →
      TcpService.Steady s.service service →
      service.heap = Function.update s.service.heap channel
        (some (c.afterRead readableSize r x.1)) →
      q.pushed = (s.receiveQueues agent).pushed ++ x.2.map (fun m => (sockfd, m)) →
      t = { s.setReceiveQueue agent q with
        service := service
        arrived := Function.update s.arrived channel
          (s.arrived channel ++ bytesRead readableSize r) } → Moved decode s t

/-- The queues are in order, the channels are of one descriptor each, and no stream is broken. -/
structure Sound (s : AgentQueues) : Prop where
  registered : s.service.Registered
  intact : s.service.StreamsIntact
  sendQueues : ∀ agent, (s.sendQueues agent).Ordered
  receiveQueues : ∀ agent, (s.receiveQueues agent).Ordered

theorem start_sound (agentNum : Nat) (now : Timestamp) (timerId : Int) :
    (start agentNum now timerId).Sound where
  registered := TcpService.init_registered agentNum
  intact _ _ hc := by cases hc
  sendQueues _ := ⟨[], [], MessageQueue.new_queued _ _ _ _ _ _⟩
  receiveQueues _ := ⟨[], [], MessageQueue.new_queued _ _ _ _ _ _⟩

theorem Sound.setSendQueue (h : s.Sound) (agent : Nat) {q : MessageQueue} (hq : q.Ordered) :
    (s.setSendQueue agent q).Sound where
  registered := h.registered
  intact := h.intact
  sendQueues i := by
    show (Function.update s.sendQueues agent q i).Ordered
    rw [Function.update_apply]
    split
    · exact hq
    · exact h.sendQueues i
  receiveQueues := h.receiveQueues

theorem Sound.setReceiveQueue (h : s.Sound) (agent : Nat) {q : MessageQueue} (hq : q.Ordered) :
    (s.setReceiveQueue agent q).Sound where
  registered := h.registered
  intact := h.intact
  sendQueues := h.sendQueues
  receiveQueues i := by
    show (Function.update s.receiveQueues agent q i).Ordered
    rw [Function.update_apply]
    split
    · exact hq
    · exact h.receiveQueues i

theorem registered_setChannel {service : TcpService} (h : service.Registered) (channel : Nat)
    (c : Option Connection) : (service.setChannel channel c).Registered :=
  h.steady (TcpService.steady_setChannel service channel c)

/-- A step of a queue of the send direction that takes nothing off. -/
theorem sendQueue_moved (h : s.Sound) (agent : Nat) (a : MessageQueue.Action)
    (hguard : (s.sendQueues agent).PushGuard a)
    (hsame : ∀ q, (s.sendQueues agent).step a = some q →
      q.delivered = (s.sendQueues agent).delivered)
    (hstep : ((s.sendQueues agent).step a).map (s.setSendQueue agent) = some t) :
    t.Sound ∧ Moved decode s t := by
  obtain ⟨q, hq, rfl⟩ := Option.map_eq_some_iff.mp hstep
  exact ⟨h.setSendQueue agent ((h.sendQueues agent).step hguard hq),
    .queued agent q (hsame q hq) rfl⟩

/-- A step of a queue of the receive direction that pushes nothing. -/
theorem receiveQueue_moved (h : s.Sound) (agent : Nat) (a : MessageQueue.Action)
    (hguard : (s.receiveQueues agent).PushGuard a)
    (hsame : ∀ q, (s.receiveQueues agent).step a = some q →
      q.pushed = (s.receiveQueues agent).pushed)
    (hstep : ((s.receiveQueues agent).step a).map (s.setReceiveQueue agent) = some t) :
    t.Sound ∧ Moved decode s t := by
  obtain ⟨q, hq, rfl⟩ := Option.map_eq_some_iff.mp hstep
  exact ⟨h.setReceiveQueue agent ((h.receiveQueues agent).step hguard hq),
    .heard agent q (hsame q hq) rfl⟩

theorem round_ordered {q : MessageQueue} (h : q.Ordered) : q.round.Ordered := by
  obtain ⟨held, waiting, hqueued⟩ := h
  obtain ⟨held, hqueued⟩ := MessageQueue.round_queued hqueued
  exact ⟨held, waiting, hqueued⟩

theorem sendRound_moved (h : s.Sound) {agent : Nat} {before : UInt8} {w : WriteResult}
    (hcalm : s.Calm decode (.sendRound agent before w))
    (hstep : s.sendRound agent before w = some t) : t.Sound ∧ Moved decode s t := by
  have hround := round_ordered (h.sendQueues agent)
  have hdelivered := (h.sendQueues agent).round_delivered
  rw [sendRound] at hstep
  split at hstep
  · split at hstep
    · rename_i hnone
      cases hstep
      rw [hnone] at hdelivered
      exact ⟨h.setSendQueue agent hround,
        .queued agent _ (hdelivered.trans (List.append_nil _)) rfl⟩
    · rename_i host data hsome
      rw [hsome] at hdelivered
      obtain ⟨service, hservice, rfl⟩ := Option.map_eq_some_iff.mp hstep
      have hguard : s.service.SendGuard (.send agent host ⟨before, data⟩ w) :=
        fun channel c hchannel hc => (hcalm (host, data) hsome channel hchannel c hc).1
      have hintact := TcpService.step_streamsIntact h.intact hguard hservice
      rcases TcpService.onSendQueueReady_spec hservice with ⟨hnone, rfl⟩ |
        ⟨channel, c, hchannel, hc, rfl⟩
      · exact ⟨h.setSendQueue agent hround, .dropped agent host data _ hnone hdelivered rfl⟩
      · obtain ⟨_, hwritten⟩ := hcalm (host, data) hsome channel hchannel c hc
        have hnext := h.setSendQueue agent hround
        exact ⟨⟨registered_setChannel h.registered channel _, hintact, hnext.sendQueues,
          hnext.receiveQueues⟩, .sent agent host data _ channel c _ hchannel hc
            (c.sendMessage_accepted _ hwritten) (c.sendMessage_receiveBuffer _ w) hdelivered rfl⟩
  · cases hstep

theorem read_moved (h : s.Sound) {address : Nat} {event : EpollEvent} {readableSize : Int}
    {r : ReadResult} (hcalm : s.Calm decode (.read address event readableSize r))
    (hstep : s.onSocketRead decode address event readableSize r = some t) :
    t.Sound ∧ Moved decode s t := by
  rw [onSocketRead] at hstep
  split at hstep
  · rename_i hnone
    obtain ⟨service, hservice, rfl⟩ := Option.map_eq_some_iff.mp hstep
    rcases TcpService.read_spec hservice with ⟨_, rfl⟩ | ⟨_, _, _, _, hsome, _⟩
    · exact ⟨h, .network (.still (.refl s.service) rfl) rfl rfl rfl⟩
    · rw [hnone] at hsome
      cases hsome
  · rename_i agent sockfd channel c hreads
    obtain ⟨x, hx, hstep⟩ := Option.bind_eq_some_iff.mp hstep
    obtain ⟨service, hservice, hstep⟩ := Option.bind_eq_some_iff.mp hstep
    obtain ⟨q, hq, rfl⟩ := Option.map_eq_some_iff.mp hstep
    obtain ⟨hordered, _, hpushed⟩ := MessageQueue.pushAll_spec (h.receiveQueues agent)
      ((hcalm (agent, sockfd, channel, c) hreads).2 x hx) hq
    have hguard : s.service.SendGuard (.read address event readableSize r x.1) := trivial
    have hintact := TcpService.step_streamsIntact h.intact hguard hservice
    rcases TcpService.read_spec hservice with ⟨hnone, _⟩ |
      ⟨agent', sockfd', channel', c', hsome, hfits, hsteady, hheap⟩
    · rw [hnone] at hreads
      cases hreads
    · rw [hreads] at hsome
      cases hsome
      have hnext := h.setReceiveQueue agent hordered
      exact ⟨⟨h.registered.steady hsteady, hintact, hnext.sendQueues, hnext.receiveQueues⟩,
        .read address agent sockfd channel c readableSize r x q service hreads hfits
          (hcalm (agent, sockfd, channel, c) hreads).1 hx hsteady hheap hpushed rfl⟩

/-- One step, for each kind of action. -/
theorem moved (h : s.Sound) {a : Action} (hcalm : s.Calm decode a)
    (hstep : s.step decode a = some t) : t.Sound ∧ Moved decode s t := by
  cases a with
  | sendMessage agent sockfd data =>
    refine sendQueue_moved h agent (.push sockfd data) hcalm (fun q hq => ?_) hstep
    rw [MessageQueue.step] at hq
    split at hq
    · cases hq
      rfl
    · cases hq
  | sendExpired agent now timerId =>
    exact sendQueue_moved h agent (.expire now timerId) trivial
      (fun q hq => (MessageQueue.step_same (.inl ⟨now, timerId, rfl⟩) hq).2) hstep
  | sendRound agent before w => exact sendRound_moved h hcalm hstep
  | sendExchange agent =>
    exact sendQueue_moved h agent .exchange trivial
      (fun q hq => (MessageQueue.step_same (.inr rfl) hq).2) hstep
  | read address event readableSize r => exact read_moved h hcalm hstep
  | network a =>
    rw [step] at hstep
    split at hstep
    · rename_i hother
      obtain ⟨service, hservice, rfl⟩ := Option.map_eq_some_iff.mp hstep
      have hturn := TcpService.turn hother hservice
      have hguard : s.service.SendGuard a := by
        cases a with
        | send agent host m w => cases hother
        | _ => trivial
      exact ⟨⟨h.registered.turn hturn, TcpService.step_streamsIntact h.intact hguard hservice,
        h.sendQueues, h.receiveQueues⟩, .network hturn rfl rfl rfl⟩
    · cases hstep
  | receiveExpired agent now timerId =>
    exact receiveQueue_moved h agent (.expire now timerId) trivial
      (fun q hq => (MessageQueue.step_same (.inl ⟨now, timerId, rfl⟩) hq).1) hstep
  | receiveRound agent =>
    refine receiveQueue_moved h agent .round trivial (fun q hq => ?_) hstep
    rw [MessageQueue.step] at hq
    split at hq
    · cases hq
      exact MessageQueue.round_pushed _
    · cases hq
  | receiveExchange agent =>
    exact receiveQueue_moved h agent .exchange trivial
      (fun q hq => (MessageQueue.step_same (.inr rfl) hq).1) hstep

theorem Sound.run (h : s.Sound) (hrun : Reaches (step decode) (Calm decode) s t) : t.Sound :=
  hrun.invariant h fun _ _ _ hsound hcalm hstep => (moved hsound hcalm hstep).1

/-! ## Sending -/

/-- From `s` to `t` the channel of the descriptor has accepted what the send queue gave for it. -/
def Carried (agent : Nat) (sockfd : Int) (channel : Nat) (s t : AgentQueues) : Prop :=
  ∀ c, s.service.heap channel = some c → ∃ c' new, t.service.heap channel = some c' ∧
    (t.service.agents agent).channels sockfd = some channel ∧
    (t.sendQueues agent).delivered = (s.sendQueues agent).delivered ++ new ∧
    c'.accepted = c.accepted ++ (messagesOf sockfd new).flatten

/-- Where nothing is taken off the send queue and the channel accepts nothing. -/
theorem carried_of_same {agent : Nat} {sockfd : Int} {channel : Nat}
    (hchannel : (t.service.agents agent).channels sockfd = some channel)
    (hdelivered : (t.sendQueues agent).delivered = (s.sendQueues agent).delivered)
    (hheap : ∀ c, s.service.heap channel = some c →
      ∃ c', t.service.heap channel = some c' ∧ c'.accepted = c.accepted) :
    Carried agent sockfd channel s t := by
  intro c hc
  obtain ⟨c', hc', haccepted⟩ := hheap c hc
  exact ⟨c', [], hc', hchannel, hdelivered.trans (List.append_nil _).symm,
    haccepted.trans (List.append_nil _).symm⟩

theorem Carried.trans {agent : Nat} {sockfd : Int} {channel : Nat}
    (h : Carried agent sockfd channel s t) (h' : Carried agent sockfd channel t u) :
    Carried agent sockfd channel s u := by
  intro c hc
  obtain ⟨c', new, hc', _, hdelivered, haccepted⟩ := h c hc
  obtain ⟨c'', new', hc'', hchannel, hdelivered', haccepted'⟩ := h' c' hc'
  refine ⟨c'', new ++ new', hc'', hchannel, ?_, ?_⟩
  · rw [hdelivered', hdelivered, List.append_assoc]
  · rw [haccepted', haccepted, messagesOf_append, List.flatten_append, List.append_assoc]

theorem delivered_setSendQueue (s : AgentQueues) (agent i : Nat) (q : MessageQueue) :
    ((s.setSendQueue agent q).sendQueues i).delivered =
      if i = agent then q.delivered else (s.sendQueues i).delivered := by
  show (Function.update s.sendQueues agent q i).delivered = _
  rw [Function.update_apply]
  split
  · rfl
  · rfl

/-- A channel that is touched accepts what it accepts. -/
theorem update_accepted {heap : Nat → Option Connection} {channel : Nat} {c c' : Connection}
    (hc : heap channel = some c) (haccepted : c'.accepted = c.accepted) (i : Nat) (d : Connection)
    (hd : heap i = some d) :
    ∃ d', Function.update heap channel (some c') i = some d' ∧ d'.accepted = d.accepted := by
  by_cases hi : i = channel
  · subst hi
    obtain rfl : c = d := Option.some.inj (hc.symm.trans hd)
    exact ⟨c', Function.update_self _ _ _, haccepted⟩
  · exact ⟨d, (Function.update_of_ne hi _ _).trans hd, rfl⟩

theorem Moved.carried (h : Moved decode s t) (hsound : s.Sound) {agent : Nat} {sockfd : Int}
    {channel : Nat} (hchannel : (s.service.agents agent).channels sockfd = some channel) :
    Carried agent sockfd channel s t := by
  cases h with
  | network hturn hsend =>
    have hdelivered : (t.sendQueues agent).delivered = (s.sendQueues agent).delivered := by
      rw [hsend]
    cases hturn with
    | still hsteady hheap =>
      refine carried_of_same ((congrFun (hsteady.channels agent) sockfd).trans hchannel) hdelivered
        fun c hc => ⟨c, ?_, rfl⟩
      rw [hheap]
      exact hc
    | touched i c c' hsteady hc hheap haccepted =>
      refine carried_of_same ((congrFun (hsteady.channels agent) sockfd).trans hchannel) hdelivered
        fun d hd => ?_
      rw [hheap]
      exact update_accepted hc haccepted channel d hd
    | opened agent' sockfd' c hopened =>
      refine carried_of_same (hopened.keeps hchannel) hdelivered fun d hd => ⟨d, ?_, rfl⟩
      have hbound := hsound.registered.bound agent sockfd channel hchannel
      rw [hopened.heap, Function.update_of_ne (by omega)]
      exact hd
  | queued agent' q hdelivered heq =>
    subst heq
    refine carried_of_same hchannel ?_ fun c hc => ⟨c, hc, rfl⟩
    rw [delivered_setSendQueue]
    split
    · rename_i hsame
      subst hsame
      exact hdelivered
    · rfl
  | dropped agent' host data q hnone hdelivered heq =>
    subst heq
    intro c hc
    by_cases hagent : agent = agent'
    · subst hagent
      have hhost : host ≠ sockfd := by
        rintro rfl
        rw [hnone] at hchannel
        cases hchannel
      refine ⟨c, [(host, data)], hc, hchannel, ?_, ?_⟩
      · rw [delivered_setSendQueue, if_pos rfl, hdelivered]
      · rw [messagesOf_single_of_ne hhost, List.flatten_nil, List.append_nil]
    · refine ⟨c, [], hc, hchannel, ?_, (List.append_nil _).symm⟩
      rw [delivered_setSendQueue, if_neg hagent, List.append_nil]
  | sent agent' host data q i c c' hi hc haccepted _ hdelivered heq =>
    subst heq
    intro d hd
    by_cases hsame : agent' = agent ∧ host = sockfd
    · obtain ⟨rfl, rfl⟩ := hsame
      obtain rfl : i = channel := Option.some.inj (hi.symm.trans hchannel)
      obtain rfl : c = d := Option.some.inj (hc.symm.trans hd)
      refine ⟨c', [(host, data)], Function.update_self _ _ _, hchannel, ?_, ?_⟩
      · exact (delivered_setSendQueue s agent' agent' q).trans ((if_pos rfl).trans hdelivered)
      · rw [messagesOf_single_self, haccepted, List.flatten_cons, List.flatten_nil, List.append_nil]
    · have hother : channel ≠ i := by
        rintro rfl
        exact hsame (hsound.registered.distinct agent sockfd agent' host channel hchannel hi)
      refine ⟨d, if agent = agent' then [(host, data)] else [],
        (Function.update_of_ne hother _ _).trans hd, hchannel, ?_, ?_⟩
      · refine (delivered_setSendQueue s agent' agent q).trans ?_
        split
        · rename_i hagent
          subst hagent
          exact hdelivered
        · exact (List.append_nil _).symm
      · split
        · rename_i hagent
          have hhost : host ≠ sockfd := fun hhost => hsame ⟨hagent.symm, hhost⟩
          rw [messagesOf_single_of_ne hhost, List.flatten_nil, List.append_nil]
        · exact (List.append_nil _).symm
  | heard agent' q _ heq =>
    subst heq
    exact carried_of_same hchannel rfl fun c hc => ⟨c, hc, rfl⟩
  | read address agent' sockfd' i c readableSize r x q service hreads _ _ _ hsteady hheap _ heq =>
    subst heq
    refine carried_of_same ((congrFun (hsteady.channels agent) sockfd).trans hchannel) rfl
      fun d hd => ?_
    obtain ⟨_, _, _, _, _, hc⟩ := TcpService.readsOf_eq_some.mp hreads
    show ∃ c', service.heap channel = some c' ∧ _
    rw [hheap]
    exact update_accepted hc (c.afterRead_accepted readableSize r x.1) channel d hd

theorem carried (h : s.Sound) {agent : Nat} {sockfd : Int} {channel : Nat} {c : Connection}
    (hchannel : (s.service.agents agent).channels sockfd = some channel)
    (hc : s.service.heap channel = some c)
    (hrun : Reaches (step decode) (Calm decode) s t) : Carried agent sockfd channel s t := by
  induction hrun with
  | refl => exact carried_of_same hchannel rfl fun c hc => ⟨c, hc, rfl⟩
  | snoc a hrun hcalm hstep ih =>
    obtain ⟨_, _, _, hchannel', _, _⟩ := ih c hc
    have hmiddle := h.run hrun
    exact ih.trans ((moved hmiddle hcalm hstep).2.carried hmiddle hchannel')

end AgentQueues

end Mysya
