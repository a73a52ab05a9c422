import Mysya.AgentStreams
import Mysya.BroadcastFrames

/-!
# What arrives at an application

The bytes read of a channel are decoded into the receive queue of its agent, as far as they make
whole frames, and the rest waits in the receive buffer. With what is sent on the other side this
gives the messages that one application gets of another.
-/

namespace Mysya

open FrameStream GuardedRuns

namespace AgentQueues

variable {decode : List UInt8 → Option Decoded} {frame : List UInt8 → List UInt8 → Prop}
  {s t : AgentQueues}

/-! ## One read -/

/-- A read appends its bytes, or gets none. -/
theorem receive_bytesRead (c : Connection) {readableSize : Int} {r : ReadResult}
    (hfits : c.ReceiveFits readableSize r) :
    (∃ c', c.receive readableSize r = (c', .done true false) ∧
      c'.receiveBuffer.readable = c.receiveBuffer.readable ++ bytesRead readableSize r) ∨
    (bytesRead readableSize r = [] ∧
      (c.receive readableSize r).1.receiveBuffer.readable = c.receiveBuffer.readable ∧
      ∀ peerClosed, (c.receive readableSize r).2 ≠ .done true peerClosed) := by
  by_cases hsize : readableSize ≤ 0
  · refine .inr ⟨?_, ?_, fun peerClosed => ?_⟩
    · cases r with
      | received data => exact if_pos hsize
      | again => rfl
      | failed errno => rfl
    · rw [Connection.receive, if_pos hsize]
    · rw [Connection.receive, if_pos hsize]
      exact fun h => by cases h
  · cases r with
    | received data =>
      have hreadable := c.receive_readable (by omega) hfits
      have hbytes : bytesRead readableSize (.received data) = data := if_neg hsize
      rw [hbytes]
      by_cases hdata : data.length > 0
      · refine .inl ⟨(c.receive readableSize (.received data)).1, ?_, hreadable⟩
        rw [Connection.receive, if_neg hsize]
        dsimp only
        rw [if_pos hdata]
      · have hnil : data = [] := List.length_eq_zero_iff.mp (by omega)
        subst hnil
        refine .inr ⟨rfl, hreadable.trans (List.append_nil _), fun peerClosed => ?_⟩
        rw [Connection.receive, if_neg hsize]
        exact fun h => by cases h
    | again =>
      refine .inr ⟨rfl, ?_, fun peerClosed => ?_⟩
      · rw [Connection.receive, if_neg hsize]
        exact DynamicBuffer.readable_reserveWritableBytes _ _
      · rw [Connection.receive, if_neg hsize]
        exact fun h => by cases h
    | failed errno =>
      refine .inr ⟨rfl, ?_, fun peerClosed => ?_⟩
      · rw [Connection.receive, if_neg hsize]
        exact DynamicBuffer.readable_reserveWritableBytes _ _
      · rw [Connection.receive, if_neg hsize]
        exact fun h => by cases h

/-- A read decodes the frames that are whole with its bytes. -/
theorem decoded_frames (hframing : Framing decode frame) {c : Connection} {readableSize : Int}
    {r : ReadResult} {x : Nat × List (List UInt8)} (hfits : c.ReceiveFits readableSize r)
    (hsmall : (c.receiveBuffer.readable ++ bytesRead readableSize r).length < 2147483648)
    (hx : decoded decode c readableSize r = some x)
    (hidle : Drained decode c.receiveBuffer.readable) {ms : List (List UInt8)}
    {future : List UInt8} (hframes : Frames frame ms
      (c.receiveBuffer.readable ++ (bytesRead readableSize r ++ future))) :
    ∃ left, ms = x.2 ++ left ∧
      Frames frame left ((c.afterRead readableSize r x.1).receiveBuffer.readable ++ future) ∧
      Drained decode (c.afterRead readableSize r x.1).receiveBuffer.readable := by
  rcases receive_bytesRead c hfits with ⟨c', hreceive, hreadable⟩ | ⟨hbytes, hreadable, hnone⟩
  · rw [← List.append_assoc, ← hreadable] at hframes
    rw [← hreadable] at hsmall
    obtain ⟨size, taken, left, hloop, rfl, hleft, hdone⟩ :=
      decodeLoop_frames hframing hframes hsmall (Nat.lt_succ_self _)
    rw [decoded, hreceive] at hx
    obtain rfl : (size, taken) = x := Option.some.inj (hloop.symm.trans hx)
    have hafter : (c.afterRead readableSize r size).receiveBuffer.readable =
        c'.receiveBuffer.readable.drop size := by
      rw [Connection.afterRead, hreceive]
      exact DynamicBuffer.readable_readBytes _ _
    refine ⟨left, rfl, ?_, ?_⟩
    · rw [hafter]
      exact hleft
    · rw [hafter]
      exact hdone
  · rw [hbytes, List.nil_append] at hframes
    have hzero : x = (0, []) ∧
        (c.afterRead readableSize r 0).receiveBuffer.readable = c.receiveBuffer.readable := by
      rw [decoded] at hx
      rw [Connection.afterRead]
      cases hreceive : c.receive readableSize r with
      | mk c' result =>
        rw [hreceive] at hx hreadable hnone
        cases result with
        | fatal => exact ⟨(Option.some.inj hx).symm, hreadable⟩
        | done received peerClosed =>
          cases received with
          | false =>
            refine ⟨(Option.some.inj hx).symm, ?_⟩
            exact (DynamicBuffer.readable_readBytes _ _).trans hreadable
          | true => exact absurd rfl (hnone peerClosed)
    obtain ⟨rfl, hsame⟩ := hzero
    rw [hsame]
    exact ⟨ms, rfl, hframes, hidle⟩

/-! ## Receiving -/

/-- What was read of a channel of whole frames is in the receive queue of its agent, message by
message, and the rest is in its buffer. -/
structure Heard (decode : List UInt8 → Option Decoded) (frame : List UInt8 → List UInt8 → Prop)
    (s : AgentQueues) : Prop where
  silent : ∀ channel, s.service.heapNum ≤ channel → s.arrived channel = []
  unheard : ∀ agent sockfd, (s.service.agents agent).channels sockfd = none →
    messagesOf sockfd (s.receiveQueues agent).pushed = []
  heard : ∀ agent sockfd channel c, (s.service.agents agent).channels sockfd = some channel →
    s.service.heap channel = some c → ∀ ms future, Frames frame ms (s.arrived channel ++ future) →
      ∃ left, ms = messagesOf sockfd (s.receiveQueues agent).pushed ++ left ∧
        Frames frame left (c.receiveBuffer.readable ++ future) ∧
        Drained decode c.receiveBuffer.readable

theorem start_heard (agentNum : Nat) (now : Timestamp) (timerId : Int) :
    (start agentNum now timerId).Heard decode frame :=
  ⟨fun _ _ => rfl, fun _ _ _ => rfl, fun _ _ _ _ h => (by cases h)⟩

/-- Where nothing is read and no channel is new. -/
theorem Heard.of_same (h : s.Heard decode frame)
    (hchannels : ∀ agent, (t.service.agents agent).channels = (s.service.agents agent).channels)
    (hnum : t.service.heapNum = s.service.heapNum) (harrived : t.arrived = s.arrived)
    (hpushed : ∀ agent, (t.receiveQueues agent).pushed = (s.receiveQueues agent).pushed)
    (hheap : ∀ channel c', t.service.heap channel = some c' →
      ∃ c, s.service.heap channel = some c ∧ c'.receiveBuffer = c.receiveBuffer) :
    t.Heard decode frame where
  silent channel hle := by
    rw [harrived]
    exact h.silent channel (hnum ▸ hle)
  unheard agent sockfd hnone := by
    rw [hpushed]
    exact h.unheard agent sockfd ((congrFun (hchannels agent) sockfd).symm.trans hnone)
  heard agent sockfd channel c' hchannel hc' := by
    obtain ⟨c, hc, hsame⟩ := hheap channel c' hc'
    rw [hpushed, harrived, hsame]
    exact h.heard agent sockfd channel c
      ((congrFun (hchannels agent) sockfd).symm.trans hchannel) hc

/-- A channel that is touched keeps its receive buffer. -/
theorem update_receiveBuffer {heap : Nat → Option Connection} {channel : Nat} {c c' : Connection}
    (hc : heap channel = some c) (hsame : c'.receiveBuffer = c.receiveBuffer) (i : Nat)
    (d' : Connection) (hd' : Function.update heap channel (some c') i = some d') :
    ∃ d, heap i = some d ∧ d'.receiveBuffer = d.receiveBuffer := by
  rw [Function.update_apply] at hd'
  split at hd'
  · rename_i hi
    subst hi
    obtain rfl := Option.some.inj hd'
    exact ⟨c, hc, hsame⟩
  · exact ⟨d', hd', rfl⟩

/-- A new channel, of which nothing was read yet. -/
theorem Heard.opened (h : s.Heard decode frame) (hframing : Framing decode frame)
    (hregistered : s.service.Registered) {agent : Nat} {sockfd : Int} {c : Option Connection}
    (hopened : TcpService.Opened agent sockfd c s.service t.service)
    (hreceive : t.receiveQueues = s.receiveQueues) (harrived : t.arrived = s.arrived) :
    t.Heard decode frame where
  silent channel hle := by
    rw [hopened.heapNum] at hle
    rw [harrived]
    exact h.silent channel (by omega)
  unheard agent' sockfd' hnone := by
    rw [hreceive]
    refine h.unheard agent' sockfd' (Option.eq_none_iff_forall_ne_some.mpr fun channel hsome => ?_)
    have hkept := hopened.keeps hsome
    rw [hnone] at hkept
    cases hkept
  heard agent' sockfd' channel d hchannel hd := by
    rw [hreceive, harrived]
    rcases hopened.channel hchannel with ⟨rfl, rfl, rfl⟩ | hold
    · intro ms future hframes
      rw [h.silent _ (Nat.le_refl _), List.nil_append] at hframes
      rw [hopened.heap, Function.update_self] at hd
      have hempty := (hopened.empty d hd).2
      rw [h.unheard _ _ hopened.fresh, hempty]
      exact ⟨ms, rfl, hframes, (by decide : [].length < 2147483648), hframing.empty⟩
    · have hbound := hregistered.bound agent' sockfd' channel hold
      rw [hopened.heap, Function.update_of_ne (by omega)] at hd
      exact h.heard agent' sockfd' channel d hold hd

theorem pushed_setReceiveQueue (s : AgentQueues) (agent i : Nat) (q : MessageQueue) :
    ((s.setReceiveQueue agent q).receiveQueues i).pushed =
      if i = agent then q.pushed else (s.receiveQueues i).pushed := by
  show (Function.update s.receiveQueues agent q i).pushed = _
  rw [Function.update_apply]
  split
  · rfl
  · rfl

/-- The messages of a read are those of its descriptor. -/
theorem messagesOf_read {agent : Nat} {sockfd : Int} {q : MessageQueue} {l : List (List UInt8)}
    (hpushed : q.pushed = (s.receiveQueues agent).pushed ++ l.map fun m => (sockfd, m)) (i : Nat)
    (fd : Int) : messagesOf fd ((s.setReceiveQueue agent q).receiveQueues i).pushed =
      messagesOf fd (s.receiveQueues i).pushed ++ if i = agent ∧ fd = sockfd then l else [] := by
  rw [pushed_setReceiveQueue]
  by_cases hi : i = agent
  · subst hi
    rw [if_pos rfl, hpushed, messagesOf_append]
    by_cases hfd : fd = sockfd
    · subst hfd
      rw [if_pos ⟨rfl, rfl⟩, messagesOf_map_self]
    · rw [if_neg fun h => hfd h.2, messagesOf_map_of_ne (Ne.symm hfd)]
  · rw [if_neg hi, if_neg fun h => hi h.1, List.append_nil]

/-- A read, of a channel that is the descriptor's. -/
theorem Heard.read (h : s.Heard decode frame) (hframing : Framing decode frame)
    (hregistered : s.service.Registered) {address agent : Nat} {sockfd : Int} {channel : Nat}
    {c : Connection} {readableSize : Int} {r : ReadResult} {x : Nat × List (List UInt8)}
    {q : MessageQueue} {service : TcpService}
    (hreads : s.service.readsOf address = some (agent, sockfd, channel, c))
    (hfits : c.ReceiveFits readableSize r)
    (hsmall : (c.receiveBuffer.readable ++ bytesRead readableSize r).length < 2147483648)
    (hx : decoded decode c readableSize r = some x) (hsteady : TcpService.Steady s.service service)
    (hheap : service.heap = Function.update s.service.heap channel
      (some (c.afterRead readableSize r x.1)))
    (hpushed : q.pushed = (s.receiveQueues agent).pushed ++ x.2.map fun m => (sockfd, m)) :
    { s.setReceiveQueue agent q with
      service := service
      arrived := Function.update s.arrived channel
        (s.arrived channel ++ bytesRead readableSize r) }.Heard decode frame := by
  obtain ⟨socket, hsocket, hagent, hhandle, rfl, hc⟩ := TcpService.readsOf_eq_some.mp hreads
  have hchannel := hregistered.reads address socket agent channel hsocket hagent hhandle
  constructor
  · intro i hle
    have hbound := hregistered.bound agent socket.sockfd channel hchannel
    replace hle : service.heapNum ≤ i := hle
    rw [hsteady.heapNum] at hle
    show Function.update s.arrived channel _ i = []
    rw [Function.update_of_ne (by omega)]
    exact h.silent i hle
  · intro i fd hnone
    replace hnone : (s.service.agents i).channels fd = none :=
      (congrFun (hsteady.channels i) fd).symm.trans hnone
    have hother : ¬ (i = agent ∧ fd = socket.sockfd) := by
      rintro ⟨rfl, rfl⟩
      rw [hchannel] at hnone
      cases hnone
    refine (messagesOf_read hpushed i fd).trans ?_
    rw [if_neg hother, List.append_nil]
    exact h.unheard i fd hnone
  · intro i fd j d hj hd ms future
    replace hj : (s.service.agents i).channels fd = some j :=
      (congrFun (hsteady.channels i) fd).symm.trans hj
    replace hd : service.heap j = some d := hd
    rw [hheap] at hd
    have hmessages := messagesOf_read hpushed i fd
    show Frames frame ms (Function.update s.arrived channel _ j ++ future) → ∃ left,
      ms = messagesOf fd ((s.setReceiveQueue agent q).receiveQueues i).pushed ++ left ∧ _
    by_cases hsame : i = agent ∧ fd = socket.sockfd
    · rw [if_pos hsame] at hmessages
      obtain ⟨rfl, rfl⟩ := hsame
      obtain rfl : channel = j := Option.some.inj (hchannel.symm.trans hj)
      rw [Function.update_self] at hd
      obtain rfl := Option.some.inj hd
      rw [Function.update_self, List.append_assoc, hmessages]
      intro hframes
      obtain ⟨left, rfl, hleft, hidle⟩ := h.heard i _ channel c hj hc ms _ hframes
      obtain ⟨left, rfl, hleft, hidle⟩ := decoded_frames hframing hfits hsmall hx hidle hleft
      exact ⟨left, (List.append_assoc _ _ _).symm, hleft, hidle⟩
    · have hne : j ≠ channel := by
        rintro rfl
        exact hsame (hregistered.distinct agent socket.sockfd i fd j hchannel hj)
      rw [Function.update_of_ne hne] at hd
      rw [Function.update_of_ne hne, hmessages, if_neg hsame, List.append_nil]
      exact h.heard i fd j d hj hd ms future

theorem Moved.hears (h : Moved decode s t) (hframing : Framing decode frame)
    (hregistered : s.service.Registered) (hheard : s.Heard decode frame) :
    t.Heard decode frame := by
  have hkept : ∀ channel c, s.service.heap channel = some c →
      ∃ c', s.service.heap channel = some c' ∧ c.receiveBuffer = c'.receiveBuffer :=
    fun _ c hc => ⟨c, hc, rfl⟩
  cases h with
  | network hturn _ hreceive harrived =>
    have hpushed : ∀ agent, (t.receiveQueues agent).pushed = (s.receiveQueues agent).pushed :=
      fun agent => by rw [hreceive]
    cases hturn with
    | still hsteady hheap =>
      exact hheard.of_same hsteady.channels hsteady.heapNum harrived hpushed
        (fun channel c hc => hkept channel c (hheap ▸ hc))
    | touched channel c c' hsteady hc hheap _ hsame =>
      refine hheard.of_same hsteady.channels hsteady.heapNum harrived hpushed fun i d hd => ?_
      rw [hheap] at hd
      exact update_receiveBuffer hc hsame i d hd
    | opened agent sockfd c hopened =>
      exact hheard.opened hframing hregistered hopened hreceive harrived
  | queued agent q _ heq =>
    subst heq
    exact hheard.of_same (fun _ => rfl) rfl rfl (fun _ => rfl) hkept
  | dropped agent host data q _ _ heq =>
    subst heq
    exact hheard.of_same (fun _ => rfl) rfl rfl (fun _ => rfl) hkept
  | sent agent host data q channel c c' _ hc _ hsame _ heq =>
    subst heq
    exact hheard.of_same (fun _ => rfl) rfl rfl (fun _ => rfl) (update_receiveBuffer hc hsame)
  | heard agent q hpushed heq =>
    subst heq
    refine hheard.of_same (fun _ => rfl) rfl rfl (fun i => ?_) hkept
    rw [pushed_setReceiveQueue]
    split
    · rename_i hi
      subst hi
      exact hpushed
    · rfl
  | read address agent sockfd channel c readableSize r x q service hreads hfits hsmall hx hsteady
      hheap hpushed heq =>
    subst heq
    exact hheard.read hframing hregistered hreads hfits hsmall hx hsteady hheap hpushed

theorem heard (hframing : Framing decode frame) {agentNum : Nat} {now : Timestamp} {timerId : Int}
    (h : Reaches (step decode) (Calm decode) (start agentNum now timerId) s) :
    s.Sound ∧ s.Heard decode frame := by
  refine h.invariant (I := fun s => s.Sound ∧ s.Heard decode frame)
    ⟨start_sound agentNum now timerId, start_heard agentNum now timerId⟩ ?_
  rintro s a t ⟨hsound, hheard⟩ hcalm hstep
  obtain ⟨hnext, hmoved⟩ := moved hsound hcalm hstep
  exact ⟨hnext, hmoved.hears hframing hsound.registered hheard⟩

/-- The application gets the messages whose frames were read, in order. -/
theorem Heard.delivered (h : s.Heard decode frame) (hframing : Framing decode frame)
    (hsound : s.Sound) {agent : Nat} {sockfd : Int} {channel : Nat} {c : Connection}
    (hchannel : (s.service.agents agent).channels sockfd = some channel)
    (hc : s.service.heap channel = some c) {ms : List (List UInt8)} {future : List UInt8}
    (hframes : Frames frame ms (s.arrived channel ++ future)) :
    messagesOf sockfd (s.receiveQueues agent).delivered <+: ms ∧
      (future = [] → 2 ≤ (s.receiveQueues agent).quiet →
        messagesOf sockfd (s.receiveQueues agent).delivered = ms) := by
  obtain ⟨left, rfl, hleft, hidle⟩ := h.heard agent sockfd channel c hchannel hc ms future hframes
  obtain ⟨hsofar, hquiet⟩ := (hsound.receiveQueues agent).delivered
  constructor
  · exact (prefix_messagesOf hsofar sockfd).trans (List.prefix_append _ _)
  · rintro rfl hle
    rw [hquiet hle]
    rw [List.append_nil] at hleft
    rw [hframing.nil_of_drained hleft hidle, List.append_nil]

/-- The kernel and the send buffer have the messages that the application sent, in order. -/
theorem Carried.outgoing {agent : Nat} {sockfd : Int} {channel : Nat}
    (h : Carried agent sockfd channel s t) (hs : s.Sound) (ht : t.Sound) {c : Connection}
    (hc : s.service.heap channel = some c) :
    ∃ c' l, t.service.heap channel = some c' ∧
      c'.wire ++ c'.sendBuffer.readable = c.wire ++ c.sendBuffer.readable ++ l.flatten ∧
      l <+: messagesOf sockfd
        ((t.sendQueues agent).pushed.drop (s.sendQueues agent).delivered.length) ∧
      (2 ≤ (t.sendQueues agent).quiet → l = messagesOf sockfd
        ((t.sendQueues agent).pushed.drop (s.sendQueues agent).delivered.length)) := by
  obtain ⟨c', new, hc', _, hdelivered, haccepted⟩ := h c hc
  obtain ⟨⟨rest, hpushed⟩, hquiet⟩ := (ht.sendQueues agent).delivered
  refine ⟨c', messagesOf sockfd new, hc', ?_, ?_, fun hle => ?_⟩
  · rw [show c'.wire ++ c'.sendBuffer.readable = c'.accepted from ht.intact channel c' hc',
      show c.wire ++ c.sendBuffer.readable = c.accepted from hs.intact channel c hc, haccepted]
  · rw [← hpushed, hdelivered, List.append_assoc, List.drop_left, messagesOf_append]
    exact List.prefix_append _ _
  · rw [← hquiet hle, hdelivered, List.drop_left]

/-! ## Results -/

/-- What an application sends on a descriptor goes to the kernel and the send buffer of its channel
in order, and all of it once two expirations have ended since. -/
theorem sent_in_order (decode : List UInt8 → Option Decoded) (agentNum : Nat) (now : Timestamp)
    (timerId : Int) (s t : AgentQueues)
    (hs : Reaches (step decode) (Calm decode) (start agentNum now timerId) s)
    (ht : Reaches (step decode) (Calm decode) s t) (agent : Nat) (sockfd : Int) (channel : Nat)
    (c : Connection) (hchannel : (s.service.agents agent).channels sockfd = some channel)
    (hc : s.service.heap channel = some c) :
    ∃ c' l, t.service.heap channel = some c' ∧
      c'.wire ++ c'.sendBuffer.readable = c.wire ++ c.sendBuffer.readable ++ l.flatten ∧
      l <+: messagesOf sockfd
        ((t.sendQueues agent).pushed.drop (s.sendQueues agent).delivered.length) ∧
      (2 ≤ (t.sendQueues agent).quiet → l = messagesOf sockfd
        ((t.sendQueues agent).pushed.drop (s.sendQueues agent).delivered.length)) := by
  have hsound := (start_sound agentNum now timerId).run hs
  exact (carried hsound hchannel hc ht).outgoing hsound (hsound.run ht) hc

theorem sent_in_order_frame : ∃ c c', opened.service.heap 0 = some c ∧
    sentFrame.service.heap 0 = some c' ∧
      c'.wire ++ c'.sendBuffer.readable = c.wire ++ c.sendBuffer.readable ++ [1, 0, 0, 0, 7] := by
  have hlive : (opened.service.heap 0).isSome := by decide +kernel
  have hpushed : messagesOf 5 ((sentFrame.sendQueues 0).pushed.drop
      (opened.sendQueues 0).delivered.length) = [[1, 0, 0, 0, 7]] := by decide +kernel
  obtain ⟨c, hc⟩ := Option.isSome_iff_exists.mp hlive
  obtain ⟨c', l, hc', hout, _, hall⟩ := sent_in_order onReceiveDecode 1 ⟨0, 0⟩ 0 opened sentFrame
    opened_reached sentFrame_reached 0 5 0 c (by decide +kernel) hc
  rw [hall (by decide +kernel), hpushed] at hout
  exact ⟨c, c', hc, hc', hout⟩

/-- As long as whole frames come for a descriptor, the application gets their messages in order,
and all of them once two expirations have ended since. -/
theorem received_in_order (decode : List UInt8 → Option Decoded)
    (frame : List UInt8 → List UInt8 → Prop) (hframing : Framing decode frame) (agentNum : Nat)
    (now : Timestamp) (timerId : Int) (s : AgentQueues)
    (hs : Reaches (step decode) (Calm decode) (start agentNum now timerId) s)
    (agent : Nat) (sockfd : Int) (channel : Nat) (c : Connection)
    (hchannel : (s.service.agents agent).channels sockfd = some channel)
    (hc : s.service.heap channel = some c) (ms : List (List UInt8)) (future : List UInt8)
    (hframes : Frames frame ms (s.arrived channel ++ future)) :
    messagesOf sockfd (s.receiveQueues agent).delivered <+: ms ∧
      (future = [] → 2 ≤ (s.receiveQueues agent).quiet →
        messagesOf sockfd (s.receiveQueues agent).delivered = ms) := by
  obtain ⟨hsound, hheard⟩ := heard hframing hs
  exact hheard.delivered hframing hsound hchannel hc hframes

theorem received_in_order_frame : messagesOf 5 (readFrame.receiveQueues 0).delivered = [[7]] := by
  have hlive : (readFrame.service.heap 0).isSome := by decide +kernel
  have harrived : readFrame.arrived 0 = [1, 0, 0, 0, 7] := by decide +kernel
  have hframes : Frames HeadedFrame [[7]] (readFrame.arrived 0 ++ []) := by
    rw [harrived]
    exact frames_of_forall₂ (.cons headedFrame_seven .nil)
  obtain ⟨c, hc⟩ := Option.isSome_iff_exists.mp hlive
  exact (received_in_order onReceiveDecode HeadedFrame headed_framing 1 ⟨0, 0⟩ 0 readFrame
    readFrame_reached 0 5 0 c (by decide +kernel) hc [[7]] [] hframes).2 rfl (by decide +kernel)

end AgentQueues

end Mysya
