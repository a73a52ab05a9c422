import Mathlib.Data.List.Forall2
import Mysya.AgentDeliveries

/-!
# Two applications on a connection

The channel of one is the other end of the channel of the other, so what was read there is a part
of what the kernel was given here.
-/

namespace Mysya

open FrameStream GuardedRuns

namespace AgentQueues

variable {decode : List UInt8 → Option Decoded} {frame : List UInt8 → List UInt8 → Prop}

theorem prefix_forall₂ {ms l l' : List (List UInt8)} (h : List.Forall₂ frame ms l')
    (hl : l <+: l') : ∃ ms', ms' <+: ms ∧ List.Forall₂ frame ms' l := by
  obtain ⟨rest, rfl⟩ := hl
  refine ⟨ms.take l.length, List.take_prefix _ _, ?_⟩
  have htake := List.forall₂_take l.length h
  rwa [List.take_left] at htake

/-- An application gets the messages that the application at the other end sends, in order; and all
of them once both queues have been read since, the send buffer is empty and what the kernel was
given has been read. -/
theorem messages_between (decode : List UInt8 → Option Decoded)
    (frame : List UInt8 → List UInt8 → Prop) (hframing : Framing decode frame)
    (agentNum : Nat) (now : Timestamp) (timerId : Int) (a b : AgentQueues)
    (ha : Reaches (step decode) (Calm decode) (start agentNum now timerId) a)
    (hb : Reaches (step decode) (Calm decode) a b) (agent : Nat) (sockfd : Int) (channel : Nat)
    (c c' : Connection) (hchannel : (a.service.agents agent).channels sockfd = some channel)
    (hc : a.service.heap channel = some c) (hwire : c.wire = [])
    (hunsent : c.sendBuffer.readable = []) (hc' : b.service.heap channel = some c')
    (ms : List (List UInt8)) (hms : List.Forall₂ frame ms (messagesOf sockfd
      ((b.sendQueues agent).pushed.drop (a.sendQueues agent).delivered.length)))
    (agentNum' : Nat) (now' : Timestamp) (timerId' : Int) (r : AgentQueues)
    (hr : Reaches (step decode) (Calm decode) (start agentNum' now' timerId') r)
    (agent' : Nat) (sockfd' : Int) (channel' : Nat) (d : Connection)
    (hchannel' : (r.service.agents agent').channels sockfd' = some channel')
    (hd : r.service.heap channel' = some d) (harrived : r.arrived channel' <+: c'.wire) :
    messagesOf sockfd' (r.receiveQueues agent').delivered <+: ms ∧
      (2 ≤ (b.sendQueues agent).quiet → c'.sendBuffer.readable = [] →
        r.arrived channel' = c'.wire → 2 ≤ (r.receiveQueues agent').quiet →
          messagesOf sockfd' (r.receiveQueues agent').delivered = ms) := by
  have hsound := (start_sound agentNum now timerId).run ha
  obtain ⟨c'', l, hc'', hout, hl, hall⟩ :=
    (carried hsound hchannel hc hb).outgoing hsound (hsound.run hb) hc
  obtain rfl : c' = c'' := Option.some.inj (hc'.symm.trans hc'')
  rw [hwire, hunsent, List.append_nil, List.nil_append] at hout
  obtain ⟨hreceiver, hheard⟩ := heard hframing hr
  obtain ⟨ms', hms', hframes⟩ := prefix_forall₂ hms hl
  have hstream := frames_of_forall₂ hframes
  rw [← hout] at hstream
  constructor
  · obtain ⟨more, hmore⟩ := harrived
    rw [← hmore, List.append_assoc] at hstream
    exact (hheard.delivered hframing hreceiver hchannel' hd hstream).1.trans hms'
  · intro hquiet hempty hwhole hquiet'
    rw [hempty, ← hwhole] at hstream
    rw [(hheard.delivered hframing hreceiver hchannel' hd hstream).2 rfl hquiet']
    have hlength := hframes.length_eq
    rw [hall hquiet, ← hms.length_eq] at hlength
    exact hms'.eq_of_length hlength

theorem messages_between_frame : messagesOf 5 (readFrame.receiveQueues 0).delivered = [[7]] := by
  have hopened : (opened.service.heap 0).isSome := by decide +kernel
  have hsent : (sentFrame.service.heap 0).isSome := by decide +kernel
  have hread : (readFrame.service.heap 0).isSome := by decide +kernel
  obtain ⟨c, hc⟩ := Option.isSome_iff_exists.mp hopened
  obtain ⟨c', hc'⟩ := Option.isSome_iff_exists.mp hsent
  obtain ⟨d, hd⟩ := Option.isSome_iff_exists.mp hread
  have hstart : (opened.service.heap 0).map (fun c => (c.wire, c.sendBuffer.readable)) =
      some ([], []) := by decide +kernel
  have hend : (sentFrame.service.heap 0).map (fun c => (c.wire, c.sendBuffer.readable)) =
      some (readFrame.arrived 0, []) := by decide +kernel
  rw [hc] at hstart
  rw [hc'] at hend
  obtain ⟨hwire, hunsent⟩ := Prod.mk.inj (Option.some.inj hstart)
  obtain ⟨hwire', hunsent'⟩ := Prod.mk.inj (Option.some.inj hend)
  have hpushed : messagesOf 5 ((sentFrame.sendQueues 0).pushed.drop
      (opened.sendQueues 0).delivered.length) = [[1, 0, 0, 0, 7]] := by decide +kernel
  have hframes : List.Forall₂ HeadedFrame [[7]] (messagesOf 5
      ((sentFrame.sendQueues 0).pushed.drop (opened.sendQueues 0).delivered.length)) := by
    rw [hpushed]
    exact .cons headedFrame_seven .nil
  exact (messages_between onReceiveDecode HeadedFrame headed_framing 1 ⟨0, 0⟩ 0 opened sentFrame
    opened_reached sentFrame_reached 0 5 0 c c' (by decide +kernel) hc hwire hunsent hc' [[7]]
    hframes 1 ⟨0, 0⟩ 0 readFrame readFrame_reached 0 5 0 d (by decide +kernel) hd
    (hwire' ▸ List.prefix_refl _)).2 (by decide +kernel) hunsent' hwire'.symm (by decide +kernel)

end AgentQueues

end Mysya
