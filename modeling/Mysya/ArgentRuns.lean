import Mysya.ArgentLink

/-!
# Actions and syncs find their combat

An action under way is for a role that no request before it deploys and that is in the combat of
its user or in none. A sync under way is of a combat that the gateway knows when it comes to it, and
for one of its two actors.
-/

open Std

namespace Mysya

open GuardedRuns Channels CombatManagers

namespace Gateway

variable {s : Gateway}

/-- An actor of a combat is found by its argent id. -/
theorem getActor_of_sides {x : Combat} {ids : List UInt64} {r : UInt64} (h : s.Sides x ids)
    (hr : r ∈ ids) : ∃ name actor, x.Has name ∧ s.combatActors name = some actor ∧
      actor.combatArgentId = r ∧ s.getActorByArgentId x r = some actor := by
  obtain ⟨left, right, a, b, hl, hright, ha, hb, rfl⟩ := h
  obtain ⟨al, hal, rfl⟩ := Option.map_eq_some_iff.mp ha
  obtain ⟨ar, har, rfl⟩ := Option.map_eq_some_iff.mp hb
  rw [getActorByArgentId, hl, hright, Option.bind_some, Option.bind_some, hal, har]
  by_cases hleft : al.combatArgentId = r
  · refine ⟨left, al, .inl hl, hal, hleft, ?_⟩
    rw [Option.filter_some, if_pos (beq_iff_eq.mpr hleft)]
    rfl
  · have hin : r = ar.combatArgentId := by
      rcases List.mem_cons.mp hr with rfl | hr
      · exact absurd rfl hleft
      · exact List.mem_singleton.mp hr
    refine ⟨right, ar, .inr hright, har, hin.symm, ?_⟩
    rw [Option.filter_some, if_neg (fun heq => hleft (beq_iff_eq.mp heq)), Option.none_or,
      Option.filter_some, if_pos (beq_iff_eq.mpr hin.symm)]

/-- An action is sent for the actor of the user, with the combat that it points to. -/
theorem fightsIn_of_action {session : Int → Bool} {sockfd : Int} {data : List UInt8} {x : Combat}
    {message : ArgentRequest}
    (h : s.onMessageCombatActionRequest session sockfd data = some (some (x, message))) :
    ∃ name p, s.FightsIn name p x message.roleArgentId ∧ session x.combatServerId = true := by
  rw [onMessageCombatActionRequest] at h
  split at h
  · cases h
  · cases h
  · rename_i name _
    split at h
    · cases h
    · rename_i actor hactor
      split at h
      · cases h
      · rename_i p hp
        split at h
        · cases h
        · rename_i c hc
          split at h
          · rename_i hsession
            cases h
            refine ⟨name, p, ⟨?_, hc, ?_⟩, hsession⟩
            · rw [fights, hactor]
              exact hp
            · rw [argent, hactor]
              rfl
          · cases h

end Gateway

namespace Link

variable {s t : Link} {a : Gateway.Action} {l : List Server.Request} {g : Gateway}
  {taken : Option CombatMessage} {rest : List CombatMessage} {q : Nat} {k : Int}

/-! ## The table of the gateway -/

/-- A combat stays in the table until a message ends it. -/
theorem Agreed.entry_kept (h : s.Agreed) (hresponses : s.responses = taken.toList ++ rest)
    (hcarries : a.Carries taken) (hturn : Gateway.Turn s.gateway a l g)
    (hq : s.gateway.combats (1, k) = some q) (hends : a.ends ≠ some k) :
    g.combats (1, k) = some q := by
  cases hturn with
  | still _ hstill _ => exact hstill.combats ▸ hq
  | opens _ _ hopens => exact hopens.combats ▸ hq
  | @closes _ p c _ hdooms hcloses =>
    refine h.tracked.filed.kept hcloses hq ?_
    rintro rfl
    rcases dooms_ends hdooms hcarries.ours with ⟨hostId, hhost, hp, _⟩ | ⟨k', hends', hp⟩
    · obtain ⟨c', hc', hid⟩ := h.tracked.filed.pending hostId q hp
      obtain rfl : c = c' := Option.some.inj (hcloses.live.symm.trans hc')
      have hpos := host_pos hresponses hcarries hhost
      exact h.tracked.waiting_left hcloses.live (hid ▸ hpos) (1, k) hq
    · obtain ⟨_, c', hc', hkey⟩ := h.tracked.filed.active (1, k) q hq
      obtain ⟨_, c'', hc'', hkey'⟩ := h.tracked.filed.active (1, k') q hp
      obtain rfl : c' = c'' := Option.some.inj (hc'.symm.trans hc'')
      obtain rfl : k = k' := (Prod.mk.inj (hkey.symm.trans hkey')).2
      exact hends hends'
  | @enters serverId hostId combatId p c _ _ henters =>
    obtain rfl : serverId = 1 := hcarries.ours
    have hfree := (h.tracked.unheard combatId (announced_pos hresponses hcarries rfl)).1
    rw [henters.combats hfree, Function.update_of_ne]
    · exact hq
    · rintro hkey
      rw [hkey, hfree] at hq
      cases hq
  | counts hcounts => exact hcounts.combats ▸ hq

/-- A combat that is announced is entered in the table. -/
theorem Agreed.entered (h : s.Agreed) (hresponses : s.responses = taken.toList ++ rest)
    (hcarries : a.Carries taken) (hturn : Gateway.Turn s.gateway a l g)
    (hannounces : a.announces = some k) : (g.combats (1, k)).isSome := by
  cases hturn with
  | still hmisses _ _ =>
    rw [h.tracked.not_missed hresponses hcarries hmisses] at hannounces
    cases hannounces
  | opens _ _ _ => cases hannounces
  | closes hdooms hcloses =>
    obtain ⟨hnone, _⟩ := hdooms.finds hcarries.ours h.tracked.filed hcloses.live
    rw [hnone] at hannounces
    cases hannounces
  | @enters serverId hostId combatId p c _ _ henters =>
    obtain rfl : serverId = 1 := hcarries.ours
    obtain rfl : combatId = k := Option.some.inj hannounces
    have hfree := (h.tracked.unheard combatId (announced_pos hresponses hcarries rfl)).1
    rw [henters.combats hfree, Function.update_self]
    rfl
  | counts _ => cases hannounces

/-! ## What the server announces -/

/-- The server counts up, and what it announces is new. -/
def AnnouncesNew (u v : Link) : Prop :=
  u.server.managers.combatIds ≤ v.server.managers.combatIds ∧
    ∀ z ∈ v.responses, z ∈ u.responses ∨ ∀ k, z.announces = some k →
      u.server.managers.combatIds ≤ k

theorem Agreed.inside_announces (h : s.Agreed) {a : Server.Action} (ha : a.Inside) :
    AnnouncesNew s (s.serverStep a) := by
  rcases inside_responses h.tracked.tallies.1 ha with ⟨hquiet, heq⟩ |
    ⟨u, c, p, roles, hquiet, _, hsettled, heq⟩
  · exact ⟨hquiet.combatIds.ge, fun z hz => .inl (heq ▸ hz)⟩
  · refine ⟨(hsettled.combatIds.trans hquiet.combatIds).ge, fun z hz => ?_⟩
    rw [heq] at hz
    rcases List.mem_append.mp hz with hz | hz
    · exact .inl hz
    · split at hz
      · rw [List.mem_singleton.mp hz]
        exact .inr fun k hk => by cases hk
      · cases hz

theorem Agreed.request_announces (h : s.Agreed) (y : Server.Request) (rest : List Server.Request) :
    AnnouncesNew s (s.served y rest) := by
  obtain ⟨l, hanswers, hresponses⟩ := served_answers h.tracked.tallies.1 y rest
  obtain ⟨hids, hl⟩ := hanswers.announces
  refine ⟨hids, fun z hz => ?_⟩
  rw [hresponses] at hz
  rcases List.mem_append.mp hz with hz | hz
  · exact .inl hz
  · refine .inr fun k hk => ?_
    have hin : k ∈ l.filterMap CombatMessage.announces := List.mem_filterMap.mpr ⟨z, hz, hk⟩
    rcases hl with hnone | ⟨hone, _⟩
    · rw [hnone] at hin
      cases hin
    · rw [hone] at hin
      exact (List.mem_singleton.mp hin).ge

end Link

namespace ArgentLink

variable {parse : List UInt8 → Option CombatAction} {s t : ArgentLink} {u v : Link}
  {up : List Upward} {down : List Downward} {x : Upward} {y : Downward}

/-! ## What is under way -/

/-- No request before an action deploys its role, and the role is in no other combat than that of
the user. -/
def Meant (u : Link) (before : List Upward) : Upward → Prop
  | .request _ => True
  | .action k message =>
    (∀ hostId data, .request (.deploy hostId data) ∈ before →
      message.roleArgentId ∉ data.argentIds) ∧
    ∀ k', u.InCombat message.roleArgentId k' → k' = k

/-- The gateway knows the combat of a sync once it took what is before it, and the role is one of
the two actors. -/
def Heard (u : Link) (before : List Downward) : Downward → Prop
  | .message _ => True
  | .sync message => ∃ r, message.roleArgentId = some r ∧
    message.combatId < u.server.managers.combatIds ∧
    (∀ y, .message y ∈ before → y.ends ≠ some message.combatId) ∧
    ((∃ y, .message y ∈ before ∧ y.announces = some message.combatId) ∨
      (u.gateway.combats (1, message.combatId)).isSome) ∧
    ∀ q x, u.gateway.memory q = some x → u.Answered q x message.combatId →
      ∃ ids, u.gateway.Sides x ids ∧ r ∈ ids

structure Routed (s : ArgentLink) : Prop where
  actions : Preceded (Meant s.link) s.requests
  syncs : Preceded (Heard s.link) s.responses

/-- Roles that only leave their combats do not spoil what an action means. -/
theorem Meant.mono (h : Meant u up x) {up' : List Upward} (hsub : ∀ x ∈ up', x ∈ up)
    (hleave : ∀ r k, v.InCombat r k → u.InCombat r k ∨ ∃ hostId data,
      .request (.deploy hostId data) ∈ up ∧ r ∈ data.argentIds) : Meant v up' x := by
  cases x with
  | request r => trivial
  | action k message =>
    refine ⟨fun hostId data hin => h.1 hostId data (hsub _ hin), fun k' hk' => ?_⟩
    rcases hleave _ k' hk' with hin | ⟨hostId, data, hr, hin⟩
    · exact h.2 k' hin
    · exact absurd hin (h.1 hostId data hr)

/-- The server does not change what the gateway knows of the combats it has. -/
theorem Heard.serves (h : Heard u down y) (hgateway : v.gateway = u.gateway)
    (hannounces : Link.AnnouncesNew u v) : Heard v down y := by
  obtain ⟨hids, hresponses⟩ := hannounces
  cases y with
  | message z => trivial
  | sync message =>
    obtain ⟨r, hr, hlt, hends, hknown, hsides⟩ := h
    refine ⟨r, hr, Int.lt_of_lt_of_le hlt hids, hends, hgateway ▸ hknown, fun q x hx hanswered => ?_⟩
    rw [hgateway] at hx ⊢
    refine hsides q x hx ?_
    rcases hanswered with hq | ⟨z, hz, hannounces, hhost⟩
    · exact .inl (hgateway ▸ hq)
    · rcases hresponses z hz with hold | hnew
      · exact .inr ⟨z, hold, hannounces, hhost⟩
      · have hle := hnew _ hannounces
        omega

/-- The gateway takes what is before a sync. -/
theorem Heard.turn (hagreed : u.Agreed) {a : Gateway.Action} {l : List Server.Request} {g : Gateway}
    {taken : Option CombatMessage} {rest : List CombatMessage}
    (hresponses : u.responses = taken.toList ++ rest) (hcarries : a.Carries taken)
    (hturn : Gateway.Turn u.gateway a l g)
    (h : Heard u (taken.toList.map Downward.message ++ down) y) :
    Heard ({ u with responses := rest }.asking g) down y := by
  cases y with
  | message z => trivial
  | sync message =>
    obtain ⟨r, hr, hlt, hends, hknown, hsides⟩ := h
    have hlasts : a.ends ≠ some message.combatId := by
      rw [hcarries.ends]
      cases taken with
      | none => exact fun heq => by cases heq
      | some z => exact hends z (List.mem_cons_self ..)
    refine ⟨r, hr, hlt, fun z hz => hends z (List.mem_append_right _ hz), ?_,
      fun q x hx hanswered => ?_⟩
    · rcases hknown with ⟨z, hz, hannounces⟩ | hactive
      · rcases List.mem_append.mp hz with hz | hz
        · obtain ⟨z', hz', heq⟩ := List.mem_map.mp hz
          obtain rfl := Downward.message.inj heq
          have htaken : taken = some z' := Option.mem_toList.mp hz'
          refine .inr (hagreed.entered hresponses hcarries hturn ?_)
          rw [hcarries.announces, htaken]
          exact hannounces
        · exact .inl ⟨z, hz, hannounces⟩
      · obtain ⟨q, hq⟩ := Option.isSome_iff_exists.mp hactive
        exact .inr (Option.isSome_of_eq_some
          (hagreed.entry_kept hresponses hcarries hturn hq hlasts))
    · rcases hturn.origin hx with ⟨x', hx', hid, hal, har⟩ | ⟨hnone, hid, _⟩
      · obtain ⟨ids, hsides', hin⟩ := hsides q x' hx'
          (hagreed.answered_turn hresponses hcarries hturn hx' hid hanswered)
        exact ⟨ids, hsides'.same hal har hturn.argents, hin⟩
      · exact absurd hanswered (hagreed.unanswered hresponses hcarries hturn hnone hid)

theorem preceded_requests (P : List Upward → Upward → Prop) (h : Preceded P up)
    (hP : ∀ before r, P before (.request r)) (l : List Server.Request) :
    Preceded P (up ++ l.map .request) := by
  refine h.append fun before x after heq => ?_
  have hin : x ∈ l.map Upward.request := by
    rw [heq]
    exact List.mem_append_right _ (List.mem_cons_self ..)
  obtain ⟨r, _, rfl⟩ := List.mem_map.mp hin
  exact hP _ r

theorem preceded_messages (P : List Downward → Downward → Prop) (h : Preceded P down)
    (hP : ∀ before z, P before (.message z)) (l : List CombatMessage) :
    Preceded P (down ++ l.map .message) := by
  refine h.append fun before y after heq => ?_
  have hin : y ∈ l.map Downward.message := by
    rw [heq]
    exact List.mem_append_right _ (List.mem_cons_self ..)
  obtain ⟨z, _, rfl⟩ := List.mem_map.mp hin
  exact hP _ z

/-! ## Steps -/

/-- The gateway goes on after it took a message, or does something else. -/
theorem Routed.turn (h : s.Routed) (hagreed : s.link.Agreed) {a : Gateway.Action}
    {l : List Server.Request} {g : Gateway} {taken : Option CombatMessage} {rest : List Downward}
    (hresponses : s.responses = taken.toList.map Downward.message ++ rest)
    (hcarries : a.Carries taken) (hturn : Gateway.Turn s.gateway a l g) :
    ({ s with responses := rest }.asking g).Routed := by
  have hlink : s.link.responses = taken.toList ++ rest.filterMap Downward.message? := by
    show s.responses.filterMap _ = _
    rw [hresponses, List.filterMap_append, filterMap_message]
  have hafter : ({ s with responses := rest }.asking g).link =
      { s.link with responses := rest.filterMap Downward.message? }.asking g := link_asking _ g
  constructor
  · refine preceded_requests _ (h.actions.mono fun before x hx => ?_) (fun _ _ => trivial) _
    exact hx.mono (fun _ => id) fun r k hk => .inl hk
  · rw [hafter]
    show Preceded _ rest
    have hsyncs := h.syncs
    rw [hresponses] at hsyncs
    cases taken with
    | none => exact hsyncs.mono fun before y hy => Heard.turn hagreed hlink hcarries hturn hy
    | some z => exact hsyncs.taken fun before y hy => Heard.turn hagreed hlink hcarries hturn hy

/-- The server does something that no request about a combat asks for. -/
theorem Routed.inside (h : s.Routed) (hagreed : s.link.Agreed) {a : Server.Action}
    (ha : a.Inside) : (s.serving (s.server.step a)).Routed := by
  constructor
  · rw [link_serving]
    exact h.actions.mono fun before x hx => hx.mono (fun _ => id) fun r k hk =>
      .inl (hagreed.inCombat_inside ha hk)
  · rw [link_serving]
    exact preceded_messages _ (h.syncs.mono fun before y hy =>
      hy.serves (v := s.link.serverStep a) rfl (hagreed.inside_announces ha)) (fun _ _ => trivial) _

theorem Routed.request (h : s.Routed) (hagreed : s.link.Agreed) {r : Server.Request}
    {rest : List Upward} (hrequests : s.requests = .request r :: rest)
    (hguard : ∀ hostId data, r = .deploy hostId data →
      s.server.managers.refusesRoleBuilding data = false) :
    ({ s with requests := rest, begun := s.begun ++ r.begins.toList }.serving
      (s.server.step (r.action Link.session))).Routed := by
  have hafter : ({ s with requests := rest, begun := s.begun ++ r.begins.toList }.serving
      (s.server.step (r.action Link.session))).link =
        s.link.served r (rest.filterMap Upward.request?) := link_serving _ _
  obtain ⟨hleaves, _⟩ := hagreed.inCombat_request (rest.filterMap Upward.request?) hguard
  constructor
  · rw [hafter]
    have hactions := h.actions
    rw [hrequests] at hactions
    refine hactions.taken fun before x hx =>
      hx.mono (fun x hin => List.mem_cons_of_mem _ hin) fun r' k hk => ?_
    rcases hleaves r' k hk with hin | ⟨hostId, data, rfl, hin⟩
    · exact .inl hin
    · exact .inr ⟨hostId, data, List.mem_cons_self .., hin⟩
  · rw [hafter]
    exact preceded_messages _ (h.syncs.mono fun before y hy =>
      hy.serves (v := s.link.served r (rest.filterMap Upward.request?)) rfl
        (hagreed.request_announces r _)) (fun _ _ => trivial) _

/-- The first action is taken. -/
theorem Routed.acted (h : s.Routed) {k : Int} {message : ArgentRequest} {rest : List Upward}
    (hrequests : s.requests = .action k message :: rest) : Routed { s with requests := rest } := by
  have hactions := h.actions
  rw [hrequests] at hactions
  constructor
  · rw [link_action hrequests]
    exact hactions.taken fun before x hx =>
      hx.mono (fun x hin => List.mem_cons_of_mem _ hin) fun r k hk => .inl hk
  · rw [link_action hrequests]
    exact h.syncs

/-- The first sync is taken. -/
theorem Routed.heard (h : s.Routed) {message : ArgentSync} {rest : List Downward}
    (hresponses : s.responses = .sync message :: rest) : Routed { s with responses := rest } := by
  have hsyncs := h.syncs
  rw [hresponses] at hsyncs
  constructor
  · rw [link_sync hresponses]
    exact h.actions
  · rw [link_sync hresponses]
    refine hsyncs.taken fun before y hy => ?_
    cases y with
    | message z => trivial
    | sync message =>
      obtain ⟨r, hr, hlt, hends, hknown, hsides⟩ := hy
      refine ⟨r, hr, hlt, fun z hz => hends z (List.mem_cons_of_mem _ hz), ?_, hsides⟩
      rcases hknown with ⟨z, hz, hannounces⟩ | hactive
      · rcases List.mem_cons.mp hz with heq | hz
        · cases heq
        · exact .inl ⟨z, hz, hannounces⟩
      · exact .inr hactive

/-- A user acts for the role that the actor has in the combat it points to. -/
theorem Routed.act (h : s.Routed) (hknown : s.link.Known) {sockfd : Int} {data : List UInt8}
    {sent : Option (Combat × ArgentRequest)}
    (hsent : s.gateway.onMessageCombatActionRequest (fun serverId => serverId = 1) sockfd data =
      some sent) : (s.acting sent).Routed := by
  constructor
  · rw [link_acting]
    refine h.actions.append fun before x after heq => ?_
    cases sent with
    | none =>
      cases before with
      | nil => cases heq
      | cons z before => cases heq
    | some sent =>
      obtain ⟨c, message⟩ := sent
      obtain ⟨rfl, rfl, rfl⟩ : before = [] ∧ x = .action c.combatArgentId message ∧ after = [] := by
        cases before with
        | nil => exact ⟨rfl, (List.cons.inj heq).1.symm, (List.cons.inj heq).2.symm⟩
        | cons z before =>
          cases before with
          | nil => cases (List.cons.inj heq).2
          | cons z' before => cases (List.cons.inj heq).2
      obtain ⟨name, p, hfights, hserver⟩ := Gateway.fightsIn_of_action hsent
      have hserver : c.combatServerId = 1 := of_decide_eq_true hserver
      have hentry : s.gateway.combats c.argentKey = some p :=
        (hknown.agreed.tracked.filed.deployed p c hfights.live).resolve_right fun hnone => by
          rw [hserver] at hnone
          cases hnone.1
      have hanswered : s.link.Answered p c c.combatArgentId := by
        left
        rw [Combat.argentKey, hserver] at hentry
        exact hentry
      rw [List.append_nil]
      refine ⟨fun hostId data hr => ?_, ?_⟩
      · exact hknown.placed.done name p c _ _ hfights hanswered hostId data
          (List.mem_filterMap.mpr ⟨_, hr, rfl⟩)
      · exact hknown.placed.here name p c _ _ hfights hanswered
  · rw [link_acting]
    exact h.syncs

/-- The server broadcasts to the roles of a combat that it has. -/
theorem Routed.broadcast (h : s.Routed) (hagreed : s.link.Agreed) {c : Int} {p : Ptr}
    (hp : s.server.managers.combats[c]? = some p) (type : Int) (data : List UInt8) :
    (s.broadcasting (s.syncs p type data)).Routed := by
  obtain ⟨_, hid, hlt⟩ := hagreed.consistent.combats c p hp
  have hplays : ∀ q x, s.gateway.memory q = some x → s.link.Answered q x c → s.link.Plays x p := by
    intro q x hx hanswered
    rcases hanswered with hq | ⟨z, hz, hannounces, hhost⟩
    · exact hagreed.active c p q x hq hx hp
    · exact hagreed.told z hz c p q x hannounces hp hx hhost
  have hmessage : ∀ z, .message z ∈ s.responses ↔ z ∈ s.link.responses := by
    intro z
    refine ⟨fun hz => List.mem_filterMap.mpr ⟨_, hz, rfl⟩, fun hz => ?_⟩
    obtain ⟨y, hy, hz⟩ := List.mem_filterMap.mp hz
    cases y with
    | message z' => exact Option.some.inj hz ▸ hy
    | sync message => cases hz
  constructor
  · rw [link_broadcasting]
    exact h.actions
  · rw [link_broadcasting]
    refine h.syncs.append fun before y after heq => ?_
    have hbefore : ∀ z, .message z ∈ s.responses ++ before → .message z ∈ s.responses := by
      intro z hz
      refine (List.mem_append.mp hz).resolve_right fun hz => ?_
      have hin : .message z ∈ (s.syncs p type data).map Downward.sync := by
        rw [heq]
        exact List.mem_append_left _ hz
      obtain ⟨_, _, hz⟩ := List.mem_map.mp hin
      cases hz
    have hin : y ∈ (s.syncs p type data).map Downward.sync := by
      rw [heq]
      exact List.mem_append_right _ (List.mem_cons_self ..)
    obtain ⟨message, hsync, rfl⟩ := List.mem_map.mp hin
    obtain ⟨x, hx, hsent⟩ := List.mem_filterMap.mp hsync
    obtain ⟨r, hr, hmessage'⟩ := mem_broadcastRoles hx
    split at hsent
    · obtain rfl := Option.some.inj hsent
      have hcombat : (s.server.managers.combat p).id = c := hid
      rw [hmessage', hcombat]
      refine ⟨r, rfl, hlt, fun z hz hends => ?_, ?_, fun q x hx hanswered => ?_⟩
      · have hnone := (hagreed.ended z ((hmessage z).mp (hbefore z hz)) c hends).2
        rw [show s.link.server.managers.combats[c]? = some p from hp] at hnone
        cases hnone
      · refine ((hagreed.known c).mp (.inl (Option.isSome_of_eq_some hp))).imp_left fun hheard => ?_
        obtain ⟨z, hz, hannounces⟩ := List.mem_filterMap.mp hheard
        exact ⟨z, List.mem_append_left _ ((hmessage z).mpr hz), hannounces⟩
      · obtain ⟨ids, hsides, hroles⟩ := hplays q x hx hanswered
        exact ⟨ids, hsides, (hroles r).mp (ExtTreeSet.mem_toList.mp hr)⟩
    · cases hsent

theorem Routed.step (h : s.Routed) (hknown : s.link.Known) {a : Action} (husual : s.Usual a)
    (hstep : s.step parse a = some t) : t.Routed := by
  have hagreed := hknown.agreed
  cases a with
  | gateway a =>
    obtain ⟨g, hg, rfl⟩ := Option.map_eq_some_iff.mp hstep
    obtain ⟨l, hturn⟩ := Gateway.turn hagreed.tracked.sided hg
    have hresponses : s.responses =
        (none : Option CombatMessage).toList.map Downward.message ++ s.responses := rfl
    exact h.turn hagreed hresponses (Gateway.FromUser.carries husual.1) hturn
  | act sockfd data =>
    obtain ⟨sent, hsent, rfl⟩ := Option.map_eq_some_iff.mp hstep
    exact h.act hknown hsent
  | server a =>
    cases hstep
    exact h.inside hagreed husual
  | broadcast combatId type data =>
    rw [ArgentLink.step] at hstep
    split at hstep
    · cases hstep
      exact h
    · rename_i p hp
      cases hstep
      exact h.broadcast hagreed hp type data
  | request =>
    rw [ArgentLink.step] at hstep
    split at hstep
    · cases hstep
      exact h
    · rename_i r rest hrequests
      cases hstep
      refine h.request hagreed hrequests fun hostId data heq => ?_
      rw [Usual, hrequests, heq] at husual
      exact husual
    · rename_i k message rest hrequests
      cases hstep
      have hacted := h.acted hrequests
      rcases Server.argentRequest_inside s.server parse message with heq | ⟨a, ha, heq⟩
      · have hsame := serving_same { s with requests := rest }
        rw [heq]
        exact hsame.symm ▸ hacted
      · rw [heq]
        exact hacted.inside ((link_action hrequests).symm ▸ hagreed) ha
  | response =>
    rw [ArgentLink.step] at hstep
    split at hstep
    · cases hstep
      exact h
    · rename_i z rest hresponses
      obtain ⟨g, hg, rfl⟩ := Option.map_eq_some_iff.mp hstep
      obtain ⟨a, l, hturn, hcarries⟩ := Gateway.receive_turn hagreed.tracked.sided hg
      have htaken : s.responses = (some z).toList.map Downward.message ++ rest := hresponses
      exact h.turn hagreed htaken hcarries hturn
    · rename_i message rest hresponses
      obtain ⟨_, _, rfl⟩ := Option.map_eq_some_iff.mp hstep
      exact h.heard hresponses

variable {maps : Int → Option MapConf} {warriorConfs : List WarriorDescription}
  {configs : Server.Configs} {memory : Server.Memory}

theorem routed (h : Reaches (step parse) Usual (start maps warriorConfs configs memory) s) :
    s.link.Known ∧ s.Routed := by
  refine ⟨Link.known (reaches_link h), ?_⟩
  induction h with
  | refl => exact ⟨preceded_nil, preceded_nil⟩
  | snoc a hreached husual hstep ih => exact ih.step (Link.known (reaches_link hreached)) husual hstep

/-! ## A user who acts -/

def room : ArgentLink := start Gateway.plainMap [] Link.roomConfigs Link.roomMemory

/-- Two users meet, their combat begins, one of them acts, and the server has something to say. -/
def playing : List Action := Gateway.pairing.map .gateway ++
  [.request, .response, .request, .request, .response, .response, .request, .response, .act 7 [],
    .broadcast 0 1003 [1]]

def played : ArgentLink := (run (step fun _ => none) playing room).getD room

theorem run_playing : run (step fun _ => none) playing room = some played := by
  have hsome : (run (step fun _ => none) playing room).isSome := by decide
  obtain ⟨s, hs⟩ := Option.isSome_iff_exists.mp hsome
  rw [played, hs]
  rfl

theorem played_reached : Reaches (step fun _ => none) Usual room played :=
  Reaches.refl.run (l := playing) (by decide +kernel) run_playing

/-- An action that the server takes is for a role in the combat that the user was in, or for one
that is not there. -/
theorem actions_in_place (maps : Int → Option MapConf) (warriorConfs : List WarriorDescription)
    (configs : Server.Configs) (memory : Server.Memory) (parse : List UInt8 → Option CombatAction)
    (s : ArgentLink) (h : Reaches (step parse) Usual (start maps warriorConfs configs memory) s)
    (k : Int) (message : ArgentRequest) (rest : List Upward)
    (hfirst : s.requests = .action k message :: rest) (q : Ptr)
    (hq : s.server.managers.roles[message.roleArgentId]? = some q) :
    ∃ p, (s.server.managers.role q).combatField = some p ∧
      s.server.managers.combats[k]? = some p := by
  obtain ⟨hknown, hrouted⟩ := routed h
  have hactions := hrouted.actions
  rw [hfirst] at hactions
  obtain ⟨_, hhere⟩ := hactions.first
  have hconsistent := hknown.agreed.consistent
  rcases hconsistent.joined _ q hq with hnone | ⟨c, p, hp, hin⟩
  · cases hnone
  · obtain rfl := hhere c ⟨p, hp, hin⟩
    obtain ⟨q', hq', hcombat⟩ := hconsistent.members c p _ hp hin
    obtain rfl : q = q' := Option.some.inj (hq.symm.trans hq')
    exact ⟨p, hcombat, hp⟩

theorem actions_in_place_played : ∃ q p, played.server.managers.roles[(1 : UInt64)]? = some q ∧
    (played.server.managers.role q).combatField = some p ∧
      played.server.managers.combats[(0 : Int)]? = some p := by
  have hthere : (played.server.managers.roles[(1 : UInt64)]?).isSome := by decide
  obtain ⟨q, hq⟩ := Option.isSome_iff_exists.mp hthere
  obtain ⟨message, rest, hfirst, hrole⟩ : ∃ message rest,
      played.requests = .action 0 message :: rest ∧ message.roleArgentId = 1 :=
    ⟨_, _, rfl, rfl⟩
  obtain ⟨p, hcombat, hp⟩ := actions_in_place Gateway.plainMap [] Link.roomConfigs Link.roomMemory _
    played played_reached 0 message rest hfirst q (hrole ▸ hq)
  exact ⟨q, p, hq, hcombat, hp⟩

/-- A sync that the gateway takes finds its combat in the table and its actor among the two, and
goes to the user who is logged in as the actor. -/
theorem syncs_arrive (maps : Int → Option MapConf) (warriorConfs : List WarriorDescription)
    (configs : Server.Configs) (memory : Server.Memory) (parse : List UInt8 → Option CombatAction)
    (s : ArgentLink) (h : Reaches (step parse) Usual (start maps warriorConfs configs memory) s)
    (message : ArgentSync) (rest : List Downward) (hfirst : s.responses = .sync message :: rest) :
    ∃ q x name actor, s.gateway.combats (1, message.combatId) = some q ∧
      s.gateway.memory q = some x ∧ x.Has name ∧ s.gateway.combatActors name = some actor ∧
        message.roleArgentId = some actor.combatArgentId ∧
          s.gateway.onMessageCombatArgentSync 1 message =
            some ((s.gateway.online name).map fun sockfd =>
              ⟨sockfd, message.type, message.data⟩).toList := by
  obtain ⟨hknown, hrouted⟩ := routed h
  have hsyncs := hrouted.syncs
  rw [hfirst] at hsyncs
  obtain ⟨r, hr, _, _, hactive, hsides⟩ := hsyncs.first
  obtain ⟨q, hq⟩ : ∃ q, s.gateway.combats (1, message.combatId) = some q := by
    rcases hactive with ⟨z, hz, _⟩ | hactive
    · cases hz
    · exact Option.isSome_iff_exists.mp hactive
  obtain ⟨_, x, hlive, _⟩ := hknown.agreed.tracked.filed.active _ q hq
  have hx : s.gateway.memory q = some x := hlive
  obtain ⟨ids, hids, hin⟩ := hsides q x hx (.inl hq)
  have hids : s.gateway.Sides x ids := hids
  obtain ⟨name, actor, hhas, hactor, rfl, hfound⟩ := Gateway.getActor_of_sides hids hin
  refine ⟨q, x, name, actor, hq, hx, hhas, hactor, hr, ?_⟩
  have honline : s.gateway.online name = actor.actor := by
    rw [Gateway.online, hactor]
    rfl
  rw [Gateway.onMessageCombatArgentSync, hq]
  dsimp only
  rw [hx, hr, honline]
  dsimp only
  rw [hfound]

theorem syncs_arrive_played : ∃ message rest, played.responses = .sync message :: rest ∧
    ∃ x name, played.gateway.memory 0 = some x ∧ x.Has name ∧
      played.gateway.onMessageCombatArgentSync 1 message =
        some ((played.gateway.online name).map fun sockfd =>
          ⟨sockfd, message.type, message.data⟩).toList := by
  obtain ⟨message, rest, hfirst, hcombat⟩ : ∃ message rest,
      played.responses = .sync message :: rest ∧ message.combatId = 0 := ⟨_, _, rfl, rfl⟩
  obtain ⟨q, x, name, actor, hq, hx, hhas, _, _, hsent⟩ := syncs_arrive Gateway.plainMap []
    Link.roomConfigs Link.roomMemory _ played played_reached message rest hfirst
  have hentry : played.gateway.combats (1, 0) = some 0 := by decide
  rw [hcombat, hentry, Option.some.injEq] at hq
  exact ⟨message, rest, hfirst, x, name, hq ▸ hx, hhas, hsent⟩

/-- Once a combat was begun, what the server broadcasts goes to each of its two actors, once. -/
theorem broadcasts_complete (maps : Int → Option MapConf) (warriorConfs : List WarriorDescription)
    (configs : Server.Configs) (memory : Server.Memory) (parse : List UInt8 → Option CombatAction)
    (s : ArgentLink) (h : Reaches (step parse) Usual (start maps warriorConfs configs memory) s)
    (c : Int) (p : Ptr) (hbegun : c ∈ s.begun) (hp : s.server.managers.combats[c]? = some p)
    (type : Int) (data : List UInt8) :
    ∃ q x left right a b, s.gateway.combats (1, c) = some q ∧ s.gateway.memory q = some x ∧
      x.al = some left ∧ x.ar = some right ∧ s.gateway.argent left = some a ∧
      s.gateway.argent right = some b ∧ (s.syncs p type data).Nodup ∧
      ∀ message, message ∈ s.syncs p type data ↔
        message = ⟨c, some a, type, data⟩ ∨ message = ⟨c, some b, type, data⟩ := by
  obtain ⟨hknown, _⟩ := routed h
  have hagreed := hknown.agreed
  have hbeginning : c ∈ s.link.beginning := List.mem_append_left _ hbegun
  obtain ⟨q, hq⟩ := Option.isSome_iff_exists.mp (hagreed.begun_active hbeginning hp)
  obtain ⟨_, x, hx, _⟩ := hagreed.tracked.filed.active (1, c) q hq
  obtain ⟨ids, ⟨left, right, a, b, hl, hr, ha, hb, rfl⟩, hroles⟩ := hagreed.active c p q x hq hx hp
  have hid : (s.server.managers.combat p).id = c := (hagreed.consistent.combats c p hp).2.1
  have hsyncs : s.syncs p type data = (s.server.managers.combat p).roles.toList.map fun r =>
      ⟨c, some r, type, data⟩ := by
    have hconnected : ∀ r ∈ (s.server.managers.combat p).roles.toList,
        s.server.managers.ConnectedTo Link.session r := fun r hin =>
      hagreed.begun_connected hbeginning hp (ExtTreeSet.mem_toList.mp hin)
    rw [syncs, broadcastMessage, hid, broadcastRoles_connected hconnected, List.filterMap_map]
    refine (List.filterMap_congr fun r _ => ?_).trans (congrFun List.filterMap_eq_map _)
    simp only [Function.comp_apply, if_true]
  have hdistinct : (s.server.managers.combat p).roles.toList.Nodup :=
    ExtTreeSet.distinct_toList.imp fun hne heq => hne (compare_eq_iff_eq.mpr heq)
  refine ⟨q, x, left, right, a, b, hq, hx, hl, hr, ha, hb, ?_, fun message => ?_⟩
  · rw [hsyncs]
    refine hdistinct.map fun r r' heq => ?_
    exact Option.some.inj (ArgentSync.mk.inj heq).2.1
  · rw [hsyncs, List.mem_map]
    constructor
    · rintro ⟨r, hin, rfl⟩
      rcases List.mem_cons.mp ((hroles r).mp (ExtTreeSet.mem_toList.mp hin)) with rfl | hin
      · exact .inl rfl
      · rw [List.mem_singleton.mp hin]
        exact .inr rfl
    · rintro (rfl | rfl)
      · exact ⟨a, ExtTreeSet.mem_toList.mpr ((hroles a).mpr (List.mem_cons_self ..)), rfl⟩
      · exact ⟨b, ExtTreeSet.mem_toList.mpr ((hroles b).mpr
          (List.mem_cons_of_mem _ (List.mem_cons_self ..))), rfl⟩

theorem broadcasts_complete_played : (played.syncs 0 1003 [1]).Nodup ∧ ∃ a b,
    ∀ message, message ∈ played.syncs 0 1003 [1] ↔
      message = ⟨0, some a, 1003, [1]⟩ ∨ message = ⟨0, some b, 1003, [1]⟩ := by
  obtain ⟨_, _, _, _, a, b, _, _, _, _, _, _, hnodup, hsyncs⟩ := broadcasts_complete
    Gateway.plainMap [] Link.roomConfigs Link.roomMemory _ played played_reached 0 0 (by decide)
      (by decide) 1003 [1]
  exact ⟨hnodup, a, b, hsyncs⟩

end ArgentLink

end Mysya
