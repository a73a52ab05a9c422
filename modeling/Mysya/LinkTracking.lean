import Mysya.GatewayLink

/-!
# Each combat is deployed, connected and begun once

Each step of the gateway takes one message and asks what follows upon it, and each request that the
combat server takes is answered under the same key. So the messages under way fit what the parties
know, in all runs.
-/

namespace Mysya

open GuardedRuns Channels

namespace Gateway

variable {s t : Gateway} {p : Nat} {c : Combat} {l : List Server.Request} {a : Gateway.Action}
  {message : CombatMessage} {k : Int}

/-! ## What a message is about -/

def Action.hostId : Action → Option Int
  | .deployResponse _ hostId _ _ => some hostId
  | _ => none

def Action.connects : Action → Option Int
  | .connectArgentResponse _ combatId _ => some combatId
  | _ => none

def Action.announces : Action → Option Int
  | .deployResponse _ _ true combatId => some combatId
  | _ => none

def Action.settles : Action → Option Int
  | .settlementSync _ combatId => some combatId
  | _ => none

def Action.ends : Action → Option Int
  | .connectArgentResponse _ combatId false => some combatId
  | .beginResponse _ combatId false => some combatId
  | .settlementSync _ combatId => some combatId
  | _ => none

/-- The message is one of the combat server 1, or there is a session to it. -/
def Action.Ours : Action → Prop
  | .combatRequest _ _ _ session => session = true
  | .deployResponse serverId _ _ _ => serverId = 1
  | .connectArgentResponse serverId _ _ => serverId = 1
  | .beginResponse serverId _ _ => serverId = 1
  | .settlementSync serverId _ => serverId = 1
  | _ => True

/-- The step has the keys of the message that is taken, and none if none is. -/
structure Action.Carries (taken : Option CombatMessage) (a : Action) : Prop where
  ours : a.Ours
  hostId : a.hostId = taken.bind CombatMessage.hostId
  connects : a.connects = taken.bind CombatMessage.connects
  announces : a.announces = taken.bind CombatMessage.announces
  settles : a.settles = taken.bind CombatMessage.settles
  ends : a.ends = taken.bind CombatMessage.ends

theorem FromUser.carries (h : s.FromUser a) : a.Carries none := by
  cases a with
  | connected sockfd => exact ⟨trivial, rfl, rfl, rfl, rfl, rfl⟩
  | loginRequest sockfd name allocated session => exact ⟨trivial, rfl, rfl, rfl, rfl, rfl⟩
  | combatRequest sockfd parsed allocated session => exact ⟨h.1, rfl, rfl, rfl, rfl, rfl⟩
  | close sockfd => exact ⟨trivial, rfl, rfl, rfl, rfl, rfl⟩
  | deployResponse serverId hostId complete combatId => cases h
  | connectArgentResponse serverId combatId complete => cases h
  | beginResponse serverId combatId complete => cases h
  | settlementSync serverId combatId => cases h

/-- A message does to the combats what the action with its keys does. -/
theorem receive_turn (hsided : s.Sided) (hreceive : s.receive message = some t) :
    ∃ a l, Turn s a l t ∧ a.Carries (some message) := by
  cases message with
  | deployResponse hostId result combatId =>
    obtain ⟨l, hturn⟩ := turn (a := .deployResponse 1 hostId (result = .complete) (combatId.getD 0))
      hsided hreceive
    refine ⟨_, l, hturn, rfl, rfl, rfl, ?_, rfl, rfl⟩
    cases result with
    | complete => rfl
    | failure => rfl
  | connectArgentResponse complete r combatId =>
    obtain ⟨l, hturn⟩ := turn (a := .connectArgentResponse 1 combatId complete) hsided hreceive
    refine ⟨_, l, hturn, rfl, rfl, rfl, rfl, rfl, ?_⟩
    cases complete with
    | true => rfl
    | false => rfl
  | reconnectResponse r combatId =>
    obtain ⟨_, _, rfl⟩ := Option.map_eq_some_iff.mp hreceive
    exact ⟨.connected 0, [], .still trivial (.refl s) idle_nil,
      ⟨trivial, rfl, rfl, rfl, rfl, rfl⟩⟩
  | beginResponse success combatId =>
    obtain ⟨l, hturn⟩ := turn (a := .beginResponse 1 combatId success) hsided hreceive
    refine ⟨_, l, hturn, rfl, rfl, rfl, rfl, rfl, ?_⟩
    cases success with
    | true => rfl
    | false => rfl
  | settlementSync combatId roles =>
    obtain ⟨l, hturn⟩ := turn (a := .settlementSync 1 combatId) hsided hreceive
    exact ⟨_, l, hturn, rfl, rfl, rfl, rfl, rfl, rfl⟩

theorem Misses.not_host (h : s.Misses a) (hk : (s.pendingCombats k).isSome) : a.hostId ≠ some k := by
  cases a with
  | deployResponse serverId hostId complete combatId =>
    rintro hhost
    obtain rfl : hostId = k := Option.some.inj hhost
    rw [show s.pendingCombats hostId = none from h] at hk
    cases hk
  | _ => exact fun hhost => by cases hhost

theorem Misses.not_connects (h : s.Misses a) (hours : a.Ours) (hk : (s.combats (1, k)).isSome) :
    a.connects ≠ some k := by
  cases a with
  | connectArgentResponse serverId combatId complete =>
    intro hconnects
    obtain rfl : combatId = k := Option.some.inj hconnects
    obtain rfl : serverId = 1 := hours
    rw [show s.combats (1, combatId) = none from h] at hk
    cases hk
  | _ => exact fun hconnects => by cases hconnects

/-- A message that ends a combat finds it under its key. -/
theorem Dooms.finds (h : s.Dooms p a) (hours : a.Ours) (hfiled : s.Filed) (hc : s.memory p = some c) :
    a.announces = none ∧ (∀ k, a.hostId = some k → k = c.id) ∧
      (∀ k, a.connects = some k → s.combats (1, k) = some p) ∧
      (a.hostId = some c.id ∨ ∃ k, s.combats (1, k) = some p) := by
  cases a with
  | deployResponse serverId hostId complete combatId =>
    obtain ⟨rfl, hp⟩ := h
    obtain ⟨c', hc', rfl⟩ := hfiled.pending hostId p hp
    obtain rfl : c = c' := Option.some.inj (hc.symm.trans hc')
    exact ⟨rfl, fun k hk => (Option.some.inj hk).symm, fun k hk => (by cases hk), .inl rfl⟩
  | connectArgentResponse serverId combatId complete =>
    obtain rfl : serverId = 1 := hours
    refine ⟨rfl, fun k hk => (by cases hk), fun k hk => ?_, .inr ⟨combatId, h.2⟩⟩
    obtain rfl : combatId = k := Option.some.inj hk
    exact h.2
  | beginResponse serverId combatId complete =>
    obtain rfl : serverId = 1 := hours
    exact ⟨rfl, fun k hk => (by cases hk), fun k hk => (by cases hk), .inr ⟨combatId, h.2⟩⟩
  | settlementSync serverId combatId =>
    obtain rfl : serverId = 1 := hours
    exact ⟨rfl, fun k hk => (by cases hk), fun k hk => (by cases hk), .inr ⟨combatId, h⟩⟩
  | _ => cases h

theorem Reconnects.keys (h : Reconnects l) : l.filterMap Server.Request.hostId = [] ∧
    l.filterMap Server.Request.connects = [] ∧ l.filterMap Server.Request.begins = [] := by
  have hnone : ∀ r ∈ l, r.hostId = none ∧ r.connects = none ∧ r.begins = none := by
    intro r hr
    obtain ⟨_, _, rfl⟩ := h r hr
    exact ⟨rfl, rfl, rfl⟩
  simp only [List.filterMap_eq_nil_iff]
  exact ⟨fun r hr => (hnone r hr).1, fun r hr => (hnone r hr).2.1, fun r hr => (hnone r hr).2.2⟩

end Gateway

namespace CombatManagers

variable {session : SessionPtr} {m m' : CombatManagers} {r : Server.Request}
  {l : List CombatMessage}

/-- Each request is answered under its keys, unless it has none. -/
theorem Answers.keys (h : Answers session m r l m') : (l = [] ∧ r.hostId = none ∧ r.connects = none) ∨
      ∃ y, l = [y] ∧ r.hostId = y.hostId ∧ r.connects = y.connects := by
  cases h with
  | refused _ => exact .inr ⟨_, rfl, rfl, rfl⟩
  | granted _ _ => exact .inr ⟨_, rfl, rfl, rfl⟩
  | connected _ => exact .inr ⟨_, rfl, rfl, rfl⟩
  | reconnected _ hl =>
    rcases hl with rfl | rfl
    · exact .inl ⟨rfl, rfl, rfl⟩
    · exact .inr ⟨_, rfl, rfl, rfl⟩
  | begun _ hl =>
    rcases hl with rfl | rfl
    · exact .inl ⟨rfl, rfl, rfl⟩
    · exact .inr ⟨_, rfl, rfl, rfl⟩

/-- The only combat that is announced is new. -/
theorem Answers.announces (h : Answers session m r l m') : m.combatIds ≤ m'.combatIds ∧
      (l.filterMap CombatMessage.announces = [] ∨
        l.filterMap CombatMessage.announces = [m.combatIds] ∧ m.combatIds < m'.combatIds) := by
  cases h with
  | refused hrefuses => exact ⟨hrefuses.combatIds, .inl rfl⟩
  | @granted _ _ _ t hgrants _ =>
    have hids : t.combatIds = m.combatIds + 1 := hgrants.combatIds
    refine ⟨?_, .inr ⟨rfl, ?_⟩⟩
    · show m.combatIds ≤ t.combatIds
      omega
    · show m.combatIds < t.combatIds
      omega
  | connected hstays => exact ⟨hstays.combatIds.ge, .inl rfl⟩
  | reconnected hstays hl =>
    refine ⟨hstays.combatIds.ge, .inl ?_⟩
    rcases hl with rfl | rfl
    · rfl
    · rfl
  | begun hstays hl =>
    refine ⟨hstays.combatIds.ge, .inl ?_⟩
    rcases hl with rfl | rfl
    · rfl
    · rfl

end CombatManagers

namespace Link

variable {s t : Link} {a : Gateway.Action} {l : List Server.Request} {p : Nat} {c : Combat}
  {k : Int}

/-! ## Steps of the gateway -/

/-- What is under way after the gateway took `a` and asked `l`. -/
structure Flow (a : Gateway.Action) (l : List Server.Request) (s t : Link) : Prop where
  server : t.server = s.server
  hosts : ∀ k, t.hosts.count k + (if a.hostId = some k then 1 else 0) =
    s.hosts.count k + (l.filterMap Server.Request.hostId).count k
  connecting : ∀ k, t.connecting.count k + (if a.connects = some k then 1 else 0) =
    s.connecting.count k + (l.filterMap Server.Request.connects).count k
  announced : ∀ k, t.announced.count k + (if a.announces = some k then 1 else 0) =
    s.announced.count k
  beginning : ∀ k, t.beginning.count k =
    s.beginning.count k + (l.filterMap Server.Request.begins).count k

theorem count_toList (o : Option Int) (k : Int) :
    o.toList.count k = if o = some k then 1 else 0 := by
  cases o with
  | none => rfl
  | some k' => simp [List.count_singleton]

/-- The gateway takes the first message, or does something else. -/
theorem flow {taken : Option CombatMessage} {g : Gateway} {rest : List CombatMessage}
    (hresponses : s.responses = taken.toList ++ rest) (hasks : s.gateway.asked g = l)
    (hcarries : a.Carries taken) :
    Flow a l s ({ s with responses := rest }.asking g) := by
  have hhosts : ∀ k, (keys Server.Request.hostId CombatMessage.hostId s.requests
      s.responses).count k = (keys Server.Request.hostId CombatMessage.hostId s.requests
        rest).count k + (if a.hostId = some k then 1 else 0) := by
    intro k
    rw [hresponses, hcarries.hostId]
    cases taken with
    | none => rfl
    | some y =>
      rw [Option.bind_some, ← count_toList]
      exact count_taken _ _ k
  have hconnecting : ∀ k, (keys Server.Request.connects CombatMessage.connects s.requests
      s.responses).count k = (keys Server.Request.connects CombatMessage.connects s.requests
        rest).count k + (if a.connects = some k then 1 else 0) := by
    intro k
    rw [hresponses, hcarries.connects]
    cases taken with
    | none => rfl
    | some y =>
      rw [Option.bind_some, ← count_toList]
      exact count_taken _ _ k
  have hannounced : ∀ k, (s.responses.filterMap CombatMessage.announces).count k =
      (rest.filterMap CombatMessage.announces).count k +
        (if a.announces = some k then 1 else 0) := by
    intro k
    rw [hresponses, hcarries.announces]
    cases taken with
    | none => rfl
    | some y =>
      rw [Option.bind_some, ← count_toList]
      cases hy : y.announces with
      | none => simp [hy]
      | some k' =>
        simp only [Option.toList_some, List.singleton_append, List.filterMap_cons, hy,
          List.count_cons, List.count_nil]
        omega
  refine ⟨rfl, fun k => ?_, fun k => ?_, fun k => (hannounced k).symm, fun k => ?_⟩
  · have hasked : ({ s with responses := rest }.asking g).hosts.count k = _ :=
      count_asked s.requests (s.gateway.asked g) rest k
    rw [hasked, hasks, Link.hosts, hhosts k]
    omega
  · have hasked : ({ s with responses := rest }.asking g).connecting.count k = _ :=
      count_asked s.requests (s.gateway.asked g) rest k
    rw [hasked, hasks, Link.connecting, hconnecting k]
    omega
  · show (s.begun ++ (s.requests ++ s.gateway.asked g).filterMap _).count k = _
    rw [hasks, List.filterMap_append, ← List.append_assoc, List.count_append]
    rfl

/-- A new combat is deployed at most once. -/
theorem Tracked.hosts_le (h : s.Tracked) (k : Int) : s.hosts.count k ≤ 1 := by
  rcases Nat.eq_zero_or_pos (s.hosts.count k) with hzero | hpos
  · omega
  · obtain ⟨p, hp⟩ := h.awaited k hpos
    obtain ⟨c, hc, rfl⟩ := h.filed.pending k p hp
    rw [h.waits p c hc]
    split
    · exact Nat.le_refl 1
    · exact Nat.zero_le 1

theorem Tracked.still (h : s.Tracked) (hflow : Flow a l s t) (hmisses : s.gateway.Misses a)
    (hours : a.Ours) (hstill : Gateway.Still s.gateway t.gateway l) (hl : Gateway.Idle a l) :
    t.Tracked := by
  obtain ⟨hhosts, hconnects, hbegins⟩ := hl.reconnects.keys
  obtain ⟨hserver, hflowHosts, hflowConnecting, hflowAnnounced, hflowBeginning⟩ := hflow
  rw [hhosts] at hflowHosts
  rw [hconnects] at hflowConnecting
  rw [hbegins] at hflowBeginning
  simp only [List.count_nil, Nat.add_zero] at hflowHosts hflowConnecting hflowBeginning
  have hsided : t.gateway.Sided := h.sided.turn (.still hmisses hstill hl)
  refine ⟨hsided, h.filed.still hstill, hserver ▸ h.tallies, fun k hk => ?_, fun p c hc => ?_,
    fun c hc => ?_, fun c => ?_, fun c hc => ?_, fun c p x hp hx => ?_, fun c => ?_⟩
  · rw [hstill.pendingCombats]
    have hcount := hflowHosts k
    exact h.awaited k (by omega)
  · rw [hstill.memory] at hc
    have hcount := hflowHosts c.id
    rw [if_neg (hmisses.not_host (Option.isSome_of_eq_some (h.filed.live p c hc).1))] at hcount
    rw [← h.waits p c hc]
    exact hcount
  · rw [hserver]
    refine h.named c (hc.imp ?_ ?_)
    · rw [hstill.combats]
      exact id
    · have hcount := hflowAnnounced c
      have hcount' := hflowConnecting c
      have hcount'' := hflowBeginning c
      omega
  · have hcount := hflowAnnounced c
    have hle := h.announced c
    omega
  · rw [hstill.combats]
    have hcount := hflowAnnounced c
    have hcount' := hflowConnecting c
    have hcount'' := hflowBeginning c
    obtain ⟨hnone, hconnecting, hbeginning⟩ := h.unheard c (by omega)
    exact ⟨hnone, by omega, by omega⟩
  · rw [hstill.combats] at hp
    rw [hstill.memory] at hx
    have hcount := hflowConnecting c
    rw [if_neg (hmisses.not_connects hours (Option.isSome_of_eq_some hp))] at hcount
    obtain ⟨hnum, hbeginning⟩ := h.connected c p x hp hx
    rw [hflowBeginning c, ← hbeginning]
    exact ⟨by omega, rfl⟩
  · rw [hflowBeginning c]
    exact h.begun c

theorem Tracked.opens (h : s.Tracked) {left right : String} (hflow : Flow a l s t)
    (hfree : a.hostId = none ∧ a.connects = none ∧ a.announces = none)
    (hsided : t.gateway.Sided)
    (hopens : Gateway.Opens left right p true s.gateway t.gateway l) : t.Tracked := by
  obtain ⟨c₀, hmemory, hidentity, hnum⟩ := hopens.memory
  have hid : c₀.id = s.gateway.idAllocator + 1 := congrArg (fun i => i.1) hidentity
  have hkey : c₀.combatServerId = 0 := congrArg (fun i => i.2.1.1) hidentity
  have hpending := hopens.pendingCombats h.filed.fresh
  obtain ⟨x, y, data, _, _, _, hl⟩ := hopens.sides
  rw [if_pos rfl] at hl
  subst hl
  have hhosts : ∀ k, t.hosts.count k =
      s.hosts.count k + if s.gateway.idAllocator + 1 = k then 1 else 0 := fun k => by
    simpa [hfree.1, Server.Request.hostId, List.count_singleton] using hflow.hosts k
  have hconnecting : ∀ k, t.connecting.count k = s.connecting.count k := fun k => by
    simpa [hfree.2.1, List.filterMap_cons, Server.Request.connects] using hflow.connecting k
  have hannounced : ∀ k, t.announced.count k = s.announced.count k := fun k => by
    simpa [hfree.2.2] using hflow.announced k
  have hbeginning : ∀ k, t.beginning.count k = s.beginning.count k := fun k => by
    simpa [List.filterMap_cons, Server.Request.begins] using hflow.beginning k
  -- Nothing was deployed under the new id.
  have hnew : s.hosts.count (s.gateway.idAllocator + 1) = 0 := by
    by_contra hpos
    obtain ⟨q, hq⟩ := h.awaited _ (Nat.pos_of_ne_zero hpos)
    rw [h.filed.fresh] at hq
    cases hq
  refine ⟨hsided, h.filed.opens hopens, hflow.server ▸ h.tallies, fun k hk => ?_, fun q c hc => ?_,
    fun c hc => ?_, fun c => ?_, fun c hc => ?_, fun c q x hq hx => ?_, fun c => ?_⟩
  · rw [hpending]
    by_cases heq : k = s.gateway.idAllocator + 1
    · exact ⟨p, by rw [heq, Function.update_self]⟩
    · rw [Function.update_of_ne heq]
      have hcount := hhosts k
      rw [if_neg fun h => heq h.symm] at hcount
      exact h.awaited k (by omega)
  · rw [hmemory] at hc
    rcases Table.insert_some hc with ⟨rfl, rfl⟩ | ⟨_, hold⟩
    · rw [hhosts, hid, hnew, if_pos rfl, if_pos hkey]
    · have hle := (h.filed.live q c hold).2
      rw [hhosts, if_neg (by omega), h.waits q c hold, Nat.add_zero]
  · rw [hflow.server]
    refine h.named c (hc.imp ?_ ?_)
    · rw [hopens.combats]
      exact id
    · rw [hannounced, hconnecting, hbeginning]
      exact id
  · rw [hannounced]
    exact h.announced c
  · rw [hannounced] at hc
    rw [hopens.combats, hconnecting, hbeginning]
    exact h.unheard c hc
  · rw [hopens.combats] at hq
    rw [hconnecting, hbeginning]
    obtain ⟨_, x', hx', _⟩ := h.filed.active (1, c) q hq
    have hne : q ≠ p := by
      rintro rfl
      rw [hopens.free] at hx'
      cases hx'
    rw [hmemory, Function.update_of_ne hne] at hx
    exact h.connected c q x hq hx
  · rw [hbeginning]
    exact h.begun c

theorem Tracked.closes (h : s.Tracked) (hflow : Flow a [] s t) (hdooms : s.gateway.Dooms p a)
    (hours : a.Ours) (hcloses : Gateway.Closes p c s.gateway t.gateway) : t.Tracked := by
  obtain ⟨hnone, hhost, hconnects, hfound⟩ := hdooms.finds hours h.filed hcloses.live
  have hhosts : ∀ k, t.hosts.count k + (if a.hostId = some k then 1 else 0) = s.hosts.count k :=
    hflow.hosts
  have hconnecting : ∀ k, t.connecting.count k + (if a.connects = some k then 1 else 0) =
    s.connecting.count k := hflow.connecting
  have hannounced : ∀ k, t.announced.count k = s.announced.count k := fun k => by
    simpa [hnone] using hflow.announced k
  have hbeginning : ∀ k, t.beginning.count k = s.beginning.count k := hflow.beginning
  -- The combat is not being deployed any more.
  have hover : t.hosts.count c.id = 0 := by
    have hcount := hhosts c.id
    rcases hfound with heq | ⟨k, hk⟩
    · rw [if_pos heq] at hcount
      have hle := h.hosts_le c.id
      omega
    · obtain ⟨hserver, c', hc', hkey⟩ := h.filed.active (1, k) p hk
      obtain rfl : c = c' := Option.some.inj (hcloses.live.symm.trans hc')
      have hone : c.combatServerId = 1 := congrArg Prod.fst hkey
      have hwaits := h.waits p c hc'
      rw [if_neg (by omega)] at hwaits
      omega
  have hsided := h.sided.turn (.closes hdooms hcloses)
  refine ⟨hsided, h.filed.closes hcloses, hflow.server ▸ h.tallies, fun k hk => ?_, fun q x hx => ?_,
    fun k hk => ?_, fun k => ?_, fun k hk => ?_, fun k q x hq hx => ?_, fun k => ?_⟩
  · have hcount := hhosts k
    obtain ⟨q, hq⟩ := h.awaited k (by omega)
    refine ⟨q, ?_⟩
    have hne : k ≠ c.id := by
      rintro rfl
      omega
    rw [hcloses.pendingCombats, Function.update_of_ne hne]
    exact hq
  · rw [hcloses.memory] at hx
    obtain ⟨hne, hx⟩ := Table.erase_some hx
    have hcount := hhosts x.id
    have hother : a.hostId ≠ some x.id := fun heq =>
      hne (h.filed.same hcloses.live hx (hhost x.id heq))
    rw [if_neg hother] at hcount
    rw [← h.waits q x hx]
    exact hcount
  · rw [hflow.server]
    refine h.named k (hk.imp (fun hactive => ?_) ?_)
    · obtain ⟨q, hq⟩ := Option.isSome_iff_exists.mp hactive
      exact Option.isSome_of_eq_some (h.filed.left hcloses hq).1
    · have hcount := hconnecting k
      rw [hannounced, hbeginning]
      omega
  · rw [hannounced]
    exact h.announced k
  · rw [hannounced] at hk
    obtain ⟨hfree, hno, hnot⟩ := h.unheard k hk
    have hcount := hconnecting k
    rw [hbeginning]
    refine ⟨?_, by omega, hnot⟩
    cases hq : t.gateway.combats (1, k) with
    | none => rfl
    | some q =>
      rw [(h.filed.left hcloses hq).1] at hfree
      cases hfree
  · obtain ⟨hq, hne, _⟩ := h.filed.left hcloses hq
    rw [hcloses.memory, Function.update_of_ne hne] at hx
    have hcount := hconnecting k
    have hother : a.connects ≠ some k := fun heq => by
      rw [hconnects k heq, Option.some.injEq] at hq
      exact hne hq.symm
    rw [if_neg hother, Nat.add_zero] at hcount
    rw [hcount, hbeginning]
    exact h.connected k q x hq hx
  · rw [hbeginning]
    exact h.begun k

theorem Tracked.enters (h : s.Tracked) {hostId combatId : Int}
    (hflow : Flow (.deployResponse 1 hostId true combatId) l s t)
    (henters : Gateway.Enters 1 hostId combatId p c s.gateway t.gateway l) : t.Tracked := by
  obtain ⟨_, _, x, y, _, _, _, _, hl⟩ := henters.sides
  rw [if_pos rfl] at hl
  subst hl
  obtain ⟨c', hc', hid⟩ := h.filed.pending hostId p henters.found
  obtain rfl : c = c' := Option.some.inj (henters.live.symm.trans hc')
  have hhosts : ∀ k, t.hosts.count k + (if hostId = k then 1 else 0) = s.hosts.count k :=
    fun k => by simpa [Gateway.Action.hostId, List.filterMap_cons, Server.Request.hostId]
      using hflow.hosts k
  have hconnecting : ∀ k, t.connecting.count k =
      s.connecting.count k + if combatId = k then 2 else 0 := fun k => by
    have hcount := hflow.connecting k
    simp only [Gateway.Action.connects, List.filterMap_cons, Server.Request.connects,
      List.filterMap_nil, List.count_cons, List.count_nil, beq_iff_eq, reduceCtorEq, if_false,
      Nat.add_zero] at hcount
    rw [hcount]
    split
    · rfl
    · rfl
  have hannounced : ∀ k, t.announced.count k + (if combatId = k then 1 else 0) =
      s.announced.count k := fun k => by
    simpa [Gateway.Action.announces] using hflow.announced k
  have hbeginning : ∀ k, t.beginning.count k = s.beginning.count k := fun k => by
    simpa [List.filterMap_cons, Server.Request.begins] using hflow.beginning k
  have hcount := hhosts c.id
  have hwaits := h.waits p c henters.live
  rw [if_pos hid.symm] at hcount
  have hnew : c.combatServerId = 0 := by
    by_contra hne
    rw [if_neg hne] at hwaits
    omega
  have hheard := hannounced combatId
  rw [if_pos rfl] at hheard
  obtain ⟨hfree, hno, hnot⟩ := h.unheard combatId (by omega)
  have hone := h.announced combatId
  have hcombats := henters.combats hfree
  -- The combat was not deployed, so nobody was connected to it.
  have hnum : c.connectedNum = 0 := by
    rcases h.filed.deployed p c henters.live with hown | ⟨_, hnum⟩
    · have hserver : c.argentKey.1 = 1 := (h.filed.active _ p hown).1
      have hzero : c.argentKey.1 = 0 := hnew
      omega
    · exact hnum
  refine ⟨h.sided.turn (.enters henters), h.filed.enters henters hfree hnew,
    hflow.server ▸ h.tallies, fun k hk => ?_, fun q z hz => ?_, fun k hk => ?_, fun k => ?_,
    fun k hk => ?_, fun k q z hq hz => ?_, fun k => ?_⟩
  · rw [henters.pendingCombats]
    have hcount := hhosts k
    exact h.awaited k (by omega)
  · rw [henters.memory] at hz
    rcases Table.insert_some hz with ⟨rfl, rfl⟩ | ⟨hne, hold⟩
    · show t.hosts.count c.id = if (1 : Int) = 0 then 1 else 0
      rw [if_pos hnew] at hwaits
      rw [if_neg (by omega)]
      omega
    · have hcount := hhosts z.id
      have hother : hostId ≠ z.id := fun heq =>
        hne (h.filed.same henters.live hold (heq.symm.trans hid.symm))
      rw [if_neg hother] at hcount
      rw [← h.waits q z hold]
      exact hcount
  · rw [hflow.server]
    by_cases heq : k = combatId
    · subst heq
      exact h.named k (.inr (by omega))
    · refine h.named k (hk.imp ?_ ?_)
      · rw [hcombats, Function.update_of_ne fun hkey => heq (Prod.mk.inj hkey).2]
        exact id
      · have hcount := hannounced k
        rw [hconnecting, hbeginning, if_neg fun h => heq h.symm]
        omega
  · have hcount := hannounced k
    have hle := h.announced k
    omega
  · have hcount := hannounced k
    have hne : k ≠ combatId := by
      rintro rfl
      rw [if_pos rfl] at hcount
      omega
    obtain ⟨hnone, hconnects, hbegins⟩ := h.unheard k (by omega)
    rw [hcombats, Function.update_of_ne fun hkey => hne (Prod.mk.inj hkey).2, hconnecting,
      hbeginning, if_neg fun h => hne h.symm]
    exact ⟨hnone, hconnects, hbegins⟩
  · rw [hcombats] at hq
    rw [hconnecting, hbeginning]
    rcases Table.insert_some hq with ⟨hkey, rfl⟩ | ⟨hkey, hold⟩
    · obtain rfl : k = combatId := (Prod.mk.inj hkey).2
      rw [henters.memory, Function.update_self, Option.some.injEq] at hz
      rw [← hz, if_pos rfl, hno, hnot]
      show c.connectedNum + _ = 2 ∧ 0 = if c.connectedNum = 2 then 1 else 0
      rw [hnum]
      exact ⟨rfl, rfl⟩
    · have hne : q ≠ p := by
        rintro rfl
        obtain ⟨hserver, c'', hc'', hkey'⟩ := h.filed.active (1, k) q hold
        obtain rfl : c = c'' := Option.some.inj (henters.live.symm.trans hc'')
        have hone : c.combatServerId = 1 := congrArg Prod.fst hkey'
        omega
      rw [henters.memory, Function.update_of_ne hne] at hz
      rw [if_neg fun heq => hkey (congrArg _ heq.symm), Nat.add_zero]
      exact h.connected k q z hold hz
  · rw [hbeginning]
    exact h.begun k

theorem Tracked.counts (h : s.Tracked) {combatId : Int}
    (hflow : Flow (.connectArgentResponse 1 combatId true) l s t)
    (hcounts : Gateway.Counts 1 combatId p c s.gateway t.gateway l) : t.Tracked := by
  obtain ⟨hnum, hbegins⟩ := h.connected combatId p c hcounts.found hcounts.live
  have hhosts : ∀ k, t.hosts.count k = s.hosts.count k := fun k => by
    have hl : l.filterMap Server.Request.hostId = [] := by
      rw [hcounts.begins]
      split
      · rfl
      · rfl
    simpa [Gateway.Action.hostId, hl] using hflow.hosts k
  have hconnecting : ∀ k, t.connecting.count k + (if combatId = k then 1 else 0) =
      s.connecting.count k := fun k => by
    have hl : l.filterMap Server.Request.connects = [] := by
      rw [hcounts.begins]
      split
      · rfl
      · rfl
    simpa [Gateway.Action.connects, hl] using hflow.connecting k
  have hannounced : ∀ k, t.announced.count k = s.announced.count k := fun k => by
    simpa [Gateway.Action.announces] using hflow.announced k
  have hown := hconnecting combatId
  rw [if_pos rfl] at hown
  have hbeginning : ∀ k, t.beginning.count k =
      s.beginning.count k + if combatId = k ∧ c.connectedNum = 1 then 1 else 0 := fun k => by
    have hcount := hflow.beginning k
    rw [hcount, hcounts.begins]
    have hboth : c.connectedNum + 1 ≥ 2 ∧ (1 : Int) = 1 ↔ c.connectedNum = 1 := by omega
    by_cases hlast : c.connectedNum = 1
    · rw [if_pos (hboth.mpr hlast)]
      simp [Server.Request.begins, List.count_singleton, hlast]
    · rw [if_neg fun h => hlast (hboth.mp h), if_neg fun h => hlast h.2]
      rfl
  have hnot : s.beginning.count combatId = 0 := by
    rw [hbegins, if_neg (by omega)]
  refine ⟨h.sided.turn (.counts hcounts), h.filed.counts hcounts, hflow.server ▸ h.tallies,
    fun k hk => ?_, fun q x hx => ?_, fun k hk => ?_, fun k => ?_, fun k hk => ?_,
    fun k q x hq hx => ?_, fun k => ?_⟩
  · rw [hhosts] at hk
    rw [hcounts.pendingCombats]
    exact h.awaited k hk
  · rw [hcounts.memory] at hx
    rw [hhosts]
    rcases Table.insert_some hx with ⟨rfl, rfl⟩ | ⟨_, hold⟩
    · exact h.waits q c hcounts.live
    · exact h.waits q x hold
  · rw [hflow.server]
    by_cases heq : k = combatId
    · subst heq
      exact h.named k (.inl (Option.isSome_of_eq_some hcounts.found))
    · refine h.named k (hk.imp ?_ ?_)
      · rw [hcounts.combats]
        exact id
      · have hcount := hconnecting k
        rw [hannounced, hbeginning, if_neg fun h => heq h.1.symm]
        omega
  · rw [hannounced]
    exact h.announced k
  · rw [hannounced] at hk
    obtain ⟨hnone, hconnects, hbegins⟩ := h.unheard k hk
    have hne : combatId ≠ k := by
      rintro rfl
      rw [hcounts.found] at hnone
      cases hnone
    have hcount := hconnecting k
    rw [if_neg hne] at hcount
    rw [hcounts.combats, hbeginning, if_neg fun h => hne h.1]
    exact ⟨hnone, hcount.trans hconnects, hbegins⟩
  · rw [hcounts.combats] at hq
    rw [hbeginning]
    have hcount := hconnecting k
    by_cases heq : combatId = k
    · subst heq
      obtain rfl : p = q := Option.some.inj (hcounts.found.symm.trans hq)
      rw [hcounts.memory, Function.update_self, Option.some.injEq] at hx
      rw [← hx]
      show c.connectedNum + 1 + _ = 2 ∧ _ = if c.connectedNum + 1 = 2 then 1 else 0
      rw [hnot, Nat.zero_add]
      refine ⟨by omega, ?_⟩
      by_cases hlast : c.connectedNum = 1
      · rw [if_pos ⟨rfl, hlast⟩, if_pos (by omega)]
      · rw [if_neg fun h => hlast h.2, if_neg (by omega)]
    · have hne : q ≠ p := by
        rintro rfl
        obtain ⟨_, c', hc', hkey⟩ := h.filed.active (1, k) q hq
        obtain ⟨_, c'', hc'', hkey'⟩ := h.filed.active (1, combatId) q hcounts.found
        obtain rfl : c' = c'' := Option.some.inj (hc'.symm.trans hc'')
        exact heq (Prod.mk.inj (hkey'.symm.trans hkey)).2
      rw [hcounts.memory, Function.update_of_ne hne] at hx
      rw [if_neg heq, Nat.add_zero] at hcount
      rw [hcount, if_neg fun h => heq h.1, Nat.add_zero]
      exact h.connected k q x hq hx
  · rw [hbeginning]
    have hle := h.begun k
    split
    · rename_i hlast
      rw [← hlast.1, hnot]
    · exact hle

/-- A step of the gateway keeps track. -/
theorem Tracked.turn (h : s.Tracked) (hflow : Flow a l s t) (hours : a.Ours)
    (hturn : Gateway.Turn s.gateway a l t.gateway) : t.Tracked := by
  have hsided := h.sided.turn hturn
  cases hturn with
  | still hmisses hstill hl => exact h.still hflow hmisses hours hstill hl
  | opens _ _ hopens =>
    obtain rfl := hours
    exact h.opens hflow ⟨rfl, rfl, rfl⟩ hsided hopens
  | closes hdooms hcloses => exact h.closes hflow hdooms hours hcloses
  | enters henters =>
    obtain rfl := hours
    exact h.enters hflow henters
  | counts hcounts =>
    obtain rfl := hours
    exact h.counts hflow hcounts

/-! ## Steps of the combat server -/

open Server CombatManagers

theorem reported_append {m m' : CombatManagers} {sent : List (SessionPtr × CombatMessage)}
    (h : m'.sent = m.sent ++ sent) :
    reported m m' = sent.filterMap fun x => if x.1 = session then some x.2 else none := by
  rw [reported, h, List.drop_left]

theorem reported_all {m m' : CombatManagers} {l : List CombatMessage}
    (h : m'.sent = m.sent ++ l.map fun message => (session, message)) : reported m m' = l := by
  rw [reported_append h, List.filterMap_map]
  refine (List.filterMap_congr fun message _ => ?_).trans List.filterMap_some
  show (if session = session then some message else none) = some message
  rw [if_pos rfl]

/-- The combat server takes the first request. -/
def served (s : Link) (r : Server.Request) (rest : List Server.Request) : Link :=
  { s with requests := rest, begun := s.begun ++ r.begins.toList }.serverStep (r.action session)

theorem served_answers (h : s.server.managers.Enrolled) (r : Server.Request)
    (rest : List Server.Request) :
    ∃ l, Answers session s.server.managers r l (s.served r rest).server.managers ∧
      (s.served r rest).responses = s.responses ++ l := by
  obtain ⟨l, hanswers, hsent⟩ := request_answers h session r
  exact ⟨l, hanswers, congrArg (s.responses ++ ·) (reported_all hsent)⟩

/-- The messages that no request asks for are of combats that are settled. -/
theorem inside_responses (h : s.server.managers.Enrolled) {a : Server.Action} (ha : a.Inside) :
    (Quiet s.server.managers (s.serverStep a).server.managers ∧
      (s.serverStep a).responses = s.responses) ∨
    ∃ u c p roles, Quiet s.server.managers u ∧ u.combats[c]? = some p ∧
      Settled c p u (s.serverStep a).server.managers ∧
      (s.serverStep a).responses = s.responses ++
        if (s.server.managers.combat p).appSession = some session then
          [.settlementSync c roles] else [] := by
  have hreport := inside_report h ha
  have hresponses : (s.serverStep a).responses =
      s.responses ++ reported s.server.managers (s.server.step a).managers := rfl
  have hserver : (s.serverStep a).server = s.server.step a := rfl
  rw [hresponses, hserver]
  generalize (s.server.step a).managers = m at *
  cases hreport with
  | quiet hquiet =>
    refine .inl ⟨hquiet, ?_⟩
    rw [reported_append (hquiet.sent.trans (List.append_nil _).symm)]
    exact List.append_nil _
  | @settled u c p hquiet henrolled hc =>
    have hsettled := henrolled.settled hc
    obtain ⟨roles, hsent⟩ := hsettled.sent
    rw [hquiet.sent] at hsent
    refine .inr ⟨u, c, p, roles, hquiet, hc, hsettled, ?_⟩
    rw [reported_append hsent, (hquiet.combat p).2.1]
    cases (s.server.managers.combat p).appSession with
    | none => rfl
    | some x =>
      by_cases hx : x = session
      · simp [hx]
      · simp [hx]

/-- The combat server does not change what is under way but for the combats that are new. -/
theorem Tracked.serves (h : s.Tracked) (hgateway : t.gateway = s.gateway)
    (htallies : t.server.Tallies) (hhosts : ∀ k, t.hosts.count k = s.hosts.count k)
    (hconnecting : ∀ k, t.connecting.count k = s.connecting.count k)
    (hbeginning : t.beginning = s.beginning)
    (hids : s.server.managers.combatIds ≤ t.server.managers.combatIds)
    (hannounced : ∀ k, t.announced.count k = s.announced.count k ∨
      k = s.server.managers.combatIds ∧ t.announced.count k = s.announced.count k + 1 ∧
        k < t.server.managers.combatIds) : t.Tracked := by
  have hnew : ∀ k, k = s.server.managers.combatIds → s.gateway.combats (1, k) = none ∧
      s.announced.count k = 0 ∧ s.connecting.count k = 0 ∧ s.beginning.count k = 0 := by
    intro k hk
    have hnamed : ¬ s.Named k := fun hnamed => by
      have hlt := h.named k hnamed
      omega
    rw [Named, not_or, Nat.pos_iff_ne_zero, not_not] at hnamed
    refine ⟨?_, by omega, by omega, by omega⟩
    simpa using hnamed.1
  refine ⟨hgateway ▸ h.sided, hgateway ▸ h.filed, htallies, fun k hk => ?_, fun p c hc => ?_,
    fun k hk => ?_, fun k => ?_, fun k hk => ?_, fun k p x hp hx => ?_, fun k => ?_⟩
  · rw [hhosts] at hk
    rw [hgateway]
    exact h.awaited k hk
  · rw [hgateway] at hc
    rw [hhosts]
    exact h.waits p c hc
  · rw [Named, hgateway, hconnecting, hbeginning] at hk
    rcases hannounced k with hsame | ⟨_, _, hlt⟩
    · rw [hsame] at hk
      exact Int.lt_of_lt_of_le (h.named k hk) hids
    · exact hlt
  · rcases hannounced k with hsame | ⟨heq, hone, _⟩
    · rw [hsame]
      exact h.announced k
    · have hzero := (hnew k heq).2.1
      omega
  · rw [hgateway, hconnecting, hbeginning]
    rcases hannounced k with hsame | ⟨heq, _, _⟩
    · rw [hsame] at hk
      exact h.unheard k hk
    · obtain ⟨hnone, _, hno, hnot⟩ := hnew k heq
      exact ⟨hnone, hno, hnot⟩
  · rw [hgateway] at hp hx
    rw [hconnecting, hbeginning]
    exact h.connected k p x hp hx
  · rw [hbeginning]
    exact h.begun k

theorem Tracked.inside (h : s.Tracked) {a : Server.Action} (ha : a.Inside) :
    (s.serverStep a).Tracked := by
  have hresponses : ∃ l, (s.serverStep a).responses = s.responses ++ l ∧
      ∀ y ∈ l, y.hostId = none ∧ y.connects = none ∧ y.announces = none := by
    rcases inside_responses h.tallies.1 ha with ⟨_, heq⟩ | ⟨_, _, p, roles, _, _, _, heq⟩
    · exact ⟨[], heq.trans (List.append_nil _).symm, fun y hy => by cases hy⟩
    · refine ⟨_, heq, fun y hy => ?_⟩
      split at hy
      · rw [List.mem_singleton.mp hy]
        exact ⟨rfl, rfl, rfl⟩
      · cases hy
  have hids : (s.serverStep a).server.managers.combatIds = s.server.managers.combatIds := by
    rcases inside_responses h.tallies.1 ha with ⟨hquiet, _⟩ | ⟨_, _, _, _, hquiet, _, hsettled, _⟩
    · exact hquiet.combatIds
    · exact hsettled.combatIds.trans hquiet.combatIds
  obtain ⟨l, heq, hkeys⟩ := hresponses
  have hnone : ∀ {f : CombatMessage → Option Int}, (∀ y ∈ l, f y = none) → ∀ k,
      (l.filterMap f).count k = 0 := by
    intro f hf k
    rw [List.filterMap_eq_nil_iff.mpr hf]
    rfl
  refine h.serves rfl (h.tallies.step a) (fun k => ?_) (fun k => ?_) rfl hids.ge
    fun k => .inl ?_
  · rw [Link.hosts, heq, count_told, hnone fun y hy => (hkeys y hy).1]
    rfl
  · rw [Link.connecting, heq, count_told, hnone fun y hy => (hkeys y hy).2.1]
    rfl
  · rw [Link.announced, heq, List.filterMap_append, List.count_append,
      hnone fun y hy => (hkeys y hy).2.2]
    rfl

theorem Tracked.request (h : s.Tracked) {r : Server.Request} {rest : List Server.Request}
    (hrequests : s.requests = r :: rest) : (s.served r rest).Tracked := by
  obtain ⟨l, hanswers, hresponses⟩ := served_answers h.tallies.1 r rest
  obtain ⟨hids, hannounces⟩ := hanswers.announces
  have hkeys := hanswers.keys
  refine h.serves rfl (h.tallies.step _) (fun k => ?_) (fun k => ?_) ?_ hids fun k => ?_
  · show (keys _ _ rest (s.served r rest).responses).count k = (keys _ _ s.requests _).count k
    rw [hresponses, hrequests]
    rcases hkeys with ⟨rfl, hnone, _⟩ | ⟨y, rfl, heq, _⟩
    · rw [List.append_nil]
      exact count_unanswered hnone rest s.responses k
    · exact count_answered heq rest s.responses k
  · show (keys _ _ rest (s.served r rest).responses).count k = (keys _ _ s.requests _).count k
    rw [hresponses, hrequests]
    rcases hkeys with ⟨rfl, _, hnone⟩ | ⟨y, rfl, _, heq⟩
    · rw [List.append_nil]
      exact count_unanswered hnone rest s.responses k
    · exact count_answered heq rest s.responses k
  · show s.begun ++ r.begins.toList ++ rest.filterMap _ = s.begun ++ s.requests.filterMap _
    rw [hrequests, List.append_assoc, List.filterMap_cons]
    cases r.begins with
    | none => rfl
    | some c => rfl
  · show ((s.served r rest).responses.filterMap _).count k = (s.responses.filterMap _).count k ∨ _
    rw [hresponses, List.filterMap_append, List.count_append]
    rcases hannounces with hnone | ⟨hone, hlt⟩
    · rw [hnone]
      exact .inl rfl
    · rw [hone, List.count_singleton]
      by_cases heq : s.server.managers.combatIds = k
      · refine .inr ⟨heq.symm, ?_, heq ▸ hlt⟩
        show ((s.served r rest).responses.filterMap _).count k = (s.responses.filterMap _).count k + 1
        rw [hresponses, List.filterMap_append, List.count_append, hone, List.count_singleton,
          if_pos (beq_iff_eq.mpr heq)]
      · rw [if_neg (fun h => heq (beq_iff_eq.mp h))]
        exact .inl rfl

/-! ## Runs -/

theorem start_tracked (maps : Int → Option MapConf) (warriorConfs : List WarriorDescription)
    (configs : Server.Configs) (memory : Server.Memory) :
    (start maps warriorConfs configs memory).Tracked where
  sided := Gateway.start_sided maps warriorConfs
  filed := Gateway.start_filed maps warriorConfs
  tallies := (started_tallies configs memory).step _
  awaited := fun _ hk => absurd hk (Nat.lt_irrefl 0)
  waits := fun _ _ hc => by cases hc
  named := fun _ hk => by
    rcases hk with hk | hk
    · cases hk
    · exact absurd hk (Nat.lt_irrefl 0)
  announced := fun _ => Nat.zero_le 1
  unheard := fun _ hk => absurd hk (Nat.lt_irrefl 0)
  connected := fun _ _ _ hp => by cases hp
  begun := fun _ => Nat.zero_le 1

theorem Tracked.step (h : s.Tracked) {a : Link.Action} (husual : s.Usual a)
    (hstep : s.step a = some t) : t.Tracked := by
  cases a with
  | gateway a =>
    obtain ⟨g, hg, rfl⟩ := Option.map_eq_some_iff.mp hstep
    obtain ⟨l, hturn⟩ := Gateway.turn h.sided hg
    have hcarries := Gateway.FromUser.carries husual
    have hresponses : s.responses = (none : Option CombatMessage).toList ++ s.responses := rfl
    exact h.turn (flow hresponses hturn.asks.asked hcarries) hcarries.ours hturn
  | server a =>
    cases hstep
    exact h.inside husual
  | request =>
    rw [Link.step] at hstep
    split at hstep
    · cases hstep
      exact h
    · rename_i r rest hrequests
      cases hstep
      exact h.request hrequests
  | response =>
    rw [Link.step] at hstep
    split at hstep
    · cases hstep
      exact h
    · rename_i y rest hresponses
      obtain ⟨g, hg, rfl⟩ := Option.map_eq_some_iff.mp hstep
      obtain ⟨a, l, hturn, hcarries⟩ := Gateway.receive_turn h.sided hg
      have htaken : s.responses = (some y).toList ++ rest := hresponses
      exact h.turn (flow htaken hturn.asks.asked hcarries) hcarries.ours hturn

/-- What is under way fits what the parties know, in all runs. -/
theorem tracked {maps : Int → Option MapConf} {warriorConfs : List WarriorDescription}
    {configs : Server.Configs} {memory : Server.Memory}
    (h : Reaches step Usual (start maps warriorConfs configs memory) s) : s.Tracked :=
  h.invariant (start_tracked maps warriorConfs configs memory)
    fun _ _ _ hs husual hstep => hs.step husual hstep

end Link

end Mysya
