import Mysya.DeployedRoles
import Mysya.LinkRuns

/-!
# The gateway and the combat server agree

As long as no request is refused a building of a role, the gateway knows a combat, or is to learn
of it, exactly as long as the combat server has it, or has said that it is settled. The roles of the
combat are the two actors, and both are connected before the combat begins.
-/

open Std

namespace Mysya

open GuardedRuns Channels

namespace Gateway

variable {s t : Gateway} {p q : Nat} {c x x' : Combat} {a : Gateway.Action}
  {l : List Server.Request} {ids ids' : List UInt64} {hostId k : Int}

/-- The argent ids of the two actors of the combat. -/
def Sides (s : Gateway) (c : Combat) (ids : List UInt64) : Prop :=
  ∃ left right x y, c.al = some left ∧ c.ar = some right ∧ s.argent left = some x ∧
    s.argent right = some y ∧ ids = [x, y]

theorem Sides.same (h : s.Sides x ids) (hal : x.al = x'.al) (har : x.ar = x'.ar)
    (hids : KeepsIds s t) : t.Sides x' ids := by
  obtain ⟨left, right, a, b, hl, hr, ha, hb, rfl⟩ := h
  exact ⟨left, right, a, b, hal ▸ hl, har ▸ hr, hids left a ha, hids right b hb, rfl⟩

theorem Sides.unique (h : s.Sides x ids) (h' : s.Sides x ids') : ids = ids' := by
  obtain ⟨left, right, a, b, hl, hr, ha, hb, rfl⟩ := h
  obtain ⟨left', right', a', b', hl', hr', ha', hb', rfl⟩ := h'
  obtain rfl : left = left' := Option.some.inj (hl.symm.trans hl')
  obtain rfl : right = right' := Option.some.inj (hr.symm.trans hr')
  obtain rfl : a = a' := Option.some.inj (ha.symm.trans ha')
  obtain rfl : b = b' := Option.some.inj (hb.symm.trans hb')
  rfl

/-- Only new combats are deployed. -/
theorem Turn.deploys (h : Turn s a l t) {data : CombatInitialData}
    (hr : .deploy hostId data ∈ l) : hostId = s.idAllocator + 1 := by
  cases h with
  | still _ _ hl =>
    obtain ⟨_, _, heq⟩ := hl.reconnects _ hr
    cases heq
  | opens _ _ hopens =>
    obtain ⟨_, _, _, _, _, _, hl⟩ := hopens.sides
    rw [hl] at hr
    split at hr
    · cases List.mem_singleton.mp hr
      rfl
    · cases hr
  | closes _ _ => cases hr
  | enters henters =>
    obtain ⟨_, _, _, _, _, _, _, _, hl⟩ := henters.sides
    rw [hl] at hr
    split at hr
    · rcases List.mem_cons.mp hr with heq | hr
      · cases heq
      · cases List.mem_singleton.mp hr
    · cases hr
  | counts hcounts =>
    rw [hcounts.begins] at hr
    split at hr
    · cases List.mem_singleton.mp hr
    · cases hr

/-- The roles that are to connect are those of a combat that is entered. -/
theorem Turn.connects (h : Turn s a l t) (hours : a.Ours) {r : UInt64}
    (hr : .connectArgent r k ∈ l) : ∃ hostId p x ids, a = .deployResponse 1 hostId true k ∧
      Enters 1 hostId k p x s t l ∧ s.Sides x ids ∧ r ∈ ids := by
  cases h with
  | still _ _ hl =>
    obtain ⟨_, _, heq⟩ := hl.reconnects _ hr
    cases heq
  | opens _ _ hopens =>
    obtain ⟨_, _, _, _, _, _, hl⟩ := hopens.sides
    rw [hl] at hr
    split at hr
    · cases List.mem_singleton.mp hr
    · cases hr
  | closes _ _ => cases hr
  | @enters serverId hostId combatId p x _ _ henters =>
    obtain rfl : serverId = 1 := hours
    obtain ⟨left, right, a, b, hl, hr', ha, hb, hasked⟩ := henters.sides
    rw [if_pos rfl] at hasked
    have hin := hr
    rw [hasked] at hin
    have hboth : combatId = k ∧ r ∈ [a, b] := by
      rcases List.mem_cons.mp hin with heq | hin
      · cases heq
        exact ⟨rfl, List.mem_cons_self ..⟩
      · cases List.mem_singleton.mp hin
        exact ⟨rfl, List.mem_cons_of_mem _ (List.mem_cons_self ..)⟩
    obtain ⟨rfl, hmem⟩ := hboth
    exact ⟨hostId, p, x, [a, b], rfl, henters, ⟨left, right, a, b, hl, hr', ha, hb, rfl⟩, hmem⟩
  | counts hcounts =>
    rw [hcounts.begins] at hr
    split at hr
    · cases List.mem_singleton.mp hr
    · cases hr

end Gateway

namespace Link

variable {s t : Link} {a : Gateway.Action} {l : List Server.Request} {g : Gateway}
  {taken : Option CombatMessage} {rest : List CombatMessage} {k : Int}

/-- The combats of the messages that they are settled. -/
def settled (s : Link) : List Int := s.responses.filterMap CombatMessage.settles

/-- Once the server does not have a combat, it does not say again that it is new or settled. -/
def Final (y : CombatMessage) (rest : List CombatMessage) : Prop :=
  ∀ c, y.ends = some c →
    c ∉ rest.filterMap CombatMessage.settles ∧ c ∉ rest.filterMap CombatMessage.announces

/-- The roles of the combat at the server are the actors of the one at the gateway. -/
def Plays (s : Link) (x : Combat) (p : Ptr) : Prop :=
  ∃ ids, s.gateway.Sides x ids ∧ ∀ r, r ∈ (s.server.managers.combat p).roles ↔ r ∈ ids

/-- The gateway and the server agree on the combats, but for what is under way. -/
structure Agreed (s : Link) : Prop where
  tracked : s.Tracked
  consistent : s.server.managers.Consistent none
  served : ∀ (c : Int) p, s.server.managers.combats[c]? = some p →
    (s.server.managers.combat p).appSession = some session
  ended : ∀ y ∈ s.responses, ∀ c, y.ends = some c →
    c < s.server.managers.combatIds ∧ s.server.managers.combats[c]? = none
  ordered : Followed Final s.responses
  known : ∀ c, (s.server.managers.combats[c]?).isSome ∨ c ∈ s.settled ↔
    c ∈ s.announced ∨ (s.gateway.combats (1, c)).isSome
  asked : ∀ hostId data q x, .deploy hostId data ∈ s.requests →
    s.gateway.memory q = some x → x.id = hostId → s.gateway.Sides x data.argentIds
  told : ∀ y ∈ s.responses, ∀ (c : Int) p q x, y.announces = some c →
    s.server.managers.combats[c]? = some p → s.gateway.memory q = some x →
    y.hostId = some x.id → s.Plays x p
  active : ∀ c p q x, s.gateway.combats (1, c) = some q → s.gateway.memory q = some x →
    s.server.managers.combats[c]? = some p → s.Plays x p
  connects : ∀ r (c : Int) p, .connectArgent r c ∈ s.requests →
    s.server.managers.combats[c]? = some p → r ∈ (s.server.managers.combat p).roles
  connected : ∀ c p r, s.server.managers.combats[c]? = some p →
    r ∈ (s.server.managers.combat p).roles → (s.gateway.combats (1, c)).isSome →
    .connectArgent r c ∈ s.requests ∨ s.server.managers.ConnectedTo session r

/-! ## Steps of the gateway -/

theorem mem_taken {f : CombatMessage → Option Int}
    (hresponses : s.responses = taken.toList ++ rest) :
    k ∈ s.responses.filterMap f ↔ taken.bind f = some k ∨ k ∈ rest.filterMap f := by
  rw [hresponses]
  cases taken with
  | none =>
    refine ⟨.inr, ?_⟩
    rintro (heq | hin)
    · cases heq
    · exact hin
  | some y =>
    rw [Option.toList_some, List.singleton_append, Option.bind_some]
    cases hy : f y with
    | none =>
      rw [List.filterMap_cons_none hy]
      exact ⟨.inr, fun h => h.resolve_left fun heq => by cases heq⟩
    | some k' =>
      rw [List.filterMap_cons_some hy, List.mem_cons, Option.some.injEq, eq_comm]

/-- What a message says of a combat that is not there holds of those behind it. -/
theorem Agreed.gone (h : s.Agreed) (hresponses : s.responses = taken.toList ++ rest)
    (hcarries : a.Carries taken) (hends : a.ends = some k) :
    s.server.managers.combats[k]? = none ∧ k ∉ rest.filterMap CombatMessage.settles ∧
      k ∉ rest.filterMap CombatMessage.announces := by
  rw [hcarries.ends] at hends
  cases taken with
  | none => cases hends
  | some y =>
    have hordered := h.ordered
    rw [hresponses] at hordered
    have hin : y ∈ s.responses := by
      rw [hresponses]
      exact List.mem_cons_self ..
    exact ⟨(h.ended y hin k hends).2, hordered.1 k hends⟩

theorem ends_of_settles (h : a.settles = some k) : a.ends = some k := by
  cases a with
  | settlementSync serverId combatId => exact h
  | _ => cases h

theorem host_pos (hresponses : s.responses = taken.toList ++ rest) (hcarries : a.Carries taken)
    (hhost : a.hostId = some k) : 0 < s.hosts.count k := by
  rw [List.count_pos_iff, Link.hosts, keys, List.mem_append]
  exact .inr ((mem_taken hresponses).mpr (.inl (hcarries.hostId ▸ hhost)))

theorem announced_pos (hresponses : s.responses = taken.toList ++ rest)
    (hcarries : a.Carries taken) (hannounces : a.announces = some k) : 0 < s.announced.count k :=
  List.count_pos_iff.mpr ((mem_taken hresponses).mpr (.inl (hcarries.announces ▸ hannounces)))

theorem announces_hostId (h : a.announces = some k) : ∃ hostId, a.hostId = some hostId := by
  cases a with
  | deployResponse serverId hostId complete combatId => exact ⟨hostId, rfl⟩
  | _ => cases h

/-- A message that a combat was deployed finds it. -/
theorem Tracked.not_missed (h : s.Tracked) (hresponses : s.responses = taken.toList ++ rest)
    (hcarries : a.Carries taken) (hmisses : s.gateway.Misses a) : a.announces = none := by
  cases hannounces : a.announces with
  | none => rfl
  | some k =>
    obtain ⟨hostId, hhost⟩ := announces_hostId hannounces
    obtain ⟨p, hp⟩ := h.awaited hostId (host_pos hresponses hcarries hhost)
    exact absurd hhost (hmisses.not_host (Option.isSome_of_eq_some hp))

/-- A combat that was being deployed is not in the table. -/
theorem Tracked.waiting_left (h : s.Tracked) {p : Nat} {c : Combat}
    (hc : s.gateway.memory p = some c) (hhost : 0 < s.hosts.count c.id) (key : Int × Int) :
    s.gateway.combats key ≠ some p := by
  intro hp
  obtain ⟨hserver, c', hc', hkey⟩ := h.filed.active key p hp
  obtain rfl : c = c' := Option.some.inj (hc.symm.trans hc')
  have hone : c.combatServerId = 1 := (congrArg Prod.fst hkey).trans hserver
  have hwaits := h.waits p c hc
  rw [if_neg (by omega)] at hwaits
  omega

/-- The combats that are left are those that were there but for the one that is closed. -/
theorem Tracked.active_iff (h : s.Tracked) {p : Nat} {c : Combat}
    (hcloses : Gateway.Closes p c s.gateway g) (k : Int) :
    (g.combats (1, k)).isSome ↔
      (s.gateway.combats (1, k)).isSome ∧ s.gateway.combats (1, k) ≠ some p := by
  constructor
  · intro hleft
    obtain ⟨q, hq⟩ := Option.isSome_iff_exists.mp hleft
    obtain ⟨hold, hne, _⟩ := h.filed.left hcloses hq
    rw [hold]
    exact ⟨rfl, fun heq => hne (Option.some.inj heq)⟩
  · rintro ⟨hold, hne⟩
    obtain ⟨q, hq⟩ := Option.isSome_iff_exists.mp hold
    rw [hq] at hne
    exact Option.isSome_of_eq_some (h.filed.kept hcloses hq fun heq => hne (congrArg _ heq))

/-- A message that a combat is not there finds it only if it is settled. -/
theorem Agreed.settles_of_ends (h : s.Agreed) (hresponses : s.responses = taken.toList ++ rest)
    (hcarries : a.Carries taken) (hends : a.ends = some k)
    (hactive : (s.gateway.combats (1, k)).isSome) : a.settles = some k := by
  obtain ⟨hnone, hnot, _⟩ := h.gone hresponses hcarries hends
  rcases (h.known k).mpr (.inr hactive) with hthere | hsettled
  · rw [hnone] at hthere
    cases hthere
  · rw [hcarries.settles]
    exact ((mem_taken hresponses).mp hsettled).resolve_right hnot

theorem dooms_ends {p : Nat} (hdooms : s.gateway.Dooms p a) (hours : a.Ours) :
    (∃ hostId, a.hostId = some hostId ∧ s.gateway.pendingCombats hostId = some p ∧
      a.settles = none) ∨ ∃ k, a.ends = some k ∧ s.gateway.combats (1, k) = some p := by
  cases a with
  | deployResponse serverId hostId complete combatId =>
    exact .inl ⟨hostId, rfl, hdooms.2, rfl⟩
  | connectArgentResponse serverId combatId complete =>
    obtain ⟨rfl, hp⟩ := hdooms
    obtain rfl : serverId = 1 := hours
    exact .inr ⟨combatId, rfl, hp⟩
  | beginResponse serverId combatId complete =>
    obtain ⟨rfl, hp⟩ := hdooms
    obtain rfl : serverId = 1 := hours
    exact .inr ⟨combatId, rfl, hp⟩
  | settlementSync serverId combatId =>
    obtain rfl : serverId = 1 := hours
    exact .inr ⟨combatId, rfl, hdooms⟩
  | _ => cases hdooms

/-- The message neither announces nor settles the combat. -/
theorem Agreed.known_other (h : s.Agreed) (hresponses : s.responses = taken.toList ++ rest)
    (hcarries : a.Carries taken) (hsettles : a.settles ≠ some k) (hannounces : a.announces ≠ some k) :
    (s.server.managers.combats[k]?).isSome ∨ k ∈ rest.filterMap CombatMessage.settles ↔
      k ∈ rest.filterMap CombatMessage.announces ∨ (s.gateway.combats (1, k)).isSome := by
  have hknown := h.known k
  rw [settled, announced, mem_taken hresponses, mem_taken hresponses, ← hcarries.settles,
    ← hcarries.announces] at hknown
  constructor
  · intro hthere
    exact (hknown.mp (hthere.imp_right .inr)).imp_left fun hin => hin.resolve_left hannounces
  · intro hheard
    exact (hknown.mpr (hheard.imp_left .inr)).imp_right fun hin => hin.resolve_left hsettles

theorem Agreed.known_turn (h : s.Agreed) (hresponses : s.responses = taken.toList ++ rest)
    (hcarries : a.Carries taken) (hturn : Gateway.Turn s.gateway a l g) (k : Int) :
    (s.server.managers.combats[k]?).isSome ∨ k ∈ rest.filterMap CombatMessage.settles ↔
      k ∈ rest.filterMap CombatMessage.announces ∨ (g.combats (1, k)).isSome := by
  cases hturn with
  | still hmisses hstill _ =>
    have hannounces := h.tracked.not_missed hresponses hcarries hmisses
    rw [hstill.combats]
    refine h.known_other hresponses hcarries (fun hsettles => ?_) fun heq => by
      rw [hannounces] at heq
      cases heq
    -- A settlement that is taken finds its combat.
    have hends := ends_of_settles hsettles
    obtain ⟨hnone, hnot, hno⟩ := h.gone hresponses hcarries hends
    have hin : k ∈ s.settled := (mem_taken hresponses).mpr (.inl (hcarries.settles ▸ hsettles))
    rcases (h.known k).mp (.inr hin) with hheard | hactive
    · rcases (mem_taken hresponses).mp hheard with heq | hlater
      · rw [← hcarries.announces, hannounces] at heq
        cases heq
      · exact hno hlater
    · cases a with
      | settlementSync serverId combatId =>
        obtain rfl : serverId = 1 := hcarries.ours
        obtain rfl : combatId = k := Option.some.inj hsettles
        rw [show s.gateway.combats (1, combatId) = none from hmisses] at hactive
        cases hactive
      | _ => cases hsettles
  | opens _ _ hopens =>
    rw [hopens.combats]
    exact h.known_other hresponses hcarries (fun heq => by cases heq) fun heq => by cases heq
  | @closes _ p c _ hdooms hcloses =>
    rw [h.tracked.active_iff hcloses]
    obtain ⟨hannounces, _⟩ := hdooms.finds hcarries.ours h.tracked.filed hcloses.live
    have hquiet : a.announces ≠ some k := fun heq => by
      rw [hannounces] at heq
      cases heq
    rcases dooms_ends hdooms hcarries.ours with ⟨hostId, hhost, hp, hsettles⟩ | ⟨k', hends, hp⟩
    · obtain ⟨c', hc', hid⟩ := h.tracked.filed.pending hostId p hp
      obtain rfl : c = c' := Option.some.inj (hcloses.live.symm.trans hc')
      have hpos := host_pos hresponses hcarries hhost
      rw [and_iff_left (h.tracked.waiting_left hcloses.live (hid ▸ hpos) (1, k))]
      exact h.known_other hresponses hcarries (fun heq => by rw [hsettles] at heq; cases heq) hquiet
    · have hsettles := h.settles_of_ends hresponses hcarries hends (Option.isSome_of_eq_some hp)
      by_cases heq : k = k'
      · subst heq
        obtain ⟨hnone, hnot, hno⟩ := h.gone hresponses hcarries hends
        refine iff_of_false ?_ ?_
        · rintro (hthere | hin)
          · rw [hnone] at hthere
            cases hthere
          · exact hnot hin
        · rintro (hin | ⟨_, hne⟩)
          · exact hno hin
          · exact hne hp
      · have hother : s.gateway.combats (1, k) ≠ some p := by
          intro hp'
          obtain ⟨_, c', hc', hkey⟩ := h.tracked.filed.active (1, k) p hp'
          obtain ⟨_, c'', hc'', hkey'⟩ := h.tracked.filed.active (1, k') p hp
          obtain rfl : c' = c'' := Option.some.inj (hc'.symm.trans hc'')
          exact heq (Prod.mk.inj (hkey.symm.trans hkey')).2
        rw [and_iff_left hother]
        refine h.known_other hresponses hcarries (fun hsettles' => heq ?_) hquiet
        exact Option.some.inj (hsettles'.symm.trans hsettles)
  | @enters serverId hostId combatId p c _ _ henters =>
    obtain rfl : serverId = 1 := hcarries.ours
    have hpos := announced_pos hresponses hcarries rfl
    obtain ⟨hfree, _, _⟩ := h.tracked.unheard combatId hpos
    rw [henters.combats hfree]
    by_cases heq : k = combatId
    · subst heq
      rw [Function.update_self]
      refine iff_of_true ?_ (.inr rfl)
      refine ((h.known k).mpr (.inl (List.count_pos_iff.mp hpos))).imp_right fun hin => ?_
      rcases (mem_taken hresponses).mp hin with hsettles | hlater
      · rw [← hcarries.settles] at hsettles
        cases hsettles
      · exact hlater
    · rw [Function.update_of_ne fun hkey => heq (Prod.mk.inj hkey).2]
      exact h.known_other hresponses hcarries (fun heq => by cases heq) fun hannounces =>
        heq (Option.some.inj hannounces).symm
  | counts hcounts =>
    rw [hcounts.combats]
    exact h.known_other hresponses hcarries (fun heq => by cases heq) fun heq => by cases heq

/-- A combat of the table was there, or it is entered now. -/
theorem Agreed.entry (h : s.Agreed) (hresponses : s.responses = taken.toList ++ rest)
    (hcarries : a.Carries taken) (hturn : Gateway.Turn s.gateway a l g) {q : Nat}
    (hq : g.combats (1, k) = some q) : s.gateway.combats (1, k) = some q ∨
      ∃ hostId c, a = .deployResponse 1 hostId true k ∧
        Gateway.Enters 1 hostId k q c s.gateway g l := by
  cases hturn with
  | still _ hstill _ => exact .inl (hstill.combats ▸ hq)
  | opens _ _ hopens => exact .inl (hopens.combats ▸ hq)
  | closes _ hcloses => exact .inl (h.tracked.filed.left hcloses hq).1
  | @enters serverId hostId combatId p c _ _ henters =>
    obtain rfl : serverId = 1 := hcarries.ours
    rw [henters.combats (h.tracked.unheard combatId (announced_pos hresponses hcarries rfl)).1] at hq
    rcases Table.insert_some hq with ⟨hkey, rfl⟩ | ⟨_, hold⟩
    · obtain rfl : k = combatId := (Prod.mk.inj hkey).2
      exact .inr ⟨hostId, c, rfl, henters⟩
    · exact .inl hold
  | counts hcounts => exact .inl (hcounts.combats ▸ hq)

/-- Nothing is under way about the combat that will be new. -/
theorem Tracked.no_host (h : s.Tracked) : s.gateway.idAllocator + 1 ∉ s.hosts := by
  intro hin
  obtain ⟨p, hp⟩ := h.awaited _ (List.count_pos_iff.mpr hin)
  rw [h.filed.fresh] at hp
  cases hp

theorem host_of_request {r : Server.Request} (hr : r ∈ s.requests) (hhost : r.hostId = some k) :
    k ∈ s.hosts := List.mem_append_left _ (List.mem_filterMap.mpr ⟨r, hr, hhost⟩)

theorem host_of_response {y : CombatMessage} (hy : y ∈ s.responses) (hhost : y.hostId = some k) :
    k ∈ s.hosts := List.mem_append_right _ (List.mem_filterMap.mpr ⟨y, hy, hhost⟩)

theorem Agreed.asked_turn (h : s.Agreed) (hturn : Gateway.Turn s.gateway a l g) {hostId : Int}
    {data : CombatInitialData} {q : Nat} {x : Combat}
    (hr : .deploy hostId data ∈ s.requests ++ l) (hx : g.memory q = some x) (hid : x.id = hostId) :
    g.Sides x data.argentIds := by
  rcases hturn.origin hx with ⟨x', hx', hid', hal, har⟩ | ⟨_, hnew, left, right, b, b', hl, hr',
    hb, hb', hdeploys⟩
  · rcases List.mem_append.mp hr with hr | hr
    · exact (h.asked hostId data q x' hr hx' (hid'.trans hid)).same hal har hturn.argents
    · have hfresh := hturn.deploys hr
      have hle := (h.tracked.filed.live q x' hx').2
      omega
  · rcases List.mem_append.mp hr with hr | hr
    · refine absurd (host_of_request hr rfl) ?_
      rw [← hid, hnew]
      exact h.tracked.no_host
    · obtain ⟨data', heq, hids⟩ := hdeploys _ hr
      cases heq
      exact ⟨left, right, b, b', hl, hr', hturn.argents left b hb, hturn.argents right b' hb', hids⟩

/-- What was known of the roles of a combat is known of it as it is now. -/
theorem Plays.turn {t : Link} {x x' : Combat} {p : Ptr} (h : s.Plays x p)
    (hserver : t.server = s.server) (hal : x.al = x'.al) (har : x.ar = x'.ar)
    (hids : Gateway.KeepsIds s.gateway t.gateway) : t.Plays x' p := by
  obtain ⟨ids, hsides, hroles⟩ := h
  exact ⟨ids, hsides.same hal har hids, hserver ▸ hroles⟩

/-- The roles of a combat that is entered were told. -/
theorem Agreed.plays_entered (h : s.Agreed) (hresponses : s.responses = taken.toList ++ rest)
    {hostId : Int} {q : Nat} {x : Combat} {p : Ptr}
    (hcarries : Gateway.Action.Carries taken (.deployResponse 1 hostId true k))
    (henters : Gateway.Enters 1 hostId k q x s.gateway g l)
    (hp : s.server.managers.combats[k]? = some p) : s.Plays x p := by
  obtain ⟨x', hx', hid⟩ := h.tracked.filed.pending hostId q henters.found
  obtain rfl : x = x' := Option.some.inj (henters.live.symm.trans hx')
  have hannounces := hcarries.announces
  have hhost := hcarries.hostId
  cases taken with
  | none => cases hannounces
  | some y =>
    have hin : y ∈ s.responses := by
      rw [hresponses]
      exact List.mem_cons_self ..
    exact h.told y hin k p q x hannounces.symm hp henters.live (hid ▸ hhost.symm)

/-- A step of the gateway keeps the agreement. -/
theorem Agreed.turn (h : s.Agreed) (hresponses : s.responses = taken.toList ++ rest)
    (hcarries : a.Carries taken) (hturn : Gateway.Turn s.gateway a l g) :
    ({ s with responses := rest }.asking g).Agreed := by
  have hasks := hturn.asks.asked
  have hrequests : ({ s with responses := rest }.asking g).requests = s.requests ++ l :=
    congrArg (s.requests ++ ·) hasks
  have hsub : ∀ y ∈ rest, y ∈ s.responses := fun y hy => by
    rw [hresponses]
    exact List.mem_append_right _ hy
  constructor
  · exact h.tracked.turn (flow hresponses hasks hcarries) hcarries.ours hturn
  · exact h.consistent
  · exact h.served
  · exact fun y hy => h.ended y (hsub y hy)
  · have hordered := h.ordered
    rw [hresponses] at hordered
    cases taken with
    | none => exact hordered
    | some y => exact hordered.2
  · exact h.known_turn hresponses hcarries hturn
  · intro hostId data q x hr hx hid
    rw [hrequests] at hr
    exact h.asked_turn hturn hr hx hid
  · intro y hy c p q x hannounces hp hx hhost
    rcases hturn.origin hx with ⟨x', hx', hid, hal, har⟩ | ⟨_, hnew, _⟩
    · exact (h.told y (hsub y hy) c p q x' hannounces hp hx' (hid ▸ hhost)).turn rfl hal har
        hturn.argents
    · rw [hnew] at hhost
      exact absurd (host_of_response (hsub y hy) hhost) h.tracked.no_host
  · intro c p q x hq hx hp
    rcases h.entry hresponses hcarries hturn hq with hold | ⟨hostId, x', rfl, henters⟩
    · rcases hturn.origin hx with ⟨x', hx', _, hal, har⟩ | ⟨hnone, _⟩
      · exact (h.active c p q x' hold hx' hp).turn rfl hal har hturn.argents
      · obtain ⟨_, x', hx', _⟩ := h.tracked.filed.active (1, c) q hold
        rw [hnone] at hx'
        cases hx'
    · have hmemory : g.memory q = some x := hx
      rw [henters.memory, Function.update_self, Option.some.injEq] at hmemory
      obtain rfl := hmemory
      exact (h.plays_entered hresponses hcarries henters hp).turn rfl rfl rfl hturn.argents
  · intro r c p hr hp
    rw [hrequests] at hr
    rcases List.mem_append.mp hr with hr | hr
    · exact h.connects r c p hr hp
    · obtain ⟨hostId, q, x, ids, rfl, henters, hsides, hin⟩ := hturn.connects hcarries.ours hr
      obtain ⟨ids', hsides', hroles⟩ := h.plays_entered hresponses hcarries henters hp
      exact (hroles r).mpr (hsides.unique hsides' ▸ hin)
  · intro c p r hp hr hactive
    rw [hrequests]
    obtain ⟨q, hq⟩ := Option.isSome_iff_exists.mp hactive
    rcases h.entry hresponses hcarries hturn hq with hold | ⟨hostId, x, rfl, henters⟩
    · exact (h.connected c p r hp hr (Option.isSome_of_eq_some hold)).imp_left
        fun hin => List.mem_append_left _ hin
    · obtain ⟨ids, hsides, hroles⟩ := h.plays_entered hresponses hcarries henters hp
      obtain ⟨left, right, b, b', hl, hr', hb, hb', hasked⟩ := henters.sides
      obtain rfl := hsides.unique ⟨left, right, b, b', hl, hr', hb, hb', rfl⟩
      refine .inl (List.mem_append_right _ ?_)
      rw [hasked, if_pos rfl]
      rcases List.mem_cons.mp ((hroles r).mp hr) with rfl | hin
      · exact List.mem_cons_self ..
      · rw [List.mem_singleton.mp hin]
        exact List.mem_cons_of_mem _ (List.mem_cons_self ..)

/-! ## Steps of the combat server -/

open CombatManagers Server

/-- A step of the combat server that tells of what it does to its combats keeps the agreement. -/
theorem Agreed.serves (h : s.Agreed) {l : List CombatMessage} (htracked : t.Tracked)
    (hconsistent : t.server.managers.Consistent none) (hgateway : t.gateway = s.gateway)
    (hrequests : ∀ r ∈ t.requests, r ∈ s.requests) (hresponses : t.responses = s.responses ++ l)
    (hids : s.server.managers.combatIds ≤ t.server.managers.combatIds)
    (hlasts : ∀ (c : Int) p, t.server.managers.combats[c]? = some p →
      c < s.server.managers.combatIds → s.server.managers.combats[c]? = some p ∧
        (t.server.managers.combat p).roles = (s.server.managers.combat p).roles ∧
        (t.server.managers.combat p).appSession = (s.server.managers.combat p).appSession)
    (hnew : ∀ (c : Int) p, t.server.managers.combats[c]? = some p →
      s.server.managers.combatIds ≤ c → (t.server.managers.combat p).appSession = some session ∧
        ∀ y ∈ l, y.announces = some c → ∀ q x, s.gateway.memory q = some x →
          y.hostId = some x.id → t.Plays x p)
    (hbalance : ∀ c : Int, (t.server.managers.combats[c]?).isSome ∨
        c ∈ l.filterMap CombatMessage.settles ↔
      (s.server.managers.combats[c]?).isSome ∨ c ∈ l.filterMap CombatMessage.announces)
    (hsettles : ∀ c ∈ l.filterMap CombatMessage.settles, (s.server.managers.combats[c]?).isSome)
    (hannounces : ∀ c ∈ l.filterMap CombatMessage.announces, s.server.managers.combatIds ≤ c)
    (hover : ∀ y ∈ l, ∀ c, y.ends = some c →
      c < s.server.managers.combatIds ∧ t.server.managers.combats[c]? = none)
    (hfinal : Followed Final l)
    (hkeeps : KeepsConnected session s.server.managers t.server.managers)
    (hconnects : ∀ r (c : Int) p, .connectArgent r c ∈ s.requests →
      s.server.managers.combats[c]? = some p →
        .connectArgent r c ∈ t.requests ∨ t.server.managers.ConnectedTo session r) : t.Agreed := by
  have hplays : ∀ {x p}, (t.server.managers.combat p).roles = (s.server.managers.combat p).roles →
      s.Plays x p → t.Plays x p := by
    rintro x p hroles ⟨ids, hsides, hmem⟩
    exact ⟨ids, hgateway ▸ hsides, hroles ▸ hmem⟩
  have hnamed : ∀ {c}, s.Named c → c < s.server.managers.combatIds := fun hc => h.tracked.named _ hc
  have hactive : ∀ {c}, (s.gateway.combats (1, c)).isSome → c < s.server.managers.combatIds :=
    fun hc => hnamed (.inl hc)
  constructor
  · exact htracked
  · exact hconsistent
  · intro c p hp
    by_cases hlt : c < s.server.managers.combatIds
    · obtain ⟨hold, _, happ⟩ := hlasts c p hp hlt
      rw [happ]
      exact h.served c p hold
    · exact (hnew c p hp (Int.not_lt.mp hlt)).1
  · intro y hy c hends
    rw [hresponses] at hy
    rcases List.mem_append.mp hy with hy | hy
    · obtain ⟨hlt, hnone⟩ := h.ended y hy c hends
      refine ⟨Int.lt_of_lt_of_le hlt hids, ?_⟩
      cases hp : t.server.managers.combats[c]? with
      | none => rfl
      | some p =>
        rw [(hlasts c p hp hlt).1] at hnone
        cases hnone
    · obtain ⟨hlt, hnone⟩ := hover y hy c hends
      exact ⟨Int.lt_of_lt_of_le hlt hids, hnone⟩
  · rw [hresponses]
    refine h.ordered.append hfinal fun y hy m hm c hends => ?_
    obtain ⟨hlt, hnone⟩ := h.ended y hy c hends
    obtain ⟨hnot, hno⟩ := hm c hends
    rw [List.filterMap_append, List.filterMap_append, List.mem_append, List.mem_append]
    refine ⟨fun hin => ?_, fun hin => ?_⟩
    · rcases hin with hin | hin
      · exact hnot hin
      · have hthere := hsettles c hin
        rw [hnone] at hthere
        cases hthere
    · rcases hin with hin | hin
      · exact hno hin
      · have hle := hannounces c hin
        omega
  · intro c
    have hknown := h.known c
    have hsame := hbalance c
    rw [settled, announced, hresponses, List.filterMap_append, List.filterMap_append,
      List.mem_append, List.mem_append, hgateway]
    rw [settled, announced] at hknown
    constructor
    · rintro (hthere | hin | hin)
      · rcases hsame.mp (.inl hthere) with hold | hin
        · exact (hknown.mp (.inl hold)).imp_left .inl
        · exact .inl (.inr hin)
      · exact (hknown.mp (.inr hin)).imp_left .inl
      · rcases hsame.mp (.inr hin) with hold | hin
        · exact (hknown.mp (.inl hold)).imp_left .inl
        · exact .inl (.inr hin)
    · have hold : (s.server.managers.combats[c]?).isSome ∨
          c ∈ s.responses.filterMap CombatMessage.settles →
          (t.server.managers.combats[c]?).isSome ∨
            c ∈ s.responses.filterMap CombatMessage.settles ∨
              c ∈ l.filterMap CombatMessage.settles := by
        rintro (hthere | hin)
        · exact (hsame.mpr (.inl hthere)).imp_right .inr
        · exact .inr (.inl hin)
      rintro ((hin | hin) | hknows)
      · exact hold (hknown.mpr (.inl hin))
      · exact (hsame.mpr (.inr hin)).imp_right .inr
      · exact hold (hknown.mpr (.inr hknows))
  · intro hostId data q x hr hx hid
    rw [hgateway] at hx ⊢
    exact h.asked hostId data q x (hrequests _ hr) hx hid
  · intro y hy c p q x hannounce hp hx hhost
    rw [hgateway] at hx
    rw [hresponses] at hy
    rcases List.mem_append.mp hy with hy | hy
    · have hin : c ∈ s.announced := List.mem_filterMap.mpr ⟨y, hy, hannounce⟩
      have hpos := List.count_pos_iff.mpr hin
      obtain ⟨hold, hroles, _⟩ := hlasts c p hp (hnamed (.inr (by omega)))
      exact hplays hroles (h.told y hy c p q x hannounce hold hx hhost)
    · have hle := hannounces c (List.mem_filterMap.mpr ⟨y, hy, hannounce⟩)
      exact (hnew c p hp hle).2 y hy hannounce q x hx hhost
  · intro c p q x hq hx hp
    rw [hgateway] at hq hx
    obtain ⟨hold, hroles, _⟩ := hlasts c p hp (hactive (Option.isSome_of_eq_some hq))
    exact hplays hroles (h.active c p q x hq hx hold)
  · intro r c p hr hp
    have hr' := hrequests _ hr
    have hin : c ∈ s.connecting := List.mem_append_left _ (List.mem_filterMap.mpr ⟨_, hr', rfl⟩)
    have hpos := List.count_pos_iff.mpr hin
    obtain ⟨hold, hroles, _⟩ := hlasts c p hp (hnamed (.inr (by omega)))
    rw [hroles]
    exact h.connects r c p hr' hold
  · intro c p r hp hr hknows
    rw [hgateway] at hknows
    obtain ⟨hold, hroles, _⟩ := hlasts c p hp (hactive hknows)
    rw [hroles] at hr
    rcases h.connected c p r hold hr hknows with hin | hconnected
    · exact hconnects r c p hin hold
    · exact .inr (hkeeps c p r hold hp hr hconnected)

theorem Agreed.inside (h : s.Agreed) {a : Server.Action} (ha : a.Inside) :
    (s.serverStep a).Agreed := by
  have htracked := h.tracked.inside ha
  have hconsistent : (s.serverStep a).server.managers.Consistent none := by
    refine (step_keepsMargins h.consistent (supplyGuard_quiet fun session hostId data => ?_)).consistent
    rintro rfl
    cases ha
  have hkeeps : KeepsConnected session s.server.managers (s.serverStep a).server.managers :=
    inside_connected h.consistent ha
  have hrequests : ∀ r (c : Int) p, .connectArgent r c ∈ s.requests →
      s.server.managers.combats[c]? = some p → .connectArgent r c ∈ (s.serverStep a).requests ∨
        (s.serverStep a).server.managers.ConnectedTo session r := fun _ _ _ hin _ => .inl hin
  have hold : ∀ (c : Int) p, s.server.managers.combats[c]? = some p →
      c < s.server.managers.combatIds := fun c p hp => (h.consistent.combats c p hp).2.2
  rcases inside_responses h.tracked.tallies.1 ha with ⟨hquiet, heq⟩ |
    ⟨u, c, p, roles, hquiet, hc, hsettled, heq⟩
  · have hcombats := hquiet.combats
    refine h.serves (l := []) htracked hconsistent rfl (fun _ => id)
      (heq.trans (List.append_nil _).symm) hquiet.combatIds.ge (fun c p hp _ => ?_)
      (fun c p hp hle => ?_) (fun c => ?_) (fun c hin => by cases hin) (fun c hin => by cases hin)
      (fun y hy => by cases hy) trivial hkeeps hrequests
    · rw [hcombats] at hp
      exact ⟨hp, (hquiet.combat p).2.2, (hquiet.combat p).2.1⟩
    · rw [hcombats] at hp
      have hlt := hold c p hp
      omega
    · rw [hcombats]
      rfl
  · have hp : s.server.managers.combats[c]? = some p := hquiet.combats ▸ hc
    rw [if_pos (h.served c p hp)] at heq
    have hcombats : ∀ c', (s.serverStep a).server.managers.combats[c']? =
        if c' = c then none else s.server.managers.combats[c']? := fun c' => by
      rw [hsettled.combats, hquiet.combats]
    refine h.serves htracked hconsistent rfl (fun _ => id) heq
      (hsettled.combatIds.trans hquiet.combatIds).ge (fun c' p' hp' _ => ?_)
      (fun c' p' hp' hle => ?_) (fun c' => ?_) (fun c' hin => ?_) (fun c' hin => by cases hin)
      (fun y hy c' hends => ?_) ⟨fun c' _ => ⟨fun hin => (by cases hin), fun hin => (by cases hin)⟩,
        trivial⟩ hkeeps hrequests
    · rw [hcombats] at hp'
      split at hp'
      · cases hp'
      · rename_i hne
        rw [hsettled.others c' p' (hquiet.combats ▸ hp') hne]
        exact ⟨hp', (hquiet.combat p').2.2, (hquiet.combat p').2.1⟩
    · rw [hcombats] at hp'
      split at hp'
      · cases hp'
      · have hlt := hold c' p' hp'
        omega
    · rw [hcombats]
      show _ ∨ c' ∈ [c] ↔ _ ∨ c' ∈ []
      rw [List.mem_singleton]
      by_cases heq : c' = c
      · subst heq
        rw [if_pos rfl, hp]
        exact iff_of_true (.inr rfl) (.inl rfl)
      · rw [if_neg heq]
        exact or_congr Iff.rfl (iff_of_false heq fun hin => by cases hin)
    · obtain rfl : c' = c := List.mem_singleton.mp hin
      rw [hp]
      rfl
    · rw [List.mem_singleton.mp hy] at hends
      obtain rfl : c = c' := Option.some.inj hends
      rw [hcombats, if_pos rfl]
      exact ⟨hold c p hp, rfl⟩

/-- A request that leaves the combats as they are. -/
theorem Agreed.stays (h : s.Agreed) {r : Server.Request} {rest : List Server.Request}
    {l : List CombatMessage} (hrequests : s.requests = r :: rest)
    (hresponses : (s.served r rest).responses = s.responses ++ l)
    (hconsistent : (s.served r rest).server.managers.Consistent none)
    (hstays : Stays s.server.managers (s.served r rest).server.managers)
    (hkeeps : KeepsConnected session s.server.managers (s.served r rest).server.managers)
    (hquiet : l.filterMap CombatMessage.settles = [] ∧ l.filterMap CombatMessage.announces = [])
    (hover : ∀ y ∈ l, ∀ c, y.ends = some c →
      c < s.server.managers.combatIds ∧ s.server.managers.combats[c]? = none)
    (hfirst : ∀ r' (c : Int) p, r = .connectArgent r' c →
      s.server.managers.combats[c]? = some p →
        (s.served r rest).server.managers.ConnectedTo session r') : (s.served r rest).Agreed := by
  obtain ⟨hsettles, hannounces⟩ := hquiet
  have hfinal : Followed Final l := by
    clear hresponses hover
    induction l with
    | nil => trivial
    | cons y l ih =>
      have hsettles' : l.filterMap CombatMessage.settles = [] :=
        List.filterMap_eq_nil_iff.mpr fun z hz =>
          List.filterMap_eq_nil_iff.mp hsettles z (List.mem_cons_of_mem _ hz)
      have hannounces' : l.filterMap CombatMessage.announces = [] :=
        List.filterMap_eq_nil_iff.mpr fun z hz =>
          List.filterMap_eq_nil_iff.mp hannounces z (List.mem_cons_of_mem _ hz)
      refine ⟨fun c _ => ?_, ih hsettles' hannounces'⟩
      rw [hsettles', hannounces']
      exact ⟨fun hin => (by cases hin), fun hin => (by cases hin)⟩
  refine h.serves (h.tracked.request hrequests) hconsistent rfl (fun r' hr' => ?_) hresponses
    hstays.combatIds.ge (fun c p hp _ => ?_) (fun c p hp hle => ?_) (fun c => ?_)
    (fun c hin => ?_) (fun c hin => ?_) (fun y hy c hends => ?_) hfinal hkeeps
    fun r' c p hin hp => ?_
  · rw [hrequests]
    exact List.mem_cons_of_mem _ hr'
  · rw [hstays.combats] at hp
    exact ⟨hp, (hstays.combat p).2.2, (hstays.combat p).2.1⟩
  · rw [hstays.combats] at hp
    have hlt := (h.consistent.combats c p hp).2.2
    omega
  · rw [hstays.combats, hsettles, hannounces]
  · rw [hsettles] at hin
    cases hin
  · rw [hannounces] at hin
    cases hin
  · rw [hstays.combats]
    exact hover y hy c hends
  · rw [hrequests] at hin
    rcases List.mem_cons.mp hin with heq | hin
    · exact .inr (hfirst r' c p heq.symm hp)
    · exact .inl hin

/-- The requests to connect a role stay where they are if the first is another. -/
theorem others_wait {r : Server.Request} {rest : List Server.Request}
    (hrequests : s.requests = r :: rest) (hr : ∀ r' c, r ≠ .connectArgent r' c)
    (m : CombatManagers) : ∀ r' (c : Int) p, .connectArgent r' c ∈ s.requests →
      s.server.managers.combats[c]? = some p →
        .connectArgent r' c ∈ rest ∨ m.ConnectedTo session r' := by
  intro r' c p hin _
  rw [hrequests] at hin
  rcases List.mem_cons.mp hin with heq | hin
  · exact absurd heq.symm (hr r' c)
  · exact .inl hin

/-- A combat that a request under way names has had its id. -/
theorem Agreed.key_lt (h : s.Agreed) {r : Server.Request} {rest : List Server.Request}
    (hrequests : s.requests = r :: rest) {c : Int} (hkey : r.connects = some c ∨ r.begins = some c) :
    c < s.server.managers.combatIds := by
  have hfirst : r ∈ s.requests := by
    rw [hrequests]
    exact List.mem_cons_self ..
  refine h.tracked.named c (.inr ?_)
  rcases hkey with hkey | hkey
  · have hpos : 0 < s.connecting.count c := List.count_pos_iff.mpr
      (List.mem_append_left _ (List.mem_filterMap.mpr ⟨r, hfirst, hkey⟩))
    omega
  · have hpos : 0 < s.beginning.count c := List.count_pos_iff.mpr
      (List.mem_append_right _ (List.mem_filterMap.mpr ⟨r, hfirst, hkey⟩))
    omega

theorem Agreed.request_consistent (h : s.Agreed) {r : Server.Request}
    (hguard : ∀ hostId data, r = .deploy hostId data →
      s.server.managers.refusesRoleBuilding data = false) (rest : List Server.Request) :
    (s.served r rest).server.managers.Consistent none := by
  refine (step_keepsMargins (a := r.action session) h.consistent ?_).consistent
  intro session' hostId data heq
  cases r with
  | deploy hostId' data' =>
    obtain ⟨_, rfl, rfl⟩ := Server.Action.deploy.inj heq
    exact hguard hostId' data' rfl
  | connectArgent r c => cases heq
  | reconnect r c => cases heq
  | begin c => cases heq

/-- A deploy that is refused leaves the combats as they are. -/
theorem Agreed.refused (h : s.Agreed) {hostId : Int} {data : CombatInitialData}
    {rest : List Server.Request} (hrequests : s.requests = .deploy hostId data :: rest)
    (hguard : s.server.managers.refusesRoleBuilding data = false)
    (hresponses : (s.served (.deploy hostId data) rest).responses =
      s.responses ++ [.deployResponse hostId .failure none])
    {t : CombatManagers} (hrefuses : Refuses s.server.managers t)
    (hsent : (s.served (.deploy hostId data) rest).server.managers =
      t.send session (.deployResponse hostId .failure none)) :
    (s.served (.deploy hostId data) rest).Agreed := by
  have hcombats : ∀ c : Int, (s.served (.deploy hostId data) rest).server.managers.combats[c]? =
      s.server.managers.combats[c]? := by
    rw [hsent]
    exact hrefuses.combats
  have hsame : ∀ (c : Int) p, s.server.managers.combats[c]? = some p →
      (s.served (.deploy hostId data) rest).server.managers.combat p =
        s.server.managers.combat p := by
    rw [hsent]
    exact hrefuses.others
  have hdata : ∀ hostId' data', Server.Request.deploy hostId data = .deploy hostId' data' →
      s.server.managers.refusesRoleBuilding data' = false := by
    rintro _ _ heq
    cases heq
    exact hguard
  have hothers := others_wait hrequests (fun r c heq => by cases heq)
    (s.served (.deploy hostId data) rest).server.managers
  refine h.serves (h.tracked.request hrequests) (h.request_consistent hdata rest) rfl
    (fun r' hr' => hrequests ▸ List.mem_cons_of_mem _ hr') hresponses
    (by rw [hsent]; exact hrefuses.combatIds) (fun c p hp _ => ?_) (fun c p hp hle => ?_)
    (fun c => ?_) (fun c hin => by cases hin) (fun c hin => by cases hin) (fun y hy c hends => ?_) ⟨fun c hends => (by cases hends), trivial⟩
    (request_connected h.consistent hdata) hothers
  · rw [hcombats] at hp
    rw [hsame c p hp]
    exact ⟨hp, rfl, rfl⟩
  · rw [hcombats] at hp
    have hlt := (h.consistent.combats c p hp).2.2
    omega
  · rw [hcombats]
    rfl
  · rw [List.mem_singleton.mp hy] at hends
    cases hends

/-- A deploy that is granted has a new combat for the roles that the gateway asked it for. -/
theorem Agreed.granted (h : s.Agreed) {hostId : Int} {data : CombatInitialData}
    {rest : List Server.Request} (hrequests : s.requests = .deploy hostId data :: rest)
    (hguard : s.server.managers.refusesRoleBuilding data = false)
    (hresponses : (s.served (.deploy hostId data) rest).responses =
      s.responses ++ [.deployResponse hostId .complete (some s.server.managers.combatIds)])
    {p : Ptr} {t : CombatManagers} (hgrants : Grants session p s.server.managers t)
    (hsent : (s.served (.deploy hostId data) rest).server.managers =
      t.send session (.deployResponse hostId .complete (some s.server.managers.combatIds)))
    (hroles : ∀ r, r ∈ ((s.served (.deploy hostId data) rest).server.managers.combat p).roles ↔
      r ∈ data.argentIds) :
    (s.served (.deploy hostId data) rest).Agreed := by
  have hcombats : ∀ c : Int, (s.served (.deploy hostId data) rest).server.managers.combats[c]? =
      if c = s.server.managers.combatIds then some p else s.server.managers.combats[c]? := by
    rw [hsent]
    exact hgrants.combats
  have hids : (s.served (.deploy hostId data) rest).server.managers.combatIds =
      s.server.managers.combatIds + 1 := by
    rw [hsent]
    exact hgrants.combatIds
  have hsame : ∀ (c : Int) p', s.server.managers.combats[c]? = some p' →
      (s.served (.deploy hostId data) rest).server.managers.combat p' =
        s.server.managers.combat p' := by
    rw [hsent]
    exact hgrants.others
  have hsession : ((s.served (.deploy hostId data) rest).server.managers.combat p).appSession =
      some session := by
    rw [hsent]
    exact hgrants.appSession
  have hdata : ∀ hostId' data', Server.Request.deploy hostId data = .deploy hostId' data' →
      s.server.managers.refusesRoleBuilding data' = false := by
    rintro _ _ heq
    cases heq
    exact hguard
  have hothers := others_wait hrequests (fun r c heq => by cases heq)
    (s.served (.deploy hostId data) rest).server.managers
  refine h.serves (h.tracked.request hrequests) (h.request_consistent hdata rest) rfl
    (fun r' hr' => hrequests ▸ List.mem_cons_of_mem _ hr') hresponses
    (by omega) (fun c p' hp' hlt => ?_) (fun c p' hp' hle => ?_) (fun c => ?_) (fun c hin => by cases hin)
    (fun c hin => ?_) (fun y hy c hends => ?_) ⟨fun c hends => (by cases hends), trivial⟩
    (request_connected h.consistent hdata) hothers
  · rw [hcombats, if_neg (by omega)] at hp'
    rw [hsame c p' hp']
    exact ⟨hp', rfl, rfl⟩
  · rw [hcombats] at hp'
    split at hp'
    · obtain rfl := Option.some.inj hp'
      refine ⟨hsession, fun y hy _ q x hx hhost => ?_⟩
      rw [List.mem_singleton.mp hy] at hhost
      have hid : hostId = x.id := Option.some.inj hhost
      have hfirst : .deploy hostId data ∈ s.requests := by
        rw [hrequests]
        exact List.mem_cons_self ..
      exact ⟨data.argentIds, h.asked hostId data q x hfirst hx hid.symm, hroles⟩
    · have hlt := (h.consistent.combats c p' hp').2.2
      omega
  · rw [hcombats]
    show _ ∨ c ∈ [] ↔ _ ∨ c ∈ [s.server.managers.combatIds]
    rw [List.mem_singleton]
    by_cases heq : c = s.server.managers.combatIds
    · rw [if_pos heq]
      exact iff_of_true (.inl rfl) (.inr heq)
    · rw [if_neg heq]
      exact or_congr Iff.rfl (iff_of_false (fun hin => by cases hin) heq)
  · exact (List.mem_singleton.mp hin).ge
  · rw [List.mem_singleton.mp hy] at hends
    cases hends

/-- A request to connect a role of a combat that the server has finds the role. -/
theorem Agreed.connected_request (h : s.Agreed) {r : UInt64} {c : Int}
    {rest : List Server.Request} (hrequests : s.requests = .connectArgent r c :: rest)
    (hresponses : (s.served (.connectArgent r c) rest).responses =
      s.responses ++ [.connectArgentResponse (s.server.managers.roles[r]?).isSome r c])
    (hstays : Stays s.server.managers (s.served (.connectArgent r c) rest).server.managers) :
    (s.served (.connectArgent r c) rest).Agreed := by
  have hmember : ∀ p, s.server.managers.combats[c]? = some p →
      ∃ q, s.server.managers.roles[r]? = some q := by
    intro p hp
    have hin := h.connects r c p (by
      rw [hrequests]
      exact List.mem_cons_self ..) hp
    obtain ⟨q, hq, _⟩ := h.consistent.members c p r hp hin
    exact ⟨q, hq⟩
  refine h.stays hrequests hresponses (h.request_consistent (fun _ _ heq => by cases heq) rest)
    hstays (request_connected h.consistent fun _ _ heq => by cases heq) ⟨rfl, rfl⟩
    (fun y hy c' hends => ?_) fun r' c' p heq hp => ?_
  · rw [List.mem_singleton.mp hy] at hends
    cases hq : s.server.managers.roles[r]? with
    | some q =>
      rw [hq] at hends
      cases hends
    | none =>
      rw [hq] at hends
      obtain rfl : c = c' := Option.some.inj hends
      refine ⟨h.key_lt hrequests (.inl rfl), ?_⟩
      cases hp : s.server.managers.combats[c]? with
      | none => rfl
      | some p =>
        obtain ⟨q, hq'⟩ := hmember p hp
        rw [hq] at hq'
        cases hq'
  · obtain ⟨rfl, rfl⟩ := Server.Request.connectArgent.inj heq
    obtain ⟨q, hq⟩ := hmember p hp
    exact connect_connects h.consistent hq c

/-- A reconnect, or a begin, is answered at most once, with a failure only where its combat is not
there. -/
theorem Agreed.answered (h : s.Agreed) {r : Server.Request} {rest : List Server.Request}
    {l : List CombatMessage} (hrequests : s.requests = r :: rest)
    (hdeploys : ∀ hostId data, r ≠ .deploy hostId data) (hconnects : ∀ r' c, r ≠ .connectArgent r' c)
    (hresponses : (s.served r rest).responses = s.responses ++ l)
    (hstays : Stays s.server.managers (s.served r rest).server.managers)
    (hquiet : ∀ y ∈ l, y.settles = none ∧ y.announces = none)
    (hends : ∀ y ∈ l, ∀ c, y.ends = some c →
      r.begins = some c ∧ s.server.managers.combats[c]? = none) :
    (s.served r rest).Agreed := by
  refine h.stays hrequests hresponses
    (h.request_consistent (fun hostId data heq => absurd heq (hdeploys hostId data)) rest) hstays
    (request_connected h.consistent fun hostId data heq => absurd heq (hdeploys hostId data))
    ⟨List.filterMap_eq_nil_iff.mpr fun y hy => (hquiet y hy).1,
      List.filterMap_eq_nil_iff.mpr fun y hy => (hquiet y hy).2⟩ (fun y hy c hc => ?_)
    fun r' c' _ heq => absurd heq (hconnects r' c')
  obtain ⟨hbegins, hgone⟩ := hends y hy c hc
  exact ⟨h.key_lt hrequests (.inr hbegins), hgone⟩

theorem Agreed.request (h : s.Agreed) {r : Server.Request} {rest : List Server.Request}
    (hrequests : s.requests = r :: rest) (hguard : ∀ hostId data, r = .deploy hostId data →
      s.server.managers.refusesRoleBuilding data = false) : (s.served r rest).Agreed := by
  obtain ⟨l, hanswers, hresponses⟩ := served_answers h.tracked.tallies.1 r rest
  generalize hm : (s.served r rest).server.managers = m' at hanswers
  cases hanswers with
  | @refused hostId data t hrefuses =>
    exact h.refused hrequests (hguard hostId data rfl) hresponses hrefuses hm
  | @granted hostId data p t hgrants hok =>
    refine h.granted hrequests (hguard hostId data rfl) hresponses hgrants hm fun r' => ?_
    rw [hm]
    have hroles := deployed_roles (r := r') h.consistent (hguard hostId data rfl) hok
    exact hroles
  | @connected r c t hstays =>
    subst hm
    exact h.connected_request hrequests hresponses hstays
  | @reconnected r c l t hstays hl =>
    subst hm
    refine h.answered hrequests nofun nofun hresponses hstays (fun y hy => ?_) fun y hy c' hends => ?_
    · rcases hl with rfl | rfl
      · cases hy
      · rw [List.mem_singleton.mp hy]
        exact ⟨rfl, rfl⟩
    · rcases hl with rfl | rfl
      · cases hy
      · rw [List.mem_singleton.mp hy] at hends
        cases hends
  | @begun c l t hstays hl =>
    subst hm
    refine h.answered hrequests nofun nofun hresponses hstays (fun y hy => ?_) fun y hy c' hends => ?_
    · rcases hl with rfl | rfl
      · cases hy
      · rw [List.mem_singleton.mp hy]
        exact ⟨rfl, rfl⟩
    · rcases hl with rfl | rfl
      · cases hy
      rw [List.mem_singleton.mp hy] at hends
      cases hp : s.server.managers.combats[c]? with
      | some p =>
        rw [hp] at hends
        cases hends
      | none =>
        rw [hp] at hends
        obtain rfl : c = c' := Option.some.inj hends
        exact ⟨rfl, hp⟩

/-! ## Runs -/

/-- And no request is refused a building of a role. -/
def Supplied (s : Link) (a : Link.Action) : Prop :=
  s.Usual a ∧ match a, s.requests with
    | .request, .deploy _ data :: _ => s.server.managers.refusesRoleBuilding data = false
    | _, _ => True

instance (s : Link) (a : Link.Action) : Decidable (s.Supplied a) := by
  refine @instDecidableAnd _ _ _ ?_
  split
  · infer_instance
  · infer_instance

variable {maps : Int → Option MapConf} {warriorConfs : List WarriorDescription}
  {configs : Server.Configs} {memory : Server.Memory}

theorem start_combats (c : Int) :
    (start maps warriorConfs configs memory).server.managers.combats[c]? = none := by
  show (∅ : ExtTreeMap Int Ptr)[c]? = none
  simp

theorem start_agreed (maps : Int → Option MapConf) (warriorConfs : List WarriorDescription)
    (configs : Server.Configs) (memory : Server.Memory) :
    (start maps warriorConfs configs memory).Agreed where
  tracked := start_tracked maps warriorConfs configs memory
  consistent := (started_consistent _ _ _ _ _ _ _ _).accept session
  served := fun c p hp => by
    rw [start_combats] at hp
    cases hp
  ended := fun _ hy => by cases hy
  ordered := trivial
  known := fun c => by
    rw [start_combats]
    refine iff_of_false ?_ ?_
    · rintro (hthere | hin)
      · cases hthere
      · cases hin
    · rintro (hin | hknows)
      · cases hin
      · cases hknows
  asked := fun _ _ _ _ hr => by cases hr
  told := fun _ hy => by cases hy
  active := fun _ _ _ _ hq => by cases hq
  connects := fun _ _ _ hr => by cases hr
  connected := fun _ _ _ _ _ hactive => by cases hactive

theorem Agreed.step (h : s.Agreed) {a : Link.Action} (hguard : s.Supplied a)
    (hstep : s.step a = some t) : t.Agreed := by
  cases a with
  | gateway a =>
    obtain ⟨g, hg, rfl⟩ := Option.map_eq_some_iff.mp hstep
    obtain ⟨l, hturn⟩ := Gateway.turn h.tracked.sided hg
    have hresponses : s.responses = (none : Option CombatMessage).toList ++ s.responses := rfl
    exact h.turn hresponses (Gateway.FromUser.carries hguard.1) hturn
  | server a =>
    cases hstep
    exact h.inside hguard.1
  | request =>
    rw [Link.step] at hstep
    split at hstep
    · cases hstep
      exact h
    · rename_i r rest hrequests
      cases hstep
      refine h.request hrequests fun hostId data heq => ?_
      have hsupplied := hguard.2
      rw [hrequests, heq] at hsupplied
      exact hsupplied
  | response =>
    rw [Link.step] at hstep
    split at hstep
    · cases hstep
      exact h
    · rename_i y rest hresponses
      obtain ⟨g, hg, rfl⟩ := Option.map_eq_some_iff.mp hstep
      obtain ⟨a, l, hturn, hcarries⟩ := Gateway.receive_turn h.tracked.sided hg
      have htaken : s.responses = (some y).toList ++ rest := hresponses
      exact h.turn htaken hcarries hturn

theorem agreed (h : Reaches step Supplied (start maps warriorConfs configs memory) s) : s.Agreed :=
  h.invariant (start_agreed maps warriorConfs configs memory)
    fun _ _ _ hs hguard hstep => hs.step hguard hstep

theorem met_supplied : Reaches step Supplied room met :=
  Reaches.refl.run (l := meeting) (by decide +kernel) run_meeting

/-- The server has a combat, or has said that it is settled, exactly if the gateway knows the combat
or is to learn of it. -/
theorem combats_agree (maps : Int → Option MapConf) (warriorConfs : List WarriorDescription)
    (configs : Server.Configs) (memory : Server.Memory) (s : Link)
    (h : Reaches step Supplied (start maps warriorConfs configs memory) s) (c : Int) :
    (s.server.managers.combats[c]?).isSome ∨ c ∈ s.settled ↔
      c ∈ s.announced ∨ (s.gateway.combats (1, c)).isSome :=
  (agreed h).known c

theorem combats_agree_met : (met.server.managers.combats[(0 : Int)]?).isSome ∨ 0 ∈ met.settled := by
  refine (combats_agree Gateway.plainMap [] roomConfigs roomMemory met met_supplied 0).mpr (.inr ?_)
  decide

/-- The roles of a combat at the server are the two actors of the gateway's. -/
theorem roles_of_actors (maps : Int → Option MapConf) (warriorConfs : List WarriorDescription)
    (configs : Server.Configs) (memory : Server.Memory) (s : Link)
    (h : Reaches step Supplied (start maps warriorConfs configs memory) s) (c : Int) (q : Nat)
    (x : Combat) (p : Ptr) (hq : s.gateway.combats (1, c) = some q)
    (hx : s.gateway.memory q = some x) (hp : s.server.managers.combats[c]? = some p) :
    ∃ left right a b, x.al = some left ∧ x.ar = some right ∧ s.gateway.argent left = some a ∧
      s.gateway.argent right = some b ∧
        ∀ r, r ∈ (s.server.managers.combat p).roles ↔ r = a ∨ r = b := by
  obtain ⟨ids, ⟨left, right, a, b, hl, hr, ha, hb, rfl⟩, hroles⟩ := (agreed h).active c p q x hq hx hp
  refine ⟨left, right, a, b, hl, hr, ha, hb, fun r => ?_⟩
  rw [hroles, List.mem_cons, List.mem_singleton]

theorem roles_of_actors_met : ∃ a b, met.gateway.argent "b" = some a ∧
    met.gateway.argent "a" = some b ∧
      ∀ r, r ∈ (met.server.managers.combat 0).roles ↔ r = a ∨ r = b := by
  have hlive : (met.gateway.memory 0).isSome := by decide
  obtain ⟨x, hx⟩ := Option.isSome_iff_exists.mp hlive
  have hsides : (met.gateway.memory 0).map (fun x => (x.al, x.ar)) = some (some "b", some "a") := by
    decide
  rw [hx] at hsides
  obtain ⟨hal, har⟩ := Prod.mk.inj (Option.some.inj hsides)
  obtain ⟨left, right, a, b, hl, hr, ha, hb, hroles⟩ := roles_of_actors Gateway.plainMap []
    roomConfigs roomMemory met met_supplied 0 0 x 0 (by decide) hx (by decide)
  rw [hal] at hl
  rw [har] at hr
  cases hl
  cases hr
  exact ⟨a, b, ha, hb, hroles⟩

/-- A combat that was or is being begun is in the table while the server has it. -/
theorem Agreed.begun_active (h : s.Agreed) {c : Int} {p : Ptr} (hbegun : c ∈ s.beginning)
    (hp : s.server.managers.combats[c]? = some p) : (s.gateway.combats (1, c)).isSome := by
  refine ((h.known c).mp (.inl (Option.isSome_of_eq_some hp))).resolve_left fun hheard => ?_
  have hnot := (h.tracked.unheard c (List.count_pos_iff.mpr hheard)).2.2
  have hpos : 0 < s.beginning.count c := List.count_pos_iff.mpr hbegun
  omega

/-- And both of its roles are connected to the gateway. -/
theorem Agreed.begun_connected (h : s.Agreed) {c : Int} {p : Ptr} (hbegun : c ∈ s.beginning)
    (hp : s.server.managers.combats[c]? = some p) {r : UInt64}
    (hr : r ∈ (s.server.managers.combat p).roles) : s.server.managers.ConnectedTo session r := by
  have hpos : 0 < s.beginning.count c := List.count_pos_iff.mpr hbegun
  have hactive := h.begun_active hbegun hp
  obtain ⟨q, hq⟩ := Option.isSome_iff_exists.mp hactive
  obtain ⟨_, x, hx, _⟩ := h.tracked.filed.active (1, c) q hq
  obtain ⟨hnum, hbegins⟩ := h.tracked.connected c q x hq hx
  -- Both were connected, so no request to connect is left.
  have hboth : x.connectedNum = 2 := by
    by_contra hne
    rw [if_neg hne] at hbegins
    omega
  refine (h.connected c p r hp hr hactive).resolve_left fun hin => ?_
  have hleft : 0 < s.connecting.count c := List.count_pos_iff.mpr
    (List.mem_append_left _ (List.mem_filterMap.mpr ⟨_, hin, rfl⟩))
  omega

/-- When the server is asked to begin a combat that it has, both roles are connected to the
gateway. -/
theorem begins_connected (maps : Int → Option MapConf) (warriorConfs : List WarriorDescription)
    (configs : Server.Configs) (memory : Server.Memory) (s : Link)
    (h : Reaches step Supplied (start maps warriorConfs configs memory) s) (c : Int) (p : Ptr)
    (hbegin : .begin c ∈ s.requests) (hp : s.server.managers.combats[c]? = some p) (r : UInt64)
    (hr : r ∈ (s.server.managers.combat p).roles) : s.server.managers.ConnectedTo session r :=
  (agreed h).begun_connected
    (List.mem_append_right _ (List.mem_filterMap.mpr ⟨_, hbegin, rfl⟩)) hp hr

theorem begins_connected_met : met.server.managers.ConnectedTo session 1 := by
  have hrequests : met.requests.filterMap Server.Request.begins = [0] := by decide
  have hbegin : .begin 0 ∈ met.requests := by
    have hin : (0 : Int) ∈ met.requests.filterMap Server.Request.begins := by
      rw [hrequests]
      exact List.mem_singleton_self 0
    obtain ⟨r, hr, hbegins⟩ := List.mem_filterMap.mp hin
    cases r with
    | begin c =>
      obtain rfl := Option.some.inj hbegins
      exact hr
    | _ => cases hbegins
  exact begins_connected Gateway.plainMap [] roomConfigs roomMemory met met_supplied 0 0 hbegin
    (by decide) 1 (by decide)

end Link

end Mysya
