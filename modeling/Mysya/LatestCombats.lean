import Mysya.ArgentIds
import Mysya.LinkAgreement

/-!
# The combat that an actor fights in

An actor points to the latest combat it was put into. Once the gateway knows where that combat was
deployed no request to deploy another one with the same role is under way, so at the combat server
the role can be in this combat only.
-/

open Std

namespace Mysya

open GuardedRuns Channels CombatManagers

namespace Gateway

variable {s t : Gateway} {a : Action} {l : List Server.Request} {name : String} {p q : Nat}
  {x : Combat} {r : UInt64}

/-- The actor of the argent id points to the combat `x` at `p`. -/
structure FightsIn (s : Gateway) (name : String) (p : Nat) (x : Combat) (r : UInt64) : Prop where
  fights : s.fights name = some p
  live : s.memory p = some x
  argent : s.argent name = some r

/-- An actor points to the combat it pointed to, and it is not in a new one, or the combat it points
to is new. -/
theorem Moved.fights (h : Moved s a t) (hq : t.fights name = some q) (hpointed : s.Pointed) :
    (s.fights name = some q ∧ ∀ p x, s.memory p = none → t.memory p = some x → ¬ x.Has name) ∨
      s.memory q = none := by
  have hsame : ∀ {u : Gateway}, Same u t → u.fights = s.fights → u.memory = s.memory →
      s.fights name = some q ∧ ∀ p x, s.memory p = none → t.memory p = some x → ¬ x.Has name := by
    intro u hsame hfights hmemory
    rw [hsame.fights, hfights] at hq
    refine ⟨hq, fun p x hnone hx => ?_⟩
    have hidentity := hsame.memory p
    rw [hmemory, hnone, hx] at hidentity
    cases hidentity
  cases h with
  | same h => exact .inl (hsame h rfl rfl)
  | waits _ _ _ h => exact .inl (hsame h rfl rfl)
  | requeued _ h => exact .inl (hsame h rfl rfl)
  | leaves _ h => exact .inl (hsame h rfl rfl)
  | @paired _ _ left right _ p u _ _ _ _ hpaired h =>
    rw [h.fights, hpaired.fights] at hq
    rcases Table.insert_some hq with ⟨_, rfl⟩ | ⟨hright, hq⟩
    · exact .inr hpaired.free
    · rcases Table.insert_some hq with ⟨_, rfl⟩ | ⟨hleft, hq⟩
      · exact .inr hpaired.free
      · refine .inl ⟨hq, fun p' x hnone hx => ?_⟩
        obtain ⟨c, hmemory, hidentity⟩ := hpaired.memory
        have hmap := h.memory p'
        rw [hx, hmemory] at hmap
        by_cases heq : p' = p
        · subst heq
          rw [Function.update_self, Option.map_some, Option.map_some, Option.some.injEq, hidentity]
            at hmap
          have hal : x.al = some left := congrArg (fun i => i.2.2.1) hmap
          have har : x.ar = some right := congrArg (fun i => i.2.2.2) hmap
          rw [Combat.Has, hal, har, Option.some.injEq, Option.some.injEq]
          rintro (heq | heq)
          · exact hleft heq.symm
          · exact hright heq.symm
        · rw [Function.update_of_ne heq, hnone] at hmap
          cases hmap
  | @ended _ p c _ hended =>
    obtain ⟨left, right, hl, hr⟩ := hpointed.sided p c hended.live
    rw [hended.fights left right hl hr] at hq
    obtain ⟨_, hq⟩ := Table.erase_some hq
    obtain ⟨_, hq⟩ := Table.erase_some hq
    refine .inl ⟨hq, fun p' x hnone hx => ?_⟩
    rw [hended.memory] at hx
    rw [(Table.erase_some hx).2] at hnone
    cases hnone
  | @deployed serverId hostId combatId p _ hp hlive h =>
    have hrest := addCombat_rest (s.modifyCombat p fun c =>
      { c with combatArgentId := combatId, combatServerId := serverId }) (serverId, combatId) p
    have hfights : t.fights = s.fights := by
      rw [h.fights]
      unfold Gateway.fights
      rw [hrest.2.2.2.1]
      rfl
    rw [hfights] at hq
    refine .inl ⟨hq, fun p' x hnone hx => ?_⟩
    have hmap := h.memory p'
    rw [hx, hrest.1] at hmap
    have hne : p' ≠ p := by
      rintro rfl
      rw [hnone] at hlive
      cases hlive
    have hold : (s.modifyCombat p fun c => { c with
        combatArgentId := combatId, combatServerId := serverId }).memory p' = none :=
      (Function.update_of_ne hne ..).trans hnone
    rw [hold] at hmap
    cases hmap

/-- A step deploys the new combat at most. -/
theorem Turn.hosts (h : Turn s a l t) : l.filterMap Server.Request.hostId = [] ∨
    l.filterMap Server.Request.hostId = [s.idAllocator + 1] := by
  cases h with
  | still _ _ hl => exact .inl hl.reconnects.keys.1
  | opens _ _ hopens =>
    obtain ⟨_, _, _, _, _, _, hl⟩ := hopens.sides
    rw [hl]
    split
    · exact .inr rfl
    · exact .inl rfl
  | closes _ _ => exact .inl rfl
  | enters henters =>
    obtain ⟨_, _, _, _, _, _, _, _, hl⟩ := henters.sides
    rw [hl]
    split
    · exact .inl rfl
    · exact .inl rfl
  | counts hcounts =>
    rw [hcounts.begins]
    split
    · exact .inl rfl
    · exact .inl rfl

/-- The roles that are deployed are those of actors of a new combat. -/
theorem Turn.deploys_new (h : Turn s a l t) {hostId : Int} {data : CombatInitialData}
    (hl : .deploy hostId data ∈ l) (hr : r ∈ data.argentIds) :
    ∃ name p x, s.argent name = some r ∧ s.memory p = none ∧ t.memory p = some x ∧ x.Has name := by
  cases h with
  | still _ _ hidle =>
    obtain ⟨_, _, heq⟩ := hidle.reconnects _ hl
    cases heq
  | @opens _ session left right p _ _ _ _ hopens =>
    obtain ⟨c, hmemory, hidentity, _⟩ := hopens.memory
    obtain ⟨y, z, data', hy, hz, hids, hasked⟩ := hopens.sides
    have hlive : t.memory p = some c := by
      rw [hmemory, Function.update_self]
    rw [hasked] at hl
    split at hl
    · cases List.mem_singleton.mp hl
      rw [hids] at hr
      rcases List.mem_cons.mp hr with rfl | hr
      · exact ⟨left, p, c, hy, hopens.free, hlive, .inl (congrArg (fun i => i.2.2.1) hidentity)⟩
      · rw [List.mem_singleton.mp hr]
        exact ⟨right, p, c, hz, hopens.free, hlive, .inr (congrArg (fun i => i.2.2.2) hidentity)⟩
    · cases hl
  | closes _ _ => cases hl
  | enters henters =>
    obtain ⟨_, _, _, _, _, _, _, _, hasked⟩ := henters.sides
    rw [hasked] at hl
    split at hl
    · rcases List.mem_cons.mp hl with heq | hl
      · cases heq
      · cases List.mem_singleton.mp hl
    · cases hl
  | counts hcounts =>
    rw [hcounts.begins] at hl
    split at hl
    · cases List.mem_singleton.mp hl
    · cases hl

end Gateway

namespace Link

variable {s t : Link} {a : Gateway.Action} {l : List Server.Request} {g : Gateway}
  {taken : Option CombatMessage} {rest : List CombatMessage} {name : String} {p q : Nat}
  {x : Combat} {r : UInt64} {k : Int}

/-- The role is in the combat of the server. -/
def InCombat (s : Link) (r : UInt64) (k : Int) : Prop :=
  ∃ p, s.server.managers.combats[k]? = some p ∧ r ∈ (s.server.managers.combat p).roles

/-- The gateway knows or is to learn that the combat `x` at `p` is the combat `k` of the server. -/
def Answered (s : Link) (p : Nat) (x : Combat) (k : Int) : Prop :=
  s.gateway.combats (1, k) = some p ∨
    ∃ y ∈ s.responses, y.announces = some k ∧ y.hostId = some x.id

/-- The requests to deploy are in the order of their combats, those with a role that fights are not
later than the combat it is in, and are done when that one was deployed. Then the role is in no
other combat of the server. -/
structure Placed (s : Link) : Prop where
  sorted : (s.requests.filterMap Server.Request.hostId).Pairwise (· < ·)
  latest : ∀ name p x r, s.gateway.FightsIn name p x r → ∀ hostId data,
    .deploy hostId data ∈ s.requests → r ∈ data.argentIds → hostId ≤ x.id
  done : ∀ name p x r k, s.gateway.FightsIn name p x r → s.Answered p x k → ∀ hostId data,
    .deploy hostId data ∈ s.requests → r ∉ data.argentIds
  here : ∀ name p x r k, s.gateway.FightsIn name p x r → s.Answered p x k →
    ∀ k', s.InCombat r k' → k' = k

/-! ## Steps of the gateway -/

/-- Who fights after a step fought in the same combat, and its role is not deployed anew, or fights
in the new combat. -/
theorem Agreed.fightsIn_turn (h : s.Agreed) (hpointed : s.gateway.Pointed)
    (hidentified : s.gateway.Identified) (hturn : Gateway.Turn s.gateway a l g)
    (hmoved : ∃ a, Gateway.Moved s.gateway a g) (hx : g.FightsIn name q x r) :
    (∃ x', s.gateway.FightsIn name q x' r ∧ x'.id = x.id ∧ ∀ hostId data,
      .deploy hostId data ∈ l → r ∉ data.argentIds) ∨
    s.gateway.memory q = none ∧ x.id = s.gateway.idAllocator + 1 := by
  obtain ⟨_, hmoved⟩ := hmoved
  rcases hmoved.fights hx.fights hpointed with ⟨hfights, hother⟩ | hnone
  · obtain ⟨x', hx', hhas⟩ := hpointed.linked name q hfights
    have hargent : s.gateway.argent name = some r := by
      obtain ⟨left, right, y, z, hl, hr, hy, hz⟩ := h.tracked.sided q x' hx'
      have hknown : ∃ y, s.gateway.argent name = some y := by
        rcases hhas with hleft | hright
        · rw [hl, Option.some.injEq] at hleft
          exact ⟨y, hleft ▸ hy⟩
        · rw [hr, Option.some.injEq] at hright
          exact ⟨z, hright ▸ hz⟩
      obtain ⟨y, hy⟩ := hknown
      have hkept := hturn.argents name y hy
      rw [hx.argent, Option.some.injEq] at hkept
      rw [hy, hkept]
    rcases hturn.origin hx.live with ⟨x'', hx'', hid, _⟩ | ⟨hnone, _⟩
    · refine .inl ⟨x'', ⟨hfights, hx'', hargent⟩, hid, fun hostId data hl hr => ?_⟩
      obtain ⟨name', p', c, hname', hfree, hc, hin⟩ := hturn.deploys_new hl hr
      obtain rfl := hidentified.distinct name name' r hargent hname'
      exact hother p' c hfree hc hin
    · rw [hnone] at hx'
      cases hx'
  · rcases hturn.origin hx.live with ⟨x', hx', _⟩ | ⟨_, hid, _⟩
    · rw [hnone] at hx'
      cases hx'
    · exact .inr ⟨hnone, hid⟩

/-- What is known of a combat after a step was known or under way before it. -/
theorem Agreed.answered_turn (h : s.Agreed) (hresponses : s.responses = taken.toList ++ rest)
    (hcarries : a.Carries taken) (hturn : Gateway.Turn s.gateway a l g) {x' : Combat}
    (hx' : s.gateway.memory q = some x') (hid : x'.id = x.id)
    (hanswered : ({ s with responses := rest }.asking g).Answered q x k) : s.Answered q x' k := by
  rcases hanswered with hq | ⟨y, hy, hannounces, hhost⟩
  · rcases h.entry hresponses hcarries hturn hq with hold | ⟨hostId, c, rfl, henters⟩
    · exact .inl hold
    · have hannounces := hcarries.announces
      have hhost := hcarries.hostId
      cases taken with
      | none => cases hhost
      | some y =>
        obtain ⟨x'', hx'', hid'⟩ := h.tracked.filed.pending hostId q henters.found
        obtain rfl : x' = x'' := Option.some.inj (hx'.symm.trans hx'')
        refine .inr ⟨y, ?_, hannounces.symm, ?_⟩
        · rw [hresponses]
          exact List.mem_cons_self ..
        · rw [hid']
          exact hhost.symm
  · refine .inr ⟨y, ?_, hannounces, hid ▸ hhost⟩
    rw [hresponses]
    exact List.mem_append_right _ hy

/-- Nothing is known of a new combat. -/
theorem Agreed.unanswered (h : s.Agreed) (hresponses : s.responses = taken.toList ++ rest)
    (hcarries : a.Carries taken) (hturn : Gateway.Turn s.gateway a l g)
    (hnone : s.gateway.memory q = none) (hid : x.id = s.gateway.idAllocator + 1) :
    ¬ ({ s with responses := rest }.asking g).Answered q x k := by
  rintro (hq | ⟨y, hy, _, hhost⟩)
  · rcases h.entry hresponses hcarries hturn hq with hold | ⟨hostId, c, _, henters⟩
    · obtain ⟨_, c, hc, _⟩ := h.tracked.filed.active (1, k) q hold
      rw [hnone] at hc
      cases hc
    · have hlive := henters.live
      rw [hnone] at hlive
      cases hlive
  · rw [hid] at hhost
    refine h.tracked.no_host (host_of_response (y := y) ?_ hhost)
    rw [hresponses]
    exact List.mem_append_right _ hy

/-- What is asked of the server is about combats that were opened. -/
theorem Tracked.host_le (h : s.Tracked) {hostId : Int} (hin : hostId ∈ s.hosts) :
    hostId ≤ s.gateway.idAllocator := by
  obtain ⟨p, hp⟩ := h.awaited hostId (List.count_pos_iff.mpr hin)
  obtain ⟨c, hc, rfl⟩ := h.filed.pending hostId p hp
  exact (h.filed.live p c hc).2

theorem Placed.turn (h : s.Placed) (hagreed : s.Agreed) (hpointed : s.gateway.Pointed)
    (hidentified : s.gateway.Identified) (hresponses : s.responses = taken.toList ++ rest)
    (hcarries : a.Carries taken) (hturn : Gateway.Turn s.gateway a l g)
    (hmoved : ∃ a, Gateway.Moved s.gateway a g) :
    ({ s with responses := rest }.asking g).Placed := by
  have hrequests : ({ s with responses := rest }.asking g).requests = s.requests ++ l :=
    congrArg (s.requests ++ ·) hturn.asks.asked
  have hhosts : ∀ hostId data, .deploy hostId data ∈ s.requests →
      hostId ≤ s.gateway.idAllocator := fun hostId data hr =>
    hagreed.tracked.host_le (host_of_request hr rfl)
  refine ⟨?_, fun name q x r hx hostId data hr hin => ?_, fun name q x r k hx hk hostId data hr => ?_,
    fun name q x r k hx hk => ?_⟩
  · rw [hrequests, List.filterMap_append]
    rcases hturn.hosts with hl | hl
    · rw [hl, List.append_nil]
      exact h.sorted
    · rw [hl, List.pairwise_append]
      refine ⟨h.sorted, List.pairwise_singleton _ _, fun hostId hin next hnext => ?_⟩
      rw [List.mem_singleton.mp hnext]
      exact Int.lt_add_one_of_le (hagreed.tracked.host_le (List.mem_append_left _ hin))
  · rw [hrequests] at hr
    rcases hagreed.fightsIn_turn hpointed hidentified hturn hmoved hx with
      ⟨x', hx', hid, hnot⟩ | ⟨_, hid⟩
    · rcases List.mem_append.mp hr with hr | hr
      · exact hid ▸ h.latest name q x' r hx' hostId data hr hin
      · exact absurd hin (hnot hostId data hr)
    · rcases List.mem_append.mp hr with hr | hr
      · have hle := hhosts hostId data hr
        omega
      · rw [hturn.deploys hr, hid]
  · rw [hrequests] at hr
    rcases hagreed.fightsIn_turn hpointed hidentified hturn hmoved hx with
      ⟨x', hx', hid, hnot⟩ | ⟨hnone, hid⟩
    · rcases List.mem_append.mp hr with hr | hr
      · exact h.done name q x' r k hx'
          (hagreed.answered_turn hresponses hcarries hturn hx'.live hid hk) hostId data hr
      · exact hnot hostId data hr
    · exact absurd hk (hagreed.unanswered hresponses hcarries hturn hnone hid)
  · rcases hagreed.fightsIn_turn hpointed hidentified hturn hmoved hx with
      ⟨x', hx', hid, _⟩ | ⟨hnone, hid⟩
    · exact h.here name q x' r k hx'
        (hagreed.answered_turn hresponses hcarries hturn hx'.live hid hk)
    · exact absurd hk (hagreed.unanswered hresponses hcarries hturn hnone hid)

/-! ## Steps of the combat server -/

theorem Placed.serves (h : s.Placed) (hgateway : t.gateway = s.gateway)
    (hrequests : t.requests.Sublist s.requests)
    (hanswered : ∀ name p x r k, s.gateway.FightsIn name p x r → t.Answered p x k →
      s.Answered p x k ∨ (∀ hostId data, .deploy hostId data ∈ t.requests → r ∉ data.argentIds) ∧
        ∀ k', t.InCombat r k' → k' = k)
    (hcombats : ∀ r k, t.InCombat r k → s.InCombat r k ∨
      ∃ hostId data, .deploy hostId data ∈ s.requests ∧ r ∈ data.argentIds) : t.Placed := by
  refine ⟨h.sorted.sublist (hrequests.filterMap _), fun name p x r hx hostId data hr => ?_,
    fun name p x r k hx hk hostId data hr => ?_, fun name p x r k hx hk k' hk' => ?_⟩
  · rw [hgateway] at hx
    exact h.latest name p x r hx hostId data (hrequests.subset hr)
  · rw [hgateway] at hx
    rcases hanswered name p x r k hx hk with hold | ⟨hdone, _⟩
    · exact h.done name p x r k hx hold hostId data (hrequests.subset hr)
    · exact hdone hostId data hr
  · rw [hgateway] at hx
    rcases hanswered name p x r k hx hk with hold | ⟨_, hhere⟩
    · rcases hcombats r k' hk' with hin | ⟨hostId, data, hr, hin⟩
      · exact h.here name p x r k hx hold k' hin
      · exact absurd hin (h.done name p x r k hx hold hostId data hr)
    · exact hhere k' hk'

/-- Within the server roles leave their combats only. -/
theorem Agreed.inCombat_inside (h : s.Agreed) {a : Server.Action} (ha : a.Inside)
    (hk : (s.serverStep a).InCombat r k) : s.InCombat r k := by
  obtain ⟨p, hp, hin⟩ := hk
  rcases inside_responses h.tracked.tallies.1 ha with ⟨hquiet, _⟩ |
    ⟨u, c, p', roles, hquiet, _, hsettled, _⟩
  · rw [hquiet.combats] at hp
    exact ⟨p, hp, (hquiet.combat p).2.2 ▸ hin⟩
  · rw [hsettled.combats] at hp
    split at hp
    · cases hp
    · rename_i hne
      rw [hsettled.others k p hp hne] at hin
      exact ⟨p, hquiet.combats ▸ hp, (hquiet.combat p).2.2 ▸ hin⟩

theorem Placed.inside (h : s.Placed) (hagreed : s.Agreed) {a : Server.Action} (ha : a.Inside) :
    (s.serverStep a).Placed := by
  refine h.serves rfl (.refl _) (fun name p x r k _ hk => .inl ?_) fun r k hk =>
    .inl (hagreed.inCombat_inside ha hk)
  rcases hk with hq | ⟨y, hy, hannounces, hhost⟩
  · exact .inl hq
  · refine .inr ⟨y, ?_, hannounces, hhost⟩
    rcases inside_responses hagreed.tracked.tallies.1 ha with ⟨_, heq⟩ | ⟨_, _, _, _, _, _, _, heq⟩
    · exact heq ▸ hy
    · rw [heq] at hy
      rcases List.mem_append.mp hy with hy | hy
      · exact hy
      · split at hy
        · rw [List.mem_singleton.mp hy] at hannounces
          cases hannounces
        · cases hy

theorem InCombat.unique {k' : Int} (h : s.server.managers.Consistent none) (hk : s.InCombat r k)
    (hk' : s.InCombat r k') : k' = k := by
  obtain ⟨p, hp, hin⟩ := hk
  obtain ⟨p', hp', hin'⟩ := hk'
  obtain rfl : p = p' := h.member_unique hp hp' hin hin'
  exact h.combat_unique hp' hp

/-- A request puts roles into a combat only if it deploys one, and then its own into the new one. -/
theorem Agreed.inCombat_request (h : s.Agreed) {y : Server.Request} (rest : List Server.Request)
    (hguard : ∀ hostId data, y = .deploy hostId data →
      s.server.managers.refusesRoleBuilding data = false) :
    (∀ r k, (s.served y rest).InCombat r k → s.InCombat r k ∨
      ∃ hostId data, y = .deploy hostId data ∧ r ∈ data.argentIds) ∧
    ∀ z k, z ∈ (s.served y rest).responses → z ∉ s.responses → z.announces = some k →
      ∃ hostId data, y = .deploy hostId data ∧ z.hostId = some hostId ∧
        ∀ r ∈ data.argentIds, (s.served y rest).InCombat r k := by
  obtain ⟨l, hanswers, hresponses⟩ := served_answers h.tracked.tallies.1 y rest
  have hnew : ∀ z ∈ (s.served y rest).responses, z ∉ s.responses → z ∈ l := fun z hz hnot => by
    rw [hresponses] at hz
    exact (List.mem_append.mp hz).resolve_left hnot
  have hstays : Stays s.server.managers (s.served y rest).server.managers →
      ∀ r k, (s.served y rest).InCombat r k → s.InCombat r k := by
    rintro hstays r k ⟨p, hp, hin⟩
    rw [hstays.combats] at hp
    exact ⟨p, hp, (hstays.combat p).2.2 ▸ hin⟩
  generalize hm : (s.served y rest).server.managers = m at hanswers
  cases hanswers with
  | @refused hostId data t hrefuses =>
    refine ⟨?_, fun z k hz hnot hannounces => ?_⟩
    · rintro r k ⟨p, hp, hin⟩
      rw [hm] at hp hin
      have hold : s.server.managers.combats[k]? = some p := (hrefuses.combats k).symm.trans hp
      refine .inl ⟨p, hold, ?_⟩
      rw [← hrefuses.others k p hold]
      exact hin
    · rw [List.mem_singleton.mp (hnew z hz hnot)] at hannounces
      cases hannounces
  | @granted hostId data p t hgrants hok =>
    have hroles : ∀ r, r ∈ (t.combat p).roles ↔ r ∈ data.argentIds := fun r =>
      deployed_roles (r := r) h.consistent (hguard hostId data rfl) hok
    refine ⟨?_, fun z k hz hnot hannounces => ?_⟩
    · rintro r k ⟨p', hp', hin⟩
      rw [hm] at hp' hin
      have hat := (hgrants.combats k).symm.trans hp'
      split at hat
      · obtain rfl := Option.some.inj hat
        exact .inr ⟨hostId, data, rfl, (hroles r).mp hin⟩
      · refine .inl ⟨p', hat, ?_⟩
        rw [← hgrants.others k p' hat]
        exact hin
    · have hz := List.mem_singleton.mp (hnew z hz hnot)
      subst hz
      obtain rfl : s.server.managers.combatIds = k := Option.some.inj hannounces
      refine ⟨hostId, data, rfl, rfl, fun r hr => ⟨p, ?_, ?_⟩⟩
      · rw [hm]
        exact (hgrants.combats _).trans (if_pos rfl)
      · rw [hm]
        exact (hroles r).mpr hr
  | @connected c k' t hkept =>
    subst hm
    refine ⟨fun r k hk => .inl (hstays hkept r k hk), fun z k hz hnot hannounces => ?_⟩
    rw [List.mem_singleton.mp (hnew z hz hnot)] at hannounces
    cases hannounces
  | @reconnected c k' l t hkept hl =>
    subst hm
    refine ⟨fun r k hk => .inl (hstays hkept r k hk), fun z k hz hnot hannounces => ?_⟩
    have hin := hnew z hz hnot
    rcases hl with rfl | rfl
    · cases hin
    · rw [List.mem_singleton.mp hin] at hannounces
      cases hannounces
  | @begun k' l t hkept hl =>
    subst hm
    refine ⟨fun r k hk => .inl (hstays hkept r k hk), fun z k hz hnot hannounces => ?_⟩
    have hin := hnew z hz hnot
    rcases hl with rfl | rfl
    · cases hin
    · rw [List.mem_singleton.mp hin] at hannounces
      cases hannounces

theorem Placed.request (h : s.Placed) (hagreed : s.Agreed) (hpointed : s.gateway.Pointed)
    {y : Server.Request} {rest : List Server.Request} (hrequests : s.requests = y :: rest)
    (hguard : ∀ hostId data, y = .deploy hostId data →
      s.server.managers.refusesRoleBuilding data = false) : (s.served y rest).Placed := by
  have hafter := (hagreed.request hrequests hguard).consistent
  obtain ⟨hcombats, hannounced⟩ := hagreed.inCombat_request rest hguard
  have hfirst : y ∈ s.requests := by
    rw [hrequests]
    exact List.mem_cons_self ..
  have hsub : rest.Sublist s.requests := by
    rw [hrequests]
    exact List.sublist_cons_self y rest
  refine h.serves rfl hsub (fun name p x r k hx hk => ?_) fun r k hk => ?_
  · rcases hk with hq | ⟨z, hz, hannounces, hhost⟩
    · exact .inl (.inl hq)
    · by_cases hold : z ∈ s.responses
      · exact .inl (.inr ⟨z, hold, hannounces, hhost⟩)
      · obtain ⟨hostId, data, rfl, hhost', hroles⟩ := hannounced z k hz hold hannounces
        obtain rfl : hostId = x.id := Option.some.inj (hhost'.symm.trans hhost)
        -- The role is one of the two that are deployed.
        have hin : r ∈ data.argentIds := by
          obtain ⟨x', hx', hhas⟩ := hpointed.linked name p hx.fights
          obtain rfl : x = x' := Option.some.inj (hx.live.symm.trans hx')
          obtain ⟨left, right, b, b', hl, hr, hb, hb', hids⟩ :=
            hagreed.asked x.id data p x hfirst hx.live rfl
          rw [hids]
          rcases hhas with hleft | hright
          · rw [hl, Option.some.injEq] at hleft
            rw [hleft, hx.argent, Option.some.injEq] at hb
            rw [hb]
            exact List.mem_cons_self ..
          · rw [hr, Option.some.injEq] at hright
            rw [hright, hx.argent, Option.some.injEq] at hb'
            rw [hb']
            exact List.mem_cons_of_mem _ (List.mem_cons_self ..)
        refine .inr ⟨fun hostId' data' hr' hin' => ?_, fun k' hk' => ?_⟩
        · have hle := h.latest name p x r hx hostId' data' (hsub.subset hr') hin'
          have hsorted := h.sorted
          have hhost : Server.Request.hostId (.deploy x.id data) = some x.id := rfl
          rw [hrequests, List.filterMap_cons_some hhost, List.pairwise_cons] at hsorted
          have hlt := hsorted.1 hostId' (List.mem_filterMap.mpr ⟨_, hr', rfl⟩)
          omega
        · exact (hroles r hin).unique hafter hk'
  · rcases hcombats r k hk with hin | ⟨hostId, data, rfl, hin⟩
    · exact .inl hin
    · exact .inr ⟨hostId, data, hfirst, hin⟩

/-! ## Runs -/

/-- And there is an argent id for each new actor. -/
def Numbered (s : Link) (a : Link.Action) : Prop :=
  s.Supplied a ∧ match a with
    | .gateway a => s.gateway.HasIds a
    | _ => True

instance (s : Link) : (a : Link.Action) → Decidable (s.Numbered a)
  | .gateway a => inferInstanceAs (Decidable (s.Supplied (.gateway a) ∧ s.gateway.HasIds a))
  | .server a => inferInstanceAs (Decidable (s.Supplied (.server a) ∧ True))
  | .request => inferInstanceAs (Decidable (s.Supplied .request ∧ True))
  | .response => inferInstanceAs (Decidable (s.Supplied .response ∧ True))

/-- What is known of the gateway and the server in runs with enough argent ids. -/
structure Known (s : Link) : Prop where
  agreed : s.Agreed
  online : s.gateway.Online
  pointed : s.gateway.Pointed
  identified : s.gateway.Identified
  placed : s.Placed

theorem start_known (maps : Int → Option MapConf) (warriorConfs : List WarriorDescription)
    (configs : Server.Configs) (memory : Server.Memory) :
    (start maps warriorConfs configs memory).Known where
  agreed := start_agreed maps warriorConfs configs memory
  online := Gateway.start_online maps warriorConfs
  pointed := ⟨fun _ _ hfights => (by cases hfights), fun _ _ hc => by cases hc⟩
  identified := Gateway.start_identified maps warriorConfs
  placed := by
    refine ⟨List.Pairwise.nil, fun _ _ _ _ hx => ?_, fun _ _ _ _ _ hx => ?_, fun _ _ _ _ _ hx => ?_⟩
    · cases hx.fights
    · cases hx.fights
    · cases hx.fights

theorem Known.step (h : s.Known) {a : Link.Action} (hguard : s.Numbered a)
    (hstep : s.step a = some t) : t.Known := by
  have hagreed := h.agreed.step hguard.1 hstep
  cases a with
  | gateway a =>
    obtain ⟨g, hg, rfl⟩ := Option.map_eq_some_iff.mp hstep
    obtain ⟨l, hturn⟩ := Gateway.turn h.agreed.tracked.sided hg
    have hresponses : s.responses = (none : Option CombatMessage).toList ++ s.responses := rfl
    exact ⟨hagreed, h.online.step hg, h.pointed.step hg, h.identified.step h.online hguard.2 hg,
      h.placed.turn h.agreed h.pointed h.identified hresponses
        (Gateway.FromUser.carries hguard.1.1) hturn ⟨a, Gateway.moved hg⟩⟩
  | server a =>
    cases hstep
    exact ⟨hagreed, h.online, h.pointed, h.identified, h.placed.inside h.agreed hguard.1.1⟩
  | request =>
    rw [Link.step] at hstep
    split at hstep
    · cases hstep
      exact h
    · rename_i y rest hrequests
      cases hstep
      have hplaced : (s.served y rest).Placed :=
        h.placed.request h.agreed h.pointed hrequests fun hostId data heq => by
          have hsupplied := hguard.1.2
          rw [hrequests, heq] at hsupplied
          exact hsupplied
      exact ⟨hagreed, h.online, h.pointed, h.identified, hplaced⟩
  | response =>
    rw [Link.step] at hstep
    split at hstep
    · cases hstep
      exact h
    · rename_i y rest hresponses
      obtain ⟨g, hg, rfl⟩ := Option.map_eq_some_iff.mp hstep
      obtain ⟨a, l, hturn, hcarries⟩ := Gateway.receive_turn h.agreed.tracked.sided hg
      have htaken : s.responses = (some y).toList ++ rest := hresponses
      rcases Gateway.receive_step hg with ⟨a', hids, ha'⟩ | rfl
      · exact ⟨hagreed, h.online.step ha', h.pointed.step ha',
          h.identified.step h.online hids ha', h.placed.turn h.agreed h.pointed h.identified htaken
            hcarries hturn ⟨a', Gateway.moved ha'⟩⟩
      · exact ⟨hagreed, h.online, h.pointed, h.identified, h.placed.turn h.agreed h.pointed
          h.identified htaken hcarries hturn ⟨a, .same (.refl _)⟩⟩

theorem known {maps : Int → Option MapConf} {warriorConfs : List WarriorDescription}
    {configs : Server.Configs} {memory : Server.Memory}
    (h : Reaches step Numbered (start maps warriorConfs configs memory) s) : s.Known :=
  h.invariant (start_known maps warriorConfs configs memory)
    fun _ _ _ hs hguard hstep => hs.step hguard hstep

end Link

end Mysya
