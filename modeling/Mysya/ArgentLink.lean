import Mysya.ArgentMessages
import Mysya.LatestCombats

/-!
# Users and their combats

The gateway and the combat server with the messages for and from the users, which go over the same
two channels as those about the combats. Without them a run is one of the gateway and the server as
before. An action of a user is carried out in the combat that the user was in, if the role is still
in one, and what the server sends to a role finds its actor.
-/

open Std

namespace Mysya

open GuardedRuns Channels

/-- What is under way to the combat server; an action with the combat that its user was in, which
the message does not tell. -/
inductive Upward
  | request (r : Server.Request)
  | action (combatId : Int) (message : ArgentRequest)

inductive Downward
  | message (y : CombatMessage)
  | sync (message : ArgentSync)

def Upward.request? : Upward → Option Server.Request
  | .request r => some r
  | _ => none

def Downward.message? : Downward → Option CombatMessage
  | .message y => some y
  | _ => none

structure ArgentLink where
  gateway : Gateway
  server : Server
  requests : List Upward
  responses : List Downward
  begun : List Int

namespace ArgentLink

/-- The messages about the combats. -/
def link (s : ArgentLink) : Link where
  gateway := s.gateway
  server := s.server
  requests := s.requests.filterMap Upward.request?
  responses := s.responses.filterMap Downward.message?
  begun := s.begun

def start (maps : Int → Option MapConf) (warriorConfs : List WarriorDescription)
    (configs : Server.Configs) (memory : Server.Memory) : ArgentLink where
  gateway := .start maps warriorConfs
  server := (Server.started configs memory).step (.accept Link.session)
  requests := []
  responses := []
  begun := []

/-- The gateway goes on to `g`, and what it asked is under way. -/
def asking (s : ArgentLink) (g : Gateway) : ArgentLink :=
  { s with gateway := g, requests := s.requests ++ (s.gateway.asked g).map .request }

/-- The server goes on, and what it reports is under way. -/
def serving (s : ArgentLink) (server : Server) : ArgentLink :=
  { s with
    server := server
    responses := s.responses ++ (Link.reported s.server.managers server.managers).map .message }

/-- The action of a user is under way, if it is sent. -/
def acting (s : ArgentLink) (sent : Option (Combat × ArgentRequest)) : ArgentLink :=
  { s with requests := s.requests ++ sent.toList.map fun x => .action x.1.combatArgentId x.2 }

inductive Action
  | gateway (a : Gateway.Action)
  | act (sockfd : Int) (data : List UInt8)
  | server (a : Server.Action)
  | broadcast (combatId type : Int) (data : List UInt8)
  | request
  | response

/-- What is broadcast to the gateway. -/
def syncs (s : ArgentLink) (p : Ptr) (type : Int) (data : List UInt8) : List ArgentSync :=
  (s.server.managers.broadcastMessage p type data).filterMap fun x =>
    if x.1 = Link.session then some x.2 else none

def broadcasting (s : ArgentLink) (l : List ArgentSync) : ArgentLink :=
  { s with responses := s.responses ++ l.map .sync }

def step (parse : List UInt8 → Option CombatAction) (s : ArgentLink) : Action → Option ArgentLink
  | .gateway a => (s.gateway.step a).map s.asking
  | .act sockfd data =>
    (s.gateway.onMessageCombatActionRequest (fun serverId => serverId = 1) sockfd data).map s.acting
  | .server a => some (s.serving (s.server.step a))
  | .broadcast combatId type data =>
    match s.server.managers.combats[combatId]? with
    | none => some s
    | some p => some (s.broadcasting (s.syncs p type data))
  | .request =>
    match s.requests with
    | [] => some s
    | .request r :: rest => some ({ s with
        requests := rest
        begun := s.begun ++ r.begins.toList }.serving (s.server.step (r.action Link.session)))
    | .action _ message :: rest =>
      some ({ s with requests := rest }.serving (s.server.onMessageCombatArgentRequest parse message))
  | .response =>
    match s.responses with
    | [] => some s
    | .message y :: rest => (s.gateway.receive y).map { s with responses := rest }.asking
    | .sync message :: rest =>
      (s.gateway.onMessageCombatArgentSync 1 message).map fun _ => { s with responses := rest }

/-- Besides the messages users and the combats do something, no request is refused a building of a
role, and there is an argent id for each new actor. -/
def Usual (s : ArgentLink) : Action → Prop
  | .gateway a => s.gateway.FromUser a ∧ s.gateway.HasIds a
  | .server a => a.Inside
  | .request =>
    match s.requests with
    | .request (.deploy _ data) :: _ => s.server.managers.refusesRoleBuilding data = false
    | _ => True
  | _ => True

instance (s : ArgentLink) (a : Action) : Decidable (s.Usual a) := by
  unfold Usual
  split
  · infer_instance
  · infer_instance
  · split
    · infer_instance
    · infer_instance
  · infer_instance

variable {parse : List UInt8 → Option CombatAction} {s t : ArgentLink}
  {maps : Int → Option MapConf} {warriorConfs : List WarriorDescription}
  {configs : Server.Configs} {memory : Server.Memory}

/-! ## The messages about the combats -/

theorem filterMap_request (l : List Server.Request) :
    (l.map Upward.request).filterMap Upward.request? = l := by
  rw [List.filterMap_map]
  exact List.filterMap_some

theorem filterMap_message (l : List CombatMessage) :
    (l.map Downward.message).filterMap Downward.message? = l := by
  rw [List.filterMap_map]
  exact List.filterMap_some

theorem filterMap_action (l : List (Combat × ArgentRequest)) :
    (l.map fun x => Upward.action x.1.combatArgentId x.2).filterMap Upward.request? = [] := by
  rw [List.filterMap_map]
  exact List.filterMap_eq_nil_iff.mpr fun _ _ => rfl

theorem link_acting (s : ArgentLink) (sent : Option (Combat × ArgentRequest)) :
    (s.acting sent).link = s.link := by
  rw [link, acting, List.filterMap_append, filterMap_action, List.append_nil]
  rfl

theorem filterMap_sync (l : List ArgentSync) :
    (l.map Downward.sync).filterMap Downward.message? = [] := by
  rw [List.filterMap_map]
  exact List.filterMap_eq_nil_iff.mpr fun _ _ => rfl

theorem link_asking (s : ArgentLink) (g : Gateway) : (s.asking g).link = s.link.asking g := by
  rw [link, asking, List.filterMap_append, filterMap_request]
  rfl

theorem link_serving (s : ArgentLink) (a : Server.Action) :
    (s.serving (s.server.step a)).link = s.link.serverStep a := by
  rw [link, serving, List.filterMap_append, filterMap_message]
  rfl

theorem serving_same (s : ArgentLink) : s.serving s.server = s := by
  have hnone : Link.reported s.server.managers s.server.managers = [] :=
    Link.reported_append (List.append_nil _).symm
  rw [serving, hnone, List.map_nil, List.append_nil]

theorem link_broadcasting (s : ArgentLink) (l : List ArgentSync) :
    (s.broadcasting l).link = s.link := by
  rw [link, broadcasting, List.filterMap_append, filterMap_sync, List.append_nil]
  rfl

/-- An action is no message about a combat. -/
theorem link_action {k : Int} {message : ArgentRequest} {rest : List Upward}
    (hrequests : s.requests = .action k message :: rest) :
    { s with requests := rest }.link = s.link := by
  rw [link, link, hrequests]
  rfl

theorem link_sync {message : ArgentSync} {rest : List Downward}
    (hresponses : s.responses = .sync message :: rest) :
    { s with responses := rest }.link = s.link := by
  rw [link, link, hresponses]
  rfl

/-- Each step is one of the gateway and the server without the users, or nothing to them. -/
theorem link_step {a : Action} (husual : s.Usual a) (hstep : s.step parse a = some t) :
    t.link = s.link ∨ ∃ a, s.link.Numbered a ∧ s.link.step a = some t.link := by
  cases a with
  | gateway a =>
    obtain ⟨g, hg, rfl⟩ := Option.map_eq_some_iff.mp hstep
    refine .inr ⟨.gateway a, ⟨⟨husual.1, trivial⟩, husual.2⟩, ?_⟩
    rw [link_asking]
    exact Option.map_eq_some_iff.mpr ⟨g, hg, rfl⟩
  | act sockfd data =>
    obtain ⟨sent, _, rfl⟩ := Option.map_eq_some_iff.mp hstep
    exact .inl (link_acting s sent)
  | server a =>
    cases hstep
    exact .inr ⟨.server a, ⟨⟨husual, trivial⟩, trivial⟩, congrArg some (link_serving s a).symm⟩
  | broadcast combatId type data =>
    rw [step] at hstep
    split at hstep
    · cases hstep
      exact .inl rfl
    · cases hstep
      exact .inl (link_broadcasting s _)
  | request =>
    rw [step] at hstep
    split at hstep
    · cases hstep
      exact .inl rfl
    · rename_i r rest hrequests
      cases hstep
      have hlink : s.link.requests = r :: rest.filterMap Upward.request? := by
        rw [link, hrequests]
        rfl
      refine .inr ⟨.request, ⟨⟨trivial, ?_⟩, trivial⟩, ?_⟩
      · rw [hlink]
        rw [Usual, hrequests] at husual
        cases r with
        | deploy hostId data => exact husual
        | _ => trivial
      · rw [Link.step, hlink, link_serving]
        rfl
    · rename_i k message rest hrequests
      cases hstep
      have hlink := link_action hrequests
      rcases Server.argentRequest_inside s.server parse message with heq | ⟨a, ha, heq⟩
      · rw [heq]
        exact .inl ((congrArg link (serving_same { s with requests := rest })).trans hlink)
      · rw [heq]
        refine .inr ⟨.server a, ⟨⟨ha, trivial⟩, trivial⟩, congrArg some ?_⟩
        rw [← hlink]
        exact (link_serving { s with requests := rest } a).symm
  | response =>
    rw [step] at hstep
    split at hstep
    · cases hstep
      exact .inl rfl
    · rename_i y rest hresponses
      obtain ⟨g, hg, rfl⟩ := Option.map_eq_some_iff.mp hstep
      have hlink : s.link.responses = y :: rest.filterMap Downward.message? := by
        rw [link, hresponses]
        rfl
      refine .inr ⟨.response, ⟨⟨trivial, trivial⟩, trivial⟩, ?_⟩
      rw [Link.step, hlink, link_asking]
      exact Option.map_eq_some_iff.mpr ⟨g, hg, rfl⟩
    · rename_i message rest hresponses
      obtain ⟨_, _, rfl⟩ := Option.map_eq_some_iff.mp hstep
      exact .inl (link_sync hresponses)

theorem reaches_link
    (h : Reaches (step parse) Usual (start maps warriorConfs configs memory) s) :
    Reaches Link.step Link.Numbered (Link.start maps warriorConfs configs memory) s.link := by
  induction h with
  | refl => exact .refl
  | snoc a _ husual hstep ih =>
    rcases link_step husual hstep with heq | ⟨a', hnumbered, hlink⟩
    · exact heq ▸ ih
    · exact ih.snoc a' hnumbered hlink

end ArgentLink

end Mysya
