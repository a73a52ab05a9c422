import Mysya.CombatActions
import Mysya.DeployedRoles
import Mysya.GatewayLink

/-!
# Messages for and from the users

The gateway hands the actions of a user on to the combat server, for the role that the user plays
and without a look at them. The combat server sends each user what happens in the combat, one
message for each role. Neither message says more of the other party than an argent id or a combat
id, so who is meant depends on what the other party has when it takes the message.
-/

open Std

namespace Mysya

/-- `MessageCombatArgentRequest`. -/
structure ArgentRequest where
  roleArgentId : UInt64
  type : Int
  data : List UInt8

/-- `MessageCombatArgentSync`. -/
structure ArgentSync where
  combatId : Int
  roleArgentId : Option UInt64
  type : Int
  data : List UInt8

/-- What `Actor::SendMessage` sends. -/
structure UserMessage where
  sockfd : Int
  type : Int
  data : List UInt8
  deriving DecidableEq

/-- `MESSAGE_COMBAT_ACTION_REQUEST`. -/
def messageCombatActionRequest : Int := 1001

/-! ## The gateway -/

namespace Gateway

/-- `OnMessageCombatActionRequest`: the request with the combat it goes to, if there is a session
to the server. -/
def onMessageCombatActionRequest (s : Gateway) (session : Int → Bool) (sockfd : Int)
    (data : List UInt8) : Option (Option (Combat × ArgentRequest)) :=
  match s.actors sockfd with
  | none => some none
  | some none => some none
  | some (some name) =>
    match s.combatActors name with
    | none => none
    | some actor =>
      match actor.combat with
      | none => some none
      | some p =>
        match s.memory p with
        | none => none
        | some c =>
          if session c.combatServerId then
            some (some (c, ⟨actor.combatArgentId, messageCombatActionRequest, data⟩))
          else some none

/-- `Combat::BroadcastMessage`. -/
def broadcastMessage (s : Gateway) (c : Combat) (type : Int) (data : List UInt8) :
    List UserMessage :=
  [c.al, c.ar].filterMap fun side =>
    (side.bind fun name => (s.combatActors name).bind CombatActor.actor).map
      fun sockfd => ⟨sockfd, type, data⟩

/-- What `OnMessageCombatArgentSync` sends. -/
def onMessageCombatArgentSync (s : Gateway) (serverId : Int) (message : ArgentSync) :
    Option (List UserMessage) :=
  match s.combats (serverId, message.combatId) with
  | none => some []
  | some p =>
    match s.memory p with
    | none => none
    | some c =>
      match message.roleArgentId with
      | none => some (s.broadcastMessage c message.type message.data)
      | some r =>
        match s.getActorByArgentId c r with
        | none => some []
        | some actor =>
          some (actor.actor.map fun sockfd => ⟨sockfd, message.type, message.data⟩).toList

end Gateway

/-! ## The combat server -/

namespace CombatManagers

/-- The messages to the roles that `BroadcastMessage` comes to; it ends at one that is unknown. -/
def broadcastRoles (m : CombatManagers) (combatId type : Int) (data : List UInt8) :
    List UInt64 → List (SessionPtr × ArgentSync)
  | [] => []
  | r :: roles =>
    match m.roles[r]? with
    | none => []
    | some q =>
      ((m.role q).appSession.map fun session => (session, ⟨combatId, some r, type, data⟩)).toList ++
        m.broadcastRoles combatId type data roles

/-- `CombatField::BroadcastMessage`. -/
def broadcastMessage (m : CombatManagers) (p : Ptr) (type : Int) (data : List UInt8) :
    List (SessionPtr × ArgentSync) :=
  m.broadcastRoles (m.combat p).id type data (m.combat p).roles.toList

theorem mem_broadcastRoles {m : CombatManagers} {combatId type : Int} {data : List UInt8}
    {roles : List UInt64} {x : SessionPtr × ArgentSync}
    (h : x ∈ m.broadcastRoles combatId type data roles) :
    ∃ r ∈ roles, x.2 = ⟨combatId, some r, type, data⟩ := by
  induction roles with
  | nil => cases h
  | cons r roles ih =>
    rw [broadcastRoles] at h
    split at h
    · cases h
    · rcases List.mem_append.mp h with h | h
      · obtain ⟨session, _, rfl⟩ := Option.map_eq_some_iff.mp (Option.mem_toList.mp h)
        exact ⟨r, List.mem_cons_self .., rfl⟩
      · obtain ⟨r', hr', heq⟩ := ih h
        exact ⟨r', List.mem_cons_of_mem _ hr', heq⟩

/-- Where all roles are connected to a session each gets the message. -/
theorem broadcastRoles_connected {m : CombatManagers} {session : SessionPtr} {roles : List UInt64}
    (h : ∀ r ∈ roles, m.ConnectedTo session r) (combatId type : Int) (data : List UInt8) :
    m.broadcastRoles combatId type data roles =
      roles.map fun r => (session, ⟨combatId, some r, type, data⟩) := by
  induction roles with
  | nil => rfl
  | cons r roles ih =>
    obtain ⟨q, hq, happ⟩ := h r (List.mem_cons_self ..)
    rw [broadcastRoles, hq]
    dsimp only
    rw [happ, ih fun r' hr' => h r' (List.mem_cons_of_mem _ hr')]
    rfl

end CombatManagers

namespace Server

/-- `CombatRoleField::DoAction`. -/
def doAction (s : Server) (q : Ptr) (action : CombatAction) : Bool × Server :=
  match action.type with
  | .build => s.doBuildAction q (action.buildAction.elim 0 CombatBuildAction.warriorConfId)
      (action.buildAction.elim 0 CombatBuildAction.buildingId)
  | .move => (true, s.doMoveAction q (action.moveAction.elim [] CombatMoveAction.warriorId)
      ((action.moveAction.bind CombatMoveAction.pos).getD ⟨0, 0⟩))
  | _ => (false, s)

/-- `UserCombatMessageHandler::OnMessageCombatActionRequest`. -/
def onMessageCombatActionRequest (s : Server) (parse : List UInt8 → Option CombatAction) (q : Ptr)
    (data : List UInt8) : Server :=
  match parse data with
  | none => s
  | some action => (s.doAction q action).2

/-- `OnMessageCombatArgentRequest`; the dispatcher has a callback for the actions only. -/
def onMessageCombatArgentRequest (s : Server) (parse : List UInt8 → Option CombatAction)
    (message : ArgentRequest) : Server :=
  match s.managers.roles[message.roleArgentId]? with
  | none => s
  | some q =>
    if message.type = messageCombatActionRequest then
      s.onMessageCombatActionRequest parse q message.data
    else s

theorem step_build {s : Server} {r : UInt64} {q : Ptr} (hq : s.managers.roles[r]? = some q)
    (warriorConfId buildingId : Int) :
    s.step (.build r warriorConfId buildingId) = (s.doBuildAction q warriorConfId buildingId).2 := by
  rw [step, hq]

theorem step_move {s : Server} {r : UInt64} {q : Ptr} (hq : s.managers.roles[r]? = some q)
    (warriorIds : List Int) (pos : Position) :
    s.step (.move r warriorIds pos) = s.doMoveAction q warriorIds pos := by
  rw [step, hq]

/-- A request of a user does what one of the actions inside the server does, or nothing. -/
theorem argentRequest_inside (s : Server) (parse : List UInt8 → Option CombatAction)
    (message : ArgentRequest) : s.onMessageCombatArgentRequest parse message = s ∨
      ∃ a, a.Inside ∧ s.onMessageCombatArgentRequest parse message = s.step a := by
  rw [onMessageCombatArgentRequest]
  split
  · exact .inl rfl
  · rename_i q hq
    split
    · rw [onMessageCombatActionRequest]
      split
      · exact .inl rfl
      · rw [doAction]
        split
        · exact .inr ⟨.build _ _ _, trivial, (step_build hq _ _).symm⟩
        · exact .inr ⟨.move _ _ _, trivial, (step_move hq _ _).symm⟩
        · exact .inl rfl
    · exact .inl rfl

end Server

end Mysya
