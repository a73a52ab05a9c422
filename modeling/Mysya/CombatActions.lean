import Mysya.BuildingRecovery
import Mysya.HitPoints

/-!
# The actions that clients get to see

A `CombatAction` has a type and one optional part for each type. The handlers of the server record
and broadcast one for each event, and a status image has some for what goes on when it is exported.
A client reads the part that the type names, so there should be that part and no other.
-/

open Std Attempts GuardedRuns

namespace Mysya

/-! ## Messages -/

inductive CombatActionType
  | build
  | move
  | lockTarget
  | death
  | convertCamp
  | buildingSwitchStatus
  deriving DecidableEq

structure CombatBuildAction where
  buildingId : Int
  warriorConfId : Int
  fields : CombatWarriorField

structure CombatMoveAction where
  warriorId : List Int
  pos : Option Position
  paths : List Position

structure CombatLockTargetAction where
  warriorId : Int
  target : CombatEntity

structure CombatDeathAction where
  host : CombatEntity

structure CombatConvertCampAction where
  host : CombatEntity
  campId : Int
  hostId : Int

structure CombatBuildingSwitchStatusAction where
  buildingId : Int
  status : BuildingStatus

structure CombatAction where
  type : CombatActionType
  timestamp : Int
  buildAction : Option CombatBuildAction := none
  moveAction : Option CombatMoveAction := none
  lockTargetAction : Option CombatLockTargetAction := none
  deathAction : Option CombatDeathAction := none
  convertCampAction : Option CombatConvertCampAction := none
  buildingSwitchStatusAction : Option CombatBuildingSwitchStatusAction := none

/-- The types of the parts that are there. -/
def CombatAction.populated (action : CombatAction) : List CombatActionType :=
  (action.buildAction.map fun _ => .build).toList ++
    (action.moveAction.map fun _ => .move).toList ++
    (action.lockTargetAction.map fun _ => .lockTarget).toList ++
    (action.deathAction.map fun _ => .death).toList ++
    (action.convertCampAction.map fun _ => .convertCamp).toList ++
    (action.buildingSwitchStatusAction.map fun _ => .buildingSwitchStatus).toList

/-- There is one part, and it is the one of the type. -/
def CombatAction.WellTagged (action : CombatAction) : Prop := action.populated = [action.type]

instance (action : CombatAction) : Decidable action.WellTagged :=
  inferInstanceAs (Decidable (action.populated = [action.type]))

/-- `CombatStatusImage`. -/
structure StatusImage where
  elapsedMsec : Int
  buildings : List CombatBuildingField
  warriors : List CombatWarriorField
  actions : List CombatAction
  roles : List CombatRoleField

inductive CombatEvent
  | buildAction (combatId : Int) (action : CombatAction)
  | moveAction (combatId : Int) (action : CombatAction)
  | death (combatId : Int) (target : CombatEntity) (opponentWarriorId : Int)
  | lockTarget (combatId warriorId : Int) (target : CombatEntity)
  | convertCamp (combatId : Int) (host : CombatEntity)
      (campId hostId originalCampId originalHostId : Int)
  | buildingSwitchStatus (combatId buildingId : Int)

/-! ## Events -/

/-- `CombatWarriorField::DispatchBuildActionEvent`. -/
def CombatWarriorField.dispatchBuildActionEvent (m : CombatManagers)
    (warrior : CombatWarriorField) (buildingId timestampMsec : Int) : Option CombatEvent :=
  (m.role warrior.host).combatField.map fun p =>
    .buildAction (m.combat p).id
      { type := .build
        timestamp := toInt32 timestampMsec
        buildAction := some ⟨buildingId, warrior.confId, warrior⟩ }

namespace Apps

/-- `Warrior::DispatchMoveActionEvent`. -/
def dispatchMoveActionEvent (a : Apps) (w : Ptr) (destPos : Position) (paths : List Position)
    (timestampMsec : Int) : Option CombatEvent :=
  match (a.warrior w).scene, (a.warrior w).host with
  | some sc, some key => (a.scene sc).host.map fun combatId =>
      .moveAction combatId
        { type := .move
          timestamp := toInt32 timestampMsec
          moveAction := some ⟨[key.2], some destPos, paths⟩ }
  | _, _ => none

/-- `OnRequireCombatMovePaths`: `none` for -1, and then no path for a warrior that stands. -/
def onRequireCombatMovePaths (a : Apps) (combatId warriorId : Int) :
    Option (Option (List Position)) :=
  match a.scenes combatId with
  | none => none
  | some sc =>
    match (a.scene sc).warriors[warriorId]? with
    | none => none
    | some w =>
      if (a.warrior w).timerMoveToken = -1 then some none
      else if (a.warrior w).movePaths.length ≤ ((a.warrior w).pathIndex % 2 ^ 64).toNat then none
      else some (some ((a.warrior w).movePaths.drop (a.warrior w).pathIndex.toNat))

/-- `OnRequireCombatAttackingTarget`: `none` for -1, and then no target for an auto that does not
attack. -/
def onRequireCombatAttackingTarget (a : Apps) (combatId warriorId : Int) :
    Option (Option CombatEntity) :=
  match a.autoes (combatId, warriorId) with
  | none => none
  | some x =>
    if (a.auto x).presentStatus = some .attack then some (some (a.auto x).target) else some none

end Apps

namespace Server

/-! ## Recording -/

/-- The `status` of the fields of a building, which the AI sets with its own. -/
def buildingStatus (s : Server) (combatId buildingId : Int) : BuildingStatus :=
  match s.apps.buildings (combatId, buildingId) with
  | none => .host
  | some b => (s.apps.buildingPool.read b).presentStatus.getD .host

/-- What the handlers of `CombatEventHandler` push and broadcast, with the combat. -/
def recordedAction (s : Server) (timestampMsec : Int) : CombatEvent → Option (Ptr × CombatAction)
  | .buildAction combatId action => s.managers.combats[combatId]?.map fun p => (p, action)
  | .moveAction combatId action => s.managers.combats[combatId]?.map fun p => (p, action)
  | .death combatId target _ => s.managers.combats[combatId]?.map fun p =>
      (p, { type := .death, timestamp := toInt32 timestampMsec, deathAction := some ⟨target⟩ })
  | .lockTarget combatId warriorId target => s.managers.combats[combatId]?.map fun p =>
      (p, { type := .lockTarget
            timestamp := toInt32 timestampMsec
            lockTargetAction := some ⟨warriorId, target⟩ })
  | .convertCamp combatId host campId hostId _ originalHostId =>
    match s.managers.combats[combatId]?, s.managers.roles[UInt64.ofInt hostId]?,
        s.managers.roles[UInt64.ofInt originalHostId]? with
    | some p, some _, some _ =>
      if host.type = .warrior ∧ ((s.managers.combat p).warriors[host.id]?).isNone then none
      else some (p, { type := .convertCamp
                      timestamp := toInt32 timestampMsec
                      convertCampAction := some ⟨host, campId, hostId⟩ })
    | _, _, _ => none
  | .buildingSwitchStatus combatId buildingId =>
    match s.managers.combats[combatId]? with
    | none => none
    | some p => (s.managers.combat p).buildings[buildingId]?.map fun _ =>
      (p, { type := .buildingSwitchStatus
            timestamp := toInt32 timestampMsec
            buildingSwitchStatusAction := some ⟨buildingId, s.buildingStatus combatId buildingId⟩ })

/-- `BroadcastMessage`: the sessions that get the message, up to the first role that is missing. -/
def broadcastTo (m : CombatManagers) : List UInt64 → List SessionPtr
  | [] => []
  | r :: rest =>
    match m.roles[r]? with
    | none => []
    | some q => (m.role q).appSession.toList ++ broadcastTo m rest

/-! ## Exporting -/

/-- The actions of a warrior in `ExportStatusImage`. -/
def exportActions (s : Server) (combatId timestampMsec warriorId : Int) : List CombatAction :=
  (match s.apps.onRequireCombatMovePaths combatId warriorId with
    | some (some path) =>
      [{ type := .move
         timestamp := toInt32 timestampMsec
         moveAction := some ⟨[warriorId], path.getLast?, path⟩ }]
    | _ => []) ++
  (match s.apps.onRequireCombatAttackingTarget combatId warriorId with
    | some (some target) =>
      [{ type := .move
         timestamp := toInt32 timestampMsec
         lockTargetAction := some ⟨warriorId, target⟩ }]
    | _ => [])

/-- `ExportStatusImage`. -/
def exportStatusImage (s : Server) (p : Ptr) (timestampMsec : Int) : StatusImage where
  elapsedMsec := toInt32 timestampMsec
  buildings := (s.managers.combat p).buildings.toList.map Prod.snd
  warriors := (s.managers.combat p).warriors.toList.map Prod.snd
  actions := (s.managers.combat p).warriors.toList.flatMap fun entry =>
    s.exportActions (s.managers.combat p).id timestampMsec entry.2.id
  roles := (s.managers.combat p).roles.toList.filterMap fun r =>
    s.managers.roles[r]?.map s.managers.role

/-! ## The recorder -/

/-- What makes the server dispatch an event about an action. -/
inductive Cause
  | build (warrior : CombatWarriorField) (buildingId : Int)
  | move (w : Ptr) (destPos : Position) (paths : List Position)
  | death (combatId : Int) (target : CombatEntity) (opponentWarriorId : Int)
  | lockTarget (combatId warriorId : Int) (target : CombatEntity)
  | convertCamp (combatId : Int) (host : CombatEntity)
      (campId hostId originalCampId originalHostId : Int)
  | switchStatus (combatId buildingId : Int)

def dispatched (s : Server) (timestampMsec : Int) : Cause → Option CombatEvent
  | .build warrior buildingId =>
    warrior.dispatchBuildActionEvent s.managers buildingId timestampMsec
  | .move w destPos paths => s.apps.dispatchMoveActionEvent w destPos paths timestampMsec
  | .death combatId target opponentWarriorId => some (.death combatId target opponentWarriorId)
  | .lockTarget combatId warriorId target => some (.lockTarget combatId warriorId target)
  | .convertCamp combatId host campId hostId originalCampId originalHostId =>
    some (.convertCamp combatId host campId hostId originalCampId originalHostId)
  | .switchStatus combatId buildingId => some (.buildingSwitchStatus combatId buildingId)

/-- The combats of which a step sends an image, with the session that gets it. -/
def exports (s : Server) : Action → Option (SessionPtr × Ptr)
  | .reconnect session r combatId =>
    match s.managers.roles[r]?, s.managers.combats[combatId]? with
    | some _, some p => some (session, p)
    | _, _ => none
  | .begin session combatId => s.managers.combats[combatId]?.map fun p => (session, p)
  | _ => none

end Server

/-- The server with what it recorded, broadcast and exported. -/
structure Recorder where
  server : Server
  actions : List (Ptr × CombatAction)
  broadcasts : List (SessionPtr × CombatAction)
  images : List (SessionPtr × StatusImage)

namespace Recorder

open Server CombatManagers

inductive Input
  | act (a : Action) (timestampMsec : Int)
  /-- A step dispatches in its middle, so an event comes with the server that it finds. -/
  | event (found : Server) (timestampMsec : Int) (cause : Cause)

def started (configs : Configs) (memory : Memory) : Recorder :=
  ⟨.started configs memory, [], [], []⟩

/-- `PushAction` and `BroadcastMessage`. -/
def record (r : Recorder) (found : Server) (p : Ptr) (action : CombatAction) : Recorder :=
  { r with
    actions := r.actions ++ [(p, action)]
    broadcasts := r.broadcasts ++
      (broadcastTo found.managers (found.managers.combat p).roles.toList).map fun session =>
        (session, action) }

def step (r : Recorder) : Input → Recorder
  | .act a timestampMsec =>
    { r with
      server := r.server.step a
      images := r.images ++ ((r.server.exports a).map fun (session, p) =>
        (session, (r.server.step a).exportStatusImage p timestampMsec)).toList }
  | .event found timestampMsec cause =>
    match (found.dispatched timestampMsec cause).bind (found.recordedAction timestampMsec) with
    | none => r
    | some (p, action) => r.record found p action

end Recorder

/-! ## Events -/

namespace Server

open CombatManagers

variable {s : Server} {p : Ptr} {timestampMsec : Int}

/-- Every event is recorded with the one part that its type names. -/
theorem recorded_wellTagged {cause : Cause} {event : CombatEvent} {action : CombatAction}
    (hevent : s.dispatched timestampMsec cause = some event)
    (hrecorded : s.recordedAction timestampMsec event = some (p, action)) : action.WellTagged := by
  cases cause with
  | build warrior buildingId =>
    obtain ⟨q, _, rfl⟩ := Option.map_eq_some_iff.mp hevent
    obtain ⟨q', _, heq⟩ := Option.map_eq_some_iff.mp hrecorded
    obtain ⟨rfl, rfl⟩ := Prod.mk.inj heq
    rfl
  | move w destPos paths =>
    rw [dispatched, Apps.dispatchMoveActionEvent] at hevent
    split at hevent
    · obtain ⟨combatId, _, rfl⟩ := Option.map_eq_some_iff.mp hevent
      obtain ⟨q, _, heq⟩ := Option.map_eq_some_iff.mp hrecorded
      obtain ⟨rfl, rfl⟩ := Prod.mk.inj heq
      rfl
    · cases hevent
  | death combatId target opponentWarriorId =>
    obtain rfl := Option.some.inj hevent
    obtain ⟨q, _, heq⟩ := Option.map_eq_some_iff.mp hrecorded
    obtain ⟨rfl, rfl⟩ := Prod.mk.inj heq
    rfl
  | lockTarget combatId warriorId target =>
    obtain rfl := Option.some.inj hevent
    obtain ⟨q, _, heq⟩ := Option.map_eq_some_iff.mp hrecorded
    obtain ⟨rfl, rfl⟩ := Prod.mk.inj heq
    rfl
  | convertCamp combatId host campId hostId originalCampId originalHostId =>
    obtain rfl := Option.some.inj hevent
    rw [recordedAction] at hrecorded
    split at hrecorded
    · split at hrecorded
      · cases hrecorded
      · obtain ⟨rfl, rfl⟩ := Prod.mk.inj (Option.some.inj hrecorded)
        rfl
    · cases hrecorded
  | switchStatus combatId buildingId =>
    obtain rfl := Option.some.inj hevent
    rw [recordedAction] at hrecorded
    split at hrecorded
    · cases hrecorded
    · obtain ⟨b, _, heq⟩ := Option.map_eq_some_iff.mp hrecorded
      obtain ⟨rfl, rfl⟩ := Prod.mk.inj heq
      rfl

/-! ## Images -/

/-- The auto of the warrior attacks. -/
def Engaged (s : Server) (combatId warriorId : Int) : Prop :=
  ∃ x, s.apps.autoes (combatId, warriorId) = some x ∧
    (s.apps.auto x).presentStatus = some .attack

/-- Some warrior of the combat attacks. -/
def Fighting (s : Server) (p : Ptr) : Prop :=
  ∃ entry ∈ (s.managers.combat p).warriors.toList, s.Engaged (s.managers.combat p).id entry.2.id

/-- The target that is locked is exported as a move. -/
theorem exportActions_wellTagged_iff (s : Server) (combatId timestampMsec warriorId : Int) :
    (∀ action ∈ s.exportActions combatId timestampMsec warriorId, action.WellTagged) ↔
      ¬ s.Engaged combatId warriorId := by
  have hmoves : ∀ action ∈ (match s.apps.onRequireCombatMovePaths combatId warriorId with
      | some (some path) =>
        [({ type := .move
            timestamp := toInt32 timestampMsec
            moveAction := some ⟨[warriorId], path.getLast?, path⟩ } : CombatAction)]
      | _ => []), action.WellTagged := by
    intro action hin
    split at hin
    · rw [List.mem_singleton.mp hin]
      rfl
    · cases hin
  rw [exportActions]
  constructor
  · rintro htagged ⟨x, hx, hstatus⟩
    have hlocked : s.apps.onRequireCombatAttackingTarget combatId warriorId =
        some (some (s.apps.auto x).target) := by
      rw [Apps.onRequireCombatAttackingTarget, hx]
      exact if_pos hstatus
    rw [hlocked] at htagged
    have hlast := htagged _ (List.mem_append_right _ (List.mem_singleton_self _))
    cases hlast
  · intro hcalm action hin
    rcases List.mem_append.mp hin with hin | hin
    · exact hmoves action hin
    · split at hin
      · rename_i target htarget
        refine absurd ?_ hcalm
        rw [Apps.onRequireCombatAttackingTarget] at htarget
        split at htarget
        · cases htarget
        · rename_i x hx
          split at htarget
          · rename_i hstatus
            exact ⟨x, hx, hstatus⟩
          · cases htarget
      · cases hin

theorem exportStatusImage_wellTagged_iff (s : Server) (p : Ptr) (timestampMsec : Int) :
    (∀ action ∈ (s.exportStatusImage p timestampMsec).actions, action.WellTagged) ↔
      ¬ s.Fighting p := by
  constructor
  · rintro htagged ⟨entry, hentry, hengaged⟩
    refine (exportActions_wellTagged_iff s _ timestampMsec _).mp (fun action hin => ?_) hengaged
    exact htagged action (List.mem_flatMap.mpr ⟨entry, hentry, hin⟩)
  · intro hcalm action hin
    obtain ⟨entry, hentry, hin⟩ := List.mem_flatMap.mp hin
    exact (exportActions_wellTagged_iff s _ timestampMsec _).mpr
      (fun hengaged => hcalm ⟨entry, hentry, hengaged⟩) action hin

/-! ## Steps that export -/

/-- The autos stay as they are. -/
def SameAutos (a a' : Apps) : Prop := a'.autoes = a.autoes ∧ a'.autoPool = a.autoPool

theorem sameAutos_beginAi (m : CombatManagers) (a : Apps) (combatId : Int) :
    SameAutos a (a.onEventCombatBeginAi m combatId) := by
  have hloop : ∀ l : List Int, Ends (SameAutos a) (SameAutos a)
      (l.foldlM (Apps.raiseAiBuilding combatId) a) := by
    intro l
    refine ends_foldlM (I := fun _ => SameAutos a) ?_ l ⟨rfl, rfl⟩
    intro buildingId rest b hb
    rw [Apps.raiseAiBuilding]
    split
    · exact hb
    · split
      · exact hb
      · exact hb
  rw [Apps.onEventCombatBeginAi]
  split
  · exact ⟨rfl, rfl⟩
  · split
    · rename_i b hb
      exact (hloop _).error hb
    · rename_i b hb
      exact (hloop _).ok hb

theorem begin_sameAutos (s : Server) (session : SessionPtr) (combatId : Int) :
    SameAutos s.apps (s.onMessageCombatBeginRequest session combatId).apps := by
  rw [onMessageCombatBeginRequest]
  split
  · exact ⟨rfl, rfl⟩
  · rename_i p _
    have hai := sameAutos_beginAi (s.beginning p).managers (s.beginning p).apps combatId
    dsimp only
    split
    · exact ⟨rfl, rfl⟩
    · rename_i hb
      have hscene := Apps.outside_beginScene hb
      exact ⟨hscene.autoes.trans hai.1, hscene.autoPool.trans hai.2⟩

/-- What a step exports is as it was before the step. -/
theorem fighting_exported (h : s.Tallies) {a : Action} {session : SessionPtr}
    (hexports : s.exports a = some (session, p)) : (s.step a).Fighting p ↔ s.Fighting p := by
  obtain ⟨combatId, hc, hsame, hautos⟩ : ∃ combatId : Int,
      s.managers.combats[combatId]? = some p ∧ SameFields s.managers (s.step a).managers ∧
        SameAutos s.apps (s.step a).apps := by
    cases a with
    | reconnect session r combatId =>
      rw [exports] at hexports
      split at hexports
      · rename_i q p' _ hc
        obtain ⟨rfl, rfl⟩ := Prod.mk.inj (Option.some.inj hexports)
        exact ⟨combatId, hc, (blind_forces.reconnect s.managers session r combatId).sameFields, rfl, rfl⟩
      · cases hexports
    | begin session combatId =>
      obtain ⟨p', hc, heq⟩ := Option.map_eq_some_iff.mp hexports
      obtain ⟨rfl, rfl⟩ := Prod.mk.inj heq
      exact ⟨combatId, hc, (blind_forces.begin s session combatId).sameFields,
        begin_sameAutos s session combatId⟩
    | _ => cases hexports
  have hid := (h.1.combats combatId p hc).2
  have hreg : (s.step a).managers.combats[combatId]? = some p := by
    rw [hsame.combats, hc]
  have hid' := ((h.step a).1.combats combatId p hreg).2
  have hengaged : ∀ warriorId, (s.step a).Engaged combatId warriorId ↔
      s.Engaged combatId warriorId := by
    intro warriorId
    rw [Engaged, Engaged, hautos.1]
    simp only [Apps.auto, hautos.2]
  rw [Fighting, Fighting, hsame.warriors, hid, hid']
  simp only [hengaged]

end Server

/-! ## Runs -/

namespace Recorder

open Server

/-- No image is exported of a combat in which a warrior attacks. -/
def ExportGuard (r : Recorder) (input : Input) : Prop :=
  ∀ a timestampMsec session p, input = .act a timestampMsec →
    r.server.exports a = some (session, p) → ¬ r.server.Fighting p

structure WellTagged (r : Recorder) : Prop where
  actions : ∀ entry ∈ r.actions, entry.2.WellTagged
  broadcasts : ∀ entry ∈ r.broadcasts, entry.2.WellTagged
  images : ∀ entry ∈ r.images, ∀ action ∈ entry.2.actions, action.WellTagged

theorem started_wellTagged (configs : Configs) (memory : Memory) :
    (started configs memory).WellTagged where
  actions := fun _ hin => absurd hin List.not_mem_nil
  broadcasts := fun _ hin => absurd hin List.not_mem_nil
  images := fun _ hin => absurd hin List.not_mem_nil

theorem WellTagged.record {r : Recorder} (h : r.WellTagged) (found : Server) (p : Ptr)
    {action : CombatAction} (haction : action.WellTagged) : (r.record found p action).WellTagged := by
  refine ⟨fun entry hin => ?_, fun entry hin => ?_, h.images⟩
  · rcases List.mem_append.mp hin with hin | hin
    · exact h.actions entry hin
    · rw [List.mem_singleton.mp hin]
      exact haction
  · rcases List.mem_append.mp hin with hin | hin
    · exact h.broadcasts entry hin
    · obtain ⟨session, _, rfl⟩ := List.mem_map.mp hin
      exact haction

theorem WellTagged.step {r : Recorder} (ht : r.server.Tallies) (h : r.WellTagged) {input : Input}
    (hguard : r.ExportGuard input) : (r.step input).WellTagged := by
  cases input with
  | act a timestampMsec =>
    refine ⟨h.actions, h.broadcasts, fun entry hin => ?_⟩
    rcases List.mem_append.mp hin with hin | hin
    · exact h.images entry hin
    · obtain ⟨⟨session, p⟩, hexports, rfl⟩ := Option.map_eq_some_iff.mp (Option.mem_toList.mp hin)
      refine (exportStatusImage_wellTagged_iff (r.server.step a) p timestampMsec).mpr ?_
      rw [fighting_exported ht hexports]
      exact hguard a timestampMsec session p rfl hexports
  | event found timestampMsec cause =>
    rw [Recorder.step]
    split
    · exact h
    · rename_i p action hrecorded
      obtain ⟨event, hevent, haction⟩ := Option.bind_eq_some_iff.mp hrecorded
      exact h.record found p (recorded_wellTagged hevent haction)

/-- Whatever events come in whatever order, what the server records and broadcasts has the part of
its type and no other; so have the images, as long as none is exported of a combat in which a
warrior attacks. An image of a combat has a wrong type exactly if one does. -/
theorem actions_wellTagged (configs : Configs) (memory : Memory) (r : Recorder)
    (hr : Reaches (fun r input => some (step r input)) ExportGuard (started configs memory) r) :
    ((∀ entry ∈ r.actions, entry.2.WellTagged) ∧ (∀ entry ∈ r.broadcasts, entry.2.WellTagged) ∧
      ∀ entry ∈ r.images, ∀ action ∈ entry.2.actions, action.WellTagged) ∧
    ∀ p timestampMsec,
      (∀ action ∈ (r.server.exportStatusImage p timestampMsec).actions, action.WellTagged) ↔
        ¬ r.server.Fighting p := by
  have h : r.server.Tallies ∧ r.WellTagged := by
    refine hr.invariant (I := fun r => r.server.Tallies ∧ r.WellTagged)
      ⟨started_tallies configs memory, started_wellTagged configs memory⟩ ?_
    rintro r input r' ⟨ht, hw⟩ hguard hstep
    obtain rfl := Option.some.inj hstep
    refine ⟨?_, hw.step ht hguard⟩
    cases input with
    | act a timestampMsec => exact ht.step a
    | event found timestampMsec cause =>
      rw [Recorder.step]
      split
      · exact ht
      · exact ht
  exact ⟨⟨h.2.actions, h.2.broadcasts, h.2.images⟩,
    fun p timestampMsec => exportStatusImage_wellTagged_iff r.server p timestampMsec⟩

/-- A combat that a role has, before it begins. -/
def assembled : Recorder :=
  ((⟨battlefield, [], [], []⟩ : Recorder).step (.act (.accept 0) 0)).step
    (.act (.deploy 0 5 siege) 0)

/-- The role has built a warrior and sent it to another grid. -/
def departed : Recorder :=
  ((assembled.step (.act (.begin 0 0) 0)).step (.act (.build 7 1 1) 10)).step
    (.act (.move 7 [3] ⟨3, 0⟩) 20)

/-- The role has come back, and then the warrior dies. -/
def bereft : Recorder :=
  (departed.step (.act (.reconnect 0 7 0) 30)).step
    (.event departed.server 40 (.death 0 ⟨.warrior, 3⟩ 4))

theorem actions_wellTagged_bereft :
    bereft.actions.map (fun entry => entry.2.type) = [.death] ∧
      bereft.images.map (fun entry => entry.2.actions.map CombatAction.type) = [[], [.move]] ∧
      (∀ entry ∈ bereft.actions, entry.2.WellTagged) ∧
      ∀ entry ∈ bereft.images, ∀ action ∈ entry.2.actions, action.WellTagged := by
  have hquiet : ∀ {r : Recorder} {a : Action} (timestampMsec : Int), r.server.exports a = none →
      r.ExportGuard (.act a timestampMsec) := by
    rintro r a timestampMsec hnone a' timestampMsec' session p heq hexports
    cases heq
    rw [hnone] at hexports
    cases hexports
  have hcalm : ∀ {r : Recorder} {a : Action} (timestampMsec : Int),
      r.server.exports a = some (0, 0) →
      (∀ action ∈ (r.server.exportStatusImage 0 0).actions, action.WellTagged) →
      r.ExportGuard (.act a timestampMsec) := by
    rintro r a timestampMsec hsome htagged a' timestampMsec' session p heq hexports
    cases heq
    rw [hsome] at hexports
    cases hexports
    exact (exportStatusImage_wellTagged_iff r.server 0 0).mp htagged
  have hstep : ∀ {r : Recorder} (input : Input),
      Reaches (fun r input => some (step r input)) ExportGuard ⟨battlefield, [], [], []⟩ r →
      r.ExportGuard input →
      Reaches (fun r input => some (step r input)) ExportGuard ⟨battlefield, [], [], []⟩
        (r.step input) :=
    fun input hreaches hguard => hreaches.snoc input hguard rfl
  have hbegun : assembled.ExportGuard (.act (.begin 0 0) 0) :=
    hcalm 0 (by decide +kernel) (by decide +kernel)
  have hrejoined : departed.ExportGuard (.act (.reconnect 0 7 0) 30) :=
    hcalm 30 (by decide +kernel) (by decide +kernel)
  have haccepted := hstep (.act (.accept 0) 0) .refl (hquiet 0 rfl)
  have hassembled := hstep (.act (.deploy 0 5 siege) 0) haccepted (hquiet 0 rfl)
  have hbuilt := hstep (.act (.build 7 1 1) 10) (hstep _ hassembled hbegun) (hquiet 10 rfl)
  have hdeparted := hstep (.act (.move 7 [3] ⟨3, 0⟩) 20) hbuilt (hquiet 20 rfl)
  have hreaches := hstep (.event departed.server 40 (.death 0 ⟨.warrior, 3⟩ 4))
    (hstep _ hdeparted hrejoined) nofun
  obtain ⟨⟨hactions, _, himages⟩, _⟩ := actions_wellTagged _ _ bereft hreaches
  exact ⟨by decide +kernel, by decide +kernel, hactions, himages⟩

/-- An auto that attacks is exported with the part of a locked target and the type of a move. -/
theorem lock_exported_as_move :
    Reaches (fun s a => some (Server.step s a)) (fun _ _ => True) battlefield besieged ∧
      besieged.exports (.reconnect 0 7 0) = some (0, 0) ∧
      ((besieged.step (.reconnect 0 7 0)).exportStatusImage 0 0).actions.map
        (fun action => (action.type, action.populated)) = [(.move, [.lockTarget])] := by
  refine ⟨?_, by decide +kernel, by decide +kernel⟩
  exact ((((Reaches.refl.snoc (.accept 0) trivial rfl).snoc (.deploy 0 5 siege) trivial rfl).snoc
    (.begin 0 0) trivial rfl).snoc (.build 7 1 1) trivial rfl).snoc (.expire 4) trivial rfl

end Recorder

end Mysya
