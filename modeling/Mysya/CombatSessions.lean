import Mysya.CallbackOrder
import Mysya.TcpSocketAppCalls
import Std.Data.ExtTreeMap.Lemmas

/-!
# The connections of the combat client

`CombatSessions` keeps two tables beside its `TcpSocketApp`: `connections_` from a server id to
the descriptor a connect was started on, and `sessions_` of the connections that came up. Both
are changed in the callbacks, which know the descriptor only. `OnConnectError`, which looks an
entry up by its descriptor, is not set as a callback anywhere and is left out.
-/

namespace Mysya

open GuardedRuns Std

/-- `sessions` has the server id of the `CombatSession` of a descriptor. -/
structure CombatSessions where
  connections : ExtTreeMap Int Int
  sessions : Int → Option Int

namespace CombatSessions

def start : CombatSessions := ⟨∅, fun _ => none⟩

def getConnection (s : CombatSessions) (serverId : Int) : Int := s.connections.getD serverId (-1)

def addConnection (s : CombatSessions) (serverId sockfd : Int) : CombatSessions :=
  { s with connections := s.connections.insertIfNew serverId sockfd }

def removeConnection (s : CombatSessions) (serverId : Int) : CombatSessions :=
  { s with connections := s.connections.erase serverId }

def addSession (s : CombatSessions) (sockfd serverId : Int) : CombatSessions :=
  if (s.sessions sockfd).isSome then s
  else { s with sessions := Function.update s.sessions sockfd (some serverId) }

def removeSession (s : CombatSessions) (sockfd : Int) : CombatSessions :=
  { s with sessions := Function.update s.sessions sockfd none }

/-- The id of the first entry with the descriptor, in the order of the map. -/
def serverIdOf (s : CombatSessions) (sockfd : Int) : Int :=
  match s.connections.toList.find? (fun entry => entry.2 == sockfd) with
  | some entry => entry.1
  | none => -1

/-- `OnConnected`, with the memory for a session; the second part says that it calls `Close`. -/
def onConnected (s : CombatSessions) (sockfd : Int) (allocated : Bool) : CombatSessions × Bool :=
  let serverId := s.serverIdOf sockfd
  if serverId = -1 then (s, true)
  else if allocated = false then (s.removeConnection serverId, true)
  else (s.addSession sockfd serverId, false)

/-- What `OnClose` and `OnError` do. -/
def dropSession (s : CombatSessions) (sockfd : Int) : CombatSessions :=
  match s.sessions sockfd with
  | none => s
  | some serverId => (s.removeConnection serverId).removeSession sockfd

def onClose (s : CombatSessions) (sockfd : Int) : CombatSessions := s.dropSession sockfd

def onError (s : CombatSessions) (sockfd : Int) : CombatSessions := s.dropSession sockfd

theorem serverIdOf_cases (s : CombatSessions) (sockfd : Int) :
    (s.serverIdOf sockfd = -1 ∧ ∀ serverId : Int, s.connections[serverId]? ≠ some sockfd) ∨
      s.connections[s.serverIdOf sockfd]? = some sockfd := by
  unfold serverIdOf
  split
  · rename_i entry hfind
    have hmem := List.mem_of_find?_eq_some hfind
    have hfd : entry.2 = sockfd := by simpa using List.find?_some hfind
    refine Or.inr ?_
    rw [← hfd]
    exact ExtTreeMap.mem_toList_iff_getElem?_eq_some.mp hmem
  · rename_i hfind
    refine Or.inl ⟨rfl, fun serverId hin => ?_⟩
    have hmem : (serverId, sockfd) ∈ s.connections.toList :=
      ExtTreeMap.mem_toList_iff_getElem?_eq_some.mpr hin
    simpa using List.find?_eq_none.mp hfind _ hmem

end CombatSessions

/-- The client with its transport; `opened` has the server each socket was connected for. -/
structure CombatClient where
  app : TcpSocketApp
  table : CombatSessions
  opened : Nat → Option Int

namespace CombatClient

/-- All the callbacks are set, and nothing is connected. -/
def start (initSize extendSize : Nat) (h : 0 < extendSize) : CombatClient where
  app := { TcpSocketApp.init initSize extendSize h with installed := fun _ => true }
  table := .start
  opened := fun _ => none

inductive Action
  | asyncConnect (serverId sockfd : Int) (started : Bool) (build : BuildCalls) (timeoutMs : Int)
      (startTimer : Bool)
  | transport (a : TcpSocketApp.Action) (allocated : Bool)

/-- `AsyncConnect`, with the descriptor that the kernel gives. -/
def asyncConnect (s : CombatClient) (serverId sockfd : Int) (started : Bool) (build : BuildCalls)
    (timeoutMs : Int) (startTimer : Bool) : Option CombatClient :=
  if s.table.getConnection serverId ≠ -1 then some s
  else if sockfd < 0 then none
  else
    match s.app.step (.asyncConnect sockfd started build timeoutMs startTimer) with
    | none => none
    | some app =>
      if started && (s.app.buildAsyncConnectSocket sockfd build timeoutMs startTimer).2 then
        some ⟨app, s.table.addConnection serverId sockfd,
          Function.update s.opened s.app.objects (some serverId)⟩
      else some { s with app := app }

/-- What the client leaves to its transport: it does not listen, and sends to its sessions. -/
def Left (s : CombatClient) : TcpSocketApp.Action → Bool
  | .setCallback _ _ => false
  | .listen _ _ _ => false
  | .connect _ _ _ => false
  | .asyncConnect _ _ _ _ _ => false
  | .close _ => false
  | .sendMessage sockfd _ _ => (s.table.sessions sockfd).isSome
  | _ => true

def callback (s : CombatClient) (allocated : Bool) : Option (AppCallback × Int) → CombatClient
  | some (.connection, sockfd) =>
    let connected := s.table.onConnected sockfd allocated
    { s with app := if connected.2 then s.app.closeSocket sockfd else s.app
             table := connected.1 }
  | some (.close, sockfd) => { s with table := s.table.onClose sockfd }
  | some (.error, sockfd) => { s with table := s.table.onError sockfd }
  | _ => s

def step (s : CombatClient) : Action → Option CombatClient
  | .asyncConnect serverId sockfd started build timeoutMs startTimer =>
    s.asyncConnect serverId sockfd started build timeoutMs startTimer
  | .transport a allocated =>
    if s.Left a then
      match s.app.step a with
      | none => none
      | some app => some ({ s with app := app }.callback allocated (s.app.told a app))
    else none

/-- The descriptor is in `connections_`, and has no session yet. -/
def Waiting (s : CombatClient) (sockfd : Int) : Prop :=
  s.table.sessions sockfd = none ∧ ∃ serverId : Int, s.table.connections[serverId]? = some sockfd

/-- No server has the id -1, and no connect ends in an error or a timeout. -/
def Kept (s : CombatClient) : Action → Prop
  | .asyncConnect serverId _ _ _ _ _ => serverId ≠ -1
  | .transport (.error sockfd _ _) _ => ¬ s.Waiting sockfd
  | .transport (.timeout timerId) _ =>
    ∀ sockfd, s.app.timerSocketIds timerId = some sockfd → ¬ s.Waiting sockfd
  | _ => True

/-- The descriptors that running handlers will close. -/
def closers (stack : List Frame) : List Int :=
  stack.filterMap fun
    | .close sockfd _ => some sockfd
    | _ => none

structure Sound (s : CombatClient) : Prop where
  installed : ∀ c, s.app.installed c = true
  objects : ∀ sockfd object, s.app.conn sockfd = some object → object < s.app.objects
  attached : ∀ sockfd callbacks, s.app.attached sockfd = some callbacks →
    callbacks = .connecting ∨ callbacks = .established
  tracked : ∀ serverId sockfd, s.table.connections[serverId]? = some sockfd →
    serverId ≠ -1 ∧ 0 ≤ sockfd ∧
      ∃ object, s.app.conn sockfd = some object ∧ s.opened object = some serverId
  sessions : ∀ serverId sockfd, s.table.sessions sockfd = some serverId ↔
    s.table.connections[serverId]? = some sockfd ∧ s.app.attached sockfd = some .established
  closing : ∀ sockfd ∈ closers s.app.stack, (s.app.conn sockfd).isSome ∧
    ∀ serverId : Int, s.table.connections[serverId]? ≠ some sockfd
  distinct : (closers s.app.stack).Nodup
  reading : ∀ sockfd object, .received sockfd object true ∈ s.app.stack →
    s.app.stack = [.received sockfd object true] ∧ ¬ s.Waiting sockfd

variable {s : CombatClient} {app : TcpSocketApp} {table : CombatSessions} {sockfd : Int}

theorem Sound.one_server (h : s.Sound) {serverId serverId' : Int}
    (hin : s.table.connections[serverId]? = some sockfd)
    (hin' : s.table.connections[serverId']? = some sockfd) : serverId = serverId' := by
  obtain ⟨_, _, object, hconn, hopened⟩ := h.tracked serverId sockfd hin
  obtain ⟨_, _, object', hconn', hopened'⟩ := h.tracked serverId' sockfd hin'
  rw [hconn] at hconn'
  obtain rfl := Option.some.inj hconn'
  rw [hopened] at hopened'
  exact Option.some.inj hopened'

theorem Sound.of_erase (h : s.Sound) {serverId : Int}
    (hin : s.table.connections[serverId]? = some sockfd) (serverId' fd : Int) :
    (s.table.connections.erase serverId)[serverId']? = some fd ↔
      s.table.connections[serverId']? = some fd ∧ fd ≠ sockfd := by
  rw [ExtTreeMap.getElem?_erase]
  split
  · rename_i heq
    obtain rfl := Std.compare_eq_iff_eq.mp heq
    rw [hin]
    constructor
    · intro hnone
      cases hnone
    · rintro ⟨hsome, hne⟩
      exact absurd (Option.some.inj hsome).symm hne
  · rename_i hne
    refine ⟨fun hin' => ⟨hin', ?_⟩, And.left⟩
    rintro rfl
    exact hne (Std.compare_eq_iff_eq.mpr (h.one_server hin hin'))

/-- `OnClose` and `OnError` take out the entries of a descriptor that is not waiting. -/
theorem Sound.dropSession (h : s.Sound) (hwaiting : ¬ s.Waiting sockfd) (serverId fd : Int) :
    ((s.table.dropSession sockfd).connections[serverId]? = some fd ↔
      s.table.connections[serverId]? = some fd ∧ fd ≠ sockfd) ∧
    (s.table.dropSession sockfd).sessions = Function.update s.table.sessions sockfd none := by
  unfold CombatSessions.dropSession
  split
  · rename_i hnone
    constructor
    · refine ⟨fun hin => ⟨hin, ?_⟩, And.left⟩
      rintro rfl
      exact hwaiting ⟨hnone, serverId, hin⟩
    · rw [← hnone, Function.update_eq_self]
  · rename_i owner hsome
    exact ⟨h.of_erase ((h.sessions owner sockfd).mp hsome).1 serverId fd, rfl⟩

theorem Sound.frames (h : s.Sound) (hinstalled : ∀ c, app.installed c = true)
    (hobjects : s.app.objects ≤ app.objects) (hconn : app.conn = s.app.conn)
    (hattached : app.attached = s.app.attached)
    (hclosers : closers app.stack = closers s.app.stack)
    (hreading : ∀ fd object, .received fd object true ∈ app.stack →
      app.stack = [.received fd object true] ∧ ¬ s.Waiting fd) : Sound { s with app := app } where
  installed := hinstalled
  objects := fun fd object hin =>
    Nat.lt_of_lt_of_le (h.objects fd object (congrFun hconn fd ▸ hin)) hobjects
  attached := fun fd callbacks hin => h.attached fd callbacks (congrFun hattached fd ▸ hin)
  tracked := fun serverId fd hin => by
    rw [hconn]
    exact h.tracked serverId fd hin
  sessions := fun serverId fd => by
    rw [hattached]
    exact h.sessions serverId fd
  closing := fun fd hin => by
    rw [hconn]
    exact h.closing fd (hclosers ▸ hin)
  distinct := by
    show (closers app.stack).Nodup
    rw [hclosers]
    exact h.distinct
  reading := hreading

/-- The entries of a descriptor are taken out, and its connection may be closed later. -/
theorem Sound.dropped (h : s.Sound) (hinstalled : ∀ c, app.installed c = true)
    (hobjects : s.app.objects ≤ app.objects) (hconn : app.conn = s.app.conn)
    (hattached : app.attached = s.app.attached) (hwaiting : ¬ s.Waiting sockfd)
    (hclosers : closers app.stack = closers s.app.stack ∨
      closers app.stack = sockfd :: closers s.app.stack ∧ (s.app.conn sockfd).isSome ∧
        sockfd ∉ closers s.app.stack)
    (hreading : ∀ fd object, .received fd object true ∉ app.stack) :
    Sound ⟨app, s.table.dropSession sockfd, s.opened⟩ := by
  have hdrop := h.dropSession hwaiting
  have hclosing : ∀ fd ∈ closers s.app.stack, (s.app.conn fd).isSome ∧
      ∀ serverId : Int, (s.table.dropSession sockfd).connections[serverId]? ≠ some fd := by
    intro fd hin
    refine ⟨(h.closing fd hin).1, fun serverId hentry => ?_⟩
    exact (h.closing fd hin).2 serverId ((hdrop serverId fd).1.mp hentry).1
  constructor
  · exact hinstalled
  · intro fd object hin
    exact Nat.lt_of_lt_of_le (h.objects fd object (congrFun hconn fd ▸ hin)) hobjects
  · exact fun fd callbacks hin => h.attached fd callbacks (congrFun hattached fd ▸ hin)
  · intro serverId fd hin
    rw [hconn]
    exact h.tracked serverId fd ((hdrop serverId fd).1.mp hin).1
  · intro serverId fd
    rw [hattached, (hdrop serverId fd).1, (hdrop serverId fd).2]
    by_cases heq : fd = sockfd
    · subst heq
      simp
    · rw [Function.update_of_ne heq, h.sessions]
      simp [heq]
  · intro fd hin
    rw [hconn]
    have hin : fd ∈ closers app.stack := hin
    rcases hclosers with hsame | ⟨hmore, hsome, _⟩
    · exact hclosing fd (hsame ▸ hin)
    · rw [hmore] at hin
      rcases List.mem_cons.mp hin with rfl | hold
      · exact ⟨hsome, fun serverId hentry => ((hdrop serverId fd).1.mp hentry).2 rfl⟩
      · exact hclosing fd hold
  · show (closers app.stack).Nodup
    rcases hclosers with hsame | ⟨hmore, _, hnew⟩
    · rw [hsame]
      exact h.distinct
    · rw [hmore]
      exact List.nodup_cons.mpr ⟨hnew, h.distinct⟩
  · exact fun fd object hin => absurd hin (hreading fd object)

/-- A descriptor without an entry is closed. -/
theorem Sound.shut (h : s.Sound) (hinstalled : ∀ c, app.installed c = true)
    (hobjects : s.app.objects ≤ app.objects)
    (hfree : ∀ serverId : Int, s.table.connections[serverId]? ≠ some sockfd)
    (hconn : app.conn = Function.update s.app.conn sockfd none)
    (hattached : app.attached = Function.update s.app.attached sockfd none)
    (hclosers : ∀ fd ∈ closers app.stack, fd ∈ closers s.app.stack ∧ fd ≠ sockfd)
    (hdistinct : (closers app.stack).Nodup)
    (hreading : ∀ fd object, .received fd object true ∉ app.stack) :
    Sound { s with app := app } := by
  have hne : ∀ {serverId fd : Int}, s.table.connections[serverId]? = some fd → fd ≠ sockfd := by
    rintro serverId fd hin rfl
    exact hfree serverId hin
  constructor
  · exact hinstalled
  · intro fd object hin
    have hin : app.conn fd = some object := hin
    rw [hconn] at hin
    by_cases heq : fd = sockfd
    · rw [heq, Function.update_self] at hin
      cases hin
    · rw [Function.update_of_ne heq] at hin
      exact Nat.lt_of_lt_of_le (h.objects fd object hin) hobjects
  · intro fd callbacks hin
    have hin : app.attached fd = some callbacks := hin
    rw [hattached] at hin
    by_cases heq : fd = sockfd
    · rw [heq, Function.update_self] at hin
      cases hin
    · rw [Function.update_of_ne heq] at hin
      exact h.attached fd callbacks hin
  · intro serverId fd hin
    rw [hconn, Function.update_of_ne (hne hin)]
    exact h.tracked serverId fd hin
  · intro serverId fd
    rw [hattached, h.sessions]
    constructor
    · rintro ⟨hin, hestablished⟩
      exact ⟨hin, by rw [Function.update_of_ne (hne hin), hestablished]⟩
    · rintro ⟨hin, hestablished⟩
      rw [Function.update_of_ne (hne hin)] at hestablished
      exact ⟨hin, hestablished⟩
  · intro fd hin
    obtain ⟨hold, hother⟩ := hclosers fd hin
    rw [hconn, Function.update_of_ne hother]
    exact h.closing fd hold
  · exact hdistinct
  · exact fun fd object hin => absurd hin (hreading fd object)

/-- A session that could not be allocated: its entry goes. -/
theorem Sound.removed (h : s.Sound) {serverId : Int}
    (hin : s.table.connections[serverId]? = some sockfd) (hnone : s.table.sessions sockfd = none) :
    Sound { s with table := s.table.removeConnection serverId } := by
  have herase := h.of_erase hin
  constructor
  · exact h.installed
  · exact h.objects
  · exact h.attached
  · exact fun id fd hin => h.tracked id fd ((herase id fd).mp hin).1
  · intro id fd
    show s.table.sessions fd = some id ↔ (s.table.connections.erase serverId)[id]? = some fd ∧ _
    rw [herase]
    by_cases heq : fd = sockfd
    · subst heq
      simp [hnone]
    · rw [h.sessions]
      simp [heq]
  · intro fd hin
    exact ⟨(h.closing fd hin).1, fun id hentry => (h.closing fd hin).2 id ((herase id fd).mp hentry).1⟩
  · exact h.distinct
  · intro fd object hin
    refine ⟨(h.reading fd object hin).1, fun hwaiting => (h.reading fd object hin).2 ?_⟩
    obtain ⟨hnone, id, hentry⟩ := hwaiting
    exact ⟨hnone, id, ((herase id fd).mp hentry).1⟩

/-- A connection that comes up gets its session. -/
theorem Sound.served (h : s.Sound) {serverId : Int} (hinstalled : ∀ c, app.installed c = true)
    (hobjects : s.app.objects ≤ app.objects) (hconn : app.conn = s.app.conn)
    (hattached : app.attached = Function.update s.app.attached sockfd (some .established))
    (hclosers : closers app.stack = [])
    (hreading : ∀ fd object, .received fd object true ∉ app.stack)
    (hin : s.table.connections[serverId]? = some sockfd) (hnone : s.table.sessions sockfd = none) :
    Sound ⟨app, s.table.addSession sockfd serverId, s.opened⟩ := by
  have hsessions : (s.table.addSession sockfd serverId).sessions =
      Function.update s.table.sessions sockfd (some serverId) := by
    unfold CombatSessions.addSession
    rw [hnone]
    rfl
  have hconnections : (s.table.addSession sockfd serverId).connections = s.table.connections := by
    unfold CombatSessions.addSession
    rw [hnone]
    rfl
  constructor
  · exact hinstalled
  · intro fd object hin
    exact Nat.lt_of_lt_of_le (h.objects fd object (congrFun hconn fd ▸ hin)) hobjects
  · intro fd callbacks hin
    have hin : app.attached fd = some callbacks := hin
    rw [hattached] at hin
    by_cases heq : fd = sockfd
    · rw [heq, Function.update_self] at hin
      exact Or.inr (Option.some.inj hin).symm
    · rw [Function.update_of_ne heq] at hin
      exact h.attached fd callbacks hin
  · intro id fd hin
    rw [hconnections] at hin
    rw [hconn]
    exact h.tracked id fd hin
  · intro id fd
    rw [hsessions, hconnections, hattached]
    by_cases heq : fd = sockfd
    · subst heq
      rw [Function.update_self, Function.update_self]
      constructor
      · intro hsome
        rw [← Option.some.inj hsome]
        exact ⟨hin, rfl⟩
      · rintro ⟨hin', _⟩
        rw [h.one_server hin hin']
    · rw [Function.update_of_ne heq, Function.update_of_ne heq]
      exact h.sessions id fd
  · intro fd hin
    have hin : fd ∈ closers app.stack := hin
    rw [hclosers] at hin
    cases hin
  · show (closers app.stack).Nodup
    rw [hclosers]
    exact List.nodup_nil
  · exact fun fd object hin => absurd hin (hreading fd object)

/-- A connect is started for a server without an entry. -/
theorem Sound.entered (h : s.Sound) {serverId : Int} (hserver : serverId ≠ -1)
    (hinstalled : ∀ c, app.installed c = true) (hobjects : s.app.objects < app.objects)
    (hfd : 0 ≤ sockfd) (hfree : s.app.conn sockfd = none)
    (hconn : app.conn = Function.update s.app.conn sockfd (some s.app.objects))
    (hattached : app.attached = Function.update s.app.attached sockfd (some .connecting))
    (hstack : app.stack = s.app.stack)
    (hreading : ∀ fd object, .received fd object true ∉ s.app.stack)
    (hnew : s.table.getConnection serverId = -1) :
    Sound ⟨app, s.table.addConnection serverId sockfd,
      Function.update s.opened s.app.objects (some serverId)⟩ := by
  have hunused : ∀ id : Int, s.table.connections[id]? ≠ some sockfd := by
    intro id hin
    obtain ⟨_, _, object, hsome, _⟩ := h.tracked id sockfd hin
    rw [hfree] at hsome
    cases hsome
  have habsent : s.table.connections[serverId]? = none := by
    cases hentry : s.table.connections[serverId]? with
    | none => rfl
    | some fd =>
      have hfd := (h.tracked serverId fd hentry).2.1
      rw [CombatSessions.getConnection, ExtTreeMap.getD_eq_getD_getElem?, hentry] at hnew
      rw [show fd = -1 from hnew] at hfd
      exact absurd hfd (by decide)
  have hentries : ∀ id fd : Int, (s.table.addConnection serverId sockfd).connections[id]? = some fd ↔
      (id = serverId ∧ fd = sockfd) ∨ s.table.connections[id]? = some fd := by
    intro id fd
    have hout : serverId ∉ s.table.connections := by
      rw [ExtTreeMap.mem_iff_isSome_getElem?, habsent]
      simp
    show (s.table.connections.insertIfNew serverId sockfd)[id]? = some fd ↔ _
    rw [ExtTreeMap.getElem?_insertIfNew]
    by_cases heq : id = serverId
    · subst heq
      rw [if_pos ⟨Std.compare_eq_iff_eq.mpr rfl, hout⟩, habsent]
      simp [eq_comm]
    · rw [if_neg fun hsame => heq (Std.compare_eq_iff_eq.mp hsame.1).symm]
      simp [heq]
  have hne : ∀ {id fd : Int}, s.table.connections[id]? = some fd → fd ≠ sockfd := by
    rintro id fd hin rfl
    exact hunused id hin
  constructor
  · exact hinstalled
  · intro fd object hin
    have hin : app.conn fd = some object := hin
    rw [hconn] at hin
    by_cases heq : fd = sockfd
    · rw [heq, Function.update_self] at hin
      exact Option.some.inj hin ▸ hobjects
    · rw [Function.update_of_ne heq] at hin
      exact Nat.lt_trans (h.objects fd object hin) hobjects
  · intro fd callbacks hin
    have hin : app.attached fd = some callbacks := hin
    rw [hattached] at hin
    by_cases heq : fd = sockfd
    · rw [heq, Function.update_self] at hin
      exact Or.inl (Option.some.inj hin).symm
    · rw [Function.update_of_ne heq] at hin
      exact h.attached fd callbacks hin
  · intro id fd hin
    rw [hconn]
    rcases (hentries id fd).mp hin with ⟨rfl, rfl⟩ | hold
    · exact ⟨hserver, hfd, s.app.objects, by rw [Function.update_self],
        Function.update_self ..⟩
    · obtain ⟨hid, hpos, object, hsome, hopened⟩ := h.tracked id fd hold
      refine ⟨hid, hpos, object, by rw [Function.update_of_ne (hne hold), hsome], ?_⟩
      exact (Function.update_of_ne (Nat.ne_of_lt (h.objects fd object hsome)) _ _).trans hopened
  · intro id fd
    rw [hattached, hentries]
    show s.table.sessions fd = some id ↔ _
    rw [h.sessions]
    by_cases heq : fd = sockfd
    · subst heq
      rw [Function.update_self]
      constructor
      · rintro ⟨hin, _⟩
        exact absurd hin (hunused id)
      · rintro ⟨_, hconnecting⟩
        cases hconnecting
    · rw [Function.update_of_ne heq]
      simp [heq]
  · intro fd hin
    have hin : fd ∈ closers app.stack := hin
    rw [hstack] at hin
    obtain ⟨hsome, hout⟩ := h.closing fd hin
    have hother : fd ≠ sockfd := by
      rintro rfl
      rw [hfree] at hsome
      cases hsome
    rw [hconn, Function.update_of_ne hother]
    refine ⟨hsome, fun id hentry => ?_⟩
    rcases (hentries id fd).mp hentry with ⟨_, rfl⟩ | hold
    · exact hother rfl
    · exact hout id hold
  · show (closers app.stack).Nodup
    rw [hstack]
    exact h.distinct
  · intro fd object hin
    have hin : .received fd object true ∈ app.stack := hin
    rw [hstack] at hin
    exact absurd hin (hreading fd object)

theorem Sound.not_reading (h : s.Sound) (runs : s.app.AppRuns) (fd : Int) (object : Nat) :
    .received fd object true ∉ s.app.stack := by
  intro hin
  have hsingle := (h.reading fd object hin).1
  rcases runs with hidle | hhead
  · rw [hidle] at hsingle
    cases hsingle
  · rw [hsingle] at hhead
    cases hhead

theorem build_refused {s : TcpSocketApp} {sockfd : Int} {build : BuildCalls} {timeoutMs : Int}
    {startTimer : Bool}
    (h : (s.buildAsyncConnectSocket sockfd build timeoutMs startTimer).2 = false) :
    (s.buildAsyncConnectSocket sockfd build timeoutMs startTimer).1 = s := by
  unfold TcpSocketApp.buildAsyncConnectSocket at h ⊢
  split
  · rfl
  · split
    · rfl
    · split
      · rfl
      · split
        · rfl
        · simp_all

theorem Sound.asyncConnect (h : s.Sound) {s' : CombatClient} {serverId : Int} {started : Bool}
    {build : BuildCalls} {timeoutMs : Int} {startTimer : Bool} (hserver : serverId ≠ -1)
    (hstep : s.asyncConnect serverId sockfd started build timeoutMs startTimer = some s') :
    s'.Sound := by
  unfold CombatClient.asyncConnect at hstep
  split at hstep
  · cases hstep
    exact h
  · rename_i hnew
    split at hstep
    · cases hstep
    · rename_i hfd
      split at hstep
      · cases hstep
      · rename_i app happ
        obtain ⟨runs, happ⟩ : s.app.AppRuns ∧
            s.app.call (.asyncConnect sockfd started build timeoutMs startTimer) = some app := by
          rw [TcpSocketApp.step] at happ
          · split at happ
            · rename_i runs
              exact ⟨runs, happ⟩
            · cases happ
          all_goals simp
        have happ := Option.some.inj happ
        split at hstep
        · rename_i hbuilt
          obtain ⟨rfl, hbuilt⟩ := Bool.and_eq_true_iff.mp hbuilt
          rw [if_pos rfl] at happ
          rcases TcpSocketApp.buildAsyncConnectSocket_cases s.app sockfd build timeoutMs startTimer with
            hrefused | ⟨_, hfree, huntimed⟩
          · rw [hrefused] at hbuilt
            cases hbuilt
          · rw [happ] at huntimed
            have hview := (TcpSocketApp.view_of_untimed huntimed).trans
              (TcpSocketApp.view_insert s.app.untimed sockfd _ rfl)
            cases hstep
            refine h.entered hserver ?_ ?_ (by omega) (congrArg (Option.map _) hfree)
              (congrArg TcpSocketApp.View.conn hview) (congrArg TcpSocketApp.View.attached hview)
              (congrArg TcpSocketApp.View.stack hview) (h.not_reading runs) (by simpa using hnew)
            · intro c
              have hinstalled := congrFun (congrArg TcpSocketApp.installed huntimed) c
              exact hinstalled.trans (h.installed c)
            · exact Nat.lt_of_lt_of_eq (Nat.lt_succ_self _)
                (congrArg TcpSocketApp.objects huntimed).symm
        · rename_i hrefused
          have hsame : app = s.app := by
            rw [← happ]
            split
            · rename_i hstarted
              refine build_refused ?_
              simpa [hstarted] using hrefused
            · rfl
          cases hstep
          rw [hsame]
          exact h

theorem conn_closeSocket (s : TcpSocketApp) (sockfd : Int) :
    (s.closeSocket sockfd).conn = Function.update s.conn sockfd none :=
  congrArg TcpSocketApp.View.conn (s.view_closeSocket sockfd)

theorem attached_closeSocket (s : TcpSocketApp) (sockfd : Int) :
    (s.closeSocket sockfd).attached = Function.update s.attached sockfd none :=
  congrArg TcpSocketApp.View.attached (s.view_closeSocket sockfd)

theorem Sound.not_waiting (h : s.Sound)
    (hestablished : s.app.attached sockfd = some .established) : ¬ s.Waiting sockfd := by
  rintro ⟨hnone, serverId, hin⟩
  rw [(h.sessions serverId sockfd).mpr ⟨hin, hestablished⟩] at hnone
  cases hnone

/-- Only an established connection reads or writes. -/
theorem Sound.established_of_used (h : s.Sound) {callbacks : TcpSocketApp.Callbacks}
    (hattached : s.app.attached sockfd = some callbacks)
    (hused : callbacks.read = some .onSocketRead ∨ callbacks.write = some .onSocketWrite) :
    s.app.attached sockfd = some .established := by
  rcases h.attached sockfd callbacks hattached with rfl | rfl
  · rcases hused with hread | hwrite
    · cases hread
    · cases hwrite
  · exact hattached

/-- The one who fails has a session, unless its connect fails. -/
theorem Sound.failing (h : s.Sound) {a : TcpSocketApp.Action} {allocated : Bool}
    (hleft : s.Left a = true) (hguard : s.Kept (.transport a allocated))
    (hcause : TcpSocketApp.FailCause s.app a sockfd) :
    ¬ s.Waiting sockfd ∧ sockfd ∉ closers s.app.stack := by
  have hidle : s.app.stack = [] → sockfd ∉ closers s.app.stack := by
    intro hempty
    rw [hempty]
    exact List.not_mem_nil
  cases hcause with
  | sent m w ha =>
    subst ha
    obtain ⟨serverId, hsession⟩ := Option.isSome_iff_exists.mp hleft
    have hentry := (h.sessions serverId sockfd).mp hsession
    exact ⟨h.not_waiting hentry.2, fun hin => (h.closing sockfd hin).2 serverId hentry.1⟩
  | used callbacks hempty hattached hused =>
    exact ⟨h.not_waiting (h.established_of_used hattached hused), hidle hempty⟩
  | raised event errno hempty ha =>
    subst ha
    exact ⟨hguard, hidle hempty⟩
  | expired timerId hempty ha htimer =>
    subst ha
    exact ⟨hguard sockfd htimer, hidle hempty⟩

/-- `OnConnected` for a connect that came up. -/
theorem Sound.connected (h : s.Sound) {callbacks : TcpSocketApp.Callbacks} (allocated : Bool)
    (hinstalled : ∀ c, app.installed c = true) (hobjects : s.app.objects ≤ app.objects)
    (hcallbacks : s.app.attached sockfd = some callbacks)
    (hwrite : callbacks.write = some .onConnectWrite) (hconn : app.conn = s.app.conn)
    (hattached : app.attached = Function.update s.app.attached sockfd (some .established))
    (hstack : app.stack = [.callback]) :
    ({ s with app := app }.callback allocated (some (.connection, sockfd))).Sound := by
  have hconn' : (app.closeSocket sockfd).conn = Function.update s.app.conn sockfd none := by
    rw [conn_closeSocket, hconn]
  have hattached' : (app.closeSocket sockfd).attached =
      Function.update s.app.attached sockfd none := by
    rw [attached_closeSocket, hattached, Function.update_idem]
  have hquiet : ∀ fd object, Frame.received fd object true ∉ app.stack := by
    simp [hstack]
  have hclosers : closers app.stack = [] := by
    rw [hstack]
    rfl
  have hnone : s.table.sessions sockfd = none := by
    cases hsession : s.table.sessions sockfd with
    | none => rfl
    | some serverId =>
      have hestablished := ((h.sessions serverId sockfd).mp hsession).2
      rw [hcallbacks] at hestablished
      rw [Option.some.inj hestablished] at hwrite
      cases hwrite
  have hshut : ∀ table : CombatSessions, Sound { s with table := table } →
      (∀ serverId : Int, table.connections[serverId]? ≠ some sockfd) →
      Sound ⟨app.closeSocket sockfd, table, s.opened⟩ := by
    intro table htable hfree
    refine htable.shut hinstalled hobjects hfree hconn' hattached' ?_ ?_ hquiet
    · intro fd hin
      have hin : fd ∈ closers app.stack := hin
      rw [hclosers] at hin
      cases hin
    · exact hclosers ▸ List.nodup_nil
  show Sound ⟨if (s.table.onConnected sockfd allocated).2 then app.closeSocket sockfd else app,
    (s.table.onConnected sockfd allocated).1, s.opened⟩
  unfold CombatSessions.onConnected
  rcases s.table.serverIdOf_cases sockfd with ⟨hmissing, hfree⟩ | hin
  · rw [if_pos hmissing]
    exact hshut s.table h hfree
  · rw [if_neg (h.tracked _ _ hin).1]
    cases allocated with
    | false =>
      refine hshut (s.table.removeConnection _) (h.removed hin hnone) fun serverId hentry => ?_
      exact ((h.of_erase hin serverId sockfd).mp hentry).2 rfl
    | true =>
      exact h.served hinstalled hobjects hconn hattached hclosers hquiet hin hnone

/-- A frame that reads to the end of its connection is alone. -/
theorem Sound.received_first (h : s.Sound) {frame : Frame} {rest : List Frame}
    (hold : s.app.stack = frame :: rest) {fd : Int} {object : Nat}
    (hin : .received fd object true ∈ s.app.stack) :
    frame = .received fd object true ∧ rest = [] := by
  have hsingle := (h.reading fd object hin).1
  rw [hold] at hsingle
  exact List.cons.inj hsingle

/-- `OnConnected` for a connection that was accepted, which is no server's and is closed. -/
theorem Sound.accepted (h : s.Sound) (allocated : Bool)
    (hinstalled : ∀ c, app.installed c = true) (hobjects : s.app.objects ≤ app.objects)
    (hfree : s.app.conn sockfd = none)
    (hconn : app.conn = Function.update s.app.conn sockfd (some s.app.objects))
    (hattached : app.attached = Function.update s.app.attached sockfd (some .connected))
    (hstack : app.stack = .callback :: s.app.stack)
    (hquiet : ∀ fd object, .received fd object true ∉ s.app.stack) :
    ({ s with app := app }.callback allocated (some (.connection, sockfd))).Sound := by
  have hunused : ∀ serverId : Int, s.table.connections[serverId]? ≠ some sockfd := by
    intro serverId hin
    obtain ⟨_, _, object, hsome, _⟩ := h.tracked serverId sockfd hin
    rw [hfree] at hsome
    cases hsome
  have hmissing : s.table.serverIdOf sockfd = -1 := by
    rcases s.table.serverIdOf_cases sockfd with ⟨hmissing, _⟩ | hin
    · exact hmissing
    · exact absurd hin (hunused _)
  have hclosers : closers app.stack = closers s.app.stack := by
    rw [hstack]
    rfl
  show Sound ⟨if (s.table.onConnected sockfd allocated).2 then app.closeSocket sockfd else app,
    (s.table.onConnected sockfd allocated).1, s.opened⟩
  unfold CombatSessions.onConnected
  rw [if_pos hmissing]
  refine h.shut hinstalled hobjects hunused ?_ ?_ ?_ ?_ ?_
  · show (app.closeSocket sockfd).conn = _
    rw [conn_closeSocket, hconn, Function.update_idem]
  · show (app.closeSocket sockfd).attached = _
    rw [attached_closeSocket, hattached, Function.update_idem]
  · intro fd hin
    have hin : fd ∈ closers app.stack := hin
    rw [hclosers] at hin
    have hsome := (h.closing fd hin).1
    refine ⟨hin, ?_⟩
    rintro rfl
    rw [hfree] at hsome
    cases hsome
  · show (closers app.stack).Nodup
    rw [hclosers]
    exact h.distinct
  · intro fd object hin
    have hin : .received fd object true ∈ app.stack := hin
    rw [hstack] at hin
    rcases List.mem_cons.mp hin with heq | hin
    · cases heq
    · exact hquiet fd object hin

/-! ## A step of the transport -/

/-- What was on top of the stack, but for a close, is gone. -/
theorem Sound.popped (h : s.Sound) {frame : Frame} {rest : List Frame}
    (hold : s.app.stack = frame :: rest) (hframe : ∀ fd timedOut, frame ≠ .close fd timedOut)
    (hinstalled : ∀ c, app.installed c = true) (hobjects : s.app.objects ≤ app.objects)
    (hconn : app.conn = s.app.conn) (hattached : app.attached = s.app.attached)
    (hstack : app.stack = rest) : Sound { s with app := app } := by
  refine h.frames hinstalled hobjects hconn hattached ?_ fun fd object hin => ?_
  · rw [hstack, hold]
    cases frame with
    | close fd timedOut => exact absurd rfl (hframe fd timedOut)
    | _ => rfl
  · rw [hstack] at hin
    obtain ⟨_, rfl⟩ := h.received_first hold (hold ▸ List.mem_cons_of_mem _ hin)
    cases hin

/-- A read begins, at a connection that is established. -/
theorem Sound.reads (h : s.Sound) {object : Nat} {peerClosed : Bool} (hidle : s.app.stack = [])
    (hestablished : s.app.attached sockfd = some .established)
    (hinstalled : ∀ c, app.installed c = true) (hobjects : s.app.objects ≤ app.objects)
    (hconn : app.conn = s.app.conn) (hattached : app.attached = s.app.attached)
    (hstack : app.stack = [.received sockfd object peerClosed]) : Sound { s with app := app } := by
  refine h.frames hinstalled hobjects hconn hattached ?_ fun fd other hin => ?_
  · rw [hstack, hidle]
    rfl
  · rw [hstack, List.mem_singleton] at hin
    cases hin
    exact ⟨hstack, h.not_waiting hestablished⟩

/-- A close that an error has left on the stack takes place. -/
theorem Sound.closes (h : s.Sound) {timedOut : Option Nat} {rest : List Frame}
    (hold : s.app.stack = .close sockfd timedOut :: rest)
    (hinstalled : ∀ c, app.installed c = true) (hobjects : s.app.objects ≤ app.objects)
    (hconn : app.conn = Function.update s.app.conn sockfd none)
    (hattached : app.attached = Function.update s.app.attached sockfd none)
    (hstack : app.stack = rest) : Sound { s with app := app } := by
  have hcons : closers s.app.stack = sockfd :: closers rest := by
    rw [hold]
    rfl
  have hdistinct := h.distinct
  rw [hcons, List.nodup_cons] at hdistinct
  refine h.shut hinstalled hobjects ?_ hconn hattached ?_ ?_ ?_
  · exact (h.closing sockfd (hcons ▸ List.mem_cons_self ..)).2
  · intro fd hin
    rw [hstack] at hin
    refine ⟨hcons ▸ List.mem_cons_of_mem _ hin, ?_⟩
    rintro rfl
    exact hdistinct.1 hin
  · rw [hstack]
    exact hdistinct.2
  · intro fd object hin
    rw [hstack] at hin
    cases (h.received_first hold (hold ▸ List.mem_cons_of_mem _ hin)).1

/-- A callback that the client does nothing in. -/
theorem Sound.active (h : s.Sound) {object : Nat} {frames : List Frame} (runs : s.app.AppRuns)
    (hframes : frames = [] ∨ frames = [.received sockfd object false])
    (hinstalled : ∀ c, app.installed c = true) (hobjects : s.app.objects ≤ app.objects)
    (hconn : app.conn = s.app.conn) (hattached : app.attached = s.app.attached)
    (hstack : app.stack = .callback :: (frames ++ s.app.stack)) :
    Sound { s with app := app } := by
  refine h.frames hinstalled hobjects hconn hattached ?_ fun fd other hin => ?_
  · rw [hstack]
    rcases hframes with rfl | rfl
    · rfl
    · rfl
  · rw [hstack] at hin
    refine absurd ?_ (h.not_reading runs fd other)
    rcases hframes with rfl | rfl
    · simpa using hin
    · simpa using hin

/-- An error, which the connection is closed after. -/
theorem Sound.fails (h : s.Sound) {timedOut : Option Nat} (runs : s.app.AppRuns)
    (hsome : (s.app.conn sockfd).isSome) (hwaiting : ¬ s.Waiting sockfd)
    (hout : sockfd ∉ closers s.app.stack) (hinstalled : ∀ c, app.installed c = true)
    (hobjects : s.app.objects ≤ app.objects) (hconn : app.conn = s.app.conn)
    (hattached : app.attached = s.app.attached)
    (hstack : app.stack = .callback :: .close sockfd timedOut :: s.app.stack) :
    Sound ⟨app, s.table.dropSession sockfd, s.opened⟩ := by
  refine h.dropped hinstalled hobjects hconn hattached hwaiting (.inr ⟨?_, hsome, hout⟩) ?_
  · rw [hstack]
    rfl
  · intro fd other hin
    rw [hstack] at hin
    exact h.not_reading runs fd other (by simpa using hin)

/-- The peer has closed, and nothing is left of the read. -/
theorem Sound.peerCloses (h : s.Sound) {object : Nat} {rest : List Frame}
    (hold : s.app.stack = .received sockfd object true :: rest)
    (hinstalled : ∀ c, app.installed c = true) (hobjects : s.app.objects ≤ app.objects)
    (hconn : app.conn = s.app.conn) (hattached : app.attached = s.app.attached)
    (hstack : app.stack = .callback :: rest) :
    Sound ⟨app, s.table.dropSession sockfd, s.opened⟩ := by
  have hin : .received sockfd object true ∈ s.app.stack := hold ▸ List.mem_cons_self ..
  have hwaiting := (h.reading sockfd object hin).2
  obtain ⟨_, rfl⟩ := h.received_first hold hin
  refine h.dropped hinstalled hobjects hconn hattached hwaiting (.inl ?_) ?_
  · rw [hstack, hold]
    rfl
  · simp [hstack]

/-- The transport takes a step, and the client is called. -/
theorem Sound.transport (h : s.Sound) {a : TcpSocketApp.Action} {allocated : Bool}
    (hleft : s.Left a = true) (hguard : s.Kept (.transport a allocated))
    (happ : s.app.step a = some app) :
    ({ s with app := app }.callback allocated (s.app.told a app)).Sound := by
  obtain ⟨hobjects, hset⟩ := (TcpSocketApp.move_of_step happ).grows
  have hinstalled : ∀ c, app.installed c = true := by
    rcases hset with heq | ⟨callback, present, ha, _⟩
    · rw [heq]
      exact h.installed
    · rw [ha] at hleft
      cases hleft
  have hviewed : ∀ {v : TcpSocketApp.View}, app.view = v →
      app.conn = v.conn ∧ app.attached = v.attached ∧ app.stack = v.stack := fun hv =>
    ⟨congrArg TcpSocketApp.View.conn hv, congrArg TcpSocketApp.View.attached hv,
      congrArg TcpSocketApp.View.stack hv⟩
  cases TcpSocketApp.told_of_step h.installed happ with
  | quiet hquiet =>
    obtain ⟨hconn, hattached, hstack⟩ := hviewed hquiet.view
    have hstack : app.stack = s.app.stack := hstack
    rw [hquiet.told]
    refine h.frames hinstalled hobjects hconn hattached (by rw [hstack]) ?_
    rw [hstack]
    exact h.reading
  | popped hold hframe hquiet =>
    obtain ⟨hconn, hattached, hstack⟩ := hviewed hquiet.view
    rw [hquiet.told]
    exact h.popped hold hframe hinstalled hobjects hconn hattached hstack
  | accepting hidle hquiet =>
    obtain ⟨hconn, hattached, hstack⟩ := hviewed hquiet.view
    have hstack : app.stack = [.accept _ _] := hstack
    rw [hquiet.told]
    refine h.frames hinstalled hobjects hconn hattached ?_ ?_
    · rw [hstack, hidle]
      rfl
    · simp [hstack]
  | reading hidle _ _ hread hquiet =>
    obtain ⟨hconn, hattached, hstack⟩ := hviewed hquiet.view
    obtain ⟨callbacks, hcallbacks, hread⟩ := hread
    rw [hquiet.told]
    exact h.reads hidle (h.established_of_used hcallbacks (.inl hread)) hinstalled hobjects hconn
      hattached hstack
  | listened _ ha _ =>
    obtain ⟨_, _, rfl⟩ := ha
    cases hleft
  | inserted _ _ _ ha _ =>
    rcases ha with ⟨_, _, rfl⟩ | ⟨_, _, _, _, _, rfl⟩
    · cases hleft
    · cases hleft
  | closed ha _ _ =>
    subst ha
    cases hleft
  | closing hold hquiet =>
    obtain ⟨hconn, hattached, hstack⟩ := hviewed hquiet.view
    rw [hquiet.told]
    exact h.closes hold hinstalled hobjects hconn hattached hstack
  | accepted hold hfree _ hcallback hcalls =>
    obtain ⟨hconn, hattached, hstack⟩ := hviewed hcalls.view
    rw [hcalls.told, hcallback]
    refine h.accepted allocated hinstalled hobjects hfree hconn hattached hstack ?_
    intro fd object hin
    cases (h.received_first hold hin).1
  | established hidle _ hcallbacks hwrite hcallback hcalls =>
    obtain ⟨hconn, hattached, hstack⟩ := hviewed hcalls.view
    rw [hcalls.told, hcallback]
    refine h.connected allocated hinstalled hobjects hcallbacks hwrite hconn hattached ?_
    rw [hstack]
    exact congrArg _ hidle
  | active runs _ hcallback hframes hcalls =>
    obtain ⟨hconn, hattached, hstack⟩ := hviewed hcalls.view
    have hactive := h.active runs hframes hinstalled hobjects hconn hattached hstack
    rw [hcalls.told]
    rcases hcallback with heq | heq
    · rw [heq]
      exact hactive
    · rw [heq]
      exact hactive
  | failed runs hsome hcallback _ hcause hcalls =>
    obtain ⟨hconn, hattached, hstack⟩ := hviewed hcalls.view
    obtain ⟨hwaiting, hout⟩ := h.failing hleft hguard hcause
    rw [hcalls.told, hcallback]
    exact h.fails runs (by rw [hsome]; rfl) hwaiting hout hinstalled hobjects hconn hattached hstack
  | listenFailed _ hcallbacks herror _ _ =>
    rcases h.attached _ _ hcallbacks with rfl | rfl
    · cases herror
    · cases herror
  | peerClosed hold hcallback _ hcalls =>
    obtain ⟨hconn, hattached, hstack⟩ := hviewed hcalls.view
    rw [hcalls.told, hcallback]
    exact h.peerCloses hold hinstalled hobjects hconn hattached hstack

theorem Sound.step (h : s.Sound) {s' : CombatClient} {a : Action} (hguard : s.Kept a)
    (hstep : s.step a = some s') : s'.Sound := by
  cases a with
  | asyncConnect serverId sockfd started build timeoutMs startTimer =>
    exact h.asyncConnect hguard hstep
  | transport a allocated =>
    rw [CombatClient.step] at hstep
    split at hstep
    · rename_i hleft
      split at hstep
      · cases hstep
      · rename_i app happ
        cases hstep
        exact h.transport hleft hguard happ
    · cases hstep

theorem start_sound (initSize extendSize : Nat) (h : 0 < extendSize) :
    (start initSize extendSize h).Sound where
  installed := fun _ => rfl
  objects := fun _ _ hin => by cases hin
  attached := fun _ _ hin => by cases hin
  tracked := fun serverId sockfd hin => by
    have hin : (∅ : ExtTreeMap Int Int)[serverId]? = some sockfd := hin
    simp at hin
  sessions := fun serverId sockfd => by
    constructor
    · intro hin
      cases hin
    · rintro ⟨_, hin⟩
      cases hin
  closing := fun _ hin => absurd hin List.not_mem_nil
  distinct := List.nodup_nil
  reading := fun _ _ hin => absurd hin List.not_mem_nil

/-- A connection that ends was not waiting. -/
theorem Sound.ending (h : s.Sound) {a : TcpSocketApp.Action} {allocated : Bool}
    {callback : AppCallback} (hleft : s.Left a = true)
    (hguard : s.Kept (.transport a allocated)) (happ : s.app.step a = some app)
    (htold : s.app.told a app = some (callback, sockfd))
    (hends : callback = .close ∨ callback = .error) : ¬ s.Waiting sockfd := by
  have hcalled : ∀ {v : TcpSocketApp.View} {n : Notice} {fd : Int},
      TcpSocketApp.Calls s.app a app v n fd → n.callback = callback ∧ fd = sockfd := by
    intro v n fd hcalls
    rw [hcalls.told] at htold
    cases htold
    exact ⟨rfl, rfl⟩
  have hother : ∀ {c : AppCallback}, c = callback → c ≠ .close → c ≠ .error → False := by
    rintro c rfl hclose herror
    rcases hends with heq | heq
    · exact hclose heq
    · exact herror heq
  have hquiet : ∀ {v : TcpSocketApp.View}, ¬ TcpSocketApp.Quiet s.app app v := by
    intro v hquiet
    rw [hquiet.told] at htold
    cases htold
  cases TcpSocketApp.told_of_step h.installed happ with
  | quiet hq => exact absurd hq hquiet
  | popped _ _ hq => exact absurd hq hquiet
  | accepting _ hq => exact absurd hq hquiet
  | reading _ _ _ _ hq => exact absurd hq hquiet
  | listened _ _ hq => exact absurd hq hquiet
  | inserted _ _ _ _ hq => exact absurd hq hquiet
  | closed _ _ hq => exact absurd hq hquiet
  | closing _ hq => exact absurd hq hquiet
  | accepted _ _ _ hcallback hcalls =>
    exact (hother (hcallback.symm.trans (hcalled hcalls).1) (by simp) (by simp)).elim
  | established _ _ _ _ hcallback hcalls =>
    exact (hother (hcallback.symm.trans (hcalled hcalls).1) (by simp) (by simp)).elim
  | active _ _ hcallback _ hcalls =>
    rcases hcallback with hcallback | hcallback
    · exact (hother (hcallback.symm.trans (hcalled hcalls).1) (by simp) (by simp)).elim
    · exact (hother (hcallback.symm.trans (hcalled hcalls).1) (by simp) (by simp)).elim
  | failed _ _ _ _ hcause hcalls =>
    rw [← (hcalled hcalls).2]
    exact (h.failing hleft hguard hcause).1
  | listenFailed _ hcallbacks herror _ _ =>
    rcases h.attached _ _ hcallbacks with rfl | rfl
    · cases herror
    · cases herror
  | @peerClosed fd object _ _ hold _ _ hcalls =>
    rw [← (hcalled hcalls).2]
    exact (h.reading fd object (hold ▸ List.mem_cons_self ..)).2

/-- The server of a connection that ends may be connected to again. -/
theorem Sound.released (h : s.Sound) {s' : CombatClient} {a : TcpSocketApp.Action}
    {allocated : Bool} {callback : AppCallback} (hguard : s.Kept (.transport a allocated))
    (hstep : s.step (.transport a allocated) = some s') (happ : s.app.step a = some app)
    (htold : s.app.told a app = some (callback, sockfd))
    (hends : callback = .close ∨ callback = .error) {serverId : Int}
    (hin : s.table.connections[serverId]? = some sockfd) :
    s'.table.getConnection serverId = -1 := by
  rw [CombatClient.step] at hstep
  split at hstep
  · rename_i hleft
    rw [happ] at hstep
    have htable : s'.table = s.table.dropSession sockfd := by
      have hstep : some ({ s with app := app }.callback allocated (s.app.told a app)) = some s' :=
        hstep
      rw [htold] at hstep
      rcases hends with rfl | rfl
      · cases hstep
        rfl
      · cases hstep
        rfl
    have hwaiting := h.ending hleft hguard happ htold hends
    have hnone : (s.table.dropSession sockfd).connections[serverId]? = none := by
      cases hentry : (s.table.dropSession sockfd).connections[serverId]? with
      | none => rfl
      | some fd =>
        obtain ⟨hold, hne⟩ := ((h.dropSession hwaiting) serverId fd).1.mp hentry
        rw [hin] at hold
        exact absurd (Option.some.inj hold).symm hne
    rw [htable, CombatSessions.getConnection, ExtTreeMap.getD_eq_getD_getElem?, hnone]
    rfl
  · cases hstep

/-- While no connect fails, the entries of `connections_` are connections that were opened for
their server, the sessions are the established ones of them, and a server whose connection ends
may be connected to again. -/
theorem connections_tracked (initSize extendSize : Nat) (h : 0 < extendSize) (s : CombatClient)
    (hs : Reaches step Kept (start initSize extendSize h) s) :
    (∀ serverId sockfd, s.table.connections[serverId]? = some sockfd →
      ∃ object, s.app.conn sockfd = some object ∧ s.opened object = some serverId) ∧
    (∀ serverId sockfd, s.table.sessions sockfd = some serverId ↔
      s.table.connections[serverId]? = some sockfd ∧
        s.app.attached sockfd = some .established) ∧
    ∀ a allocated app s' callback sockfd serverId, s.Kept (.transport a allocated) →
      s.app.step a = some app → s.app.told a app = some (callback, sockfd) →
      callback = .close ∨ callback = .error → s.step (.transport a allocated) = some s' →
      s.table.connections[serverId]? = some sockfd → s'.table.getConnection serverId = -1 := by
  have hsound : s.Sound := hs.invariant (start_sound initSize extendSize h)
    fun s a s' hs hguard hstep => hs.step hguard hstep
  refine ⟨fun serverId sockfd hin => (hsound.tracked serverId sockfd hin).2.2, hsound.sessions, ?_⟩
  intro a allocated app s' callback sockfd serverId hguard happ htold hends hstep hin
  exact hsound.released hguard hstep happ htold hends hin

def connecting : List Action :=
  [.asyncConnect 1 5 true ⟨true, true, true⟩ 0 false,
    .transport (.write 5 ⟨0, false, true, false⟩ .again) true, .transport .ret true]

theorem connections_tracked_connecting :
    ∃ s, run step connecting (start 64 64 (by decide)) = some s ∧
      s.table.sessions 5 = some 1 := by
  have hguarded : Guarded step Kept connecting (start 64 64 (by decide)) :=
    ⟨(by decide : (1 : Int) ≠ -1), fun _ _ => ⟨trivial, fun _ _ => ⟨trivial, fun _ _ => trivial⟩⟩⟩
  have hsound := connections_tracked 64 64 (by decide) _ (Reaches.refl.run hguarded rfl)
  exact ⟨_, rfl, (hsound.2.1 1 5).mpr ⟨rfl, rfl⟩⟩

def refused : List Action :=
  [.asyncConnect 1 5 true ⟨true, true, true⟩ 0 false,
    .transport (.error 5 ⟨0, false, false, true⟩ 111) true, .transport .ret true,
    .transport .resume true]

/-- The entry of a connect that failed stays: the server is not connected to again, and the next
connection with the descriptor is taken for one to it. -/
theorem refused_stays :
    (∃ s, Reaches step (fun _ _ => True) (start 64 64 (by decide)) s ∧ s.app.stack = [] ∧
      s.app.conn 5 = none ∧ s.table.connections[(1 : Int)]? = some 5 ∧
      ∀ sockfd started build timeoutMs startTimer,
        s.step (.asyncConnect 1 sockfd started build timeoutMs startTimer) = some s) ∧
    ∃ s, Reaches step (fun _ _ => True) (start 64 64 (by decide)) s ∧
      s.table.sessions 5 = some 1 ∧ (s.app.conn 5).bind s.opened = some 2 := by
  constructor
  · exact ⟨_, reaches_of_run (l := refused) rfl, rfl, rfl, rfl, fun _ _ _ _ _ => rfl⟩
  · exact ⟨_, reaches_of_run (l := refused ++ [.asyncConnect 2 5 true ⟨true, true, true⟩ 0 false,
      .transport (.write 5 ⟨1, false, true, false⟩ .again) true]) rfl, rfl, rfl⟩

end CombatClient

end Mysya
