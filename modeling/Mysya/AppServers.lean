import Mysya.TcpSocketAppCalls
import Mysya.CallbackOrder
import Mysya.CombatFields

/-!
# The tables of the two servers

The `AppServer` of the combat server keeps `app_sessions_`, and that of the gateway keeps
`actors_`. Both add to their table in `OnConnected`, and remove in `OnClose` and `OnError`.
`Server` runs such an owner with its `TcpSocketApp`: a callback changes the table when it is
called, and what else the owner does is an action of its own. A server listens, sends and
reads, and never connects or closes, so its connections are all established.
-/

namespace Mysya

open GuardedRuns

/-- A table that follows the callbacks of a `TcpSocketApp`; `Q` says how the calls of
`OnConnected` end. -/
structure ConnectionOwner (K Q : Type) where
  keys : K → Int → Bool
  onConnected : K → Int → Q → K
  onClose : K → Int → K
  onError : K → Int → K
  /-- `OnConnected` gets to the end. -/
  granted : K → Q → Prop
  keys_onConnected : ∀ {k : K} {q : Q} (sockfd : Int), granted k q →
    keys (onConnected k sockfd q) = Function.update (keys k) sockfd true
  keys_refused : ∀ {k : K} {q : Q} (sockfd : Int), ¬ granted k q →
    keys (onConnected k sockfd q) = keys k
  keys_onClose : ∀ (k : K) (sockfd : Int),
    keys (onClose k sockfd) = Function.update (keys k) sockfd false
  keys_onError : ∀ (k : K) (sockfd : Int),
    keys (onError k sockfd) = Function.update (keys k) sockfd false

/-! ## The combat server -/

structure ConnectedCalls where
  peerAddress : Bool
  codec : Bool
  session : Option SessionPtr

/-- `protobufCodec` says whether `protobuf_codecs_` has one for the application. -/
structure AppServer where
  protobufCodec : Bool
  appSessions : Int → Option SessionPtr

namespace AppServer

def start : AppServer := ⟨false, fun _ => none⟩

def removeSession (s : AppServer) (sockfd : Int) : AppServer :=
  { s with appSessions := Function.update s.appSessions sockfd none }

def addSession (s : AppServer) (sockfd : Int) (session : SessionPtr) : AppServer :=
  if (s.appSessions sockfd).isSome then s
  else { s with appSessions := Function.update s.appSessions sockfd (some session) }

def onConnected (s : AppServer) (sockfd : Int) (calls : ConnectedCalls) : AppServer :=
  if calls.peerAddress = false then s
  else if s.protobufCodec = false && calls.codec = false then s
  else
    let s := { s with protobufCodec := true }
    match calls.session with
    | none => s
    | some session => s.addSession sockfd session

def onClose (s : AppServer) (sockfd : Int) : AppServer := s.removeSession sockfd

def onError (s : AppServer) (sockfd : Int) : AppServer := s.removeSession sockfd

end AppServer

theorem isSome_update_none {α : Type} (table : Int → Option α) (sockfd : Int) :
    (fun fd => (Function.update table sockfd none fd).isSome) =
      Function.update (fun fd => (table fd).isSome) sockfd false := by
  funext fd
  by_cases heq : fd = sockfd
  · subst heq
    simp
  · simp [heq]

/-- An entry that is not written over one that is there. -/
theorem isSome_addNew {α : Type} (table : Int → Option α) (sockfd : Int) (a : α) :
    (fun fd => ((if (table sockfd).isSome then table
      else Function.update table sockfd (some a)) fd).isSome) =
      Function.update (fun fd => (table fd).isSome) sockfd true := by
  funext fd
  by_cases heq : fd = sockfd
  · subst heq
    by_cases hin : (table fd).isSome
    · simp [hin]
    · simp [hin]
  · by_cases hin : (table sockfd).isSome
    · simp [hin, heq]
    · simp [hin, heq]

def combatOwner : ConnectionOwner AppServer ConnectedCalls where
  keys := fun s sockfd => (s.appSessions sockfd).isSome
  onConnected := AppServer.onConnected
  onClose := AppServer.onClose
  onError := AppServer.onError
  granted := fun s calls => calls.peerAddress = true ∧
    (s.protobufCodec = true ∨ calls.codec = true) ∧ calls.session.isSome
  keys_onConnected := by
    rintro s ⟨peerAddress, codec, session⟩ sockfd ⟨rfl, hcodec, hsession⟩
    obtain ⟨session, rfl⟩ := Option.isSome_iff_exists.mp hsession
    rw [← isSome_addNew s.appSessions sockfd session]
    have hcodec' : (s.protobufCodec = false && codec = false) = false := by
      rcases hcodec with h | h
      · simp_all
      · simp_all
    unfold AppServer.onConnected AppServer.addSession
    simp only [Bool.true_eq_false, if_false, hcodec']
    by_cases hin : (s.appSessions sockfd).isSome
    · simp [hin]
    · simp [hin]
  keys_refused := by
    rintro s ⟨peerAddress, codec, session⟩ sockfd hrefused
    unfold AppServer.onConnected
    split
    · rfl
    · split
      · rfl
      · cases session with
        | none => rfl
        | some session => simp_all
  keys_onClose := fun s sockfd => isSome_update_none s.appSessions sockfd
  keys_onError := fun s sockfd => isSome_update_none s.appSessions sockfd

/-! ## The gateway -/

/-- `actors_` of the gateway's `AppServer`. -/
structure GatewayServer where
  actors : Int → Option Nat

namespace GatewayServer

def start : GatewayServer := ⟨fun _ => none⟩

def addActor (s : GatewayServer) (sockfd : Int) (actor : Nat) : GatewayServer where
  actors := if (s.actors sockfd).isSome then s.actors
    else Function.update s.actors sockfd (some actor)

def removeActor (s : GatewayServer) (sockfd : Int) : GatewayServer :=
  ⟨Function.update s.actors sockfd none⟩

/-- `OnConnected`, with the memory given for an `Actor`. -/
def onConnected (s : GatewayServer) (sockfd : Int) (allocated : Option Nat) : GatewayServer :=
  match allocated with
  | none => s
  | some actor => s.addActor sockfd actor

def onClose (s : GatewayServer) (sockfd : Int) : GatewayServer := s.removeActor sockfd

def onError (s : GatewayServer) (sockfd : Int) : GatewayServer := s.removeActor sockfd

end GatewayServer

def gatewayOwner : ConnectionOwner GatewayServer (Option Nat) where
  keys := fun s sockfd => (s.actors sockfd).isSome
  onConnected := GatewayServer.onConnected
  onClose := GatewayServer.onClose
  onError := GatewayServer.onError
  granted := fun _ allocated => allocated.isSome
  keys_onConnected := by
    intro s allocated sockfd hallocated
    obtain ⟨actor, rfl⟩ := Option.isSome_iff_exists.mp hallocated
    exact isSome_addNew s.actors sockfd actor
  keys_refused := by
    intro s allocated sockfd hrefused
    cases allocated with
    | none => rfl
    | some actor => exact absurd rfl hrefused
  keys_onClose := fun s sockfd => isSome_update_none s.actors sockfd
  keys_onError := fun s sockfd => isSome_update_none s.actors sockfd

/-! ## An owner with its application -/

structure Serving (K : Type) where
  app : TcpSocketApp
  owner : K

namespace Serving

variable {K Q : Type}

/-- All the callbacks are set, and nothing is connected. -/
def start (initSize extendSize : Nat) (h : 0 < extendSize) (owner : K) : Serving K where
  app := { TcpSocketApp.init initSize extendSize h with installed := fun _ => true }
  owner := owner

/-- What a server does not call. -/
def Served : TcpSocketApp.Action → Bool
  | .setCallback _ _ => false
  | .connect _ _ _ => false
  | .asyncConnect _ _ _ _ _ => false
  | .close _ => false
  | _ => true

/-- What the owner does in the callback that was called. -/
def callback (o : ConnectionOwner K Q) (k : K) (calls : Q) : Option (AppCallback × Int) → K
  | some (.connection, sockfd) => o.onConnected k sockfd calls
  | some (.close, sockfd) => o.onClose k sockfd
  | some (.error, sockfd) => o.onError k sockfd
  | _ => k

def step (o : ConnectionOwner K Q) (s : Serving K) (a : TcpSocketApp.Action × Q) :
    Option (Serving K) :=
  if Served a.1 then
    match s.app.step a.1 with
    | none => none
    | some app => some ⟨app, callback o s.owner a.2 (s.app.told a.1 app)⟩
  else none

/-- No read finds the peer of a connection closed, and no connection is refused an entry. -/
def Kept (o : ConnectionOwner K Q) (s : Serving K) (a : TcpSocketApp.Action × Q) : Prop :=
  match a.1 with
  | .read sockfd _ readableSize r =>
    (s.app.connections sockfd).isSome → 0 < readableSize ∧ r ≠ .received []
  | .accept (.accepted _ _) => o.granted s.owner a.2
  | _ => True

/-- Only the handler at the bottom may be an accept loop. -/
def Bottom (stack : List Frame) : Prop :=
  ∀ frame ∈ stack.dropLast, ∀ sockfd object, frame ≠ .accept sockfd object

structure Matching (o : ConnectionOwner K Q) (s : Serving K) : Prop where
  installed : ∀ c, s.app.installed c = true
  owned : ∀ sockfd, o.keys s.owner sockfd = true → (s.app.conn sockfd).isSome
  claimed : ∀ sockfd, (s.app.conn sockfd).isSome → o.keys s.owner sockfd = true ∨
    ∃ timedOut, .close sockfd timedOut ∈ s.app.stack
  closing : ∀ sockfd timedOut, .close sockfd timedOut ∈ s.app.stack →
    o.keys s.owner sockfd = false
  reading : ∀ sockfd object, .received sockfd object true ∉ s.app.stack
  bottom : Bottom s.app.stack

theorem Bottom.pop {frame : Frame} {rest : List Frame} (h : Bottom (frame :: rest)) :
    Bottom rest := by
  intro other hother
  cases rest with
  | nil => cases hother
  | cons next rest => exact h other (List.mem_cons_of_mem _ hother)

theorem Bottom.push {frame : Frame} {stack : List Frame} (h : Bottom stack)
    (hframe : ∀ sockfd object, frame ≠ .accept sockfd object) : Bottom (frame :: stack) := by
  intro other hother
  cases stack with
  | nil => cases hother
  | cons next rest =>
    rcases List.mem_cons.mp hother with rfl | hold
    · exact hframe
    · exact h other hold

theorem Bottom.single (frame : Frame) : Bottom [frame] := fun _ hother => by cases hother

theorem Bottom.rest_of_accept {sockfd : Int} {object : Nat} {rest : List Frame}
    (h : Bottom (.accept sockfd object :: rest)) : rest = [] := by
  cases rest with
  | nil => rfl
  | cons next rest => exact absurd rfl (h (.accept sockfd object) (List.mem_cons_self ..) sockfd object)

theorem start_matching (o : ConnectionOwner K Q) (initSize extendSize : Nat) (h : 0 < extendSize)
    {owner : K} (hempty : ∀ sockfd, o.keys owner sockfd = false) :
    (start initSize extendSize h owner).Matching o where
  installed := fun _ => rfl
  owned := fun sockfd hkey => by
    have hkey : o.keys owner sockfd = true := hkey
    rw [hempty] at hkey
    cases hkey
  claimed := fun _ hconn => by cases hconn
  closing := fun _ _ hclose => absurd hclose List.not_mem_nil
  reading := fun _ _ => List.not_mem_nil
  bottom := fun _ hother => by cases hother

variable {o : ConnectionOwner K Q} {s : Serving K} {app : TcpSocketApp} {owner : K}

/-- The tables stay, and no close is added to the running handlers or taken from them. -/
theorem Matching.frames (h : s.Matching o) (hinstalled : ∀ c, app.installed c = true)
    (hconn : app.conn = s.app.conn)
    (hclose : ∀ sockfd timedOut, .close sockfd timedOut ∈ app.stack ↔
      .close sockfd timedOut ∈ s.app.stack)
    (hreading : ∀ sockfd object, .received sockfd object true ∉ app.stack)
    (hbottom : Bottom app.stack) : Matching o ⟨app, s.owner⟩ where
  installed := hinstalled
  owned := fun sockfd hkey => by
    show (app.conn sockfd).isSome
    rw [hconn]
    exact h.owned sockfd hkey
  claimed := fun sockfd hsome => by
    have hsome : (app.conn sockfd).isSome := hsome
    rw [hconn] at hsome
    rcases h.claimed sockfd hsome with hkey | ⟨timedOut, hin⟩
    · exact Or.inl hkey
    · exact Or.inr ⟨timedOut, (hclose sockfd timedOut).mpr hin⟩
  closing := fun sockfd timedOut hin => h.closing sockfd timedOut ((hclose sockfd timedOut).mp hin)
  reading := hreading
  bottom := hbottom

/-- An error: the owner lets go of the descriptor, and the connection will be closed. -/
theorem Matching.error (h : s.Matching o) {sockfd : Int} {timedOut : Option Nat}
    (hinstalled : ∀ c, app.installed c = true) (hconn : app.conn = s.app.conn)
    (hstack : app.stack = .callback :: .close sockfd timedOut :: s.app.stack)
    (hkeys : o.keys owner = Function.update (o.keys s.owner) sockfd false) :
    Matching o ⟨app, owner⟩ := by
  have hclose : ∀ fd t, .close fd t ∈ app.stack → fd = sockfd ∨ .close fd t ∈ s.app.stack := by
    intro fd t hin
    rw [hstack] at hin
    rcases List.mem_cons.mp hin with heq | hin
    · cases heq
    · rcases List.mem_cons.mp hin with heq | hin
      · cases heq
        exact Or.inl rfl
      · exact Or.inr hin
  constructor
  · exact hinstalled
  · intro fd hkey
    show (app.conn fd).isSome
    have hkey : o.keys owner fd = true := hkey
    rw [hkeys] at hkey
    by_cases heq : fd = sockfd
    · simp [heq] at hkey
    · rw [Function.update_of_ne heq] at hkey
      rw [hconn]
      exact h.owned fd hkey
  · intro fd hsome
    show o.keys owner fd = true ∨ ∃ t, .close fd t ∈ app.stack
    rw [hstack]
    by_cases heq : fd = sockfd
    · subst heq
      exact Or.inr ⟨timedOut, by simp⟩
    · have hsome : (app.conn fd).isSome := hsome
      rw [hconn] at hsome
      rw [hkeys, Function.update_of_ne heq]
      rcases h.claimed fd hsome with hkey | ⟨t, hin⟩
      · exact Or.inl hkey
      · exact Or.inr ⟨t, List.mem_cons_of_mem _ (List.mem_cons_of_mem _ hin)⟩
  · intro fd t hin
    show o.keys owner fd = false
    rw [hkeys]
    by_cases heq : fd = sockfd
    · rw [heq, Function.update_self]
    · rw [Function.update_of_ne heq]
      rcases hclose fd t hin with hsame | hold
      · exact absurd hsame heq
      · exact h.closing fd t hold
  · intro fd object hin
    have hin : .received fd object true ∈ app.stack := hin
    rw [hstack] at hin
    rcases List.mem_cons.mp hin with heq | hin
    · cases heq
    · rcases List.mem_cons.mp hin with heq | hin
      · cases heq
      · exact h.reading fd object hin
  · show Bottom app.stack
    rw [hstack]
    exact (h.bottom.push fun _ _ heq => by cases heq).push fun _ _ heq => by cases heq

/-- An accepted connection gets its entry; no handler that will close one is running. -/
theorem Matching.accept (h : s.Matching o) {sockfd : Int} {object : Nat} {listenSockfd : Int}
    {listenObject : Nat} {rest : List Frame} (hinstalled : ∀ c, app.installed c = true)
    (haccept : s.app.stack = .accept listenSockfd listenObject :: rest)
    (hconn : app.conn = Function.update s.app.conn sockfd (some object))
    (hstack : app.stack = .callback :: s.app.stack)
    (hkeys : o.keys owner = Function.update (o.keys s.owner) sockfd true) :
    Matching o ⟨app, owner⟩ := by
  obtain rfl : rest = [] := by
    have hbottom := h.bottom
    rw [haccept] at hbottom
    exact hbottom.rest_of_accept
  have hnone : ∀ fd t, .close fd t ∉ app.stack := by
    intro fd t hin
    rw [hstack, haccept] at hin
    simp at hin
  constructor
  · exact hinstalled
  · intro fd hkey
    show (app.conn fd).isSome
    have hkey : o.keys owner fd = true := hkey
    rw [hkeys] at hkey
    rw [hconn]
    by_cases heq : fd = sockfd
    · rw [heq, Function.update_self]
      rfl
    · rw [Function.update_of_ne heq] at hkey ⊢
      exact h.owned fd hkey
  · intro fd hsome
    refine Or.inl ?_
    show o.keys owner fd = true
    have hsome : (app.conn fd).isSome := hsome
    rw [hconn] at hsome
    rw [hkeys]
    by_cases heq : fd = sockfd
    · rw [heq, Function.update_self]
    · rw [Function.update_of_ne heq] at hsome ⊢
      rcases h.claimed fd hsome with hkey | ⟨t, hin⟩
      · exact hkey
      · exact absurd (hstack ▸ List.mem_cons_of_mem _ hin) (hnone fd t)
  · exact fun fd t hin => absurd hin (hnone fd t)
  · intro fd obj hin
    have hin : .received fd obj true ∈ app.stack := hin
    rw [hstack, haccept] at hin
    simp at hin
  · show Bottom app.stack
    rw [hstack]
    exact h.bottom.push fun _ _ heq => by cases heq

/-- The close that follows an error. -/
theorem Matching.close (h : s.Matching o) {sockfd : Int} {timedOut : Option Nat}
    {rest : List Frame} (hinstalled : ∀ c, app.installed c = true)
    (hstack : s.app.stack = .close sockfd timedOut :: rest)
    (hconn : app.conn = Function.update s.app.conn sockfd none) (hrest : app.stack = rest) :
    Matching o ⟨app, s.owner⟩ := by
  have hkey : o.keys s.owner sockfd = false :=
    h.closing sockfd timedOut (by rw [hstack]; exact List.mem_cons_self ..)
  have hmem : ∀ frame, frame ∈ app.stack → frame ∈ s.app.stack := by
    intro frame hin
    rw [hstack]
    rw [hrest] at hin
    exact List.mem_cons_of_mem _ hin
  constructor
  · exact hinstalled
  · intro fd hin
    show (app.conn fd).isSome
    have hne : fd ≠ sockfd := by
      rintro rfl
      rw [hkey] at hin
      cases hin
    rw [hconn, Function.update_of_ne hne]
    exact h.owned fd hin
  · intro fd hsome
    have hsome : (app.conn fd).isSome := hsome
    rw [hconn] at hsome
    by_cases heq : fd = sockfd
    · rw [heq, Function.update_self] at hsome
      cases hsome
    · rw [Function.update_of_ne heq] at hsome
      rcases h.claimed fd hsome with hin | ⟨t, hin⟩
      · exact Or.inl hin
      · refine Or.inr ⟨t, ?_⟩
        show .close fd t ∈ app.stack
        rw [hstack] at hin
        rw [hrest]
        rcases List.mem_cons.mp hin with hhead | htail
        · cases hhead
          exact absurd rfl heq
        · exact htail
  · exact fun fd t hin => h.closing fd t (hmem _ hin)
  · exact fun fd object hin => h.reading fd object (hmem _ hin)
  · show Bottom app.stack
    rw [hrest]
    have hbottom := h.bottom
    rw [hstack] at hbottom
    exact hbottom.pop

/-- A connection that has its entry, or is refused it once more. -/
theorem Matching.reconnect (h : s.Matching o) {sockfd : Int} {calls : Q}
    (hinstalled : ∀ c, app.installed c = true) (hidle : s.app.stack = [])
    (hsome : (s.app.conn sockfd).isSome) (hconn : app.conn = s.app.conn)
    (hstack : app.stack = [.callback]) : Matching o ⟨app, o.onConnected s.owner sockfd calls⟩ := by
  have hsame : Matching o ⟨app, s.owner⟩ := by
    refine h.frames hinstalled hconn ?_ ?_ ?_
    · simp [hstack, hidle]
    · simp [hstack]
    · rw [hstack]
      exact .single _
  have hkeys : ∀ fd, o.keys (o.onConnected s.owner sockfd calls) fd = o.keys s.owner fd ∨
      (fd = sockfd ∧ o.keys (o.onConnected s.owner sockfd calls) fd = true) := by
    intro fd
    by_cases hgranted : o.granted s.owner calls
    · rw [o.keys_onConnected sockfd hgranted]
      by_cases heq : fd = sockfd
      · exact Or.inr ⟨heq, by rw [heq, Function.update_self]⟩
      · exact Or.inl (Function.update_of_ne heq _ _)
    · exact Or.inl (congrFun (o.keys_refused sockfd hgranted) fd)
  constructor
  · exact hinstalled
  · intro fd hkey
    have hkey : o.keys (o.onConnected s.owner sockfd calls) fd = true := hkey
    rcases hkeys fd with heq | ⟨rfl, _⟩
    · exact hsame.owned fd (heq.symm.trans hkey)
    · show (app.conn fd).isSome
      rw [hconn]
      exact hsome
  · intro fd hin
    show o.keys (o.onConnected s.owner sockfd calls) fd = true ∨ _
    rcases hkeys fd with heq | ⟨_, htrue⟩
    · rw [heq]
      exact hsame.claimed fd hin
    · exact Or.inl htrue
  · intro fd t hin
    have hin : .close fd t ∈ app.stack := hin
    rw [hstack] at hin
    simp at hin
  · exact hsame.reading
  · exact hsame.bottom

/-- The connections and what runs are the same. -/
theorem Matching.same (h : s.Matching o) (hinstalled : ∀ c, app.installed c = true)
    (hconn : app.conn = s.app.conn) (hstack : app.stack = s.app.stack) :
    Matching o ⟨app, s.owner⟩ := by
  refine h.frames hinstalled hconn (by simp [hstack]) ?_ ?_
  · rw [hstack]
    exact h.reading
  · rw [hstack]
    exact h.bottom

/-- A callback about what was received or sent. -/
theorem Matching.active (h : s.Matching o) {sockfd : Int} {object : Nat} {frames : List Frame}
    (hinstalled : ∀ c, app.installed c = true) (hconn : app.conn = s.app.conn)
    (hframes : frames = [] ∨ frames = [.received sockfd object false])
    (hstack : app.stack = .callback :: (frames ++ s.app.stack)) : Matching o ⟨app, s.owner⟩ := by
  refine h.frames hinstalled hconn ?_ ?_ ?_
  · intro fd t
    rw [hstack]
    rcases hframes with rfl | rfl
    · simp
    · simp
  · intro fd obj hin
    rw [hstack] at hin
    refine h.reading fd obj ?_
    rcases hframes with rfl | rfl
    · simpa using hin
    · simpa using hin
  · rw [hstack]
    refine Bottom.push ?_ fun _ _ heq => by cases heq
    rcases hframes with rfl | rfl
    · exact h.bottom
    · exact h.bottom.push fun _ _ heq => by cases heq

theorem Matching.step {s' : Serving K} (h : s.Matching o) {a : TcpSocketApp.Action × Q}
    (hguard : Kept o s a) (hstep : step o s a = some s') : s'.Matching o := by
  obtain ⟨a, calls⟩ := a
  unfold Serving.step at hstep
  split at hstep
  · rename_i hserved
    split at hstep
    · cases hstep
    · rename_i app happ
      cases hstep
      have hinstalled : ∀ c, app.installed c = true := by
        rcases (TcpSocketApp.move_of_step happ).grows.installed with heq | ⟨_, _, hset, _⟩
        · rw [heq]
          exact h.installed
        · have hset : a = _ := hset
          rw [hset] at hserved
          cases hserved
      have hviewed : ∀ {v : TcpSocketApp.View}, app.view = v →
          app.conn = v.conn ∧ app.stack = v.stack :=
        fun hv => ⟨congrArg TcpSocketApp.View.conn hv, congrArg TcpSocketApp.View.stack hv⟩
      cases TcpSocketApp.told_of_step h.installed happ with
      | quiet hquiet =>
        obtain ⟨hconn, hstack⟩ := hviewed hquiet.view
        rw [hquiet.told]
        exact h.same hinstalled hconn hstack
      | @popped frame rest hold hframe hquiet =>
        obtain ⟨hconn, hstack⟩ := hviewed hquiet.view
        have hstack : app.stack = rest := hstack
        rw [hquiet.told]
        refine h.frames hinstalled hconn ?_ ?_ ?_
        · intro fd t
          rw [hstack, hold, List.mem_cons]
          simp [(hframe fd t).symm]
        · intro fd object hin
          rw [hstack] at hin
          exact h.reading fd object (by rw [hold]; exact List.mem_cons_of_mem _ hin)
        · rw [hstack]
          have hbottom := h.bottom
          rw [hold] at hbottom
          exact hbottom.pop
      | accepting hidle hquiet =>
        obtain ⟨hconn, hstack⟩ := hviewed hquiet.view
        have hstack : app.stack = [.accept _ _] := hstack
        rw [hquiet.told]
        refine h.frames hinstalled hconn (by simp [hstack, hidle]) (by simp [hstack]) ?_
        rw [hstack]
        exact .single _
      | @reading sockfd object peerClosed hidle hsome hread _ hquiet =>
        obtain ⟨hconn, hstack⟩ := hviewed hquiet.view
        have hstack : app.stack = [.received sockfd object peerClosed] := hstack
        obtain ⟨event, readableSize, r, hread, hopen⟩ := hread
        have hread : a = _ := hread
        subst hread
        have hconnection : (s.app.connections sockfd).isSome := by
          rw [← Option.isSome_map, show (s.app.connections sockfd).map _ = _ from hsome]
          rfl
        obtain rfl := hopen (hguard hconnection).1 (hguard hconnection).2
        rw [hquiet.told]
        refine h.frames hinstalled hconn (by simp [hstack, hidle]) (by simp [hstack]) ?_
        rw [hstack]
        exact .single _
      | listened _ _ hquiet =>
        obtain ⟨hconn, hstack⟩ := hviewed hquiet.view
        rw [hquiet.told]
        exact h.same hinstalled hconn hstack
      | inserted _ _ _ hconnect _ =>
        rcases hconnect with ⟨_, _, hconnect⟩ | ⟨_, _, _, _, _, hconnect⟩
        · have hconnect : a = _ := hconnect
          rw [hconnect] at hserved
          cases hserved
        · have hconnect : a = _ := hconnect
          rw [hconnect] at hserved
          cases hserved
      | closed hclose _ _ =>
        have hclose : a = _ := hclose
        rw [hclose] at hserved
        cases hserved
      | closing hold hquiet =>
        obtain ⟨hconn, hstack⟩ := hviewed hquiet.view
        rw [hquiet.told]
        exact h.close hinstalled hold hconn hstack
      | accepted hold _ haccept hcallback hcalls =>
        obtain ⟨hconn, hstack⟩ := hviewed hcalls.view
        obtain ⟨build, haccept⟩ := haccept
        have haccept : a = _ := haccept
        subst haccept
        rw [hcalls.told, hcallback]
        exact h.accept hinstalled hold hconn hstack (o.keys_onConnected _ hguard)
      | established hidle hsome _ _ hcallback hcalls =>
        obtain ⟨hconn, hstack⟩ := hviewed hcalls.view
        rw [hcalls.told, hcallback]
        refine h.reconnect hinstalled hidle (by rw [hsome]; rfl) hconn ?_
        rw [hstack]
        exact congrArg _ hidle
      | @active sockfd object n frames _ _ hcallback hframes hcalls =>
        obtain ⟨hconn, hstack⟩ := hviewed hcalls.view
        have howner : callback o s.owner calls (some (n.callback, sockfd)) = s.owner := by
          rcases hcallback with heq | heq
          · rw [heq]
            rfl
          · rw [heq]
            rfl
        rw [hcalls.told, howner]
        exact h.active hinstalled hconn hframes hstack
      | failed _ _ hcallback _ _ hcalls =>
        obtain ⟨hconn, hstack⟩ := hviewed hcalls.view
        rw [hcalls.told, hcallback]
        exact h.error hinstalled hconn hstack (o.keys_onError _ _)
      | @listenFailed sockfd _ _ hidle _ _ hcallback hcalls =>
        obtain ⟨hconn, hstack⟩ := hviewed hcalls.view
        have hstack : app.stack = [.callback, .close sockfd none] := hstack
        rw [hcalls.told, hcallback]
        have hstack : app.stack = .callback :: .close sockfd none :: s.app.stack := by
          rw [hstack, hidle]
        exact h.error hinstalled hconn hstack (o.keys_onError _ _)
      | @peerClosed sockfd object rest _ hold _ _ _ =>
        exact absurd (by rw [hold]; exact List.mem_cons_self ..) (h.reading sockfd object)
  · cases hstep

theorem Matching.idle (h : s.Matching o) (hidle : s.app.stack = []) (sockfd : Int) :
    (s.app.connections sockfd).isSome ↔ o.keys s.owner sockfd = true := by
  have hconn : (s.app.conn sockfd).isSome = (s.app.connections sockfd).isSome := Option.isSome_map
  rw [← hconn]
  constructor
  · intro hsome
    rcases h.claimed sockfd hsome with hkey | ⟨_, hin⟩
    · exact hkey
    · rw [hidle] at hin
      exact absurd hin List.not_mem_nil
  · exact h.owned sockfd

/-- While no peer closes and no accepted connection is refused its entry, the connections of
either server between events are those its table has. -/
theorem sessions_match (initSize extendSize : Nat) (h : 0 < extendSize) (s : Serving AppServer)
    (g : Serving GatewayServer)
    (hs : Reaches (step combatOwner) (Kept combatOwner)
      (start initSize extendSize h AppServer.start) s)
    (hg : Reaches (step gatewayOwner) (Kept gatewayOwner)
      (start initSize extendSize h GatewayServer.start) g) :
    (s.app.stack = [] → ∀ sockfd,
      (s.app.connections sockfd).isSome ↔ (s.owner.appSessions sockfd).isSome) ∧
    (g.app.stack = [] → ∀ sockfd,
      (g.app.connections sockfd).isSome ↔ (g.owner.actors sockfd).isSome) := by
  constructor
  · have hmatching : s.Matching combatOwner :=
      hs.invariant (start_matching combatOwner initSize extendSize h fun _ => rfl)
        fun s a s' hs hguard hstep => hs.step hguard hstep
    exact hmatching.idle
  · have hmatching : g.Matching gatewayOwner :=
      hg.invariant (start_matching gatewayOwner initSize extendSize h fun _ => rfl)
        fun s a s' hs hguard hstep => hs.step hguard hstep
    exact hmatching.idle

def accepting {Q : Type} (calls : Q) : List (TcpSocketApp.Action × Q) :=
  [(.listen 3 true true, calls), (.read 3 ⟨0, true, false, false⟩ 0 .again, calls),
    (.accept (.accepted 7 ⟨true, true, true⟩), calls), (.ret, calls), (.accept .again, calls)]

def granted : ConnectedCalls := ⟨true, true, some 0⟩

theorem accepting_guarded (o : ConnectionOwner K Q) (k : K) (calls : Q)
    (hgranted : ∀ k, o.granted k calls) :
    Guarded (step o) (Kept o) (accepting calls) (start 64 64 (by decide) k) := by
  refine ⟨trivial, fun s hs => ⟨?_, fun _ _ => ⟨hgranted _, fun _ _ => ⟨trivial, fun _ _ =>
    ⟨trivial, fun _ _ => trivial⟩⟩⟩⟩⟩
  cases hs
  intro hsome
  cases hsome

theorem sessions_match_accepted :
    (∃ s : Serving AppServer, run (step combatOwner) (accepting granted)
      (start 64 64 (by decide) AppServer.start) = some s ∧ (s.app.connections 7).isSome) ∧
    ∃ g : Serving GatewayServer, run (step gatewayOwner) (accepting (some 0))
      (start 64 64 (by decide) GatewayServer.start) = some g ∧ (g.app.connections 7).isSome := by
  have hs := accepting_guarded combatOwner AppServer.start granted
    fun _ => ⟨rfl, Or.inr rfl, rfl⟩
  have hg := accepting_guarded gatewayOwner GatewayServer.start (some 0) fun _ => rfl
  have hboth := sessions_match 64 64 (by decide) _ _ (Reaches.refl.run hs rfl)
    (Reaches.refl.run hg rfl)
  exact ⟨⟨_, rfl, (hboth.1 rfl 7).mpr rfl⟩, ⟨_, rfl, (hboth.2 rfl 7).mpr rfl⟩⟩

def closing {Q : Type} (calls : Q) : List (TcpSocketApp.Action × Q) :=
  accepting calls ++
    [(.read 7 ⟨1, true, false, false⟩ 0 .again, calls), (.resume, calls), (.ret, calls)]

/-- A connection whose peer closes is no longer the server's, and stays open. -/
theorem closed_stays :
    (∃ s, Reaches (step combatOwner) (fun _ _ => True) (start 64 64 (by decide) AppServer.start) s ∧
      s.app.stack = [] ∧ (s.app.connections 7).isSome ∧ s.owner.appSessions 7 = none) ∧
    ∃ g, Reaches (step gatewayOwner) (fun _ _ => True)
        (start 64 64 (by decide) GatewayServer.start) g ∧
      g.app.stack = [] ∧ (g.app.connections 7).isSome ∧ g.owner.actors 7 = none := by
  constructor
  · exact ⟨_, reaches_of_run (l := closing granted) rfl, rfl, rfl, rfl⟩
  · exact ⟨_, reaches_of_run (l := closing (some 0)) rfl, rfl, rfl, rfl⟩

end Serving

end Mysya
