import Mysya.GuardedRuns
import Mathlib.Logic.Function.Basic

/-!
# The event and the vote dispatcher

`EventDispatcher` and `VoteDispatcher` of the combat server keep one list of
callbacks for each type and a table from tokens to iterators into these lists. They
differ in the type of that table's keys and in `Dispatch`. An iterator is the number
of the node it points to. An empty `std::function` is `none`.
-/

open GuardedRuns

namespace Mysya

structure TokenAllocator where
  value : UInt32

namespace TokenAllocator

def allocate (t : TokenAllocator) (type : Int32) : UInt64 :=
  (t.value.toUInt64 <<< 32) + type.toInt64.toUInt64

def getType (token : UInt64) : Int32 := (token &&& 0xFFFFFFFF).toUInt32.toInt32

end TokenAllocator

structure Dispatcher (κ C : Type) where
  tokenAllocator : TokenAllocator
  /-- The number of nodes that were ever put in a list. -/
  nodes : Nat
  cbs : Int32 → Option (List (Nat × C))
  tokens : κ → Option Nat

namespace Dispatcher

variable {κ C : Type} [DecidableEq κ]

def new : Dispatcher κ C where
  tokenAllocator := ⟨0⟩
  nodes := 0
  cbs := fun _ => none
  tokens := fun _ => none

/-- `Attach`; `key` is the conversion of a token to the keys of `tokens_`. -/
def attach (key : UInt64 → κ) (d : Dispatcher κ C) (type : Int32) (cb : C) :
    UInt64 × Dispatcher κ C :=
  let token := d.tokenAllocator.allocate type
  (token, { d with
    nodes := d.nodes + 1
    cbs := Function.update d.cbs type (some ((d.cbs type).getD [] ++ [(d.nodes, cb)]))
    tokens := Function.update d.tokens (key token) (some d.nodes) })

def detach (key : UInt64 → κ) (d : Dispatcher κ C) (token : UInt64) : Dispatcher κ C :=
  match d.tokens (key token) with
  | none => d
  | some node =>
    let type := TokenAllocator.getType token
    { d with
      cbs := Function.update d.cbs type
        ((d.cbs type).map fun cbs => cbs.filter fun entry => entry.1 ≠ node)
      tokens := Function.update d.tokens (key token) none }

/-- The callbacks that `Dispatch` goes through. -/
def considered (d : Dispatcher κ C) (type : Int32) : List C :=
  ((d.cbs type).getD []).map Prod.snd

end Dispatcher

/-! ## The two dispatchers -/

/-- What a callback does with a message to the state of its module. -/
abbrev EventCallback (σ M : Type) := Option (M → σ → σ)

abbrev EventDispatcher (σ M : Type) := Dispatcher UInt64 (EventCallback σ M)

namespace EventDispatcher

variable {σ M : Type}

def key (token : UInt64) : UInt64 := token

def attach (d : EventDispatcher σ M) : Int32 → EventCallback σ M → UInt64 × EventDispatcher σ M :=
  Dispatcher.attach key d

def detach (d : EventDispatcher σ M) : UInt64 → EventDispatcher σ M := Dispatcher.detach key d

/-- The loop of `Dispatch`. -/
def call (message : M) (s : σ) : List (EventCallback σ M) → σ
  | [] => s
  | none :: cbs => call message s cbs
  | some cb :: cbs => call message (cb message s) cbs

def dispatch (d : EventDispatcher σ M) (type : Int32) (message : M) (s : σ) : σ :=
  match d.cbs type with
  | none => s
  | some cbs => call message s (cbs.map Prod.snd)

end EventDispatcher

abbrev VoteCallback (M : Type) := Option (M → Int32)

abbrev VoteDispatcher (M : Type) := Dispatcher Int32 (VoteCallback M)

namespace VoteDispatcher

variable {M : Type}

def key (token : UInt64) : Int32 := token.toUInt32.toInt32

def attach (d : VoteDispatcher M) : Int32 → VoteCallback M → UInt64 × VoteDispatcher M :=
  Dispatcher.attach key d

def detach (d : VoteDispatcher M) : UInt64 → VoteDispatcher M := Dispatcher.detach key d

/-- The loop of `Dispatch` from the result code `ret` on. -/
def call (message : M) (ret : Int32) : List (VoteCallback M) → Int32
  | [] => ret
  | cb :: cbs =>
    let ret := match cb with
      | none => ret
      | some cb => cb message
    if ret < 0 then ret else call message ret cbs

def dispatch (d : VoteDispatcher M) (type : Int32) (message : M) : Int32 :=
  match d.cbs type with
  | none => -1
  | some cbs => call message 0 (cbs.map Prod.snd)

/-- The result of a vote, told by the callbacks alone. -/
def verdict (message : M) : List (VoteCallback M) → Int32
  | [] => -1
  | cb :: cbs => call message 0 (cb :: cbs)

end VoteDispatcher

/-! ## Subscriptions -/

/-- The subscription that the `id`-th call of `Attach` made, from zero on. -/
structure Subscription (C : Type) where
  id : Nat
  type : Int32
  cb : C
  token : UInt64

/-- A dispatcher with those who use it: the types of all calls of `Attach` in their order,
and the subscriptions that were not detached since. -/
structure Subscribed (κ C : Type) where
  dispatcher : Dispatcher κ C
  attached : List Int32
  subscriptions : List (Subscription C)

namespace Subscribed

inductive Action (C : Type)
  | attach (type : Int32) (cb : C)
  /-- `Detach` with the token of a subscription. -/
  | detach (id : Nat)

variable {κ C : Type} [DecidableEq κ] {key : UInt64 → κ}

def start : Subscribed κ C := ⟨.new, [], []⟩

/-- A subscription is detached once. -/
def step (key : UInt64 → κ) (s : Subscribed κ C) : Action C → Option (Subscribed κ C)
  | .attach type cb =>
    let (token, dispatcher) := s.dispatcher.attach key type cb
    some
      { dispatcher := dispatcher
        attached := s.attached ++ [type]
        subscriptions := s.subscriptions ++ [⟨s.attached.length, type, cb, token⟩] }
  | .detach id =>
    match s.subscriptions.find? fun sub => sub.id == id with
    | none => none
    | some sub => some { s with
      dispatcher := s.dispatcher.detach key sub.token
      subscriptions := s.subscriptions.filter fun other => other.id ≠ id }

/-- The callbacks attached for the type and not detached by their own token. -/
def live (s : Subscribed κ C) (type : Int32) : List C :=
  (s.subscriptions.filter fun sub => sub.type == type).map Subscription.cb

/-- Only the newest subscription to its type is detached. -/
def NewestFirst (s : Subscribed κ C) : Action C → Prop
  | .attach _ _ => True
  | .detach id => ∀ type, s.attached[id]? = some type → type ∉ s.attached.drop (id + 1)

end Subscribed

theorem getLsbD_signExtend_low (x : BitVec 32) (i : Nat) (h : i < 32) :
    (BitVec.signExtend 64 x).getLsbD i = x[i] := by
  have h' : i < 64 := by omega
  rw [BitVec.getLsbD_signExtend]
  simp [h, h']

theorem TokenAllocator.getType_allocate (type : Int32) :
    TokenAllocator.getType (TokenAllocator.allocate ⟨0⟩ type) = type := by
  have hmask : (4294967295#32) = BitVec.allOnes 32 := by decide
  apply Int32.toBitVec.inj
  simp only [getType, allocate]
  simp
  ext i h
  have hset : (4294967295#32)[i] = true := by
    rw [hmask, BitVec.getElem_allOnes]
  simp [getLsbD_signExtend_low _ i h, hset]

theorem VoteDispatcher.key_allocate (type : Int32) :
    VoteDispatcher.key (TokenAllocator.allocate ⟨0⟩ type) = type := by
  apply Int32.toBitVec.inj
  simp only [VoteDispatcher.key, TokenAllocator.allocate]
  simp
  ext i h
  simp [getLsbD_signExtend_low _ i h]

namespace Subscribed

variable {κ C : Type} [DecidableEq κ] {key : UInt64 → κ} {s s' : Subscribed κ C}

/-- The lists hold what is subscribed, and a newest subscription still has its token. -/
structure Sound (key : UInt64 → κ) (s : Subscribed κ C) : Prop where
  allocator : s.dispatcher.tokenAllocator = ⟨0⟩
  nodes : s.dispatcher.nodes = s.attached.length
  typed : ∀ sub ∈ s.subscriptions, s.attached[sub.id]? = some sub.type ∧
    sub.token = TokenAllocator.allocate ⟨0⟩ sub.type
  lists : ∀ type, (s.dispatcher.cbs type).getD [] =
    (s.subscriptions.filter fun sub => sub.type == type).map fun sub => (sub.id, sub.cb)
  listed : ∀ type, (s.dispatcher.cbs type).isSome ↔ type ∈ s.attached
  newest : ∀ sub ∈ s.subscriptions, sub.type ∉ s.attached.drop (sub.id + 1) →
    s.dispatcher.tokens (key sub.token) = some sub.id

omit [DecidableEq κ] in
theorem start_sound : (start : Subscribed κ C).Sound key := by
  constructor <;> simp [start, Dispatcher.new]

theorem Sound.attach (h : s.Sound key) (type : Int32) (cb : C)
    (hkey : ∀ type type', key (TokenAllocator.allocate ⟨0⟩ type) =
      key (TokenAllocator.allocate ⟨0⟩ type') → type = type')
    (hstep : s.step key (.attach type cb) = some s') : s'.Sound key := by
  obtain rfl := Option.some.inj hstep
  have hid : ∀ sub ∈ s.subscriptions, sub.id < s.attached.length := by
    intro sub hsub
    exact (List.getElem?_eq_some_iff.mp (h.typed sub hsub).1).1
  constructor
  · exact h.allocator
  · simp [h.nodes]
  · intro sub hsub
    rcases List.mem_append.mp hsub with hold | hnew
    · refine ⟨?_, (h.typed sub hold).2⟩
      rw [List.getElem?_append_left (hid sub hold)]
      exact (h.typed sub hold).1
    · obtain rfl := List.mem_singleton.mp hnew
      simp [h.allocator]
  · intro type'
    simp only [List.filter_append, List.map_append]
    by_cases htype : type' = type
    · subst htype
      simp [h.lists, h.nodes]
    · simp [htype, h.lists, Ne.symm htype]
  · intro type'
    simp only [List.mem_append, List.mem_singleton]
    by_cases htype : type' = type
    · simp [htype]
    · simp [htype, h.listed]
  · intro sub hsub hnewest
    simp only [h.allocator]
    rcases List.mem_append.mp hsub with hold | hnew
    · have hlt := hid sub hold
      rw [List.drop_append_of_le_length hlt, List.mem_append, not_or] at hnewest
      have htype : sub.type ≠ type := by simpa using hnewest.2
      have hne : key sub.token ≠ key (TokenAllocator.allocate ⟨0⟩ type) := by
        rw [(h.typed sub hold).2]
        exact fun heq => htype (hkey _ _ heq)
      rw [Function.update_of_ne hne]
      exact h.newest sub hold hnewest.1
    · obtain rfl := List.mem_singleton.mp hnew
      simp [h.nodes, h.allocator]

theorem Sound.detach (h : s.Sound key) {id : Nat}
    (hkey : ∀ type type', key (TokenAllocator.allocate ⟨0⟩ type) =
      key (TokenAllocator.allocate ⟨0⟩ type') → type = type')
    (hguard : s.NewestFirst (.detach id : Action C))
    (hstep : s.step key (.detach id) = some s') : s'.Sound key := by
  simp only [step] at hstep
  cases hfind : s.subscriptions.find? fun sub => sub.id == id with
  | none => simp [hfind] at hstep
  | some sub =>
    simp only [hfind, Option.some.injEq] at hstep
    subst hstep
    have hsub := List.mem_of_find?_eq_some hfind
    obtain rfl : sub.id = id := by simpa using List.find?_some hfind
    obtain ⟨htype, htoken⟩ := h.typed sub hsub
    have hnewest := hguard sub.type htype
    have hgetType : TokenAllocator.getType sub.token = sub.type := by
      rw [htoken, TokenAllocator.getType_allocate]
    -- Its number tells the type of a subscription.
    have hsame : ∀ other ∈ s.subscriptions, other.id = sub.id → other.type = sub.type := by
      intro other hother heq
      have hother' := (h.typed other hother).1
      rw [heq, htype, Option.some.injEq] at hother'
      exact hother'.symm
    simp only [Dispatcher.detach, h.newest sub hsub hnewest, hgetType]
    constructor
    · exact h.allocator
    · exact h.nodes
    · exact fun other hother => h.typed other (List.mem_filter.mp hother).1
    · intro type
      by_cases heq : type = sub.type
      · subst heq
        dsimp only
        rw [Function.update_self]
        have hlist := h.lists sub.type
        cases hcbs : s.dispatcher.cbs sub.type with
        | none =>
          rw [hcbs, Option.getD_none, eq_comm, List.map_eq_nil_iff, List.filter_eq_nil_iff] at hlist
          exact absurd (hlist sub hsub) (by simp)
        | some cbs =>
          rw [hcbs, Option.getD_some] at hlist
          simp [hlist, List.filter_map, List.filter_filter, Function.comp_def, Bool.and_comm]
      · dsimp only
        rw [Function.update_of_ne heq, h.lists, List.filter_filter]
        congr 1
        refine List.filter_congr fun other hother => ?_
        by_cases hother' : other.type = type
        · have hne : other.id ≠ sub.id := fun heq' =>
            heq (hother'.symm.trans (hsame other hother heq'))
          simp [hother', hne]
        · simp [hother']
    · intro type
      by_cases heq : type = sub.type
      · simp [heq, h.listed]
      · dsimp only
        rw [Function.update_of_ne heq]
        exact h.listed type
    · intro other hother hlast
      obtain ⟨hin, hne⟩ := List.mem_filter.mp hother
      have hne : other.id ≠ sub.id := by simpa using hne
      have hkeys : key other.token ≠ key sub.token := by
        intro heq
        rw [(h.typed other hin).2, htoken] at heq
        have htypes := hkey _ _ heq
        obtain ⟨hother', hlt⟩ := (h.typed other hin)
        rcases Nat.lt_or_gt_of_ne hne with hless | hgreater
        · refine hlast ?_
          rw [htypes]
          exact List.mem_of_getElem? (i := sub.id - (other.id + 1)) (by
            rw [List.getElem?_drop, show other.id + 1 + (sub.id - (other.id + 1)) = sub.id by omega]
            exact htype)
        · refine hnewest ?_
          rw [← htypes]
          exact List.mem_of_getElem? (i := other.id - (sub.id + 1)) (by
            rw [List.getElem?_drop, show sub.id + 1 + (other.id - (sub.id + 1)) = other.id by omega]
            exact hother')
      dsimp only
      rw [Function.update_of_ne hkeys]
      exact h.newest other hin hlast

omit [DecidableEq κ] in
theorem Sound.considered (h : s.Sound key) (type : Int32) :
    s.dispatcher.considered type = s.live type := by
  simp [Dispatcher.considered, live, h.lists]

omit [DecidableEq κ] in
theorem Sound.cbs_eq_none (h : s.Sound key) {type : Int32} (hcbs : s.dispatcher.cbs type = none) :
    type ∉ s.attached ∧ s.live type = [] := by
  constructor
  · intro hattached
    rw [← h.listed, hcbs] at hattached
    exact absurd hattached (by simp)
  · rw [← h.considered]
    simp [Dispatcher.considered, hcbs]

omit [DecidableEq κ] in
theorem Sound.cbs_eq_some (h : s.Sound key) {type : Int32} {cbs : List (Nat × C)}
    (hcbs : s.dispatcher.cbs type = some cbs) :
    type ∈ s.attached ∧ cbs.map Prod.snd = s.live type := by
  constructor
  · rw [← h.listed, hcbs]
    rfl
  · rw [← h.considered]
    simp [Dispatcher.considered, hcbs]

theorem reaches_sound
    (hkey : ∀ type type', key (TokenAllocator.allocate ⟨0⟩ type) =
      key (TokenAllocator.allocate ⟨0⟩ type') → type = type')
    (h : Reaches (step key) NewestFirst start s) : s.Sound key := by
  refine h.invariant start_sound fun s a s' hs hguard hstep => ?_
  cases a with
  | attach type cb => exact hs.attach type cb hkey hstep
  | detach id => exact hs.detach hkey hguard hstep

variable {σ M : Type}

theorem event_sound {e : Subscribed UInt64 (EventCallback σ M)}
    (h : Reaches (step EventDispatcher.key) NewestFirst start e) :
    e.Sound EventDispatcher.key := by
  refine reaches_sound (fun type type' heq => ?_) h
  rw [← TokenAllocator.getType_allocate type, ← TokenAllocator.getType_allocate type']
  exact congrArg TokenAllocator.getType heq

theorem vote_sound {v : Subscribed Int32 (VoteCallback M)}
    (h : Reaches (step VoteDispatcher.key) NewestFirst start v) :
    v.Sound VoteDispatcher.key := by
  refine reaches_sound (fun type type' heq => ?_) h
  rwa [VoteDispatcher.key_allocate, VoteDispatcher.key_allocate] at heq

theorem dispatch_live {e : Subscribed UInt64 (EventCallback σ M)}
    (h : e.Sound EventDispatcher.key) (type : Int32) (message : M) (st : σ) :
    EventDispatcher.dispatch e.dispatcher type message st =
      EventDispatcher.call message st (e.live type) := by
  unfold EventDispatcher.dispatch
  split
  · next hcbs => rw [(h.cbs_eq_none hcbs).2, EventDispatcher.call]
  · next cbs hcbs => rw [(h.cbs_eq_some hcbs).2]

theorem dispatch_verdict {v : Subscribed Int32 (VoteCallback M)}
    (h : v.Sound VoteDispatcher.key) (type : Int32) (message : M)
    (hlive : type ∈ v.attached → v.live type ≠ []) :
    VoteDispatcher.dispatch v.dispatcher type message =
      VoteDispatcher.verdict message (v.live type) := by
  unfold VoteDispatcher.dispatch
  split
  · next hcbs => rw [(h.cbs_eq_none hcbs).2, VoteDispatcher.verdict]
  · next cbs hcbs =>
    obtain ⟨hattached, heq⟩ := h.cbs_eq_some hcbs
    rw [heq]
    obtain ⟨cb, rest, hrest⟩ := List.exists_cons_of_ne_nil (hlive hattached)
    rw [hrest, VoteDispatcher.verdict]

/-- When a subscription is detached only while it is the newest to its type, and a vote is
not called on a list that was emptied, both dispatchers follow the subscriptions. -/
theorem dispatches_live (e : Subscribed UInt64 (EventCallback σ M))
    (v : Subscribed Int32 (VoteCallback M))
    (he : Reaches (step EventDispatcher.key) NewestFirst start e)
    (hv : Reaches (step VoteDispatcher.key) NewestFirst start v) (type : Int32) (message : M) :
    (e.dispatcher.considered type = e.live type ∧
      ∀ st, EventDispatcher.dispatch e.dispatcher type message st =
        EventDispatcher.call message st (e.live type)) ∧
    v.dispatcher.considered type = v.live type ∧
    ((type ∈ v.attached → v.live type ≠ []) →
      VoteDispatcher.dispatch v.dispatcher type message =
        VoteDispatcher.verdict message (v.live type)) := by
  have hevent := event_sound he
  have hvote := vote_sound hv
  refine ⟨⟨hevent.considered type, dispatch_live hevent type message⟩, hvote.considered type, ?_⟩
  exact dispatch_verdict hvote type message

def counter : EventCallback Nat Unit := some fun _ n => n + 1

def refuse : VoteCallback Unit := some fun _ => -7

/-- Two subscriptions to one type, the second of which is detached first. -/
def eventCase : Subscribed UInt64 (EventCallback Nat Unit) :=
  (run (step EventDispatcher.key) [.attach 5 counter, .attach 5 none, .detach 1] start).getD start

def voteCase : Subscribed Int32 (VoteCallback Unit) :=
  (run (step VoteDispatcher.key) [.attach 5 refuse, .attach 6 none, .detach 1] start).getD start

theorem dispatches_live_case :
    EventDispatcher.dispatch eventCase.dispatcher 5 () 3 = 4 ∧
    VoteDispatcher.dispatch voteCase.dispatcher 5 () = -7 := by
  have hevent : Reaches (step EventDispatcher.key) NewestFirst start eventCase := by
    refine Reaches.snoc (.detach 1) (.snoc (.attach 5 none) (.snoc (.attach 5 counter) .refl
      trivial rfl) trivial rfl) ?_ rfl
    intro type _
    exact List.not_mem_nil
  have hvote : Reaches (step VoteDispatcher.key) NewestFirst start voteCase := by
    refine Reaches.snoc (.detach 1) (.snoc (.attach 6 none) (.snoc (.attach 5 refuse) .refl
      trivial rfl) trivial rfl) ?_ rfl
    intro type _
    exact List.not_mem_nil
  obtain ⟨⟨_, hdispatch⟩, _, hverdict⟩ := dispatches_live eventCase voteCase hevent hvote 5 ()
  exact ⟨(hdispatch 3).trans rfl, (hverdict fun _ => by simp [live, voteCase, run]; decide).trans rfl⟩

/-- Detaching the older of two subscriptions takes the newer one away; and a vote on an
emptied list passes where a vote on no list fails. -/
theorem detach_shields :
    (∃ e : Subscribed UInt64 (EventCallback Nat Unit),
      Reaches (step EventDispatcher.key) (fun _ _ => True) start e ∧
      EventDispatcher.dispatch e.dispatcher 5 () 3 ≠ EventDispatcher.call () 3 (e.live 5)) ∧
    ∃ v v' : Subscribed Int32 (VoteCallback Unit),
      Reaches (step VoteDispatcher.key) (fun _ _ => True) start v ∧
      Reaches (step VoteDispatcher.key) (fun _ _ => True) start v' ∧
      v.live 5 = v'.live 5 ∧
      VoteDispatcher.dispatch v.dispatcher 5 () ≠ VoteDispatcher.dispatch v'.dispatcher 5 () := by
  constructor
  · refine ⟨_, reaches_of_run (l := [.attach 5 none, .attach 5 counter, .detach 0]) rfl, ?_⟩
    decide
  · refine ⟨_, _, reaches_of_run (l := [.attach 5 refuse, .detach 0]) rfl, .refl, rfl, ?_⟩
    decide

end Subscribed

end Mysya
