import Mysya.GuardedRuns
import Mysya.MachineInts
import Mathlib.Logic.Function.Basic

/-!
# The event loop

`ioevent::EventLoop` and `EventChannel`, over a kernel that registers file
descriptors. Channels are named by their address, which is all an event holds,
and the memory of a destroyed one is still read. Each `AttachEventLoop` that
succeeds is numbered: `current` is the attachment of a channel now, and an
event carries the one that produced it. An event of an ended attachment is
dropped only while its address holds the attach id that was removed.
-/

namespace Mysya

open GuardedRuns

inductive EventKind where
  | read
  | write
  | error
  deriving DecidableEq, Repr

/-- `eventLoop` tells whether `event_loop_` is set. -/
structure EventChannel where
  fd : Int
  eventLoop : Bool
  attachId : Nat
  readCb : Bool
  writeCb : Bool
  errorCb : Bool
  deriving DecidableEq, Repr

namespace EventChannel

def callback (c : EventChannel) : EventKind → Bool
  | .read => c.readCb
  | .write => c.writeCb
  | .error => c.errorCb

def setCallback (c : EventChannel) (kind : EventKind) (present : Bool) : EventChannel :=
  match kind with
  | .read => { c with readCb := present }
  | .write => { c with writeCb := present }
  | .error => { c with errorCb := present }

end EventChannel

/-- An entry of `active_events_`, with the masks `Loop` has still to look at. -/
structure ActiveEvent where
  attachment : Nat
  channel : Nat
  kinds : List EventKind
  deriving DecidableEq, Repr

/-- A callback run for an event, and whether the event's attachment was still attached. -/
structure Delivery where
  attachment : Nat
  channel : Nat
  kind : EventKind
  attached : Bool
  deriving DecidableEq, Repr

/-- `interest` is the kernel's table: the pointer given to `epoll_ctl` and the attachment it was
given by. -/
structure EventLoop where
  channels : Nat → EventChannel
  live : Nat → Bool
  removedEventChannels : List Nat
  second : Int
  attachIds : Nat
  activeEvents : List ActiveEvent
  waiting : Bool
  interest : Int → Option (Nat × Nat)
  attachments : Nat
  current : Nat → Option Nat
  deliveries : List Delivery

namespace EventLoop

/-- What `epoll_wait` returns for a descriptor. -/
structure Ready where
  fd : Int
  read : Bool
  write : Bool
  error : Bool
  deriving DecidableEq, Repr

inductive Action where
  | create (channel : Nat) (fd : Int)
  | setCallback (channel : Nat) (kind : EventKind) (present : Bool)
  | setFileDescriptor (channel : Nat) (fd : Int)
  | attach (channel : Nat) (added : Bool)
  | detach (channel : Nat)
  | destroy (channel : Nat)
  | overwrite (channel : Nat) (memory : EventChannel)
  | close (fd : Int)
  | wait (second : Int) (ready : List Ready)
  | dispatch
  | clear
  deriving DecidableEq, Repr

def init (second : Int) : EventLoop where
  channels := fun _ => ⟨-1, false, 0, false, false, false⟩
  live := fun _ => false
  removedEventChannels := []
  second := second
  attachIds := 0
  activeEvents := []
  waiting := true
  interest := fun _ => none
  attachments := 0
  current := fun _ => none
  deliveries := []

def setChannel (s : EventLoop) (channel : Nat) (c : EventChannel) : EventLoop :=
  { s with channels := Function.update s.channels channel c }

/-- `EPOLL_CTL_ADD`, which fails for a registered descriptor, and where `added` is false. -/
def addEventChannel (s : EventLoop) (channel : Nat) (added : Bool) : Bool :=
  added && (s.interest (s.channels channel).fd).isNone

/-- `EPOLL_CTL_DEL`, which fails for a descriptor that is not registered. -/
def removeEventChannel (s : EventLoop) (channel : Nat) : EventLoop :=
  let c := s.channels channel
  match s.interest c.fd with
  | none => s
  | some _ =>
    { s with interest := Function.update s.interest c.fd none
             removedEventChannels := c.attachId :: s.removedEventChannels }

/-- `EPOLL_CTL_MOD`, which gives the pointer anew. -/
def updateEventChannel (s : EventLoop) (channel : Nat) : EventLoop :=
  let c := s.channels channel
  match s.interest c.fd with
  | none => s
  | some (_, attachment) =>
    { s with interest := Function.update s.interest c.fd (some (channel, attachment)) }

/-- The seconds in the upper half of a `uint64_t`, a `uint32_t` counter in the lower. -/
def allocateAttachId (s : EventLoop) : Nat :=
  (toSizeT s.second * 4294967296 + s.attachIds) % 18446744073709551616

def detachEventLoop (s : EventLoop) (channel : Nat) : EventLoop :=
  if (s.channels channel).eventLoop then
    let s := s.removeEventChannel channel
    { s.setChannel channel { s.channels channel with eventLoop := false } with
      current := Function.update s.current channel none }
  else s

def attachEventLoop (s : EventLoop) (channel : Nat) (added : Bool) : EventLoop :=
  let s := s.detachEventLoop channel
  if s.addEventChannel channel added then
    let c := s.channels channel
    { s.setChannel channel { c with eventLoop := true, attachId := s.allocateAttachId } with
      attachIds := (s.attachIds + 1) % 4294967296
      interest := Function.update s.interest c.fd (some (channel, s.attachments))
      attachments := s.attachments + 1
      current := Function.update s.current channel (some s.attachments) }
  else s

def checkEventChannelRemoved (s : EventLoop) (channel : Nat) : Bool :=
  s.removedEventChannels.contains (s.channels channel).attachId

/-- The masks of an event, in the order `Loop` looks at them. -/
def Ready.kinds (r : Ready) : List EventKind :=
  (if r.read then [.read] else []) ++ (if r.write then [.write] else []) ++
    (if r.error then [.error] else [])

/-- The next check of `Loop`, and the callback that follows it. -/
def dispatch (s : EventLoop) : Option EventLoop :=
  match s.activeEvents with
  | [] => none
  | event :: rest =>
    match event.kinds with
    | [] => some { s with activeEvents := rest }
    | kind :: kinds =>
      if s.checkEventChannelRemoved event.channel then some { s with activeEvents := rest }
      else
        some { s with
          activeEvents := { event with kinds := kinds } :: rest
          deliveries :=
            if (s.channels event.channel).callback kind then
              ⟨event.attachment, event.channel, kind,
                s.current event.channel = some event.attachment⟩ :: s.deliveries
            else s.deliveries }

/-- Channels are used while they exist, and created where none does. The callbacks' actions may
come between any two checks of `Loop`. -/
def step (s : EventLoop) : Action → Option EventLoop
  | .create channel fd =>
    if s.live channel then none
    else some { s.setChannel channel ⟨fd, false, 0, false, false, false⟩ with
      live := Function.update s.live channel true }
  | .setCallback channel kind present =>
    if s.live channel then
      let s := s.setChannel channel ((s.channels channel).setCallback kind present)
      some (if (s.channels channel).eventLoop then s.updateEventChannel channel else s)
    else none
  | .setFileDescriptor channel fd =>
    if s.live channel then some (s.setChannel channel { s.channels channel with fd := fd })
    else none
  | .attach channel added =>
    if s.live channel then some (s.attachEventLoop channel added) else none
  | .detach channel => if s.live channel then some (s.detachEventLoop channel) else none
  | .destroy channel =>
    if s.live channel then
      some { s with live := Function.update s.live channel false
                    current := Function.update s.current channel none }
    else none
  | .overwrite channel memory =>
    if s.live channel then none else some (s.setChannel channel memory)
  | .close fd => some { s with interest := Function.update s.interest fd none }
  | .wait second ready =>
    if s.waiting ∧ ready.length ≤ 32 ∧ ∀ r ∈ ready, (s.interest r.fd).isSome then
      some { s with
        second := second
        waiting := false
        activeEvents := ready.filterMap fun r =>
          (s.interest r.fd).map fun (channel, attachment) => ⟨attachment, channel, r.kinds⟩ }
    else none
  | .dispatch => s.dispatch
  | .clear =>
    if s.waiting = false ∧ s.activeEvents = [] then
      some { s with removedEventChannels := [], waiting := true }
    else none

/-- An event with a mask still to be looked at names the channel. -/
def Pending (s : EventLoop) (channel : Nat) : Prop :=
  ∃ event ∈ s.activeEvents, event.channel = channel ∧ event.kinds ≠ []

instance (s : EventLoop) (channel : Nat) : Decidable (s.Pending channel) := by
  unfold Pending
  infer_instance

/-- Detaching tells the loop, or there is nothing to tell. -/
def DetachGuard (s : EventLoop) (channel : Nat) : Prop :=
  (s.channels channel).eventLoop = true → s.Pending channel →
    (s.interest (s.channels channel).fd).isSome = true

/-- While events for a channel are pending, its address is not attached again, given to a new
channel or written over, its descriptor is not closed before it is detached, and it is detached
before it is destroyed. -/
def ReuseGuard (s : EventLoop) : Action → Prop
  | .create channel _ => s.Pending channel → 0 ∈ s.removedEventChannels
  | .setCallback channel _ _ => (s.channels channel).eventLoop = true →
      ∀ entry ∈ s.interest (s.channels channel).fd, entry.1 = channel
  | .setFileDescriptor channel _ => (s.channels channel).eventLoop = false
  | .attach channel added => s.DetachGuard channel ∧
      (s.Pending channel → (s.detachEventLoop channel).addEventChannel channel added = false)
  | .detach channel => s.DetachGuard channel
  | .destroy channel => (s.channels channel).eventLoop = true →
      ¬ s.Pending channel ∧ ∀ entry ∈ s.interest (s.channels channel).fd, entry.1 ≠ channel
  | .overwrite channel memory => s.Pending channel → memory.attachId ∈ s.removedEventChannels
  | _ => True

instance (s : EventLoop) (a : Action) : Decidable (s.ReuseGuard a) := by
  cases a <;> unfold ReuseGuard <;> (try unfold DetachGuard) <;> infer_instance

/-- The kernel knows only channels that are attached, by their descriptors, and an event that may
still be delivered is of an attachment that lasts or would be found removed. -/
structure Consistent (s : EventLoop) : Prop where
  registered : ∀ fd channel attachment, s.interest fd = some (channel, attachment) →
    s.current channel = some attachment ∧ (s.channels channel).fd = fd
  current : ∀ channel, s.current channel ≠ none →
    s.live channel = true ∧ (s.channels channel).eventLoop = true
  covered : ∀ event ∈ s.activeEvents, event.kinds ≠ [] →
    s.current event.channel = some event.attachment ∨
      (s.channels event.channel).attachId ∈ s.removedEventChannels
  deliveries : ∀ d ∈ s.deliveries, d.attached = true

variable {s s' : EventLoop} {channel : Nat}

theorem Consistent.not_registered (h : s.Consistent) (hcurrent : s.current channel = none)
    {fd : Int} {attachment : Nat} : s.interest fd ≠ some (channel, attachment) := by
  intro hregistered
  rw [(h.registered fd channel attachment hregistered).1] at hcurrent
  cases hcurrent

/-- New memory for a channel that is not attached, where it leaves no pending event uncovered. -/
theorem Consistent.setChannel (h : s.Consistent) (hcurrent : s.current channel = none)
    {c : EventChannel} (hpending : s.Pending channel → c.attachId ∈ s.removedEventChannels) :
    (s.setChannel channel c).Consistent where
  registered fd channel' attachment hregistered := by
    have hne : channel' ≠ channel := by
      rintro rfl
      exact h.not_registered hcurrent hregistered
    have hold := h.registered fd channel' attachment hregistered
    refine ⟨hold.1, ?_⟩
    show (Function.update s.channels channel c channel').fd = fd
    rw [Function.update_of_ne hne]
    exact hold.2
  current channel' hsome := by
    have hne : channel' ≠ channel := by
      rintro rfl
      exact hsome hcurrent
    have hold := h.current channel' hsome
    refine ⟨hold.1, ?_⟩
    show (Function.update s.channels channel c channel').eventLoop = true
    rw [Function.update_of_ne hne]
    exact hold.2
  covered event hevent hkinds := by
    rcases h.covered event hevent hkinds with hlasts | hremoved
    · exact Or.inl hlasts
    · refine Or.inr ?_
      show (Function.update s.channels channel c event.channel).attachId ∈ _
      by_cases hsame : event.channel = channel
      · rw [hsame, Function.update_self]
        exact hpending ⟨event, hevent, hsame, hkinds⟩
      · rw [Function.update_of_ne hsame]
        exact hremoved
  deliveries := h.deliveries

theorem setChannel_channels (s : EventLoop) (channel : Nat) (c : EventChannel) :
    (s.setChannel channel c).channels channel = c := Function.update_self _ _ _

theorem setCallback_frame (c : EventChannel) (kind : EventKind) (present : Bool) :
    (c.setCallback kind present).fd = c.fd ∧
      (c.setCallback kind present).eventLoop = c.eventLoop ∧
      (c.setCallback kind present).attachId = c.attachId := by
  cases kind <;> exact ⟨rfl, rfl, rfl⟩

/-- The pointer given anew is the one that was given, unless descriptors are shared. -/
theorem updateEventChannel_eq
    (h : ∀ entry ∈ s.interest (s.channels channel).fd, entry.1 = channel) :
    s.updateEventChannel channel = s := by
  unfold updateEventChannel
  dsimp only
  split
  · rfl
  · rename_i channel' attachment hentry
    have hsame : channel' = channel := h _ hentry
    rw [hsame] at hentry
    rw [← hentry, Function.update_eq_self]

/-- New callbacks change nothing of what is looked at. -/
theorem Consistent.setCallback (h : s.Consistent) (channel : Nat) (kind : EventKind)
    (present : Bool) :
    (s.setChannel channel ((s.channels channel).setCallback kind present)).Consistent := by
  have same (channel' : Nat) :
      let c := Function.update s.channels channel
        ((s.channels channel).setCallback kind present) channel'
      c.fd = (s.channels channel').fd ∧ c.eventLoop = (s.channels channel').eventLoop ∧
        c.attachId = (s.channels channel').attachId := by
    by_cases hsame : channel' = channel
    · subst hsame
      rw [Function.update_self]
      exact setCallback_frame _ kind present
    · rw [Function.update_of_ne hsame]
      exact ⟨rfl, rfl, rfl⟩
  refine ⟨fun fd channel' attachment hregistered => ?_, fun channel' hsome => ?_,
    fun event hevent hkinds => ?_, h.deliveries⟩
  · have hold := h.registered fd channel' attachment hregistered
    exact ⟨hold.1, (same channel').1.trans hold.2⟩
  · have hold := h.current channel' hsome
    exact ⟨hold.1, (same channel').2.1.trans hold.2⟩
  · rcases h.covered event hevent hkinds with hlasts | hremoved
    · exact Or.inl hlasts
    · exact Or.inr ((same event.channel).2.2 ▸ hremoved)

/-- The end of an attachment that leaves the kernel without it, and no event of it uncovered. -/
theorem Consistent.ended (h : s.Consistent) (channel : Nat) (live : Nat → Bool)
    (interest : Int → Option (Nat × Nat)) (removed : List Nat)
    (hlive : ∀ channel', channel' ≠ channel → live channel' = s.live channel')
    (hinterest : ∀ fd entry, interest fd = some entry → s.interest fd = some entry ∧
      entry.1 ≠ channel)
    (hremoved : ∀ id ∈ s.removedEventChannels, id ∈ removed)
    (hpending : s.Pending channel → (s.channels channel).attachId ∈ removed) :
    Consistent { s with live := live, interest := interest, removedEventChannels := removed,
                        current := Function.update s.current channel none } where
  registered fd channel' attachment hregistered := by
    obtain ⟨hold, hne⟩ := hinterest fd _ hregistered
    have hcurrent := h.registered fd channel' attachment hold
    refine ⟨?_, hcurrent.2⟩
    show Function.update s.current channel none channel' = some attachment
    rw [Function.update_of_ne hne]
    exact hcurrent.1
  current channel' hsome := by
    have hne : channel' ≠ channel := by
      rintro rfl
      exact hsome (Function.update_self _ _ _)
    have hold : s.current channel' ≠ none := by
      have hupdated : Function.update s.current channel none channel' ≠ none := hsome
      rwa [Function.update_of_ne hne] at hupdated
    show live channel' = true ∧ (s.channels channel').eventLoop = true
    rw [hlive channel' hne]
    exact h.current channel' hold
  covered event hevent hkinds := by
    show Function.update s.current channel none event.channel = some event.attachment ∨
      (s.channels event.channel).attachId ∈ removed
    by_cases hsame : event.channel = channel
    · rw [hsame]
      exact Or.inr (hpending ⟨event, hevent, hsame, hkinds⟩)
    · rw [Function.update_of_ne hsame]
      rcases h.covered event hevent hkinds with hlasts | hgone
      · exact Or.inl hlasts
      · exact Or.inr (hremoved _ hgone)
  deliveries := h.deliveries

/-- The pending events of a channel that is not attached are covered by its attach id. -/
theorem Consistent.pending_removed (h : s.Consistent) (hcurrent : s.current channel = none)
    (hpending : s.Pending channel) :
    (s.channels channel).attachId ∈ s.removedEventChannels := by
  obtain ⟨event, hevent, hchannel, hkinds⟩ := hpending
  rcases h.covered event hevent hkinds with hlasts | hremoved
  · rw [hchannel, hcurrent] at hlasts
    cases hlasts
  · rwa [hchannel] at hremoved

theorem detach_consistent (h : s.Consistent) (guarded : s.DetachGuard channel) :
    (s.detachEventLoop channel).Consistent ∧
      (s.detachEventLoop channel).current channel = none := by
  unfold detachEventLoop
  split
  · rename_i hattached
    have hcurrent : Function.update s.current channel none channel = none :=
      Function.update_self _ _ _
    unfold removeEventChannel
    dsimp only
    cases hinterest : s.interest (s.channels channel).fd with
    | none =>
      have ended := h.ended channel s.live s.interest s.removedEventChannels
        (fun _ _ => rfl)
        (fun fd entry hentry => ⟨hentry, fun hsame => by
          rw [← (h.registered fd entry.1 entry.2 hentry).2, hsame] at hentry
          rw [hinterest] at hentry
          cases hentry⟩)
        (fun _ hid => hid)
        (fun hpending => by
          have hsome := guarded hattached hpending
          rw [hinterest] at hsome
          cases hsome)
      exact ⟨ended.setChannel hcurrent (ended.pending_removed hcurrent), hcurrent⟩
    | some entry =>
      have ended := h.ended channel s.live
        (Function.update s.interest (s.channels channel).fd none)
        ((s.channels channel).attachId :: s.removedEventChannels) (fun _ _ => rfl)
        (fun fd entry hentry => by
          by_cases hfd : fd = (s.channels channel).fd
          · rw [hfd, Function.update_self] at hentry
            cases hentry
          · rw [Function.update_of_ne hfd] at hentry
            refine ⟨hentry, fun hsame => hfd ?_⟩
            rw [← (h.registered fd entry.1 entry.2 hentry).2, hsame])
        (fun _ hid => List.mem_cons_of_mem _ hid) (fun _ => List.mem_cons_self)
      exact ⟨ended.setChannel hcurrent (ended.pending_removed hcurrent), hcurrent⟩
  · rename_i hdetached
    refine ⟨h, ?_⟩
    by_contra hsome
    exact hdetached (h.current channel hsome).2

theorem detach_frame (s : EventLoop) (channel : Nat) :
    (s.detachEventLoop channel).activeEvents = s.activeEvents ∧
      (s.detachEventLoop channel).live = s.live := by
  unfold detachEventLoop removeEventChannel
  split
  · dsimp only
    split <;> exact ⟨rfl, rfl⟩
  · exact ⟨rfl, rfl⟩

/-- A new attachment of a channel no pending event names. -/
theorem Consistent.attached (h : s.Consistent) (hlive : s.live channel = true)
    (hcurrent : s.current channel = none) (hpending : ¬ s.Pending channel) (attachId : Nat) :
    Consistent { s.setChannel channel
        { s.channels channel with eventLoop := true, attachId := attachId } with
      attachIds := (s.attachIds + 1) % 4294967296
      interest := Function.update s.interest (s.channels channel).fd
        (some (channel, s.attachments))
      attachments := s.attachments + 1
      current := Function.update s.current channel (some s.attachments) } where
  registered fd channel' attachment hregistered := by
    show Function.update s.current channel (some s.attachments) channel' = some attachment ∧
      (Function.update s.channels channel _ channel').fd = fd
    by_cases hfd : fd = (s.channels channel).fd
    · subst hfd
      cases (Function.update_self _ _ _).symm.trans hregistered
      rw [Function.update_self, Function.update_self]
      exact ⟨rfl, rfl⟩
    · have hold : s.interest fd = some (channel', attachment) :=
        (Function.update_of_ne hfd _ _).symm.trans hregistered
      have hne : channel' ≠ channel := by
        rintro rfl
        exact h.not_registered hcurrent hold
      rw [Function.update_of_ne hne, Function.update_of_ne hne]
      exact h.registered fd channel' attachment hold
  current channel' hsome := by
    show s.live channel' = true ∧ (Function.update s.channels channel _ channel').eventLoop = true
    by_cases hsame : channel' = channel
    · subst hsame
      rw [Function.update_self]
      exact ⟨hlive, rfl⟩
    · rw [Function.update_of_ne hsame]
      refine h.current channel' fun hnone => hsome ?_
      exact (Function.update_of_ne hsame _ _).trans hnone
  covered event hevent hkinds := by
    have hne : event.channel ≠ channel := fun hsame => hpending ⟨event, hevent, hsame, hkinds⟩
    show Function.update s.current channel _ event.channel = some event.attachment ∨
      (Function.update s.channels channel _ event.channel).attachId ∈ _
    rw [Function.update_of_ne hne, Function.update_of_ne hne]
    exact h.covered event hevent hkinds
  deliveries := h.deliveries

/-- `Loop` runs a callback only where the event's attachment lasts. -/
theorem dispatch_consistent (h : s.Consistent) (hstep : s.dispatch = some s') : s'.Consistent := by
  unfold dispatch at hstep
  split at hstep
  · cases hstep
  · rename_i event rest hactive
    have hrest : ∀ e ∈ rest, e ∈ s.activeEvents := fun e he => by
      rw [hactive]
      exact List.mem_cons_of_mem _ he
    have hevent : event ∈ s.activeEvents := by
      rw [hactive]
      exact List.mem_cons_self
    split at hstep
    · cases hstep
      exact { h with covered := fun e he => h.covered e (hrest e he) }
    · rename_i kind kinds hkinds
      split at hstep
      · cases hstep
        exact { h with covered := fun e he => h.covered e (hrest e he) }
      · rename_i hkept
        cases hstep
        have hcovered := h.covered event hevent (by rw [hkinds]; exact List.cons_ne_nil _ _)
        have hlasts : s.current event.channel = some event.attachment := by
          refine hcovered.resolve_right fun hremoved => hkept ?_
          exact List.contains_iff_mem.mpr hremoved
        refine ⟨h.registered, h.current, fun e he hremaining => ?_, fun d hd => ?_⟩
        · rcases List.mem_cons.mp he with rfl | he
          · exact Or.inl hlasts
          · exact h.covered e (hrest e he) hremaining
        · dsimp only at hd
          split at hd
          · rcases List.mem_cons.mp hd with rfl | hd
            · exact decide_eq_true hlasts
            · exact h.deliveries d hd
          · exact h.deliveries d hd

theorem step_consistent {a : Action} (h : s.Consistent) (guarded : s.ReuseGuard a)
    (hstep : s.step a = some s') : s'.Consistent := by
  cases a with
  | create channel fd =>
    rw [step] at hstep
    split at hstep
    · cases hstep
    · rename_i hfree
      cases hstep
      have hcurrent : s.current channel = none := by
        by_contra hsome
        exact hfree (h.current channel hsome).1
      have created := h.setChannel hcurrent (c := ⟨fd, false, 0, false, false, false⟩) guarded
      refine { created with current := fun channel' hsome => ?_ }
      have hne : channel' ≠ channel := by
        rintro rfl
        exact hsome hcurrent
      show Function.update s.live channel true channel' = true ∧ _
      rw [Function.update_of_ne hne]
      exact created.current channel' hsome
  | setCallback channel kind present =>
    rw [step] at hstep
    split at hstep
    · have set := h.setCallback channel kind present
      obtain ⟨hfd, hloop, -⟩ := setCallback_frame (s.channels channel) kind present
      dsimp only at hstep
      split at hstep
      · rename_i hattached
        cases hstep
        rw [updateEventChannel_eq]
        · exact set
        · rw [setChannel_channels] at hattached ⊢
          rw [hloop] at hattached
          rw [hfd]
          exact guarded hattached
      · cases hstep
        exact set
    · cases hstep
  | setFileDescriptor channel fd =>
    rw [step] at hstep
    split at hstep
    · cases hstep
      have hcurrent : s.current channel = none := by
        by_contra hsome
        have hattached := (h.current channel hsome).2
        rw [guarded] at hattached
        cases hattached
      exact h.setChannel hcurrent (h.pending_removed hcurrent)
    · cases hstep
  | attach channel added =>
    rw [step] at hstep
    split at hstep
    · rename_i hlive
      cases hstep
      obtain ⟨detached, hcurrent⟩ := detach_consistent h guarded.1
      obtain ⟨hactive, hlives⟩ := detach_frame s channel
      unfold attachEventLoop
      dsimp only
      split
      · rename_i hadded
        refine detached.attached (by rw [hlives, hlive]) hcurrent (fun hpending => ?_) _
        have hnot := guarded.2 (by unfold Pending at hpending; rwa [hactive] at hpending)
        rw [hadded] at hnot
        cases hnot
      · exact detached
    · cases hstep
  | detach channel =>
    rw [step] at hstep
    split at hstep
    · cases hstep
      exact (detach_consistent h guarded).1
    · cases hstep
  | destroy channel =>
    rw [step] at hstep
    split at hstep
    · cases hstep
      have unregistered : ∀ fd entry, s.interest fd = some entry → entry.1 ≠ channel := by
        rintro fd ⟨channel', attachment⟩ hentry rfl
        have hregistered := h.registered fd channel' attachment hentry
        have hattached := (h.current channel' (by rw [hregistered.1]; exact Option.some_ne_none _)).2
        rw [← hregistered.2] at hentry
        exact (guarded hattached).2 _ hentry rfl
      refine h.ended channel _ _ _ (fun channel' hne => Function.update_of_ne hne _ _)
        (fun fd entry hentry => ⟨hentry, unregistered fd entry hentry⟩) (fun _ hid => hid)
        (fun hpending => ?_)
      refine h.pending_removed ?_ hpending
      by_contra hsome
      exact (guarded (h.current channel hsome).2).1 hpending
    · cases hstep
  | overwrite channel memory =>
    rw [step] at hstep
    split at hstep
    · cases hstep
    · rename_i hfree
      cases hstep
      refine h.setChannel ?_ guarded
      by_contra hsome
      exact hfree (h.current channel hsome).1
  | close fd =>
    rw [step] at hstep
    cases hstep
    refine ⟨fun fd' channel attachment hregistered => ?_, h.current, h.covered, h.deliveries⟩
    have hne : fd' ≠ fd := by
      rintro rfl
      cases (Function.update_self _ _ _).symm.trans hregistered
    exact h.registered fd' channel attachment ((Function.update_of_ne hne _ _).symm.trans hregistered)
  | wait second ready =>
    rw [step] at hstep
    split at hstep
    · cases hstep
      refine ⟨h.registered, h.current, fun event hevent _ => ?_, h.deliveries⟩
      obtain ⟨r, _, hr⟩ := List.mem_filterMap.mp hevent
      obtain ⟨⟨channel, attachment⟩, hentry, rfl⟩ := Option.map_eq_some_iff.mp hr
      exact Or.inl (h.registered r.fd channel attachment hentry).1
    · cases hstep
  | dispatch => exact dispatch_consistent h hstep
  | clear =>
    rw [step] at hstep
    split at hstep
    · rename_i hdone
      cases hstep
      refine ⟨h.registered, h.current, fun event hevent => ?_, h.deliveries⟩
      have hnone : event ∈ s.activeEvents := hevent
      rw [hdone.2] at hnone
      cases hnone
    · cases hstep

/-- As long as the actions of the callbacks meet `ReuseGuard`, no stale event is delivered. -/
theorem no_stale_delivery {second : Int} {s : EventLoop}
    (hs : Reaches step ReuseGuard (init second) s) : ∀ d ∈ s.deliveries, d.attached = true := by
  have start : (init second).Consistent := by
    refine ⟨fun _ _ _ h => ?_, fun _ h => absurd rfl h, fun _ h => ?_, fun _ h => ?_⟩
    · cases h
    · cases h
    · cases h
  exact (hs.invariant start fun s a s' h guarded hstep =>
    step_consistent h guarded hstep).deliveries

/-- Two channels with a read callback, attached with the descriptors 5 and 6, and an event for
each. -/
def twoEvents : List Action :=
  [.create 0 5, .setCallback 0 .read true, .attach 0 true,
    .create 1 6, .setCallback 1 .read true, .attach 1 true,
    .wait 1 [⟨5, true, false, false⟩, ⟨6, true, false, false⟩]]

/-- The first channel's callback destroys the second, whose event is dropped. -/
def destroySecond : List Action :=
  twoEvents ++ [.dispatch, .detach 1, .destroy 1, .dispatch, .dispatch, .clear]

theorem no_stale_delivery_destroyed :
    ∃ s, run step destroySecond (init 0) = some s ∧ s.deliveries = [⟨0, 0, .read, true⟩] ∧
      ∀ d ∈ s.deliveries, d.attached = true := by
  obtain ⟨s, hs, hdeliveries⟩ := Option.map_eq_some_iff.mp
    (by decide +kernel : (run step destroySecond (init 0)).map deliveries =
      some [⟨0, 0, .read, true⟩])
  exact ⟨s, hs, hdeliveries, no_stale_delivery (Reaches.refl.run (by decide +kernel) hs)⟩

/-- It detaches the second and attaches it again. -/
def reattachSecond : List Action :=
  twoEvents ++ [.dispatch, .detach 1, .attach 1 true, .dispatch, .dispatch]

/-- It destroys the second, and a new channel gets its address. -/
def replaceSecond : List Action :=
  twoEvents ++ [.dispatch, .detach 1, .destroy 1, .close 6, .create 1 7,
    .setCallback 1 .read true, .attach 1 true, .dispatch, .dispatch]

/-- Both ways the event of the ended attachment runs the callback of the new one. -/
theorem reused_channel_gets_stale_event :
    (¬ ∀ s, Reaches step (fun _ _ => True) (init 0) s → ∀ d ∈ s.deliveries, d.attached = true) ∧
      (run step reattachSecond (init 0)).map deliveries =
        some [⟨1, 1, .read, false⟩, ⟨0, 0, .read, true⟩] ∧
      (run step replaceSecond (init 0)).map deliveries =
        some [⟨1, 1, .read, false⟩, ⟨0, 0, .read, true⟩] := by
  have hreattach : (run step reattachSecond (init 0)).map deliveries =
      some [⟨1, 1, .read, false⟩, ⟨0, 0, .read, true⟩] := by decide +kernel
  refine ⟨fun hall => ?_, hreattach, by decide +kernel⟩
  obtain ⟨s, hs, hdeliveries⟩ := Option.map_eq_some_iff.mp hreattach
  have hbad := hall s (reaches_of_run hs) ⟨1, 1, .read, false⟩ (by rw [hdeliveries]; simp)
  cases hbad

end EventLoop

end Mysya
