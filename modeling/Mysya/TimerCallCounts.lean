import Mysya.TimerPeriods

/-!
# How often a timer calls back

`call_times_` and the callbacks already run always add up to the count a timer was created
with, and the timer goes with its last callback. Here a callback may also call `OnExpired`:
the loops it was called from are suspended until that returns.
-/

namespace Mysya

open GuardedRuns TimingWheel

namespace WheelMachine

/-- What is left to call and what has been called make up `k`; a negative `k` never changes. -/
structure Counted (id k : Int) (s : WheelMachine) : Prop where
  issued : id ≤ s.wheel.timerIds
  bounded : 1 ≤ k → ((s.firings id).length : Int) ≤ k
  timer : ∀ t, s.wheel.timers id = some t →
    k < 0 ∧ t.callTimes = k ∨ 1 ≤ t.callTimes ∧ t.callTimes + (s.firings id).length = k

/-- The timer is gone because it has made all its calls. -/
def Exhausted (id k : Int) (s : WheelMachine) : Prop :=
  s.wheel.timers id = none → 1 ≤ k ∧ ((s.firings id).length : Int) = k

variable {s s' : WheelMachine} {id k : Int} {a : Action}

theorem setCurrentBucket_registry {w : TimingWheel} (r : Registry none w) (i : Nat) {b : Nat}
    (hb : b < kTimingWheelBucketNum i) : Registry none (w.setCurrentBucket i b) := by
  have hbuckets : ∀ j, ((w.setCurrentBucket i b).wheels j).buckets = (w.wheels j).buckets := by
    intro j
    by_cases hj : j = i
    · subst hj
      simp [setCurrentBucket, setWheel]
    · simp [setCurrentBucket, setWheel, hj]
  exact { r with
    ring := fun j => by
      by_cases hj : j = i
      · subst hj
        simpa [setCurrentBucket, setWheel] using hb
      · simpa [setCurrentBucket, setWheel, hj] using r.ring j
    nodup := fun j c => by rw [hbuckets]; exact r.nodup j c
    live := fun j c id hid => by rw [hbuckets] at hid; exact r.live j c id hid
    listed := fun id t ht hne => by rw [hbuckets]; exact r.listed id t ht hne }

theorem Move.registry (h : Move s a s') (r : Registry none s.wheel) : Registry none s'.wheel := by
  cases h with
  | op o hout => exact apply_registry r o
  | front left i b id' rest t hphase hbucket ht =>
    obtain ⟨calls, hwheel⟩ := expireFront_wheel s left i b rest t
    have hexpire := expire_registry (pop_registry r hbucket) ht s.now
    rw [hwheel]
    exact { hexpire with }
  | wheel left i hphase hi =>
    exact setCurrentBucket_registry r i (Nat.mod_lt _ (bucketNum_pos i))
  | setTimestamp timestamp hout => exact { r with }
  | onExpired now hphase => exact { r with }
  | finish hphase => exact { r with }
  | begin left hphase => exact { r with }
  | last left i hphase hi => exact r
  | stop left i b hphase hempty hstop => exact r
  | carry left i b hphase hempty hcont => exact r
  | ret left i b hphase => exact r

/-- A step with neither a callback of the timer nor a change to it. -/
theorem Counted.of_eq (h : Counted id k s) (hids : s.wheel.timerIds ≤ s'.wheel.timerIds)
    (htimers : s'.wheel.timers id = s.wheel.timers id) (hfirings : s'.firings id = s.firings id) :
    Counted id k s' := by
  constructor
  · exact Int.le_trans h.issued hids
  · rw [hfirings]
    exact h.bounded
  · rw [htimers, hfirings]
    exact h.timer

theorem Exhausted.of_eq (h : Exhausted id k s)
    (htimers : s'.wheel.timers id = s.wheel.timers id) (hfirings : s'.firings id = s.firings id) :
    Exhausted id k s' := by
  rw [Exhausted, htimers, hfirings]
  exact h

/-- A placement leaves the calls of the timer as they are. -/
theorem place_callTimes (w : TimingWheel) (t : Timer) (n : Int) :
    (w.place t n).timerIds = w.timerIds ∧
      ∃ u, (w.place t n).timers t.id = some u ∧ u.callTimes = t.callTimes := by
  obtain ⟨wheels, j, c, v, hshape⟩ := place_shape w t n
  rw [hshape]
  exact ⟨rfl, _, Function.update_self _ _ _, rfl⟩

/-- A timer that is there again with the calls it had, or one fewer after a callback. -/
theorem counted_placed {t : Timer} (h : Counted id k s) (ht : s.wheel.timers id = some t)
    (hids : s'.wheel.timerIds = s.wheel.timerIds)
    (hplaced : ∃ u, s'.wheel.timers id = some u ∧
      (u.callTimes = t.callTimes ∧ (t.callTimes < 0 ∨ s'.firings id = s.firings id) ∨
        1 < t.callTimes ∧ u.callTimes = t.callTimes - 1 ∧
          (s'.firings id).length = (s.firings id).length + 1)) :
    Counted id k s' ∧ Exhausted id k s' := by
  obtain ⟨u, hu, hcalls⟩ := hplaced
  have htimer := h.timer t ht
  refine ⟨⟨hids ▸ h.issued, ?_, ?_⟩, ?_⟩
  · intro hk
    have hbounded := h.bounded hk
    rcases hcalls with ⟨_, hforever | hsame⟩ | ⟨_, _, hmore⟩
    · omega
    · rw [hsame]
      exact hbounded
    · omega
  · intro u' hu'
    rw [hu] at hu'
    cases hu'
    rcases hcalls with ⟨hcalls, hforever | hsame⟩ | ⟨_, _, hmore⟩
    · omega
    · rw [hcalls, hsame]
      exact htimer
    · omega
  · intro hnone
    rw [hu] at hnone
    cases hnone

/-- The round of the drain loop that takes the timer itself. -/
theorem front_counted {left i b : Nat} {rest : List Int} {t : Timer} (h : Counted id k s)
    (ht : s.wheel.timers id = some t) (hid : t.id = id) (hwheel : t.wheel < kTimingWheelNum)
    (hs' : Expiry s left i b rest t s') : Counted id k s' ∧ Exhausted id k s' := by
  have htimer := h.timer t ht
  cases hs' with
  | undone hundo =>
    obtain ⟨hids, u, hu, hcalls⟩ :=
      place_callTimes (s.wheel.setBucket i b rest) t t.undoTickCounts
    exact counted_placed h ht hids ⟨u, hid ▸ hu, Or.inl ⟨hcalls, Or.inr rfl⟩⟩
  | early hnone hearly =>
    obtain ⟨hids, u, hu, hcalls⟩ := place_callTimes ((s.wheel.setBucket i b rest).logCheck t)
      { t with undoTickCounts := 1 } 1
    exact counted_placed h ht hids ⟨u, hid ▸ hu, Or.inl ⟨hcalls, Or.inr rfl⟩⟩
  | again v hnone hdue hv =>
    obtain ⟨hids, u, hu, hcalls⟩ := place_callTimes ((s.wheel.setBucket i b rest).logCheck t) v
      t.expireTickCounts
    have hvid : v.id = id := by
      rcases hv with ⟨_, rfl⟩ | ⟨_, rfl⟩
      · exact hid
      · exact hid
    refine counted_placed h ht hids ⟨u, hvid ▸ hu, ?_⟩
    rcases hv with ⟨hforever, rfl⟩ | ⟨hagain, rfl⟩
    · exact Or.inl ⟨hcalls, Or.inl hforever⟩
    · exact Or.inr ⟨hagain, hcalls, by simp [WheelMachine.firings, hid]⟩
  | ended hnone hdue hlow hhigh =>
    have hlength : (WheelMachine.firings { s with
        wheel := (((s.wheel.setBucket i b rest).logCheck t).removeTimer t.id).logCall t
        phase := .callback left i b
        fired := ⟨s.now, s.wheel.debugTickCounts, t.id⟩ :: s.fired } id).length =
          (s.firings id).length + 1 := by
      simp [WheelMachine.firings, hid]
    have habsent : (((s.wheel.setBucket i b rest).logCheck t).removeTimer t.id).timers id =
        none := by
      have hmem : ((s.wheel.setBucket i b rest).logCheck t).timers t.id = some t := hid ▸ ht
      rw [removeTimer_some hmem hwheel, hid]
      exact Function.update_self _ _ _
    obtain ⟨wheels, timers, hshape⟩ :=
      removeTimer_shape ((s.wheel.setBucket i b rest).logCheck t) t.id
    refine ⟨⟨?_, ?_, ?_⟩, ?_⟩
    · show id ≤ (((s.wheel.setBucket i b rest).logCheck t).removeTimer t.id).timerIds
      rw [hshape]
      exact h.issued
    · intro hk
      rw [hlength]
      omega
    · intro u hu
      exact absurd (habsent.symm.trans hu) (by simp)
    · intro _
      rw [hlength]
      omega

theorem op_counted (r : Registry none s.wheel) (o : TimerOp) (latest : Timestamp)
    (h : Counted id k s) :
    Counted id k { s with wheel := s.wheel.apply o, latest := latest } ∧
      (o ≠ .removeTimer id → Exhausted id k s →
        Exhausted id k { s with wheel := s.wheel.apply o, latest := latest }) := by
  have hids := apply_timerIds_le s.wheel o
  have hkept : (s.wheel.apply o).timers id = s.wheel.timers id →
      Counted id k { s with wheel := s.wheel.apply o, latest := latest } ∧
        (o ≠ .removeTimer id → Exhausted id k s →
          Exhausted id k { s with wheel := s.wheel.apply o, latest := latest }) :=
    fun htimers => ⟨h.of_eq hids htimers rfl, fun _ hgone => hgone.of_eq htimers rfl⟩
  cases ht : s.wheel.timers id with
  | none => exact hkept ((apply_absent ht h.issued o).1.trans ht.symm)
  | some t =>
    by_cases hremoved : o = .removeTimer id
    · subst hremoved
      have habsent : (s.wheel.removeTimer id).timers id = none := by
        rw [removeTimer_some ht (r.sound id t ht).wheel_lt]
        exact Function.update_self _ _ _
      refine ⟨⟨Int.le_trans h.issued hids, h.bounded, ?_⟩, fun hne => absurd rfl hne⟩
      intro u hu
      exact absurd (habsent.symm.trans hu) (by simp)
    · have hlive := applyAll_timers_of_some [o] (by simpa using Ne.symm hremoved) ht
      exact hkept (hlive.trans ht.symm)

theorem Move.counted (h : Move s a s') (r : Registry none s.wheel) (hc : Counted id k s) :
    Counted id k s' ∧ (a ≠ .op (.removeTimer id) → Exhausted id k s → Exhausted id k s') := by
  cases h with
  | op o hout =>
    obtain ⟨hcounted, hgone⟩ := op_counted r o (TimerOp.latest s.latest o) hc
    exact ⟨hcounted, fun hne => hgone fun ho => hne (congrArg Action.op ho)⟩
  | front left i b id' rest t hphase hbucket ht =>
    have hsound := r.sound id' t ht
    by_cases hfront : id' = id
    · subst hfront
      obtain ⟨hcounted, hgone⟩ := front_counted hc ht hsound.named hsound.wheel_lt
        (expiry s left i b rest t)
      exact ⟨hcounted, fun _ _ => hgone⟩
    · have hne : id ≠ t.id := by
        rw [hsound.named]
        exact Ne.symm hfront
      have htimers := expireFront_timers_other s left i b rest t hne
      have hfirings := expireFront_firings_other s left i b rest t hne
      have hids := (Move.front left i b id' rest t hphase hbucket ht).timerIds_le
      exact ⟨hc.of_eq hids htimers hfirings, fun _ hgone => hgone.of_eq htimers hfirings⟩
  | setTimestamp timestamp hout =>
    exact ⟨hc.of_eq (Int.le_refl _) rfl rfl, fun _ hgone => hgone.of_eq rfl rfl⟩
  | onExpired now hphase =>
    exact ⟨hc.of_eq (Int.le_refl _) rfl rfl, fun _ hgone => hgone.of_eq rfl rfl⟩
  | finish hphase =>
    exact ⟨hc.of_eq (Int.le_refl _) rfl rfl, fun _ hgone => hgone.of_eq rfl rfl⟩
  | begin left hphase =>
    exact ⟨hc.of_eq (Int.le_refl _) rfl rfl, fun _ hgone => hgone.of_eq rfl rfl⟩
  | wheel left i hphase hi =>
    exact ⟨hc.of_eq (Int.le_refl _) rfl rfl, fun _ hgone => hgone.of_eq rfl rfl⟩
  | last left i hphase hi =>
    exact ⟨hc.of_eq (Int.le_refl _) rfl rfl, fun _ hgone => hgone.of_eq rfl rfl⟩
  | stop left i b hphase hempty hstop =>
    exact ⟨hc.of_eq (Int.le_refl _) rfl rfl, fun _ hgone => hgone.of_eq rfl rfl⟩
  | carry left i b hphase hempty hcont =>
    exact ⟨hc.of_eq (Int.le_refl _) rfl rfl, fun _ hgone => hgone.of_eq rfl rfl⟩
  | ret left i b hphase =>
    exact ⟨hc.of_eq (Int.le_refl _) rfl rfl, fun _ hgone => hgone.of_eq rfl rfl⟩

end WheelMachine

/-! ## Calls of `OnExpired` from callbacks -/

/-- A wheel in the innermost call of `OnExpired`, and the outer calls with their timestamps,
each at the callback it was interrupted in. -/
structure NestedWheel where
  machine : WheelMachine
  suspended : List (Phase × Timestamp)

namespace NestedWheel

open WheelMachine

def start (tickMs : Int) (timestamp : Timestamp) : NestedWheel where
  machine := .start tickMs timestamp
  suspended := []

/-- The end of an inner call, back in the callback that made it. -/
def resume (m : WheelMachine) (phase : Phase) (now : Timestamp) : WheelMachine :=
  { m with wheel := { m.wheel with timestamp := m.now }, phase := phase, now := now }

/-- `OnExpired` may also be called in a callback, and then returns to it. -/
def step (s : NestedWheel) : Action → Option NestedWheel
  | .onExpired now =>
    match s.machine.phase with
    | .callback left i b =>
      some ⟨s.machine.enter now, (.callback left i b, s.machine.now) :: s.suspended⟩
    | _ => (s.machine.step (.onExpired now)).map fun m => ⟨m, s.suspended⟩
  | .next =>
    match s.machine.phase, s.suspended with
    | .ticks 0, (phase, now) :: outer => some ⟨resume s.machine phase now, outer⟩
    | _, _ => (s.machine.step .next).map fun m => ⟨m, s.suspended⟩
  | a => (s.machine.step a).map fun m => ⟨m, s.suspended⟩

variable {s s' : NestedWheel} {a : Action} {id k : Int}

/-- A step of the innermost call, or entering or leaving an inner one. -/
theorem step_cases (h : s.step a = some s') : Move s.machine a s'.machine ∨
    (∃ now, a = .onExpired now ∧ s'.machine = s.machine.enter now) ∨
    ∃ phase now, a = .next ∧ s'.machine = resume s.machine phase now := by
  have hinner : ∀ a', (s.machine.step a').map (fun m => (⟨m, s.suspended⟩ : NestedWheel)) =
      some s' → Move s.machine a' s'.machine := by
    intro a' hmap
    obtain ⟨m, hm, rfl⟩ := Option.map_eq_some_iff.mp hmap
    exact move_of_step hm
  cases a with
  | onExpired now =>
    simp only [step] at h
    split at h
    · cases h
      exact Or.inr (Or.inl ⟨now, rfl, rfl⟩)
    · exact Or.inl (hinner _ h)
  | next =>
    simp only [step] at h
    split at h
    · cases h
      exact Or.inr (Or.inr ⟨_, _, rfl, rfl⟩)
    · exact Or.inl (hinner _ h)
  | op o => exact Or.inl (hinner _ h)
  | setTimestamp timestamp => exact Or.inl (hinner _ h)
  | ret => exact Or.inl (hinner _ h)

theorem step_registry (h : s.step a = some s') (r : Registry none s.machine.wheel) :
    Registry none s'.machine.wheel := by
  rcases step_cases h with hmove | ⟨now, rfl, hmachine⟩ | ⟨phase, now, rfl, hmachine⟩
  · exact hmove.registry r
  · rw [hmachine]
    exact { r with }
  · rw [hmachine]
    exact { r with }

theorem step_counted (h : s.step a = some s') (r : Registry none s.machine.wheel)
    (hc : Counted id k s.machine) : Counted id k s'.machine ∧
      (a ≠ .op (.removeTimer id) → Exhausted id k s.machine → Exhausted id k s'.machine) := by
  rcases step_cases h with hmove | ⟨now, rfl, hmachine⟩ | ⟨phase, now, rfl, hmachine⟩
  · exact hmove.counted r hc
  · rw [hmachine]
    exact ⟨hc.of_eq (Int.le_refl _) rfl rfl, fun _ hgone => hgone.of_eq rfl rfl⟩
  · rw [hmachine]
    exact ⟨hc.of_eq (Int.le_refl _) rfl rfl, fun _ hgone => hgone.of_eq rfl rfl⟩

theorem step_issued (h : s.step a = some s') (r : Registry none s.machine.wheel)
    (issued : s.machine.Issued) : s'.machine.Issued := by
  rcases step_cases h with hmove | ⟨now, rfl, hmachine⟩ | ⟨phase, now, rfl, hmachine⟩
  · exact hmove.issued r issued
  · rw [hmachine]
    exact ⟨issued.timers, issued.fired⟩
  · rw [hmachine]
    exact ⟨issued.timers, issued.fired⟩

theorem step_gone (h : s.step a = some s') (r : Registry none s.machine.wheel)
    {past : List Firing} (gone : Gone id past s.machine) : Gone id past s'.machine := by
  rcases step_cases h with hmove | ⟨now, rfl, hmachine⟩ | ⟨phase, now, rfl, hmachine⟩
  · exact hmove.gone r gone
  · rw [hmachine]
    exact ⟨gone.absent, gone.spent, gone.silent⟩
  · rw [hmachine]
    exact ⟨gone.absent, gone.spent, gone.silent⟩

/-- A removal, at the top level or in a callback, takes the timer out. -/
theorem step_removed (h : s.step (.op (.removeTimer id)) = some s')
    (r : Registry none s.machine.wheel) (hc : Counted id k s.machine) :
    s'.machine.wheel.timers id = none := by
  obtain ⟨machine, suspended⟩ := s'
  rcases step_cases h with hmove | ⟨now, hop, _⟩ | ⟨phase, now, hop, _⟩
  · cases hmove with
    | op o hout =>
      cases ht : s.machine.wheel.timers id with
      | none => exact (apply_absent ht hc.issued (.removeTimer id)).1
      | some t =>
        show (s.machine.wheel.removeTimer id).timers id = none
        rw [removeTimer_some ht (r.sound id t ht).wheel_lt]
        exact Function.update_self _ _ _
  · cases hop
  · cases hop

/-- The counts through a run, and whether the timer has been removed in it. -/
theorem run_counted {acts : List Action} (hrun : run step acts s = some s')
    (r : Registry none s.machine.wheel) (hc : Counted id k s.machine) :
    Counted id k s'.machine ∧
      (.op (.removeTimer id) ∉ acts → Exhausted id k s.machine → Exhausted id k s'.machine) ∧
      (s.machine.wheel.timers id = none ∨ .op (.removeTimer id) ∈ acts →
        s'.machine.wheel.timers id = none) := by
  induction acts generalizing s with
  | nil =>
    cases hrun
    refine ⟨hc, fun _ hgone => hgone, ?_⟩
    rintro (hnone | hin)
    · exact hnone
    · cases hin
  | cons a acts ih =>
    obtain ⟨m, hm, hrun⟩ := Option.bind_eq_some_iff.mp hrun
    obtain ⟨hcm, hgone⟩ := step_counted hm r hc
    obtain ⟨hcounted, hexhausted, habsent⟩ := ih hrun (step_registry hm r) hcm
    refine ⟨hcounted, ?_, ?_⟩
    · intro hkept hbefore
      rw [List.mem_cons, not_or] at hkept
      exact hexhausted hkept.2 (hgone (Ne.symm hkept.1) hbefore)
    · intro hcase
      apply habsent
      rcases hcase with hnone | hin
      · exact Or.inl (step_gone hm r ⟨hnone, hc.issued, rfl⟩).absent
      · rcases List.mem_cons.mp hin with rfl | hlater
        · exact Or.inl (step_removed hm r hc)
        · exact Or.inr hlater

/-- Any run from the start up to a call of `AddTimer`. -/
theorem reaches_registry {tickMs : Int} (h : 1 ≤ tickMs) {origin : Timestamp}
    (hs : Reaches step (fun _ _ => True) (start tickMs origin) s) :
    Registry none s.machine.wheel ∧ s.machine.Issued := by
  have hissued : (start tickMs origin).machine.Issued := by
    constructor
    · intro id t ht
      cases ht
    · intro f hf
      cases hf
  exact hs.invariant (I := fun m => Registry none m.machine.wheel ∧ m.machine.Issued)
    ⟨(start_sound h origin).registry, hissued⟩
    (fun _ _ _ hm _ hstep => ⟨step_registry hstep hm.1, step_issued hstep hm.1 hm.2⟩)

/-- A timer has been called back at most as often as it was asked to be, it is there as long as
a call is left and nobody has removed it, and one that is called for ever goes only by
`RemoveTimer`. -/
theorem timer_call_counts {tickMs : Int} (h : 1 ≤ tickMs) (origin : Timestamp)
    {s added later : NestedWheel} (hs : Reaches step (fun _ _ => True) (start tickMs origin) s)
    {now : Timestamp} {expireMs callTimes : Int32}
    (hadd : s.step (.op (.addTimer now expireMs callTimes)) = some added) {id : Int}
    (hid : (s.machine.wheel.addTimer now expireMs.toInt callTimes.toInt).2 = id) (hpos : 0 < id)
    {acts : List Action} (hlater : run step acts added = some later) :
    (1 ≤ callTimes.toInt →
      ((later.machine.firings id).length : Int) ≤ callTimes.toInt ∧
      (later.machine.wheel.timers id ≠ none ↔
        ((later.machine.firings id).length : Int) < callTimes.toInt ∧
          .op (.removeTimer id) ∉ acts) ∧
      ∀ t, later.machine.wheel.timers id = some t →
        t.callTimes = callTimes.toInt - (later.machine.firings id).length) ∧
    (callTimes.toInt < 0 →
      (later.machine.wheel.timers id ≠ none ↔ .op (.removeTimer id) ∉ acts)) := by
  obtain ⟨registry, issued⟩ := reaches_registry h hs
  obtain ⟨hnext, happly⟩ := addTimer_added hid hpos
  obtain ⟨hids, t, ht, hcalls⟩ := place_callTimes
    { s.machine.wheel with timerIds := s.machine.wheel.timerIds + 1 }
    ⟨s.machine.wheel.timerIds + 1, now.add expireMs.toInt,
      expireTickCounts s.machine.wheel.tickMs expireMs.toInt, callTimes.toInt, 0, 0, 0⟩
    (expireTickCounts s.machine.wheel.tickMs expireMs.toInt)
  have hadded := step_registry hadd registry
  obtain ⟨m, hm, rfl⟩ := Option.map_eq_some_iff.mp hadd
  cases move_of_step hm with
  | op _ hout =>
    rw [← happly] at hids ht
    have hcalls : t.callTimes = callTimes.toInt := hcalls
    have hsilent : s.machine.firings id = [] := by
      simp only [firings, List.filter_eq_nil_iff, decide_eq_true_eq]
      intro f hf hsame
      have hspent := issued.fired f hf
      omega
    have hcounted : callTimes.toInt ≠ 0 → Counted id callTimes.toInt { s.machine with
        wheel := s.machine.wheel.apply (.addTimer now expireMs callTimes)
        latest := now } := by
      intro hk
      refine ⟨?_, ?_, ?_⟩
      · exact Int.le_of_eq (hnext.symm.trans hids.symm)
      · intro _
        show ((s.machine.firings id).length : Int) ≤ _
        rw [hsilent]
        exact Int.le_trans (by decide) ‹1 ≤ callTimes.toInt›
      · intro u hu
        have hsame : u = t := Option.some.inj (hu.symm.trans (hnext ▸ ht))
        show _ ∨ _ ∧ u.callTimes + ((s.machine.firings id).length : Int) = _
        rw [hsilent, hsame]
        rcases Int.lt_or_lt_of_ne hk with hneg | hone
        · exact Or.inl ⟨hneg, hcalls⟩
        · exact Or.inr ⟨by omega, by simpa using hcalls⟩
    have hexhausted : Exhausted id callTimes.toInt { s.machine with
        wheel := s.machine.wheel.apply (.addTimer now expireMs callTimes)
        latest := now } := by
      intro hnone
      exact absurd (hnone.symm.trans (hnext ▸ ht)) (by simp)
    constructor
    · intro hk
      obtain ⟨hlast, hgone, habsent⟩ := run_counted hlater hadded (hcounted (by omega))
      have hleft : ∀ t, later.machine.wheel.timers id = some t →
          1 ≤ t.callTimes ∧ t.callTimes = callTimes.toInt - (later.machine.firings id).length := by
        intro t ht
        have htimer := hlast.timer t ht
        omega
      refine ⟨hlast.bounded hk, ⟨?_, ?_⟩, fun t ht => (hleft t ht).2⟩
      · intro hlive
        obtain ⟨t, ht⟩ := Option.ne_none_iff_exists'.mp hlive
        have hcount := hleft t ht
        exact ⟨by omega, fun hin => hlive (habsent (Or.inr hin))⟩
      · rintro ⟨hfewer, hin⟩ hnone
        have hall := (hgone hin hexhausted hnone).2
        omega
    · intro hk
      obtain ⟨hlast, hgone, habsent⟩ := run_counted hlater hadded (hcounted (by omega))
      refine ⟨fun hlive hin => hlive (habsent (Or.inr hin)), fun hin hnone => ?_⟩
      have hall := (hgone hin hexhausted hnone).1
      omega

/-- Two callbacks, the second of which calls `OnExpired` again. -/
def twoCalls : List Action :=
  [.onExpired ⟨5, 10000000⟩, .next, .next, .next, .ret, .next, .next,
    .onExpired ⟨5, 20000000⟩, .next, .next, .next, .onExpired ⟨5, 20000000⟩]

theorem timer_call_counts_two :
    ∃ added later, (start 10 ⟨5, 0⟩).step (.op (.addTimer ⟨5, 0⟩ 10 2)) = some added ∧
      run step twoCalls added = some later ∧ later.machine.wheel.timers 1 = none ∧
      (later.machine.firings 1).length = 2 := by
  obtain ⟨added, hadded, hsome⟩ := Option.map_eq_some_iff.mp
    (by decide +kernel : ((start 10 ⟨5, 0⟩).step (.op (.addTimer ⟨5, 0⟩ 10 2))).map
      (fun s => (run step twoCalls s).map fun m => (m.machine.firings 1).length) = some (some 2))
  obtain ⟨later, hlater, hlength⟩ := Option.map_eq_some_iff.mp hsome
  have hid : ((start 10 ⟨5, 0⟩).machine.wheel.addTimer ⟨5, 0⟩ (10 : Int32).toInt
      (2 : Int32).toInt).2 = 1 := by decide +kernel
  obtain ⟨hcount, _⟩ := timer_call_counts (by decide) ⟨5, 0⟩ .refl hadded hid (by decide) hlater
  obtain ⟨_, hthere, _⟩ := hcount (by decide)
  refine ⟨added, later, hadded, hlater, ?_, hlength⟩
  by_contra hlive
  have hfewer := (hthere.mp hlive).1
  rw [hlength] at hfewer
  exact absurd hfewer (by decide)

end NestedWheel

end Mysya
