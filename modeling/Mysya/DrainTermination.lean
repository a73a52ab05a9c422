import Mysya.TimerPeriods

/-!
# Where the loop over a bucket ends

A timer handled while a bucket is emptied goes back into that bucket only if its period is zero
ticks, it is on the first wheel and it has a call left. Without such timers the loop of
`Wheel::OnExpired` runs once for each timer it finds; one that is called for ever keeps it
running for ever.
-/

namespace Mysya

open GuardedRuns MixedRadix TimingWheel

namespace TimingWheel

/-- The timer goes back into the bucket of wheel `i` that is being emptied. -/
def Returns (i : Nat) (now : Timestamp) (t : Timer) : Prop :=
  i = 0 ∧ t.undoTickCounts ≤ 0 ∧ now.lt t.expireTimestamp = false ∧ t.expireTickCounts = 0 ∧
    (t.callTimes < 0 ∨ 1 < t.callTimes)

instance (i : Nat) (now : Timestamp) (t : Timer) : Decidable (Returns i now t) := by
  unfold Returns
  infer_instance

variable {s : TimingWheel} {i b : Nat}

/-- No ticks lead to the bucket that the first wheel has just passed. -/
theorem place_zero (s : TimingWheel) (t : Timer) :
    s.place t 0 = (s.setBucket 0 (slot (kTimingWheelBucketNum 0) (s.wheels 0).currentBucket)
      ((s.wheels 0).buckets (slot (kTimingWheelBucketNum 0) (s.wheels 0).currentBucket) ++
        [t.id])).store { t with
          wheel := 0
          bucket := slot (kTimingWheelBucketNum 0) (s.wheels 0).currentBucket
          undoTickCounts := 0 } := by
  have hchoice : (if 0 < (toSizeT 0 / weight kTimingWheelBucketNum 0 +
      (s.wheels 0).currentBucket) % kTimingWheelBucketNum 0 then
        (toSizeT 0 / weight kTimingWheelBucketNum 0 + (s.wheels 0).currentBucket) %
          kTimingWheelBucketNum 0 - 1
      else kTimingWheelBucketNum 0 - 1) =
        slot (kTimingWheelBucketNum 0) (s.wheels 0).currentBucket := by
    have hzero : toSizeT 0 / weight kTimingWheelBucketNum 0 = 0 := by decide
    rw [hzero, Nat.zero_add]
    exact bucket_choice (bucketNum_pos 0) _
  have hstop : (0 : Int) < 1 * (kTimingWheelBucketNum 0 : Int) := by decide
  simp only [place, addWheel, kTimingWheelNum, addWheelFrom, hstop, if_true, wheelAddTimer,
    hchoice]
  rfl

theorem place_zero_bucket
    (passed : b = slot (kTimingWheelBucketNum i) (s.wheels i).currentBucket) (t : Timer) :
    ((s.place t 0).wheels i).buckets b =
      if i = 0 then (s.wheels i).buckets b ++ [t.id] else (s.wheels i).buckets b := by
  rw [place_zero]
  show ((s.setBucket 0 _ _).wheels i).buckets b = _
  rw [setBucket_buckets]
  by_cases hi : i = 0
  · subst hi
    rw [if_pos ⟨rfl, passed⟩, if_pos rfl, passed]
  · rw [if_neg fun h => hi h.1, if_neg hi]

/-- A removal of a timer that is not in the bucket leaves it. -/
theorem removeTimer_bucket {id : Int} (habsent : id ∉ (s.wheels i).buckets b)
    (hnamed : ∀ t, s.timers id = some t → t.id = id) :
    ((s.removeTimer id).wheels i).buckets b = (s.wheels i).buckets b := by
  simp only [removeTimer]
  split
  · rfl
  · rename_i t ht
    simp only [removeWheel]
    split
    · show ((s.setBucket t.wheel t.bucket _).wheels i).buckets b = _
      rw [setBucket_buckets]
      split
      · rename_i hib
        rw [hnamed t ht, ← hib.1, ← hib.2, List.erase_of_not_mem habsent]
      · rfl
    · rfl

/-- What one round leaves of the bucket: the timers behind, and the one at the front if it goes
back. -/
theorem expire_bucket {id : Int} {rest : List Int} {t : Timer} (r : Registry none s)
    (passed : b = slot (kTimingWheelBucketNum i) (s.wheels i).currentBucket)
    (hbucket : (s.wheels i).buckets b = id :: rest) (ht : s.timers id = some t)
    (hnonneg : 0 ≤ t.expireTickCounts) (now : Timestamp) :
    (((s.setBucket i b rest).expire now t).1.wheels i).buckets b =
      if Returns i now t then rest ++ [id] else rest := by
  have hsound := r.sound id t ht
  have hpop : ((s.setBucket i b rest).wheels i).buckets b = rest := by
    rw [setBucket_buckets, if_pos ⟨rfl, rfl⟩]
  have hpassed : b =
      slot (kTimingWheelBucketNum i) ((s.setBucket i b rest).wheels i).currentBucket := by
    rw [setBucket_currentBucket]
    exact passed
  have hagain : ∀ u : Timer, u.id = id → t.undoTickCounts ≤ 0 →
      now.lt t.expireTimestamp = false → t.callTimes < 0 ∨ 1 < t.callTimes →
      (((((s.setBucket i b rest).logCheck t).place u t.expireTickCounts).wheels i).buckets b =
        if Returns i now t then rest ++ [id] else rest) := by
    intro u hu hundo hdue hleft
    by_cases hzero : t.expireTickCounts = 0
    · rw [hzero, place_zero_bucket (s := (s.setBucket i b rest).logCheck t) hpassed, hu]
      show (if i = 0 then ((s.setBucket i b rest).wheels i).buckets b ++ [id] else
        ((s.setBucket i b rest).wheels i).buckets b) = _
      rw [hpop]
      simp [Returns, hundo, hdue, hzero, hleft]
    · rw [place_bucket (s := (s.setBucket i b rest).logCheck t) hpassed u (by omega)
        hsound.expire_lt, if_neg fun h => hzero h.2.2.2.1]
      exact hpop
  simp only [expire]
  split
  · rename_i hundo
    rw [if_neg fun h => absurd h.2.1 (by omega), place_bucket hpassed t (by omega) hsound.undo_lt]
    exact hpop
  · rename_i hundo
    split
    · rename_i hearly
      rw [if_neg fun h => absurd hearly (by simp [h.2.2.1]),
        place_bucket (s := (s.setBucket i b rest).logCheck t) hpassed _ (by decide) (by decide)]
      exact hpop
    · rename_i hdue
      split
      · rename_i hforever
        exact hagain t hsound.named (by omega) (by simpa using hdue) (Or.inl hforever)
      · rename_i hfinite
        split
        · rename_i hleft
          exact hagain { t with callTimes := t.callTimes - 1 } hsound.named (by omega)
            (by simpa using hdue) (Or.inr (by omega))
        · have hbehind : id ∉ rest := (List.nodup_cons.mp (hbucket ▸ r.nodup i b)).1
          rw [if_neg fun h => by have := h.2.2.2.2; omega, hsound.named,
            removeTimer_bucket (s := (s.setBucket i b rest).logCheck t)]
          · exact hpop
          · show id ∉ ((s.setBucket i b rest).wheels i).buckets b
            rw [hpop]
            exact hbehind
          · intro u hu
            exact (r.sound id u hu).named

theorem Draining.passed (d : Draining i s) :
    ringSlot i s.debugTickCounts =
      slot (kTimingWheelBucketNum i) (s.wheels i).currentBucket := by
  have hdigit := d.odometer.advanced i (Nat.lt_succ_self i) d.wheel_lt
  have hslot := slot_add_mod (kTimingWheelBucketNum i) (s.debugTickCounts / ringWeight i) 0
    (bucketNum_pos i)
  rw [hdigit]
  exact hslot.symm

/-! ## What a round leaves of the timers -/

/-- The periods and the calls left of all timers satisfy `Q`. -/
def Kept (Q : Int → Int → Prop) (s : TimingWheel) : Prop :=
  ∀ id t, s.timers id = some t → Q t.expireTickCounts t.callTimes

variable {Q : Int → Int → Prop}

theorem Kept.place (h : Kept Q s) (t : Timer) (n : Int) (ht : Q t.expireTickCounts t.callTimes) :
    Kept Q (s.place t n) := by
  obtain ⟨wheels, k, c, v, hshape⟩ := place_shape s t n
  intro id u hu
  rw [hshape] at hu
  simp only [Function.update_apply] at hu
  split at hu
  · cases hu
    exact ht
  · exact h id u hu

theorem Kept.removeTimer (h : Kept Q s) (id : Int) : Kept Q (s.removeTimer id) := by
  intro id' u hu
  by_cases hsame : id' = id
  · subst hsame
    cases ht : s.timers id' with
    | none =>
      rw [removeTimer_none ht] at hu
      exact h id' u hu
    | some t =>
      simp only [TimingWheel.removeTimer, ht] at hu
      simp at hu
  · rw [removeTimer_timers_other s hsame] at hu
    exact h id' u hu

theorem Kept.expire {t : Timer} (h : Kept Q s) (ht : Q t.expireTickCounts t.callTimes)
    (hfewer : 1 < t.callTimes → Q t.expireTickCounts (t.callTimes - 1)) (now : Timestamp) :
    Kept Q (s.expire now t).1 := by
  have hchecked : Kept Q (s.logCheck t) := h
  simp only [TimingWheel.expire]
  split
  · exact h.place t _ ht
  · split
    · exact hchecked.place { t with undoTickCounts := 1 } 1 ht
    · split
      · exact hchecked.place t _ ht
      · split
        · rename_i hleft
          exact hchecked.place { t with callTimes := t.callTimes - 1 } _ (hfewer (by omega))
        · exact hchecked.removeTimer t.id

/-! ## The whole loop -/

/-- A timer of no ticks has at most one call left, and no period is negative. -/
def Lapsing (n callTimes : Int) : Prop :=
  0 ≤ n ∧ (n = 0 → 0 ≤ callTimes ∧ callTimes ≤ 1)

theorem Lapsing.not_returns {t : Timer} (h : Lapsing t.expireTickCounts t.callTimes)
    (now : Timestamp) : ¬ Returns i now t := by
  rintro ⟨_, _, _, hzero, hleft⟩
  have := h.2 hzero
  omega

theorem Lapsing.fewer {n callTimes : Int} (h : Lapsing n callTimes) (hleft : 1 < callTimes) :
    Lapsing n (callTimes - 1) := by
  refine ⟨h.1, fun hzero => ?_⟩
  have := h.2 hzero
  omega

/-- The callback only removes timers. -/
def RemovesOnly (cbs : Callbacks) : Prop := ∀ calls, ∀ o ∈ cbs calls, ∃ id, o = .removeTimer id

theorem removals_bucket (ops : List TimerOp) (hops : ∀ o ∈ ops, ∃ id, o = .removeTimer id) :
    ((((ops.foldl apply s).wheels i).buckets b).length ≤ ((s.wheels i).buckets b).length) ∧
      (Kept Q s → Kept Q (ops.foldl apply s)) := by
  induction ops generalizing s with
  | nil => exact ⟨Nat.le_refl _, id⟩
  | cons o ops ih =>
    obtain ⟨id, rfl⟩ := hops o List.mem_cons_self
    obtain ⟨hlength, hkept⟩ := ih (s := s.removeTimer id)
      (fun o' ho' => hops o' (List.mem_cons_of_mem _ ho'))
    refine ⟨Nat.le_trans hlength ?_, fun h => hkept (h.removeTimer id)⟩
    simp only [TimingWheel.removeTimer]
    split
    · exact Nat.le_refl _
    · simp only [removeWheel]
      split
      · show (((s.setBucket _ _ _).wheels i).buckets b).length ≤ _
        rw [setBucket_buckets]
        split
        · rename_i hib
          rw [hib.1, hib.2]
          exact List.length_erase_le
        · exact Nat.le_refl _
      · exact Nat.le_refl _

/-- With callbacks that add no timer the loop ends: each round leaves fewer timers in the
bucket. -/
theorem drain_ends {cbs : Callbacks} (hcbs : RemovesOnly cbs) (now : Timestamp) (n : Nat)
    {s : TimingWheel} (d : Draining i s) (hb : b = ringSlot i s.debugTickCounts)
    (hlapsing : Kept Lapsing s) (hlength : ((s.wheels i).buckets b).length ≤ n) :
    ∃ s', s.drain cbs now i b n = some s' := by
  induction n generalizing s with
  | zero =>
    refine ⟨s, ?_⟩
    unfold drain
    rw [List.length_eq_zero_iff.mp (Nat.le_zero.mp hlength)]
  | succ n ih =>
    cases hbucket : (s.wheels i).buckets b with
    | nil =>
      refine ⟨s, ?_⟩
      unfold drain
      rw [hbucket]
    | cons id rest =>
      obtain ⟨_, t, ht, _, _⟩ := d.registry.live i b id (by rw [hbucket]; exact List.mem_cons_self)
      have hself := hlapsing id t ht
      have hleft := expire_bucket d.registry (hb.trans d.passed) hbucket ht hself.1 now
      rw [if_neg (hself.not_returns now)] at hleft
      have hkept := Kept.expire (s := s.setBucket i b rest) hlapsing hself hself.fewer now
      have hvisit : Kept Lapsing ((s.setBucket i b rest).visit cbs now t) ∧
          ((((s.setBucket i b rest).visit cbs now t).wheels i).buckets b).length ≤ n := by
        rw [hbucket, List.length_cons] at hlength
        rw [visit_eq]
        split
        · obtain ⟨hfewer, hremoved⟩ := removals_bucket (i := i) (b := b) (Q := Lapsing)
            (s := ((s.setBucket i b rest).expire now t).1.logCall t) _
            (hcbs (((s.setBucket i b rest).expire now t).1.logCall t).calls)
          refine ⟨hremoved hkept, Nat.le_trans hfewer ?_⟩
          show ((((s.setBucket i b rest).expire now t).1.wheels i).buckets b).length ≤ n
          rw [hleft]
          omega
        · exact ⟨hkept, by rw [hleft]; omega⟩
      have hticks := ((setBucket_sameClock s i b rest).trans
        (visit_sameClock (s.setBucket i b rest) cbs now t)).1
      obtain ⟨s', hs'⟩ := ih (d.visit hbucket ht cbs now) (by rw [hticks]; exact hb) hvisit.1
        hvisit.2
      refine ⟨s', ?_⟩
      unfold drain
      simp only [hbucket, ht]
      exact hs'

/-- A timer alone in the bucket that goes back for ever keeps the loop running. -/
theorem drain_never_ends (now : Timestamp) {id : Int} (fuel : Nat) {s : TimingWheel} {t : Timer}
    (d : Draining i s) (hb : b = ringSlot i s.debugTickCounts)
    (hbucket : (s.wheels i).buckets b = [id]) (ht : s.timers id = some t)
    (hforever : t.callTimes < 0) (hreturns : Returns i now t) :
    s.drain (fun _ => []) now i b fuel = none := by
  induction fuel generalizing s t with
  | zero =>
    unfold drain
    rw [hbucket]
  | succ fuel ih =>
    have hnamed := (d.registry.sound id t ht).named
    obtain ⟨rfl, hundo, hdue, hzero, _⟩ := hreturns
    have hexpire : (s.setBucket 0 b []).expire now t =
        (((s.setBucket 0 b []).logCheck t).place t 0, true) := by
      simp only [expire]
      rw [if_neg (by omega), hdue, if_pos hforever, hzero]
      rfl
    have hvisit : (s.setBucket 0 b []).visit (fun _ => []) now t =
        (((s.setBucket 0 b []).logCheck t).place t 0).logCall t := by
      rw [visit_eq, hexpire]
      rfl
    have hstored : (((s.setBucket 0 b []).visit (fun _ => []) now t)).timers id = some { t with
        wheel := 0
        bucket := slot (kTimingWheelBucketNum 0)
          (((s.setBucket 0 b []).logCheck t).wheels 0).currentBucket
        undoTickCounts := 0 } := by
      rw [hvisit, place_zero, ← hnamed]
      exact Function.update_self _ _ _
    have hback : (((s.setBucket 0 b []).visit (fun _ => []) now t).wheels 0).buckets b = [id] := by
      have hleft := expire_bucket d.registry (hb.trans d.passed) hbucket ht (by omega) now
      rw [hexpire, if_pos ⟨rfl, hundo, hdue, hzero, Or.inl hforever⟩] at hleft
      rw [hvisit]
      exact hleft
    have hticks := ((setBucket_sameClock s 0 b []).trans
      (visit_sameClock (s.setBucket 0 b []) (fun _ => []) now t)).1
    unfold drain
    simp only [hbucket, ht]
    exact ih (d.visit hbucket ht _ now) (by rw [hticks]; exact hb) hback hstored hforever
      ⟨rfl, Int.le_refl 0, hdue, hzero, Or.inl hforever⟩

end TimingWheel

namespace WheelMachine

variable {P Q : Int → Int → Prop} {s s' : WheelMachine} {a : Action}

/-- Timers are added only with a delay and a number of calls that satisfy `P`. -/
def Adds (P : Int → Int → Prop) (_ : WheelMachine) : Action → Prop
  | .op (.addTimer _ expireMs callTimes) => P expireMs.toInt callTimes.toInt
  | _ => True

instance [∀ m c, Decidable (P m c)] (s : WheelMachine) (a : Action) : Decidable (Adds P s a) := by
  unfold Adds
  split <;> infer_instance

theorem addTimer_kept {w : TimingWheel} (h : Kept Q w) (now : Timestamp) {expireMs callTimes : Int}
    (hnew : Q (expireTickCounts w.tickMs expireMs) callTimes) :
    Kept Q (w.addTimer now expireMs callTimes).1 := by
  have hids : Kept Q { w with timerIds := w.timerIds + 1 } := h
  simp only [addTimer]
  split
  · exact hids
  · split
    · exact hids
    · exact hids.place _ _ hnew

/-- A step leaves all timers with what they were added for, or fewer calls of it. -/
theorem Move.kept (h : Move s a s') (hkept : Kept Q s.wheel)
    (hadds : ∀ now e c, a = .op (.addTimer now e c) →
      Q (expireTickCounts s.wheel.tickMs e.toInt) c.toInt)
    (hfewer : ∀ n c, Q n c → 1 < c → Q n (c - 1)) : Kept Q s'.wheel := by
  cases h with
  | op o hout =>
    cases o with
    | addTimer now expireMs callTimes =>
      exact addTimer_kept hkept now (hadds now expireMs callTimes rfl)
    | removeTimer id => exact hkept.removeTimer id
  | front left i b id rest t hphase hbucket ht =>
    obtain ⟨calls, hwheel⟩ := expireFront_wheel s left i b rest t
    rw [hwheel]
    exact Kept.expire (s := s.wheel.setBucket i b rest) hkept (hkept id t ht)
      (hfewer _ _ (hkept id t ht)) s.now
  | setTimestamp timestamp hout => exact hkept
  | onExpired now hphase => exact hkept
  | finish hphase => exact hkept
  | begin left hphase => exact hkept
  | wheel left i hphase hi => exact hkept
  | last left i hphase hi => exact hkept
  | stop left i b hphase hempty hstop => exact hkept
  | carry left i b hphase hempty hcont => exact hkept
  | ret left i b hphase => exact hkept

theorem expireTickCounts_nonneg {tickMs expireMs : Int} (htick : 1 ≤ tickMs) (hms : 0 ≤ expireMs) :
    0 ≤ expireTickCounts tickMs expireMs := by
  have hdiv := Int.tdiv_nonneg hms (Int.le_trans (by decide) htick)
  unfold expireTickCounts
  split
  · omega
  · exact hdiv

/-- Every delay and number of calls that `P` allows give a period and a number of calls that
satisfy `Q`. -/
theorem reaches_kept {tickMs : Int} (h : 1 ≤ tickMs) (origin : Timestamp)
    (hnew : ∀ tick e c, 1 ≤ tick → P e c → Q (expireTickCounts tick e) c)
    (hfewer : ∀ n c, Q n c → 1 < c → Q n (c - 1))
    (hs : Reaches step (Adds P) (start tickMs origin) s) : s.Sound ∧ Kept Q s.wheel := by
  refine hs.invariant (I := fun m => m.Sound ∧ Kept Q m.wheel) ⟨start_sound h origin, ?_⟩ ?_
  · intro id t ht
    simp [start, TimingWheel.init] at ht
  · intro m a m' hm hguard hstep
    refine ⟨step_sound hm.1 hstep, (move_of_step hstep).kept hm.2 ?_ hfewer⟩
    rintro now e c rfl
    exact hnew _ _ _ hm.1.registry.tickMs_pos hguard

/-- Any delay from zero on. -/
abbrev AnyDelay : WheelMachine → Action → Prop := Adds fun expireMs _ => 0 ≤ expireMs

/-- A delay of at least a millisecond, or none and at most one call. -/
abbrev EndingDelay : WheelMachine → Action → Prop :=
  Adds fun expireMs callTimes => 1 ≤ expireMs ∨ expireMs = 0 ∧ 0 ≤ callTimes ∧ callTimes ≤ 1

theorem lapsing_of_delay (tickMs expireMs callTimes : Int) (htick : 1 ≤ tickMs)
    (h : 1 ≤ expireMs ∨ expireMs = 0 ∧ 0 ≤ callTimes ∧ callTimes ≤ 1) :
    Lapsing (expireTickCounts tickMs expireMs) callTimes := by
  rcases h with hpos | ⟨rfl, hcalls⟩
  · have := expireTickCounts_pos htick hpos
    exact ⟨by omega, fun hzero => by omega⟩
  · exact ⟨expireTickCounts_nonneg htick (Int.le_refl 0), fun _ => hcalls⟩

/-- The round of the drain loop on the timer at the front. -/
theorem next_bucket (sound : s.Sound) {left i b : Nat} {id : Int} {rest : List Int} {t : Timer}
    (hphase : s.phase = .draining left i b) (hbucket : (s.wheel.wheels i).buckets b = id :: rest)
    (ht : s.wheel.timers id = some t) (hnonneg : 0 ≤ t.expireTickCounts)
    (hstep : s.step .next = some s') :
    id ∉ (s'.wheel.wheels i).buckets b ↔ ¬ Returns i s.now t := by
  obtain ⟨d, hb⟩ := sound.draining hphase
  have hs' : s' = s.expireFront left i b rest t := by
    simp only [step, advance, hphase, hbucket, ht, Option.some.injEq] at hstep
    exact hstep.symm
  obtain ⟨calls, hwheel⟩ := expireFront_wheel s left i b rest t
  have hleft := expire_bucket d.registry (hb.trans d.passed) hbucket ht hnonneg s.now
  rw [hs', hwheel]
  show id ∉ (((s.wheel.setBucket i b rest).expire s.now t).1.wheels i).buckets b ↔ _
  rw [hleft]
  have hbehind : id ∉ rest := (List.nodup_cons.mp (hbucket ▸ d.registry.nodup i b)).1
  split
  · rename_i hreturns
    simp [hreturns]
  · rename_i hgone
    simp [hgone, hbehind]

/-- A timer taken off a bucket goes back into it exactly if it is called on the first wheel, has
a period of no ticks and a call left. If no such timer is added, none goes back and every drain
ends, whatever timers the callbacks remove. -/
theorem drains_end {tickMs : Int} (h : 1 ≤ tickMs) (origin : Timestamp) :
    (∀ s, Reaches step AnyDelay (start tickMs origin) s →
      ∀ left i b id rest t s', s.phase = .draining left i b →
        (s.wheel.wheels i).buckets b = id :: rest → s.wheel.timers id = some t →
        s.step .next = some s' →
        (id ∉ (s'.wheel.wheels i).buckets b ↔ ¬ Returns i s.now t)) ∧
      ∀ s, Reaches step EndingDelay (start tickMs origin) s →
        ∀ left i b, s.phase = .draining left i b →
          (∀ id rest s', (s.wheel.wheels i).buckets b = id :: rest → s.step .next = some s' →
            id ∉ (s'.wheel.wheels i).buckets b) ∧
          ∀ cbs, RemovesOnly cbs → ∃ fuel w, s.wheel.drain cbs s.now i b fuel = some w := by
  constructor
  · intro s hs left i b id rest t s' hphase hbucket ht hstep
    obtain ⟨sound, kept⟩ := reaches_kept (Q := fun n _ => 0 ≤ n) h origin
      (fun _ _ _ htick hms => expireTickCounts_nonneg htick hms) (fun _ _ hn _ => hn) hs
    exact next_bucket sound hphase hbucket ht (kept id t ht) hstep
  · intro s hs left i b hphase
    obtain ⟨sound, kept⟩ := reaches_kept (Q := Lapsing) h origin lapsing_of_delay
      (fun _ _ hn => hn.fewer) hs
    obtain ⟨d, hb⟩ := sound.draining hphase
    constructor
    · intro id rest s' hbucket hstep
      obtain ⟨_, t, ht, _, _⟩ := d.registry.live i b id (by rw [hbucket]; exact List.mem_cons_self)
      exact (next_bucket sound hphase hbucket ht (kept id t ht).1 hstep).mpr
        ((kept id t ht).not_returns s.now)
    · intro cbs hcbs
      obtain ⟨w, hw⟩ := drain_ends hcbs s.now _ d hb kept (Nat.le_refl _)
      exact ⟨_, w, hw⟩

/-- The second tick takes a timer of two ticks off its bucket. -/
def secondTick : List Action :=
  .op (.addTimer ⟨5, 0⟩ 20 (-1)) :: .onExpired ⟨5, 20000000⟩ :: List.replicate 5 .next

theorem drains_end_second :
    ∃ s, run step secondTick (start 10 ⟨5, 0⟩) = some s ∧ (s.wheel.wheels 0).buckets 1 = [1] ∧
      ∃ fuel w, s.wheel.drain (fun _ => [.removeTimer 1]) s.now 0 1 fuel = some w := by
  obtain ⟨s, hrun, hs⟩ := Option.map_eq_some_iff.mp
    (by decide +kernel : (run step secondTick (start 10 ⟨5, 0⟩)).map
      (fun s => (s.phase, (s.wheel.wheels 0).buckets 1)) = some (.draining 0 0 1, [1]))
  simp only [Prod.mk.injEq] at hs
  have hreach : Reaches step EndingDelay (start 10 ⟨5, 0⟩) s :=
    Reaches.refl.run (by decide +kernel) hrun
  refine ⟨s, hrun, hs.2, ((drains_end (by decide) ⟨5, 0⟩).2 s hreach 0 0 1 hs.1).2 _ ?_⟩
  intro calls o ho
  exact ⟨1, List.mem_singleton.mp ho⟩

/-- A timer of no delay that is called for ever, in the bucket that tick 256 empties. -/
def noDelay : List Action :=
  .op (.addTimer ⟨5, 0⟩ 0 (-1)) :: .onExpired ⟨5, 256000000⟩ :: List.replicate 767 .next

/-- It goes back into the bucket each time it is called, and the loop never ends. -/
theorem drain_runs_for_ever :
    ¬ ∀ s, Reaches step AnyDelay (start 1 ⟨5, 0⟩) s →
      ∀ left i b, s.phase = .draining left i b →
        ∃ fuel w, s.wheel.drain (fun _ => []) s.now i b fuel = some w := by
  intro hall
  obtain ⟨s, hrun, hs⟩ := Option.map_eq_some_iff.mp
    (by decide +kernel : (run step noDelay (start 1 ⟨5, 0⟩)).map (fun s =>
      (s.phase, (s.wheel.wheels 0).buckets 255, (s.wheel.timers 1).map fun t =>
        (decide (Returns 0 s.now t), decide (t.callTimes < 0)))) =
          some (.draining 0 0 255, [1], some (true, true)))
  simp only [Prod.mk.injEq] at hs
  obtain ⟨hphase, hbucket, htimer⟩ := hs
  obtain ⟨t, ht, hreturns⟩ := Option.map_eq_some_iff.mp htimer
  simp only [Prod.mk.injEq, decide_eq_true_eq] at hreturns
  have hreach : Reaches step AnyDelay (start 1 ⟨5, 0⟩) s :=
    Reaches.refl.run (by decide +kernel) hrun
  have sound := hreach.invariant (I := Sound) (start_sound (by decide) _)
    (fun _ _ _ hm _ hstep => step_sound hm hstep)
  obtain ⟨d, hb⟩ := sound.draining hphase
  obtain ⟨fuel, w, hw⟩ := hall s hreach 0 0 255 hphase
  have hnever := drain_never_ends s.now fuel d hb hbucket ht hreturns.2 hreturns.1
  rw [hnever] at hw
  cases hw

end WheelMachine

end Mysya
