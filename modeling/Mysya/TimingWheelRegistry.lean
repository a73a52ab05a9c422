import Mysya.TimingWheelPlacement
import Mathlib.Data.List.Nodup

/-!
# The timer registry

`Registry` ties the bucket lists to `timers_`: an id is in exactly the bucket
its timer records, once, and every id in a bucket names a live timer. While a
bucket is drained one timer is out of the lists; `Registry (some id)` is the
same invariant with that timer excused.
-/

namespace Mysya.TimingWheel

open MixedRadix

/-- What every timer object in memory satisfies. -/
structure SoundTimer (id : Int) (t : Timer) : Prop where
  named : t.id = id
  wheel_lt : t.wheel < kTimingWheelNum
  expire_lt : t.expireTickCounts < 4294967296
  undo_nonneg : 0 ≤ t.undoTickCounts
  undo_lt : t.undoTickCounts < 4294967296

structure Registry (out : Option Int) (s : TimingWheel) : Prop where
  tickMs_pos : 1 ≤ s.tickMs
  ring : ∀ i, (s.wheels i).currentBucket < kTimingWheelBucketNum i
  nodup : ∀ i b, ((s.wheels i).buckets b).Nodup
  live : ∀ i b id, id ∈ (s.wheels i).buckets b →
    some id ≠ out ∧ ∃ t, s.timers id = some t ∧ t.wheel = i ∧ t.bucket = b
  listed : ∀ id t, s.timers id = some t → some id ≠ out →
    id ∈ (s.wheels t.wheel).buckets t.bucket
  sound : ∀ id t, s.timers id = some t → SoundTimer id t

theorem init_registry {tickMs : Int} (h : 1 ≤ tickMs) : Registry none (init tickMs) where
  tickMs_pos := h
  ring := fun i => bucketNum_pos i
  nodup := fun _ _ => List.nodup_nil
  live := fun _ _ _ hid => by cases hid
  listed := fun _ _ ht => by cases ht
  sound := fun _ _ ht => by cases ht

/-- An id with no timer object is in no bucket. -/
theorem Registry.not_mem {s : TimingWheel} {out : Option Int} (r : Registry out s) (id : Int)
    (h : s.timers id = none ∨ out = some id) (i b : Nat) : id ∉ (s.wheels i).buckets b := by
  intro hid
  obtain ⟨hout, t, ht, _, _⟩ := r.live i b id hid
  rcases h with hnone | hsame
  · rw [hnone] at ht; cases ht
  · exact hout hsame.symm

theorem lowerTicks_lt {s : TimingWheel}
    (ring : ∀ i, (s.wheels i).currentBucket < kTimingWheelBucketNum i) (k : Nat) :
    lowerTicks s k < ringWeight k := by
  induction k with
  | zero => exact Nat.one_pos
  | succ k ih =>
    have hcur := ring k
    have hmul : ((s.wheels k).currentBucket + 1) * ringWeight k ≤
        kTimingWheelBucketNum k * ringWeight k := Nat.mul_le_mul_right _ hcur
    rw [Nat.add_mul, Nat.one_mul] at hmul
    rw [lowerTicks, ringWeight_succ, Nat.mul_comm (ringWeight k)]
    omega

/-- Every placement appends the id to one bucket and records it in the timer. -/
theorem addWheel_shape {s : TimingWheel}
    (ring : ∀ i, (s.wheels i).currentBucket < kTimingWheelBucketNum i) (t : Timer) {n : Int}
    (hn : n < 4294967296) :
    ∃ k b u, k < kTimingWheelNum ∧ 0 ≤ u ∧ u < 4294967296 ∧
      s.addWheel t n = (s.setBucket k b ((s.wheels k).buckets b ++ [t.id]),
        { t with wheel := k, bucket := b, undoTickCounts := u }) := by
  by_cases hpos : n ≤ 0
  · obtain ⟨b, _, heq⟩ := addWheel_nonpos s t hpos
    exact ⟨0, b, 0, by decide, by decide, by decide, heq⟩
  · obtain ⟨m, rfl⟩ : ∃ m : Nat, n = m := ⟨n.toNat, by omega⟩
    obtain ⟨k, hk, _, _, heq⟩ := addWheel_eq_putIn s t (n := m) (by omega) (by omega)
    have hlow := lowerTicks_lt ring k
    have hmod := Nat.mod_lt m (ringWeight_pos k)
    have htop := ringWeight_le_top hk
    exact ⟨k, _, _, hk, by omega, by omega, heq⟩

/-- Placing a timer that is in no bucket restores the registry. -/
theorem place_registry {s : TimingWheel} {t : Timer} {n : Int}
    (r : Registry (some t.id) s) (hexpire : t.expireTickCounts < 4294967296)
    (hn : n < 4294967296) :
    Registry none (s.place t n) := by
  obtain ⟨k, b, u, hk, hu, hu', heq⟩ := addWheel_shape r.ring t hn
  have absent := r.not_mem t.id (Or.inr rfl)
  have hplace : s.place t n =
      (s.setBucket k b ((s.wheels k).buckets b ++ [t.id])).store
        { t with wheel := k, bucket := b, undoTickCounts := u } := by
    simp only [place, heq]
  rw [hplace]
  have buckets : ∀ i c, (((s.setBucket k b ((s.wheels k).buckets b ++ [t.id])).store
      { t with wheel := k, bucket := b, undoTickCounts := u }).wheels i).buckets c =
        if i = k ∧ c = b then (s.wheels k).buckets b ++ [t.id] else (s.wheels i).buckets c :=
    fun i c => setBucket_buckets s k b i c _
  have timers : ∀ id, ((s.setBucket k b ((s.wheels k).buckets b ++ [t.id])).store
      { t with wheel := k, bucket := b, undoTickCounts := u }).timers id =
        if id = t.id then some { t with wheel := k, bucket := b, undoTickCounts := u }
        else s.timers id := by
    intro id
    simp [store, Function.update_apply]
  constructor
  · exact r.tickMs_pos
  · intro i
    simpa [store] using r.ring i
  · intro i c
    rw [buckets]
    split
    · exact List.nodup_append.mpr ⟨r.nodup k b, List.nodup_singleton _, by
        intro x hx y hy hxy
        rw [List.mem_singleton] at hy
        exact absent k b (hy ▸ hxy ▸ hx)⟩
    · exact r.nodup i c
  · intro i c id hid
    refine ⟨by simp, ?_⟩
    rw [buckets] at hid
    rw [timers]
    by_cases hsame : id = t.id
    · rw [if_pos hsame]
      refine ⟨_, rfl, ?_⟩
      split at hid
      · rename_i hic
        exact ⟨hic.1.symm, hic.2.symm⟩
      · exact absurd (hsame ▸ hid) (absent i c)
    · rw [if_neg hsame]
      split at hid
      · rename_i hic
        rcases List.mem_append.mp hid with hold | hnew
        · have hlive := (r.live k b id hold).2
          rwa [← hic.1, ← hic.2] at hlive
        · exact absurd (List.mem_singleton.mp hnew) hsame
      · exact (r.live i c id hid).2
  · intro id t' ht' _
    rw [timers] at ht'
    rw [buckets]
    split at ht'
    · rename_i hsame
      cases ht'
      simp [hsame]
    · rename_i hne
      have hmem := r.listed id t' ht' (by simpa using hne)
      split
      · rename_i hic
        rw [hic.1, hic.2] at hmem
        exact List.mem_append_left _ hmem
      · exact hmem
  · intro id t' ht'
    rw [timers] at ht'
    split at ht'
    · rename_i hsame
      cases ht'
      exact ⟨hsame.symm, hk, hexpire, hu, hu'⟩
    · exact r.sound id t' ht'

/-- Taking the head off a bucket leaves its timer the one that is out. -/
theorem pop_registry {s : TimingWheel} {i b : Nat} {id : Int} {rest : List Int}
    (r : Registry none s) (hbucket : (s.wheels i).buckets b = id :: rest) :
    Registry (some id) (s.setBucket i b rest) := by
  have hnd : (id :: rest).Nodup := hbucket ▸ r.nodup i b
  obtain ⟨hhead, hrest⟩ := List.nodup_cons.mp hnd
  obtain ⟨_, t₀, ht₀, hw₀, hb₀⟩ := r.live i b id (by rw [hbucket]; exact List.mem_cons_self)
  constructor
  · exact r.tickMs_pos
  · intro k
    simpa using r.ring k
  · intro k c
    rw [setBucket_buckets]
    split
    · exact hrest
    · exact r.nodup k c
  · intro k c id' hid'
    rw [setBucket_buckets] at hid'
    split at hid'
    · rename_i hkc
      have hlive := (r.live i b id' (by rw [hbucket]; exact List.mem_cons_of_mem _ hid')).2
      refine ⟨?_, ?_⟩
      · intro hsame
        exact hhead (Option.some.inj hsame ▸ hid')
      · rw [hkc.1, hkc.2]
        exact hlive
    · rename_i hkc
      obtain ⟨_, t, ht, hw, hb⟩ := r.live k c id' hid'
      refine ⟨?_, t, ht, hw, hb⟩
      intro hsame
      have hid : id' = id := Option.some.inj hsame
      subst hid
      rw [ht₀] at ht
      cases ht
      exact hkc ⟨hw.symm.trans hw₀, hb.symm.trans hb₀⟩
  · intro id' t ht hne
    have hmem := r.listed id' t ht (by simp)
    rw [setBucket_buckets]
    split
    · rename_i hkc
      rw [hkc.1, hkc.2, hbucket] at hmem
      rcases List.mem_cons.mp hmem with hsame | htail
      · exact absurd (congrArg some hsame) hne
      · exact htail
    · exact hmem
  · exact r.sound

theorem removeTimer_none {s : TimingWheel} {id : Int} (h : s.timers id = none) :
    s.removeTimer id = s := by
  simp [removeTimer, h]

theorem removeTimer_some {s : TimingWheel} {id : Int} {t : Timer} (h : s.timers id = some t)
    (hwheel : t.wheel < kTimingWheelNum) :
    s.removeTimer id = { s.setBucket t.wheel t.bucket
        (((s.wheels t.wheel).buckets t.bucket).erase t.id) with
      timers := Function.update s.timers id none } := by
  simp [removeTimer, h, removeWheel, hwheel]

/-- Deleting a timer, listed or just taken off its bucket, leaves no trace of it. -/
theorem removeTimer_registry {s : TimingWheel} {out : Option Int} (r : Registry out s)
    (id : Int) (hout : out = none ∨ out = some id) (hlive : out = some id → s.timers id ≠ none) :
    Registry none (s.removeTimer id) := by
  cases ht : s.timers id with
  | none =>
    rw [removeTimer_none ht]
    rcases hout with rfl | rfl
    · exact r
    · exact absurd ht (hlive rfl)
  | some t =>
    have hsound := r.sound id t ht
    rw [removeTimer_some ht hsound.wheel_lt, hsound.named]
    have hmem : ∀ i b id', id' ∈ ((s.setBucket t.wheel t.bucket
        (((s.wheels t.wheel).buckets t.bucket).erase id)).wheels i).buckets b →
        id' ∈ (s.wheels i).buckets b ∧ id' ≠ id := by
      intro i b id' hid'
      rw [setBucket_buckets] at hid'
      split at hid'
      · rename_i hib
        have hpair := (r.nodup t.wheel t.bucket).mem_erase_iff.mp hid'
        rw [hib.1, hib.2]
        exact ⟨hpair.2, hpair.1⟩
      · rename_i hib
        refine ⟨hid', ?_⟩
        intro hsame
        subst hsame
        obtain ⟨_, t', ht', hw, hb⟩ := r.live i b id' hid'
        rw [ht] at ht'
        cases ht'
        exact hib ⟨hw.symm, hb.symm⟩
    have timers : ∀ id' t', Function.update s.timers id none id' = some t' →
        id' ≠ id ∧ s.timers id' = some t' := by
      intro id' t' ht'
      rw [Function.update_apply] at ht'
      split at ht'
      · cases ht'
      · exact ⟨by assumption, ht'⟩
    constructor
    · exact r.tickMs_pos
    · intro i
      simpa using r.ring i
    · intro i b
      show (((s.setBucket _ _ _).wheels i).buckets b).Nodup
      rw [setBucket_buckets]
      split
      · exact (r.nodup _ _).erase _
      · exact r.nodup i b
    · intro i b id' hid'
      obtain ⟨hold, hne⟩ := hmem i b id' hid'
      refine ⟨by simp, ?_⟩
      simpa [hne] using (r.live i b id' hold).2
    · intro id' t' ht' _
      obtain ⟨hne, hlisted⟩ := timers id' t' ht'
      have hold : id' ∈ (s.wheels t'.wheel).buckets t'.bucket := by
        apply r.listed id' t' hlisted
        rcases hout with rfl | rfl
        · simp
        · simpa using hne
      show id' ∈ ((s.setBucket _ _ _).wheels _).buckets _
      rw [setBucket_buckets]
      split
      · rename_i hib
        rw [hib.1, hib.2] at hold
        exact (List.mem_erase_of_ne hne).mpr hold
      · exact hold
    · exact fun id' t' ht' => r.sound id' t' (timers id' t' ht').2

/-- `AddTimer` with a period that fits an `int`. -/
theorem addTimer_registry {s : TimingWheel} (r : Registry none s) (now : Timestamp)
    {expireMs : Int} (hms : expireMs < 2147483648) (callTimes : Int) :
    Registry none (s.addTimer now expireMs callTimes).1 := by
  have hcount := expireTickCounts_lt r.tickMs_pos hms
  have rlater : Registry none { s with timerIds := s.timerIds + 1 } := { r with }
  rcases addTimer_cases s now expireMs callTimes with heq | ⟨hnone, heq⟩
  · rw [heq]
    exact rlater
  · rw [heq]
    have rout : Registry (some (s.timerIds + 1)) { s with timerIds := s.timerIds + 1 } :=
      { rlater with
        live := fun i b id hid => by
          refine ⟨?_, (rlater.live i b id hid).2⟩
          intro hsame
          cases hsame
          exact rlater.not_mem _ (Or.inl hnone) i b hid
        listed := fun id t ht _ => rlater.listed id t ht (by simp) }
    exact place_registry rout hcount hcount

theorem apply_registry {s : TimingWheel} (r : Registry none s) (op : TimerOp) :
    Registry none (s.apply op) := by
  cases op with
  | addTimer now expireMs callTimes => exact addTimer_registry r now (Int32.toInt_lt _) _
  | removeTimer timerId => exact removeTimer_registry r timerId (Or.inl rfl) (by simp)

theorem applyAll_registry {s : TimingWheel} (r : Registry none s) (ops : List TimerOp) :
    Registry none (ops.foldl apply s) := by
  induction ops generalizing s with
  | nil => exact r
  | cons op ops ih => exact ih (apply_registry r op)

theorem callback_registry {s : TimingWheel} (r : Registry none s) (cbs : Callbacks) (id : Int) :
    Registry none (s.callback cbs id) :=
  applyAll_registry (s := { s with calls := (s.debugTickCounts, id) :: s.calls }) { r with } _

/-- One round of the drain loop keeps the registry. -/
theorem visit_registry {s : TimingWheel} {id : Int} {t : Timer} (r : Registry (some id) s)
    (ht : s.timers id = some t) (cbs : Callbacks) (now : Timestamp) :
    Registry none (s.visit cbs now t) := by
  have hsound := r.sound id t ht
  obtain rfl := hsound.named
  have rchecked : Registry (some t.id)
      { s with checks := s.checks ++ [(s.debugTickCounts, t.id)] } := { r with }
  unfold visit
  split
  · exact place_registry r hsound.expire_lt hsound.undo_lt
  · dsimp only
    split
    · exact place_registry (t := { t with undoTickCounts := 1 }) rchecked
        hsound.expire_lt (by decide)
    · apply callback_registry
      split
      · exact place_registry rchecked hsound.expire_lt hsound.expire_lt
      · split
        · exact place_registry (t := { t with callTimes := t.callTimes - 1 }) rchecked
            hsound.expire_lt hsound.expire_lt
        · exact removeTimer_registry rchecked t.id (Or.inr rfl) (fun _ => by simp [ht])

end Mysya.TimingWheel
