import Mysya.GuardedRuns
import Mysya.MachineInts
import Mysya.Timestamp

/-!
# Sums and distances of timestamps

The operators of `util::Timestamp` in `int64_t`. A sum keeps the total of the nanoseconds, but where
the nanoseconds come to exactly one second they are not carried over. A distance in a coarser unit
is rounded for the seconds and for the nanoseconds apart.
-/

namespace Mysya

open GuardedRuns

theorem int64_bind {β : Type} (n : Int) (f : Int → Option β) :
    (int64 n).bind f = if FitsInt64 n then f n else none := by
  rw [int64]
  split
  · rfl
  · rfl

namespace Timestamp

/-! ## Sums -/

/-- `operator=` with a count of milliseconds. -/
def ofMillisecond (millisecond : Int) : Timestamp :=
  ⟨millisecond.tdiv 1000, millisecond.tmod 1000 * 1000000⟩

/-- `operator+=`, and `operator+` on a copy. -/
def add64 (t : Timestamp) (millisecond : Int) : Option Timestamp :=
  (int64 (t.second + millisecond.tdiv 1000)).bind fun second =>
    (int64 (t.nanosecond + millisecond.tmod 1000 * 1000000)).bind fun nanosecond =>
      if nanosecond > 1000000000 then
        (int64 (second + 1)).bind fun second => some ⟨second, nanosecond - 1000000000⟩
      else some ⟨second, nanosecond⟩

/-- The seconds of a sum, before and after the carry, are such as `time_t` holds. -/
def AddFits (t : Timestamp) (millisecond : Int) : Prop :=
  FitsInt64 (t.second + millisecond.tdiv 1000) ∧ FitsInt64 (t.add millisecond).second

instance (t : Timestamp) (millisecond : Int) : Decidable (t.AddFits millisecond) :=
  inferInstanceAs (Decidable (_ ∧ _))

/-- The nanoseconds come to exactly one second. -/
def FillsSecond (t : Timestamp) (millisecond : Int) : Prop :=
  t.nanosecond + millisecond.tmod 1000 * 1000000 = 1000000000

instance (t : Timestamp) (millisecond : Int) : Decidable (t.FillsSecond millisecond) :=
  inferInstanceAs (Decidable (_ = _))

section Sums

variable {t : Timestamp} {millisecond : Int}

theorem tmod_bounds (h : 0 ≤ millisecond) :
    0 ≤ millisecond.tmod 1000 ∧ millisecond.tmod 1000 < 1000 :=
  ⟨Int.tmod_nonneg _ h, Int.tmod_lt_of_pos _ (by decide)⟩

theorem add64_eq (ht : t.Normalised) (h : 0 ≤ millisecond) :
    t.add64 millisecond = if t.AddFits millisecond then some (t.add millisecond) else none := by
  have hmod := tmod_bounds h
  obtain ⟨hlow, hhigh⟩ := ht
  have hnanosecond : FitsInt64 (t.nanosecond + millisecond.tmod 1000 * 1000000) := by
    unfold FitsInt64
    omega
  rw [add64, int64_bind, int64_bind, if_pos hnanosecond]
  by_cases hsecond : FitsInt64 (t.second + millisecond.tdiv 1000)
  · rw [if_pos hsecond]
    simp only [AddFits, add, hsecond, true_and]
    split
    · rw [int64_bind]
    · rfl
  · rw [if_neg hsecond, if_neg fun hboth => hsecond hboth.1]

theorem normalised_add_iff (ht : t.Normalised) (h : 0 ≤ millisecond) :
    (t.add millisecond).Normalised ↔ ¬ t.FillsSecond millisecond := by
  have hmod := tmod_bounds h
  obtain ⟨hlow, hhigh⟩ := ht
  simp only [add, FillsSecond]
  split
  · simp only [Normalised]
    omega
  · simp only [Normalised]
    omega

theorem normalised_ofMillisecond (h : 0 ≤ millisecond) : (ofMillisecond millisecond).Normalised := by
  have hmod := tmod_bounds h
  rw [ofMillisecond, Normalised]
  dsimp only
  omega

theorem ns_ofMillisecond (millisecond : Int) : (ofMillisecond millisecond).ns = millisecond * 1000000 := by
  have hsplit := Int.mul_tdiv_add_tmod millisecond 1000
  rw [ofMillisecond, ns]
  dsimp only
  omega

end Sums

/-! ## Sequences of sums -/

/-- `x = millisecond`, `x += millisecond` and `z = x + millisecond`. -/
inductive Operation (ι : Type)
  | assign (x : ι) (millisecond : Int)
  | addAssign (x : ι) (millisecond : Int)
  | add (z x : ι) (millisecond : Int)

variable {ι : Type}

def Operation.millisecond : Operation ι → Int
  | .assign _ millisecond => millisecond
  | .addAssign _ millisecond => millisecond
  | .add _ _ millisecond => millisecond

/-- The timestamp that gets the result. -/
def Operation.result : Operation ι → ι
  | .assign x _ => x
  | .addAssign x _ => x
  | .add z _ _ => z

/-- What the milliseconds are added to. -/
def Operation.total (s : ι → Timestamp) : Operation ι → Int
  | .assign _ _ => 0
  | .addAssign x _ => (s x).ns
  | .add _ x _ => (s x).ns

variable [DecidableEq ι]

def operate (s : ι → Timestamp) : Operation ι → Option (ι → Timestamp)
  | .assign x millisecond => some (Function.update s x (ofMillisecond millisecond))
  | .addAssign x millisecond => ((s x).add64 millisecond).map (Function.update s x)
  | .add z x millisecond => ((s x).add64 millisecond).map (Function.update s z)

/-- The seconds fit, and the nanoseconds do not come to exactly one second. -/
def Carries (s : ι → Timestamp) : Operation ι → Prop
  | .assign _ _ => True
  | .addAssign x millisecond => (s x).AddFits millisecond ∧ ¬ (s x).FillsSecond millisecond
  | .add _ x millisecond => (s x).AddFits millisecond ∧ ¬ (s x).FillsSecond millisecond

/-- The result is normalised and exact, and the order of any two timestamps is that of their
totals. -/
structure Keeps (s : ι → Timestamp) (op : Operation ι) (s' : ι → Timestamp) : Prop where
  normalised : ∀ x, (s' x).Normalised
  exact : (s' op.result).ns = op.total s + op.millisecond * 1000000
  others : ∀ x, x ≠ op.result → s' x = s x
  order : ∀ x y, (s' x).lt (s' y) = true ↔ (s' x).ns < (s' y).ns

theorem keeps_update {s : ι → Timestamp} (hs : ∀ x, (s x).Normalised) {op : Operation ι}
    {u : Timestamp} (hu : u.Normalised) (hexact : u.ns = op.total s + op.millisecond * 1000000) :
    Keeps s op (Function.update s op.result u) := by
  have hnormalised : ∀ x, (Function.update s op.result u x).Normalised := by
    intro x
    by_cases heq : x = op.result
    · rw [heq, Function.update_self]
      exact hu
    · rw [Function.update_of_ne heq]
      exact hs x
  constructor
  · exact hnormalised
  · rw [Function.update_self]
    exact hexact
  · intro x hne
    exact Function.update_of_ne hne u s
  · intro x y
    exact lt_iff (hnormalised x) (hnormalised y)

/-- One sum does as it should exactly where it carries. -/
theorem sum_keeps_iff {s : ι → Timestamp} (hs : ∀ x, (s x).Normalised) {op : Operation ι} {x : ι}
    (hop : operate s op = ((s x).add64 op.millisecond).map (Function.update s op.result))
    (htotal : op.total s = (s x).ns) (h : 0 ≤ op.millisecond) :
    (∃ s', operate s op = some s' ∧ Keeps s op s') ↔
      (s x).AddFits op.millisecond ∧ ¬ (s x).FillsSecond op.millisecond := by
  rw [hop, add64_eq (hs x) h, ← normalised_add_iff (hs x) h]
  constructor
  · rintro ⟨s', hs', hkeeps⟩
    split at hs'
    · rename_i hfits
      refine ⟨hfits, ?_⟩
      rw [Option.map_some, Option.some.injEq] at hs'
      have hresult := hkeeps.normalised op.result
      rwa [← hs', Function.update_self] at hresult
    · cases hs'
  · rintro ⟨hfits, hnormalised⟩
    rw [if_pos hfits, Option.map_some]
    refine ⟨_, rfl, keeps_update hs hnormalised ?_⟩
    rw [ns_add, htotal]

theorem keeps_iff {s : ι → Timestamp} (hs : ∀ x, (s x).Normalised) {op : Operation ι}
    (h : 0 ≤ op.millisecond) :
    (∃ s', operate s op = some s' ∧ Keeps s op s') ↔ Carries s op := by
  cases op with
  | assign x millisecond =>
    refine ⟨fun _ => trivial, fun _ => ⟨_, rfl, keeps_update hs (normalised_ofMillisecond h) ?_⟩⟩
    rw [ns_ofMillisecond]
    exact (Int.zero_add _).symm
  | addAssign x millisecond => exact sum_keeps_iff hs rfl rfl h
  | add z x millisecond => exact sum_keeps_iff hs rfl rfl h

/-- In every sequence of sums all results are normalised, exact and in order if and only if each
sum fits and none comes to exactly one second. -/
theorem sums_normalised {s : ι → Timestamp} (hs : ∀ x, (s x).Normalised)
    {ops : List (Operation ι)} (hops : ∀ op ∈ ops, 0 ≤ op.millisecond) :
    Guarded operate (fun s op => ∃ s', operate s op = some s' ∧ Keeps s op s') ops s ↔
      Guarded operate Carries ops s := by
  refine guarded_iff (I := fun s => ∀ x, (s x).Normalised)
    (fun op hin s hs => keeps_iff hs (hops op hin)) ?_ hs
  intro op hin s s' hs hcarries hs'
  obtain ⟨t, ht, hkeeps⟩ := (keeps_iff hs (hops op hin)).mpr hcarries
  rw [ht, Option.some.injEq] at hs'
  rw [← hs']
  exact hkeeps.normalised

instance (s : ι → Timestamp) (op : Operation ι) : Decidable (Carries s op) := by
  cases op
  · exact .isTrue trivial
  · exact inferInstanceAs (Decidable (_ ∧ _))
  · exact inferInstanceAs (Decidable (_ ∧ _))

theorem sums_normalised_half :
    Guarded operate (fun s op => ∃ s', operate s op = some s' ∧ Keeps s op s')
      [.add 1 0 499, .addAssign 1 2, .assign 0 1001] (fun _ : Nat => ⟨7, 500000000⟩) := by
  refine (sums_normalised (fun _ => by decide : ∀ x : Nat, _) ?_).mpr (by decide)
  intro op hin
  simp only [List.mem_cons, List.not_mem_nil, or_false] at hin
  rcases hin with rfl | rfl | rfl
  · decide
  · decide
  · decide

/-- Half a second and half a second more. -/
theorem full_second_kept : ¬ ∀ (s : Nat → Timestamp) (ops : List (Operation Nat)),
    (∀ x, (s x).Normalised) → (∀ op ∈ ops, 0 ≤ op.millisecond) →
      Guarded operate (fun s op => ∃ s', operate s op = some s' ∧ Keeps s op s') ops s := by
  intro hall
  have hsum := hall (fun _ => ⟨0, 500000000⟩) [.addAssign 0 500] (fun _ => by decide)
    (by
      intro op hin
      rw [List.mem_singleton] at hin
      rw [hin]
      decide)
  obtain ⟨s', hs', hkeeps⟩ := hsum.1
  have hresult := hkeeps.normalised 0
  have hnext : operate (fun _ : Nat => (⟨0, 500000000⟩ : Timestamp)) (.addAssign 0 500) =
      some (Function.update (fun _ => ⟨0, 500000000⟩) 0 ⟨0, 1000000000⟩) := rfl
  rw [hnext, Option.some.injEq] at hs'
  rw [← hs', Function.update_self] at hresult
  exact absurd hresult (by decide)

/-! ## Distances -/

/-- The greater of the two, and the smaller. -/
def bigger (t other : Timestamp) : Timestamp := if t.lt other then other else t

def smaller (t other : Timestamp) : Timestamp := if t.lt other then t else other

/-- The seconds between two timestamps in the unit of the distance, and what part of the nanoseconds
it takes. -/
def distance64 (perSecond : Int) (part : Int → Int) (t other : Timestamp) : Option Int :=
  (int64 ((t.bigger other).second - (t.smaller other).second)).bind fun second =>
    (int64 (second * perSecond)).bind fun whole =>
      (int64 ((t.bigger other).nanosecond - (t.smaller other).nanosecond)).bind fun rest =>
        int64 (whole + part rest)

def distanceMillisecond64 : Timestamp → Timestamp → Option Int :=
  distance64 1000 fun rest => rest.tdiv 1000000

def distanceMicroSecond64 : Timestamp → Timestamp → Option Int :=
  distance64 1000000 fun rest => rest.tdiv 1000

def distanceNanoSecond64 : Timestamp → Timestamp → Option Int := distance64 1000000000 id

/-- The distances in the three units are those of the totals, rounded down, both ways. -/
structure DistancesAgree (t other : Timestamp) : Prop where
  nanosecond : t.distanceNanoSecond64 other = some (max t.ns other.ns - min t.ns other.ns)
  microSecond : t.distanceMicroSecond64 other =
    some ((max t.ns other.ns - min t.ns other.ns) / 1000)
  millisecond : t.distanceMillisecond64 other =
    some ((max t.ns other.ns - min t.ns other.ns) / 1000000)
  nanosecond_symm : other.distanceNanoSecond64 t = t.distanceNanoSecond64 other
  microSecond_symm : other.distanceMicroSecond64 t = t.distanceMicroSecond64 other
  millisecond_symm : other.distanceMillisecond64 t = t.distanceMillisecond64 other

/-- The distance in nanoseconds is such as `int64_t` holds, with and without the part of a
second. -/
def DistanceFits (t other : Timestamp) : Prop :=
  FitsInt64 (((t.bigger other).second - (t.smaller other).second) * 1000000000) ∧
    FitsInt64 ((t.bigger other).ns - (t.smaller other).ns)

/-- The nanoseconds of the greater one are not fewer, or fewer by whole milliseconds. -/
def WholeMilliseconds (t other : Timestamp) : Prop :=
  (t.smaller other).nanosecond ≤ (t.bigger other).nanosecond ∨
    1000000 ∣ (t.bigger other).nanosecond - (t.smaller other).nanosecond

section Distances

instance (t other : Timestamp) : Decidable (t.DistanceFits other) :=
  inferInstanceAs (Decidable (_ ∧ _))

instance (t other : Timestamp) : Decidable (t.WholeMilliseconds other) :=
  inferInstanceAs (Decidable (_ ∨ _))

variable {t other : Timestamp}

theorem distance64_some {perSecond d : Int} {part : Int → Int}
    (h : t.distance64 perSecond part other = some d) :
    FitsInt64 (((t.bigger other).second - (t.smaller other).second) * perSecond) ∧
      FitsInt64 d ∧ d = ((t.bigger other).second - (t.smaller other).second) * perSecond +
        part ((t.bigger other).nanosecond - (t.smaller other).nanosecond) := by
  rw [distance64, int64_bind, int64_bind, int64_bind, int64] at h
  split at h
  · split at h
    · rename_i hwhole
      split at h
      · split at h
        · rename_i hsum
          rw [Option.some.injEq] at h
          rw [← h]
          exact ⟨hwhole, hsum, rfl⟩
        · cases h
      · cases h
    · cases h
  · cases h

theorem distance64_eq {perSecond : Int} {part : Int → Int}
    (hsecond : FitsInt64 ((t.bigger other).second - (t.smaller other).second))
    (hwhole : FitsInt64 (((t.bigger other).second - (t.smaller other).second) * perSecond))
    (hrest : FitsInt64 ((t.bigger other).nanosecond - (t.smaller other).nanosecond))
    (hsum : FitsInt64 (((t.bigger other).second - (t.smaller other).second) * perSecond +
      part ((t.bigger other).nanosecond - (t.smaller other).nanosecond))) :
    t.distance64 perSecond part other =
      some (((t.bigger other).second - (t.smaller other).second) * perSecond +
        part ((t.bigger other).nanosecond - (t.smaller other).nanosecond)) := by
  rw [distance64, int64_bind, if_pos hsecond, int64_bind, if_pos hwhole, int64_bind, if_pos hrest,
    int64, if_pos hsum]

/-- In `int64_t` a distance is what it is in the integers. -/
theorem distanceMillisecond64_some {d : Int} (h : t.distanceMillisecond64 other = some d) :
    d = t.distanceMillisecond other := (distance64_some h).2.2

theorem distanceNanoSecond64_some {d : Int} (h : t.distanceNanoSecond64 other = some d) :
    d = t.distanceNanoSecond other := (distance64_some h).2.2

theorem ns_bigger (ht : t.Normalised) (hother : other.Normalised) :
    (t.bigger other).ns = max t.ns other.ns ∧ (t.smaller other).ns = min t.ns other.ns := by
  have hlt := lt_iff ht hother
  rw [bigger, smaller]
  split
  · rename_i heq
    have hless := hlt.mp heq
    omega
  · rename_i hne
    have hless : ¬ t.ns < other.ns := fun hless => hne (hlt.mpr hless)
    omega

theorem eq_of_ns (ht : t.Normalised) (hother : other.Normalised) (h : t.ns = other.ns) :
    t = other := by
  obtain ⟨second, nanosecond⟩ := t
  obtain ⟨second', nanosecond'⟩ := other
  simp only [Normalised, ns] at ht hother h
  rw [mk.injEq]
  omega

theorem normalised_bigger (ht : t.Normalised) (hother : other.Normalised) :
    (t.bigger other).Normalised ∧ (t.smaller other).Normalised := by
  rw [bigger, smaller]
  split
  · exact ⟨hother, ht⟩
  · exact ⟨ht, hother⟩

theorem bigger_comm (ht : t.Normalised) (hother : other.Normalised) :
    other.bigger t = t.bigger other ∧ other.smaller t = t.smaller other := by
  obtain ⟨hbigger, hsmaller⟩ := ns_bigger ht hother
  obtain ⟨hbigger', hsmaller'⟩ := ns_bigger hother ht
  obtain ⟨hb, hs⟩ := normalised_bigger ht hother
  obtain ⟨hb', hs'⟩ := normalised_bigger hother ht
  exact ⟨eq_of_ns hb' hb (by omega), eq_of_ns hs' hs (by omega)⟩

theorem distance64_comm (ht : t.Normalised) (hother : other.Normalised) (perSecond : Int)
    (part : Int → Int) : other.distance64 perSecond part t = t.distance64 perSecond part other := by
  obtain ⟨hbigger, hsmaller⟩ := bigger_comm ht hother
  rw [distance64, distance64, hbigger, hsmaller]

/-- A remainder has the sign of what is divided. -/
theorem tdiv_split (n : Int) {d : Int} (hd : 0 < d) :
    n = d * n.tdiv d + n.tmod d ∧ (0 ≤ n → 0 ≤ n.tmod d ∧ n.tmod d < d) ∧
      (n ≤ 0 → n.tmod d ≤ 0 ∧ -d < n.tmod d) := by
  refine ⟨(Int.mul_tdiv_add_tmod n d).symm, fun hn => ?_, fun hn => ?_⟩
  · exact ⟨Int.tmod_nonneg d hn, Int.tmod_lt_of_pos n hd⟩
  · have hneg := Int.tmod_nonneg d (Int.neg_nonneg.mpr hn)
    have hlt := Int.tmod_lt_of_pos (-n) hd
    rw [Int.neg_tmod] at hneg hlt
    omega

/-- The distances agree if and only if the one in nanoseconds fits and the nanoseconds are not
fewer, or fewer by whole milliseconds. -/
theorem distances_agree_iff (ht : t.Normalised) (hother : other.Normalised) :
    t.DistancesAgree other ↔ t.DistanceFits other ∧ t.WholeMilliseconds other := by
  obtain ⟨hbigger, hsmaller⟩ := ns_bigger ht hother
  obtain ⟨⟨hb, hb'⟩, ⟨hs, hs'⟩⟩ := normalised_bigger ht hother
  have hmilli := tdiv_split ((t.bigger other).nanosecond - (t.smaller other).nanosecond)
    (by decide : (0 : Int) < 1000000)
  have hmicro := tdiv_split ((t.bigger other).nanosecond - (t.smaller other).nanosecond)
    (by decide : (0 : Int) < 1000)
  constructor
  · intro h
    obtain ⟨hwhole, hsum, hnano⟩ := distance64_some h.nanosecond
    obtain ⟨-, -, hms⟩ := distance64_some h.millisecond
    refine ⟨⟨hwhole, ?_⟩, ?_⟩
    · rw [hbigger, hsmaller]
      exact hsum
    · rw [WholeMilliseconds]
      simp only [id] at hnano
      omega
  · rintro ⟨⟨hwhole, hsum⟩, hfull⟩
    rw [WholeMilliseconds] at hfull
    rw [hbigger, hsmaller] at hsum
    have htotal : max t.ns other.ns - min t.ns other.ns =
        ((t.bigger other).second - (t.smaller other).second) * 1000000000 +
          ((t.bigger other).nanosecond - (t.smaller other).nanosecond) := by
      rw [← hbigger, ← hsmaller, ns, ns]
      omega
    have hapart : 0 ≤ max t.ns other.ns - min t.ns other.ns := by omega
    have hfits : ∀ n : Int, 0 ≤ n → n ≤ (max t.ns other.ns - min t.ns other.ns) → FitsInt64 n := by
      intro n hlow hhigh
      rw [FitsInt64] at hsum ⊢
      omega
    have hsecond : FitsInt64 ((t.bigger other).second - (t.smaller other).second) := by
      rw [FitsInt64] at hwhole ⊢
      omega
    have hrest : FitsInt64 ((t.bigger other).nanosecond - (t.smaller other).nanosecond) := by
      rw [FitsInt64]
      omega
    have horder : 0 ≤ (t.bigger other).second - (t.smaller other).second := by omega
    constructor
    · rw [distanceNanoSecond64, distance64_eq hsecond hwhole hrest]
      · rw [Option.some.injEq, id]
        omega
      · rw [id]
        exact hfits _ (by omega) (by omega)
    · rw [distanceMicroSecond64, distance64_eq hsecond (hfits _ (by omega) (by omega)) hrest]
      · rw [Option.some.injEq]
        omega
      · exact hfits _ (by omega) (by omega)
    · rw [distanceMillisecond64, distance64_eq hsecond (hfits _ (by omega) (by omega)) hrest]
      · rw [Option.some.injEq]
        omega
      · exact hfits _ (by omega) (by omega)
    · exact distance64_comm ht hother _ _
    · exact distance64_comm ht hother _ _
    · exact distance64_comm ht hother _ _

theorem distances_agree_clock : (⟨1446000000, 250000000⟩ : Timestamp).DistancesAgree ⟨0, 0⟩ :=
  (distances_agree_iff (by decide) (by decide)).mpr (by decide)

/-- One second, and one nanosecond. -/
theorem distance_rounded_up : ¬ ∀ t other : Timestamp, t.Normalised → other.Normalised →
    t.DistancesAgree other := by
  intro hall
  have hagree := hall ⟨1, 0⟩ ⟨0, 1⟩ (by decide) (by decide)
  exact absurd hagree.millisecond (by decide)

end Distances

end Timestamp

end Mysya
