import Mysya.MessageQueue

/-!
# The interval of the drain timer

What `SetPendingReadTimer` passes to `StartTimer` follows the number of messages pushed between two
expirations. The interval is cut to `uint32_t` before it is compared with the greatest one allowed,
so a long pause may come out as no interval at all; and it is passed as an `int`, so that one of
`2 ^ 31` or more, which only a negative maximum allows, comes out negative.
-/

namespace Mysya

open GuardedRuns

namespace MessageQueue

/-- The timer was started with an interval of at least one millisecond and at most `most`. -/
structure Armed (most : Nat) (q : MessageQueue) : Prop where
  bound : q.maxPendingReadExpiredMesec = most
  word : q.pendingReadExpiredMsec < 4294967296
  positive : 1 ≤ q.expireMs
  capped : q.expireMs ≤ most

/-- Where messages were pushed, the pause for each of them is not one millisecond short of a
multiple of `2 ^ 32`. Where the maximum is no `int`, neither that pause nor the doubled interval
comes to `2 ^ 31` or more. -/
def NotWrapped (q : MessageQueue) : Action → Prop
  | .expire now _ => q.phase = .idle →
      if 0 < q.pendingReadNum then
        ¬ (4294967296 : Int) ∣ (now.distanceMillisecond q.readTimestamp).tdiv q.pendingReadNum + 1 ∧
          (q.maxPendingReadExpiredMesec < 2147483648 ∨
            ((now.distanceMillisecond q.readTimestamp).tdiv q.pendingReadNum + 1) % 4294967296 <
              2147483648)
      else q.maxPendingReadExpiredMesec < 2147483648 ∨ q.pendingReadExpiredMsec < 1073741824
  | _ => True

instance (q : MessageQueue) : (a : Action) → Decidable (q.NotWrapped a)
  | .push _ _ => .isTrue trivial
  | .expire _ _ => by
    unfold NotWrapped
    infer_instance
  | .round => .isTrue trivial
  | .exchange => .isTrue trivial

variable {q : MessageQueue} {most : Nat}

/-- The interval before it is compared with the maximum. -/
def uncapped (q : MessageQueue) (now : Timestamp) : Nat :=
  if q.pendingReadNum ≤ 0 then toUint32 (q.pendingReadExpiredMsec * 2 + 1)
  else toUint32 ((now.distanceMillisecond q.readTimestamp).tdiv q.pendingReadNum + 1)

theorem uncapped_lt (q : MessageQueue) (now : Timestamp) : q.uncapped now < 4294967296 := by
  unfold uncapped toUint32
  split
  · omega
  · omega

/-- The timer is armed if there is an interval, and what is left of it is an `int`. -/
theorem setPendingReadTimer_armed_iff (hbound : q.maxPendingReadExpiredMesec = most)
    (hmost : 1 ≤ most) (hword : most < 4294967296) (now : Timestamp) (timerId : Int) :
    (q.setPendingReadTimer now timerId).Armed most ↔
      1 ≤ q.uncapped now ∧ (most < 2147483648 ∨ q.uncapped now < 2147483648) := by
  have hlt := q.uncapped_lt now
  have hset : (q.setPendingReadTimer now timerId).pendingReadExpiredMsec =
      if q.uncapped now > most then most else q.uncapped now := by rw [← hbound]; rfl
  generalize q.uncapped now = expired at hlt hset ⊢
  have hms : (q.setPendingReadTimer now timerId).expireMs =
      toInt32 ((if expired > most then most else expired : Nat) : Int) := by
    rw [expireMs, hset]
  constructor
  · rintro ⟨-, -, hpositive, hcapped⟩
    rw [hms] at hpositive hcapped
    unfold toInt32 toUint32 at hpositive hcapped
    split at hpositive
    · omega
    · omega
  · rintro ⟨hone, hint⟩
    have hnarrow : toInt32 ((if expired > most then most else expired : Nat) : Int) =
        (if expired > most then most else expired : Nat) :=
      toInt32_of_lt (by split <;> omega)
    refine ⟨hbound, ?_, ?_, ?_⟩
    · rw [hset]
      split
      · exact hword
      · exact hlt
    · rw [hms, hnarrow]
      split
      · exact_mod_cast hmost
      · exact_mod_cast hone
    · rw [hms, hnarrow]
      split
      · exact Int.le_refl _
      · exact_mod_cast Nat.le_of_not_lt ‹_›

/-- At an expiration of a timer that was armed. -/
theorem notWrapped_iff (h : q.Armed most) (now : Timestamp) :
    1 ≤ q.uncapped now ∧ (most < 2147483648 ∨ q.uncapped now < 2147483648) ↔
      if 0 < q.pendingReadNum then
        ¬ (4294967296 : Int) ∣ (now.distanceMillisecond q.readTimestamp).tdiv q.pendingReadNum + 1 ∧
          (q.maxPendingReadExpiredMesec < 2147483648 ∨
            ((now.distanceMillisecond q.readTimestamp).tdiv q.pendingReadNum + 1) % 4294967296 <
              2147483648)
      else q.maxPendingReadExpiredMesec < 2147483648 ∨ q.pendingReadExpiredMsec < 1073741824 := by
  rw [h.bound, uncapped]
  split
  · rw [if_neg (by omega)]
    have hword := h.word
    have hpositive := h.positive
    unfold expireMs toInt32 toUint32 at hpositive
    unfold toUint32
    split at hpositive
    · omega
    · omega
  · rw [if_pos (by omega)]
    unfold toUint32
    omega

theorem round_interval (q : MessageQueue) :
    q.round.maxPendingReadExpiredMesec = q.maxPendingReadExpiredMesec ∧
      q.round.pendingReadExpiredMsec = q.pendingReadExpiredMsec := by
  have hpop : q.pop.1.maxPendingReadExpiredMesec = q.maxPendingReadExpiredMesec ∧
      q.pop.1.pendingReadExpiredMsec = q.pendingReadExpiredMsec := by
    rw [pop]
    split
    · exact ⟨rfl, rfl⟩
    · exact ⟨rfl, rfl⟩
  rw [round]
  generalize q.pop = popped at hpop
  obtain ⟨q', host, readSize⟩ := popped
  dsimp only at hpop ⊢
  split
  · exact hpop
  · exact hpop

theorem armed_step_iff (h : q.Armed most) (hmost : 1 ≤ most) (hword : most < 4294967296)
    (a : Action) :
    (∀ q', q.step a = some q' → q'.Armed most) ↔ q.NotWrapped a := by
  cases a with
  | push host data =>
    refine ⟨fun _ => trivial, fun _ q' hstep => ?_⟩
    rw [step] at hstep
    split at hstep
    · cases hstep
      exact ⟨h.bound, h.word, h.positive, h.capped⟩
    · cases hstep
  | expire now timerId =>
    have hset := (setPendingReadTimer_armed_iff h.bound hmost hword now timerId).trans
      (notWrapped_iff h now)
    rw [NotWrapped, step]
    split
    · rename_i hphase
      constructor
      · intro harmed _
        obtain ⟨hbound, hint, hpositive, hcapped⟩ := harmed _ rfl
        exact hset.mp ⟨hbound, hint, hpositive, hcapped⟩
      · intro hguard q' hstep
        cases hstep
        obtain ⟨hbound, hint, hpositive, hcapped⟩ := hset.mpr (hguard hphase)
        exact ⟨hbound, hint, hpositive, hcapped⟩
    · rename_i hphase
      refine ⟨fun _ hidle => absurd hidle hphase, fun _ q' hstep => ?_⟩
      cases hstep
  | round =>
    refine ⟨fun _ => trivial, fun _ q' hstep => ?_⟩
    rw [step] at hstep
    split at hstep
    · cases hstep
      obtain ⟨hbound, hinterval⟩ := round_interval q
      have hms : q.round.expireMs = q.expireMs := congrArg (fun n : Nat => toInt32 n) hinterval
      exact ⟨hbound.trans h.bound, hinterval ▸ h.word, hms ▸ h.positive, hms ▸ h.capped⟩
    · cases hstep
  | exchange =>
    refine ⟨fun _ => trivial, fun _ q' hstep => ?_⟩
    rw [step] at hstep
    split at hstep
    · cases hstep
      exact ⟨h.bound, h.word, h.positive, h.capped⟩
    · cases hstep

/-- The constructor doubles the maximum, and an `int` is left of it unless it is a negative one
of at least `- 2 ^ 30`. -/
theorem new_armed_iff (readCb : Bool) {maxExpiredMsec : Int} (hmost : 1 ≤ toUint32 maxExpiredMsec)
    (initSize extSize : Nat) (h : 0 < extSize) (now : Timestamp) (timerId : Int) :
    (new readCb maxExpiredMsec initSize extSize h now timerId).Armed (toUint32 maxExpiredMsec) ↔
      toUint32 maxExpiredMsec < 3221225472 := by
  have hword : toUint32 maxExpiredMsec < 4294967296 := by
    unfold toUint32
    omega
  refine Iff.trans (setPendingReadTimer_armed_iff ?_ hmost hword now timerId) ?_
  · rfl
  rw [uncapped, if_pos (Int.le_refl 0)]
  dsimp only
  generalize toUint32 maxExpiredMsec = most at hmost hword ⊢
  unfold toUint32
  omega

/-- The interval is within the bounds at the constructor and at every expiration of a run if and
only if the maximum is no negative number of at least `- 2 ^ 30` and nothing is wrapped. -/
theorem interval_bounded (readCb : Bool) {maxExpiredMsec : Int}
    (hmost : 1 ≤ toUint32 maxExpiredMsec) (initSize extSize : Nat) (h : 0 < extSize)
    (now : Timestamp) (timerId : Int) (acts : List Action) :
    (new readCb maxExpiredMsec initSize extSize h now timerId).Armed (toUint32 maxExpiredMsec) ∧
      Guarded step (fun q a => ∀ q', q.step a = some q' → q'.Armed (toUint32 maxExpiredMsec)) acts
        (new readCb maxExpiredMsec initSize extSize h now timerId) ↔
    toUint32 maxExpiredMsec < 3221225472 ∧
      Guarded step NotWrapped acts (new readCb maxExpiredMsec initSize extSize h now timerId) := by
  rw [← new_armed_iff readCb hmost initSize extSize h now timerId]
  refine and_congr_right fun hnew => guarded_iff (I := Armed (toUint32 maxExpiredMsec))
    (fun a _ q hq => armed_step_iff hq hmost ?_ a) ?_ hnew
  · unfold toUint32
    omega
  · intro a _ q q' hq hguard hstep
    refine (armed_step_iff hq hmost ?_ a).mpr hguard q' hstep
    unfold toUint32
    omega

theorem interval_bounded_paused :
    Guarded step (fun q a => ∀ q', q.step a = some q' → q'.Armed 10)
      [.push 3 [1, 2], .expire ⟨1443109011, 454000000⟩ 1, .round, .round, .exchange] newQueue :=
  ((interval_bounded true (by decide : 1 ≤ toUint32 10) 1024 256 (by decide) ⟨0, 0⟩ 0 _).mpr
    ⟨by decide, by decide +kernel⟩).2

/-- The first expiration comes `336 * 2 ^ 32 - 1` milliseconds after the epoch. -/
theorem interval_wrapped : ¬ ∀ acts,
    Guarded step (fun q a => ∀ q', q.step a = some q' → q'.Armed 10) acts newQueue := by
  intro hall
  have hrun := hall [.push 3 [1, 2], .expire ⟨1443109011, 455000000⟩ 1]
  have harmed := (hrun.2 _ rfl).1 _ rfl
  exact absurd harmed.positive (by decide +kernel)

end MessageQueue

end Mysya
