import Mysya.TcpSocketApp
import Mysya.Tables

/-!
# Outcomes of connects

`TcpSocketApp` and the transport agents tell the application how a connect
ended by notices that name the attempt. What they share is stated here for any
kind of notice: an attempt has one outcome at most, and a notice of a success
is true.
-/

namespace Mysya

/-- The kernel reports nothing for a pending connect, and a failed one as writable
together with an error. -/
def EpollEvent.Honest (event : EpollEvent) (connects : Nat → Option ConnectStatus) : Prop :=
  (connects event.source = some .pending →
    event.read = false ∧ event.write = false ∧ event.error = false) ∧
  (connects event.source = some .failed → event.write = true ∧ event.error = true)

/-- An honest event of an attempt that is writable and has not failed comes when it has
succeeded. -/
theorem EpollEvent.Honest.succeeded {event : EpollEvent} {connects : Nat → Option ConnectStatus}
    (h : event.Honest connects) (hflag : event.write = true) {attempt : Nat}
    (hsource : event.source = attempt) (hconnect : (connects attempt).isSome)
    (hfailed : connects attempt ≠ some .failed) : connects attempt = some .succeeded := by
  obtain ⟨status, hstatus⟩ := Option.isSome_iff_exists.mp hconnect
  rw [hstatus] at hfailed ⊢
  cases status with
  | succeeded => rfl
  | failed => exact absurd rfl hfailed
  | pending =>
    have hquiet := h.1 (by rw [hsource]; exact hstatus)
    rw [hflag] at hquiet
    cases hquiet.2.1

section Notices

variable {N : Type*} {object : N → Nat} {ends : N → Bool} {n : N} {attempt : Nat}

/-- The notices that tell how an attempt ended. -/
def outcomesOf (object : N → Nat) (ends : N → Bool) (notices : List N) (attempt : Nat) : List N :=
  notices.filter fun n => object n == attempt && ends n

theorem outcomesOf_cons_other (h : object n ≠ attempt ∨ ends n = false) (notices : List N) :
    outcomesOf object ends (n :: notices) attempt = outcomesOf object ends notices attempt := by
  unfold outcomesOf
  rw [List.filter_cons_of_neg]
  rcases h with h | h
  · simp [h]
  · simp [h]

theorem length_outcomesOf_cons (n : N) (notices : List N) (attempt : Nat) :
    (outcomesOf object ends (n :: notices) attempt).length ≤
      (outcomesOf object ends notices attempt).length + 1 := by
  unfold outcomesOf
  rw [List.filter_cons]
  split
  · exact Nat.le_refl _
  · exact Nat.le_succ _

/-- An attempt that is still to be made has no outcome. -/
theorem outcomesOf_fresh {notices : List N}
    (h : ∀ n ∈ notices, ends n = true → object n < attempt) :
    outcomesOf object ends notices attempt = [] := by
  rw [outcomesOf, List.filter_eq_nil_iff]
  intro n hn hboth
  rw [Bool.and_eq_true, beq_iff_eq] at hboth
  have hlt := h n hn hboth.2
  omega

/-- No attempt has two outcomes, and what the notices say of successes is true. -/
structure Told (object : N → Nat) (ends : N → Bool) (succeeds : N → Prop)
    (connects : Nat → Option ConnectStatus) (notices : List N) : Prop where
  once : ∀ attempt, (outcomesOf object ends notices attempt).length ≤ 1
  truthful : ∀ n ∈ notices, succeeds n → connects (object n) = some .succeeded

variable {succeeds succeeds' : N → Prop} {connects : Nat → Option ConnectStatus} {notices : List N}

theorem told_nil : Told object ends succeeds connects [] where
  once := fun _ => Nat.zero_le 1
  truthful := fun _ h => by cases h

/-- A notice that is no outcome. -/
theorem Told.other (h : Told object ends succeeds connects notices) (hother : ends n = false)
    (htrue : succeeds n → connects (object n) = some .succeeded) :
    Told object ends succeeds connects (n :: notices) where
  once := fun attempt => by
    rw [outcomesOf_cons_other (Or.inr hother)]
    exact h.once attempt
  truthful := List.forall_mem_cons.mpr ⟨htrue, h.truthful⟩

/-- The first outcome of an attempt. -/
theorem Told.outcome (h : Told object ends succeeds connects notices)
    (hnone : outcomesOf object ends notices (object n) = [])
    (htrue : succeeds n → connects (object n) = some .succeeded) :
    Told object ends succeeds connects (n :: notices) where
  once := fun attempt => by
    by_cases hsame : object n = attempt
    · have hlength : (outcomesOf object ends (n :: notices) attempt).length ≤ _ :=
        length_outcomesOf_cons n notices attempt
      rw [← hsame, hnone] at hlength
      rw [← hsame]
      exact hlength
    · rw [outcomesOf_cons_other (Or.inl hsame)]
      exact h.once attempt
  truthful := List.forall_mem_cons.mpr ⟨htrue, h.truthful⟩

/-- Where a pending connect ends, no notice has told of its success yet. -/
theorem Told.finish (h : Told object ends succeeds connects notices)
    (hpending : connects attempt = some .pending) (status : ConnectStatus)
    (hfewer : ∀ n, succeeds' n → succeeds n) :
    Told object ends succeeds' (Function.update connects attempt (some status)) notices where
  once := h.once
  truthful := fun n hn hsucceeds =>
    Table.insert_kept (h.truthful n hn (hfewer n hsucceeds)) (by simp [hpending]) status

end Notices

end Mysya
