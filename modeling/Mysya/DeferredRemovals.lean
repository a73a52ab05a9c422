import Mathlib.Data.List.Induction
import Mathlib.Data.Set.Insert

/-!
# Deferred removals

A set whose removals wait while it is being served: an addition takes effect at once, a
removal only when the serving ends. Against the same calls in order, the result differs
in the elements whose last call is an addition made while a removal of the element waits.
-/

namespace DeferredRemovals

variable {α : Type*}

inductive Event (α : Type*)
  | enter
  | leave
  | add (a : α)
  | remove (a : α)

structure State (α : Type*) where
  present : Set α
  serving : Bool
  pending : List α

namespace State

/-- All that waits is removed. -/
def settle (s : State α) : State α := ⟨{a ∈ s.present | a ∉ s.pending}, false, []⟩

def step (s : State α) : Event α → State α
  | .enter => { s with serving := true }
  | .leave => s.settle
  | .add a => { s with present := insert a s.present }
  | .remove a =>
    if s.serving then { s with pending := s.pending ++ [a] }
    else { s with present := s.present \ {a} }

def run (s : State α) (l : List (Event α)) : State α := l.foldl step s

def idle (present : Set α) : State α := ⟨present, false, []⟩

end State

/-- An addition or a removal without delay. -/
def apply (present : Set α) : Event α → Set α
  | .add a => insert a present
  | .remove a => present \ {a}
  | _ => present

def inOrder (present : Set α) (l : List (Event α)) : Set α := l.foldl apply present

/-- Whether the set is being served after these events. -/
def serving (l : List (Event α)) : Bool :=
  l.foldl (fun b e => match e with | .enter => true | .leave => false | _ => b) false

/-- A removal of `a` waits after these events. -/
def Waits (a : α) (l : List (Event α)) : Prop :=
  ∃ p q, l = p ++ .remove a :: q ∧ serving p = true ∧ Event.leave ∉ q

/-- The last call for `a` is an addition made while a removal of `a` waits. -/
def Overtaken (a : α) (l : List (Event α)) : Prop :=
  ∃ p q, l = p ++ .add a :: q ∧ Waits a p ∧ Event.add a ∉ q ∧ Event.remove a ∉ q

theorem State.settle_of_pending {s : State α} (hserving : s.serving = false)
    (hpending : s.pending = []) : s.settle = s := by
  obtain ⟨present, serving, pending⟩ := s
  subst hserving hpending
  simp [State.settle]

theorem State.foldl_remove (l : List α) {s : State α} (hserving : s.serving = false) :
    l.foldl (fun s a => s.step (.remove a)) s = ⟨{a ∈ s.present | a ∉ l}, false, s.pending⟩ := by
  obtain ⟨present, serving, pending⟩ := s
  subst hserving
  induction l generalizing present with
  | nil => simp
  | cons b l ih =>
    rw [List.foldl_cons]
    refine (ih (present \ {b})).trans (congrArg (State.mk · false pending) (Set.ext fun a => ?_))
    simp only [Set.mem_ofPred_eq, Set.mem_sdiff, Set.mem_singleton_iff, List.mem_cons, not_or]
    exact and_assoc

/-- While the set is served it only grows. -/
theorem State.run_grows (l : List (Event α)) {s : State α} (hserving : s.serving = true)
    (hleave : Event.leave ∉ l) :
    (s.run l).serving = true ∧ (s.run l).present = s.present ∪ {a | Event.add a ∈ l} := by
  induction l generalizing s with
  | nil => simp [State.run, hserving]
  | cons e l ih =>
    rw [List.mem_cons, not_or] at hleave
    obtain ⟨hne, hrest⟩ := hleave
    have hstep : (s.step e).serving = true ∧
        (s.step e).present = s.present ∪ {a | Event.add a = e} := by
      cases e with
      | enter => simp [State.step]
      | leave => exact absurd rfl hne
      | add b =>
        refine ⟨hserving, Set.ext fun a => ?_⟩
        simp [State.step]
      | remove b => simp [State.step, hserving]
    obtain ⟨hserved, hpresent⟩ := ih hstep.1 hrest
    refine ⟨hserved, hpresent.trans ?_⟩
    rw [hstep.2, Set.union_assoc]
    refine congrArg (s.present ∪ ·) (Set.ext fun a => ?_)
    simp only [Set.mem_union, Set.mem_ofPred_eq, List.mem_cons]

/-! ## One event more -/

@[simp] theorem run_snoc (s : State α) (l : List (Event α)) (e : Event α) :
    s.run (l ++ [e]) = (s.run l).step e := by
  simp [State.run]

theorem State.run_append (s : State α) (l l' : List (Event α)) :
    s.run (l ++ l') = (s.run l).run l' := by
  rw [State.run, List.foldl_append]
  rfl

@[simp] theorem inOrder_snoc (present : Set α) (l : List (Event α)) (e : Event α) :
    inOrder present (l ++ [e]) = apply (inOrder present l) e := by
  simp [inOrder]

@[simp] theorem serving_snoc (l : List (Event α)) (e : Event α) :
    serving (l ++ [e]) =
      match e with | .enter => true | .leave => false | _ => serving l := by
  rw [serving, List.foldl_append]
  rfl

theorem snoc_split {l p q : List (Event α)} {e f : Event α} (h : l ++ [e] = p ++ f :: q) :
    (q = [] ∧ p = l ∧ f = e) ∨ ∃ r, q = r ++ [e] ∧ l = p ++ f :: r := by
  rcases List.eq_nil_or_concat q with rfl | ⟨r, g, rfl⟩
  · obtain ⟨hl, he⟩ := List.append_inj' h rfl
    exact .inl ⟨rfl, hl.symm, by simpa using he.symm⟩
  · rw [List.concat_eq_append, ← List.cons_append, ← List.append_assoc] at h
    obtain ⟨hl, he⟩ := List.append_inj' h rfl
    exact .inr ⟨r, by simpa using he.symm, hl⟩

theorem waits_snoc (a : α) (l : List (Event α)) (e : Event α) :
    Waits a (l ++ [e]) ↔
      (e = .remove a ∧ serving l = true) ∨ (e ≠ .leave ∧ Waits a l) := by
  constructor
  · rintro ⟨p, q, hl, hp, hq⟩
    rcases snoc_split hl with ⟨rfl, rfl, rfl⟩ | ⟨r, rfl, rfl⟩
    · exact .inl ⟨rfl, hp⟩
    · rw [List.mem_append, List.mem_singleton, not_or] at hq
      exact .inr ⟨fun he => hq.2 he.symm, p, r, rfl, hp, hq.1⟩
  · rintro (⟨rfl, hl⟩ | ⟨he, p, q, rfl, hp, hq⟩)
    · exact ⟨l, [], rfl, hl, List.not_mem_nil⟩
    · refine ⟨p, q ++ [e], by simp, hp, ?_⟩
      rw [List.mem_append, List.mem_singleton, not_or]
      exact ⟨hq, fun h => he h.symm⟩

theorem overtaken_snoc (a : α) (l : List (Event α)) (e : Event α) :
    Overtaken a (l ++ [e]) ↔
      (e = .add a ∧ Waits a l) ∨ (e ≠ .add a ∧ e ≠ .remove a ∧ Overtaken a l) := by
  constructor
  · rintro ⟨p, q, hl, hp, hadd, hremove⟩
    rcases snoc_split hl with ⟨rfl, rfl, rfl⟩ | ⟨r, rfl, rfl⟩
    · exact .inl ⟨rfl, hp⟩
    · rw [List.mem_append, List.mem_singleton, not_or] at hadd hremove
      exact .inr ⟨fun h => hadd.2 h.symm, fun h => hremove.2 h.symm, p, r, rfl, hp, hadd.1,
        hremove.1⟩
  · rintro (⟨rfl, hl⟩ | ⟨hadd, hremove, p, q, rfl, hp, hqa, hqr⟩)
    · exact ⟨l, [], rfl, hl, List.not_mem_nil, List.not_mem_nil⟩
    · refine ⟨p, q ++ [e], by simp, hp, ?_, ?_⟩
      all_goals rw [List.mem_append, List.mem_singleton, not_or]
      · exact ⟨hqa, fun h => hadd h.symm⟩
      · exact ⟨hqr, fun h => hremove h.symm⟩

/-! ## Runs from an idle set -/

theorem run_serving (present : Set α) (l : List (Event α)) :
    ((State.idle present).run l).serving = serving l := by
  induction l using List.reverseRecOn with
  | nil => rfl
  | append_singleton l e ih =>
    rw [run_snoc, serving_snoc]
    cases e with
    | enter => rfl
    | leave => rfl
    | add a => exact ih
    | remove a =>
      rw [State.step]
      split <;> exact ih

theorem mem_pending (present : Set α) (l : List (Event α)) (a : α) :
    a ∈ ((State.idle present).run l).pending ↔ Waits a l := by
  induction l using List.reverseRecOn with
  | nil =>
    constructor
    · intro h
      cases h
    · rintro ⟨p, q, h, -⟩
      simp at h
  | append_singleton l e ih =>
    rw [run_snoc, waits_snoc]
    cases e with
    | enter => simpa [State.step] using ih
    | leave => simp [State.step, State.settle]
    | add b => simpa [State.step] using ih
    | remove b =>
      rw [State.step, run_serving]
      cases hl : serving l with
      | false => simpa using ih
      | true => simp [ih, or_comm, eq_comm]

/-- What stays of the set once all that waits is removed. -/
theorem mem_settle (present : Set α) (l : List (Event α)) (a : α) :
    a ∈ ((State.idle present).run l).settle.present ↔
      a ∈ inOrder present l ∧ ¬ Overtaken a l := by
  suffices h : a ∈ ((State.idle present).run l).present ∧ ¬ Waits a l ↔
      a ∈ inOrder present l ∧ ¬ Overtaken a l by
    rw [← h, ← mem_pending present]
    rfl
  induction l using List.reverseRecOn with
  | nil => simp [State.run, State.idle, inOrder, Waits, Overtaken]
  | append_singleton l e ih =>
    rw [run_snoc, inOrder_snoc, waits_snoc, overtaken_snoc]
    cases e with
    | enter => simpa [State.step, apply] using ih
    | leave => simpa [State.step, State.settle, apply, mem_pending] using ih
    | add b =>
      by_cases hb : a = b
      · simp [State.step, apply, hb]
      · simpa [State.step, apply, hb, Ne.symm hb] using ih
    | remove b =>
      rw [State.step, run_serving]
      by_cases hb : a = b
      · cases hl : serving l <;> simp [apply, hb]
      · cases hl : serving l <;> simpa [apply, hb, Ne.symm hb] using ih

theorem Overtaken.mem_inOrder {a : α} {l : List (Event α)} (present : Set α)
    (h : Overtaken a l) : a ∈ inOrder present l := by
  induction l using List.reverseRecOn with
  | nil =>
    obtain ⟨p, q, hl, -⟩ := h
    simp at hl
  | append_singleton l e ih =>
    rw [inOrder_snoc]
    rcases (overtaken_snoc a l e).mp h with ⟨rfl, -⟩ | ⟨-, hremove, hl⟩
    · exact Set.mem_insert a _
    · cases e with
      | enter => exact ih hl
      | leave => exact ih hl
      | add b => exact Set.mem_insert_of_mem b (ih hl)
      | remove b =>
        refine ⟨ih hl, fun hb => hremove ?_⟩
        rw [Set.mem_singleton_iff.mp hb]

/-- Once nothing waits, the calls took effect in order exactly if no addition was
overtaken. -/
theorem settle_inOrder (present : Set α) (l : List (Event α)) :
    ((State.idle present).run l).settle.present = inOrder present l ↔
      ∀ a, ¬ Overtaken a l := by
  constructor
  · intro h a ha
    have hmem : a ∈ ((State.idle present).run l).settle.present := by
      rw [h]
      exact ha.mem_inOrder present
    exact ((mem_settle present l a).mp hmem).2 ha
  · intro h
    ext a
    rw [mem_settle]
    exact ⟨fun ha => ha.1, fun ha => ⟨ha, h a⟩⟩

end DeferredRemovals
