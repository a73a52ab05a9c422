import Mathlib.Data.List.Nodup
import Mathlib.Logic.Function.Iterate

/-!
# Object pools

`PoolTemplate` of the combat server. Objects lie at addresses, and `default` is
what the constructor of the class makes. The answers of `new (std::nothrow)` come
from outside: `news` lists the next ones, and `none`, an address in use or the end
of the list is `NULL`.
-/

namespace Mysya

abbrev Ptr := Nat

structure PoolTemplate (E : Type) where
  initialSize : Nat
  extendSize : Nat
  objects : Ptr → Option E
  list : List Ptr
  news : List (Option Ptr)

namespace PoolTemplate

variable {E : Type}

/-- One round of the loop of `Extend`. -/
def pushNew [Inhabited E] (pool : PoolTemplate E) : PoolTemplate E :=
  match pool.news with
  | some p :: news =>
    if (pool.objects p).isSome then { pool with news := news }
    else { pool with
      objects := Function.update pool.objects p (some default)
      list := pool.list ++ [p]
      news := news }
  | none :: news => { pool with news := news }
  | [] => pool

/-- The constructor. -/
def new [Inhabited E] (initialSize extendSize : Nat) (news : List (Option Ptr)) : PoolTemplate E :=
  pushNew^[initialSize]
    { initialSize := initialSize
      extendSize := extendSize
      objects := fun _ => none
      list := []
      news := news }

def extend [Inhabited E] (pool : PoolTemplate E) : PoolTemplate E :=
  pushNew^[pool.extendSize] pool

def allocate [Inhabited E] (pool : PoolTemplate E) : Option Ptr × PoolTemplate E :=
  let pool := if pool.list.isEmpty then pool.extend else pool
  match pool.list with
  | [] => (none, pool)
  | p :: list => (some p, { pool with list := list })

/-- One round of the loop of `Reduce`. -/
def deleteFirst (pool : PoolTemplate E) : PoolTemplate E :=
  match pool.list with
  | [] => pool
  | p :: list => { pool with objects := Function.update pool.objects p none, list := list }

def reduce (pool : PoolTemplate E) (size : Nat) : PoolTemplate E := deleteFirst^[size] pool

def deallocate (pool : PoolTemplate E) (p : Ptr) : PoolTemplate E :=
  let pool := { pool with list := pool.list ++ [p] }
  if pool.initialSize < pool.list.length then
    pool.reduce (pool.list.length - pool.initialSize)
  else pool

def read [Inhabited E] (pool : PoolTemplate E) (p : Ptr) : E := (pool.objects p).getD default

def modify (pool : PoolTemplate E) (p : Ptr) (change : E → E) : PoolTemplate E :=
  { pool with objects := Function.update pool.objects p ((pool.objects p).map change) }

@[simp] theorem modify_list (pool : PoolTemplate E) (p : Ptr) (change : E → E) :
    (pool.modify p change).list = pool.list := rfl

@[simp] theorem modify_self (pool : PoolTemplate E) (p : Ptr) (change : E → E) :
    (pool.modify p change).objects p = (pool.objects p).map change := by
  simp [modify]

@[simp] theorem modify_other (pool : PoolTemplate E) {p q : Ptr} (hq : q ≠ p) (change : E → E) :
    (pool.modify p change).objects q = pool.objects q := by
  simp [modify, hq]

theorem read_modify [Inhabited E] {pool : PoolTemplate E} {p : Ptr}
    (hlive : (pool.objects p).isSome) (change : E → E) :
    (pool.modify p change).read p = change (pool.read p) := by
  obtain ⟨e, he⟩ := Option.isSome_iff_exists.mp hlive
  simp [read, he]

@[simp] theorem read_modify_other [Inhabited E] (pool : PoolTemplate E) {p q : Ptr} (hq : q ≠ p)
    (change : E → E) : (pool.modify p change).read q = pool.read q := by
  simp [read, hq]

/-- Every listed object is there, once. -/
structure Sound (pool : PoolTemplate E) : Prop where
  nodup : pool.list.Nodup
  live : ∀ p ∈ pool.list, (pool.objects p).isSome

/-- An object that was handed out. -/
def Held (pool : PoolTemplate E) (p : Ptr) : Prop := (pool.objects p).isSome ∧ p ∉ pool.list

section Modify

variable {pool : PoolTemplate E} {p q : Ptr}

theorem modify_isSome (change : E → E) :
    ((pool.modify p change).objects q).isSome = (pool.objects q).isSome := by
  by_cases hqp : q = p
  · simp [hqp]
  · simp [hqp]

theorem Sound.modify (h : pool.Sound) (p : Ptr) (change : E → E) :
    (pool.modify p change).Sound := by
  refine ⟨h.nodup, fun q hq => ?_⟩
  rw [modify_isSome]
  exact h.live q hq

theorem held_modify (change : E → E) : (pool.modify p change).Held q ↔ pool.Held q := by
  rw [Held, Held, modify_isSome, modify_list]

end Modify

/-! ## Handing out -/

section Allocate

variable [Inhabited E] {pool pool' pool'' : PoolTemplate E} {p q : Ptr}

/-- Nothing is listed, and there is memory for one. -/
theorem allocate_new {news : List (Option Ptr)} (hlist : pool.list = [])
    (hextend : pool.extendSize = 1) (hnews : pool.news = some p :: news)
    (hfree : pool.objects p = none) : pool.allocate =
      (some p, { pool with
        objects := Function.update pool.objects p (some default), news := news }) := by
  simp [allocate, extend, pushNew, hlist, hextend, hnews, hfree]

/-- New objects at free addresses, and nothing else listed that was not. -/
structure Grown (pool pool' : PoolTemplate E) : Prop where
  sound : pool'.Sound
  objects : ∀ q, pool'.objects q = pool.objects q ∨
    pool.objects q = none ∧ pool'.objects q = some default
  list : ∀ q ∈ pool'.list, q ∈ pool.list ∨ pool.objects q = none

theorem Grown.refl (h : pool.Sound) : Grown pool pool := by
  constructor
  · exact h
  · simp
  · intro q hq
    exact Or.inl hq

theorem Grown.trans (h : Grown pool pool') (h' : Grown pool' pool'') : Grown pool pool'' := by
  constructor
  · exact h'.sound
  · intro q
    rcases h.objects q with hq | ⟨hfree, hq⟩ <;> rcases h'.objects q with hq' | ⟨hfree', hq'⟩
    · exact Or.inl (hq'.trans hq)
    · exact Or.inr ⟨hq ▸ hfree', hq'⟩
    · exact Or.inr ⟨hfree, hq'.trans hq⟩
    · exact Or.inr ⟨hfree, hq'⟩
  · intro q hq
    rcases h'.list q hq with hin | hfree
    · exact h.list q hin
    · rcases h.objects q with hsame | ⟨hnone, _⟩
      · exact Or.inr (hsame ▸ hfree)
      · exact Or.inr hnone

theorem Grown.some (h : Grown pool pool') {e : E} (he : pool.objects q = some e) :
    pool'.objects q = some e := by
  rcases h.objects q with hq | ⟨hfree, _⟩
  · rw [hq, he]
  · simp [he] at hfree

theorem Grown.held (h : Grown pool pool') (hq : pool.Held q) : pool'.Held q := by
  obtain ⟨e, he⟩ := Option.isSome_iff_exists.mp hq.1
  refine ⟨by simp [h.some he], fun hin => ?_⟩
  rcases h.list q hin with hlisted | hfree
  · exact hq.2 hlisted
  · simp [he] at hfree

theorem pushNew_grown (h : pool.Sound) : Grown pool pool.pushNew := by
  simp only [pushNew]
  split
  · rename_i p news _
    split
    · exact { Grown.refl h with sound := ⟨h.nodup, h.live⟩ }
    · rename_i hfree
      rw [Option.not_isSome_iff_eq_none] at hfree
      have hnew : p ∉ pool.list := fun hin => by simpa [hfree] using h.live p hin
      constructor
      · constructor
        · simpa using h.nodup.concat hnew
        · intro q hq
          by_cases hqp : q = p
          · simp [hqp]
          · simp only [List.mem_append, List.mem_singleton, hqp, or_false] at hq
            simpa [hqp] using h.live q hq
      · intro q
        by_cases hqp : q = p
        · simp [hqp, hfree]
        · simp [hqp]
      · intro q hq
        simp only [List.mem_append, List.mem_singleton] at hq
        rcases hq with hin | rfl
        · exact Or.inl hin
        · exact Or.inr hfree
  · exact { Grown.refl h with sound := ⟨h.nodup, h.live⟩ }
  · exact .refl h

theorem pushNews_grown (h : pool.Sound) (n : Nat) : Grown pool (pushNew^[n] pool) := by
  induction n with
  | zero => exact .refl h
  | succ n ih =>
    rw [Function.iterate_succ_apply']
    exact ih.trans (pushNew_grown ih.sound)

theorem extend_grown (h : pool.Sound) : Grown pool pool.extend :=
  pushNews_grown h pool.extendSize

theorem new_grown (initialSize extendSize : Nat) (news : List (Option Ptr)) :
    Grown ⟨initialSize, extendSize, fun _ => none, [], news⟩
      (new initialSize extendSize news : PoolTemplate E) := by
  apply pushNews_grown
  constructor
  · simp
  · simp

/-- What `Allocate` finds in the list. -/
def filled (pool : PoolTemplate E) : PoolTemplate E :=
  if pool.list.isEmpty then pool.extend else pool

theorem filled_grown (h : pool.Sound) : Grown pool pool.filled := by
  simp only [filled]
  split
  · exact extend_grown h
  · exact .refl h

theorem allocate_eq (pool : PoolTemplate E) : pool.allocate =
    match pool.filled.list with
    | [] => (none, pool.filled)
    | p :: list => (some p, { pool.filled with list := list }) := rfl

theorem allocate_grown (h : pool.Sound) : Grown pool pool.allocate.2 := by
  have hfilled := filled_grown h
  rw [allocate_eq]
  split
  · exact hfilled
  · rename_i p list hlist
    have hsub : ∀ q ∈ list, q ∈ pool.filled.list := by
      intro q hq
      rw [hlist]
      exact List.mem_cons_of_mem p hq
    constructor
    · constructor
      · exact (List.nodup_cons.mp (hlist ▸ hfilled.sound.nodup)).2
      · intro q hq
        exact hfilled.sound.live q (hsub q hq)
    · exact hfilled.objects
    · intro q hq
      exact hfilled.list q (hsub q hq)

theorem grown_of_allocate (h : pool.Sound) {answer : Option Ptr}
    (hp : pool.allocate = (answer, pool')) : Grown pool pool' := by
  have hgrown := allocate_grown h
  rwa [hp] at hgrown

theorem pushNew_not_held (h : pool.Sound) (hq : ¬ pool.Held q) : ¬ pool.pushNew.Held q := by
  rintro ⟨hlive, hout⟩
  rcases (pushNew_grown h).objects q with hsame | ⟨hnone, _⟩
  · refine hq ⟨hsame ▸ hlive, fun hin => hout ?_⟩
    simp only [pushNew]
    split
    · split
      · exact hin
      · exact List.mem_append_left _ hin
    · exact hin
    · exact hin
  · revert hlive hout
    simp only [pushNew]
    split
    · rename_i p news _
      split
      · simp [hnone]
      · by_cases hqp : q = p
        · simp [hqp]
        · simp [hqp, hnone]
    · simp [hnone]
    · simp [hnone]

theorem filled_held (h : pool.Sound) (hq : pool.filled.Held q) : pool.Held q := by
  by_contra hnot
  have hpushes : ∀ n, ¬ (pushNew^[n] pool).Held q := by
    intro n
    induction n with
    | zero => exact hnot
    | succ n ih =>
      rw [Function.iterate_succ_apply']
      exact pushNew_not_held (pushNews_grown h n).sound ih
  simp only [filled, extend] at hq
  split at hq
  · exact hpushes _ hq
  · exact hnot hq

/-- Nothing is handed out but the answer. -/
theorem allocate_held_or (h : pool.Sound) {answer : Option Ptr}
    (hp : pool.allocate = (answer, pool')) (hq : pool'.Held q) :
    pool.Held q ∨ answer = some q := by
  rw [allocate_eq] at hp
  split at hp
  · obtain ⟨rfl, rfl⟩ : none = answer ∧ pool.filled = pool' := by simpa using hp
    exact Or.inl (filled_held h hq)
  · rename_i p list hlist
    obtain ⟨rfl, rfl⟩ : some p = answer ∧ { pool.filled with list := list } = pool' := by
      simpa using hp
    by_cases hqp : q = p
    · exact Or.inr (congrArg some hqp.symm)
    · refine Or.inl (filled_held h ⟨hq.1, fun hin => ?_⟩)
      rw [hlist] at hin
      exact hq.2 ((List.mem_cons.mp hin).resolve_left hqp)

/-- Where there is nothing to hand out, nothing is handed out. -/
theorem allocate_none_held (h : pool.Sound) (hp : pool.allocate = (none, pool')) :
    pool'.Held q ↔ pool.Held q := by
  refine ⟨fun hq => ?_, (grown_of_allocate h hp).held⟩
  exact (allocate_held_or h hp hq).resolve_right (by simp)

/-- The object handed out is held from now on, and was not before. -/
theorem allocate_held (h : pool.Sound) (hp : pool.allocate = (some p, pool')) :
    pool'.Held p ∧ ¬ pool.Held p := by
  have hfilled := filled_grown h
  rw [allocate_eq] at hp
  split at hp
  · simp at hp
  · rename_i q list hlist
    obtain ⟨rfl, rfl⟩ : q = p ∧ { pool.filled with list := list } = pool' := by simpa using hp
    have hlisted : q ∈ pool.filled.list := by simp [hlist]
    refine ⟨⟨hfilled.sound.live q hlisted, ?_⟩, ?_⟩
    · exact (List.nodup_cons.mp (hlist ▸ hfilled.sound.nodup)).1
    · rintro ⟨hlive, hout⟩
      rcases hfilled.list q hlisted with hin | hfree
      · exact hout hin
      · simp [hfree] at hlive

/-- The first listed object is taken, or a new one. -/
theorem allocate_first (h : pool.Sound) (hp : pool.allocate = (some p, pool')) :
    pool.list.head? = some p ∨ pool.objects p = none := by
  have hfilled := filled_grown h
  rw [allocate_eq] at hp
  split at hp
  · cases hp
  · rename_i q list hlist
    cases hp
    rcases hold : pool.list with _ | ⟨x, rest⟩
    · right
      have hin : p ∈ pool.filled.list := by
        rw [hlist]
        exact List.mem_cons_self ..
      rcases hfilled.list p hin with hlisted | hfree
      · rw [hold] at hlisted
        cases hlisted
      · exact hfree
    · left
      have hsame : pool.filled = pool := by
        rw [filled, hold]
        rfl
      rw [hsame, hold] at hlist
      rw [(List.cons.inj hlist).1]
      rfl

end Allocate

/-! ## What is handed out next -/

section HandedOut

variable [Inhabited E] {pool : PoolTemplate E} {q : Ptr}

/-- What the next `n` objects hold when they are handed out. -/
def handedOut (pool : PoolTemplate E) : Nat → List E
  | 0 => []
  | n + 1 =>
    match pool.allocate with
    | (none, _) => []
    | (some p, pool) => pool.read p :: handedOut pool n

theorem pushNew_modify (hq : (pool.objects q).isSome) (change : E → E) :
    (pool.modify q change).pushNew = pool.pushNew.modify q change := by
  simp only [pushNew, modify]
  split
  · rename_i p news _
    by_cases hp : (pool.objects p).isSome
    · have hp' : (Function.update pool.objects q ((pool.objects q).map change) p).isSome :=
        (modify_isSome change).trans hp
      simp [hp, hp']
    · have hp' : ¬ (Function.update pool.objects q ((pool.objects q).map change) p).isSome :=
        fun h => hp ((modify_isSome change).symm.trans h)
      have hne : q ≠ p := fun heq => hp (heq ▸ hq)
      simp [hp, hp', hne, Function.update_comm hne]
  · rfl
  · rfl

theorem pushNew_live (hq : (pool.objects q).isSome) : (pool.pushNew.objects q).isSome := by
  simp only [pushNew]
  split
  · rename_i p news _
    split
    · exact hq
    · by_cases hqp : q = p
      · simp [hqp]
      · simpa [hqp] using hq
  · exact hq
  · exact hq

theorem pushNews_modify (hq : (pool.objects q).isSome) (change : E → E) (n : Nat) :
    pushNew^[n] (pool.modify q change) = (pushNew^[n] pool).modify q change := by
  induction n generalizing pool with
  | zero => rfl
  | succ n ih =>
    rw [Function.iterate_succ_apply, Function.iterate_succ_apply, pushNew_modify hq,
      ih (pushNew_live hq)]

theorem filled_modify (hq : (pool.objects q).isSome) (change : E → E) :
    (pool.modify q change).filled = pool.filled.modify q change := by
  by_cases hempty : pool.list.isEmpty
  · simp only [filled, modify_list, hempty, if_true]
    exact pushNews_modify hq change pool.extendSize
  · simp [filled, hempty]

theorem allocate_modify (hq : (pool.objects q).isSome) (change : E → E) :
    (pool.modify q change).allocate = (pool.allocate.1, pool.allocate.2.modify q change) := by
  rw [allocate_eq, allocate_eq, filled_modify hq, modify_list]
  split
  · rfl
  · rfl

/-- Changing an object that was handed out changes nothing about the next ones. -/
theorem handedOut_modify (h : pool.Sound) (hq : pool.Held q) (change : E → E) (n : Nat) :
    (pool.modify q change).handedOut n = pool.handedOut n := by
  induction n generalizing pool with
  | zero => rfl
  | succ n ih =>
    have hgrown := allocate_grown h
    simp only [handedOut, allocate_modify hq.1]
    cases hp : pool.allocate with
    | mk answer pool' =>
      rw [hp] at hgrown
      cases answer with
      | none => rfl
      | some p =>
        have hne : p ≠ q := fun heq => (allocate_held h hp).2 (heq ▸ hq)
        simp only [read_modify_other pool' hne change, ih hgrown.sound (hgrown.held hq)]

end HandedOut

/-! ## Taking back -/

section Deallocate

variable {pool pool' pool'' : PoolTemplate E} {p q : Ptr}

/-- Some of the listed objects are deleted. -/
structure Reduced (pool pool' : PoolTemplate E) : Prop where
  sound : pool'.Sound
  objects : ∀ q, q ∉ pool.list → pool'.objects q = pool.objects q
  list : ∀ q ∈ pool'.list, q ∈ pool.list

theorem deleteFirst_reduced (h : pool.Sound) : Reduced pool pool.deleteFirst := by
  simp only [deleteFirst]
  split
  · exact ⟨h, fun _ _ => rfl, fun _ => id⟩
  · rename_i p list hlist
    have hnodup := hlist ▸ h.nodup
    constructor
    · constructor
      · exact (List.nodup_cons.mp hnodup).2
      · intro q hq
        have hqp : q ≠ p := by
          rintro rfl
          exact (List.nodup_cons.mp hnodup).1 hq
        simpa [hqp] using h.live q (by simp [hlist, hq])
    · intro q hq
      have hqp : q ≠ p := by
        rintro rfl
        simp [hlist] at hq
      simp [hqp]
    · intro q hq
      simp [hlist, hq]

theorem reduce_reduced (h : pool.Sound) (size : Nat) : Reduced pool (pool.reduce size) := by
  simp only [reduce]
  induction size with
  | zero => exact ⟨h, fun _ _ => rfl, fun _ => id⟩
  | succ n ih =>
    rw [Function.iterate_succ_apply']
    have hstep := deleteFirst_reduced ih.sound
    constructor
    · exact hstep.sound
    · intro q hq
      rw [hstep.objects q (fun hin => hq (ih.list q hin)), ih.objects q hq]
    · intro q hq
      exact ih.list q (hstep.list q hq)

theorem deallocate_reduced (h : pool.Sound) (hp : pool.Held p) :
    Reduced { pool with list := pool.list ++ [p] } (pool.deallocate p) := by
  have hsound : Sound { pool with list := pool.list ++ [p] } := by
    constructor
    · simpa using h.nodup.concat hp.2
    · intro q hq
      simp only [List.mem_append, List.mem_singleton] at hq
      rcases hq with hin | rfl
      · exact h.live q hin
      · exact hp.1
  simp only [deallocate]
  split
  · exact reduce_reduced hsound _
  · exact ⟨hsound, fun _ _ => rfl, fun _ => id⟩

theorem deleteFirst_objects (pool : PoolTemplate E) (q : Ptr) :
    pool.deleteFirst.objects q = pool.objects q ∨ pool.deleteFirst.objects q = none := by
  simp only [deleteFirst]
  split
  · exact Or.inl rfl
  · rename_i p list _
    by_cases hqp : q = p
    · exact Or.inr (by simp [hqp])
    · exact Or.inl (by simp [hqp])

/-- An object is left as it is or deleted. -/
theorem deallocate_objects_or (pool : PoolTemplate E) (p q : Ptr) :
    (pool.deallocate p).objects q = pool.objects q ∨ (pool.deallocate p).objects q = none := by
  have hdelete : ∀ (n : Nat) (pool : PoolTemplate E),
      (deleteFirst^[n] pool).objects q = pool.objects q ∨
        (deleteFirst^[n] pool).objects q = none := by
    intro n
    induction n with
    | zero => exact fun pool => Or.inl rfl
    | succ n ih =>
      intro pool
      rw [Function.iterate_succ_apply]
      rcases ih pool.deleteFirst with hsame | hnone
      · rw [hsame]
        exact deleteFirst_objects pool q
      · exact Or.inr hnone
  simp only [deallocate]
  split
  · exact hdelete _ _
  · exact Or.inl rfl

theorem deallocate_read_or [Inhabited E] (pool : PoolTemplate E) (p q : Ptr) :
    (pool.deallocate p).read q = pool.read q ∨ (pool.deallocate p).read q = default := by
  rcases pool.deallocate_objects_or p q with hsame | hnone
  · left
    rw [read, hsame, read]
  · right
    rw [read, hnone]
    rfl

theorem deleteFirst_not_held (hq : ¬ pool.Held q) : ¬ pool.deleteFirst.Held q := by
  rintro ⟨hlive, hout⟩
  rcases deleteFirst_objects pool q with hsame | hnone
  · refine hq ⟨hsame ▸ hlive, fun hin => ?_⟩
    cases hlist : pool.list with
    | nil => simp [hlist] at hin
    | cons p list =>
      have hdelete : pool.deleteFirst =
          { pool with objects := Function.update pool.objects p none, list := list } := by
        simp [deleteFirst, hlist]
      rw [hdelete] at hlive hout
      by_cases hqp : q = p
      · simp [hqp] at hlive
      · simp only [hlist, List.mem_cons, hqp, false_or] at hin
        exact hout hin
  · simp [hnone] at hlive

/-- What is handed out afterwards was before, and is not what was taken back. -/
theorem held_of_deallocate (hq : (pool.deallocate p).Held q) : pool.Held q ∧ q ≠ p := by
  have hsteps : ∀ (n : Nat) (pool : PoolTemplate E), ¬ pool.Held q →
      ¬ (deleteFirst^[n] pool).Held q := by
    intro n
    induction n with
    | zero => exact fun pool hq => hq
    | succ n ih =>
      intro pool hq
      rw [Function.iterate_succ_apply]
      exact ih pool.deleteFirst (deleteFirst_not_held hq)
  have hback : Held { pool with list := pool.list ++ [p] } q := by
    by_contra hnot
    simp only [deallocate] at hq
    split at hq
    · exact hsteps _ _ hnot hq
    · exact hnot hq
  obtain ⟨hlive, hout⟩ := hback
  simp only [List.mem_append, List.mem_singleton, not_or] at hout
  exact ⟨⟨hlive, hout.1⟩, hout.2⟩

/-- An object that was taken back is not handed out. -/
theorem deallocate_not_held (pool : PoolTemplate E) (p : Ptr) : ¬ (pool.deallocate p).Held p :=
  fun h => (held_of_deallocate h).2 rfl

/-- The other objects handed out are not touched. -/
theorem deallocate_objects (h : pool.Sound) (hp : pool.Held p) (hq : q ∉ pool.list)
    (hqp : q ≠ p) : (pool.deallocate p).objects q = pool.objects q :=
  (deallocate_reduced h hp).objects q (by simp [hq, hqp])

theorem deallocate_held (h : pool.Sound) (hp : pool.Held p) (hq : pool.Held q) (hqp : q ≠ p) :
    (pool.deallocate p).Held q := by
  refine ⟨?_, fun hin => ?_⟩
  · rw [deallocate_objects h hp hq.2 hqp]
    exact hq.1
  · simpa [hq.2, hqp] using (deallocate_reduced h hp).list q hin

end Deallocate

end PoolTemplate

end Mysya
