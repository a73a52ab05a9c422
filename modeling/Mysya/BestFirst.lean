import Mathlib.Algebra.BigOperators.Group.Finset.Basic
import Mathlib.Algebra.Order.BigOperators.Group.Finset
import Mathlib.Data.Prod.Lex
import Mathlib.Logic.Relation

/-!
# Best-first search of a graph

The tree a search keeps: what each vertex cost when last reached, from which
vertex, and whether it is still to be expanded. Closing an open vertex and
relaxing an edge are all a search does to it, whatever order it expands in;
the tree stays one whose parents lead back to the start at falling cost, every
change lowers a measure, and a search with nothing open has closed all it can
reach. Closed vertices may be reopened at a smaller cost.
-/

universe u

structure SearchTree (V : Type u) where
  cost : V → Int
  parent : V → Option V
  opened : V → Prop
  closed : V → Prop

namespace SearchTree

variable {V : Type u}

def Reached (t : SearchTree V) (v : V) : Prop := t.opened v ∨ t.closed v

/-- Only the start is open, at no cost. -/
def init (start : V) (cost : V → Int) (parent : V → Option V) : SearchTree V where
  cost := cost
  parent := parent
  opened := fun a => a = start
  closed := fun _ => False

def close (t : SearchTree V) (u : V) : SearchTree V where
  cost := t.cost
  parent := t.parent
  opened := fun a => t.opened a ∧ a ≠ u
  closed := fun a => a = u ∨ t.closed a

def relax [DecidableEq V] (t : SearchTree V) (u v : V) (w : Int) : SearchTree V where
  cost := Function.update t.cost v w
  parent := Function.update t.parent v (some u)
  opened := fun a => a = v ∨ t.opened a
  closed := t.closed

theorem close_reached {t : SearchTree V} {u : V} (hu : t.opened u) (a : V) :
    (t.close u).Reached a ↔ t.Reached a := by
  by_cases ha : a = u
  · subst ha
    simp [Reached, close, hu]
  · simp [Reached, close, ha]

theorem relax_reached [DecidableEq V] (t : SearchTree V) (u v : V) (w : Int) (a : V) :
    (t.relax u v w).Reached a ↔ a = v ∨ t.Reached a := by
  simp only [Reached, relax]
  exact or_assoc

/-! ## Parents lead back to the start -/

/-- Every reached vertex but the start was reached along an edge from a cheaper one. -/
structure Sound (adj : V → V → Prop) (start : V) (t : SearchTree V) : Prop where
  root : t.Reached start
  root_cost : t.cost start = 0
  nonneg : ∀ v, t.Reached v → 0 ≤ t.cost v
  descends : ∀ v, t.Reached v → v ≠ start →
    ∃ p, t.parent v = some p ∧ t.Reached p ∧ adj p v ∧ t.cost p < t.cost v

namespace Sound

variable {adj : V → V → Prop} {start : V} {t : SearchTree V}

theorem init {cost : V → Int} (parent : V → Option V) (h0 : cost start = 0) :
    Sound adj start (SearchTree.init start cost parent) := by
  have honly : ∀ v, (SearchTree.init start cost parent).Reached v → v = start := by
    rintro v (hv | hv)
    · exact hv
    · exact hv.elim
  constructor
  · exact Or.inl rfl
  · exact h0
  · intro v hv
    rw [honly v hv]
    exact h0.ge
  · intro v hv hne
    exact absurd (honly v hv) hne

theorem close (hs : Sound adj start t) {u : V} (hu : t.opened u) :
    Sound adj start (t.close u) := by
  have hr := close_reached hu
  constructor
  · exact (hr start).mpr hs.root
  · exact hs.root_cost
  · intro v hv
    exact hs.nonneg v ((hr v).mp hv)
  · intro v hv hne
    obtain ⟨p, hp, hpr, hadj, hlt⟩ := hs.descends v ((hr v).mp hv) hne
    exact ⟨p, hp, (hr p).mpr hpr, hadj, hlt⟩

theorem relax [DecidableEq V] (hs : Sound adj start t) {u v : V} {w : Int}
    (hu : t.Reached u) (hadj : adj u v) (huw : t.cost u < w)
    (better : ¬ t.Reached v ∨ w < t.cost v) : Sound adj start (t.relax u v w) := by
  have hw : 0 < w := (hs.nonneg u hu).trans_lt huw
  have hstart : v ≠ start := by
    rintro rfl
    rcases better with hb | hb
    · exact hb hs.root
    · exact absurd (hs.root_cost ▸ hb) hw.not_gt
  have huv : u ≠ v := by
    rintro rfl
    rcases better with hb | hb
    · exact hb hu
    · exact absurd hb huw.not_gt
  have hle : ∀ a, t.Reached a → (t.relax u v w).cost a ≤ t.cost a := by
    intro a ha
    by_cases hav : a = v
    · subst hav
      rcases better with hb | hb
      · exact absurd ha hb
      · simpa [SearchTree.relax] using hb.le
    · simp [SearchTree.relax, hav]
  have hr := relax_reached t u v w
  constructor
  · exact (hr start).mpr (Or.inr hs.root)
  · simp [SearchTree.relax, hstart.symm, hs.root_cost]
  · intro a ha
    by_cases hav : a = v
    · simpa [SearchTree.relax, hav] using hw.le
    · have hold := hs.nonneg a (((hr a).mp ha).resolve_left hav)
      simpa [SearchTree.relax, hav] using hold
  · intro a ha hne
    by_cases hav : a = v
    · subst hav
      exact ⟨u, by simp [SearchTree.relax], (hr u).mpr (Or.inr hu), hadj,
        by simpa [SearchTree.relax, huv] using huw⟩
    · obtain ⟨p, hp, hpr, hpa, hlt⟩ :=
        hs.descends a (((hr a).mp ha).resolve_left hav) hne
      refine ⟨p, by simpa [SearchTree.relax, hav] using hp, (hr p).mpr (Or.inr hpr), hpa, ?_⟩
      have hsame : (t.relax u v w).cost a = t.cost a := by simp [SearchTree.relax, hav]
      rw [hsame]
      exact (hle p hpr).trans_lt hlt

end Sound

theorem isChain_next {R : V → V → Prop} {l : List V} {last : V}
    (hl : (l ++ [last]).IsChain R) (a : V) (ha : a ∈ l) : ∃ b, R a b := by
  induction l with
  | nil => simp at ha
  | cons c rest ih =>
    rw [List.cons_append, List.isChain_cons] at hl
    rcases List.mem_cons.mp ha with rfl | hrest
    · cases hhead : (rest ++ [last]).head? with
      | none => simp at hhead
      | some b => exact ⟨b, hl.1 b hhead⟩
    · exact ih hl.2 hrest

/-- The vertices from `node` back to the start, the start left out. -/
def trace [DecidableEq V] (parent : V → Option V) (start : V) :
    Nat → Option V → Option (List V)
  | 0, _ => none
  | _ + 1, none => some []
  | fuel + 1, some v =>
    if v = start then some [] else (trace parent start fuel (parent v)).map (v :: ·)

section Trace

variable [DecidableEq V] {adj : V → V → Prop} {start : V} {t : SearchTree V}

theorem Sound.trace_some (hs : Sound adj start t) (fuel : Nat) (v : V) (hv : t.Reached v)
    (enough : t.cost v < fuel) : ∃ l, trace t.parent start fuel (some v) = some l := by
  induction fuel generalizing v with
  | zero =>
    have := hs.nonneg v hv
    omega
  | succ fuel ih =>
    by_cases hstart : v = start
    · exact ⟨[], by simp [trace, hstart]⟩
    · obtain ⟨p, hp, hpr, _, hlt⟩ := hs.descends v hv hstart
      obtain ⟨l, hl⟩ := ih p hpr (by omega)
      exact ⟨v :: l, by simp [trace, hstart, hp, hl]⟩

/-- Each vertex of a trace is reached by an edge from the next, which costs less. -/
theorem Sound.trace_chain (hs : Sound adj start t) {fuel : Nat} {v : V} {l : List V}
    (hv : t.Reached v) (hl : trace t.parent start fuel (some v) = some l) :
    (l ++ [start]).head? = some v ∧
      (l ++ [start]).IsChain (fun a b => adj b a ∧ t.cost b < t.cost a) := by
  induction fuel generalizing v l with
  | zero => simp [trace] at hl
  | succ fuel ih =>
    by_cases hstart : v = start
    · obtain rfl : l = [] := by simpa [trace, hstart] using hl.symm
      simp [hstart]
    · obtain ⟨p, hp, hpr, hadj, hlt⟩ := hs.descends v hv hstart
      simp only [trace, hstart, if_false, hp, Option.map_eq_some_iff] at hl
      obtain ⟨rest, hrest, rfl⟩ := hl
      obtain ⟨hhead, hchain⟩ := ih hpr hrest
      refine ⟨by simp, ?_⟩
      rw [List.cons_append, List.isChain_cons]
      refine ⟨?_, hchain⟩
      intro b hb
      obtain rfl : p = b := by simpa [hhead] using hb
      exact ⟨hadj, hlt⟩

end Trace

/-! ## Expanding a vertex -/

/-- What a search may do about the neighbour `v` of the vertex `u` it expands. -/
inductive Considers [DecidableEq V] (u : V) : SearchTree V → V → SearchTree V → Prop
  | keep {t : SearchTree V} {v : V} (reached : t.Reached v) : Considers u t v t
  | relax {t : SearchTree V} {v : V} (w : Int) (dearer : t.cost u < w)
      (better : ¬ t.Reached v ∨ w < t.cost v) : Considers u t v (t.relax u v w)

inductive ConsidersAll [DecidableEq V] (u : V) : SearchTree V → List V → SearchTree V → Prop
  | nil {t : SearchTree V} : ConsidersAll u t [] t
  | cons {t t₁ t₂ : SearchTree V} {v : V} {rest : List V} (head : Considers u t v t₁)
      (tail : ConsidersAll u t₁ rest t₂) : ConsidersAll u t (v :: rest) t₂

/-- The neighbours of every closed vertex but `expanding` have been reached. -/
def Covers (adj : V → V → Prop) (expanding : Option V) (t : SearchTree V) : Prop :=
  ∀ v, t.closed v → some v ≠ expanding → ∀ w, adj v w → t.Reached w

theorem Covers.close {adj : V → V → Prop} {t : SearchTree V} {u : V}
    (hc : Covers adj none t) (hu : t.opened u) : Covers adj (some u) (t.close u) := by
  intro v hv hne w hw
  have hold : t.closed v := hv.resolve_left (fun heq => hne (congrArg some heq))
  exact (close_reached hu w).mpr (hc v hold nofun w hw)

section Expand

variable [DecidableEq V] {adj : V → V → Prop} {start u v : V} {t t' : SearchTree V}
  {vs : List V}

theorem Considers.reached (h : Considers u t v t') : t'.Reached v := by
  cases h with
  | keep reached => exact reached
  | relax w _ _ => exact (relax_reached t u v w v).mpr (Or.inl rfl)

theorem Considers.mono (h : Considers u t v t') {a : V} (ha : t.Reached a) :
    t'.Reached a := by
  cases h with
  | keep _ => exact ha
  | relax w _ _ => exact (relax_reached t u v w a).mpr (Or.inr ha)

theorem Considers.closed (h : Considers u t v t') : t'.closed = t.closed := by
  cases h with
  | keep _ => rfl
  | relax w _ _ => rfl

theorem Considers.sound (h : Considers u t v t') (hs : Sound adj start t)
    (hu : t.Reached u) (hadj : adj u v) : Sound adj start t' := by
  cases h with
  | keep _ => exact hs
  | relax w dearer better => exact hs.relax hu hadj dearer better

theorem ConsidersAll.mono (h : ConsidersAll u t vs t') {a : V} (ha : t.Reached a) :
    t'.Reached a := by
  induction h with
  | nil => exact ha
  | cons head _ ih => exact ih (head.mono ha)

theorem ConsidersAll.closed (h : ConsidersAll u t vs t') : t'.closed = t.closed := by
  induction h with
  | nil => rfl
  | cons head _ ih => exact ih.trans head.closed

theorem ConsidersAll.reached (h : ConsidersAll u t vs t') {a : V} (ha : a ∈ vs) :
    t'.Reached a := by
  induction h with
  | nil => simp at ha
  | cons head tail ih =>
    rcases List.mem_cons.mp ha with rfl | hrest
    · exact tail.mono head.reached
    · exact ih hrest

theorem ConsidersAll.covers (h : ConsidersAll u t vs t') (hc : Covers adj (some u) t)
    (all : ∀ a, adj u a → a ∈ vs) : Covers adj none t' := by
  intro v hv _ w hw
  rw [h.closed] at hv
  by_cases hvu : v = u
  · subst hvu
    exact h.reached (all w hw)
  · exact h.mono (hc v hv (by simpa using hvu) w hw)

omit [DecidableEq V] in
/-- A search with nothing left open has closed every vertex it can reach. -/
theorem Covers.closed_of_reachable (hc : Covers adj none t) (hstart : t.Reached start)
    (done : ∀ a, ¬ t.opened a) {a : V} (ha : Relation.ReflTransGen adj start a) :
    t.closed a := by
  have hclosed : ∀ b, t.Reached b → t.closed b := by
    intro b hb
    exact hb.resolve_left (done b)
  induction ha with
  | refl => exact hclosed start hstart
  | tail _ hbc ih => exact hclosed _ (hc _ ih nofun _ hbc)

end Expand

/-! ## Every search ends -/

section Rank

open Classical in
/-- Vertices not reached, then the costs of those reached, then the open ones. -/
noncomputable def rank (cells : Finset V) (t : SearchTree V) : ℕ ×ₗ ℕ ×ₗ ℕ :=
  toLex ((cells.filter fun a => ¬ t.Reached a).card,
    toLex (∑ a ∈ cells.filter t.Reached, (t.cost a).toNat, (cells.filter t.opened).card))

variable {cells : Finset V} {t t' : SearchTree V} {u v : V}

theorem rank_close (hu : t.opened u) (hcell : u ∈ cells) :
    rank cells (t.close u) < rank cells t := by
  classical
  have hr : (t.close u).Reached = t.Reached := by
    funext a
    exact propext (close_reached hu a)
  have hopened : (cells.filter (t.close u).opened).card < (cells.filter t.opened).card := by
    apply Finset.card_lt_card
    rw [Finset.ssubset_iff_of_subset]
    · refine ⟨u, by simp [hcell, hu], ?_⟩
      rw [Finset.mem_filter]
      rintro ⟨_, _, hne⟩
      exact hne rfl
    · intro a ha
      rw [Finset.mem_filter] at ha ⊢
      exact ⟨ha.1, ha.2.1⟩
  rw [rank, rank, hr, Prod.Lex.toLex_lt_toLex]
  right
  refine ⟨rfl, ?_⟩
  rw [Prod.Lex.toLex_lt_toLex]
  exact Or.inr ⟨rfl, by convert hopened⟩

theorem rank_relax_fresh [DecidableEq V] (w : Int) (hv : ¬ t.Reached v) (hcell : v ∈ cells) :
    rank cells (t.relax u v w) < rank cells t := by
  classical
  rw [rank, rank, Prod.Lex.toLex_lt_toLex]
  left
  apply Finset.card_lt_card
  rw [Finset.ssubset_iff_of_subset]
  · exact ⟨v, by simp [hcell, hv], by simp [relax_reached]⟩
  · intro a ha
    rw [Finset.mem_filter, relax_reached, not_or] at ha
    rw [Finset.mem_filter]
    exact ⟨ha.1, ha.2.2⟩

theorem rank_relax_lower [DecidableEq V] {w : Int} (hv : t.Reached v) (hcell : v ∈ cells)
    (hw : 0 ≤ w) (lower : w < t.cost v) : rank cells (t.relax u v w) < rank cells t := by
  classical
  have hr : (t.relax u v w).Reached = t.Reached := by
    funext a
    rw [relax_reached]
    exact propext ⟨fun ha => ha.elim (fun he => he ▸ hv) id, Or.inr⟩
  rw [rank, rank, hr, Prod.Lex.toLex_lt_toLex]
  right
  refine ⟨rfl, ?_⟩
  rw [Prod.Lex.toLex_lt_toLex]
  left
  apply Finset.sum_lt_sum
  · intro a _
    by_cases hav : a = v
    · subst hav
      simp only [relax, Function.update_self]
      omega
    · simp [relax, hav]
  · refine ⟨v, by simp [hcell, hv], ?_⟩
    simp only [relax, Function.update_self]
    omega

theorem Considers.rank_le [DecidableEq V] (h : Considers u t v t') (hcell : v ∈ cells)
    (hu : 0 ≤ t.cost u) : rank cells t' ≤ rank cells t := by
  cases h with
  | keep _ => exact le_rfl
  | relax w dearer better =>
    by_cases hv : t.Reached v
    · rcases better with hb | hb
      · exact absurd hv hb
      · exact (rank_relax_lower hv hcell (by omega) hb).le
    · exact (rank_relax_fresh w hv hcell).le

theorem ConsidersAll.rank_le [DecidableEq V] {adj : V → V → Prop} {start : V} {vs : List V}
    (h : ConsidersAll u t vs t') (hs : Sound adj start t) (hu : t.Reached u)
    (hadj : ∀ a ∈ vs, adj u a) (hcell : ∀ a ∈ vs, a ∈ cells) :
    rank cells t' ≤ rank cells t := by
  induction h with
  | nil => exact le_rfl
  | cons head _ ih =>
    have hfirst := head.rank_le (hcell _ List.mem_cons_self) (hs.nonneg u hu)
    refine (ih (head.sound hs hu (hadj _ List.mem_cons_self)) (head.mono hu) ?_ ?_).trans hfirst
    · intro a ha
      exact hadj a (List.mem_cons_of_mem _ ha)
    · intro a ha
      exact hcell a (List.mem_cons_of_mem _ ha)

end Rank

end SearchTree
