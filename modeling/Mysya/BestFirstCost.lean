import Mysya.BestFirst
import Mathlib.Data.List.Infix

/-!
# What a best-first search pays

A search over weighted edges that reopens a closed vertex whenever it is
reached for less. Every vertex that is closed and not open again has relaxed
its edges, so any walk to a vertex still sought runs through an open one that
was reached as cheaply. With an estimate of the rest, a search that expands by
least total never expands beyond the largest total along any such walk.
-/

universe u

namespace SearchTree

variable {V : Type u}

/-! ## Walks -/

section Walk

variable (weight : V → V → Int)

/-- The cost of going on from a vertex along a list. -/
def walkCost : V → List V → Int
  | _, [] => 0
  | a, b :: rest => weight a b + walkCost b rest

@[simp] theorem walkCost_nil (a : V) : walkCost weight a [] = 0 := rfl

@[simp] theorem walkCost_cons (a b : V) (rest : List V) :
    walkCost weight a (b :: rest) = weight a b + walkCost weight b rest := rfl

theorem walkCost_append (a : V) (l m : List V) : walkCost weight a (l ++ m) =
    walkCost weight a l + walkCost weight (l.getLastD a) m := by
  induction l generalizing a with
  | nil => simp
  | cons b rest ih =>
    rw [List.cons_append, walkCost_cons, walkCost_cons, ih, List.getLastD_cons, Int.add_assoc]

theorem walkCost_map {W : Type u} (f : W → V) (a : W) (l : List W) :
    walkCost weight (f a) (l.map f) = walkCost (fun b c => weight (f b) (f c)) a l := by
  induction l generalizing a with
  | nil => rfl
  | cons b rest ih => rw [List.map_cons, walkCost_cons, walkCost_cons, ih]

/-- A potential no step raises by more than it costs bounds the cost from below. -/
theorem potential_le_walkCost {R : V → V → Prop} (potential : V → Int)
    (step : ∀ a b, R a b → potential b ≤ potential a + weight a b) {a : V} {l : List V}
    (chain : (a :: l).IsChain R) :
    potential (l.getLastD a) ≤ potential a + walkCost weight a l := by
  induction l generalizing a with
  | nil => simp
  | cons b rest ih =>
    rw [List.isChain_cons_cons] at chain
    have hstep := step a b chain.1
    have hrest := ih chain.2
    rw [List.getLastD_cons, walkCost_cons]
    omega

/-- No prefix of the walk costs more than the bound with the estimate from its end. -/
def Within (estimate : V → Int) (start : V) (walk : List V) (bound : Int) : Prop :=
  ∀ pre, pre <+: walk → walkCost weight start pre + estimate (pre.getLastD start) ≤ bound

theorem within_map {W : Type u} (f : W → V) (estimate : V → Int) (a : W) (l : List W)
    (bound : Int) : Within weight estimate (f a) (l.map f) bound ↔
      Within (fun b c => weight (f b) (f c)) (fun b => estimate (f b)) a l bound := by
  constructor
  · intro h pre hpre
    have hmap := h (pre.map f) (hpre.map f)
    rwa [walkCost_map, List.getLastD_map] at hmap
  · intro h mapped hmapped
    obtain ⟨pre, hpre, rfl⟩ := List.prefix_map_iff.mp hmapped
    rw [walkCost_map, List.getLastD_map]
    exact h pre hpre

end Walk

/-! ## Relaxing weighted edges -/

/-- What a search does about an edge: nothing, where it would not reach its end for less. -/
inductive Relaxes [DecidableEq V] (weight : V → V → Int) (u : V) :
    SearchTree V → V → SearchTree V → Prop
  | keep {t : SearchTree V} {v : V} (reached : t.Reached v)
      (cheap : t.cost v ≤ t.cost u + weight u v) : Relaxes weight u t v t
  | relax {t : SearchTree V} {v : V} (better : ¬ t.Reached v ∨ t.cost u + weight u v < t.cost v) :
      Relaxes weight u t v (t.relax u v (t.cost u + weight u v))

inductive RelaxesAll [DecidableEq V] (weight : V → V → Int) (u : V) :
    SearchTree V → List V → SearchTree V → Prop
  | nil {t : SearchTree V} : RelaxesAll weight u t [] t
  | cons {t t₁ t₂ : SearchTree V} {v : V} {rest : List V} (head : Relaxes weight u t v t₁)
      (tail : RelaxesAll weight u t₁ rest t₂) : RelaxesAll weight u t (v :: rest) t₂

section Relaxes

variable [DecidableEq V] {weight : V → V → Int} {u v : V} {t t' : SearchTree V} {vs : List V}

theorem Relaxes.considers (h : Relaxes weight u t v t') (positive : 0 < weight u v) :
    Considers u t v t' := by
  cases h with
  | keep reached _ => exact .keep reached
  | relax better => exact .relax _ (by omega) better

theorem RelaxesAll.considersAll (h : RelaxesAll weight u t vs t')
    (positive : ∀ v, 0 < weight u v) : ConsidersAll u t vs t' := by
  induction h with
  | nil => exact .nil
  | cons head _ ih => exact .cons (head.considers (positive _)) ih

/-- No vertex that was reached gets dearer. -/
theorem Relaxes.cost_le (h : Relaxes weight u t v t') {a : V} (ha : t.Reached a) :
    t'.cost a ≤ t.cost a := by
  cases h with
  | keep _ _ => exact le_rfl
  | relax better =>
    by_cases hav : a = v
    · subst hav
      rcases better with hb | hb
      · exact absurd ha hb
      · simpa [SearchTree.relax] using hb.le
    · simp [SearchTree.relax, hav]

/-- The vertex expanded keeps its cost. -/
theorem Relaxes.cost_self (h : Relaxes weight u t v t') (hu : t.Reached u)
    (positive : 0 < weight u v) : t'.cost u = t.cost u := by
  cases h with
  | keep _ _ => rfl
  | relax better =>
    have hne : u ≠ v := by
      rintro rfl
      rcases better with hb | hb
      · exact hb hu
      · omega
    simp [SearchTree.relax, hne]

theorem Relaxes.target_le (h : Relaxes weight u t v t') :
    t'.Reached v ∧ t'.cost v ≤ t.cost u + weight u v := by
  cases h with
  | keep reached cheap => exact ⟨reached, cheap⟩
  | relax better =>
    exact ⟨(relax_reached t u v _ v).mpr (Or.inl rfl), by simp [SearchTree.relax]⟩

theorem RelaxesAll.cost_le (h : RelaxesAll weight u t vs t') (positive : ∀ v, 0 < weight u v)
    {a : V} (ha : t.Reached a) : t'.cost a ≤ t.cost a := by
  induction h with
  | nil => exact le_rfl
  | cons head _ ih =>
    exact (ih ((head.considers (positive _)).mono ha)).trans (head.cost_le ha)

end Relaxes

/-! ## What the costs mean -/

/-- Parents are closed and explain the costs; every closed vertex that is not open,
but the one being expanded, has relaxed its edges. -/
structure Weighed (adj : V → V → Prop) (weight : V → V → Int) (start : V)
    (expanding : Option V) (t : SearchTree V) : Prop where
  parents : ∀ v, t.Reached v → v ≠ start →
    ∃ p, t.parent v = some p ∧ t.closed p ∧ t.cost p + weight p v ≤ t.cost v
  edges : ∀ v, t.closed v → ¬ t.opened v → some v ≠ expanding →
    ∀ w, adj v w → t.Reached w ∧ t.cost w ≤ t.cost v + weight v w

namespace Weighed

variable {adj : V → V → Prop} {weight : V → V → Int} {start : V} {expanding : Option V}
  {t : SearchTree V}

theorem init (cost : V → Int) (parent : V → Option V) :
    Weighed adj weight start none (SearchTree.init start cost parent) := by
  constructor
  · rintro v (hv | hv) hne
    · exact absurd hv hne
    · exact hv.elim
  · intro v hv
    exact hv.elim

theorem close (hw : Weighed adj weight start none t) {u : V} (hu : t.opened u) :
    Weighed adj weight start (some u) (t.close u) := by
  have hr := close_reached hu
  constructor
  · intro v hv hne
    obtain ⟨p, hp, hclosed, hle⟩ := hw.parents v ((hr v).mp hv) hne
    exact ⟨p, hp, Or.inr hclosed, hle⟩
  · intro v hv hopen hne w hadj
    have hvu : v ≠ u := fun heq => hne (congrArg some heq)
    obtain ⟨hreached, hle⟩ := hw.edges v (hv.resolve_left hvu)
      (fun ho => hopen ⟨ho, hvu⟩) nofun w hadj
    exact ⟨(hr w).mpr hreached, hle⟩

section Relaxing

variable [DecidableEq V] {u v : V} {t' : SearchTree V} {vs : List V}

theorem relaxes (hw : Weighed adj weight start (some u) t) (h : Relaxes weight u t v t')
    (hu : t.closed u) (positive : 0 < weight u v) :
    Weighed adj weight start (some u) t' := by
  have hself := h.cost_self (Or.inr hu) positive
  have hmono : ∀ a, t.Reached a → t'.Reached a := fun a => (h.considers positive).mono
  have hclosed := (h.considers positive).closed
  have hlow := fun a => h.cost_le (a := a)
  cases h with
  | keep _ _ => exact hw
  | relax better =>
    constructor
    · intro a ha hne
      by_cases hav : a = v
      · subst hav
        refine ⟨u, by simp [SearchTree.relax], hu, ?_⟩
        rw [hself]
        simp [SearchTree.relax]
      · obtain ⟨p, hp, hpc, hle⟩ :=
          hw.parents a (((relax_reached t u v _ a).mp ha).resolve_left hav) hne
        refine ⟨p, by simpa [SearchTree.relax, hav] using hp, hpc, ?_⟩
        have hpl := hlow p (Or.inr hpc)
        have hsame : (t.relax u v (t.cost u + weight u v)).cost a = t.cost a := by
          simp [SearchTree.relax, hav]
        omega
    · intro a ha hopen hne w hadj
      have hav : a ≠ v := fun heq => hopen (Or.inl heq)
      obtain ⟨hreached, hle⟩ := hw.edges a ha (fun ho => hopen (Or.inr ho)) hne w hadj
      refine ⟨hmono w hreached, (hlow w hreached).trans ?_⟩
      simpa [SearchTree.relax, hav] using hle

theorem relaxesAll (hw : Weighed adj weight start (some u) t)
    (h : RelaxesAll weight u t vs t') (hu : t.closed u) (positive : ∀ v, 0 < weight u v)
    (all : ∀ a, adj u a → a ∈ vs ∨ t.Reached a ∧ t.cost a ≤ t.cost u + weight u a) :
    Weighed adj weight start none t' := by
  induction h with
  | nil =>
    constructor
    · exact hw.parents
    · intro a ha hopen _ w hadj
      by_cases hau : a = u
      · subst hau
        exact (all w hadj).resolve_left (by simp)
      · exact hw.edges a ha hopen (by simpa using hau) w hadj
  | @cons t₀ t₁ t₂ v rest head _ ih =>
    have hclosed := (head.considers (positive v)).closed
    have hself := head.cost_self (Or.inr hu) (positive v)
    apply ih (hw.relaxes head hu (positive v)) (hclosed ▸ hu)
    intro a hadj
    rw [hself]
    rcases all a hadj with hmem | ⟨hreached, hle⟩
    · rcases List.mem_cons.mp hmem with rfl | hrest
      · exact Or.inr head.target_le
      · exact Or.inl hrest
    · exact Or.inr ⟨(head.considers (positive v)).mono hreached,
        (head.cost_le hreached).trans hle⟩

end Relaxing

/-! ## Walks cross the open vertices -/

/-- A walk from a reached vertex to one that is not closed for good goes through an
open vertex reached at no more than the walk's cost so far. -/
theorem frontier (hw : Weighed adj weight start none t) {a : V} {walk : List V} {c : Int}
    (ha : t.Reached a) (hc : t.cost a ≤ c) (chain : (a :: walk).IsChain adj)
    (sought : t.closed (walk.getLastD a) → t.opened (walk.getLastD a)) :
    ∃ pre, pre <+: walk ∧ t.opened (pre.getLastD a) ∧
      t.cost (pre.getLastD a) ≤ c + walkCost weight a pre := by
  induction walk generalizing a c with
  | nil =>
    refine ⟨[], List.nil_prefix, ?_, by simpa using hc⟩
    exact ha.elim id sought
  | cons b rest ih =>
    by_cases ho : t.opened a
    · exact ⟨[], List.nil_prefix, ho, by simpa using hc⟩
    rw [List.isChain_cons_cons] at chain
    obtain ⟨hb, hle⟩ := hw.edges a (ha.resolve_left ho) ho nofun b chain.1
    obtain ⟨pre, hpre, hopen, hcost⟩ := ih (c := c + weight a b) hb (by omega) chain.2
      (by rwa [List.getLastD_cons] at sought)
    refine ⟨b :: pre, by simpa using hpre, ?_, ?_⟩
    · rwa [List.getLastD_cons]
    · rw [List.getLastD_cons, walkCost_cons]
      omega

/-- An open vertex of least total is within the bound of every such walk. -/
theorem least_within (hw : Weighed adj weight start none t) {estimate : V → Int} {walk : List V}
    {bound : Int} (hs : t.Reached start) (h0 : t.cost start = 0)
    (chain : (start :: walk).IsChain adj)
    (sought : t.closed (walk.getLastD start) → t.opened (walk.getLastD start))
    (within : Within weight estimate start walk bound) {u : V}
    (least : ∀ a, t.opened a → t.cost u + estimate u ≤ t.cost a + estimate a) :
    t.cost u + estimate u ≤ bound := by
  obtain ⟨pre, hpre, hopen, hcost⟩ := hw.frontier hs h0.le chain sought
  have hle := least _ hopen
  have hbound := within pre hpre
  omega

/-! ## The walk along the parents -/

/-- The way the parents lead is paid for by the costs, and leaves only the vertex it
was traced from unclosed. -/
theorem trace_cost [DecidableEq V] (hw : Weighed adj weight start expanding t)
    (h0 : t.cost start = 0) {fuel : Nat} {v : V} {l : List V} (hv : t.Reached v)
    (hl : trace t.parent start fuel (some v) = some l) :
    l.reverse.getLastD start = v ∧ ∀ pre, pre <+: l.reverse →
      walkCost weight start pre ≤ t.cost (pre.getLastD start) ∧
        (pre.getLastD start = v ∨ t.closed (pre.getLastD start)) := by
  induction fuel generalizing v l with
  | zero => simp [trace] at hl
  | succ fuel ih =>
    by_cases hstart : v = start
    · obtain rfl : l = [] := by simpa [trace, hstart] using hl.symm
      subst hstart
      refine ⟨rfl, ?_⟩
      intro pre hpre
      obtain rfl : pre = [] := by simpa using hpre
      exact ⟨by simpa using h0.ge, Or.inl rfl⟩
    · obtain ⟨p, hp, hpc, hle⟩ := hw.parents v hv hstart
      simp only [trace, hstart, if_false, hp, Option.map_eq_some_iff] at hl
      obtain ⟨rest, hrest, rfl⟩ := hl
      obtain ⟨hlast, hpre⟩ := ih (Or.inr hpc) hrest
      refine ⟨by simp, ?_⟩
      intro pre hprefix
      rw [List.reverse_cons, List.prefix_concat_iff] at hprefix
      rcases hprefix with rfl | hprefix
      · have hwhole := (hpre _ List.prefix_rfl).1
        rw [hlast] at hwhole
        rw [walkCost_append, hlast]
        simp only [List.getLastD_concat, walkCost_cons, walkCost_nil]
        exact ⟨by omega, Or.inl trivial⟩
      · obtain ⟨hcost, hend⟩ := hpre pre hprefix
        exact ⟨hcost, Or.inr (hend.elim (fun heq => heq ▸ hpc) id)⟩

end Weighed

end SearchTree
