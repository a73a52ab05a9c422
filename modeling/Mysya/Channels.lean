import Mathlib.Data.List.Count
import Mathlib.Tactic.Common

/-!
# Requests and responses in order

Two parties send each other messages over a channel in each direction, which keeps them in order.
A request and its response carry one key; how often a key is under way does not change when the
request is answered. What is known of a message and of those behind it stays known while messages
come at the end and are taken at the head.
-/

namespace Channels

variable {α β κ : Type*} [DecidableEq κ] {f : α → Option κ} {g : β → Option κ}
  {requests : List α} {responses : List β} {x : α} {y : β}

/-- The keys that are under way, in the requests and in the responses. -/
def keys (f : α → Option κ) (g : β → Option κ) (requests : List α) (responses : List β) : List κ :=
  requests.filterMap f ++ responses.filterMap g

theorem count_answered (h : f x = g y) (requests : List α) (responses : List β) (k : κ) :
    (keys f g requests (responses ++ [y])).count k =
      (keys f g (x :: requests) responses).count k := by
  cases hx : f x with
  | none =>
    have hy : g y = none := h ▸ hx
    simp [keys, hx, hy]
  | some k' =>
    have hy : g y = some k' := h ▸ hx
    simp only [keys, List.filterMap_append, List.filterMap_cons, hx, hy, List.filterMap_nil,
      List.count_append, List.count_cons, List.count_nil]
    omega

/-- A request without a key may go unanswered. -/
theorem count_unanswered (h : f x = none) (requests : List α) (responses : List β) (k : κ) :
    (keys f g requests responses).count k = (keys f g (x :: requests) responses).count k := by
  simp [keys, h]

theorem count_asked (requests l : List α) (responses : List β) (k : κ) :
    (keys f g (requests ++ l) responses).count k =
      (keys f g requests responses).count k + (l.filterMap f).count k := by
  simp only [keys, List.filterMap_append, List.count_append]
  omega

theorem count_told (requests : List α) (responses l : List β) (k : κ) :
    (keys f g requests (responses ++ l)).count k =
      (keys f g requests responses).count k + (l.filterMap g).count k := by
  simp only [keys, List.filterMap_append, List.count_append]
  omega

theorem count_taken (requests : List α) (responses : List β) (k : κ) :
    (keys f g requests (y :: responses)).count k =
      (keys f g requests responses).count k + (g y).toList.count k := by
  cases hy : g y with
  | none => simp [keys, hy]
  | some k' =>
    simp only [keys, List.filterMap_cons, hy, List.count_append, List.count_cons,
      Option.toList_some, List.count_nil]
    omega

/-! ## Order -/

/-- Each message has `P` of those behind it. -/
def Followed (P : β → List β → Prop) : List β → Prop
  | [] => True
  | y :: l => P y l ∧ Followed P l

theorem Followed.append {P : β → List β → Prop} {l l' : List β} (h : Followed P l)
    (h' : Followed P l') (hmono : ∀ y ∈ l, ∀ m, P y m → P y (m ++ l')) : Followed P (l ++ l') := by
  induction l with
  | nil => exact h'
  | cons y l ih =>
    refine ⟨hmono y (List.mem_cons_self ..) l h.1, ih h.2 fun z hz => ?_⟩
    exact hmono z (List.mem_cons_of_mem _ hz)

/-- `P` holds of each message and those before it. -/
def Preceded (P : List β → β → Prop) (l : List β) : Prop :=
  ∀ before y after, l = before ++ y :: after → P before y

variable {P Q : List β → β → Prop} {l l' : List β}

theorem preceded_nil : Preceded P [] := fun before y after heq => by
  cases before with
  | nil => cases heq
  | cons z before => cases heq

theorem Preceded.first (h : Preceded P (y :: l)) : P [] y := h [] y l rfl

theorem Preceded.taken (h : Preceded P (y :: l))
    (hQ : ∀ before z, P (y :: before) z → Q before z) : Preceded Q l := fun before z after heq =>
  hQ before z (h (y :: before) z after (congrArg (y :: ·) heq))

theorem Preceded.mono (h : Preceded P l) (hQ : ∀ before z, P before z → Q before z) :
    Preceded Q l := fun before z after heq => hQ before z (h before z after heq)

/-- What comes at the end has all the others before it. -/
theorem Preceded.append (h : Preceded P l)
    (h' : ∀ before y after, l' = before ++ y :: after → P (l ++ before) y) :
    Preceded P (l ++ l') := by
  intro before y after heq
  rcases List.append_eq_append_iff.mp heq with ⟨m, rfl, hm⟩ | ⟨m, hl, hm⟩
  · exact h' m y after hm
  · cases m with
    | nil =>
      have hin := h' [] y after hm.symm
      rwa [List.append_nil, hl, List.append_nil] at hin
    | cons z m =>
      obtain ⟨rfl, _⟩ := List.cons.inj hm
      exact h before y m hl

end Channels
