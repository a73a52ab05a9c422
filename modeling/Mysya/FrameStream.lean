import Mathlib.Data.List.Basic
import Mathlib.Tactic.Common

/-!
# Streams of frames

A stream is the frames of its messages one behind the other. A receiver sees it
in chunks, and after each has a buffer whose front is a part of the stream; it
takes whole frames off until it is left with a part of one. The rules say how a
frame lies in the buffer, and what a receiver that does so has got at the end.
-/

namespace FrameStream

variable {α β σ : Type*} {frame : α → List β → Prop}

inductive Frames (frame : α → List β → Prop) : List α → List β → Prop where
  | nil : Frames frame [] []
  | cons {x : α} {xs : List α} {b bs : List β} : frame x b → Frames frame xs bs →
      Frames frame (x :: xs) (b ++ bs)

theorem Frames.append {xs ys : List α} {bs cs : List β} (hx : Frames frame xs bs)
    (hy : Frames frame ys cs) : Frames frame (xs ++ ys) (bs ++ cs) := by
  induction hx with
  | nil => exact hy
  | cons hframe _ ih =>
    rw [List.cons_append, List.append_assoc]
    exact .cons hframe ih

theorem Frames.snoc {x : α} {xs : List α} {b bs : List β} (h : Frames frame xs bs)
    (hx : frame x b) : Frames frame (xs ++ [x]) (bs ++ b) := by
  have hone : Frames frame [x] (b ++ []) := .cons hx .nil
  rw [List.append_nil] at hone
  exact h.append hone

theorem frames_nil {bs : List β} : Frames frame [] bs ↔ bs = [] :=
  ⟨fun h => by cases h; rfl, fun h => h ▸ .nil⟩

theorem frames_cons {x : α} {xs : List α} {bs : List β} :
    Frames frame (x :: xs) bs ↔
      ∃ b rest, frame x b ∧ bs = b ++ rest ∧ Frames frame xs rest := by
  constructor
  · intro h
    cases h with
    | cons hframe hrest => exact ⟨_, _, hframe, rfl, hrest⟩
  · rintro ⟨b, rest, hframe, rfl, hrest⟩
    exact .cons hframe hrest

theorem frames_of_forall₂ {xs : List α} {bs : List (List β)} (h : List.Forall₂ frame xs bs) :
    Frames frame xs bs.flatten := by
  induction h with
  | nil => exact .nil
  | cons hframe _ ih => exact .cons hframe ih

/-- The first frame lies in the buffer whole, or a part of it is still to come. -/
theorem Frames.first {x : α} {xs : List α} {buffer future : List β}
    (h : Frames frame (x :: xs) (buffer ++ future)) :
    (∃ b rest, frame x b ∧ buffer = b ++ rest ∧ Frames frame xs (rest ++ future)) ∨
      ∃ missing, frame x (buffer ++ missing) ∧ missing ≠ [] ∧ missing <+: future := by
  obtain ⟨b, bs, hframe, hstream, hrest⟩ := frames_cons.mp h
  rcases List.append_eq_append_iff.mp hstream with ⟨missing, hb, hfuture⟩ | ⟨rest, hbuffer, hbs⟩
  · by_cases hnone : missing = []
    · subst hnone
      rw [List.append_nil] at hb
      rw [List.nil_append] at hfuture
      exact Or.inl ⟨b, [], hframe, by rw [hb, List.append_nil], by rwa [hfuture]⟩
    · exact Or.inr ⟨missing, hb ▸ hframe, hnone, hfuture ▸ List.prefix_append _ _⟩
  · exact Or.inl ⟨b, rest, hframe, hbuffer, hbs ▸ hrest⟩

end FrameStream
