import Mathlib.Data.List.Basic

/-!
# Cutting a stream into frames

A framer keeps what it has of the frame it is in. An element that may start a frame
begins one, each further element is added to it, and once it is complete it is given
away and the framer waits for the next start.
-/

namespace Keystone3.Logic.Framer

variable {α : Type} (start : α → Bool) (complete : List α → Bool)

def push (w : List α) (a : α) : List α × Option (List α) :=
  if w.isEmpty && !start a then ([], none)
  else if complete (w ++ [a]) then ([], some (w ++ [a]))
  else (w ++ [a], none)

/-- A frame: it begins with a start and is complete with its last element. -/
structure Framed (f : List α) : Prop where
  starts : ∃ a rest, f = a :: rest ∧ start a = true
  completed : complete f = true
  minimal : ∀ w, w <+: f → w ≠ f → complete w = false

variable {start} {complete}

theorem push_idle {a : α} (h : start a = false) : push start complete [] a = ([], none) := by
  unfold push
  simp [h]

theorem push_open {w : List α} {a : α} (hw : w ≠ [] ∨ start a = true) :
    push start complete w a =
      if complete (w ++ [a]) then ([], some (w ++ [a])) else (w ++ [a], none) := by
  unfold push
  rw [if_neg]
  intro h
  rw [Bool.and_eq_true, List.isEmpty_iff, Bool.not_eq_true'] at h
  rcases hw with hw | hw
  · exact hw h.1
  · rw [hw] at h
    cases h.2

private theorem open_or_idle (w : List α) (a : α) :
    (w ≠ [] ∨ start a = true) ∨ (w = [] ∧ start a = false) := by
  by_cases hw : w = []
  · cases hs : start a with
    | true => exact .inl (.inr rfl)
    | false => exact .inr ⟨hw, rfl⟩
  · exact .inl (.inl hw)

theorem push_emitted {w f : List α} {a : α} (h : (push start complete w a).2 = some f) :
    f = w ++ [a] ∧ complete f = true ∧ (w ≠ [] ∨ start a = true) := by
  rcases open_or_idle w a with hw | hw
  · rw [push_open hw] at h
    split at h
    next hc =>
      have hf : f = w ++ [a] := (Option.some.inj h).symm
      exact ⟨hf, hf ▸ hc, hw⟩
    · cases h
  · rw [hw.1, push_idle hw.2] at h
    cases h

theorem push_kept {w : List α} {a : α} (h : (push start complete w a).1 ≠ []) :
    (push start complete w a).1 = w ++ [a] ∧ (w ≠ [] ∨ start a = true) := by
  rcases open_or_idle w a with hw | hw
  · rw [push_open hw] at h ⊢
    split at h
    · exact absurd rfl h
    next hc =>
      rw [if_neg hc]
      exact ⟨rfl, hw⟩
  · rw [hw.1, push_idle hw.2] at h
    exact absurd rfl h

private theorem Framed.opens {f w : List α} {a : α} (hf : Framed start complete f)
    (h : w ++ [a] <+: f) : w ≠ [] ∨ start a = true := by
  obtain ⟨b, rest, hb, hs⟩ := hf.starts
  by_cases hw : w = []
  · right
    subst hw
    rw [hb, List.nil_append, List.cons_prefix_cons] at h
    rw [h.1]
    exact hs
  · exact .inl hw

theorem push_inside {f w : List α} {a : α} (hf : Framed start complete f)
    (h : w ++ [a] <+: f) (hne : w ++ [a] ≠ f) :
    push start complete w a = (w ++ [a], none) := by
  rw [push_open (hf.opens h), hf.minimal _ h hne]
  rfl

theorem push_last {f w : List α} {a : α} (hf : Framed start complete f) (h : w ++ [a] = f) :
    push start complete w a = ([], some f) := by
  rw [push_open (hf.opens (h ▸ List.prefix_rfl)), h, hf.completed]
  rfl

end Keystone3.Logic.Framer
