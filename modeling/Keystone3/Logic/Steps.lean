import Mathlib.Data.List.Basic

/-!
# Runs of steps that may fail

A run is `List.foldlM` of a step that gives the next state or an error. When a
condition on the state and the step says exactly when a step succeeds, a run succeeds
exactly when each of its steps meets the condition where it is made (`foldlM_ok_iff`),
and what every step keeps, a run keeps (`foldlM_keeps`).
-/

namespace Keystone3.Logic.Steps

variable {σ α ε : Type} (f : σ → α → Except ε σ) (G : σ → α → Prop)

/-- Each step of the run meets the condition in the state it is made in. -/
def Meets : σ → List α → Prop
  | _, [] => True
  | s, a :: as => G s a ∧ ∀ s', f s a = .ok s' → Meets s' as

variable {f G} {I : σ → Prop}

theorem foldlM_cons_ok {s s' : σ} {a : α} {as : List α} :
    (a :: as).foldlM f s = .ok s' ↔ ∃ s₁, f s a = .ok s₁ ∧ as.foldlM f s₁ = .ok s' := by
  rw [List.foldlM_cons]
  cases h : f s a with
  | error e => exact ⟨fun h' => (by cases h'), fun ⟨_, h', _⟩ => (by cases h')⟩
  | ok s₁ => exact ⟨fun h' => ⟨s₁, rfl, h'⟩, fun ⟨_, h₁, h'⟩ => by cases h₁; exact h'⟩

theorem foldlM_append_ok {s s' : σ} {as bs : List α} :
    (as ++ bs).foldlM f s = .ok s' ↔ ∃ s₁, as.foldlM f s = .ok s₁ ∧ bs.foldlM f s₁ = .ok s' := by
  induction as generalizing s with
  | nil => exact ⟨fun h => ⟨s, rfl, h⟩, fun ⟨_, h₁, h⟩ => by cases h₁; exact h⟩
  | cons a as ih =>
    simp only [List.cons_append, foldlM_cons_ok, ih]
    exact ⟨fun ⟨s₁, h, s₂, h₁, h₂⟩ => ⟨s₂, ⟨s₁, h, h₁⟩, h₂⟩,
      fun ⟨s₂, ⟨s₁, h, h₁⟩, h₂⟩ => ⟨s₁, h, s₂, h₁, h₂⟩⟩

theorem foldlM_keeps (hkeep : ∀ s a s', I s → f s a = .ok s' → I s') :
    ∀ {as : List α} {s s' : σ}, I s → as.foldlM f s = .ok s' → I s'
  | [], s, s', hs, h => by
    cases h
    exact hs
  | a :: as, s, s', hs, h => by
    obtain ⟨s₁, hstep, hrest⟩ := foldlM_cons_ok.mp h
    exact foldlM_keeps hkeep (hkeep s a s₁ hs hstep) hrest

/-- **A run succeeds exactly when its steps meet their condition.** -/
theorem foldlM_ok_iff (hkeep : ∀ s a s', I s → f s a = .ok s' → I s')
    (hstep : ∀ s a, I s → ((∃ s', f s a = .ok s') ↔ G s a)) :
    ∀ {as : List α} {s : σ}, I s → ((∃ s', as.foldlM f s = .ok s') ↔ Meets f G s as)
  | [], s, _ => ⟨fun _ => trivial, fun _ => ⟨s, rfl⟩⟩
  | a :: as, s, hs => by
    simp only [foldlM_cons_ok, Meets]
    constructor
    · rintro ⟨s', s₁, h, hrest⟩
      refine ⟨(hstep s a hs).mp ⟨s₁, h⟩, fun s₂ h₂ => ?_⟩
      rw [h] at h₂
      cases h₂
      exact (foldlM_ok_iff hkeep hstep (hkeep s a s₁ hs h)).mp ⟨s', hrest⟩
    · rintro ⟨hmeets, hrest⟩
      obtain ⟨s₁, h⟩ := (hstep s a hs).mpr hmeets
      obtain ⟨s', h'⟩ := (foldlM_ok_iff hkeep hstep (hkeep s a s₁ hs h)).mpr (hrest s₁ h)
      exact ⟨s', s₁, h, h'⟩

theorem foldlM_take {as : List α} {s s' : σ} (h : as.foldlM f s = .ok s') (n : Nat) :
    ∃ s₁, (as.take n).foldlM f s = .ok s₁ := by
  rw [← List.take_append_drop n as, foldlM_append_ok] at h
  obtain ⟨s₁, h₁, -⟩ := h
  exact ⟨s₁, h₁⟩

end Keystone3.Logic.Steps
