import Mathlib.Algebra.GroupWithZero.Nat

/-!
# Feistel networks

A round of a Feistel network puts the right half on the left and mixes a key
into the left half, and the key is made from the right half. It is undone by the
same round on the halves the other way round, whatever the keys are made with,
as long as mixing a key in twice changes nothing (`rounds_reverse`).
-/

namespace Keystone3.Bytes.Feistel

variable {α : Type} (mix : α → α → α) (key : Nat → α → α)

def rounds : List Nat → α × α → α × α
  | [], h => h
  | i :: is, h => rounds is (h.2, mix h.1 (key i h.2))

theorem rounds_append (is js : List Nat) (h : α × α) :
    rounds mix key (is ++ js) h = rounds mix key js (rounds mix key is h) := by
  induction is generalizing h with
  | nil => rfl
  | cons i is ih => exact ih _

theorem rounds_reverse (hmix : ∀ a b, mix (mix a b) b = a) (is : List Nat) (h : α × α) :
    rounds mix key is.reverse (rounds mix key is h).swap = h.swap := by
  induction is generalizing h with
  | nil => rfl
  | cons i is ih =>
    have hback : rounds mix key is.reverse (rounds mix key (i :: is) h).swap
        = (mix h.1 (key i h.2), h.2) := ih (h.2, mix h.1 (key i h.2))
    rw [List.reverse_cons, rounds_append, hback]
    show (h.2, mix (mix h.1 (key i h.2)) (key i h.2)) = h.swap
    rw [hmix]
    rfl

end Keystone3.Bytes.Feistel
