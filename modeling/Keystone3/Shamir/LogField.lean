import Mathlib.Algebra.Field.Basic
import Mathlib.Algebra.Group.Hom.Defs

/-!
# A field from its logarithms

A finite field is often computed with two tables: the powers of a generator and the
logarithms to it. `LogTable` says what such a pair of tables must satisfy over a given
addition, and `LogTable.toField` is the field.
-/

namespace Keystone3.Shamir

/-- Powers and logarithms over the addition of `α`. -/
structure LogTable (α : Type) [AddCommGroup α] where
  /-- The powers of the generator. -/
  exp : Nat → α
  /-- The logarithm of an element other than zero. -/
  log : α → Nat
  /-- The powers come back to the first after so many. -/
  period : Nat
  /-- Multiplication by the generator. -/
  step : α →+ α
  exp_succ : ∀ n, exp (n + 1) = step (exp n)
  exp_log : ∀ a, a ≠ 0 → exp (log a) = a
  exp_ne_zero : ∀ n, exp n ≠ 0
  exp_period : exp period = exp 0
  log_le : ∀ a, log a ≤ period

namespace LogTable

variable {α : Type} [AddCommGroup α] [DecidableEq α] (t : LogTable α)

def mul (a b : α) : α := if a = 0 ∨ b = 0 then 0 else t.exp (t.log a + t.log b)

def inv (a : α) : α := if a = 0 then 0 else t.exp (t.period - t.log a)

omit [DecidableEq α] in
theorem exp_add (m k : Nat) : t.exp (m + k) = t.step^[k] (t.exp m) := by
  induction k with
  | zero => rfl
  | succ k ih => rw [← Nat.add_assoc, t.exp_succ, ih, Function.iterate_succ_apply']

omit [DecidableEq α] in
theorem iterate_step_zero (k : Nat) : t.step^[k] 0 = 0 := by
  induction k with
  | zero => rfl
  | succ k ih => rw [Function.iterate_succ_apply', ih, map_zero]

omit [DecidableEq α] in
theorem iterate_step_add (k : Nat) (a b : α) :
    t.step^[k] (a + b) = t.step^[k] a + t.step^[k] b := by
  induction k with
  | zero => rfl
  | succ k ih => simp only [Function.iterate_succ_apply', ih, map_add]

theorem mul_eq_iterate {a : α} (ha : a ≠ 0) (b : α) : t.mul a b = t.step^[t.log a] b := by
  by_cases hb : b = 0
  · rw [mul, if_pos (.inr hb), hb, t.iterate_step_zero]
  · rw [mul, if_neg (by simp only [ha, hb, or_self, not_false_eq_true]), Nat.add_comm, t.exp_add,
      t.exp_log b hb]

theorem mul_comm (a b : α) : t.mul a b = t.mul b a := by
  simp only [mul, or_comm, Nat.add_comm]

theorem zero_mul (a : α) : t.mul 0 a = 0 := if_pos (.inl rfl)

theorem mul_zero (a : α) : t.mul a 0 = 0 := if_pos (.inr rfl)

theorem mul_exp (m n : Nat) : t.mul (t.exp m) (t.exp n) = t.exp (m + n) := by
  have hlog : ∀ k j, t.exp (t.log (t.exp k) + j) = t.exp (k + j) := by
    intro k j
    rw [t.exp_add, t.exp_log _ (t.exp_ne_zero k), ← t.exp_add]
  rw [mul, if_neg (by simp only [t.exp_ne_zero, or_self, not_false_eq_true]), hlog, Nat.add_comm m,
    hlog, Nat.add_comm]

theorem mul_assoc (a b c : α) : t.mul (t.mul a b) c = t.mul a (t.mul b c) := by
  by_cases ha : a = 0
  · simp only [ha, t.zero_mul]
  by_cases hb : b = 0
  · simp only [hb, t.zero_mul, t.mul_zero]
  by_cases hc : c = 0
  · simp only [hc, t.mul_zero]
  rw [← t.exp_log a ha, ← t.exp_log b hb, ← t.exp_log c hc]
  simp only [t.mul_exp, Nat.add_assoc]

theorem one_mul (a : α) : t.mul (t.exp 0) a = a := by
  by_cases ha : a = 0
  · rw [ha, t.mul_zero]
  · rw [← t.exp_log a ha, t.mul_exp, Nat.zero_add]

theorem mul_add (a b c : α) : t.mul a (b + c) = t.mul a b + t.mul a c := by
  by_cases ha : a = 0
  · simp only [ha, t.zero_mul, add_zero]
  · simp only [t.mul_eq_iterate ha, t.iterate_step_add]

theorem mul_inv {a : α} (ha : a ≠ 0) : t.mul a (t.inv a) = t.exp 0 := by
  rw [inv, if_neg ha, ← t.exp_log a ha, t.mul_exp, t.exp_log a ha,
    Nat.add_sub_cancel' (t.log_le a), t.exp_period]

/-- The field the tables compute in. -/
@[reducible] def toField : Field α where
  __ := (inferInstance : AddCommGroup α)
  mul := t.mul
  one := t.exp 0
  inv := t.inv
  left_distrib := t.mul_add
  right_distrib a b c := by
    show t.mul (a + b) c = t.mul a c + t.mul b c
    rw [t.mul_comm, t.mul_add, t.mul_comm c a, t.mul_comm c b]
  zero_mul := t.zero_mul
  mul_zero := t.mul_zero
  mul_assoc := t.mul_assoc
  one_mul := t.one_mul
  mul_one a := (t.mul_comm a _).trans (t.one_mul a)
  mul_comm := t.mul_comm
  exists_pair_ne := ⟨0, t.exp 0, (t.exp_ne_zero 0).symm⟩
  mul_inv_cancel _ ha := t.mul_inv ha
  inv_zero := if_pos rfl
  nnqsmul := _
  nnqsmul_def := fun _ _ => rfl
  qsmul := _
  qsmul_def := fun _ _ => rfl

end LogTable

end Keystone3.Shamir
