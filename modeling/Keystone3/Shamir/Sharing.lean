import Mathlib.LinearAlgebra.Lagrange

/-!
# Sharing a secret among points of a curve

In threshold sharing every byte of a secret is the value of a polynomial at an agreed
place, and a share is the values of these polynomials at the place of its owner.
`Sharing` is such a family of polynomials, all of a degree below the threshold.

`readAt` reads a polynomial at a new place from a list of points on it, by the formula
of Lagrange.
-/

namespace Keystone3.Shamir

open Polynomial

variable {F : Type} [Field F] [DecidableEq F]

/-- What the value at `a` counts when a curve known at `xs` is read at `x`. -/
def weight (xs : List F) (a x : F) : F := ((xs.filter (· ≠ a)).map fun b => (x - b) / (a - b)).prod

/-- The value at `x` of the curve through the points. -/
def readAt (points : List (F × F)) (x : F) : F :=
  (points.map fun p => p.2 * weight (points.map Prod.fst) p.1 x).sum

theorem weight_eq_basis {xs : List F} (h : xs.Nodup) (a x : F) :
    weight xs a x = (Lagrange.basis xs.toFinset id a).eval x := by
  have hset : (xs.filter (· ≠ a)).toFinset = xs.toFinset.erase a := by
    ext b
    simp only [List.toFinset_filter, decide_not, Bool.not_eq_eq_eq_not, Bool.not_true,
      decide_eq_false_iff_not, Finset.mem_filter, List.mem_toFinset, Finset.mem_erase, ne_eq]
    exact and_comm
  rw [weight, ← List.prod_toFinset _ (h.filter _), hset, Lagrange.basis, eval_prod]
  refine Finset.prod_congr rfl fun b _ => ?_
  simp only [Lagrange.basisDivisor, id_eq, eval_mul, eval_C, eval_sub, eval_X]
  rw [div_eq_inv_mul]

/-- **Reading a curve from points on it.** Any points will do, in any order, as
long as they are more than the degree and no place is repeated. -/
theorem readAt_eq_eval {points : List (F × F)} (hnodup : (points.map Prod.fst).Nodup)
    {f : F[X]} (hdegree : f.degree < points.length)
    (hon : ∀ p ∈ points, f.eval p.1 = p.2) (x : F) : readAt points x = f.eval x := by
  have hcard : (points.map Prod.fst).toFinset.card = points.length := by
    rw [List.toFinset_card_of_nodup hnodup, List.length_map]
  have hf : f = Lagrange.interpolate (points.map Prod.fst).toFinset id fun a => f.eval a :=
    Lagrange.eq_interpolate (Set.injOn_id _) (by rw [hcard]; exact hdegree)
  have hsum : readAt points x = ((points.map Prod.fst).map fun a =>
      f.eval a * weight (points.map Prod.fst) a x).sum := by
    rw [readAt, List.map_map]
    refine congrArg List.sum (List.map_congr_left fun p hp => ?_)
    rw [Function.comp_apply, hon p hp]
  rw [hsum, ← List.sum_toFinset _ hnodup]
  nth_rewrite 2 [hf]
  rw [Lagrange.interpolate_apply, eval_finsetSum]
  refine Finset.sum_congr rfl fun a _ => ?_
  rw [eval_mul, eval_C, weight_eq_basis hnodup]

theorem exists_curve {points : List (F × F)} (hnodup : (points.map Prod.fst).Nodup) :
    ∃ f : F[X], f.degree < points.length ∧ (∀ p ∈ points, f.eval p.1 = p.2)
      ∧ ∀ x, readAt points x = f.eval x := by
  have hcard : (points.map Prod.fst).toFinset.card = points.length := by
    rw [List.toFinset_card_of_nodup hnodup, List.length_map]
  let value (a : F) : F := ((points.find? (·.1 = a)).map Prod.snd).getD 0
  have hvalue : ∀ p ∈ points, value p.1 = p.2 := by
    intro p hp
    have hfind : points.find? (·.1 = p.1) = some p := by
      induction points with
      | nil => cases hp
      | cons q rest ih =>
        obtain ⟨hq, hrest⟩ := List.nodup_cons.mp hnodup
        rcases List.mem_cons.mp hp with rfl | hin
        · exact List.find?_cons_of_pos (decide_eq_true rfl)
        · have hne : q.1 ≠ p.1 := by
            intro h
            exact hq (h ▸ List.mem_map_of_mem hin)
          rw [List.find?_cons_of_neg (by simpa using hne)]
          exact ih hrest (by rw [List.toFinset_card_of_nodup hrest, List.length_map]) hin
    show ((points.find? (·.1 = p.1)).map Prod.snd).getD 0 = p.2
    rw [hfind]
    rfl
  let f := Lagrange.interpolate (points.map Prod.fst).toFinset id value
  have hdegree : f.degree < points.length := by
    rw [← hcard]
    exact Lagrange.degree_interpolate_lt value (Set.injOn_id _)
  have hon : ∀ p ∈ points, f.eval p.1 = p.2 := by
    intro p hp
    have hin : p.1 ∈ (points.map Prod.fst).toFinset :=
      List.mem_toFinset.mpr (List.mem_map_of_mem hp)
    have := Lagrange.eval_interpolate_at_node value (Set.injOn_id _) hin
    rw [id_eq] at this
    rw [this, hvalue p hp]
  exact ⟨f, hdegree, hon, readAt_eq_eval hnodup hdegree hon⟩

/-- A secret of `size` elements shared so that `threshold` shares tell it. -/
structure Sharing (F : Type) [Field F] (size threshold : Nat) where
  curve : Fin size → F[X]
  degree_lt : ∀ k, (curve k).degree < threshold

namespace Sharing

variable {size threshold : Nat}

def share (s : Sharing F size threshold) (x : F) : List F := List.ofFn fun k => (s.curve k).eval x

omit [DecidableEq F] in
@[simp] theorem length_share (s : Sharing F size threshold) (x : F) :
    (s.share x).length = size := List.length_ofFn

theorem readAt_share (s : Sharing F size threshold) {xs : List F} (hnodup : xs.Nodup)
    (henough : threshold ≤ xs.length) (k : Fin size) (x : F) :
    readAt (xs.map fun a => (a, (s.curve k).eval a)) x = (s.curve k).eval x := by
  have hplaces : (xs.map fun a => (a, (s.curve k).eval a)).map Prod.fst = xs := by
    rw [List.map_map]
    exact List.map_id xs
  refine readAt_eq_eval (by rw [hplaces]; exact hnodup) ?_ ?_ x
  · rw [List.length_map]
    exact lt_of_lt_of_le (s.degree_lt k) (Nat.cast_le.mpr henough)
  · intro p hp
    obtain ⟨a, _, rfl⟩ := List.mem_map.mp hp
    rfl

end Sharing

end Keystone3.Shamir
