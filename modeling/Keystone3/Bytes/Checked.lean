import Mathlib.Algebra.BigOperators.Group.List.Basic
import Mathlib.Algebra.Order.Ring.Nat

/-!
# Sums of 64 bits

Sums and differences that are only there where they are those of the numbers
(`checkedSum_eq_some`, `checkedSub_eq_some`). Where they are, the operations that
wrap give the same (`foldl_eq_of_foldlM`); where they are not, what is left of the
number (`foldl_add_toNat`).
-/

namespace Keystone3.Bytes

def checkedAdd (a b : UInt64) : Option UInt64 :=
  if a.toNat + b.toNat < 2 ^ 64 then some (a + b) else none

def checkedSub (a b : UInt64) : Option UInt64 := if b ≤ a then some (a - b) else none

def checkedSum (amounts : List UInt64) : Option UInt64 := amounts.foldlM checkedAdd 0

theorem checkedAdd_eq_some {a b c : UInt64} :
    checkedAdd a b = some c ↔ c.toNat = a.toNat + b.toNat := by
  have hc := c.toNat_lt
  unfold checkedAdd
  by_cases hfits : a.toNat + b.toNat < 2 ^ 64
  · rw [if_pos hfits, Option.some.injEq, ← UInt64.toNat_inj, UInt64.toNat_add,
      Nat.mod_eq_of_lt hfits]
    exact eq_comm
  · rw [if_neg hfits]
    constructor
    · nofun
    · intro h
      omega

theorem checkedSub_eq_some {a b c : UInt64} :
    checkedSub a b = some c ↔ c.toNat + b.toNat = a.toNat := by
  unfold checkedSub
  by_cases hle : b ≤ a
  · have hle' := UInt64.le_iff_toNat_le.mp hle
    rw [if_pos hle, Option.some.injEq, ← UInt64.toNat_inj, UInt64.toNat_sub_of_le _ _ hle]
    omega
  · have hlt := mt UInt64.le_iff_toNat_le.mpr hle
    rw [if_neg hle]
    constructor
    · nofun
    · intro h
      omega

theorem foldlM_checkedAdd_eq_some {amounts : List UInt64} {acc s : UInt64} :
    amounts.foldlM checkedAdd acc = some s
      ↔ s.toNat = acc.toNat + (amounts.map UInt64.toNat).sum := by
  induction amounts generalizing acc with
  | nil =>
    rw [List.foldlM_nil, List.map_nil, List.sum_nil, Nat.add_zero, eq_comm (a := s.toNat),
      UInt64.toNat_inj]
    exact Option.some_inj
  | cons amount amounts ih =>
    have hs := s.toNat_lt
    rw [List.foldlM_cons, List.map_cons, List.sum_cons]
    cases hadd : checkedAdd acc amount with
    | none =>
      -- the sum is already too big, and more is added
      have hfits : ¬acc.toNat + amount.toNat < 2 ^ 64 := by
        intro hfits
        rw [checkedAdd, if_pos hfits] at hadd
        cases hadd
      constructor
      · nofun
      · intro h
        omega
    | some next =>
      rw [Option.bind_eq_bind, Option.bind_some, ih, checkedAdd_eq_some.mp hadd, Nat.add_assoc]

theorem checkedSum_eq_some {amounts : List UInt64} {s : UInt64} :
    checkedSum amounts = some s ↔ s.toNat = (amounts.map UInt64.toNat).sum := by
  rw [checkedSum, foldlM_checkedAdd_eq_some, UInt64.toNat_zero, Nat.zero_add]

theorem checkedAdd_eq {a b c : UInt64} (h : checkedAdd a b = some c) : a + b = c := by
  rw [← UInt64.toNat_inj, UInt64.toNat_add, ← checkedAdd_eq_some.mp h, Nat.mod_eq_of_lt c.toNat_lt]

theorem checkedSub_eq {a b c : UInt64} (h : checkedSub a b = some c) : a - b = c := by
  unfold checkedSub at h
  split at h
  · exact Option.some.inj h
  · cases h

theorem foldl_eq_of_foldlM {amounts : List UInt64} {acc s : UInt64}
    (h : amounts.foldlM checkedAdd acc = some s) : amounts.foldl (· + ·) acc = s := by
  induction amounts generalizing acc with
  | nil => exact Option.some.inj h
  | cons amount amounts ih =>
    obtain ⟨next, hnext, h⟩ := Option.bind_eq_some_iff.mp h
    rw [List.foldl_cons, checkedAdd_eq hnext, ih h]

theorem foldl_add_toNat (amounts : List UInt64) (acc : UInt64) :
    (amounts.foldl (· + ·) acc).toNat
      = (acc.toNat + (amounts.map UInt64.toNat).sum) % 2 ^ 64 := by
  induction amounts generalizing acc with
  | nil => rw [List.foldl_nil, List.map_nil, List.sum_nil, Nat.add_zero, Nat.mod_eq_of_lt acc.toNat_lt]
  | cons amount amounts ih =>
    rw [List.foldl_cons, ih, UInt64.toNat_add, Nat.mod_add_mod, Nat.add_assoc, List.map_cons,
      List.sum_cons]

end Keystone3.Bytes
