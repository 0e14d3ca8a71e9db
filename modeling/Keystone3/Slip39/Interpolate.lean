import Keystone3.Shamir.LogField
import Keystone3.Shamir.Sharing

/-!
# The field of the SLIP39 shares

A share is read byte by byte, and the bytes are the field with 256 elements: they are
added by exclusive or, and multiplied with the tables `LOG_TABLE` and `EXP_TABLE` of
`slip39.c`. `interpolate` reads a share at one place from shares at others; it never
leaves the logarithms, where the weight of a share is a sum modulo 255.
-/

namespace Keystone3.Slip39

open Shamir

def logTable : List UInt8 := [
  0x00, 0x00, 0x19, 0x01, 0x32, 0x02, 0x1a, 0xc6, 0x4b, 0xc7, 0x1b, 0x68, 0x33, 0xee, 0xdf, 0x03,
  0x64, 0x04, 0xe0, 0x0e, 0x34, 0x8d, 0x81, 0xef, 0x4c, 0x71, 0x08, 0xc8, 0xf8, 0x69, 0x1c, 0xc1,
  0x7d, 0xc2, 0x1d, 0xb5, 0xf9, 0xb9, 0x27, 0x6a, 0x4d, 0xe4, 0xa6, 0x72, 0x9a, 0xc9, 0x09, 0x78,
  0x65, 0x2f, 0x8a, 0x05, 0x21, 0x0f, 0xe1, 0x24, 0x12, 0xf0, 0x82, 0x45, 0x35, 0x93, 0xda, 0x8e,
  0x96, 0x8f, 0xdb, 0xbd, 0x36, 0xd0, 0xce, 0x94, 0x13, 0x5c, 0xd2, 0xf1, 0x40, 0x46, 0x83, 0x38,
  0x66, 0xdd, 0xfd, 0x30, 0xbf, 0x06, 0x8b, 0x62, 0xb3, 0x25, 0xe2, 0x98, 0x22, 0x88, 0x91, 0x10,
  0x7e, 0x6e, 0x48, 0xc3, 0xa3, 0xb6, 0x1e, 0x42, 0x3a, 0x6b, 0x28, 0x54, 0xfa, 0x85, 0x3d, 0xba,
  0x2b, 0x79, 0x0a, 0x15, 0x9b, 0x9f, 0x5e, 0xca, 0x4e, 0xd4, 0xac, 0xe5, 0xf3, 0x73, 0xa7, 0x57,
  0xaf, 0x58, 0xa8, 0x50, 0xf4, 0xea, 0xd6, 0x74, 0x4f, 0xae, 0xe9, 0xd5, 0xe7, 0xe6, 0xad, 0xe8,
  0x2c, 0xd7, 0x75, 0x7a, 0xeb, 0x16, 0x0b, 0xf5, 0x59, 0xcb, 0x5f, 0xb0, 0x9c, 0xa9, 0x51, 0xa0,
  0x7f, 0x0c, 0xf6, 0x6f, 0x17, 0xc4, 0x49, 0xec, 0xd8, 0x43, 0x1f, 0x2d, 0xa4, 0x76, 0x7b, 0xb7,
  0xcc, 0xbb, 0x3e, 0x5a, 0xfb, 0x60, 0xb1, 0x86, 0x3b, 0x52, 0xa1, 0x6c, 0xaa, 0x55, 0x29, 0x9d,
  0x97, 0xb2, 0x87, 0x90, 0x61, 0xbe, 0xdc, 0xfc, 0xbc, 0x95, 0xcf, 0xcd, 0x37, 0x3f, 0x5b, 0xd1,
  0x53, 0x39, 0x84, 0x3c, 0x41, 0xa2, 0x6d, 0x47, 0x14, 0x2a, 0x9e, 0x5d, 0x56, 0xf2, 0xd3, 0xab,
  0x44, 0x11, 0x92, 0xd9, 0x23, 0x20, 0x2e, 0x89, 0xb4, 0x7c, 0xb8, 0x26, 0x77, 0x99, 0xe3, 0xa5,
  0x67, 0x4a, 0xed, 0xde, 0xc5, 0x31, 0xfe, 0x18, 0x0d, 0x63, 0x8c, 0x80, 0xc0, 0xf7, 0x70, 0x07]

def expTable : List UInt8 := [
  0x01, 0x03, 0x05, 0x0f, 0x11, 0x33, 0x55, 0xff, 0x1a, 0x2e, 0x72, 0x96, 0xa1, 0xf8, 0x13, 0x35,
  0x5f, 0xe1, 0x38, 0x48, 0xd8, 0x73, 0x95, 0xa4, 0xf7, 0x02, 0x06, 0x0a, 0x1e, 0x22, 0x66, 0xaa,
  0xe5, 0x34, 0x5c, 0xe4, 0x37, 0x59, 0xeb, 0x26, 0x6a, 0xbe, 0xd9, 0x70, 0x90, 0xab, 0xe6, 0x31,
  0x53, 0xf5, 0x04, 0x0c, 0x14, 0x3c, 0x44, 0xcc, 0x4f, 0xd1, 0x68, 0xb8, 0xd3, 0x6e, 0xb2, 0xcd,
  0x4c, 0xd4, 0x67, 0xa9, 0xe0, 0x3b, 0x4d, 0xd7, 0x62, 0xa6, 0xf1, 0x08, 0x18, 0x28, 0x78, 0x88,
  0x83, 0x9e, 0xb9, 0xd0, 0x6b, 0xbd, 0xdc, 0x7f, 0x81, 0x98, 0xb3, 0xce, 0x49, 0xdb, 0x76, 0x9a,
  0xb5, 0xc4, 0x57, 0xf9, 0x10, 0x30, 0x50, 0xf0, 0x0b, 0x1d, 0x27, 0x69, 0xbb, 0xd6, 0x61, 0xa3,
  0xfe, 0x19, 0x2b, 0x7d, 0x87, 0x92, 0xad, 0xec, 0x2f, 0x71, 0x93, 0xae, 0xe9, 0x20, 0x60, 0xa0,
  0xfb, 0x16, 0x3a, 0x4e, 0xd2, 0x6d, 0xb7, 0xc2, 0x5d, 0xe7, 0x32, 0x56, 0xfa, 0x15, 0x3f, 0x41,
  0xc3, 0x5e, 0xe2, 0x3d, 0x47, 0xc9, 0x40, 0xc0, 0x5b, 0xed, 0x2c, 0x74, 0x9c, 0xbf, 0xda, 0x75,
  0x9f, 0xba, 0xd5, 0x64, 0xac, 0xef, 0x2a, 0x7e, 0x82, 0x9d, 0xbc, 0xdf, 0x7a, 0x8e, 0x89, 0x80,
  0x9b, 0xb6, 0xc1, 0x58, 0xe8, 0x23, 0x65, 0xaf, 0xea, 0x25, 0x6f, 0xb1, 0xc8, 0x43, 0xc5, 0x54,
  0xfc, 0x1f, 0x21, 0x63, 0xa5, 0xf4, 0x07, 0x09, 0x1b, 0x2d, 0x77, 0x99, 0xb0, 0xcb, 0x46, 0xca,
  0x45, 0xcf, 0x4a, 0xde, 0x79, 0x8b, 0x86, 0x91, 0xa8, 0xe3, 0x3e, 0x42, 0xc6, 0x51, 0xf3, 0x0e,
  0x12, 0x36, 0x5a, 0xee, 0x29, 0x7b, 0x8d, 0x8c, 0x8f, 0x8a, 0x85, 0x94, 0xa7, 0xf2, 0x0d, 0x17,
  0x39, 0x4b, 0xdd, 0x7c, 0x84, 0x97, 0xa2, 0xfd, 0x1c, 0x24, 0x6c, 0xb4, 0xc7, 0x52, 0xf6, 0x00]

def log (a : UInt8) : Nat := (logTable.getD a.toNat 0).toNat

def exp (n : Nat) : UInt8 := expTable.getD (n % 255) 0

/-- What the bit shifted out of a byte adds to it, modulo `x^8 + x^4 + x^3 + x + 1`. -/
def carry (top : UInt8) : UInt8 := if top = 0 then 0 else 0x1B

/-- Multiplication by the generator of the tables, `x + 1`. -/
def triple (a : UInt8) : UInt8 := a ^^^ (a <<< 1) ^^^ carry (a >>> 7)

structure Gf256 where
  byte : UInt8
deriving DecidableEq

namespace Gf256

@[ext] theorem ext {a b : Gf256} (h : a.byte = b.byte) : a = b := by
  cases a
  cases b
  subst h
  rfl

instance : Zero Gf256 := ⟨⟨0⟩⟩
instance : Add Gf256 := ⟨fun a b => ⟨a.byte ^^^ b.byte⟩⟩
instance : Neg Gf256 := ⟨id⟩

instance : AddCommGroup Gf256 where
  add_assoc a b c := ext (UInt8.xor_assoc a.byte b.byte c.byte)
  zero_add a := ext (UInt8.zero_xor)
  add_zero a := ext (UInt8.xor_zero)
  nsmul := nsmulRec
  zsmul := zsmulRec
  neg_add_cancel a := ext (UInt8.xor_self)
  add_comm a b := ext (UInt8.xor_comm a.byte b.byte)

end Gf256

theorem top_bit (a : UInt8) : a >>> 7 = 0 ∨ a >>> 7 = 1 := by
  have hlt : a.toNat < 256 := a.toNat_lt
  have htop : (a >>> 7).toNat = a.toNat / 128 := by
    rw [UInt8.toNat_shiftRight, Nat.shiftRight_eq_div_pow]
    rfl
  rcases (by omega : a.toNat / 128 = 0 ∨ a.toNat / 128 = 1) with h | h
  · exact .inl (UInt8.toNat_inj.mp (htop.trans h))
  · exact .inr (UInt8.toNat_inj.mp (htop.trans h))

theorem carry_xor (a b : UInt8) :
    carry ((a ^^^ b) >>> 7) = carry (a >>> 7) ^^^ carry (b >>> 7) := by
  rw [UInt8.shiftRight_xor]
  rcases top_bit a with ha | ha <;> rcases top_bit b with hb | hb <;> rw [ha, hb] <;> decide

theorem triple_xor (a b : UInt8) : triple (a ^^^ b) = triple a ^^^ triple b := by
  unfold triple
  rw [carry_xor, UInt8.shiftLeft_xor]
  ac_rfl

theorem exp_mod (n : Nat) : exp (n % 255) = exp n := by rw [exp, Nat.mod_mod, exp]

def powers : List UInt8 := expTable.take 255

set_option maxRecDepth 16384 in
theorem powers_get (n : Nat) : powers[n % 255]? = some (exp n) := by
  have hlength : expTable.length = 256 := by decide
  have hn := Nat.mod_lt n (by decide : 255 > 0)
  rw [powers, List.getElem?_take_of_lt hn, exp, List.getD_eq_getElem?_getD,
    List.getElem?_eq_getElem (by omega), Option.getD_some]

set_option maxRecDepth 16384 in
theorem map_triple_powers : powers.map triple = powers.tail ++ [1] := by decide

set_option maxRecDepth 16384 in
theorem exp_succ (n : Nat) : exp (n + 1) = triple (exp n) := by
  have hlength : powers.length = 255 := by decide
  have h := congrArg (·[n % 255]?) map_triple_powers
  simp only [List.getElem?_map, powers_get, Option.map_some] at h
  by_cases hn : n % 255 + 1 < 255
  · have hmod : (n + 1) % 255 = n % 255 + 1 := by omega
    rw [List.getElem?_append_left (by rw [List.length_tail]; omega), List.getElem?_tail, ← hmod,
      powers_get] at h
    exact (Option.some.inj h).symm
  · have hlast : n % 255 = powers.tail.length := by rw [List.length_tail]; omega
    have hmod : (n + 1) % 255 = 0 := by omega
    rw [hlast, List.getElem?_concat_length] at h
    rw [← exp_mod, hmod, Option.some.inj h]
    rfl

set_option maxRecDepth 16384 in
theorem exp_ne_zero (n : Nat) : exp n ≠ 0 := by
  have h : powers.all (· != 0) = true := by decide
  exact bne_iff_ne.mp (List.all_eq_true.mp h _ (List.mem_of_getElem? (powers_get n)))

set_option maxRecDepth 16384 in
theorem log_lt (a : UInt8) : log a < 255 := by
  have hall : logTable.all (·.toNat < 255) = true := by decide
  have h : ∀ b ∈ logTable, b.toNat < 255 := fun b hb =>
    of_decide_eq_true (List.all_eq_true.mp hall b hb)
  rw [log, List.getD_eq_getElem?_getD]
  cases hget : logTable[a.toNat]? with
  | none => decide
  | some b => exact h b (List.mem_of_getElem? hget)

set_option maxRecDepth 16384 in
theorem map_exp_logTable :
    logTable.tail.map (fun b => expTable.getD b.toNat 0)
      = (List.range 255).map fun k => UInt8.ofNat (k + 1) := by
  decide

set_option maxRecDepth 16384 in
theorem exp_log (a : UInt8) (ha : a ≠ 0) : exp (log a) = a := by
  have hlength : logTable.length = 256 := by decide
  have hlt : a.toNat < 256 := a.toNat_lt
  have hpos : a.toNat ≠ 0 := fun h => ha (UInt8.toNat_inj.mp h)
  have hk : a.toNat - 1 + 1 = a.toNat := by omega
  have h := congrArg (·[a.toNat - 1]?) map_exp_logTable
  simp only [List.getElem?_map, List.getElem?_tail, hk] at h
  rw [List.getElem?_eq_getElem (by omega), List.getElem?_range (by omega), Option.map_some,
    Option.map_some, hk, UInt8.ofNat_toNat] at h
  rw [exp, Nat.mod_eq_of_lt (log_lt a), log, List.getD_eq_getElem?_getD (l := logTable),
    List.getElem?_eq_getElem (by omega), Option.getD_some]
  exact Option.some.inj h

/-- The tables of `slip39.c`, for the library. -/
def tables : LogTable Gf256 where
  exp n := ⟨exp n⟩
  log a := log a.byte
  period := 255
  step := ⟨⟨fun a => ⟨triple a.byte⟩, rfl⟩, fun a b => Gf256.ext (triple_xor a.byte b.byte)⟩
  exp_succ n := Gf256.ext (exp_succ n)
  exp_log a ha := Gf256.ext (exp_log a.byte fun h => ha (Gf256.ext h))
  exp_ne_zero n h := exp_ne_zero n (congrArg Gf256.byte h)
  exp_period := Gf256.ext (exp_mod 255).symm
  log_le a := (log_lt a.byte).le

instance : Field Gf256 := tables.toField

/-- The sum `d` over the other places: the weight of the share at `a` when the
curve is read at `n`, as a logarithm. -/
def logWeight (n a : UInt8) (others : List UInt8) : Nat :=
  others.foldl (fun d b => (d + log (n ^^^ b) + (255 - log (a ^^^ b))) % 255) 0

def term (d : Nat) (t : UInt8) : UInt8 := if t = 0 then 0 else exp (log t + d)

/-- `interpolate`, with the arrays `xi` and `yi` side by side. -/
def interpolate (points : List (UInt8 × List UInt8)) (n : UInt8) (len threshold : Nat) :
    List UInt8 :=
  let points := points.take threshold
  match points.find? (·.1 == n) with
  | some p => (List.range len).map fun j => p.2.getD j 0
  | none => (List.range len).map fun j =>
    (points.mapIdx fun i p =>
      term (logWeight n p.1 ((points.eraseIdx i).map Prod.fst)) (p.2.getD j 0)).foldl (· ^^^ ·) 0

namespace Gf256

theorem mk_exp_mul (m n : Nat) : (⟨exp m⟩ * ⟨exp n⟩ : Gf256) = ⟨exp (m + n)⟩ := tables.mul_exp m n

theorem mk_exp_log {a : UInt8} (ha : a ≠ 0) : (⟨exp (log a)⟩ : Gf256) = ⟨a⟩ := ext (exp_log a ha)

theorem mk_inv {a : UInt8} (ha : a ≠ 0) : (⟨exp (255 - log a)⟩ : Gf256) = (⟨a⟩ : Gf256)⁻¹ :=
  (if_neg fun h => ha (congrArg byte h)).symm

theorem mk_term (d : Nat) (t : UInt8) : (⟨term d t⟩ : Gf256) = ⟨t⟩ * ⟨exp d⟩ := by
  by_cases ht : t = 0
  · rw [term, if_pos ht, ht]
    exact (zero_mul _).symm
  · rw [term, if_neg ht, ← mk_exp_mul, mk_exp_log ht]

theorem byte_sum (l : List Gf256) : l.sum.byte = (l.map byte).foldl (· ^^^ ·) 0 := by
  have hacc : ∀ (l : List Gf256) (a : Gf256),
      (l.map byte).foldl (· ^^^ ·) a.byte = (a + l.sum).byte := by
    intro l
    induction l with
    | nil => intro a; rw [List.sum_nil, add_zero]; rfl
    | cons b l ih =>
      intro a
      rw [List.map_cons, List.foldl_cons, List.sum_cons, ← add_assoc]
      exact ih (a + b)
  rw [← zero_add l.sum]
  exact (hacc l 0).symm

end Gf256

theorem exp_logWeight {n a : UInt8} {others : List UInt8} (hn : n ∉ others) (ha : a ∉ others) :
    (⟨exp (logWeight n a others)⟩ : Gf256)
      = ((others.map Gf256.mk).map fun b => (⟨n⟩ - b) / (⟨a⟩ - b)).prod := by
  have hacc : ∀ (others : List UInt8) (d : Nat), n ∉ others → a ∉ others →
      (⟨exp (others.foldl (fun d b => (d + log (n ^^^ b) + (255 - log (a ^^^ b))) % 255) d)⟩ : Gf256)
        = ⟨exp d⟩ * ((others.map Gf256.mk).map fun b => (⟨n⟩ - b) / (⟨a⟩ - b)).prod := by
    intro others
    induction others with
    | nil => intro d _ _; exact (mul_one _).symm
    | cons b others ih =>
      intro d hn ha
      obtain ⟨hnb, hn⟩ := not_or.mp fun h => hn (List.mem_cons.mpr h)
      obtain ⟨hab, ha⟩ := not_or.mp fun h => ha (List.mem_cons.mpr h)
      have hnb : n ^^^ b ≠ 0 := fun h => hnb (UInt8.xor_eq_zero_iff.mp h)
      have hab : a ^^^ b ≠ 0 := fun h => hab (UInt8.xor_eq_zero_iff.mp h)
      rw [List.foldl_cons, ih _ hn ha, exp_mod, ← Gf256.mk_exp_mul, ← Gf256.mk_exp_mul,
        Gf256.mk_exp_log hnb, Gf256.mk_inv hab, List.map_cons, List.map_cons, List.prod_cons,
        div_eq_mul_inv]
      simp only [mul_assoc]
      rfl
  rw [logWeight, hacc others 0 hn ha]
  exact one_mul _

/-- Byte `j` of the points, in the field. -/
def column (points : List (UInt8 × List UInt8)) (j : Nat) : List (Gf256 × Gf256) :=
  points.map fun p => (⟨p.1⟩, ⟨p.2.getD j 0⟩)

theorem map_fst_column (points : List (UInt8 × List UInt8)) (j : Nat) :
    (column points j).map Prod.fst = (points.map Prod.fst).map Gf256.mk := by
  rw [column, List.map_map, List.map_map]
  rfl

variable {points : List (UInt8 × List UInt8)}

theorem nodup_column (h : (points.map Prod.fst).Nodup)
    (j : Nat) : ((column points j).map Prod.fst).Nodup := by
  rw [map_fst_column]
  exact h.map fun _ _ hab => congrArg Gf256.byte hab

theorem map_fst_eraseIdx (h : (points.map Prod.fst).Nodup)
    {i : Nat} (hi : i < points.length) :
    (points.eraseIdx i).map Prod.fst
      = (points.map Prod.fst).filter fun b => decide (b ≠ points[i].1) := by
  have hi' : i < (points.map Prod.fst).length := by rwa [List.length_map]
  have hget : (points.map Prod.fst)[i] = points[i].1 := List.getElem_map _
  have hfilter : (points.map Prod.fst).filter (fun b => decide (b ≠ points[i].1))
      = (points.map Prod.fst).filter fun b => b != points[i].1 :=
    List.filter_congr fun b _ => by rw [bne, beq_eq_decide, decide_not]
  rw [hfilter, ← h.erase_eq_filter, ← hget, h.erase_getElem i hi', List.eraseIdx_map]

theorem weight_column {n : UInt8}
    (hnodup : (points.map Prod.fst).Nodup) (hn : n ∉ points.map Prod.fst) (j : Nat) {i : Nat}
    (hi : i < points.length) :
    weight ((column points j).map Prod.fst) ⟨points[i].1⟩ ⟨n⟩
      = ⟨exp (logWeight n points[i].1 ((points.eraseIdx i).map Prod.fst))⟩ := by
  have hothers := map_fst_eraseIdx hnodup hi
  have hnin : n ∉ (points.eraseIdx i).map Prod.fst := by
    intro h
    rw [hothers] at h
    exact hn (List.mem_of_mem_filter h)
  have hself : points[i].1 ∉ (points.eraseIdx i).map Prod.fst := by
    intro h
    rw [hothers, List.mem_filter] at h
    exact of_decide_eq_true h.2 rfl
  rw [exp_logWeight hnin hself, hothers, map_fst_column, weight, List.filter_map]
  refine congrArg (fun l => ((List.map Gf256.mk l).map _).prod) (List.filter_congr fun b _ => ?_)
  simp only [Function.comp_apply, ne_eq, Gf256.mk.injEq]

theorem byte_readAt_column {n : UInt8}
    (hnodup : (points.map Prod.fst).Nodup) (hn : n ∉ points.map Prod.fst) (j : Nat) :
    (readAt (column points j) ⟨n⟩).byte
      = (points.mapIdx fun i p =>
          term (logWeight n p.1 ((points.eraseIdx i).map Prod.fst)) (p.2.getD j 0)).foldl
            (· ^^^ ·) 0 := by
  rw [readAt, Gf256.byte_sum]
  refine congrArg (fun l : List UInt8 => l.foldl (· ^^^ ·) 0) (List.ext_getElem ?_ ?_)
  · rw [List.length_map, List.length_map, column, List.length_map, List.length_mapIdx]
  · intro i hi _
    rw [List.length_map, List.length_map, column, List.length_map] at hi
    have hi' : i < (column points j).length := by rwa [column, List.length_map]
    have hget : (column points j)[i] = (⟨points[i].1⟩, ⟨points[i].2.getD j 0⟩) := List.getElem_map _
    rw [List.getElem_map, List.getElem_map, List.getElem_mapIdx, hget,
      weight_column hnodup hn j hi, ← Gf256.mk_term]

/-- **`interpolate` reads the curve.** Every byte of the result is the value at
`n` of the curve through the bytes of the points. -/
theorem interpolate_readAt
    (hnodup : (points.map Prod.fst).Nodup) (n : UInt8) (len : Nat) :
    interpolate points n len points.length
      = (List.range len).map fun j => (readAt (column points j) ⟨n⟩).byte := by
  rw [interpolate, List.take_length]
  cases hfind : points.find? (·.1 == n) with
  | some p =>
    -- the place is one of the points, and the curve goes through it
    have hp := List.mem_of_find?_eq_some hfind
    have hn : p.1 = n := by simpa using List.find?_some hfind
    refine List.map_congr_left fun j _ => ?_
    obtain ⟨f, -, hon, hread⟩ := exists_curve (nodup_column hnodup j)
    rw [hread, ← hn]
    exact (congrArg Gf256.byte (hon _ (List.mem_map_of_mem hp))).symm
  | none =>
    have hn : n ∉ points.map Prod.fst := by
      intro h
      obtain ⟨p, hp, hpn⟩ := List.mem_map.mp h
      exact List.find?_eq_none.mp hfind p hp (beq_iff_eq.mpr hpn)
    exact List.map_congr_left fun j _ => (byte_readAt_column hnodup hn j).symm

def shareBytes {size threshold : Nat} (s : Sharing Gf256 size threshold) (x : UInt8) :
    List UInt8 := (s.share ⟨x⟩).map Gf256.byte

@[simp] theorem length_shareBytes {size threshold : Nat} (s : Sharing Gf256 size threshold)
    (x : UInt8) : (shareBytes s x).length = size := by
  rw [shareBytes, List.length_map, s.length_share]

theorem shareBytes_getD {size threshold : Nat} (s : Sharing Gf256 size threshold) (x : UInt8)
    (k : Fin size) : (shareBytes s x).getD k 0 = ((s.curve k).eval ⟨x⟩).byte := by
  rw [shareBytes, Sharing.share, List.map_ofFn, List.getD_eq_getElem?_getD,
    List.getElem?_eq_getElem (by rw [List.length_ofFn]; exact k.isLt), Option.getD_some,
    List.getElem_ofFn]
  rfl

/-- **Any shares tell every share.** From the shares at places that are all
different and no fewer than the threshold, `interpolate` gives the share at any
place. -/
theorem interpolate_shares {size threshold : Nat} (s : Sharing Gf256 size threshold)
    {xs : List UInt8} (hnodup : xs.Nodup) (henough : threshold ≤ xs.length) (n : UInt8) :
    interpolate (xs.map fun x => (x, shareBytes s x)) n size xs.length = shareBytes s n := by
  have hfst : (xs.map fun x => (x, shareBytes s x)).map Prod.fst = xs := by
    rw [List.map_map]
    exact List.map_id xs
  have hplaces : ((xs.map fun x => (x, shareBytes s x)).map Prod.fst).Nodup := by rwa [hfst]
  have h := interpolate_readAt hplaces n size
  rw [List.length_map] at h
  rw [h]
  refine List.ext_getElem ?_ ?_
  · rw [List.length_map, List.length_range, length_shareBytes]
  · intro j hj _
    rw [List.length_map, List.length_range] at hj
    have hcolumn : column (xs.map fun x => (x, shareBytes s x)) j
        = (xs.map Gf256.mk).map fun a => (a, (s.curve ⟨j, hj⟩).eval a) := by
      rw [column, List.map_map, List.map_map]
      refine List.map_congr_left fun x _ => ?_
      exact Prod.ext rfl (Gf256.ext (shareBytes_getD s x ⟨j, hj⟩))
    have hget := shareBytes_getD s n ⟨j, hj⟩
    rw [List.getD_eq_getElem?_getD,
      List.getElem?_eq_getElem (by rw [length_shareBytes]; exact hj), Option.getD_some] at hget
    rw [List.getElem_map, List.getElem_range, hcolumn,
      s.readAt_share (hnodup.map fun _ _ h => congrArg Gf256.byte h)
        (by rw [List.length_map]; exact henough) ⟨j, hj⟩]
    exact hget.symm

theorem exists_sharing {size threshold : Nat}
    (hnodup : (points.map Prod.fst).Nodup) (hsize : ∀ p ∈ points, p.2.length = size)
    (hthreshold : points.length = threshold) :
    ∃ s : Sharing Gf256 size threshold,
      (∀ p ∈ points, shareBytes s p.1 = p.2)
        ∧ ∀ n, interpolate points n size threshold = shareBytes s n := by
  subst hthreshold
  have hcurve := fun k : Fin size => exists_curve (nodup_column hnodup k.val)
  choose f hdegree hon hread using hcurve
  have hlength : ∀ j, (column points j).length = points.length := fun j => List.length_map _
  let s : Sharing Gf256 size points.length := ⟨f, fun k => hlength k.val ▸ hdegree k⟩
  have hshare : ∀ (x : UInt8) (bytes : List UInt8), bytes.length = size →
      (∀ k : Fin size, ((f k).eval ⟨x⟩).byte = bytes.getD k.val 0) → shareBytes s x = bytes := by
    intro x bytes hbytes h
    refine List.ext_getElem (by rw [length_shareBytes, hbytes]) fun j hj hj' => ?_
    have hk := hbytes ▸ hj'
    have hleft := shareBytes_getD s x ⟨j, hk⟩
    have hright := h ⟨j, hk⟩
    rw [List.getD_eq_getElem?_getD, List.getElem?_eq_getElem hj, Option.getD_some] at hleft
    rw [List.getD_eq_getElem?_getD, List.getElem?_eq_getElem hj', Option.getD_some] at hright
    exact hleft.trans hright
  refine ⟨s, fun p hp => ?_, fun n => ?_⟩
  · refine hshare p.1 p.2 (hsize p hp) fun k => ?_
    rw [hon k _ (List.mem_map_of_mem hp)]
  · rw [interpolate_readAt hnodup]
    refine (hshare n _ (by rw [List.length_map, List.length_range]) fun k => ?_).symm
    rw [List.getD_eq_getElem?_getD, List.getElem?_map, List.getElem?_range k.isLt, Option.map_some,
      Option.getD_some, hread]

/-- A polynomial times `x`, modulo `x^8 + x^4 + x^3 + x + 1`. -/
def xtime (a : UInt8) : UInt8 := (a <<< 1) ^^^ carry (a >>> 7)

/-- The product of two polynomials over the field with two elements, modulo
`x^8 + x^4 + x^3 + x + 1`, which is `0x11b`. -/
def mulMod (a b : UInt8) : UInt8 :=
  (List.range 8).foldr (fun i r => (if b.toNat.testBit i then xtime^[i] a else 0) ^^^ r) 0

set_option maxRecDepth 16384 in
theorem mulMod_one (b : UInt8) : mulMod 1 b = b := by
  have hall : ∀ n < 256, mulMod 1 (UInt8.ofNat n) = UInt8.ofNat n := by decide
  have hb := hall b.toNat b.toNat_lt
  rwa [UInt8.ofNat_toNat] at hb

namespace Gf256

theorem mul_three (a : UInt8) : (⟨a⟩ * ⟨3⟩ : Gf256) = ⟨triple a⟩ := by
  by_cases ha : a = 0
  · rw [ha]
    exact zero_mul (⟨3⟩ : Gf256)
  · have hthree : (⟨3⟩ : Gf256) = ⟨exp 1⟩ := rfl
    rw [← mk_exp_log ha, hthree, mk_exp_mul, exp_succ, exp_log a ha]

theorem mul_two (a : UInt8) : (⟨a⟩ * ⟨2⟩ : Gf256) = ⟨xtime a⟩ := by
  have htwo : (⟨2⟩ : Gf256) = ⟨3⟩ + ⟨exp 0⟩ := rfl
  have hone : (⟨exp 0⟩ : Gf256) = 1 := rfl
  rw [htwo, mul_add, mul_three, hone, mul_one]
  refine ext ?_
  show a ^^^ (a <<< 1) ^^^ carry (a >>> 7) ^^^ a = xtime a
  rw [xtime, UInt8.xor_assoc a, UInt8.xor_comm a, UInt8.xor_assoc _ a a, UInt8.xor_self,
    UInt8.xor_zero]

theorem mul_iterate_xtime (a : UInt8) (i : Nat) :
    (⟨a⟩ * ⟨xtime^[i] 1⟩ : Gf256) = ⟨xtime^[i] a⟩ := by
  induction i with
  | zero => exact mul_one (⟨a⟩ : Gf256)
  | succ i ih =>
    rw [Function.iterate_succ_apply', Function.iterate_succ_apply', ← mul_two, ← mul_assoc, ih,
      mul_two]

/-- The tables multiply as the polynomials do. -/
theorem byte_mul (a b : Gf256) : (a * b).byte = mulMod a.byte b.byte := by
  have hbits : ∀ l : List Nat,
      (a * ⟨l.foldr (fun i r => (if b.byte.toNat.testBit i then xtime^[i] 1 else 0) ^^^ r) 0⟩
        : Gf256)
        = ⟨l.foldr (fun i r => (if b.byte.toNat.testBit i then xtime^[i] a.byte else 0) ^^^ r) 0⟩ := by
    intro l
    induction l with
    | nil => exact mul_zero a
    | cons i l ih =>
      -- a sum of bytes is a sum in the field
      have hadd : ∀ c d : UInt8, (⟨c ^^^ d⟩ : Gf256) = ⟨c⟩ + ⟨d⟩ := fun _ _ => rfl
      rw [List.foldr_cons, List.foldr_cons, hadd, hadd, mul_add, ih]
      split_ifs
      · rw [mul_iterate_xtime]
      · exact congrArg (· + _) (mul_zero a)
  have hb : b = ⟨mulMod 1 b.byte⟩ := ext (mulMod_one b.byte).symm
  conv_lhs => rw [hb]
  exact congrArg byte (hbits (List.range 8))

end Gf256

/-- A polynomial of a degree below the number of points that goes through byte `j` of each. -/
def Through (points : List (UInt8 × List UInt8)) (j : Nat) (f : Polynomial Gf256) : Prop :=
  f.degree < points.length ∧ ∀ p ∈ points, f.eval ⟨p.1⟩ = ⟨p.2.getD j 0⟩

theorem through_unique {points : List (UInt8 × List UInt8)} (hnodup : (points.map Prod.fst).Nodup)
    {j : Nat} {f g : Polynomial Gf256} (hf : Through points j f) (hg : Through points j g) :
    f = g := by
  let places := ((column points j).map Prod.fst).toFinset
  have hcard : places.card = points.length := by
    rw [List.toFinset_card_of_nodup (nodup_column hnodup j), List.length_map, column,
      List.length_map]
  refine Polynomial.eq_of_degrees_lt_of_eval_finset_eq places (by rw [hcard]; exact hf.1)
    (by rw [hcard]; exact hg.1) fun x hx => ?_
  obtain ⟨q, hq, rfl⟩ := List.mem_map.mp (List.mem_toFinset.mp hx)
  obtain ⟨p, hp, rfl⟩ := List.mem_map.mp hq
  rw [hf.2 p hp, hg.2 p hp]

/-- **`interpolate` is the interpolation of Lagrange.** Byte by byte, the result is
the value of the one polynomial through the points, over the field with 256
elements that the modulus `0x11b` makes. -/
theorem interpolate_lagrange {points : List (UInt8 × List UInt8)}
    (hnodup : (points.map Prod.fst).Nodup) (n : UInt8) (len : Nat) :
    (∀ a b : Gf256, (a + b).byte = a.byte ^^^ b.byte ∧ (a * b).byte = mulMod a.byte b.byte)
      ∧ (interpolate points n len points.length).length = len
      ∧ ∀ j < len, ∃ f, Through points j f ∧ (∀ g, Through points j g → g = f)
        ∧ (interpolate points n len points.length)[j]? = some (f.eval ⟨n⟩).byte := by
  refine ⟨fun a b => ⟨rfl, Gf256.byte_mul a b⟩, ?_, fun j hj => ?_⟩
  · rw [interpolate_readAt hnodup, List.length_map, List.length_range]
  · obtain ⟨f, hdegree, hon, hread⟩ := exists_curve (nodup_column hnodup j)
    have hf : Through points j f :=
      ⟨by rwa [column, List.length_map] at hdegree, fun p hp => hon _ (List.mem_map_of_mem hp)⟩
    refine ⟨f, hf, fun g hg => through_unique hnodup hg hf, ?_⟩
    rw [interpolate_readAt hnodup, List.getElem?_map, List.getElem?_range hj, Option.map_some,
      hread]

/-- One of the two points has a zero byte. -/
theorem interpolate_lagrange_line :
    ∃ f, Through [(1, [0]), (2, [7])] 0 f
      ∧ (interpolate [(1, [0]), (2, [7])] 9 1 2)[0]? = some (f.eval ⟨9⟩).byte := by
  obtain ⟨-, -, h⟩ := @interpolate_lagrange [(1, [0]), (2, [7])] (by decide) 9 1
  obtain ⟨f, hf, -, hvalue⟩ := h 0 Nat.one_pos
  exact ⟨f, hf, hvalue⟩

end Keystone3.Slip39
