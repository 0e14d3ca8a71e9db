import Keystone3.Bytes.Block
import Keystone3.Bytes.Register

/-!
# Checksums from a table

A reflected register takes bytes in at the low end and moves down; what it does with
bytes is what it does with the number they spell (`run_ofLe`). As every step can be undone,
a few errors in a row change what it ends with (`eq_of_run_burst`).
-/

namespace Keystone3.Bytes

/-- A register that bytes go into at the low end: what it holds moves down by a byte, and the
remainder of the byte that leaves it is mixed in. -/
structure Reflected where
  count : Nat
  remainder : UInt8 → Nat
  count_pos : 0 < count
  remainder_lt : ∀ b, remainder b < 256 ^ count
  /-- The byte that leaves shows in the highest byte that comes. -/
  remainder_top : ∀ b b', remainder b / 256 ^ (count - 1) = remainder b' / 256 ^ (count - 1) → b = b'

/-- Numbers are all different if their bits together are those of as many numbers. -/
theorem nodup_of_bits {numbers : List Nat}
    (h : numbers.foldl (fun mask n => mask ||| 2 ^ n) 0 = 2 ^ numbers.length - 1) :
    numbers.Nodup := by
  have hbit : ∀ (ns : List Nat) (mask k : Nat),
      (ns.foldl (fun mask n => mask ||| 2 ^ n) mask).testBit k = true →
        mask.testBit k = true ∨ k ∈ ns := by
    intro ns
    induction ns with
    | nil => exact fun mask k hk => .inl hk
    | cons n ns ih =>
      intro mask k hk
      rcases ih _ k hk with hmask | hin
      · rw [Nat.testBit_or, Nat.testBit_two_pow, Bool.or_eq_true, decide_eq_true_iff] at hmask
        exact hmask.imp_right fun heq => List.mem_cons.mpr (.inl heq.symm)
      · exact .inr (.tail _ hin)
  have hall : List.range numbers.length ⊆ numbers := by
    intro k hk
    refine (hbit numbers 0 k ?_).resolve_left (by rw [Nat.zero_testBit]; decide)
    rw [h, Nat.testBit_two_pow_sub_one, decide_eq_true_iff]
    exact List.mem_range.mp hk
  have hperm := (List.nodup_range.subperm hall).perm_of_length_le (by rw [List.length_range])
  exact hperm.nodup_iff.mp List.nodup_range

namespace Reflected

variable (r : Reflected)

def shift (x : Nat) : Nat := (x / 256) ^^^ r.remainder (UInt8.ofNat x)

def run (c : Nat) (bytes : List UInt8) : Nat := bytes.foldl (fun c b => r.shift (c ^^^ b.toNat)) c

theorem pow_two (n : Nat) : 256 ^ n = 2 ^ (8 * n) := by rw [Nat.pow_mul]

theorem xor_div (a b n : Nat) : (a ^^^ b) / 256 ^ n = a / 256 ^ n ^^^ b / 256 ^ n := by
  rw [pow_two, ← Nat.shiftRight_eq_div_pow, ← Nat.shiftRight_eq_div_pow,
    ← Nat.shiftRight_eq_div_pow, Nat.shiftRight_xor_distrib]

theorem shift_xor (x y : Nat) : r.shift (x ^^^ 256 * y) = r.shift x ^^^ y := by
  have hdiv : (x ^^^ 256 * y) / 256 = x / 256 ^^^ y := by
    have h := xor_div x (256 * y) 1
    rwa [Nat.pow_one, Nat.mul_div_cancel_left _ (by decide)] at h
  have hmod : UInt8.ofNat (x ^^^ 256 * y) = UInt8.ofNat x := by
    refine UInt8.toNat_inj.mp ?_
    rw [UInt8.toNat_ofNat', UInt8.toNat_ofNat', Nat.xor_mod_two_pow, show 2 ^ 8 = 256 from rfl,
      Nat.mul_mod_right, Nat.xor_zero]
  rw [shift, shift, hdiv, hmod]
  ac_rfl

/-- Bytes do what the number they spell does, once it is in the register. -/
theorem run_ofLe (c : Nat) (bytes : List UInt8) :
    r.run c bytes = r.shift^[bytes.length] (c ^^^ ofLe bytes) := by
  induction bytes generalizing c with
  | nil => exact (Nat.xor_zero c).symm
  | cons b bytes ih =>
    have hlow : b.toNat + 256 * ofLe bytes = b.toNat ^^^ 256 * ofLe bytes := by
      rw [Nat.xor_comm, Nat.mul_comm, Nat.add_comm]
      exact ((shiftLeft_xor b.toNat_lt (ofLe bytes)).symm.trans
        (congrArg (· ^^^ b.toNat) (Nat.shiftLeft_eq _ _)))
    show r.run (r.shift (c ^^^ b.toNat)) bytes = _
    rw [ih, ← shift_xor, List.length_cons, Function.iterate_succ_apply, ofLe, hlow, Nat.xor_assoc]

theorem shift_lt {x : Nat} (hx : x < 256 ^ r.count) : r.shift x < 256 ^ r.count := by
  have hr := r.remainder_lt (UInt8.ofNat x)
  rw [pow_two] at hx hr ⊢
  exact Nat.xor_lt_two_pow (lt_of_le_of_lt (Nat.div_le_self _ _) hx) hr

theorem shift_inj {x y : Nat} (hx : x < 256 ^ r.count) (hy : y < 256 ^ r.count)
    (h : r.shift x = r.shift y) : x = y := by
  have htop : ∀ {z}, z < 256 ^ r.count →
      r.shift z / 256 ^ (r.count - 1) = r.remainder (UInt8.ofNat z) / 256 ^ (r.count - 1) := by
    intro z hz
    have hsplit : 256 ^ r.count = 256 * 256 ^ (r.count - 1) := by
      rw [← Nat.pow_succ', Nat.succ_eq_add_one, Nat.sub_add_cancel r.count_pos]
    rw [shift, xor_div, Nat.div_eq_of_lt (Nat.div_lt_of_lt_mul (hsplit ▸ hz)), Nat.zero_xor]
  have hlow : UInt8.ofNat x = UInt8.ofNat y := r.remainder_top _ _ (by rw [← htop hx, ← htop hy, h])
  have hhigh : x / 256 = y / 256 := by
    rwa [shift, shift, hlow, Nat.xor_left_inj] at h
  have hmod := congrArg UInt8.toNat hlow
  rw [UInt8.toNat_ofNat', UInt8.toNat_ofNat'] at hmod
  omega

theorem iterate_shift_inj {k : Nat} {x y : Nat} (hx : x < 256 ^ r.count) (hy : y < 256 ^ r.count)
    (h : r.shift^[k] x = r.shift^[k] y) : x = y := by
  induction k generalizing x y with
  | zero => exact h
  | succ k ih => exact r.shift_inj hx hy (ih (r.shift_lt hx) (r.shift_lt hy) h)

theorem run_append (c : Nat) (a b : List UInt8) : r.run c (a ++ b) = r.run (r.run c a) b :=
  List.foldl_append

theorem run_lt {c : Nat} (hc : c < 256 ^ r.count) (bytes : List UInt8) :
    r.run c bytes < 256 ^ r.count := by
  induction bytes generalizing c with
  | nil => exact hc
  | cons b bytes ih =>
    refine ih (r.shift_lt ?_)
    have hb : b.toNat < 256 ^ r.count :=
      lt_of_lt_of_le b.toNat_lt (Nat.le_self_pow r.count_pos.ne' 256)
    rw [pow_two] at hc hb ⊢
    exact Nat.xor_lt_two_pow hc hb

theorem eq_of_run_same {a b : Nat} (ha : a < 256 ^ r.count) (hb : b < 256 ^ r.count)
    {bytes bytes' : List UInt8} (hlength : bytes.length = bytes'.length)
    (hcount : bytes.length ≤ r.count) (h : r.run a bytes = r.run b bytes') :
    a ^^^ ofLe bytes = b ^^^ ofLe bytes' := by
  have hlt : ∀ {x : Nat} {bytes : List UInt8}, x < 256 ^ r.count → bytes.length ≤ r.count →
      x ^^^ ofLe bytes < 256 ^ r.count := by
    intro x bytes hx hle
    have hbytes := lt_of_lt_of_le (ofLe_lt bytes) (Nat.pow_le_pow_right (by decide) hle)
    rw [pow_two] at hx hbytes ⊢
    exact Nat.xor_lt_two_pow hx hbytes
  rw [run_ofLe, run_ofLe, ← hlength] at h
  exact r.iterate_shift_inj (hlt ha hcount) (hlt hb (hlength ▸ hcount)) h

theorem eq_of_run {a b : Nat} (ha : a < 256 ^ r.count) (hb : b < 256 ^ r.count)
    (bytes : List UInt8) (h : r.run a bytes = r.run b bytes) : a = b := by
  induction bytes generalizing a b with
  | nil => exact h
  | cons x bytes ih =>
    have hone := @eq_of_run_same r a b ha hb [x] [x] rfl r.count_pos
      (ih (r.run_lt ha [x]) (r.run_lt hb [x]) h)
    exact Nat.xor_left_inj.mp hone

/-- **Errors that are close together are detected**: in as many bytes in a row as the register
holds, or in fewer. -/
theorem eq_of_run_burst {c : Nat} (hc : c < 256 ^ r.count) {us ws ws' vs : List UInt8}
    (hlength : ws.length = ws'.length) (hcount : ws.length ≤ r.count)
    (h : r.run c (us ++ ws ++ vs) = r.run c (us ++ ws' ++ vs)) : ws = ws' := by
  have hu := r.run_lt hc us
  rw [run_append, run_append, run_append, run_append] at h
  have hsame := r.eq_of_run_same hu hu hlength hcount
    (r.eq_of_run (r.run_lt hu ws) (r.run_lt hu ws') vs h)
  rw [← toLe_ofLe ws, ← toLe_ofLe ws', Nat.xor_right_inj.mp hsame, hlength]

end Reflected

end Keystone3.Bytes
