import Mathlib.Data.List.TakeWhile
import Mathlib.Data.Nat.Digits.Lemmas

/-!
# Numbers written most significant digit first

A buffer of bytes and a list of 10-bit words can be the same number, written in
two bases. `value b ds` is the number, and a list of digits of known length is
determined by it (`value_inj`), so that a regrouping is right when it keeps the
value and gets the length right.
-/

namespace Keystone3.Bytes

/-- The number with these digits in base `b`, the most significant first. -/
def value (b : Nat) (ds : List Nat) : Nat := Nat.ofDigits b ds.reverse

@[simp] theorem value_nil (b : Nat) : value b [] = 0 := rfl

theorem value_append (b : Nat) (xs ys : List Nat) :
    value b (xs ++ ys) = value b xs * b ^ ys.length + value b ys := by
  rw [value, List.reverse_append, Nat.ofDigits_append, List.length_reverse, Nat.add_comm,
    Nat.mul_comm]
  rfl

theorem value_cons (b d : Nat) (ds : List Nat) :
    value b (d :: ds) = d * b ^ ds.length + value b ds := by
  have hd : value b [d] = d := Nat.ofDigits_singleton
  have h := value_append b [d] ds
  rwa [List.singleton_append, hd] at h

variable {ds : List Nat}

theorem value_lt {b : Nat} (hb : 1 < b) (h : ∀ d ∈ ds, d < b) :
    value b ds < b ^ ds.length := by
  rw [← List.length_reverse]
  exact Nat.ofDigits_lt_base_pow_length hb fun d hd => h d (List.mem_reverse.mp hd)

theorem value_inj {b : Nat} (hb : 1 < b) {xs ys : List Nat} (hlength : xs.length = ys.length)
    (hxs : ∀ d ∈ xs, d < b) (hys : ∀ d ∈ ys, d < b) (h : value b xs = value b ys) : xs = ys := by
  refine List.reverse_injective (Nat.ofDigits_inj_of_len_eq hb ?_ ?_ ?_ h)
  · rw [List.length_reverse, List.length_reverse, hlength]
  · exact fun d hd => hxs d (List.mem_reverse.mp hd)
  · exact fun d hd => hys d (List.mem_reverse.mp hd)

def digits (b : Nat) : Nat → Nat → List Nat
  | 0, _ => []
  | count + 1, n => digits b count (n / b) ++ [n % b]

@[simp] theorem length_digits (b count n : Nat) : (digits b count n).length = count := by
  induction count generalizing n with
  | zero => rfl
  | succ count ih => rw [digits, List.length_append, ih, List.length_singleton]

theorem digits_lt {b : Nat} (hb : 0 < b) (count n : Nat) : ∀ d ∈ digits b count n, d < b := by
  induction count generalizing n with
  | zero => intro d hd; cases hd
  | succ count ih =>
    intro d hd
    rcases List.mem_append.mp hd with hd | hd
    · exact ih _ d hd
    · rw [List.mem_singleton.mp hd]
      exact Nat.mod_lt n hb

theorem value_digits {b count n : Nat} (hn : n < b ^ count) :
    value b (digits b count n) = n := by
  induction count generalizing n with
  | zero =>
    rw [Nat.pow_zero] at hn
    rw [digits, value_nil]
    omega
  | succ count ih =>
    have hlast : value b [n % b] = n % b := Nat.ofDigits_singleton
    rw [Nat.pow_succ] at hn
    rw [digits, value_append, ih (Nat.div_lt_of_lt_mul (by rwa [Nat.mul_comm] at hn)),
      List.length_singleton, Nat.pow_one, hlast, Nat.mul_comm]
    exact Nat.div_add_mod n b

theorem digits_eq_map (b count n : Nat) :
    digits b count n = (List.range count).reverse.map fun i => n / b ^ i % b := by
  induction count generalizing n with
  | zero => rfl
  | succ count ih =>
    rw [digits, ih, List.range_succ_eq_map, List.reverse_cons, List.map_append, ← List.map_reverse,
      List.map_map]
    refine congrArg₂ (· ++ ·) (List.map_congr_left fun i _ => ?_) ?_
    · rw [Nat.div_div_eq_div_mul, Function.comp_apply, Nat.pow_succ, Nat.mul_comm]
    · rw [List.map_singleton, Nat.pow_zero, Nat.div_one]

theorem value_dropWhile_zero (b : Nat) (ds : List Nat) :
    value b (ds.dropWhile (· = 0)) = value b ds := by
  induction ds with
  | nil => rfl
  | cons d ds ih =>
    by_cases hd : d = 0
    · rw [hd, List.dropWhile_cons_of_pos rfl, ih, value_cons, Nat.zero_mul, Nat.zero_add]
    · rw [List.dropWhile_cons_of_neg (by simpa using hd)]

theorem head_dropWhile_ne_zero (h : ds.dropWhile (· = 0) ≠ []) :
    (ds.dropWhile (· = 0)).head h ≠ 0 := by
  exact of_decide_eq_false (List.head_dropWhile_not _ h)

theorem reverse_dropWhile_zero {b : Nat} (hb : 1 < b) (h : ∀ d ∈ ds, d < b) :
    (ds.dropWhile (· = 0)).reverse = Nat.digits b (value b ds) := by
  rw [← value_dropWhile_zero, value]
  refine (Nat.digits_ofDigits b hb _ ?_ ?_).symm
  · intro d hd
    exact h d ((List.dropWhile_sublist _).mem (List.mem_reverse.mp hd))
  · intro hne
    rw [List.getLast_reverse]
    exact head_dropWhile_ne_zero _

theorem dropWhile_zero_eq {b : Nat} (hb : 1 < b) {xs ys : List Nat} (hxs : ∀ d ∈ xs, d < b)
    (hys : ∀ d ∈ ys, d < b) (h : value b xs = value b ys) :
    xs.dropWhile (· = 0) = ys.dropWhile (· = 0) := by
  have hdigits := (reverse_dropWhile_zero hb hxs).trans (h ▸ (reverse_dropWhile_zero hb hys).symm)
  exact List.reverse_injective hdigits

def rebase (a b width : Nat) (ds : List Nat) : List Nat :=
  ds.takeWhile (· = 0) ++ (digits b (width * ds.length) (value a ds)).dropWhile (· = 0)

theorem eq_zero_of_mem_takeWhile {d : Nat} (h : d ∈ ds.takeWhile (· = 0)) :
    d = 0 := by
  have hd := List.mem_takeWhile_imp h
  exact of_decide_eq_true hd

theorem takeWhile_dropWhile_zero (ds : List Nat) :
    (ds.dropWhile (· = 0)).takeWhile (· = 0) = [] := by
  induction ds with
  | nil => rfl
  | cons d ds ih =>
    by_cases hd : d = 0
    · rwa [hd, List.dropWhile_cons_of_pos rfl]
    · rw [List.dropWhile_cons_of_neg (by simpa using hd),
        List.takeWhile_cons_of_neg (by simpa using hd)]

theorem value_replicate_zero (b count : Nat) (ds : List Nat) :
    value b (List.replicate count 0 ++ ds) = value b ds := by
  induction count with
  | zero => rfl
  | succ count ih =>
    rw [List.replicate_succ, List.cons_append, value_cons, ih, Nat.zero_mul, Nat.zero_add]

section

variable {a b width : Nat} {ds : List Nat}

theorem takeWhile_rebase : (rebase a b width ds).takeWhile (· = 0) = ds.takeWhile (· = 0) := by
  rw [rebase, List.takeWhile_append_of_pos fun d hd => decide_eq_true (eq_zero_of_mem_takeWhile hd),
    takeWhile_dropWhile_zero, List.append_nil]

theorem rebase_lt (hb : 0 < b) : ∀ d ∈ rebase a b width ds, d < b := by
  intro d hd
  rcases List.mem_append.mp hd with hd | hd
  · rw [eq_zero_of_mem_takeWhile hd]
    exact hb
  · exact digits_lt hb _ _ d ((List.dropWhile_sublist _).mem hd)

theorem value_rebase (ha : 1 < a) (hwidth : a ≤ b ^ width) (hds : ∀ d ∈ ds, d < a) :
    value b (rebase a b width ds) = value a ds := by
  have hzeros : ds.takeWhile (· = 0) = List.replicate (ds.takeWhile (· = 0)).length 0 :=
    List.eq_replicate_of_mem fun d hd => eq_zero_of_mem_takeWhile hd
  rw [rebase, hzeros, value_replicate_zero, value_dropWhile_zero]
  refine value_digits (lt_of_lt_of_le (value_lt ha hds) ?_)
  rw [Nat.pow_mul]
  exact Nat.pow_le_pow_left hwidth _

end

theorem length_eq_of_value {b : Nat} (hb : 1 < b) (hds : ∀ d ∈ ds, d < b)
    (hzeros : ds.takeWhile (· = 0) = []) {n : Nat} (hlow : b ^ n ≤ value b ds)
    (hhigh : value b ds < b ^ (n + 1)) : ds.length = n + 1 := by
  have hlt := value_lt hb hds
  have hmore : n < ds.length := by
    by_contra hle
    have hpow : b ^ ds.length ≤ b ^ n := Nat.pow_le_pow_right (by omega) (by omega)
    omega
  cases ds with
  | nil => exact absurd hmore (Nat.not_lt_zero n)
  | cons d tail =>
    have hd : d ≠ 0 := by
      intro hd
      rw [hd, List.takeWhile_cons_of_pos rfl] at hzeros
      cases hzeros
    rw [value_cons] at hhigh
    rw [List.length_cons] at hmore ⊢
    by_contra hne
    have hpow : b ^ (n + 1) ≤ b ^ tail.length := Nat.pow_le_pow_right (by omega) (by omega)
    have hmul : b ^ tail.length ≤ d * b ^ tail.length :=
      Nat.le_mul_of_pos_left _ (Nat.pos_of_ne_zero hd)
    omega

theorem take_eq_digits {b : Nat} (hb : 1 < b) (hds : ∀ d ∈ ds, d < b)
    (hzeros : ds.takeWhile (· = 0) = []) {count k p : Nat} (hp : b ^ count ≤ p)
    (hp' : p < b ^ (count + 1)) (hlow : p * b ^ k ≤ value b ds)
    (hhigh : value b ds < (p + 1) * b ^ k) : ds.take (count + 1) = digits b (count + 1) p := by
  have hpos : 0 < b ^ k := Nat.pow_pos (by omega)
  have hlength : ds.length = count + k + 1 := by
    refine length_eq_of_value hb hds hzeros ?_ ?_
    · rw [Nat.pow_add]
      exact le_trans (Nat.mul_le_mul_right _ hp) hlow
    · refine lt_of_lt_of_le hhigh ?_
      rw [show count + k + 1 = count + 1 + k by omega, Nat.pow_add]
      exact Nat.mul_le_mul_right _ hp'
  have htake : (ds.take (count + 1)).length = count + 1 := by
    rw [List.length_take]
    omega
  have hdrop : (ds.drop (count + 1)).length = k := by
    rw [List.length_drop]
    omega
  have hrest : value b (ds.drop (count + 1)) < b ^ k := by
    have h := value_lt hb (fun d (hd : d ∈ ds.drop (count + 1)) => hds d (List.mem_of_mem_drop hd))
    rwa [hdrop] at h
  have hsum := value_append b (ds.take (count + 1)) (ds.drop (count + 1))
  rw [List.take_append_drop, hdrop] at hsum
  have hvalue : value b (ds.take (count + 1)) = p := by
    rw [hsum] at hlow hhigh
    refine Nat.le_antisymm ?_ ?_
    · by_contra hlt
      have hmul := Nat.mul_le_mul_right (b ^ k)
        (show p + 1 ≤ value b (ds.take (count + 1)) by omega)
      omega
    · by_contra hlt
      have hmul := Nat.mul_le_mul_right (b ^ k) (show value b (ds.take (count + 1)) + 1 ≤ p by omega)
      rw [Nat.succ_mul] at hmul
      omega
  refine value_inj hb (by rw [htake, length_digits]) (fun d hd => hds d (List.mem_of_mem_take hd))
    (digits_lt (by omega) _ _) ?_
  rw [hvalue, value_digits hp']

end Keystone3.Bytes
