import Mathlib.Data.Int.Log
import Mathlib.Data.Rat.Floor
import Mathlib.Tactic.Linarith
import Keystone3.Bytes.Decimal

/-!
# Doubles and their decimals

A double is a number that is rounded to itself, in 53 binary places (`nearest`). A
double is printed as the decimal with the fewest places that is read as it
(`isDecimal_text`), so a decimal comes back just if it is the shortest one of its
double.

Only numbers that are not negative are considered, and neither infinity nor the numbers
that are so small that they have fewer places.
-/

namespace Keystone3.Bytes

def roundEven (q : ℚ) : ℤ :=
  if 2 * (q - ⌊q⌋) < 1 then ⌊q⌋
  else if 1 < 2 * (q - ⌊q⌋) then ⌊q⌋ + 1
  else if 2 ∣ ⌊q⌋ then ⌊q⌋ else ⌊q⌋ + 1

theorem floor_le_roundEven (q : ℚ) : ⌊q⌋ ≤ roundEven q := by
  unfold roundEven
  split_ifs <;> omega

theorem roundEven_le_floor_add_one (q : ℚ) : roundEven q ≤ ⌊q⌋ + 1 := by
  unfold roundEven
  split_ifs <;> omega

@[simp] theorem roundEven_intCast (n : ℤ) : roundEven n = n := by
  simp [roundEven]

theorem roundEven_mono {q r : ℚ} (h : q ≤ r) : roundEven q ≤ roundEven r := by
  rcases (Int.floor_mono h).lt_or_eq with hlt | heq
  · calc roundEven q ≤ ⌊q⌋ + 1 := roundEven_le_floor_add_one q
      _ ≤ ⌊r⌋ := hlt
      _ ≤ roundEven r := floor_le_roundEven r
  · -- behind one integer, the rest decides
    unfold roundEven
    rw [heq]
    split_ifs <;> first | omega | (exfalso; linarith)

theorem abs_roundEven_sub_le (q : ℚ) : |(roundEven q : ℚ) - q| ≤ 1 / 2 := by
  have hlow := Int.floor_le q
  have hhigh := Int.lt_floor_add_one q
  unfold roundEven
  split_ifs <;> push_cast <;> rw [abs_le] <;> constructor <;> linarith

def ulp (q : ℚ) : ℚ := 2 ^ (Int.log 2 q - 52)

theorem ulp_pos (q : ℚ) : 0 < ulp q := zpow_pos (by norm_num) _

theorem two_zpow_log (q : ℚ) : (2 : ℚ) ^ Int.log 2 q = 2 ^ 52 * ulp q := by
  rw [ulp, ← zpow_natCast, ← zpow_add₀ (by norm_num)]
  congr 1
  omega

def nearest (q : ℚ) : ℚ := roundEven (q / ulp q) * ulp q

theorem nearest_zero : nearest 0 = 0 := by
  rw [nearest, zero_div, show (0 : ℚ) = (0 : ℤ) from rfl, roundEven_intCast, Int.cast_zero, zero_mul]

theorem abs_nearest_sub_le (q : ℚ) : |nearest q - q| ≤ ulp q / 2 := by
  have hulp := ulp_pos q
  have hround := abs_roundEven_sub_le (q / ulp q)
  have hq : nearest q - q = ((roundEven (q / ulp q) : ℚ) - q / ulp q) * ulp q := by
    rw [sub_mul, div_mul_cancel₀ q hulp.ne', nearest]
  rw [hq, abs_mul, abs_of_pos hulp]
  linarith [mul_le_mul_of_nonneg_right hround hulp.le]

theorem zpow_log_le_nearest {q : ℚ} (hq : 0 < q) : (2 : ℚ) ^ Int.log 2 q ≤ nearest q := by
  have hulp := ulp_pos q
  have hlog := Int.zpow_log_le_self Nat.one_lt_two hq
  rw [Nat.cast_ofNat] at hlog
  rw [two_zpow_log] at hlog ⊢
  -- the quotient has 53 places, and the least such integer is rounded to itself
  have hround := roundEven_mono ((le_div_iff₀ hulp).mpr hlog)
  rw [show ((2 : ℚ) ^ 52) = ((2 ^ 52 : ℤ) : ℚ) by norm_num, roundEven_intCast] at hround
  refine mul_le_mul_of_nonneg_right ?_ hulp.le
  exact_mod_cast hround

theorem nearest_le_zpow_log (q : ℚ) : nearest q ≤ 2 ^ (Int.log 2 q + 1) := by
  have hulp := ulp_pos q
  have hlog := Int.lt_zpow_succ_log_self Nat.one_lt_two q
  rw [Nat.cast_ofNat] at hlog
  rw [zpow_add_one₀ (by norm_num), two_zpow_log] at hlog ⊢
  have hle : q / ulp q ≤ ((2 ^ 53 : ℤ) : ℚ) := by
    rw [div_le_iff₀ hulp]
    push_cast
    linarith
  have hround := roundEven_mono hle
  rw [roundEven_intCast] at hround
  have hcast : ((roundEven (q / ulp q) : ℤ) : ℚ) ≤ 2 ^ 53 := by exact_mod_cast hround
  rw [nearest]
  linarith [mul_le_mul_of_nonneg_right hcast hulp.le]

theorem ulp_le {q : ℚ} {k : ℤ} (hk : 0 < k) (h : q < 2 ^ k) : ulp q ≤ 2 ^ (k - 53) := by
  have hlog : Int.log 2 q < k := by
    rcases lt_or_ge 0 q with hpos | hneg
    · refine (Int.lt_zpow_iff_log_lt Nat.one_lt_two hpos).mp ?_
      exact_mod_cast h
    · rwa [Int.log_of_right_le_zero 2 hneg]
  exact zpow_le_zpow_right₀ (by norm_num) (by omega)

theorem nearest_nonneg {q : ℚ} (hq : 0 ≤ q) : 0 ≤ nearest q := by
  rcases hq.eq_or_lt with rfl | hpos
  · exact nearest_zero.ge
  · exact (zpow_pos (by norm_num) _).le.trans (zpow_log_le_nearest hpos)

theorem nearest_mono {q r : ℚ} (hq : 0 ≤ q) (h : q ≤ r) : nearest q ≤ nearest r := by
  rcases hq.eq_or_lt with rfl | hpos
  · rw [nearest_zero]
    exact nearest_nonneg h
  rcases (Int.log_mono_right (b := 2) hpos h).lt_or_eq with hlt | heq
  · -- a power of two is between them
    calc nearest q ≤ 2 ^ (Int.log 2 q + 1) := nearest_le_zpow_log q
      _ ≤ 2 ^ Int.log 2 r := zpow_le_zpow_right₀ (by norm_num) hlt
      _ ≤ nearest r := zpow_log_le_nearest (hpos.trans_le h)
  · have hulp : ulp q = ulp r := by rw [ulp, ulp, heq]
    have hround := roundEven_mono (div_le_div_of_nonneg_right h (ulp_pos r).le)
    rw [nearest, nearest, hulp]
    refine mul_le_mul_of_nonneg_right ?_ (ulp_pos r).le
    exact_mod_cast hround

theorem nearest_of_mul_ulp {q : ℚ} (n : ℤ) (h : q = n * ulp q) : nearest q = q := by
  have hdiv : q / ulp q = n := by
    rw [div_eq_iff (ulp_pos q).ne']
    exact h
  rw [nearest, hdiv, roundEven_intCast]
  exact h.symm

theorem nearest_zpow (k : ℤ) : nearest (2 ^ k) = 2 ^ k := by
  refine nearest_of_mul_ulp (2 ^ 52) ?_
  have hlog : Int.log 2 ((2 : ℚ) ^ k) = k := by
    have hlog := Int.log_zpow (R := ℚ) Nat.one_lt_two k
    rwa [Nat.cast_ofNat] at hlog
  rw [ulp, hlog, show ((2 ^ 52 : ℤ) : ℚ) = 2 ^ (52 : ℤ) by norm_num,
    ← zpow_add₀ (by norm_num), add_sub_cancel]

theorem nearest_nearest {q : ℚ} (hq : 0 ≤ q) : nearest (nearest q) = nearest q := by
  rcases hq.eq_or_lt with rfl | hpos
  · rw [nearest_zero, nearest_zero]
  have hlow := zpow_log_le_nearest hpos
  rcases (nearest_le_zpow_log q).lt_or_eq with hlt | heq
  · -- the last place is still the same
    have hlog : Int.log 2 (nearest q) = Int.log 2 q := by
      have hnearest : 0 < nearest q := (zpow_pos (by norm_num) _).trans_le hlow
      refine le_antisymm ?_ ?_
      · have hle := (Int.lt_zpow_iff_log_lt Nat.one_lt_two hnearest).mp (by exact_mod_cast hlt)
        omega
      · exact (Int.zpow_le_iff_le_log Nat.one_lt_two hnearest).mp (by exact_mod_cast hlow)
    refine nearest_of_mul_ulp (roundEven (q / ulp q)) ?_
    rw [show ulp (nearest q) = ulp q by rw [ulp, ulp, hlog], nearest]
  · rw [heq, nearest_zpow]

structure Double where
  value : ℚ
  nonneg : 0 ≤ value
  nearest_eq : nearest value = value

namespace Double

def round (q : ℚ) (hq : 0 ≤ q) : Double := ⟨nearest q, nearest_nonneg hq, nearest_nearest hq⟩

def ofNat (n : Nat) : Double := round n n.cast_nonneg

def div (x y : Double) : Double := round (x.value / y.value) (div_nonneg x.nonneg y.nonneg)

/-- The number without a point is read as the double, with so many places behind it. -/
def Reads (x : Double) (d n : Nat) : Prop := nearest (n / 10 ^ d) = x.value

instance (x : Double) (d n : Nat) : Decidable (x.Reads d n) :=
  inferInstanceAs (Decidable (nearest (n / 10 ^ d) = x.value))

/-- The decimal with so many places that is read as the double, and the next one to it if two
are, up if they are as near. -/
def atPlaces (x : Double) (d : Nat) : Option Nat :=
  let n := ⌊x.value * 10 ^ d⌋₊
  if x.Reads d (n + 1) ∧ (¬x.Reads d n ∨ 1 ≤ 2 * (x.value * 10 ^ d - n)) then some (n + 1)
  else if x.Reads d n then some n
  else none

section

variable {x : Double} {d m n : Nat}

theorem reads_floor (h : x.Reads d m) (hm : m ≤ ⌊x.value * 10 ^ d⌋₊) :
    x.Reads d ⌊x.value * 10 ^ d⌋₊ := by
  have hpow : (0 : ℚ) < 10 ^ d := by positivity
  have hlow : (m : ℚ) / 10 ^ d ≤ ⌊x.value * 10 ^ d⌋₊ / 10 ^ d :=
    div_le_div_of_nonneg_right (by exact_mod_cast hm) hpow.le
  have hhigh : (⌊x.value * 10 ^ d⌋₊ : ℚ) / 10 ^ d ≤ x.value :=
    (div_le_iff₀ hpow).mpr (Nat.floor_le (mul_nonneg x.nonneg hpow.le))
  refine le_antisymm ?_ ?_
  · exact (nearest_mono (by positivity) hhigh).trans x.nearest_eq.le
  · exact h.ge.trans (nearest_mono (by positivity) hlow)

theorem reads_floor_add_one (h : x.Reads d m) (hm : ⌊x.value * 10 ^ d⌋₊ < m) :
    x.Reads d (⌊x.value * 10 ^ d⌋₊ + 1) := by
  have hpow : (0 : ℚ) < 10 ^ d := by positivity
  have hhigh : ((⌊x.value * 10 ^ d⌋₊ + 1 : Nat) : ℚ) / 10 ^ d ≤ m / 10 ^ d :=
    div_le_div_of_nonneg_right (by exact_mod_cast hm) hpow.le
  have hlow : x.value ≤ ((⌊x.value * 10 ^ d⌋₊ + 1 : Nat) : ℚ) / 10 ^ d := by
    rw [le_div_iff₀ hpow]
    push_cast
    exact (Nat.lt_floor_add_one _).le
  refine le_antisymm ?_ ?_
  · exact (nearest_mono (x.nonneg.trans hlow) hhigh).trans h.le
  · exact x.nearest_eq.ge.trans (nearest_mono x.nonneg hlow)

theorem not_reads_of_atPlaces (h : x.atPlaces d = none) : ¬x.Reads d m := by
  intro hm
  unfold atPlaces at h
  dsimp only at h
  split_ifs at h with hup hdown
  rcases Nat.lt_or_ge ⌊x.value * 10 ^ d⌋₊ m with hlt | hge
  · exact hup ⟨reads_floor_add_one hm hlt, .inl hdown⟩
  · exact hdown (reads_floor hm hge)

theorem reads_of_atPlaces (h : x.atPlaces d = some n) : x.Reads d n := by
  unfold atPlaces at h
  dsimp only at h
  split_ifs at h with hup hdown
  · rw [← Option.some.inj h]
    exact hup.1
  · rw [← Option.some.inj h]
    exact hdown

theorem nearer_of_atPlaces (h : x.atPlaces d = some n) (hm : x.Reads d m) (hne : m ≠ n) :
    |n - x.value * 10 ^ d| < |m - x.value * 10 ^ d|
      ∨ |n - x.value * 10 ^ d| = |m - x.value * 10 ^ d| ∧ m < n := by
  have hlow : (⌊x.value * 10 ^ d⌋₊ : ℚ) ≤ x.value * 10 ^ d :=
    Nat.floor_le (mul_nonneg x.nonneg (by positivity))
  have hhigh := Nat.lt_floor_add_one (x.value * 10 ^ d)
  have hfloor := @reads_floor x d m hm
  have hfloor' := @reads_floor_add_one x d m hm
  unfold atPlaces at h
  dsimp only at h
  generalize x.value * 10 ^ d = y at *
  generalize ⌊y⌋₊ = k at *
  split_ifs at h with hup hdown
  · obtain rfl := Option.some.inj h
    have hn : |((k + 1 : Nat) : ℚ) - y| = k + 1 - y := by
      push_cast
      exact abs_of_nonneg (by linarith)
    rw [hn]
    rcases Nat.lt_or_ge k m with hlt | hge
    · -- above the one above
      left
      have hcast : (k : ℚ) + 2 ≤ m := by exact_mod_cast (by omega : k + 2 ≤ m)
      rw [abs_of_nonneg (by linarith)]
      linarith
    · -- below, where it is not nearer
      have hhalf := hup.2.resolve_left fun hnot => hnot (hfloor hge)
      have hcast : (m : ℚ) ≤ k := by exact_mod_cast hge
      rw [abs_of_nonpos (by linarith : (m : ℚ) - y ≤ 0)]
      rcases (by linarith : (k : ℚ) + 1 - y ≤ -(m - y)).lt_or_eq with hlt | heq
      · exact .inl hlt
      · exact .inr ⟨heq, by omega⟩
  · obtain rfl := Option.some.inj h
    left
    rw [abs_of_nonpos (by linarith : (k : ℚ) - y ≤ 0)]
    rcases Nat.lt_or_ge k m with hlt | hge
    · have hhalf : 2 * (y - k) < 1 := by
        by_contra hnot
        exact hup ⟨hfloor' hlt, .inr (not_lt.mp hnot)⟩
      have hcast : (k : ℚ) + 1 ≤ m := by exact_mod_cast hlt
      rw [abs_of_nonneg (by linarith)]
      linarith
    · have hcast : (m : ℚ) + 1 ≤ k := by exact_mod_cast (by omega : m + 1 ≤ k)
      rw [abs_of_nonpos (by linarith)]
      linarith

end

theorem exists_places (x : Double) : ∃ d n : Nat, x.value = n / 10 ^ d := by
  have hround : 0 ≤ roundEven (x.value / ulp x.value) := by
    have hmono := roundEven_mono (div_nonneg x.nonneg (ulp_pos x.value).le)
    rwa [show (0 : ℚ) = (0 : ℤ) from rfl, roundEven_intCast] at hmono
  obtain ⟨m, hm⟩ := Int.eq_ofNat_of_zero_le hround
  have hvalue : x.value = m * 2 ^ (Int.log 2 x.value - 52) := by
    conv_lhs => rw [← x.nearest_eq, nearest, hm, ulp, Int.cast_natCast]
  rcases Int.eq_nat_or_neg (Int.log 2 x.value - 52) with ⟨k, hk | hk⟩
  · refine ⟨0, m * 2 ^ k, ?_⟩
    rw [hvalue, hk, zpow_natCast, pow_zero, div_one, Nat.cast_mul, Nat.cast_pow, Nat.cast_ofNat]
  · refine ⟨k, m * 5 ^ k, ?_⟩
    rw [hvalue, hk, zpow_neg, zpow_natCast, eq_div_iff (by positivity), Nat.cast_mul, Nat.cast_pow,
      Nat.cast_ofNat, show (10 : ℚ) = 2 * 5 by norm_num, mul_pow]
    field_simp

theorem exists_atPlaces (x : Double) : ∃ d, (x.atPlaces d).isSome = true := by
  obtain ⟨d, n, hn⟩ := x.exists_places
  refine ⟨d, ?_⟩
  by_contra hnone
  rw [Option.not_isSome_iff_eq_none] at hnone
  refine not_reads_of_atPlaces hnone (m := n) ?_
  rw [Reads, ← hn]
  exact x.nearest_eq

/-- The least number of places with which a decimal is read as the double. Integers are the
coarsest ones: below `2 ^ 52` no two of them are read as one double. -/
def places (x : Double) : Nat := Nat.find x.exists_atPlaces

def digits (x : Double) : Nat := (x.atPlaces x.places).get (Nat.find_spec x.exists_atPlaces)

theorem atPlaces_places (x : Double) : x.atPlaces x.places = some x.digits :=
  (Option.some_get _).symm

def decimal (x : Double) : Decimal :=
  .ofPlaces (x.digits / 10 ^ x.places)
    (padTo x.places (Nat.toDigits 10 (x.digits % 10 ^ x.places))) isDigit_padTo

theorem value_decimal (x : Double) : x.decimal.value = x.digits / 10 ^ x.places := by
  rw [decimal, Decimal.value_ofPlaces, ofDigitChars_padTo]
  rcases Nat.eq_zero_or_pos x.places with hzero | hpos
  · rw [hzero, pow_zero, pow_zero, Nat.div_one, Nat.mod_one, Nat.cast_zero, zero_div, add_zero,
      div_one]
  · have hpow : ((10 : ℚ) ^ x.places) ≠ 0 := by positivity
    rw [length_padTo_toDigits hpos (Nat.mod_lt _ (by positivity)), eq_div_iff hpow, add_mul,
      div_mul_cancel₀ _ hpow]
    exact_mod_cast Nat.div_add_mod' x.digits (10 ^ x.places)

/-- `impl Display for f64`. -/
def text (x : Double) : List Char := x.decimal.text

def HasPlaces (d : Nat) (c : ℚ) : Prop := ∃ n : Nat, c = n / 10 ^ d

/-- The decimal is read as the double, others with fewer places are not, and among those with as
many none is nearer. -/
structure ShortestAt (x : Double) (d : Nat) (c : ℚ) : Prop where
  hasPlaces : HasPlaces d c
  reads : nearest c = x.value
  fewest : ∀ k < d, ∀ c', HasPlaces k c' → nearest c' ≠ x.value
  nearer : ∀ c', HasPlaces d c' → nearest c' = x.value → c' ≠ c →
    |c - x.value| < |c' - x.value| ∨ |c - x.value| = |c' - x.value| ∧ c' < c

def Shortest (x : Double) (c : ℚ) : Prop := ∃ d, x.ShortestAt d c

theorem Shortest.unique {x : Double} {c c' : ℚ} (h : x.Shortest c) (h' : x.Shortest c') :
    c = c' := by
  obtain ⟨d, h⟩ := h
  obtain ⟨d', h'⟩ := h'
  rcases Nat.lt_trichotomy d d' with hlt | rfl | hgt
  · exact absurd h.reads (h'.fewest d hlt c h.hasPlaces)
  · by_contra hne
    rcases h.nearer c' h'.hasPlaces h'.reads (Ne.symm hne) with hlt | ⟨heq, hlt⟩ <;>
      rcases h'.nearer c h.hasPlaces h.reads hne with hlt' | ⟨heq', hlt'⟩ <;> linarith
  · exact absurd h'.reads (h.fewest d' hgt c' h'.hasPlaces)

theorem abs_div_sub (x : Double) (d n : Nat) :
    |(n : ℚ) / 10 ^ d - x.value| = |n - x.value * 10 ^ d| / 10 ^ d := by
  have hpow : (0 : ℚ) < 10 ^ d := by positivity
  rw [div_sub' hpow.ne', abs_div, abs_of_pos hpow, mul_comm]

theorem shortest_decimal (x : Double) : x.Shortest x.decimal.value := by
  have hpow : (0 : ℚ) < 10 ^ x.places := by positivity
  refine ⟨x.places, ⟨x.digits, x.value_decimal⟩, ?_, ?_, ?_⟩
  · rw [value_decimal]
    exact reads_of_atPlaces x.atPlaces_places
  · rintro k hk c ⟨n, rfl⟩
    exact not_reads_of_atPlaces (Option.not_isSome_iff_eq_none.mp (Nat.find_min _ hk))
  · rintro c ⟨n, rfl⟩ hreads hne
    rw [value_decimal] at hne ⊢
    rw [abs_div_sub, abs_div_sub, div_lt_div_iff_of_pos_right hpow, div_left_inj' hpow.ne',
      div_lt_div_iff_of_pos_right hpow, Nat.cast_lt]
    refine nearer_of_atPlaces x.atPlaces_places hreads fun heq => ?_
    rw [heq] at hne
    exact hne rfl

theorem isDecimal_text {x : Double} {c : ℚ} : IsDecimal x.text c ↔ x.Shortest c := by
  constructor
  · intro h
    rw [h.unique ⟨x.decimal, rfl, rfl⟩]
    exact x.shortest_decimal
  · intro h
    rw [h.unique x.shortest_decimal]
    exact ⟨x.decimal, rfl, rfl⟩

theorem HasPlaces.mono {d k : Nat} {c : ℚ} (h : HasPlaces k c) (hk : k ≤ d) : HasPlaces d c := by
  obtain ⟨n, rfl⟩ := h
  refine ⟨n * 10 ^ (d - k), ?_⟩
  rw [div_eq_div_iff (by positivity) (by positivity), Nat.cast_mul, Nat.cast_pow, Nat.cast_ofNat,
    mul_assoc, ← pow_add, Nat.sub_add_cancel hk]

theorem HasPlaces.eq_of_abs_sub_lt {d : Nat} {c c' : ℚ} (h : HasPlaces d c) (h' : HasPlaces d c')
    (hlt : |c - c'| * 10 ^ d < 1) : c = c' := by
  obtain ⟨n, rfl⟩ := h
  obtain ⟨m, rfl⟩ := h'
  have hpow : (0 : ℚ) < 10 ^ d := by positivity
  rw [← sub_div, abs_div, abs_of_pos hpow, div_mul_cancel₀ _ hpow.ne'] at hlt
  have hint : |(n : ℤ) - m| < 1 := by exact_mod_cast hlt
  have heq : (n : ℤ) = m := sub_eq_zero.mp (Int.abs_lt_one_iff.mp hint)
  rw [Int.natCast_inj.mp heq]

theorem eq_of_nearest_eq {c c' : ℚ} {d : Nat} {k : ℤ} (hk : 0 < k)
    (hstep : (2 : ℚ) ^ (k - 52) * 10 ^ d ≤ 1) (hc : HasPlaces d c) (hlt : c < 2 ^ k)
    (hc' : HasPlaces d c') (h : nearest c' = nearest c) : c' = c := by
  have hnonneg : 0 ≤ c := by
    obtain ⟨n, rfl⟩ := hc
    positivity
  have hlt' : c' < 2 ^ (k + 1) := by
    by_contra hge
    have hmono := nearest_mono (zpow_nonneg (by norm_num) _) (not_lt.mp hge)
    have hmono' := nearest_mono hnonneg hlt.le
    rw [nearest_zpow] at hmono hmono'
    have hpow : (2 : ℚ) ^ k < 2 ^ (k + 1) := zpow_lt_zpow_right₀ (by norm_num) (by omega)
    linarith
  -- both are within half a last place of the double
  have hnear := abs_nearest_sub_le c
  have hnear' := abs_nearest_sub_le c'
  have hulp := ulp_le hk hlt
  have hulp' := ulp_le (by omega) hlt'
  have hdouble : (2 : ℚ) ^ (k + 1 - 53) = 2 * 2 ^ (k - 53) := by
    rw [← zpow_one_add₀ (by norm_num)]
    congr 1
    omega
  have hdouble' : (2 : ℚ) ^ (k - 52) = 2 * 2 ^ (k - 53) := by
    rw [← zpow_one_add₀ (by norm_num)]
    congr 1
    omega
  rw [hdouble] at hulp'
  rw [hdouble'] at hstep
  have hpos : (0 : ℚ) < 2 ^ (k - 53) := zpow_pos (by norm_num) _
  have habs : |c' - c| < 2 * 2 ^ (k - 53) := by
    rw [h] at hnear'
    rw [abs_le] at hnear hnear'
    rw [abs_lt]
    constructor <;> linarith
  refine hc'.eq_of_abs_sub_lt hc (lt_of_lt_of_le ?_ hstep)
  exact mul_lt_mul_of_pos_right habs (by positivity)

theorem shortest_round {c : ℚ} {d : Nat} {k : ℤ} (hk : 0 < k)
    (hstep : (2 : ℚ) ^ (k - 52) * 10 ^ d ≤ 1) (hc : HasPlaces d c) (hlt : c < 2 ^ k)
    (hnonneg : 0 ≤ c) : (round c hnonneg).Shortest c := by
  classical
  have hexists : ∃ d, HasPlaces d c := ⟨d, hc⟩
  have hle : Nat.find hexists ≤ d := Nat.find_min' hexists hc
  have hsame : ∀ j ≤ Nat.find hexists, ∀ c', HasPlaces j c' → nearest c' = nearest c → c' = c :=
    fun j hj c' hc' => eq_of_nearest_eq hk hstep hc hlt (hc'.mono (hj.trans hle))
  refine ⟨Nat.find hexists, Nat.find_spec hexists, rfl, ?_, ?_⟩
  · intro j hj c' hc' hreads
    rw [hsame j hj.le c' hc' hreads] at hc'
    exact Nat.find_min hexists hj hc'
  · intro c' hc' hreads hne
    exact absurd (hsame _ le_rfl c' hc' hreads) hne

theorem nearest_natCast {n : Nat} (h : n < 2 ^ 53) : nearest n = n := by
  rcases Nat.eq_zero_or_pos n with rfl | hpos
  · exact nearest_zero
  have hlog : Int.log 2 (n : ℚ) = (Nat.log 2 n : ℤ) := Int.log_natCast 2 n
  have hle : Nat.log 2 n ≤ 52 := Nat.lt_succ_iff.mp (Nat.log_lt_of_lt_pow hpos.ne' h)
  refine nearest_of_mul_ulp (n * 2 ^ (52 - Nat.log 2 n) : Nat) ?_
  rw [ulp, hlog, show (Nat.log 2 n : ℤ) - 52 = -((52 - Nat.log 2 n : Nat) : ℤ) by omega, zpow_neg,
    zpow_natCast]
  push_cast
  rw [mul_assoc, mul_inv_cancel₀ (by positivity), mul_one]

end Double

end Keystone3.Bytes
