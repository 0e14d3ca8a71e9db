import Mathlib.Data.Nat.Bitwise

/-!
# The checksum of a mnemonic

`rs1024.c`: the words of a mnemonic, after a customization string that tells extendable
backups from others, are run through a register of thirty bits.

A checksum is made by linearity: the register is additive over exclusive or
in what it holds and in what it reads (`polymodStep_xor`), so three words instead of
three zeros change where it ends by these words themselves (`polymod_last`).
-/

namespace Keystone3.Slip39

def generator : List Nat := [
  0x00E0E040, 0x01C1C080, 0x03838100, 0x07070200, 0x0E0E0009,
  0x1C0C2412, 0x38086C24, 0x3090FC48, 0x21B1F890, 0x03F3F120]

def customizationNonExtendable : List Nat := [115, 104, 97, 109, 105, 114]

def customizationExtendable : List Nat :=
  [115, 104, 97, 109, 105, 114, 95, 101, 120, 116, 101, 110, 100, 97, 98, 108, 101]

/-- The loop over the ten bits of `b`. -/
def mixGenerator (generator : List Nat) (b chk : Nat) : Nat :=
  match generator with
  | [] => chk
  | g :: generator => mixGenerator generator (b >>> 1) (chk ^^^ (g * (b &&& 1)))

def polymodStep (chk v : Nat) : Nat :=
  mixGenerator generator (chk >>> 20) (((chk &&& 0xFFFFF) <<< 10) ^^^ v)

def rs1024PolymodInner (values customization : List Nat) : Nat :=
  values.foldl polymodStep (customization.foldl polymodStep 1)

def rs1024Polymod (values : List Nat) (extendableBackupFlag : Bool) : Nat :=
  rs1024PolymodInner values
    (if extendableBackupFlag then customizationExtendable else customizationNonExtendable)

/-- `rs1024_create_checksum`, which writes over the last three of the values. -/
def rs1024CreateChecksum (values : List Nat) (extendableBackupFlag : Bool) : List Nat :=
  let data := values.take (values.length - 3)
  let polymod := rs1024Polymod (data ++ [0, 0, 0]) extendableBackupFlag ^^^ 1
  data ++ [(polymod >>> 20) &&& 1023, (polymod >>> 10) &&& 1023, polymod &&& 1023]

def rs1024VerifyChecksum (values : List Nat) (extendableBackupFlag : Bool) : Bool :=
  rs1024Polymod values extendableBackupFlag == 1

theorem mul_and_one_xor (g a b : Nat) :
    g * ((a ^^^ b) &&& 1) = (g * (a &&& 1)) ^^^ (g * (b &&& 1)) := by
  rw [Nat.and_xor_distrib_right]
  have hbit : ∀ n, n &&& 1 = 0 ∨ n &&& 1 = 1 := by
    intro n
    rw [Nat.and_one_is_mod]
    omega
  rcases hbit a with ha | ha <;> rcases hbit b with hb | hb <;> rw [ha, hb] <;> simp

theorem mixGenerator_xor (generator : List Nat) (b b' chk chk' : Nat) :
    mixGenerator generator (b ^^^ b') (chk ^^^ chk')
      = mixGenerator generator b chk ^^^ mixGenerator generator b' chk' := by
  induction generator generalizing b b' chk chk' with
  | nil => rfl
  | cons g generator ih =>
    rw [mixGenerator, mixGenerator, mixGenerator, mul_and_one_xor, Nat.shiftRight_xor_distrib, ← ih]
    congr 1
    ac_rfl

theorem polymodStep_xor (chk chk' v v' : Nat) :
    polymodStep (chk ^^^ chk') (v ^^^ v') = polymodStep chk v ^^^ polymodStep chk' v' := by
  rw [polymodStep, polymodStep, polymodStep, ← mixGenerator_xor, Nat.shiftRight_xor_distrib,
    Nat.and_xor_distrib_right, Nat.shiftLeft_xor_distrib]
  congr 1
  ac_rfl

theorem mixGenerator_zero (generator : List Nat) (chk : Nat) :
    mixGenerator generator 0 chk = chk := by
  induction generator generalizing chk with
  | nil => rfl
  | cons g generator ih => rw [mixGenerator, Nat.zero_shiftRight, Nat.zero_and, Nat.mul_zero,
      Nat.xor_zero, ih]

theorem mixGenerator_lt {generator : List Nat} (hgenerator : ∀ g ∈ generator, g < 2 ^ 30)
    (b : Nat) {chk : Nat} (hchk : chk < 2 ^ 30) : mixGenerator generator b chk < 2 ^ 30 := by
  induction generator generalizing b chk with
  | nil => exact hchk
  | cons g generator ih =>
    rw [mixGenerator]
    refine ih (fun g' hg' => hgenerator g' (List.mem_cons_of_mem g hg')) _ ?_
    refine Nat.xor_lt_two_pow hchk ?_
    have hg := hgenerator g (.head _)
    rw [Nat.and_one_is_mod]
    rcases Nat.mod_two_eq_zero_or_one b with hb | hb <;> rw [hb]
    · rw [Nat.mul_zero]
      decide
    · omega

theorem polymodStep_small {chk : Nat} (hchk : chk < 2 ^ 20) (v : Nat) :
    polymodStep chk v = (chk <<< 10) ^^^ v := by
  have htop : chk >>> 20 = 0 := by
    rw [Nat.shiftRight_eq_div_pow]
    omega
  have hlow : chk &&& 0xFFFFF = chk := by
    rw [show 0xFFFFF = 2 ^ 20 - 1 from rfl, Nat.and_two_pow_sub_one_eq_mod, Nat.mod_eq_of_lt hchk]
  rw [polymodStep, htop, mixGenerator_zero, hlow]

theorem polymodStep_lt (chk : Nat) {v : Nat} (hv : v < 1024) : polymodStep chk v < 2 ^ 30 := by
  refine mixGenerator_lt (by decide) _ (Nat.xor_lt_two_pow ?_ (by omega))
  rw [show 0xFFFFF = 2 ^ 20 - 1 from rfl, Nat.and_two_pow_sub_one_eq_mod, Nat.shiftLeft_eq]
  omega

theorem polymodStep_add (chk chk' v : Nat) :
    polymodStep (chk ^^^ chk') v = polymodStep chk 0 ^^^ polymodStep chk' v := by
  rw [← polymodStep_xor, Nat.zero_xor]

theorem rs1024Polymod_last (data : List Nat) (extendableBackupFlag : Bool) {a b c : Nat}
    (ha : a < 1024) (hb : b < 1024) :
    rs1024Polymod (data ++ [a, b, c]) extendableBackupFlag
      = rs1024Polymod (data ++ [0, 0, 0]) extendableBackupFlag
        ^^^ (((((a <<< 10) ^^^ b) <<< 10)) ^^^ c) := by
  have hfirst : polymodStep 0 a = a := by
    rw [polymodStep_small (by decide), Nat.zero_shiftLeft, Nat.zero_xor]
  have hsecond : polymodStep a b = (a <<< 10) ^^^ b := polymodStep_small (by omega) b
  have hthird : polymodStep ((a <<< 10) ^^^ b) c = ((((a <<< 10) ^^^ b) <<< 10)) ^^^ c := by
    refine polymodStep_small (Nat.xor_lt_two_pow ?_ (by omega)) c
    rw [Nat.shiftLeft_eq]
    omega
  rw [rs1024Polymod, rs1024Polymod, rs1024PolymodInner, rs1024PolymodInner, List.foldl_append,
    List.foldl_append]
  generalize List.foldl polymodStep _ data = chk
  show polymodStep (polymodStep (polymodStep chk a) b) c
    = polymodStep (polymodStep (polymodStep chk 0) 0) 0 ^^^ _
  have hchk := polymodStep_add chk 0 a
  rw [Nat.xor_zero] at hchk
  rw [hchk, hfirst, polymodStep_add, hsecond, polymodStep_add, hthird]

theorem join_words {x : Nat} (hx : x < 2 ^ 30) :
    ((((((x >>> 20) &&& 1023) <<< 10) ^^^ ((x >>> 10) &&& 1023)) <<< 10)) ^^^ (x &&& 1023) = x := by
  have h1023 : 1023 = 2 ^ 10 - 1 := rfl
  refine Nat.eq_of_testBit_eq fun k => ?_
  simp only [Nat.testBit_xor, Nat.testBit_shiftLeft, Nat.testBit_and, Nat.testBit_shiftRight, h1023,
    Nat.testBit_two_pow_sub_one]
  by_cases h1 : k < 10
  · simp [h1, Nat.not_le_of_lt h1]
  by_cases h2 : k < 20
  · have e1 : 10 + (k - 10) = k := by omega
    simp [h1, e1, show 10 ≤ k by omega, show ¬ 10 ≤ k - 10 by omega, show k - 10 < 10 by omega]
  by_cases h3 : k < 30
  · have e2 : 20 + (k - 10 - 10) = k := by omega
    simp [h1, e2, show 10 ≤ k by omega, show 10 ≤ k - 10 by omega, show ¬ k - 10 < 10 by omega,
      show k - 10 - 10 < 10 by omega]
  · have hout := Nat.testBit_lt_two_pow
      (lt_of_lt_of_le hx (Nat.pow_le_pow_right (by decide) (by omega : 30 ≤ k)))
    simp [h1, hout, show ¬ k - 10 < 10 by omega, show ¬ k - 10 - 10 < 10 by omega]

theorem rs1024Polymod_lt (data : List Nat) (extendableBackupFlag : Bool) :
    rs1024Polymod (data ++ [0, 0, 0]) extendableBackupFlag < 2 ^ 30 := by
  rw [rs1024Polymod, rs1024PolymodInner, List.foldl_append]
  exact polymodStep_lt _ (by decide)

def checksum (data : List Nat) (extendableBackupFlag : Bool) : List Nat :=
  let polymod := rs1024Polymod (data ++ [0, 0, 0]) extendableBackupFlag ^^^ 1
  [(polymod >>> 20) &&& 1023, (polymod >>> 10) &&& 1023, polymod &&& 1023]

theorem rs1024CreateChecksum_append (data : List Nat) (extendableBackupFlag : Bool) :
    rs1024CreateChecksum (data ++ [0, 0, 0]) extendableBackupFlag
      = data ++ checksum data extendableBackupFlag := by
  have hdata : (data ++ [0, 0, 0]).take ((data ++ [0, 0, 0]).length - 3) = data := by
    refine List.take_left' ?_
    rw [List.length_append]
    rfl
  rw [rs1024CreateChecksum, hdata]
  rfl

theorem checksum_lt (data : List Nat) (extendableBackupFlag : Bool) :
    ∀ w ∈ checksum data extendableBackupFlag, w < 1024 := by
  intro w hw
  simp only [checksum, List.mem_cons, List.not_mem_nil, or_false] at hw
  rcases hw with rfl | rfl | rfl <;> exact Nat.and_lt_two_pow _ (by decide : 1023 < 2 ^ 10)

theorem rs1024VerifyChecksum_rs1024CreateChecksum (values : List Nat) (extendableBackupFlag : Bool) :
    rs1024VerifyChecksum (rs1024CreateChecksum values extendableBackupFlag) extendableBackupFlag
      = true := by
  have hword : ∀ n, n &&& 1023 < 1024 := fun n => Nat.and_lt_two_pow n (by decide : 1023 < 2 ^ 10)
  have hx : rs1024Polymod (values.take (values.length - 3) ++ [0, 0, 0]) extendableBackupFlag ^^^ 1
      < 2 ^ 30 := Nat.xor_lt_two_pow (rs1024Polymod_lt _ _) (by decide : 1 < 2 ^ 30)
  rw [rs1024VerifyChecksum, rs1024CreateChecksum, rs1024Polymod_last _ _ (hword _) (hword _),
    join_words hx, beq_iff_eq, ← Nat.xor_assoc, Nat.xor_self, Nat.zero_xor]

end Keystone3.Slip39
