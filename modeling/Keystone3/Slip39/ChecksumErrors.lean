import Keystone3.Bytes.Register
import Keystone3.Slip39.Mnemonic

/-!
# Mistyped mnemonics

The checksum of a mnemonic has three words. Of two mnemonics that are decoded, both
extendable or neither, and differ in at most three words in a row, the one is the other
(`decodeMnemonics_burst`).
-/

namespace Keystone3.Slip39

open Bytes (Register)

def rs1024Register : Register where
  bits := 10
  count := 3
  feedback b := mixGenerator generator b 0
  bits_pos := by decide
  count_pos := by decide
  feedback_xor a b := by rw [← mixGenerator_xor, Nat.xor_self]
  feedback_lt b := mixGenerator_lt (by decide) b (by decide)

theorem polymodStep_eq (chk v : Nat) : polymodStep chk v = rs1024Register.step chk v := by
  have hmix := mixGenerator_xor generator 0 (chk >>> 20) (((chk &&& 0xFFFFF) <<< 10) ^^^ v) 0
  rw [Nat.zero_xor, Nat.xor_zero, mixGenerator_zero, show 0xFFFFF = 2 ^ 20 - 1 from rfl,
    Nat.and_two_pow_sub_one_eq_mod] at hmix
  rw [polymodStep, show 0xFFFFF = 2 ^ 20 - 1 from rfl, Nat.and_two_pow_sub_one_eq_mod, hmix]
  rfl

theorem rs1024PolymodInner_eq (values customization : List Nat) :
    rs1024PolymodInner values customization
      = rs1024Register.run (rs1024Register.run 1 customization) values := by
  rw [rs1024PolymodInner, funext₂ polymodStep_eq]
  rfl

theorem feedsBack_rs1024Register : rs1024Register.FeedsBack := by
  unfold Register.FeedsBack
  decide +kernel

theorem checksum_of_decoded {words : List Nat} {shared : Slip39Shared}
    (h : decodeMnemonics words = .ok shared) :
    rs1024Polymod words shared.extendableBackupFlag = 1 := by
  unfold decodeMnemonics at h
  simp only at h
  split at h
  · cases h
  · rename_i hchecksum
    rw [Bool.not_eq_true', Bool.not_eq_false, rs1024VerifyChecksum, beq_iff_eq] at hchecksum
    split at h
    · cases h
    · split at h
      · cases h
      · cases h
        exact hchecksum

/-- **A burst of errors is detected.** Mnemonics of one kind that are decoded and differ in three
words in a row at most are the same. -/
theorem decodeMnemonics_burst {us ws ws' vs : List Nat} {shared shared' : Slip39Shared}
    (hus : ∀ w ∈ us, w < 1024) (hws : ∀ w ∈ ws, w < 1024) (hws' : ∀ w ∈ ws', w < 1024)
    (hvs : ∀ w ∈ vs, w < 1024) (hlength : ws.length = ws'.length) (hthree : ws.length ≤ 3)
    (h : decodeMnemonics (us ++ ws ++ vs) = .ok shared)
    (h' : decodeMnemonics (us ++ ws' ++ vs) = .ok shared')
    (hflag : shared.extendableBackupFlag = shared'.extendableBackupFlag) : ws = ws' := by
  have hstop := (checksum_of_decoded h).trans (checksum_of_decoded h').symm
  rw [hflag, rs1024Polymod, rs1024Polymod, rs1024PolymodInner_eq, rs1024PolymodInner_eq] at hstop
  refine rs1024Register.eq_of_run_burst feedsBack_rs1024Register
    (rs1024Register.run_lt (by decide) ?_) hus hws hws' hvs hlength hthree hstop
  split <;> decide

set_option maxRecDepth 16384 in
theorem decodeMnemonics_burst_zeros : [0, 14, 556] = [0, 14, 556] :=
  @decodeMnemonics_burst [0, 0, 0, 0, 0] [0, 14, 556] [0, 14, 556] [917]
    ⟨0, false, 0, 0, 1, 1, 0, 1, [0, 0]⟩ ⟨0, false, 0, 0, 1, 1, 0, 1, [0, 0]⟩ (by decide)
    (by decide) (by decide) (by decide) rfl (by decide) rfl rfl rfl

end Keystone3.Slip39
