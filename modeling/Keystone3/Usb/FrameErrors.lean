import Keystone3.Bytes.Reflected
import Keystone3.Usb.Codec

/-!
# Frames with errors

What is received for a frame is not taken if up to four bytes of it in a row are others
(`protocolParse_burst`): the CRC-32 over the whole of an accepted frame, its own CRC at the
end, is always the same number (`run_accepted`).
-/

namespace Keystone3

open Bytes (Reflected crc32Byte crc32Ieee crc32Table ofLe_lt)

theorem nodup_crc32Table : (crc32Table.toList.map fun e => e.toNat / 256 ^ 3).Nodup :=
  Bytes.nodup_of_bits (by decide +kernel)

set_option maxRecDepth 16384 in
theorem size_crc32Table : crc32Table.size = 256 := rfl

def crc32Register : Reflected where
  count := 4
  remainder b := (crc32Table.getD b.toNat 0).toNat
  count_pos := by decide
  remainder_lt b := (crc32Table.getD b.toNat 0).toNat_lt
  remainder_top b b' h := by
    have hget : ∀ b : UInt8, (crc32Table.toList.map fun e => e.toNat / 256 ^ 3)[b.toNat]?
        = some ((crc32Table.getD b.toNat 0).toNat / 256 ^ 3) := by
      intro b
      rw [List.getElem?_map, Array.getElem?_toList, Array.getD_eq_getD_getElem?,
        Array.getElem?_eq_getElem (size_crc32Table ▸ b.toNat_lt), Option.map_some, Option.getD_some]
    have hlt : b.toNat < (crc32Table.toList.map fun e => e.toNat / 256 ^ 3).length := by
      rw [List.length_map, Array.length_toList, size_crc32Table]
      exact b.toNat_lt
    exact UInt8.toNat_inj.mp ((List.getElem?_inj hlt nodup_crc32Table).mp
      ((hget b).trans ((congrArg some h).trans (hget b').symm)))

theorem remainder_crc32Register (b : UInt8) :
    crc32Register.remainder b = (crc32Table.getD b.toNat 0).toNat := by
  rw [crc32Register]

theorem toNat_crc32Byte (crc : UInt32) (b : UInt8) :
    (crc32Byte crc b).toNat = crc32Register.shift (crc.toNat ^^^ b.toNat) := by
  have hhigh : (crc.toNat ^^^ b.toNat) / 256 = crc.toNat / 256 := by
    have h := Reflected.xor_div crc.toNat b.toNat 1
    rwa [Nat.pow_one, Nat.div_eq_of_lt b.toNat_lt, Nat.xor_zero] at h
  have hlow : ((crc &&& 0xFF) ^^^ b.toUInt32).toNat = (UInt8.ofNat (crc.toNat ^^^ b.toNat)).toNat := by
    rw [UInt8.toNat_ofNat', Nat.xor_mod_two_pow, UInt32.toNat_xor, UInt32.toNat_and,
      UInt8.toNat_toUInt32, Nat.mod_eq_of_lt b.toNat_lt]
    exact congrArg (· ^^^ b.toNat) (Nat.and_two_pow_sub_one_eq_mod crc.toNat 8)
  rw [crc32Byte, UInt32.toNat_xor, hlow, UInt32.toNat_shiftRight, Reflected.shift, hhigh,
    Nat.shiftRight_eq_div_pow, remainder_crc32Register, show UInt32.toNat 8 % 32 = 8 from rfl]

theorem toNat_foldl_crc32Byte (crc : UInt32) (bytes : List UInt8) :
    (bytes.foldl crc32Byte crc).toNat = crc32Register.run crc.toNat bytes := by
  induction bytes generalizing crc with
  | nil => rfl
  | cons b bytes ih =>
    rw [List.foldl_cons, ih, toNat_crc32Byte]
    rfl

theorem run_accepted {inData : List UInt8} {frame : FrameHead × List UInt8}
    (h : protocolParse inData = some frame) :
    crc32Register.run 0xFFFFFFFF inData = crc32Register.shift^[4] 0xFFFFFFFF := by
  unfold protocolParse at h
  split at h
  · cases h
  · rename_i hlong
    simp only [ite_not] at h
    split at h
    case isFalse => cases h
    split at h
    case isFalse => cases h
    split at h
    case isFalse => cases h
    split at h
    case isFalse => cases h
    rename_i hcrc
    have htail : (inData.drop (inData.length - 4)).length = 4 := by
      rw [List.length_drop]
      have : frameHeadSize = 10 := rfl
      omega
    have hlt := ofLe_lt (inData.drop (inData.length - 4))
    rw [htail] at hlt
    have hsame := congrArg UInt32.toNat hcrc
    rw [UInt32.toNat_ofNat_of_lt' hlt, crc32Ieee, UInt32.toNat_xor, toNat_foldl_crc32Byte] at hsame
    have hsplit := crc32Register.run_append 0xFFFFFFFF (inData.take (inData.length - 4))
      (inData.drop (inData.length - 4))
    rw [List.take_append_drop, crc32Register.run_ofLe _ (inData.drop _), htail, hsame,
      ← Nat.xor_assoc] at hsplit
    rw [hsplit]
    exact congrArg _ ((congrArg (· ^^^ 0xFFFFFFFF) (Nat.xor_self _)).trans (Nat.zero_xor _))

/-- **Errors in a frame are detected.** Of two accepted frames that differ in four bytes in a row
at most, the one is the other. -/
theorem protocolParse_burst {us ws ws' vs : List UInt8} {frame frame' : FrameHead × List UInt8}
    (hlength : ws.length = ws'.length) (hfour : ws.length ≤ 4)
    (h : protocolParse (us ++ ws ++ vs) = some frame)
    (h' : protocolParse (us ++ ws' ++ vs) = some frame') : ws = ws' :=
  crc32Register.eq_of_run_burst (by decide) hlength hfour
    ((run_accepted h).trans (run_accepted h').symm)

theorem protocolParse_burst_sample :
    ([0, 0, 0xF1, 0xA5] : List UInt8) = [0, 0, 0xF1, 0xA5] := by
  have h : protocolParse ([0x6B, 0, 1, 0, 1, 1, 2, 0] ++ [0, 0, 0xF1, 0xA5] ++ [0x12, 0x5A])
      = some (⟨0x6B, 0, 1, 1, 1, 2, 0⟩, []) := by
    decide +kernel
  exact protocolParse_burst rfl (by decide) h h

end Keystone3
