import Keystone3.Slip39.Share

/-!
# What undoes what

The steps a backup is made of come in pairs, and each pair ought to be the identity:
enciphering and deciphering, sharing a secret and recovering it, writing a mnemonic and
reading it. Here is for which inputs they are.

* `decrypt_masterSecretEncrypt_iff`: a passphrase is lost, as `MasterSecretEncrypt` does
  not copy it.
* `splitsBack_iff`: with a threshold of one only a single share is made. The test that
  should find a threshold of one looks at the number of shares.
* `decodeMnemonics_formatShareMnemonic_iff`: up to four groups a header is read back.
-/

namespace Keystone3.Slip39

open Bytes (Block)
open Bytes.Feistel (rounds rounds_append)

theorem rounds_congr {α : Type} (mix : α → α → α) {key key' : Nat → α → α} {is : List Nat}
    (hkey : ∀ i ∈ is, key i = key' i) (h : α × α) :
    rounds mix key is h = rounds mix key' is h := by
  induction is generalizing h with
  | nil => rfl
  | cons i is ih =>
    rw [rounds, rounds, hkey i (.head _), ih fun j hj => hkey j (List.mem_cons_of_mem i hj)]

theorem crypt_of_decrypt {sha : Sha256} {ems pp ms : List UInt8} {ie id : Nat} {eb : Bool}
    (h : decrypt sha ems pp ie eb id = .ok ms) :
    crypt sha (ms.length / 2) (fun i => UInt8.ofNat i :: pp) (getSalt id eb) ie [0, 1, 2, 3] ms
      = ems := by
  rw [decrypt] at h
  split at h
  · cases h
  · obtain rfl := Except.ok.inj h
    rw [length_crypt, show (ems.length / 2 + ems.length / 2) / 2 = ems.length / 2 by omega]
    exact crypt_reverse sha (ems.length / 2) (fun i => UInt8.ofNat i :: pp) (getSalt id eb) ie
      [3, 2, 1, 0] (by omega)

theorem crypt_ne {sha : Sha256} {n : Nat} {pass pass' : Nat → List UInt8} {salt : List UInt8}
    {ie : Nat} (is : List Nat) (last : Nat) (bytes : List UInt8)
    (hsame : ∀ i ∈ is, ∀ r : Block n,
      roundKey sha (pass i) salt ie r = roundKey sha (pass' i) salt ie r)
    (hdiffer : ∀ r : Block n,
      roundKey sha (pass last) salt ie r ≠ roundKey sha (pass' last) salt ie r) :
    crypt sha n pass salt ie (is ++ [last]) bytes
      ≠ crypt sha n pass' salt ie (is ++ [last]) bytes := by
  intro h
  have hrounds := rounds_congr Block.xor (fun i hi => funext fun r => hsame i hi r) (halves n bytes)
  simp only [crypt, rounds_append, hrounds] at h
  generalize rounds Block.xor (fun i => roundKey sha (pass' i) salt ie) is (halves n bytes) = r at h
  -- only the half that the last key is mixed into is left to compare
  have hmixed := (List.append_inj h (by rw [Block.size_eq, Block.size_eq])).1
  have hmixed : Block.xor r.1 (roundKey sha (pass last) salt ie r.2)
      = Block.xor r.1 (roundKey sha (pass' last) salt ie r.2) := Block.ext hmixed
  have hkey := congrArg (Block.xor r.1) hmixed
  rw [Block.xor_xor_cancel, Block.xor_xor_cancel] at hkey
  exact hdiffer r.2 hkey

/-- Functions whose PBKDF2 gives ones for the last round with this passphrase, and zeros
for all else. -/
def lastRoundOnly (pp : List UInt8) : Sha256 where
  hmacSha256 _ _ := List.replicate 32 0
  pbkdf2HmacSha256Slip39 pass _ _ keylen := List.replicate keylen (if pass = 3 :: pp then 1 else 0)
  length_hmacSha256 _ _ := List.length_replicate
  length_pbkdf2 _ _ _ _ := List.length_replicate

theorem zeroed_ne {pp : List UInt8} (hne : pp ≠ []) (hzero : 0 ∉ pp) (count : Nat) (b : UInt8) :
    (List.replicate count 0).set 0 b ≠ 3 :: pp := by
  cases count with
  | zero => simp
  | succ count =>
    rw [List.replicate_succ, List.set_cons_zero]
    rintro h
    obtain ⟨-, rfl⟩ := List.cons.inj h
    exact hzero (List.mem_replicate.mpr ⟨fun h => hne (by rw [h]; rfl), rfl⟩)

theorem decrypt_lastRoundOnly_ne {masterSecret pp : List UInt8} (hsecret : masterSecret ≠ [])
    (heven : masterSecret.length % 2 = 0) (hne : pp ≠ []) (hzero : 0 ∉ pp) (ie : Nat) (eb : Bool)
    (id : Nat) :
    decrypt (lastRoundOnly pp) (masterSecretEncrypt (lastRoundOnly pp) masterSecret ie eb id pp)
      pp ie eb id ≠ .ok masterSecret := by
  intro h
  have hpos := List.length_pos_iff.mpr hsecret
  refine crypt_ne [0, 1, 2] 3 masterSecret ?_ ?_ (crypt_of_decrypt h)
  · intro i hi r
    refine Block.ext (congrArg (List.replicate _) ?_)
    rw [if_neg (zeroed_ne hne hzero _ _), if_neg]
    intro hpass
    simp only [List.mem_cons, List.not_mem_nil, or_false] at hi
    rcases hi with rfl | rfl | rfl <;> exact absurd (List.cons.inj hpass).1 (by decide)
  · intro r hkey
    have hbytes : List.replicate (masterSecret.length / 2) _
        = List.replicate (masterSecret.length / 2) _ := congrArg Block.bytes hkey
    rw [if_neg (zeroed_ne hne hzero _ _), if_pos (show UInt8.ofNat 3 :: pp = 3 :: pp from rfl),
      List.replicate_right_inj (by omega)] at hbytes
    cases hbytes

theorem decrypt_masterSecretEncrypt_iff {masterSecret pp : List UInt8}
    (heven : masterSecret.length % 2 = 0) (hzero : 0 ∉ pp) (ie : Nat) (eb : Bool) (id : Nat) :
    (∀ sha : Sha256, decrypt sha (masterSecretEncrypt sha masterSecret ie eb id pp) pp ie eb id
      = .ok masterSecret) ↔ pp = [] ∨ masterSecret = [] := by
  constructor
  · intro h
    by_contra hboth
    rw [not_or] at hboth
    exact decrypt_lastRoundOnly_ne hboth.2 heven hboth.1 hzero ie eb id (h (lastRoundOnly pp))
  · rintro (rfl | rfl) sha
    · exact decrypt_masterSecretEncrypt sha heven ie eb id
    · have hems : masterSecretEncrypt sha [] ie eb id pp = [] :=
        List.length_eq_zero_iff.mp (length_masterSecretEncrypt sha rfl ie eb id pp)
      rw [hems, decrypt, if_neg (by decide)]
      exact congrArg Except.ok (List.length_eq_zero_iff.mp (length_crypt sha 0 _ _ ie _ []))

theorem decrypt_masterSecretEncrypt_iff_sample :
    (∀ sha : Sha256, decrypt sha (masterSecretEncrypt sha [1, 2] 0 false 7 []) [] 0 false 7
      = .ok [1, 2]) ↔ ([] : List UInt8) = [] ∨ [1, 2] = ([] : List UInt8) :=
  decrypt_masterSecretEncrypt_iff rfl List.not_mem_nil 0 false 7

/-- **Every passphrase opens a backup**, and under each a secret is what just one cipher text
opens to. -/
theorem existsUnique_decrypt (sha : Sha256) {ms : List UInt8} (heven : ms.length % 2 = 0)
    (pp : List UInt8) (ie : Nat) (eb : Bool) (id : Nat) :
    ∃! ems, decrypt sha ems pp ie eb id = .ok ms := by
  refine ⟨crypt sha (ms.length / 2) (fun i => UInt8.ofNat i :: pp) (getSalt id eb) ie [0, 1, 2, 3]
    ms, ?_, fun ems h => (crypt_of_decrypt h).symm⟩
  show decrypt _ _ _ _ _ _ = _
  rw [decrypt, length_crypt, if_neg (by omega),
    show (ms.length / 2 + ms.length / 2) / 2 = ms.length / 2 by omega]
  exact congrArg Except.ok (crypt_reverse sha (ms.length / 2) (fun i => UInt8.ofNat i :: pp)
    (getSalt id eb) ie [0, 1, 2, 3] (by omega))

theorem existsUnique_decrypt_sample :
    ∃! ems, decrypt (lastRoundOnly []) ems [84] 0 false 7 = .ok [1, 2] :=
  existsUnique_decrypt (lastRoundOnly []) rfl [84] 0 false 7

/-- The passphrase `TREZOR` and a secret of sixteen bytes. -/
theorem not_decrypt_passphrase : ¬∀ (sha : Sha256) (masterSecret pp : List UInt8) (ie : Nat)
    (eb : Bool) (id : Nat), masterSecret.length % 2 = 0 → 0 ∉ pp →
    decrypt sha (masterSecretEncrypt sha masterSecret ie eb id pp) pp ie eb id
      = .ok masterSecret := by
  intro h
  have hback := h (lastRoundOnly [84, 82, 69, 90, 79, 82]) (List.replicate 16 0x42)
    [84, 82, 69, 90, 79, 82] 1 true 4711 rfl (by decide)
  exact decrypt_lastRoundOnly_ne (by decide) rfl (by decide) (by decide) 1 true 4711 hback

variable (sha : Sha256) (random : Nat → UInt8)

/-- Splitting makes `count` shares, any `threshold` of which give the secret back. -/
def SplitsBack (position count threshold : Nat) (secret : List UInt8) : Prop :=
  ∃ shares position', splitSecret sha random position count threshold secret
      = .ok (shares, position')
    ∧ shares.length = count ∧ (∀ share ∈ shares, share.length = secret.length)
    ∧ (∀ picks : List Nat, picks.Nodup → (∀ i ∈ picks, i < count) → picks.length = threshold →
        recoverSecret sha threshold secret.length
          (picks.map fun i => (UInt8.ofNat i, shares.getD i [])) = .ok secret)
    ∧ (threshold = 1 → shares = List.replicate count secret)

theorem splitsBack {position count threshold : Nat} {secret : List UInt8}
    (hsize : 4 ≤ secret.length) (hcount : count ≤ 16) (hle : threshold ≤ count)
    (hthreshold : 2 ≤ threshold ∨ threshold = 1 ∧ count = 1) :
    SplitsBack sha random position count threshold secret := by
  obtain ⟨s, position', hsplit⟩ :=
    @splitSecret_split sha random position count threshold secret hsize hcount hle hthreshold
  refine ⟨_, position', hsplit, by rw [List.length_map, List.length_range], ?_, ?_, ?_⟩
  · intro share hshare
    obtain ⟨i, -, rfl⟩ := List.mem_map.mp hshare
    exact s.length_share _
  · intro picks hnodup hpicks hlength
    have hshares : (picks.map fun i => (UInt8.ofNat i,
        ((List.range count).map fun i => s.share (UInt8.ofNat i)).getD i []))
          = (picks.map UInt8.ofNat).map fun x => (x, s.share x) := by
      rw [List.map_map]
      refine List.map_congr_left fun i hi => ?_
      have hi := hpicks i hi
      simp [List.getD_eq_getElem?_getD, hi]
    have hplaces : (picks.map UInt8.ofNat).Nodup := by
      refine List.Nodup.map_on (fun i hi j hj h => ?_) hnodup
      have hi := hpicks i hi
      have hj := hpicks j hj
      have := congrArg UInt8.toNat h
      rwa [UInt8.toNat_ofNat_of_lt' (by show i < 256; omega),
        UInt8.toNat_ofNat_of_lt' (by show j < 256; omega)] at this
    rw [hshares]
    exact recoverSecret_enough s hplaces (by rw [List.length_map]; omega) (by omega)
  · rintro rfl
    refine List.ext_getElem (by simp) fun i hi hi' => ?_
    rw [List.getElem_map, List.getElem_replicate]
    exact s.share_of_one _

theorem splitsBack_iff {position count threshold : Nat} {secret : List UInt8}
    (hsize : secret.length = 16 ∨ secret.length = 32) (hpos : 1 ≤ threshold)
    (hle : threshold ≤ count) (hcount : count ≤ 16) :
    SplitsBack sha random position count threshold secret ↔ threshold ≠ 1 ∨ count = 1 := by
  constructor
  · rintro ⟨shares, position', hsplit, -⟩
    by_contra h
    rw [not_or, not_not] at h
    rw [splitSecret, if_neg (by omega), if_neg h.2, if_pos h.1] at hsplit
    cases hsplit
  · intro h
    exact splitsBack sha random (by omega) hcount hle (by omega)

/-- Two of three shares of a secret of sixteen bytes. -/
theorem splitsBack_iff_sample :
    SplitsBack (lastRoundOnly []) (fun _ => 7) 0 3 2 (List.replicate 16 1) ↔ 2 ≠ 1 ∨ 3 = 1 :=
  splitsBack_iff (lastRoundOnly []) (fun _ => 7) (.inl rfl) (by decide) (by decide) (by decide)

/-- One of two shares: `xi[-1]` is written. -/
theorem not_splitsBack_oneOfTwo : ¬∀ (sha : Sha256) (random : Nat → UInt8)
    (position count threshold : Nat) (secret : List UInt8),
    secret.length = 16 ∨ secret.length = 32 → 1 ≤ threshold → threshold ≤ count → count ≤ 16 →
    SplitsBack sha random position count threshold secret := by
  intro h
  obtain ⟨shares, position', hsplit, -⟩ := h (lastRoundOnly []) (fun _ => 7) 0 2 1
    (List.replicate 16 1) (.inl rfl) (by decide) (by decide) (by decide)
  have hout : splitSecret (lastRoundOnly []) (fun _ => 7) 0 2 1 (List.replicate 16 1)
      = .error .outOfBounds := rfl
  rw [hout] at hsplit
  cases hsplit

theorem groupCount_of_decodeMnemonics {words : List Nat} {shared : Slip39Shared}
    (h : decodeMnemonics words = .ok shared) : shared.groupCount ≤ 4 := by
  have h0x3 : ∀ n, n &&& 0x3 = n % 4 := and_mask 2
  unfold decodeMnemonics at h
  simp only at h
  split at h
  · cases h
  split at h
  · cases h
  split at h
  · cases h
  · obtain rfl := Except.ok.inj h
    show ((((words.getD 2 0 &&& 0x3) <<< 8) ||| ((words.getD 3 0 >>> 8) &&& 0x3)) + 1) % 256 ≤ 4
    rw [h0x3, h0x3, shiftLeft_or (by omega)]
    omega

/-- **What is written is read back**, header and value, up to four groups. -/
theorem decodeMnemonics_formatShareMnemonic_iff (h : Header) {value : List UInt8} {room : Nat}
    (hvalid : h.groupThreshold ≤ h.groupCount) (heven : value.length % 2 = 0)
    (hsize : value.length ≤ 32)
    (hroom : slip39WordCountForBytes value.length + metadataLengthWords ≤ room) :
    decodeMnemonics (formatShareMnemonic (h.shared value) room) = .ok (h.shared value)
      ↔ h.groupCount ≤ 4 := by
  constructor
  · intro hdecode
    exact groupCount_of_decodeMnemonics hdecode
  · intro hcount
    have hpos := h.groupCount_pos
    have hgc : (h.groupCount - 1) % 4 + 1 = h.groupCount := by omega
    rw [formatShareMnemonic_shared h value hcount (by rw [h.length_mnemonic]; exact hroom),
      decodeMnemonics_mnemonic h heven hsize, hgc, if_neg (Nat.not_lt.mpr hvalid)]
    rfl

/-- The header of the first of three shares of the third of four groups, of which two are
needed. -/
def sampleHeader : Header where
  identifier := 4711
  extendable := true
  iteration := 1
  groupIndex := 2
  groupThreshold := 2
  groupCount := 4
  memberIndex := 0
  memberThreshold := 3
  identifier_lt := by decide
  iteration_lt := by decide
  groupIndex_lt := by decide
  groupThreshold_pos := by decide
  groupThreshold_le := by decide
  groupCount_pos := by decide
  groupCount_le := by decide
  memberIndex_lt := Nat.succ_pos _
  memberThreshold_pos := by decide
  memberThreshold_le := by decide

theorem decodeMnemonics_formatShareMnemonic_iff_sample :
    decodeMnemonics (formatShareMnemonic (sampleHeader.shared (List.replicate 16 5)) 20)
      = .ok (sampleHeader.shared (List.replicate 16 5)) ↔ sampleHeader.groupCount ≤ 4 :=
  decodeMnemonics_formatShareMnemonic_iff sampleHeader (by decide) rfl (by decide) (by decide)

def fiveGroups : Header :=
  { sampleHeader with
    groupCount := 5
    groupCount_pos := by decide
    groupCount_le := by decide }

theorem not_decodeMnemonics_fiveGroups : ¬∀ (h : Header) (value : List UInt8) (room : Nat),
    h.groupThreshold ≤ h.groupCount → value.length % 2 = 0 → value.length ≤ 32 →
    slip39WordCountForBytes value.length + metadataLengthWords ≤ room →
    decodeMnemonics (formatShareMnemonic (h.shared value) room) = .ok (h.shared value) := by
  intro h
  have hcount := groupCount_of_decodeMnemonics
    (h fiveGroups (List.replicate 16 5) 20 (by decide) rfl (by decide) (by decide))
  exact absurd hcount (by decide)

end Keystone3.Slip39
