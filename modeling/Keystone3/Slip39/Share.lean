import Keystone3.Slip39.Mnemonic

/-!
# What a mnemonic says

`Share` is a share of a backup as the standard for these mnemonics has it: who it
belongs to, its place, and its value, all within the bounds their bits leave.

The firmware reads every part of this but one. The number of groups stands in the last
two bits of one word and the first two of the next, and the reader shifts the first two
to where the byte it keeps has no room for them (`decodeMnemonics_words`); the writer
has the same part wrong from five groups on, and is right up to four
(`formatShareMnemonic_decoded`).
-/

namespace Keystone3.Slip39

open Bytes
open Nat (mod_eq_of_lt shiftLeft_eq shiftRight_eq_div_pow)

structure Header where
  identifier : Nat
  extendable : Bool
  iteration : Nat
  groupIndex : Nat
  groupThreshold : Nat
  groupCount : Nat
  memberIndex : Nat
  memberThreshold : Nat
  identifier_lt : identifier < 2 ^ 15
  iteration_lt : iteration < 16
  groupIndex_lt : groupIndex < 16
  groupThreshold_pos : 1 ≤ groupThreshold
  groupThreshold_le : groupThreshold ≤ 16
  groupCount_pos : 1 ≤ groupCount
  groupCount_le : groupCount ≤ 16
  memberIndex_lt : memberIndex < 16
  memberThreshold_pos : 1 ≤ memberThreshold
  memberThreshold_le : memberThreshold ≤ 16

structure Share extends Header where
  value : List UInt8
  even : value.length % 2 = 0
  length_ge : 16 ≤ value.length
  length_le : value.length ≤ 32

/-- The four words of a header: 15 bits of identifier, a bit for extendable, and
four bits for each of the rest, counts and thresholds less one. -/
def Header.words (h : Header) : List Nat :=
  [ h.identifier / 32,
    h.identifier % 32 * 32 + h.extendable.toNat * 16 + h.iteration,
    h.groupIndex * 64 + (h.groupThreshold - 1) * 4 + (h.groupCount - 1) / 4,
    (h.groupCount - 1) % 4 * 256 + h.memberIndex * 16 + (h.memberThreshold - 1)]

def payload (bytes : List UInt8) : List Nat :=
  digits 1024 (slip39WordCountForBytes bytes.length) (Bytes.value 256 (bytes.map UInt8.toNat))

def Header.mnemonic (h : Header) (value : List UInt8) : List Nat :=
  h.words ++ payload value ++ checksum (h.words ++ payload value) h.extendable

def Header.shared (h : Header) (value : List UInt8) : Slip39Shared where
  identifier := h.identifier
  extendableBackupFlag := h.extendable
  iteration := h.iteration
  groupIndex := h.groupIndex
  groupThreshold := h.groupThreshold
  groupCount := h.groupCount
  memberIndex := h.memberIndex
  memberThreshold := h.memberThreshold
  value := value

def Share.words (s : Share) : List Nat :=
  s.toHeader.words ++ payload s.value ++ checksum (s.toHeader.words ++ payload s.value) s.extendable

def Share.text (s : Share) : List UInt8 := slip39StringsForWords s.words

/-- What `DecodeMnemonics` makes of a share. -/
def Share.decoded (s : Share) : Slip39Shared where
  identifier := s.identifier
  extendableBackupFlag := s.extendable
  iteration := s.iteration
  groupIndex := s.groupIndex
  groupThreshold := s.groupThreshold
  groupCount := (s.groupCount - 1) % 4 + 1
  memberIndex := s.memberIndex
  memberThreshold := s.memberThreshold
  value := s.value

theorem payload_spec {bytes : List UInt8} :
    (payload bytes).length = slip39WordCountForBytes bytes.length
      ∧ (∀ w ∈ payload bytes, w < 1024)
      ∧ Bytes.value 1024 (payload bytes) = Bytes.value 256 (bytes.map UInt8.toNat) := by
  refine ⟨length_digits _ _ _, digits_lt (by decide) _ _, value_digits ?_⟩
  have hbytes : ∀ d ∈ bytes.map UInt8.toNat, d < 256 := by
    intro d hd
    obtain ⟨b, _, rfl⟩ := List.mem_map.mp hd
    exact b.toNat_lt
  have hlt := value_lt (by decide) hbytes
  rw [List.length_map] at hlt
  refine lt_of_lt_of_le hlt ?_
  rw [show 256 = 2 ^ 8 from rfl, show 1024 = 2 ^ 10 from rfl, ← Nat.pow_mul, ← Nat.pow_mul]
  refine Nat.pow_le_pow_right (by decide) ?_
  rw [slip39WordCountForBytes, radixBits]
  omega

theorem Header.words_lt (h : Header) : ∀ w ∈ h.words, w < 1024 := by
  have := h.identifier_lt
  have := h.iteration_lt
  have := h.groupIndex_lt
  have := h.groupThreshold_le
  have := h.groupCount_le
  have := h.memberIndex_lt
  have := h.memberThreshold_le
  have := h.extendable.toNat_le
  intro w hw
  simp only [Header.words, List.mem_cons, List.not_mem_nil, or_false] at hw
  rcases hw with rfl | rfl | rfl | rfl <;> omega

theorem Share.words_lt (s : Share) : ∀ w ∈ s.words, w < 1024 := by
  intro w hw
  rcases List.mem_append.mp hw with hw | hw
  · rcases List.mem_append.mp hw with hw | hw
    · exact s.toHeader.words_lt w hw
    · exact payload_spec.2.1 w hw
  · exact checksum_lt _ _ w hw

theorem Header.length_mnemonic (h : Header) (value : List UInt8) :
    (h.mnemonic value).length = slip39WordCountForBytes value.length + 7 := by
  rw [Header.mnemonic, List.length_append, List.length_append, payload_spec.1]
  show 4 + _ + 3 = _
  omega

theorem Share.length_words (s : Share) :
    s.words.length = slip39WordCountForBytes s.value.length + 7 :=
  s.toHeader.length_mnemonic s.value

theorem shiftLeft_or {k b : Nat} (hb : b < 2 ^ k) (a : Nat) : (a <<< k) ||| b = a * 2 ^ k + b := by
  rw [← Nat.shiftLeft_add_eq_or_of_lt hb, shiftLeft_eq]

theorem and_mask (k n : Nat) : n &&& (2 ^ k - 1) = n % 2 ^ k := Nat.and_two_pow_sub_one_eq_mod n k

theorem and_0xF (n : Nat) : n &&& 0xF = n % 16 := and_mask 4 n

theorem formatMetadata_shared (h : Header) (value : List UInt8) (hcount : h.groupCount ≤ 4) :
    formatMetadata (h.shared value) = h.words := by
  have h1 := h.identifier_lt
  have h2 := h.iteration_lt
  have h3 := h.groupIndex_lt
  have h4 := h.groupThreshold_pos
  have h5 := h.groupThreshold_le
  have h6 := h.groupCount_pos
  have h7 := h.memberIndex_lt
  have h8 := h.memberThreshold_pos
  have h9 := h.memberThreshold_le
  have h10 := h.extendable.toNat_le
  have hless : ∀ n, 1 ≤ n → n ≤ 16 → (n + 0xFFFF) % 16 = n - 1 := by
    intro n _ _
    omega
  simp only [formatMetadata, Header.shared, and_0xF, Header.words, List.cons.injEq, and_true]
  have hgt := hless _ h4 h5
  have hgc' := hless _ h6 (by omega)
  have hmt := hless _ h8 h9
  have hmi := mod_eq_of_lt h7
  have hsame : ∀ n, n < 16 → n % 16 % 16 = n := by
    intro n _
    omega
  refine ⟨?_, ?_, ?_, ?_⟩
  · rw [show 0x3FF = 2 ^ 10 - 1 from rfl, and_mask, shiftRight_eq_div_pow]
    omega
  · rw [show 0x1F = 2 ^ 5 - 1 from rfl, and_mask, mod_eq_of_lt h2]
    rw [shiftLeft_or (by rw [shiftLeft_eq]; omega), shiftLeft_eq]
    rw [show h.identifier % 2 ^ 5 * 2 ^ 5 + h.extendable.toNat * 2 ^ 4
      = (h.identifier % 32 * 2 + h.extendable.toNat) <<< 4 by rw [shiftLeft_eq]; omega]
    rw [shiftLeft_or h2]
    omega
  · rw [hgt, hgc', mod_eq_of_lt h3, mod_eq_of_lt (by omega : h.groupThreshold - 1 < 16),
      mod_eq_of_lt (by omega : h.groupCount - 1 < 16), shiftRight_eq_div_pow]
    rw [shiftLeft_or (by rw [shiftLeft_eq]; omega), shiftLeft_eq]
    rw [show h.groupIndex * 2 ^ 6 + (h.groupThreshold - 1) * 2 ^ 2
      = (h.groupIndex * 16 + (h.groupThreshold - 1)) <<< 2 by rw [shiftLeft_eq]; omega]
    rw [shiftLeft_or (by omega)]
    omega
  · rw [hgc', hmt, hsame _ h7, mod_eq_of_lt (by omega : h.groupCount - 1 < 16),
      mod_eq_of_lt (by omega : h.memberThreshold - 1 < 16)]
    rw [shiftLeft_or (by rw [shiftLeft_eq]; omega), shiftLeft_eq]
    rw [show (h.groupCount - 1) * 2 ^ 8 + h.memberIndex * 2 ^ 4
      = ((h.groupCount - 1) * 16 + h.memberIndex) <<< 4 by rw [shiftLeft_eq]; omega]
    rw [shiftLeft_or (by omega)]
    omega

/-- **Up to four groups the firmware writes what the standard has.** -/
theorem formatShareMnemonic_shared (h : Header) (value : List UInt8) (hcount : h.groupCount ≤ 4)
    {room : Nat} (hroom : (h.mnemonic value).length ≤ room) :
    formatShareMnemonic (h.shared value) room = h.mnemonic value := by
  rw [h.length_mnemonic] at hroom
  have hmax : payloadRoom room = room - 7 := if_neg (by rw [metadataLengthWords]; omega)
  have hfits : slip39WordCountForBytes (h.shared value).value.length ≤ room - 7 := by
    show slip39WordCountForBytes value.length ≤ room - 7
    omega
  obtain ⟨words, hwords, hlength, hlt, hvalue⟩ := slip39WordsForData_spec hfits
  have hpayload : words = payload value := value_inj (by decide)
    (hlength.trans payload_spec.1.symm) hlt payload_spec.2.1 (hvalue.trans payload_spec.2.2.symm)
  rw [formatShareMnemonic, hmax, hwords]
  show rs1024CreateChecksum (formatMetadata (h.shared value) ++ words ++ [0, 0, 0]) h.extendable
    = h.mnemonic value
  rw [rs1024CreateChecksum_append, formatMetadata_shared h value hcount, hpayload]
  rfl

theorem Share.decoded_eq_shared {s : Share} (hcount : s.groupCount ≤ 4) :
    s.decoded = s.toHeader.shared s.value := by
  have hpos := s.groupCount_pos
  have hgc : (s.groupCount - 1) % 4 + 1 = s.groupCount := by omega
  simp only [Share.decoded, Header.shared, hgc]

theorem formatShareMnemonic_decoded (s : Share) (hcount : s.groupCount ≤ 4) {room : Nat}
    (hroom : s.words.length ≤ room) : formatShareMnemonic s.decoded room = s.words := by
  rw [Share.decoded_eq_shared hcount]
  exact formatShareMnemonic_shared s.toHeader s.value hcount hroom

theorem rs1024VerifyChecksum_mnemonic (h : Header) (value : List UInt8) :
    rs1024VerifyChecksum (h.mnemonic value) h.extendable = true := by
  have hverify := rs1024VerifyChecksum_rs1024CreateChecksum
    (h.words ++ payload value ++ [0, 0, 0]) h.extendable
  rwa [rs1024CreateChecksum_append] at hverify

theorem payload_of_mnemonic (h : Header) (value : List UInt8) :
    ((h.mnemonic value).drop 4).take ((h.mnemonic value).length - 7) = payload value := by
  have hlength : (h.mnemonic value).length - 7 = (payload value).length := by
    rw [h.length_mnemonic, payload_spec.1]
    omega
  rw [hlength, Header.mnemonic, List.append_assoc]
  show (payload value ++ checksum _ _).take (payload value).length = payload value
  exact List.take_left

theorem slip39DataForWords_payload {value : List UInt8} (heven : value.length % 2 = 0)
    (hsize : value.length ≤ 32) : slip39DataForWords (payload value) 32 = .ok value :=
  slip39DataForWords_of_value heven payload_spec.2.1 payload_spec.1
    (by rw [payload_spec.1, slip39ByteCountForWords, slip39WordCountForBytes, radixBits]; omega)
    payload_spec.2.2

/-- **What the firmware makes of a mnemonic.** It reads it as it was written, but for
the number of groups, of which it sees the last two bits. -/
theorem decodeMnemonics_mnemonic (h : Header) {value : List UInt8} (heven : value.length % 2 = 0)
    (hsize : value.length ≤ 32) :
    decodeMnemonics (h.mnemonic value)
      = if (h.groupCount - 1) % 4 + 1 < h.groupThreshold then .error slip39InvalidGroupThreshold
        else .ok { h.shared value with groupCount := (h.groupCount - 1) % 4 + 1 } := by
  have h1 := h.identifier_lt
  have h2 := h.iteration_lt
  have h3 := h.groupIndex_lt
  have h4 := h.groupThreshold_pos
  have h5 := h.groupThreshold_le
  have h6 := h.groupCount_le
  have h7 := h.memberIndex_lt
  have h8 := h.memberThreshold_pos
  have h9 := h.memberThreshold_le
  have h10 := h.extendable.toNat_le
  have hw0 : (h.mnemonic value).getD 0 0 = h.identifier / 32 := rfl
  have hw1 : (h.mnemonic value).getD 1 0
      = h.identifier % 32 * 32 + h.extendable.toNat * 16 + h.iteration := rfl
  have hw2 : (h.mnemonic value).getD 2 0
      = h.groupIndex * 64 + (h.groupThreshold - 1) * 4 + (h.groupCount - 1) / 4 := rfl
  have hw3 : (h.mnemonic value).getD 3 0
      = (h.groupCount - 1) % 4 * 256 + h.memberIndex * 16 + (h.memberThreshold - 1) := rfl
  have h0x3 : ∀ n, n &&& 0x3 = n % 4 := and_mask 2
  have hflag : (((h.mnemonic value).getD 1 0 >>> 4) &&& 0x01 == 1) = h.extendable := by
    rw [hw1, Nat.and_one_is_mod, shiftRight_eq_div_pow]
    cases h.extendable with
    | true => exact beq_iff_eq.mpr (by show _ / 2 ^ 4 % 2 = 1; rw [Bool.toNat_true]; omega)
    | false => exact beq_eq_false_iff_ne.mpr (by rw [Bool.toNat_false]; omega)
  have hgt : (((h.mnemonic value).getD 2 0 >>> 2) &&& 0xF) + 1 = h.groupThreshold := by
    rw [hw2, and_0xF, shiftRight_eq_div_pow]
    omega
  have hgc : (((((h.mnemonic value).getD 2 0 &&& 0x3) <<< 8)
      ||| (((h.mnemonic value).getD 3 0 >>> 8) &&& 0x3)) + 1) % 256
      = (h.groupCount - 1) % 4 + 1 := by
    rw [h0x3, h0x3, shiftLeft_or (by omega), hw2, hw3, shiftRight_eq_div_pow]
    omega
  rw [decodeMnemonics]
  simp only [hflag, rs1024VerifyChecksum_mnemonic, Bool.not_true, Bool.false_eq_true, if_false, hgt,
    hgc, payload_of_mnemonic, slip39DataForWords_payload heven hsize]
  split
  · rfl
  · refine congrArg Except.ok ?_
    simp only [Header.shared, Slip39Shared.mk.injEq, true_and, and_true]
    refine ⟨?_, ?_, ?_, ?_, ?_⟩
    · rw [hw0, hw1, shiftRight_eq_div_pow, shiftLeft_or (by omega)]
      omega
    · rw [hw1, and_0xF]
      omega
    · rw [hw2, shiftRight_eq_div_pow]
      omega
    · rw [hw3, and_0xF, shiftRight_eq_div_pow]
      omega
    · rw [hw3, and_0xF]
      omega

theorem decodeMnemonics_words (s : Share) :
    decodeMnemonics s.words
      = if (s.groupCount - 1) % 4 + 1 < s.groupThreshold then .error slip39InvalidGroupThreshold
        else .ok s.decoded :=
  decodeMnemonics_mnemonic s.toHeader s.even s.length_le

/-- The firmware decodes the share: the two bits it sees of the number of groups
leave room for the threshold. -/
def Share.Readable (s : Share) : Prop := s.groupThreshold ≤ (s.groupCount - 1) % 4 + 1

instance (s : Share) : Decidable s.Readable := inferInstanceAs (Decidable (_ ≤ _))

theorem decodeMnemonics_readable {s : Share} (h : s.Readable) :
    decodeMnemonics s.words = .ok s.decoded := by
  rw [decodeMnemonics_words, if_neg (Nat.not_lt.mpr h)]

theorem decodeMnemonics_unreadable {s : Share} (h : ¬ s.Readable) :
    decodeMnemonics s.words = .error slip39InvalidGroupThreshold := by
  rw [decodeMnemonics_words, if_pos (Nat.not_le.mp h)]

theorem wordsRow_text (stack : Stack) {s : Share} {wordsCount : Nat}
    (hcount : s.words.length = wordsCount) (i : Nat) :
    wordsRow stack wordsCount i s.text = s.words := by
  subst hcount
  rw [wordsRow, Share.text, slip39WordsForStrings_slip39StringsForWords s.words_lt]
  refine List.ext_getElem (by rw [List.length_map, List.length_range]) fun k hk hk' => ?_
  rw [List.getElem_map, List.getElem_range, List.getD_eq_getElem?_getD,
    List.getElem?_eq_getElem hk', Option.getD_some]

theorem mapIdx_wordsRow_text (stack : Stack) {shares : List Share} {wordsCount : Nat}
    (hcount : ∀ s ∈ shares, s.words.length = wordsCount) :
    (shares.map Share.text).mapIdx (wordsRow stack wordsCount) = shares.map Share.words := by
  refine List.ext_getElem (by simp only [List.length_mapIdx, List.length_map]) fun i hi hi' => ?_
  rw [List.length_map] at hi'
  rw [List.getElem_mapIdx, List.getElem_map, List.getElem_map]
  exact wordsRow_text stack (hcount shares[i] (List.getElem_mem hi')) i

theorem decodeAll_words (shares : List Share) :
    decodeAll (shares.map Share.words)
      = if ∀ s ∈ shares, s.Readable then .ok (shares.map Share.decoded)
        else .error slip39InvalidGroupThreshold := by
  induction shares with
  | nil => rw [if_pos fun s hs => absurd hs List.not_mem_nil]; rfl
  | cons s shares ih =>
    rw [List.map_cons, decodeAll, ih]
    by_cases hs : s.Readable
    · rw [decodeMnemonics_readable hs]
      by_cases hrest : ∀ s' ∈ shares, s'.Readable
      · rw [if_pos hrest, if_pos (List.forall_mem_cons.mpr ⟨hs, hrest⟩)]
        rfl
      · rw [if_neg hrest, if_neg fun h => hrest (List.forall_mem_cons.mp h).2]
    · rw [decodeMnemonics_unreadable hs, if_neg fun h => hs (List.forall_mem_cons.mp h).1]

theorem slip39GetMasterSecret_text (sha : Sha256) (stack : Stack) {shares : List Share}
    {wordsCount : Nat} (hcount : ∀ s ∈ shares, s.words.length = wordsCount) :
    slip39GetMasterSecret sha stack wordsCount (shares.map Share.text)
      = if ∀ s ∈ shares, s.Readable then combineShards sha stack (shares.map Share.decoded)
        else .error slip39InvalidGroupThreshold := by
  rw [slip39GetMasterSecret, mapIdx_wordsRow_text stack hcount, decodeAll_words]
  by_cases h : ∀ s ∈ shares, s.Readable
  · rw [if_pos h, if_pos h]
  · rw [if_neg h, if_neg h]

end Keystone3.Slip39
