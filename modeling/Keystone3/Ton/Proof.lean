import Keystone3.Logic.Panic
import Keystone3.Ton.Transaction

/-!
# Proofs of an address

A proof that an address is one's own is the header `ton-proof-item-v2/`, the address,
the length of a domain, the domain, a time and a payload (`IsTonProof`).
`TonProof.parseHex` reads these fields from the places where they have to be. The header
is not compared, and the length of the domain is only compared with that of all bytes,
as a number of 32 bits: so bytes behind the end are asked for, which is a panic.
-/

namespace Keystone3.Ton

open Bytes (ofBe ofLe ofUtf8 toLe utf8)
open Logic (Outcome)
open Logic.Outcome (collect okOr ok_bind)

structure TonProof where
  domain : Text
  payload : Text
  address : Text
  rawMessage : Text

def proofHeader : List UInt8 := utf8 "ton-proof-item-v2/".toList

def cut (bytes : List UInt8) (start stop : Nat) : Outcome TonError (List UInt8) :=
  if start ≤ stop ∧ stop ≤ bytes.length then .ok ((bytes.drop start).take (stop - start))
  else .halted

/-- `String::from_utf8`. The text of the error is that of the library. -/
def proofText (bytes : List UInt8) : Outcome TonError Text :=
  okOr (.invalidProof "") (ofUtf8 bytes)

/-- A number of 32 bits, as a `usize`. -/
def usize (n : Nat) : Nat := n % 2 ^ 32

/-- The part of `parse_hex` behind the length of the domain. -/
def TonProof.parseFields (remaining : List UInt8) (domainLen : Nat) (address rawMessage : Text) :
    Outcome TonError TonProof := do
  let domainBytes ← cut remaining 40 (usize (40 + domainLen))
  let domain ← proofText domainBytes
  let _timestampBytes ← collect
    (fun i => Outcome.index remaining (usize (i + 40 + domainLen))) (List.range 8)
  let payloadBytes ← cut remaining (usize (48 + domainLen)) remaining.length
  let payload ← proofText payloadBytes
  pure { domain, payload, address, rawMessage }

/-- The length of the domain is an `i32` that is taken for a `usize`. -/
def TonProof.parseHex (serial : List UInt8) : Outcome TonError TonProof :=
  let headerLen := 18
  let minLen := headerLen + 4 + 32 + 4 + 8
  if serial.length < minLen then .error (.invalidProof "proof is too short")
  else
    let remaining := serial.drop headerLen
    let workchain := ofBe (remaining.take 4)
    let addressHashParts := (remaining.drop 4).take 32
    let address := (TonAddress.mk workchain addressHashParts).toBase64Url
    let domainLen := ofLe ((remaining.drop 36).take 4)
    if serial.length < usize (40 + domainLen) then .error (.invalidProof "proof is too short")
    else TonProof.parseFields remaining domainLen address (hexEncode serial)

def IsTonProof (serial : List UInt8) (proof : TonProof) : Prop :=
  ∃ workchain hashPart timestamp : List UInt8,
    workchain.length = 4 ∧ hashPart.length = 32 ∧ timestamp.length = 8 ∧
    (utf8 proof.domain).length < 2 ^ 31 ∧
    serial = proofHeader ++ workchain ++ hashPart ++ toLe 4 (utf8 proof.domain).length
      ++ utf8 proof.domain ++ timestamp ++ utf8 proof.payload ∧
    proof.address = (TonAddress.mk (ofBe workchain) hashPart).toBase64Url ∧
    proof.rawMessage = hexEncode serial

def domainLength (serial : List UInt8) : Nat := ofLe ((serial.drop 54).take 4)

def domainBytes (serial : List UInt8) : List UInt8 := (serial.drop 58).take (domainLength serial)

def payloadBytes (serial : List UInt8) : List UInt8 := serial.drop (66 + domainLength serial)

/-- Bytes that are refused for a reason, or that are a proof. -/
inductive SoundProof (serial : List UInt8) : Prop where
  | tooShort (h : serial.length < 66)
  | negativeLength (h : 2 ^ 31 ≤ domainLength serial) (hwraps : domainLength serial < 2 ^ 32 - 40)
  | domainTooLong (h : domainLength serial < 2 ^ 31)
    (hlength : serial.length < 40 + domainLength serial)
  | domainNotText (h : domainLength serial < 2 ^ 31)
    (hlength : 58 + domainLength serial ≤ serial.length) (htext : ofUtf8 (domainBytes serial) = none)
  | payloadNotText (h : domainLength serial < 2 ^ 31)
    (hlength : 66 + domainLength serial ≤ serial.length)
    (htext : ofUtf8 (payloadBytes serial) = none)
  | header (h : domainLength serial < 2 ^ 31)
    (hlength : 66 + domainLength serial ≤ serial.length) (hheader : serial.take 18 = proofHeader)

/-- No panic, and a result exactly for the bytes of a proof. -/
structure ParsesProofs (serial : List UInt8) : Prop where
  returns : Outcome.Returns (TonProof.parseHex serial)
  ok_iff : ∀ proof, TonProof.parseHex serial = .ok proof ↔ IsTonProof serial proof

theorem cut_eq {bytes : List UInt8} {start stop : Nat} (hstart : start ≤ stop)
    (hstop : stop ≤ bytes.length) : cut bytes start stop = .ok ((bytes.drop start).take (stop - start)) :=
  if_pos ⟨hstart, hstop⟩

theorem cut_halted {bytes : List UInt8} {start stop : Nat}
    (h : stop < start ∨ bytes.length < stop) : cut bytes start stop = .halted :=
  if_neg (by omega)

theorem usize_eq {n : Nat} (h : n < 2 ^ 32) : usize n = n := Nat.mod_eq_of_lt h

theorem drop_eq_append (bytes : List UInt8) (start n : Nat) :
    bytes.drop start = (bytes.drop start).take n ++ bytes.drop (start + n) := by
  rw [← List.drop_drop, List.take_append_drop]

section

variable {serial : List UInt8}

theorem domainLength_lt (serial : List UInt8) : domainLength serial < 2 ^ 32 := by
  have hlt := Bytes.ofLe_lt ((serial.drop 54).take 4)
  have hle : ((serial.drop 54).take 4).length ≤ 4 := by
    rw [List.length_take]
    exact Nat.min_le_left _ _
  calc domainLength serial < 256 ^ ((serial.drop 54).take 4).length := hlt
    _ ≤ 256 ^ 4 := Nat.pow_le_pow_right (by omega) hle
    _ = 2 ^ 32 := rfl

def proofAddress (serial : List UInt8) : Text :=
  (TonAddress.mk (ofBe ((serial.drop 18).take 4)) ((serial.drop 22).take 32)).toBase64Url

theorem parseHex_short (h : serial.length < 66) :
    TonProof.parseHex serial = .error (.invalidProof "proof is too short") :=
  if_pos h

theorem parseHex_eq (h : 66 ≤ serial.length) : TonProof.parseHex serial =
    if serial.length < usize (40 + domainLength serial) then
      .error (.invalidProof "proof is too short")
    else TonProof.parseFields (serial.drop 18) (domainLength serial) (proofAddress serial)
      (hexEncode serial) := by
  unfold TonProof.parseHex
  rw [if_neg (by omega)]
  simp only [List.drop_drop]
  rfl

theorem parseHex_wraps (h : 66 ≤ serial.length) (hwraps : 2 ^ 32 - 40 ≤ domainLength serial) :
    TonProof.parseHex serial = .halted := by
  have hlt := domainLength_lt serial
  have hend : usize (40 + domainLength serial) < 40 := by
    unfold usize
    omega
  rw [parseHex_eq h, if_neg (by omega), TonProof.parseFields, cut_halted (.inl hend)]
  rfl

theorem parseHex_tooLong (h : 66 ≤ serial.length)
    (hlength : serial.length < 40 + domainLength serial)
    (hwraps : domainLength serial < 2 ^ 32 - 40) :
    TonProof.parseHex serial = .error (.invalidProof "proof is too short") := by
  rw [parseHex_eq h, usize_eq (by omega), if_pos hlength]

theorem parseHex_cut (h : 66 ≤ serial.length) (hsize : serial.length < 2 ^ 31)
    (hlength : 40 + domainLength serial ≤ serial.length)
    (hcut : serial.length < 58 + domainLength serial) : TonProof.parseHex serial = .halted := by
  have hbehind : (serial.drop 18).length < 40 + domainLength serial := by
    rw [List.length_drop]
    omega
  rw [parseHex_eq h, usize_eq (by omega), if_neg (by omega), TonProof.parseFields,
    usize_eq (by omega), cut_halted (.inr hbehind)]
  rfl

theorem parseHex_domain (h : 66 ≤ serial.length) (hsize : serial.length < 2 ^ 31)
    (hlength : 58 + domainLength serial ≤ serial.length) : TonProof.parseHex serial =
      (proofText (domainBytes serial) >>= fun domain =>
        collect (fun i => Outcome.index (serial.drop 18) (usize (i + 40 + domainLength serial)))
          (List.range 8) >>= fun _ =>
        cut (serial.drop 18) (usize (48 + domainLength serial)) (serial.drop 18).length >>=
          fun bytes => proofText bytes >>= fun payload =>
        pure ⟨domain, payload, proofAddress serial, hexEncode serial⟩) := by
  have hwithin : 40 + domainLength serial ≤ (serial.drop 18).length := by
    rw [List.length_drop]
    omega
  rw [parseHex_eq h, usize_eq (by omega : 40 + domainLength serial < 2 ^ 32), if_neg (by omega),
    TonProof.parseFields, usize_eq (by omega : 40 + domainLength serial < 2 ^ 32),
    cut_eq (by omega) hwithin, List.drop_drop, Nat.add_sub_cancel_left]
  rfl

theorem parseHex_noTime (h : 66 ≤ serial.length) (hsize : serial.length < 2 ^ 31)
    (hlength : 58 + domainLength serial ≤ serial.length)
    (htime : serial.length < 66 + domainLength serial) {domain : Text}
    (hdomain : ofUtf8 (domainBytes serial) = some domain) : TonProof.parseHex serial = .halted := by
  have hbehind : ¬Outcome.Returns (@collect TonError _ _
      (fun i => Outcome.index (serial.drop 18) (usize (i + 40 + domainLength serial)))
      (List.range 8)) := by
    rw [Outcome.returns_collect_iff fun i _ => Outcome.not_fails_index]
    intro hall
    have hlast := Outcome.returns_index.mp (hall 7 (List.mem_range.mpr (by omega)))
    rw [usize_eq (by omega), List.length_drop] at hlast
    omega
  rw [parseHex_domain h hsize hlength, proofText, hdomain, okOr, ok_bind, of_not_not hbehind]
  rfl

theorem parseHex_payload (hsize : serial.length < 2 ^ 31)
    (hlength : 66 + domainLength serial ≤ serial.length) {domain : Text}
    (hdomain : ofUtf8 (domainBytes serial) = some domain) : TonProof.parseHex serial =
      (proofText (payloadBytes serial) >>= fun payload =>
        pure ⟨domain, payload, proofAddress serial, hexEncode serial⟩) := by
  have hindex : ∀ i ∈ List.range 8, Outcome.ValueIff (@Outcome.index TonError _
      (serial.drop 18) (usize (i + 40 + domainLength serial))) True := by
    intro i hi
    have hi := List.mem_range.mp hi
    refine (Outcome.valueIff_index _ _).congr (iff_true_intro ?_)
    rw [usize_eq (by omega), List.length_drop]
    omega
  obtain ⟨timestampBytes, htimestamp⟩ :=
    (Outcome.ValueIff.collect hindex).exists_ok fun _ _ => trivial
  have hpayload : 48 + domainLength serial ≤ (serial.drop 18).length := by
    rw [List.length_drop]
    omega
  have hrest : ((serial.drop (18 + (48 + domainLength serial))).take
      ((serial.drop 18).length - (48 + domainLength serial))) = payloadBytes serial := by
    rw [payloadBytes, ← Nat.add_assoc]
    refine List.take_of_length_le ?_
    rw [List.length_drop, List.length_drop]
    omega
  rw [parseHex_domain (by omega) hsize (by omega), proofText, hdomain, okOr,
    ok_bind, htimestamp, ok_bind, usize_eq (by omega), cut_eq hpayload (Nat.le_refl _),
    ok_bind, List.drop_drop, hrest]

theorem drop_add_of_eq_append {bytes part rest : List UInt8} {start n : Nat}
    (h : bytes.drop start = part ++ rest) (hn : part.length = n) :
    bytes.drop (start + n) = rest ∧ (bytes.drop start).take n = part := by
  rw [← List.drop_drop, h]
  exact ⟨List.drop_left' hn, List.take_left' hn⟩

theorem isTonProof_iff {proof : TonProof} : IsTonProof serial proof ↔
    serial.take 18 = proofHeader ∧ domainLength serial < 2 ^ 31 ∧
      66 + domainLength serial ≤ serial.length ∧
      ofUtf8 (domainBytes serial) = some proof.domain ∧
      ofUtf8 (payloadBytes serial) = some proof.payload ∧
      proof.address = proofAddress serial ∧ proof.rawMessage = hexEncode serial := by
  constructor
  · rintro ⟨workchain, hashPart, timestamp, hworkchain, hhash, htime, hdomain, hserial, haddress,
      hraw⟩
    simp only [List.append_assoc] at hserial
    have hlength := congrArg List.length hserial
    simp only [List.length_append, Bytes.length_toLe, hworkchain, hhash, htime] at hlength
    have hheaderLength : proofHeader.length = 18 := rfl
    -- The parts lie one behind the other.
    obtain ⟨h18, hheader⟩ := @drop_add_of_eq_append serial _ _ 0 18 hserial hheaderLength
    obtain ⟨h22, hworkchain'⟩ := drop_add_of_eq_append h18 hworkchain
    obtain ⟨h54, hhash'⟩ := drop_add_of_eq_append h22 hhash
    obtain ⟨h58, hlen⟩ := drop_add_of_eq_append h54 (Bytes.length_toLe 4 _)
    have hD : domainLength serial = (utf8 proof.domain).length := by
      have hvalue := Bytes.ofLe_toLe 4 (utf8 proof.domain).length (by omega)
      rw [← hlen] at hvalue
      exact hvalue
    obtain ⟨h58D, hdomain'⟩ := drop_add_of_eq_append h58 hD.symm
    obtain ⟨h66D, -⟩ := drop_add_of_eq_append h58D htime
    have hpayload : payloadBytes serial = utf8 proof.payload := by
      rw [← h66D, payloadBytes]
      congr 1
      omega
    refine ⟨hheader, by omega, by omega, ?_, ?_, ?_, hraw⟩
    · rw [show domainBytes serial = utf8 proof.domain from hdomain']
      exact Bytes.ofUtf8_utf8 _
    · rw [hpayload]
      exact Bytes.ofUtf8_utf8 _
    · rw [haddress, ← hworkchain', ← hhash']
      rfl
  · rintro ⟨hheader, hD, hlength, hdomain, hpayload, haddress, hraw⟩
    have htake : ∀ start n, start + n ≤ serial.length →
        ((serial.drop start).take n).length = n := by
      intro start n hle
      rw [List.length_take, List.length_drop]
      omega
    have hdomainBytes := Bytes.utf8_of_ofUtf8 hdomain
    have hpayloadBytes := Bytes.utf8_of_ofUtf8 hpayload
    have hdomainLength : (utf8 proof.domain).length = domainLength serial := by
      rw [hdomainBytes]
      exact htake 58 _ (by omega)
    have hlen : toLe 4 (domainLength serial) = (serial.drop 54).take 4 := by
      have hbytes := Bytes.toLe_ofLe ((serial.drop 54).take 4)
      rwa [htake 54 4 (by omega)] at hbytes
    refine ⟨(serial.drop 18).take 4, (serial.drop 22).take 32,
      (serial.drop (58 + domainLength serial)).take 8, htake 18 4 (by omega),
      htake 22 32 (by omega), htake _ 8 (by omega), by omega, ?_, haddress, hraw⟩
    rw [hdomainLength, hlen, hdomainBytes, hpayloadBytes, ← hheader]
    simp only [List.append_assoc]
    -- Each part and what is behind it are the bytes from its place on.
    have h58D : serial.drop (58 + domainLength serial)
        = (serial.drop (58 + domainLength serial)).take 8 ++ payloadBytes serial := by
      rw [payloadBytes, show 66 + domainLength serial = 58 + domainLength serial + 8 by omega]
      exact drop_eq_append serial _ 8
    have h58 := drop_eq_append serial 58 (domainLength serial)
    have h54 := drop_eq_append serial 54 4
    have h22 := drop_eq_append serial 22 32
    have h18 := drop_eq_append serial 18 4
    rw [domainBytes, ← h58D, ← h58, ← h54, ← h22, ← h18]
    exact (List.take_append_drop 18 serial).symm

theorem parseHex_eq_ok_iff (hsize : serial.length < 2 ^ 31)
    (hlength : 66 + domainLength serial ≤ serial.length) {proof : TonProof} :
    TonProof.parseHex serial = .ok proof ↔
      ofUtf8 (domainBytes serial) = some proof.domain ∧
      ofUtf8 (payloadBytes serial) = some proof.payload ∧
      proof.address = proofAddress serial ∧ proof.rawMessage = hexEncode serial := by
  cases hdomain : ofUtf8 (domainBytes serial) with
  | none =>
    rw [parseHex_domain (by omega) hsize (by omega), proofText, hdomain]
    exact iff_of_false nofun nofun
  | some domain =>
    rw [parseHex_payload hsize hlength hdomain]
    cases hpayload : ofUtf8 (payloadBytes serial) with
    | none =>
      rw [proofText, hpayload]
      exact iff_of_false nofun nofun
    | some payload =>
      rw [proofText, hpayload]
      constructor
      · intro h
        cases h
        exact ⟨rfl, rfl, rfl, rfl⟩
      · rintro ⟨hd, hp, ha, hr⟩
        cases proof
        cases hd
        cases hp
        cases ha
        cases hr
        rfl

theorem parseHex_returns (hsize : serial.length < 2 ^ 31)
    (hlength : 66 + domainLength serial ≤ serial.length) :
    Outcome.Returns (TonProof.parseHex serial) := by
  cases hdomain : ofUtf8 (domainBytes serial) with
  | none =>
    rw [parseHex_domain (by omega) hsize (by omega), proofText, hdomain]
    exact Outcome.returns_error _
  | some domain =>
    rw [parseHex_payload hsize hlength hdomain]
    exact (Outcome.returns_okOr _ _).bind fun _ _ => Outcome.returns_ok _

theorem parsesProofs_of_error {e : TonError} (h : TonProof.parseHex serial = .error e)
    (hnot : ∀ proof, ¬IsTonProof serial proof) : ParsesProofs serial := by
  refine ⟨h ▸ Outcome.returns_error e, fun proof => iff_of_false ?_ (hnot proof)⟩
  rw [h]
  exact nofun

theorem not_parsesProofs_of_halted (h : TonProof.parseHex serial = .halted) :
    ¬ParsesProofs serial :=
  fun hparses => hparses.returns h

theorem parsesProofs_iff_of_le (hsize : serial.length < 2 ^ 31)
    (hlength : 66 + domainLength serial ≤ serial.length) : ParsesProofs serial ↔
      ofUtf8 (domainBytes serial) = none ∨ ofUtf8 (payloadBytes serial) = none ∨
        serial.take 18 = proofHeader := by
  constructor
  · intro hparses
    cases hdomain : ofUtf8 (domainBytes serial) with
    | none => exact .inl rfl
    | some domain =>
      cases hpayload : ofUtf8 (payloadBytes serial) with
      | none => exact .inr (.inl rfl)
      | some payload =>
        -- The bytes are accepted, and only those of a proof may be.
        have hok : TonProof.parseHex serial
            = .ok ⟨domain, payload, proofAddress serial, hexEncode serial⟩ :=
          (parseHex_eq_ok_iff hsize hlength).mpr ⟨hdomain, hpayload, rfl, rfl⟩
        exact .inr (.inr (isTonProof_iff.mp ((hparses.ok_iff _).mp hok)).1)
  · intro h
    refine ⟨parseHex_returns hsize hlength, fun proof => ?_⟩
    rw [parseHex_eq_ok_iff hsize hlength, isTonProof_iff]
    constructor
    · intro hfields
      have hheader : serial.take 18 = proofHeader := by
        rcases h with hdomain | hpayload | hheader
        · cases hdomain.symm.trans hfields.1
        · cases hpayload.symm.trans hfields.2.1
        · exact hheader
      exact ⟨hheader, by omega, hlength, hfields⟩
    · rintro ⟨-, -, -, hfields⟩
      exact hfields

theorem parsesProofs_iff (hsize : serial.length < 2 ^ 31) :
    ParsesProofs serial ↔ SoundProof serial := by
  have hnot (h : serial.length < 66 + domainLength serial ∨ 2 ^ 31 ≤ domainLength serial) :
      ∀ proof, ¬IsTonProof serial proof := by
    intro proof hproof
    have hfields := isTonProof_iff.mp hproof
    omega
  by_cases hshort : serial.length < 66
  · refine iff_of_true (parsesProofs_of_error (parseHex_short hshort) ?_) (.tooShort hshort)
    exact hnot (.inl (by omega))
  have hlong := Nat.not_lt.mp hshort
  by_cases hD : 2 ^ 31 ≤ domainLength serial
  · by_cases hwraps : domainLength serial < 2 ^ 32 - 40
    · refine iff_of_true (parsesProofs_of_error (parseHex_tooLong hlong (by omega) hwraps) ?_)
        (.negativeLength hD hwraps)
      exact hnot (.inr hD)
    · refine iff_of_false (not_parsesProofs_of_halted (parseHex_wraps hlong (by omega))) ?_
      intro hsound
      cases hsound <;> omega
  have hpos := Nat.not_le.mp hD
  by_cases hfar : serial.length < 40 + domainLength serial
  · refine iff_of_true (parsesProofs_of_error (parseHex_tooLong hlong hfar (by omega)) ?_)
      (.domainTooLong hpos hfar)
    exact hnot (.inl (by omega))
  by_cases hcut : serial.length < 58 + domainLength serial
  · refine iff_of_false (not_parsesProofs_of_halted (parseHex_cut hlong hsize (by omega) hcut)) ?_
    intro hsound
    cases hsound <;> omega
  by_cases htime : serial.length < 66 + domainLength serial
  · -- The domain is there, and not all of the time.
    cases hdomain : ofUtf8 (domainBytes serial) with
    | none =>
      refine iff_of_true (parsesProofs_of_error (e := .invalidProof "") ?_ (hnot (.inl htime)))
        (.domainNotText hpos (by omega) hdomain)
      rw [parseHex_domain hlong hsize (by omega), proofText, hdomain]
      rfl
    | some domain =>
      refine iff_of_false (not_parsesProofs_of_halted
        (parseHex_noTime hlong hsize (by omega) htime hdomain)) ?_
      intro hsound
      cases hsound with
      | domainNotText _ _ htext => cases htext.symm.trans hdomain
      | _ => omega
  · have hlength := Nat.not_lt.mp htime
    rw [parsesProofs_iff_of_le hsize hlength]
    constructor
    · rintro (hdomain | hpayload | hheader)
      · exact .domainNotText hpos (by omega) hdomain
      · exact .payloadNotText hpos hlength hpayload
      · exact .header hpos hlength hheader
    · intro hsound
      cases hsound with
      | domainNotText _ _ htext => exact .inl htext
      | payloadNotText _ _ htext => exact .inr (.inl htext)
      | header _ _ hheader => exact .inr (.inr hheader)
      | _ => omega

end

end Keystone3.Ton
