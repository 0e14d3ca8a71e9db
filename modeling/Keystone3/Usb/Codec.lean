import Keystone3.Bytes.Block
import Keystone3.Bytes.Crc

/-!
# The frames of the internal protocol

A frame is a head of ten bytes, a list of TLVs and a CRC-32. `buildFrame` makes one in a
buffer whose size it works out beforehand (`getFrameTotalLength`), and `encodeTlv`
writes each TLV where the last one ended; a length above 127 takes two bytes, the first
with its top bit set.
-/

namespace Keystone3

open Bytes (Block toLe ofLe ofLe_toLe length_toLe crc32Ieee)
open List (append_assoc flatMap_cons length_append length_cons length_drop)

def PROTOCOL_MAX_LENGTH : Nat := 4500

def PROTOCOL_HEADER : UInt8 := 0x6B

def PROTOCOL_VERSION : UInt8 := 0

def frameHeadSize : Nat := 10

/-- The packed head of a frame. `flag` is the two bits `ack` and `isHost` as the
`u16` they are packed in. -/
structure FrameHead where
  head : UInt8
  protocolVersion : UInt8
  packetIndex : UInt16
  serviceId : UInt8
  commandId : UInt8
  flag : UInt16
  length : UInt16
deriving DecidableEq

namespace FrameHead

def bytes (h : FrameHead) : List UInt8 :=
  [h.head, h.protocolVersion] ++ toLe 2 h.packetIndex.toNat ++ [h.serviceId, h.commandId]
    ++ toLe 2 h.flag.toNat ++ toLe 2 h.length.toNat

def ofBytes (bs : List UInt8) : FrameHead where
  head := bs.getD 0 0
  protocolVersion := bs.getD 1 0
  packetIndex := UInt16.ofNat (ofLe ((bs.drop 2).take 2))
  serviceId := bs.getD 4 0
  commandId := bs.getD 5 0
  flag := UInt16.ofNat (ofLe ((bs.drop 6).take 2))
  length := UInt16.ofNat (ofLe ((bs.drop 8).take 2))

@[simp] theorem length_bytes (h : FrameHead) : h.bytes.length = frameHeadSize := rfl

private theorem ofLe_toLe_u16 (x : UInt16) : UInt16.ofNat (ofLe (toLe 2 x.toNat)) = x := by
  rw [ofLe_toLe 2 x.toNat x.toNat_lt]
  exact UInt16.ofNat_toNat

/-- **The head is read back from the bytes it is written as.** -/
theorem ofBytes_bytes (h : FrameHead) (rest : List UInt8) : ofBytes (h.bytes ++ rest) = h := by
  have hindex := ofLe_toLe_u16 h.packetIndex
  have hflag := ofLe_toLe_u16 h.flag
  have hlength := ofLe_toLe_u16 h.length
  calc ofBytes (h.bytes ++ rest)
      = { h with
          packetIndex := UInt16.ofNat (ofLe (toLe 2 h.packetIndex.toNat))
          flag := UInt16.ofNat (ofLe (toLe 2 h.flag.toNat))
          length := UInt16.ofNat (ofLe (toLe 2 h.length.toNat)) } := rfl
    _ = h := by rw [hindex, hflag, hlength]

end FrameHead

/-- A type, a length and a value. `pValue` is what the pointer points at, with
`none` for `NULL`, when the value is in `value`. -/
structure Tlv where
  type : UInt8
  length : UInt16
  pValue : Option (List UInt8)
  value : UInt32

namespace Tlv

/-- Where the encoder copies the value from: behind the pointer, or the four
bytes of `value`. -/
def memory (t : Tlv) : List UInt8 :=
  match t.pValue with
  | none => toLe 4 t.value.toNat
  | some bs => bs

/-- The value, `length` bytes of it. -/
def contents (t : Tlv) : List UInt8 := t.memory.take t.length.toNat

def Readable (t : Tlv) : Prop := t.length.toNat ≤ t.memory.length

instance (t : Tlv) : Decidable t.Readable := inferInstanceAs (Decidable (_ ≤ _))

theorem length_contents {t : Tlv} (h : t.Readable) : t.contents.length = t.length.toNat := by
  unfold contents
  rw [List.length_take]
  exact Nat.min_eq_left h

end Tlv

def lengthSize (length : UInt16) : Nat := if length > 127 then 2 else 1

def getFrameTotalLength (tlvArray : List Tlv) : Nat :=
  tlvArray.foldl (fun totalLen t => totalLen + 1 + lengthSize t.length + t.length.toNat)
    (frameHeadSize + 4)

/-- A copy into the buffer at `index`. There is none past the end of it. -/
def memcpy {n : Nat} (buffer : Block n) (index : Nat) (bs : List UInt8) : Option (Block n) :=
  if h : index + bs.length ≤ n then
    some ⟨buffer.bytes.take index ++ bs ++ buffer.bytes.drop (index + bs.length), by
      rw [length_append, length_append, List.length_take, length_drop, buffer.size_eq]
      omega⟩
  else none

/-- The length field: one byte up to 127, else the high byte with its top bit
set and the low byte. -/
def lengthBytes (length : UInt16) : List UInt8 :=
  if length > 127 then
    [UInt8.ofNat (0x80 ||| length.toNat >>> 8), UInt8.ofNat (length.toNat &&& 0xFF)]
  else [UInt8.ofNat length.toNat]

/-- Encode one TLV into the buffer at `index`. `none` is a failed assertion, or a
copy that leaves the buffer or what `pValue` points at. -/
def encodeTlv {n : Nat} (buffer : Block n) (index : Nat) (tlv : Tlv) :
    Option (Block n × Nat) := do
  let buffer ← memcpy buffer index [tlv.type]
  let buffer ← memcpy buffer (index + 1) (lengthBytes tlv.length)
  let index := index + 1 + lengthSize tlv.length
  guard (tlv.length ≤ 0x7FFF)
  -- `assert(tlv.length <= 4)` for a value of its own; behind a pointer there must be as much
  guard tlv.Readable
  let buffer ← memcpy buffer index tlv.contents
  return (buffer, index + tlv.length.toNat)

def encodeTlvs {n : Nat} (buffer : Block n) (index : Nat) : List Tlv → Option (Block n × Nat)
  | [] => some (buffer, index)
  | tlv :: tlvArray => do
    let (buffer, index) ← encodeTlv buffer index tlv
    encodeTlvs buffer index tlvArray

/-- Build a frame in `sendData`, the buffer that was allocated for it. -/
def buildFrame (pHead : FrameHead) (tlvArray : List Tlv)
    (sendData : Block (getFrameTotalLength tlvArray)) :
    Option (Block (getFrameTotalLength tlvArray)) := do
  let totalLen := getFrameTotalLength tlvArray
  let pHead := { pHead with
    head := PROTOCOL_HEADER
    protocolVersion := PROTOCOL_VERSION
    length := UInt16.ofNat (totalLen - frameHeadSize - 4) }
  let sendData ← memcpy sendData 0 pHead.bytes
  let (sendData, index) ← encodeTlvs sendData frameHeadSize tlvArray
  let crc32Calc := crc32Ieee 0 (sendData.bytes.take (totalLen - 4))
  memcpy sendData index (toLe 4 crc32Calc.toNat)

def tlvHead : List UInt8 → Option (UInt8 × UInt16 × List UInt8)
  | [] | [_] => none
  | type :: l :: data =>
    if l > 127 then
      match data with
      | [] => none
      | low :: data => some (type, (l &&& 0x7F).toUInt16 <<< 8 + low.toUInt16, data)
    else some (type, l.toUInt16, data)

/-- Extract at most `maxTlvLen` TLVs from the data. Extraction ends before a TLV
whose value is empty or not all there. -/
def getTlvFromData : Nat → List UInt8 → List Tlv
  | 0, _ => []
  | maxTlvLen + 1, data =>
    match tlvHead data with
    | none => []
    | some (type, length, data) =>
      if data.length < length.toNat ∨ length = 0 then []
      else ⟨type, length, some (data.take length.toNat), 0⟩ ::
        getTlvFromData maxTlvLen (data.drop length.toNat)

/-- The checks on a received frame: its head, and the TLV data for the service,
when it passes them. (The version is checked twice in a row.) -/
def protocolParse (inData : List UInt8) : Option (FrameHead × List UInt8) :=
  if inData.length < frameHeadSize + 4 then none
  else
    let pHead := FrameHead.ofBytes inData
    if pHead.head ≠ PROTOCOL_HEADER then none
    else if pHead.protocolVersion ≠ 0 then none
    else if pHead.length.toNat + frameHeadSize + 4 ≠ inData.length then none
    else
      let receivedCrc := UInt32.ofNat (ofLe (inData.drop (inData.length - 4)))
      let calculatedCrc := crc32Ieee 0 (inData.take (inData.length - 4))
      if receivedCrc ≠ calculatedCrc then none
      else some (pHead, (inData.drop frameHeadSize).take pHead.length.toNat)

def Tlv.bytes (t : Tlv) : List UInt8 := t.type :: (lengthBytes t.length ++ t.contents)

/-- What the encoder asserts: the length fits fifteen bits, the value is there. -/
structure Tlv.Encodable (t : Tlv) : Prop where
  length_le : t.length ≤ 0x7FFF
  readable : t.Readable

theorem length_lengthBytes (length : UInt16) : (lengthBytes length).length = lengthSize length := by
  unfold lengthBytes lengthSize
  split <;> rfl

theorem Tlv.length_bytes {t : Tlv} (h : t.Readable) :
    t.bytes.length = 1 + lengthSize t.length + t.length.toNat := by
  unfold Tlv.bytes
  rw [length_cons, length_append, length_lengthBytes, Tlv.length_contents h]
  omega

theorem memcpy_writes {n : Nat} {buffer : Block n} {out : List UInt8} (index : Nat)
    (bs : List UInt8) (h : out <+: buffer.bytes) (hindex : index = out.length)
    (hfit : index + bs.length ≤ n) :
    ∃ b, memcpy buffer index bs = some b ∧ out ++ bs <+: b.bytes := by
  unfold memcpy
  rw [dif_pos hfit]
  refine ⟨_, rfl, ?_⟩
  show out ++ bs <+: buffer.bytes.take index ++ bs ++ buffer.bytes.drop (index + bs.length)
  rw [hindex, ← List.prefix_iff_eq_take.mp h]
  exact List.prefix_append _ _

private theorem guard_of {p : Prop} [Decidable p] (h : p) : (guard p : Option Unit) = some () :=
  if_pos h

theorem encodeTlv_writes {n index : Nat} {buffer : Block n} {out : List UInt8} {t : Tlv}
    (ht : t.Encodable) (h : out <+: buffer.bytes) (hindex : index = out.length)
    (hfit : index + t.bytes.length ≤ n) :
    ∃ b, encodeTlv buffer index t = some (b, index + t.bytes.length)
      ∧ out ++ t.bytes <+: b.bytes := by
  have hlen := Tlv.length_bytes ht.readable
  have hsize := length_lengthBytes t.length
  have hcontents := Tlv.length_contents ht.readable
  obtain ⟨b₁, h₁, hb₁⟩ := memcpy_writes index [t.type] h hindex
    (by rw [List.length_singleton]; omega)
  obtain ⟨b₂, h₂, hb₂⟩ := memcpy_writes (index + 1) (lengthBytes t.length) hb₁
    (by rw [length_append, List.length_singleton]; omega) (by omega)
  obtain ⟨b₃, h₃, hb₃⟩ := memcpy_writes (index + 1 + lengthSize t.length) t.contents hb₂
    (by simp only [length_append, List.length_singleton]; omega) (by omega)
  refine ⟨b₃, ?_, ?_⟩
  · unfold encodeTlv
    rw [guard_of ht.length_le, guard_of ht.readable]
    simp only [h₁, h₂, h₃, Option.bind_eq_bind, Option.bind_some, Option.pure_def]
    rw [hlen]
    congr 2
    omega
  · have hbytes : out ++ t.bytes = out ++ [t.type] ++ lengthBytes t.length ++ t.contents := by
      rw [append_assoc, append_assoc]
      rfl
    rw [hbytes]
    exact hb₃

/-- **The TLVs are written one behind the other.** Induction on the list. -/
theorem encodeTlvs_writes {n : Nat} : ∀ (tlvs : List Tlv) (index : Nat) {buffer : Block n}
    {out : List UInt8}, (∀ t ∈ tlvs, t.Encodable) → out <+: buffer.bytes → index = out.length →
    index + (tlvs.flatMap Tlv.bytes).length ≤ n →
    ∃ b, encodeTlvs buffer index tlvs = some (b, index + (tlvs.flatMap Tlv.bytes).length)
      ∧ out ++ tlvs.flatMap Tlv.bytes <+: b.bytes
  | [], index, buffer, out, _, h, _, _ => by
    refine ⟨buffer, rfl, ?_⟩
    rw [List.flatMap_nil, List.append_nil]
    exact h
  | t :: tlvs, index, buffer, out, ht, h, hindex, hfit => by
    rw [flatMap_cons, length_append] at hfit
    obtain ⟨b₁, h₁, hb₁⟩ := encodeTlv_writes (ht t (.head _)) h hindex (by omega)
    obtain ⟨b₂, h₂, hb₂⟩ := encodeTlvs_writes tlvs (index + t.bytes.length)
      (fun u hu => ht u (List.mem_cons_of_mem t hu)) hb₁
      (by rw [length_append, hindex]) (by omega)
    refine ⟨b₂, ?_, ?_⟩
    · unfold encodeTlvs
      simp only [h₁, h₂, Option.bind_eq_bind, Option.bind_some, flatMap_cons,
        length_append, Nat.add_assoc]
    · rw [flatMap_cons, ← append_assoc]
      exact hb₂

theorem getFrameTotalLength_eq {tlvs : List Tlv} (h : ∀ t ∈ tlvs, t.Encodable) :
    getFrameTotalLength tlvs = frameHeadSize + 4 + (tlvs.flatMap Tlv.bytes).length := by
  unfold getFrameTotalLength
  generalize frameHeadSize + 4 = start
  induction tlvs generalizing start with
  | nil => rfl
  | cons t tlvs ih =>
    have hlen := Tlv.length_bytes (h t (.head _)).readable
    rw [List.foldl_cons, ih (fun u hu => h u (List.mem_cons_of_mem t hu)), flatMap_cons,
      length_append]
    omega

theorem longLength_high {length : Nat} (h : length ≤ 0x7FFF) :
    (UInt8.ofNat (0x80 ||| length >>> 8)).toNat = 128 + length / 256 := by
  have hq : length / 256 < 2 ^ 7 := by omega
  have hor : 128 + length / 256 = 0x80 ||| length / 256 := Nat.two_pow_add_eq_or_of_lt hq 1
  have hshift : length >>> 8 = length / 256 := Nat.shiftRight_eq_div_pow length 8
  rw [UInt8.toNat_ofNat', hshift, ← hor]
  omega

theorem longLength_read {length : UInt16} (h : length.toNat ≤ 0x7FFF) :
    (UInt8.ofNat (0x80 ||| length.toNat >>> 8) &&& 0x7F).toUInt16 <<< 8
      + (UInt8.ofNat (length.toNat &&& 0xFF)).toUInt16 = length := by
  have hlow : (UInt8.ofNat (length.toNat &&& 0xFF)).toNat = length.toNat % 256 := by
    rw [UInt8.toNat_ofNat', show (0xFF : Nat) = 2 ^ 8 - 1 from rfl, Nat.and_two_pow_sub_one_eq_mod]
    omega
  have hhigh : (UInt8.ofNat (0x80 ||| length.toNat >>> 8) &&& 0x7F).toNat
      = length.toNat / 256 := by
    rw [UInt8.toNat_and, longLength_high h, show (0x7F : UInt8).toNat = 2 ^ 7 - 1 from rfl,
      Nat.and_two_pow_sub_one_eq_mod]
    omega
  apply UInt16.toNat_inj.mp
  rw [UInt16.toNat_add, UInt16.toNat_shiftLeft, UInt8.toNat_toUInt16, UInt8.toNat_toUInt16, hlow,
    hhigh, Nat.shiftLeft_eq, show (8 : UInt16).toNat % 16 = 8 from rfl]
  omega

theorem tlvHead_bytes {t : Tlv} (h : t.Encodable) (rest : List UInt8) :
    tlvHead (t.bytes ++ rest) = some (t.type, t.length, t.contents ++ rest) := by
  have hle : t.length.toNat ≤ 0x7FFF := UInt16.le_iff_toNat_le.mp h.length_le
  by_cases hlong : t.length > 127
  · have hbytes : t.bytes ++ rest = t.type :: UInt8.ofNat (0x80 ||| t.length.toNat >>> 8)
        :: UInt8.ofNat (t.length.toNat &&& 0xFF) :: (t.contents ++ rest) := by
      unfold Tlv.bytes lengthBytes
      rw [if_pos hlong]
      rfl
    have htop : UInt8.ofNat (0x80 ||| t.length.toNat >>> 8) > 127 := by
      apply UInt8.lt_iff_toNat_lt.mpr
      rw [longLength_high hle]
      have hgt : 127 < t.length.toNat := UInt16.lt_iff_toNat_lt.mp hlong
      show 127 < _
      omega
    rw [hbytes]
    unfold tlvHead
    simp only [if_pos htop]
    rw [longLength_read hle]
  · have hbytes : t.bytes ++ rest
        = t.type :: UInt8.ofNat t.length.toNat :: (t.contents ++ rest) := by
      unfold Tlv.bytes lengthBytes
      rw [if_neg hlong]
      rfl
    have hshort : t.length.toNat ≤ 127 :=
      Nat.le_of_not_lt fun hgt => hlong (UInt16.lt_iff_toNat_lt.mpr hgt)
    have hnat : (UInt8.ofNat t.length.toNat).toNat = t.length.toNat := by
      rw [UInt8.toNat_ofNat']
      omega
    have htop : ¬UInt8.ofNat t.length.toNat > 127 := by
      intro hgt
      have hlt := UInt8.lt_iff_toNat_lt.mp hgt
      rw [hnat] at hlt
      exact absurd hlt (Nat.not_lt_of_le hshort)
    have hlength : (UInt8.ofNat t.length.toNat).toUInt16 = t.length := by
      apply UInt16.toNat_inj.mp
      rw [UInt8.toNat_toUInt16, hnat]
    rw [hbytes]
    unfold tlvHead
    simp only [if_neg htop]
    rw [hlength]

def Tlv.received (t : Tlv) : Tlv := ⟨t.type, t.length, some t.contents, 0⟩

/-- **The decoder reads back the TLVs that were written.** -/
theorem getTlvFromData_bytes : ∀ {tlvs : List Tlv} {maxTlvLen : Nat},
    (∀ t ∈ tlvs, t.Encodable) → (∀ t ∈ tlvs, t.length ≠ 0) → tlvs.length ≤ maxTlvLen →
    getTlvFromData maxTlvLen (tlvs.flatMap Tlv.bytes) = tlvs.map Tlv.received
  | [], 0, _, _, _ => rfl
  | [], _ + 1, _, _, _ => rfl
  | t :: tlvs, maxTlvLen + 1, ht, hne, hmax => by
    have hlen := Tlv.length_contents (ht t (.head _)).readable
    have hcut : ¬((t.contents ++ tlvs.flatMap Tlv.bytes).length < t.length.toNat
        ∨ t.length = 0) := by
      rintro (hshort | hzero)
      · rw [length_append] at hshort
        omega
      · exact hne t (.head _) hzero
    unfold getTlvFromData
    rw [flatMap_cons, tlvHead_bytes (ht t (.head _))]
    simp only [if_neg hcut]
    rw [List.take_left' hlen, List.drop_left' hlen,
      getTlvFromData_bytes (fun u hu => ht u (List.mem_cons_of_mem t hu))
        (fun u hu => hne u (List.mem_cons_of_mem t hu)) (Nat.le_of_succ_le_succ hmax)]
    rfl

/-- A TLV in the data: `start` is the place that `pValue` points at. -/
structure TlvSpan where
  type : UInt8
  length : UInt16
  start : Nat

/-- The loop of `GetTlvFromData`, with its index. -/
def tlvSpans (data : List UInt8) (dataLen : UInt32) : Nat → UInt32 → List TlvSpan
  | 0, _ => []
  | maxTlvLen + 1, index =>
    if ¬index < dataLen then []
    else if index + 1 > dataLen then []
    else
      let type := data.getD index.toNat 0
      let index := index + 1
      if index + 1 > dataLen then []
      else
        let l := data.getD index.toNat 0
        if l > 127 ∧ index + 2 > dataLen then []
        else
          let length :=
            if l > 127 then (l &&& 0x7F).toUInt16 <<< 8 + (data.getD (index + 1).toNat 0).toUInt16
            else l.toUInt16
          let index := if l > 127 then index + 2 else index + 1
          if index + length.toUInt32 > dataLen ∨ length = 0 then []
          else
            ⟨type, length, index.toNat⟩ :: tlvSpans data dataLen maxTlvLen (index + length.toUInt32)

theorem tlvHead_short (type l : UInt8) (data : List UInt8) (h : ¬l > 127) :
    tlvHead (type :: l :: data) = some (type, l.toUInt16, data) := if_neg h

theorem tlvHead_long (type l low : UInt8) (data : List UInt8) (h : l > 127) :
    tlvHead (type :: l :: low :: data)
      = some (type, (l &&& 0x7F).toUInt16 <<< 8 + low.toUInt16, data) := if_pos h

theorem tlvHead_cut (type l : UInt8) (h : l > 127) : tlvHead [type, l] = none := if_pos h

theorem tlvLength_lt (l low : UInt8) :
    ((l &&& 0x7F).toUInt16 <<< 8 + low.toUInt16).toNat < 2 ^ 15 := by
  have hl : (l &&& 0x7F).toNat ≤ 0x7F := by
    rw [UInt8.toNat_and]
    exact Nat.and_le_right
  have hlow := low.toNat_lt
  rw [UInt16.toNat_add, UInt16.toNat_shiftLeft, UInt8.toNat_toUInt16, UInt8.toNat_toUInt16,
    Nat.shiftLeft_eq]
  show ((l &&& 0x7F).toNat * 2 ^ 8 % 2 ^ 16 + low.toNat) % 2 ^ 16 < _
  omega

/-- A round of the loop, where the index does not wrap: what `tlvHead` says of the rest of the
data. -/
theorem tlvSpans_succ {data : List UInt8} (hdata : data.length + 2 ^ 15 ≤ 2 ^ 32)
    (maxTlvLen : Nat) {index : UInt32} :
    tlvSpans data (UInt32.ofNat data.length) (maxTlvLen + 1) index
      = match tlvHead (data.drop index.toNat) with
        | none => []
        | some (type, length, rest) =>
          if rest.length < length.toNat ∨ length = 0 then []
          else ⟨type, length, data.length - rest.length⟩ ::
            tlvSpans data (UInt32.ofNat data.length) maxTlvLen
              (UInt32.ofNat (data.length - rest.length + length.toNat)) := by
  have hlen : (UInt32.ofNat data.length).toNat = data.length :=
    UInt32.toNat_ofNat_of_lt' (by rw [UInt32.size]; omega)
  have hadd : ∀ {a b : UInt32}, a.toNat + b.toNat < 2 ^ 32 → (a + b).toNat = a.toNat + b.toNat :=
    fun h => by rw [UInt32.toNat_add, Nat.mod_eq_of_lt h]
  have hone : (1 : UInt32).toNat = 1 := rfl
  have htwo : (2 : UInt32).toNat = 2 := rfl
  rw [tlvSpans]
  simp only [gt_iff_lt, UInt32.lt_iff_toNat_lt, hlen]
  match hdrop : data.drop index.toNat with
  | [] =>
    have hend := List.drop_eq_nil_iff.mp hdrop
    rw [if_pos (by omega)]
    rfl
  | [_] =>
    have hleft := congrArg List.length hdrop
    rw [length_drop, List.length_singleton] at hleft
    have hnext := @hadd index 1 (by omega)
    rw [if_neg (by omega), if_neg (by omega), if_pos (by rw [hadd (by omega)]; omega)]
    rfl
  | type :: l :: rest =>
    have hleft := congrArg List.length hdrop
    rw [length_drop, length_cons, length_cons] at hleft
    have hnext := @hadd index 1 (by omega)
    have hget : ∀ k, data.getD (index.toNat + k) 0 = (type :: l :: rest).getD k 0 := by
      intro k
      rw [List.getD_eq_getElem?_getD, ← List.getElem?_drop, hdrop, ← List.getD_eq_getElem?_getD]
    have htype : data.getD index.toNat 0 = type := hget 0
    have hl : data.getD (index + 1).toNat 0 = l := by
      rw [hnext]
      exact hget 1
    rw [if_neg (by omega), if_neg (by omega), if_neg (by rw [hadd (by omega)]; omega)]
    rw [hl, htype]
    -- behind the head, with the length and the rest of the data
    have hbody : ∀ (length : UInt16) (at_ : UInt32) (rest : List UInt8), length.toNat < 2 ^ 15 →
        at_.toNat + rest.length = data.length →
        (if data.length < (at_ + length.toUInt32).toNat ∨ length = 0 then []
          else (⟨type, length, at_.toNat⟩ : TlvSpan) ::
            tlvSpans data (UInt32.ofNat data.length) maxTlvLen (at_ + length.toUInt32))
          = if rest.length < length.toNat ∨ length = 0 then []
            else ⟨type, length, data.length - rest.length⟩ ::
              tlvSpans data (UInt32.ofNat data.length) maxTlvLen
                (UInt32.ofNat (data.length - rest.length + length.toNat)) := by
      intro length at_ rest hshort hat
      have hsum : (at_ + length.toUInt32).toNat = at_.toNat + length.toNat := by
        rw [hadd (by rw [UInt16.toNat_toUInt32]; omega), UInt16.toNat_toUInt32]
      have hstart : at_.toNat = data.length - rest.length := by omega
      have hindex : at_ + length.toUInt32
          = UInt32.ofNat (data.length - rest.length + length.toNat) := by
        rw [← hstart, ← hsum, UInt32.ofNat_toNat]
      have hiff : (data.length < at_.toNat + length.toNat ∨ length = 0)
          ↔ (rest.length < length.toNat ∨ length = 0) := or_congr_left (by omega)
      rw [hsum, hindex, ← hstart]
      simp only [hiff]
    by_cases hlong : 127 < l
    · have hsecond : (index + 1 + 2).toNat = index.toNat + 3 := by
        rw [hadd (by omega), hnext, htwo, hone]
      cases rest with
      | nil =>
        rw [List.length_nil] at hleft
        rw [if_pos ⟨hlong, by omega⟩, tlvHead_cut _ _ hlong]
      | cons low rest =>
        rw [length_cons] at hleft
        have hlow : data.getD (index + 1 + 1).toNat 0 = low := by
          rw [hadd (by omega), hnext]
          exact hget 2
        rw [if_neg (by omega), tlvHead_long _ _ _ _ hlong, hlow]
        simp only [if_pos hlong]
        exact hbody _ _ rest (tlvLength_lt l low) (by omega)
    · have hlength : l.toUInt16.toNat < 2 ^ 15 := by
        have := l.toNat_lt
        rw [UInt8.toNat_toUInt16]
        omega
      rw [if_neg (fun h => hlong h.1), tlvHead_short _ _ _ hlong]
      simp only [if_neg hlong]
      exact hbody _ _ rest hlength (by rw [hadd (by omega)]; omega)

/-- What follows a head is the rest of the data. -/
theorem tlvHead_eq_some {data rest : List UInt8} {type : UInt8} {length : UInt16}
    (h : tlvHead data = some (type, length, rest)) :
    rest.length < data.length ∧ rest = data.drop (data.length - rest.length) := by
  have hbehind : ∀ head : List UInt8, head ++ rest = data → head ≠ [] →
      rest.length < data.length ∧ rest = data.drop (data.length - rest.length) := by
    rintro head rfl hne
    have := List.length_pos_iff.mpr hne
    rw [length_append, Nat.add_sub_cancel, List.drop_left]
    exact ⟨by omega, rfl⟩
  match data with
  | [] | [_] => cases h
  | type' :: l :: data =>
    by_cases hlong : l > 127
    · match data with
      | [] => rw [tlvHead_cut _ _ hlong] at h; cases h
      | low :: data =>
        rw [tlvHead_long _ _ _ _ hlong] at h
        obtain ⟨-, -, rfl⟩ := by simpa only [Option.some.injEq, Prod.mk.injEq] using h
        exact hbehind [type', l, low] rfl (List.cons_ne_nil _ _)
    · rw [tlvHead_short _ _ _ hlong] at h
      obtain ⟨-, -, rfl⟩ := by simpa only [Option.some.injEq, Prod.mk.injEq] using h
      exact hbehind [type', l] rfl (List.cons_ne_nil _ _)

theorem tlvSpans_run {data : List UInt8} (hdata : data.length + 2 ^ 15 ≤ 2 ^ 32)
    (maxTlvLen : Nat) : ∀ {index : UInt32}, index.toNat ≤ data.length →
      let tlvs := tlvSpans data (UInt32.ofNat data.length) maxTlvLen index
      tlvs.length ≤ maxTlvLen
        ∧ (∀ t ∈ tlvs, index.toNat < t.start ∧ 0 < t.length.toNat
          ∧ t.start + t.length.toNat ≤ data.length)
        ∧ tlvs.Pairwise (fun t u => t.start + t.length.toNat < u.start)
        ∧ tlvs.map (fun t => (t.type, t.length, (data.drop t.start).take t.length.toNat))
          = (getTlvFromData maxTlvLen (data.drop index.toNat)).map
              fun t => (t.type, t.length, t.memory) := by
  induction maxTlvLen with
  | zero => exact fun _ => ⟨Nat.le_refl _, nofun, .nil, rfl⟩
  | succ maxTlvLen ih =>
    intro index hindex
    dsimp only
    rw [tlvSpans_succ hdata, getTlvFromData]
    match hhead : tlvHead (data.drop index.toNat) with
    | none => exact ⟨Nat.zero_le _, nofun, .nil, rfl⟩
    | some (type, length, rest) =>
      obtain ⟨hshort, hrest⟩ := tlvHead_eq_some hhead
      rw [length_drop] at hshort hrest
      rw [List.drop_drop, show index.toNat + (data.length - index.toNat - rest.length)
        = data.length - rest.length by omega] at hrest
      dsimp only
      by_cases hstop : rest.length < length.toNat ∨ length = 0
      · rw [if_pos hstop, if_pos hstop]
        exact ⟨Nat.zero_le _, nofun, .nil, rfl⟩
      · rw [if_neg hstop, if_neg hstop]
        obtain ⟨henough, hne⟩ := not_or.mp hstop
        have hpos : 0 < length.toNat := Nat.pos_of_ne_zero fun h => hne (UInt16.toNat_inj.mp h)
        have hnext : (UInt32.ofNat (data.length - rest.length + length.toNat)).toNat
            = data.length - rest.length + length.toNat :=
          UInt32.toNat_ofNat_of_lt' (by rw [UInt32.size]; omega)
        obtain ⟨hcount, hin, hapart, hsame⟩ := ih (by rw [hnext]; omega)
        rw [hnext] at hin hsame
        refine ⟨Nat.succ_le_succ hcount, ?_, ?_, ?_⟩
        · intro t ht
          rcases List.mem_cons.mp ht with rfl | ht
          · exact ⟨by dsimp only; omega, hpos, by dsimp only; omega⟩
          · have := hin t ht
            exact ⟨by omega, this.2⟩
        · exact List.pairwise_cons.mpr ⟨fun t ht => (hin t ht).1, hapart⟩
        · rw [List.map_cons, List.map_cons, hsame, ← List.drop_drop, ← hrest]
          rfl

/-- **The values lie in the data**, one behind the other, and are those of `getTlvFromData`. The
index does not wrap: a length has fifteen bits, and the callers' data at most the sixteen bits
of the length of a frame. -/
theorem tlvSpans_inside {data : List UInt8} (hdata : data.length + 2 ^ 15 ≤ 2 ^ 32)
    (maxTlvLen : Nat) :
    let tlvs := tlvSpans data (UInt32.ofNat data.length) maxTlvLen 0
    tlvs.length ≤ maxTlvLen
      ∧ (∀ t ∈ tlvs, 0 < t.length.toNat ∧ t.start + t.length.toNat ≤ data.length)
      ∧ tlvs.Pairwise (fun t u => t.start + t.length.toNat < u.start)
      ∧ tlvs.map (fun t => (t.type, t.length, (data.drop t.start).take t.length.toNat))
        = (getTlvFromData maxTlvLen data).map fun t => (t.type, t.length, t.memory) := by
  obtain ⟨hcount, hin, hapart, hsame⟩ :=
    @tlvSpans_run data hdata maxTlvLen 0 (Nat.zero_le _)
  exact ⟨hcount, fun t ht => (hin t ht).2, hapart, hsame⟩

/-- The second value is cut off. -/
theorem tlvSpans_inside_cut : (tlvSpans [1, 2, 7, 7, 2, 0x81, 0, 9] 8 5 0).length ≤ 5 :=
  (@tlvSpans_inside [1, 2, 7, 7, 2, 0x81, 0, 9] (by decide) 5).1

def sentHead (pHead : FrameHead) (length : Nat) : FrameHead :=
  { pHead with
    head := PROTOCOL_HEADER
    protocolVersion := PROTOCOL_VERSION
    length := UInt16.ofNat length }

def frameBody (pHead : FrameHead) (tlvs : List Tlv) : List UInt8 :=
  (sentHead pHead (tlvs.flatMap Tlv.bytes).length).bytes ++ tlvs.flatMap Tlv.bytes

theorem buildFrame_writes (pHead : FrameHead) {tlvs : List Tlv} (h : ∀ t ∈ tlvs, t.Encodable)
    (sendData : Block (getFrameTotalLength tlvs)) :
    ∃ frame, buildFrame pHead tlvs sendData = some frame
      ∧ frame.bytes = frameBody pHead tlvs
          ++ toLe 4 (crc32Ieee 0 (frameBody pHead tlvs)).toNat := by
  have htotal := getFrameTotalLength_eq h
  have hpayload : getFrameTotalLength tlvs - frameHeadSize - 4
      = (tlvs.flatMap Tlv.bytes).length := by omega
  obtain ⟨b₁, h₁, hb₁⟩ := memcpy_writes 0
    (sentHead pHead (tlvs.flatMap Tlv.bytes).length).bytes
    (show [] <+: sendData.bytes from List.nil_prefix) rfl (by rw [FrameHead.length_bytes]; omega)
  rw [List.nil_append] at hb₁
  obtain ⟨b₂, h₂, hb₂⟩ := encodeTlvs_writes tlvs frameHeadSize h hb₁ rfl (by omega)
  have hbody : (frameBody pHead tlvs).length = getFrameTotalLength tlvs - 4 := by
    unfold frameBody
    rw [length_append, FrameHead.length_bytes]
    omega
  have htake : b₂.bytes.take (getFrameTotalLength tlvs - 4) = frameBody pHead tlvs := by
    rw [← hbody]
    exact (List.prefix_iff_eq_take.mp hb₂).symm
  obtain ⟨b₃, h₃, hb₃⟩ := memcpy_writes
    (frameHeadSize + (tlvs.flatMap Tlv.bytes).length)
    (toLe 4 (crc32Ieee 0 (frameBody pHead tlvs)).toNat) hb₂
    (by rw [length_append, FrameHead.length_bytes]) (by rw [length_toLe]; omega)
  refine ⟨b₃, ?_, ?_⟩
  · unfold buildFrame
    show (memcpy sendData 0
      (sentHead pHead (getFrameTotalLength tlvs - frameHeadSize - 4)).bytes).bind _ = _
    rw [hpayload, h₁, Option.bind_some, h₂, Option.bind_eq_bind, Option.bind_some]
    simp only [htake]
    exact h₃
  · apply (List.IsPrefix.eq_of_length hb₃ _).symm
    rw [length_append, b₃.size_eq, length_toLe]
    show (frameBody pHead tlvs).length + 4 = _
    omega

theorem protocolParse_accepts {pHead : FrameHead} {data : List UInt8}
    (hhead : pHead.head = PROTOCOL_HEADER) (hversion : pHead.protocolVersion = PROTOCOL_VERSION)
    (hlength : pHead.length.toNat = data.length) :
    protocolParse (pHead.bytes ++ data ++ toLe 4 (crc32Ieee 0 (pHead.bytes ++ data)).toNat)
      = some (pHead, data) := by
  have hofLe := ofLe_toLe 4 (crc32Ieee 0 (pHead.bytes ++ data)).toNat
    (crc32Ieee 0 (pHead.bytes ++ data)).toNat_lt
  have hsize : (pHead.bytes ++ data ++ toLe 4 (crc32Ieee 0 (pHead.bytes ++ data)).toNat).length
      = frameHeadSize + 4 + data.length := by
    rw [length_append, length_append, length_toLe, FrameHead.length_bytes]
    omega
  have hcut : frameHeadSize + 4 + data.length - 4 = (pHead.bytes ++ data).length := by
    rw [length_append, FrameHead.length_bytes]
    omega
  unfold protocolParse
  rw [hsize, hcut, List.take_left, List.drop_left, hofLe, UInt32.ofNat_toNat, append_assoc,
    FrameHead.ofBytes_bytes, List.drop_left' (FrameHead.length_bytes pHead)]
  simp only [hhead, hversion, hlength, PROTOCOL_VERSION, List.take_left, ne_eq, not_true_eq_false,
    if_false]
  rw [if_neg (by omega), if_neg (by omega)]

/-- **The round trip.** Every list of TLVs with fifteen-bit, non-zero lengths and at
most 65535 bytes of payload is built into a frame that passes the receiver's
checks with the head it was sent with, and whose TLVs are read back as they were:
types, lengths and value bytes, in order. -/
theorem buildFrame_roundTrip (pHead : FrameHead) (tlvs : List Tlv)
    (sendData : Block (getFrameTotalLength tlvs)) (maxTlvLen : Nat)
    (hreadable : ∀ t ∈ tlvs, t.Readable)
    (hlength : ∀ t ∈ tlvs, 1 ≤ t.length ∧ t.length ≤ 0x7FFF)
    (hpayload : getFrameTotalLength tlvs - frameHeadSize - 4 ≤ 65535)
    (hmax : tlvs.length ≤ maxTlvLen) :
    ∃ frame, buildFrame pHead tlvs sendData = some frame
      ∧ ∃ data, protocolParse frame.bytes
          = some (sentHead pHead (getFrameTotalLength tlvs - frameHeadSize - 4), data)
        ∧ (getTlvFromData maxTlvLen data).map (fun t => (t.type, t.length, t.contents))
            = tlvs.map (fun t => (t.type, t.length, t.contents)) := by
  have hencodable : ∀ t ∈ tlvs, t.Encodable := fun t ht => ⟨(hlength t ht).2, hreadable t ht⟩
  have hne : ∀ t ∈ tlvs, t.length ≠ 0 := by
    intro t ht hzero
    have hone := (hlength t ht).1
    rw [hzero] at hone
    cases hone
  have htotal := getFrameTotalLength_eq hencodable
  have hdata : getFrameTotalLength tlvs - frameHeadSize - 4 = (tlvs.flatMap Tlv.bytes).length := by
    omega
  obtain ⟨frame, hbuild, hframe⟩ := buildFrame_writes pHead hencodable sendData
  refine ⟨frame, hbuild, tlvs.flatMap Tlv.bytes, ?_, ?_⟩
  · rw [hframe, hdata]
    apply protocolParse_accepts rfl rfl
    show (UInt16.ofNat (tlvs.flatMap Tlv.bytes).length).toNat = _
    rw [UInt16.toNat_ofNat']
    exact Nat.mod_eq_of_lt (by omega)
  · rw [getTlvFromData_bytes hencodable hne hmax, List.map_map]
    apply List.map_congr_left
    intro t ht
    have hcontents : t.received.contents = t.contents :=
      List.take_of_length_le (Nat.le_of_eq (Tlv.length_contents (hreadable t ht)))
    show (t.type, t.length, t.received.contents) = _
    rw [hcontents]

def sampleTlvs : List Tlv := [⟨0xFF, 4, none, 0x01020304⟩, ⟨2, 200, some (List.replicate 200 7), 0⟩]

set_option maxRecDepth 16384 in
theorem buildFrame_roundTrip_sample :
    ∃ frame, buildFrame ⟨0, 0, 7, 2, 1, 0, 0⟩ sampleTlvs (Block.zero _) = some frame
      ∧ ∃ data, protocolParse frame.bytes = some (⟨0x6B, 0, 7, 2, 1, 0, 209⟩, data)
        ∧ (getTlvFromData 5 data).map (fun t => (t.type, t.length, t.contents))
            = [(0xFF, 4, [4, 3, 2, 1]), (2, 200, List.replicate 200 7)] := by
  have h := buildFrame_roundTrip ⟨0, 0, 7, 2, 1, 0, 0⟩ sampleTlvs (Block.zero _) 5
    (by decide) (by decide) (by decide) (by decide)
  have hhead : sentHead ⟨0, 0, 7, 2, 1, 0, 0⟩ (getFrameTotalLength sampleTlvs - frameHeadSize - 4)
      = ⟨0x6B, 0, 7, 2, 1, 0, 209⟩ := by decide
  have hvalues : sampleTlvs.map (fun t => (t.type, t.length, t.contents))
      = [(0xFF, 4, [4, 3, 2, 1]), (2, 200, List.replicate 200 7)] := by decide
  rw [hhead, hvalues] at h
  exact h

end Keystone3
