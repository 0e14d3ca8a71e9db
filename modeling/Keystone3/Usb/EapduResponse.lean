import Mathlib.Data.List.GetD
import Keystone3.Bytes.Block
import Keystone3.Bytes.Pieces
import Keystone3.Usb.EapduOrder

/-!
# The packets of an EAPDU response

A response is sent from one buffer of 64 bytes, one packet after another. The loop
counts the packets, the offset and what is left of the data in three counters of
different widths (`EApduSender`).

`Sending payload k s` says that `k` packets are sent and where the counters then are. A
round keeps it (`Sending.next`), and the loop ends with all packets sent
(`sending_sendAll`), for data of any length.
-/

namespace Keystone3

open Bytes (Block Filled writeAt filled_nil piece pieceCount length_piece length_piece_le
  pieceCount_le_iff flatten_pieces)

def OFFSET_CLA : Nat := 0
def OFFSET_INS : Nat := 1
def OFFSET_P1 : Nat := 3
def OFFSET_P2 : Nat := 5
def OFFSET_LC : Nat := 7

def EAPDU_RESPONSE_STATUS_LENGTH : Nat := 2

def MAX_EAPDU_RESPONSE_DATA_SIZE : Nat :=
  MAX_PACKETS_LENGTH - OFFSET_CDATA - EAPDU_RESPONSE_STATUS_LENGTH

def StatusEnum.code : StatusEnum → UInt32
  | .rspSuccessCode => 0
  | .rspFailureCode => 1
  | .prsInvalidTotalPackets => 2
  | .prsInvalidIndex => 3
  | .prsParsingRejected => 4
  | .prsParsingError => 5
  | .prsParsingDisallowed => 6
  | .prsParsingUnmatched => 7
  | .prsParsingMismatchedWallet => 8
  | .prsParsingVerifyPasswordError => 9
  | .prsExportAddressUnsupportedChain => 10
  | .prsExportAddressInvalidParams => 11
  | .prsExportAddressError => 12
  | .prsExportAddressDisallowed => 13
  | .prsExportAddressRejected => 14
  | .prsExportAddressBusy => 15
  | .prsExportHardwareCallSuccess => 16

/-- `EAPDUResponsePayload_t`, with the bytes that `data` points to. -/
structure EApduResponsePayload where
  cla : UInt8
  data : List UInt8
  dataLen : UInt32
  status : StatusEnum
  requestID : UInt16
  commandType : UInt32
  dataLen_eq : dataLen.toNat = data.length

/-- The buffer, the counters and what was sent. `dataLen` is that of the payload, which the loop
counts down. -/
structure EApduSender where
  packet : List UInt8
  packetIndex : UInt16
  offset : UInt32
  dataLen : UInt32
  sent : List (List UInt8)

def EApduResponsePayload.totalPackets (payload : EApduResponsePayload) : UInt16 :=
  ((payload.dataLen + MAX_EAPDU_RESPONSE_DATA_SIZE.toUInt32 - 1)
    / MAX_EAPDU_RESPONSE_DATA_SIZE.toUInt32).toUInt16

def EApduSender.packetDataSize (s : EApduSender) : UInt16 :=
  if s.dataLen > MAX_EAPDU_RESPONSE_DATA_SIZE.toUInt32 then MAX_EAPDU_RESPONSE_DATA_SIZE.toUInt16
  else s.dataLen.toUInt16

def sendPacket (payload : EApduResponsePayload) (s : EApduSender) : EApduSender :=
  let packetDataSize := s.packetDataSize.toNat
  let packet := writeAt s.packet OFFSET_CLA [payload.cla]
  let packet := writeAt packet OFFSET_INS (insert16bitValue payload.commandType.toUInt16)
  let packet := writeAt packet OFFSET_P1 (insert16bitValue payload.totalPackets)
  let packet := writeAt packet OFFSET_P2 (insert16bitValue s.packetIndex)
  let packet := writeAt packet OFFSET_LC (insert16bitValue payload.requestID)
  let packet := writeAt packet OFFSET_CDATA ((payload.data.drop s.offset.toNat).take packetDataSize)
  let packet := writeAt packet (OFFSET_CDATA + packetDataSize)
    (insert16bitValue payload.status.code.toUInt16)
  { packet := packet
    packetIndex := s.packetIndex + 1
    offset := s.offset + s.packetDataSize.toUInt32
    dataLen := s.dataLen - s.packetDataSize.toUInt32
    sent := s.sent ++ [packet.take (OFFSET_CDATA + packetDataSize + EAPDU_RESPONSE_STATUS_LENGTH)] }

theorem toNat_packetDataSize (s : EApduSender) :
    s.packetDataSize.toNat = min MAX_EAPDU_RESPONSE_DATA_SIZE s.dataLen.toNat := by
  have hmax : MAX_EAPDU_RESPONSE_DATA_SIZE = 53 := rfl
  have hmax32 : MAX_EAPDU_RESPONSE_DATA_SIZE.toUInt32.toNat = MAX_EAPDU_RESPONSE_DATA_SIZE := rfl
  unfold EApduSender.packetDataSize
  split
  · rename_i h
    rw [gt_iff_lt, UInt32.lt_iff_toNat_lt, hmax32] at h
    rw [Nat.min_eq_left (Nat.le_of_lt h)]
    rfl
  · rename_i h
    rw [gt_iff_lt, UInt32.lt_iff_toNat_lt, hmax32, Nat.not_lt] at h
    rw [UInt32.toNat_toUInt16, Nat.min_eq_right h]
    exact Nat.mod_eq_of_lt (by omega)

theorem toNat_dataLen_sendPacket (payload : EApduResponsePayload) (s : EApduSender) :
    (sendPacket payload s).dataLen.toNat = s.dataLen.toNat - MAX_EAPDU_RESPONSE_DATA_SIZE := by
  have hsize := toNat_packetDataSize s
  have hle : s.packetDataSize.toUInt32 ≤ s.dataLen := by
    rw [UInt32.le_iff_toNat_le, UInt16.toNat_toUInt32, hsize]
    exact Nat.min_le_right _ _
  show (s.dataLen - s.packetDataSize.toUInt32).toNat = _
  rw [UInt32.toNat_sub_of_le _ _ hle, UInt16.toNat_toUInt32, hsize]
  omega

def sendAll (payload : EApduResponsePayload) (s : EApduSender) : EApduSender :=
  if s.dataLen > 0 then sendAll payload (sendPacket payload s) else s
termination_by s.dataLen.toNat
decreasing_by
  rename_i h
  have hpos : 0 < s.dataLen.toNat := UInt32.lt_iff_toNat_lt.mp h
  have hmax : MAX_EAPDU_RESPONSE_DATA_SIZE = 53 := rfl
  rw [toNat_dataLen_sendPacket]
  omega

/-- `SendEApduResponse`, by what is left in the buffer from before: the packets. -/
def sendEApduResponse (buffer : Block MAX_PACKETS_LENGTH) (payload : EApduResponsePayload) :
    List (List UInt8) :=
  (sendAll payload ⟨buffer.bytes, 0, 0, payload.dataLen, []⟩).sent

def EApduResponsePayload.frame (payload : EApduResponsePayload) (i : Nat) : EApduFrame where
  cla := payload.cla
  ins := payload.commandType.toUInt16
  p1 := payload.totalPackets
  p2 := UInt16.ofNat i
  lc := payload.requestID
  data := piece MAX_EAPDU_RESPONSE_DATA_SIZE payload.data i
    ++ insert16bitValue payload.status.code.toUInt16

/-- So many packets are sent, and the counters are behind them. -/
structure Sending (payload : EApduResponsePayload) (k : Nat) (s : EApduSender) : Prop where
  length : s.packet.length = MAX_PACKETS_LENGTH
  index : s.packetIndex = UInt16.ofNat k
  offset : s.offset.toNat = min (MAX_EAPDU_RESPONSE_DATA_SIZE * k) payload.data.length
  dataLen : s.dataLen.toNat = payload.data.length - MAX_EAPDU_RESPONSE_DATA_SIZE * k
  sent : s.sent = (List.range k).map fun i => (payload.frame i).bytes

section

variable {payload : EApduResponsePayload} {k : Nat} {s : EApduSender}

theorem Sending.take_data (h : Sending payload k s)
    (hmore : MAX_EAPDU_RESPONSE_DATA_SIZE * k < payload.data.length) :
    (payload.data.drop s.offset.toNat).take s.packetDataSize.toNat
        = piece MAX_EAPDU_RESPONSE_DATA_SIZE payload.data k
      ∧ (piece MAX_EAPDU_RESPONSE_DATA_SIZE payload.data k).length = s.packetDataSize.toNat := by
  have hsize := toNat_packetDataSize s
  rw [h.dataLen] at hsize
  have hlength := length_piece MAX_EAPDU_RESPONSE_DATA_SIZE payload.data k
  refine ⟨?_, hlength.trans hsize.symm⟩
  rw [h.offset, Nat.min_eq_left (Nat.le_of_lt hmore), hsize, piece, ← List.length_drop,
    List.take_eq_take_iff]
  omega

theorem filled_header {buffer : List UInt8} (hbuffer : buffer.length = MAX_PACKETS_LENGTH)
    (cla : UInt8) (ins p1 p2 lc : UInt16) :
    Filled (writeAt (writeAt (writeAt (writeAt (writeAt buffer OFFSET_CLA [cla])
        OFFSET_INS (insert16bitValue ins)) OFFSET_P1 (insert16bitValue p1))
        OFFSET_P2 (insert16bitValue p2)) OFFSET_LC (insert16bitValue lc))
      MAX_PACKETS_LENGTH
      (cla :: (insert16bitValue ins ++ insert16bitValue p1 ++ insert16bitValue p2
        ++ insert16bitValue lc)) := by
  have hcla := (filled_nil hbuffer).write OFFSET_CLA [cla] rfl
    (show 0 + 1 ≤ 64 by decide)
  have hins := hcla.write OFFSET_INS (insert16bitValue ins) rfl
    (show 1 + 2 ≤ 64 by decide)
  have hp1 := hins.write OFFSET_P1 (insert16bitValue p1) rfl
    (show 3 + 2 ≤ 64 by decide)
  have hp2 := hp1.write OFFSET_P2 (insert16bitValue p2) rfl
    (show 5 + 2 ≤ 64 by decide)
  exact hp2.write OFFSET_LC (insert16bitValue lc) rfl
    (show 7 + 2 ≤ 64 by decide)

/-- **One round.** The packet is the frame with its number, and the counters go on. -/
theorem Sending.next (h : Sending payload k s)
    (hmore : MAX_EAPDU_RESPONSE_DATA_SIZE * k < payload.data.length) :
    Sending payload (k + 1) (sendPacket payload s) := by
  have hmax : MAX_EAPDU_RESPONSE_DATA_SIZE = 53 := rfl
  have hsize := toNat_packetDataSize s
  rw [h.dataLen] at hsize
  obtain ⟨hdata, hlength⟩ := h.take_data hmore
  have hheader := filled_header h.length payload.cla payload.commandType.toUInt16
    payload.totalPackets s.packetIndex payload.requestID
  have hchunk := hheader.write OFFSET_CDATA
    (piece MAX_EAPDU_RESPONSE_DATA_SIZE payload.data k) rfl
    (show 9 + _ ≤ 64 by omega)
  have hstatus := hchunk.write (OFFSET_CDATA + s.packetDataSize.toNat)
    (insert16bitValue payload.status.code.toUInt16)
    (by rw [List.length_append, hlength]; rfl)
    (by rw [List.length_append, hlength]; show 9 + _ + 2 ≤ 64; omega)
  have hfront := hstatus.front
  rw [← hdata] at hstatus hfront
  refine ⟨hstatus.length, ?_, ?_, ?_, ?_⟩
  · show s.packetIndex + 1 = _
    rw [h.index, UInt16.ofNat_add]
    rfl
  · show (s.offset + s.packetDataSize.toUInt32).toNat = _
    have hlt := payload.dataLen.toNat_lt
    rw [payload.dataLen_eq] at hlt
    rw [UInt32.toNat_add, UInt16.toNat_toUInt32, h.offset, hsize, Nat.mul_succ]
    omega
  · rw [toNat_dataLen_sendPacket, h.dataLen, Nat.mul_succ]
    omega
  · rw [List.range_succ, List.map_append, ← h.sent]
    refine congrArg (s.sent ++ [·]) ?_
    have hsent : OFFSET_CDATA + s.packetDataSize.toNat + EAPDU_RESPONSE_STATUS_LENGTH
        = (payload.cla :: (insert16bitValue payload.commandType.toUInt16
          ++ insert16bitValue payload.totalPackets ++ insert16bitValue s.packetIndex
          ++ insert16bitValue payload.requestID)
          ++ (payload.data.drop s.offset.toNat).take s.packetDataSize.toNat
          ++ insert16bitValue payload.status.code.toUInt16).length := by
      rw [List.length_append, List.length_append, hdata, hlength]
      rfl
    rw [hsent]
    refine hfront.trans ?_
    rw [hdata, h.index, List.append_assoc]
    rfl

theorem sending_start (buffer : Block MAX_PACKETS_LENGTH) (payload : EApduResponsePayload) :
    Sending payload 0 ⟨buffer.bytes, 0, 0, payload.dataLen, []⟩ where
  length := buffer.size_eq
  index := rfl
  offset := (Nat.zero_min _).symm
  dataLen := payload.dataLen_eq
  sent := rfl

def EApduResponsePayload.count (payload : EApduResponsePayload) : Nat :=
  pieceCount MAX_EAPDU_RESPONSE_DATA_SIZE payload.data

theorem count_le_iff {payload : EApduResponsePayload} {k : Nat} :
    payload.count ≤ k ↔ payload.data.length ≤ MAX_EAPDU_RESPONSE_DATA_SIZE * k :=
  pieceCount_le_iff (by decide) payload.data k

/-- **The whole loop**, for data of any length: it ends when all packets are sent. -/
theorem sending_sendAll (h : Sending payload k s) (hk : k ≤ payload.count) :
    Sending payload payload.count (sendAll payload s) := by
  -- the induction is on the packets that are left
  induction hrest : payload.count - k generalizing k s with
  | zero =>
    obtain rfl : k = payload.count := by omega
    have hdone : ¬s.dataLen > 0 := by
      have hall := count_le_iff.mp (Nat.le_refl payload.count)
      have hleft := h.dataLen
      rw [gt_iff_lt, UInt32.lt_iff_toNat_lt, hleft, UInt32.toNat_zero]
      omega
    rw [sendAll, if_neg hdone]
    exact h
  | succ rest ih =>
    have hmore : MAX_EAPDU_RESPONSE_DATA_SIZE * k < payload.data.length := by
      refine Nat.lt_of_not_le fun hall => ?_
      have hdone := count_le_iff.mpr hall
      omega
    have hleft : s.dataLen > 0 := by
      rw [gt_iff_lt, UInt32.lt_iff_toNat_lt, h.dataLen, UInt32.toNat_zero]
      omega
    rw [sendAll, if_pos hleft]
    exact ih (h.next hmore) (by omega) (by omega)

theorem sendEApduResponse_eq (buffer : Block MAX_PACKETS_LENGTH) (payload : EApduResponsePayload) :
    sendEApduResponse buffer payload
      = (List.range payload.count).map fun i => (payload.frame i).bytes :=
  (sending_sendAll (sending_start buffer payload) (Nat.zero_le _)).sent

end

def EApduFrame.responseData (f : EApduFrame) : List UInt8 :=
  f.data.take (f.data.length - EAPDU_RESPONSE_STATUS_LENGTH)

def EApduFrame.responseStatus (f : EApduFrame) : UInt16 :=
  extract16bitValue f.data (f.data.length - EAPDU_RESPONSE_STATUS_LENGTH)

theorem extract16bitValue_append (data : List UInt8) (value : UInt16) :
    extract16bitValue (data ++ insert16bitValue value) data.length = value := by
  rw [extract16bitValue, List.getD_append_right _ _ _ _ (Nat.le_refl _),
    List.getD_append_right _ _ _ _ (Nat.le_add_right _ 1), Nat.sub_self, Nat.add_sub_cancel_left]
  exact insert16bitValue_read value

theorem toUInt32_code (status : StatusEnum) : status.code.toUInt16.toUInt32 = status.code := by
  cases status <;> rfl

section

variable (payload : EApduResponsePayload) (i : Nat)

theorem length_frame_data : (payload.frame i).data.length - EAPDU_RESPONSE_STATUS_LENGTH
    = (piece MAX_EAPDU_RESPONSE_DATA_SIZE payload.data i).length := by
  rw [EApduResponsePayload.frame, List.length_append]
  exact Nat.add_sub_cancel _ 2

theorem responseData_frame : (payload.frame i).responseData
    = piece MAX_EAPDU_RESPONSE_DATA_SIZE payload.data i := by
  rw [EApduFrame.responseData, length_frame_data]
  exact List.take_left

theorem responseStatus_frame : (payload.frame i).responseStatus.toUInt32 = payload.status.code := by
  rw [EApduFrame.responseStatus, length_frame_data]
  exact (congrArg _ (extract16bitValue_append _ _)).trans (toUInt32_code payload.status)

theorem length_bytes_frame : (payload.frame i).bytes.length ≤ MAX_PACKETS_LENGTH := by
  have hlength := length_piece_le MAX_EAPDU_RESPONSE_DATA_SIZE payload.data i
  have hdata := length_frame_data payload i
  have hmax : MAX_EAPDU_RESPONSE_DATA_SIZE = 53 := rfl
  have hstatus : EAPDU_RESPONSE_STATUS_LENGTH = 2 := rfl
  show (payload.frame i).data.length + 9 ≤ 64
  omega

theorem toNat_totalPackets (hmax : payload.dataLen.toNat ≤ 53 * 65535) :
    payload.totalPackets.toNat = payload.count := by
  have hlength := payload.dataLen_eq
  have h53 : MAX_EAPDU_RESPONSE_DATA_SIZE.toUInt32.toNat = 53 := rfl
  have hadd : (payload.dataLen + MAX_EAPDU_RESPONSE_DATA_SIZE.toUInt32).toNat
      = payload.dataLen.toNat + 53 := by
    rw [UInt32.toNat_add, h53]
    omega
  -- neither the sum nor the difference wraps around
  have hone : (1 : UInt32) ≤ payload.dataLen + MAX_EAPDU_RESPONSE_DATA_SIZE.toUInt32 := by
    rw [UInt32.le_iff_toNat_le, hadd, UInt32.toNat_one]
    omega
  have hcount : payload.count = (payload.data.length + 53 - 1) / 53 := rfl
  rw [EApduResponsePayload.totalPackets, UInt32.toNat_toUInt16, UInt32.toNat_div,
    UInt32.toNat_sub_of_le _ _ hone, hadd, h53, UInt32.toNat_one, hcount]
  omega

end

/-- A packet of a response, number `i` of `n`: it fits into a USB packet, and its fields are
those of the response. -/
structure IsPacket (payload : EApduResponsePayload) (n i : Nat) (packet : List UInt8) : Prop where
  length_le : packet.length ≤ 64
  read : ∃ f, frameParser packet = some f ∧ f.cla = payload.cla
    ∧ f.ins = payload.commandType.toUInt16
    ∧ (payload.commandType.toNat < 2 ^ 16 → f.ins.toNat = payload.commandType.toNat)
    ∧ f.p1.toNat = n ∧ f.p2.toNat = i ∧ f.lc = payload.requestID
    ∧ f.responseStatus.toUInt32 = payload.status.code

/-- **A response arrives in packets**: each of at most 64 bytes, with their numbers in order and
the same count, command, request id and status, and one behind the other their data is the
data. -/
theorem sendEApduResponse_packets (buffer : Block MAX_PACKETS_LENGTH)
    (payload : EApduResponsePayload) (hpos : 0 < payload.dataLen)
    (hmax : payload.dataLen.toNat ≤ 53 * 65535) :
    let packets := sendEApduResponse buffer payload
    0 < packets.length
      ∧ (∀ i packet, packets[i]? = some packet → IsPacket payload packets.length i packet)
      ∧ (packets.filterMap frameParser).flatMap EApduFrame.responseData = payload.data := by
  intro packets
  have hpackets : packets = (List.range payload.count).map fun i => (payload.frame i).bytes :=
    sendEApduResponse_eq buffer payload
  have hlength : packets.length = payload.count := by
    rw [hpackets, List.length_map, List.length_range]
  have htotal := toNat_totalPackets payload hmax
  refine ⟨?_, ?_, ?_⟩
  · rw [hlength]
    refine Nat.pos_of_ne_zero fun hzero => ?_
    -- no packet is one for no data
    have hnone := count_le_iff.mp (Nat.le_of_eq hzero)
    have hdata := payload.dataLen_eq
    rw [UInt32.lt_iff_toNat_lt, UInt32.toNat_zero] at hpos
    omega
  · intro i packet hi
    rw [hpackets, List.getElem?_map, Option.map_eq_some_iff] at hi
    obtain ⟨j, hj, rfl⟩ := hi
    obtain ⟨hlt, rfl⟩ := List.getElem?_eq_some_iff.mp hj
    rw [List.length_range] at hlt
    rw [List.getElem_range]
    have hfit := payload.totalPackets.toNat_lt
    refine ⟨length_bytes_frame payload i, payload.frame i, frameParser_bytes _, rfl, rfl, ?_,
      htotal.trans hlength.symm, ?_, rfl, responseStatus_frame payload i⟩
    · intro hcommand
      exact (UInt32.toNat_toUInt16 _).trans (Nat.mod_eq_of_lt hcommand)
    · exact UInt16.toNat_ofNat_of_lt' (show i < 65536 by omega)
  · have hframes : packets.filterMap frameParser = (List.range payload.count).map payload.frame := by
      rw [hpackets, List.filterMap_map, ← List.filterMap_eq_map]
      exact List.filterMap_congr fun i _ => frameParser_bytes (payload.frame i)
    rw [hframes, List.flatMap_map, List.flatMap_def]
    simp only [responseData_frame]
    exact flatten_pieces (by decide) payload.data

def twoPackets : EApduResponsePayload where
  cla := eApduHeader
  data := List.replicate 54 7
  dataLen := 54
  status := .rspSuccessCode
  requestID := 3
  commandType := 1
  dataLen_eq := rfl

theorem sendEApduResponse_twoPackets :
    let packets := sendEApduResponse (Block.zero 64) twoPackets
    0 < packets.length
      ∧ (∀ i packet, packets[i]? = some packet → IsPacket twoPackets packets.length i packet)
      ∧ (packets.filterMap frameParser).flatMap EApduFrame.responseData = twoPackets.data :=
  sendEApduResponse_packets (Block.zero 64) twoPackets (by decide) (by decide)

end Keystone3
