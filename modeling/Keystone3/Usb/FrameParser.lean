import Mathlib.Data.List.Chain
import Keystone3.Usb.Codec

/-!
# The frame parser of the internal protocol

`protocolReceivedData` gives each packet to one of two parsers: the EAPDU parser when
its first byte is zero and no file is being received, else the parser of the internal
protocol, which collects the bytes of a frame across packets and executes it when its
last byte is there (`internalProtocolParse`, byte by byte `receiveByte`).

`protocolReceivedData_executes`: the frames of a stream are executed, each once and in
order, exactly when no packet of it that begins with a zero byte arrives outside a file
transfer.
-/

namespace Keystone3

open Bytes (ofLe)

def PROTOCOL_PARSE_OVERTIME : UInt32 := 500

def EAPDU_PROTOCOL_HEADER : UInt8 := 0

/-- What the driver hands over: some bytes, and the tick at that time. -/
structure UsbPacket where
  bytes : List UInt8
  tick : UInt32
  nonempty : bytes ≠ []
  fits : bytes.length ≤ PROTOCOL_MAX_LENGTH

variable {σ : Type}

abbrev ProtocolServiceCallback (σ : Type) : Type :=
  FrameHead → List UInt8 → σ → σ × Option (List UInt8)

/-- A row of the service table. `none` is a command without a handler. -/
structure ProtocolService (σ : Type) where
  serviceId : UInt8
  commandIdNum : UInt8
  func : List (Option (ProtocolServiceCallback σ))

/-- The device behind the parsers: its services, the EAPDU parser, and the flag
that says a file is being received. -/
structure UsbDevice (σ : Type) where
  services : List (ProtocolService σ)
  eApduProtocolParse : List UInt8 → σ → σ
  getIsReceivingFile : σ → Bool

def executeService : List (ProtocolService σ) → ProtocolServiceCallback σ
  | [], _, _, s => (s, none)
  | service :: services, head, tlvData, s =>
    if service.serviceId = head.serviceId then
      if head.commandId ≥ service.commandIdNum then (s, none)
      else
        match service.func[head.commandId.toNat]? with
        | some (some func) => func head tlvData s
        | _ => (s, none)
    else executeService services head tlvData s

/-- The state of the receiver. `rcvBuffer` is the part of `g_protocolRcvBuffer`
that is filled, so `rcvCount` is its length; `executed` and `sent` are a record
of what was given to the services and what they answered. -/
structure Receiver (σ : Type) where
  rcvBuffer : List UInt8
  rcvLen : Nat
  device : σ
  executed : List (FrameHead × List UInt8)
  sent : List (List UInt8)

namespace Receiver

def rcvCount (s : Receiver σ) : Nat := s.rcvBuffer.length

def execute (dev : UsbDevice σ) (s : Receiver σ) (frame : FrameHead × List UInt8) :
    Receiver σ :=
  let (device, sendBuf) := executeService dev.services frame.1 frame.2 s.device
  { s with
    device := device
    executed := s.executed ++ [frame]
    sent := s.sent ++ sendBuf.toList }

end Receiver

/-- One byte of the stream. `none` is the failed assertion on the length field. -/
def receiveByte (dev : UsbDevice σ) (s : Receiver σ) (b : UInt8) : Option (Receiver σ) :=
  if s.rcvCount ≥ PROTOCOL_MAX_LENGTH then some { s with rcvBuffer := [], rcvLen := 0 }
  else if s.rcvCount = 0 then
    if b = PROTOCOL_HEADER then some { s with rcvBuffer := s.rcvBuffer ++ [b] } else some s
  else if s.rcvCount = 9 then
    let rcvBuffer := s.rcvBuffer ++ [b]
    let rcvLen := (rcvBuffer.getD 9 0).toNat * 256 + (rcvBuffer.getD 8 0).toNat
    if rcvLen ≤ PROTOCOL_MAX_LENGTH - 14 then
      some { s with rcvBuffer := rcvBuffer, rcvLen := rcvLen }
    else none
  else if s.rcvCount = s.rcvLen + 13 then
    let s' :=
      match protocolParse (s.rcvBuffer ++ [b]) with
      | none => s
      | some frame => s.execute dev frame
    some { s' with rcvBuffer := [], rcvLen := 0 }
  else some { s with rcvBuffer := s.rcvBuffer ++ [b] }

def internalProtocolParse (dev : UsbDevice σ) : Receiver σ → List UInt8 → Option (Receiver σ)
  | s, [] => some s
  | s, b :: data => do
    let s ← receiveByte dev s b
    internalProtocolParse dev s data

structure UsbState (σ : Type) where
  lastTick : UInt32
  receiver : Receiver σ

def toInternalParser (dev : UsbDevice σ) (s : UsbState σ) (p : UsbPacket) : Bool :=
  !(p.bytes.headD 0 == EAPDU_PROTOCOL_HEADER && !dev.getIsReceivingFile s.receiver.device)

/-- A packet arrives. The EAPDU parser never counts bytes, so only a partial frame
of the internal parser is dropped after a gap. -/
def protocolReceivedData (dev : UsbDevice σ) (s : UsbState σ) (p : UsbPacket) :
    Option (UsbState σ) :=
  if toInternalParser dev s p then do
    let overtime := s.receiver.rcvCount ≠ 0 ∧ p.tick - s.lastTick > PROTOCOL_PARSE_OVERTIME
    let receiver := if overtime then { s.receiver with rcvBuffer := [] } else s.receiver
    let receiver ← internalProtocolParse dev receiver p.bytes
    return ⟨p.tick, receiver⟩
  else
    some ⟨p.tick, { s.receiver with device := dev.eApduProtocolParse p.bytes s.receiver.device }⟩

def receiveAll (dev : UsbDevice σ) : UsbState σ → List UsbPacket → Option (UsbState σ)
  | s, [] => some s
  | s, p :: packets => do
    let s ← protocolReceivedData dev s p
    receiveAll dev s packets

/-- A frame that passes the receiver's checks and fits its buffer. -/
structure ValidFrame where
  bytes : List UInt8
  head : FrameHead
  tlvData : List UInt8
  accepted : protocolParse bytes = some (head, tlvData)
  fits : bytes.length ≤ PROTOCOL_MAX_LENGTH

namespace ValidFrame

def content (f : ValidFrame) : FrameHead × List UInt8 := (f.head, f.tlvData)

end ValidFrame

theorem protocolParse_some {inData tlvData : List UInt8} {head : FrameHead}
    (h : protocolParse inData = some (head, tlvData)) :
    head = FrameHead.ofBytes inData ∧ head.head = PROTOCOL_HEADER
      ∧ inData.length = tlvData.length + 14 ∧ head.length.toNat = tlvData.length := by
  unfold protocolParse at h
  by_cases hshort : inData.length < frameHeadSize + 4
  · rw [if_pos hshort] at h
    cases h
  · rw [if_neg hshort] at h
    simp only [ite_not] at h
    split at h
    case isFalse => cases h
    case isTrue hhead =>
      split at h
      case isFalse => cases h
      case isTrue hversion =>
        split at h
        case isFalse => cases h
        case isTrue hlen =>
          split at h
          case isFalse => cases h
          case isTrue hcrc =>
            obtain ⟨rfl, rfl⟩ := Prod.mk.inj (Option.some.inj h)
            have hsize : frameHeadSize = 10 := rfl
            rw [List.length_take, List.length_drop]
            refine ⟨rfl, hhead, ?_, ?_⟩ <;> omega

namespace ValidFrame

theorem length_bytes (f : ValidFrame) : f.bytes.length = f.tlvData.length + 14 :=
  (protocolParse_some f.accepted).2.2.1

theorem first (f : ValidFrame) (h : 0 < f.bytes.length) : f.bytes[0] = PROTOCOL_HEADER := by
  obtain ⟨hread, hhead, -, -⟩ := protocolParse_some f.accepted
  rw [← hhead, hread]
  show f.bytes[0] = f.bytes.getD 0 0
  rw [List.getD_eq_getElem?_getD, List.getElem?_eq_getElem h]
  rfl

theorem lengthField (f : ValidFrame) :
    (f.bytes.getD 9 0).toNat * 256 + (f.bytes.getD 8 0).toNat = f.tlvData.length := by
  obtain ⟨hread, -, -, hlength⟩ := protocolParse_some f.accepted
  have hsize := f.length_bytes
  have h8 : 8 < f.bytes.length := by omega
  have h9 : 9 < f.bytes.length := by omega
  have hfield : (f.bytes.drop 8).take 2 = [f.bytes[8], f.bytes[9]] := by
    rw [List.drop_eq_getElem_cons h8, List.drop_eq_getElem_cons h9]
    rfl
  have hofLe : f.head.length = UInt16.ofNat (f.bytes[8].toNat + 256 * f.bytes[9].toNat) := by
    rw [hread]
    show UInt16.ofNat (ofLe ((f.bytes.drop 8).take 2)) = _
    rw [hfield]
    rfl
  have hget8 : f.bytes.getD 8 0 = f.bytes[8] := by
    rw [List.getD_eq_getElem?_getD, List.getElem?_eq_getElem h8]
    rfl
  have hget9 : f.bytes.getD 9 0 = f.bytes[9] := by
    rw [List.getD_eq_getElem?_getD, List.getElem?_eq_getElem h9]
    rfl
  rw [hget8, hget9, ← hlength, hofLe, UInt16.toNat_ofNat']
  have hlow := f.bytes[8].toNat_lt
  have hhigh := f.bytes[9].toNat_lt
  omega

end ValidFrame

theorem internalProtocolParse_append (dev : UsbDevice σ) (s : Receiver σ) (a b : List UInt8) :
    internalProtocolParse dev s (a ++ b)
      = (internalProtocolParse dev s a).bind fun s' => internalProtocolParse dev s' b := by
  induction a generalizing s with
  | nil => rfl
  | cons x a ih =>
    rw [List.cons_append]
    show (receiveByte dev s x).bind (fun s' => internalProtocolParse dev s' (a ++ b))
      = ((receiveByte dev s x).bind fun s' => internalProtocolParse dev s' a).bind _
    cases receiveByte dev s x with
    | none => rfl
    | some s' => exact ih s'

/-- The receiver with the first `n` bytes of a frame. The length is known from the
tenth byte on. -/
def Receiver.within (s : Receiver σ) (f : ValidFrame) (n : Nat) : Receiver σ :=
  { s with
    rcvBuffer := f.bytes.take n
    rcvLen := if 10 ≤ n then f.tlvData.length else s.rcvLen }

theorem Receiver.rcvCount_within (s : Receiver σ) (f : ValidFrame) {n : Nat}
    (h : n ≤ f.bytes.length) : (s.within f n).rcvCount = n := by
  show (f.bytes.take n).length = n
  rw [List.length_take]
  exact Nat.min_eq_left h

theorem receiveByte_within (dev : UsbDevice σ) (s : Receiver σ) (f : ValidFrame) {n : Nat}
    (h : n + 1 < f.bytes.length) :
    receiveByte dev (s.within f n) f.bytes[n] = some (s.within f (n + 1)) := by
  have hcount := s.rcvCount_within f (n := n) (by omega)
  have htake : (s.within f n).rcvBuffer ++ [f.bytes[n]] = f.bytes.take (n + 1) :=
    List.take_append_getElem _
  have hsize := f.length_bytes
  have hfits := f.fits
  have hmax : PROTOCOL_MAX_LENGTH = 4500 := rfl
  unfold receiveByte
  rw [hcount, if_neg (by omega)]
  by_cases hzero : n = 0
  · subst hzero
    rw [if_pos rfl, if_pos (f.first (by omega)), htake]
    rfl
  rw [if_neg hzero]
  by_cases hnine : n = 9
  · subst hnine
    have hget : ∀ k, k < 10 → (f.bytes.take 10).getD k 0 = f.bytes.getD k 0 := by
      intro k hk
      rw [List.getD_eq_getElem?_getD, List.getD_eq_getElem?_getD, List.getElem?_take_of_lt hk]
    rw [if_pos rfl, htake]
    simp only [hget 9 (by decide), hget 8 (by decide), f.lengthField]
    rw [if_pos (by omega)]
    rfl
  · have hlen : n ≠ (s.within f n).rcvLen + 13 := by
      show n ≠ (if 10 ≤ n then f.tlvData.length else s.rcvLen) + 13
      split <;> omega
    rw [if_neg hnine, if_neg hlen, htake]
    have hsame : 10 ≤ n ↔ 10 ≤ n + 1 := by omega
    simp only [Receiver.within, hsame]

theorem internalProtocolParse_within (dev : UsbDevice σ) (s : Receiver σ) (f : ValidFrame)
    (hidle : s.rcvBuffer = []) :
    ∀ n, n < f.bytes.length → internalProtocolParse dev s (f.bytes.take n) = some (s.within f n)
  | 0, _ => by
    have hstart : s.within f 0 = s := by
      unfold Receiver.within
      rw [List.take_zero, ← hidle]
      rfl
    rw [hstart]
    rfl
  | n + 1, h => by
    rw [← List.take_append_getElem (show n < f.bytes.length by omega), internalProtocolParse_append,
      internalProtocolParse_within dev s f hidle n (by omega), Option.bind_some]
    unfold internalProtocolParse
    rw [receiveByte_within dev s f h]
    rfl

def Receiver.idle (s : Receiver σ) : Receiver σ := { s with rcvBuffer := [], rcvLen := 0 }

theorem feed_frame (dev : UsbDevice σ) (s : Receiver σ) (f : ValidFrame)
    (hidle : s.rcvBuffer = []) :
    internalProtocolParse dev s f.bytes = some (s.execute dev f.content).idle := by
  have hsize := f.length_bytes
  have hfits := f.fits
  have hmax : PROTOCOL_MAX_LENGTH = 4500 := rfl
  have hlast : f.tlvData.length + 13 < f.bytes.length := by omega
  have hsplit := List.take_append_getElem hlast
  have hall : f.bytes.take (f.tlvData.length + 13 + 1) = f.bytes :=
    List.take_of_length_le (by omega)
  have hcount := s.rcvCount_within f (Nat.le_of_lt hlast)
  have hlen : (s.within f (f.tlvData.length + 13)).rcvLen = f.tlvData.length := by
    show (if 10 ≤ f.tlvData.length + 13 then f.tlvData.length else s.rcvLen) = _
    rw [if_pos (by omega)]
  have hlastByte : receiveByte dev (s.within f (f.tlvData.length + 13))
      f.bytes[f.tlvData.length + 13] = some (s.execute dev f.content).idle := by
    unfold receiveByte
    rw [hcount, if_neg (by omega), if_neg (by omega), if_neg (by omega), hlen, if_pos rfl]
    show (some { (match protocolParse (f.bytes.take (f.tlvData.length + 13)
        ++ [f.bytes[f.tlvData.length + 13]]) with
      | none => s.within f (f.tlvData.length + 13)
      | some frame => (s.within f (f.tlvData.length + 13)).execute dev frame) with
        rcvBuffer := [], rcvLen := 0 } : Option (Receiver σ)) = _
    rw [hsplit, hall, f.accepted]
    rfl
  rw [← hall, ← hsplit, internalProtocolParse_append,
    internalProtocolParse_within dev s f hidle _ hlast, Option.bind_some]
  unfold internalProtocolParse
  rw [hlastByte]
  rfl

def executeAll (dev : UsbDevice σ) (s : Receiver σ) (frames : List ValidFrame) : Receiver σ :=
  frames.foldl (fun s f => s.execute dev f.content) s

theorem Receiver.execute_idle (dev : UsbDevice σ) (s : Receiver σ)
    (frame : FrameHead × List UInt8) : (s.execute dev frame).idle = s.idle.execute dev frame :=
  rfl

theorem executeAll_idle (dev : UsbDevice σ) (s : Receiver σ) (frames : List ValidFrame) :
    (executeAll dev s frames).idle = executeAll dev s.idle frames := by
  unfold executeAll
  induction frames generalizing s with
  | nil => rfl
  | cons f frames ih =>
    rw [List.foldl_cons, List.foldl_cons, ih, Receiver.execute_idle]

/-- **The bytes of valid frames execute them, each once and in order.** -/
theorem feed_frames (dev : UsbDevice σ) (s : Receiver σ) (frames : List ValidFrame)
    (hidle : s.rcvBuffer = []) :
    ∃ s', internalProtocolParse dev s (frames.flatMap ValidFrame.bytes) = some s'
      ∧ s'.idle = (executeAll dev s frames).idle := by
  induction frames generalizing s with
  | nil => exact ⟨s, rfl, rfl⟩
  | cons f frames ih =>
    obtain ⟨s', hfeed, hs'⟩ := ih (s.execute dev f.content).idle rfl
    refine ⟨s', ?_, ?_⟩
    · rw [List.flatMap_cons, internalProtocolParse_append, feed_frame dev s f hidle,
        Option.bind_some, hfeed]
    · rw [hs', executeAll_idle, executeAll_idle]
      rfl

/-- No packet of the run begins with a zero byte, unless a file is being received
when it arrives. -/
def NoZeroStart (dev : UsbDevice σ) : UsbState σ → List UsbPacket → Prop
  | _, [] => True
  | s, p :: packets =>
    (p.bytes.headD 0 ≠ 0 ∨ dev.getIsReceivingFile s.receiver.device = true)
      ∧ ∀ s', protocolReceivedData dev s p = some s' → NoZeroStart dev s' packets

def Prompt (packets : List UsbPacket) : Prop :=
  packets.IsChain fun p q => q.tick - p.tick ≤ PROTOCOL_PARSE_OVERTIME

theorem toInternalParser_iff (dev : UsbDevice σ) (s : UsbState σ) (p : UsbPacket) :
    toInternalParser dev s p = true
      ↔ p.bytes.headD 0 ≠ 0 ∨ dev.getIsReceivingFile s.receiver.device = true := by
  unfold toInternalParser EAPDU_PROTOCOL_HEADER
  rw [Bool.not_eq_true', Bool.and_eq_false_iff, beq_eq_false_iff_ne, Bool.not_eq_false']

variable {dev : UsbDevice σ}

theorem protocolReceivedData_internal {s : UsbState σ} {p : UsbPacket}
    (hroute : toInternalParser dev s p = true)
    (hgap : s.receiver.rcvBuffer = [] ∨ p.tick - s.lastTick ≤ PROTOCOL_PARSE_OVERTIME) :
    protocolReceivedData dev s p
      = (internalProtocolParse dev s.receiver p.bytes).map fun r => ⟨p.tick, r⟩ := by
  have hintime : ¬(s.receiver.rcvCount ≠ 0 ∧ p.tick - s.lastTick > PROTOCOL_PARSE_OVERTIME) := by
    rintro ⟨hcount, hlate⟩
    rcases hgap with hempty | hintime
    · exact hcount (congrArg List.length hempty)
    · exact absurd hlate (UInt32.not_lt.mpr hintime)
  unfold protocolReceivedData
  rw [if_pos hroute]
  simp only [if_neg hintime]
  cases internalProtocolParse dev s.receiver p.bytes <;> rfl

/-- **Cutting does not matter.** A run whose packets all reach the internal parser
is the feed of their bytes. -/
theorem run_routed : ∀ {packets : List UsbPacket} {s : UsbState σ}
    {r : Receiver σ}, NoZeroStart dev s packets → Prompt packets →
    (s.receiver.rcvBuffer = []
      ∨ ∀ p ∈ packets.head?, p.tick - s.lastTick ≤ PROTOCOL_PARSE_OVERTIME) →
    internalProtocolParse dev s.receiver (packets.flatMap UsbPacket.bytes) = some r →
    ∃ tick, receiveAll dev s packets = some ⟨tick, r⟩
  | [], s, r, _, _, _, hfeed => ⟨s.lastTick, by
      cases hfeed
      rfl⟩
  | p :: packets, s, r, hroute, hprompt, hgap, hfeed => by
    obtain ⟨hhere, hthere⟩ := hroute
    rw [List.flatMap_cons, internalProtocolParse_append, Option.bind_eq_some_iff] at hfeed
    obtain ⟨r₁, hfirst, hrest⟩ := hfeed
    have hstep : protocolReceivedData dev s p = some ⟨p.tick, r₁⟩ := by
      rw [protocolReceivedData_internal ((toInternalParser_iff dev s p).mpr hhere)
        (hgap.imp id fun h => h p rfl), hfirst]
      rfl
    have hnext : ∀ q ∈ packets.head?, q.tick - p.tick ≤ PROTOCOL_PARSE_OVERTIME := by
      intro q hq
      cases packets with
      | nil => cases hq
      | cons q' packets =>
        cases hq
        exact (List.isChain_cons_cons.mp hprompt).1
    obtain ⟨tick, hrun⟩ := run_routed (s := ⟨p.tick, r₁⟩) (hthere _ hstep)
      (List.IsChain.tail hprompt) (.inr hnext) hrest
    refine ⟨tick, ?_⟩
    unfold receiveAll
    rw [hstep]
    exact hrun

/-! ## What the executed frames cost

Every executed frame has consumed its own bytes, so what has been executed and
collected never exceeds what reached the internal parser. -/

def frameBytes (executed : List (FrameHead × List UInt8)) : Nat :=
  (executed.map fun frame => frame.2.length + 14).sum

theorem frameBytes_append (a b : List (FrameHead × List UInt8)) :
    frameBytes (a ++ b) = frameBytes a + frameBytes b := by
  unfold frameBytes
  rw [List.map_append, List.sum_append]

def Receiver.consumed (s : Receiver σ) : Nat := frameBytes s.executed + s.rcvCount

theorem Receiver.consumed_execute (dev : UsbDevice σ) (s : Receiver σ)
    (frame : FrameHead × List UInt8) :
    frameBytes (s.execute dev frame).executed = frameBytes s.executed + (frame.2.length + 14) := by
  show frameBytes (s.executed ++ [frame]) = _
  rw [frameBytes_append]
  rfl

theorem receiveByte_consumed {s s' : Receiver σ} {b : UInt8}
    (h : receiveByte dev s b = some s') : s'.consumed ≤ s.consumed + 1 := by
  have hpush : ∀ rcvLen, ({ s with rcvBuffer := s.rcvBuffer ++ [b], rcvLen := rcvLen } :
      Receiver σ).consumed = s.consumed + 1 := by
    intro rcvLen
    unfold Receiver.consumed Receiver.rcvCount
    rw [List.length_append]
    rfl
  unfold receiveByte at h
  split at h
  · -- the buffer is full: dropped
    cases h
    show frameBytes s.executed + 0 ≤ frameBytes s.executed + s.rcvCount + 1
    omega
  split at h
  · split at h
    · cases h
      exact Nat.le_of_eq (hpush s.rcvLen)
    · cases h
      omega
  split at h
  · simp only at h
    split at h
    · cases h
      exact Nat.le_of_eq (hpush _)
    · cases h
  split at h
  · -- the last byte of a frame: executed or dropped
    cases h
    cases hparse : protocolParse (s.rcvBuffer ++ [b]) with
    | none =>
      show frameBytes s.executed + 0 ≤ frameBytes s.executed + s.rcvCount + 1
      omega
    | some frame =>
      have hsize := (protocolParse_some hparse).2.2.1
      rw [List.length_append, List.length_singleton] at hsize
      show frameBytes (s.execute dev frame).executed + 0
        ≤ frameBytes s.executed + s.rcvBuffer.length + 1
      rw [Receiver.consumed_execute]
      omega
  · cases h
    exact Nat.le_of_eq (hpush s.rcvLen)

theorem internalProtocolParse_consumed : ∀ {data : List UInt8}
    {s s' : Receiver σ}, internalProtocolParse dev s data = some s' →
    s'.consumed ≤ s.consumed + data.length
  | [], s, s', h => by
    cases h
    exact Nat.le_refl _
  | b :: data, s, s', h => by
    obtain ⟨s₁, hbyte, hrest⟩ := Option.bind_eq_some_iff.mp h
    have h₁ := receiveByte_consumed hbyte
    have h₂ := internalProtocolParse_consumed hrest
    rw [List.length_cons]
    omega

theorem protocolReceivedData_consumed {s s' : UsbState σ} {p : UsbPacket}
    (h : protocolReceivedData dev s p = some s') :
    s'.receiver.consumed
      ≤ s.receiver.consumed + if toInternalParser dev s p then p.bytes.length else 0 := by
  unfold protocolReceivedData at h
  by_cases hroute : toInternalParser dev s p = true
  · rw [if_pos hroute] at h ⊢
    obtain ⟨r, hparse, hr⟩ := Option.bind_eq_some_iff.mp h
    cases hr
    have hfed := internalProtocolParse_consumed hparse
    have hdrop : (if s.receiver.rcvCount ≠ 0 ∧ p.tick - s.lastTick > PROTOCOL_PARSE_OVERTIME
        then { s.receiver with rcvBuffer := [] } else s.receiver).consumed
          ≤ s.receiver.consumed := by
      split
      · show frameBytes s.receiver.executed + 0
          ≤ frameBytes s.receiver.executed + s.receiver.rcvCount
        omega
      · exact Nat.le_refl _
    exact Nat.le_trans hfed (Nat.add_le_add_right hdrop _)
  · rw [if_neg hroute] at h ⊢
    cases h
    exact Nat.le_refl _

/-- **A run executes no more than was delivered**, and only a run whose packets
all reach the internal parser can execute as much. -/
theorem run_executed_le : ∀ {packets : List UsbPacket} {s s' : UsbState σ},
    receiveAll dev s packets = some s' →
    s'.receiver.consumed
        ≤ s.receiver.consumed + (packets.flatMap UsbPacket.bytes).length
      ∧ (s'.receiver.consumed
          = s.receiver.consumed + (packets.flatMap UsbPacket.bytes).length →
        NoZeroStart dev s packets)
  | [], s, s', h => by
    cases h
    exact ⟨Nat.le_refl _, fun _ => trivial⟩
  | p :: packets, s, s', h => by
    obtain ⟨s₁, hstep, hrest⟩ := Option.bind_eq_some_iff.mp h
    have hhere := protocolReceivedData_consumed hstep
    obtain ⟨hle, hroute⟩ := run_executed_le hrest
    have hpos : 0 < p.bytes.length := List.length_pos_iff.mpr p.nonempty
    rw [List.flatMap_cons, List.length_append]
    by_cases hint : toInternalParser dev s p = true
    · rw [if_pos hint] at hhere
      refine ⟨by omega, fun hall => ⟨(toInternalParser_iff dev s p).mp hint, ?_⟩⟩
      intro s₂ hstep₂
      cases hstep.symm.trans hstep₂
      exact hroute (by omega)
    · rw [if_neg hint] at hhere
      refine ⟨by omega, fun hall => ?_⟩
      omega

theorem executeAll_executed (dev : UsbDevice σ) (s : Receiver σ) (frames : List ValidFrame) :
    (executeAll dev s frames).executed = s.executed ++ frames.map ValidFrame.content := by
  unfold executeAll
  induction frames generalizing s with
  | nil => exact (List.append_nil _).symm
  | cons f frames ih =>
    rw [List.foldl_cons, ih, List.map_cons]
    exact List.append_assoc s.executed [f.content] _

theorem frameBytes_content (frames : List ValidFrame) :
    frameBytes (frames.map ValidFrame.content) = (frames.flatMap ValidFrame.bytes).length := by
  unfold frameBytes
  induction frames with
  | nil => rfl
  | cons f frames ih =>
    rw [List.map_cons, List.map_cons, List.sum_cons, ih, List.flatMap_cons, List.length_append,
      f.length_bytes]
    rfl

/-- The packets execute just these frames, each once and in order, and the device
and its answers are what these frames make them. -/
def Executes (dev : UsbDevice σ) (s : UsbState σ) (packets : List UsbPacket)
    (frames : List ValidFrame) : Prop :=
  ∃ s', receiveAll dev s packets = some s'
    ∧ s'.receiver.executed = s.receiver.executed ++ frames.map ValidFrame.content
    ∧ s'.receiver.device = (executeAll dev s.receiver frames).device
    ∧ s'.receiver.sent = (executeAll dev s.receiver frames).sent

/-- **Frames through packets.** However a stream of valid frames is cut into packets
that follow one another without a gap, the frames are executed, each once and in
order, if and only if no packet begins with a zero byte while no file is being
received. -/
theorem protocolReceivedData_executes (dev : UsbDevice σ) (s : UsbState σ)
    (frames : List ValidFrame) (packets : List UsbPacket) (hidle : s.receiver.rcvBuffer = [])
    (hstream : packets.flatMap UsbPacket.bytes = frames.flatMap ValidFrame.bytes)
    (hprompt : Prompt packets) :
    Executes dev s packets frames ↔ NoZeroStart dev s packets := by
  constructor
  · rintro ⟨s', hrun, hexecuted, -, -⟩
    obtain ⟨hle, hroute⟩ := run_executed_le hrun
    apply hroute
    have hstart : s.receiver.consumed = frameBytes s.receiver.executed := by
      unfold Receiver.consumed Receiver.rcvCount
      rw [hidle]
      rfl
    have hend : s'.receiver.consumed
        = frameBytes s.receiver.executed + (frames.flatMap ValidFrame.bytes).length
          + s'.receiver.rcvCount := by
      unfold Receiver.consumed
      rw [hexecuted, frameBytes_append, frameBytes_content]
    rw [hstream] at hle ⊢
    omega
  · intro hroute
    obtain ⟨r, hfeed, hr⟩ := feed_frames dev s.receiver frames hidle
    rw [← hstream] at hfeed
    obtain ⟨tick, hrun⟩ := run_routed hroute hprompt (.inl hidle) hfeed
    have hexecuted : r.idle.executed = (executeAll dev s.receiver frames).idle.executed :=
      congrArg Receiver.executed hr
    have hdevice : r.idle.device = (executeAll dev s.receiver frames).idle.device :=
      congrArg Receiver.device hr
    have hsent : r.idle.sent = (executeAll dev s.receiver frames).idle.sent :=
      congrArg Receiver.sent hr
    exact ⟨⟨tick, r⟩, hrun, hexecuted.trans (executeAll_executed dev s.receiver frames), hdevice,
      hsent⟩

def sampleFrame : ValidFrame where
  bytes := [0x6B, 0, 1, 0, 1, 1, 2, 0, 0, 0, 0xF1, 0xA5, 0x12, 0x5A]
  head := ⟨0x6B, 0, 1, 1, 1, 2, 0⟩
  tlvData := []
  accepted := by decide +kernel
  fits := by decide

def sampleDevice : UsbDevice Nat where
  services := [⟨1, 3, [none, some fun _ _ s => (s + 1, none)]⟩]
  eApduProtocolParse := fun _ s => s
  getIsReceivingFile := fun _ => false

def sampleStart : UsbState Nat := ⟨0, ⟨[], 0, 0, [], []⟩⟩

def wholePacket : UsbPacket := ⟨sampleFrame.bytes, 0, by decide, by decide⟩

/-- The frame cut behind its first byte: the second packet begins with the
version, which is zero. -/
def cutPackets : List UsbPacket :=
  [⟨sampleFrame.bytes.take 1, 0, by decide, by decide⟩,
    ⟨sampleFrame.bytes.drop 1, 1, by decide, by decide⟩]

theorem protocolReceivedData_executes_whole :
    Executes sampleDevice sampleStart [wholePacket] [sampleFrame] :=
  (protocolReceivedData_executes sampleDevice sampleStart [sampleFrame] [wholePacket] rfl rfl
    (List.IsChain.singleton _)).mpr ⟨.inl (by decide), fun _ _ => trivial⟩

/-- The frame that is cut behind its first byte is not executed. -/
theorem cut_frame_not_executed :
    cutPackets.flatMap UsbPacket.bytes = [sampleFrame].flatMap ValidFrame.bytes
      ∧ Prompt cutPackets ∧ ¬Executes sampleDevice sampleStart cutPackets [sampleFrame] := by
  refine ⟨by decide, List.IsChain.cons_cons (by decide) (List.IsChain.singleton _), ?_⟩
  rintro ⟨s', hrun, hexecuted, -⟩
  have hnone : (receiveAll sampleDevice sampleStart cutPackets).map (·.receiver.executed)
      = some [] := by decide
  rw [hrun] at hnone
  have hempty : s'.receiver.executed = [] := Option.some.inj hnone
  rw [hempty] at hexecuted
  cases hexecuted

end Keystone3
