import Mathlib.Algebra.GroupWithZero.Nat

/-!
# The EAPDU protocol

A request comes in frames, one USB packet each, that carry their number of the request's
frames (`p2` of `p1`), the command and the request id. The parser keeps the data of each
frame by its number until all are there and then calls the request handler with the data
in order (`eApduProtocolParse`).

`EApduState` is the globals for this, together with a record of what was dispatched and sent.
-/

namespace Keystone3

def MAX_PACKETS : Nat := 200

def MAX_PACKETS_LENGTH : Nat := 64

def OFFSET_CDATA : Nat := 9

inductive StatusEnum where
  | rspSuccessCode
  | rspFailureCode
  | prsInvalidTotalPackets
  | prsInvalidIndex
  | prsParsingRejected
  | prsParsingError
  | prsParsingDisallowed
  | prsParsingUnmatched
  | prsParsingMismatchedWallet
  | prsParsingVerifyPasswordError
  | prsExportAddressUnsupportedChain
  | prsExportAddressInvalidParams
  | prsExportAddressError
  | prsExportAddressDisallowed
  | prsExportAddressRejected
  | prsExportAddressBusy
  | prsExportHardwareCallSuccess
deriving DecidableEq

/-- A frame: number `p2` of `p1`, of the request with id `lc` for command `ins`. -/
structure EApduFrame where
  cla : UInt8
  ins : UInt16
  p1 : UInt16
  p2 : UInt16
  lc : UInt16
  data : List UInt8
deriving DecidableEq

structure EApduRequest where
  cla : UInt8
  data : List UInt8
  dataLen : Nat
  requestID : UInt16
  commandType : UInt16
deriving DecidableEq

/-- A response, with the text under `payload`. -/
structure EApduResponse where
  cla : UInt8
  commandType : UInt16
  requestID : UInt16
  status : StatusEnum
  payload : String
deriving DecidableEq

/-- A call of the request handler, with the frames whose data the request was put
together from. -/
structure Dispatch where
  request : EApduRequest
  frames : List EApduFrame
deriving DecidableEq

/-- The globals of the parser. `received i` is the frame whose data is in slot `i`,
when `g_receivedPackets[i]` is set; the code keeps its data and its length. -/
structure EApduState where
  totalPackets : Nat
  received : Nat → Option EApduFrame
  dispatched : List Dispatch
  sent : List EApduResponse

/-- `EAPDU_PROTOCOL_HEADER`, the class of an error response. -/
def eApduHeader : UInt8 := 0

def extract16bitValue (frame : List UInt8) (offset : Nat) : UInt16 :=
  (frame.getD offset 0).toUInt16 <<< 8 ||| (frame.getD (offset + 1) 0).toUInt16

def frameParser (frame : List UInt8) : Option EApduFrame :=
  if frame.length < OFFSET_CDATA then none
  else some
    { cla := frame.getD 0 0
      ins := extract16bitValue frame 1
      p1 := extract16bitValue frame 3
      p2 := extract16bitValue frame 5
      lc := extract16bitValue frame 7
      data := frame.drop OFFSET_CDATA }

namespace EApduState

def freeParser (s : EApduState) : EApduState :=
  { s with totalPackets := 0, received := fun _ => none }

def sendError (s : EApduState) (f : EApduFrame) (status : StatusEnum) (error : String) :
    EApduState :=
  { s with sent := s.sent ++ [⟨eApduHeader, f.ins, f.lc, status, error⟩] }

def complete (s : EApduState) : Bool :=
  (List.range s.totalPackets).all fun i => (s.received i).isSome

def frames (s : EApduState) : List EApduFrame := (List.range s.totalPackets).filterMap s.received

end EApduState

/-- Is the frame taken? A wrong count or number is answered and ends the request in
the making; a frame that is there already is dropped. -/
def checkFrameValidity (s : EApduState) (f : EApduFrame) : Bool × EApduState :=
  if f.p1.toNat > MAX_PACKETS then
    (false, (s.sendError f .prsInvalidTotalPackets "Invalid total number of packets").freeParser)
  else if f.p2 ≥ f.p1 then
    (false, (s.sendError f .prsInvalidIndex "Invalid packet index").freeParser)
  else if (s.received f.p2.toNat).isSome then (false, s)
  else (true, s)

/-- Put a frame into its slot. The frame with number 0 sets the count when no request
is in the making. -/
def storeFrame (s : EApduState) (f : EApduFrame) : EApduState :=
  let s :=
    if f.p2 = 0 ∧ s.totalPackets = 0 then
      { s with totalPackets := f.p1.toNat, received := fun _ => none }
    else s
  { s with received := fun i => if i = f.p2.toNat then some f else s.received i }

/-- The request in the slots, and the frames it is put together from. The command and
the request id are those of the frame that came last. -/
def EApduState.assemble (s : EApduState) (f : EApduFrame) : Dispatch where
  request :=
    { cla := f.cla
      data := s.frames.flatMap EApduFrame.data
      dataLen := (s.frames.map fun g => g.data.length).sum
      requestID := f.lc
      commandType := f.ins }
  frames := s.frames

def dispatch (s : EApduState) (f : EApduFrame) : EApduState :=
  { s with dispatched := s.dispatched ++ [s.assemble f] }

/-- A packet for the EAPDU parser. `none` is a failed assertion on its size. -/
def eApduProtocolParse (s : EApduState) (frame : List UInt8) : Option EApduState :=
  if frame.length < 4 then some s.freeParser
  else
    match frameParser frame with
    | none => some s
    | some f =>
      match checkFrameValidity s f with
      | (false, s) => some s
      | (true, s) =>
        if f.data.length ≤ MAX_PACKETS_LENGTH ∧ f.p2.toNat < MAX_PACKETS then
          let s := storeFrame s f
          if s.complete then some (dispatch s f).freeParser else some s
        else none

def eApduReceiveAll : EApduState → List (List UInt8) → Option EApduState
  | s, [] => some s
  | s, frame :: packets => do
    let s ← eApduProtocolParse s frame
    eApduReceiveAll s packets

def eApduStart : EApduState := ⟨0, fun _ => none, [], []⟩

/-- What a packet does to the parser: it ends the request in the making, changes
nothing, or its frame is stored, and the request dispatched when that completes
it. -/
inductive Step (s : EApduState) (frame : List UInt8) : EApduState → Prop where
  | freed (sent : List EApduResponse) : Step s frame { s with sent := sent }.freeParser
  | dropped : Step s frame s
  | stored (f : EApduFrame) (hframe : frameParser frame = some f)
      (htotal : f.p1.toNat ≤ MAX_PACKETS) (hindex : f.p2 < f.p1)
      (hfree : s.received f.p2.toNat = none) (hwait : (storeFrame s f).complete = false) :
      Step s frame (storeFrame s f)
  | completed (f : EApduFrame) (hframe : frameParser frame = some f)
      (htotal : f.p1.toNat ≤ MAX_PACKETS) (hindex : f.p2 < f.p1)
      (hfree : s.received f.p2.toNat = none) (hdone : (storeFrame s f).complete = true) :
      Step s frame (dispatch (storeFrame s f) f).freeParser

/-- **Every packet that is not refused by an assertion takes one of these steps.** -/
theorem eApduProtocolParse_step {s s' : EApduState} {frame : List UInt8}
    (h : eApduProtocolParse s frame = some s') : Step s frame s' := by
  unfold eApduProtocolParse at h
  split at h
  · cases h
    exact .freed s.sent
  cases hframe : frameParser frame with
  | none =>
    rw [hframe] at h
    cases h
    exact .dropped
  | some f =>
    rw [hframe] at h
    simp only at h
    unfold checkFrameValidity at h
    by_cases htotal : f.p1.toNat > MAX_PACKETS
    · rw [if_pos htotal] at h
      cases h
      exact .freed _
    rw [if_neg htotal] at h
    by_cases hindex : f.p2 ≥ f.p1
    · rw [if_pos hindex] at h
      cases h
      exact .freed _
    rw [if_neg hindex] at h
    cases hslot : s.received f.p2.toNat with
    | some g =>
      rw [hslot] at h
      cases h
      exact .dropped
    | none =>
      rw [hslot] at h
      simp only [Option.isSome_none, Bool.false_eq_true, if_false] at h
      split at h
      case isFalse => cases h
      case isTrue =>
        have hle := Nat.le_of_not_lt htotal
        have hlt := UInt16.not_le.mp hindex
        cases hdone : (storeFrame s f).complete with
        | true =>
          rw [hdone] at h
          cases h
          exact .completed f hframe hle hlt hslot hdone
        | false =>
          rw [hdone] at h
          cases h
          exact .stored f hframe hle hlt hslot hdone

end Keystone3
