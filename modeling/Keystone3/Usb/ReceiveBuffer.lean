import Keystone3.Logic.Steps
import Keystone3.Usb.FrameParser

/-!
# The receive buffer of the internal protocol

The firmware has `g_protocolRcvBuffer` of 4500 bytes, a counter and a length from the
frame's head, and this is the parser with these three: a byte stored behind the end of
the buffer or read from there is a fault, and so is a failed assertion.

`staysReady_iff`: a stream is taken without a fault, and the parser is ready after any
part of it, exactly if no piece of it is longer than the buffer and no length field
above what a frame has room for arrives where one is expected.
-/

namespace Keystone3

open Bytes (Block)
open Logic.Steps

variable {σ : Type}

inductive ParserFault where
  | assertFailed
  /-- `g_protocolRcvBuffer` is used behind its end. -/
  | outOfBounds

/-- `struct ProtocolParser` and the statics beside it. `sendFunc` says that
`g_sendFunc` is set; `executed` and `sent` are a record, as in `Receiver`. -/
structure ProtocolParser (σ : Type) where
  sendFunc : Bool
  rcvBuffer : Block PROTOCOL_MAX_LENGTH
  rcvCount : Nat
  rcvLen : Nat
  device : σ
  executed : List (FrameHead × List UInt8)
  sent : List (List UInt8)

namespace ProtocolParser

/-- `g_protocolRcvBuffer[rcvCount] = b`. -/
def store (s : ProtocolParser σ) (b : UInt8) : Except ParserFault (ProtocolParser σ) :=
  if s.rcvCount < PROTOCOL_MAX_LENGTH then
    .ok { s with rcvBuffer := s.rcvBuffer.set s.rcvCount b }
  else .error .outOfBounds

/-- `g_protocolRcvBuffer[rcvCount++] = b`. -/
def push (s : ProtocolParser σ) (b : UInt8) : Except ParserFault (ProtocolParser σ) := do
  let s ← s.store b
  return { s with rcvCount := s.rcvCount + 1 }

/-- The first `len` bytes of the buffer. -/
def read (s : ProtocolParser σ) (len : Nat) : Except ParserFault (List UInt8) :=
  if len ≤ PROTOCOL_MAX_LENGTH then .ok (s.rcvBuffer.bytes.take len) else .error .outOfBounds

def execute (dev : UsbDevice σ) (s : ProtocolParser σ) (frame : FrameHead × List UInt8) :
    ProtocolParser σ :=
  let (device, sendBuf) := executeService dev.services frame.1 frame.2 s.device
  { s with
    device := device
    executed := s.executed ++ [frame]
    sent := s.sent ++ sendBuf.toList }

/-- `(g_protocolRcvBuffer[9] << 8) + g_protocolRcvBuffer[8]`. -/
def lengthField (s : ProtocolParser σ) : Nat :=
  ((s.rcvBuffer.get 9).toNat <<< 8) + (s.rcvBuffer.get 8).toNat

/-- The body of the loop in `InternalProtocol_Parse`. -/
def receive (dev : UsbDevice σ) (s : ProtocolParser σ) (b : UInt8) :
    Except ParserFault (ProtocolParser σ) :=
  if s.rcvCount ≥ PROTOCOL_MAX_LENGTH then return { s with rcvCount := 0, rcvLen := 0 }
  else if s.rcvCount = 0 then
    if b = PROTOCOL_HEADER then s.push b else return s
  else if s.rcvCount = 9 then do
    let s ← s.push b
    if s.lengthField ≤ PROTOCOL_MAX_LENGTH - 14 then return { s with rcvLen := s.lengthField }
    else throw .assertFailed
  else if s.rcvCount = s.rcvLen + 13 then do
    let s ← s.store b
    let inData ← s.read (s.rcvLen + 14)
    let s :=
      match protocolParse inData with
      | none => s
      | some frame => s.execute dev frame
    return { s with rcvCount := 0, rcvLen := 0 }
  else s.push b

def parse (dev : UsbDevice σ) (s : ProtocolParser σ) (data : List UInt8) :
    Except ParserFault (ProtocolParser σ) :=
  if !s.sendFunc then return s
  else if data.length ≤ PROTOCOL_MAX_LENGTH then data.foldlM (receive dev) s
  else throw .assertFailed

/-- What happens to the parser: a piece of the stream is handed over, or a gap before
the next one makes `ProtocolReceivedData` drop what is collected. -/
inductive Event where
  | chunk (data : List UInt8)
  | timeout

def step (dev : UsbDevice σ) (s : ProtocolParser σ) :
    Event → Except ParserFault (ProtocolParser σ)
  | .chunk data => s.parse dev data
  | .timeout => return { s with rcvCount := 0 }

def run (dev : UsbDevice σ) (s : ProtocolParser σ) (events : List Event) :
    Except ParserFault (ProtocolParser σ) :=
  events.foldlM (step dev) s

/-- `NewInternalProtocolParser` and `RegisterSendFunc`. -/
def start (device : σ) : ProtocolParser σ := ⟨true, Block.zero _, 0, 0, device, [], []⟩

/-- What is collected, as a `Receiver` has it. -/
def receiver (s : ProtocolParser σ) : Receiver σ :=
  ⟨s.rcvBuffer.bytes.take s.rcvCount, s.rcvLen, s.device, s.executed, s.sent⟩

variable {s : ProtocolParser σ}

theorem push_of_lt (h : s.rcvCount < PROTOCOL_MAX_LENGTH) (b : UInt8) :
    s.push b = .ok { s with
      rcvBuffer := s.rcvBuffer.set s.rcvCount b
      rcvCount := s.rcvCount + 1 } := by
  unfold push store
  rw [if_pos h]
  rfl

theorem store_of_lt (h : s.rcvCount < PROTOCOL_MAX_LENGTH) (b : UInt8) :
    s.store b = .ok { s with rcvBuffer := s.rcvBuffer.set s.rcvCount b } := by
  unfold store
  rw [if_pos h]

theorem read_of_le {len : Nat} (h : len ≤ PROTOCOL_MAX_LENGTH) :
    s.read len = .ok (s.rcvBuffer.bytes.take len) := by
  unfold read
  rw [if_pos h]

theorem rcvCount_receiver (h : s.rcvCount ≤ PROTOCOL_MAX_LENGTH) :
    s.receiver.rcvCount = s.rcvCount := by
  show (s.rcvBuffer.bytes.take s.rcvCount).length = s.rcvCount
  rw [List.length_take, s.rcvBuffer.size_eq]
  omega

theorem lengthField_push (hnine : s.rcvCount = 9) (b : UInt8) :
    lengthField { s with rcvBuffer := s.rcvBuffer.set s.rcvCount b, rcvCount := s.rcvCount + 1 }
      = (b.toNat <<< 8) + (s.rcvBuffer.get 8).toNat := by
  unfold lengthField
  rw [hnine, Block.get_set_self (by decide), Block.get_set_ne (by decide)]

/-- The byte is not one that makes the length field too large. -/
def FieldFits (s : ProtocolParser σ) (b : UInt8) : Prop :=
  s.rcvCount = 9 → (b.toNat <<< 8) + (s.rcvBuffer.get 8).toNat ≤ PROTOCOL_MAX_LENGTH - 14

/-- **A byte does what it does in the receiver**, where a fault is none. -/
theorem receive_refines (dev : UsbDevice σ)
    (h : s.rcvCount ≤ PROTOCOL_MAX_LENGTH) (b : UInt8) :
    (s.receive dev b).toOption.map receiver = receiveByte dev s.receiver b := by
  unfold receive receiveByte
  rw [rcvCount_receiver h]
  by_cases hfull : s.rcvCount ≥ PROTOCOL_MAX_LENGTH
  · rw [if_pos hfull, if_pos hfull]
    rfl
  rw [if_neg hfull, if_neg hfull]
  have hlt : s.rcvCount < PROTOCOL_MAX_LENGTH := Nat.not_le.mp hfull
  have htake : s.receiver.rcvBuffer ++ [b]
      = (s.rcvBuffer.set s.rcvCount b).bytes.take (s.rcvCount + 1) := (Block.take_set hlt).symm
  have hpush := push_of_lt hlt b
  by_cases hzero : s.rcvCount = 0
  · rw [if_pos hzero, if_pos hzero]
    split
    · rw [hpush, htake]
      rfl
    · rfl
  rw [if_neg hzero, if_neg hzero]
  by_cases hnine : s.rcvCount = 9
  · rw [if_pos hnine, if_pos hnine, hpush, htake]
    generalize hP : ({ s with
      rcvBuffer := s.rcvBuffer.set s.rcvCount b
      rcvCount := s.rcvCount + 1 } : ProtocolParser σ) = P
    have hbuffer : s.rcvBuffer.set s.rcvCount b = P.rcvBuffer := by rw [← hP]
    have hfield : ((P.rcvBuffer.bytes.take 10).getD 9 0).toNat * 256
        + ((P.rcvBuffer.bytes.take 10).getD 8 0).toNat = P.lengthField := by
      rw [← Block.get_eq_take _ (by decide), ← Block.get_eq_take _ (by decide), lengthField,
        Nat.shiftLeft_eq]
    rw [hbuffer, hnine]
    simp only [hfield]
    show Option.map receiver (Except.toOption (if P.lengthField ≤ PROTOCOL_MAX_LENGTH - 14 then _
      else _)) = _
    split
    · rw [← hP]
      simp [receiver, hnine, Except.toOption, pure, Except.pure]
    · rfl
  rw [if_neg hnine, if_neg hnine]
  by_cases hlast : s.rcvCount = s.rcvLen + 13
  · rw [if_pos hlast, if_pos (show s.rcvCount = s.receiver.rcvLen + 13 from hlast)]
    rw [store_of_lt hlt, htake]
    have hread : read { s with rcvBuffer := s.rcvBuffer.set s.rcvCount b } (s.rcvLen + 14)
        = .ok ((s.rcvBuffer.set s.rcvCount b).bytes.take (s.rcvCount + 1)) := by
      rw [hlast]
      exact read_of_le (by omega)
    show Option.map receiver (Except.toOption (read { s with
      rcvBuffer := s.rcvBuffer.set s.rcvCount b } (s.rcvLen + 14) >>= _)) = _
    rw [hread]
    simp only [bind, Except.bind]
    cases protocolParse ((s.rcvBuffer.set s.rcvCount b).bytes.take (s.rcvCount + 1)) <;> rfl
  · rw [if_neg hlast, if_neg (show ¬s.rcvCount = s.receiver.rcvLen + 13 from hlast), hpush, htake]
    rfl

/-- The send function is set and the counter has not run away. -/
def Steady (s : ProtocolParser σ) : Prop := s.sendFunc = true ∧ s.rcvCount ≤ PROTOCOL_MAX_LENGTH

theorem receive_ok (dev : UsbDevice σ) {b : UInt8} (hfits : s.FieldFits b) :
    ∃ s', s.receive dev b = .ok s' ∧ s'.sendFunc = s.sendFunc
      ∧ s'.rcvCount ≤ PROTOCOL_MAX_LENGTH := by
  unfold receive
  by_cases hfull : s.rcvCount ≥ PROTOCOL_MAX_LENGTH
  · rw [if_pos hfull]
    exact ⟨_, rfl, rfl, Nat.zero_le _⟩
  rw [if_neg hfull]
  have hlt : s.rcvCount < PROTOCOL_MAX_LENGTH := Nat.not_le.mp hfull
  have hpush := push_of_lt hlt b
  by_cases hzero : s.rcvCount = 0
  · rw [if_pos hzero]
    split
    · exact ⟨_, hpush, rfl, hlt⟩
    · exact ⟨s, rfl, rfl, Nat.le_of_lt hlt⟩
  rw [if_neg hzero]
  by_cases hnine : s.rcvCount = 9
  · rw [if_pos hnine, hpush]
    refine ⟨_, if_pos ?_, rfl, hlt⟩
    rw [lengthField_push hnine]
    exact hfits hnine
  rw [if_neg hnine]
  by_cases hlast : s.rcvCount = s.rcvLen + 13
  · rw [if_pos hlast, store_of_lt hlt]
    have hread : read { s with rcvBuffer := s.rcvBuffer.set s.rcvCount b } (s.rcvLen + 14)
        = .ok ((s.rcvBuffer.set s.rcvCount b).bytes.take (s.rcvLen + 14)) :=
      read_of_le (by omega)
    simp only [bind, Except.bind, hread]
    refine ⟨_, rfl, ?_, Nat.zero_le _⟩
    cases protocolParse ((s.rcvBuffer.set s.rcvCount b).bytes.take (s.rcvLen + 14)) <;> rfl
  · rw [if_neg hlast]
    exact ⟨_, hpush, rfl, hlt⟩

theorem receive_assertFailed (dev : UsbDevice σ) {b : UInt8}
    (h : ¬s.FieldFits b) : s.receive dev b = .error .assertFailed := by
  unfold FieldFits at h
  rw [Classical.not_imp] at h
  obtain ⟨hnine, hlarge⟩ := h
  have hmax : PROTOCOL_MAX_LENGTH = 4500 := rfl
  unfold receive
  rw [if_neg (by omega), if_neg (by omega), if_pos hnine, push_of_lt (by omega)]
  refine if_neg ?_
  rw [lengthField_push hnine]
  exact hlarge

theorem receive_keeps (dev : UsbDevice σ) (s : ProtocolParser σ) (b : UInt8)
    (s' : ProtocolParser σ) (hs : s.Steady) (h : s.receive dev b = .ok s') : s'.Steady := by
  by_cases hfits : s.FieldFits b
  · obtain ⟨s₁, h₁, hsend, hcount⟩ := receive_ok dev hfits
    rw [h] at h₁
    cases h₁
    exact ⟨hsend.trans hs.1, hcount⟩
  · rw [receive_assertFailed dev hfits] at h
    cases h

theorem receive_ok_iff (dev : UsbDevice σ) (s : ProtocolParser σ) (b : UInt8) :
    (∃ s', s.receive dev b = .ok s') ↔ s.FieldFits b := by
  constructor
  · rintro ⟨s', h⟩
    by_contra hfits
    rw [receive_assertFailed dev hfits] at h
    cases h
  · intro hfits
    obtain ⟨s', h, -⟩ := receive_ok dev hfits
    exact ⟨s', h⟩

/-- What an event has to be like for the parser to take it. A gap is always taken. -/
def Fits (dev : UsbDevice σ) (s : ProtocolParser σ) : Event → Prop
  | .chunk data => data.length ≤ PROTOCOL_MAX_LENGTH ∧ Meets (receive dev) FieldFits s data
  | .timeout => True

theorem parse_of_short {dev : UsbDevice σ} {data : List UInt8}
    (hs : s.Steady) (hshort : data.length ≤ PROTOCOL_MAX_LENGTH) :
    s.parse dev data = data.foldlM (receive dev) s := by
  unfold parse
  rw [hs.1, if_neg (by decide), if_pos hshort]

theorem step_keeps (dev : UsbDevice σ) (s : ProtocolParser σ) (e : Event) (s' : ProtocolParser σ)
    (hs : s.Steady) (h : s.step dev e = .ok s') : s'.Steady := by
  cases e with
  | timeout =>
    cases h
    exact ⟨hs.1, Nat.zero_le _⟩
  | chunk data =>
    by_cases hshort : data.length ≤ PROTOCOL_MAX_LENGTH
    · exact foldlM_keeps (receive_keeps dev) hs ((parse_of_short hs hshort).symm.trans h)
    · rw [step, parse, hs.1, if_neg (by decide), if_neg hshort] at h
      cases h

theorem step_ok_iff (dev : UsbDevice σ) (s : ProtocolParser σ) (e : Event) (hs : s.Steady) :
    (∃ s', s.step dev e = .ok s') ↔ s.Fits dev e := by
  cases e with
  | timeout => exact ⟨fun _ => trivial, fun _ => ⟨_, rfl⟩⟩
  | chunk data =>
    by_cases hshort : data.length ≤ PROTOCOL_MAX_LENGTH
    · rw [step, parse_of_short hs hshort, Fits, and_iff_right hshort]
      exact foldlM_ok_iff (receive_keeps dev) (fun s b _ => receive_ok_iff dev s b) hs
    · rw [step, parse, hs.1, if_neg (by decide), if_neg hshort]
      exact ⟨fun ⟨_, h⟩ => (by cases h), fun h => absurd h.1 hshort⟩

theorem foldlM_receive_refines (dev : UsbDevice σ) (hs : s.Steady)
    (data : List UInt8) :
    (data.foldlM (receive dev) s).toOption.map receiver
      = internalProtocolParse dev s.receiver data := by
  induction data generalizing s with
  | nil => rfl
  | cons b data ih =>
    rw [List.foldlM_cons, internalProtocolParse, ← receive_refines dev hs.2 b]
    cases h : s.receive dev b with
    | error e => rfl
    | ok s₁ => exact ih (receive_keeps dev s b s₁ hs h)

theorem run_chunks (dev : UsbDevice σ) : ∀ {chunks : List (List UInt8)} {s : ProtocolParser σ},
    s.Steady → (∀ c ∈ chunks, c.length ≤ PROTOCOL_MAX_LENGTH) →
    run dev s (chunks.map .chunk) = chunks.flatten.foldlM (receive dev) s
  | [], s, _, _ => rfl
  | c :: chunks, s, hs, hshort => by
    have hc := hshort c (.head _)
    rw [List.flatten_cons, List.foldlM_append, ← parse_of_short hs hc]
    show (s.parse dev c >>= fun s => run dev s (chunks.map .chunk)) = _
    cases h : s.parse dev c with
    | error e => rfl
    | ok s₁ =>
      exact run_chunks dev (step_keeps dev s (.chunk c) s₁ hs h)
        fun d hd => hshort d (List.mem_cons_of_mem c hd)

/-- **A valid frame after a gap is executed**, in whatever pieces it comes. -/
theorem run_accepts (dev : UsbDevice σ) (hs : s.Steady) (f : ValidFrame)
    {chunks : List (List UInt8)} (hchunks : chunks.flatten = f.bytes) :
    ∃ s', run dev s (.timeout :: chunks.map .chunk) = .ok s'
      ∧ s'.receiver = (s.receiver.execute dev f.content).idle := by
  have hidle : ({ s with rcvCount := 0 } : ProtocolParser σ).Steady := ⟨hs.1, Nat.zero_le _⟩
  have hshort : ∀ c ∈ chunks, c.length ≤ PROTOCOL_MAX_LENGTH := by
    intro c hc
    have hsub := (List.sublist_flatten_of_mem hc).length_le
    have hfits := f.fits
    rw [hchunks] at hsub
    omega
  have hfeed := foldlM_receive_refines dev hidle f.bytes
  rw [feed_frame dev _ f rfl] at hfeed
  obtain ⟨s', hrun, hs'⟩ := Option.map_eq_some_iff.mp hfeed
  refine ⟨s', ?_, hs'⟩
  show run dev { s with rcvCount := 0 } (chunks.map .chunk) = .ok s'
  rw [run_chunks dev hidle hshort, hchunks]
  cases h : f.bytes.foldlM (receive dev) { s with rcvCount := 0 } with
  | error e => rw [h] at hrun; cases hrun
  | ok s₁ => rw [h] at hrun; cases hrun; rfl

/-- After any part of the events no fault has happened, and when a gap follows, the next
valid frame is executed. -/
def StaysReady (dev : UsbDevice σ) (device : σ) (events : List Event) : Prop :=
  ∀ n, ∃ s, run dev (start device) (events.take n) = .ok s
    ∧ ∀ (f : ValidFrame) (chunks : List (List UInt8)), chunks.flatten = f.bytes →
      ∃ s', run dev s (.timeout :: chunks.map .chunk) = .ok s'
        ∧ s'.receiver = (s.receiver.execute dev f.content).idle

theorem steady_start (device : σ) : (start device).Steady := ⟨rfl, Nat.zero_le _⟩

/-- **The parser stays ready**, for any events, if and only if each of them fits when it
comes. -/
theorem staysReady_iff (dev : UsbDevice σ) (device : σ) (events : List Event) :
    StaysReady dev device events ↔ Meets (step dev) (Fits dev) (start device) events := by
  have hrun : (∃ s, run dev (start device) events = .ok s)
      ↔ Meets (step dev) (Fits dev) (start device) events :=
    foldlM_ok_iff (step_keeps dev) (step_ok_iff dev) (steady_start device)
  rw [← hrun]
  constructor
  · intro h
    obtain ⟨s, hs, -⟩ := h events.length
    rw [List.take_length] at hs
    exact ⟨s, hs⟩
  · rintro ⟨s', h⟩ n
    obtain ⟨s, hs⟩ := foldlM_take h n
    exact ⟨s, hs, fun f chunks =>
      run_accepts dev (foldlM_keeps (step_keeps dev) (steady_start device) hs) f⟩

def largeLength : List UInt8 := [0x6B, 0, 0, 0, 1, 1, 0, 0, 0xFF, 0xFF]

theorem not_staysReady_largeLength : ¬∀ (σ : Type) (dev : UsbDevice σ) (device : σ)
    (events : List Event), StaysReady dev device events := by
  intro h
  obtain ⟨s, hs, -⟩ := h Nat sampleDevice 0 [.chunk largeLength] 1
  have hpieces := run_chunks sampleDevice (steady_start 0)
    (show ∀ c ∈ [largeLength], c.length ≤ PROTOCOL_MAX_LENGTH by decide)
  have hfed : largeLength.foldlM (receive sampleDevice) (start 0) = .ok s := hpieces.symm.trans hs
  have hrefines := foldlM_receive_refines sampleDevice (steady_start 0) largeLength
  rw [hfed] at hrefines
  have hnone : internalProtocolParse sampleDevice (start 0).receiver largeLength = none := rfl
  exact absurd (hrefines.trans hnone) (by simp [Except.toOption])

end ProtocolParser

end Keystone3
