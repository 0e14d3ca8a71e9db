import Mathlib.Data.List.Chain
import Mathlib.Data.List.Forall2
import Mathlib.Data.List.GetD
import Keystone3.Bytes.Block
import Keystone3.Logic.Framer

/-!
# The receiver of the fingerprint module

A frame is the head `0xAA`, two length bytes, low byte first, and as many bytes as they
say.

The expected length is computed when the first length byte is stored, from that byte and
from what the buffer holds in the place of the second. It is right for the frames
whose second length byte is zero, and the frames whose first one is zero are never seen
to end.
-/

namespace Keystone3.Finger

open Bytes (Block)
open Logic (Framer.push Framer.Framed Framer.push_open Framer.push_idle)

abbrev RCV_MSG_MAX_LEN : Nat := 512

def FINGERPRINT_CMD_FRAME_SYNC_HEAD : UInt8 := 0xAA

def FINGERPRINT_CMD_LOW_POWER : UInt16 := 0xD400

/-- The static variables of `FingerprintIsrRecvProcess`, and the ones it shares with
the fingerprint task. -/
structure Receiver where
  rcvByteCount : Nat
  totalLen : Nat
  lastTick : UInt32
  intrRecvBuffer : Block RCV_MSG_MAX_LEN
  g_intrRecvBuffer : Block RCV_MSG_MAX_LEN
  g_delayCmd : UInt16
  g_fpRandomKey : Block 16

/-- What becomes of a complete frame: its bytes are in `g_intrRecvBuffer` and the event
of the task is set, or its random key answers the pending low power command. -/
inductive Output
  | toTask (message : List UInt8)
  | lowPower (random : Block 16)

namespace Receiver

def boot : Receiver where
  rcvByteCount := 0
  totalLen := 0
  lastTick := 0
  intrRecvBuffer := .zero _
  g_intrRecvBuffer := .zero _
  g_delayCmd := 0
  g_fpRandomKey := ⟨[0x1, 0x2, 0x3, 0x4, 0x5, 0x6, 0x7, 0x8, 0x9, 0xa, 0xb, 0xc, 0xd, 0xe, 0xf,
    0x10], rfl⟩

def dropLate (tick : UInt32) (r : Receiver) : Receiver :=
  if r.rcvByteCount ≠ 0 ∧ tick - r.lastTick > 200 then
    { r with rcvByteCount := 0, g_intrRecvBuffer := .zero _ }
  else r

/-- `intrRecvBuffer[rcvByteCount++] = byte`. Behind the buffer it is `none`. -/
def store (byte : UInt8) (r : Receiver) : Option Receiver :=
  if r.rcvByteCount < RCV_MSG_MAX_LEN then
    some { r with
      intrRecvBuffer := r.intrRecvBuffer.set r.rcvByteCount byte
      rcvByteCount := r.rcvByteCount + 1 }
  else none

def stored (r : Receiver) : List UInt8 := r.intrRecvBuffer.bytes.take r.rcvByteCount

def expectedLen (r : Receiver) : Nat :=
  ((r.intrRecvBuffer.get 2).toNat * 256 + (r.intrRecvBuffer.get 1).toNat + 3) % 65536

def randomKey (frame : List UInt8) : Block 16 := .ofBytes 16 (frame.drop 15)

/-- What becomes of a frame while the command `delayCmd` is pending. -/
def outputOf (delayCmd : UInt16) (frame : List UInt8) : Output :=
  if delayCmd = FINGERPRINT_CMD_LOW_POWER ∧ frame.length = 0x27 then
    .lowPower (randomKey frame)
  else .toTask frame

def deliver (r : Receiver) : Receiver × Output :=
  let cleared := { r with intrRecvBuffer := .zero _, rcvByteCount := 0, totalLen := 0 }
  if r.g_delayCmd = FINGERPRINT_CMD_LOW_POWER ∧ r.totalLen = 0x27 then
    let key : Block 16 := .ofBytes 16 (r.intrRecvBuffer.bytes.drop 15)
    ({ cleared with g_fpRandomKey := key, g_delayCmd := 0 }, .lowPower key)
  else
    ({ cleared with g_intrRecvBuffer := r.g_intrRecvBuffer.overwrite r.stored }, .toTask r.stored)

def takeByte (byte : UInt8) (r : Receiver) : Option (Receiver × Option Output) :=
  if r.rcvByteCount = 0 then
    if byte = FINGERPRINT_CMD_FRAME_SYNC_HEAD then
      (r.store byte).map fun r => (r, none)
    else some ({ r with intrRecvBuffer := .zero _ }, none)
  else if r.rcvByteCount = 1 ∨ r.rcvByteCount = 2 then
    (r.store byte).map fun r =>
      -- the second length byte is not there yet
      if r.rcvByteCount = 2 then ({ r with totalLen := r.expectedLen }, none) else (r, none)
  else
    (r.store byte).map fun r =>
      if r.rcvByteCount = r.totalLen then (r.deliver.1, some r.deliver.2) else (r, none)

end Receiver

open Receiver

/-- `FingerprintIsrRecvProcess`, at a tick of the kernel. -/
def FingerprintIsrRecvProcess (kernelRunning : Bool) (tick : UInt32) (byte : UInt8)
    (r : Receiver) : Option (Receiver × Option Output) :=
  if kernelRunning then
    ({ r.dropLate tick with lastTick := tick } : Receiver).takeByte byte
  else some (r, none)

/-- What happens to the variables of the receiver: an interrupt, a command of another
task that waits for its turn, and the task that is done with a message. -/
inductive Event
  | isr (kernelRunning : Bool) (tick : UInt32) (byte : UInt8)
  | delayCmd (cmd : UInt16)
  | handled

def step : Event → Receiver → Option (Receiver × Option Output)
  | .isr kernelRunning tick byte, r => FingerprintIsrRecvProcess kernelRunning tick byte r
  | .delayCmd cmd, r => some ({ r with g_delayCmd := cmd }, none)
  | .handled, r => some ({ r with g_intrRecvBuffer := .zero _ }, none)

def run : List Event → Receiver → Option (Receiver × List Output)
  | [], r => some (r, [])
  | e :: es, r => do
    let (r, out) ← step e r
    let (r, outs) ← run es r
    return (r, out.toList ++ outs)

def Event.arrival : Event → Option (UInt32 × UInt8)
  | .isr true tick byte => some (tick, byte)
  | .isr false _ _ => none
  | .delayCmd _ => none
  | .handled => none

def bytesOf (es : List Event) : List UInt8 := (es.filterMap Event.arrival).map Prod.snd

def ticksOf (es : List Event) : List UInt32 := (es.filterMap Event.arrival).map Prod.fst

def headerLen (w : List UInt8) : Nat := (w.getD 2 0).toNat * 256 + (w.getD 1 0).toNat

def isHead (b : UInt8) : Bool := b == FINGERPRINT_CMD_FRAME_SYNC_HEAD

def isComplete (w : List UInt8) : Bool := decide (3 ≤ w.length ∧ w.length = headerLen w + 3)

/-- Exactly one frame: the head, and as many bytes as its header says. -/
structure IsFrame (w : List UInt8) : Prop where
  head : w.head? = some FINGERPRINT_CMD_FRAME_SYNC_HEAD
  length : w.length = headerLen w + 3

theorem isComplete_iff {w : List UInt8} :
    isComplete w = true ↔ 3 ≤ w.length ∧ w.length = headerLen w + 3 := by
  unfold isComplete
  exact decide_eq_true_iff

theorem headerLen_prefix {w f : List UInt8} (h : w <+: f) (hw : 3 ≤ w.length) :
    headerLen w = headerLen f := by
  obtain ⟨rest, hrest⟩ := h
  subst hrest
  unfold headerLen
  rw [List.getD_append _ _ _ _ (by omega), List.getD_append _ _ _ _ (by omega)]

theorem IsFrame.framed {f : List UInt8} (h : IsFrame f) : Framer.Framed isHead isComplete f := by
  refine ⟨?_, isComplete_iff.mpr ⟨?_, h.length⟩, ?_⟩
  · cases f with
    | nil => cases h.head
    | cons a rest =>
      have ha : a = FINGERPRINT_CMD_FRAME_SYNC_HEAD := Option.some.inj h.head
      exact ⟨a, rest, rfl, by rw [ha]; rfl⟩
  · have := h.length
    omega
  · intro w hw hne
    by_contra hc
    rw [Bool.not_eq_false, isComplete_iff] at hc
    have hlen : w.length = f.length := by
      rw [hc.2, h.length, headerLen_prefix hw hc.1]
    exact hne (hw.eq_of_length hlen)

namespace Receiver

/-- The receiver inside a frame whose second length byte is zero. -/
structure Collecting (r : Receiver) : Prop where
  high : r.intrRecvBuffer.get 2 = 0
  total : 2 ≤ r.rcvByteCount → r.totalLen = (r.intrRecvBuffer.get 1).toNat + 3
  inside : 3 ≤ r.rcvByteCount → r.rcvByteCount < r.totalLen

/-- The header that the byte completes, if it does, gives a length of 1 to 255. -/
def ShortHeader (byte : UInt8) (r : Receiver) : Prop :=
  r.rcvByteCount = 2 → byte = 0 ∧ r.intrRecvBuffer.get 1 ≠ 0

instance (byte : UInt8) (r : Receiver) : Decidable (ShortHeader byte r) := by
  unfold ShortHeader
  infer_instance

theorem Collecting.count_lt {r : Receiver} (h : r.Collecting) :
    r.rcvByteCount < RCV_MSG_MAX_LEN := by
  by_cases h3 : 3 ≤ r.rcvByteCount
  · have htotal := h.total (by omega)
    have hin := h.inside h3
    have hbyte := (r.intrRecvBuffer.get 1).toNat_lt
    show r.rcvByteCount < 512
    omega
  · show r.rcvByteCount < 512
    omega

theorem Collecting.length_stored {r : Receiver} (h : r.Collecting) :
    r.stored.length = r.rcvByteCount := by
  have := h.count_lt
  show (r.intrRecvBuffer.bytes.take r.rcvByteCount).length = r.rcvByteCount
  rw [List.length_take, r.intrRecvBuffer.size_eq]
  omega

theorem stored_idle {r : Receiver} (h : r.rcvByteCount = 0) : r.stored = [] := by
  unfold stored
  rw [h]
  rfl

def grown (byte : UInt8) (r : Receiver) : Receiver :=
  { r with
    intrRecvBuffer := r.intrRecvBuffer.set r.rcvByteCount byte
    rcvByteCount := r.rcvByteCount + 1 }

variable {byte : UInt8}

theorem store_eq {r : Receiver} (h : r.rcvByteCount < RCV_MSG_MAX_LEN) :
    r.store byte = some (r.grown byte) := by
  unfold store
  rw [if_pos h]
  rfl

theorem store_outside {r : Receiver} (h : r.rcvByteCount = RCV_MSG_MAX_LEN) :
    r.store byte = none := by
  unfold store
  rw [if_neg (by omega)]

theorem stored_grown {r : Receiver} (h : r.rcvByteCount < RCV_MSG_MAX_LEN) :
    (r.grown byte).stored = r.stored ++ [byte] :=
  Block.take_set h

theorem headerLen_stored {r : Receiver} (h : 3 ≤ r.rcvByteCount) :
    headerLen r.stored =
      (r.intrRecvBuffer.get 2).toNat * 256 + (r.intrRecvBuffer.get 1).toNat := by
  unfold headerLen stored
  rw [← Block.get_eq_take _ (by omega), ← Block.get_eq_take _ (by omega)]

private theorem not_isComplete {w : List UInt8} (h : w.length < 3) : isComplete w = false := by
  by_contra hc
  rw [Bool.not_eq_false, isComplete_iff] at hc
  omega

private theorem isComplete_grown {r : Receiver}
    (hfit : r.rcvByteCount < RCV_MSG_MAX_LEN) (h : 2 ≤ r.rcvByteCount) :
    isComplete (r.stored ++ [byte]) = true ↔ r.rcvByteCount + 1 =
      ((r.grown byte).intrRecvBuffer.get 2).toNat * 256 +
        ((r.grown byte).intrRecvBuffer.get 1).toNat + 3 := by
  have hlen : (r.stored ++ [byte]).length = r.rcvByteCount + 1 := by
    rw [List.length_append]
    show (r.intrRecvBuffer.bytes.take r.rcvByteCount).length + 1 = _
    rw [List.length_take, r.intrRecvBuffer.size_eq]
    omega
  have hheader := headerLen_stored (r := r.grown byte) (show 3 ≤ r.rcvByteCount + 1 by omega)
  rw [stored_grown hfit] at hheader
  rw [isComplete_iff, hlen, hheader]
  constructor
  · intro hc
    exact hc.2
  · intro hc
    exact ⟨by omega, hc⟩

private theorem ofBytes_take_of_le {n k : Nat} (bs : List UInt8) (h : n ≤ k) :
    Block.ofBytes n (bs.take k) = Block.ofBytes n bs := by
  apply Block.ext
  show (bs.take k).take n ++ List.replicate (n - (bs.take k).length) 0 =
    bs.take n ++ List.replicate (n - bs.length) 0
  have hpad : n - (bs.take k).length = n - bs.length := by
    rw [List.length_take]
    omega
  rw [List.take_take, Nat.min_eq_left h, hpad]

theorem deliver_output {r : Receiver} (h : r.rcvByteCount = r.totalLen)
    (hlen : r.stored.length = r.rcvByteCount) :
    r.deliver.2 = outputOf r.g_delayCmd r.stored := by
  unfold deliver outputOf
  rw [hlen, h]
  by_cases hlow : r.g_delayCmd = FINGERPRINT_CMD_LOW_POWER ∧ r.totalLen = 0x27
  · rw [if_pos hlow, if_pos hlow]
    have hkey : randomKey r.stored = Block.ofBytes 16 (r.intrRecvBuffer.bytes.drop 15) := by
      unfold randomKey stored
      rw [h, hlow.2, List.drop_take]
      exact ofBytes_take_of_le _ (by decide)
    rw [hkey]
  · rw [if_neg hlow, if_neg hlow]

theorem deliver_idle (r : Receiver) : r.deliver.1.rcvByteCount = 0 ∧
    r.deliver.1.intrRecvBuffer = .zero _ ∧ r.deliver.1.lastTick = r.lastTick ∧
    (r.deliver.1.g_delayCmd = r.g_delayCmd ∨ r.deliver.1.g_delayCmd = 0) := by
  unfold deliver
  split
  · exact ⟨rfl, rfl, rfl, .inr rfl⟩
  · exact ⟨rfl, rfl, rfl, .inl rfl⟩

theorem collecting_idle {r : Receiver} (h : r.rcvByteCount = 0)
    (hhigh : r.intrRecvBuffer.get 2 = 0) : r.Collecting :=
  ⟨hhigh, fun h2 => by omega, fun h3 => by omega⟩

/-- What one byte does to a receiver that is the framer of short frames. -/
structure Takes (byte : UInt8) (r r' : Receiver) (out : Option (List UInt8)) : Prop where
  collecting : r'.Collecting
  push : Framer.push isHead isComplete r.stored byte = (r'.stored, out)
  lastTick : r'.lastTick = r.lastTick
  delayCmd : r'.g_delayCmd = r.g_delayCmd ∨ r'.g_delayCmd = 0

private theorem takes_first {r : Receiver} (h : r.Collecting)
    (h0 : r.rcvByteCount = 0) :
    ∃ r', r.takeByte byte = some (r', none) ∧ Takes byte r r' none := by
  have hnil : r.stored = [] := stored_idle h0
  unfold takeByte
  rw [if_pos h0]
  by_cases hhead : byte = FINGERPRINT_CMD_FRAME_SYNC_HEAD
  · rw [if_pos hhead, store_eq h.count_lt]
    have hgrown := @stored_grown byte _ h.count_lt
    refine ⟨r.grown byte, rfl, ⟨?_, ?_, ?_⟩, ?_, rfl, .inl rfl⟩
    · show (r.intrRecvBuffer.set r.rcvByteCount byte).get 2 = 0
      rw [Block.get_set_ne (by omega)]
      exact h.high
    · intro h2
      have : (r.grown byte).rcvByteCount = 1 := congrArg (· + 1) h0
      omega
    · intro h3
      have : (r.grown byte).rcvByteCount = 1 := congrArg (· + 1) h0
      omega
    · rw [Framer.push_open (.inr (by rw [hhead]; rfl)), hgrown, hnil]
      rw [not_isComplete (by simp)]
      rfl
  · rw [if_neg hhead]
    refine ⟨_, rfl, collecting_idle h0 (Block.get_zero 2), ?_, rfl, .inl rfl⟩
    rw [hnil, Framer.push_idle (by
      show (byte == FINGERPRINT_CMD_FRAME_SYNC_HEAD) = false
      exact beq_eq_false_iff_ne.mpr hhead)]
    exact congrArg (·, none) (stored_idle (by exact h0)).symm

private theorem takes_header {r : Receiver} (h : r.Collecting)
    (h12 : r.rcvByteCount = 1 ∨ r.rcvByteCount = 2) (hshort : r.ShortHeader byte) :
    ∃ r', r.takeByte byte = some (r', none) ∧ Takes byte r r' none := by
  have hne : r.stored ≠ [] := by
    intro hnil
    have hlen := h.length_stored
    rw [hnil] at hlen
    cases h12 with
    | inl h1 => exact absurd (hlen.trans h1) (by decide)
    | inr h2 => exact absurd (hlen.trans h2) (by decide)
  have hgrown := @stored_grown byte _ h.count_lt
  unfold takeByte
  rw [if_neg (by omega), if_pos h12, store_eq h.count_lt]
  rcases h12 with h1 | h2
  · -- the expected length is computed with the zero left in the third place
    have hcount : (r.grown byte).rcvByteCount = 2 := congrArg (· + 1) h1
    have hget1 : (r.grown byte).intrRecvBuffer.get 1 = byte := by
      show (r.intrRecvBuffer.set r.rcvByteCount byte).get 1 = byte
      rw [h1]
      exact Block.get_set_self (by decide)
    have hget2 : (r.grown byte).intrRecvBuffer.get 2 = 0 := by
      show (r.intrRecvBuffer.set r.rcvByteCount byte).get 2 = 0
      rw [Block.get_set_ne (by omega)]
      exact h.high
    refine ⟨{ r.grown byte with totalLen := (r.grown byte).expectedLen }, ?_, ⟨hget2, ?_, ?_⟩,
      ?_, rfl, Or.inl rfl⟩
    · show (some (if (r.grown byte).rcvByteCount = 2 then
        ({ r.grown byte with totalLen := (r.grown byte).expectedLen }, none)
        else (r.grown byte, none))) = _
      rw [if_pos hcount]
    · intro _
      have hbyte := byte.toNat_lt
      show (r.grown byte).expectedLen = ((r.grown byte).intrRecvBuffer.get 1).toNat + 3
      unfold expectedLen
      rw [hget1, hget2]
      show (0 * 256 + byte.toNat + 3) % 65536 = byte.toNat + 3
      omega
    · intro h3
      exact absurd (hcount ▸ h3) (by decide)
    · rw [Framer.push_open (Or.inl hne), not_isComplete (by
        rw [List.length_append, h.length_stored, h1]
        show 1 + 1 < 3
        decide)]
      exact congrArg (·, none) hgrown.symm
  · obtain ⟨hzero, hlow⟩ := hshort h2
    have hcount : (r.grown byte).rcvByteCount = 3 := congrArg (· + 1) h2
    have hget1 : (r.grown byte).intrRecvBuffer.get 1 = r.intrRecvBuffer.get 1 := by
      show (r.intrRecvBuffer.set r.rcvByteCount byte).get 1 = _
      exact Block.get_set_ne (by omega)
    have hget2 : (r.grown byte).intrRecvBuffer.get 2 = 0 := by
      show (r.intrRecvBuffer.set r.rcvByteCount byte).get 2 = 0
      rw [h2, hzero]
      exact Block.get_set_self (by decide)
    have htotal : (r.grown byte).totalLen = (r.intrRecvBuffer.get 1).toNat + 3 := h.total (by omega)
    have hpos : (r.intrRecvBuffer.get 1).toNat ≠ 0 := by
      intro hz
      exact hlow (UInt8.toNat_inj.mp hz)
    refine ⟨r.grown byte, ?_, ⟨hget2, ?_, ?_⟩, ?_, rfl, Or.inl rfl⟩
    · show (some (if (r.grown byte).rcvByteCount = 2 then _ else (r.grown byte, none))) = _
      rw [if_neg (by omega)]
    · intro _
      rw [htotal, hget1]
    · intro _
      omega
    · have hnot : ¬ isComplete (r.stored ++ [byte]) = true := by
        rw [isComplete_grown h.count_lt (by omega), hget1, hget2, h2]
        show ¬ 2 + 1 = 0 * 256 + (r.intrRecvBuffer.get 1).toNat + 3
        omega
      rw [Framer.push_open (Or.inl hne), if_neg hnot, hgrown]

private theorem takes_body {r : Receiver} (h : r.Collecting)
    (h3 : 3 ≤ r.rcvByteCount) :
    ∃ r' out, r.takeByte byte = some (r', out.map (outputOf r.g_delayCmd)) ∧
      Takes byte r r' out := by
  have hne : r.stored ≠ [] := by
    intro hnil
    have hlen := h.length_stored
    rw [hnil] at hlen
    have : 0 = r.rcvByteCount := hlen
    omega
  have hgrown := @stored_grown byte _ h.count_lt
  have hget1 : (r.grown byte).intrRecvBuffer.get 1 = r.intrRecvBuffer.get 1 :=
    Block.get_set_ne (by omega)
  have hget2 : (r.grown byte).intrRecvBuffer.get 2 = 0 := by
    rw [← h.high]
    exact Block.get_set_ne (by omega)
  have htotal := h.total (by omega)
  have hcomplete : isComplete (r.stored ++ [byte]) = true ↔ r.rcvByteCount + 1 = r.totalLen := by
    rw [isComplete_grown h.count_lt (by omega), hget1, hget2, htotal]
    show r.rcvByteCount + 1 = 0 * 256 + _ + 3 ↔ _
    rw [Nat.zero_mul, Nat.zero_add]
  unfold takeByte
  rw [if_neg (by omega), if_neg (by omega), store_eq h.count_lt]
  by_cases hend : r.rcvByteCount + 1 = r.totalLen
  · have hlen : (r.grown byte).stored.length = (r.grown byte).rcvByteCount := by
      rw [hgrown, List.length_append, h.length_stored]
      rfl
    obtain ⟨hcount, hbuffer, htick, hcmd⟩ := deliver_idle (r.grown byte)
    refine ⟨(r.grown byte).deliver.1, some (r.grown byte).stored, ?_,
      collecting_idle hcount ?_, ?_, htick, hcmd⟩
    · show (some (if (r.grown byte).rcvByteCount = (r.grown byte).totalLen then
        ((r.grown byte).deliver.1, some (r.grown byte).deliver.2) else (r.grown byte, none))) = _
      rw [if_pos (show (r.grown byte).rcvByteCount = (r.grown byte).totalLen from hend),
        deliver_output hend hlen]
      rfl
    · rw [hbuffer]
      exact Block.get_zero 2
    · rw [Framer.push_open (.inl hne), if_pos (hcomplete.mpr hend), hgrown, stored_idle hcount]
  · refine ⟨r.grown byte, none, ?_, ⟨hget2, ?_, ?_⟩, ?_, rfl, .inl rfl⟩
    · show (some (if (r.grown byte).rcvByteCount = (r.grown byte).totalLen then
        ((r.grown byte).deliver.1, some (r.grown byte).deliver.2) else (r.grown byte, none))) = _
      rw [if_neg (show ¬ (r.grown byte).rcvByteCount = (r.grown byte).totalLen from hend)]
      rfl
    · intro _
      rw [hget1]
      exact htotal
    · intro _
      have hin := h.inside h3
      show r.rcvByteCount + 1 < r.totalLen
      omega
    · rw [Framer.push_open (.inl hne), if_neg (fun hc => hend (hcomplete.mp hc)), hgrown]

/-- **With a short header the receiver is the framer of these frames.** -/
theorem takeByte_push {r : Receiver} (h : r.Collecting)
    (hshort : r.ShortHeader byte) :
    ∃ r' out, r.takeByte byte = some (r', out.map (outputOf r.g_delayCmd)) ∧
      Takes byte r r' out := by
  by_cases h0 : r.rcvByteCount = 0
  · obtain ⟨r', hr, ht⟩ := @takes_first byte _ h h0
    exact ⟨r', none, hr, ht⟩
  · by_cases h12 : r.rcvByteCount = 1 ∨ r.rcvByteCount = 2
    · obtain ⟨r', hr, ht⟩ := takes_header h h12 hshort
      exact ⟨r', none, hr, ht⟩
    · exact takes_body h (by omega)

end Receiver

end Keystone3.Finger
