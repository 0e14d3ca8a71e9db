import Mathlib.Data.List.Basic
import Keystone3.Usb.Eapdu

/-!
# The order of an EAPDU message's frames

What the parser makes of one message when its frames arrive in some order, some of them
more than once. `Holding msg seen s` says that just the frames with the numbers `seen`
are in their slots.

* A first frame with another number than 0 is dispatched at once, as a request without
  data (`step_early`): the count is still zero.
* From frame 0 on the parser waits (`step_wait`) until the last missing frame has come,
  and dispatches the message (`step_last`).
-/

namespace Keystone3

open List (append_nil cons_ne_nil map_cons map_map mem_append mem_cons mem_range)

def insert16bitValue (value : UInt16) : List UInt8 :=
  [UInt8.ofNat (value.toNat >>> 8), UInt8.ofNat (value.toNat &&& 0xFF)]

def EApduFrame.bytes (f : EApduFrame) : List UInt8 :=
  f.cla :: (insert16bitValue f.ins ++ insert16bitValue f.p1 ++ insert16bitValue f.p2
    ++ insert16bitValue f.lc ++ f.data)

theorem insert16bitValue_read (value : UInt16) :
    (UInt8.ofNat (value.toNat >>> 8)).toUInt16 <<< 8
      ||| (UInt8.ofNat (value.toNat &&& 0xFF)).toUInt16 = value := by
  have hbound : value.toNat < 65536 := value.toNat_lt
  have hhigh : (UInt8.ofNat (value.toNat >>> 8)).toNat = value.toNat / 256 := by
    rw [UInt8.toNat_ofNat', Nat.shiftRight_eq_div_pow]
    omega
  have hlow : (UInt8.ofNat (value.toNat &&& 0xFF)).toNat = value.toNat % 256 := by
    rw [UInt8.toNat_ofNat', show (0xFF : Nat) = 2 ^ 8 - 1 from rfl, Nat.and_two_pow_sub_one_eq_mod]
    omega
  apply UInt16.toNat_inj.mp
  have hfit : (value.toNat / 256) <<< 8 % 2 ^ 16 = (value.toNat / 256) <<< 8 := by
    rw [Nat.shiftLeft_eq]
    omega
  rw [UInt16.toNat_or, UInt16.toNat_shiftLeft, UInt8.toNat_toUInt16, UInt8.toNat_toUInt16, hlow,
    hhigh, show (8 : UInt16).toNat % 16 = 8 from rfl, hfit,
    ← Nat.shiftLeft_add_eq_or_of_lt (show value.toNat % 256 < 2 ^ 8 by omega), Nat.shiftLeft_eq]
  omega

theorem frameParser_bytes (f : EApduFrame) : frameParser f.bytes = some f := by
  have hlen : ¬f.bytes.length < OFFSET_CDATA :=
    Nat.not_lt_of_le (Nat.le_add_left OFFSET_CDATA f.data.length)
  have hins : extract16bitValue f.bytes 1 = f.ins := insert16bitValue_read f.ins
  have hp1 : extract16bitValue f.bytes 3 = f.p1 := insert16bitValue_read f.p1
  have hp2 : extract16bitValue f.bytes 5 = f.p2 := insert16bitValue_read f.p2
  have hlc : extract16bitValue f.bytes 7 = f.lc := insert16bitValue_read f.lc
  unfold frameParser
  rw [if_neg hlen, hins, hp1, hp2, hlc]
  rfl

/-- A message: the data of its frames, one to two hundred of them, each fitting a
slot. -/
structure EApduMessage where
  cla : UInt8
  ins : UInt16
  lc : UInt16
  payloads : List (List UInt8)
  nonempty : 1 ≤ payloads.length
  few : payloads.length ≤ MAX_PACKETS
  fits : ∀ data ∈ payloads, data.length ≤ MAX_PACKETS_LENGTH

namespace EApduMessage

def count (msg : EApduMessage) : Nat := msg.payloads.length

/-- The frame with number `i`. -/
def frame (msg : EApduMessage) (i : Nat) : EApduFrame where
  cla := msg.cla
  ins := msg.ins
  p1 := UInt16.ofNat msg.count
  p2 := UInt16.ofNat i
  lc := msg.lc
  data := msg.payloads.getD i []

def packet (msg : EApduMessage) (i : Nat) : List UInt8 := (msg.frame i).bytes

def request (msg : EApduMessage) : EApduRequest where
  cla := msg.cla
  data := msg.payloads.flatten
  dataLen := msg.payloads.flatten.length
  requestID := msg.lc
  commandType := msg.ins

variable (msg : EApduMessage)

theorem count_le : msg.count ≤ 200 := msg.few

theorem toNat_p1 (i : Nat) : (msg.frame i).p1.toNat = msg.count := by
  have hfew := msg.count_le
  show (UInt16.ofNat msg.count).toNat = msg.count
  rw [UInt16.toNat_ofNat']
  omega

theorem toNat_p2 {i : Nat} (h : i < msg.count) : (msg.frame i).p2.toNat = i := by
  have hfew := msg.count_le
  show (UInt16.ofNat i).toNat = i
  rw [UInt16.toNat_ofNat']
  omega

theorem data_le (i : Nat) : (msg.frame i).data.length ≤ MAX_PACKETS_LENGTH := by
  show (msg.payloads.getD i []).length ≤ MAX_PACKETS_LENGTH
  rw [List.getD_eq_getElem?_getD]
  cases hget : msg.payloads[i]? with
  | none => exact Nat.zero_le _
  | some data => exact msg.fits data (List.mem_of_getElem? hget)

theorem frames_data : ((List.range msg.count).map msg.frame).map EApduFrame.data = msg.payloads := by
  apply List.ext_getElem?
  intro i
  rw [map_map, List.getElem?_map]
  by_cases h : i < msg.count
  · rw [List.getElem?_range h]
    show some (msg.payloads.getD i []) = msg.payloads[i]?
    rw [List.getD_eq_getElem?_getD, List.getElem?_eq_getElem h]
    rfl
  · rw [List.getElem?_eq_none (by rw [List.length_range]; omega),
      List.getElem?_eq_none (Nat.le_of_not_lt h)]
    rfl

end EApduMessage

/-- Every number below `n` is there. -/
def Covers (n : Nat) (order : List Nat) : Prop := ∀ i, i < n → i ∈ order

instance (n : Nat) (order : List Nat) : Decidable (Covers n order) :=
  inferInstanceAs (Decidable (∀ i, i < n → i ∈ order))

/-- What still arrives after the last missing number, when `seen` has arrived
before. -/
def remaining (n : Nat) : List Nat → List Nat → List Nat
  | _, [] => []
  | seen, k :: order => if Covers n (k :: seen) then order else remaining n (k :: seen) order

theorem Covers.mono {n : Nat} {a b : List Nat} (h : Covers n a) (hsub : ∀ i, i ∈ a → i ∈ b) :
    Covers n b := fun i hi => hsub i (h i hi)

theorem remaining_sub {n : Nat} : ∀ {order seen : List Nat} {i : Nat},
    i ∈ remaining n seen order → i ∈ order
  | [], _, _, h => h
  | k :: order, seen, i, h => by
    unfold remaining at h
    split at h
    · exact List.mem_cons_of_mem k h
    · exact List.mem_cons_of_mem k (remaining_sub h)

/-- Just the frames with the numbers `seen` are there; the count is set by the
first of them. -/
structure Holding (msg : EApduMessage) (seen : List Nat) (s : EApduState) : Prop where
  received : ∀ i, s.received i = if i ∈ seen then some (msg.frame i) else none
  totalPackets : s.totalPackets = if seen = [] then 0 else msg.count

theorem holding_freeParser (msg : EApduMessage) (s : EApduState) : Holding msg [] s.freeParser where
  received _ := rfl
  totalPackets := rfl

theorem Holding.drop {msg : EApduMessage} {seen : List Nat} {s : EApduState} {k : Nat}
    (h : Holding msg seen s) (hk : k ∈ seen) : Holding msg (k :: seen) s where
  received i := by
    rw [h.received]
    by_cases hik : i = k
    · subst hik
      rw [if_pos hk, if_pos (.head _)]
    · simp only [mem_cons, hik, false_or]
  totalPackets := by
    rw [h.totalPackets, if_neg (List.ne_nil_of_mem hk), if_neg (cons_ne_nil k seen)]

theorem Holding.complete_iff {msg : EApduMessage} {seen : List Nat} {s : EApduState}
    (h : Holding msg seen s) (hne : seen ≠ []) : s.complete = true ↔ Covers msg.count seen := by
  have hslot : ∀ i, (s.received i).isSome = true ↔ i ∈ seen := by
    intro i
    rw [h.received]
    by_cases hi : i ∈ seen
    · rw [if_pos hi]
      exact ⟨fun _ => hi, fun _ => rfl⟩
    · rw [if_neg hi]
      exact ⟨nofun, fun hmem => absurd hmem hi⟩
  unfold EApduState.complete Covers
  rw [List.all_eq_true, h.totalPackets, if_neg hne]
  constructor
  · intro hall i hi
    exact (hslot i).mp (hall i (mem_range.mpr hi))
  · intro hall i hi
    exact (hslot i).mpr (hall i (mem_range.mp hi))

theorem Holding.frames {msg : EApduMessage} {seen : List Nat} {s : EApduState}
    (h : Holding msg seen s) (hne : seen ≠ []) (hall : Covers msg.count seen) :
    s.frames = (List.range msg.count).map msg.frame := by
  unfold EApduState.frames
  rw [h.totalPackets, if_neg hne, ← List.filterMap_eq_map]
  apply List.filterMap_congr
  intro i hi
  rw [h.received, if_pos (hall i (mem_range.mp hi))]
  rfl

section

variable {msg : EApduMessage} {seen : List Nat} {s : EApduState} {k : Nat}

theorem checkFrameValidity_frame (hk : k < msg.count) : checkFrameValidity s (msg.frame k)
    = if (s.received k).isSome then (false, s) else (true, s) := by
  have hcount := msg.count_le
  have hp1 := msg.toNat_p1 k
  have hp2 := msg.toNat_p2 hk
  have hmax : MAX_PACKETS = 200 := rfl
  have hindex : ¬(msg.frame k).p2 ≥ (msg.frame k).p1 := by
    intro hge
    have hle := UInt16.le_iff_toNat_le.mp hge
    omega
  rw [checkFrameValidity, if_neg (by omega), if_neg hindex, hp2]

theorem parse_packet (hk : k < msg.count) (hfree : s.received k = none) :
    eApduProtocolParse s (msg.packet k)
      = if (storeFrame s (msg.frame k)).complete then
          some (dispatch (storeFrame s (msg.frame k)) (msg.frame k)).freeParser
        else some (storeFrame s (msg.frame k)) := by
  have hcount := msg.count_le
  have hp2 := msg.toNat_p2 hk
  have hmax : MAX_PACKETS = 200 := rfl
  have hlong : ¬(msg.packet k).length < 4 := Nat.not_lt_of_le (Nat.le_add_left 4 _)
  have hvalid : checkFrameValidity s (msg.frame k) = (true, s) := by
    rw [checkFrameValidity_frame hk, hfree]
    rfl
  unfold eApduProtocolParse
  rw [if_neg hlong, show frameParser (msg.packet k) = some (msg.frame k) from frameParser_bytes _]
  simp only [hvalid]
  rw [if_pos ⟨msg.data_le k, by omega⟩]

theorem parse_duplicate (hk : k < msg.count) (hslot : (s.received k).isSome = true) :
    eApduProtocolParse s (msg.packet k) = some s := by
  have hlong : ¬(msg.packet k).length < 4 := Nat.not_lt_of_le (Nat.le_add_left 4 _)
  have hdup : checkFrameValidity s (msg.frame k) = (false, s) := by
    rw [checkFrameValidity_frame hk, if_pos hslot]
  unfold eApduProtocolParse
  rw [if_neg hlong, show frameParser (msg.packet k) = some (msg.frame k) from frameParser_bytes _]
  simp only [hdup]

theorem Holding.store (h : Holding msg seen s) (hk : k < msg.count) (hfirst : seen = [] → k = 0) :
    Holding msg (k :: seen) (storeFrame s (msg.frame k)) := by
  have hp2 := msg.toNat_p2 hk
  have hp1 := msg.toNat_p1 k
  have hpos : msg.count ≠ 0 := by omega
  have hslot : ∀ (f : Nat → Option EApduFrame) (i : Nat),
      f i = (if i ∈ seen then some (msg.frame i) else none) →
      (if i = (msg.frame k).p2.toNat then some (msg.frame k) else f i)
        = if i ∈ k :: seen then some (msg.frame i) else none := by
    intro f i hi
    rw [hp2]
    by_cases hik : i = k
    · subst hik
      rw [if_pos rfl, if_pos (.head _)]
    · rw [if_neg hik, hi]
      simp only [mem_cons, hik, false_or]
  by_cases hempty : seen = []
  · obtain rfl := hfirst hempty
    have hstart : (msg.frame 0).p2 = 0 ∧ s.totalPackets = 0 :=
      ⟨rfl, by rw [h.totalPackets, if_pos hempty]⟩
    unfold storeFrame
    rw [if_pos hstart]
    refine ⟨fun i => hslot (fun _ => none) i (by rw [hempty]; rfl), ?_⟩
    rw [if_neg (cons_ne_nil 0 seen)]
    exact hp1
  · have hongoing : ¬((msg.frame k).p2 = 0 ∧ s.totalPackets = 0) := by
      rintro ⟨-, hzero⟩
      rw [h.totalPackets, if_neg hempty] at hzero
      exact hpos hzero
    unfold storeFrame
    rw [if_neg hongoing]
    refine ⟨fun i => hslot s.received i (h.received i), ?_⟩
    rw [if_neg (cons_ne_nil k seen)]
    show s.totalPackets = msg.count
    rw [h.totalPackets, if_neg hempty]

theorem storeFrame_dispatched (s : EApduState) (f : EApduFrame) :
    (storeFrame s f).dispatched = s.dispatched := by
  unfold storeFrame
  split <;> rfl

theorem step_wait (h : Holding msg seen s) (hk : k < msg.count) (hfirst : seen = [] → k = 0)
    (hmissing : ¬Covers msg.count (k :: seen)) :
    ∃ s', eApduProtocolParse s (msg.packet k) = some s' ∧ Holding msg (k :: seen) s'
      ∧ s'.dispatched = s.dispatched := by
  by_cases hdup : k ∈ seen
  · refine ⟨s, parse_duplicate hk ?_, h.drop hdup, rfl⟩
    rw [h.received, if_pos hdup]
    rfl
  · have hstore := h.store hk hfirst
    have hwait : ¬(storeFrame s (msg.frame k)).complete = true :=
      fun hdone => hmissing ((hstore.complete_iff (cons_ne_nil k seen)).mp hdone)
    refine ⟨_, ?_, hstore, storeFrame_dispatched s _⟩
    rw [parse_packet hk (by rw [h.received, if_neg hdup]), if_neg hwait]

theorem step_last (h : Holding msg seen s) (hk : k < msg.count) (hfirst : seen = [] → k = 0)
    (hmissing : ¬Covers msg.count seen) (hall : Covers msg.count (k :: seen)) :
    ∃ s' d, eApduProtocolParse s (msg.packet k) = some s' ∧ Holding msg [] s'
      ∧ s'.dispatched = s.dispatched ++ [d] ∧ d.request = msg.request := by
  have hnew : k ∉ seen := by
    intro hdup
    apply hmissing
    apply hall.mono
    intro i hi
    rcases mem_cons.mp hi with rfl | hseen
    · exact hdup
    · exact hseen
  have hstore := h.store hk hfirst
  have hdone := (hstore.complete_iff (cons_ne_nil k seen)).mpr hall
  have hframes := hstore.frames (cons_ne_nil k seen) hall
  refine ⟨(dispatch (storeFrame s (msg.frame k)) (msg.frame k)).freeParser,
    (storeFrame s (msg.frame k)).assemble (msg.frame k), ?_, holding_freeParser msg _, ?_, ?_⟩
  · rw [parse_packet hk (by rw [h.received, if_neg hnew]), if_pos hdone]
  · show (storeFrame s (msg.frame k)).dispatched ++ _ = s.dispatched ++ _
    rw [storeFrame_dispatched]
  · have hdata : (storeFrame s (msg.frame k)).frames.flatMap EApduFrame.data
        = msg.payloads.flatten := by
      rw [hframes, List.flatMap_def, msg.frames_data]
    have hlen : ((storeFrame s (msg.frame k)).frames.map fun g => g.data.length).sum
        = msg.payloads.flatten.length := by
      rw [hframes, List.length_flatten]
      conv_rhs => rw [← msg.frames_data]
      rw [map_map, map_map, map_map]
      rfl
    show (⟨msg.cla, _, _, msg.lc, msg.ins⟩ : EApduRequest) = msg.request
    rw [hdata, hlen]
    rfl

theorem step_early (h : Holding msg [] s) (hk : k < msg.count) (hne : k ≠ 0) :
    ∃ s' d, eApduProtocolParse s (msg.packet k) = some s' ∧ Holding msg [] s'
      ∧ s'.dispatched = s.dispatched ++ [d] := by
  have hp2 := msg.toNat_p2 hk
  have hother : ¬((msg.frame k).p2 = 0 ∧ s.totalPackets = 0) := by
    rintro ⟨hzero, -⟩
    rw [hzero] at hp2
    exact hne hp2.symm
  have htotal : (storeFrame s (msg.frame k)).totalPackets = 0 := by
    unfold storeFrame
    rw [if_neg hother]
    exact h.totalPackets
  have hdone : (storeFrame s (msg.frame k)).complete = true := by
    unfold EApduState.complete
    rw [htotal]
    rfl
  refine ⟨(dispatch (storeFrame s (msg.frame k)) (msg.frame k)).freeParser,
    (storeFrame s (msg.frame k)).assemble (msg.frame k), ?_, holding_freeParser msg _, ?_⟩
  · rw [parse_packet hk (h.received k), if_pos hdone]
  · show (storeFrame s (msg.frame k)).dispatched ++ _ = s.dispatched ++ _
    rw [storeFrame_dispatched]

end

section

variable {msg : EApduMessage}

theorem run_wait : ∀ {order seen : List Nat} {s : EApduState}, Holding msg seen s →
    (∀ k ∈ order, k < msg.count) → (seen = [] → ∀ k ∈ order.head?, k = 0) →
    ¬Covers msg.count (order ++ seen) →
    ∃ s', eApduReceiveAll s (order.map msg.packet) = some s' ∧ s'.dispatched = s.dispatched
  | [], _, s, _, _, _, _ => ⟨s, rfl, rfl⟩
  | k :: order, seen, s, h, hin, hfirst, hmissing => by
    have hsub : ∀ i, i ∈ order ++ k :: seen → i ∈ k :: order ++ seen := by
      intro i hi
      rw [mem_append, mem_cons] at hi
      rw [List.cons_append, mem_cons, mem_append]
      rcases hi with horder | rfl | hseen
      · exact .inr (.inl horder)
      · exact .inl rfl
      · exact .inr (.inr hseen)
    have hlater : ¬Covers msg.count (order ++ k :: seen) := fun hall => hmissing (hall.mono hsub)
    have hhere : ¬Covers msg.count (k :: seen) := fun hall =>
      hlater (hall.mono fun i hi => List.mem_append_right order hi)
    obtain ⟨s₁, hstep, h₁, hsame₁⟩ := step_wait h (hin k (.head _))
      (fun hempty => hfirst hempty k rfl) hhere
    obtain ⟨s', hrun, hsame⟩ := run_wait h₁ (fun i hi => hin i (List.mem_cons_of_mem k hi))
      (fun hempty => absurd hempty (cons_ne_nil k seen)) hlater
    refine ⟨s', ?_, hsame.trans hsame₁⟩
    rw [map_cons]
    unfold eApduReceiveAll
    rw [hstep]
    exact hrun

theorem run_last : ∀ {order seen : List Nat} {s : EApduState}, Holding msg seen s →
    (∀ k ∈ order, k < msg.count) → (seen = [] → ∀ k ∈ order.head?, k = 0) →
    ¬Covers msg.count seen → Covers msg.count (order ++ seen) →
    ∃ s₁ d, eApduReceiveAll s (order.map msg.packet)
        = eApduReceiveAll s₁ ((remaining msg.count seen order).map msg.packet)
      ∧ Holding msg [] s₁ ∧ s₁.dispatched = s.dispatched ++ [d] ∧ d.request = msg.request
  | [], _, _, _, _, _, hmissing, hall => absurd hall hmissing
  | k :: order, seen, s, h, hin, hfirst, hmissing, hall => by
    have hk := hin k (.head _)
    by_cases hhere : Covers msg.count (k :: seen)
    · obtain ⟨s₁, d, hstep, h₁, hd, hrequest⟩ := step_last h hk
        (fun hempty => hfirst hempty k rfl) hmissing hhere
      refine ⟨s₁, d, ?_, h₁, hd, hrequest⟩
      rw [map_cons]
      unfold remaining
      rw [if_pos hhere]
      show (eApduProtocolParse s (msg.packet k)).bind _ = _
      rw [hstep]
      rfl
    · have hsub : ∀ i, i ∈ k :: order ++ seen → i ∈ order ++ k :: seen := by
        intro i hi
        rw [List.cons_append, mem_cons, mem_append] at hi
        rw [mem_append, mem_cons]
        rcases hi with rfl | horder | hseen
        · exact .inr (.inl rfl)
        · exact .inl horder
        · exact .inr (.inr hseen)
      obtain ⟨s₁, hstep, h₁, hsame₁⟩ := step_wait h hk (fun hempty => hfirst hempty k rfl) hhere
      obtain ⟨s₂, d, hrun, h₂, hd, hrequest⟩ := run_last h₁
        (fun i hi => hin i (List.mem_cons_of_mem k hi))
        (fun hempty => absurd hempty (cons_ne_nil k seen)) hhere (hall.mono hsub)
      refine ⟨s₂, d, ?_, h₂, by rw [hd, hsame₁], hrequest⟩
      rw [map_cons]
      unfold remaining
      rw [if_neg hhere]
      show (eApduProtocolParse s (msg.packet k)).bind _ = _
      rw [hstep]
      exact hrun

theorem Step.dispatched_le {s s' : EApduState} {frame : List UInt8} (h : Step s frame s') :
    s.dispatched.length ≤ s'.dispatched.length := by
  cases h with
  | freed sent => exact Nat.le_refl _
  | dropped => exact Nat.le_refl _
  | stored f => exact Nat.le_of_eq (congrArg List.length (storeFrame_dispatched s f)).symm
  | completed f =>
    show s.dispatched.length ≤ ((storeFrame s f).dispatched ++ [_]).length
    rw [storeFrame_dispatched, List.length_append]
    exact Nat.le_add_right _ _

theorem run_dispatched_le : ∀ {packets : List (List UInt8)} {s s' : EApduState},
    eApduReceiveAll s packets = some s' → s.dispatched.length ≤ s'.dispatched.length
  | [], s, s', h => by
    cases h
    exact Nat.le_refl _
  | frame :: packets, s, s', h => by
    obtain ⟨s₁, hstep, hrest⟩ := Option.bind_eq_some_iff.mp h
    exact Nat.le_trans (eApduProtocolParse_step hstep).dispatched_le (run_dispatched_le hrest)

theorem run_early {order : List Nat} {s s' : EApduState} {k : Nat} (h : Holding msg [] s)
    (hk : k < msg.count) (hne : k ≠ 0)
    (hrun : eApduReceiveAll s ((k :: order).map msg.packet) = some s') :
    s.dispatched.length < s'.dispatched.length := by
  obtain ⟨s₁, d, hstep, -, hd⟩ := step_early h hk hne
  have hrest : eApduReceiveAll s₁ (order.map msg.packet) = some s' := by
    rw [map_cons] at hrun
    unfold eApduReceiveAll at hrun
    rw [hstep] at hrun
    exact hrun
  have hle := run_dispatched_le hrest
  rw [hd, List.length_append, List.length_singleton] at hle
  omega

/-- The handler is called once, with the message's data, and not before every frame
has arrived. -/
def Delivers (msg : EApduMessage) (order : List Nat) : Prop :=
  (∀ early later, order = early ++ later → ¬Covers msg.count early →
      ∃ s, eApduReceiveAll eApduStart (early.map msg.packet) = some s ∧ s.dispatched = [])
    ∧ ∃ s, eApduReceiveAll eApduStart (order.map msg.packet) = some s
      ∧ s.dispatched.map Dispatch.request = [msg.request]

/-- Frame 0 comes first, and what is repeated after the last missing frame has come,
if anything, begins with frame 0 and is not the whole message again. -/
def OrderSafe (n : Nat) (order : List Nat) : Prop :=
  order.head? = some 0
    ∧ (remaining n [] order = []
      ∨ (remaining n [] order).head? = some 0 ∧ ¬Covers n (remaining n [] order))

instance (n : Nat) (order : List Nat) : Decidable (OrderSafe n order) :=
  inferInstanceAs (Decidable (_ ∧ _))

theorem holding_start (msg : EApduMessage) : Holding msg [] eApduStart where
  received _ := rfl
  totalPackets := rfl

theorem not_covers_nil (msg : EApduMessage) : ¬Covers msg.count [] := by
  intro hall
  have hpos : 0 < msg.count := msg.nonempty
  exact absurd (hall 0 hpos) List.not_mem_nil

theorem delivers_of_safe {order : List Nat} (hin : ∀ k ∈ order, k < msg.count)
    (hall : Covers msg.count order) (hsafe : OrderSafe msg.count order) : Delivers msg order := by
  obtain ⟨hhead, hrest⟩ := hsafe
  have hstart := holding_start msg
  have hfirst : ∀ k ∈ order.head?, k = 0 := by
    intro k hk
    rw [hhead] at hk
    exact (Option.some.inj hk).symm
  constructor
  · intro early later horder hmissing
    have hsub : ∀ k ∈ early, k ∈ order := by
      intro k hk
      rw [horder]
      exact List.mem_append_left later hk
    have hearly : ∀ k ∈ early.head?, k = 0 := by
      intro k hk
      apply hfirst
      rw [horder]
      cases early with
      | nil => cases hk
      | cons i early => exact hk
    obtain ⟨s, hrun, hsame⟩ := run_wait hstart (fun k hk => hin k (hsub k hk))
      (fun _ => hearly) (by rwa [append_nil])
    exact ⟨s, hrun, hsame⟩
  · obtain ⟨s₁, d, hrun, h₁, hd, hrequest⟩ := run_last hstart hin (fun _ => hfirst)
      (not_covers_nil msg) (by rwa [append_nil])
    have hone : s₁.dispatched.map Dispatch.request = [msg.request] := by
      rw [hd]
      exact congrArg (fun r => [r]) hrequest
    rcases hrest with hnone | ⟨hzero, hmissing⟩
    · refine ⟨s₁, ?_, hone⟩
      rw [hrun, hnone]
      rfl
    · obtain ⟨s₂, hrun₂, hsame⟩ := run_wait h₁ (fun k hk => hin k (remaining_sub hk))
        (fun _ k hk => by rw [hzero] at hk; exact (Option.some.inj hk).symm)
        (by rwa [append_nil])
      refine ⟨s₂, hrun.trans hrun₂, ?_⟩
      rw [hsame, hone]

theorem safe_of_delivers {order : List Nat} (hin : ∀ k ∈ order, k < msg.count)
    (hall : Covers msg.count order) (h : Delivers msg order) : OrderSafe msg.count order := by
  obtain ⟨hearly, s, hrun, hone⟩ := h
  have hstart := holding_start msg
  have hlen : s.dispatched.length = 1 := by
    have hmap := congrArg List.length hone
    rwa [List.length_map] at hmap
  have hhead : order.head? = some 0 := by
    cases horder : order with
    | nil =>
      rw [horder] at hall
      exact absurd hall (not_covers_nil msg)
    | cons k rest =>
      have hk : k < msg.count := hin k (by rw [horder]; exact .head _)
      by_cases hzero : k = 0
      · rw [hzero]
        rfl
      · -- the first frame alone does not make up the message, yet it is dispatched
        have hpos : 0 < msg.count := msg.nonempty
        have hmissing : ¬Covers msg.count [k] := fun hc =>
          hzero (List.mem_singleton.mp (hc 0 hpos)).symm
        obtain ⟨s₁, hrun₁, hnone⟩ := hearly [k] rest horder hmissing
        have hlt := run_early hstart hk hzero hrun₁
        rw [hnone] at hlt
        exact absurd hlt (Nat.not_lt_zero _)
  have hfirst : ∀ k ∈ order.head?, k = 0 := by
    intro k hk
    rw [hhead] at hk
    exact (Option.some.inj hk).symm
  obtain ⟨s₁, d, hsplit, h₁, hd, -⟩ := run_last hstart hin (fun _ => hfirst)
    (not_covers_nil msg) (by rwa [append_nil])
  have hlen₁ : s₁.dispatched.length = 1 := by
    rw [hd]
    rfl
  rw [hsplit] at hrun
  refine ⟨hhead, ?_⟩
  cases hrest : remaining msg.count [] order with
  | nil => exact .inl rfl
  | cons k rest =>
    have hin' : ∀ i ∈ k :: rest, i < msg.count := by
      intro i hi
      rw [← hrest] at hi
      exact hin i (remaining_sub hi)
    rw [hrest] at hrun
    by_cases hzero : k = 0
    · refine .inr ⟨by rw [hzero]; rfl, fun hagain => ?_⟩
      -- the repeated frames are the whole message: a second dispatch
      obtain ⟨s₂, d₂, hsplit₂, -, hd₂, -⟩ := run_last h₁ hin'
        (fun _ i hi => (Option.some.inj hi).symm.trans hzero) (not_covers_nil msg)
        (by rwa [append_nil])
      rw [hsplit₂] at hrun
      have hle := run_dispatched_le hrun
      rw [hd₂, List.length_append, hlen₁, hlen, List.length_singleton] at hle
      omega
    · have hlt := run_early h₁ (hin' k (.head _)) hzero hrun
      omega

/-- **Exactly once.** A message whose frames arrive in any order, any of them more than
once, is dispatched just once, when all its frames have arrived, and with its data in
order, if and only if frame 0 arrives first and the frames repeated after the last
missing one, if any, begin with frame 0 and are not all the frames again. -/
theorem eApdu_delivers_once (msg : EApduMessage) (order : List Nat)
    (hin : ∀ k ∈ order, k < msg.count) (hall : Covers msg.count order) :
    Delivers msg order ↔ OrderSafe msg.count order :=
  ⟨safe_of_delivers hin hall, delivers_of_safe hin hall⟩

def sampleMessage : EApduMessage :=
  ⟨0, 2, 7, [[1, 2], [3]], by decide, by decide, by decide⟩

theorem eApdu_delivers_once_sample : Delivers sampleMessage [0, 0, 1] :=
  (eApdu_delivers_once sampleMessage [0, 0, 1] (by decide) (by decide)).mpr (by decide)

/-- Frame 1 first: it is dispatched on its own, and the message never. -/
theorem swapped_frames_not_delivered :
    Covers sampleMessage.count [1, 0] ∧ ¬Delivers sampleMessage [1, 0] := by
  refine ⟨by decide, ?_⟩
  rintro ⟨-, s, hrun, hone⟩
  have hwrong : (eApduReceiveAll eApduStart ([1, 0].map sampleMessage.packet)).map
      (fun s => s.dispatched.map (·.request.data)) = some [[]] := by decide
  have hdata := congrArg (List.map EApduRequest.data) hone
  rw [hrun] at hwrong
  rw [List.map_map] at hdata
  have hempty : s.dispatched.map (·.request.data) = [[]] := Option.some.inj hwrong
  have hbytes : s.dispatched.map (·.request.data) = [[1, 2, 3]] := hdata
  rw [hempty] at hbytes
  cases hbytes

end

end Keystone3
