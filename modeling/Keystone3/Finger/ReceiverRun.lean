import Keystone3.Finger.Receiver

/-!
# Runs of the receiver

A run is a list of interrupts, between which other tasks set the pending command and
take the message away.

`receiver_frames`: in a run whose headers are all short, the receiver does what it is
for. `long_header`: the first header that is not short breaks it.
-/

namespace Keystone3.Finger

open Logic (Framer.push Framer.push_emitted Framer.push_kept Framer.push_inside Framer.push_last)
open Receiver

/-- The header that the event completes, if it does, gives a length of 1 to 255. -/
def ShortEvent : Event → Receiver → Prop
  | .isr true tick byte, r => ShortHeader byte (r.dropLate tick)
  | .isr false _ _, _ => True
  | .delayCmd _, _ => True
  | .handled, _ => True

instance : ∀ (e : Event) (r : Receiver), Decidable (ShortEvent e r)
  | .isr true tick byte, r => inferInstanceAs (Decidable (ShortHeader byte (r.dropLate tick)))
  | .isr false _ _, _ => .isTrue trivial
  | .delayCmd _, _ => .isTrue trivial
  | .handled, _ => .isTrue trivial

def AllShort : List Event → Receiver → Prop
  | [], _ => True
  | e :: es, r => ShortEvent e r ∧ ∀ p ∈ step e r, AllShort es p.1

instance decidableAllShort : ∀ (es : List Event) (r : Receiver), Decidable (AllShort es r)
  | [], _ => .isTrue trivial
  | e :: es, r =>
    match h : step e r with
    | none => decidable_of_iff (ShortEvent e r) (by simp [AllShort, h])
    | some p =>
      have := decidableAllShort es p.1
      decidable_of_iff (ShortEvent e r ∧ AllShort es p.1) (by simp [AllShort, h])

def Event.command : Event → Option UInt16
  | .delayCmd cmd => some cmd
  | .isr _ _ _ => none
  | .handled => none

def commandsOf (es : List Event) : List UInt16 := es.filterMap Event.command

theorem run_append : ∀ (es fs : List Event) (r : Receiver), run (es ++ fs) r = do
    let (r, outs) ← run es r
    let (r, outs') ← run fs r
    return (r, outs ++ outs') := by
  intro es
  induction es with
  | nil =>
    intro fs r
    show run fs r = (run fs r).bind fun p => some (p.1, p.2)
    cases run fs r with
    | none => rfl
    | some p => rfl
  | cons e es ih =>
    intro fs r
    show (step e r).bind _ = ((step e r).bind _).bind _
    cases step e r with
    | none => rfl
    | some p =>
      show (run (es ++ fs) p.1).bind _ = ((run es p.1).bind _).bind _
      rw [ih]
      cases run es p.1 with
      | none => rfl
      | some q =>
        show ((run fs q.1).bind _).bind _ = (run fs q.1).bind _
        cases run fs q.1 with
        | none => rfl
        | some s =>
          show some (s.1, p.2.toList ++ (q.2 ++ s.2)) = some (s.1, (p.2.toList ++ q.2) ++ s.2)
          rw [List.append_assoc]

theorem allShort_append : ∀ (es fs : List Event) (r : Receiver), AllShort (es ++ fs) r →
    AllShort es r ∧ ∀ p ∈ run es r, AllShort fs p.1 := by
  intro es
  induction es with
  | nil =>
    intro fs r h
    refine ⟨trivial, fun p hp => ?_⟩
    cases hp
    exact h
  | cons e es ih =>
    intro fs r h
    refine ⟨⟨h.1, fun p hp => (ih fs p.1 (h.2 p hp)).1⟩, fun p hp => ?_⟩
    obtain ⟨q, hq, hp⟩ := Option.bind_eq_some_iff.mp hp
    obtain ⟨s, hs, hp⟩ := Option.bind_eq_some_iff.mp hp
    cases hp
    exact (ih fs q.1 (h.2 q hq)).2 s hs

theorem bytesOf_append (es fs : List Event) : bytesOf (es ++ fs) = bytesOf es ++ bytesOf fs := by
  unfold bytesOf
  rw [List.filterMap_append, List.map_append]

theorem ticksOf_append (es fs : List Event) : ticksOf (es ++ fs) = ticksOf es ++ ticksOf fs := by
  unfold ticksOf
  rw [List.filterMap_append, List.map_append]

structure SameFrame (r r' : Receiver) : Prop where
  rcvByteCount : r'.rcvByteCount = r.rcvByteCount
  totalLen : r'.totalLen = r.totalLen
  lastTick : r'.lastTick = r.lastTick
  intrRecvBuffer : r'.intrRecvBuffer = r.intrRecvBuffer

theorem SameFrame.refl (r : Receiver) : SameFrame r r := ⟨rfl, rfl, rfl, rfl⟩

theorem SameFrame.trans {r s t : Receiver} (h : SameFrame r s) (k : SameFrame s t) :
    SameFrame r t :=
  ⟨k.1.trans h.1, k.2.trans h.2, k.3.trans h.3, k.4.trans h.4⟩

theorem SameFrame.stored {r r' : Receiver} (h : SameFrame r r') : r'.stored = r.stored := by
  unfold Receiver.stored
  rw [h.intrRecvBuffer, h.rcvByteCount]

theorem SameFrame.collecting {r r' : Receiver} (h : SameFrame r r') (hr : r.Collecting) :
    r'.Collecting := by
  refine ⟨?_, ?_, ?_⟩
  · rw [h.intrRecvBuffer]
    exact hr.high
  · intro h2
    rw [h.totalLen, h.intrRecvBuffer]
    rw [h.rcvByteCount] at h2
    exact hr.total h2
  · intro h3
    rw [h.totalLen, h.rcvByteCount]
    rw [h.rcvByteCount] at h3
    exact hr.inside h3

variable {e : Event}

theorem step_quiet {r : Receiver} (h : e.arrival = none) :
    ∃ r', step e r = some (r', none) ∧ SameFrame r r' ∧
      (r'.g_delayCmd = r.g_delayCmd ∨ e.command = some r'.g_delayCmd) := by
  cases e with
  | isr running tick byte =>
    cases running with
    | true => cases h
    | false => exact ⟨r, rfl, SameFrame.refl r, .inl rfl⟩
  | delayCmd cmd => exact ⟨_, rfl, ⟨rfl, rfl, rfl, rfl⟩, .inr rfl⟩
  | handled => exact ⟨_, rfl, ⟨rfl, rfl, rfl, rfl⟩, .inl rfl⟩

theorem arrival_eq_some {tick : UInt32} {byte : UInt8}
    (h : e.arrival = some (tick, byte)) : e = .isr true tick byte := by
  cases e with
  | isr running t b =>
    cases running with
    | true =>
      cases h
      rfl
    | false => cases h
  | delayCmd cmd => cases h
  | handled => cases h

theorem collecting_dropLate {r : Receiver} (tick : UInt32) (h : r.Collecting) :
    ({ r.dropLate tick with lastTick := tick } : Receiver).Collecting := by
  unfold dropLate
  split
  · exact collecting_idle rfl h.high
  · exact ⟨h.high, h.total, h.inside⟩

theorem stored_dropLate (r : Receiver) (tick : UInt32) :
    ({ r.dropLate tick with lastTick := tick } : Receiver).stored = r.stored ∨
      ({ r.dropLate tick with lastTick := tick } : Receiver).stored = [] := by
  unfold dropLate
  split
  · exact .inr rfl
  · exact .inl rfl

theorem delayCmd_dropLate (r : Receiver) (tick : UInt32) :
    (r.dropLate tick).g_delayCmd = r.g_delayCmd := by
  unfold dropLate
  split
  · rfl
  · rfl

/-- The receiver after a stream of bytes: it holds the end of the stream from a head on. -/
structure Tracks (bytes : List UInt8) (r : Receiver) : Prop where
  collecting : r.Collecting
  suffix : r.stored <:+ bytes
  head : r.stored ≠ [] → r.stored.head? = some FINGERPRINT_CMD_FRAME_SYNC_HEAD

theorem tracks_boot : Tracks [] boot :=
  ⟨collecting_idle rfl (Bytes.Block.get_zero 2), List.suffix_rfl, fun h => absurd rfl h⟩

/-- The frame behind an output: one frame, and the end of the stream so far. -/
def FrameOf (bytes : List UInt8) (out : Output) : Prop :=
  ∃ f cmd, out = outputOf cmd f ∧ IsFrame f ∧ f <:+ bytes

private theorem head_grown {w : List UInt8} {byte : UInt8}
    (hw : w ≠ [] → w.head? = some FINGERPRINT_CMD_FRAME_SYNC_HEAD)
    (h : w ≠ [] ∨ isHead byte = true) :
    (w ++ [byte]).head? = some FINGERPRINT_CMD_FRAME_SYNC_HEAD := by
  cases w with
  | nil =>
    rcases h with h | h
    · exact absurd rfl h
    · exact congrArg some (beq_iff_eq.mp h)
  | cons a rest => exact hw (by simp)

theorem takeByte_tracks {bytes : List UInt8} {byte : UInt8} {r : Receiver}
    (h : Tracks bytes r) (hshort : r.ShortHeader byte) :
    ∃ r' out, r.takeByte byte = some (r', out) ∧ Tracks (bytes ++ [byte]) r' ∧
      ∀ o ∈ out, FrameOf (bytes ++ [byte]) o := by
  obtain ⟨r', out, hr, ht⟩ := takeByte_push h.collecting hshort
  have hsuffix : r.stored ++ [byte] <:+ bytes ++ [byte] := by
    obtain ⟨front, hfront⟩ := h.suffix
    exact ⟨front, by rw [← List.append_assoc, hfront]⟩
  have hkept : r'.stored = (Framer.push isHead isComplete r.stored byte).1 := by rw [ht.push]
  have hout : out = (Framer.push isHead isComplete r.stored byte).2 := by rw [ht.push]
  refine ⟨r', _, hr, ⟨ht.collecting, ?_, ?_⟩, ?_⟩
  · by_cases hnil : r'.stored = []
    · rw [hnil]
      exact List.nil_suffix
    · rw [hkept, (Framer.push_kept (hkept ▸ hnil)).1]
      exact hsuffix
  · intro hne
    obtain ⟨heq, hopen⟩ := Framer.push_kept (hkept ▸ hne)
    rw [hkept, heq]
    exact head_grown h.head hopen
  · intro o ho
    obtain ⟨f, hf, hof⟩ := Option.map_eq_some_iff.mp ho
    obtain ⟨heq, hcomplete, hopen⟩ := Framer.push_emitted (hout ▸ hf)
    refine ⟨f, r.g_delayCmd, hof.symm, ⟨?_, (isComplete_iff.mp hcomplete).2⟩, ?_⟩
    · rw [heq]
      exact head_grown h.head hopen
    · rw [heq]
      exact hsuffix

variable {es : List Event}

/-- **One event with a short header stores inside the buffer, and what it completes is
a frame at the end of the stream.** -/
theorem step_tracks {r : Receiver} (h : Tracks (bytesOf es) r)
    (hshort : ShortEvent e r) :
    ∃ r' out, step e r = some (r', out) ∧ Tracks (bytesOf (es ++ [e])) r' ∧
      ∀ o ∈ out, FrameOf (bytesOf (es ++ [e])) o := by
  rw [bytesOf_append]
  cases harr : e.arrival with
  | none =>
    obtain ⟨r', hr, hsame, _⟩ := step_quiet (r := r) harr
    have hbytes : bytesOf [e] = [] := by
      unfold bytesOf
      rw [List.filterMap_cons_none harr]
      rfl
    rw [hbytes, List.append_nil]
    refine ⟨r', none, hr, ⟨hsame.collecting h.collecting, ?_, ?_⟩, ?_⟩
    · rw [hsame.stored]
      exact h.suffix
    · rw [hsame.stored]
      exact h.head
    · intro o ho
      cases ho
  | some p =>
    obtain ⟨tick, byte⟩ := p
    cases arrival_eq_some harr
    have hdrop : Tracks (bytesOf es) { r.dropLate tick with lastTick := tick } := by
      refine ⟨collecting_dropLate tick h.collecting, ?_, ?_⟩
      · rcases stored_dropLate r tick with hs | hs
        · rw [hs]
          exact h.suffix
        · rw [hs]
          exact List.nil_suffix
      · intro hne
        rcases stored_dropLate r tick with hs | hs
        · rw [hs] at hne ⊢
          exact h.head hne
        · exact absurd hs hne
    exact takeByte_tracks hdrop hshort

def InTime (ticks : List UInt32) : Prop := ticks.IsChain fun a b => b - a ≤ 200

/-- The events bring the bytes of one frame, without a pause in it. -/
structure Spells (es : List Event) (f : List UInt8) : Prop where
  bytes : bytesOf es = f
  inTime : InTime (ticksOf es)

/-- The output is that of the frame, with one of the commands pending. -/
def OutputFor (cmds : List UInt16) (f : List UInt8) (out : Output) : Prop :=
  ∃ cmd ∈ cmds, out = outputOf cmd f

def pending (r : Receiver) (es : List Event) : List UInt16 := 0 :: r.g_delayCmd :: commandsOf es

theorem run_cons {r r' r'' : Receiver} {out : Option Output}
    {outs : List Output} (h : step e r = some (r', out)) (h' : run es r' = some (r'', outs)) :
    run (e :: es) r = some (r'', out.toList ++ outs) := by
  show (step e r).bind _ = _
  rw [h]
  show (run es r').bind _ = _
  rw [h']
  rfl

theorem commandsOf_cons_subset (e : Event) (es : List Event) : commandsOf es ⊆ commandsOf (e :: es) := by
  intro c hc
  unfold commandsOf at hc ⊢
  rw [List.mem_filterMap] at hc ⊢
  obtain ⟨x, hx, hxc⟩ := hc
  exact ⟨x, .tail _ hx, hxc⟩

theorem pending_step {r r' : Receiver}
    (h : r'.g_delayCmd = r.g_delayCmd ∨ r'.g_delayCmd = 0 ∨ e.command = some r'.g_delayCmd) :
    pending r' es ⊆ pending r (e :: es) := by
  intro c hc
  have hself : r'.g_delayCmd ∈ pending r (e :: es) := by
    rcases h with h | h | h
    · rw [h]
      exact .tail _ (.head _)
    · rw [h]
      exact .head _
    · refine List.mem_cons_of_mem _ (.tail _ ?_)
      unfold commandsOf
      exact List.mem_filterMap.mpr ⟨e, .head _, h⟩
  rcases List.mem_cons.mp hc with h0 | hc
  · rw [h0]
    exact .head _
  · rcases List.mem_cons.mp hc with h1 | hc
    · rw [h1]
      exact hself
    · exact .tail _ (.tail _ (commandsOf_cons_subset e es hc))

theorem pending_append_left {r : Receiver} {es fs : List Event} :
    pending r es ⊆ pending r (es ++ fs) := by
  unfold pending commandsOf
  rw [List.filterMap_append]
  exact List.cons_subset_cons _ (List.cons_subset_cons _ (List.subset_append_left _ _))

theorem pending_append_right {r r' : Receiver} {es fs : List Event}
    (h : r'.g_delayCmd ∈ pending r es) : pending r' fs ⊆ pending r (es ++ fs) := by
  intro c hc
  rcases List.mem_cons.mp hc with h0 | hc
  · rw [h0]
    exact .head _
  · rcases List.mem_cons.mp hc with h1 | hc
    · rw [h1]
      exact pending_append_left h
    · refine List.mem_cons_of_mem _ (.tail _ ?_)
      unfold commandsOf at hc ⊢
      rw [List.filterMap_append]
      exact List.mem_append_right _ hc

theorem bytesOf_cons_none (es : List Event) (h : e.arrival = none) :
    bytesOf (e :: es) = bytesOf es := by
  unfold bytesOf
  rw [List.filterMap_cons_none h]

theorem ticksOf_cons_none (es : List Event) (h : e.arrival = none) :
    ticksOf (e :: es) = ticksOf es := by
  unfold ticksOf
  rw [List.filterMap_cons_none h]

theorem run_quiet : ∀ (es : List Event) (r : Receiver), bytesOf es = [] →
    ∃ r', run es r = some (r', []) ∧ SameFrame r r' ∧ r'.g_delayCmd ∈ pending r es := by
  intro es
  induction es with
  | nil =>
    intro r _
    exact ⟨r, rfl, SameFrame.refl r, .tail _ (.head _)⟩
  | cons e es ih =>
    intro r hbytes
    have harr : e.arrival = none := by
      cases h : e.arrival with
      | none => rfl
      | some p =>
        unfold bytesOf at hbytes
        rw [List.filterMap_cons_some h] at hbytes
        cases hbytes
    rw [bytesOf_cons_none es harr] at hbytes
    obtain ⟨r₁, hr₁, hsame, hcmd⟩ := step_quiet (r := r) harr
    obtain ⟨r', hr', hsame', hcmd'⟩ := ih r₁ hbytes
    have hsub : pending r₁ es ⊆ pending r (e :: es) :=
      pending_step (hcmd.elim Or.inl fun h => .inr (.inr h))
    exact ⟨r', run_cons hr₁ hr', hsame.trans hsame', hsub hcmd'⟩

/-- The events give the frame, and leave the receiver between two frames. -/
def FedTo (es : List Event) (r : Receiver) (f : List UInt8) : Prop :=
  ∃ r' out, run es r = some (r', [out]) ∧ r'.Collecting ∧ r'.rcvByteCount = 0 ∧
    r'.g_delayCmd ∈ pending r es ∧ OutputFor (pending r es) f out

theorem FedTo.cons {r r₁ : Receiver} {f : List UInt8}
    (h : FedTo es r₁ f) (hstep : step e r = some (r₁, none))
    (hcmd : r₁.g_delayCmd = r.g_delayCmd ∨ r₁.g_delayCmd = 0 ∨
      e.command = some r₁.g_delayCmd) : FedTo (e :: es) r f := by
  obtain ⟨r', out, hrun, hcollecting, hidle, hmem, cmd, hcmdmem, hout⟩ := h
  have hsub : pending r₁ es ⊆ pending r (e :: es) := pending_step hcmd
  exact ⟨r', out, run_cons hstep hrun, hcollecting, hidle, hsub hmem, cmd, hsub hcmdmem, hout⟩

theorem ticksOf_cons_isr (tick : UInt32) (byte : UInt8) (es : List Event) :
    ticksOf (.isr true tick byte :: es) = tick :: ticksOf es := rfl

private theorem feed_byte {f : List UInt8} {tick : UInt32} {byte : UInt8}
    {r r₀ : Receiver} (hf : IsFrame f) (hshort : AllShort (.isr true tick byte :: es) r)
    (hr₀ : ({ r.dropLate tick with lastTick := tick } : Receiver) = r₀)
    (hcollecting : r₀.Collecting) (hbytes : r₀.stored ++ byte :: bytesOf es = f)
    (hrest : ∀ r₁, r₁.Collecting → r₁.stored = r₀.stored ++ [byte] → r₁.lastTick = tick →
      AllShort es r₁ → bytesOf es ≠ [] → FedTo es r₁ f) :
    FedTo (.isr true tick byte :: es) r f := by
  have hheader : r₀.ShortHeader byte := by
    rw [← hr₀]
    exact hshort.1
  obtain ⟨r₁, out, htake, ht⟩ := takeByte_push hcollecting hheader
  have hcmd₀ : r₀.g_delayCmd = r.g_delayCmd := by
    rw [← hr₀]
    exact delayCmd_dropLate r tick
  have htick : r₀.lastTick = tick := by rw [← hr₀]
  have hcmd : r₁.g_delayCmd = r.g_delayCmd ∨ r₁.g_delayCmd = 0 ∨
      (Event.isr true tick byte).command = some r₁.g_delayCmd := by
    rcases ht.delayCmd with h | h
    · exact .inl (h.trans hcmd₀)
    · exact .inr (.inl h)
  have hstep : step (.isr true tick byte) r = some (r₁, out.map (outputOf r₀.g_delayCmd)) := by
    show takeByte byte { r.dropLate tick with lastTick := tick } = _
    rw [hr₀]
    exact htake
  have happend : (r₀.stored ++ [byte]) ++ bytesOf es = f := by
    rw [List.append_assoc]
    exact hbytes
  by_cases hend : bytesOf es = []
  · -- the last byte of the frame
    rw [hend, List.append_nil] at happend
    have hpush := Framer.push_last hf.framed happend
    rw [ht.push, Prod.mk.injEq] at hpush
    have hidle : r₁.rcvByteCount = 0 := by
      rw [← ht.collecting.length_stored, hpush.1]
      rfl
    obtain ⟨r', hr', hsame, hmem⟩ := run_quiet es r₁ hend
    have hsub : pending r₁ es ⊆ pending r (.isr true tick byte :: es) := pending_step hcmd
    refine ⟨r', outputOf r₀.g_delayCmd f, ?_, hsame.collecting ht.collecting, ?_, hsub hmem,
      r₀.g_delayCmd, ?_, rfl⟩
    · rw [hpush.2] at hstep
      exact run_cons hstep hr'
    · rw [hsame.rcvByteCount]
      exact hidle
    · rw [hcmd₀]
      exact .tail _ (.head _)
  · have hne : r₀.stored ++ [byte] ≠ f := by
      intro heq
      rw [heq] at happend
      exact hend (List.append_right_eq_self.mp happend)
    have hpush := Framer.push_inside hf.framed ⟨bytesOf es, happend⟩ hne
    rw [ht.push, Prod.mk.injEq] at hpush
    rw [hpush.2] at hstep
    exact (hrest r₁ ht.collecting hpush.1 (ht.lastTick.trans htick) (hshort.2 _ hstep)
      hend).cons hstep hcmd

private theorem feed_rest {f : List UInt8} (hf : IsFrame f) :
    ∀ (es : List Event) (r : Receiver), AllShort es r → r.Collecting →
    r.stored ≠ [] → bytesOf es ≠ [] → r.stored ++ bytesOf es = f →
    InTime (r.lastTick :: ticksOf es) → FedTo es r f := by
  intro es
  induction es with
  | nil =>
    intro r _ _ _ hnil
    exact absurd rfl hnil
  | cons e es ih =>
    intro r hshort hcollecting hstored hne hbytes htime
    cases harr : e.arrival with
    | none =>
      obtain ⟨r₁, hr₁, hsame, hcmd⟩ := step_quiet (r := r) harr
      rw [bytesOf_cons_none es harr] at hne hbytes
      rw [ticksOf_cons_none es harr] at htime
      refine (ih r₁ (hshort.2 _ hr₁) (hsame.collecting hcollecting) ?_ hne ?_ ?_).cons hr₁
        (hcmd.elim Or.inl fun h => .inr (.inr h))
      · rw [hsame.stored]
        exact hstored
      · rw [hsame.stored]
        exact hbytes
      · rw [hsame.lastTick]
        exact htime
    | some p =>
      obtain ⟨tick, byte⟩ := p
      cases arrival_eq_some harr
      rw [ticksOf_cons_isr] at htime
      obtain ⟨hgap, htime⟩ := List.isChain_cons_cons.mp htime
      have hdrop : r.dropLate tick = r := by
        unfold dropLate
        rw [if_neg]
        intro hlate
        exact absurd hlate.2 (UInt32.not_lt.mpr hgap)
      have hsame : ({ r.dropLate tick with lastTick := tick } : Receiver).stored = r.stored := by
        rw [hdrop]
        rfl
      refine feed_byte hf hshort rfl (collecting_dropLate tick hcollecting) ?_ ?_
      · rw [hsame]
        exact hbytes
      intro r₁ hcollecting₁ hstored₁ htick₁ hshort₁ hne₁
      rw [hsame] at hstored₁
      refine ih r₁ hshort₁ hcollecting₁ ?_ hne₁ ?_ ?_
      · rw [hstored₁]
        exact List.concat_ne_nil _ _
      · rw [hstored₁, List.append_assoc]
        exact hbytes
      · rw [htick₁]
        exact htime

/-- No frame is going on when the first of the bytes comes. -/
def Idle (r : Receiver) (ticks : List UInt32) : Prop :=
  r.rcvByteCount = 0 ∨ ∀ tick ∈ ticks.head?, tick - r.lastTick > 200

/-- **The bytes of a frame with a short header, in time, give that frame.** -/
theorem feed_frame {f : List UInt8} (hf : IsFrame f) :
    ∀ (es : List Event) (r : Receiver), AllShort es r → r.Collecting →
    Idle r (ticksOf es) → Spells es f → FedTo es r f := by
  intro es
  induction es with
  | nil =>
    intro r _ _ _ hspells
    have hlen := hf.length
    have hnil : f = [] := hspells.bytes.symm
    rw [hnil] at hlen
    cases hlen
  | cons e es ih =>
    intro r hshort hcollecting hidle hspells
    cases harr : e.arrival with
    | none =>
      obtain ⟨r₁, hr₁, hsame, hcmd⟩ := step_quiet (r := r) harr
      have hbytes := hspells.bytes
      have htime := hspells.inTime
      rw [bytesOf_cons_none es harr] at hbytes
      rw [ticksOf_cons_none es harr] at htime hidle
      refine (ih r₁ (hshort.2 _ hr₁) (hsame.collecting hcollecting) ?_ ⟨hbytes, htime⟩).cons hr₁
        (hcmd.elim Or.inl fun h => .inr (.inr h))
      unfold Idle
      rw [hsame.rcvByteCount, hsame.lastTick]
      exact hidle
    | some p =>
      obtain ⟨tick, byte⟩ := p
      cases arrival_eq_some harr
      have hcount : (r.dropLate tick).rcvByteCount = 0 := by
        unfold dropLate
        rcases hidle with h0 | hlate
        · rw [if_neg (fun h => h.1 h0)]
          exact h0
        · by_cases h0 : r.rcvByteCount = 0
          · rw [if_neg (fun h => h.1 h0)]
            exact h0
          · rw [if_pos ⟨h0, hlate tick rfl⟩]
      have hstored : ({ r.dropLate tick with lastTick := tick } : Receiver).stored = [] :=
        stored_idle hcount
      refine feed_byte hf hshort rfl (collecting_dropLate tick hcollecting) ?_ ?_
      · rw [hstored]
        exact hspells.bytes
      · intro r₁ hcollecting₁ hstored₁ htick₁ hshort₁ hne₁
        rw [hstored] at hstored₁
        refine feed_rest hf es r₁ hshort₁ hcollecting₁ ?_ hne₁ ?_ ?_
        · rw [hstored₁]
          exact List.concat_ne_nil _ _
        · rw [hstored₁]
          exact hspells.bytes
        · rw [htick₁]
          exact hspells.inTime

theorem feed_frames : ∀ (gss : List (List Event)) (fs : List (List UInt8)) (r : Receiver),
    List.Forall₂ Spells gss fs → (∀ f ∈ fs, IsFrame f) → AllShort gss.flatten r →
    r.Collecting → Idle r (ticksOf gss.flatten) →
    ∃ r' outs, run gss.flatten r = some (r', outs) ∧
      List.Forall₂ (OutputFor (pending r gss.flatten)) fs outs := by
  intro gss
  induction gss with
  | nil =>
    intro fs r hspells _ _ _ _
    cases hspells
    exact ⟨r, [], rfl, .nil⟩
  | cons gs gss ih =>
    intro fs r hspells hfs hshort hcollecting hidle
    rw [List.flatten_cons] at hshort
    obtain ⟨hshort₁, hshort₂⟩ := allShort_append _ _ _ hshort
    cases hspells with
    | cons hgs hgss =>
      rename_i f fs
      have hidle₁ : Idle r (ticksOf gs) := by
        rcases hidle with h0 | hlate
        · exact .inl h0
        · right
          intro tick htick
          refine hlate tick ?_
          rw [List.flatten_cons, ticksOf_append]
          cases hticks : ticksOf gs with
          | nil =>
            rw [hticks] at htick
            cases htick
          | cons t ts =>
            rw [hticks] at htick
            exact htick
      obtain ⟨r₁, out, hrun₁, hcollecting₁, hidle', hmem, hout⟩ :=
        feed_frame (hfs f (.head _)) gs r hshort₁ hcollecting hidle₁ hgs
      obtain ⟨r', outs, hrun, houts⟩ := ih fs r₁ hgss
        (fun g hg => hfs g (.tail _ hg)) (hshort₂ _ hrun₁) hcollecting₁
        (.inl hidle')
      refine ⟨r', out :: outs, ?_, .cons ?_ ?_⟩
      · rw [List.flatten_cons, run_append, hrun₁]
        show (run gss.flatten r₁).bind _ = _
        rw [hrun]
        rfl
      · obtain ⟨cmd, hcmd, heq⟩ := hout
        exact ⟨cmd, pending_append_left hcmd, heq⟩
      · refine houts.imp fun g o hgo => ?_
        obtain ⟨cmd, hcmd, heq⟩ := hgo
        exact ⟨cmd, pending_append_right hmem hcmd, heq⟩

theorem run_tracks : ∀ (es past : List Event) (r : Receiver), Tracks (bytesOf past) r →
    AllShort es r → ∃ r' outs, run es r = some (r', outs) ∧ Tracks (bytesOf (past ++ es)) r' := by
  intro es
  induction es with
  | nil =>
    intro past r h _
    refine ⟨r, [], rfl, ?_⟩
    rw [List.append_nil]
    exact h
  | cons e es ih =>
    intro past r h hshort
    obtain ⟨r₁, out, hr₁, htracks, _⟩ := step_tracks h hshort.1
    obtain ⟨r', outs, hr', htracks'⟩ := ih (past ++ [e]) r₁ htracks (hshort.2 _ hr₁)
    rw [List.append_assoc] at htracks'
    exact ⟨r', _, run_cons hr₁ hr', htracks'⟩

theorem FrameOf.toTask {bytes m : List UInt8} (h : FrameOf bytes (.toTask m)) :
    IsFrame m ∧ m <:+ bytes := by
  obtain ⟨f, cmd, hout, hframe, hsuffix⟩ := h
  have hm : m = f := by
    unfold outputOf at hout
    split at hout
    · cases hout
    · cases hout
      rfl
  rw [hm]
  exact ⟨hframe, hsuffix⟩

structure ReceivesFrames (es : List Event) : Prop where
  /-- Nothing is stored behind the buffer. -/
  inBuffer : ∃ r outs, run es boot = some (r, outs)
  /-- A message for the task is one frame, with the length in its header, and it is the
  last that the module has sent. -/
  whole : ∀ es₁ e es₂ r outs r' m, es = es₁ ++ e :: es₂ → run es₁ boot = some (r, outs) →
    step e r = some (r', some (.toTask m)) → IsFrame m ∧ m <:+ bytesOf (es₁ ++ [e])
  /-- A stream of frames, from between two frames on, gives frame by frame. -/
  lossless : ∀ past gss fs r outs, es = past ++ gss.flatten → run past boot = some (r, outs) →
    Idle r (ticksOf gss.flatten) → List.Forall₂ Spells gss fs → (∀ f ∈ fs, IsFrame f) →
    ∃ r' outs', run gss.flatten r = some (r', outs') ∧
      List.Forall₂ (OutputFor (pending r gss.flatten)) fs outs'

/-- **In every run whose headers are all short, the receiver stores inside its buffer,
hands over exactly the frames of the stream, and loses none of them.** -/
theorem receiver_frames (es : List Event) (h : AllShort es boot) : ReceivesFrames es := by
  refine ⟨?_, ?_, ?_⟩
  · obtain ⟨r, outs, hrun, _⟩ := run_tracks es [] boot tracks_boot h
    exact ⟨r, outs, hrun⟩
  · intro es₁ e es₂ r outs r' m hes hrun hstep
    rw [hes] at h
    obtain ⟨h₁, h₂⟩ := allShort_append _ _ _ h
    obtain ⟨r₁, outs₁, hrun₁, htracks⟩ := run_tracks es₁ [] boot tracks_boot h₁
    rw [hrun] at hrun₁
    cases hrun₁
    obtain ⟨r₂, out, hstep₂, _, hout⟩ := step_tracks htracks (h₂ _ hrun).1
    rw [hstep] at hstep₂
    cases hstep₂
    exact (hout _ rfl).toTask
  · intro past gss fs r outs hes hrun hidle hspells hfs
    rw [hes] at h
    obtain ⟨h₁, h₂⟩ := allShort_append _ _ _ h
    obtain ⟨r₁, outs₁, hrun₁, htracks⟩ := run_tracks past [] boot tracks_boot h₁
    rw [hrun] at hrun₁
    cases hrun₁
    exact feed_frames gss fs r hspells hfs (h₂ _ hrun) htracks.collecting hidle

def burst (bytes : List UInt8) : List Event := bytes.map (.isr true 0)

theorem receiver_frames_sample :
    AllShort (burst [0xAA, 2, 0, 7, 8, 0xAA, 1, 0, 9]) boot ∧
      ReceivesFrames (burst [0xAA, 2, 0, 7, 8, 0xAA, 1, 0, 9]) :=
  ⟨by decide, receiver_frames _ (by decide)⟩

theorem run_overruns : ∀ (bytes : List UInt8) (r : Receiver), r.totalLen = 3 →
    3 ≤ r.rcvByteCount → r.rcvByteCount ≤ RCV_MSG_MAX_LEN → r.lastTick = 0 →
    RCV_MSG_MAX_LEN < r.rcvByteCount + bytes.length → run (burst bytes) r = none := by
  intro bytes
  induction bytes with
  | nil =>
    intro r _ _ hle _ hlt
    have : RCV_MSG_MAX_LEN < r.rcvByteCount := hlt
    omega
  | cons byte bytes ih =>
    intro r htotal h3 hle htick hlt
    have hdrop : r.dropLate 0 = r := by
      unfold dropLate
      rw [if_neg]
      intro hlate
      rw [htick] at hlate
      cases hlate.2
    have hstep : step (.isr true 0 byte) r = takeByte byte r := by
      show takeByte byte { r.dropLate 0 with lastTick := 0 } = _
      rw [hdrop, ← htick]
    show (step (.isr true 0 byte) r).bind _ = none
    rw [hstep]
    unfold takeByte
    rw [if_neg (show ¬ r.rcvByteCount = 0 by omega),
      if_neg (show ¬ (r.rcvByteCount = 1 ∨ r.rcvByteCount = 2) by omega)]
    by_cases hfull : r.rcvByteCount = RCV_MSG_MAX_LEN
    · rw [store_outside hfull]
      rfl
    · rw [store_eq (by omega)]
      show (some (if r.rcvByteCount + 1 = r.totalLen then _ else _)).bind _ = none
      rw [if_neg (by omega)]
      show (run (burst bytes) _).bind _ = none
      rw [ih]
      · rfl
      · exact htotal
      · show 3 ≤ r.rcvByteCount + 1
        omega
      · show r.rcvByteCount + 1 ≤ RCV_MSG_MAX_LEN
        omega
      · exact htick
      · show RCV_MSG_MAX_LEN < r.rcvByteCount + 1 + bytes.length
        rw [List.length_cons] at hlt
        omega

theorem long_frame_overruns (body : List UInt8) (h : 509 < body.length) :
    run (burst (0xAA :: 0x00 :: 0x01 :: body)) boot = none := by
  have hheader : ∃ r, run (burst [0xAA, 0x00, 0x01]) boot = some (r, []) ∧ r.totalLen = 3 ∧
      r.rcvByteCount = 3 ∧ r.lastTick = 0 := ⟨_, rfl, rfl, rfl, rfl⟩
  obtain ⟨r, hrun, htotal, hcount, htick⟩ := hheader
  have hsplit : burst (0xAA :: 0x00 :: 0x01 :: body) = burst [0xAA, 0x00, 0x01] ++ burst body := rfl
  rw [hsplit, run_append, hrun]
  show (run (burst body) r).bind _ = none
  rw [run_overruns body r htotal (by omega) (by rw [hcount]; decide) htick
    (by rw [hcount]; show 512 < _; omega)]
  rfl

theorem long_frame_cut : ∃ r outs r', run (burst [0xAA, 0x01, 0x01]) boot = some (r, outs) ∧
    step (.isr true 0 7) r = some (r', some (.toTask [0xAA, 0x01, 0x01, 7])) :=
  ⟨_, _, _, rfl, rfl⟩

/-- Neither is every store inside the buffer nor every message a whole frame. -/
theorem long_header_breaks :
    ¬ ReceivesFrames (burst (0xAA :: 0x00 :: 0x01 :: List.replicate 510 0)) ∧
      ¬ ReceivesFrames (burst [0xAA, 0x01, 0x01, 7]) := by
  constructor
  · intro h
    obtain ⟨r, outs, hrun⟩ := h.inBuffer
    rw [long_frame_overruns _ (by rw [List.length_replicate]; decide)] at hrun
    cases hrun
  · intro h
    obtain ⟨r, outs, r', hrun, hstep⟩ := long_frame_cut
    have hframe := (h.whole (burst [0xAA, 0x01, 0x01]) (.isr true 0 7) [] r outs r' _ rfl hrun
      hstep).1
    cases hframe.length

end Keystone3.Finger
