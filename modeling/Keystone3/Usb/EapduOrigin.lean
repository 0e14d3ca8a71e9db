import Keystone3.Usb.EapduOrder

/-!
# Where the data of a dispatched request comes from

The slots are shared by all requests, and a frame is put into its slot whatever request
it belongs to. `Coherent` is what has to hold for no request to be mixed from two: every
frame in a slot of the request in the making is of one request.
-/

namespace Keystone3

structure SameRequest (f g : EApduFrame) : Prop where
  ins : f.ins = g.ins
  lc : f.lc = g.lc
  p1 : f.p1 = g.p1

theorem SameRequest.refl (f : EApduFrame) : SameRequest f f := ⟨rfl, rfl, rfl⟩

theorem SameRequest.symm {f g : EApduFrame} (h : SameRequest f g) : SameRequest g f :=
  ⟨h.ins.symm, h.lc.symm, h.p1.symm⟩

theorem SameRequest.trans {f g e : EApduFrame} (h : SameRequest f g) (h' : SameRequest g e) :
    SameRequest f e :=
  ⟨h.ins.trans h'.ins, h.lc.trans h'.lc, h.p1.trans h'.p1⟩

/-- The dispatched data is that of frames of one request, and its command and request
id are theirs. -/
structure Dispatch.Unmixed (d : Dispatch) : Prop where
  data : d.request.data = d.frames.flatMap EApduFrame.data
  same : ∀ f ∈ d.frames, ∀ g ∈ d.frames, SameRequest f g
  header : ∀ f ∈ d.frames, f.ins = d.request.commandType ∧ f.lc = d.request.requestID

/-- A frame that is taken into a slot of the request in the making is of the same
request as the frame in slot 0. -/
def Matches (s : EApduState) (packet : List UInt8) : Prop :=
  ∀ f g, frameParser packet = some f → (checkFrameValidity s f).1 = true →
    f.p2.toNat < s.totalPackets → s.received 0 = some g → SameRequest f g

def AllMatch : EApduState → List (List UInt8) → Prop
  | _, [] => True
  | s, packet :: packets =>
    Matches s packet ∧ ∀ s', eApduProtocolParse s packet = some s' → AllMatch s' packets

/-- Between two packets: no request in the making, or one that is not complete, whose
slots hold frames of one request, the first of them in slot 0. -/
structure Coherent (s : EApduState) : Prop where
  waiting : s.totalPackets ≠ 0 → s.complete = false
  first : s.totalPackets ≠ 0 → ∃ g, s.received 0 = some g
    ∧ ∀ i f, i < s.totalPackets → s.received i = some f → SameRequest f g
  unmixed : ∀ d ∈ s.dispatched, d.Unmixed

theorem checkFrameValidity_true {s : EApduState} {f : EApduFrame}
    (htotal : f.p1.toNat ≤ MAX_PACKETS) (hindex : f.p2 < f.p1)
    (hfree : s.received f.p2.toNat = none) : (checkFrameValidity s f).1 = true := by
  unfold checkFrameValidity
  rw [if_neg (Nat.not_lt_of_le htotal), if_neg (UInt16.not_le.mpr hindex), hfree]
  rfl

theorem coherent_freeParser {s : EApduState} (h : ∀ d ∈ s.dispatched, d.Unmixed) :
    Coherent s.freeParser where
  waiting hne := absurd rfl hne
  first hne := absurd rfl hne
  unmixed := h

theorem unmixed_assemble {s : EApduState} {f : EApduFrame}
    (h : ∀ g ∈ s.frames, SameRequest g f) : (s.assemble f).Unmixed where
  data := rfl
  same g hg e he := (h g hg).trans (h e he).symm
  header g hg := ⟨(h g hg).ins, (h g hg).lc⟩

theorem mem_frames {s : EApduState} {g : EApduFrame} (h : g ∈ s.frames) :
    ∃ i, i < s.totalPackets ∧ s.received i = some g := by
  obtain ⟨i, hi, hg⟩ := List.mem_filterMap.mp h
  exact ⟨i, List.mem_range.mp hi, hg⟩

/-- What storing a frame makes of a coherent parser: every frame in a slot of the request
in the making is of the same request as the new one, unless that went to none of
them. -/
structure FrameStored (s : EApduState) (f : EApduFrame) : Prop where
  first : (storeFrame s f).totalPackets ≠ 0 → ∃ g, (storeFrame s f).received 0 = some g
    ∧ ∀ i e, i < (storeFrame s f).totalPackets → (storeFrame s f).received i = some e →
      SameRequest e g
  last : (storeFrame s f).complete = true → ∀ e ∈ (storeFrame s f).frames, SameRequest e f

theorem Coherent.store {s : EApduState} {f : EApduFrame} (h : Coherent s)
    (hfree : s.received f.p2.toNat = none)
    (hmatch : f.p2.toNat < s.totalPackets → ∀ g, s.received 0 = some g → SameRequest f g) :
    FrameStored s f := by
  by_cases hstart : f.p2 = 0 ∧ s.totalPackets = 0
  · -- the frame starts a request: it is alone
    have hstore : storeFrame s f
        = { s with
            totalPackets := f.p1.toNat
            received := fun i => if i = f.p2.toNat then some f else none } := by
      unfold storeFrame
      rw [if_pos hstart]
    have honly : ∀ i e, (storeFrame s f).received i = some e → e = f := by
      intro i e he
      rw [hstore] at he
      simp only at he
      split at he
      · exact (Option.some.inj he).symm
      · cases he
    have hzero : (storeFrame s f).received 0 = some f := by
      rw [hstore, hstart.1]
      rfl
    refine ⟨fun _ => ⟨f, hzero, fun i e _ he => ?_⟩, fun _ e he => ?_⟩
    · rw [honly i e he]
      exact SameRequest.refl f
    · obtain ⟨i, -, hi⟩ := mem_frames he
      rw [honly i e hi]
      exact SameRequest.refl f
  have hstore : storeFrame s f
      = { s with received := fun i => if i = f.p2.toNat then some f else s.received i } := by
    unfold storeFrame
    rw [if_neg hstart]
  have htotal : (storeFrame s f).totalPackets = s.totalPackets := by
    rw [hstore]
  by_cases hnone : s.totalPackets = 0
  · -- no request in the making: the frame is dispatched without data
    refine ⟨fun hne => absurd (htotal.trans hnone) hne, fun _ e he => ?_⟩
    obtain ⟨i, hi, -⟩ := mem_frames he
    rw [htotal, hnone] at hi
    exact absurd hi (Nat.not_lt_zero i)
  obtain ⟨g, hg, hsame⟩ := h.first hnone
  have hother : f.p2.toNat ≠ 0 := by
    intro hzero
    rw [hzero, hg] at hfree
    cases hfree
  have hnew : ∀ i e, i < s.totalPackets → (storeFrame s f).received i = some e →
      SameRequest e g := by
    intro i e hi he
    rw [hstore] at he
    simp only at he
    by_cases hif : i = f.p2.toNat
    · rw [if_pos hif] at he
      cases he
      exact hmatch (by omega) g hg
    · rw [if_neg hif] at he
      exact hsame i e hi he
  refine ⟨fun _ => ⟨g, ?_, fun i e hi he => hnew i e (by rwa [htotal] at hi) he⟩,
    fun hdone e he => ?_⟩
  · rw [hstore]
    simp only
    rw [if_neg (Ne.symm hother)]
    exact hg
  · -- the frame that completes the request is in one of its slots
    have hin : f.p2.toNat < s.totalPackets := by
      refine Nat.lt_of_not_le fun hout => ?_
      have hbefore : s.complete = true := by
        unfold EApduState.complete at hdone ⊢
        rw [htotal, List.all_eq_true] at hdone
        rw [List.all_eq_true]
        intro i hi
        have hslot := hdone i hi
        have hne : i ≠ f.p2.toNat := by
          have hlt := List.mem_range.mp hi
          omega
        rw [hstore] at hslot
        simp only [if_neg hne] at hslot
        exact hslot
      rw [h.waiting hnone] at hbefore
      cases hbefore
    obtain ⟨i, hi, hslot⟩ := mem_frames he
    rw [htotal] at hi
    exact (hnew i e hi hslot).trans (hmatch hin g hg).symm

theorem Coherent.step {s s' : EApduState} {packet : List UInt8} (h : Coherent s)
    (hmatch : Matches s packet) (hstep : eApduProtocolParse s packet = some s') : Coherent s' := by
  cases eApduProtocolParse_step hstep with
  | freed sent => exact coherent_freeParser h.unmixed
  | dropped => exact h
  | stored f hframe htotal hindex hfree hwait =>
    have hstored := h.store hfree fun hin g hg =>
      hmatch f g hframe (checkFrameValidity_true htotal hindex hfree) hin hg
    refine ⟨fun _ => hwait, hstored.first, ?_⟩
    rw [storeFrame_dispatched]
    exact h.unmixed
  | completed f hframe htotal hindex hfree hdone =>
    have hstored := h.store hfree fun hin g hg =>
      hmatch f g hframe (checkFrameValidity_true htotal hindex hfree) hin hg
    apply coherent_freeParser
    intro d hd
    have hmem : d ∈ (storeFrame s f).dispatched ++ [(storeFrame s f).assemble f] := hd
    rw [storeFrame_dispatched, List.mem_append, List.mem_singleton] at hmem
    rcases hmem with hold | rfl
    · exact h.unmixed d hold
    · exact unmixed_assemble (hstored.last hdone)

theorem coherent_start : Coherent eApduStart where
  waiting hne := absurd rfl hne
  first hne := absurd rfl hne
  unmixed _ hd := nomatch hd

theorem Coherent.run : ∀ {packets : List (List UInt8)} {s s' : EApduState}, Coherent s →
    AllMatch s packets → eApduReceiveAll s packets = some s' → Coherent s'
  | [], s, s', h, _, hrun => by
    cases hrun
    exact h
  | packet :: packets, s, s', h, hmatch, hrun => by
    obtain ⟨s₁, hstep, hrest⟩ := Option.bind_eq_some_iff.mp hrun
    exact (h.step hmatch.1 hstep).run (hmatch.2 s₁ hstep) hrest

/-- **No request is mixed from two.** In every run of packets, in whatever order, whose
frames match the request in the making, each dispatched request has its data from
frames that agree in command, request id and number of frames, and its command and
request id are theirs. -/
theorem dispatched_unmixed (packets : List (List UInt8)) (s : EApduState)
    (hmatch : AllMatch eApduStart packets) (hrun : eApduReceiveAll eApduStart packets = some s) :
    ∀ d ∈ s.dispatched, d.Unmixed :=
  (coherent_start.run hmatch hrun).unmixed

theorem dispatched_unmixed_sample :
    ∃ s, eApduReceiveAll eApduStart [sampleMessage.packet 0, sampleMessage.packet 1] = some s
      ∧ ∀ d ∈ s.dispatched, d.Unmixed := by
  obtain ⟨s₁, hfirst, h₁, -⟩ := step_wait (k := 0) (holding_start sampleMessage) (by decide)
    (fun _ => rfl) (by decide)
  have hmatch : AllMatch eApduStart [sampleMessage.packet 0, sampleMessage.packet 1] := by
    refine ⟨fun f g _ _ hlt _ => absurd hlt (Nat.not_lt_zero _), fun s' hs' => ⟨?_, fun _ _ => trivial⟩⟩
    cases hfirst.symm.trans hs'
    intro f g hf _ _ hg
    cases (frameParser_bytes (sampleMessage.frame 1)).symm.trans hf
    cases (h₁.received 0).symm.trans hg
    exact ⟨rfl, rfl, rfl⟩
  have hsome : (eApduReceiveAll eApduStart [sampleMessage.packet 0, sampleMessage.packet 1]).isSome
      = true := by decide
  obtain ⟨s, hrun⟩ := Option.isSome_iff_exists.mp hsome
  exact ⟨s, hrun, dispatched_unmixed _ s hmatch hrun⟩

def otherMessage : EApduMessage :=
  ⟨0, 2, 8, [[11, 12], [13]], by decide, by decide, by decide⟩

/-- Frame 0 of one request and frame 1 of another are dispatched as one. -/
theorem mixed_request_dispatched :
    ∃ s, eApduReceiveAll eApduStart [sampleMessage.packet 0, otherMessage.packet 1] = some s
      ∧ ¬∀ d ∈ s.dispatched, d.Unmixed := by
  have hsome : (eApduReceiveAll eApduStart [sampleMessage.packet 0, otherMessage.packet 1]).map
      EApduState.dispatched
        = some [⟨⟨0, [1, 2, 13], 3, 8, 2⟩, [sampleMessage.frame 0, otherMessage.frame 1]⟩] := by
    decide
  obtain ⟨s, hrun, hdispatched⟩ := Option.map_eq_some_iff.mp hsome
  refine ⟨s, hrun, fun hall => ?_⟩
  have hone := hall _ (by rw [hdispatched]; exact List.mem_singleton_self _)
  have hid := (hone.header (sampleMessage.frame 0) (.head _)).2
  cases hid

end Keystone3
