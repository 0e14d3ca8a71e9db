import Keystone3.Account.Creation

/-!
# Texts in the flash areas of an account

The settings and the multisig wallets of an account are kept the way its public
keys are: a size word at the front of an area and the text behind it. Here is
what a write of such a text leaves behind when every write is answered: the text
reads back (`writeSizedText_answered`), and nothing else in the device has
changed (`OnlyArea`).
-/

namespace Keystone3

open Logic.Prog
open Bytes (toLe ofLe)

def areaSize (d : Device) (i : AccountIndex) (area : UserArea) : Nat :=
  ofLe (Flash.read (d.flash i area) 0 4)

def areaText (d : Device) (i : AccountIndex) (area : UserArea) : CString :=
  Flash.read (d.flash i area) 4 (areaSize d i area)

def writeSizedText (env : Env) (i : AccountIndex) (area : UserArea) (text : CString) :
    Account Unit := do
  gd25FlashWriteBuffer env i area 0 (toLe 4 text.length)
  gd25FlashWriteBuffer env i area 4 text

/-- Two devices that differ in one flash area, and in the operations counted. -/
structure OnlyArea (i : AccountIndex) (area : UserArea) (d t : Device) : Prop where
  rest : { t with flash := d.flash, writes := d.writes, reads := d.reads } = d
  areas : ∀ j b, ¬(j = i ∧ b = area) → t.flash j b = d.flash j b

namespace OnlyArea

variable {i : AccountIndex} {area : UserArea} {d t u : Device}

theorem refl (i : AccountIndex) (area : UserArea) (d : Device) : OnlyArea i area d d where
  rest := rfl
  areas _ _ _ := rfl

theorem trans (h₁ : OnlyArea i area d t) (h₂ : OnlyArea i area t u) : OnlyArea i area d u where
  rest := by
    have h := h₁.rest
    rw [← h₂.rest] at h
    exact h
  areas j b hjb := (h₂.areas j b hjb).trans (h₁.areas j b hjb)

theorem countWrite (h : OnlyArea i area d t) : OnlyArea i area d t.countWrite where
  rest := h.rest
  areas := h.areas

theorem setFlash (h : OnlyArea i area d t) (g : Flash.Cells → Flash.Cells) :
    OnlyArea i area d (t.setFlash i area g) where
  rest := h.rest
  areas j b hjb := (if_neg hjb).trans (h.areas j b hjb)

theorem view (h : OnlyArea i area d t) {β : Type} (f : Device → β)
    (hf : ∀ (s : Device) flash w r, f { s with flash := flash, writes := w, reads := r } = f s) :
    f t = f d := by
  rw [← hf t d.flash d.writes d.reads, h.rest]

theorem currentAccountIndex (h : OnlyArea i area d t) :
    t.currentAccountIndex = d.currentAccountIndex :=
  h.view Device.currentAccountIndex fun _ _ _ _ => rfl

theorem passphraseInfo (h : OnlyArea i area d t) : t.passphraseInfo = d.passphraseInfo :=
  h.view Device.passphraseInfo fun _ _ _ _ => rfl

theorem page (h : OnlyArea i area d t) : t.page = d.page := h.view Device.page fun _ _ _ _ => rfl

end OnlyArea

section

variable {env : Env} {i : AccountIndex} {area : UserArea}

theorem returns_of_triple {α : Type} {P : Device → Prop} {x : Account α} {Q : α → Device → Prop}
    (h : Triple P x Q (fun _ _ => False) fun _ => False) {d : Device} (hd : P d) :
    ∃ a t, x d = (.ok a, t) ∧ Q a t := by
  have h' := h d hd
  match hx : x d with
  | (.ok a, t) =>
    rw [hx] at h'
    exact ⟨a, t, rfl, h'⟩
  | (.error e, t) =>
    rw [hx] at h'
    exact h'.elim
  | (.halted, t) =>
    rw [hx] at h'
    exact h'.elim

theorem carriedOut_answered (hw : ∀ w, env.writeReply w = .answered) (w n : Nat) :
    CarriedOut env w n := by
  intro k _ status applied hr
  exact SeReply.noConfusion ((hw (w + k)).symm.trans hr)

theorem not_stopped (hw : ∀ w, env.writeReply w = .answered) {w : Nat} {applied : Bool} :
    env.writeReply w ≠ .stopped applied :=
  fun hr => SeReply.noConfusion ((hw w).symm.trans hr)

theorem eraseArea_answered (hw : ∀ w, env.writeReply w = .answered) (d : Device) :
    ∃ t, eraseArea env i area d = (.ok (), t) ∧ OnlyArea i area d t ∧ AreaErased i area t := by
  have h := triple_eraseArea_carried (P := OnlyArea i area d) (H := fun _ => False) (i := i)
    (rfl : area.sectors.length = _) (carriedOut_answered hw d.writes _) (fun _ ht => ht.countWrite)
    (fun _ _ ht => ht.setFlash _) fun _ _ _ _ _ hr => not_stopped hw hr
  obtain ⟨_, t, hrun, -, hd, herased⟩ := returns_of_triple h ⟨rfl, OnlyArea.refl i area d⟩
  exact ⟨t, hrun, hd, herased⟩

theorem gd25FlashWriteBuffer_answered (hw : ∀ w, env.writeReply w = .answered) {a : Nat}
    (bs : List UInt8) {d : Device} (herased : Flash.Holds (d.flash i area) a bs 0) :
    ∃ t, gd25FlashWriteBuffer env i area a bs d = (.ok (), t) ∧ OnlyArea i area d t ∧
      (∀ x, ¬(a ≤ x ∧ x < a + bs.length) → t.flash i area x = d.flash i area x) ∧
      Flash.read (t.flash i area) a bs.length = bs := by
  let P := fun t : Device => OnlyArea i area d t ∧
    ∀ x, ¬(a ≤ x ∧ x < a + bs.length) → t.flash i area x = d.flash i area x
  have hprogram : ∀ t b cs, a ≤ b → b + cs.length ≤ a + bs.length → P t →
      P (t.setFlash i area (Flash.program b cs)) := by
    rintro t b cs hb hend ⟨ht, hout⟩
    refine ⟨ht.setFlash _, fun x hx => ?_⟩
    rw [Device.setFlash_self, Flash.program_out _ (by omega)]
    exact hout x hx
  have h := triple_gd25FlashWriteBuffer_carried (P := P) (H := fun _ => False) (v := d.writes)
    (fun j _ => carriedOut_answered hw d.writes (j + 1)) (fun t ht => ⟨ht.1.countWrite, ht.2⟩)
    hprogram fun _ _ _ _ _ _ _ hr => not_stopped hw hr
  obtain ⟨_, t, hrun, n, -, ht, hprog, hall⟩ :=
    returns_of_triple h ⟨rfl, ⟨OnlyArea.refl i area d, fun _ _ => rfl⟩, herased⟩
  exact ⟨t, hrun, ht.1, ht.2, Flash.holds_read_all hprog.holds hall⟩

/-- **A text that is written over an erased area reads back.** -/
theorem writeSizedText_answered (hw : ∀ w, env.writeReply w = .answered) {text : CString}
    (hfits : text.length ≤ area.size - 4) {d : Device} (herased : AreaErased i area d) :
    ∃ t, writeSizedText env i area text d = (.ok (), t) ∧ OnlyArea i area d t ∧
      areaSize t i area = text.length ∧ areaText t i area = text := by
  have harea : 4 ≤ area.size ∧ area.size < 2 ^ 32 := by cases area <;> decide
  have hlen : (toLe 4 text.length).length = 4 := Bytes.length_toLe 4 _
  obtain ⟨t, hsize, ht, hout, hword⟩ := gd25FlashWriteBuffer_answered hw
    (toLe 4 text.length) (Flash.holds_zero fun j hj => herased (0 + j) (by omega))
  obtain ⟨u, htext, hu, hkept, hread⟩ := gd25FlashWriteBuffer_answered hw text
    (Flash.holds_zero fun j hj =>
      (hout (4 + j) (by omega)).trans (herased (4 + j) (by omega)))
  have hfinal : areaSize u i area = text.length := by
    have hcells : Flash.read (u.flash i area) 0 4 = Flash.read (t.flash i area) 0 4 :=
      Flash.read_congr fun x _ hx => hkept x (by omega)
    rw [hlen] at hword
    unfold areaSize
    rw [hcells, hword]
    exact Bytes.ofLe_toLe 4 _ (by omega)
  refine ⟨u, ?_, ht.trans hu, hfinal, ?_⟩
  · unfold writeSizedText
    rw [bind_ok hsize]
    exact htext
  · unfold areaText
    rw [hfinal]
    exact hread

theorem areaSize_erased {d : Device} (h : AreaErased i area d) : areaSize d i area = 0xFFFFFFFF := by
  have harea : 4 ≤ area.size := by cases area <;> decide
  have hcell : ∀ x, x < 4 → d.flash i area x = Flash.erased := fun x hx => h x (by omega)
  have hread : Flash.read (d.flash i area) 0 4
      = [Flash.erased, Flash.erased, Flash.erased, Flash.erased] := by
    show [d.flash i area 0, d.flash i area 1, d.flash i area 2, d.flash i area 3] = _
    rw [hcell 0 (by decide), hcell 1 (by decide), hcell 2 (by decide), hcell 3 (by decide)]
  unfold areaSize
  rw [hread]
  decide

end

end Keystone3
