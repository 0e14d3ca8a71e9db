import Keystone3.Device

/-!
# Operations on the secure elements and the flash

The routines of `se_interface.c` and the flash driver, with the replies of `Env` in
place of the wires.

The flash driver has no error codes: a flash operation either completes or the power
goes.
-/

namespace Keystone3

open Logic.Prog
open Bytes (Block)

def Device.countWrite (d : Device) : Device := { d with writes := d.writes + 1, reads := 0 }

def Device.countRead (d : Device) : Device := { d with reads := d.reads + 1 }

def seWrite (env : Env) (effect : Device → Device) : Account Unit := fun d =>
  match env.writeReply d.writes with
  | .answered => (.ok (), effect d.countWrite)
  | .refused status applied =>
    (.error (.se status), if applied then effect d.countWrite else d.countWrite)
  | .stopped applied => (.halted, if applied then effect d.countWrite else d.countWrite)

def seRead {α : Type} (env : Env) (value : Device → α) : Account α := fun d =>
  match env.readReply d.writes d.reads with
  | .answered => (.ok (value d), d.countRead)
  | .refused status _ => (.error (.se status), d.countRead)
  | .stopped _ => (.halted, d.countRead)

/-- A flash operation: `refused` cannot be told from `answered` by the driver. -/
def flashWrite (env : Env) (effect : Device → Device) : Account Unit := fun d =>
  match env.writeReply d.writes with
  | .answered => (.ok (), effect d.countWrite)
  | .refused _ applied => (.ok (), if applied then effect d.countWrite else d.countWrite)
  | .stopped applied => (.halted, if applied then effect d.countWrite else d.countWrite)

/-- `TrngGet` of 32 bytes. -/
def trngGet (env : Env) : Account Page := fun d =>
  (.ok (env.trng d.draws), { d with draws := d.draws + 1 })

def stackGarbage (env : Env) : Account (Block 64) := fun d => (.ok (env.stack d.writes d.reads), d)

def seHmacEncryptRead (env : Env) (page : Nat) : Account Page := seRead env fun d => d.page page

def seHmacEncryptWrite (env : Env) (data : Page) (page : Nat) : Account Unit :=
  seWrite env fun d => d.setPage page data

/-- The slot whose key guards a key slot. -/
def getAuthSlot (keySlot : Nat) : Option Nat :=
  if keySlot = 4 ∨ keySlot = 5 then some 3
  else if keySlot = 7 ∨ keySlot = 9 then some 6
  else if keySlot = 11 ∨ keySlot = 12 then some 10
  else none

def atcaCheckmacVerifyFailed : Nat := 0xD1

/-- `Atecc608bAuthorize` for the slot that guards `keySlot`. -/
def authorize (keySlot : Nat) (authKey : Page) : Account Unit := do
  match getAuthSlot keySlot with
  | none => throw .atecc608bSlotNumErr
  | some authSlot =>
    let d ← get
    require (d.slot authSlot == authKey) (.se atcaCheckmacVerifyFailed)

def seEncryptWrite (env : Env) (slot : Nat) (data : Page) : Account Unit :=
  seWrite env fun d => d.setSlot slot data

/-- Roll the key of a slot on with a fresh nonce. -/
def seDeriveKey (env : Env) (slot : Nat) (authKey : Page) : Account Unit := do
  authorize slot authKey
  let nonce ← trngGet env
  seWrite env fun d => d.setSlot slot (env.crypto.deriveKey (d.slot slot) nonce)

def seKdf (env : Env) (slot : Nat) (authKey inData : Page) : Account Page := do
  authorize slot authKey
  seRead env fun d => env.crypto.kdf (d.slot slot) inData

def gd25qxxSectorSize : Nat := 4096

def gd25qxxPageSize : Nat := 256

def gd25FlashSectorErase (env : Env) (i : AccountIndex) (area : UserArea) (a : Nat) :
    Account Unit :=
  flashWrite env fun d => d.setFlash i area (Flash.eraseSector gd25qxxSectorSize a)

def gd25FlashPageProgram (env : Env) (i : AccountIndex) (area : UserArea)
    (p : Nat × List UInt8) : Account Unit :=
  flashWrite env fun d => d.setFlash i area (Flash.program p.1 p.2)

/-- One program operation for each page touched. -/
def gd25FlashWriteBuffer (env : Env) (i : AccountIndex) (area : UserArea) (a : Nat)
    (buffer : List UInt8) : Account Unit :=
  each (gd25FlashPageProgram env i area) (Flash.splitPages gd25qxxPageSize buffer.length a buffer)

def UserArea.sectors (area : UserArea) : List Nat :=
  (List.range (area.size / gd25qxxSectorSize)).map (· * gd25qxxSectorSize)

def eraseArea (env : Env) (i : AccountIndex) (area : UserArea) : Account Unit :=
  each (gd25FlashSectorErase env i area) area.sectors

/-- An observable that does not look at the operation counters. -/
structure Blind {β : Type} (f : Device → β) : Prop where
  writes : ∀ d : Device, f d.countWrite = f d
  reads : ∀ d : Device, f d.countRead = f d
  draws : ∀ (d : Device) (n : Nat), f { d with draws := n } = f d

structure Reading (R : Device → Device → Prop) : Prop extends Preorder R where
  read : ∀ d : Device, R d d.countRead

theorem reading_keeps {β : Type} {f : Device → β} (h : ∀ d : Device, f d.countRead = f d) :
    Reading (Keeps f) where
  toPreorder := keeps_preorder f
  read := h

theorem Blind.reading {β : Type} {f : Device → β} (hf : Blind f) : Reading (Keeps f) :=
  reading_keeps hf.reads

section

variable {β : Type} {f : Device → β} {R : Device → Device → Prop} (env : Env)

theorem frame_seRead (h : Reading R) {α : Type} (value : Device → α) :
    Frame R (seRead env value) := by
  intro d
  unfold seRead
  split <;> exact h.read d

variable {effect : Device → Device}

theorem frame_seWrite_rel
    (hskip : ∀ d : Device, R d d.countWrite) (h : ∀ d : Device, R d (effect d.countWrite)) :
    Frame R (seWrite env effect) := by
  intro d
  unfold seWrite
  split
  · exact h d
  · next a _ =>
    cases a with
    | false => exact hskip d
    | true => exact h d
  · next a _ =>
    cases a with
    | false => exact hskip d
    | true => exact h d

theorem frame_flashWrite_rel
    (hskip : ∀ d : Device, R d d.countWrite) (h : ∀ d : Device, R d (effect d.countWrite)) :
    Frame R (flashWrite env effect) := by
  intro d
  unfold flashWrite
  split
  · exact h d
  · next a _ =>
    cases a with
    | false => exact hskip d
    | true => exact h d
  · next a _ =>
    cases a with
    | false => exact hskip d
    | true => exact h d

theorem frame_seWrite (hf : Blind f) (h : ∀ d, f (effect d) = f d) :
    Frame (Keeps f) (seWrite env effect) :=
  frame_seWrite_rel env hf.writes fun d => (h _).trans (hf.writes d)

theorem frame_flashWrite (hf : Blind f)
    (h : ∀ d, f (effect d) = f d) : Frame (Keeps f) (flashWrite env effect) :=
  frame_flashWrite_rel env hf.writes fun d => (h _).trans (hf.writes d)

theorem frame_trngGet (hf : Blind f) : Frame (Keeps f) (trngGet env) := fun d => hf.draws d _

theorem frame_stackGarbage (hR : Preorder R) : Frame R (stackGarbage env) := fun d => hR.refl d

theorem frame_seHmacEncryptRead (h : Reading R) (page : Nat) :
    Frame R (seHmacEncryptRead env page) := frame_seRead env h _

theorem frame_seHmacEncryptWrite (hf : Blind f) {data : Page} {page : Nat}
    (h : ∀ d, f (d.setPage page data) = f d) :
    Frame (Keeps f) (seHmacEncryptWrite env data page) := frame_seWrite env hf h

theorem frame_authorize (hR : Preorder R) (keySlot : Nat) (authKey : Page) :
    Frame R (authorize keySlot authKey) := by
  unfold authorize
  split
  · exact frame_throw hR _
  · exact frame_bind hR (frame_get hR) fun _ => frame_require hR _ _

theorem frame_seEncryptWrite (hf : Blind f) {slot : Nat} {data : Page}
    (h : ∀ d, f (d.setSlot slot data) = f d) : Frame (Keeps f) (seEncryptWrite env slot data) :=
  frame_seWrite env hf h

theorem frame_seDeriveKey (hf : Blind f) {slot : Nat} (authKey : Page)
    (h : ∀ d x, f (Device.setSlot d slot x) = f d) :
    Frame (Keeps f) (seDeriveKey env slot authKey) :=
  frame_bind (keeps_preorder f) (frame_authorize (keeps_preorder f) slot authKey) fun _ =>
    frame_bind (keeps_preorder f) (frame_trngGet env hf) fun _ =>
      frame_seWrite env hf fun d => h d _

theorem frame_seKdf (h : Reading R) (slot : Nat) (authKey inData : Page) :
    Frame R (seKdf env slot authKey inData) :=
  frame_bind h.toPreorder (frame_authorize h.toPreorder slot authKey) fun _ => frame_seRead env h _

theorem frame_gd25FlashWriteBuffer (hf : Blind f) {i : AccountIndex} {area : UserArea}
    (h : ∀ d g, f (Device.setFlash d i area g) = f d) (a : Nat) (buffer : List UInt8) :
    Frame (Keeps f) (gd25FlashWriteBuffer env i area a buffer) :=
  frame_each (keeps_preorder f) _ fun _ _ => frame_flashWrite env hf fun d => h d _

theorem frame_eraseArea (hf : Blind f) {i : AccountIndex} {area : UserArea}
    (h : ∀ d g, f (Device.setFlash d i area g) = f d) :
    Frame (Keeps f) (eraseArea env i area) :=
  frame_each (keeps_preorder f) _ fun _ _ => frame_flashWrite env hf fun d => h d _

end

section

variable {env : Env} {P : Device → Prop} {E : ErrCode → Device → Prop} {H : Device → Prop}

theorem triple_seWrite {effect : Device → Device} {Q : Unit → Device → Prop}
    (hok : ∀ d, P d → env.writeReply d.writes = .answered → Q () (effect d.countWrite))
    (herr : ∀ d status applied, P d → env.writeReply d.writes = .refused status applied →
      E (.se status) (if applied then effect d.countWrite else d.countWrite))
    (hhalt : ∀ d applied, P d → env.writeReply d.writes = .stopped applied →
      H (if applied then effect d.countWrite else d.countWrite)) :
    Triple P (seWrite env effect) Q E H := by
  intro d hd
  unfold seWrite
  split
  · next h => exact hok d hd h
  · next h => exact herr d _ _ hd h
  · next h => exact hhalt d _ hd h

theorem triple_flashWrite {effect : Device → Device} {Q : Unit → Device → Prop}
    (hok : ∀ d, P d → env.writeReply d.writes = .answered → Q () (effect d.countWrite))
    (hskip : ∀ d status applied, P d → env.writeReply d.writes = .refused status applied →
      Q () (if applied then effect d.countWrite else d.countWrite))
    (hhalt : ∀ d applied, P d → env.writeReply d.writes = .stopped applied →
      H (if applied then effect d.countWrite else d.countWrite)) :
    Triple P (flashWrite env effect) Q E H := by
  intro d hd
  unfold flashWrite
  split
  · next h => exact hok d hd h
  · next h => exact hskip d _ _ hd h
  · next h => exact hhalt d _ hd h

theorem triple_seRead {α : Type} {value : Device → α} {Q : α → Device → Prop}
    (hok : ∀ d, P d → env.readReply d.writes d.reads = .answered → Q (value d) d.countRead)
    (herr : ∀ d status applied, P d → env.readReply d.writes d.reads = .refused status applied →
      E (.se status) d.countRead)
    (hhalt : ∀ d applied, P d → env.readReply d.writes d.reads = .stopped applied → H d.countRead) :
    Triple P (seRead env value) Q E H := by
  intro d hd
  unfold seRead
  split
  · next h => exact hok d hd h
  · next h => exact herr d _ _ hd h
  · next h => exact hhalt d _ hd h

theorem triple_trngGet {Q : Page → Device → Prop}
    (h : ∀ d, P d → Q (env.trng d.draws) { d with draws := d.draws + 1 }) :
    Triple P (trngGet env) Q E H := h

theorem triple_authorize {keySlot authSlot : Nat} {authKey : Page} {Q : Unit → Device → Prop}
    (hslot : getAuthSlot keySlot = some authSlot)
    (hok : ∀ d, P d → d.slot authSlot = authKey → Q () d)
    (herr : ∀ d, P d → d.slot authSlot ≠ authKey → E (.se atcaCheckmacVerifyFailed) d) :
    Triple P (authorize keySlot authKey) Q E H := by
  unfold authorize
  rw [hslot]
  refine triple_bind (Q := fun d s => P s ∧ d = s) (triple_get fun d hd => ⟨hd, rfl⟩) fun d => ?_
  refine triple_require ?_ ?_
  · rintro hc s ⟨hs, rfl⟩
    exact hok d hs (eq_of_beq hc)
  · rintro hc s ⟨hs, rfl⟩
    refine herr d hs fun he => ?_
    rw [he, beq_self_eq_true] at hc
    cases hc

end

/-! ## Stretches of operations

A routine issues its writes one after the other, so the reply that made it fail
is one of those it can ask for. `Troubled env w n` collects them for a routine
that starts at write `w` and issues `n` writes, with two reads after the third:
the shape of a key-piece update. -/

def Troubled (env : Env) (w n : Nat) : Prop :=
  (∃ k, k < n ∧ env.writeReply (w + k) ≠ .answered) ∨
    ∃ r, r < 2 ∧ env.readReply (w + 3) r ≠ .answered

def Refuses (env : Env) : Prop :=
  (∃ w status applied, env.writeReply w = .refused status applied) ∨
    ∃ w r status applied, env.readReply w r = .refused status applied

theorem triple_seWrite_within {env : Env} {w n k : Nat} {P : Device → Prop}
    {effect : Device → Device} {Q : Unit → Device → Prop} (hk : k < n)
    (hP : ∀ d, P d → d.writes = w + k) (hok : ∀ d, P d → Q () (effect d.countWrite)) :
    Triple P (seWrite env effect) Q (fun _ _ => Refuses env ∧ Troubled env w n)
      (fun _ => Troubled env w n) := by
  have trouble : ∀ d, P d → env.writeReply d.writes ≠ .answered → Troubled env w n :=
    fun d hd h => .inl ⟨k, hk, by rw [← hP d hd]; exact h⟩
  refine triple_seWrite (fun d hd _ => hok d hd) (fun d st a hd h => ?_) fun d a hd h => ?_
  · exact ⟨.inl ⟨_, st, a, h⟩, trouble d hd (by rw [h]; exact SeReply.noConfusion)⟩
  · exact trouble d hd (by rw [h]; exact SeReply.noConfusion)

theorem triple_seRead_within {α : Type} {env : Env} {w n r : Nat} {P : Device → Prop}
    {value : Device → α} {Q : α → Device → Prop} (hr : r < 2)
    (hP : ∀ d, P d → d.writes = w + 3 ∧ d.reads = r) (hok : ∀ d, P d → Q (value d) d.countRead) :
    Triple P (seRead env value) Q (fun _ _ => Refuses env ∧ Troubled env w n)
      (fun _ => Troubled env w n) := by
  have trouble : ∀ d, P d → env.readReply d.writes d.reads ≠ .answered → Troubled env w n :=
    fun d hd h => .inr ⟨r, hr, by rw [← (hP d hd).1, ← (hP d hd).2]; exact h⟩
  refine triple_seRead (fun d hd _ => hok d hd) (fun d st a hd h => ?_) fun d a hd h => ?_
  · exact ⟨.inr ⟨_, _, st, a, h⟩, trouble d hd (by rw [h]; exact SeReply.noConfusion)⟩
  · exact trouble d hd (by rw [h]; exact SeReply.noConfusion)

theorem seRead_answered {α : Type} {env : Env} {value : Device → α} {d : Device}
    (h : env.readReply d.writes d.reads = .answered) :
    seRead env value d = (.ok (value d), d.countRead) := by
  unfold seRead
  rw [h]

theorem seWrite_answered {env : Env} {effect : Device → Device} {d : Device}
    (h : env.writeReply d.writes = .answered) :
    seWrite env effect d = (.ok (), effect d.countWrite) := by
  unfold seWrite
  rw [h]

theorem authorize_ok {keySlot authSlot : Nat} {authKey : Page} {d : Device}
    (hslot : getAuthSlot keySlot = some authSlot) (h : d.slot authSlot = authKey) :
    authorize keySlot authKey d = (.ok (), d) := by
  unfold authorize
  rw [hslot]
  show require (d.slot authSlot == authKey) _ d = _
  rw [h, beq_self_eq_true]
  rfl

end Keystone3
