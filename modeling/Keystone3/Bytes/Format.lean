import Keystone3.Bytes.Reader
import Keystone3.Logic.Panic

/-!
# Formats

A format says which bytes spell which value, and nothing about how they are read. A
reader decides a format if it reads what the format says and panics on all other bytes
(`Decides`); readers that are put together decide the format that is put together alike.
For such a reader `valueIff` says when it does not panic.
-/

namespace Keystone3.Bytes

open Logic (Outcome)
open Logic.Outcome (ValueIff)
open Logic.Outcome (fails_bind not_fails_ok)

def Format (α : Type) : Type := List UInt8 → α → Prop

namespace Format

variable {α β : Type}

instance : Monad Format where
  pure a := fun w b => w = [] ∧ b = a
  bind R S := fun w b => ∃ a w₁ w₂, R w₁ a ∧ S a w₂ b ∧ w = w₁ ++ w₂

def Begins (R : Format α) (s : List UInt8) (a : α) : Prop := ∃ w rest, R w a ∧ s = w ++ rest

/-- Bytes, as many as `n`. -/
def bytes (n : Nat) : Format (List UInt8) := fun w bs => w = bs ∧ bs.length = n

def block (n : Nat) : Format (Block n) := fun w a => w = a.bytes

def byte : Format UInt8 := fun w b => w = [b]

def little (n : Nat) : Format Nat := fun w value => w = toLe n value ∧ value < 256 ^ n

/-- `n` values, one behind the other. -/
def many (R : Format α) (n : Nat) : Format (List α) :=
  fun w as => as.length = n ∧ Reader.Each R w as

def meaning {ε : Type} (R : Format α) (g : α → Outcome ε β) : Format β :=
  fun w b => ∃ a, R w a ∧ g a = .ok b

end Format

namespace Reader

variable {ε α β γ : Type}

/-- The reader reads what the format says, and panics on all else. -/
structure Decides (p : Reader ε α) (R : Format α) : Prop where
  spells : Spells p R
  not_fails : ∀ s, ¬Outcome.Fails (p s)

namespace Decides

variable {p : Reader ε α} {R : Format α}

theorem pure (a : α) : Decides (pure a : Reader ε α) (Pure.pure a) :=
  ⟨Spells.pure a, fun s => not_fails_ok (a, s)⟩

theorem bind {f : α → Reader ε β} {S : α → Format β} (hp : Decides p R)
    (hf : ∀ a, Decides (f a) (S a)) : Decides (p >>= f) (R >>= S) := by
  refine ⟨hp.spells.bind fun a => (hf a).spells, fun s => ?_⟩
  rw [bind_apply, fails_bind]
  rintro (h | ⟨⟨a, mid⟩, -, h⟩)
  · exact hp.not_fails s h
  · exact (hf a).not_fails mid h

theorem map (hp : Decides p R) (f : α → β) :
    Decides (do let a ← p; Pure.pure (f a)) (do let a ← R; Pure.pure (f a)) :=
  hp.bind fun a => Decides.pure (f a)

theorem many (hp : Decides p R) (n : Nat) : Decides (Reader.many p n) (R.many n) := by
  refine ⟨hp.spells.many n, ?_⟩
  induction n with
  | zero => exact fun s => not_fails_ok ([], s)
  | succ n ih =>
    intro s
    rw [Reader.many, bind_apply, fails_bind]
    rintro (h | ⟨⟨a, mid⟩, -, h⟩)
    · exact hp.not_fails s h
    · rw [bind_apply, fails_bind] at h
      rcases h with h | ⟨r, -, h⟩
      · exact ih mid h
      · exact not_fails_ok _ h

theorem congr {S : Format α} (hp : Decides p R) (h : ∀ w a, R w a ↔ S w a) : Decides p S := by
  have hsame : R = S := funext fun w => funext fun a => propext (h w a)
  exact hsame ▸ hp

theorem lift (hp : Decides p R) {g : α → Outcome ε β} (hg : ∀ a, ¬Outcome.Fails (g a)) :
    Decides (p >>= fun a => Reader.lift (g a)) (R.meaning g) := by
  constructor
  · intro s b rest
    rw [bind_eq_ok]
    constructor
    · rintro ⟨a, mid, ha, h⟩
      obtain ⟨hb, rfl⟩ := lift_eq_ok.mp h
      obtain ⟨w, hw, rfl⟩ := (hp.spells s a _).mp ha
      exact ⟨w, ⟨a, hw, hb⟩, rfl⟩
    · rintro ⟨w, ⟨a, hw, hb⟩, rfl⟩
      exact ⟨a, rest, hp.spells.reads hw rest, lift_eq_ok.mpr ⟨hb, rfl⟩⟩
  · intro s
    rw [bind_apply, fails_bind]
    rintro (h | ⟨⟨a, mid⟩, -, h⟩)
    · exact hp.not_fails s h
    · exact hg a (Outcome.fails_map.mp h)

theorem lift_bind (hp : Decides p R) {g : α → Outcome ε β} (hg : ∀ a, ¬Outcome.Fails (g a))
    {T : Format β} (hT : ∀ w b, R.meaning g w b ↔ T w b) {f : β → Reader ε γ} {S : β → Format γ}
    (hf : ∀ b, Decides (f b) (S b)) :
    Decides (do let a ← p; let b ← Reader.lift (g a); f b) (T >>= S) := by
  have hsame : (do let a ← p; let b ← Reader.lift (g a); f b)
      = (p >>= fun a => Reader.lift (g a)) >>= f := by
    funext s
    rw [bind_apply, bind_apply, bind_apply]
    cases p s with
    | ok r => rfl
    | error e => rfl
    | halted => rfl
  rw [hsame]
  exact ((hp.lift hg).congr hT).bind hf

theorem valueIff (hp : Decides p R) (s : List UInt8) : ValueIff (p s) (∃ a, R.Begins s a) := by
  refine Outcome.valueIff_of_cases ?_ (hp.not_fails s) ?_
  · intro r h
    obtain ⟨w, hw, hs⟩ := (hp.spells s r.1 r.2).mp h
    exact ⟨r.1, w, r.2, hw, hs⟩
  · rintro ⟨a, w, rest, hw, rfl⟩
    rw [hp.spells.reads hw rest]
    exact Outcome.returns_ok _

theorem run_eq_ok (hp : Decides p R) {s : List UInt8} {a : α} :
    Reader.run p s = .ok a ↔ R.Begins s a := by
  unfold Reader.run
  rw [Outcome.bind_eq_ok]
  constructor
  · rintro ⟨⟨b, rest⟩, h, hb⟩
    cases hb
    obtain ⟨w, hw, hs⟩ := (hp.spells s b rest).mp h
    exact ⟨w, rest, hw, hs⟩
  · rintro ⟨w, rest, hw, rfl⟩
    exact ⟨(a, rest), hp.spells.reads hw rest, rfl⟩

theorem run_valueIff (hp : Decides p R) (s : List UInt8) :
    ValueIff (Reader.run p s) (∃ a, R.Begins s a) := (hp.valueIff s).map

end Decides

theorem not_fails_stop : ¬Outcome.Fails (stop none : Outcome ε α) := Outcome.not_fails_halted

theorem decides_take (n : Nat) : Decides (take none n : Reader ε (List UInt8)) (Format.bytes n) := by
  refine ⟨spells_take none n, fun s => ?_⟩
  unfold take
  by_cases hshort : s.length < n
  · rw [if_pos hshort]
    exact not_fails_stop
  · rw [if_neg hshort]
    exact not_fails_ok _

theorem decides_block (n : Nat) : Decides (block none n : Reader ε (Block n)) (Format.block n) :=
  ⟨spells_block none n, ((decides_take n).map (Block.ofBytes n)).not_fails⟩

theorem decides_byte : Decides (byte none : Reader ε UInt8) Format.byte := by
  refine ⟨spells_byte none, fun s => ?_⟩
  cases s with
  | nil => exact not_fails_stop
  | cons b s => exact not_fails_ok (b, s)

theorem decides_little (n : Nat) : Decides (little none n : Reader ε Nat) (Format.little n) := by
  refine ((decides_take n).map ofLe).congr fun w value => ?_
  constructor
  · rintro ⟨bs, w₁, w₂, ⟨rfl, rfl⟩, ⟨rfl, rfl⟩, rfl⟩
    rw [List.append_nil]
    exact ⟨(toLe_ofLe w₁).symm, ofLe_lt w₁⟩
  · rintro ⟨rfl, hlt⟩
    refine ⟨toLe n value, toLe n value, [], ⟨rfl, length_toLe n value⟩, ⟨rfl, ?_⟩, ?_⟩
    · exact (ofLe_toLe n value hlt).symm
    · exact (List.append_nil _).symm

end Reader

end Keystone3.Bytes
