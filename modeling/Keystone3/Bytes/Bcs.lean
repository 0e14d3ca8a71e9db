import Mathlib.Tactic.Ring
import Keystone3.Bytes.Reader
import Keystone3.Bytes.Utf8

/-!
# BCS

The binary form of numbers, texts, sequences and variants in which every value is
spelled in one way. A reader is canonical if it does not panic and what it reads
is what is written of the value (`Canonical`); this is closed under sequences and
repetitions, and so bytes that are read as a value and to their end are those of
the value (`eq_of_fromBytes`).
-/

namespace Keystone3.Bytes.Bcs

open Logic (Outcome)
open Reader (byte take block)
open Logic.Outcome (bind_eq_ok returns_error returns_ok)

inductive Error where
  | eof
  | exceededMaxLen (length : Nat)
  | exceededContainerDepthLimit
  | expectedBoolean
  | remainingInput
  | utf8
  | nonCanonicalUleb128Encoding
  | integerOverflowDuringUleb128Decoding
  | unknownVariant (index : Nat)

abbrev Read (α : Type) : Type := Reader Error α

def fail {α : Type} (e : Error) : Read α := Reader.lift (.error e)

/-- `parse_u32_from_uleb128`, with so many bytes left. -/
def ulebLoop : Nat → Nat → Nat → Read Nat
  | 0, _, _ => fail .integerOverflowDuringUleb128Decoding
  | left + 1, shift, value => do
    let b ← byte (some .eof)
    let digit := b.toNat % 128
    let value := value + digit * 2 ^ shift
    if b.toNat < 128 then
      if 0 < shift ∧ digit = 0 then fail .nonCanonicalUleb128Encoding
      else if value < 2 ^ 32 then pure value
      else fail .integerOverflowDuringUleb128Decoding
    else ulebLoop left (shift + 7) value

def uleb : Read Nat := ulebLoop 5 0 0

def length : Read Nat := do
  let n ← uleb
  if 2 ^ 31 - 1 < n then fail (.exceededMaxLen n) else pure n

def bool : Read Bool := do
  let b ← byte (some .eof)
  if b = 0 then pure false
  else if b = 1 then pure true
  else fail .expectedBoolean

def int (n : Nat) : Read Nat := Reader.little (some .eof) n

def bytes : Read (List UInt8) := do
  let n ← length
  take (some .eof) n

def string : Read (List Char) := do
  let s ← bytes
  match ofUtf8 s with
  | some text => pure text
  | none => fail .utf8

def seq {α : Type} (p : Read α) : Read (List α) := do
  let n ← length
  Reader.many p n

def container {α : Type} (p : Nat → Read α) : Nat → Read α
  | 0 => fail .exceededContainerDepthLimit
  | depth + 1 => p depth

def fromBytes {α : Type} (p : Read α) (s : List UInt8) : Outcome Error α := do
  let r ← p s
  if r.2 = [] then pure r.1 else .error .remainingInput

/-- `write_u32_as_uleb128`, in at most so many bytes after the first. -/
def putUleb : Nat → Nat → List UInt8
  | 0, n => [UInt8.ofNat n]
  | left + 1, n =>
    if n < 128 then [UInt8.ofNat n] else UInt8.ofNat (128 + n % 128) :: putUleb left (n / 128)

def putLength (n : Nat) : List UInt8 := putUleb 4 n

def putBool (b : Bool) : List UInt8 := if b = true then [1] else [0]

def putInt (n value : Nat) : List UInt8 := toLe n value

def putBytes (s : List UInt8) : List UInt8 := putLength s.length ++ s

def putString (text : List Char) : List UInt8 := putBytes (utf8 text)

def putSeq {α : Type} (write : α → List UInt8) (as : List α) : List UInt8 :=
  putLength as.length ++ as.flatMap write

section

variable {α β : Type}

/-- There is no panic, and what is read, with what was read before it, is what is
written of the value. -/
structure CanonicalAfter (front : List UInt8) (p : Read α) (write : α → List UInt8) : Prop where
  returns : ∀ s, (p s).Returns
  spelled : ∀ {s a rest}, p s = .ok (a, rest) → front ++ s = write a ++ rest

/-- There is no panic, and what is read is what is written of the value. -/
abbrev Canonical (p : Read α) (write : α → List UInt8) : Prop := CanonicalAfter [] p write

variable {write : α → List UInt8} {p : Read α}

theorem Canonical.eq_append (hp : Canonical p write)
    {s rest : List UInt8} {a : α} (h : p s = .ok (a, rest)) : s = write a ++ rest :=
  hp.spelled h

variable {front : List UInt8}

theorem CanonicalAfter.bind {f : α → Read β} {write' : β → List UInt8} (hp : Canonical p write)
    (hf : ∀ a, CanonicalAfter (front ++ write a) (f a) write') :
    CanonicalAfter front (p >>= f) write' where
  returns s := (hp.returns s).bind fun r _ => (hf r.1).returns r.2
  spelled {s b rest} h := by
    rw [Reader.bind_apply, bind_eq_ok] at h
    obtain ⟨⟨a, mid⟩, hfirst, hsecond⟩ := h
    rw [hp.eq_append hfirst, ← List.append_assoc]
    exact (hf a).spelled hsecond

theorem Canonical.bind {f : α → Read β}
    {write' : β → List UInt8} (hp : Canonical p write)
    (hf : ∀ a, CanonicalAfter (write a) (f a) write') : Canonical (p >>= f) write' :=
  CanonicalAfter.bind hp hf

theorem CanonicalAfter.pure {a : α}
    (h : front = write a) : CanonicalAfter front (pure a : Read α) write where
  returns s := returns_ok (a, s)
  spelled hread := by
    cases hread
    rw [h]

theorem CanonicalAfter.fail {e : Error} :
    CanonicalAfter front (Bcs.fail e : Read α) write where
  returns _ := returns_error e
  spelled hread := by cases hread

theorem CanonicalAfter.map {f : α → β}
    {write' : β → List UInt8} (hp : Canonical p write) (hf : ∀ a, front ++ write a = write' (f a)) :
    CanonicalAfter front (do let a ← p; Pure.pure (f a)) write' :=
  CanonicalAfter.bind hp fun a => CanonicalAfter.pure (hf a)

theorem canonical_byte : Canonical (byte (some .eof)) fun b => [b] where
  returns s := by
    cases s with
    | nil => exact returns_error Error.eof
    | cons c s => exact returns_ok (c, s)
  spelled {s b rest} h := by
    cases s with
    | nil => cases h
    | cons c s =>
      cases h
      rfl

theorem returns_take (n : Nat) (s : List UInt8) : (take (some Error.eof) n s).Returns := by
  unfold take
  split
  · exact returns_error Error.eof
  · exact returns_ok (s.take n, s.drop n)

theorem eq_append_of_take {n : Nat} {s w rest : List UInt8}
    (h : take (some Error.eof) n s = .ok (w, rest)) : s = w ++ rest ∧ w.length = n := by
  obtain ⟨w', ⟨rfl, hlength⟩, hs⟩ := (Reader.spells_take (some Error.eof) n s w rest).mp h
  exact ⟨hs, hlength⟩

theorem CanonicalAfter.take_bind {n : Nat} {f : List UInt8 → Read β}
    {write : β → List UInt8} (hf : ∀ w, w.length = n → CanonicalAfter (front ++ w) (f w) write) :
    CanonicalAfter front (take (some .eof) n >>= f) write where
  returns s := (returns_take n s).bind fun r hr => (hf r.1 (eq_append_of_take hr).2).returns r.2
  spelled {s b rest} h := by
    rw [Reader.bind_apply, bind_eq_ok] at h
    obtain ⟨⟨w, mid⟩, htake, hvalue⟩ := h
    obtain ⟨rfl, hlength⟩ := eq_append_of_take htake
    rw [← List.append_assoc]
    exact (hf w hlength).spelled hvalue

theorem canonical_block (n : Nat) : Canonical (block (some .eof) n) Block.bytes :=
  CanonicalAfter.take_bind fun w hw => CanonicalAfter.pure (by
    subst hw
    exact (congrArg Block.bytes (Block.ofBytes_bytes (⟨w, rfl⟩ : Block w.length))).symm)

theorem canonical_int (n : Nat) : Canonical (int n) (putInt n) :=
  CanonicalAfter.take_bind fun w hw => CanonicalAfter.pure (by
    subst hw
    exact (toLe_ofLe w).symm)

theorem canonical_bool : Canonical bool putBool := by
  refine canonical_byte.bind fun b => ?_
  split
  · rename_i hb
    exact CanonicalAfter.pure (by rw [hb]; rfl)
  split
  · rename_i hb
    exact CanonicalAfter.pure (by rw [hb]; rfl)
  · exact CanonicalAfter.fail

theorem exists_of_ulebLoop {left shift value : Nat} {s rest : List UInt8} {total : Nat}
    (h : ulebLoop (left + 1) shift value s = .ok (total, rest)) :
    ∃ n, total = value + n * 2 ^ shift ∧ (0 < shift → 0 < n) ∧ s = putUleb left n ++ rest := by
  induction left generalizing shift value s with
  | zero =>
    rw [ulebLoop, Reader.bind_apply, bind_eq_ok] at h
    obtain ⟨⟨b, mid⟩, hbyte, h⟩ := h
    have hs := canonical_byte.eq_append hbyte
    dsimp only at h
    split at h
    · rename_i hsmall
      split at h
      · cases h
      rename_i hcanonical
      split at h
      · cases h
        rw [Nat.mod_eq_of_lt hsmall] at hcanonical ⊢
        refine ⟨b.toNat, rfl, fun hshift => by omega, ?_⟩
        rw [putUleb, UInt8.ofNat_toNat]
        exact hs
      · cases h
    · cases h
  | succ left ih =>
    rw [ulebLoop, Reader.bind_apply, bind_eq_ok] at h
    obtain ⟨⟨b, mid⟩, hbyte, h⟩ := h
    have hs := canonical_byte.eq_append hbyte
    have hb := b.toNat_lt
    dsimp only at h
    split at h
    · -- the last digit
      rename_i hsmall
      split at h
      · cases h
      rename_i hcanonical
      split at h
      · cases h
        rw [Nat.mod_eq_of_lt hsmall] at hcanonical ⊢
        refine ⟨b.toNat, rfl, fun hshift => by omega, ?_⟩
        rw [putUleb, if_pos hsmall, UInt8.ofNat_toNat]
        exact hs
      · cases h
    · -- the number of the digits behind this one is not zero, so this is not the last
      rename_i hlarge
      obtain ⟨n, htotal, hpos, hmid⟩ := ih h
      have hn := hpos (by omega)
      -- what `putUleb` takes off first is the digit just read
      have hmod : (b.toNat % 128 + 128 * n) % 128 = b.toNat % 128 := by omega
      have hdiv : (b.toNat % 128 + 128 * n) / 128 = n := by omega
      have hfirst : 128 + b.toNat % 128 = b.toNat := by omega
      refine ⟨b.toNat % 128 + 128 * n, ?_, fun _ => by omega, ?_⟩
      · rw [htotal, Nat.pow_add, Nat.add_mul]
        ring
      · rw [putUleb, if_neg (by omega), hmod, hdiv, hfirst, UInt8.ofNat_toNat, List.cons_append,
          ← hmid]
        exact hs

theorem returns_ulebLoop (left shift value : Nat) (s : List UInt8) :
    (ulebLoop left shift value s).Returns := by
  induction left generalizing shift value s with
  | zero => exact returns_error Error.integerOverflowDuringUleb128Decoding
  | succ left ih =>
    refine (canonical_byte.returns s).bind fun r _ => ?_
    dsimp only
    split
    · split
      · exact returns_error Error.nonCanonicalUleb128Encoding
      split
      · exact returns_ok _
      · exact returns_error Error.integerOverflowDuringUleb128Decoding
    · exact ih _ _ r.2

theorem canonical_uleb : Canonical uleb putLength where
  returns s := returns_ulebLoop 5 0 0 s
  spelled {s total rest} h := by
    obtain ⟨n, htotal, -, hs⟩ := exists_of_ulebLoop h
    rw [Nat.zero_add, Nat.pow_zero, Nat.mul_one] at htotal
    rw [htotal]
    exact hs

theorem canonical_length : Canonical length putLength := by
  refine canonical_uleb.bind fun n => ?_
  split
  · exact CanonicalAfter.fail
  · exact CanonicalAfter.pure rfl

theorem canonical_bytes : Canonical bytes putBytes := by
  refine canonical_length.bind fun n => ⟨returns_take n, fun {s w rest} h => ?_⟩
  obtain ⟨rfl, rfl⟩ := eq_append_of_take h
  exact (List.append_assoc ..).symm

theorem canonical_string : Canonical string putString := by
  refine canonical_bytes.bind fun s => ?_
  split
  · rename_i text htext
    exact CanonicalAfter.pure (by rw [putString, utf8_of_ofUtf8 htext])
  · exact CanonicalAfter.fail

theorem canonicalAfter_many (hp : Canonical p write)
    (n : Nat) {write' : List α → List UInt8}
    (h : ∀ as, as.length = n → front ++ as.flatMap write = write' as) :
    CanonicalAfter front (Reader.many p n) write' := by
  induction n generalizing front write' with
  | zero => exact CanonicalAfter.pure (by rw [← h [] rfl, List.flatMap_nil, List.append_nil])
  | succ n ih =>
    refine CanonicalAfter.bind hp fun a => ?_
    have hrest : CanonicalAfter (front ++ write a) (Reader.many p n) fun as => write' (a :: as) :=
      ih fun as has => by
        rw [← h (a :: as) (congrArg (· + 1) has), List.flatMap_cons, List.append_assoc]
    -- the list is put together behind the last reader, which changes what is written only
    exact ⟨fun s => (hrest.returns s).bind fun r _ => returns_ok _, fun {s as rest} hread => by
      rw [Reader.bind_apply, bind_eq_ok] at hread
      obtain ⟨⟨as', last⟩, hmany, hread⟩ := hread
      cases hread
      exact hrest.spelled hmany⟩

theorem canonical_seq (hp : Canonical p write) :
    Canonical (seq p) (putSeq write) :=
  canonical_length.bind fun n =>
    canonicalAfter_many hp n fun as has => by rw [putSeq, has]

theorem returns_fromBytes (hp : Canonical p write)
    (s : List UInt8) : (fromBytes p s).Returns := by
  refine (hp.returns s).bind fun r _ => ?_
  split
  · exact returns_ok r.1
  · exact returns_error Error.remainingInput

theorem eq_of_fromBytes (hp : Canonical p write)
    {s : List UInt8} {a : α} (h : fromBytes p s = .ok a) : s = write a := by
  rw [fromBytes, bind_eq_ok] at h
  obtain ⟨⟨a', rest⟩, hread, h⟩ := h
  dsimp only at h
  split at h
  · rename_i hrest
    cases h
    rw [hp.eq_append hread, hrest, List.append_nil]
  · cases h

end

end Keystone3.Bytes.Bcs
