import Keystone3.Solana.Message

/-!
# The canonical serialisation

Lengths have 16 bits and are written in as few groups as there can be.
-/

namespace Keystone3.Solana

open Bytes (Block)
open Bytes.Reader (Each)

/-- A length below `2 ^ 16`, in as few groups as there can be. -/
def writeLength (n : Nat) : List UInt8 :=
  if n < 128 then [UInt8.ofNat n]
  else if n < 16384 then [UInt8.ofNat (128 + n % 128), UInt8.ofNat (n / 128)]
  else [UInt8.ofNat (128 + n % 128), UInt8.ofNat (128 + n / 128 % 128), UInt8.ofNat (n / 16384)]

theorem last_group {a : Nat} (h : a < 128) :
    UInt8.ofNat a &&& 0x80 = 0 ∧ ((UInt8.ofNat a).toUInt32 &&& 0x7f).toNat = a := by
  have hall : ∀ a < 128, UInt8.ofNat a &&& 0x80 = 0
    ∧ ((UInt8.ofNat a).toUInt32 &&& 0x7f).toNat = a := by decide
  exact hall a h

theorem other_group {a : Nat} (h : a < 128) :
    UInt8.ofNat (128 + a) &&& 0x80 ≠ 0 ∧ ((UInt8.ofNat (128 + a)).toUInt32 &&& 0x7f).toNat = a := by
  have hall : ∀ a < 128, UInt8.ofNat (128 + a) &&& 0x80 ≠ 0
    ∧ ((UInt8.ofNat (128 + a)).toUInt32 &&& 0x7f).toNat = a := by decide
  exact hall a h

theorem toNat_or_shift {len v : UInt32} {k : Nat} (hk : k ≤ 3) (hlen : len.toNat < 2 ^ (7 * k))
    (hv : v.toNat < 128) :
    (len ||| v <<< (UInt32.ofNat k * 7)).toNat = len.toNat + v.toNat * 2 ^ (7 * k) := by
  have hshift : (UInt32.ofNat k * 7).toNat % 32 = 7 * k := by
    rw [UInt32.toNat_mul, UInt32.toNat_ofNat', show (7 : UInt32).toNat = 7 from rfl]
    omega
  have hpow : 2 ^ (7 * k) ≤ 2 ^ 21 := Nat.pow_le_pow_right (by decide) (by omega)
  have hsmall : v.toNat * 2 ^ (7 * k) < 2 ^ 32 := by
    calc v.toNat * 2 ^ (7 * k) ≤ 127 * 2 ^ 21 := Nat.mul_le_mul (by omega) hpow
      _ < 2 ^ 32 := by decide
  rw [UInt32.toNat_or, UInt32.toNat_shiftLeft, hshift, Nat.shiftLeft_eq, Nat.mod_eq_of_lt hsmall,
    Nat.or_comm, ← Nat.shiftLeft_eq, ← Nat.shiftLeft_add_eq_or_of_lt hlen, Nat.add_comm]

theorem toNat_compactValue_last {len : UInt32} {k : Nat} (hk : k ≤ 3)
    (hlen : len.toNat < 2 ^ (7 * k)) {a : Nat} (ha : a < 128) :
    (compactValue len (UInt32.ofNat k) [UInt8.ofNat a]).toNat = len.toNat + a * 2 ^ (7 * k) := by
  have hvalue := (last_group ha).2
  have hor := toNat_or_shift hk hlen (hvalue ▸ ha)
  rw [hvalue] at hor
  exact hor

theorem compactValue_other {len : UInt32} {k : Nat} (hk : k ≤ 3) (hlen : len.toNat < 2 ^ (7 * k))
    {a : Nat} (ha : a < 128) (w : List UInt8) : ∃ next : UInt32,
      next.toNat = len.toNat + a * 2 ^ (7 * k)
        ∧ compactValue len (UInt32.ofNat k) (UInt8.ofNat (128 + a) :: w)
          = compactValue next (UInt32.ofNat (k + 1)) w := by
  have hvalue := (other_group ha).2
  have hor := toNat_or_shift hk hlen (hvalue ▸ ha)
  rw [hvalue] at hor
  refine ⟨_, hor, ?_⟩
  rw [compactValue, UInt32.ofNat_add]
  rfl

theorem isCompact_last {a : Nat} (ha : a < 128) : IsCompact [UInt8.ofNat a] := by
  rw [IsCompact, if_pos (last_group ha).1]

theorem isCompact_other {a : Nat} (ha : a < 128) (w : List UInt8) :
    IsCompact (UInt8.ofNat (128 + a) :: w) ↔ IsCompact w := by
  rw [IsCompact, if_neg (other_group ha).1]

theorem isCompact_writeLength {n : Nat} (h : n < 65536) :
    IsCompact (writeLength n) ∧ n = (compactValue 0 0 (writeLength n)).toNat := by
  have hlow : n % 128 < 128 := Nat.mod_lt n (by decide)
  have hmid : n / 128 % 128 < 128 := Nat.mod_lt _ (by decide)
  unfold writeLength
  by_cases hone : n < 128
  · have hvalue := @toNat_compactValue_last 0 0 (by decide) (by decide) n hone
    rw [if_pos hone]
    exact ⟨isCompact_last hone, hvalue ▸ by simp⟩
  rw [if_neg hone]
  obtain ⟨next, hnext, hfirst⟩ := @compactValue_other 0 0 (by decide) (by decide) _ hlow
    (if n < 16384 then [UInt8.ofNat (n / 128)]
      else [UInt8.ofNat (128 + n / 128 % 128), UInt8.ofNat (n / 16384)])
  rw [show (0 : UInt32).toNat = 0 from rfl, Nat.zero_add, Nat.mul_zero, Nat.pow_zero,
    Nat.mul_one] at hnext
  by_cases htwo : n < 16384
  · have hhigh : n / 128 < 128 := by omega
    have hvalue := @toNat_compactValue_last next 1 (by decide) (by omega) _ hhigh
    rw [if_pos htwo] at hfirst ⊢
    refine ⟨(isCompact_other hlow _).mpr (isCompact_last hhigh), ?_⟩
    have htotal := (congrArg UInt32.toNat hfirst).trans hvalue
    rw [hnext] at htotal
    exact (htotal.trans (by omega)).symm
  · have hhigh : n / 16384 < 128 := by omega
    obtain ⟨third, hthird, hsecond⟩ := @compactValue_other next 1 (by decide) (by omega) _ hmid
      [UInt8.ofNat (n / 16384)]
    have hvalue := @toNat_compactValue_last third 2 (by decide) (by omega) _ hhigh
    rw [if_neg htwo] at hfirst ⊢
    refine ⟨(isCompact_other hlow _).mpr ((isCompact_other hmid _).mpr (isCompact_last hhigh)), ?_⟩
    have htotal := (congrArg UInt32.toNat (hfirst.trans hsecond)).trans hvalue
    rw [hthird, hnext] at htotal
    exact (htotal.trans (by omega)).symm

def writeList {α : Type} (write : α → List UInt8) (as : List α) : List UInt8 :=
  writeLength as.length ++ as.flatMap write

theorem each_flatMap {α : Type} {R : List UInt8 → α → Prop} {write : α → List UInt8} {as : List α}
    (h : ∀ a ∈ as, R (write a) a) : Each R (as.flatMap write) as := by
  induction as with
  | nil => exact .nil
  | cons a as ih =>
    have htail := ih fun b hb => h b (List.mem_cons_of_mem a hb)
    exact .cons (h a (.head _)) htail

theorem spellsList_writeList {α : Type} {R : List UInt8 → α → Prop} {write : α → List UInt8}
    {as : List α} (hlength : as.length < 65536) (h : ∀ a ∈ as, R (write a) a) :
    SpellsList R (writeList write as) as := by
  obtain ⟨hcompact, hvalue⟩ := isCompact_writeLength hlength
  exact ⟨_, _, hcompact, hvalue, each_flatMap h, rfl⟩

def writeBytes (bytes : List UInt8) : List UInt8 := writeList (fun b => [b]) bytes

theorem spellsList_writeBytes {bytes : List UInt8} (h : bytes.length < 65536) :
    SpellsList (fun w b => w = [b]) (writeBytes bytes) bytes :=
  spellsList_writeList h fun _ _ => rfl

def Instruction.serialize (instruction : Instruction) : List UInt8 :=
  instruction.programIndex :: (writeBytes instruction.accountIndexes ++ writeBytes instruction.data)

structure Instruction.WellFormed (instruction : Instruction) : Prop where
  accountIndexes : instruction.accountIndexes.length < 65536
  data : instruction.data.length < 65536

theorem Instruction.spelled_serialize {instruction : Instruction} (h : instruction.WellFormed) :
    Spelled instruction.serialize instruction :=
  ⟨_, _, spellsList_writeBytes h.accountIndexes, spellsList_writeBytes h.data, rfl⟩

def MessageAddressTableLookup.serialize (lookup : MessageAddressTableLookup) : List UInt8 :=
  lookup.accountKey.bytes ++ (writeBytes lookup.writableIndexes ++ writeBytes lookup.readonlyIndexes)

structure MessageAddressTableLookup.WellFormed (lookup : MessageAddressTableLookup) : Prop where
  writableIndexes : lookup.writableIndexes.length < 65536
  readonlyIndexes : lookup.readonlyIndexes.length < 65536

theorem MessageAddressTableLookup.spelled_serialize {lookup : MessageAddressTableLookup}
    (h : lookup.WellFormed) : Spelled lookup.serialize lookup :=
  ⟨_, _, spellsList_writeBytes h.writableIndexes, spellsList_writeBytes h.readonlyIndexes, rfl⟩

namespace Message

def serializeLookups (lookups : Option (List MessageAddressTableLookup)) : List UInt8 :=
  match lookups with
  | none => []
  | some lookups => writeList MessageAddressTableLookup.serialize lookups

def serializeBody (m : Message) : List UInt8 :=
  m.header.bytes ++ (writeList Block.bytes m.accounts ++ (m.blockHash.bytes
    ++ (writeList Instruction.serialize m.instructions ++ serializeLookups m.addressTableLookups)))

def serialize (m : Message) : List UInt8 :=
  if m.isVersioned then 0x80 :: m.serializeBody else m.serializeBody

/-- The lists are not too long, just the versioned messages have lookups, and a message without
a version does not begin with one. -/
structure WellFormed (m : Message) : Prop where
  accounts : m.accounts.length < 65536
  instructions : m.instructions.length < 65536
  instruction : ∀ instruction ∈ m.instructions, instruction.WellFormed
  versioned : m.isVersioned = m.addressTableLookups.isSome
  lookups : ∀ lookups ∈ m.addressTableLookups, lookups.length < 65536
  lookup : ∀ lookups ∈ m.addressTableLookups, ∀ lookup ∈ lookups, lookup.WellFormed
  signatures : m.isVersioned = false → m.header.numRequiredSignatures ≠ 0x80

theorem spellsLookups_serialize {isVersioned : Bool}
    {lookups : Option (List MessageAddressTableLookup)} (hversioned : isVersioned = lookups.isSome)
    (hlength : ∀ ls ∈ lookups, ls.length < 65536)
    (hlookup : ∀ ls ∈ lookups, ∀ lookup ∈ ls, lookup.WellFormed) :
    SpellsLookups isVersioned (serializeLookups lookups) lookups := by
  subst hversioned
  cases lookups with
  | none => exact ⟨rfl, rfl⟩
  | some ls =>
    exact ⟨ls, rfl, spellsList_writeList (hlength ls rfl) fun lookup h =>
      MessageAddressTableLookup.spelled_serialize (hlookup ls rfl lookup h)⟩

theorem spellsBody_serialize {m : Message} (h : m.WellFormed) : SpellsBody m.serializeBody m :=
  ⟨_, _, _, spellsList_writeList h.accounts fun _ _ => rfl,
    spellsList_writeList h.instructions fun instruction hmem =>
      Instruction.spelled_serialize (h.instruction instruction hmem),
    spellsLookups_serialize h.versioned h.lookups h.lookup, rfl⟩

theorem spelled_serialize {m : Message} (h : m.WellFormed) : Spelled m.serialize m := by
  have hbody := spellsBody_serialize h
  unfold Spelled serialize
  by_cases hversioned : m.isVersioned = true
  · rw [if_pos hversioned, if_pos hversioned]
    exact ⟨_, hbody, rfl⟩
  · rw [if_neg hversioned, if_neg hversioned]
    exact ⟨hbody, h.signatures (Bool.eq_false_iff.mpr hversioned)⟩

/-- A well-formed message is read from its canonical bytes, and all of them are read. -/
theorem read_serialize {m : Message} (h : m.WellFormed) (rest : List UInt8) :
    read (m.serialize ++ rest) = .ok (m, rest) :=
  spells_read.reads (spelled_serialize h) rest

def sample : Message where
  isVersioned := true
  header := ⟨1, 0, 1⟩
  accounts := [Block.ofBytes 32 [1], Block.ofBytes 32 [2]]
  blockHash := Block.ofBytes 32 [3]
  instructions := [⟨1, [0, 2], List.replicate 200 7⟩]
  addressTableLookups := some [⟨Block.ofBytes 32 [4], [5], []⟩]

theorem read_serialize_sample : read (sample.serialize ++ [9]) = .ok (sample, [9]) := by
  refine read_serialize ⟨by decide, by decide, ?_, rfl, ?_, ?_, by decide⟩ [9]
  · intro instruction h
    rw [List.mem_singleton.mp h]
    refine ⟨by decide, ?_⟩
    rw [List.length_replicate]
    decide
  · intro lookups h
    cases h
    decide
  · intro lookups h lookup hlookup
    cases h
    rw [List.mem_singleton.mp hlookup]
    exact ⟨by decide, by decide⟩

/-- A message is read from the bytes that begin with a spelling of it. -/
theorem read_iff (raw : List UInt8) (m : Message) (rest : List UInt8) :
    read raw = .ok (m, rest) ↔ ∃ w, Spelled w m ∧ raw = w ++ rest :=
  spells_read raw m rest

def loose : List UInt8 := [1, 0, 0, 0x80, 0] ++ List.replicate 32 0 ++ [0]

/-- What is read need not be canonical, and something may come behind. -/
theorem not_canonical_of_read :
    (¬∀ (raw : List UInt8) (m : Message), read raw = .ok (m, []) → raw = m.serialize)
      ∧ ¬∀ (raw : List UInt8) (m : Message) (rest : List UInt8),
        read raw = .ok (m, rest) → rest = [] := by
  constructor
  · intro h
    have hread : read loose = .ok (⟨false, ⟨1, 0, 0⟩, [], Block.ofBytes 32 [], [], none⟩, []) := rfl
    cases h _ _ hread
  · intro h
    have hread : read (loose ++ [5])
        = .ok (⟨false, ⟨1, 0, 0⟩, [], Block.ofBytes 32 [], [], none⟩, [5]) := rfl
    cases h _ _ _ hread

end Message

end Keystone3.Solana
