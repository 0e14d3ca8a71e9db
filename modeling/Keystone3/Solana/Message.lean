import Keystone3.Bytes.Reader

/-!
# Messages

A message is a header and lists behind their lengths, and a versioned message has
a byte in front and one more list behind. A length is read in groups of seven
bits as long as a byte has its highest bit, in any number of them: `read_iff`
says which bytes are read as a message, and `read_serialize` that those of its
serialisation are.
-/

namespace Keystone3.Solana

open Bytes (Block Reader)
open Bytes.Reader (Spells Each)

/-- `SolanaError`, less what is only raised elsewhere. -/
inductive SolanaError where
  | invalidData (what : String)

/-- `read_length`, with the length so far and the groups that have been read. A shift is modulo
32 bits. -/
def readLengthFrom (len size : UInt32) : Reader SolanaError UInt32
  | [] => .error (.invalidData "compact length")
  | element :: raw =>
    let len := len ||| (element.toUInt32 &&& 0x7f) <<< (size * 7)
    if element &&& 0x80 = 0 then .ok (len, raw) else readLengthFrom len (size + 1) raw

def readLength : Reader SolanaError UInt32 := readLengthFrom 0 0

def compact {α : Type} (p : Reader SolanaError α) : Reader SolanaError (List α) := do
  let length ← readLength
  Reader.many p length.toNat

def readU8 : Reader SolanaError UInt8 := Reader.byte (some (.invalidData "u8"))

structure MessageHeader where
  numRequiredSignatures : UInt8
  numReadonlySignedAccounts : UInt8
  numReadonlyUnsignedAccounts : UInt8

structure Instruction where
  programIndex : UInt8
  accountIndexes : List UInt8
  data : List UInt8

structure MessageAddressTableLookup where
  accountKey : Block 32
  writableIndexes : List UInt8
  readonlyIndexes : List UInt8

structure Message where
  isVersioned : Bool
  header : MessageHeader
  accounts : List (Block 32)
  blockHash : Block 32
  instructions : List Instruction
  addressTableLookups : Option (List MessageAddressTableLookup)

def MessageHeader.read : Reader SolanaError MessageHeader := do
  let bytes ← Reader.block (some (.invalidData "message header")) 3
  pure ⟨bytes.get 0, bytes.get 1, bytes.get 2⟩

def readAccount : Reader SolanaError (Block 32) := Reader.block (some (.invalidData "account")) 32

def readBlockHash : Reader SolanaError (Block 32) :=
  Reader.block (some (.invalidData "blockhash")) 32

def Instruction.read : Reader SolanaError Instruction := do
  let programIndex ← Reader.byte (some (.invalidData "instruction"))
  let accountIndexes ← compact readU8
  let data ← compact readU8
  pure ⟨programIndex, accountIndexes, data⟩

def MessageAddressTableLookup.read : Reader SolanaError MessageAddressTableLookup := do
  let accountKey ← readAccount
  let writableIndexes ← compact readU8
  let readonlyIndexes ← compact readU8
  pure ⟨accountKey, writableIndexes, readonlyIndexes⟩

namespace Message

def readLookups (isVersioned : Bool) :
    Reader SolanaError (Option (List MessageAddressTableLookup)) :=
  if isVersioned then do
    let lookups ← compact MessageAddressTableLookup.read
    pure (some lookups)
  else pure none

def readBody (isVersioned : Bool) : Reader SolanaError Message := do
  let header ← MessageHeader.read
  let accounts ← compact readAccount
  let blockHash ← readBlockHash
  let instructions ← compact Instruction.read
  let addressTableLookups ← readLookups isVersioned
  pure { isVersioned, header, accounts, blockHash, instructions, addressTableLookups }

def read : Reader SolanaError Message
  | [] => .error (.invalidData "empty message")
  | first :: raw => if first = 0x80 then readBody true raw else readBody false (first :: raw)

end Message

/-- Groups of seven bits, all but the last with the highest bit. -/
def IsCompact : List UInt8 → Prop
  | [] => False
  | element :: w => if element &&& 0x80 = 0 then w = [] else IsCompact w

def compactValue (len size : UInt32) : List UInt8 → UInt32
  | [] => len
  | element :: w => compactValue (len ||| (element.toUInt32 &&& 0x7f) <<< (size * 7)) (size + 1) w

theorem spells_readLengthFrom : ∀ len size : UInt32, Spells (readLengthFrom len size)
    fun w length => IsCompact w ∧ length = compactValue len size w := by
  intro len size s
  induction s generalizing len size with
  | nil =>
    intro length rest
    constructor
    · nofun
    · intro h
      obtain ⟨w, ⟨hcompact, -⟩, hs⟩ := h
      rw [(List.append_eq_nil_iff.mp hs.symm).1] at hcompact
      exact hcompact.elim
  | cons element raw ih =>
    intro length rest
    rw [readLengthFrom]
    by_cases hlast : element &&& 0x80 = 0
    · rw [if_pos hlast]
      constructor
      · intro h
        cases h
        refine ⟨[element], ⟨?_, rfl⟩, rfl⟩
        rw [IsCompact, if_pos hlast]
      · intro h
        obtain ⟨w, ⟨hcompact, rfl⟩, hs⟩ := h
        cases w with
        | nil => exact hcompact.elim
        | cons first w =>
          cases hs
          rw [IsCompact, if_pos hlast] at hcompact
          rw [hcompact]
          rfl
    · rw [if_neg hlast, ih]
      constructor
      · intro h
        obtain ⟨w, ⟨hcompact, rfl⟩, rfl⟩ := h
        refine ⟨element :: w, ⟨?_, rfl⟩, rfl⟩
        rw [IsCompact, if_neg hlast]
        exact hcompact
      · intro h
        obtain ⟨w, ⟨hcompact, rfl⟩, hs⟩ := h
        cases w with
        | nil => exact hcompact.elim
        | cons first w =>
          cases hs
          rw [IsCompact, if_neg hlast] at hcompact
          exact ⟨w, ⟨hcompact, rfl⟩, rfl⟩

/-- A list is spelled by a length, in any number of groups, and by its elements. -/
def SpellsList {α : Type} (R : List UInt8 → α → Prop) (w : List UInt8) (as : List α) : Prop :=
  ∃ groups elements, IsCompact groups ∧ as.length = (compactValue 0 0 groups).toNat
    ∧ Each R elements as ∧ w = groups ++ elements

theorem spells_compact {α : Type} {p : Reader SolanaError α} {R : List UInt8 → α → Prop}
    (hp : Spells p R) : Spells (compact p) (SpellsList R) := by
  intro s as rest
  rw [compact, readLength, (spells_readLengthFrom 0 0).bind (fun length => hp.many length.toNat) s as rest]
  constructor
  · intro h
    obtain ⟨w, ⟨length, groups, elements, ⟨hcompact, rfl⟩, ⟨hlength, heach⟩, rfl⟩, hs⟩ := h
    exact ⟨_, ⟨groups, elements, hcompact, hlength, heach, rfl⟩, hs⟩
  · intro h
    obtain ⟨w, ⟨groups, elements, hcompact, hlength, heach, rfl⟩, hs⟩ := h
    exact ⟨_, ⟨_, groups, elements, ⟨hcompact, rfl⟩, ⟨hlength, heach⟩, rfl⟩, hs⟩

theorem spells_indexes : Spells (compact readU8) (SpellsList fun w b => w = [b]) :=
  spells_compact (Reader.spells_byte _)

def MessageHeader.bytes (header : MessageHeader) : List UInt8 :=
  [header.numRequiredSignatures, header.numReadonlySignedAccounts,
    header.numReadonlyUnsignedAccounts]

theorem spells_header : Spells MessageHeader.read fun w header => w = header.bytes := by
  intro s header rest
  rw [MessageHeader.read, (Reader.spells_block _ 3).map _ s header rest]
  constructor
  · intro h
    obtain ⟨w, ⟨block, rfl, rfl⟩, rfl⟩ := h
    refine ⟨_, rfl, ?_⟩
    obtain ⟨bytes, hsize⟩ := block
    obtain ⟨a, b, c, rfl⟩ := List.length_eq_three.mp hsize
    rfl
  · intro h
    obtain ⟨w, rfl, rfl⟩ := h
    exact ⟨_, ⟨⟨header.bytes, rfl⟩, rfl, rfl⟩, rfl⟩

def Instruction.Spelled (w : List UInt8) (instruction : Instruction) : Prop :=
  ∃ indexes data, SpellsList (fun w b => w = [b]) indexes instruction.accountIndexes
    ∧ SpellsList (fun w b => w = [b]) data instruction.data
    ∧ w = instruction.programIndex :: (indexes ++ data)

theorem spells_instruction : Spells Instruction.read Instruction.Spelled := by
  intro s instruction rest
  rw [Instruction.read, (Reader.spells_byte _).bind (fun program => spells_indexes.bind
    fun indexes => spells_indexes.map (Instruction.mk program indexes)) s instruction rest]
  constructor
  · intro h
    obtain ⟨w, ⟨program, w₁, w₂, rfl, ⟨indexes, w₃, w₄, hindexes, ⟨data, hdata, rfl⟩, rfl⟩, rfl⟩,
      rfl⟩ := h
    exact ⟨_, ⟨w₃, w₄, hindexes, hdata, rfl⟩, rfl⟩
  · intro h
    obtain ⟨w, ⟨indexes, data, hindexes, hdata, rfl⟩, rfl⟩ := h
    exact ⟨_, ⟨_, _, _, rfl, ⟨_, _, _, hindexes, ⟨_, hdata, rfl⟩, rfl⟩, rfl⟩, rfl⟩

def MessageAddressTableLookup.Spelled (w : List UInt8) (lookup : MessageAddressTableLookup) :
    Prop :=
  ∃ writable readonly, SpellsList (fun w b => w = [b]) writable lookup.writableIndexes
    ∧ SpellsList (fun w b => w = [b]) readonly lookup.readonlyIndexes
    ∧ w = lookup.accountKey.bytes ++ (writable ++ readonly)

theorem spells_lookup :
    Spells MessageAddressTableLookup.read MessageAddressTableLookup.Spelled := by
  intro s lookup rest
  rw [MessageAddressTableLookup.read, readAccount, (Reader.spells_block _ 32).bind
    (fun key => spells_indexes.bind
      fun writable => spells_indexes.map (MessageAddressTableLookup.mk key writable))
    s lookup rest]
  constructor
  · intro h
    obtain ⟨w, ⟨key, w₁, w₂, rfl, ⟨writable, w₃, w₄, hwritable, ⟨readonly, hreadonly, rfl⟩, rfl⟩,
      rfl⟩, rfl⟩ := h
    exact ⟨_, ⟨w₃, w₄, hwritable, hreadonly, rfl⟩, rfl⟩
  · intro h
    obtain ⟨w, ⟨writable, readonly, hwritable, hreadonly, rfl⟩, rfl⟩ := h
    exact ⟨_, ⟨_, _, _, rfl, ⟨_, _, _, hwritable, ⟨_, hreadonly, rfl⟩, rfl⟩, rfl⟩, rfl⟩

namespace Message

def SpellsLookups (isVersioned : Bool) (w : List UInt8)
    (lookups : Option (List MessageAddressTableLookup)) : Prop :=
  if isVersioned then ∃ ls, lookups = some ls ∧ SpellsList MessageAddressTableLookup.Spelled w ls
  else lookups = none ∧ w = []

theorem spells_lookups (isVersioned : Bool) :
    Spells (readLookups isVersioned) (SpellsLookups isVersioned) := by
  intro s lookups rest
  cases isVersioned with
  | false =>
    rw [readLookups, if_neg Bool.false_ne_true, Spells.pure none s lookups rest]
    simp [SpellsLookups, and_comm]
  | true =>
    rw [readLookups, if_pos rfl, (spells_compact spells_lookup).map some s lookups rest]
    simp [SpellsLookups, and_comm]

def SpellsBody (w : List UInt8) (m : Message) : Prop :=
  ∃ accounts instructions lookups,
    SpellsList (fun w account => w = Block.bytes account) accounts m.accounts
      ∧ SpellsList Instruction.Spelled instructions m.instructions
      ∧ SpellsLookups m.isVersioned lookups m.addressTableLookups
      ∧ w = m.header.bytes ++ (accounts ++ (m.blockHash.bytes ++ (instructions ++ lookups)))

theorem spells_body (isVersioned : Bool) : Spells (readBody isVersioned) fun w m =>
    m.isVersioned = isVersioned ∧ SpellsBody w m := by
  intro s m rest
  unfold readBody readAccount readBlockHash
  rw [spells_header.bind (fun header =>
    (spells_compact (Reader.spells_block _ 32)).bind fun accounts =>
      (Reader.spells_block _ 32).bind fun blockHash =>
        (spells_compact spells_instruction).bind fun instructions =>
          (spells_lookups isVersioned).map
            (Message.mk isVersioned header accounts blockHash instructions)) s m rest]
  constructor
  · intro h
    obtain ⟨w, ⟨header, _, _, rfl, ⟨accounts, w₁, _, haccounts, ⟨blockHash, _, _, rfl,
      ⟨instructions, w₂, w₃, hinstructions, ⟨lookups, hlookups, rfl⟩, rfl⟩, rfl⟩, rfl⟩, rfl⟩,
      hs⟩ := h
    exact ⟨_, ⟨rfl, w₁, w₂, w₃, haccounts, hinstructions, hlookups, rfl⟩, hs⟩
  · intro h
    obtain ⟨w, ⟨rfl, w₁, w₂, w₃, haccounts, hinstructions, hlookups, rfl⟩, hs⟩ := h
    exact ⟨_, ⟨_, _, _, rfl, ⟨_, _, _, haccounts, ⟨_, _, _, rfl, ⟨_, _, _, hinstructions,
      ⟨_, hlookups, rfl⟩, rfl⟩, rfl⟩, rfl⟩, rfl⟩, hs⟩

/-- What spells a message: the byte of a version, or a header that does not begin with it. -/
def Spelled (w : List UInt8) (m : Message) : Prop :=
  if m.isVersioned then ∃ body, SpellsBody body m ∧ w = 0x80 :: body
  else SpellsBody w m ∧ m.header.numRequiredSignatures ≠ 0x80

theorem spells_read : Spells read Spelled := by
  intro s m rest
  cases s with
  | nil =>
    constructor
    · nofun
    · intro h
      obtain ⟨w, hw, hs⟩ := h
      obtain ⟨rfl, -⟩ := List.append_eq_nil_iff.mp hs.symm
      unfold Spelled at hw
      split at hw
      · obtain ⟨body, -, hbody⟩ := hw
        cases hbody
      · obtain ⟨⟨_, _, _, -, -, -, hbody⟩, -⟩ := hw
        cases hbody
  | cons first raw =>
    rw [read]
    by_cases hfirst : first = 0x80
    · rw [if_pos hfirst, spells_body true raw m rest]
      constructor
      · intro h
        obtain ⟨w, ⟨hversioned, hbody⟩, rfl⟩ := h
        refine ⟨first :: w, ?_, rfl⟩
        rw [Spelled, hversioned, if_pos rfl, hfirst]
        exact ⟨w, hbody, rfl⟩
      · intro h
        obtain ⟨w, hw, hs⟩ := h
        unfold Spelled at hw
        split at hw
        · rename_i hversioned
          obtain ⟨body, hbody, rfl⟩ := hw
          cases hs
          exact ⟨body, ⟨hversioned, hbody⟩, rfl⟩
        · -- the header of a message without a version does not begin so
          obtain ⟨⟨_, _, _, -, -, -, rfl⟩, hheader⟩ := hw
          cases hs
          exact absurd hfirst hheader
    · rw [if_neg hfirst, spells_body false (first :: raw) m rest]
      constructor
      · intro h
        obtain ⟨w, ⟨hversioned, hbody⟩, hs⟩ := h
        refine ⟨w, ?_, hs⟩
        rw [Spelled, hversioned, if_neg Bool.false_ne_true]
        refine ⟨hbody, ?_⟩
        intro hheader
        obtain ⟨_, _, _, -, -, -, rfl⟩ := hbody
        cases hs
        exact hfirst hheader
      · intro h
        obtain ⟨w, hw, hs⟩ := h
        unfold Spelled at hw
        split at hw
        · obtain ⟨body, hbody, rfl⟩ := hw
          cases hs
          exact absurd rfl hfirst
        · rename_i hversioned
          exact ⟨w, ⟨Bool.eq_false_iff.mpr hversioned, hw.1⟩, hs⟩

end Message

end Keystone3.Solana
