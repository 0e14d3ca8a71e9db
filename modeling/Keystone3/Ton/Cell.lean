import Keystone3.Bytes.Reader

/-!
# Cells

A bag of cells is a list of cells that refer to later ones, with the places of
the roots. A cell is read bit by bit, from the bytes of its data, which may go
on behind its last bit.
-/

namespace Keystone3.Ton

open Bytes (Reader)
open Logic (Outcome)

/-- Errors of libraries have no text here. -/
inductive TonCellError where
  | bagOfCellsDeserializationError (reason : String)
  | cellBuilderError (reason : String)
  | cellParserError (reason : String)
  | internalError (reason : String)
  | invalidIndex (idx refCount : Nat)
  | invalidAddressType (tp : Nat)
  | nonEmptyReader (remaining : Nat)

abbrev Result (α : Type) : Type := Outcome TonCellError α

inductive Cell where
  | mk (data : List UInt8) (bitLen : Nat) (references : List Cell)

namespace Cell

def data : Cell → List UInt8
  | mk data _ _ => data

def bitLen : Cell → Nat
  | mk _ bitLen _ => bitLen

def references : Cell → List Cell
  | mk _ _ references => references

def reference (cell : Cell) (idx : Nat) : Result Cell :=
  Outcome.okOr (.invalidIndex idx cell.references.length) cell.references[idx]?

end Cell

structure RawCell where
  data : List UInt8
  bitLen : Nat
  references : List Nat
  isExotic : Bool

structure RawBagOfCells where
  cells : List RawCell
  roots : List Nat

def deserializationError (reason : String) : TonCellError :=
  .bagOfCellsDeserializationError ("BoC deserialization error: " ++ reason)

def short : Option TonCellError := some (deserializationError "")

/-- The bytes are shifted into a number of 32 bits. -/
def readVarSize (n : Nat) : Reader TonCellError Nat := do
  let bytes ← Reader.take short n
  pure (Bytes.ofBe bytes % 2 ^ 32)

def trailingZeros (b : UInt8) : Nat := ((List.range 8).find? b.toNat.testBit).getD 8

def stripMark (data : List UInt8) : Result (List UInt8 × Nat) :=
  match data.getLast? with
  | none => .ok (data, 0)
  | some b =>
    let zeros := trailingZeros b
    if 8 ≤ zeros then
      .error (deserializationError
        "Last byte of binary must not be zero if full_byte flag is not set")
    else .ok (data.dropLast ++ [b - UInt8.ofNat (2 ^ zeros)], zeros + 1)

def hashCount (levelMask : Nat) : Nat := ((List.range 3).filter levelMask.testBit).length + 1

def readCell (size : Nat) : Reader TonCellError RawCell := do
  let d1 ← Reader.byte short
  let d2 ← Reader.byte short
  let refNum := d1.toNat % 8
  let isExotic := d1.toNat.testBit 3
  let hasHashes := d1.toNat.testBit 4
  let levelMask := d1.toNat / 32
  let dataSize := d2.toNat / 2 + d2.toNat % 2
  let fullBytes := d2.toNat % 2 = 0
  if hasHashes = true then
    let _ ← Reader.take short (hashCount levelMask * (32 + 2))
  let data ← Reader.take short dataSize
  let (data, padding) ← if fullBytes then pure (data, 0) else Reader.lift (stripMark data)
  let references ← Reader.many (readVarSize size) refNum
  pure { data, bitLen := data.length * 8 - padding, references, isExotic }

structure BocHeader where
  hasCrc32c : Bool
  size : Nat
  cells : Nat
  roots : List Nat

/-- The part of `RawBagOfCells::parse` before the cells. -/
def readHeader : Reader TonCellError BocHeader := do
  let magic ← Reader.big short 4
  if magic ≠ 0xb5ee9c72 then
    Reader.lift (.error (deserializationError ("Unsupported cell magic number: " ++ toString magic)))
  else
    let header ← Reader.byte short
    let hasIdx := header.toNat.testBit 7
    let hasCrc32c := header.toNat.testBit 6
    let size := header.toNat % 8
    let offBytes ← Reader.byte short
    let cells ← readVarSize size
    let roots ← readVarSize size
    let _absent ← readVarSize size
    let _totCellsSize ← readVarSize offBytes.toNat
    let roots ← Reader.many (readVarSize size) roots
    if hasIdx = true then
      let _index ← Reader.many (readVarSize offBytes.toNat) cells
    pure { hasCrc32c, size, cells, roots }

/-- How many bytes a `RawCell` takes on a machine of 32 bits. -/
def rawCellSize : Nat := 36

/-- `Vec::with_capacity`, which panics if that many bytes cannot be one vector. -/
def withCapacity (elementSize n : Nat) : Result Unit :=
  if 2 ^ 31 ≤ elementSize * n then .halted else .ok ()

def RawBagOfCells.parse : Reader TonCellError RawBagOfCells := do
  let header ← readHeader
  let _room ← Reader.lift (withCapacity rawCellSize header.cells)
  let cells ← Reader.many (readCell header.size) header.cells
  if header.hasCrc32c = true then
    let _crc32c ← Reader.big short 4
  pure { cells, roots := header.roots }

abbrev ExoticCheck : Type := List UInt8 → Nat → List Cell → Bool

/-- `Cell::new`, which takes every ordinary cell. -/
def Cell.new (exotic : ExoticCheck) (raw : RawCell) (references : List Cell) : Result Cell :=
  if raw.isExotic = true ∧ exotic raw.data raw.bitLen references = false then
    .error (deserializationError "")
  else .ok (.mk raw.data raw.bitLen references)

def linkCells (exotic : ExoticCheck) : Nat → List RawCell → Result (List Cell)
  | _, [] => .ok []
  | cellIndex, raw :: raws => do
    let cells ← linkCells exotic (cellIndex + 1) raws
    let references ← Outcome.collect (fun refIndex =>
      if refIndex ≤ cellIndex then
        .error (deserializationError "References to previous cells are not supported")
      else Outcome.index cells (refIndex - cellIndex - 1)) raw.references
    let cell ← Cell.new exotic raw references
    pure (cell :: cells)

structure BagOfCells where
  roots : List Cell

def BagOfCells.parse (exotic : ExoticCheck) (serial : List UInt8) : Result BagOfCells := do
  let raw ← Reader.run RawBagOfCells.parse serial
  let cells ← linkCells exotic 0 raw.cells
  let roots ← Outcome.collect (Outcome.index cells) raw.roots
  pure { roots }

def BagOfCells.singleRoot (boc : BagOfCells) : Result Cell :=
  match boc.roots with
  | [root] => .ok root
  | roots => .error (.cellParserError ("Single root expected, got " ++ toString roots.length))

/-- The bits that are left, and how many of them are the cell's. -/
structure CellParser where
  bits : List Bool
  remainingBits : Nat

def bitsOf (b : UInt8) : List Bool := (List.range 8).map fun i => b.toNat.testBit (7 - i)

def ofBits (bits : List Bool) : Nat := bits.foldl (fun n b => 2 * n + b.toNat) 0

def bytesOf : Nat → List Bool → List UInt8
  | 0, _ => []
  | n + 1, bits => UInt8.ofNat (ofBits (bits.take 8)) :: bytesOf n (bits.drop 8)

def Cell.parser (cell : Cell) : CellParser := ⟨cell.data.flatMap bitsOf, cell.bitLen⟩

abbrev Load := StateT CellParser (Outcome TonCellError)

/-- `load_bits`, before the bits are put into bytes. -/
def loadBits (n : Nat) : Load (List Bool) := fun parser =>
  if parser.bits.length < n then .error (.cellParserError "Cell parser error: ")
  else .ok (parser.bits.take n, ⟨parser.bits.drop n, parser.remainingBits - n⟩)

def loadBit : Load Bool := do
  let bits ← loadBits 1
  pure (ofBits bits = 1)

/-- `load_u8`, `load_u32`, `load_u64` and `load_uint`. -/
def loadUint (n : Nat) : Load Nat := do
  let bits ← loadBits n
  pure (ofBits bits)

def loadBytes (n : Nat) : Load (List UInt8) := do
  let bits ← loadBits (8 * n)
  pure (bytesOf n bits)

def loadCoins : Load Nat := do
  let numBytes ← loadUint 4
  if numBytes = 0 then pure 0 else loadUint (numBytes * 8)

structure TonAddress where
  workchain : Nat
  hashPart : List UInt8
deriving DecidableEq

def TonAddress.null : TonAddress := ⟨0, List.replicate 32 0⟩

def fail {α : Type} (e : TonCellError) : Load α := fun _ => .error e

def loadAddress : Load TonAddress := do
  let tp ← loadUint 2
  if tp = 0 then pure TonAddress.null
  else if tp = 2 then
    let _res1 ← loadUint 1
    let wc ← loadUint 8
    let hashPart ← loadBytes 32
    pure ⟨wc, hashPart⟩
  else fail (.invalidAddressType tp)

def remainingBits : Load Nat := fun parser => .ok (parser.remainingBits, parser)

def remainingBytes : Load Nat := do
  let bits ← remainingBits
  pure (bits / 8)

def liftResult {α : Type} (x : Result α) : Load α := fun parser => do
  let a ← x
  pure (a, parser)

def Cell.parse {α : Type} (cell : Cell) (load : Load α) : Result α := do
  let loaded ← load cell.parser
  pure loaded.1

/-- `parse_fully`, which leaves no bit. -/
def Cell.parseFully {α : Type} (cell : Cell) (load : Load α) : Result α := do
  let loaded ← load cell.parser
  if loaded.2.remainingBits = 0 then pure loaded.1
  else .error (.nonEmptyReader loaded.2.remainingBits)

theorem bind_load_eq_ok {α β : Type} {p : Load α} {f : α → Load β} {s : CellParser}
    {r : β × CellParser} :
    (p >>= f) s = .ok r ↔ ∃ a s', p s = .ok (a, s') ∧ f a s' = .ok r := by
  show (p s >>= fun q => f q.1 q.2) = .ok r ↔ _
  rw [Outcome.bind_eq_ok]
  constructor
  · rintro ⟨⟨a, s'⟩, hp, hf⟩
    exact ⟨a, s', hp, hf⟩
  · rintro ⟨a, s', hp, hf⟩
    exact ⟨(a, s'), hp, hf⟩

theorem liftResult_eq_ok {α : Type} {x : Result α} {s : CellParser} {r : α × CellParser} :
    liftResult x s = .ok r ↔ x = .ok r.1 ∧ r.2 = s := by
  show (x >>= fun a => pure (a, s)) = .ok r ↔ _
  rw [Outcome.bind_eq_ok]
  constructor
  · rintro ⟨a, ha, h⟩
    cases h
    exact ⟨ha, rfl⟩
  · rintro ⟨ha, hs⟩
    subst hs
    exact ⟨r.1, ha, rfl⟩

end Keystone3.Ton
