import Keystone3.Ethereum.TypedData
import Keystone3.Logic.Search

/-!
# The standard of typed data

What the hash of typed data is by its standard: the language of types, the values
of atomic types with their words, the text of a struct type with the types that it
uses in the order of their names, and the hashes of structs, arrays and domains
(`Eip712TypedData.Hashes`).
-/

namespace Keystone3.Ethereum

open Bytes (Block be)
open Logic (Reaches)

/-- An atomic type. A size is `8 * (i + 1)` bits or `i + 1` bytes. -/
inductive AtomType where
  | address
  | bool
  | string
  | bytes
  | uint (i : Fin 32)
  | int (i : Fin 32)
  | fixedBytes (i : Fin 32)

def AtomType.name : AtomType → Text
  | address => ['a', 'd', 'd', 'r', 'e', 's', 's']
  | bool => ['b', 'o', 'o', 'l']
  | string => ['s', 't', 'r', 'i', 'n', 'g']
  | bytes => ['b', 'y', 't', 'e', 's']
  | uint i => ['u', 'i', 'n', 't'] ++ Nat.toDigits 10 (8 * (i.val + 1))
  | int i => ['i', 'n', 't'] ++ Nat.toDigits 10 (8 * (i.val + 1))
  | fixedBytes i => ['b', 'y', 't', 'e', 's'] ++ Nat.toDigits 10 (i.val + 1)

def AtomType.uint256 : AtomType := .uint 31

def AtomType.bytes32 : AtomType := .fixedBytes 31

def AtomType.int8 : AtomType := .int 0

def AtomType.int128 : AtomType := .int 15

def AtomType.bytes1 : AtomType := .fixedBytes 0

inductive FieldType where
  | atom (a : AtomType)
  | struct (name : Text)
  | array (t : FieldType)
  | fixedArray (t : FieldType) (n : Nat)

def FieldType.text : FieldType → Text
  | atom a => a.name
  | struct name => name
  | array t => t.text ++ ['[', ']']
  | fixedArray t n => t.text ++ '[' :: (Nat.toDigits 10 n ++ [']'])

/-- Names of structs are identifiers and no atomic types. -/
structure WellFormed (types : Types) : Prop where
  identifier : ∀ name fields, types.get name = some fields →
    name.all (fun c => c.isAlphanum || c == '_' || c == '$') = true
  atoms : ∀ a : AtomType, types.get a.name = none

/-- The number of a text: decimal digits, with a minus sign when it is negative, or up to 64
hexadecimal digits with their prefix. -/
def textNumber : Text → Option Int
  | '-' :: digits =>
    if digits.all Char.isDigit = true ∧ 0 < Nat.ofDigitChars 10 digits 0 then
      some (-(Nat.ofDigitChars 10 digits 0 : Int))
    else none
  | '0' :: 'x' :: digits =>
    if digits ≠ [] ∧ digits.all isHexDigit = true ∧ digits.length ≤ 64 then
      some (hexNumber digits : Int)
    else none
  | digits =>
    if digits ≠ [] ∧ digits.all Char.isDigit = true then
      some (Nat.ofDigitChars 10 digits 0 : Int)
    else none

def wholeNumber : Value → Option Int
  | .number (.unsigned n) => some (n.toNat : Int)
  | .number (.negative n) => some (-(n.val + 1 : Int))
  | .string s => textNumber s
  | _ => none

def signedWord (n : Int) : List UInt8 := be 32 (n % 2 ^ 256).toNat

section

variable (keccak256 : List UInt8 → Block 32)

/-- The word of a value of an atomic type: numbers and addresses are filled up on the left,
bytes of a fixed size on the right, and what has no fixed size is hashed. -/
def AtomType.encode : AtomType → Value → Option (List UInt8)
  | address, v =>
    v.toBytes.bind fun data =>
      if data.length = 20 then some (List.replicate 12 0 ++ data) else none
  | bool, v => v.asBool.map fun b => be 32 b.toNat
  | string, v => v.asStr.map fun s => (keccak256 (asBytes s)).bytes
  | bytes, v => v.toBytes.map fun data => (keccak256 data).bytes
  | uint i, v =>
    (wholeNumber v).bind fun n =>
      if 0 ≤ n ∧ n < 2 ^ (8 * (i.val + 1)) then some (signedWord n) else none
  | int i, v =>
    (wholeNumber v).bind fun n =>
      if -2 ^ (8 * i.val + 7) ≤ n ∧ n < 2 ^ (8 * i.val + 7) then some (signedWord n) else none
  | fixedBytes i, v =>
    v.toBytes.bind fun data =>
      if data.length = i.val + 1 then some (data ++ List.replicate (31 - i.val) 0) else none

def usedTypes (types : Types) (name : Text) : Option (List Text) :=
  (types.get name).map fun fields => fields.map fun field => withoutArrayTail field.type

/-- The text of a struct type: its definition, and those of all structs that it uses, directly
or not, in the order of their names. -/
def IsEncodeType (types : Types) (primaryType text : Text) : Prop :=
  ∃ (used definitions : List Text), used.Pairwise (· < ·)
    ∧ (∀ name, name ∈ used ↔ Reaches (usedTypes types) primaryType name ∧ name ≠ primaryType)
    ∧ List.Forall₂ (fun name definition => ∃ fields, types.get name = some fields
        ∧ definition = definitionText name fields) (primaryType :: used) definitions
    ∧ text = definitions.flatten

mutual

/-- A value of a type and its word, where `allowed` says which atomic values there may be. -/
inductive Encodes (allowed : AtomType → Value → Prop) (types : Types) :
    FieldType → Value → List UInt8 → Prop where
  | atom {a : AtomType} {v : Value} {w : List UInt8} (hallowed : allowed a v)
      (hw : a.encode keccak256 v = some w) : Encodes allowed types (.atom a) v w
  | struct {name text : Text} {fields : List Eip712DomainType} {ms : List (Text × Value)}
      {ws : List UInt8} (hfields : types.get name = some fields)
      (htext : IsEncodeType types name text)
      (hmembers : EncodesMembers allowed types fields ms ws) :
      Encodes allowed types (.struct name) (.object ms)
        (keccak256 ((keccak256 (asBytes text)).bytes ++ ws)).bytes
  | array {t : FieldType} {vs : List Value} {ws : List UInt8}
      (hitems : EncodesItems allowed types t vs ws) :
      Encodes allowed types (.array t) (.array vs) (keccak256 ws).bytes
  | fixedArray {t : FieldType} {vs : List Value} {ws : List UInt8}
      (hitems : EncodesItems allowed types t vs ws) :
      Encodes allowed types (.fixedArray t vs.length) (.array vs) (keccak256 ws).bytes

inductive EncodesItems (allowed : AtomType → Value → Prop) (types : Types) :
    FieldType → List Value → List UInt8 → Prop where
  | nil {t : FieldType} : EncodesItems allowed types t [] []
  | cons {t : FieldType} {v : Value} {vs : List Value} {w ws : List UInt8}
      (hv : Encodes allowed types t v w) (hvs : EncodesItems allowed types t vs ws) :
      EncodesItems allowed types t (v :: vs) (w ++ ws)

inductive EncodesMembers (allowed : AtomType → Value → Prop) (types : Types) :
    List Eip712DomainType → List (Text × Value) → List UInt8 → Prop where
  | nil {ms : List (Text × Value)} : EncodesMembers allowed types [] ms []
  | cons {name : Text} {t : FieldType} {fields : List Eip712DomainType}
      {ms : List (Text × Value)} {v : Value} {w ws : List UInt8} (hv : ms.lookup name = some v)
      (hw : Encodes allowed types t v w) (hws : EncodesMembers allowed types fields ms ws) :
      EncodesMembers allowed types (⟨name, t.text⟩ :: fields) ms (w ++ ws)

end

def domainWord (domain : EIP712Domain) (field : Eip712DomainType) : Option (List UInt8) :=
  if field = ⟨['n', 'a', 'm', 'e'], AtomType.string.name⟩ then
    domain.name.map fun s => (keccak256 (asBytes s)).bytes
  else if field = ⟨['v', 'e', 'r', 's', 'i', 'o', 'n'], AtomType.string.name⟩ then
    domain.version.map fun s => (keccak256 (asBytes s)).bytes
  else if field = ⟨['c', 'h', 'a', 'i', 'n', 'I', 'd'], AtomType.uint256.name⟩ then
    domain.chainId.map fun n => be 32 n
  else if field = ⟨['v', 'e', 'r', 'i', 'f', 'y', 'i', 'n', 'g',
      'C', 'o', 'n', 't', 'r', 'a', 'c', 't'], AtomType.address.name⟩ then
    domain.verifyingContract.bind fun s => AtomType.address.encode keccak256 (.string s)
  else if field = ⟨['s', 'a', 'l', 't'], AtomType.bytes32.name⟩ then
    domain.salt.map fun salt => salt.bytes
  else none

def EIP712Domain.count (domain : EIP712Domain) : Nat :=
  domain.name.isSome.toNat + domain.version.isSome.toNat + domain.chainId.isSome.toNat
    + domain.verifyingContract.isSome.toNat + domain.salt.isSome.toNat

/-- The separator of a domain: the hash of it as a struct with exactly the fields that are
present, each of them once. -/
def IsSeparator (domain : EIP712Domain) (types : Types) (w : List UInt8) : Prop :=
  ∃ (fields : List Eip712DomainType) (words : List (List UInt8)),
    types.get domainType = some fields ∧ fields.Nodup ∧ fields.length = domain.count
      ∧ List.Forall₂ (fun field w => domainWord keccak256 domain field = some w) fields words
      ∧ w = (keccak256 ((keccak256 (asBytes (definitionText domainType fields))).bytes
          ++ words.flatten)).bytes

end

/-- Typed data of the standard, with the separator of its domain and the hash of its
message. -/
structure Eip712TypedData.Hashes (keccak256 : List UInt8 → Block 32)
    (allowed : AtomType → Value → Prop) (data : Eip712TypedData)
    (domainSeparator messageHash : List UInt8) : Prop where
  wellFormed : WellFormed data.types
  separator : IsSeparator keccak256 data.domain data.types domainSeparator
  message : Encodes keccak256 allowed data.types (.struct data.primaryType)
    (.object data.message.entries) messageHash

end Keystone3.Ethereum
