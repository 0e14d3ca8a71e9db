import Keystone3.Ethereum.LegacyTransaction

/-!
# JSON values and the numbers in them

The values of a request in JSON, with what is asked of them. A number of a
request may be written as a number, in decimal or in hexadecimal digits; it is
read into 256 bits (`StringifiedNumeric.toU256`) or into a signed number of 128
(`StringifiedNumeric.toI128`).
-/

namespace Keystone3.Ethereum

open Bytes (parseUnsigned parseDigits hexDecode)
open Logic (Outcome)

/-- The text of a number that is not whole: it has a point or an exponent. -/
structure FloatText where
  text : Text
  notDigits : text.all Char.isDigit = false

inductive Number where
  | unsigned (n : UInt64)
  | negative (n : Fin (2 ^ 63))
  | float (f : FloatText)

instance neZero_negative : NeZero (2 ^ 63) := ⟨by decide⟩

inductive Value where
  | null
  | bool (b : Bool)
  | number (n : Number)
  | string (s : Text)
  | array (vs : List Value)
  | object (ms : List (Text × Value))

namespace Number

def text : Number → Text
  | unsigned n => Nat.toDigits 10 n.toNat
  | negative n => '-' :: Nat.toDigits 10 (n.val + 1)
  | float f => f.text

def asU64 : Number → Option Nat
  | unsigned n => some n.toNat
  | _ => none

def asI64 : Number → Option Int
  | unsigned n => if n.toNat < 2 ^ 63 then some n.toNat else none
  | negative n => some (-(n.val + 1))
  | float _ => none

end Number

namespace Value

def get : Value → Text → Option Value
  | object ms, key => ms.lookup key
  | _, _ => none

/-- `value[key]`, which is null for a key that is not there. -/
def index (v : Value) (key : Text) : Value := (v.get key).getD null

def asStr : Value → Option Text
  | string s => some s
  | _ => none

def asBool : Value → Option Bool
  | bool b => some b
  | _ => none

def asU64 : Value → Option Nat
  | number n => n.asU64
  | _ => none

end Value

def fromDecStr (s : Text) : Option Nat :=
  if s.all Char.isDigit = true ∧ Nat.ofDigitChars 10 s 0 < 2 ^ 256 then
    some (Nat.ofDigitChars 10 s 0)
  else none

/-- `str::parse` of a signed type whose numbers are below `2 ^ bits`. -/
def parseSigned (bits : Nat) : Text → Option Int
  | '-' :: s => (parseDigits (2 ^ bits + 1) s).map fun n => -(n : Int)
  | s => (parseUnsigned (2 ^ bits) s).map fun n => (n : Int)

def isHexDigit (c : Char) : Bool := (Bytes.hexValue c).isSome

def hexNumber (digits : Text) : Nat :=
  digits.foldl (fun n c => 16 * n + (Bytes.hexValue c).getD 0) 0

def withoutHexPrefix : Text → Text
  | '0' :: 'x' :: s => s
  | s => s

/-- A text without all such prefixes, `trim_start_matches("0x")`. -/
def trimHexPrefixes : Text → Text
  | '0' :: 'x' :: s => trimHexPrefixes s
  | s => s

def startsWithHexPrefix : Text → Bool
  | '0' :: 'x' :: _ => true
  | _ => false

/-- `Bytes`, read with or without the prefix. -/
def Value.toBytes : Value → Option (List UInt8)
  | .string s => hexDecode (withoutHexPrefix s)
  | _ => none

/-- Numbers of 256 bits are only read from texts, which come first. -/
inductive StringifiedNumeric where
  | string (s : Text)
  | u256 (n : Nat)
  | num (n : Number)

def StringifiedNumeric.fromValue : Value → Option StringifiedNumeric
  | .string s => some (.string s)
  | .number n => some (.num n)
  | _ => none

/-- `Eip712Error`, with what its message is about. -/
inductive Eip712Error where
  | noDefinition (name : Text)
  | noData (field : Text)
  | expectedArray (type : Text)
  | unsupportedType (type : Text)
  | fromValue
  | failedToParseInt
  | failedToParseUint
deriving DecidableEq

abbrev Hashing (α : Type) : Type := Outcome Eip712Error α

section

-- `U256::from_str`, for texts with the prefix.
variable (parseHex : Text → Option Nat)

def StringifiedNumeric.toU256 : StringifiedNumeric → Option Nat
  | u256 n => some n
  | num n => fromDecStr n.text
  | string s =>
    match parseUnsigned (2 ^ 128) s with
    | some val => some val
    | none => if startsWithHexPrefix s = true then parseHex s else fromDecStr s

/-- `as_u128() as i128`, which panics for larger numbers and wraps. -/
def wrapI128 (n : Nat) : Hashing Int :=
  if n < 2 ^ 127 then .ok n
  else if n < 2 ^ 128 then .ok (n - 2 ^ 128)
  else .halted

def StringifiedNumeric.toI128 : StringifiedNumeric → Hashing Int
  | u256 n => wrapI128 n
  | num n => Outcome.unwrap n.asI64
  | string s =>
    match parseSigned 127 s with
    | some val => .ok val
    | none =>
      if startsWithHexPrefix s = true then
        Outcome.okOr .failedToParseInt (parseHex s) >>= wrapI128
      else Outcome.okOr .failedToParseInt (fromDecStr s) >>= wrapI128

end

end Keystone3.Ethereum
