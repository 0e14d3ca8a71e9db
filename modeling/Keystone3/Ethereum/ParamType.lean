import Mathlib.Data.List.TakeWhile
import Keystone3.Ethereum.JsonValue

/-!
# Atomic types by their texts

The lexer of human-readable types, as far as one type without brackets needs it:
a word, and a look at what follows it. `parseType_of_word` is how the types of
the language are read.
-/

namespace Keystone3.Ethereum

structure UnicodeLib where
  isXidStart : Char → Bool
  isXidContinue : Char → Bool
  isWhitespace : Char → Bool

structure UnicodeLib.Lawful (lib : UnicodeLib) : Prop where
  xidStart_alpha : ∀ c : Char, c.isAlpha = true → lib.isXidStart c = true
  xidContinue_alphanum : ∀ c : Char, c.isAlphanum = true → lib.isXidContinue c = true

inductive ParamType where
  | address
  | bytes
  | int (size : Nat)
  | uint (size : Nat)
  | bool
  | string
  | fixedBytes (size : Nat)
  | tuple
deriving DecidableEq

/-- A type for each of the sizes `step`, `2 * step` and so on, up to the `32`nd. -/
def sizedTypes (name : Text) (step : Nat) (kind : Nat → ParamType) : List (Text × ParamType) :=
  (List.range 32).map fun i => (name ++ Nat.toDigits 10 (step * (i + 1)), kind (step * (i + 1)))

def paramKeywords : List (Text × ParamType) :=
  [(['a', 'd', 'd', 'r', 'e', 's', 's'], .address),
   (['b', 'o', 'o', 'l'], .bool),
   (['b', 'y', 't', 'e', 's'], .bytes),
   (['b', 'y', 't', 'e'], .fixedBytes 1),
   (['t', 'u', 'p', 'l', 'e'], .tuple),
   (['i', 'n', 't'], .int 256),
   (['u', 'i', 'n', 't'], .uint 256),
   (['s', 't', 'r', 'i', 'n', 'g'], .string)]
  ++ sizedTypes ['b', 'y', 't', 'e', 's'] 1 .fixedBytes
  ++ sizedTypes ['i', 'n', 't'] 8 .int
  ++ sizedTypes ['u', 'i', 'n', 't'] 8 .uint

/-- `keyword`, as far as its words are types (`into_param_type`). -/
def keyword (id : Text) : Option ParamType := paramKeywords.lookup id

inductive LexToken where
  | word (id : Text)
  | number
  | hexNumber
  | punctuation (c : Char)

inductive Lexed where
  | endOfFile
  | error
  | token (t : LexToken) (rest : Text)

def numberToken (first : Char) (rest : Text) : Lexed :=
  if first = '0' ∧ rest.head? = some 'x' then
    match rest.tail with
    | [] => .error
    | d :: rest =>
      if isHexDigit d = true then
        .token .hexNumber (rest.dropWhile fun c => isHexDigit c || c == '_')
      else .error
  else .token .number (rest.dropWhile Char.isDigit)

section

variable (lib : UnicodeLib)

def continuesWord (c : Char) : Bool := lib.isXidContinue c || c == '$'

def nextToken : Text → Lexed
  | [] => .endOfFile
  | c :: rest =>
    if lib.isXidStart c = true ∨ c = '_' then
      .token (.word (c :: rest.takeWhile (continuesWord lib))) (rest.dropWhile (continuesWord lib))
    else if c.isDigit = true then numberToken c rest
    else if ['(', ')', ';', ',', '.', '[', ']'].contains c then .token (.punctuation c) rest
    else if lib.isWhitespace c = true then nextToken rest
    else .error

/-- `parse_type` of a text without brackets, and without what is in parentheses: a tuple or
an error, and a field can be neither. -/
def parseType (s : Text) : Option ParamType :=
  match nextToken lib s with
  | .token (.word id) rest =>
    match keyword id, nextToken lib rest with
    | none, _ => none
    | some _, .error => none
    | some kind, _ => some kind
  | _ => none

variable {lib}

theorem nextToken_word (law : lib.Lawful) {c : Char} {rest : Text} (hc : c.isAlpha = true)
    (hrest : rest.all Char.isAlphanum = true) :
    nextToken lib (c :: rest) = .token (.word (c :: rest)) [] := by
  have hcontinues : ∀ d ∈ rest, continuesWord lib d = true := by
    intro d hd
    have halphanum := law.xidContinue_alphanum d (List.all_eq_true.mp hrest d hd)
    rw [continuesWord, halphanum, Bool.true_or]
  rw [nextToken, if_pos (.inl (law.xidStart_alpha c hc)), List.takeWhile_eq_self_iff.mpr
    hcontinues, List.dropWhile_eq_nil_iff.mpr hcontinues]

theorem parseType_of_word (law : lib.Lawful) {c : Char} {rest : Text} (hc : c.isAlpha = true)
    (hrest : rest.all Char.isAlphanum = true) :
    parseType lib (c :: rest) = keyword (c :: rest) := by
  rw [parseType, nextToken_word law hc hrest]
  dsimp only [nextToken]
  cases keyword (c :: rest) with
  | none => rfl
  | some kind => rfl

end

end Keystone3.Ethereum
