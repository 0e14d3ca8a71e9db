import Mathlib.Data.Nat.Digits.Defs
import Keystone3.Json.Item

/-!
# JSON texts

`print_value` and `parse_value` of `cJSON.c`. An item is printed without any white space
between its parts; the parser reads white space wherever JSON allows it, takes the
longest number it can find, and leaves what stands behind the value it has read
(`cJSON_Parse` does not ask for the end of the text).
-/

namespace Keystone3.Json

def quote : UInt8 := 34

def backslash : UInt8 := 92

def hexDigit (n : UInt8) : UInt8 := if n < 10 then 48 + n else 87 + n

def escapeLetter (c : UInt8) : Option UInt8 :=
  if c = quote then some quote
  else if c = backslash then some backslash
  else if c = 8 then some 98
  else if c = 12 then some 102
  else if c = 10 then some 110
  else if c = 13 then some 114
  else if c = 9 then some 116
  else none

def printChar (c : UInt8) : Text :=
  if 31 < c ∧ c ≠ quote ∧ c ≠ backslash then [c]
  else match escapeLetter c with
    | some letter => [backslash, letter]
    | none => [backslash, 117, 48, 48, hexDigit (c >>> 4), hexDigit (c &&& 15)]

def printString (s : Text) : Text := quote :: (s.flatMap printChar ++ [quote])

def decimal (n : Nat) : Text :=
  if n = 0 then [48] else (Nat.digits 10 n).reverse.map fun d => 48 + UInt8.ofNat d

def printNumber : Int → Text
  | .ofNat n => decimal n
  | .negSucc n => 45 :: decimal (n + 1)

mutual

def printValue : Item → Text
  | .null => ascii "null"
  | .bool false => ascii "false"
  | .bool true => ascii "true"
  | .number value => printNumber value
  | .string value => printString value
  | .array items => 91 :: printElements items
  | .object members => 123 :: printMembers members

/-- `print_array`, behind the bracket. -/
def printElements : List Item → Text
  | [] => [93]
  | item :: items =>
    printValue item ++ ((if items.isEmpty then [] else [44]) ++ printElements items)

/-- `print_object`, behind the brace. -/
def printMembers : List (Text × Item) → Text
  | [] => [125]
  | (key, item) :: members =>
    printString key ++ 58 ::
      (printValue item ++ ((if members.isEmpty then [] else [44]) ++ printMembers members))

end

def skipWhitespace (text : Text) : Text := text.dropWhile fun c => c ≤ 32

/-- `strncmp` with a literal, and what stands behind it. -/
def stripPrefix (literal text : Text) : Option Text :=
  if literal.isPrefixOf text then some (text.drop literal.length) else none

/-- Is this one of the characters `parse_number` collects? -/
def isNumberChar (c : UInt8) : Bool :=
  (48 ≤ c && c ≤ 57) || c == 43 || c == 45 || c == 101 || c == 69 || c == 46

def isDigit (c : UInt8) : Bool := 48 ≤ c && c ≤ 57

def ofDecimal (digits : Text) : Nat := Nat.ofDigits 10 (digits.reverse.map fun c => c.toNat - 48)

/-- `strtod` on the characters collected, with the rest of them. A fraction or an
exponent, which the firmware never writes, is not read. -/
def readInteger (text : Text) : Option (Nat × Text) :=
  let digits := text.takeWhile isDigit
  let rest := text.dropWhile isDigit
  if digits.isEmpty then none
  else match rest with
    | c :: _ => if c = 46 ∨ c = 101 ∨ c = 69 then none else some (ofDecimal digits, rest)
    | [] => some (ofDecimal digits, rest)

/-- At most 63 characters are looked at. -/
def parseNumber (text : Text) : Option (Item × Text) :=
  let number := (text.take 63).takeWhile isNumberChar
  let behind := text.drop number.length
  match number with
  | 45 :: number => (readInteger number).map fun r => (.number (-r.1), r.2 ++ behind)
  | number => (readInteger number).map fun r => (.number r.1, r.2 ++ behind)

def scanString : Text → Option (Text × Text)
  | [] => none
  | c :: rest =>
    if c = quote then some ([], rest)
    else if c = backslash then
      match rest with
      | [] => none
      | d :: rest => (scanString rest).map fun r => (c :: d :: r.1, r.2)
    else (scanString rest).map fun r => (c :: r.1, r.2)

def hexValue (c : UInt8) : Option Nat :=
  if 48 ≤ c ∧ c ≤ 57 then some (c.toNat - 48)
  else if 65 ≤ c ∧ c ≤ 70 then some (c.toNat - 55)
  else if 97 ≤ c ∧ c ≤ 102 then some (c.toNat - 87)
  else none

def parseHex4 (a b c d : UInt8) : Nat :=
  match hexValue a, hexValue b, hexValue c, hexValue d with
  | some a, some b, some c, some d => ((a * 16 + b) * 16 + c) * 16 + d
  | _, _, _, _ => 0

def utf8 (code : Nat) : Text :=
  if code < 0x80 then [UInt8.ofNat code]
  else if code < 0x800 then [UInt8.ofNat (0xC0 + code / 64), UInt8.ofNat (0x80 + code % 64)]
  else if code < 0x10000 then
    [UInt8.ofNat (0xE0 + code / 4096), UInt8.ofNat (0x80 + code / 64 % 64),
      UInt8.ofNat (0x80 + code % 64)]
  else
    [UInt8.ofNat (0xF0 + code / 262144), UInt8.ofNat (0x80 + code / 4096 % 64),
      UInt8.ofNat (0x80 + code / 64 % 64), UInt8.ofNat (0x80 + code % 64)]

def escapedChar (letter : UInt8) : Option UInt8 :=
  if letter = 98 then some 8
  else if letter = 102 then some 12
  else if letter = 110 then some 10
  else if letter = 114 then some 13
  else if letter = 116 then some 9
  else if letter = quote ∨ letter = backslash ∨ letter = 47 then some letter
  else none

/-- The loop of `parse_string`, with `utf16_literal_to_utf8`. -/
def unescape : Text → Option Text
  | [] => some []
  | c :: rest =>
    if c ≠ backslash then (unescape rest).map (c :: ·)
    else match rest with
      | [] => none
      | letter :: rest =>
        if letter = 117 then
          match rest with
          | a :: b :: c :: d :: rest =>
            let first := parseHex4 a b c d
            if 0xDC00 ≤ first ∧ first ≤ 0xDFFF then none
            else if 0xD800 ≤ first ∧ first ≤ 0xDBFF then
              match rest with
              | x :: y :: a :: b :: c :: d :: rest =>
                let second := parseHex4 a b c d
                if x = backslash ∧ y = 117 ∧ 0xDC00 ≤ second ∧ second ≤ 0xDFFF then
                  (unescape rest).map (utf8 (0x10000 + (first % 1024 * 1024 + second % 1024)) ++ ·)
                else none
              | _ => none
            else (unescape rest).map (utf8 first ++ ·)
          | _ => none
        else match escapedChar letter with
          | some c => (unescape rest).map (c :: ·)
          | none => none

/-- An escaped null character ends the string it stands in. -/
def parseString : Text → Option (Text × Text)
  | [] => none
  | c :: rest =>
    if c = quote then
      (scanString rest).bind fun r =>
        (unescape r.1).map fun s => (s.takeWhile (· != 0), r.2)
    else none

def nestingLimit : Nat := 1000

mutual

/-- `parse_value`, inside `depth` arrays and objects. -/
def parseValue (fuel depth : Nat) (text : Text) : Option (Item × Text) :=
  match fuel with
  | 0 => none
  | fuel + 1 =>
    match stripPrefix (ascii "null") text with
    | some rest => some (.null, rest)
    | none =>
    match stripPrefix (ascii "false") text with
    | some rest => some (.bool false, rest)
    | none =>
    match stripPrefix (ascii "true") text with
    | some rest => some (.bool true, rest)
    | none =>
    match text with
    | [] => none
    | c :: rest =>
      if c = quote then (parseString text).map fun r => (.string r.1, r.2)
      else if c = 45 ∨ isDigit c then parseNumber text
      else if c = 91 then
        if nestingLimit ≤ depth then none
        else match stripPrefix [93] (skipWhitespace rest) with
          | some rest => some (.array [], rest)
          | none =>
            (parseElements fuel (depth + 1) (skipWhitespace rest)).map fun r => (.array r.1, r.2)
      else if c = 123 then
        if nestingLimit ≤ depth then none
        else match stripPrefix [125] (skipWhitespace rest) with
          | some rest => some (.object [], rest)
          | none =>
            (parseMembers fuel (depth + 1) (skipWhitespace rest)).map fun r => (.object r.1, r.2)
      else none

/-- The loop of `parse_array`. -/
def parseElements (fuel depth : Nat) (text : Text) : Option (List Item × Text) :=
  match fuel with
  | 0 => none
  | fuel + 1 =>
    match parseValue fuel depth text with
    | none => none
    | some (item, rest) =>
      match skipWhitespace rest with
      | [] => none
      | c :: rest =>
        if c = 44 then
          (parseElements fuel depth (skipWhitespace rest)).map fun r => (item :: r.1, r.2)
        else if c = 93 then some ([item], rest)
        else none

/-- The loop of `parse_object`. -/
def parseMembers (fuel depth : Nat) (text : Text) : Option (List (Text × Item) × Text) :=
  match fuel with
  | 0 => none
  | fuel + 1 =>
    match parseString text with
    | none => none
    | some (key, rest) =>
      match stripPrefix [58] (skipWhitespace rest) with
      | none => none
      | some rest =>
        match parseValue fuel depth (skipWhitespace rest) with
        | none => none
        | some (item, rest) =>
          match skipWhitespace rest with
          | [] => none
          | c :: rest =>
            if c = 44 then
              (parseMembers fuel depth (skipWhitespace rest)).map fun r =>
                ((key, item) :: r.1, r.2)
            else if c = 125 then some ([(key, item)], rest)
            else none

end

def skipUtf8Bom (text : Text) : Text :=
  match stripPrefix [0xEF, 0xBB, 0xBF] text with
  | some rest => if 4 ≤ text.length then rest else text
  | none => text

def parse (value : Text) : Option Item :=
  let value := value.takeWhile (· != 0)
  (parseValue (2 * value.length + 2) 0 (skipWhitespace (skipUtf8Bom value))).map (·.1)

end Keystone3.Json
