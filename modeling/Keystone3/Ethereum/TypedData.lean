import Mathlib.Data.List.Lex
import Keystone3.Bytes.Reader
import Keystone3.Ethereum.ParamType
import Keystone3.Logic.BTreeMap

/-!
# Typed data and its hash

A request of typed data carries its own struct types. A value is encoded along
its type into words of 32 bytes (`encodeField`), a struct into the hash of its
type and the words of its members (`encodeData`), and the request into a hash
over the separator of its domain and its message (`encodeEip712`).
-/

namespace Keystone3.Ethereum

open Bytes (Block be ofBe)
open Logic (Outcome BTreeMap)
open Logic.Outcome (collect okOr ok_bind)

structure Eip712DomainType where
  name : Text
  type : Text
deriving DecidableEq

abbrev Types : Type := BTreeMap Text (List Eip712DomainType)

structure EIP712Domain where
  name : Option Text
  version : Option Text
  chainId : Option Nat
  verifyingContract : Option Text
  salt : Option (Block 32)

structure Eip712TypedData where
  domain : EIP712Domain
  types : Types
  primaryType : Text
  message : BTreeMap Text Value

structure TypedDataLib extends UnicodeLib where
  keccak256 : List UInt8 → Block 32
  /-- An address of a message. -/
  addressOfValue : Value → Option (Block 20)
  /-- `Address::from_str`. -/
  parseAddress : Text → Option (Block 20)
  /-- `U256::from_str`. -/
  parseHex : Text → Option Nat

/-- `ethabi::Token`, as far as one fills one word. -/
inductive Token where
  | address (a : Block 20)
  | uint (n : Nat)
  | fixedBytes (bytes : Block 32)

def Token.word : Token → List UInt8
  | address a => List.replicate 12 0 ++ a.bytes
  | uint n => be 32 n
  | fixedBytes bytes => bytes.bytes

def encode (tokens : List Token) : List UInt8 := tokens.flatMap Token.word

theorem Token.length_word (token : Token) : token.word.length = 32 := by
  cases token with
  | address a => rw [Token.word, List.length_append, List.length_replicate, a.size_eq]
  | uint n => exact Bytes.length_be 32 n
  | fixedBytes bytes => exact bytes.size_eq

theorem encode_cons_inj {t t' : Token} {ts ts' : List Token} :
    encode (t :: ts) = encode (t' :: ts') ↔ t.word = t'.word ∧ encode ts = encode ts' := by
  have hlength : t.word.length = t'.word.length := by
    rw [Token.length_word, Token.length_word]
  constructor
  · intro h
    exact List.append_inj h hlength
  · intro h
    show t.word ++ encode ts = t'.word ++ encode ts'
    rw [h.1, h.2]

/-- The word of a hash is the hash. -/
@[simp] theorem Token.word_ofBe (b : Block 32) : (Token.uint (ofBe b.bytes)).word = b.bytes := by
  have h := Bytes.be_ofBe b.bytes
  rw [b.size_eq] at h
  exact h

theorem Token.word_uint_inj {n m : Nat} (hn : n < 2 ^ 256) (hm : m < 2 ^ 256) :
    (Token.uint n).word = (Token.uint m).word ↔ n = m := by
  constructor
  · intro h
    have hwords : ofBe (be 32 n) = ofBe (be 32 m) := congrArg ofBe h
    rw [Bytes.ofBe_be (by omega), Bytes.ofBe_be (by omega)] at hwords
    exact hwords
  · intro h
    rw [h]

def withoutArrayTail (type : Text) : Text := type.takeWhile fun c => c != '['

def beforeLastBracket (type : Text) : Text :=
  ((type.reverse.dropWhile fun c => c != '[').drop 1).reverse

/-- The struct types that a type uses, before those found already. A search goes one level
deeper only behind a type that it has just found. -/
def findTypeDependencies (types : Types) : Nat → Text → List Text → List Text
  | 0, _, found => found
  | depth + 1, primaryType, found =>
    if found.contains primaryType = true then found
    else
      match types.get primaryType with
      | none => found
      | some fields =>
        fields.foldl (fun found field =>
          findTypeDependencies types depth (withoutArrayTail field.type) found)
          (primaryType :: found)

def typeOrder (types : Types) (primaryType : Text) : List Text :=
  let names := findTypeDependencies types (types.len + 1) primaryType []
  primaryType :: (names.filter fun name => name ≠ primaryType).insertionSort (· ≤ ·)

def fieldText (field : Eip712DomainType) : Text := field.type ++ ' ' :: field.name

def definitionText (name : Text) (fields : List Eip712DomainType) : Text :=
  name ++ '(' :: [','].intercalate (fields.map fieldText) ++ [')']

def encodeType (primaryType : Text) (types : Types) : Hashing Text := do
  let definitions ← collect (fun dep => do
    let fields ← okOr (.noDefinition dep) (types.get dep)
    pure (definitionText dep fields)) (typeOrder types primaryType)
  pure definitions.flatten

section

variable (lib : TypedDataLib)

def hashText (s : Text) : Block 32 := lib.keccak256 (asBytes s)

def hashType (primaryType : Text) (types : Types) : Hashing (Block 32) := do
  let text ← encodeType primaryType types
  pure (hashText lib text)

def hashed (bytes : List UInt8) : Token := .uint (ofBe (lib.keccak256 bytes).bytes)

def int128Token (val : Int) : Hashing Token :=
  if val < 0 then
    if val = -2 ^ 127 then .halted else pure (.uint (2 ^ 256 - val.natAbs))
  else pure (.uint val.toNat)

def fixedBytesToken (data : List UInt8) : Hashing Token :=
  if data.length ≤ 32 then pure (.uint (ofBe data)) else .halted

def encodeAtom (type : Text) (value : Value) : Hashing Token :=
  match parseType lib.toUnicodeLib type with
  | none => .error (.unsupportedType type)
  | some .address => do
    let a ← okOr .fromValue (lib.addressOfValue value)
    pure (.address a)
  | some .bytes => do
    let data ← okOr .fromValue value.toBytes
    pure (hashed lib data)
  | some (.int size) => do
    let val ← okOr .fromValue (StringifiedNumeric.fromValue value)
    if size = 128 then
      let val ← val.toI128 lib.parseHex
      int128Token val
    else
      let val ← okOr .failedToParseInt (val.toU256 lib.parseHex)
      pure (.uint val)
  | some (.uint _) => do
    let val ← okOr .fromValue (StringifiedNumeric.fromValue value)
    let val ← okOr .failedToParseUint (val.toU256 lib.parseHex)
    pure (.uint val)
  | some .bool => do
    let b ← okOr .fromValue value.asBool
    pure (.uint b.toNat)
  | some .string => do
    let s ← okOr .fromValue value.asStr
    pure (hashed lib (asBytes s))
  | some (.fixedBytes _) => do
    let data ← okOr .fromValue value.toBytes
    fixedBytesToken data
  | some .tuple => .error (.unsupportedType type)

def encodeFields (types : Types) (members : List (Text × (Text → Hashing Token)))
    (fields : List Eip712DomainType) : Hashing (List Token) :=
  collect (fun field =>
    match members.lookup field.name with
    | some member => member field.type
    | none =>
      if types.containsKey field.type = true then pure (.uint 0)
      else .error (.noData field.name)) fields

def encodeParts (types : Types) (value : Value) (members : List (Text × (Text → Hashing Token)))
    (items : Option (List (Text → Hashing Token))) (type : Text) : Hashing Token :=
  match types.get type with
  | some fields => do
    let hash ← hashType lib type types
    let tokens ← encodeFields types members fields
    pure (hashed lib (encode (.uint (ofBe hash.bytes) :: tokens)))
  | none =>
    if type.contains '[' = true then do
      let items ← okOr (.expectedArray type) items
      let tokens ← collect (fun item => item (beforeLastBracket type)) items
      pure (hashed lib (encode tokens))
    else encodeAtom lib type value

mutual

/-- `encode_field`, by the value; `encodeField_eq` is how the code has it. -/
def encodeField (types : Types) : Value → Text → Hashing Token
  | .null => encodeParts lib types .null [] none
  | .bool b => encodeParts lib types (.bool b) [] none
  | .number n => encodeParts lib types (.number n) [] none
  | .string s => encodeParts lib types (.string s) [] none
  | .array vs => encodeParts lib types (.array vs) [] (some (encodeItems types vs))
  | .object ms => encodeParts lib types (.object ms) (encodeMembers types ms) none

def encodeItems (types : Types) : List Value → List (Text → Hashing Token)
  | [] => []
  | v :: vs => encodeField types v :: encodeItems types vs

def encodeMembers (types : Types) :
    List (Text × Value) → List (Text × (Text → Hashing Token))
  | [] => []
  | (key, v) :: ms => (key, encodeField types v) :: encodeMembers types ms

end

def encodeMember (types : Types) (data : Value) (field : Eip712DomainType) : Hashing Token :=
  match data.get field.name with
  | some value => encodeField lib types value field.type
  | none =>
    if types.containsKey field.type = true then pure (.uint 0)
    else .error (.noData field.name)

/-- The type of a struct and its members, in the order of the type. -/
def encodeData (primaryType : Text) (data : Value) (types : Types) : Hashing (List Token) := do
  let hash ← hashType lib primaryType types
  match types.get primaryType with
  | some fields => do
    let tokens ← collect (encodeMember lib types data) fields
    pure (.uint (ofBe hash.bytes) :: tokens)
  | none => pure [.uint (ofBe hash.bytes)]

/-- The text of the domain's type and the words of its fields, as far as they are written. -/
structure SeparatorDraft where
  ty : Text
  tokens : List Token
  needsComma : Bool

def SeparatorDraft.push (draft : SeparatorDraft) (field : Eip712DomainType) (token : Token)
    (needsComma : Bool) : SeparatorDraft where
  ty := draft.ty ++ ((if draft.needsComma = true then [','] else []) ++ fieldText field)
  tokens := draft.tokens ++ [token]
  needsComma := needsComma

def contractToken (type contract : Text) : Token :=
  if type = ['a', 'd', 'd', 'r', 'e', 's', 's'] then
    .address ((lib.parseAddress contract).getD (Block.zero 20))
  else hashed lib (asBytes contract)

def separatorField (domain : EIP712Domain) (draft : SeparatorDraft) (field : Eip712DomainType) :
    Hashing SeparatorDraft :=
  if field.name = ['n', 'a', 'm', 'e'] then do
    let name ← Outcome.unwrap domain.name
    pure (draft.push field (hashed lib (asBytes name)) true)
  else if field.name = ['v', 'e', 'r', 's', 'i', 'o', 'n'] then do
    let version ← Outcome.unwrap domain.version
    pure (draft.push field (hashed lib (asBytes version)) true)
  else if field.name = ['c', 'h', 'a', 'i', 'n', 'I', 'd'] then do
    let chainId ← Outcome.unwrap domain.chainId
    pure (draft.push field (.uint chainId) true)
  else if field.name = ['v', 'e', 'r', 'i', 'f', 'y', 'i', 'n', 'g',
      'C', 'o', 'n', 't', 'r', 'a', 'c', 't'] then do
    let contract ← Outcome.unwrap domain.verifyingContract
    pure (draft.push field (contractToken lib field.type contract) true)
  else if field.name = ['s', 'a', 'l', 't'] then do
    let salt ← Outcome.unwrap domain.salt
    -- no comma is asked for behind a salt
    pure (draft.push field (.uint (ofBe salt.bytes)) draft.needsComma)
  else pure draft

def separatorFields (domain : EIP712Domain) :
    SeparatorDraft → List Eip712DomainType → Hashing SeparatorDraft
  | draft, [] => pure draft
  | draft, field :: fields => do
    let draft ← separatorField lib domain draft field
    separatorFields domain draft fields

def domainType : Text := ['E', 'I', 'P', '7', '1', '2', 'D', 'o', 'm', 'a', 'i', 'n']

/-- `EIP712Domain::separator`, in the order of the fields in the types. -/
def separator (domain : EIP712Domain) (types : Types) : Hashing (Block 32) := do
  let draft ← separatorFields lib domain ⟨domainType ++ ['('], [], false⟩
    ((types.get domainType).getD [])
  pure (lib.keccak256 (encode (hashed lib (asBytes (draft.ty ++ [')'])) :: draft.tokens)))

namespace Eip712TypedData

def messageTokens (data : Eip712TypedData) : Hashing (List Token) :=
  encodeData lib data.primaryType (.object data.message.entries) data.types

def structHash (data : Eip712TypedData) : Hashing (Block 32) := do
  let tokens ← data.messageTokens lib
  pure (lib.keccak256 (encode tokens))

def digestInput (separator : Block 32) (rest : List UInt8) : List UInt8 :=
  0x19 :: 0x01 :: (separator.bytes ++ rest)

/-- The message is left out when it is a domain itself. -/
def encodeEip712 (data : Eip712TypedData) : Hashing (Block 32) := do
  let domainSeparator ← separator lib data.domain data.types
  if data.primaryType = domainType then
    pure (lib.keccak256 (digestInput domainSeparator []))
  else
    let structHash ← data.structHash lib
    pure (lib.keccak256 (digestInput domainSeparator structHash.bytes))

end Eip712TypedData

end

section

variable (lib : TypedDataLib) (types : Types)

theorem lookup_encodeMembers (ms : List (Text × Value)) (key : Text) :
    (encodeMembers lib types ms).lookup key = (ms.lookup key).map (encodeField lib types) := by
  induction ms with
  | nil => rfl
  | cons m ms ih =>
    rw [encodeMembers, List.lookup_cons, List.lookup_cons]
    cases key == m.1 with
    | true => rfl
    | false => exact ih

theorem encodeItems_eq (vs : List Value) :
    encodeItems lib types vs = vs.map (encodeField lib types) := by
  induction vs with
  | nil => rfl
  | cons v vs ih => rw [encodeItems, ih, List.map_cons]

def Value.members : Value → List (Text × (Text → Hashing Token))
  | .object ms => encodeMembers lib types ms
  | _ => []

theorem lookup_members (data : Value) (key : Text) :
    (data.members lib types).lookup key = (data.get key).map (encodeField lib types) := by
  cases data with
  | object ms => exact lookup_encodeMembers lib types ms key
  | null => rfl
  | bool b => rfl
  | number n => rfl
  | string s => rfl
  | array vs => rfl

theorem encodeFields_members (data : Value) (fields : List Eip712DomainType) :
    encodeFields types (data.members lib types) fields
      = collect (encodeMember lib types data) fields := by
  have hfun : (fun field : Eip712DomainType =>
      match (data.members lib types).lookup field.name with
      | some member => member field.type
      | none =>
        if types.containsKey field.type = true then (pure (.uint 0) : Hashing Token)
        else .error (.noData field.name)) = encodeMember lib types data := by
    funext field
    rw [lookup_members, encodeMember]
    cases data.get field.name with
    | none => rfl
    | some value => rfl
  rw [encodeFields, hfun]

def Value.items : Value → Option (List (Text → Hashing Token))
  | .array vs => some (encodeItems lib types vs)
  | _ => none

theorem encodeField_parts (v : Value) : encodeField lib types v
    = encodeParts lib types v (v.members lib types) (v.items lib types) := by
  cases v with
  | null => rfl
  | bool b => rfl
  | number n => rfl
  | string s => rfl
  | array vs => rfl
  | object ms => rfl

theorem encodeField_struct (v : Value) {type : Text} {fields : List Eip712DomainType}
    (h : types.get type = some fields) :
    encodeField lib types v type
      = (encodeData lib type v types >>= fun tokens => pure (hashed lib (encode tokens))) := by
  rw [encodeField_parts, encodeParts, h, encodeData, h]
  dsimp only
  rw [encodeFields_members]
  cases hashType lib type types with
  | error e => rfl
  | halted => rfl
  | ok hash =>
    rw [ok_bind, ok_bind]
    show _ = (collect (encodeMember lib types v) fields >>= _) >>= _
    cases collect (encodeMember lib types v) fields with
    | error e => rfl
    | halted => rfl
    | ok tokens => rfl

theorem encodeField_array (vs : List Value) {type : Text} (h : types.get type = none)
    (hb : type.contains '[' = true) :
    encodeField lib types (.array vs) type
      = (collect (fun v => encodeField lib types v (beforeLastBracket type)) vs
          >>= fun tokens => pure (hashed lib (encode tokens))) := by
  rw [encodeField_parts, encodeParts, h]
  dsimp only
  rw [if_pos hb, Value.items, encodeItems_eq, okOr, ok_bind, Outcome.collect_map]

theorem encodeField_atom (v : Value) {type : Text} (h : types.get type = none)
    (hb : type.contains '[' = false) :
    encodeField lib types v type = encodeAtom lib type v := by
  have hb' : ¬ type.contains '[' = true := by
    rw [hb]
    exact Bool.false_ne_true
  rw [encodeField_parts, encodeParts, h]
  dsimp only
  rw [if_neg hb']

end

end Keystone3.Ethereum
