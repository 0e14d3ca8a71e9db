import Keystone3.Ethereum.TypedDataRequest

/-!
# The hash of a Safe transaction

A Safe transaction is shown with a hash of its own, computed from the members of
the message one by one. Each member is read in a way of its own there; a number
that is not in decimal digits is read as zero, and then the hash is another one
than what is signed (`showsSafeHash_iff`).
-/

namespace Keystone3.Ethereum

open Bytes (Block be ofBe hexText hexDecode)
open Logic (Outcome BTreeMap)
open Logic.Outcome (bind_eq_ok collect okOr_eq_ok ok_bind)

def Value.decimal (v : Value) : Nat := (fromDecStr (v.asStr.getD [])).getD 0

def Value.decimalOrNumber (v : Value) : Nat :=
  match v.asStr with
  | some s => (fromDecStr s).getD 0
  | none => v.asU64.getD 0

def Value.hexBytes (v : Value) : List UInt8 :=
  (hexDecode (trimHexPrefixes (v.asStr.getD []))).getD []

/-- `Address::from_slice`, which panics unless there are twenty bytes. -/
def Value.addressToken (v : Value) : Outcome EthereumError Token :=
  if h : v.hexBytes.length = 20 then pure (.address ⟨v.hexBytes, h⟩) else .halted

namespace SafeTx

def primaryType : Text := ['S', 'a', 'f', 'e', 'T', 'x']

/-! The keys of the message. -/

def recipientKey : Text := ['t', 'o']
def valueKey : Text := ['v', 'a', 'l', 'u', 'e']
def dataKey : Text := ['d', 'a', 't', 'a']
def operationKey : Text := ['o', 'p', 'e', 'r', 'a', 't', 'i', 'o', 'n']
def safeTxGasKey : Text := ['s', 'a', 'f', 'e', 'T', 'x', 'G', 'a', 's']
def baseGasKey : Text := ['b', 'a', 's', 'e', 'G', 'a', 's']
def gasPriceKey : Text := ['g', 'a', 's', 'P', 'r', 'i', 'c', 'e']
def gasTokenKey : Text := ['g', 'a', 's', 'T', 'o', 'k', 'e', 'n']
def refundReceiverKey : Text :=
  ['r', 'e', 'f', 'u', 'n', 'd', 'R', 'e', 'c', 'e', 'i', 'v', 'e', 'r']
def nonceKey : Text := ['n', 'o', 'n', 'c', 'e']

def typehash : Block 32 :=
  ⟨be 32 0xbb8310d486368db6bd6f849402fdd73ad53d316b5a4b2644ad6efe0f941286d8, Bytes.length_be 32 _⟩

variable (lib : RequestLib)

def tokens (message : Value) : Outcome EthereumError (List Token) := do
  let value := (message.index valueKey).decimal
  let dataHash := lib.keccak256 (message.index dataKey).hexBytes
  let toToken ← (message.index recipientKey).addressToken
  let operation := (message.index operationKey).decimalOrNumber
  let safeTxGas := (message.index safeTxGasKey).decimalOrNumber
  let baseGas := (message.index baseGasKey).decimalOrNumber
  let gasPrice := (message.index gasPriceKey).decimalOrNumber
  let nonce := (message.index nonceKey).decimalOrNumber
  let gasTokenToken ← (message.index gasTokenKey).addressToken
  let refundReceiverToken ← (message.index refundReceiverKey).addressToken
  pure [.fixedBytes typehash, toToken, .uint value, .fixedBytes dataHash, .uint operation,
    .uint safeTxGas, .uint baseGas, .uint gasPrice, gasTokenToken, refundReceiverToken,
    .uint nonce]

end SafeTx

/-- `get_safe_tx_hash`, of what is shown. -/
def TypedData.getSafeTxHash (lib : RequestLib) (shown : TypedData) :
    Outcome EthereumError Text := do
  if shown.primaryType ≠ SafeTx.primaryType then
    return []
  let message := (lib.readValue shown.message).getD .null
  let tokens ← SafeTx.tokens lib message
  let safeTxHash := lib.keccak256 (encode tokens)
  let domainSeparator := (hexDecode (trimHexPrefixes shown.domainSeparator)).getD []
  let transactionHash := lib.keccak256 (0x19 :: 0x01 :: (domainSeparator ++ safeTxHash.bytes))
  pure (prefixedHex transactionHash.bytes)

namespace SafeTx

def addressType : Text := ['a', 'd', 'd', 'r', 'e', 's', 's']
def uint256Type : Text := ['u', 'i', 'n', 't', '2', '5', '6']
def uint8Type : Text := ['u', 'i', 'n', 't', '8']
def bytesType : Text := ['b', 'y', 't', 'e', 's']

def fields : List Eip712DomainType :=
  [⟨recipientKey, addressType⟩, ⟨valueKey, uint256Type⟩, ⟨dataKey, bytesType⟩,
   ⟨operationKey, uint8Type⟩, ⟨safeTxGasKey, uint256Type⟩, ⟨baseGasKey, uint256Type⟩,
   ⟨gasPriceKey, uint256Type⟩, ⟨gasTokenKey, addressType⟩, ⟨refundReceiverKey, addressType⟩,
   ⟨nonceKey, uint256Type⟩]

end SafeTx

/-- Typed data of a Safe transaction: its type is the Safe's, and no struct has the name of
one of the atomic types in it. -/
structure Eip712TypedData.IsSafe (data : Eip712TypedData) : Prop where
  primaryType : data.primaryType = SafeTx.primaryType
  fields : data.types.get SafeTx.primaryType = some SafeTx.fields
  atoms : ∀ field ∈ SafeTx.fields, data.types.get field.type = none

def Eip712TypedData.value (data : Eip712TypedData) : Value := .object data.message.entries

section

variable (lib : RequestLib)

structure RequestLib.Lawful : Prop where
  unicode : lib.toUnicodeLib.Lawful
  /-- An address is read from twenty bytes in hexadecimal digits. -/
  addressOfValue_digits : ∀ v a, lib.addressOfValue v = some a →
    ∃ s, v = .string s ∧ hexDecode (withoutHexPrefix s) = some a.bytes
  parseHex_lt : ∀ s n, lib.parseHex s = some n → n < 2 ^ 256
  /-- A message that has been read is printed and read again without a change to its texts
  and its whole numbers. -/
  readValue_prettyMessage : ∀ request data, lib.readRequest request = some data →
    ∃ v, lib.readValue (lib.prettyMessage data.message) = some v
      ∧ ∀ key, (v.index key).asStr = (data.value.index key).asStr
        ∧ (v.index key).asU64 = (data.value.index key).asU64
  keccak256_safeTx :
    lib.keccak256 (asBytes (definitionText SafeTx.primaryType SafeTx.fields)) = SafeTx.typehash

def TypedDataLib.uintOf (lib : TypedDataLib) (v : Value) : Option Nat :=
  (StringifiedNumeric.fromValue v).bind fun val => val.toU256 lib.parseHex

def IsPlain (v : Value) : Prop :=
  lib.uintOf v = some 0 ∨ ∃ s, v = .string s ∧ s.all Char.isDigit = true

def IsPlainOrNumber (v : Value) : Prop := IsPlain lib v ∨ ∃ n, v = .number n

/-- The numbers of a Safe transaction are such that both hashes read them alike. -/
def Eip712TypedData.PlainNumbers (data : Eip712TypedData) : Prop :=
  IsPlain lib (data.value.index SafeTx.valueKey)
    ∧ IsPlainOrNumber lib (data.value.index SafeTx.operationKey)
    ∧ IsPlainOrNumber lib (data.value.index SafeTx.safeTxGasKey)
    ∧ IsPlainOrNumber lib (data.value.index SafeTx.baseGasKey)
    ∧ IsPlainOrNumber lib (data.value.index SafeTx.gasPriceKey)
    ∧ IsPlainOrNumber lib (data.value.index SafeTx.nonceKey)

variable {lib}

variable {n : Nat}

theorem lt_of_fromDecStr {s : Text} (h : fromDecStr s = some n) : n < 2 ^ 256 := by
  unfold fromDecStr at h
  split at h
  · rename_i hs
    cases h
    exact hs.2
  · cases h

variable {v : Value}

theorem uintOf_lt (law : lib.Lawful) (h : lib.uintOf v = some n) :
    n < 2 ^ 256 := by
  cases v with
  | string s =>
    change StringifiedNumeric.toU256 lib.parseHex (.string s) = some n at h
    unfold StringifiedNumeric.toU256 at h
    dsimp only at h
    cases hval : Bytes.parseUnsigned (2 ^ 128) s with
    | some val =>
      rw [hval] at h
      cases h
      have hlt := Bytes.lt_of_parseUnsigned hval
      omega
    | none =>
      rw [hval] at h
      dsimp only at h
      split at h
      · exact law.parseHex_lt s n h
      · exact lt_of_fromDecStr h
  | number num => exact lt_of_fromDecStr h
  | null => cases h
  | bool b => cases h
  | array vs => cases h
  | object ms => cases h

theorem fromDecStr_of_not_digits {s : Text} (h : ¬ s.all Char.isDigit = true) :
    fromDecStr s = none := by
  rw [fromDecStr, if_neg]
  intro hs
  exact h hs.1

theorem fromDecStr_of_toU256 {parseHex : Text → Option Nat} {s : Text}
    (hdigits : s.all Char.isDigit = true)
    (h : StringifiedNumeric.toU256 parseHex (.string s) = some n) : fromDecStr s = some n := by
  have hall := List.all_eq_true.mp hdigits
  unfold StringifiedNumeric.toU256 at h
  dsimp only at h
  rw [Bytes.parseUnsigned_of_digits hall, Bytes.parseDigits] at h
  split at h
  · rename_i val hval
    cases h
    split at hval
    · rename_i hs
      cases hval
      rw [fromDecStr, if_pos]
      refine ⟨hdigits, ?_⟩
      have hlt := hs.2.2
      omega
    · cases hval
  · split at h
    · -- a prefix has a letter
      rename_i hprefix
      exfalso
      unfold startsWithHexPrefix at hprefix
      split at hprefix
      · rename_i rest
        cases hall 'x' (List.mem_cons_of_mem _ List.mem_cons_self)
      · cases hprefix
    · exact h

theorem uintOf_eq_zero_iff (h : lib.uintOf v = some n) :
    lib.uintOf v = some 0 ↔ n = 0 := by
  rw [h]
  constructor
  · intro h
    cases h
    rfl
  · intro h
    rw [h]

theorem Number.text_digits {num : Number} (h : fromDecStr num.text = some n) :
    num.asU64 = some n := by
  cases num with
  | unsigned u =>
    rw [Number.text, fromDecStr, Nat.ofDigitChars_ten_toDigits] at h
    split at h
    · cases h
      rfl
    · cases h
  | negative u =>
    have hnone : fromDecStr (Number.negative u).text = none := by
      apply fromDecStr_of_not_digits
      intro hall
      cases List.all_eq_true.mp hall '-' List.mem_cons_self
    rw [hnone] at h
    cases h
  | float f =>
    have hnone : fromDecStr (Number.float f).text = none := by
      apply fromDecStr_of_not_digits
      intro hall
      rw [Number.text, f.notDigits] at hall
      cases hall
    rw [hnone] at h
    cases h

theorem string_decimal_iff {s : Text} (h : lib.uintOf (.string s) = some n) :
    (fromDecStr s).getD 0 = n ↔ IsPlain lib (.string s) := by
  by_cases hdigits : s.all Char.isDigit = true
  · have hdec : fromDecStr s = some n := fromDecStr_of_toU256 hdigits h
    constructor
    · intro _
      exact .inr ⟨s, rfl, hdigits⟩
    · intro _
      rw [hdec]
      rfl
  · rw [fromDecStr_of_not_digits hdigits]
    constructor
    · intro hzero
      exact .inl ((uintOf_eq_zero_iff h).mpr hzero.symm)
    · intro hplain
      rcases hplain with hzero | ⟨s', hs', hall⟩
      · exact ((uintOf_eq_zero_iff h).mp hzero).symm
      · cases hs'
        exact absurd hall hdigits

theorem decimal_eq_iff (h : lib.uintOf v = some n) :
    v.decimal = n ↔ IsPlain lib v := by
  cases v with
  | string s => exact string_decimal_iff h
  | number num =>
    constructor
    · intro hzero
      exact .inl ((uintOf_eq_zero_iff h).mpr hzero.symm)
    · intro hplain
      rcases hplain with hzero | ⟨s, hs, _⟩
      · exact ((uintOf_eq_zero_iff h).mp hzero).symm
      · cases hs
  | null => cases h
  | bool b => cases h
  | array vs => cases h
  | object ms => cases h

theorem decimalOrNumber_eq_iff (h : lib.uintOf v = some n) :
    v.decimalOrNumber = n ↔ IsPlainOrNumber lib v := by
  cases v with
  | string s =>
    constructor
    · intro heq
      exact .inl ((string_decimal_iff h).mp heq)
    · intro hplain
      rcases hplain with hplain | ⟨num, hnum⟩
      · exact (string_decimal_iff h).mpr hplain
      · cases hnum
  | number num =>
    have hu64 : num.asU64 = some n := Number.text_digits h
    constructor
    · intro _
      exact .inr ⟨num, rfl⟩
    · intro _
      show num.asU64.getD 0 = n
      rw [hu64]
      rfl
  | null => cases h
  | bool b => cases h
  | array vs => cases h
  | object ms => cases h

theorem encodeMember_atom {types : Types} {data : Value} {field : Eip712DomainType}
    {token : Token} (hatom : types.get field.type = none)
    (hbracket : field.type.contains '[' = false)
    (h : encodeMember lib.toTypedDataLib types data field = .ok token) :
    encodeAtom lib.toTypedDataLib field.type (data.index field.name) = .ok token := by
  unfold encodeMember at h
  rw [Value.index]
  cases hget : data.get field.name with
  | some v =>
    rw [hget] at h
    show encodeAtom lib.toTypedDataLib field.type v = .ok token
    rw [← encodeField_atom lib.toTypedDataLib types v hatom hbracket]
    exact h
  | none =>
    rw [hget] at h
    dsimp only at h
    rw [BTreeMap.containsKey, hatom] at h
    cases h

theorem encodeAtom_uint {type : Text} {size : Nat} {token : Token}
    (htype : parseType lib.toUnicodeLib type = some (.uint size))
    (h : encodeAtom lib.toTypedDataLib type v = .ok token) :
    ∃ n, lib.uintOf v = some n ∧ token = .uint n := by
  rw [encodeAtom, htype] at h
  dsimp only at h
  rw [bind_eq_ok] at h
  obtain ⟨val, hval, h⟩ := h
  rw [bind_eq_ok] at h
  obtain ⟨n, hn, h⟩ := h
  cases h
  rw [okOr_eq_ok] at hval hn
  refine ⟨n, ?_, rfl⟩
  rw [TypedDataLib.uintOf, hval]
  exact hn

theorem encodeAtom_address {type : Text} {token : Token}
    (htype : parseType lib.toUnicodeLib type = some .address)
    (h : encodeAtom lib.toTypedDataLib type v = .ok token) :
    ∃ a, lib.addressOfValue v = some a ∧ token = .address a := by
  rw [encodeAtom, htype] at h
  dsimp only at h
  rw [bind_eq_ok] at h
  obtain ⟨a, ha, h⟩ := h
  cases h
  rw [okOr_eq_ok] at ha
  exact ⟨a, ha, rfl⟩

theorem encodeAtom_bytes {type : Text} {token : Token}
    (htype : parseType lib.toUnicodeLib type = some .bytes)
    (h : encodeAtom lib.toTypedDataLib type v = .ok token) :
    ∃ data, v.toBytes = some data ∧ token = hashed lib.toTypedDataLib data := by
  rw [encodeAtom, htype] at h
  dsimp only at h
  rw [bind_eq_ok] at h
  obtain ⟨data, hdata, h⟩ := h
  cases h
  rw [okOr_eq_ok] at hdata
  exact ⟨data, hdata, rfl⟩

theorem trimHexPrefixes_digits {s : Text} {bytes : List UInt8} (h : hexDecode s = some bytes) :
    trimHexPrefixes s = s := by
  unfold trimHexPrefixes
  split
  · rename_i rest
    exfalso
    have hnone : hexDecode ('0' :: 'x' :: rest) = none := rfl
    rw [hnone] at h
    cases h
  · rfl

theorem hexDecode_trimHexPrefixes {s : Text} {bytes : List UInt8}
    (h : hexDecode (withoutHexPrefix s) = some bytes) :
    hexDecode (trimHexPrefixes s) = some bytes := by
  unfold withoutHexPrefix at h
  split at h
  · rename_i rest
    rw [trimHexPrefixes, trimHexPrefixes_digits h]
    exact h
  · rw [trimHexPrefixes_digits h]
    exact h

theorem hexBytes_of_toBytes {bytes : List UInt8} (h : v.toBytes = some bytes) :
    v.hexBytes = bytes := by
  cases v with
  | string s =>
    change hexDecode (withoutHexPrefix s) = some bytes at h
    show (hexDecode (trimHexPrefixes s)).getD [] = bytes
    rw [hexDecode_trimHexPrefixes h]
    rfl
  | null => cases h
  | bool b => cases h
  | number n => cases h
  | array vs => cases h
  | object ms => cases h

theorem addressToken_eq (law : lib.Lawful) {a : Block 20}
    (h : lib.addressOfValue v = some a) : v.addressToken = .ok (.address a) := by
  obtain ⟨s, hs, hdigits⟩ := law.addressOfValue_digits v a h
  have hbytes : v.hexBytes = a.bytes := by
    apply hexBytes_of_toBytes
    rw [hs]
    exact hdigits
  have hsize : v.hexBytes.length = 20 := by
    rw [hbytes, a.size_eq]
  rw [Value.addressToken, dif_pos hsize]
  have ha : (⟨v.hexBytes, hsize⟩ : Block 20) = a := Block.ext hbytes
  rw [ha]
  rfl

theorem findTypeDependencies_atom {types : Types} {name : Text} (h : types.get name = none)
    (depth : Nat) (found : List Text) : findTypeDependencies types depth name found = found := by
  cases depth with
  | zero => rfl
  | succ depth =>
    rw [findTypeDependencies, h]
    split
    · rfl
    · rfl

variable {data : Eip712TypedData}

theorem typeOrder_safe (hsafe : data.IsSafe) :
    typeOrder data.types SafeTx.primaryType = [SafeTx.primaryType] := by
  have hfold : ∀ fields : List Eip712DomainType, (∀ field ∈ fields, field ∈ SafeTx.fields) →
      ∀ depth found, fields.foldl (fun found field =>
        findTypeDependencies data.types depth (withoutArrayTail field.type) found) found
          = found := by
    intro fields
    induction fields with
    | nil =>
      intro _ depth found
      rfl
    | cons field fields ih =>
      intro hfields depth found
      have hfield := hfields field (.head _)
      have htail : withoutArrayTail field.type = field.type := by
        have hall : ∀ field ∈ SafeTx.fields, withoutArrayTail field.type = field.type := by
          decide
        exact hall field hfield
      rw [List.foldl_cons, htail, findTypeDependencies_atom (hsafe.atoms field hfield)]
      exact ih (fun f hf => hfields f (.tail _ hf)) depth found
  have hfound : findTypeDependencies data.types (data.types.len + 1) SafeTx.primaryType []
      = [SafeTx.primaryType] := by
    rw [findTypeDependencies, hsafe.fields]
    exact hfold SafeTx.fields (fun field hfield => hfield) _ _
  rw [typeOrder, hfound]
  rfl

theorem hashType_safe (law : lib.Lawful) (hsafe : data.IsSafe) :
    hashType lib.toTypedDataLib SafeTx.primaryType data.types = .ok SafeTx.typehash := by
  rw [hashType, encodeType, typeOrder_safe hsafe, collect, hsafe.fields, collect]
  show Outcome.ok (hashText lib.toTypedDataLib
    [definitionText SafeTx.primaryType SafeTx.fields].flatten) = _
  rw [List.flatten_singleton, hashText, law.keccak256_safeTx]

/-- What a Safe transaction says, with its numbers as they are signed. -/
structure SafeParts where
  recipient : Block 20
  value : Nat
  data : List UInt8
  operation : Nat
  safeTxGas : Nat
  baseGas : Nat
  gasPrice : Nat
  gasToken : Block 20
  refundReceiver : Block 20
  nonce : Nat

def SafeParts.tokens (lib : RequestLib) (parts : SafeParts) : List Token :=
  [.uint (ofBe SafeTx.typehash.bytes), .address parts.recipient, .uint parts.value,
    hashed lib.toTypedDataLib parts.data, .uint parts.operation, .uint parts.safeTxGas,
    .uint parts.baseGas, .uint parts.gasPrice, .address parts.gasToken,
    .address parts.refundReceiver, .uint parts.nonce]

structure SafeParts.ReadFrom (lib : RequestLib) (parts : SafeParts) (message : Value) :
    Prop where
  recipient : lib.addressOfValue (message.index SafeTx.recipientKey) = some parts.recipient
  value : lib.uintOf (message.index SafeTx.valueKey) = some parts.value
  data : (message.index SafeTx.dataKey).toBytes = some parts.data
  operation : lib.uintOf (message.index SafeTx.operationKey) = some parts.operation
  safeTxGas : lib.uintOf (message.index SafeTx.safeTxGasKey) = some parts.safeTxGas
  baseGas : lib.uintOf (message.index SafeTx.baseGasKey) = some parts.baseGas
  gasPrice : lib.uintOf (message.index SafeTx.gasPriceKey) = some parts.gasPrice
  gasToken : lib.addressOfValue (message.index SafeTx.gasTokenKey) = some parts.gasToken
  refundReceiver :
    lib.addressOfValue (message.index SafeTx.refundReceiverKey) = some parts.refundReceiver
  nonce : lib.uintOf (message.index SafeTx.nonceKey) = some parts.nonce

theorem messageTokens_safe (law : lib.Lawful) (hsafe : data.IsSafe)
    {tokens : List Token} (h : data.messageTokens lib.toTypedDataLib = .ok tokens) :
    ∃ parts : SafeParts, tokens = parts.tokens lib ∧ parts.ReadFrom lib data.value := by
  rw [Eip712TypedData.messageTokens, hsafe.primaryType, encodeData, hashType_safe law hsafe,
    ok_bind, hsafe.fields] at h
  dsimp only at h
  rw [bind_eq_ok] at h
  obtain ⟨members, hmembers, h⟩ := h
  cases h
  rw [Outcome.collect_eq_ok] at hmembers
  have hatoms : List.Forall₂ (fun field token =>
      encodeAtom lib.toTypedDataLib field.type (data.value.index field.name) = .ok token)
      SafeTx.fields members := by
    have hbracket : ∀ field ∈ SafeTx.fields, field.type.contains '[' = false := by
      decide
    rw [List.forall₂_iff_zip] at hmembers ⊢
    refine ⟨hmembers.1, ?_⟩
    intro field token hzip
    have hfield := (List.of_mem_zip hzip).1
    exact encodeMember_atom (hsafe.atoms field hfield) (hbracket field hfield) (hmembers.2 hzip)
  have haddress : parseType lib.toUnicodeLib SafeTx.addressType = some .address :=
    parseType_of_word law.unicode (by decide) (by decide)
  have huint : parseType lib.toUnicodeLib SafeTx.uint256Type = some (.uint 256) :=
    parseType_of_word law.unicode (by decide) (by decide)
  have huint8 : parseType lib.toUnicodeLib SafeTx.uint8Type = some (.uint 8) :=
    parseType_of_word law.unicode (by decide) (by decide)
  have hbytes : parseType lib.toUnicodeLib SafeTx.bytesType = some .bytes :=
    parseType_of_word law.unicode (by decide) (by decide)
  simp only [SafeTx.fields, List.forall₂_cons_left_iff, List.forall₂_nil_left_iff] at hatoms
  obtain ⟨_, _, h₁, ⟨_, _, h₂, ⟨_, _, h₃, ⟨_, _, h₄, ⟨_, _, h₅, ⟨_, _, h₆, ⟨_, _, h₇, ⟨_, _, h₈,
    ⟨_, _, h₉, ⟨_, _, h₁₀, rfl, rfl⟩, rfl⟩, rfl⟩, rfl⟩, rfl⟩, rfl⟩, rfl⟩, rfl⟩, rfl⟩, rfl⟩ := hatoms
  obtain ⟨recipient, hrecipient, rfl⟩ := encodeAtom_address haddress h₁
  obtain ⟨value, hvalue, rfl⟩ := encodeAtom_uint huint h₂
  obtain ⟨bytes, hdata, rfl⟩ := encodeAtom_bytes hbytes h₃
  obtain ⟨operation, hoperation, rfl⟩ := encodeAtom_uint huint8 h₄
  obtain ⟨safeTxGas, hsafeTxGas, rfl⟩ := encodeAtom_uint huint h₅
  obtain ⟨baseGas, hbaseGas, rfl⟩ := encodeAtom_uint huint h₆
  obtain ⟨gasPrice, hgasPrice, rfl⟩ := encodeAtom_uint huint h₇
  obtain ⟨gasToken, hgasToken, rfl⟩ := encodeAtom_address haddress h₈
  obtain ⟨refundReceiver, hrefundReceiver, rfl⟩ := encodeAtom_address haddress h₉
  obtain ⟨nonce, hnonce, rfl⟩ := encodeAtom_uint huint h₁₀
  exact ⟨⟨recipient, value, bytes, operation, safeTxGas, baseGas, gasPrice, gasToken,
    refundReceiver, nonce⟩, rfl, ⟨hrecipient, hvalue, hdata, hoperation, hsafeTxGas, hbaseGas,
    hgasPrice, hgasToken, hrefundReceiver, hnonce⟩⟩

def SafeParts.shownTokens (lib : RequestLib) (parts : SafeParts) (message : Value) :
    List Token :=
  [.fixedBytes SafeTx.typehash, .address parts.recipient,
    .uint (message.index SafeTx.valueKey).decimal, .fixedBytes (lib.keccak256 parts.data),
    .uint (message.index SafeTx.operationKey).decimalOrNumber,
    .uint (message.index SafeTx.safeTxGasKey).decimalOrNumber,
    .uint (message.index SafeTx.baseGasKey).decimalOrNumber,
    .uint (message.index SafeTx.gasPriceKey).decimalOrNumber,
    .address parts.gasToken, .address parts.refundReceiver,
    .uint (message.index SafeTx.nonceKey).decimalOrNumber]

theorem tokens_safe (law : lib.Lawful) {parts : SafeParts} {message : Value}
    (h : parts.ReadFrom lib message) :
    SafeTx.tokens lib message = .ok (parts.shownTokens lib message) := by
  rw [SafeTx.tokens, addressToken_eq law h.recipient, addressToken_eq law h.gasToken,
    addressToken_eq law h.refundReceiver, hexBytes_of_toBytes h.data]
  rfl

theorem tokens_congr {v w : Value} (h : ∀ key, (v.index key).asStr = (w.index key).asStr
    ∧ (v.index key).asU64 = (w.index key).asU64) : SafeTx.tokens lib v = SafeTx.tokens lib w := by
  have hdecimal : ∀ key, (v.index key).decimal = (w.index key).decimal := by
    intro key
    rw [Value.decimal, Value.decimal, (h key).1]
  have hnumber : ∀ key, (v.index key).decimalOrNumber = (w.index key).decimalOrNumber := by
    intro key
    rw [Value.decimalOrNumber, Value.decimalOrNumber, (h key).1, (h key).2]
  have hbytes : ∀ key, (v.index key).hexBytes = (w.index key).hexBytes := by
    intro key
    rw [Value.hexBytes, Value.hexBytes, (h key).1]
  have haddress : ∀ key, (v.index key).addressToken = (w.index key).addressToken := by
    intro key
    unfold Value.addressToken
    simp only [hbytes key]
  simp only [SafeTx.tokens, hdecimal, hnumber, hbytes, haddress]

theorem decimal_lt (v : Value) : v.decimal < 2 ^ 256 := by
  rw [Value.decimal]
  cases h : fromDecStr (v.asStr.getD []) with
  | some n => exact lt_of_fromDecStr h
  | none => decide

theorem decimalOrNumber_lt (v : Value) : v.decimalOrNumber < 2 ^ 256 := by
  have hzero : 0 < 2 ^ 256 := by
    decide
  unfold Value.decimalOrNumber
  split
  · rename_i s hs
    cases h : fromDecStr s with
    | some n => exact lt_of_fromDecStr h
    | none => exact hzero
  · cases v with
    | number num =>
      cases num with
      | unsigned u =>
        show u.toNat < 2 ^ 256
        have hu := u.toNat_lt
        omega
      | negative u => exact hzero
      | float f => exact hzero
    | string s => exact hzero
    | null => exact hzero
    | bool b => exact hzero
    | array vs => exact hzero
    | object ms => exact hzero

theorem encode_parts_iff (law : lib.Lawful) {parts : SafeParts}
    (h : parts.ReadFrom lib data.value) :
    encode (parts.tokens lib) = encode (parts.shownTokens lib data.value)
      ↔ data.PlainNumbers lib := by
  have hvalue := Token.word_uint_inj (uintOf_lt law h.value)
    (decimal_lt (data.value.index SafeTx.valueKey))
  have hnumber : ∀ {key : Text} {n : Nat}, lib.uintOf (data.value.index key) = some n →
      ((Token.uint n).word = (Token.uint (data.value.index key).decimalOrNumber).word
        ↔ IsPlainOrNumber lib (data.value.index key)) := by
    intro key n hn
    rw [Token.word_uint_inj (uintOf_lt law hn) (decimalOrNumber_lt _), eq_comm,
      decimalOrNumber_eq_iff hn]
  rw [eq_comm (a := parts.value), decimal_eq_iff h.value] at hvalue
  have htype : (Token.uint (ofBe SafeTx.typehash.bytes)).word
      = (Token.fixedBytes SafeTx.typehash).word := Token.word_ofBe _
  have hdata : (hashed lib.toTypedDataLib parts.data).word
      = (Token.fixedBytes (lib.keccak256 parts.data)).word := Token.word_ofBe _
  unfold SafeParts.tokens SafeParts.shownTokens Eip712TypedData.PlainNumbers
  simp only [encode_cons_inj, htype, hdata, hvalue, hnumber h.operation, hnumber h.safeTxGas,
    hnumber h.baseGas, hnumber h.gasPrice, hnumber h.nonce, true_and, and_true]

variable (lib) in
/-- The hash that is shown of a Safe transaction is the one that is signed. -/
def ShowsSafeHash (request : List UInt8) (key : Option lib.PublicKey) : Prop :=
  ∃ shown digest, parseTypedDataMessage lib request key = .ok shown
    ∧ typedDataHash lib request = .ok digest
    ∧ shown.getSafeTxHash lib = .ok (prefixedHex digest.bytes)

variable (lib) in
/-- Two different inputs of one hash among those of both hashes. -/
def Eip712TypedData.SafeCollides (data : Eip712TypedData) : Prop :=
  ∃ domainSeparator tokens safeTokens,
    separator lib.toTypedDataLib data.domain data.types = .ok domainSeparator
      ∧ data.messageTokens lib.toTypedDataLib = .ok tokens
      ∧ SafeTx.tokens lib data.value = .ok safeTokens
      ∧ (lib.Collide (encode tokens) (encode safeTokens)
        ∨ lib.Collide
          (Eip712TypedData.digestInput domainSeparator (lib.keccak256 (encode tokens)).bytes)
          (Eip712TypedData.digestInput domainSeparator (lib.keccak256 (encode safeTokens)).bytes))

theorem trimHexPrefixes_hexText (bytes : List UInt8) :
    trimHexPrefixes (hexText bytes) = hexText bytes :=
  trimHexPrefixes_digits (Bytes.hexDecode_hexText bytes)

theorem prefixedHex_inj {a b : List UInt8} : prefixedHex a = prefixedHex b ↔ a = b := by
  constructor
  · intro h
    have hdigits : hexText a = hexText b := by
      rw [prefixedHex, prefixedHex, List.cons_inj_right, List.cons_inj_right] at h
      exact h
    exact Bytes.hexText_injective hdigits
  · intro h
    rw [h]

theorem getSafeTxHash_eq (law : lib.Lawful) {request : List UInt8}
    {shown : TypedData} {parts : SafeParts} {domainSeparator : Block 32}
    (hread : lib.readRequest request = some data)
    (hprimary : shown.primaryType = SafeTx.primaryType)
    (hmessage : shown.message = lib.prettyMessage data.message)
    (hsep : shown.domainSeparator = hexText domainSeparator.bytes)
    (hparts : parts.ReadFrom lib data.value) :
    shown.getSafeTxHash lib = .ok (prefixedHex (lib.keccak256
      (Eip712TypedData.digestInput domainSeparator
        (lib.keccak256 (encode (parts.shownTokens lib data.value))).bytes)).bytes) := by
  obtain ⟨v, hv, hsame⟩ := law.readValue_prettyMessage request data hread
  have htokens : SafeTx.tokens lib v = .ok (parts.shownTokens lib data.value) :=
    (tokens_congr hsame).trans (tokens_safe law hparts)
  rw [TypedData.getSafeTxHash, hprimary, hmessage, hv, hsep, trimHexPrefixes_hexText,
    Bytes.hexDecode_hexText]
  show (SafeTx.tokens lib v >>= _) = _
  rw [htokens]
  rfl

theorem digest_eq_iff (domainSeparator : Block 32) (a b : List UInt8) :
    lib.keccak256 (Eip712TypedData.digestInput domainSeparator (lib.keccak256 b).bytes)
        = lib.keccak256 (Eip712TypedData.digestInput domainSeparator (lib.keccak256 a).bytes)
      ↔ a = b ∨ lib.Collide a b
        ∨ lib.Collide (Eip712TypedData.digestInput domainSeparator (lib.keccak256 a).bytes)
          (Eip712TypedData.digestInput domainSeparator (lib.keccak256 b).bytes) := by
  constructor
  · intro h
    by_cases hab : a = b
    · exact .inl hab
    · by_cases hhash : lib.keccak256 a = lib.keccak256 b
      · exact .inr (.inl ⟨hab, hhash⟩)
      · refine .inr (.inr ⟨?_, h.symm⟩)
        intro hinput
        rw [Eip712TypedData.digestInput, Eip712TypedData.digestInput, List.cons_inj_right,
          List.cons_inj_right, List.append_cancel_left_eq] at hinput
        exact hhash (Block.ext hinput)
  · intro h
    rcases h with hab | hcollides | hcollides
    · rw [hab]
    · rw [hcollides.2]
    · exact hcollides.2.symm

/-- The hash of a Safe transaction that is signed is shown without a panic, and is the one
that is signed just when its numbers are read alike by both. -/
theorem showsSafeHash_iff (law : lib.Lawful) {request seed : List UInt8} {path : Text}
    {signature : EthereumSignature} {data : Eip712TypedData}
    (hread : lib.readRequest request = some data) (hsafe : data.IsSafe)
    (hsign : signTypedDataMessage lib request seed path = .ok signature)
    (key : Option lib.PublicKey) :
    (∃ shown text, parseTypedDataMessage lib request key = .ok shown
        ∧ shown.getSafeTxHash lib = .ok text)
      ∧ (ShowsSafeHash lib request key ↔ data.PlainNumbers lib ∨ data.SafeCollides lib) := by
  obtain ⟨data', digest, hread', hdigest, hhash⟩ := typedDataHash_of_sign hsign
  rw [hread] at hread'
  cases hread'
  have hprimary : data.primaryType ≠ domainType := by
    rw [hsafe.primaryType]
    decide
  obtain ⟨ds, mh, hsep, hmh, hsigned⟩ := encodeEip712_message hprimary hdigest
  have hstruct := hmh
  rw [Eip712TypedData.structHash, bind_eq_ok] at hstruct
  obtain ⟨tokens, htokens, hmhash⟩ := hstruct
  cases hmhash
  obtain ⟨parts, hparts, hfrom⟩ := messageTokens_safe law hsafe htokens
  obtain ⟨shown, hparse, hds, _, hshownPrimary, hmessage⟩ := parse_of_hashes key hread hsep hmh
  have hsafeHash := getSafeTxHash_eq law hread (hshownPrimary.trans hsafe.primaryType) hmessage
    hds hfrom
  refine ⟨⟨shown, _, hparse, hsafeHash⟩, ?_⟩
  have hshows : ShowsSafeHash lib request key
      ↔ lib.keccak256 (Eip712TypedData.digestInput ds
          (lib.keccak256 (encode (parts.shownTokens lib data.value))).bytes)
        = lib.keccak256 (Eip712TypedData.digestInput ds
          (lib.keccak256 (encode tokens)).bytes) := by
    constructor
    · intro h
      obtain ⟨shown', digest', hparse', hhash', htext⟩ := h
      rw [hparse] at hparse'
      cases hparse'
      rw [hhash] at hhash'
      cases hhash'
      rw [hsafeHash, Outcome.ok.injEq, prefixedHex_inj] at htext
      exact (Block.ext htext).trans hsigned
    · intro h
      refine ⟨shown, digest, hparse, hhash, ?_⟩
      rw [hsafeHash, h, hsigned]
  rw [hshows, digest_eq_iff, hparts, encode_parts_iff law hfrom]
  constructor
  · intro h
    rcases h with hplain | hcollides
    · exact .inl hplain
    · rw [← hparts] at hcollides
      exact .inr ⟨ds, tokens, _, hsep, htokens, tokens_safe law hfrom, hcollides⟩
  · intro h
    rcases h with hplain | ⟨ds', tokens', safeTokens, hsep', htokens', hsafeTokens, hcollides⟩
    · exact .inl hplain
    · rw [hsep] at hsep'
      cases hsep'
      rw [htokens] at htokens'
      cases htokens'
      rw [tokens_safe law hfrom] at hsafeTokens
      cases hsafeTokens
      rw [hparts] at hcollides
      exact .inr hcollides

end

def zeroAddressText : Text := '0' :: 'x' :: List.replicate 40 '0'

def sampleMessage (value : Text) : BTreeMap Text Value :=
  BTreeMap.ofList
    [(SafeTx.recipientKey, .string zeroAddressText), (SafeTx.valueKey, .string value),
     (SafeTx.dataKey, .string ['0', 'x']), (SafeTx.operationKey, .number (.unsigned 0)),
     (SafeTx.safeTxGasKey, .string ['0']), (SafeTx.baseGasKey, .string ['0']),
     (SafeTx.gasPriceKey, .string ['0']), (SafeTx.gasTokenKey, .string zeroAddressText),
     (SafeTx.refundReceiverKey, .string zeroAddressText), (SafeTx.nonceKey, .string ['0'])]

def sampleSafe (value : Text) : Eip712TypedData where
  domain := ⟨none, none, none, none, none⟩
  types := BTreeMap.ofList [(domainType, []), (SafeTx.primaryType, SafeTx.fields)]
  primaryType := SafeTx.primaryType
  message := sampleMessage value

def sampleSafeInput (value : Nat) : List UInt8 :=
  SafeTx.typehash.bytes ++ (word 0).bytes ++ (word value).bytes
    ++ (word 0xc5d2460186f7233c927e7db2dcc703c0e500b653ca82273b7bfad8045d85a470).bytes
    ++ (List.replicate 7 (word 0).bytes).flatten

def sampleSeparator : Block 32 :=
  word 0x6192106f129ce05c9075d319c1fa6ea9b3ae37cbd0c1ef92e2be7137bb07baa1

def safeHashes : List (List UInt8 × Block 32) :=
  [(asBytes (domainType ++ ['(', ')']),
      word 0x20bcc3f8105eea47d067386e42e60246e89393cd61c512edd1e87688890fb914),
   ((word 0x20bcc3f8105eea47d067386e42e60246e89393cd61c512edd1e87688890fb914).bytes,
      sampleSeparator),
   (asBytes (definitionText SafeTx.primaryType SafeTx.fields), SafeTx.typehash),
   ([], word 0xc5d2460186f7233c927e7db2dcc703c0e500b653ca82273b7bfad8045d85a470),
   (sampleSafeInput 0, word 0x0dbbb7b51e261ff463b48851dfe9c0350bbf798b406605d374ec8c22ab65ae43),
   (sampleSafeInput 1, word 0x830a24aa2e8858a301eed9978acd9ec16b1e99a67d25008a38fe5f5f0be705dd),
   (Eip712TypedData.digestInput sampleSeparator
      (word 0x0dbbb7b51e261ff463b48851dfe9c0350bbf798b406605d374ec8c22ab65ae43).bytes,
      word 0x3cdf7b07c96c4bdb8a36d9ba8b232af22abd89396b021c7f3163808f8eacd855),
   (Eip712TypedData.digestInput sampleSeparator
      (word 0x830a24aa2e8858a301eed9978acd9ec16b1e99a67d25008a38fe5f5f0be705dd).bytes,
      word 0xa47b07f405872db37dda754009763c875b6bd7f4ea122eb28dc220069625ecbd)]

theorem lawful_sample (value : Text) : (requestLib safeHashes (sampleSafe value)).Lawful where
  unicode := lawful_tableLib safeHashes
  addressOfValue_digits := by
    intro v a h
    cases v with
    | string s =>
      refine ⟨s, rfl, ?_⟩
      change readAddress s = some a at h
      unfold readAddress at h
      split at h
      · rename_i bytes hbytes
        split at h
        · cases h
          exact hbytes
        · cases h
      · cases h
    | null => cases h
    | bool b => cases h
    | number n => cases h
    | array vs => cases h
    | object ms => cases h
  parseHex_lt := by
    intro s n h
    change readHexNumber s = some n at h
    unfold readHexNumber at h
    dsimp only at h
    split at h
    · rename_i hs
      cases h
      exact hs.2.2
    · cases h
  readValue_prettyMessage := by
    intro request data h
    cases h
    exact ⟨.object (sampleSafe value).message.entries, rfl, fun key => ⟨rfl, rfl⟩⟩
  keccak256_safeTx := by
    show tableHash safeHashes (asBytes (definitionText SafeTx.primaryType SafeTx.fields))
      = SafeTx.typehash
    decide

/-- A value in decimal digits is shown as it is signed. -/
theorem showsSafeHash_decimal :
    ShowsSafeHash (requestLib safeHashes (sampleSafe ['1'])) [] none := by
  have hsafe : (sampleSafe ['1']).IsSafe := {
    primaryType := rfl
    fields := by decide
    atoms := by decide }
  have hsign : signTypedDataMessage (requestLib safeHashes (sampleSafe ['1'])) [] [] []
      = .ok ⟨27, Block.zero 64⟩ := by
    decide
  have hplain : (sampleSafe ['1']).PlainNumbers (requestLib safeHashes (sampleSafe ['1'])) :=
    ⟨.inr ⟨['1'], rfl, rfl⟩, .inr ⟨.unsigned 0, rfl⟩, .inl (.inr ⟨['0'], rfl, rfl⟩),
      .inl (.inr ⟨['0'], rfl, rfl⟩), .inl (.inr ⟨['0'], rfl, rfl⟩),
      .inl (.inr ⟨['0'], rfl, rfl⟩)⟩
  exact (showsSafeHash_iff (lawful_sample ['1']) rfl hsafe hsign none).2.mpr (.inl hplain)

set_option maxRecDepth 16384 in
/-- A value in hexadecimal digits is signed, and is zero in the hash that is shown. -/
theorem not_showsSafeHash_hexadecimal :
    typedDataHash (requestLib safeHashes (sampleSafe ['0', 'x', '1'])) []
        = .ok (word 0xa47b07f405872db37dda754009763c875b6bd7f4ea122eb28dc220069625ecbd)
      ∧ ¬ ShowsSafeHash (requestLib safeHashes (sampleSafe ['0', 'x', '1'])) [] none := by
  have hhash : typedDataHash (requestLib safeHashes (sampleSafe ['0', 'x', '1'])) []
      = .ok (word 0xa47b07f405872db37dda754009763c875b6bd7f4ea122eb28dc220069625ecbd) := by
    decide
  have hshown : (parseTypedDataMessage (requestLib safeHashes (sampleSafe ['0', 'x', '1'])) [] none
      >>= fun shown =>
        shown.getSafeTxHash (requestLib safeHashes (sampleSafe ['0', 'x', '1'])))
      = .ok (prefixedHex
        (word 0x3cdf7b07c96c4bdb8a36d9ba8b232af22abd89396b021c7f3163808f8eacd855).bytes) := by
    decide
  refine ⟨hhash, ?_⟩
  intro h
  obtain ⟨shown, digest, hparse, hdigest, htext⟩ := h
  rw [hhash] at hdigest
  cases hdigest
  rw [hparse, ok_bind, htext, Outcome.ok.injEq, prefixedHex_inj] at hshown
  cases hshown

end Keystone3.Ethereum
