import Keystone3.Ethereum.TypedData

/-!
# Typed data, shown and signed

A request of typed data is read once to be shown and once to be signed. What is
shown are the separator of its domain and the hash of its message; what is signed
leaves the message out when the primary type is the domain, which what is shown
does not (`showsSigned_iff`).
-/

namespace Keystone3.Ethereum

open Bytes (Block hexText hexDecode hexDecode_hexText)
open Logic (Outcome BTreeMap)
open Logic.Outcome (bind_eq_ok okOr ok_bind)

inductive EthereumError where
  | invalidTypedData
  | hashTypedDataError (e : Eip712Error)
  | signFailure
deriving DecidableEq

structure RequestLib extends TypedDataLib where
  PublicKey : Type
  /-- A request as it is read: UTF-8, and the fields of typed data in JSON. -/
  readRequest : List UInt8 → Option Eip712TypedData
  /-- `serde_json::to_string_pretty` of a message. -/
  prettyMessage : BTreeMap Text Value → Text
  /-- `serde_json::from_str`. -/
  readValue : Text → Option Value
  generateAddress : PublicKey → Option Text
  signMessageBySeed : List UInt8 → Text → Block 32 → Option (Nat × Block 64)

/-- Typed data as it is shown; `sender` is the address of the key. -/
structure TypedData where
  name : Text
  version : Text
  chainId : Text
  verifyingContract : Text
  salt : Text
  primaryType : Text
  message : Text
  sender : Option Text
  domainSeparator : Text
  messageHash : Text

def prefixedHex (bytes : List UInt8) : Text := '0' :: 'x' :: hexText bytes

structure EthereumSignature where
  v : Nat
  rs : Block 64
deriving DecidableEq

section

variable (lib : RequestLib)

def contractText (contract : Text) : Text :=
  match lib.parseAddress contract with
  | some a => prefixedHex a.bytes
  | none => contract

/-- `Into` for typed data: the hash of the message panics when there is none. -/
def Eip712TypedData.shown (data : Eip712TypedData) : Outcome EthereumError TypedData := do
  let domainSeparator ← (separator lib.toTypedDataLib data.domain data.types).expect
  let messageHash ← (data.structHash lib.toTypedDataLib).expect
  pure {
    name := data.domain.name.getD []
    version := data.domain.version.getD []
    chainId := (data.domain.chainId.map fun n => Nat.toDigits 10 n).getD []
    verifyingContract := (data.domain.verifyingContract.map (contractText lib)).getD []
    salt := (data.domain.salt.map fun salt => prefixedHex salt.bytes).getD []
    primaryType := data.primaryType
    message := lib.prettyMessage data.message
    sender := none
    domainSeparator := hexText domainSeparator.bytes
    messageHash := hexText messageHash.bytes }

def TypedData.withSender (data : TypedData) (key : Option lib.PublicKey) : TypedData :=
  { data with sender := key.map fun key => (lib.generateAddress key).getD [] }

def TypedData.fromRaw (data : Eip712TypedData) (key : Option lib.PublicKey) :
    Outcome EthereumError TypedData := do
  let shown ← data.shown lib
  pure (shown.withSender lib key)

def parseTypedDataMessage (txHex : List UInt8) (key : Option lib.PublicKey) :
    Outcome EthereumError TypedData := do
  let typedData ← okOr .invalidTypedData (lib.readRequest txHex)
  TypedData.fromRaw lib typedData key

def typedDataHash (signData : List UInt8) : Outcome EthereumError (Block 32) := do
  let typedData ← okOr .invalidTypedData (lib.readRequest signData)
  (typedData.encodeEip712 lib.toTypedDataLib).mapError .hashTypedDataError

def signTypedDataMessage (signData seed : List UInt8) (path : Text) :
    Outcome EthereumError EthereumSignature := do
  let hash ← typedDataHash lib signData
  let signature ← okOr .signFailure (lib.signMessageBySeed seed path hash)
  pure ⟨signature.1 + 27, signature.2⟩

def ShowsSigned (request : List UInt8) (key : Option lib.PublicKey) : Prop :=
  ∃ shown domainSeparator messageHash,
    parseTypedDataMessage lib request key = .ok shown
      ∧ hexDecode shown.domainSeparator = some domainSeparator
      ∧ hexDecode shown.messageHash = some messageHash
      ∧ typedDataHash lib request
        = .ok (lib.keccak256 (0x19 :: 0x01 :: (domainSeparator ++ messageHash)))

def TypedDataLib.Collide (lib : TypedDataLib) (a b : List UInt8) : Prop :=
  a ≠ b ∧ lib.keccak256 a = lib.keccak256 b

/-- The request has one hash with its message and without it. -/
def Eip712TypedData.MessageCollides (data : Eip712TypedData) : Prop :=
  ∃ domainSeparator messageHash,
    separator lib.toTypedDataLib data.domain data.types = .ok domainSeparator
      ∧ data.structHash lib.toTypedDataLib = .ok messageHash
      ∧ lib.toTypedDataLib.Collide (Eip712TypedData.digestInput domainSeparator messageHash.bytes)
          (Eip712TypedData.digestInput domainSeparator [])

variable {lib}

theorem typedDataHash_of_sign {request seed : List UInt8} {path : Text}
    {signature : EthereumSignature}
    (h : signTypedDataMessage lib request seed path = .ok signature) :
    ∃ data digest, lib.readRequest request = some data
      ∧ data.encodeEip712 lib.toTypedDataLib = .ok digest
      ∧ typedDataHash lib request = .ok digest := by
  rw [signTypedDataMessage, bind_eq_ok] at h
  obtain ⟨digest, hdigest, h⟩ := h
  have hhash := hdigest
  rw [typedDataHash, bind_eq_ok] at hhash
  obtain ⟨data, hdata, hhash⟩ := hhash
  rw [Outcome.okOr_eq_ok] at hdata
  rw [Outcome.mapError_eq_ok] at hhash
  exact ⟨data, digest, hdata, hhash, hdigest⟩

variable {data : Eip712TypedData}

theorem encodeEip712_domain {digest : Block 32}
    (hprimary : data.primaryType = domainType)
    (h : data.encodeEip712 lib.toTypedDataLib = .ok digest) :
    ∃ domainSeparator, separator lib.toTypedDataLib data.domain data.types = .ok domainSeparator
      ∧ digest = lib.keccak256 (Eip712TypedData.digestInput domainSeparator []) := by
  rw [Eip712TypedData.encodeEip712, bind_eq_ok] at h
  obtain ⟨domainSeparator, hsep, h⟩ := h
  rw [if_pos hprimary] at h
  cases h
  exact ⟨domainSeparator, hsep, rfl⟩

theorem encodeEip712_message {digest : Block 32}
    (hprimary : data.primaryType ≠ domainType)
    (h : data.encodeEip712 lib.toTypedDataLib = .ok digest) :
    ∃ domainSeparator messageHash,
      separator lib.toTypedDataLib data.domain data.types = .ok domainSeparator
        ∧ data.structHash lib.toTypedDataLib = .ok messageHash
        ∧ digest
          = lib.keccak256 (Eip712TypedData.digestInput domainSeparator messageHash.bytes) := by
  rw [Eip712TypedData.encodeEip712, bind_eq_ok] at h
  obtain ⟨domainSeparator, hsep, h⟩ := h
  rw [if_neg hprimary, bind_eq_ok] at h
  obtain ⟨messageHash, hhash, h⟩ := h
  cases h
  exact ⟨domainSeparator, messageHash, hsep, hhash, rfl⟩

theorem parse_of_hashes {request : List UInt8}
    {domainSeparator messageHash : Block 32} (key : Option lib.PublicKey)
    (hread : lib.readRequest request = some data)
    (hsep : separator lib.toTypedDataLib data.domain data.types = .ok domainSeparator)
    (hhash : data.structHash lib.toTypedDataLib = .ok messageHash) :
    ∃ shown, parseTypedDataMessage lib request key = .ok shown
      ∧ shown.domainSeparator = hexText domainSeparator.bytes
      ∧ shown.messageHash = hexText messageHash.bytes
      ∧ shown.primaryType = data.primaryType
      ∧ shown.message = lib.prettyMessage data.message := by
  rw [parseTypedDataMessage, hread, okOr, ok_bind, TypedData.fromRaw,
    Eip712TypedData.shown, hsep, hhash]
  exact ⟨_, rfl, rfl, rfl, rfl, rfl⟩

theorem hashes_of_parse {request : List UInt8} {shown : TypedData}
    {key : Option lib.PublicKey} (hread : lib.readRequest request = some data)
    (h : parseTypedDataMessage lib request key = .ok shown) :
    ∃ domainSeparator messageHash,
      separator lib.toTypedDataLib data.domain data.types = .ok domainSeparator
        ∧ data.structHash lib.toTypedDataLib = .ok messageHash
        ∧ shown.domainSeparator = hexText domainSeparator.bytes
        ∧ shown.messageHash = hexText messageHash.bytes := by
  rw [parseTypedDataMessage, hread] at h
  rw [okOr, ok_bind, TypedData.fromRaw, bind_eq_ok] at h
  obtain ⟨shown, hshown, h⟩ := h
  cases h
  rw [Eip712TypedData.shown, bind_eq_ok] at hshown
  obtain ⟨domainSeparator, hsep, hshown⟩ := hshown
  rw [bind_eq_ok] at hshown
  obtain ⟨messageHash, hhash, hshown⟩ := hshown
  cases hshown
  rw [Outcome.expect_eq_ok] at hsep hhash
  exact ⟨domainSeparator, messageHash, hsep, hhash, rfl, rfl⟩

theorem showsSigned_iff_hashes {request : List UInt8} {digest : Block 32}
    (key : Option lib.PublicKey) (hread : lib.readRequest request = some data)
    (hdigest : typedDataHash lib request = .ok digest) :
    ShowsSigned lib request key ↔ ∃ domainSeparator messageHash,
      separator lib.toTypedDataLib data.domain data.types = .ok domainSeparator
        ∧ data.structHash lib.toTypedDataLib = .ok messageHash
        ∧ digest
          = lib.keccak256 (Eip712TypedData.digestInput domainSeparator messageHash.bytes) := by
  constructor
  · intro h
    obtain ⟨shown, ds, mh, hparse, hds, hmh, hsigned⟩ := h
    obtain ⟨domainSeparator, messageHash, hsep, hhash, hds', hmh'⟩ := hashes_of_parse hread hparse
    rw [hds', hexDecode_hexText] at hds
    rw [hmh', hexDecode_hexText] at hmh
    cases hds
    cases hmh
    rw [hdigest] at hsigned
    cases hsigned
    exact ⟨domainSeparator, messageHash, hsep, hhash, rfl⟩
  · intro h
    obtain ⟨domainSeparator, messageHash, hsep, hhash, hsigned⟩ := h
    obtain ⟨shown, hparse, hds, hmh, _⟩ := parse_of_hashes key hread hsep hhash
    refine ⟨shown, domainSeparator.bytes, messageHash.bytes, hparse, ?_, ?_, ?_⟩
    · rw [hds, hexDecode_hexText]
    · rw [hmh, hexDecode_hexText]
    · rw [hdigest, hsigned]
      rfl

theorem digestInput_ne (domainSeparator messageHash : Block 32) :
    Eip712TypedData.digestInput domainSeparator messageHash.bytes
      ≠ Eip712TypedData.digestInput domainSeparator [] := by
  intro h
  have hlength := congrArg List.length h
  have hsize := messageHash.size_eq
  simp only [Eip712TypedData.digestInput, List.length_cons, List.length_append,
    List.length_nil] at hlength
  omega

/-- What is shown of a signed request hashes to what is signed, unless the primary type is
the domain. -/
theorem showsSigned_iff {request seed : List UInt8} {path : Text} {signature : EthereumSignature}
    (hsign : signTypedDataMessage lib request seed path = .ok signature)
    (key : Option lib.PublicKey) :
    ShowsSigned lib request key ↔ ∃ data, lib.readRequest request = some data
      ∧ (data.primaryType ≠ domainType ∨ data.MessageCollides lib) := by
  obtain ⟨data, digest, hread, hdigest, hhash⟩ := typedDataHash_of_sign hsign
  rw [showsSigned_iff_hashes key hread hhash]
  by_cases hprimary : data.primaryType = domainType
  · -- the message is left out of the signature: only a collision helps
    obtain ⟨ds, hsep, hds⟩ := encodeEip712_domain hprimary hdigest
    constructor
    · intro h
      obtain ⟨ds', mh, hsep', hmh, hsigned⟩ := h
      rw [hsep] at hsep'
      cases hsep'
      rw [hds] at hsigned
      exact ⟨data, hread, .inr ⟨ds, mh, hsep, hmh, digestInput_ne ds mh, hsigned.symm⟩⟩
    · intro h
      obtain ⟨data', hread', hcase⟩ := h
      rw [hread] at hread'
      cases hread'
      rcases hcase with hne | hcollides
      · exact absurd hprimary hne
      · obtain ⟨ds', mh, hsep', hmh, _, heq⟩ := hcollides
        rw [hsep] at hsep'
        cases hsep'
        exact ⟨ds, mh, hsep, hmh, hds.trans heq.symm⟩
  · constructor
    · intro _
      exact ⟨data, hread, .inl hprimary⟩
    · intro _
      exact encodeEip712_message hprimary hdigest

end

def word (n : Nat) : Block 32 := Block.ofBytes 32 (Bytes.be 32 n)

def sampleTypedData : Eip712TypedData where
  domain := ⟨none, none, none, none, none⟩
  types := BTreeMap.ofList [(domainType, []), (['A'], [⟨['x'], ['u', 'i', 'n', 't', '8']⟩])]
  primaryType := ['A']
  message := BTreeMap.single ['x'] (.number (.unsigned 1))

def domainTypedData : Eip712TypedData where
  domain := ⟨some ['A'], none, none, none, none⟩
  types := BTreeMap.single domainType [⟨['n', 'a', 'm', 'e'], ['s', 't', 'r', 'i', 'n', 'g']⟩]
  primaryType := domainType
  message := BTreeMap.empty

def readAddress (s : Text) : Option (Block 20) :=
  match hexDecode (withoutHexPrefix s) with
  | some bytes => if h : bytes.length = 20 then some ⟨bytes, h⟩ else none
  | none => none

def readHexNumber (s : Text) : Option Nat :=
  let digits := withoutHexPrefix s
  if digits.all isHexDigit = true ∧ digits.length ≤ 64 ∧ hexNumber digits < 2 ^ 256 then
    some (hexNumber digits)
  else none

def tableHash (table : List (List UInt8 × Block 32)) (bytes : List UInt8) : Block 32 :=
  (table.lookup bytes).getD (word 0)

def tableLib (table : List (List UInt8 × Block 32)) : TypedDataLib where
  isXidStart := Char.isAlpha
  isXidContinue := fun c => c.isAlphanum || c == '_'
  isWhitespace := Char.isWhitespace
  keccak256 := tableHash table
  addressOfValue := fun v => v.asStr.bind readAddress
  parseAddress := readAddress
  parseHex := readHexNumber

theorem lawful_tableLib (table : List (List UInt8 × Block 32)) :
    (tableLib table).toUnicodeLib.Lawful where
  xidStart_alpha := fun c hc => hc
  xidContinue_alphanum := by
    intro c hc
    show (c.isAlphanum || c == '_') = true
    rw [hc, Bool.true_or]

def requestLib (table : List (List UInt8 × Block 32)) (data : Eip712TypedData) : RequestLib where
  toTypedDataLib := tableLib table
  PublicKey := Unit
  readRequest := fun _ => some data
  prettyMessage := fun _ => []
  readValue := fun _ => some (.object data.message.entries)
  generateAddress := fun _ => none
  signMessageBySeed := fun _ _ _ => some (0, Block.zero 64)

def sampleHashes : List (List UInt8 × Block 32) :=
  [(asBytes (domainType ++ ['(', ')']),
      word 0x20bcc3f8105eea47d067386e42e60246e89393cd61c512edd1e87688890fb914),
   ((word 0x20bcc3f8105eea47d067386e42e60246e89393cd61c512edd1e87688890fb914).bytes,
      word 0x6192106f129ce05c9075d319c1fa6ea9b3ae37cbd0c1ef92e2be7137bb07baa1),
   (asBytes ['A', '(', 'u', 'i', 'n', 't', '8', ' ', 'x', ')'],
      word 0xce09049e8accdebe650273b47a1e74b3e8eacc636c1f431442707a7e30fa4c31),
   ((word 0xce09049e8accdebe650273b47a1e74b3e8eacc636c1f431442707a7e30fa4c31).bytes
      ++ (word 1).bytes,
      word 0x0f42e0067f60cf7eb67727d0b930178bec5322bd5436018e626f1725d2017c7c)]

/-- The number's request is shown as it is signed. -/
theorem showsSigned_sample :
    ShowsSigned (requestLib sampleHashes sampleTypedData) [] none := by
  have hsign : signTypedDataMessage (requestLib sampleHashes sampleTypedData) [] [] []
      = .ok ⟨27, Block.zero 64⟩ := by
    decide
  have hprimary : sampleTypedData.primaryType ≠ domainType := by
    decide
  exact (showsSigned_iff hsign none).mpr ⟨sampleTypedData, rfl, .inl hprimary⟩

/-- The domain's request is signed, and showing it panics. -/
theorem not_showsSigned_domain :
    signTypedDataMessage (requestLib [] domainTypedData) [] [] [] = .ok ⟨27, Block.zero 64⟩
      ∧ ¬ ShowsSigned (requestLib [] domainTypedData) [] none := by
  have hparse : parseTypedDataMessage (requestLib [] domainTypedData) [] none = .halted := rfl
  refine ⟨rfl, ?_⟩
  intro h
  obtain ⟨shown, ds, mh, hshown, _⟩ := h
  rw [hparse] at hshown
  cases hshown

end Keystone3.Ethereum
