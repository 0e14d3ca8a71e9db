import Keystone3.Bytes.Cbor
import Keystone3.Cardano.Address

/-!
# Signed messages

The bytes of a request are shown as the structure that they may be the CBOR of,
and are signed as the payload of such a structure. `signsShown_iff` says for
which requests what is shown is what is signed.
-/

namespace Keystone3.Cardano

open Bitcoin (DerivationPath)
open Bytes (Block hexDecode hexText ofUtf8 utf8)
open Logic (Outcome)
open Logic.Outcome (bind_eq_ok unwrap_eq_ok)

structure CardanoCip8SigStructureLedgerType where
  addressField : List UInt8
  payload : List UInt8

def addressName : Text := ['a', 'd', 'd', 'r', 'e', 's', 's']

def contextName : Text := ['S', 'i', 'g', 'n', 'a', 't', 'u', 'r', 'e', '1']

def headerStart : List UInt8 :=
  Bytes.Cbor.map 2 ++ Bytes.Cbor.int 1 ++ Bytes.Cbor.int (-8) ++ Bytes.Cbor.text addressName

def createProtectedHeader (addressFieldBytes : List UInt8) : List UInt8 :=
  headerStart ++ Bytes.Cbor.bytes addressFieldBytes

namespace CardanoCip8SigStructureLedgerType

def start : List UInt8 := Bytes.Cbor.array 4 ++ Bytes.Cbor.text contextName

/-- `Encode for CardanoCip8SigStructureLedgerType`. -/
def encode (s : CardanoCip8SigStructureLedgerType) : List UInt8 :=
  start ++ (Bytes.Cbor.bytes (createProtectedHeader s.addressField)
    ++ (Bytes.Cbor.bytes [] ++ Bytes.Cbor.bytes s.payload))

end CardanoCip8SigStructureLedgerType

structure CardanoSignCip8DataRequest where
  requestId : Option (List UInt8)
  signData : List UInt8
  derivationPath : Option Text
  hashPayload : Bool
  addressBench32 : Option Text
  xpub : List UInt8
  addressType : Text

def addressTypeAddress : Text := ['A', 'D', 'D', 'R', 'E', 'S', 'S']

structure Cip8Lib (XPrv XPub : Type) extends Ed25519Lib XPrv XPub where
  blake2b224 : List UInt8 → Block 28
  bech32Decode : Text → Option (List UInt8)
  /-- The payload of `CardanoSignStructure::from_cbor`, in hexadecimal digits. -/
  fromCbor : List UInt8 → Option Text
  /-- A structure is an array, and its payload is a part of it. -/
  fromCbor_eq_some : ∀ data text, fromCbor data = some text → ∃ payload, text = hexText payload
    ∧ payload.length < data.length ∧ ∃ b rest, data = b :: rest ∧ 128 ≤ b.toNat

structure ParsedCardanoSignCip8Data where
  payload : Text
  derivationPath : Text
  messageHash : Text
  xpub : Text
  hashPayload : Bool

section

variable {XPrv XPub : Type} (lib : Cip8Lib XPrv XPub)

def ParsedCardanoSignCip8Data.build (signData : List UInt8) (derivationPath xpub : Text)
    (hashPayload : Bool) : Result ParsedCardanoSignCip8Data :=
  match lib.fromCbor signData with
  | some rawPayload => do
    let bytes ← Outcome.unwrap (hexDecode rawPayload)
    let payload := (ofUtf8 bytes).getD rawPayload
    let messageHash := if hashPayload then hexText (lib.blake2b224 (utf8 payload)).bytes
      else hexText (utf8 rawPayload)
    pure ⟨payload, derivationPath, messageHash, xpub, hashPayload⟩
  | none => pure ⟨hexText signData, derivationPath, hexText signData, xpub, hashPayload⟩

def cardanoParseSignCip8Data (request : CardanoSignCip8DataRequest) :
    Result ParsedCardanoSignCip8Data := do
  let derivationPath ← Outcome.unwrap request.derivationPath
  ParsedCardanoSignCip8Data.build lib request.signData derivationPath (hexText request.xpub)
    request.hashPayload

def cip8Address (request : CardanoSignCip8DataRequest) : Result (List UInt8) :=
  if request.addressType = addressTypeAddress then do
    let address ← Outcome.unwrap request.addressBench32
    Outcome.unwrap (lib.bech32Decode address)
  else pure (lib.blake2b224 request.xpub).bytes

/-- The structure of `cardano_sign_sign_cip8_data_by_icarus`. -/
def cip8Data (request : CardanoSignCip8DataRequest) : Result CardanoCip8SigStructureLedgerType := do
  let signData := if request.hashPayload then (lib.blake2b224 request.signData).bytes
    else request.signData
  let addressField ← cip8Address lib request
  pure ⟨addressField, signData⟩

structure SignDataResult where
  pubKey : List UInt8
  signature : List UInt8

def signData (path payload : Text) (icarusMasterKey : XPrv) : Result SignDataResult := do
  let key ← Outcome.unwrap (lib.deriveExtendedPrivkeyByXprv icarusMasterKey path)
  let message ← Outcome.unwrap (hexDecode payload)
  pure ⟨(lib.publicKey (lib.neuter key)).bytes, (lib.sign key message).bytes⟩

structure CardanoSignCip8DataSignature where
  requestId : Option (List UInt8)
  signature : List UInt8
  pubKey : List UInt8
  addressField : List UInt8

/-- `cardano_sign_sign_cip8_data_by_icarus`. -/
def cardanoSignSignCip8Data (request : CardanoSignCip8DataRequest) (icarusMasterKey : XPrv) :
    Result CardanoSignCip8DataSignature := do
  let data ← cip8Data lib request
  let cborHex := (hexText data.encode).map Char.toUpper
  let path ← Outcome.unwrap request.derivationPath
  let result ← signData lib path cborHex icarusMasterKey
  pure ⟨request.requestId, result.signature, result.pubKey, data.addressField⟩

/-- The text is that of the bytes, or their hexadecimal digits. -/
def Shows (text : Text) (bytes : List UInt8) : Prop := utf8 text = bytes ∨ text = hexText bytes

/-- The payload that is shown is that of the structure, or the structure has its hash. -/
def ParsedCardanoSignCip8Data.ShowsPayload (shown : ParsedCardanoSignCip8Data)
    (data : CardanoCip8SigStructureLedgerType) : Prop :=
  (if shown.hashPayload then
      ∃ message, Shows shown.payload message ∧ data.payload = (lib.blake2b224 message).bytes
    else Shows shown.payload data.payload)
  ∧ shown.messageHash = hexText data.payload

/-- The signature is one of the CBOR of a structure with the payload that is shown. -/
def SignsShown (request : CardanoSignCip8DataRequest) (icarusMasterKey : XPrv)
    (result : CardanoSignCip8DataSignature) : Prop :=
  ∃ shown data path key, cardanoParseSignCip8Data lib request = .ok shown
    ∧ cip8Data lib request = .ok data ∧ request.derivationPath = some path
    ∧ lib.deriveExtendedPrivkeyByXprv icarusMasterKey path = some key
    ∧ result.signature = (lib.sign key data.encode).bytes
    ∧ shown.ShowsPayload lib data

/-- The payload that is shown has the hash of the signed data only if it is the data. -/
def NoCollision (request : CardanoSignCip8DataRequest) : Prop :=
  ∀ shown, cardanoParseSignCip8Data lib request = .ok shown →
    lib.blake2b224 (utf8 shown.payload) = lib.blake2b224 request.signData →
    utf8 shown.payload = request.signData

end

section

variable {XPrv XPub : Type} {lib : Cip8Lib XPrv XPub} {request : CardanoSignCip8DataRequest}

variable {data : CardanoCip8SigStructureLedgerType}

theorem payload_cip8Data
    (h : cip8Data lib request = .ok data) :
    data.payload = if request.hashPayload then (lib.blake2b224 request.signData).bytes
      else request.signData := by
  obtain ⟨addressField, -, h⟩ := bind_eq_ok.mp h
  cases h
  rfl

theorem cardanoSignSignCip8Data_eq_ok {icarusMasterKey : XPrv}
    {result : CardanoSignCip8DataSignature}
    (h : cardanoSignSignCip8Data lib request icarusMasterKey = .ok result) : ∃ data path key,
      cip8Data lib request = .ok data ∧ request.derivationPath = some path
        ∧ lib.deriveExtendedPrivkeyByXprv icarusMasterKey path = some key
        ∧ result.signature = (lib.sign key data.encode).bytes := by
  obtain ⟨data, hdata, h⟩ := bind_eq_ok.mp h
  obtain ⟨path, hpath, h⟩ := bind_eq_ok.mp h
  obtain ⟨signed, hsigned, h⟩ := bind_eq_ok.mp h
  cases h
  obtain ⟨key, hkey, hsigned⟩ := bind_eq_ok.mp hsigned
  obtain ⟨message, hmessage, hsigned⟩ := bind_eq_ok.mp hsigned
  cases hsigned
  -- the digits are written in capital letters and read again
  have hmessage := unwrap_eq_ok.mp hmessage
  rw [Bytes.hexDecode_map_toUpper] at hmessage
  cases hmessage
  exact ⟨data, path, key, hdata, unwrap_eq_ok.mp hpath, unwrap_eq_ok.mp hkey, rfl⟩

theorem utf8_hexText (bytes : List UInt8) :
    utf8 (hexText bytes) = (hexText bytes).map fun c => UInt8.ofNat c.toNat :=
  Bytes.utf8_of_ascii fun _ hc => Bytes.toNat_lt_of_mem_hexText hc

theorem length_utf8_hexText (bytes : List UInt8) :
    (utf8 (hexText bytes)).length = 2 * bytes.length := by
  rw [utf8_hexText, List.length_map, Bytes.length_hexText]

theorem utf8_hexText_ne {bytes rest : List UInt8} {b : UInt8} (hb : 128 ≤ b.toNat) :
    utf8 (hexText bytes) ≠ b :: rest := by
  intro h
  rw [utf8_hexText] at h
  obtain ⟨c, hc, hbyte⟩ := List.mem_map.mp (h ▸ List.mem_cons_self : b ∈ _)
  have hascii := Bytes.toNat_lt_of_mem_hexText hc
  rw [← hbyte, UInt8.toNat_ofNat_of_lt' (Nat.lt_trans hascii (by decide))] at hb
  omega

theorem not_shows_of_fromCbor {data bytes : List UInt8} {rawPayload : Text}
    (hraw : lib.fromCbor data = some rawPayload) (hbytes : hexDecode rawPayload = some bytes) :
    ¬Shows ((ofUtf8 bytes).getD rawPayload) data := by
  obtain ⟨payload, rfl, hlength, b, rest, rfl, hb⟩ := lib.fromCbor_eq_some data rawPayload hraw
  rw [Bytes.hexDecode_hexText] at hbytes
  cases hbytes
  cases htext : ofUtf8 bytes with
  | none =>
    rw [Option.getD_none]
    rintro (h | h)
    · exact utf8_hexText_ne hb h
    · rw [Bytes.hexText_injective h] at hlength
      exact Nat.lt_irrefl _ hlength
  | some text =>
    have hutf8 := Bytes.utf8_of_ofUtf8 htext
    rw [Option.getD_some]
    rintro (h | h)
    · rw [← hutf8, h] at hlength
      exact Nat.lt_irrefl _ hlength
    · rw [← hutf8, h, length_utf8_hexText] at hlength
      omega

theorem showsPayload_of_none {shown : ParsedCardanoSignCip8Data} (hnone : lib.fromCbor request.signData = none)
    (hshown : cardanoParseSignCip8Data lib request = .ok shown)
    (hdata : cip8Data lib request = .ok data) :
    shown.ShowsPayload lib data ↔ (request.hashPayload = true →
      (lib.blake2b224 request.signData).bytes = request.signData) := by
  obtain ⟨path, -, hshown⟩ := bind_eq_ok.mp hshown
  rw [ParsedCardanoSignCip8Data.build, hnone] at hshown
  cases hshown
  unfold ParsedCardanoSignCip8Data.ShowsPayload
  rw [payload_cip8Data hdata]
  cases request.hashPayload with
  | false => exact iff_of_true ⟨.inr rfl, rfl⟩ nofun
  | true =>
    constructor
    · rintro ⟨-, hhash⟩ -
      exact (Bytes.hexText_injective hhash).symm
    · intro h
      exact ⟨⟨request.signData, .inr rfl, rfl⟩, (congrArg hexText (h rfl)).symm⟩

theorem not_showsPayload_of_some {shown : ParsedCardanoSignCip8Data} {rawPayload : Text}
    (hraw : lib.fromCbor request.signData = some rawPayload) (hapart : NoCollision lib request)
    (hshown : cardanoParseSignCip8Data lib request = .ok shown)
    (hdata : cip8Data lib request = .ok data) :
    ¬shown.ShowsPayload lib data := by
  have hutf8 := hapart shown hshown
  obtain ⟨path, -, hshown⟩ := bind_eq_ok.mp hshown
  rw [ParsedCardanoSignCip8Data.build, hraw] at hshown
  obtain ⟨bytes, hbytes, hshown⟩ := bind_eq_ok.mp hshown
  have hnot := not_shows_of_fromCbor hraw (unwrap_eq_ok.mp hbytes)
  cases hshown
  unfold ParsedCardanoSignCip8Data.ShowsPayload
  rw [payload_cip8Data hdata]
  dsimp only at hutf8 ⊢
  rintro ⟨hpayload, hhash⟩
  cases hflag : request.hashPayload with
  | false =>
    rw [hflag] at hpayload
    exact hnot hpayload
  | true =>
    rw [hflag] at hhash
    exact hnot (.inl (hutf8 (Block.ext (Bytes.hexText_injective hhash))))

end

/-- What is shown is what is signed if the data is not taken for a structure, and has no hash in its
place. -/
theorem signsShown_iff {XPrv XPub : Type} (lib : Cip8Lib XPrv XPub)
    (request : CardanoSignCip8DataRequest) (icarusMasterKey : XPrv)
    (result : CardanoSignCip8DataSignature) (hapart : NoCollision lib request)
    (hsign : cardanoSignSignCip8Data lib request icarusMasterKey = .ok result) :
    SignsShown lib request icarusMasterKey result ↔ lib.fromCbor request.signData = none
      ∧ (request.hashPayload = true →
        (lib.blake2b224 request.signData).bytes = request.signData) := by
  constructor
  · rintro ⟨shown, data, path, key, hshown, hdata, -, -, -, hpayload⟩
    cases hraw : lib.fromCbor request.signData with
    | none => exact ⟨rfl, (showsPayload_of_none hraw hshown hdata).mp hpayload⟩
    | some rawPayload => exact absurd hpayload (not_showsPayload_of_some hraw hapart hshown hdata)
  · rintro ⟨hnone, hhash⟩
    obtain ⟨data, path, key, hdata, hpath, hkey, hsignature⟩ := cardanoSignSignCip8Data_eq_ok hsign
    obtain ⟨shown, hshown⟩ : ∃ shown, cardanoParseSignCip8Data lib request = .ok shown := by
      rw [cardanoParseSignCip8Data, hpath]
      exact ⟨_, by
        rw [Outcome.unwrap, Outcome.ok_bind, ParsedCardanoSignCip8Data.build, hnone]; rfl⟩
    exact ⟨shown, data, path, key, hshown, hdata, hpath, hkey, hsignature,
      (showsPayload_of_none hnone hshown hdata).mpr hhash⟩

def sampleMessage : List UInt8 := [0x68, 0x65, 0x6c, 0x6c, 0x6f]

def sampleMessageHash : Block 28 := Block.ofBytes 28
  [0xa4, 0x96, 0x3e, 0x4e, 0xa2, 0xaa, 0x9b, 0x41, 0x20, 0x67, 0x2a, 0xbf, 0xc4, 0xc4, 0x29, 0x9b,
  0xa3, 0x65, 0x36, 0x8f, 0xa5, 0xa3, 0x91, 0x0d, 0x5c, 0x55, 0x9f, 0xc5]

def sampleSignMessage (path : DerivationPath) (bytes : List UInt8) : Block 64 :=
  if path ≠ paymentKey.path then Block.zero 64
  else if bytes = CardanoCip8SigStructureLedgerType.encode
      ⟨paymentKey.hash.bytes, sampleMessage⟩ then
    Block.ofBytes 64
      [0x57, 0x57, 0x65, 0x8c, 0xca, 0xfb, 0x53, 0xea, 0x8e, 0xce, 0x8c, 0x90, 0x6b, 0xa3, 0x68,
      0x17, 0x7d, 0xb1, 0x93, 0x56, 0xdf, 0x45, 0xd1, 0x5b, 0x91, 0x42, 0xa1, 0xcc, 0xda, 0x0f,
      0x71, 0x1d, 0x5a, 0xce, 0x41, 0xef, 0x6f, 0x64, 0x02, 0x94, 0x52, 0xd1, 0x1f, 0x0e, 0x1b,
      0xa8, 0x47, 0x17, 0x9d, 0x81, 0x83, 0x65, 0xb9, 0xa5, 0xc0, 0xe5, 0xae, 0x78, 0x11, 0x1c,
      0xcd, 0xcf, 0xd8, 0x07]
  else if bytes = CardanoCip8SigStructureLedgerType.encode
      ⟨paymentKey.hash.bytes, sampleMessageHash.bytes⟩ then
    Block.ofBytes 64
      [0x97, 0x27, 0xa8, 0x1b, 0x5b, 0xfa, 0xde, 0x38, 0xc6, 0x8a, 0x92, 0x94, 0x2f, 0x05, 0x56,
      0xa9, 0xb3, 0x37, 0x33, 0xc2, 0x9e, 0xe1, 0xe7, 0xf9, 0xf0, 0x4e, 0x9d, 0xa5, 0x3a, 0x72,
      0x3d, 0xa1, 0x48, 0x52, 0xc8, 0xe9, 0xb4, 0x85, 0x70, 0x9e, 0xc5, 0x3a, 0x24, 0xa5, 0x34,
      0x06, 0xb7, 0xab, 0x28, 0xa2, 0x45, 0xd2, 0x82, 0x4d, 0xa7, 0x0e, 0x17, 0x02, 0x17, 0x94,
      0x35, 0x08, 0x9c, 0x0c]
  else Block.zero 64

def Cip8Lib.sample : Cip8Lib DerivationPath DerivationPath where
  toEd25519Lib := .sample (fun _ => none) sampleSignMessage
  blake2b224 bytes := if bytes = sampleMessage then sampleMessageHash else sampleBlake2b224 bytes
  bech32Decode _ := none
  fromCbor _ := none
  fromCbor_eq_some _ _ h := by cases h

def sampleRequest (hashPayload : Bool) : CardanoSignCip8DataRequest where
  requestId := none
  signData := sampleMessage
  derivationPath := some "1852'/1815'/0'/0/0".toList
  hashPayload
  addressBench32 := none
  xpub := paymentKey.pubkey.bytes
  addressType := "KEY_HASH".toList

theorem noCollision_sample (hashPayload : Bool) :
    NoCollision .sample (sampleRequest hashPayload) := by
  intro shown hshown hhash
  cases hshown
  revert hhash
  change Cip8Lib.sample.blake2b224 (utf8 (hexText sampleMessage))
    = Cip8Lib.sample.blake2b224 sampleMessage → utf8 (hexText sampleMessage) = sampleMessage
  decide

theorem signsShown_iff_sample : ∃ result,
    cardanoSignSignCip8Data .sample (sampleRequest false) [] = .ok result
      ∧ (SignsShown .sample (sampleRequest false) [] result
        ↔ Cip8Lib.sample.fromCbor (sampleRequest false).signData = none
          ∧ ((sampleRequest false).hashPayload = true →
            (Cip8Lib.sample.blake2b224 (sampleRequest false).signData).bytes
              = (sampleRequest false).signData)) := by
  obtain ⟨result, hresult⟩ : ∃ result,
      cardanoSignSignCip8Data .sample (sampleRequest false) [] = .ok result :=
    Outcome.exists_of_isOk (by decide)
  exact ⟨result, hresult, signsShown_iff .sample (sampleRequest false) [] result
    (noCollision_sample false) hresult⟩

set_option maxRecDepth 16384 in
/-- With the hash of the message in its place, the message is shown as its own hash. -/
theorem not_signsShown_hash : ¬∀ (XPrv XPub : Type) (lib : Cip8Lib XPrv XPub)
    (request : CardanoSignCip8DataRequest) (icarusMasterKey : XPrv)
    (result : CardanoSignCip8DataSignature), NoCollision lib request →
    cardanoSignSignCip8Data lib request icarusMasterKey = .ok result →
    SignsShown lib request icarusMasterKey result := by
  intro hall
  obtain ⟨result, hresult⟩ : ∃ result,
      cardanoSignSignCip8Data .sample (sampleRequest true) [] = .ok result :=
    Outcome.exists_of_isOk (by decide)
  obtain ⟨shown, data, path, key, hshown, hdata, -, -, -, hpayload⟩ :=
    hall _ _ .sample (sampleRequest true) [] result (noCollision_sample true) hresult
  have hself := (showsPayload_of_none rfl hshown hdata).mp hpayload rfl
  revert hself
  decide

end Keystone3.Cardano
