import Keystone3.Bitcoin.AddressText
import Keystone3.Bitcoin.ParsedTx

/-!
# Transactions in the older protocol

The check derives the address at the path and compares it, for the outputs with the
flag; the amount shown leaves out the outputs with a path. `excluded_checked_iff` says
for which transactions these are the same.
-/

namespace Keystone3.Bitcoin

open Bytes (Block)
open Logic (Outcome)
open Logic.Outcome (bind_eq_ok collect collect_getElem? ok_bind)

def pathParts (hdPath : Text) : List Text := hdPath.splitOn '/'

def debugParts (parts : List Text) : String :=
  "[" ++ String.intercalate ", " (parts.map fun part => "\"" ++ String.ofList part ++ "\"") ++ "]"

def checkHdPath (parts : List Text) : Result Unit :=
  if parts.length ≠ 6 then .error (.signLegacyTxError ("invalid hd_path " ++ debugParts parts))
  else .ok ()

def derivationAddressPath (hdPath : Text) : Result Text := do
  checkHdPath (pathParts hdPath)
  let parts := pathParts hdPath
  pure ('m' :: '/' :: List.intercalate ['/'] (parts.drop (parts.length - 2)))

/-- The steps before them, less the root. -/
def derivationAccountPath (hdPath : Text) : Result Text := do
  checkHdPath (pathParts hdPath)
  let parts := pathParts hdPath
  pure ('m' :: '/' :: List.intercalate ['/'] ((parts.take (parts.length - 2)).drop 1))

def derivePublicKey (lib : BitcoinLib) (xpub path : Text) : Result PublicKey :=
  match lib.convertVersion xpub with
  | .error _ => .error (.addressError "xpub is not valid")
  | .ok convertedXpub =>
    match lib.derivePublicKey convertedXpub path with
    | .error _ => .error (.addressError
        ("failed to derive public key \"" ++ String.ofList xpub ++ "\""))
    | .ok publicKey => .ok publicKey

def addressAtPath (lib : BitcoinLib) (accountPath : Text) (pk : PublicKey) : Result Address :=
  if accountPath = "m/44'/0'/0'".toList then Address.p2pkh lib pk .bitcoin
  else if accountPath = "m/44'/1'/0'".toList then Address.p2pkh lib pk .bitcoinTestnet
  else if accountPath = "m/49'/0'/0'".toList then Address.p2shp2wpkh lib pk .bitcoin
  else if accountPath = "m/49'/1'/0'".toList then Address.p2shp2wpkh lib pk .bitcoinTestnet
  else if accountPath = "m/84'/0'/0'".toList then Address.p2wpkh lib pk .bitcoin
  else if accountPath = "m/84'/1'/0'".toList then Address.p2wpkh lib pk .bitcoinTestnet
  else if accountPath = "m/49'/2'/0'".toList then Address.p2shp2wpkh lib pk .litecoin
  else if accountPath = "m/44'/3'/0'".toList then Address.p2pkh lib pk .dogecoin
  else if accountPath = "m/44'/5'/0'".toList then Address.p2pkh lib pk .dash
  else if accountPath = "m/44'/145'/0'".toList then Address.p2pkh lib pk .bitcoinCash
  else if accountPath = "m/86'/1'/0'".toList then Address.p2trNoScript lib pk .bitcoinTestnet
  else if accountPath = "m/86'/0'/0'".toList then Address.p2trNoScript lib pk .bitcoin
  else .error (.addressError "network is not supported")

/-- The address that `get_address` writes. -/
def derivedAddress (lib : BitcoinLib) (hdPath extendedPubKey : Text) : Result Address := do
  let accountHdPath ← derivationAccountPath hdPath
  let addressHdPath ← derivationAddressPath hdPath
  let publicKey ← derivePublicKey lib extendedPubKey addressHdPath
  addressAtPath lib accountHdPath publicKey

def getAddress (lib : BitcoinLib) (texts : TextLib) (hdPath extendedPubKey : Text) :
    Result Text := do
  let address ← derivedAddress lib hdPath extendedPubKey
  address.display lib texts

def Network.fromStr (network : Text) : Result Network :=
  if network = "BTC".toList then .ok .bitcoin
  else if network = "tBTC".toList then .ok .bitcoinTestnet
  else if network = "LTC".toList then .ok .litecoin
  else if network = "DOGE".toList then .ok .dogecoin
  else if network = "DASH".toList then .ok .dash
  else if network = "BCH".toList then .ok .bitcoinCash
  else if network = "BTC_NATIVE_SEGWIT".toList then .ok .bitcoin
  else if network = "BTC_SEGWIT".toList then .ok .bitcoin
  else if network = "BTC_LEGACY".toList then .ok .bitcoin
  else if network = "AVAX".toList then .ok .avaxBtcBridge
  else .error (.unsupportedNetwork ("\"" ++ String.ofList network ++ "\""))

namespace Legacy

structure TxIn where
  previousOutput : Text
  vout : UInt32
  value : UInt64
  pubkey : Text
  hdPath : Text

structure TxOut where
  value : UInt64
  address : Text
  isChange : Bool
  changeAddressPath : Text

structure TxData where
  inputs : List TxIn
  outputs : List TxOut
  network : Text
  extendedPubkey : Text
  xfp : Text

structure ParseContext where
  masterFingerprint : Fingerprint
  extendedPublicKey : Xpub

namespace TxData

section

variable (lib : BitcoinLib) (texts : TextLib) (toUppercase : Text → Text)

def checkMyInput (input : TxIn) (context : ParseContext) : Result Bool := do
  let addressPath ← derivationAddressPath input.hdPath
  match lib.derivePublicKey (lib.xpubText context.extendedPublicKey) addressPath with
  | .error reason => .error (.keystoreError reason)
  | .ok pubkey => .ok (pubkey.bytes.flatMap hexByte = input.pubkey)

def checkInputs (tx : TxData) (context : ParseContext) : Result Unit :=
  let expected := context.masterFingerprint.bytes.flatMap hexByte
  if tx.inputs.length = 0 then .error .noInputs
  else if toUppercase tx.xfp ≠ toUppercase expected then
    .error (.invalidParseContext ("invalid xfp, expected " ++ String.ofList expected ++ ", got "
      ++ String.ofList tx.xfp))
  else do
    let hasMyInput ← Outcome.foldAll (fun b1 b2 => b1 || b2) (.ok false)
      (tx.inputs.map fun input => checkMyInput lib input context)
    if hasMyInput then .ok () else .error .noMyInputs

def rawAddress (tx : TxData) (address : Text) : Result Text :=
  if tx.network = "BCH".toList ∧ Text.startsWith address ['1'] then do
    let decoded ← Base58Codec.decode lib address
    CashAddrCodec.encode decoded
  else .ok address

def judgeThenCheckMyOutput (tx : TxData) (output : TxOut) : Result Unit :=
  if output.isChange then do
    let rawAddr ← rawAddress lib tx output.address
    let outputAddr ← getAddress lib texts output.changeAddressPath tx.extendedPubkey
    if outputAddr ≠ rawAddr then .error .invalidOutput else .ok ()
  else .ok ()

def checkOutputs (tx : TxData) : Result Unit :=
  if tx.outputs.length = 0 then .error .noOutputs
  else Outcome.foldAll (fun _ _ => ()) (.ok ())
    (tx.outputs.map fun output => judgeThenCheckMyOutput lib texts tx output)

def check (tx : TxData) (context : Sum Bitcoin.ParseContext ParseContext) : Result Unit :=
  match context with
  | .inr context => do
    checkInputs lib toUppercase tx context
    checkOutputs lib texts tx
  | .inl _ => .error (.invalidParseContext "mismatched context")

end

section

variable (lib : BitcoinLib) (texts : TextLib)

def parseRawTxInput (tx : TxData) (input : TxIn) : Result ParsedInput := do
  let address ← Outcome.toOption (derivedAddress lib input.hdPath tx.extendedPubkey)
  let _ ← Network.fromStr tx.network
  pure
    { address := address
      value := input.value
      path := some input.hdPath
      isMultisig := false
      isExternal := false
      signStatus := (0, 1)
      needSign := true
      ecdsaSighashType := 1 }

def parseRawTxOutput (tx : TxData) (output : TxOut) : Result ParsedOutput := do
  let address ← (if output.isChange then rawAddress lib tx output.address
    else .ok output.address)
  let _ ← Network.fromStr tx.network
  pure
    { address := .text address
      value := output.value
      path := some output.changeAddressPath
      isExternal := !output.isChange }

def keep {α : Type} : Result α → Result (Result α)
  | .halted => .halted
  | x => .ok x

def parse (tx : TxData) : Result ParsedTx := do
  let mappedInputs ← keep (collect (parseRawTxInput lib tx) tx.inputs)
  let mappedOutputs ← keep (collect (parseRawTxOutput lib tx) tx.outputs)
  let network ← Network.fromStr tx.network
  let inputs ← mappedInputs
  let outputs ← mappedOutputs
  normalize inputs outputs network.normalize

end

section

variable {lib : BitcoinLib} {texts : TextLib} {toUppercase : Text → Text} {tx : TxData}

/-- The output went through the check: it is marked as change, and it pays the address that is
derived at its path. -/
def Checked (lib : BitcoinLib) (texts : TextLib) (tx : TxData) (output : TxOut) : Prop :=
  output.isChange = true ∧ ∃ address, rawAddress lib tx output.address = .ok address
    ∧ getAddress lib texts output.changeAddressPath tx.extendedPubkey = .ok address

theorem judgeThenCheckMyOutput_eq_ok {output : TxOut} :
    judgeThenCheckMyOutput lib texts tx output = .ok ()
      ↔ (output.isChange = true → Checked lib texts tx output) := by
  unfold judgeThenCheckMyOutput
  split
  · rename_i hchange
    constructor
    · intro h _
      obtain ⟨rawAddr, hraw, h⟩ := bind_eq_ok.mp h
      obtain ⟨outputAddr, haddr, h⟩ := bind_eq_ok.mp h
      split at h
      · cases h
      · rename_i heq
        rw [not_not] at heq
        rw [heq] at haddr
        exact ⟨hchange, rawAddr, hraw, haddr⟩
    · intro h
      obtain ⟨-, address, hraw, haddr⟩ := h hchange
      rw [hraw, ok_bind, haddr, ok_bind, if_neg (not_not.mpr rfl)]
  · rename_i hchange
    exact ⟨fun _ h => absurd h hchange, fun _ => rfl⟩

theorem check_outputs {context : ParseContext}
    (h : tx.check lib texts toUppercase (.inr context) = .ok ()) :
    ∀ output ∈ tx.outputs, output.isChange = true → Checked lib texts tx output := by
  obtain ⟨-, -, h⟩ := bind_eq_ok.mp h
  unfold checkOutputs at h
  split at h
  · cases h
  · obtain ⟨as, has, -⟩ := Outcome.foldAll_eq_ok.mp h
    intro output houtput
    have hmem := List.mem_map_of_mem (f := fun output => judgeThenCheckMyOutput lib texts tx output)
      houtput
    rw [has] at hmem
    obtain ⟨_, -, hok⟩ := List.mem_map.mp hmem
    exact judgeThenCheckMyOutput_eq_ok.mp hok.symm

theorem keep_eq_ok {α : Type} {x y : Result α} (h : keep x = .ok y) : x = y := by
  cases x with
  | ok a => exact Outcome.ok.inj h
  | error e => exact Outcome.ok.inj h
  | halted => cases h

theorem parse_normalize {parsed : ParsedTx} (h : tx.parse lib = .ok parsed) :
    ∃ network, Network.fromStr tx.network = .ok network
      ∧ collect (parseRawTxInput lib tx) tx.inputs = .ok parsed.detail.fromInputs
      ∧ collect (parseRawTxOutput lib tx) tx.outputs = .ok parsed.detail.toOutputs
      ∧ normalize parsed.detail.fromInputs parsed.detail.toOutputs network.normalize
        = .ok parsed := by
  obtain ⟨mappedInputs, hinputs, h⟩ := bind_eq_ok.mp h
  obtain ⟨mappedOutputs, houtputs, h⟩ := bind_eq_ok.mp h
  obtain ⟨network, hnetwork, h⟩ := bind_eq_ok.mp h
  obtain ⟨inputs, hin, h⟩ := bind_eq_ok.mp h
  obtain ⟨outputs, hout, h⟩ := bind_eq_ok.mp h
  rw [hin] at hinputs
  rw [hout] at houtputs
  obtain ⟨hfrom, hto, -⟩ := normalize_eq_ok h
  rw [hfrom, hto]
  exact ⟨network, hnetwork, keep_eq_ok hinputs, keep_eq_ok houtputs, h⟩

theorem counted_eq_false {output : TxOut} {shown : ParsedOutput}
    (h : parseRawTxOutput lib tx output = .ok shown) :
    shown.counted = false ↔ output.changeAddressPath ≠ [] := by
  obtain ⟨address, -, h⟩ := bind_eq_ok.mp h
  obtain ⟨_, -, h⟩ := bind_eq_ok.mp h
  cases h
  show output.changeAddressPath.isEmpty = false ↔ _
  rw [List.isEmpty_eq_false_iff]

/-- **What is left out of the amount shown.** In a transaction that is checked and shown, the
outputs that are left out are those that went through the check, and an output with a path that
did not is counted, exactly if every output with a path has the flag that the check asks for. -/
theorem excluded_checked_iff (lib : BitcoinLib) (texts : TextLib) (toUppercase : Text → Text)
    {tx : TxData} {context : ParseContext} {parsed : ParsedTx}
    (hcheck : tx.check lib texts toUppercase (.inr context) = .ok ())
    (hparse : tx.parse lib = .ok parsed) :
    parsed.overview.totalOutputAmount = overviewAmount parsed.detail.toOutputs
    ∧ ((∀ (i : Nat) (output : TxOut) (shown : ParsedOutput), tx.outputs[i]? = some output →
          parsed.detail.toOutputs[i]? = some shown →
          (shown.counted = false → Checked lib texts tx output)
          ∧ (output.changeAddressPath ≠ [] → ¬Checked lib texts tx output → shown.counted = true))
      ↔ ∀ output ∈ tx.outputs, output.changeAddressPath ≠ [] → output.isChange = true) := by
  obtain ⟨network, -, -, houtputs, hnormalize⟩ := parse_normalize hparse
  have hchecked := check_outputs hcheck
  refine ⟨(normalize_eq_ok hnormalize).2.2, ?_⟩
  constructor
  · intro h output houtput hpath
    obtain ⟨i, hi⟩ := List.getElem?_of_mem houtput
    obtain ⟨shown, hshown, hread⟩ := collect_getElem? houtputs hi
    exact ((h i output shown hi hshown).1 ((counted_eq_false hread).mpr hpath)).1
  · intro h i output shown hi hshown
    obtain ⟨shown', hshown', hread⟩ := collect_getElem? houtputs hi
    rw [hshown] at hshown'
    cases hshown'
    have hmem : output ∈ tx.outputs := List.mem_of_getElem? hi
    have hexcluded : shown.counted = false → Checked lib texts tx output := by
      intro hcounted
      exact hchecked output hmem (h output hmem ((counted_eq_false hread).mp hcounted))
    refine ⟨hexcluded, fun _ hnot => ?_⟩
    by_contra hcounted
    exact hnot (hexcluded (Bool.eq_false_of_not_eq_true hcounted))

end

def accountXpub : Text :=
  ['x', 'p', 'u', 'b', '6', 'B', 'o', 's', 'f', 'C', 'n', 'i', 'f', 'z', 'x', 'c', 'F', 'w', 'r',
   'S', 'z', 'Q', 'i', 'q', 'u', '2', 'D', 'B', 'V', 'T', 's', 'h', 'k', 'C', 'X', 'a', 'c', 'v',
   'N', 's', 'W', 'G', 'Y', 'J', 'V', 'V', 'h', 'h', 'a', 'w', 'A', '7', 'd', '4', 'R', '5', 'W',
   'S', 'W', 'G', 'F', 'N', 'b', 'i', '8', 'A', 'w', '6', 'Z', 'R', 'c', '1', 'b', 'r', 'x', 'M',
   'y', 'W', 'M', 'z', 'G', '3', 'D', 'S', 'S', 'S', 'S', 'o', 'e', 'k', 'k', 'u', 'd', 'h', 'U',
   'd', '9', 'y', 'L', 'b', '6', 'q', 'x', '3', '9', 'T', '9', 'n', 'M', 'd', 'j']

def receiveKey : PublicKey := Block.ofBytes 33
  [3, 170, 235, 82, 221, 116, 148, 195, 97, 4, 157, 230, 124, 198, 128, 232, 62, 188, 187, 189,
   190, 177, 54, 55, 217, 44, 216, 69, 247, 3, 8, 175, 94]

def changeKey : PublicKey := Block.ofBytes 33
  [3, 73, 139, 58, 200, 232, 130, 197, 214, 147, 84, 12, 73, 173, 242, 43, 122, 27, 153, 193, 187,
   128, 71, 150, 103, 57, 191, 232, 205, 235, 39, 46, 100]

def changeHash : List UInt8 :=
  [186, 233, 60, 142, 127, 182, 130, 66, 45, 36, 120, 11, 26, 18, 165, 80, 239, 244, 40, 242]

def changeDigest : List UInt8 :=
  [213, 91, 178, 184, 222, 252, 166, 67, 129, 153, 8, 229, 182, 207, 31, 15, 168, 6, 180, 0, 132,
   208, 101, 243, 20, 72, 218, 78, 158, 98, 217, 227]

def accountSha256 (data : List UInt8) : Block 32 :=
  Block.ofBytes 32 (
    if data = pubkeyAddressPrefixBtc :: changeHash then changeDigest
    else if data = changeDigest then
      [8, 87, 40, 174, 220, 119, 247, 35, 198, 168, 65, 88, 13, 23, 161, 110, 249, 106, 10, 187,
       156, 254, 75, 24, 226, 182, 46, 190, 105, 140, 250, 130]
    else [])

def accountLib : BitcoinLib :=
  { BitcoinLib.sample with
    sha256 := accountSha256
    xpubText := fun _ => accountXpub
    derivePublicKey := fun xpub path =>
      if xpub ≠ accountXpub then .error "unknown"
      else if path = ['m', '/', '0', '/', '0'] then .ok receiveKey
      else if path = ['m', '/', '1', '/', '0'] then .ok changeKey
      else .error "unknown"
    pubkeyHash := fun pk => Block.ofBytes 20 (
      if pk = changeKey then changeHash
      else if pk = receiveKey then
        [217, 134, 237, 1, 183, 162, 34, 37, 167, 14, 219, 242, 186, 124, 251, 99, 161, 92, 179,
         170]
      else []) }

def accountTexts : TextLib :=
  { Address.zerosTexts with
    encodeCheck := fun data =>
      base58Text (data ++ (accountSha256 (accountSha256 data).bytes).bytes.take 4) }

def accountContext : ParseContext where
  masterFingerprint := Block.ofBytes 4 [0x52, 0x74, 0x47, 0x03]
  extendedPublicKey := ⟨.main, []⟩

/-- The address at `changePath`. -/
def changeAddress : Text :=
  ['1', 'J', '3', 'J', '6', 'E', 'v', 'P', 'r', 'v', '8', 'q', '6', 'A', 'C', '3', 'V', 'C', 'j',
   'W', 'V', '4', '5', 'U', 'f', '3', 'n', 's', 's', 'N', 'M', 'R', 't', 'H']

def receivePath : Text := "M/44'/0'/0'/0/0".toList

def changePath : Text := "M/44'/0'/0'/1/0".toList

def payment (path : Text) : TxData where
  inputs := [⟨[], 0, 5000, receiveKey.bytes.flatMap hexByte, receivePath⟩]
  outputs := [⟨900, Address.zerosAddress, false, path⟩, ⟨4000, changeAddress, true, changePath⟩]
  network := "BTC".toList
  extendedPubkey := accountXpub
  xfp := "52744703".toList

theorem check_payment :
    (payment []).check accountLib accountTexts Text.toUppercase (.inr accountContext) = .ok ()
      ∧ (payment changePath).check accountLib accountTexts Text.toUppercase (.inr accountContext)
        = .ok () := by
  decide

def paymentParsed (path : Text) : Option ParsedTx :=
  match (payment path).parse accountLib with
  | .ok parsed => some parsed
  | _ => none

theorem parse_payment {path : Text} (h : (paymentParsed path).isSome = true) :
    ∃ parsed, (payment path).parse accountLib = .ok parsed := by
  unfold paymentParsed at h
  split at h
  · rename_i parsed hparsed
    exact ⟨parsed, hparsed⟩
  · cases h

/-- The payment without a path: the change is left out, and it was checked. -/
theorem excluded_checked_payment : ∃ parsed, (payment []).parse accountLib = .ok parsed
    ∧ parsed.overview.totalOutputAmount = overviewAmount parsed.detail.toOutputs
    ∧ ∀ (i : Nat) (output : TxOut) (shown : ParsedOutput), (payment []).outputs[i]? = some output →
        parsed.detail.toOutputs[i]? = some shown →
        (shown.counted = false → Checked accountLib accountTexts (payment []) output)
        ∧ (output.changeAddressPath ≠ [] → ¬Checked accountLib accountTexts (payment []) output →
          shown.counted = true) := by
  obtain ⟨parsed, hparsed⟩ := @parse_payment [] (by decide)
  obtain ⟨htotal, hiff⟩ := excluded_checked_iff accountLib accountTexts Text.toUppercase
    check_payment.1 hparsed
  refine ⟨parsed, hparsed, htotal, hiff.mpr ?_⟩
  intro output houtput hpath
  rcases List.mem_cons.mp houtput with rfl | houtput
  · exact absurd rfl hpath
  · rw [List.mem_singleton.mp houtput]

/-- The payment with the path of change: it is left out, and nobody looked at it. -/
theorem excluded_not_checked : ¬∀ (lib : BitcoinLib) (texts : TextLib) (toUppercase : Text → Text)
    (tx : TxData) (context : ParseContext) (parsed : ParsedTx),
    tx.check lib texts toUppercase (.inr context) = .ok () → tx.parse lib = .ok parsed →
    ∀ (i : Nat) (output : TxOut) (shown : ParsedOutput), tx.outputs[i]? = some output →
      parsed.detail.toOutputs[i]? = some shown → shown.counted = false →
      Checked lib texts tx output := by
  intro claim
  obtain ⟨parsed, hparsed⟩ := @parse_payment changePath (by decide)
  obtain ⟨-, -, -, houtputs, -⟩ := parse_normalize hparsed
  have hfirst : (payment changePath).outputs[0]?
      = some ⟨900, Address.zerosAddress, false, changePath⟩ := rfl
  obtain ⟨shown, hshown, hread⟩ := collect_getElem? houtputs hfirst
  have hcounted : shown.counted = false := (counted_eq_false hread).mpr (by decide)
  have hchecked := claim accountLib accountTexts Text.toUppercase (payment changePath)
    accountContext parsed check_payment.2 hparsed 0 _ shown hfirst hshown hcounted
  cases hchecked.1

end TxData

end Legacy

end Keystone3.Bitcoin
