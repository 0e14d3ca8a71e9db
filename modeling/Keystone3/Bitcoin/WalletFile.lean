import Keystone3.Bitcoin.AddressText
import Keystone3.Bytes.Lines
import Keystone3.Bytes.Numeral

/-!
# The file of a multisig wallet

A key is written with the prefix that goes with its path, and read with any of them:
what it says does not change (`convertVersion_converted`), but the prefixes of a test
network are recognised by their letters (`detectNetwork_converted`).
-/

namespace Keystone3.Bitcoin

open Bytes (Block trim lines splitText parseUnsigned)
open Logic (Outcome)

inductive Version where
  | xpub
  | tpub
  | ypubMultisig
  | zpubMultisig
  | upubMultisig
  | vpubMultisig

def Version.bytes : Version → List UInt8
  | .xpub => [0x04, 0x88, 0xB2, 0x1E]
  | .tpub => [0x04, 0x35, 0x87, 0xCF]
  | .ypubMultisig => [0x02, 0x95, 0xB4, 0x3F]
  | .zpubMultisig => [0x02, 0xAA, 0x7E, 0xD3]
  | .upubMultisig => [0x02, 0x42, 0x89, 0xEF]
  | .vpubMultisig => [0x02, 0x57, 0x54, 0x83]

structure KeyLib where
  /-- `base58::encode_check`. -/
  encodeCheck : List UInt8 → Text
  /-- `base58::decode_check`. -/
  decodeCheck : Text → Except String (List UInt8)
  /-- `Xpub::from_str` returns a key. -/
  isXpub : Text → Bool
  sha256 : List UInt8 → Block 32

structure KeyLib.Lawful (keys : KeyLib) : Prop where
  /-- The data and four bytes of a double hash, in base 58. -/
  encodeCheck_eq : ∀ data, keys.encodeCheck data
    = base58Text (data ++ (keys.sha256 (keys.sha256 data).bytes).bytes.take 4)
  decodeCheck_encodeCheck : ∀ data, keys.decodeCheck (keys.encodeCheck data) = .ok data
  /-- An extended key has 78 bytes. -/
  length_of_isXpub : ∀ data, keys.isXpub (keys.encodeCheck data) = true → data.length = 78

def convertVersion (keys : KeyLib) (s : Text) (target : Version) : Result Text :=
  match keys.decodeCheck s with
  | .error reason => .error (.base58Error reason)
  | .ok bytes =>
    if bytes.length < 4 then .error (.base58Error (toString bytes.length))
    else .ok (keys.encodeCheck (target.bytes ++ bytes.drop 4))

def multiP2shPath : Text := ['m', '/', '4', '5', '\'']

def multiP2wshPathOf (coin script : Char) : Text :=
  ['m', '/', '4', '8', '\'', '/', coin, '\'', '/', '0', '\'', '/', script, '\'']

def multiP2wshP2shPath : Text := multiP2wshPathOf '0' '1'

def multiP2wshP2shPathTest : Text := multiP2wshPathOf '1' '1'

def multiP2wshPath : Text := multiP2wshPathOf '0' '2'

def multiP2wshPathTest : Text := multiP2wshPathOf '1' '2'

def versionOf (path : Text) (network : MultiSigNetwork) : Version :=
  if path.startsWith multiP2shPath then (if network = .mainNet then .xpub else .tpub)
  else if path.startsWith multiP2wshP2shPath then .ypubMultisig
  else if path.startsWith multiP2wshP2shPathTest then .upubMultisig
  else if path.startsWith multiP2wshPath then .zpubMultisig
  else if path.startsWith multiP2wshPathTest then .vpubMultisig
  else if network = .mainNet then .xpub else .tpub

def convertXpub (keys : KeyLib) (path xpub : Text) (network : MultiSigNetwork) : Result Text :=
  convertVersion keys xpub (versionOf path network)

def isValidXyzpub (keys : KeyLib) (xpub : Text) : Bool :=
  match convertVersion keys xpub .xpub with
  | .ok xpub => keys.isXpub xpub
  | _ => false

def isHexDigit (c : Char) : Bool := (Bytes.hexValue c).isSome

def isValidXfp (xfp : Text) : Bool := (xfp.map Char.utf8Size).sum = 8 && xfp.all isHexDigit

def detectNetwork (xpub : Text) : MultiSigNetwork :=
  if xpub.startsWith ['t', 'p', 'u', 'b'] ∨ xpub.startsWith ['U', 'p', 'u', 'b']
      ∨ xpub.startsWith ['V', 'p', 'u', 'b'] then .testNet
  else .mainNet

structure MultiSigWalletFile extends MultiSigWalletConfig where
  creator : Text
  name : Text
  verifyCode : Text
  verifyWithoutMfp : Text
  configText : Text

namespace MultiSigWalletFile

def empty : MultiSigWalletFile where
  threshold := 0
  total := 0
  derivations := []
  format := []
  xpubItems := []
  network := .mainNet
  creator := []
  name := []
  verifyCode := []
  verifyWithoutMfp := []
  configText := []

end MultiSigWalletFile

/-- The first argument is the total here; `create_wallet` passes the threshold. -/
def isValidMultiSigPolicy (total threshold : UInt32) : Bool :=
  total ≤ 15 && total ≥ 2 && threshold ≤ total || threshold ≥ 1

def verifyWalletConfig (wallet : MultiSigWalletFile) (xfp : Text) : Result Unit :=
  if wallet.xpubItems = [] then
    .error (.multiSigWalletParseError "have no xpub in config file")
  else if wallet.total ≠ UInt32.ofNat wallet.xpubItems.length then
    .error (.multiSigWalletParseError ("multisig wallet requires " ++ toString wallet.total
      ++ " cosigners, but found " ++ toString wallet.xpubItems.length))
  else if ¬wallet.xpubItems.any (fun item => Text.eqIgnoreAsciiCase item.xfp xfp) then
    .error .multiSigWalletNotMyWallet
  else if wallet.derivations.length ≠ 1
      ∧ wallet.derivations.length ≠ wallet.xpubItems.length then
    .error (.multiSigWalletParseError "num of derivations is not right")
  else .ok ()

section

variable (keys : KeyLib)

/-- `calculate_multi_sig_verify_code`, with a fingerprint in front or without one. -/
def multiSigVerifyCode (xpubs : List Text) (threshold total : UInt8) (format : MultiSigFormat)
    (network : MultiSigNetwork) (xfp : Option Text) : Result Text := do
  let converted ← Outcome.collect (fun x => convertVersion keys x .xpub) xpubs
  let joinXpubs := List.intercalate [' '] (converted.insertionSort (· ≤ ·))
  let data := xfp.getD [] ++ joinXpubs ++ Nat.toDigits 10 threshold.toNat ++ ['o', 'f']
    ++ Nat.toDigits 10 total.toNat ++ multiPath format network
  pure (((keys.sha256 (data.flatMap String.utf8EncodeChar)).bytes.flatMap hexByte).take 8)

def calculateWalletVerifyCode (wallet : MultiSigWalletFile) (xfp : Text) :
    Result MultiSigWalletFile := do
  let xpubs := wallet.xpubItems.map (·.xpub)
  let format ← MultiSigFormat.ofText wallet.format
  let verifyWithoutMfp ← multiSigVerifyCode keys xpubs wallet.threshold.toUInt8
    wallet.total.toUInt8 format wallet.network none
  let verifyCode ← multiSigVerifyCode keys xpubs wallet.threshold.toUInt8 wallet.total.toUInt8
    format wallet.network (some xfp)
  pure { wallet with verifyWithoutMfp, verifyCode }

def nameLabel : Text := ['N', 'a', 'm', 'e']

def policyLabel : Text := ['P', 'o', 'l', 'i', 'c', 'y']

def formatLabel : Text := ['F', 'o', 'r', 'm', 'a', 't']

def derivationLabel : Text := ['D', 'e', 'r', 'i', 'v', 'a', 't', 'i', 'o', 'n']

def policySeparator : Text := [' ', 'o', 'f', ' ']

def labelled (label value : Text) : Text := label ++ ':' :: ' ' :: value

def titleLine (creator xfp : Text) : Text :=
  '#' :: ' ' :: creator ++ " Multisig setup file (created on ".toList ++ xfp ++ [')']

def policyText (threshold total : UInt32) : Text :=
  Nat.toDigits 10 threshold.toNat ++ policySeparator ++ Nat.toDigits 10 total.toNat

def xpubLine (network : MultiSigNetwork) (derivation : Text) (item : MultiSigXPubItem) :
    Result Text := do
  let xpub ← convertXpub keys derivation item.xpub network
  pure (labelled item.xfp xpub)

def derivedLines (network : MultiSigNetwork) (derivations : List Text) :
    List (MultiSigXPubItem × Nat) → Result Text
  | [] => pure []
  | (item, index) :: items => do
    let derivation ← Outcome.index derivations index
    let line ← xpubLine keys network derivation item
    let rest ← derivedLines network derivations items
    pure ('\n' :: labelled derivationLabel derivation ++ '\n' :: line ++ rest)

def generateConfigData (config : MultiSigWalletFile) (xfp : Text) : Result Text := do
  let head := titleLine config.creator xfp ++ '\n' :: '#' :: '\n' :: labelled nameLabel config.name
    ++ '\n' :: labelled policyLabel (policyText config.threshold config.total) ++ ['\n']
  match config.derivations with
  | [derivation] => do
    let xpubItems ← Outcome.collect (xpubLine keys config.network derivation) config.xpubItems
    pure (head ++ labelled derivationLabel derivation ++ '\n' :: labelled formatLabel config.format
      ++ '\n' :: '\n' :: List.intercalate ['\n'] xpubItems)
  | derivations => do
    let xpubItems ← derivedLines keys config.network derivations config.xpubItems.zipIdx
    pure (head ++ labelled formatLabel config.format ++ '\n' :: xpubItems)

/-- The fields of a cosigner are its path and its item. -/
def createWallet (creator name : Text) (threshold total : UInt32) (format : Text)
    (xpubInfos : List (Text × MultiSigXPubItem)) (network : MultiSigNetwork) (xfp : Text) :
    Result MultiSigWalletFile := do
  if ¬isValidMultiSigPolicy threshold total then
    .error (.multiSigWalletCrateError "not a valid policy")
  else do
    let first ← Outcome.index xpubInfos 0
    let derivations := if xpubInfos.all fun x => x.1 = first.1 then [first.1]
      else xpubInfos.map (·.1)
    let wallet := { MultiSigWalletFile.empty with
      network, derivations, xpubItems := xpubInfos.map (·.2), creator, total, threshold, format, name }
    let _ ← verifyWalletConfig wallet xfp
    let configText ← generateConfigData keys wallet xfp
    calculateWalletVerifyCode keys { wallet with configText } xfp

def contains (s sub : Text) : Bool := s.tails.any fun t => sub.isPrefixOf t

def readComment (wallet : MultiSigWalletFile) (line : Text) : MultiSigWalletFile :=
  if contains line "Coldcard".toList then { wallet with creator := "Coldcard".toList }
  else if contains line "Keystone".toList then { wallet with creator := "Keystone".toList }
  else wallet

def parseAndSetPolicy (wallet : MultiSigWalletFile) (value : Text) : Result MultiSigWalletFile :=
  match splitText policySeparator value with
  | [threshold, total] => do
    let threshold ← Outcome.okOr (.multiSigWalletParseError "parse threshold error")
      (parseUnsigned (2 ^ 32) threshold)
    let total ← Outcome.okOr (.multiSigWalletParseError "parse total error")
      (parseUnsigned (2 ^ 32) total)
    if isValidMultiSigPolicy (UInt32.ofNat total) (UInt32.ofNat threshold) then
      pure { wallet with threshold := UInt32.ofNat threshold, total := UInt32.ofNat total }
    else .error (.multiSigWalletParseError "this is not a valid policy")
  | _ => pure wallet

def checkDuplicated (value : Text) : List MultiSigXPubItem → Result Unit
  | [] => pure ()
  | item :: items => do
    let result1 ← convertVersion keys item.xpub .xpub
    let result2 ← convertVersion keys value .xpub
    if Text.eqIgnoreAsciiCase result1 result2 then
      .error (.multiSigWalletParseError "found duplicated xpub")
    else checkDuplicated value items

def processXpubAndXfp (wallet : MultiSigWalletFile) (label value : Text) :
    Result MultiSigWalletFile :=
  if isValidXfp label then
    if isValidXyzpub keys value then do
      let _ ← checkDuplicated keys value wallet.xpubItems
      pure { wallet with xpubItems := wallet.xpubItems ++ [⟨label, value⟩] }
    else .error (.multiSigWalletParseError "this is not a valid xpub")
  else .error (.multiSigWalletParseError "this is not a valid xfp")

/-- `h` is written for a hardened step, too. -/
def hardened (value : Text) : Text := value.map fun c => if c = 'h' then '\'' else c

def readLabelled (wallet : MultiSigWalletFile) (label value : Text) : Result MultiSigWalletFile :=
  if label = nameLabel then pure { wallet with name := value }
  else if label = policyLabel then parseAndSetPolicy wallet value
  else if label = formatLabel then pure { wallet with format := value }
  else if label = derivationLabel then
    pure { wallet with derivations := wallet.derivations ++ [hardened value] }
  else processXpubAndXfp keys wallet label value

def readLine (wallet : MultiSigWalletFile) (line : Text) : Result MultiSigWalletFile :=
  if Text.startsWith (trim line) ['#'] then pure (readComment wallet line)
  else match line.splitOn ':' with
    | [label, value] => readLabelled keys wallet (trim label) (trim value)
    | _ => pure wallet

def readLines : MultiSigWalletFile → List Text → Result MultiSigWalletFile
  | wallet, [] => pure wallet
  | wallet, line :: lines => do
    let wallet ← readLine keys wallet line
    readLines wallet lines

def checkNetworks : Bool → MultiSigNetwork → List MultiSigXPubItem → Result MultiSigNetwork
  | _, network, [] => pure network
  | isFirst, network, item :: items =>
    let thisNetwork := detectNetwork item.xpub
    if thisNetwork = .testNet then
      .error (.multiSigWalletParseError "we don't support testnet for multisig yet")
    else if isFirst then checkNetworks false thisNetwork items
    else if network ≠ thisNetwork then
      .error (.multiSigWalletParseError "xpub networks inconsistent")
    else checkNetworks false network items

def parsePlainWalletConfig (content : Text) : Result MultiSigWalletFile := do
  let wallet ← readLines keys .empty (lines content)
  let network ← checkNetworks true wallet.network wallet.xpubItems
  pure { wallet with network, configText := content }

def parseWalletConfig (content xfp : Text) : Result MultiSigWalletFile := do
  let wallet ← parsePlainWalletConfig keys content
  let _ ← verifyWalletConfig wallet xfp
  calculateWalletVerifyCode keys wallet xfp

end

section

variable {keys : KeyLib}

theorem length_versionBytes (v : Version) : v.bytes.length = 4 := by
  cases v with
  | xpub => rfl
  | tpub => rfl
  | ypubMultisig => rfl
  | zpubMultisig => rfl
  | upubMultisig => rfl
  | vpubMultisig => rfl

theorem convertVersion_eq_ok {s : Text} {target : Version} {xpub : Text} :
    convertVersion keys s target = .ok xpub ↔ ∃ bytes, keys.decodeCheck s = .ok bytes
      ∧ 4 ≤ bytes.length ∧ xpub = keys.encodeCheck (target.bytes ++ bytes.drop 4) := by
  unfold convertVersion
  cases keys.decodeCheck s with
  | error reason =>
    constructor
    · nofun
    · intro h
      obtain ⟨bytes, hbytes, -⟩ := h
      cases hbytes
  | ok bytes =>
    dsimp only
    by_cases hlen : bytes.length < 4
    · rw [if_pos hlen]
      constructor
      · nofun
      · intro h
        obtain ⟨bytes', hbytes, hlen', -⟩ := h
        cases hbytes
        omega
    · rw [if_neg hlen]
      constructor
      · intro h
        cases h
        exact ⟨bytes, rfl, by omega, rfl⟩
      · intro h
        obtain ⟨bytes', hbytes, -, rfl⟩ := h
        cases hbytes
        rfl

theorem convertVersion_encodeCheck (hkeys : keys.Lawful) (v target : Version)
    (rest : List UInt8) : convertVersion keys (keys.encodeCheck (v.bytes ++ rest)) target
      = .ok (keys.encodeCheck (target.bytes ++ rest)) := by
  have hlong : ¬(v.bytes ++ rest).length < 4 := by
    rw [List.length_append, length_versionBytes]
    omega
  rw [convertVersion, hkeys.decodeCheck_encodeCheck]
  dsimp only
  rw [if_neg hlong, ← length_versionBytes v, List.drop_left]

theorem convertVersion_converted (hkeys : keys.Lawful) {s xpub : Text} {v : Version}
    (h : convertVersion keys s v = .ok xpub) (target : Version) :
    convertVersion keys xpub target = convertVersion keys s target := by
  obtain ⟨bytes, hbytes, hlen, rfl⟩ := convertVersion_eq_ok.mp h
  rw [convertVersion_encodeCheck hkeys, convertVersion, hbytes]
  dsimp only
  rw [if_neg (by omega)]

theorem isValidXyzpub_iff {xpub : Text} : isValidXyzpub keys xpub = true
    ↔ ∃ converted, convertVersion keys xpub .xpub = .ok converted
      ∧ keys.isXpub converted = true := by
  unfold isValidXyzpub
  cases convertVersion keys xpub .xpub with
  | ok converted =>
    constructor
    · intro h
      exact ⟨converted, rfl, h⟩
    · intro h
      obtain ⟨converted', heq, h⟩ := h
      cases heq
      exact h
  | error e =>
    constructor
    · nofun
    · intro h
      obtain ⟨converted, heq, -⟩ := h
      cases heq
  | halted =>
    constructor
    · nofun
    · intro h
      obtain ⟨converted, heq, -⟩ := h
      cases heq

def Version.letters : Version → Text
  | .xpub => ['x', 'p', 'u', 'b']
  | .tpub => ['t', 'p', 'u', 'b']
  | .ypubMultisig => ['Y', 'p', 'u', 'b']
  | .zpubMultisig => ['Z', 'p', 'u', 'b']
  | .upubMultisig => ['U', 'p', 'u', 'b']
  | .vpubMultisig => ['V', 'p', 'u', 'b']

def Version.leading : Version → Nat
  | .xpub => 10892318
  | .tpub => 10111870
  | .ypubMultisig => 6209630
  | .zpubMultisig => 6404742
  | .upubMultisig => 5429182
  | .vpubMultisig => 5624294

theorem base58Of_leading (v : Version) : base58Of (Bytes.digits 58 4 v.leading) = v.letters := by
  cases v <;> decide

theorem encodeCheck_leading (hkeys : keys.Lawful) (v : Version) {rest : List UInt8}
    (hlength : rest.length = 74) : ∃ tail, keys.encodeCheck (v.bytes ++ rest)
      = v.letters ++ tail := by
  rw [← base58Of_leading, hkeys.encodeCheck_eq, List.append_assoc]
  generalize hall : rest ++ (keys.sha256 (keys.sha256 (v.bytes ++ rest)).bytes).bytes.take 4 = all
  have hlen : (all.map UInt8.toNat).length = 78 := by
    rw [List.length_map, ← hall, List.length_append, List.length_take, Block.size_eq, hlength]
    rfl
  have hrest : Bytes.value 256 (all.map UInt8.toNat) < 256 ^ 78 := by
    have h := Bytes.value_lt (by decide : 1 < 256) (@toNat_lt_of_mem all)
    rwa [hlen] at h
  have hvalue : valueOf 8 (v.bytes ++ all)
      = Bytes.value 256 (v.bytes.map UInt8.toNat) * 256 ^ 78
        + Bytes.value 256 (all.map UInt8.toNat) := by
    rw [valueOf, show 2 ^ 8 = 256 from rfl, List.map_append, Bytes.value_append, hlen]
  have hbounds : v.leading * 58 ^ 107 ≤ Bytes.value 256 (v.bytes.map UInt8.toNat) * 256 ^ 78
      ∧ (Bytes.value 256 (v.bytes.map UInt8.toNat) + 1) * 256 ^ 78 ≤ (v.leading + 1) * 58 ^ 107
      ∧ 58 ^ 3 ≤ v.leading ∧ v.leading < 58 ^ 4 := by
    cases v <;> decide
  have hfirst : ∃ b tail, b ≠ 0 ∧ v.bytes ++ all = b :: tail := by
    cases v <;> exact ⟨_, _, by decide, rfl⟩
  obtain ⟨b, tail, hb, hcons⟩ := hfirst
  obtain ⟨hlow, hhigh, hp, hp'⟩ := hbounds
  have hlow' : v.leading * 58 ^ 107 ≤ valueOf 8 (v.bytes ++ all) := by
    rw [hvalue]
    exact le_trans hlow (Nat.le_add_right _ _)
  have hhigh' : valueOf 8 (v.bytes ++ all) < (v.leading + 1) * 58 ^ 107 := by
    rw [hvalue]
    refine lt_of_lt_of_le ?_ hhigh
    rw [Nat.add_mul, Nat.one_mul]
    exact Nat.add_lt_add_left hrest _
  exact base58Text_first hb hcons hp hp' hlow' hhigh'

theorem detectNetwork_converted (hkeys : keys.Lawful) {s xpub : Text} {v : Version}
    (h : convertVersion keys s v = .ok xpub) (hvalid : isValidXyzpub keys s = true) :
    detectNetwork xpub = .mainNet ↔ v = .xpub ∨ v = .ypubMultisig ∨ v = .zpubMultisig := by
  obtain ⟨bytes, hbytes, hlen, rfl⟩ := convertVersion_eq_ok.mp h
  obtain ⟨converted, hconverted, hxpub⟩ := isValidXyzpub_iff.mp hvalid
  obtain ⟨bytes', hbytes', -, rfl⟩ := convertVersion_eq_ok.mp hconverted
  rw [hbytes] at hbytes'
  cases hbytes'
  have hall := hkeys.length_of_isXpub _ hxpub
  rw [List.length_append, length_versionBytes] at hall
  obtain ⟨tail, htail⟩ := encodeCheck_leading hkeys v (show (bytes.drop 4).length = 74 by omega)
  rw [htail]
  cases v with
  | xpub => simp [detectNetwork, Text.startsWith, Version.letters, List.isPrefixOf]
  | tpub => simp [detectNetwork, Text.startsWith, Version.letters, List.isPrefixOf]
  | ypubMultisig => simp [detectNetwork, Text.startsWith, Version.letters, List.isPrefixOf]
  | zpubMultisig => simp [detectNetwork, Text.startsWith, Version.letters, List.isPrefixOf]
  | upubMultisig => simp [detectNetwork, Text.startsWith, Version.letters, List.isPrefixOf]
  | vpubMultisig => simp [detectNetwork, Text.startsWith, Version.letters, List.isPrefixOf]

end

end Keystone3.Bitcoin
