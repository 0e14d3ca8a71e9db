import Mathlib.Data.Char
import Mathlib.Data.List.Lex
import Keystone3.Bitcoin.Psbt

/-!
# Addresses

The networks, the addresses of one key and of several, and the code by which a
multisig wallet is recognised. The text of an address, and that of an extended
key with another prefix, are the library's.
-/

namespace Keystone3.Bitcoin

open Logic (Outcome)

namespace Text

def startsWith (s parent : Text) : Bool := parent.isPrefixOf s

def stripPrefix (s parent : Text) : Option Text :=
  if s.startsWith parent then some (s.drop parent.length) else none

def toUppercase (s : Text) : Text := s.map Char.toUpper

def eqIgnoreAsciiCase (s t : Text) : Bool := s.map Char.toLower = t.map Char.toLower

def joinSorted (texts : List Text) : Text := (texts.insertionSort (· ≤ ·)).flatten

end Text

inductive Network where
  | bitcoin
  | bitcoinTestnet
  | litecoin
  | dogecoin
  | dash
  | bitcoinCash
  | avaxBtcBridge
deriving DecidableEq

def Network.debugText : Network → String
  | .bitcoin => "Bitcoin"
  | .bitcoinTestnet => "BitcoinTestnet"
  | .litecoin => "Litecoin"
  | .dogecoin => "Dogecoin"
  | .dash => "Dash"
  | .bitcoinCash => "BitcoinCash"
  | .avaxBtcBridge => "AvaxBtcBridge"

def Network.normalize : Network → String
  | .bitcoin => "Bitcoin Mainnet"
  | .bitcoinTestnet => "Bitcoin Testnet"
  | .litecoin => "Litecoin"
  | .dogecoin => "Dogecoin"
  | .dash => "Dash"
  | .bitcoinCash => "Bitcoin Cash"
  | .avaxBtcBridge => "Avalanche BTC"

/-- The networks that a PSBT asks for in an entry of its own. -/
inductive CustomNewNetwork where
  | fractalBitcoin
  | fractalBitcoinTest

def CustomNewNetwork.normalize : CustomNewNetwork → String
  | .fractalBitcoin => "Fractal Bitcoin"
  | .fractalBitcoinTest => "Fractal Bitcoin Testnet"

/-- `TryFrom<&network::Network>`. -/
def MultiSigNetwork.ofNetwork : Network → Result MultiSigNetwork
  | .bitcoin => .ok .mainNet
  | .bitcoinTestnet => .ok .testNet
  | _ => .error (.multiSigNetworkError "not support network")

inductive Payload where
  | p2pkh (pubkeyHash : List UInt8)
  | p2sh (scriptHash : List UInt8)
  | segwit (version : UInt8) (program : List UInt8)
deriving DecidableEq

structure Address where
  payload : Payload
  network : Network
deriving DecidableEq

namespace Address

def on (allowed : List Network) (reason : String) (payload : Payload) (network : Network) :
    Result Address :=
  if network ∈ allowed then .ok ⟨payload, network⟩ else .error (.addressError reason)

def p2pkh (lib : BitcoinLib) (pk : PublicKey) (network : Network) : Result Address :=
  on [.bitcoin, .bitcoinTestnet, .litecoin, .dogecoin, .bitcoinCash, .dash]
    ("Invalid network for p2pkh " ++ network.debugText) (.p2pkh (lib.pubkeyHash pk).bytes) network

def p2wpkh (lib : BitcoinLib) (pk : PublicKey) (network : Network) : Result Address :=
  on [.bitcoin, .bitcoinTestnet, .avaxBtcBridge]
    ("Invalid network for p2wpkh " ++ network.debugText) (.segwit 0 (lib.pubkeyHash pk).bytes)
    network

def p2tr (lib : BitcoinLib) (key : XOnlyPublicKey) (merkleRoot : Option TapNodeHash)
    (network : Network) : Result Address :=
  on [.bitcoin, .bitcoinTestnet] ("Invalid network for p2tr " ++ network.debugText)
    (.segwit 1 (lib.p2trProgram key merkleRoot).bytes) network

def p2trNoScript (lib : BitcoinLib) (pk : PublicKey) (network : Network) : Result Address :=
  p2tr lib (lib.xOnly pk) none network

def p2shp2wpkh (lib : BitcoinLib) (pk : PublicKey) (network : Network) : Result Address :=
  on [.bitcoin, .bitcoinTestnet, .litecoin] "Invalid network for p2wpkh"
    (.p2sh (lib.scriptHash (lib.newWitnessProgram 0 (lib.pubkeyHash pk).bytes)).bytes) network

def fromScript (lib : BitcoinLib) (script : Script) (network : Network) : Result Address :=
  if lib.isP2pkh script then .ok ⟨.p2pkh ((script.drop 3).take 20), network⟩
  else if lib.isP2sh script then .ok ⟨.p2sh ((script.drop 2).take 20), network⟩
  else if lib.isWitnessProgram script then
    match lib.witnessProgram script with
    | .ok (version, program) => .ok ⟨.segwit version program, network⟩
    | .error reason => .error (.witnessProgramError reason)
  else .error (.addressError "unrecognized script")

def scriptPubkey (lib : BitcoinLib) (address : Address) : Script :=
  match address.payload with
  | .p2pkh pubkeyHash => lib.newP2pkh pubkeyHash
  | .p2sh scriptHash => lib.newP2sh scriptHash
  | .segwit version program => lib.newWitnessProgram version program

theorem on_eq_ok {allowed : List Network} {reason : String} {payload : Payload} {network : Network}
    {address : Address} (h : on allowed reason payload network = .ok address) :
    address.payload = payload := by
  unfold on at h
  split at h
  · cases h
    rfl
  · cases h

end Address

inductive MultiSigFormat where
  | p2sh
  | p2wshP2sh
  | p2wsh
deriving DecidableEq

def MultiSigFormat.ofText (format : Text) : Result MultiSigFormat :=
  if format = "P2SH".toList then .ok .p2sh
  else if format = "P2WSH-P2SH".toList ∨ format = "P2SH-P2WSH".toList then .ok .p2wshP2sh
  else if format = "P2WSH".toList then .ok .p2wsh
  else .error (.multiSigWalletFormatError ("not support this format " ++ String.ofList format))

/-- The script that pays to `p2ms`. -/
def multiScript (lib : BitcoinLib) (p2ms : Script) : MultiSigFormat → Script
  | .p2sh => lib.newP2sh (lib.scriptHash p2ms).bytes
  | .p2wshP2sh =>
    lib.newP2sh (lib.scriptHash (lib.newWitnessProgram 0 (lib.wscriptHash p2ms).bytes)).bytes
  | .p2wsh => lib.newWitnessProgram 0 (lib.wscriptHash p2ms).bytes

def calculateMultiAddress (lib : BitcoinLib) (p2ms : Script) (format : MultiSigFormat)
    (network : MultiSigNetwork) : Result Address :=
  Address.fromScript lib (multiScript lib p2ms format)
    (if network = .testNet then .bitcoinTestnet else .bitcoin)

def multiPath : MultiSigFormat → MultiSigNetwork → Text
  | .p2sh, _ => "m/45'".toList
  | .p2wshP2sh, .mainNet => "m/48'/0'/0'/1'".toList
  | .p2wshP2sh, .testNet => "m/48'/1'/0'/1'".toList
  | .p2wsh, .mainNet => "m/48'/0'/0'/2'".toList
  | .p2wsh, .testNet => "m/48'/1'/0'/2'".toList

def calculateMultiSigVerifyCode (lib : BitcoinLib) (xpubs : List Text) (threshold total : UInt8)
    (format : MultiSigFormat) (network : MultiSigNetwork) : Result Text := do
  let converted ← Outcome.collect (fun x => match lib.convertVersion x with
    | .ok x => .ok x
    | .error reason => .error (.base58Error reason)) xpubs
  let joinXpubs := List.intercalate [' '] (converted.insertionSort (· ≤ ·))
  let data := joinXpubs ++ (toString threshold).toList ++ "of".toList ++ (toString total).toList
    ++ multiPath format network
  pure (((lib.sha256 (asciiBytes data)).bytes.flatMap hexByte).take 8)

namespace MultiSigWalletConfig

/-- The derivation of a cosigner, without the `m/` before it. -/
def getDerivationByIndex (config : MultiSigWalletConfig) (index : Nat) : Option Text :=
  let path := if config.derivations.length = 1 then config.derivations[0]?
    else config.derivations[index]?
  path.map fun p => (Text.stripPrefix p "m/".toList).getD p

end MultiSigWalletConfig

end Keystone3.Bitcoin
