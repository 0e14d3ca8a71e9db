import Keystone3.Bitcoin.Address

/-!
# Checking and reading a PSBT

An input or an output is the wallet's by its key origins: the first entry with the
master fingerprint decides, by its path alone.
-/

namespace Keystone3.Bitcoin

open Logic (BTreeMap Outcome)
open Logic.Outcome (okOr)

variable (lib : BitcoinLib)

def judgeExternal : Text → Bool
  | '/' :: rest => judgeExternal rest
  | '0' :: _ => true
  | _ => false

def judgeExternalKey (child parent : Text) : Bool := judgeExternal (child.drop parent.length)

abbrev KeyPath : Type := Text × Bool

/-- The path of a key with the master fingerprint, below the first of the account paths
that it begins with. -/
def keyPathBelow (parents : List Text) (purpose : String) (index : Nat) (path : DerivationPath) :
    Result (Option KeyPath) :=
  let child := lib.pathText path
  match parents.find? child.startsWith with
  | some parent => .ok (some (child.toUppercase, judgeExternalKey child parent))
  | none => .error (.invalidTransaction ("invalid " ++ purpose ++ " #" ++ toString index
      ++ ", fingerprint matched but cannot derive associated public key"))

def accountPaths (context : ParseContext) : List Text :=
  context.extendedPublicKeys.keys.map lib.pathText

def cosignerPaths (config : MultiSigWalletConfig) (fingerprint : Fingerprint) : List Text :=
  config.xpubItems.zipIdx.filterMap fun (item, i) =>
    if item.xfp.eqIgnoreAsciiCase (lib.fingerprintText fingerprint) then
      config.getDerivationByIndex i
    else none

def parentPaths (context : ParseContext) (fingerprint : Fingerprint) : List Text :=
  match context.multisigWalletConfig with
  | some config => cosignerPaths lib config fingerprint
  | none => accountPaths lib context

def notMyMultisig (config : MultiSigWalletConfig) (bip32Derivation : BTreeMap PublicKey KeySource) :
    Bool :=
  let walletXfps := Text.joinSorted (config.xpubItems.map (·.xfp))
  let xfps := Text.joinSorted (bip32Derivation.values.map fun s => lib.fingerprintText s.fingerprint)
  UInt32.ofNat bip32Derivation.len ≠ config.total || !walletXfps.eqIgnoreAsciiCase xfps

def getMyKeyPathFrom (bip32Derivation : BTreeMap PublicKey KeySource) (index : Nat)
    (purpose : String) (context : ParseContext) : List PublicKey → Result (Option KeyPath)
  | [] => .ok none
  | key :: keys => do
    let source ← okOr .invalidInput (bip32Derivation.get key)
    if source.fingerprint = context.masterFingerprint then
      keyPathBelow lib (parentPaths lib context source.fingerprint) purpose index source.path
    else getMyKeyPathFrom bip32Derivation index purpose context keys

def getMyKeyPath (bip32Derivation : BTreeMap PublicKey KeySource) (index : Nat) (purpose : String)
    (context : ParseContext) : Result (Option KeyPath) :=
  let scan := getMyKeyPathFrom lib bip32Derivation index purpose context bip32Derivation.keys
  match context.multisigWalletConfig with
  | some config => if notMyMultisig lib config bip32Derivation then .ok none else scan
  | none => scan

def getMyKeyPathForTaprootFrom
    (tapKeyOrigins : BTreeMap XOnlyPublicKey (List TapLeafHash × KeySource)) (index : Nat)
    (purpose : String) (context : ParseContext) : List XOnlyPublicKey → Result (Option KeyPath)
  | [] => .ok none
  | key :: keys => do
    let (_, source) ← okOr .invalidInput (tapKeyOrigins.get key)
    if source.fingerprint = context.masterFingerprint then
      keyPathBelow lib (accountPaths lib context) purpose index source.path
    else getMyKeyPathForTaprootFrom tapKeyOrigins index purpose context keys

def getMyKeyPathForTaproot
    (tapKeyOrigins : BTreeMap XOnlyPublicKey (List TapLeafHash × KeySource)) (index : Nat)
    (purpose : String) (context : ParseContext) : Result (Option KeyPath) :=
  getMyKeyPathForTaprootFrom lib tapKeyOrigins index purpose context tapKeyOrigins.keys

def isTaprootInput (input : Input) : Bool :=
  match input.witnessUtxo with
  | some utxo => lib.isP2tr utxo.scriptPubkey
  | none => false

def getMyInputPath (input : Input) (index : Nat) (context : ParseContext) :
    Result (Option KeyPath) :=
  if context.multisigWalletConfig.isSome && isTaprootInput lib input then
    .error (.invalidPsbt "multisig with taproot is not supported")
  else if isTaprootInput lib input then
    getMyKeyPathForTaproot lib input.tapKeyOrigins index "input" context
  else getMyKeyPath lib input.bip32Derivation index "input" context

def getMyOutputPath (output : Output) (index : Nat) (context : ParseContext) :
    Result (Option KeyPath) := do
  let path ← getMyKeyPath lib output.bip32Derivation index "output" context
  if path.isSome then .ok path
  else getMyKeyPathForTaproot lib output.tapKeyOrigins index "output" context

def getMultiSigScriptAndFormat (input : Input) : Result (Script × MultiSigFormat) :=
  match input.redeemScript, input.witnessScript with
  | some script, none => .ok (script, .p2sh)
  | some _, some script => .ok (script, .p2wshP2sh)
  | none, some script => .ok (script, .p2wsh)
  | none, none => .error (.multiSigWalletAddressCalError "invalid multi sig input")

/-- The number that an opcode pushes, for `OP_PUSHNUM_1` to `OP_PUSHNUM_16`. -/
def pushNum (code : UInt8) : Option UInt8 :=
  if 0x51 ≤ code ∧ code ≤ 0x60 then some (code - 0x50) else none

def requiredSigs (script : Script) : Option UInt8 :=
  match lib.instructions script with
  | .op code :: _ => pushNum code
  | _ => none

def getInputSignStatus (input : Input) : UInt32 × UInt32 :=
  let sigs := UInt32.ofNat input.partialSigs.len
  let byKeys := (sigs, UInt32.ofNat input.bip32Derivation.len)
  if input.bip32Derivation.len > 1 then
    match getMultiSigScriptAndFormat input with
    | .ok (script, _) =>
      if lib.isMultisig script then
        match requiredSigs lib script with
        | some required => (sigs, required.toUInt32)
        | none => byKeys
      else byKeys
    | _ => byKeys
  else byKeys

def getMultiSigInputThresholdAndTotal (script : Script) : Result (UInt8 × UInt8) :=
  if lib.isMultisig script then
    let total := (lib.instructions script).tail.foldl (fun total instruction =>
      match instruction with
      | .op code => (pushNum code).getD total
      | .pushBytes _ => total) 0
    .ok ((requiredSigs lib script).getD 0, total)
  else .error (.multiSigInputError "it's not a multi sig script")

def signedByMe (input : Input) (context : ParseContext) : List PublicKey → Result Bool
  | [] => .ok false
  | key :: keys => do
    let source ← okOr .invalidInput (input.bip32Derivation.get key)
    if source.fingerprint = context.masterFingerprint
        ∧ input.partialSigs.containsKey ⟨true, key⟩ = true then .ok true
    else signedByMe input context keys

def needSignInput (input : Input) (context : ParseContext) : Result Bool :=
  if input.bip32Derivation.len > 1 then
    let (cur, req) := getInputSignStatus lib input
    if cur ≥ req then .ok false
    else do
      let signed ← signedByMe input context input.bip32Derivation.keys
      pure !signed
  else .ok (input.partialSigs.len < 1)

def derivePublicKeyByPath (xpub : Xpub) (rootPath hdPath : DerivationPath) : Result PublicKey := do
  let root := lib.pathText rootPath
  let root := if ['/'].isSuffixOf root then root else root ++ ['/']
  let hd := lib.pathText hdPath
  let subPath ← okOr (.invalidPsbt (String.ofList hd)) (Text.stripPrefix hd root)
  match lib.derivePublicKey (lib.xpubText xpub) ("m/".toList ++ subPath) with
  | .ok publicKey => .ok publicKey
  | .error reason => .error (.derivePublicKeyError reason)

def getXpubFrom (psbt : Psbt) (fp : Fingerprint) : List Xpub → Result (Xpub × DerivationPath)
  | [] => .error (.multiSigInputError "have no match fingerprint in xpub")
  | key :: keys => do
    let source ← okOr .invalidInput (psbt.xpub.get key)
    if fp = source.fingerprint then .ok (key, source.path) else getXpubFrom psbt fp keys

def getXpubFromPsbtByFingerprint (psbt : Psbt) (fp : Fingerprint) : Result (Xpub × DerivationPath) :=
  getXpubFrom psbt fp psbt.xpub.keys

def matchingXpubs (psbt : Psbt) (input : Input) : List PublicKey → Result (List Text)
  | [] => .ok []
  | key :: keys => do
    let source ← okOr .invalidInput (input.bip32Derivation.get key)
    let (xpub, path) ← getXpubFromPsbtByFingerprint psbt source.fingerprint
    let publicKey ← derivePublicKeyByPath lib xpub path source.path
    let rest ← matchingXpubs psbt input keys
    pure (if publicKey = key then lib.xpubText xpub :: rest else rest)

def getMultiSigInputVerifyCode (psbt : Psbt) (input : Input) : Result Text :=
  if psbt.xpub.isEmpty then .error (.multiSigInputError "xpub is empty")
  else do
    let xpubs ← matchingXpubs lib psbt input input.bip32Derivation.keys
    if xpubs.isEmpty ∨ xpubs.length ≠ input.bip32Derivation.len then
      .error (.multiSigInputError "xpub does not match bip32_derivation")
    else do
      let (script, format) ← getMultiSigScriptAndFormat input
      let (threshold, total) ← getMultiSigInputThresholdAndTotal lib script
      let (xpub, _) ← okOr (.multiSigNetworkError "can not get network type")
        psbt.xpub.firstKeyValue
      let network ← MultiSigNetwork.ofNetwork
        (match xpub.network with | .main => .bitcoin | .test => .bitcoinTestnet)
      calculateMultiSigVerifyCode lib xpubs threshold total format network

def getMyInputVerifyCode (psbt : Psbt) (input : Input) : Result (Option Text) :=
  if input.bip32Derivation.len > 1 then Outcome.toOption (getMultiSigInputVerifyCode lib psbt input)
  else .ok none

def checkMyInputScript (_input : Input) (_index : Nat) : Result Unit := .ok ()

def checkMyInputDerivation (_input : Input) (_index : Nat) : Result Unit := .ok ()

def alreadySigned (index : Nat) : BitcoinError :=
  .invalidTransaction ("input #" ++ toString index ++ " has already been signed")

def getMyKeyAndLeafhashesPairForTaproot (input : Input) (context : ParseContext) :
    Option (XOnlyPublicKey × List TapLeafHash) :=
  (input.tapKeyOrigins.entries.find? fun (_, leafHashes, source) =>
    source.fingerprint = context.masterFingerprint && !leafHashes.isEmpty).map
      fun (pk, leafHashes, _) => (pk, leafHashes)

def checkMyInputSignature (input : Input) (index : Nat) (context : ParseContext) : Result Unit :=
  -- more keys than one: a signature may be there already
  if input.bip32Derivation.len > 1 then .ok ()
  else if isTaprootInput lib input then
    let inLeaf := match getMyKeyAndLeafhashesPairForTaproot input context with
      | some (pk, leafHashes) => leafHashes.any fun hash => input.tapScriptSigs.containsKey (pk, hash)
      | none => false
    if inLeaf || input.tapKeySig.isSome then .error (alreadySigned index) else .ok ()
  else if input.partialSigs.len > 0 then .error (alreadySigned index)
  else .ok ()

def checkMyInputValueTampered (psbt : Psbt) (input : Input) (index : Nat) : Result Unit :=
  match input.nonWitnessUtxo, input.witnessUtxo with
  | some prevTx, some utxo => do
    let thisTxIn ← okOr .invalidInput psbt.unsignedTx.input[index]?
    let prevTxOut ← okOr .invalidInput prevTx.output[thisTxIn.previousOutput.vout.toNat]?
    if prevTxOut ≠ utxo then
      .error (.inputValueTampered ("input #" ++ toString index
        ++ "'s value does not match the value in previous transaction"))
    else .ok ()
  | _, _ => .ok ()

def checkMyWalletType (psbt : Psbt) (input : Input) (context : ParseContext) : Result Unit := do
  let inputVerifyCode ← getMyInputVerifyCode lib psbt input
  if context.verifyCode = inputVerifyCode then .ok ()
  else
    .error (.walletTypeError ("wallet type mismatch wallet verify code is "
      ++ String.ofList (context.verifyCode.getD "null".toList) ++ " input verify code is "
      ++ String.ofList (inputVerifyCode.getD "null".toList)))

def judgeMyInputThenCheck (psbt : Psbt) (input : Input) (index : Nat) (context : ParseContext) :
    Result Bool := do
  let path ← getMyInputPath lib input index context
  if path.isNone then .ok false
  else do
    checkMyInputDerivation input index
    checkMyInputScript input index
    checkMyInputSignature lib input index context
    checkMyInputValueTampered psbt input index
    checkMyWalletType lib psbt input context
    pure true

def checkInputs (psbt : Psbt) (context : ParseContext) : Result Unit :=
  if psbt.inputs.length = 0 then .error .noInputs
  else do
    let hasMyInput ← Outcome.foldAll (· || ·) (.ok false)
      (psbt.inputs.zipIdx.map fun (input, i) => judgeMyInputThenCheck lib psbt input i context)
    if !hasMyInput then .error .noMyInputs else .ok ()

def judgeThenCheckMyOutput (output : Output) (index : Nat) (context : ParseContext) :
    Result Unit := do
  let _ ← getMyOutputPath lib output index context
  pure ()

def checkOutputs (psbt : Psbt) (context : ParseContext) : Result Unit :=
  Outcome.foldAll (fun _ _ => ()) (.ok ())
    (psbt.outputs.zipIdx.map fun (output, i) => judgeThenCheckMyOutput lib output i context)

/-- `TxChecker::check`, in the context of a PSBT. -/
def check (psbt : Psbt) (context : ParseContext) : Result Unit := do
  checkInputs lib psbt context
  checkOutputs lib psbt context

end Keystone3.Bitcoin
