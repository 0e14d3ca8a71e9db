import Keystone3.Bitcoin.WrappedPsbt

/-!
# What the user is shown of a PSBT

Each input and each output is read by itself (`parseInput`, `parseOutput`), then they
are put together (`normalize`): the totals, the fee, and the amount sent, from which the
outputs with a path are left out.
-/

namespace Keystone3.Bitcoin

open Logic (Outcome)
open Logic.Outcome (bind_eq_ok collect okOr)

structure ParsedInput where
  address : Option Address
  value : UInt64
  path : Option Text
  signStatus : UInt32 × UInt32
  isMultisig : Bool
  isExternal : Bool
  needSign : Bool
  ecdsaSighashType : UInt8

/-- Whom an output is shown to pay: an address, or the script itself if it has none, or a text
that the host has given. -/
inductive Payee where
  | address (address : Address)
  | script (script : Script)
  | text (text : Text)

structure ParsedOutput where
  address : Payee
  value : UInt64
  path : Option Text
  isExternal : Bool

section

variable (lib : BitcoinLib)

def addressForKey (pubkey : PublicKey) (path : DerivationPath) (network : Network) :
    Result (Option Address) := do
  match ← Outcome.index path 0 with
  | .hardened 44 =>
    match ← Outcome.index path 1 with
    | .hardened 0 => some <$> Address.p2pkh lib pubkey network
    | .hardened 60 => some <$> Address.p2wpkh lib pubkey network
    | _ => pure none
  | .hardened 49 => some <$> Address.p2shp2wpkh lib pubkey network
  | .hardened 84 => some <$> Address.p2wpkh lib pubkey network
  | _ => pure none

def calculateAddressForInput (input : Input) (network : Network) : Result (Option Address) :=
  if input.bip32Derivation.len > 1 then do
    let (script, format) ← getMultiSigScriptAndFormat input
    let network ← MultiSigNetwork.ofNetwork network
    some <$> calculateMultiAddress lib script format network
  else
    match input.bip32Derivation.firstKeyValue with
    | some (pubkey, source) => addressForKey lib pubkey source.path network
    | none => .ok none

def calculateAddressForTaprootInput (input : Input) (network : Network) :
    Result (Option Address) :=
  match input.tapInternalKey with
  | some internalKey => some <$> Address.p2tr lib internalKey input.tapMerkleRoot network
  | none => .ok none

/-- The value in the previous transaction, which has to be the one that is spent; 0 without
one, or without the output in it. -/
def prevTxValue (psbt : Psbt) (input : Input) (index : Nat) : Result UInt64 :=
  match input.nonWitnessUtxo with
  | some prevTx => do
    let txIn ← okOr .invalidInput psbt.unsignedTx.input[index]?
    if txIn.previousOutput.txid ≠ lib.computeTxid prevTx then .error .invalidInput
    else .ok ((prevTx.output[txIn.previousOutput.vout.toNat]?.map (·.value)).getD 0)
  | none => .ok 0

def inputValue (psbt : Psbt) (input : Input) (index : Nat) : Result UInt64 := do
  let value ← prevTxValue lib psbt input index
  pure ((input.witnessUtxo.map (·.value)).getD value)

def inputAddress (input : Input) (network : Network) : Result (Option Address) :=
  if isTaprootInput lib input then calculateAddressForTaprootInput lib input network
  else calculateAddressForInput lib input network

def inputNeedSign (input : Input) (context : ParseContext) (path : Option KeyPath) : Result Bool :=
  if path.isSome then needSignInput lib input context else .ok false

def parseInput (psbt : Psbt) (input : Input) (index : Nat) (context : ParseContext)
    (network : Network) : Result ParsedInput := do
  let address ← inputAddress lib input network
  let value ← inputValue lib psbt input index
  let path ← getMyInputPath lib input index context
  let signStatus := getInputSignStatus lib input
  let needSign ← inputNeedSign lib input context path
  pure
    { address := address
      value := value
      path := path.map Prod.fst
      signStatus := signStatus
      isMultisig := signStatus.2 > 1
      isExternal := (path.map Prod.snd).getD false
      needSign := needSign
      ecdsaSighashType := ((input.sighashType.bind lib.ecdsaHashTy).getD 1).toUInt8 }

def calculateAddressForOutput (txOut : TxOut) (network : Network) : Payee :=
  match Address.fromScript lib txOut.scriptPubkey network with
  | .ok address => .address address
  | _ => .script txOut.scriptPubkey

def parseOutput (psbt : Psbt) (output : Output) (index : Nat) (context : ParseContext)
    (network : Network) : Result ParsedOutput := do
  let txOut ← okOr .invalidOutput psbt.unsignedTx.output[index]?
  let path ← getMyOutputPath lib output index context
  pure
    { address := calculateAddressForOutput lib txOut network
      value := txOut.value
      path := path.map Prod.fst
      isExternal := (path.map Prod.snd).getD false }

end

structure OverviewTx where
  totalOutputAmount : UInt64
  feeAmount : UInt64
  totalOutputSat : String
  feeSat : String
  network : String
  feeLargerThanAmount : Bool
  isMultisig : Bool
  signStatus : Option String
  needSign : Bool

structure DetailTx where
  fromInputs : List ParsedInput
  toOutputs : List ParsedOutput
  totalInputAmount : UInt64
  totalOutputAmount : UInt64
  feeAmount : UInt64
  totalInputSat : String
  totalOutputSat : String
  feeSat : String
  network : String
  signStatus : Option String

structure ParsedTx where
  overview : OverviewTx
  detail : DetailTx

def formatSat (value : UInt64) : String := toString value ++ " sats"

def getSignStatusText (inputs : List ParsedInput) : Option String :=
  match inputs with
  | [] => none
  | first :: _ =>
    if inputs.all fun v => v.signStatus.1 = 0 then some "Unsigned"
    else if inputs.all fun v => v.signStatus.1 ≥ v.signStatus.2 then some "Completed"
    else if inputs.all fun v => v.signStatus = first.signStatus then
      some (toString first.signStatus.1 ++ "/" ++ toString first.signStatus.2 ++ " Signed")
    else some "Partly Signed"

def ParsedOutput.counted (output : ParsedOutput) : Bool :=
  match output.path with
  | none => true
  | some hdPath => hdPath.isEmpty

def overviewAmount (outputs : List ParsedOutput) : UInt64 :=
  outputs.foldl (fun acc cur => if cur.counted then acc + cur.value else acc) 0

def normalize (inputs : List ParsedInput) (outputs : List ParsedOutput) (network : String) :
    Result ParsedTx :=
  let totalInputValue := inputs.foldl (fun acc cur => acc + cur.value) 0
  let totalOutputValue := outputs.foldl (fun acc cur => acc + cur.value) 0
  let hasAnyoneCanPay := (inputs.find? fun v => v.ecdsaSighashType &&& 0x80 > 0).isSome
  let fee := if hasAnyoneCanPay then 0 else totalInputValue - totalOutputValue
  if !hasAnyoneCanPay && totalInputValue < totalOutputValue then
    .error (.invalidTransaction "inputs total value is less than outputs total value")
  else
    .ok
      { overview :=
          { totalOutputAmount := overviewAmount outputs
            feeAmount := fee
            totalOutputSat := formatSat (overviewAmount outputs)
            feeSat := formatSat fee
            network := network
            feeLargerThanAmount := fee > overviewAmount outputs
            isMultisig := inputs.any (·.isMultisig)
            signStatus := getSignStatusText inputs
            needSign := inputs.any (·.needSign) }
        detail :=
          { fromInputs := inputs
            toOutputs := outputs
            totalInputAmount := totalInputValue
            totalOutputAmount := totalOutputValue
            feeAmount := fee
            totalInputSat := formatSat totalInputValue
            totalOutputSat := formatSat totalOutputValue
            feeSat := formatSat fee
            network := network
            signStatus := getSignStatusText inputs } }

def identifyFractalBitcoinTx (psbt : Psbt) : Option CustomNewNetwork :=
  psbt.unknown.entries.findSome? fun (itemKey, itemValue) =>
    if itemKey.key = asciiBytes "chain".toList then
      if itemValue = asciiBytes "fb".toList then some .fractalBitcoin
      else if itemValue = asciiBytes "tfb".toList then some .fractalBitcoinTest
      else none
    else none

section

variable (lib : BitcoinLib)

def firstOriginPath (input : Input) : Option DerivationPath :=
  match input.bip32Derivation.firstKeyValue with
  | some (_, source) => some source.path
  | none => input.tapKeyOrigins.firstKeyValue.map fun (_, _, source) => source.path

def determineNetwork (psbt : Psbt) : Result Network :=
  match psbt.xpub.firstKeyValue with
  | some (xpub, _) =>
    match xpub.network with
    | .main => .ok .bitcoin
    | .test => .ok .bitcoinTestnet
  | none => do
    let path ← okOr .invalidInput (psbt.inputs.findSome? firstOriginPath)
    match ← Outcome.index path 1 with
    | .hardened 0 => .ok .bitcoin
    | .hardened 1 => .ok .bitcoinTestnet
    | .hardened 60 => .ok .avaxBtcBridge
    | .hardened index => .error (.invalidTransaction ("unknown network " ++ toString index))
    | .normal _ => .error (.invalidTransaction ("unsupported derivation path "
        ++ String.ofList (lib.pathText path)))

def parse (psbt : Psbt) (context : Option ParseContext) : Result ParsedTx := do
  let network ← determineNetwork lib psbt
  let context ← okOr (.invalidParseContext "empty context") context
  let inputs ← collect (fun (input, i) => parseInput lib psbt input i context network)
    psbt.inputs.zipIdx
  let outputs ← collect (fun (output, i) => parseOutput lib psbt output i context network)
    psbt.outputs.zipIdx
  match identifyFractalBitcoinTx psbt with
  | some customNet => normalize inputs outputs customNet.normalize
  | none => normalize inputs outputs network.normalize

end

section

variable {lib : BitcoinLib} {psbt : Psbt} {context : ParseContext} {network : Network}
  {index : Nat}

theorem parseOutput_eq_ok {output : Output} {parsed : ParsedOutput} :
    parseOutput lib psbt output index context network = .ok parsed ↔
      ∃ txOut path, psbt.unsignedTx.output[index]? = some txOut
        ∧ getMyOutputPath lib output index context = .ok path
        ∧ parsed =
          { address := calculateAddressForOutput lib txOut network
            value := txOut.value
            path := path.map Prod.fst
            isExternal := (path.map Prod.snd).getD false } := by
  constructor
  · intro h
    obtain ⟨txOut, htxOut, h⟩ := bind_eq_ok.mp h
    obtain ⟨path, hpath, h⟩ := bind_eq_ok.mp h
    cases h
    exact ⟨txOut, path, Outcome.okOr_eq_ok.mp htxOut, hpath, rfl⟩
  · intro h
    obtain ⟨txOut, path, htxOut, hpath, rfl⟩ := h
    unfold parseOutput
    rw [htxOut, hpath]
    rfl

theorem parseInput_value {input : Input} {parsed : ParsedInput}
    (h : parseInput lib psbt input index context network = .ok parsed) :
    inputValue lib psbt input index = .ok parsed.value := by
  obtain ⟨address, -, h⟩ := bind_eq_ok.mp h
  obtain ⟨value, hvalue, h⟩ := bind_eq_ok.mp h
  obtain ⟨path, -, h⟩ := bind_eq_ok.mp h
  obtain ⟨needSign, -, h⟩ := bind_eq_ok.mp h
  cases h
  exact hvalue

theorem normalize_eq_ok {inputs : List ParsedInput} {outputs : List ParsedOutput} {name : String}
    {tx : ParsedTx} (h : normalize inputs outputs name = .ok tx) :
    tx.detail.fromInputs = inputs ∧ tx.detail.toOutputs = outputs
      ∧ tx.overview.totalOutputAmount = overviewAmount outputs := by
  unfold normalize at h
  dsimp only at h
  split at h
  · cases h
  · cases h
    exact ⟨rfl, rfl, rfl⟩

/-- **A parse that returns** has read every input and every output, in their order, and
puts together what it has read. -/
theorem parse_normalize {tx : ParsedTx} (h : parse lib psbt (some context) = .ok tx) :
    ∃ network name,
      collect (fun (input, i) => parseInput lib psbt input i context network)
          psbt.inputs.zipIdx = .ok tx.detail.fromInputs ∧
        collect (fun (output, i) => parseOutput lib psbt output i context network)
          psbt.outputs.zipIdx = .ok tx.detail.toOutputs ∧
        normalize tx.detail.fromInputs tx.detail.toOutputs name = .ok tx := by
  obtain ⟨network, -, h⟩ := bind_eq_ok.mp h
  obtain ⟨context', hcontext, h⟩ := bind_eq_ok.mp h
  cases hcontext
  obtain ⟨inputs, hinputs, h⟩ := bind_eq_ok.mp h
  obtain ⟨outputs, houtputs, h⟩ := bind_eq_ok.mp h
  have hnormalize : ∃ name, normalize inputs outputs name = .ok tx := by
    split at h
    · exact ⟨_, h⟩
    · exact ⟨_, h⟩
  obtain ⟨name, hname⟩ := hnormalize
  obtain ⟨hfrom, hto, -⟩ := normalize_eq_ok hname
  rw [hfrom, hto]
  exact ⟨network, name, hinputs, houtputs, hname⟩

theorem parse_eq_ok {tx : ParsedTx} (h : parse lib psbt (some context) = .ok tx) :
    ∃ network,
      collect (fun (input, i) => parseInput lib psbt input i context network)
          psbt.inputs.zipIdx = .ok tx.detail.fromInputs ∧
        collect (fun (output, i) => parseOutput lib psbt output i context network)
          psbt.outputs.zipIdx = .ok tx.detail.toOutputs ∧
        tx.overview.totalOutputAmount = overviewAmount tx.detail.toOutputs := by
  obtain ⟨network, name, hinputs, houtputs, hname⟩ := parse_normalize h
  exact ⟨network, hinputs, houtputs, (normalize_eq_ok hname).2.2⟩

theorem collect_zipIdx {α β : Type} {f : α × Nat → Result β} {as : List α} {bs : List β}
    (h : collect f as.zipIdx = .ok bs) {i : Nat} {a : α} (ha : as[i]? = some a) :
    ∃ b, bs[i]? = some b ∧ f (a, i) = .ok b := by
  apply Outcome.collect_getElem? h
  rw [List.getElem?_zipIdx, ha, Nat.zero_add]
  rfl

end

end Keystone3.Bitcoin
