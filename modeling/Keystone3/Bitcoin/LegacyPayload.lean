import Keystone3.Bitcoin.Legacy
import Keystone3.Bitcoin.WalletFile

/-!
# What the host sends in the older protocol

The numbers of a payload are signed and those of a transaction are not, so a number below
zero has to be refused before it is converted. The check is a macro that makes a result. In
the conversion for three of the coins the result is returned if it is an error. In the
conversion for the other two it is made and dropped.

`fromPayload_negative_iff` says when numbers below zero are refused: always for Bitcoin,
Litecoin and Dogecoin, and for Bitcoin Cash and Dash only with something else that the
transaction is refused for.
-/

namespace Keystone3.Bitcoin

open Bytes (Block)
open Logic (Outcome)
open Logic.Outcome (Returns Fails returns_ok returns_error returns_map returns_okOr
  not_fails_ok not_fails_halted fails_error fails_bind_of_returns fails_map fails_okOr fails_collect
  collect_alike collect_eq_map)
open Logic.Outcome (bind_eq_ok collect okOr)

inductive ScriptType where
  | p2pkh
  | p2shp2wpkh
  | p2wpkh
  | p2shp2wsh
  | p2wsh
  | p2sh
  | raw

namespace ScriptType

def fromCoinCode (coinCode : Text) : Result ScriptType :=
  if coinCode = "BTC".toList then .ok .p2shp2wpkh
  else if coinCode = "BTC_LEGACY".toList then .ok .p2pkh
  else if coinCode = "BTC_SEGWIT".toList then .ok .p2shp2wpkh
  else if coinCode = "BTC_NATIVE_SEGWIT".toList then .ok .p2wpkh
  else if coinCode = "LTC".toList then .ok .p2shp2wpkh
  else if coinCode = "DASH".toList then .ok .p2pkh
  else if coinCode = "BCH".toList then .ok .p2pkh
  else if coinCode = "DOGE".toList then .ok .p2pkh
  else .error (.unsupportedScriptType (String.ofList coinCode))

/-- `Display for ScriptType`. -/
def text : ScriptType → Text
  | p2pkh => "P2PKH".toList
  | p2shp2wpkh => "P2SHP2WPKH".toList
  | p2wpkh => "P2WPKH".toList
  | p2shp2wsh => "P2SHP2WSH".toList
  | p2wsh => "P2WSH".toList
  | p2sh => "P2SH".toList
  | raw => "RAW".toList

end ScriptType

namespace Legacy

namespace Protoc

structure Utxo where
  publicKey : Text
  value : Int64

/-- `protoc::Input`, of Bitcoin, Litecoin and Dogecoin. -/
structure Input where
  hash : Text
  index : Int32
  utxo : Option Utxo
  ownerKeyPath : Text

structure ValuedInput where
  hash : Text
  index : Int32
  value : Int64
  pubkey : Text
  ownerKeyPath : Text

abbrev BchInput : Type := ValuedInput

abbrev DashInput : Type := ValuedInput

structure Output where
  address : Text
  value : Int64
  isChange : Bool
  changeAddressPath : Text

structure Tx (ι : Type) where
  inputs : List ι
  outputs : List Output

inductive Transaction where
  | ltcTx (tx : Tx Input)
  | btcTx (tx : Tx Input)
  | bchTx (tx : Tx BchInput)
  | dashTx (tx : Tx DashInput)
  | dogeTx (tx : Tx Input)
  | other

structure SignTransaction where
  coinCode : Text
  transaction : Option Transaction

/-- `payload::Content`, with the debug text of what is no transaction to sign. -/
inductive Content where
  | signTx (content : SignTransaction)
  | other (debug : String)

structure Payload where
  content : Option Content
  xfp : Text

end Protoc

def negativeCheck (t : String) (v : Int) : Result Unit :=
  if v < 0 then .error (.invalidRawTxCryptoBytes
    ("negative value " ++ toString v ++ " for \"" ++ t ++ "\""))
  else .ok ()

/-- `try_from` for an input with its value. -/
def TxIn.tryFromValued (value : Protoc.ValuedInput) : Result TxIn := do
  -- the results of the two checks are dropped: nothing follows `negative_check!`
  let _ := negativeCheck "utxo_value" value.value.toInt
  let utxoValue := value.value.toUInt64
  let _ := negativeCheck "utxo_index" value.index.toInt
  let index := value.index.toUInt32
  pure
    { previousOutput := value.hash
      vout := index
      value := utxoValue
      pubkey := value.pubkey
      hdPath := value.ownerKeyPath }

/-- `TryFrom<bch_tx::Input> for TxIn`. -/
def TxIn.tryFromBch : Protoc.BchInput → Result TxIn := TxIn.tryFromValued

/-- `TryFrom<dash_tx::Input> for TxIn`. -/
def TxIn.tryFromDash : Protoc.DashInput → Result TxIn := TxIn.tryFromValued

/-- `TryFrom<Input> for TxIn`. -/
def TxIn.tryFrom (value : Protoc.Input) : Result TxIn := do
  let utxo ← okOr (.invalidRawTxCryptoBytes "empty utxo") value.utxo
  negativeCheck "utxo value" utxo.value.toInt
  let utxoValue := utxo.value.toUInt64
  negativeCheck "utxo index" value.index.toInt
  let index := value.index.toUInt32
  pure
    { previousOutput := value.hash
      vout := index
      value := utxoValue
      pubkey := utxo.publicKey
      hdPath := value.ownerKeyPath }

/-- `TryFrom<protoc::Output> for TxOut`. -/
def TxOut.tryFrom (value : Protoc.Output) : Result TxOut :=
  if value.value.toInt < 0 then .error (.invalidRawTxCryptoBytes
    ("negative output value " ++ toString value.value.toInt))
  else .ok
    { value := value.value.toUInt64
      address := value.address
      isChange := value.isChange
      changeAddressPath := value.changeAddressPath }

namespace Protoc.Transaction

def toTxIn : Transaction → Result (List TxIn)
  | .ltcTx tx => collect TxIn.tryFrom tx.inputs
  | .btcTx tx => collect TxIn.tryFrom tx.inputs
  | .bchTx tx => collect TxIn.tryFromBch tx.inputs
  | .dashTx tx => collect TxIn.tryFromDash tx.inputs
  | .dogeTx tx => collect TxIn.tryFrom tx.inputs
  | .other => .error (.invalidRawTxCryptoBytes "invalid tx inputs")

def toTxOut : Transaction → Result (List TxOut)
  | .ltcTx tx => collect TxOut.tryFrom tx.outputs
  | .btcTx tx => collect TxOut.tryFrom tx.outputs
  | .bchTx tx => collect TxOut.tryFrom tx.outputs
  | .dashTx tx => collect TxOut.tryFrom tx.outputs
  | .dogeTx tx => collect TxOut.tryFrom tx.outputs
  | .other => .error (.invalidRawTxCryptoBytes "invalid tx outputs")

end Protoc.Transaction

/-- `TxData`, with what only signing reads. -/
structure SigningTxData extends TxData where
  scriptType : Text
  transaction : Bitcoin.Transaction

section

variable (lib : BitcoinLib) (texts : TextLib) (chars : CharCase) (keys : KeyLib)
  (txidFromStr : Text → Option Txid)

/-- `TryInto<bitcoin::TxIn> for TxIn`. -/
def TxIn.tryInto (txIn : TxIn) : Result Bitcoin.TxIn := do
  let txid ← okOr (.invalidTransaction "invalid txid") (txidFromStr txIn.previousOutput)
  pure
    { previousOutput := ⟨txid, txIn.vout⟩
      scriptSig := []
      -- `Sequence::ENABLE_RBF_NO_LOCKTIME`
      sequence := 0xFFFFFFFD
      witness := [] }

/-- `TryInto<bitcoin::TxOut> for TxOut`. -/
def TxOut.tryInto (txOut : TxOut) : Result Bitcoin.TxOut :=
  (fun address => ⟨txOut.value, address.scriptPubkey lib⟩)
    <$> Address.fromStr texts chars txOut.address

def fromPayload (payload : Protoc.Payload) (context : ParseContext) : Result SigningTxData :=
  match payload.content with
  | some (.signTx content) => do
    let tx ← okOr
      (.invalidRawTxCryptoBytes "empty transaction field for payload content") content.transaction
    let inputs ← tx.toTxIn
    let outputs ← tx.toTxOut
    let scriptType ← ScriptType.fromCoinCode content.coinCode
    let transactionMappedInput ← TxData.keep (collect (TxIn.tryInto txidFromStr) inputs)
    let transactionMappedOutput ← TxData.keep (collect (TxOut.tryInto lib texts chars) outputs)
    let extendedPubkey ← convertVersion keys (lib.xpubText context.extendedPublicKey) .xpub
    let input ← transactionMappedInput
    let output ← transactionMappedOutput
    pure
      { inputs := inputs
        outputs := outputs
        network := content.coinCode
        extendedPubkey := extendedPubkey
        xfp := payload.xfp
        scriptType := scriptType.text
        transaction := ⟨2, 0, input, output⟩ }
  | some (.other debug) => .error (.invalidRawTxCryptoBytes
      ("invalid payload content Some(" ++ debug ++ ")"))
  | none => .error (.invalidRawTxCryptoBytes "invalid payload content None")

end

theorem toUInt64_lt {v : Int64} (h : 0 ≤ v.toInt) : v.toUInt64.toNat < 2 ^ 63 := by
  have hsign : 2 * v.toUInt64.toNat < 2 ^ 64 := (@BitVec.toInt_pos_iff 64 v.toBitVec).mp h
  omega

theorem toUInt32_lt {v : Int32} (h : 0 ≤ v.toInt) : v.toUInt32.toNat < 2 ^ 31 := by
  have hsign : 2 * v.toUInt32.toNat < 2 ^ 32 := (@BitVec.toInt_pos_iff 32 v.toBitVec).mp h
  omega

def TxIn.Small (txIn : TxIn) : Prop := txIn.value.toNat < 2 ^ 63 ∧ txIn.vout.toNat < 2 ^ 31

namespace Protoc

def Input.Negative (input : Input) : Prop :=
  (∃ utxo, input.utxo = some utxo ∧ utxo.value.toInt < 0) ∨ input.index.toInt < 0

def ValuedInput.Negative (input : ValuedInput) : Prop :=
  input.value.toInt < 0 ∨ input.index.toInt < 0

def Transaction.HasNegative : Transaction → Prop
  | .ltcTx tx => ∃ input ∈ tx.inputs, input.Negative
  | .btcTx tx => ∃ input ∈ tx.inputs, input.Negative
  | .bchTx tx => ∃ input ∈ tx.inputs, ValuedInput.Negative input
  | .dashTx tx => ∃ input ∈ tx.inputs, ValuedInput.Negative input
  | .dogeTx tx => ∃ input ∈ tx.inputs, input.Negative
  | .other => False

def Transaction.checksInputs : Transaction → Bool
  | .ltcTx _ => true
  | .btcTx _ => true
  | .bchTx _ => false
  | .dashTx _ => false
  | .dogeTx _ => true
  | .other => true

def Transaction.outputs : Transaction → List Output
  | .ltcTx tx => tx.outputs
  | .btcTx tx => tx.outputs
  | .bchTx tx => tx.outputs
  | .dashTx tx => tx.outputs
  | .dogeTx tx => tx.outputs
  | .other => []

def Transaction.hashes : Transaction → List Text
  | .ltcTx tx => tx.inputs.map Input.hash
  | .btcTx tx => tx.inputs.map Input.hash
  | .bchTx tx => tx.inputs.map ValuedInput.hash
  | .dashTx tx => tx.inputs.map ValuedInput.hash
  | .dogeTx tx => tx.inputs.map Input.hash
  | .other => []

end Protoc

theorem negativeCheck_eq_ok {t : String} {v : Int} : negativeCheck t v = .ok () ↔ 0 ≤ v := by
  unfold negativeCheck
  split
  · rename_i h
    exact iff_of_false nofun (Int.not_le.mpr h)
  · rename_i h
    exact iff_of_true rfl (Int.not_lt.mp h)

theorem negativeCheck_returns (t : String) (v : Int) : Returns (negativeCheck t v) := by
  unfold negativeCheck
  split
  · exact returns_error _
  · exact returns_ok _

namespace TxIn

theorem tryFrom_eq_ok {input : Protoc.Input} {txIn : TxIn} (h : tryFrom input = .ok txIn) :
    ¬input.Negative ∧ txIn.Small := by
  obtain ⟨utxo, hutxo, h⟩ := bind_eq_ok.mp h
  obtain ⟨_, hvalue, h⟩ := bind_eq_ok.mp h
  obtain ⟨_, hindex, h⟩ := bind_eq_ok.mp h
  have hvalue := negativeCheck_eq_ok.mp hvalue
  have hindex := negativeCheck_eq_ok.mp hindex
  cases h
  refine ⟨?_, toUInt64_lt hvalue, toUInt32_lt hindex⟩
  rintro (⟨utxo', hutxo', hneg⟩ | hneg)
  · rw [Outcome.okOr_eq_ok.mp hutxo] at hutxo'
    cases hutxo'
    omega
  · omega

theorem tryFrom_returns (input : Protoc.Input) : Returns (tryFrom input) :=
  (returns_okOr _ _).bind fun _ _ => (negativeCheck_returns _ _).bind fun _ _ =>
    (negativeCheck_returns _ _).bind fun _ _ => returns_ok _

theorem tryFrom_fails {input : Protoc.Input} (h : input.Negative) : Fails (tryFrom input) := by
  cases hresult : tryFrom input with
  | ok txIn => exact absurd h (tryFrom_eq_ok hresult).1
  | error e => exact fails_error e
  | halted => exact absurd hresult (tryFrom_returns input)

def ofValued (value : Protoc.ValuedInput) : TxIn where
  previousOutput := value.hash
  vout := value.index.toUInt32
  value := value.value.toUInt64
  pubkey := value.pubkey
  hdPath := value.ownerKeyPath

theorem collect_tryFromValued (inputs : List Protoc.ValuedInput) :
    collect tryFromValued inputs = .ok (inputs.map ofValued) := by
  induction inputs with
  | nil => rfl
  | cons input inputs ih =>
    rw [collect, ih]
    rfl

end TxIn

theorem TxOut.tryFrom_returns (output : Protoc.Output) : Returns (TxOut.tryFrom output) := by
  unfold TxOut.tryFrom
  split
  · exact returns_error _
  · exact returns_ok _

theorem TxOut.tryFrom_fails {output : Protoc.Output} :
    Fails (TxOut.tryFrom output) ↔ output.value.toInt < 0 := by
  unfold TxOut.tryFrom
  split
  · rename_i h
    exact iff_of_true (fails_error _) h
  · rename_i h
    exact iff_of_false (not_fails_ok _) h

def TxOut.ofOutput (value : Protoc.Output) : TxOut where
  value := value.value.toUInt64
  address := value.address
  isChange := value.isChange
  changeAddressPath := value.changeAddressPath

theorem TxOut.tryFrom_eq_ok {output : Protoc.Output} {txOut : TxOut}
    (h : TxOut.tryFrom output = .ok txOut) : txOut = TxOut.ofOutput output := by
  unfold TxOut.tryFrom at h
  split at h
  · cases h
  · exact (Outcome.ok.inj h).symm

namespace Protoc.Transaction

theorem toTxIn_fails {tx : Transaction} (hchecks : tx.checksInputs = true)
    (hneg : tx.HasNegative) : Fails tx.toTxIn := by
  have hcollect : ∀ inputs : List Input, (∃ input ∈ inputs, input.Negative) →
      Fails (collect TxIn.tryFrom inputs) := by
    intro inputs h
    obtain ⟨input, hmem, hinput⟩ := h
    rw [fails_collect fun input _ => TxIn.tryFrom_returns input]
    exact ⟨input, hmem, TxIn.tryFrom_fails hinput⟩
  cases tx with
  | ltcTx tx => exact hcollect tx.inputs hneg
  | btcTx tx => exact hcollect tx.inputs hneg
  | bchTx _ => cases hchecks
  | dashTx _ => cases hchecks
  | dogeTx tx => exact hcollect tx.inputs hneg
  | other => exact hneg.elim

theorem of_checksInputs_eq_false {tx : Transaction} (h : tx.checksInputs = false) :
    ∃ message : Tx ValuedInput, tx.toTxIn = .ok (message.inputs.map TxIn.ofValued)
      ∧ tx.toTxOut = collect TxOut.tryFrom message.outputs
      ∧ tx.outputs = message.outputs ∧ tx.hashes = message.inputs.map ValuedInput.hash
      ∧ (tx.HasNegative ↔ ∃ input ∈ message.inputs, input.Negative) := by
  cases tx with
  | bchTx message => exact ⟨message, TxIn.collect_tryFromValued _, rfl, rfl, rfl, Iff.rfl⟩
  | dashTx message => exact ⟨message, TxIn.collect_tryFromValued _, rfl, rfl, rfl, Iff.rfl⟩
  | ltcTx _ => cases h
  | btcTx _ => cases h
  | dogeTx _ => cases h
  | other => cases h

theorem toTxIn_small {tx : Transaction} {inputs : List TxIn} (hok : tx.toTxIn = .ok inputs)
    (hneg : ¬tx.HasNegative) : ∀ txIn ∈ inputs, txIn.Small := by
  cases hchecks : tx.checksInputs with
  | false =>
    obtain ⟨message, hin, -, -, -, hiff⟩ := of_checksInputs_eq_false hchecks
    rw [hin] at hok
    rw [← Outcome.ok.inj hok, List.forall_mem_map]
    -- nothing was checked, but there was nothing to refuse
    intro input hinput
    have hnot : ¬input.Negative := fun h => hneg (hiff.mpr ⟨input, hinput, h⟩)
    rw [ValuedInput.Negative, not_or, Int.not_lt, Int.not_lt] at hnot
    exact ⟨toUInt64_lt hnot.1, toUInt32_lt hnot.2⟩
  | true =>
    have hcollect : ∀ messages : List Input, collect TxIn.tryFrom messages = .ok inputs →
        ∀ txIn ∈ inputs, txIn.Small := by
      intro messages h txIn hmem
      obtain ⟨message, -, hmessage⟩ := Outcome.exists_of_mem_collect h hmem
      exact (TxIn.tryFrom_eq_ok hmessage).2
    cases tx with
    | ltcTx tx => exact hcollect tx.inputs hok
    | btcTx tx => exact hcollect tx.inputs hok
    | bchTx _ => cases hchecks
    | dashTx _ => cases hchecks
    | dogeTx tx => exact hcollect tx.inputs hok
    | other => cases hok

end Protoc.Transaction

section

variable (lib : BitcoinLib) (texts : TextLib) (chars : CharCase) (keys : KeyLib)
  (txidFromStr : Text → Option Txid)

def addresses (tx : Protoc.Transaction) : Result (List Address) :=
  collect (fun output => Address.fromStr texts chars output.address) tx.outputs

/-- What a transaction is refused for besides the numbers of its inputs. -/
def Refused (coinCode : Text) (tx : Protoc.Transaction) (context : ParseContext) : Prop :=
  (∃ output ∈ tx.outputs, output.value.toInt < 0)
    ∨ Fails (ScriptType.fromCoinCode coinCode)
    ∨ Returns (addresses texts chars tx)
      ∧ (Fails (convertVersion keys (lib.xpubText context.extendedPublicKey) .xpub)
        ∨ (∃ hash ∈ tx.hashes, txidFromStr hash = none)
        ∨ Fails (addresses texts chars tx))

theorem fails_keep_bind {α β : Type} {x : Result α} {f : Result α → Result β} :
    Fails (TxData.keep x >>= f) ↔ Returns x ∧ Fails (f x) := by
  cases x with
  | ok a => exact (and_iff_right (returns_ok a)).symm
  | error e => exact (and_iff_right (returns_error e)).symm
  | halted => exact iff_of_false not_fails_halted fun h => h.1 rfl

theorem fromCoinCode_returns (coinCode : Text) : Returns (ScriptType.fromCoinCode coinCode) := by
  unfold ScriptType.fromCoinCode
  repeat' split
  all_goals first | exact returns_ok _ | exact returns_error _

theorem convertVersion_returns (s : Text) (target : Version) :
    Returns (convertVersion keys s target) := by
  unfold convertVersion
  split
  · exact returns_error _
  · split
    · exact returns_error _
    · exact returns_ok _

theorem tryInto_returns (txIn : TxIn) : Returns (TxIn.tryInto txidFromStr txIn) :=
  (returns_okOr _ _).bind fun _ _ => returns_ok _

theorem tryInto_fails (txIn : TxIn) :
    Fails (TxIn.tryInto txidFromStr txIn) ↔ txidFromStr txIn.previousOutput = none :=
  (fails_map (f := fun _ => _)).trans fails_okOr

theorem fromPayload_fails_of_toTxIn {payload : Protoc.Payload} {content : Protoc.SignTransaction}
    {tx : Protoc.Transaction} (context : ParseContext)
    (hcontent : payload.content = some (.signTx content)) (htx : content.transaction = some tx)
    (hin : Fails tx.toTxIn) :
    Fails (fromPayload lib texts chars keys txidFromStr payload context) := by
  obtain ⟨e, he⟩ := hin
  unfold fromPayload
  rw [hcontent]
  dsimp only
  rw [htx]
  show Fails (tx.toTxIn >>= _)
  rw [he]
  exact fails_error e

theorem fromPayload_eq_ok {payload : Protoc.Payload} (context : ParseContext)
    {data : SigningTxData}
    (h : fromPayload lib texts chars keys txidFromStr payload context = .ok data) :
    ∃ content tx, payload.content = some (.signTx content) ∧ content.transaction = some tx
      ∧ tx.toTxIn = .ok data.inputs := by
  unfold fromPayload at h
  split at h
  · rename_i content hcontent
    obtain ⟨tx, htx, h⟩ := bind_eq_ok.mp h
    obtain ⟨inputs, hin, h⟩ := bind_eq_ok.mp h
    obtain ⟨_, -, h⟩ := bind_eq_ok.mp h
    obtain ⟨_, -, h⟩ := bind_eq_ok.mp h
    obtain ⟨_, -, h⟩ := bind_eq_ok.mp h
    obtain ⟨_, -, h⟩ := bind_eq_ok.mp h
    obtain ⟨_, -, h⟩ := bind_eq_ok.mp h
    obtain ⟨_, -, h⟩ := bind_eq_ok.mp h
    obtain ⟨_, -, h⟩ := bind_eq_ok.mp h
    cases h
    exact ⟨content, tx, hcontent, Outcome.okOr_eq_ok.mp htx, hin⟩
  · cases h
  · cases h

/-- **Numbers below zero of a coin that does not check them** are refused with something else,
or not at all. -/
theorem fromPayload_fails {payload : Protoc.Payload} {content : Protoc.SignTransaction}
    {tx : Protoc.Transaction} (context : ParseContext)
    (hcontent : payload.content = some (.signTx content)) (htx : content.transaction = some tx)
    (hchecks : tx.checksInputs = false) :
    Fails (fromPayload lib texts chars keys txidFromStr payload context)
      ↔ Refused lib texts chars keys txidFromStr content.coinCode tx context := by
  obtain ⟨message, hin, hout, houtputs, hhashes, -⟩ :=
    Protoc.Transaction.of_checksInputs_eq_false hchecks
  have hinputs : Fails (collect (TxIn.tryInto txidFromStr)
      (message.inputs.map TxIn.ofValued)) ↔ ∃ hash ∈ tx.hashes, txidFromStr hash = none := by
    rw [fails_collect fun txIn _ => tryInto_returns txidFromStr txIn, hhashes]
    simp only [tryInto_fails, List.mem_map, exists_exists_and_eq_and]
    rfl
  have hnegative : Fails (collect TxOut.tryFrom message.outputs)
      ↔ ∃ output ∈ message.outputs, output.value.toInt < 0 := by
    rw [fails_collect fun output _ => TxOut.tryFrom_returns output]
    simp only [TxOut.tryFrom_fails]
  -- an output is refused at signing for its address and for nothing else
  have haddresses := collect_alike
    (f := fun output => TxOut.tryInto lib texts chars (TxOut.ofOutput output))
    (g := fun output : Protoc.Output => Address.fromStr texts chars output.address)
    (fun _ => fails_map) (fun _ => returns_map) message.outputs
  unfold fromPayload Refused addresses
  rw [hcontent, houtputs]
  dsimp only
  rw [htx]
  show Fails (tx.toTxIn >>= _) ↔ _
  rw [hin, hout, Outcome.ok_bind]
  refine (fails_bind_of_returns (Returns.collect fun output _ => TxOut.tryFrom_returns output)
    fun outputs houtput => ?_).trans (or_congr hnegative Iff.rfl)
  rw [collect_eq_map (fun _ _ => TxOut.tryFrom_eq_ok) houtput]
  refine fails_bind_of_returns (fromCoinCode_returns content.coinCode) fun scriptType _ => ?_
  -- the two lists are converted before the key and looked at after it
  rw [fails_keep_bind, and_iff_right (Returns.collect fun txIn _ => tryInto_returns txidFromStr txIn),
    fails_keep_bind, Outcome.collect_map]
  rw [haddresses.2]
  refine and_congr_right fun hreturns => ?_
  refine fails_bind_of_returns (convertVersion_returns keys _ _) fun extendedPubkey _ => ?_
  refine (fails_bind_of_returns (Returns.collect fun txIn _ => tryInto_returns txidFromStr txIn)
    fun input _ => ?_).trans (or_congr hinputs Iff.rfl)
  exact (fails_map (f := fun _ => _)).trans haddresses.1

/-- **When numbers below zero are refused.** A transaction of a coin that checks its inputs
always is, and one of Bitcoin Cash or Dash exactly if it is refused for something else. Where
they are, no input of what is made has a number that was below zero. -/
theorem fromPayload_negative_iff (payload : Protoc.Payload) (context : ParseContext) :
    ((∀ content tx, payload.content = some (.signTx content) → content.transaction = some tx →
        tx.HasNegative → Fails (fromPayload lib texts chars keys txidFromStr payload context))
      ∧ ∀ data, fromPayload lib texts chars keys txidFromStr payload context = .ok data →
        ∀ txIn ∈ data.inputs, txIn.Small)
    ↔ ∀ content tx, payload.content = some (.signTx content) → content.transaction = some tx →
        tx.HasNegative → tx.checksInputs = true
          ∨ Refused lib texts chars keys txidFromStr content.coinCode tx context := by
  constructor
  · rintro ⟨h, -⟩ content tx hcontent htx hneg
    cases hchecks : tx.checksInputs with
    | true => exact .inl rfl
    | false =>
      refine .inr ?_
      rw [← fromPayload_fails lib texts chars keys txidFromStr context hcontent htx hchecks]
      exact h content tx hcontent htx hneg
  · intro h
    have hfails : ∀ content tx, payload.content = some (.signTx content) →
        content.transaction = some tx → tx.HasNegative →
        Fails (fromPayload lib texts chars keys txidFromStr payload context) := by
      intro content tx hcontent htx hneg
      cases hchecks : tx.checksInputs with
      | true =>
        have hin := Protoc.Transaction.toTxIn_fails hchecks hneg
        exact fromPayload_fails_of_toTxIn lib texts chars keys txidFromStr context hcontent htx hin
      | false =>
        rw [fromPayload_fails lib texts chars keys txidFromStr context hcontent htx hchecks]
        refine (h content tx hcontent htx hneg).resolve_left ?_
        rw [hchecks]
        exact Bool.false_ne_true
    refine ⟨hfails, fun data hdata => ?_⟩
    obtain ⟨content, tx, hcontent, htx, hin⟩ :=
      fromPayload_eq_ok lib texts chars keys txidFromStr context hdata
    refine Protoc.Transaction.toTxIn_small hin fun hneg => ?_
    have hfail := hfails content tx hcontent htx hneg
    rw [hdata] at hfail
    exact not_fails_ok data hfail

end

/-- The bytes of `TxData.accountXpub`. -/
def accountXpubBytes : List UInt8 :=
  [4, 136, 178, 30, 3, 21, 91, 202, 89, 128, 0, 0, 0, 61, 164, 188, 25, 10, 38, 128, 17, 29, 49,
   250, 223, 220, 144, 95, 42, 127, 108, 231, 124, 111, 16, 153, 25, 17, 111, 37, 61, 67, 68, 82,
   25, 3, 119, 76, 145, 15, 207, 7, 250, 150, 136, 110, 167, 148, 240, 213, 202, 237, 154, 254, 48,
   180, 75, 131, 247, 226, 19, 187, 146, 147, 14, 125, 244, 189]

def accountKeys : KeyLib where
  encodeCheck data := if data = accountXpubBytes then TxData.accountXpub else []
  decodeCheck s := if s = TxData.accountXpub then .ok accountXpubBytes else .error "invalid"
  isXpub s := s = TxData.accountXpub
  sha256 := TxData.accountSha256

def zeroTxid (s : Text) : Option Txid :=
  if s = List.replicate 64 '0' then some (Block.ofBytes 32 (List.replicate 32 0)) else none

def negativeTx : Protoc.Transaction :=
  .bchTx ⟨[⟨List.replicate 64 '0', 0, -1, [], TxData.receivePath⟩],
    [⟨Address.zerosAddress, 900, false, []⟩]⟩

def negativePayload : Protoc.Payload where
  content := some (.signTx ⟨"BCH".toList, some negativeTx⟩)
  xfp := "52744703".toList

def inputValues (payload : Protoc.Payload) : Option (List UInt64) :=
  match fromPayload TxData.accountLib TxData.accountTexts CashAddrCodec.asciiCase accountKeys
      zeroTxid payload TxData.accountContext with
  | .ok data => some (data.inputs.map TxIn.value)
  | _ => none

/-- **Minus one is the largest amount there is**, with Bitcoin Cash. -/
theorem fromPayload_negativePayload : negativeTx.HasNegative
    ∧ ∃ data, fromPayload TxData.accountLib TxData.accountTexts CashAddrCodec.asciiCase accountKeys
        zeroTxid negativePayload TxData.accountContext = .ok data
      ∧ data.inputs.map TxIn.value = [0xFFFFFFFFFFFFFFFF] := by
  refine ⟨⟨_, List.mem_singleton_self _, .inl (by decide)⟩, ?_⟩
  have hvalues : inputValues negativePayload = some [0xFFFFFFFFFFFFFFFF] := by decide
  unfold inputValues at hvalues
  split at hvalues
  · rename_i data hdata
    exact ⟨data, hdata, Option.some.inj hvalues⟩
  · cases hvalues

end Legacy

end Keystone3.Bitcoin
