import Keystone3.Bytes.Utf8
import Keystone3.Ethereum.JsonValue

/-!
# Messages of a Cosmos transaction

A message is a JSON value with a type and a value. Of nine types the value is
read and shown, once for the overview (`overviewOf`) and once for the detail
(`detailOf`), and messages of other types are passed over.
-/

namespace Keystone3.Cosmos

open Ethereum (Number Text Value)
open Logic (Outcome)

/-- `CosmosError`, less what is only raised elsewhere. Errors of libraries have no text here. -/
inductive CosmosError where
  | parseTxError (reason : String)
  | serdeError

def CosmosError.text : CosmosError → String
  | parseTxError reason => "cosmos transaction parse failed, reason: `" ++ reason ++ "`"
  | serdeError => ""

abbrev Result (α : Type) : Type := Outcome CosmosError α

structure Coin where
  denom : Text
  amount : Text

structure MsgSend where
  fromAddress : Text
  toAddress : Text
  amount : List Coin

structure MsgDelegate where
  delegatorAddress : Text
  validatorAddress : Text
  amount : Option Coin

structure MsgUndelegate where
  delegatorAddress : Text
  validatorAddress : Text
  amount : Option Coin

structure MsgBeginRedelegate where
  delegatorAddress : Text
  validatorSrcAddress : Text
  validatorDstAddress : Text
  amount : Option Coin

structure MsgWithdrawDelegatorReward where
  delegatorAddress : Text
  validatorAddress : Text

structure Height where
  revisionNumber : Option UInt64
  revisionHeight : Option UInt64

structure MsgTransfer where
  sourcePort : Text
  sourceChannel : Text
  token : Option Coin
  sender : Text
  receiver : Text
  timeoutHeight : Option Height
  timeoutTimestamp : UInt64

structure MsgVote where
  proposalId : UInt64
  voter : Text
  option : Int32

structure MsgSignData where
  data : Text
  signer : Text

/-- The fields of a structure, by their names or in their order. -/
inductive Fields where
  | map (ms : List (Text × Value))
  | seq (vs : List Value)

def structFields (count : Nat) : Value → Option Fields
  | .object ms => some (.map ms)
  | .array vs => if vs.length ≤ count then some (.seq vs) else none
  | _ => none

def Fields.get (index : Nat) (name : String) : Fields → Option Value
  | map ms => ms.lookup name.toList
  | seq vs => vs[index]?

section

variable {α : Type} (read : Value → Option α) (index : Nat) (name : String)

def Fields.required (fields : Fields) : Option α := (fields.get index name).bind read

def readOption : Value → Option (Option α)
  | .null => some none
  | v => (read v).map some

def Fields.optional (fields : Fields) : Option (Option α) :=
  match fields.get index name, fields with
  | some v, _ => readOption read v
  | none, .map _ => some none
  | none, .seq _ => none

def Fields.defaulted (default : α) (fields : Fields) : Option α :=
  match fields.get index name with
  | some v => read v
  | none => some default

end

def readString : Value → Option Text := Value.asStr

/-- `deserialize_string_u64`: a number, or its text. -/
def readU64 (v : Value) : Option UInt64 :=
  match v.asU64 with
  | some n => some (UInt64.ofNat n)
  | none => (v.asStr.bind (Bytes.parseUnsigned (2 ^ 64))).map UInt64.ofNat

def readI32 : Value → Option Int32
  | .number n => n.asI64.bind fun i => if -2 ^ 31 ≤ i ∧ i < 2 ^ 31 then some (Int32.ofInt i) else none
  | _ => none

def readList {α : Type} (read : Value → Option α) : List Value → Option (List α)
  | [] => some []
  | v :: vs => do
    let a ← read v
    let as ← readList read vs
    pure (a :: as)

def readCoin (v : Value) : Option Coin := do
  let fields ← structFields 2 v
  let denom ← fields.required readString 0 "denom"
  let amount ← fields.required readString 1 "amount"
  pure { denom, amount }

def readCoins : Value → Option (List Coin)
  | .array vs => readList readCoin vs
  | _ => none

def readMsgSend (v : Value) : Option MsgSend := do
  let fields ← structFields 3 v
  let fromAddress ← fields.required readString 0 "from_address"
  let toAddress ← fields.required readString 1 "to_address"
  let amount ← fields.required readCoins 2 "amount"
  pure { fromAddress, toAddress, amount }

def readMsgDelegate (v : Value) : Option MsgDelegate := do
  let fields ← structFields 3 v
  let delegatorAddress ← fields.required readString 0 "delegator_address"
  let validatorAddress ← fields.required readString 1 "validator_address"
  let amount ← fields.optional readCoin 2 "amount"
  pure { delegatorAddress, validatorAddress, amount }

def readMsgUndelegate (v : Value) : Option MsgUndelegate := do
  let fields ← structFields 3 v
  let delegatorAddress ← fields.required readString 0 "delegator_address"
  let validatorAddress ← fields.required readString 1 "validator_address"
  let amount ← fields.optional readCoin 2 "amount"
  pure { delegatorAddress, validatorAddress, amount }

def readMsgBeginRedelegate (v : Value) : Option MsgBeginRedelegate := do
  let fields ← structFields 4 v
  let delegatorAddress ← fields.required readString 0 "delegator_address"
  let validatorSrcAddress ← fields.required readString 1 "validator_src_address"
  let validatorDstAddress ← fields.required readString 2 "validator_dst_address"
  let amount ← fields.optional readCoin 3 "amount"
  pure { delegatorAddress, validatorSrcAddress, validatorDstAddress, amount }

def readMsgWithdrawDelegatorReward (v : Value) : Option MsgWithdrawDelegatorReward := do
  let fields ← structFields 2 v
  let delegatorAddress ← fields.required readString 0 "delegator_address"
  let validatorAddress ← fields.required readString 1 "validator_address"
  pure { delegatorAddress, validatorAddress }

def readHeight (v : Value) : Option Height := do
  let fields ← structFields 2 v
  let revisionNumber ← fields.defaulted (fun v => (readU64 v).map some) 0 "revision_number" none
  let revisionHeight ← fields.defaulted (fun v => (readU64 v).map some) 1 "revision_height" none
  pure { revisionNumber, revisionHeight }

def readMsgTransfer (v : Value) : Option MsgTransfer := do
  let fields ← structFields 7 v
  let sourcePort ← fields.required readString 0 "source_port"
  let sourceChannel ← fields.required readString 1 "source_channel"
  let token ← fields.optional readCoin 2 "token"
  let sender ← fields.required readString 3 "sender"
  let receiver ← fields.required readString 4 "receiver"
  let timeoutHeight ← fields.optional readHeight 5 "timeout_height"
  let timeoutTimestamp ← fields.defaulted readU64 6 "timeout_timestamp" 0
  pure { sourcePort, sourceChannel, token, sender, receiver, timeoutHeight, timeoutTimestamp }

def readMsgVote (v : Value) : Option MsgVote := do
  let fields ← structFields 3 v
  let proposalId ← fields.required readU64 0 "proposal_id"
  let voter ← fields.required readString 1 "voter"
  let option ← fields.required readI32 2 "option"
  pure { proposalId, voter, option }

def readMsgSignData (v : Value) : Option MsgSignData := do
  let fields ← structFields 2 v
  let data ← fields.required readString 0 "data"
  let signer ← fields.required readString 1 "signer"
  pure { data, signer }

def fromValue {α : Type} (read : Value → Option α) (v : Value) : Result α :=
  Outcome.okOr .serdeError (read v)

def networks : List (String × String) :=
  [("celestia", "Celestia"), ("dymension_1100", "Dymension"), ("cosmoshub", "Cosmos Hub"),
    ("osmosis", "Osmosis"), ("secret", "Secret Network"), ("akashnet", "Akash"),
    ("crypto-org-chain-mainnet", "Cronos POS chain"), ("iov-mainnet", "Starname"),
    ("sifchain", "Sifchain"), ("shentu", "Shentu"), ("irishub", "IRISnet"), ("regen", "Regen"),
    ("core", "Persistence"), ("sentinelhub", "Sentinel"), ("ixo", "ixo"), ("emoney", "e-Money"),
    ("agoric", "Agoric"), ("bostrom", "bostrom"), ("juno", "Juno"), ("stargaze", "Stargaze"),
    ("axelar-dojo", "Axelar"), ("sommelier", "Sommelier"), ("umee", "Umee"),
    ("gravity-bridge", "Gravity Bridge"), ("tgrade-mainnet", "Tgrade"), ("stride", "Stride"),
    ("evmos_9001", "Evmos"), ("evmos_9000", "Evmos Testnet"), ("injective", "Injective"),
    ("kava_2222", "Kava"), ("quicksilver", "Quicksilver"), ("phoenix", "Terra"),
    ("columbus", "Terra Classic"), ("thorchain", "THORChain"), ("neutron", "Neutron"),
    ("Neutaro", "Neutaro"), ("baby_3535", "Babylon")]

def addressChains : List (String × String) :=
  [("agoric", "agoric-3"), ("akash", "akashnet-2"), ("axelar", "axelar-dojo-1"),
    ("bbn", "baby_3535-1"), ("bostrom", "bostrom"), ("celestia", "celestia"),
    ("cosmos", "cosmoshub-4"), ("cro", "crypto-org-chain-mainnet-1"), ("dym", "dymension_1100-1"),
    ("emoney", "emoney-3"), ("evmos", "evmos_9001-2"), ("gravity", "gravity-bridge-3"),
    ("iaa", "irishub-1"), ("inj", "injective-1"), ("ixo", "ixo-4"), ("juno", "juno-1"),
    ("kava", "kava_2222-10"), ("neutaro", "Neutaro-1"), ("neutron", "neutron"),
    ("osmo", "osmosis-1"), ("persistence", "core-1"), ("quick", "quicksilver-1"),
    ("regen", "regen-1"), ("secret", "secret-4"), ("sent", "sentinelhub-2"),
    ("shentu", "shentu-2.2"), ("sif", "sifchain-1"), ("somm", "sommelier-3"),
    ("star", "iov-mainnet-ibc"), ("stars", "stargaze-1"), ("stride", "stride-1"),
    ("terra", "phoenix-1"), ("tgrade", "tgrade-mainnet-1"), ("thor", "thorchain"),
    ("umee", "umee-1")]

def getNetworkByChainId (chainId : Text) : Text :=
  let parts := chainId.splitOn '-'
  let front := if 1 < parts.length then List.intercalate ['-'] parts.dropLast else chainId
  ((networks.find? fun e => e.1.toList = front).map fun e => e.2.toList).getD "Cosmos Hub".toList

def getChainIdByAddress (address : Text) : Text :=
  ((addressChains.find? fun e => e.1.toList.isPrefixOf address).map fun e => e.2.toList).getD
    "cosmoshub-4".toList

/-- What the code takes from its libraries, with floats of the type `F`. -/
structure CosmosLib (F : Type) where
  readFloat : Text → Option Ethereum.FloatText
  base64Decode : Text → Option (List UInt8)
  isCjk : Char → Bool
  parseFloat : Text → Option F
  ofNumber : Number → F
  div : F → Nat → F
  mul : F → F → F
  floatText : F → Text

structure OverviewSend where
  method : String
  value : Text
  sender : Text
  recipient : Text

structure OverviewDelegate where
  method : String
  value : Text
  sender : Text
  recipient : Text

structure OverviewUndelegate where
  method : String
  value : Text
  recipient : Text
  validator : Text

structure OverviewRedelegate where
  method : String
  value : Text
  recipient : Text
  newValidator : Text

structure OverviewWithdrawReward where
  method : String
  recipient : Text
  validator : Text

structure OverviewTransfer where
  method : String
  value : Text
  sender : Text
  recipient : Text

structure OverviewVote where
  method : String
  voter : Text
  proposal : Text
  voted : String

structure OverviewMessage where
  method : String
  network : Text
  signer : Text
  message : Text
  chainId : Text

inductive MsgOverview where
  | send (o : OverviewSend)
  | delegate (o : OverviewDelegate)
  | undelegate (o : OverviewUndelegate)
  | redelegate (o : OverviewRedelegate)
  | withdrawReward (o : OverviewWithdrawReward)
  | transfer (o : OverviewTransfer)
  | vote (o : OverviewVote)
  | message (o : OverviewMessage)

structure DetailRedelegate extends OverviewRedelegate where
  oldValidator : Text

structure DetailTransfer extends OverviewTransfer where
  sourceChannel : Text

inductive MsgDetail where
  | send (o : OverviewSend)
  | delegate (o : OverviewDelegate)
  | undelegate (o : OverviewUndelegate)
  | redelegate (o : DetailRedelegate)
  | withdrawReward (o : OverviewWithdrawReward)
  | transfer (o : DetailTransfer)
  | vote (o : OverviewVote)
  | message (o : OverviewMessage)

def MsgDetail.isMessage : MsgDetail → Bool
  | message _ => true
  | _ => false

inductive MsgType where
  | send
  | delegate
  | undelegate
  | beginRedelegate
  | withdrawDelegatorReward
  | transfer
  | vote
  | signData
deriving DecidableEq

def msgTypes : List (String × MsgType) :=
  [("MsgSend", .send), ("MsgDelegate", .delegate), ("MsgUndelegate", .undelegate),
    ("MsgBeginRedelegate", .beginRedelegate),
    ("MsgWithdrawDelegatorReward", .withdrawDelegatorReward),
    ("MsgWithdrawDelegationReward", .withdrawDelegatorReward), ("MsgTransfer", .transfer),
    ("MsgVote", .vote), ("MsgSignData", .signData)]

/-- What is behind the last slash and the last point. -/
def detectMsgType (msgType : Option Text) : Text :=
  (((msgType.getD []).splitOn '/').flatMap fun part => part.splitOn '.').getLast?.getD []

def typeOf (each : Value) : Option MsgType :=
  let name := detectMsgType (each.index "type".toList).asStr
  (msgTypes.find? fun e => e.1.toList = name).map fun e => e.2

def IsKnown (each : Value) : Prop := typeOf each ≠ none

def IsSignData (each : Value) : Prop := typeOf each = some .signData

section

variable {F : Type} (lib : CosmosLib F)

def unitOf (denom : Text) : Option (Nat × String) :=
  if denom.map Char.toLower = "uatom".toList then some (10 ^ 6, " ATOM")
  else if denom.map Char.toLower = "adym".toList then some (10 ^ 18, " DYM")
  else if denom = "inj".toList then some (10 ^ 18, " INJ")
  else none

def formatCoin (coin : Coin) : Option Text :=
  match unitOf coin.denom with
  | some (unit, name) =>
    (lib.parseFloat coin.amount).map fun amount => lib.floatText (lib.div amount unit) ++ name.toList
  | none => some (coin.amount ++ ' ' :: coin.denom)

def formatAmount (amounts : List Coin) : Text :=
  List.intercalate [','] (amounts.filterMap (formatCoin lib))

def formatOptional (amount : Option Coin) : Text :=
  (amount.map fun coin => formatAmount lib [coin]).getD []

def OverviewSend.tryFrom (msg : MsgSend) : OverviewSend :=
  ⟨"Send", formatAmount lib msg.amount, msg.fromAddress, msg.toAddress⟩

def OverviewDelegate.tryFrom (msg : MsgDelegate) : OverviewDelegate :=
  ⟨"Delegate", formatOptional lib msg.amount, msg.delegatorAddress, msg.validatorAddress⟩

def OverviewUndelegate.tryFrom (msg : MsgUndelegate) : OverviewUndelegate :=
  ⟨"Undelegate", formatOptional lib msg.amount, msg.delegatorAddress, msg.validatorAddress⟩

def OverviewRedelegate.tryFrom (msg : MsgBeginRedelegate) : OverviewRedelegate :=
  ⟨"Re-delegate", formatOptional lib msg.amount, msg.delegatorAddress, msg.validatorDstAddress⟩

def OverviewWithdrawReward.tryFrom (msg : MsgWithdrawDelegatorReward) : OverviewWithdrawReward :=
  ⟨"Withdraw Reward", msg.delegatorAddress, msg.validatorAddress⟩

def OverviewTransfer.tryFrom (msg : MsgTransfer) : OverviewTransfer :=
  ⟨"IBC Transfer", (msg.token.bind (formatCoin lib)).getD [], msg.sender, msg.receiver⟩

def votedText (option : Int32) : String :=
  match option.toInt with
  | 0 => "UNSPECIFIED"
  | 1 => "YES"
  | 2 => "ABSTAIN"
  | 3 => "NO"
  | 4 => "NO_WITH_VETO"
  | _ => ""

def OverviewVote.tryFrom (msg : MsgVote) : OverviewVote :=
  ⟨"Vote", msg.voter, '#' :: Nat.toDigits 10 msg.proposalId.toNat, votedText msg.option⟩

def messageText (data : Text) : Text :=
  match (lib.base64Decode data).bind Bytes.ofUtf8 with
  | some text => if text.any lib.isCjk = true then data else text
  | none => data

def OverviewMessage.tryFrom (msg : MsgSignData) : OverviewMessage :=
  let chainId := getChainIdByAddress msg.signer
  ⟨"Message", getNetworkByChainId chainId, msg.signer, messageText lib msg.data, chainId⟩

def DetailRedelegate.tryFrom (msg : MsgBeginRedelegate) : DetailRedelegate :=
  { OverviewRedelegate.tryFrom lib msg with oldValidator := msg.validatorSrcAddress }

def DetailTransfer.tryFrom (msg : MsgTransfer) : DetailTransfer :=
  { OverviewTransfer.tryFrom lib msg with sourceChannel := msg.sourceChannel }

structure Views (α : Type) where
  send : MsgSend → α
  delegate : MsgDelegate → α
  undelegate : MsgUndelegate → α
  redelegate : MsgBeginRedelegate → α
  withdrawReward : MsgWithdrawDelegatorReward → α
  transfer : MsgTransfer → α
  vote : MsgVote → α
  message : MsgSignData → α

def viewOf {α : Type} (views : Views α) (each : Value) : Result (Option α) :=
  let value := each.index "value".toList
  match typeOf each with
  | some .send => do
    let msg ← fromValue readMsgSend value
    pure (some (views.send msg))
  | some .delegate => do
    let msg ← fromValue readMsgDelegate value
    pure (some (views.delegate msg))
  | some .undelegate => do
    let msg ← fromValue readMsgUndelegate value
    pure (some (views.undelegate msg))
  | some .beginRedelegate => do
    let msg ← fromValue readMsgBeginRedelegate value
    pure (some (views.redelegate msg))
  | some .withdrawDelegatorReward => do
    let msg ← fromValue readMsgWithdrawDelegatorReward value
    pure (some (views.withdrawReward msg))
  | some .transfer => do
    let msg ← fromValue readMsgTransfer value
    pure (some (views.transfer msg))
  | some .vote => do
    let msg ← fromValue readMsgVote value
    pure (some (views.vote msg))
  | some .signData => do
    let msg ← fromValue readMsgSignData value
    pure (some (views.message msg))
  | none => pure none

def overviewViews : Views MsgOverview where
  send msg := .send (.tryFrom lib msg)
  delegate msg := .delegate (.tryFrom lib msg)
  undelegate msg := .undelegate (.tryFrom lib msg)
  redelegate msg := .redelegate (.tryFrom lib msg)
  withdrawReward msg := .withdrawReward (.tryFrom msg)
  transfer msg := .transfer (.tryFrom lib msg)
  vote msg := .vote (.tryFrom msg)
  message msg := .message (.tryFrom lib msg)

def detailViews : Views MsgDetail where
  send msg := .send (.tryFrom lib msg)
  delegate msg := .delegate (.tryFrom lib msg)
  undelegate msg := .undelegate (.tryFrom lib msg)
  redelegate msg := .redelegate (.tryFrom lib msg)
  withdrawReward msg := .withdrawReward (.tryFrom msg)
  transfer msg := .transfer (.tryFrom lib msg)
  vote msg := .vote (.tryFrom msg)
  message msg := .message (.tryFrom lib msg)

/-- One message of `CosmosTxOverview::from_value`. -/
def overviewOf (each : Value) : Result (Option MsgOverview) := viewOf (overviewViews lib) each

/-- One message of `CosmosTxDetail::from_value`. -/
def detailOf (each : Value) : Result (Option MsgDetail) := viewOf (detailViews lib) each

end

theorem exists_of_fromValue {α β : Type} {read : Value → Option β} {v : Value} {f : β → α}
    {o : Option α} (h : (fromValue read v >>= fun msg => pure (some (f msg))) = .ok o) :
    ∃ msg, o = some (f msg) := by
  obtain ⟨msg, -, h⟩ := Outcome.bind_eq_ok.mp h
  cases h
  exact ⟨msg, rfl⟩

theorem viewOf_isSome {α : Type} {views : Views α} {each : Value} {o : Option α}
    (h : viewOf views each = .ok o) : o.isSome = true ↔ IsKnown each := by
  unfold IsKnown
  unfold viewOf at h
  dsimp only at h
  cases htype : typeOf each with
  | none =>
    rw [htype] at h
    cases h
    exact iff_of_false Bool.false_ne_true fun hne => hne rfl
  | some t =>
    rw [htype] at h
    have hsome : o.isSome = true := by
      cases t
      all_goals
        obtain ⟨msg, rfl⟩ := exists_of_fromValue h
        rfl
    exact iff_of_true hsome (Option.some_ne_none t)

theorem detailOf_isMessage {F : Type} {lib : CosmosLib F} {each : Value} {d : MsgDetail}
    (h : detailOf lib each = .ok (some d)) : d.isMessage = true ↔ IsSignData each := by
  unfold IsSignData
  unfold detailOf viewOf at h
  dsimp only at h
  cases htype : typeOf each with
  | none =>
    rw [htype] at h
    cases h
  | some t =>
    rw [htype] at h
    cases t
    case signData =>
      obtain ⟨msg, hd⟩ := exists_of_fromValue h
      cases hd
      exact iff_of_true rfl rfl
    all_goals
      obtain ⟨msg, hd⟩ := exists_of_fromValue h
      cases hd
      exact iff_of_false Bool.false_ne_true (by decide)

end Keystone3.Cosmos
