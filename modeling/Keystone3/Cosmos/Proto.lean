import Keystone3.Cosmos.Messages

/-!
# Cosmos documents in protocol buffers

The messages of a document are decoded by their type URLs and written as JSON
(`mapMessage`), and the document is written with them (`SignDoc.parse`). Of
seven types the JSON is read back as what was decoded (`viewOf_mapMessage`).
-/

namespace Keystone3.Cosmos

open Ethereum (Number Text Value)
open Logic (Outcome)

structure Any where
  typeUrl : Text
  value : List UInt8

/-- `Input` and `Output` of `MsgMultiSend`. -/
structure Party where
  address : Text
  coins : List Coin

structure MsgMultiSend where
  inputs : List Party
  outputs : List Party

structure MsgUpdateClient where
  clientId : Text
  signer : Text

structure ProtoHeight where
  revisionNumber : UInt64
  revisionHeight : UInt64

structure ProtoMsgTransfer where
  sourcePort : Text
  sourceChannel : Text
  token : Option Coin
  sender : Text
  receiver : Text
  timeoutHeight : Option ProtoHeight
  timeoutTimestamp : UInt64

structure MsgExec where
  grantee : Text
  msgs : List Any

structure TxBody where
  messages : List Any
  memo : Text

structure Fee where
  amount : List Coin
  gasLimit : UInt64
  payer : Text
  granter : Text

/-- `ModeInfo`, as far as it is checked. -/
inductive ModeInfo where
  | absent
  | single
  | multi (modeInfos : List ModeInfo)

structure SignerInfo where
  publicKey : Option Any
  modeInfo : Option ModeInfo

structure AuthInfo where
  signerInfos : List SignerInfo
  fee : Option Fee

structure SignDoc where
  bodyBytes : List UInt8
  authInfoBytes : List UInt8
  chainId : Text
  accountNumber : UInt64

/-- The decoders of the library. A message in another one has fewer bytes. -/
structure ProtoLib where
  signDoc : List UInt8 → Option SignDoc
  txBody : List UInt8 → Option TxBody
  authInfo : List UInt8 → Option AuthInfo
  pubKey : List UInt8 → Option (List UInt8)
  msgSend : List UInt8 → Option MsgSend
  msgDelegate : List UInt8 → Option MsgDelegate
  msgUndelegate : List UInt8 → Option MsgUndelegate
  msgTransfer : List UInt8 → Option ProtoMsgTransfer
  msgVote : List UInt8 → Option MsgVote
  msgWithdrawDelegatorReward : List UInt8 → Option MsgWithdrawDelegatorReward
  msgBeginRedelegate : List UInt8 → Option MsgBeginRedelegate
  msgMultiSend : List UInt8 → Option MsgMultiSend
  msgUpdateClient : List UInt8 → Option MsgUpdateClient
  msgExec : List UInt8 → Option MsgExec
  msgExec_lt : ∀ bytes exec, msgExec bytes = some exec →
    ∀ message ∈ exec.msgs, message.value.length < bytes.length

def Height.tryFrom (height : ProtoHeight) : Height :=
  ⟨some height.revisionNumber, some height.revisionHeight⟩

def MsgTransfer.tryFrom (msg : ProtoMsgTransfer) : MsgTransfer :=
  { msg with timeoutHeight := msg.timeoutHeight.map Height.tryFrom }

def objectOf (fields : List (String × Value)) : Value :=
  .object (fields.map fun field => (field.1.toList, field.2))

def Coin.toJson (coin : Coin) : Value :=
  objectOf [("denom", .string coin.denom), ("amount", .string coin.amount)]

def coinsJson (coins : List Coin) : Value := .array (coins.map Coin.toJson)

def optionJson {α : Type} (write : α → Value) (o : Option α) : Value := (o.map write).getD .null

def u64Json (n : UInt64) : Value := .number (.unsigned n)

def i32Json (i : Int32) : Value :=
  if h : 0 ≤ i.toInt then .number (.unsigned (UInt64.ofNat i.toInt.toNat))
  else .number (.negative ⟨(-i.toInt - 1).toNat, by have := i.le_toInt; omega⟩)

def MsgSend.toJson (msg : MsgSend) : Value :=
  objectOf [("from_address", .string msg.fromAddress), ("to_address", .string msg.toAddress),
    ("amount", coinsJson msg.amount)]

def MsgDelegate.toJson (msg : MsgDelegate) : Value :=
  objectOf [("delegator_address", .string msg.delegatorAddress),
    ("validator_address", .string msg.validatorAddress),
    ("amount", optionJson Coin.toJson msg.amount)]

def MsgUndelegate.toJson (msg : MsgUndelegate) : Value :=
  objectOf [("delegator_address", .string msg.delegatorAddress),
    ("validator_address", .string msg.validatorAddress),
    ("amount", optionJson Coin.toJson msg.amount)]

def MsgVote.toJson (msg : MsgVote) : Value :=
  objectOf [("proposal_id", u64Json msg.proposalId), ("voter", .string msg.voter),
    ("option", i32Json msg.option)]

def Height.toJson (height : Height) : Value :=
  objectOf [("revision_number", optionJson u64Json height.revisionNumber),
    ("revision_height", optionJson u64Json height.revisionHeight)]

def MsgTransfer.toJson (msg : MsgTransfer) : Value :=
  objectOf [("source_port", .string msg.sourcePort), ("source_channel", .string msg.sourceChannel),
    ("token", optionJson Coin.toJson msg.token), ("sender", .string msg.sender),
    ("receiver", .string msg.receiver),
    ("timeout_height", optionJson Height.toJson msg.timeoutHeight),
    ("timeout_timestamp", u64Json msg.timeoutTimestamp)]

def MsgWithdrawDelegatorReward.toJson (msg : MsgWithdrawDelegatorReward) : Value :=
  objectOf [("delegator_address", .string msg.delegatorAddress),
    ("validator_address", .string msg.validatorAddress)]

def MsgBeginRedelegate.toJson (msg : MsgBeginRedelegate) : Value :=
  objectOf [("delegator_address", .string msg.delegatorAddress),
    ("validator_src_address", .string msg.validatorSrcAddress),
    ("validator_dst_address", .string msg.validatorDstAddress),
    ("amount", optionJson Coin.toJson msg.amount)]

def Party.toJson (party : Party) : Value :=
  objectOf [("address", .string party.address), ("coins", coinsJson party.coins)]

def MsgMultiSend.toJson (msg : MsgMultiSend) : Value :=
  objectOf [("inputs", .array (msg.inputs.map Party.toJson)),
    ("outputs", .array (msg.outputs.map Party.toJson))]

def MsgUpdateClient.toJson (msg : MsgUpdateClient) : Value :=
  objectOf [("client_id", .string msg.clientId), ("signer", .string msg.signer)]

def Fee.toJson (fee : Fee) : Value :=
  objectOf [("amount", coinsJson fee.amount), ("gas", u64Json fee.gasLimit),
    ("payer", .string fee.payer), ("granter", .string fee.granter)]

def typed (typeUrl : String) (value : Value) : Value :=
  objectOf [("type", .string typeUrl.toList), ("value", value)]

section

variable {α : Type} (fields : List (String × Value)) (read : Value → Option α) (index : Nat)
  (name : String)

theorem lookup_fields : (fields.map fun field => (field.1.toList, field.2)).lookup name.toList
    = fields.lookup name := by
  induction fields with
  | nil => rfl
  | cons field fields ih =>
    have hbeq : (name.toList == field.1.toList) = (name == field.1) := by
      rw [Bool.eq_iff_iff, beq_iff_eq, beq_iff_eq, String.toList_inj]
    rw [List.map_cons, List.lookup_cons, List.lookup_cons, hbeq, ih]

theorem lookup_of_ne {name key : String} (h : name ≠ key) (v : Value)
    (fields : List (String × Value)) : ((key, v) :: fields).lookup name = fields.lookup name := by
  rw [List.lookup_cons, beq_false_of_ne h]

theorem index_objectOf : (objectOf fields).index name.toList = (fields.lookup name).getD .null :=
  congrArg (fun o => o.getD .null) (lookup_fields fields name)

def written : Fields := .map (fields.map fun field => (field.1.toList, field.2))

theorem structFields_objectOf (count : Nat) :
    structFields count (objectOf fields) = some (written fields) := rfl

theorem required_written : (written fields).required read index name
    = (fields.lookup name).bind read :=
  congrArg (fun o => o.bind read) (lookup_fields fields name)

theorem defaulted_written (default : α) : (written fields).defaulted read index name default
    = match fields.lookup name with
      | some v => read v
      | none => some default := by
  show (match (List.map _ fields).lookup name.toList with
      | some v => read v
      | none => some default) = _
  rw [lookup_fields]

theorem optional_written : (written fields).optional read index name
    = match fields.lookup name with
      | some v => readOption read v
      | none => some none := by
  have hget : (written fields).get index name = fields.lookup name := lookup_fields fields name
  unfold Fields.optional
  rw [hget]
  cases fields.lookup name with
  | none => rfl
  | some v => rfl

variable {read} in
theorem readOption_optionJson {write : α → Value} (hread : ∀ a, read (write a) = some a)
    (hnull : ∀ a, write a ≠ .null) (o : Option α) : readOption read (optionJson write o) = some o := by
  cases o with
  | none => rfl
  | some a =>
    show readOption read (write a) = some (some a)
    unfold readOption
    split
    · rename_i heq
      exact absurd heq (hnull a)
    · rw [hread]
      rfl

end

theorem readCoin_toJson (coin : Coin) : readCoin coin.toJson = some coin := by
  simp [readCoin, Coin.toJson, structFields_objectOf, required_written, List.lookup_cons_self,
    lookup_of_ne, readString,
    Value.asStr]

theorem readCoins_coinsJson (coins : List Coin) : readCoins (coinsJson coins) = some coins := by
  show readList readCoin (coins.map Coin.toJson) = some coins
  induction coins with
  | nil => rfl
  | cons coin coins ih =>
    rw [List.map_cons, readList, readCoin_toJson, ih]
    rfl

theorem readOption_coin (coin : Option Coin) :
    readOption readCoin (optionJson Coin.toJson coin) = some coin :=
  readOption_optionJson readCoin_toJson (fun _ hnull => by cases hnull) coin

theorem readU64_u64Json (n : UInt64) : readU64 (u64Json n) = some n := by
  show some (UInt64.ofNat n.toNat) = some n
  rw [UInt64.ofNat_toNat]

theorem readI32_i32Json (i : Int32) : readI32 (i32Json i) = some i := by
  have hlow := i.le_toInt
  have hhigh := i.toInt_lt
  have hread (n : Number) (h : n.asI64 = some i.toInt) : readI32 (.number n) = some i := by
    rw [readI32, h, Option.bind_some, if_pos ⟨hlow, hhigh⟩, Int32.ofInt_toInt]
  unfold i32Json
  split
  case isTrue hnonneg =>
    apply hread
    have htoNat : (UInt64.ofNat i.toInt.toNat).toNat = i.toInt.toNat :=
      UInt64.toNat_ofNat_of_lt' (by rw [UInt64.size]; omega)
    rw [Number.asI64, htoNat, if_pos (by omega), Int.toNat_of_nonneg hnonneg]
  case isFalse hneg =>
    apply hread
    rw [Number.asI64]
    congr 1
    dsimp only
    omega

theorem readHeight_toJson (height : ProtoHeight) :
    readHeight (Height.tryFrom height).toJson = some (Height.tryFrom height) := by
  simp [readHeight, Height.tryFrom, Height.toJson, structFields_objectOf, defaulted_written,
    List.lookup_cons_self, lookup_of_ne, optionJson, readU64_u64Json]

theorem readOption_height (height : Option ProtoHeight) :
    readOption readHeight (optionJson Height.toJson (height.map Height.tryFrom))
      = some (height.map Height.tryFrom) := by
  cases height with
  | none => rfl
  | some height =>
    show (readHeight (Height.tryFrom height).toJson).map some = _
    rw [readHeight_toJson]
    rfl

theorem readMsgSend_toJson (msg : MsgSend) : readMsgSend msg.toJson = some msg := by
  simp [readMsgSend, MsgSend.toJson, structFields_objectOf, required_written,
    List.lookup_cons_self, lookup_of_ne,
    readString, Value.asStr, readCoins_coinsJson]

theorem readMsgDelegate_toJson (msg : MsgDelegate) : readMsgDelegate msg.toJson = some msg := by
  simp [readMsgDelegate, MsgDelegate.toJson, structFields_objectOf, optional_written,
    required_written, List.lookup_cons_self, lookup_of_ne, readString, Value.asStr,
    readOption_coin]

theorem readMsgUndelegate_toJson (msg : MsgUndelegate) :
    readMsgUndelegate msg.toJson = some msg := by
  simp [readMsgUndelegate, MsgUndelegate.toJson, structFields_objectOf, optional_written,
    required_written, List.lookup_cons_self, lookup_of_ne, readString, Value.asStr,
    readOption_coin]

theorem readMsgBeginRedelegate_toJson (msg : MsgBeginRedelegate) :
    readMsgBeginRedelegate msg.toJson = some msg := by
  simp [readMsgBeginRedelegate, MsgBeginRedelegate.toJson, structFields_objectOf,
    optional_written, required_written, List.lookup_cons_self,
    lookup_of_ne, readString,
    Value.asStr, readOption_coin]

theorem readMsgWithdrawDelegatorReward_toJson (msg : MsgWithdrawDelegatorReward) :
    readMsgWithdrawDelegatorReward msg.toJson = some msg := by
  simp [readMsgWithdrawDelegatorReward, MsgWithdrawDelegatorReward.toJson, structFields_objectOf,
    required_written, List.lookup_cons_self, lookup_of_ne, readString, Value.asStr]

theorem readMsgTransfer_toJson (msg : ProtoMsgTransfer) :
    readMsgTransfer (MsgTransfer.tryFrom msg).toJson = some (MsgTransfer.tryFrom msg) := by
  simp [readMsgTransfer, MsgTransfer.tryFrom, MsgTransfer.toJson, structFields_objectOf,
    optional_written, required_written, defaulted_written, List.lookup_cons_self, lookup_of_ne,
    readString, Value.asStr, readOption_coin, readOption_height, readU64_u64Json]

theorem readMsgVote_toJson (msg : MsgVote) : readMsgVote msg.toJson = some msg := by
  simp [readMsgVote, MsgVote.toJson, structFields_objectOf, required_written,
    List.lookup_cons_self, lookup_of_ne,
    readString, Value.asStr, readU64_u64Json, readI32_i32Json]

/-- A type of messages: its URL, its name in errors and what is written of it. -/
structure Wrapper where
  typeUrl : String
  name : String
  toJson : List UInt8 → Option Value

def deserializeError (name : String) (reason : String) : CosmosError :=
  .parseTxError ("proto " ++ name ++ " deserialize failed " ++ reason)

section

variable (proto : ProtoLib)

def wrappers : List Wrapper :=
  [⟨"/cosmos.bank.v1beta1.MsgSend", "MsgSend",
      fun bytes => (proto.msgSend bytes).map MsgSend.toJson⟩,
    ⟨"/cosmos.staking.v1beta1.MsgDelegate", "MsgDelegate",
      fun bytes => (proto.msgDelegate bytes).map MsgDelegate.toJson⟩,
    ⟨"/cosmos.staking.v1beta1.MsgUndelegate", "MsgUndelegate",
      fun bytes => (proto.msgUndelegate bytes).map MsgUndelegate.toJson⟩,
    ⟨"/ibc.applications.transfer.v1.MsgTransfer", "MsgTransfer",
      fun bytes => (proto.msgTransfer bytes).map fun msg => (MsgTransfer.tryFrom msg).toJson⟩,
    ⟨"/cosmos.gov.v1beta1.MsgVote", "MsgVote",
      fun bytes => (proto.msgVote bytes).map MsgVote.toJson⟩,
    ⟨"/cosmos.distribution.v1beta1.MsgWithdrawDelegatorReward", "MsgTransfer",
      fun bytes => (proto.msgWithdrawDelegatorReward bytes).map MsgWithdrawDelegatorReward.toJson⟩,
    ⟨"/cosmos.staking.v1beta1.MsgBeginRedelegate", "MsgTransfer",
      fun bytes => (proto.msgBeginRedelegate bytes).map MsgBeginRedelegate.toJson⟩,
    ⟨"/cosmos.bank.v1beta1.MsgMultiSend", "MsgMultiSend",
      fun bytes => (proto.msgMultiSend bytes).map MsgMultiSend.toJson⟩,
    ⟨"/ibc.core.client.v1.MsgUpdateClient", "MsgMultiSend",
      fun bytes => (proto.msgUpdateClient bytes).map MsgUpdateClient.toJson⟩]

def notSupportMessage (typeUrl : Text) : Value :=
  typed "/NotSupportMessage"
    (objectOf [("type_url", .string typeUrl), ("err", .string "the type is not support!".toList)])

def Wrapper.map (w : Wrapper) (bytes : List UInt8) : Result Value := do
  let value ← Outcome.okOr (deserializeError w.name "") (w.toJson bytes)
  pure (typed w.typeUrl value)

def MsgExec.typeUrl : String := "/cosmos.authz.v1beta1.MsgExec"

def MsgExec.error (reason : String) : CosmosError := deserializeError "MsgMultiSend" reason

def MsgExec.toJson (grantee : Text) (msgs : List Value) : Value :=
  typed MsgExec.typeUrl (objectOf [("grantee", .string grantee), ("msgs", .array msgs)])

def mapPlain (message : Any) : Result Value :=
  match (wrappers proto).find? fun w => w.typeUrl.toList = message.typeUrl with
  | some w => w.map message.value
  | none => pure (notSupportMessage message.typeUrl)

/-- One message of `map_messages`. -/
def mapMessage (message : Any) : Result Value :=
  if message.typeUrl = MsgExec.typeUrl.toList then
    match hexec : proto.msgExec message.value with
    | none => .error (MsgExec.error "")
    | some exec => do
      let msgs ← Outcome.mapError (fun e => MsgExec.error e.text)
        (Outcome.collect (fun m => mapMessage m.1) exec.msgs.attach)
      pure (MsgExec.toJson exec.grantee msgs)
  else mapPlain proto message
termination_by message.value.length
decreasing_by exact proto.msgExec_lt _ exec hexec m.1 m.2

def mapMessages (messages : List Any) : Result (List Value) :=
  Outcome.collect (mapMessage proto) messages

def directTypes : List (String × MsgType) :=
  [("/cosmos.bank.v1beta1.MsgSend", .send), ("/cosmos.staking.v1beta1.MsgDelegate", .delegate),
    ("/cosmos.staking.v1beta1.MsgUndelegate", .undelegate),
    ("/ibc.applications.transfer.v1.MsgTransfer", .transfer),
    ("/cosmos.gov.v1beta1.MsgVote", .vote),
    ("/cosmos.distribution.v1beta1.MsgWithdrawDelegatorReward", .withdrawDelegatorReward),
    ("/cosmos.staking.v1beta1.MsgBeginRedelegate", .beginRedelegate)]

def directType (typeUrl : Text) : Option MsgType :=
  (directTypes.find? fun e => e.1.toList = typeUrl).map fun e => e.2

def Any.view {α : Type} (views : Views α) (message : Any) : Option α :=
  match directType message.typeUrl with
  | some .send => (proto.msgSend message.value).map views.send
  | some .delegate => (proto.msgDelegate message.value).map views.delegate
  | some .undelegate => (proto.msgUndelegate message.value).map views.undelegate
  | some .transfer =>
    (proto.msgTransfer message.value).map fun msg => views.transfer (.tryFrom msg)
  | some .vote => (proto.msgVote message.value).map views.vote
  | some .withdrawDelegatorReward =>
    (proto.msgWithdrawDelegatorReward message.value).map views.withdrawReward
  | some .beginRedelegate => (proto.msgBeginRedelegate message.value).map views.redelegate
  | some .signData => none
  | none => none

variable {proto} {α : Type} {views : Views α}

theorem value_typed (typeUrl : String) (value : Value) :
    (typed typeUrl value).index "value".toList = value := by
  rw [typed, index_objectOf, lookup_of_ne (by decide), List.lookup_cons_self]
  rfl

theorem typeOf_typed {typeUrl : String} {t : Option MsgType}
    (h : (msgTypes.find? fun e => e.1.toList = detectMsgType (some typeUrl.toList)).map
      (fun e => e.2) = t) (value : Value) : typeOf (typed typeUrl value) = t := by
  have htype : (typed typeUrl value).index "type".toList = .string typeUrl.toList := by
    rw [typed, index_objectOf, List.lookup_cons_self]
    rfl
  rw [typeOf, htype]
  exact h

theorem mapMessage_cases {message : Any} {v : Value} (h : mapMessage proto message = .ok v) :
    (∃ w ∈ wrappers proto, message.typeUrl = w.typeUrl.toList ∧
      ∃ value, w.toJson message.value = some value ∧ v = typed w.typeUrl value) ∨
    (message.typeUrl = MsgExec.typeUrl.toList ∧ ∃ value, v = typed MsgExec.typeUrl value) ∨
    ((∀ w ∈ wrappers proto, w.typeUrl.toList ≠ message.typeUrl) ∧
      v = notSupportMessage message.typeUrl) := by
  rw [mapMessage] at h
  split at h
  case isTrue hurl =>
    refine .inr (.inl ⟨hurl, ?_⟩)
    split at h
    · cases h
    · obtain ⟨msgs, -, h⟩ := Outcome.bind_eq_ok.mp h
      cases h
      exact ⟨_, rfl⟩
  case isFalse hurl =>
    rw [mapPlain] at h
    split at h
    case h_1 w hfind =>
      have hsome := List.find?_some hfind
      obtain ⟨value, hvalue, h⟩ := Outcome.bind_eq_ok.mp h
      cases h
      exact .inl ⟨w, List.mem_of_find?_eq_some hfind, (of_decide_eq_true hsome).symm, value,
        Outcome.okOr_eq_ok.mp hvalue, rfl⟩
    case h_2 hnone =>
      cases h
      refine .inr (.inr ⟨fun w hw heq => ?_, rfl⟩)
      exact List.find?_eq_none.mp hnone w hw (decide_eq_true heq)

theorem directType_eq_none {typeUrl : Text}
    (h : ∀ w ∈ wrappers proto, w.typeUrl.toList ≠ typeUrl) : directType typeUrl = none := by
  have hurls : ∀ url ∈ (wrappers proto).map fun w => w.typeUrl, url.toList ≠ typeUrl := by
    intro url hurl
    obtain ⟨w, hw, rfl⟩ := List.mem_map.mp hurl
    exact h w hw
  rw [directType, List.find?_eq_none.mpr]
  · rfl
  · intro e he heq
    refine hurls e.1 ?_ (of_decide_eq_true heq)
    have hmem : e.1 ∈ directTypes.map fun e => e.1 := List.mem_map_of_mem he
    have hsub : directTypes.map (fun e => e.1) ⊆ (wrappers proto).map fun w => w.typeUrl := by
      show directTypes.map (fun e => e.1) ⊆
        (directTypes.map (fun e => e.1)) ++ ["/cosmos.bank.v1beta1.MsgMultiSend",
          "/ibc.core.client.v1.MsgUpdateClient"]
      exact List.subset_append_left _ _
    exact hsub hmem

theorem typeOf_mapMessage {message : Any} {v : Value} (h : mapMessage proto message = .ok v) :
    typeOf v = directType message.typeUrl := by
  obtain ⟨w, hmem, hurl, value, -, rfl⟩ | ⟨hurl, value, rfl⟩ | ⟨hother, rfl⟩ := mapMessage_cases h
  · rw [hurl]
    simp only [wrappers, List.mem_cons, List.not_mem_nil, or_false] at hmem
    rcases hmem with rfl | rfl | rfl | rfl | rfl | rfl | rfl | rfl | rfl
    all_goals
      dsimp only
      exact typeOf_typed (by decide) value
  · rw [hurl]
    exact typeOf_typed (by decide) value
  · rw [directType_eq_none hother]
    exact typeOf_typed (by decide) _

theorem viewOf_decoded {β γ : Type} (t : MsgType) {message : Any} {v value : Value}
    {decode : List UInt8 → Option β} {write : β → Value} {read : Value → Option γ}
    {convert : β → γ} {toView : γ → α}
    (hvalue : (decode message.value).map write = some value)
    (hdirect : directType message.typeUrl = some t)
    (htype : typeOf v = directType message.typeUrl) (hindex : v.index "value".toList = value)
    (hview : typeOf v = some t → viewOf views v
      = fromValue read (v.index "value".toList) >>= fun msg => pure (some (toView msg)))
    (hany : directType message.typeUrl = some t → message.view proto views
      = (decode message.value).map fun msg => toView (convert msg))
    (hread : ∀ msg, read (write msg) = some (convert msg)) :
    viewOf views v = .ok (message.view proto views) := by
  obtain ⟨msg, hmsg, rfl⟩ := Option.map_eq_some_iff.mp hvalue
  rw [hview (htype.trans hdirect), hindex, fromValue, hread, hany hdirect, hmsg]
  rfl

theorem viewOf_other {message : Any} {v : Value} (hdirect : directType message.typeUrl = none)
    (htype : typeOf v = directType message.typeUrl) :
    viewOf views v = .ok (message.view proto views) := by
  rw [viewOf, htype, Any.view, hdirect]
  rfl

theorem viewOf_mapMessage {message : Any} {v : Value} (h : mapMessage proto message = .ok v) :
    viewOf views v = .ok (message.view proto views) := by
  have htype := typeOf_mapMessage h
  obtain ⟨w, hmem, hurl, value, hvalue, rfl⟩ | ⟨hurl, value, rfl⟩ | ⟨hother, rfl⟩ :=
    mapMessage_cases h
  · simp only [wrappers, List.mem_cons, List.not_mem_nil, or_false] at hmem
    rcases hmem with rfl | rfl | rfl | rfl | rfl | rfl | rfl | rfl | rfl
    all_goals dsimp only at hurl
    · exact viewOf_decoded .send hvalue (hurl ▸ by decide) htype
        (value_typed _ value)
        (fun h => by rw [viewOf, h]) (fun h => by rw [Any.view, h]) readMsgSend_toJson
    · exact viewOf_decoded .delegate hvalue (hurl ▸ by decide) htype
        (value_typed _ value)
        (fun h => by rw [viewOf, h]) (fun h => by rw [Any.view, h]) readMsgDelegate_toJson
    · exact viewOf_decoded .undelegate hvalue (hurl ▸ by decide) htype
        (value_typed _ value)
        (fun h => by rw [viewOf, h]) (fun h => by rw [Any.view, h]) readMsgUndelegate_toJson
    · exact viewOf_decoded .transfer hvalue (hurl ▸ by decide) htype
        (value_typed _ value)
        (fun h => by rw [viewOf, h]) (fun h => by rw [Any.view, h]) readMsgTransfer_toJson
    · exact viewOf_decoded .vote hvalue (hurl ▸ by decide) htype
        (value_typed _ value)
        (fun h => by rw [viewOf, h]) (fun h => by rw [Any.view, h]) readMsgVote_toJson
    · exact viewOf_decoded .withdrawDelegatorReward hvalue (hurl ▸ by decide) htype
        (value_typed _ value)
        (fun h => by rw [viewOf, h]) (fun h => by rw [Any.view, h]) readMsgWithdrawDelegatorReward_toJson
    · exact viewOf_decoded .beginRedelegate hvalue (hurl ▸ by decide) htype
        (value_typed _ value)
        (fun h => by rw [viewOf, h]) (fun h => by rw [Any.view, h]) readMsgBeginRedelegate_toJson
    · exact viewOf_other (hurl ▸ by decide) htype
    · exact viewOf_other (hurl ▸ by decide) htype
  · exact viewOf_other (hurl ▸ by decide) htype
  · exact viewOf_other (directType_eq_none hother) htype

end

end Keystone3.Cosmos
