import Mathlib.Data.List.ReduceOption
import Keystone3.Cosmos.Proto
import Keystone3.Json.Serde

/-!
# Cosmos transactions

A document to sign is JSON (amino) or a protocol buffer (direct), of which JSON is made. Its
messages are shown twice, in the overview and in the detail. An unknown message is passed
over in both, and a first one to sign data is all of the detail: all are shown unless there
is one of the two next to another (`listed_iff_noneHidden`).
-/

namespace Keystone3.Cosmos

open Bytes (ofUtf8 utf8)
open Ethereum (Text Value)
open Logic (Outcome)
open Logic.Outcome (bind_eq_ok collect okOr okOr_eq_ok)

mutual

/-- `ModeInfo::try_from`, which wants a mode. -/
def ModeInfo.check : ModeInfo → Result Unit
  | .absent => .error (.parseTxError "option mode_info sum is None")
  | .single => .ok ()
  | .multi modeInfos => checkModeInfos modeInfos

def checkModeInfos : List ModeInfo → Result Unit
  | [] => .ok ()
  | modeInfo :: modeInfos => do
    modeInfo.check
    checkModeInfos modeInfos

end

section

variable (proto : ProtoLib)

/-- `SignerPublicKey::try_from`. Keys of other types are taken as they are. -/
def checkPublicKey (key : Any) : Result Unit :=
  if key.typeUrl = "/cosmos.crypto.ed25519.PubKey".toList then do
    let _ ← okOr (deserializeError "ed25519::PubKey" "") (proto.pubKey key.value)
    pure ()
  else if key.typeUrl = "/cosmos.crypto.secp256k1.PubKey".toList then do
    let _ ← okOr (deserializeError "secp256k1::PubKey" "") (proto.pubKey key.value)
    pure ()
  else pure ()

/-- `SignerInfo::try_from`. -/
def SignerInfo.check (signerInfo : SignerInfo) : Result Unit := do
  match signerInfo.publicKey with
  | some key => checkPublicKey proto key
  | none => pure ()
  match signerInfo.modeInfo with
  | some modeInfo => modeInfo.check
  | none => pure ()

/-- `SignDoc::parse`, written as JSON. -/
def SignDoc.parse (data : List UInt8) : Result Value := do
  let doc ← okOr (deserializeError "SignDoc" "") (proto.signDoc data)
  let body ← okOr (deserializeError "TxBody" "") (proto.txBody doc.bodyBytes)
  let msgs ← mapMessages proto body.messages
  let authInfo ← okOr (deserializeError "AuthInfo" "") (proto.authInfo doc.authInfoBytes)
  let _ ← collect (SignerInfo.check proto) authInfo.signerInfos
  pure (objectOf [("msgs", .array msgs), ("memo", .string body.memo),
    ("fee", optionJson Fee.toJson authInfo.fee), ("chain_id", .string doc.chainId),
    ("account_number", u64Json doc.accountNumber)])

end

mutual

def depth : Value → Nat
  | .array vs => depthList vs + 1
  | .object ms => depthMembers ms + 1
  | _ => 0

def depthList : List Value → Nat
  | [] => 0
  | v :: vs => max (depth v) (depthList vs)

def depthMembers : List (Text × Value) → Nat
  | [] => 0
  | (_, v) :: ms => max (depth v) (depthMembers ms)

end

def reread (v : Value) : Result Value := if depth v < 128 then .ok v else .error .serdeError

inductive DataType where
  | amino
  | direct

inductive CosmosTxDisplayType where
  | send
  | vote
  | delegate
  | undelegate
  | redelegate
  | transfer
  | withdrawReward
  | unknown
  | multiple
  | message

structure CosmosTxOverview where
  displayType : CosmosTxDisplayType
  network : Text
  kind : List MsgOverview

structure FeeDetail where
  maxFee : Text
  fee : Text
  gasLimit : Text

structure CommonDetail where
  network : Text
  chainId : Text
  fee : Option FeeDetail

structure DetailUnknown extends CommonDetail where
  message : String

inductive CosmosTxDetail where
  | unknown (detail : DetailUnknown)
  | message (detail : OverviewMessage)
  | kinds (common : CommonDetail) (kind : List MsgDetail)

structure ParsedCosmosTx where
  overview : CosmosTxOverview
  detail : CosmosTxDetail

def detectDisplayType : List MsgOverview → CosmosTxDisplayType
  | [] => .unknown
  | [.send _] => .send
  | [.delegate _] => .delegate
  | [.redelegate _] => .redelegate
  | [.undelegate _] => .undelegate
  | [.withdrawReward _] => .withdrawReward
  | [.transfer _] => .transfer
  | [.vote _] => .vote
  | [.message _] => .message
  | _ :: _ :: _ => .multiple

def CommonDetail.toUnknown (common : CommonDetail) : DetailUnknown :=
  { common with message := "Unknown Data" }

def kindOf {α : Type} (views : Views α) : Value → Result (List α)
  | .array msgs => do
    let shown ← collect (viewOf views) msgs
    pure shown.reduceOption
  | _ => .error (.parseTxError "empty msg")

section

variable {F : Type} (lib : CosmosLib F) (proto : ProtoLib)

def parseGasLimit : Value → Option F
  | .string s => lib.parseFloat s
  | .number n => some (lib.ofNumber n)
  | _ => none

def feeOf (gas : F) (each : Value) : Option (Text × Text) := do
  let amount ← (each.index "amount".toList).asStr
  let denom ← (each.index "denom".toList).asStr
  let value ← lib.parseFloat amount
  match unitOf denom with
  | some (unit, name) =>
    let value := lib.div value unit
    pure (lib.floatText value ++ name.toList, lib.floatText (lib.mul value gas) ++ name.toList)
  | none =>
    pure (lib.floatText value ++ ' ' :: denom, lib.floatText (lib.mul value gas) ++ ' ' :: denom)

/-- `format_fee_from_value`, if it does not fail. -/
def formatFee (fee : Value) : Option FeeDetail := do
  let gas ← parseGasLimit lib (fee.index "gas".toList)
  match fee.index "amount".toList with
  | .array amounts =>
    let fees := amounts.filterMap (feeOf lib gas)
    pure
      { maxFee := List.intercalate [','] (fees.map fun fee => fee.2)
        fee := List.intercalate [','] (fees.map fun fee => fee.1)
        gasLimit := lib.floatText gas }
  | _ => none

def document : DataType → List UInt8 → Result Value
  | .amino, data => okOr .serdeError ((ofUtf8 data).bind (Serde.fromStr lib.readFloat))
  | .direct, data => do
    let doc ← SignDoc.parse proto data
    reread doc

def chainIdOf (doc : Value) : Text := (doc.index "chain_id".toList).asStr.getD []

/-- `build_overview_from_amino`. -/
def buildOverview (doc : Value) : Result CosmosTxOverview := do
  let kind ← kindOf (overviewViews lib) (doc.index "msgs".toList)
  pure
    { displayType := detectDisplayType kind
      network := getNetworkByChainId (chainIdOf doc)
      kind }

def CosmosTxDetail.ofKind (common : CommonDetail) : List MsgDetail → CosmosTxDetail
  | [] => .unknown common.toUnknown
  | .message msg :: _ => .message msg
  | kind => .kinds common kind

/-- `build_detail_from_amino`. -/
def buildDetail (doc : Value) : Result CosmosTxDetail := do
  let kind ← kindOf (detailViews lib) (doc.index "msgs".toList)
  let common : CommonDetail :=
    { network := getNetworkByChainId (chainIdOf doc)
      chainId := chainIdOf doc
      fee := formatFee lib (doc.index "fee".toList) }
  pure (.ofKind common kind)

def ParsedCosmosTx.build (dataType : DataType) (data : List UInt8) : Result ParsedCosmosTx := do
  let doc ← document lib proto dataType data
  let overview ← buildOverview lib doc
  let detail ← buildDetail lib doc
  pure { overview, detail }

end

inductive Signed where
  | amino (each : Value)
  | direct (message : Any)

def Signed.type : Signed → Option MsgType
  | amino each => typeOf each
  | direct message => directType message.typeUrl

section

variable {F : Type} (lib : CosmosLib F) (proto : ProtoLib)

def Signed.view {α : Type} (views : Views α) : Signed → Result (Option α)
  | amino each => viewOf views each
  | direct message => .ok (message.view proto views)

def arrayOf : Value → Option (List Value)
  | .array vs => some vs
  | _ => none

def signedMessages : DataType → List UInt8 → Option (List Signed)
  | .amino, data => do
    let doc ← (ofUtf8 data).bind (Serde.fromStr lib.readFloat)
    let msgs ← arrayOf (doc.index "msgs".toList)
    pure (msgs.map .amino)
  | .direct, data => do
    let doc ← proto.signDoc data
    let body ← proto.txBody doc.bodyBytes
    pure (body.messages.map .direct)

def CosmosTxDetail.kind : CosmosTxDetail → List MsgDetail
  | unknown _ => []
  | message msg => [.message msg]
  | kinds _ kind => kind

/-- Every message is in the overview and in the detail, in its place. -/
def ParsedCosmosTx.Lists (tx : ParsedCosmosTx) (msgs : List Signed) : Prop :=
  List.Forall₂ (fun m o => m.view proto (overviewViews lib) = .ok (some o)) msgs tx.overview.kind ∧
    List.Forall₂ (fun m d => m.view proto (detailViews lib) = .ok (some d)) msgs tx.detail.kind

end

def ParsedCosmosTx.IsUnknown (tx : ParsedCosmosTx) : Prop :=
  tx.overview.displayType = .unknown ∧ ∃ detail, tx.detail = .unknown detail

/-- No message is known, or all of them are and only one is there if the first is data to sign. -/
def NoneHidden (msgs : List Signed) : Prop :=
  (∀ m ∈ msgs, m.type = none) ∨
    (∀ m ∈ msgs, m.type ≠ none) ∧ ∀ m ∈ msgs.head?, m.type = some .signData → msgs.length = 1

section

variable {α β γ : Type} {R : α → β → Prop} {S : β → γ → Prop} {T : α → γ → Prop}

theorem forall₂_trans (hstep : ∀ a b c, R a b → S b c → T a c) {as : List α} {bs : List β}
    {cs : List γ} (h₁ : List.Forall₂ R as bs) (h₂ : List.Forall₂ S bs cs) :
    List.Forall₂ T as cs := by
  induction h₁ generalizing cs with
  | nil =>
    cases h₂
    exact .nil
  | cons hab _ ih =>
    cases h₂ with
    | cons hbc hrest => exact .cons (hstep _ _ _ hab hbc) (ih hrest)

end

section

variable {F : Type} {lib : CosmosLib F} {proto : ProtoLib} {α : Type} {views : Views α}

/-- What is shown of a message, which is something if its type is known. -/
def Shows (proto : ProtoLib) (views : Views α) (m : Signed) (o : Option α) : Prop :=
  m.view proto views = .ok o ∧ (o.isSome = true ↔ m.type ≠ none)

theorem kindOf_eq_ok {msgs : Value} {kind : List α} (h : kindOf views msgs = .ok kind) :
    ∃ vs shown, msgs = .array vs ∧ List.Forall₂ (fun v o => viewOf views v = .ok o) vs shown ∧
      kind = shown.reduceOption := by
  unfold kindOf at h
  split at h
  · obtain ⟨shown, hshown, h⟩ := bind_eq_ok.mp h
    cases h
    exact ⟨_, shown, rfl, Outcome.collect_eq_ok.mp hshown, rfl⟩
  · cases h

theorem exists_shows {dataType : DataType} {data : List UInt8} {doc : Value} {kind : List α}
    (hdoc : document lib proto dataType data = .ok doc)
    (hkind : kindOf views (doc.index "msgs".toList) = .ok kind) :
    ∃ msgs shown, signedMessages lib proto dataType data = some msgs ∧
      List.Forall₂ (Shows proto views) msgs shown ∧ kind = shown.reduceOption := by
  obtain ⟨vs, shown, hvs, hshown, rfl⟩ := kindOf_eq_ok hkind
  cases dataType with
  | amino =>
    refine ⟨vs.map .amino, shown, ?_, List.forall₂_map_left_iff.mpr (hshown.imp ?_), rfl⟩
    · rw [signedMessages, okOr_eq_ok.mp hdoc]
      show (arrayOf (doc.index "msgs".toList)).bind _ = _
      rw [hvs]
      rfl
    · exact fun v o h => ⟨h, viewOf_isSome h⟩
  | direct =>
    obtain ⟨written, hwritten, hdoc⟩ := bind_eq_ok.mp hdoc
    obtain ⟨signDoc, hsignDoc, hwritten⟩ := bind_eq_ok.mp hwritten
    obtain ⟨body, hbody, hwritten⟩ := bind_eq_ok.mp hwritten
    obtain ⟨msgs, hmsgs, hwritten⟩ := bind_eq_ok.mp hwritten
    obtain ⟨authInfo, -, hwritten⟩ := bind_eq_ok.mp hwritten
    obtain ⟨checks, -, hwritten⟩ := bind_eq_ok.mp hwritten
    cases hwritten
    unfold reread at hdoc
    split_ifs at hdoc
    cases hdoc
    rw [index_objectOf, List.lookup_cons_self] at hvs
    cases hvs
    refine ⟨body.messages.map .direct, shown, ?_, List.forall₂_map_left_iff.mpr ?_, rfl⟩
    · rw [signedMessages, okOr_eq_ok.mp hsignDoc]
      show (proto.txBody signDoc.bodyBytes).bind _ = _
      rw [okOr_eq_ok.mp hbody]
      rfl
    · refine forall₂_trans (fun message v o hv ho => ?_) (Outcome.collect_eq_ok.mp hmsgs) hshown
      refine ⟨?_, ?_⟩
      · show Outcome.ok _ = _
        rw [← ho, viewOf_mapMessage hv]
      · rw [Signed.type, ← typeOf_mapMessage hv]
        exact viewOf_isSome ho

theorem listed_iff {msgs : List Signed} {shown : List (Option α)}
    (h : List.Forall₂ (Shows proto views) msgs shown) :
    List.Forall₂ (fun m o => m.view proto views = .ok (some o)) msgs shown.reduceOption ↔
      ∀ m ∈ msgs, m.type ≠ none := by
  induction h with
  | nil => exact iff_of_true .nil fun m hm => absurd hm List.not_mem_nil
  | @cons m o msgs shown hm _ ih =>
    rw [List.forall_mem_cons, ← ih]
    cases o with
    | none =>
      have hnone : m.type = none := not_not.mp fun hne => Bool.false_ne_true (hm.2.mpr hne)
      refine iff_of_false (fun hall => ?_) fun hand => hand.1 hnone
      obtain ⟨o, rest, ho, -, -⟩ := List.forall₂_cons_left_iff.mp hall
      cases hm.1.symm.trans ho
    | some o =>
      rw [List.reduceOption_cons_of_some, List.forall₂_cons]
      exact and_congr_left fun _ => iff_of_true hm.1 (hm.2.mp rfl)

theorem reduceOption_eq_nil_iff {msgs : List Signed} {shown : List (Option α)}
    (h : List.Forall₂ (Shows proto views) msgs shown) :
    shown.reduceOption = [] ↔ ∀ m ∈ msgs, m.type = none := by
  induction h with
  | nil => exact iff_of_true rfl fun m hm => absurd hm List.not_mem_nil
  | @cons m o msgs shown hm _ ih =>
    rw [List.forall_mem_cons, ← ih]
    cases o with
    | none =>
      have hnone : m.type = none := not_not.mp fun hne => Bool.false_ne_true (hm.2.mpr hne)
      rw [List.reduceOption_cons_of_none]
      exact (and_iff_right hnone).symm
    | some o =>
      rw [List.reduceOption_cons_of_some]
      exact iff_of_false (List.cons_ne_nil _ _) fun hand => hm.2.mp rfl hand.1

theorem Signed.isMessage_iff {m : Signed} {d : MsgDetail}
    (h : m.view proto (detailViews lib) = .ok (some d)) :
    d.isMessage = true ↔ m.type = some .signData := by
  cases m with
  | amino each => exact detailOf_isMessage h
  | direct message =>
    have hview : message.view proto (detailViews lib) = some d := by injection h
    show d.isMessage = true ↔ directType message.typeUrl = some .signData
    unfold Any.view at hview
    cases htype : directType message.typeUrl with
    | none =>
      rw [htype] at hview
      cases hview
    | some t =>
      rw [htype] at hview
      cases t
      case signData => cases hview
      all_goals
        obtain ⟨msg, -, rfl⟩ := Option.map_eq_some_iff.mp hview
        exact iff_of_false Bool.false_ne_true (by decide)

theorem detectDisplayType_eq_unknown {kind : List MsgOverview} :
    detectDisplayType kind = .unknown ↔ kind = [] := by
  match kind with
  | [] => exact iff_of_true rfl rfl
  | [o] =>
    cases o
    all_goals exact iff_of_false nofun (List.cons_ne_nil _ _)
  | o :: _ :: _ =>
    cases o
    all_goals exact iff_of_false nofun (List.cons_ne_nil _ _)

theorem ofKind_eq_unknown {common : CommonDetail} {kind : List MsgDetail} :
    (∃ detail, CosmosTxDetail.ofKind common kind = .unknown detail) ↔ kind = [] := by
  cases kind with
  | nil => exact iff_of_true ⟨_, rfl⟩ rfl
  | cons d kind =>
    cases d
    all_goals exact iff_of_false (fun h => nomatch h.choose_spec) (List.cons_ne_nil _ _)

theorem forall₂_ofKind {common : CommonDetail} {msgs : List Signed} {kind : List MsgDetail}
    (h : List.Forall₂ (fun m d => m.view proto (detailViews lib) = .ok (some d)) msgs kind) :
    List.Forall₂ (fun m d => m.view proto (detailViews lib) = .ok (some d)) msgs
        (CosmosTxDetail.ofKind common kind).kind ↔
      ∀ m ∈ msgs.head?, m.type = some .signData → msgs.length = 1 := by
  cases h with
  | nil => exact iff_of_true .nil nofun
  | @cons m d msgs kind hm hrest =>
    have hmessage := Signed.isMessage_iff hm
    cases d
    case message o =>
      have hlength : msgs.length = 0 ↔
          ∀ m' ∈ (m :: msgs).head?, m'.type = some .signData → (m :: msgs).length = 1 := by
        constructor
        · intro hzero m' _ _
          rw [List.length_cons, hzero]
        · intro h
          exact Nat.succ.inj (h m rfl (hmessage.mp rfl))
      rw [← hlength, List.length_eq_zero_iff]
      constructor
      · intro hall
        exact List.forall₂_nil_right_iff.mp (List.forall₂_cons.mp hall).2
      · intro hnil
        subst hnil
        exact .cons hm .nil
    all_goals
      refine iff_of_true (.cons hm hrest) fun m' hm' htype => ?_
      cases hm'
      cases hmessage.mpr htype

theorem lists_or_isUnknown_iff {dataType : DataType} {data : List UInt8} {tx : ParsedCosmosTx}
    (h : ParsedCosmosTx.build lib proto dataType data = .ok tx) :
    ∃ msgs, signedMessages lib proto dataType data = some msgs ∧
      (tx.Lists lib proto msgs ∨ tx.IsUnknown ↔ NoneHidden msgs) := by
  obtain ⟨doc, hdoc, h⟩ := bind_eq_ok.mp h
  obtain ⟨overview, hoverview, h⟩ := bind_eq_ok.mp h
  obtain ⟨detail, hdetail, h⟩ := bind_eq_ok.mp h
  cases h
  obtain ⟨kindO, hkindO, hoverview⟩ := bind_eq_ok.mp hoverview
  obtain ⟨kindD, hkindD, hdetail⟩ := bind_eq_ok.mp hdetail
  cases hoverview
  cases hdetail
  obtain ⟨msgs, shownO, hmsgs, hO, rfl⟩ := exists_shows hdoc hkindO
  obtain ⟨msgs', shownD, hmsgs', hD, rfl⟩ := exists_shows hdoc hkindD
  cases hmsgs.symm.trans hmsgs'
  refine ⟨msgs, hmsgs, ?_⟩
  rw [NoneHidden, or_comm]
  refine or_congr ?_ ?_
  · refine (and_congr detectDisplayType_eq_unknown ofKind_eq_unknown).trans ?_
    rw [reduceOption_eq_nil_iff hO, reduceOption_eq_nil_iff hD, and_self]
  · refine (and_congr_left' (listed_iff hO)).trans (and_congr_right fun hknown => ?_)
    exact forall₂_ofKind ((listed_iff hD).mpr hknown)

end

/-- All messages are shown, in the overview and in the detail, or the transaction is unknown. -/
def AllAccounted {F : Type} (lib : CosmosLib F) (proto : ProtoLib) (dataType : DataType)
    (data : List UInt8) (tx : ParsedCosmosTx) : Prop :=
  ∃ msgs, signedMessages lib proto dataType data = some msgs ∧
    (tx.Lists lib proto msgs ∨ tx.IsUnknown)

theorem allAccounted_iff {F : Type} {lib : CosmosLib F} {proto : ProtoLib} {dataType : DataType}
    {data : List UInt8} {tx : ParsedCosmosTx}
    (h : ParsedCosmosTx.build lib proto dataType data = .ok tx) :
    AllAccounted lib proto dataType data tx ↔
      ∃ msgs, signedMessages lib proto dataType data = some msgs ∧ NoneHidden msgs := by
  obtain ⟨msgs, hmsgs, hiff⟩ := lists_or_isUnknown_iff h
  constructor
  · rintro ⟨msgs', hmsgs', hshown⟩
    cases hmsgs.symm.trans hmsgs'
    exact ⟨msgs, hmsgs, hiff.mp hshown⟩
  · rintro ⟨msgs', hmsgs', hnone⟩
    cases hmsgs.symm.trans hmsgs'
    exact ⟨msgs, hmsgs, hiff.mpr hnone⟩

def CosmosLib.sample : CosmosLib Nat where
  readFloat _ := none
  base64Decode _ := none
  isCjk _ := false
  parseFloat := Bytes.parseUnsigned (2 ^ 53)
  ofNumber n := n.asU64.getD 0
  div n unit := n / unit
  mul m n := m * n
  floatText := Nat.toDigits 10

def ProtoLib.sample : ProtoLib where
  signDoc _ := none
  txBody _ := none
  authInfo _ := none
  pubKey _ := none
  msgSend _ := none
  msgDelegate _ := none
  msgUndelegate _ := none
  msgTransfer _ := none
  msgVote _ := none
  msgWithdrawDelegatorReward _ := none
  msgBeginRedelegate _ := none
  msgMultiSend _ := none
  msgUpdateClient _ := none
  msgExec _ := none
  msgExec_lt := by
    intro bytes exec h
    cases h

def sampleDoc (msgs : List String) : Text :=
  "\x7b\"chain_id\":\"osmosis-1\",\"msgs\":[".toList
    ++ List.intercalate [','] (msgs.map String.toList) ++ "]\x7d".toList

def sampleSend : String :=
  "\x7b\"type\":\"cosmos-sdk/MsgSend\",\"value\":\x7b\"amount\":[\x7b\"amount\":\"7\"," ++
    "\"denom\":\"uosmo\"\x7d],\"from_address\":\"osmo1a\",\"to_address\":\"osmo1b\"\x7d\x7d"

def sampleMultiSend : String :=
  "\x7b\"type\":\"cosmos-sdk/MsgMultiSend\",\"value\":\x7b\"inputs\":[],\"outputs\":[]\x7d\x7d"

theorem document_utf8 {F : Type} (lib : CosmosLib F) (proto : ProtoLib) (text : Text) :
    document lib proto .amino (utf8 text)
      = okOr .serdeError (Serde.fromStr lib.readFloat text) := by
  rw [document, Bytes.ofUtf8_utf8]
  rfl

theorem signedMessages_utf8 {F : Type} (lib : CosmosLib F) (proto : ProtoLib) (text : Text) :
    signedMessages lib proto .amino (utf8 text)
      = (Serde.fromStr lib.readFloat text).bind fun doc =>
        (arrayOf (doc.index "msgs".toList)).bind fun msgs => some (msgs.map .amino) := by
  rw [signedMessages, Bytes.ofUtf8_utf8]
  rfl

theorem allAccounted_iff_sample : ∃ tx,
    ParsedCosmosTx.build .sample .sample .amino (utf8 (sampleDoc [sampleSend])) = .ok tx ∧
    (AllAccounted .sample .sample .amino (utf8 (sampleDoc [sampleSend])) tx ↔
      ∃ msgs, signedMessages .sample .sample .amino (utf8 (sampleDoc [sampleSend])) = some msgs
        ∧ NoneHidden msgs) := by
  have hbuild : (ParsedCosmosTx.build .sample .sample .amino
      (utf8 (sampleDoc [sampleSend]))).isOk = true := by
    rw [ParsedCosmosTx.build, document_utf8]
    decide +kernel
  obtain ⟨tx, htx⟩ := Outcome.exists_of_isOk hbuild
  exact ⟨tx, htx, allAccounted_iff htx⟩

/-- A message that is sent hides another one, of a type that is not known. -/
theorem not_allAccounted_mixed : ¬ ∀ tx,
    ParsedCosmosTx.build .sample .sample .amino (utf8 (sampleDoc [sampleSend, sampleMultiSend]))
      = .ok tx →
    AllAccounted .sample .sample .amino (utf8 (sampleDoc [sampleSend, sampleMultiSend])) tx := by
  have hbuild : (ParsedCosmosTx.build .sample .sample .amino
      (utf8 (sampleDoc [sampleSend, sampleMultiSend]))).isOk = true := by
    rw [ParsedCosmosTx.build, document_utf8]
    decide +kernel
  have htypes : (signedMessages .sample .sample .amino
      (utf8 (sampleDoc [sampleSend, sampleMultiSend]))).map (fun msgs => msgs.map Signed.type)
      = some [some .send, none] := by
    rw [signedMessages_utf8]
    decide +kernel
  obtain ⟨tx, htx⟩ := Outcome.exists_of_isOk hbuild
  intro hall
  obtain ⟨msgs, hmsgs, hshown⟩ := hall tx htx
  obtain ⟨msgs', hmsgs', hiff⟩ := lists_or_isUnknown_iff htx
  cases hmsgs.symm.trans hmsgs'
  rw [hmsgs, Option.map_some, Option.some.injEq] at htypes
  obtain ⟨m, rest, rfl, hm, htypes⟩ := List.map_eq_cons_iff.mp htypes
  obtain ⟨m', rest', rfl, hm', -⟩ := List.map_eq_cons_iff.mp htypes
  obtain hnone | ⟨hknown, -⟩ := hiff.mp hshown
  · cases hm.symm.trans (hnone m (.head _))
  · exact hknown m' (List.mem_cons_of_mem m (.head _)) hm'

end Keystone3.Cosmos
