import Keystone3.Tron.Transaction

/-!
# What is shown of a Tron transfer

The amount is shown over the divider and in the unit of the override, or as TRX
without one. The contract is built from other fields. `describes_iff` says for
which payloads the two agree.
-/

namespace Keystone3.Tron

open Bytes (Block hexText parseDigits utf8)
open Logic (Outcome)
open Logic.Outcome (bind_eq_ok okOr_eq_ok)

section

variable (lib : TronLib)

def WrappedTron.formatUnit (tx : WrappedTron) : Text := tx.tokenShortName.getD trx

def WrappedTron.formatAmount (tx : WrappedTron) : Result Text := do
  let value ← Outcome.okOr .parseNumberError (lib.quotientText tx.value tx.divider)
  pure (value ++ ' ' :: tx.formatUnit)

def WrappedTron.formatMethod (tx : WrappedTron) : Text :=
  if tx.contractAddress ≠ [] then "TRC-20 Transfer".toList
  else if tx.token ≠ [] ∧ isTrx tx.token = false then "TRC-10 Transfer".toList
  else "TRX Transfer".toList

structure OverviewTx where
  value : Text
  method : Text
  sender : Text
  recipient : Text
  network : Text

structure DetailTx extends OverviewTx where
  token : Text
  contractAddress : Text

structure ParsedTx where
  overview : OverviewTx
  detail : DetailTx

def network : Text := ['T', 'R', 'O', 'N']

def WrappedTron.overview (tx : WrappedTron) (value : Text) : OverviewTx where
  value
  method := tx.formatMethod
  sender := tx.sender
  recipient := tx.recipient
  network := Tron.network

/-- `TxParser for WrappedTron`. -/
def WrappedTron.parse (tx : WrappedTron) : Result ParsedTx := do
  let value ← tx.formatAmount lib
  pure {
    overview := tx.overview value
    detail := { tx.overview value with
      token := tx.token
      contractAddress := tx.contractAddress } }

end

inductive Asset where
  | native
  | trc10 (name : List UInt8)
  | trc20 (contract : List UInt8)
deriving DecidableEq

def Message.asset : Message → Asset
  | .transfer _ => .native
  | .transferAsset contract => .trc10 contract.assetName
  | .triggerSmart contract => .trc20 contract.contractAddress

def Message.method : Message → Text
  | .transfer _ => "TRX Transfer".toList
  | .transferAsset _ => "TRC-10 Transfer".toList
  | .triggerSmart _ => "TRC-20 Transfer".toList

def Message.ownerAddress : Message → List UInt8
  | .transfer contract => contract.ownerAddress
  | .transferAsset contract => contract.ownerAddress
  | .triggerSmart contract => contract.ownerAddress

structure Tokens where
  symbol : Asset → Text
  decimals : Asset → Nat
  symbol_native : symbol .native = trx
  decimals_native : decimals .native = 6

/-- The message pays the amount to the address. A call leaves out the byte in front of an address,
which is that of Tron addresses. -/
def Message.Pays (recipient : List UInt8) (amount : Int) : Message → Prop
  | .transfer contract => contract.toAddress = recipient ∧ contract.amount.toInt = amount
  | .transferAsset contract => contract.toAddress = recipient ∧ contract.amount.toInt = amount
  | .triggerSmart contract => ∃ called : Block 20, ∃ value : Nat, recipient = 0x41 :: called.bytes
      ∧ amount = value ∧ value < 2 ^ 256 ∧ contract.data = transferCall called value

def Message.parseAmount : Message → Text → Option Int
  | .triggerSmart _, digits => (parseU256 digits).map Int.ofNat
  | _, digits => (parseI64 digits).map Int64.toInt

def Transaction.message? (tx : Transaction) : Option Message :=
  match tx.rawData with
  | some raw =>
    match raw.contract with
    | [contract] => some contract.parameter
    | _ => none
  | none => none

section

variable (lib : TronLib) (tokens : Tokens)

/-- What is shown describes the message; only TRX itself is shown as TRX. -/
structure Describes (digits : Text) (shown : DetailTx) (message : Message) : Prop where
  method : shown.method = message.method
  sender : lib.decodeCheck shown.sender = .ok message.ownerAddress
  contract : ∀ c, message = .triggerSmart c →
    lib.decodeCheck shown.contractAddress = .ok c.contractAddress
  token : ∀ c, message = .transferAsset c → utf8 shown.token = c.assetName
  payment : ∃ recipient amount, lib.decodeCheck shown.recipient = .ok recipient
    ∧ message.Pays recipient amount ∧ message.parseAmount digits = some amount
  amount : ∃ number, lib.quotientText digits (10 ^ tokens.decimals message.asset) = some number
    ∧ shown.value = number ++ ' ' :: tokens.symbol message.asset
  unit : message.asset ≠ .native → tokens.symbol message.asset ≠ trx

def TronTx.asset (tx : TronTx) : Asset :=
  if tx.contractAddress = [] then
    if tx.token = [] ∨ isTrx tx.token = true then .native else .trc10 (utf8 tx.token)
  else match lib.decodeCheck tx.contractAddress with
    | .ok contract => .trc20 contract
    | .error _ => .trc20 []

def TronTx.divider (tx : TronTx) : Nat :=
  (tx.override.map fun o => dividerOf o.decimals).getD defaultDivider

/-- The override, or TRX with its decimals without one, is that of the token. -/
structure TronTx.Announces (tx : TronTx) : Prop where
  symbol : (tx.override.map Override.tokenShortName).getD trx = tokens.symbol (tx.asset lib)
  number : lib.quotientText tx.value tx.divider
    = lib.quotientText tx.value (10 ^ tokens.decimals (tx.asset lib))
  unit : tx.asset lib ≠ .native → tokens.symbol (tx.asset lib) ≠ trx
  version : tx.contractAddress ≠ [] → ∃ bytes, lib.decodeCheck tx.recipient = .ok (0x41 :: bytes)

inductive Built (tx : TronTx) : Message → Prop where
  | transfer {owner recipient : List UInt8} {amount : Int64} (contract : tx.contractAddress = [])
    (token : tx.token = [] ∨ isTrx tx.token = true) (sender : lib.decodeCheck tx.sender = .ok owner)
    (paid : lib.decodeCheck tx.recipient = .ok recipient) (value : parseI64 tx.value = some amount) :
    Built tx (.transfer ⟨owner, recipient, amount⟩)
  | transferAsset {owner recipient : List UInt8} {amount : Int64} (contract : tx.contractAddress = [])
    (token : ¬(tx.token = [] ∨ isTrx tx.token = true))
    (sender : lib.decodeCheck tx.sender = .ok owner)
    (paid : lib.decodeCheck tx.recipient = .ok recipient) (value : parseI64 tx.value = some amount) :
    Built tx (.transferAsset ⟨utf8 tx.token, owner, recipient, amount⟩)
  | triggerSmart {owner address : List UInt8} {version : UInt8} {recipient : Block 20} {amount : Nat}
    (contract : tx.contractAddress ≠ []) (sender : lib.decodeCheck tx.sender = .ok owner)
    (called : lib.decodeCheck tx.contractAddress = .ok address)
    (paid : lib.decodeCheck tx.recipient = .ok (version :: recipient.bytes))
    (value : parseU256 tx.value = some amount) :
    Built tx (.triggerSmart ⟨owner, address, 0, transferCall recipient amount⟩)

end

section

variable {lib : TronLib}

theorem base58checkToU8Slice_eq_ok {input : Text} {bytes : List UInt8}
    (h : base58checkToU8Slice lib input = .ok bytes) : lib.decodeCheck input = .ok bytes := by
  unfold base58checkToU8Slice at h
  cases hdecode : lib.decodeCheck input with
  | ok decoded =>
    rw [hdecode] at h
    cases h
    rfl
  | error reason =>
    rw [hdecode] at h
    cases h

theorem message_refWithLatestBlock {tx tx' : Transaction} {latestBlock : LatestBlock}
    {isTrc20 : Bool} (h : refWithLatestBlock tx latestBlock isTrc20 = .ok tx') :
    tx'.message? = tx.message? := by
  unfold refWithLatestBlock at h
  obtain ⟨hashBuf, -, h⟩ := bind_eq_ok.mp h
  dsimp only at h
  split at h
  · cases h
  · cases h
    obtain ⟨rawData, signature⟩ := tx
    cases rawData with
    | none => rfl
    | some raw => rfl

theorem message_buildTransferContract (message : Message) (permissionId : Option Int32) :
    (buildTransferContract message permissionId).message? = some message := rfl

theorem isTrx_default (token : Text) :
    isTrx (if token = [] then trx else token) = true ↔ token = [] ∨ isTrx token = true := by
  by_cases htoken : token = []
  · rw [if_pos htoken]
    exact ⟨fun _ => .inl htoken, fun _ => by decide⟩
  · rw [if_neg htoken]
    exact ⟨.inr, fun h => h.resolve_left htoken⟩

variable {tx : TronTx}

theorem built_of_buildTransferTx {transaction : Transaction}
    (hcontract : tx.contractAddress = []) (h : buildTransferTx lib tx = .ok transaction) :
    ∃ message, transaction.message? = some message ∧ Built lib tx message := by
  unfold buildTransferTx at h
  dsimp only at h
  obtain ⟨amount, hamount, h⟩ := bind_eq_ok.mp h
  obtain ⟨built, hbuilt, h⟩ := bind_eq_ok.mp h
  obtain ⟨latestBlock, -, h⟩ := bind_eq_ok.mp h
  rw [message_refWithLatestBlock h]
  unfold buildTransferTransaction at hbuilt
  obtain ⟨recipient, hrecipient, hbuilt⟩ := bind_eq_ok.mp hbuilt
  obtain ⟨owner, howner, hbuilt⟩ := bind_eq_ok.mp hbuilt
  have hrecipient := base58checkToU8Slice_eq_ok hrecipient
  have howner := base58checkToU8Slice_eq_ok howner
  have hamount := okOr_eq_ok.mp hamount
  by_cases htoken : tx.token = [] ∨ isTrx tx.token = true
  · rw [if_pos ((isTrx_default tx.token).mpr htoken)] at hbuilt
    cases hbuilt
    exact ⟨_, rfl, .transfer hcontract htoken howner hrecipient hamount⟩
  · rw [if_neg fun h => htoken ((isTrx_default tx.token).mp h)] at hbuilt
    have hname : tx.token ≠ [] := fun h => htoken (.inl h)
    rw [if_neg hname] at hbuilt
    split at hbuilt
    · cases hbuilt
      exact ⟨_, rfl, .transferAsset hcontract htoken howner hrecipient hamount⟩
    · cases hbuilt

theorem addressOfVersioned_eq_ok {bytes : List UInt8} {address : Block 20}
    (h : addressOfVersioned bytes = .ok address) : ∃ version, bytes = version :: address.bytes := by
  cases bytes with
  | nil => cases h
  | cons version bytes =>
    rw [addressOfVersioned] at h
    split at h
    · cases h
      exact ⟨version, rfl⟩
    · cases h

theorem built_of_generateTrc20Tx {transaction : Transaction}
    (hcontract : tx.contractAddress ≠ []) (h : generateTrc20Tx lib tx = .ok transaction) :
    ∃ message, transaction.message? = some message ∧ Built lib tx message := by
  unfold generateTrc20Tx at h
  obtain ⟨owner, howner, h⟩ := bind_eq_ok.mp h
  obtain ⟨address, haddress, h⟩ := bind_eq_ok.mp h
  obtain ⟨data, hdata, h⟩ := bind_eq_ok.mp h
  dsimp only at h
  obtain ⟨latestBlock, -, h⟩ := bind_eq_ok.mp h
  rw [message_refWithLatestBlock h, message_buildTransferContract]
  unfold parseContractParams at hdata
  obtain ⟨decoded, hdecoded, hdata⟩ := bind_eq_ok.mp hdata
  obtain ⟨amount, hamount, hdata⟩ := bind_eq_ok.mp hdata
  obtain ⟨recipient, hrecipient, hdata⟩ := bind_eq_ok.mp hdata
  cases hdata
  obtain ⟨version, rfl⟩ := addressOfVersioned_eq_ok hrecipient
  exact ⟨_, rfl, .triggerSmart hcontract (base58checkToU8Slice_eq_ok howner)
    (base58checkToU8Slice_eq_ok haddress) (base58checkToU8Slice_eq_ok hdecoded)
    (okOr_eq_ok.mp hamount)⟩

theorem built_of_buildTx {transaction : Transaction}
    (h : buildTx lib tx = .ok transaction) :
    ∃ message, transaction.message? = some message ∧ Built lib tx message := by
  unfold buildTx at h
  split at h
  · rename_i hcontract
    exact built_of_buildTransferTx hcontract h
  · rename_i hcontract
    exact built_of_generateTrc20Tx hcontract h

theorem fromPayload_eq_ok {payload : Payload} {context : ParseContext} {tx : WrappedTron}
    (h : WrappedTron.fromPayload lib payload context = .ok tx) :
    ∃ content fields transaction, payload.tronTx? = some (content, fields)
      ∧ buildTx lib fields = .ok transaction ∧ tx = {
        tronTx := transaction
        hdPath := content.hdPath
        extendedPubkey := context.extendedPublicKey
        xfp := payload.xfp
        token := fields.token
        contractAddress := fields.contractAddress
        sender := fields.sender
        recipient := fields.recipient
        value := fields.value
        tokenShortName := fields.override.map Override.tokenShortName
        divider := fields.divider } := by
  unfold WrappedTron.fromPayload at h
  obtain ⟨⟨content, fields⟩, hfields, h⟩ := bind_eq_ok.mp h
  obtain ⟨transaction, htransaction, h⟩ := bind_eq_ok.mp h
  cases h
  exact ⟨content, fields, transaction, okOr_eq_ok.mp hfields, htransaction, rfl⟩

variable {message : Message}

theorem Built.asset (h : Built lib tx message) :
    tx.asset lib = message.asset := by
  unfold TronTx.asset
  cases h with
  | transfer contract token sender paid value => rw [if_pos contract, if_pos token, Message.asset]
  | transferAsset contract token sender paid value =>
    rw [if_pos contract, if_neg token, Message.asset]
  | triggerSmart contract sender called paid value =>
    rw [if_neg contract, called, Message.asset]

theorem Built.formatMethod {tx : WrappedTron} {fields : TronTx}
    (h : Built lib fields message) (hcontract : tx.contractAddress = fields.contractAddress)
    (htoken : tx.token = fields.token) : tx.formatMethod = message.method := by
  unfold WrappedTron.formatMethod
  rw [hcontract, htoken]
  cases h with
  | transfer contract token sender paid value =>
    rw [if_neg fun hne => hne contract, if_neg]
    · rfl
    · intro hother
      rcases token with hempty | htrx
      · exact hother.1 hempty
      · rw [htrx] at hother
        cases hother.2
  | transferAsset contract token sender paid value =>
    rw [if_neg fun hne => hne contract, if_pos]
    · rfl
    · exact ⟨fun hempty => token (.inl hempty), Bool.eq_false_iff.mpr fun htrx => token (.inr htrx)⟩
  | triggerSmart contract sender called paid value =>
    rw [if_pos contract]
    rfl

theorem Built.sender (h : Built lib tx message) :
    lib.decodeCheck tx.sender = .ok message.ownerAddress := by
  cases h with
  | transfer contract token sender paid value => exact sender
  | transferAsset contract token sender paid value => exact sender
  | triggerSmart contract sender called paid value => exact sender

theorem Built.contract (h : Built lib tx message) :
    ∀ c, message = .triggerSmart c → lib.decodeCheck tx.contractAddress = .ok c.contractAddress := by
  rintro c rfl
  cases h with
  | triggerSmart contract sender called paid value => exact called

theorem Built.token (h : Built lib tx message) :
    ∀ c, message = .transferAsset c → utf8 tx.token = c.assetName := by
  rintro c rfl
  cases h with
  | transferAsset contract token sender paid value => rfl

theorem lt_of_parseU256 {digits : Text} {n : Nat} (h : parseU256 digits = some n) : n < 2 ^ 256 := by
  unfold parseU256 at h
  split at h
  · cases h
    decide
  · unfold parseDigits at h
    split at h
    · rename_i hdigits
      cases h
      exact hdigits.2.2
    · cases h

theorem Built.payment_iff (h : Built lib tx message) :
    (∃ recipient amount, lib.decodeCheck tx.recipient = .ok recipient
      ∧ message.Pays recipient amount ∧ message.parseAmount tx.value = some amount)
      ↔ (tx.contractAddress ≠ [] → ∃ bytes, lib.decodeCheck tx.recipient = .ok (0x41 :: bytes)) := by
  cases h with
  | transfer contract token sender paid value =>
    refine ⟨fun _ hne => absurd contract hne, fun _ => ⟨_, _, paid, ⟨rfl, rfl⟩, ?_⟩⟩
    show (parseI64 tx.value).map Int64.toInt = _
    rw [value]
    rfl
  | transferAsset contract token sender paid value =>
    refine ⟨fun _ hne => absurd contract hne, fun _ => ⟨_, _, paid, ⟨rfl, rfl⟩, ?_⟩⟩
    show (parseI64 tx.value).map Int64.toInt = _
    rw [value]
    rfl
  | triggerSmart contract sender called paid value =>
    constructor
    · intro hpays
      obtain ⟨recipient, amount, hrecipient, ⟨address, n, rfl, -⟩, -⟩ := hpays
      exact fun _ => ⟨_, hrecipient⟩
    · intro hversion
      obtain ⟨bytes, hbytes⟩ := hversion contract
      rw [paid] at hbytes
      cases hbytes
      refine ⟨_, _, paid, ⟨_, _, rfl, rfl, lt_of_parseU256 value, rfl⟩, ?_⟩
      show (parseU256 tx.value).map Int.ofNat = _
      rw [value]
      rfl

theorem append_blank_inj {number number' unit unit' : Text} (h : ' ' ∉ number) (h' : ' ' ∉ number')
    (heq : number ++ ' ' :: unit = number' ++ ' ' :: unit') : number = number' ∧ unit = unit' := by
  induction number generalizing number' with
  | nil =>
    cases number' with
    | nil => exact ⟨rfl, (List.cons.inj heq).2⟩
    | cons c number' =>
      have hc := (List.cons.inj heq).1
      exact absurd (by rw [hc]; exact .head _) h'
  | cons c number ih =>
    cases number' with
    | nil =>
      have hc := (List.cons.inj heq).1
      exact absurd (by rw [← hc]; exact .head _) h
    | cons c' number' =>
      obtain ⟨rfl, htail⟩ := List.cons.inj heq
      obtain ⟨rfl, hunit⟩ := ih (fun hmem => h (List.mem_cons_of_mem c hmem))
        (fun hmem => h' (List.mem_cons_of_mem c hmem)) htail
      exact ⟨rfl, hunit⟩

end

theorem parse_eq_ok {lib : TronLib} {tx : WrappedTron} {shown : ParsedTx}
    (h : tx.parse lib = .ok shown) : ∃ number, lib.quotientText tx.value tx.divider = some number
      ∧ shown.overview = tx.overview (number ++ ' ' :: tx.formatUnit)
      ∧ shown.detail = { tx.overview (number ++ ' ' :: tx.formatUnit) with
        token := tx.token
        contractAddress := tx.contractAddress } := by
  unfold WrappedTron.parse WrappedTron.formatAmount at h
  obtain ⟨value, hvalue, h⟩ := bind_eq_ok.mp h
  obtain ⟨number, hnumber, hvalue⟩ := bind_eq_ok.mp hvalue
  cases hvalue
  cases h
  exact ⟨number, okOr_eq_ok.mp hnumber, rfl, rfl⟩

/-- What is shown describes the transaction if the override, or TRX without one, is that of the
token that the contract is about. -/
theorem describes_iff (lib : TronLib) (tokens : Tokens)
    (hblank : ∀ digits divider number, lib.quotientText digits divider = some number → ' ' ∉ number)
    (payload : Payload) (context : ParseContext) (tx : WrappedTron)
    (h : WrappedTron.fromPayload lib payload context = .ok tx) (shown : ParsedTx)
    (hshown : tx.parse lib = .ok shown) :
    (shown.overview = shown.detail.toOverviewTx
      ∧ ∃ message, tx.tronTx.message? = some message
        ∧ Describes lib tokens tx.value shown.detail message)
      ↔ ∃ content fields, payload.tronTx? = some (content, fields)
        ∧ fields.Announces lib tokens := by
  obtain ⟨content, fields, transaction, hfields, hbuilt, rfl⟩ := fromPayload_eq_ok h
  obtain ⟨message, hmessage, hbuilt⟩ := built_of_buildTx hbuilt
  obtain ⟨overview, detail⟩ := shown
  obtain ⟨number, hnumber, rfl, rfl⟩ := parse_eq_ok hshown
  constructor
  · intro hdescribes
    obtain ⟨-, message', hmessage', hdescribes⟩ := hdescribes
    cases hmessage.symm.trans hmessage'
    obtain ⟨number', hnumber', htext⟩ := hdescribes.amount
    obtain ⟨rfl, hunit⟩ := append_blank_inj (hblank _ _ _ hnumber) (hblank _ _ _ hnumber') htext
    refine ⟨content, fields, hfields, ?_⟩
    constructor
    · rw [hbuilt.asset]
      exact hunit
    · rw [hbuilt.asset]
      exact hnumber.trans hnumber'.symm
    · rw [hbuilt.asset]
      exact hdescribes.unit
    · exact hbuilt.payment_iff.mp hdescribes.payment
  · intro hannounces
    obtain ⟨content', fields', hfields', hannounces⟩ := hannounces
    cases hfields.symm.trans hfields'
    refine ⟨rfl, message, hmessage, ?_⟩
    constructor
    · exact hbuilt.formatMethod rfl rfl
    · exact hbuilt.sender
    · exact hbuilt.contract
    · exact hbuilt.token
    · exact hbuilt.payment_iff.mpr hannounces.version
    · have hnumber' := hannounces.number
      rw [hbuilt.asset] at hnumber'
      refine ⟨number, hnumber'.symm.trans hnumber, ?_⟩
      have hsymbol := hannounces.symbol
      rw [hbuilt.asset] at hsymbol
      exact congrArg (number ++ ' ' :: ·) hsymbol
    · have hunit := hannounces.unit
      rw [hbuilt.asset] at hunit
      exact hunit

def TronLib.sample : TronLib where
  decodeCheck text := .ok (0x41 :: (Block.ofBytes 20 (utf8 text)).bytes)
  encodeCheck bytes := hexText bytes
  sha256 := Block.ofBytes 32
  keccak256 := Block.ofBytes 32
  encodeRaw raw := raw.refBlockBytes ++ raw.refBlockHash
  encodeTransaction tx := tx.signature.flatten
  quotientText digits divider := (parseU256 digits).map fun n => Nat.toDigits 10 (n / divider)

theorem sample_blank (digits : Text) (divider : Nat) (number : Text)
    (h : TronLib.sample.quotientText digits divider = some number) : ' ' ∉ number := by
  obtain ⟨n, -, rfl⟩ := Option.map_eq_some_iff.mp h
  intro hblank
  cases Bytes.isDigit_toDigits ' ' hblank

def Tokens.sample : Tokens where
  symbol asset := if asset = .native then trx else ['U', 'S', 'D', 'T']
  decimals _ := 6
  symbol_native := rfl
  decimals_native := rfl

def samplePayload (override : Option Override) : Payload where
  xfp := ['7', '3']
  content := some (.signTx {
    hdPath := ['m']
    transaction := some (.tronTx {
      token := []
      contractAddress := ['C']
      sender := ['A']
      recipient := ['B']
      value := ['1', '0', '0', '0', '0', '0', '0']
      latestBlock := some { hash := List.replicate 64 '0', number := 1, timestamp := 0 }
      override }) })

def sampleContext : ParseContext := ⟨Block.ofBytes 4 [], ['x']⟩

theorem exists_sample {override : Option Override}
    (h : (WrappedTron.fromPayload .sample (samplePayload override) sampleContext).isOk = true) :
    ∃ tx shown, WrappedTron.fromPayload .sample (samplePayload override) sampleContext = .ok tx
      ∧ tx.parse .sample = .ok shown := by
  obtain ⟨tx, htx⟩ := Outcome.exists_of_isOk h
  obtain ⟨content, fields, transaction, hfields, -, rfl⟩ := fromPayload_eq_ok htx
  cases hfields
  exact ⟨_, _, htx, rfl⟩

/-- With the token's own override the amount is shown in its unit. -/
theorem describes_iff_override : ∃ tx shown,
    WrappedTron.fromPayload .sample (samplePayload (some ⟨['U', 'S', 'D', 'T'], 6⟩)) sampleContext
      = .ok tx ∧ tx.parse .sample = .ok shown
      ∧ ((shown.overview = shown.detail.toOverviewTx
        ∧ ∃ message, tx.tronTx.message? = some message
          ∧ Describes .sample .sample tx.value shown.detail message)
        ↔ ∃ content fields, (samplePayload (some ⟨['U', 'S', 'D', 'T'], 6⟩)).tronTx?
            = some (content, fields) ∧ fields.Announces .sample .sample) := by
  obtain ⟨tx, shown, htx, hshown⟩ :=
    @exists_sample (some ⟨['U', 'S', 'D', 'T'], 6⟩) (by decide)
  exact ⟨tx, shown, htx, hshown,
    describes_iff .sample .sample sample_blank _ sampleContext tx htx shown hshown⟩

/-- Without an override the amount of a TRC-20 token is shown as TRX. -/
theorem not_describes_withoutOverride : ¬∀ (lib : TronLib) (tokens : Tokens) (payload : Payload)
    (context : ParseContext) (tx : WrappedTron) (shown : ParsedTx),
    (∀ digits divider number, lib.quotientText digits divider = some number → ' ' ∉ number) →
    WrappedTron.fromPayload lib payload context = .ok tx → tx.parse lib = .ok shown →
    shown.overview = shown.detail.toOverviewTx ∧ ∃ message, tx.tronTx.message? = some message
      ∧ Describes lib tokens tx.value shown.detail message := by
  intro hall
  obtain ⟨tx, shown, htx, hshown⟩ := @exists_sample none (by decide)
  obtain ⟨-, message, hmessage, hdescribes⟩ :=
    hall .sample .sample (samplePayload none) sampleContext tx shown sample_blank htx hshown
  obtain ⟨content, fields, transaction, hfields, hbuilt, rfl⟩ := fromPayload_eq_ok htx
  cases hfields
  obtain ⟨message', hmessage', hbuilt⟩ := built_of_buildTx hbuilt
  cases hmessage.symm.trans hmessage'
  obtain ⟨number, hnumber, htext⟩ := hdescribes.amount
  obtain ⟨shownNumber, hshownNumber, -, hdetail⟩ := parse_eq_ok hshown
  rw [hdetail] at htext
  obtain ⟨-, hunit⟩ :=
    append_blank_inj (sample_blank _ _ _ hshownNumber) (sample_blank _ _ _ hnumber) htext
  refine hdescribes.unit ?_ hunit.symm
  rw [← hbuilt.asset]
  decide

end Keystone3.Tron
