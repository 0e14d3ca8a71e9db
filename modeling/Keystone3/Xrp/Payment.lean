import Keystone3.Bytes.Reader
import Keystone3.Json.Serde
import Keystone3.Keys.Secp256k1

/-!
# XRP payments

The fields of a payment are put between the quotes of a JSON text, which is read
again, serialised and signed. What is shown are the fields themselves.
`signsDisplayed_iff` says for which fields and paths the transaction is the one that
is shown and has the key that signs it.
-/

namespace Keystone3.Xrp

open Bitcoin (DerivationPath PublicKey)
open Bytes (Block hexText hexDecode intText)
open Ethereum (FloatText Text Value)
open Keys (IsAccountKey InAccount SecpLib)
open Logic (Outcome)
open Logic.Outcome (bind_eq_ok okOr okOr_eq_ok unwrap_eq_ok)

/-- `XRPError`, less what is only raised elsewhere and less what is printed. -/
inductive XrpError where
  | signFailure (reason : String)
  | keystoreError (e : Keys.KeystoreError)
  | invalidData

/-- `RustCError`, less what is only raised elsewhere. -/
inductive RustCError where
  | invalidData (reason : String)

def accountName : Text := ['A', 'c', 'c', 'o', 'u', 'n', 't']

def amountName : Text := ['A', 'm', 'o', 'u', 'n', 't']

def destinationName : Text := ['D', 'e', 's', 't', 'i', 'n', 'a', 't', 'i', 'o', 'n']

def feeName : Text := ['F', 'e', 'e']

def flagsName : Text := ['F', 'l', 'a', 'g', 's']

def sequenceName : Text := ['S', 'e', 'q', 'u', 'e', 'n', 'c', 'e']

def transactionTypeName : Text := ['T', 'r', 'a', 'n', 's', 'a', 'c', 't', 'i', 'o', 'n', 'T', 'y',
  'p', 'e']

def signingPubKeyName : Text := ['S', 'i', 'g', 'n', 'i', 'n', 'g', 'P', 'u', 'b', 'K', 'e', 'y']

def destinationTagName : Text := ['D', 'e', 's', 't', 'i', 'n', 'a', 't', 'i', 'o', 'n', 'T', 'a',
  'g']

def txnSignatureName : Text := ['T', 'x', 'n', 'S', 'i', 'g', 'n', 'a', 't', 'u', 'r', 'e']

def fieldNames : List Text :=
  [accountName, amountName, destinationName, feeName, flagsName, sequenceName, transactionTypeName,
    signingPubKeyName, destinationTagName]

def paymentType : Text := ['P', 'a', 'y', 'm', 'e', 'n', 't']

/-- `protoc::XrpTx`, with the fields that are read. The numbers have a machine type. -/
structure XrpTx where
  amount : Text
  changeAddress : Text
  fee : Text
  sequence : Int
  tag : Int
  recipient : Text
  sequence_fits : -2 ^ 63 ≤ sequence ∧ sequence < 2 ^ 64
  tag_fits : -2 ^ 63 ≤ tag ∧ tag < 2 ^ 64

inductive SignTransaction.Transaction where
  | xrpTx (tx : XrpTx)
  | other

structure SignTransaction where
  signId : Text
  hdPath : Text
  transaction : Option SignTransaction.Transaction

inductive Payload.Content where
  | signTx (content : SignTransaction)
  | other

structure Payload where
  content : Option Payload.Content

structure XrpLib where
  /-- A number that is not an integer of 64 bits, as it is printed again. -/
  readFloat : Text → Option FloatText
  /-- `serialize_tx`, for signing or with the signature. It takes the text of a value and reads
  it. -/
  serializeTx : Value → Bool → Option Text
  sha512 : List UInt8 → Block 64
  /-- A signature in DER, if its numbers are in range. -/
  serializeDer : Block 64 → Option (List UInt8)
  /-- All fields of a message. -/
  toStringPretty : XrpTx → Text

def Payload.xrpTx (payload : Payload) : Outcome RustCError (SignTransaction × XrpTx) :=
  match payload.content with
  | none => .halted
  | some .other => .error (.invalidData "Cant get sign tx struct data")
  | some (.signTx signTx) =>
    match signTx.transaction with
    | none => .halted
    | some .other => .error (.invalidData "Cant get xrp tx struct data")
    | some (.xrpTx tx) => .ok (signTx, tx)

structure DisplayXrpTxOverview where
  displayType : Text
  transactionType : Text
  sender : Text
  fee : Text
  sequence : Text
  value : Text
  recipient : Text

structure DisplayXrpTx where
  network : Text
  overview : DisplayXrpTxOverview
  detail : Text
  signingPubkey : Text

/-- A text with a zero in it is no C string. -/
def convertCChar (s : Text) : Outcome RustCError Text := if '\x00' ∈ s then .halted else .ok s

/-- `TryFrom<XrpTx> for DisplayXrpTx`. -/
def DisplayXrpTx.tryFrom (lib : XrpLib) (tx : XrpTx) : Outcome RustCError DisplayXrpTx := do
  let displayType ← convertCChar "XRP mainnet".toList
  let transactionType ← convertCChar paymentType
  let sender ← convertCChar tx.changeAddress
  let fee ← convertCChar tx.fee
  let sequence ← convertCChar (intText tx.sequence)
  let value ← convertCChar tx.amount
  let recipient ← convertCChar tx.recipient
  let network ← convertCChar "XRP Mainnet".toList
  let detail ← convertCChar (lib.toStringPretty tx)
  let signingPubkey ← convertCChar "signing_pubkey".toList
  pure {
    network
    overview := { displayType, transactionType, sender, fee, sequence, value, recipient }
    detail
    signingPubkey }

def xrpParseBytesTx (lib : XrpLib) (payload : Payload) : Outcome RustCError DisplayXrpTx := do
  let (_, tx) ← payload.xrpTx
  DisplayXrpTx.tryFrom lib tx

section

variable {Xpriv Xpub : Type} (lib : XrpLib) (secp : SecpLib Xpriv Xpub)

structure WrappedTxData where
  txData : Value
  txHex : Block 32
  signingPubkey : Text

/-- `tx_data["DestinationTag"].as_i64()`. -/
def destinationTag (txData : Value) : Option Int :=
  match txData.index destinationTagName with
  | .number n => n.asI64
  | _ => none

/-- `from_raw`, of a value that has been read. A tag has 32 bits. -/
def WrappedTxData.fromRaw (txData : Value) : Outcome XrpError WrappedTxData := do
  let signingPubkey := ((txData.index signingPubKeyName).asStr).getD []
  if (destinationTag txData).any (fun tag => !(decide (0 ≤ tag) && decide (tag ≤ 0xffffffff))) = true then
    .error (.signFailure "invalid tag")
  else do
    let serialized ← okOr (.signFailure "serialize tx failed") (lib.serializeTx txData true)
    let bytes ← okOr .invalidData (hexDecode serialized)
    let hash := (lib.sha512 ([0x53, 0x54, 0x58, 0x00] ++ bytes)).bytes.take 32
    pure { txData, txHex := Block.ofBytes 32 hash, signingPubkey }

/-- `value[key] = v`. Null becomes an object, and other values have no keys. -/
def setKey (key : Text) (v : Value) : Value → Outcome XrpError Value
  | .object ms =>
    if ms.any (fun m => m.1 = key) = true then
      .ok (.object (ms.map fun m => if m.1 = key then (key, v) else m))
    else .ok (.object (ms ++ [(key, v)]))
  | .null => .ok (.object [(key, v)])
  | _ => .halted

def upperHex (bytes : List UInt8) : Text := (hexText bytes).map Char.toUpper

def WrappedTxData.generateSignedTx (tx : WrappedTxData) (signature : Block 64) :
    Outcome XrpError Text := do
  let der ← okOr (.signFailure "invalid signature") (lib.serializeDer signature)
  let txData ← setKey txnSignatureName (.string (upperHex der)) tx.txData
  okOr (.signFailure "serialize tx failed") (lib.serializeTx txData false)

def signTx (v : Value) (hdPath : Text) (seed : List UInt8) : Outcome XrpError (List UInt8) := do
  let wrappedTx ← WrappedTxData.fromRaw lib v
  let (_, signature) ← Outcome.mapError .keystoreError
    (Keys.signMessageBySeed secp seed hdPath wrappedTx.txHex)
  let signedTx ← wrappedTx.generateSignedTx lib signature
  okOr .invalidData (hexDecode signedTx)

def getTxHash (v : Value) : Outcome XrpError Text := do
  let wrappedTx ← WrappedTxData.fromRaw lib v
  pure (hexText wrappedTx.txHex.bytes)

def indent : Text := '\n' :: List.replicate 12 ' '

def txMembers (tx : XrpTx) (key : Text) : List Serde.Member :=
  [⟨indent, accountName, [' '], .string tx.changeAddress⟩,
    ⟨indent, amountName, [' '], .string tx.amount⟩,
    ⟨indent, destinationName, [], .string tx.recipient⟩,
    ⟨indent, feeName, [' '], .string tx.fee⟩,
    ⟨indent, flagsName, [' '], .int 2147483648⟩,
    ⟨indent, sequenceName, [' '], .int tx.sequence⟩,
    ⟨indent, transactionTypeName, [' '], .string paymentType⟩,
    ⟨indent, signingPubKeyName, [' '], .string key⟩,
    ⟨indent, destinationTagName, [], .int tx.tag⟩]

def txStr (tx : XrpTx) (key : Text) : Text :=
  Serde.objectText (txMembers tx key) ('\n' :: List.replicate 8 ' ')

def signingKey (hdPath rootXpub : Text) : Outcome RustCError PublicKey := do
  let xpub ← Outcome.unwrap (secp.parseXpub rootXpub)
  let splitHdPath := hdPath.splitOn '/'
  let a ← Outcome.index splitHdPath 4
  let b ← Outcome.index splitHdPath 5
  let derivationPath ← Outcome.unwrap (Keys.parsePath (Keys.twoSteps a b))
  let fiveLevelXpub ← Outcome.unwrap (secp.derivePub xpub derivationPath)
  pure (secp.publicKey fiveLevelXpub)

def transactionOf (tx : XrpTx) (hdPath rootXpub : Text) : Outcome RustCError Value := do
  let key ← signingKey secp hdPath rootXpub
  Outcome.unwrap (Serde.fromStr lib.readFloat (txStr tx (upperHex key.bytes)))

structure SignTransactionResult where
  signId : Text
  txId : Text
  rawTx : Text

/-- `xrp_sign_tx_bytes`, less the envelope of its result. -/
def xrpSignTxBytes (payload : Payload) (seed : List UInt8) (rootXpub : Text) :
    Outcome RustCError SignTransactionResult := do
  let (signTransaction, tx) ← payload.xrpTx
  let v ← transactionOf lib secp tx signTransaction.hdPath rootXpub
  let signResult := signTx lib secp v signTransaction.hdPath seed
  let txHash ← Outcome.expect (getTxHash lib v)
  let rawTx ← Outcome.expect signResult
  pure { signId := signTransaction.signId, txId := txHash.map Char.toUpper, rawTx := hexText rawTx }

end

def paymentFields (shown : DisplayXrpTxOverview) (sequence tag : Int) (key : PublicKey) :
    List (Text × Value) :=
  [(accountName, .string shown.sender), (amountName, .string shown.value),
    (destinationName, .string shown.recipient), (feeName, .string shown.fee),
    (flagsName, .number (Serde.numberOf 2147483648)), (sequenceName, .number (Serde.numberOf sequence)),
    (transactionTypeName, .string shown.transactionType),
    (signingPubKeyName, .string (upperHex key.bytes)),
    (destinationTagName, .number (Serde.numberOf tag))]

section

variable {Xpriv Xpub : Type} (lib : XrpLib) (secp : SecpLib Xpriv Xpub)

def signingHash (bytes : List UInt8) : Block 32 :=
  Block.ofBytes 32 ((lib.sha512 ([0x53, 0x54, 0x58, 0x00] ++ bytes)).bytes.take 32)

/-- A result has the fields and one more, which is the key's signature over the fields. -/
def IsSigned (key : Xpriv) (fields : List (Text × Value)) (result : SignTransactionResult) : Prop :=
  ∃ serialized bytes der raw rawBytes, lib.serializeTx (.object fields) true = some serialized
    ∧ hexDecode serialized = some bytes
    ∧ lib.serializeDer (secp.signEcdsaRecoverable key (signingHash lib bytes)).2 = some der
    ∧ lib.serializeTx (.object (fields ++ [(txnSignatureName, .string (upperHex der))])) false
      = some raw
    ∧ hexDecode raw = some rawBytes ∧ result.rawTx = hexText rawBytes
    ∧ result.txId = upperHex (signingHash lib bytes).bytes

/-- The transaction that is signed is the one that is shown, with the public key of the private key
that signs it. -/
def SignsShown (tx : XrpTx) (hdPath rootXpub : Text) (seed : List UInt8)
    (result : SignTransactionResult) : Prop :=
  ∃ shown sequence key, DisplayXrpTx.tryFrom lib tx = .ok shown
    ∧ shown.overview.sequence = intText sequence ∧ shown.detail = lib.toStringPretty tx
    ∧ Keys.getExtendedPrivateKeyBySeed secp seed hdPath = .ok key
    ∧ transactionOf lib secp tx hdPath rootXpub
      = .ok (.object (paymentFields shown.overview sequence tx.tag (secp.publicKey (secp.neuter key))))
    ∧ IsSigned lib secp key
      (paymentFields shown.overview sequence tx.tag (secp.publicKey (secp.neuter key))) result

end

/-- No field has a quote, a backslash or a control character in it. -/
def XrpTx.IsPlain (tx : XrpTx) : Prop :=
  ∀ field ∈ [tx.changeAddress, tx.amount, tx.recipient, tx.fee], ∀ c ∈ field, Serde.IsPlain c

def xrpAccount : DerivationPath := [.hardened 44, .hardened 144, .hardened 0]

/-- What the codec takes for an address or an amount has no quote, no backslash and no control
character: addresses are in base 58 and amounts in digits. -/
def TakesPlain (lib : XrpLib) : Prop :=
  ∀ v text, lib.serializeTx v true = some text →
    ∀ name ∈ [accountName, amountName, destinationName, feeName], ∀ s,
      (v.index name).asStr = some s → ∀ c ∈ s, Serde.IsPlain c

/-- The key at a path is no key two steps below the account, other than by its path. -/
def Apart {Xpriv Xpub : Type} (secp : SecpLib Xpriv Xpub) (seed : List UInt8) (path : Text) : Prop :=
  ∀ master key a b child, secp.newMaster seed = some master
    → Keys.getExtendedPrivateKeyBySeed secp seed path = .ok key
    → secp.derivePriv master (xrpAccount ++ [a, b]) = some child
    → secp.publicKey (secp.neuter key) = secp.publicKey (secp.neuter child)
    → Keys.parsePath (Keys.normalizePath path) = some (xrpAccount ++ [a, b])

theorem upperHex_cons (b : UInt8) (bytes : List UInt8) : upperHex (b :: bytes)
    = (Nat.digitChar (b.toNat / 16)).toUpper :: (Nat.digitChar (b.toNat % 16)).toUpper
      :: upperHex bytes := rfl

instance (c : Char) : Decidable (Serde.IsPlain c) :=
  inferInstanceAs (Decidable (c ≠ '"' ∧ c ≠ '\\' ∧ 32 ≤ c.toNat))

theorem isPlain_toUpper : ∀ d < 16, Serde.IsPlain (Nat.digitChar d).toUpper := by
  decide

theorem isPlain_upperHex (bytes : List UInt8) : ∀ c ∈ upperHex bytes, Serde.IsPlain c := by
  induction bytes with
  | nil => exact fun c hc => absurd hc List.not_mem_nil
  | cons b bytes ih =>
    have hb := b.toNat_lt
    intro c hc
    rw [upperHex_cons] at hc
    rcases List.mem_cons.mp hc with rfl | hc
    · exact isPlain_toUpper _ (by omega)
    · rcases List.mem_cons.mp hc with rfl | hc
      · exact isPlain_toUpper _ (by omega)
      · exact ih c hc

theorem isPlain_of_all {texts : List Text} (h : texts.all (·.all (Serde.IsPlain ·)) = true) :
    ∀ s ∈ texts, ∀ c ∈ s, Serde.IsPlain c := fun s hs c hc =>
  of_decide_eq_true (List.all_eq_true.mp (List.all_eq_true.mp h s hs) c hc)

theorem fromStr_txStr {readFloat : Text → Option FloatText} {tx : XrpTx} (h : tx.IsPlain)
    {shown : DisplayXrpTxOverview} (hshown : shown.sender = tx.changeAddress
      ∧ shown.value = tx.amount ∧ shown.recipient = tx.recipient ∧ shown.fee = tx.fee
      ∧ shown.transactionType = paymentType) (key : PublicKey) :
    Serde.fromStr readFloat (txStr tx (upperHex key.bytes))
      = some (.object (paymentFields shown tx.sequence tx.tag key)) := by
  have hindent : ∀ c ∈ indent, Serde.isBlank c = true := List.all_eq_true.mp (by decide)
  have hblank : ∀ c ∈ [' '], Serde.isBlank c = true := List.all_eq_true.mp (by decide)
  have hafter : ∀ c ∈ '\n' :: List.replicate 8 ' ', Serde.isBlank c = true :=
    List.all_eq_true.mp (by decide)
  have hnone : ∀ c ∈ ([] : Text), Serde.isBlank c = true := fun c hc => absurd hc List.not_mem_nil
  have htype := isPlain_of_all (by decide) paymentType (List.mem_singleton_self _)
  have hname : ∀ name ∈ fieldNames, ∀ c ∈ name, Serde.IsPlain c := isPlain_of_all (by decide)
  have hflags : -2 ^ 63 ≤ (2147483648 : Int) ∧ (2147483648 : Int) < 2 ^ 64 := by
    decide
  have hplain : ∀ m ∈ txMembers tx (upperHex key.bytes), m.IsPlain := by
    unfold txMembers
    simp only [List.forall_mem_cons]
    refine ⟨⟨hindent, hname _ ?_, hblank, h _ ?_⟩, ⟨hindent, hname _ ?_, hblank, h _ ?_⟩,
      ⟨hindent, hname _ ?_, hnone, h _ ?_⟩, ⟨hindent, hname _ ?_, hblank, h _ ?_⟩,
      ⟨hindent, hname _ ?_, hblank, hflags⟩, ⟨hindent, hname _ ?_, hblank, tx.sequence_fits⟩,
      ⟨hindent, hname _ ?_, hblank, htype⟩, ⟨hindent, hname _ ?_, hblank, isPlain_upperHex _⟩,
      ⟨hindent, hname _ ?_, hnone, tx.tag_fits⟩, fun m hm => absurd hm List.not_mem_nil⟩
    all_goals simp [fieldNames]
  obtain ⟨hsender, hvalue, hrecipient, hfee, hpayment⟩ := hshown
  have hnodup : (((txMembers tx (upperHex key.bytes)).map Serde.Member.entry).map Prod.fst).Nodup := by
    show fieldNames.Nodup
    decide
  rw [txStr, Serde.fromStr_objectText hplain (List.cons_ne_nil _ _) hafter, Serde.objectOf,
    Logic.BTreeMap.entries_ofList hnodup, paymentFields, hsender, hvalue, hrecipient, hfee, hpayment]
  rfl

theorem tryFrom_eq_ok {lib : XrpLib} {tx : XrpTx} {shown : DisplayXrpTx}
    (h : DisplayXrpTx.tryFrom lib tx = .ok shown) : shown.overview.sender = tx.changeAddress
      ∧ shown.overview.value = tx.amount ∧ shown.overview.recipient = tx.recipient
      ∧ shown.overview.fee = tx.fee ∧ shown.overview.transactionType = paymentType := by
  have hverbatim : ∀ {s t : Text}, convertCChar s = .ok t → t = s := by
    intro s t hconvert
    unfold convertCChar at hconvert
    split at hconvert
    · cases hconvert
    · exact (Outcome.ok.inj hconvert).symm
  unfold DisplayXrpTx.tryFrom at h
  obtain ⟨displayType, -, h⟩ := bind_eq_ok.mp h
  obtain ⟨transactionType, htype, h⟩ := bind_eq_ok.mp h
  obtain ⟨sender, hsender, h⟩ := bind_eq_ok.mp h
  obtain ⟨fee, hfee, h⟩ := bind_eq_ok.mp h
  obtain ⟨sequence, -, h⟩ := bind_eq_ok.mp h
  obtain ⟨value, hvalue, h⟩ := bind_eq_ok.mp h
  obtain ⟨recipient, hrecipient, h⟩ := bind_eq_ok.mp h
  obtain ⟨network, -, h⟩ := bind_eq_ok.mp h
  obtain ⟨detail, -, h⟩ := bind_eq_ok.mp h
  obtain ⟨signingPubkey, -, h⟩ := bind_eq_ok.mp h
  cases h
  exact ⟨hverbatim hsender, hverbatim hvalue, hverbatim hrecipient, hverbatim hfee, hverbatim htype⟩

theorem convertCChar_of_notMem {s : Text} (h : '\x00' ∉ s) : convertCChar s = .ok s := by
  rw [convertCChar, if_neg h]

theorem zero_notMem_intText (n : Int) : '\x00' ∉ intText n := by
  intro hmem
  cases n with
  | ofNat n => exact absurd (Bytes.isDigit_toDigits _ hmem) (by decide)
  | negSucc n =>
    rcases List.mem_cons.mp hmem with hminus | hmem
    · exact absurd hminus (by decide)
    · exact absurd (Bytes.isDigit_toDigits _ hmem) (by decide)

theorem tryFrom_of_isPlain {lib : XrpLib} {tx : XrpTx} (h : tx.IsPlain)
    (hdetail : '\x00' ∉ lib.toStringPretty tx) : ∃ shown, DisplayXrpTx.tryFrom lib tx = .ok shown
      ∧ shown.overview.sequence = intText tx.sequence ∧ shown.detail = lib.toStringPretty tx := by
  have hzero : ∀ field ∈ [tx.changeAddress, tx.amount, tx.recipient, tx.fee], '\x00' ∉ field :=
    fun field hfield hmem => absurd (h field hfield _ hmem) (by decide)
  unfold DisplayXrpTx.tryFrom
  rw [convertCChar_of_notMem (hzero tx.changeAddress (by simp)),
    convertCChar_of_notMem (hzero tx.amount (by simp)),
    convertCChar_of_notMem (hzero tx.recipient (by simp)),
    convertCChar_of_notMem (hzero tx.fee (by simp)),
    convertCChar_of_notMem (zero_notMem_intText tx.sequence), convertCChar_of_notMem hdetail]
  exact ⟨_, rfl, rfl, rfl⟩

section

variable {Xpriv Xpub : Type} {lib : XrpLib} {secp : SecpLib Xpriv Xpub}

theorem fromRaw_eq_ok {v : Value} {wrapped : WrappedTxData}
    (h : WrappedTxData.fromRaw lib v = .ok wrapped) : ∃ serialized bytes,
      lib.serializeTx v true = some serialized ∧ hexDecode serialized = some bytes
        ∧ wrapped.txData = v ∧ wrapped.txHex = signingHash lib bytes := by
  unfold WrappedTxData.fromRaw at h
  dsimp only at h
  split at h
  · cases h
  · obtain ⟨serialized, hserialized, h⟩ := bind_eq_ok.mp h
    obtain ⟨bytes, hbytes, h⟩ := bind_eq_ok.mp h
    cases h
    exact ⟨serialized, bytes, okOr_eq_ok.mp hserialized, okOr_eq_ok.mp hbytes, rfl, rfl⟩

theorem setKey_object {key : Text} {v : Value} {fields : List (Text × Value)}
    (h : key ∉ fields.map Prod.fst) :
    setKey key v (.object fields) = .ok (.object (fields ++ [(key, v)])) := by
  have hnone : ¬fields.any (fun m => m.1 = key) = true := by
    intro hany
    obtain ⟨m, hm, hkey⟩ := List.any_eq_true.mp hany
    exact h (List.mem_map.mpr ⟨m, hm, of_decide_eq_true hkey⟩)
  rw [setKey, if_neg hnone]

theorem signTx_eq_ok {v : Value} {hdPath : Text} {seed rawBytes : List UInt8}
    (h : signTx lib secp v hdPath seed = .ok rawBytes) : ∃ wrapped key der txData raw,
      WrappedTxData.fromRaw lib v = .ok wrapped
        ∧ Keys.getExtendedPrivateKeyBySeed secp seed hdPath = .ok key
        ∧ lib.serializeDer (secp.signEcdsaRecoverable key wrapped.txHex).2 = some der
        ∧ setKey txnSignatureName (.string (upperHex der)) wrapped.txData = .ok txData
        ∧ lib.serializeTx txData false = some raw ∧ hexDecode raw = some rawBytes := by
  unfold signTx at h
  obtain ⟨wrapped, hwrapped, h⟩ := bind_eq_ok.mp h
  obtain ⟨⟨recId, signature⟩, hsignature, h⟩ := bind_eq_ok.mp h
  obtain ⟨raw, hraw, hbytes⟩ := bind_eq_ok.mp h
  have hsignature := Outcome.mapError_eq_ok.mp hsignature
  unfold Keys.signMessageBySeed at hsignature
  obtain ⟨key, hkey, hsignature⟩ := bind_eq_ok.mp hsignature
  unfold WrappedTxData.generateSignedTx at hraw
  obtain ⟨der, hder, hraw⟩ := bind_eq_ok.mp hraw
  obtain ⟨txData, htxData, hraw⟩ := bind_eq_ok.mp hraw
  have hpair : secp.signEcdsaRecoverable key wrapped.txHex = (recId, signature) :=
    Outcome.ok.inj hsignature
  refine ⟨wrapped, key, der, txData, raw, hwrapped, hkey, ?_, htxData, okOr_eq_ok.mp hraw,
    okOr_eq_ok.mp hbytes⟩
  rw [hpair]
  exact okOr_eq_ok.mp hder

variable {result : SignTransactionResult} {seed : List UInt8}

theorem xrpSignTxBytes_eq_ok {payload : Payload} {content : SignTransaction} {tx : XrpTx} {rootXpub : Text}
    (htx : payload.xrpTx = .ok (content, tx))
    (h : xrpSignTxBytes lib secp payload seed rootXpub = .ok result) :
    ∃ v key, transactionOf lib secp tx content.hdPath rootXpub = .ok v
      ∧ Keys.getExtendedPrivateKeyBySeed secp seed content.hdPath = .ok key
      ∧ ∀ fields, v = .object fields → txnSignatureName ∉ fields.map Prod.fst →
        IsSigned lib secp key fields result := by
  unfold xrpSignTxBytes at h
  obtain ⟨pair, hpair, h⟩ := bind_eq_ok.mp h
  cases htx.symm.trans hpair
  obtain ⟨v, hv, h⟩ := bind_eq_ok.mp h
  obtain ⟨txHash, hhash, h⟩ := bind_eq_ok.mp h
  obtain ⟨rawBytes, hraw, h⟩ := bind_eq_ok.mp h
  cases h
  obtain ⟨wrapped, key, der, txData, raw, hwrapped, hkey, hder, htxData, hserialize, hbytes⟩ :=
    signTx_eq_ok (Outcome.expect_eq_ok.mp hraw)
  have hhashed := Outcome.expect_eq_ok.mp hhash
  rw [getTxHash, hwrapped] at hhashed
  obtain ⟨serialized, bytes, hserialized, hdecoded, hdata, hhex⟩ := fromRaw_eq_ok hwrapped
  refine ⟨v, key, hv, hkey, ?_⟩
  rintro fields rfl hfresh
  rw [hdata, setKey_object hfresh] at htxData
  rw [hhex] at hder
  cases htxData
  obtain rfl := (Outcome.ok.inj hhashed).symm
  rw [hhex]
  exact ⟨serialized, bytes, der, raw, rawBytes, hserialized, hdecoded, hder, hserialize, hbytes, rfl, rfl⟩

variable {hdPath rootXpub : Text}

theorem signingKey_eq_ok {key : PublicKey}
    (h : signingKey secp hdPath rootXpub = .ok key) : ∃ xpub a b steps child,
      secp.parseXpub rootXpub = some xpub ∧ (hdPath.splitOn '/')[4]? = some a
        ∧ (hdPath.splitOn '/')[5]? = some b ∧ Keys.parseSteps [a, b] = some steps
        ∧ secp.derivePub xpub steps = some child ∧ secp.publicKey child = key := by
  unfold signingKey at h
  obtain ⟨xpub, hxpub, h⟩ := bind_eq_ok.mp h
  obtain ⟨a, ha, h⟩ := bind_eq_ok.mp h
  obtain ⟨b, hb, h⟩ := bind_eq_ok.mp h
  obtain ⟨steps, hsteps, h⟩ := bind_eq_ok.mp h
  obtain ⟨child, hchild, h⟩ := bind_eq_ok.mp h
  cases h
  have ha := Outcome.index_eq_ok.mp ha
  have hb := Outcome.index_eq_ok.mp hb
  have hslash : ∀ part ∈ hdPath.splitOn '/', '/' ∉ part :=
    fun part hpart => Bytes.not_mem_of_mem_splitOn part hpart
  have hsteps := unwrap_eq_ok.mp hsteps
  rw [Keys.parsePath_twoSteps (hslash a (List.mem_of_getElem? ha))
    (hslash b (List.mem_of_getElem? hb))] at hsteps
  exact ⟨xpub, a, b, steps, child, unwrap_eq_ok.mp hxpub, ha, hb, hsteps,
    unwrap_eq_ok.mp hchild, rfl⟩

theorem parts_of_inAccount {path a b : Text} (h : InAccount xrpAccount path)
    (ha : (path.splitOn '/')[4]? = some a) (hb : (path.splitOn '/')[5]? = some b) :
    ∃ front, front ≠ [] ∧ path.splitOn '/' = front ++ [a, b] := by
  obtain ⟨x, y, hpath⟩ := h
  obtain ⟨hlong, hbget⟩ := List.getElem?_eq_some_iff.mp hb
  obtain ⟨hfour, haget⟩ := List.getElem?_eq_some_iff.mp ha
  have hle := Keys.length_parts_le hpath (by omega)
  have hsix : (path.splitOn '/').length = 6 := by
    have hsteps : (xrpAccount ++ [x, y]).length = 5 := rfl
    omega
  refine ⟨(path.splitOn '/').take 4, ?_, ?_⟩
  · intro hnil
    have hlength := congrArg List.length hnil
    rw [List.length_take, hsix] at hlength
    cases hlength
  · have hdrop : (path.splitOn '/').drop 4 = [a, b] := by
      rw [List.drop_eq_getElem_cons (by omega), List.drop_eq_getElem_cons (by omega),
        List.drop_eq_nil_of_le (by omega)]
      exact congrArg₂ (fun x y => [x, y]) haget hbget
    rw [← hdrop, List.take_append_drop]

theorem transactionOf_eq_ok {tx : XrpTx} {v : Value}
    (h : transactionOf lib secp tx hdPath rootXpub = .ok v) : ∃ key,
      signingKey secp hdPath rootXpub = .ok key
        ∧ Serde.fromStr lib.readFloat (txStr tx (upperHex key.bytes)) = some v := by
  unfold transactionOf at h
  obtain ⟨key, hkey, h⟩ := bind_eq_ok.mp h
  exact ⟨key, hkey, unwrap_eq_ok.mp h⟩

theorem signingKey_of_account {key : PublicKey}
    (hkey : IsAccountKey secp seed xrpAccount rootXpub)
    (h : signingKey secp hdPath rootXpub = .ok key) : ∃ a b x y master child,
      (hdPath.splitOn '/')[4]? = some a ∧ (hdPath.splitOn '/')[5]? = some b
        ∧ Keys.parseSteps [a, b] = some [x, y] ∧ secp.newMaster seed = some master
        ∧ secp.derivePriv master (xrpAccount ++ [x, y]) = some child
        ∧ secp.publicKey (secp.neuter child) = key := by
  obtain ⟨master, accountKey, hmaster, haccount, hxpub⟩ := hkey
  obtain ⟨xpub, a, b, steps, child, hparsed, ha, hb, hsteps, hchild, rfl⟩ := signingKey_eq_ok h
  cases hxpub.symm.trans hparsed
  obtain ⟨x, y, rfl⟩ := List.length_eq_two.mp (Keys.length_parseSteps hsteps)
  obtain ⟨child', hchild', rfl⟩ := Keys.Hierarchy.derivePriv_of_derivePub haccount hchild
  exact ⟨a, b, x, y, master, child', ha, hb, hsteps, hmaster, hchild', rfl⟩

theorem signsShown {payload : Payload} {content : SignTransaction} {tx : XrpTx} {rootXpub : Text}
    (hkey : IsAccountKey secp seed xrpAccount rootXpub)
    (hdetail : '\x00' ∉ lib.toStringPretty tx) (htx : payload.xrpTx = .ok (content, tx))
    (h : xrpSignTxBytes lib secp payload seed rootXpub = .ok result) (hplain : tx.IsPlain)
    (hin : InAccount xrpAccount content.hdPath) :
    SignsShown lib secp tx content.hdPath rootXpub seed result := by
  obtain ⟨v, key, hv, hprivate, hsigned⟩ := xrpSignTxBytes_eq_ok htx h
  obtain ⟨shown, hshown, hsequence, hpretty⟩ := tryFrom_of_isPlain hplain hdetail
  obtain ⟨signing, hsigning, hread⟩ := transactionOf_eq_ok hv
  obtain ⟨a, b, x, y, master, child, ha, hb, hsteps, hmaster, hchild, rfl⟩ :=
    signingKey_of_account hkey hsigning
  obtain ⟨front, hfront, hparts⟩ := parts_of_inAccount hin ha hb
  obtain ⟨back, hback, hpath⟩ := hin.steps hparts hfront
  have hlower := Keys.map_toLower_of_parseSteps hsteps
  rw [hlower a (by simp), hlower b (by simp), hsteps] at hback
  cases hback
  obtain ⟨steps, master', hsteps', hmaster', hkey'⟩ :=
    Keys.getExtendedPrivateKeyBySeed_eq_ok.mp hprivate
  cases hpath.symm.trans hsteps'
  cases hmaster.symm.trans hmaster'
  cases hchild.symm.trans hkey'
  have hfields := hread.symm.trans (fromStr_txStr hplain (tryFrom_eq_ok hshown) _)
  cases hfields
  have hfresh : txnSignatureName ∉ fieldNames := by
    decide
  exact ⟨shown, tx.sequence, key, hshown, hsequence, hpretty, hprivate, hv, hsigned _ rfl hfresh⟩

theorem SignsShown.isPlain {tx : XrpTx} (hcodec : TakesPlain lib)
    (h : SignsShown lib secp tx hdPath rootXpub seed result) : tx.IsPlain := by
  obtain ⟨shown, sequence, key, hshown, -, -, -, -, serialized, bytes, der, raw, rawBytes, hserialized,
    -⟩ := h
  obtain ⟨hsender, hvalue, hrecipient, hfee, -⟩ := tryFrom_eq_ok hshown
  have hplain := hcodec _ _ hserialized
  intro field hfield
  simp only [List.mem_cons, List.not_mem_nil, or_false] at hfield
  rcases hfield with rfl | rfl | rfl | rfl
  · exact hplain accountName (by simp) _ (congrArg some hsender)
  · exact hplain amountName (by simp) _ (congrArg some hvalue)
  · exact hplain destinationName (by simp) _ (congrArg some hrecipient)
  · exact hplain feeName (by simp) _ (congrArg some hfee)

theorem SignsShown.inAccount {tx : XrpTx} (hkey : IsAccountKey secp seed xrpAccount rootXpub)
    (hapart : Apart secp seed hdPath) (hplain : tx.IsPlain)
    (h : SignsShown lib secp tx hdPath rootXpub seed result) : InAccount xrpAccount hdPath := by
  obtain ⟨shown, sequence, key, hshown, -, -, hprivate, hv, -⟩ := h
  obtain ⟨signing, hsigning, hread⟩ := transactionOf_eq_ok hv
  obtain ⟨a, b, x, y, master, child, -, -, -, hmaster, hchild, rfl⟩ :=
    signingKey_of_account hkey hsigning
  have hfields := hread.symm.trans (fromStr_txStr hplain (tryFrom_eq_ok hshown) _)
  have hhex : upperHex (secp.publicKey (secp.neuter key)).bytes
      = upperHex (secp.publicKey (secp.neuter child)).bytes := by
    injection hfields with hfields
    injection hfields with hfields
    unfold paymentFields at hfields
    simp only [List.cons.injEq, Prod.mk.injEq, Value.string.injEq] at hfields
    exact hfields.2.2.2.2.2.2.2.1.2
  have hbytes := congrArg hexDecode hhex
  rw [upperHex, upperHex, Bytes.hexDecode_map_toUpper, Bytes.hexDecode_map_toUpper] at hbytes
  exact ⟨x, y, hapart master key x y child hmaster hprivate hchild
    (Block.ext (Option.some.inj hbytes))⟩

end

def sampleAccount : Text :=
  ['r', 'H', 's', 'M', 'G', 'Q', 'E', 'k', 'V', 'N', 'J', 'm', 'p', 'G', 'W', 's', '8', 'X',
    'U', 'B', 'o', 'T', 'B', 'i', 'A', 'A', 'b', 'w', 'x', 'Z', 'N', '5', 'v', '3']

def sampleRecipient : Text :=
  ['r', 'H', 'f', 'o', 'f', '1', 'x', 'N', 'b', 'E', 't', 'J', 'Y', 's', 'X', 'N', '8', 'M',
    'U', 'b', 'n', 'f', '9', 'i', 'F', 'i', 'x', 'C', 'E', 'Y', '8', '4', 'k', 'f']

def sampleOther : Text :=
  ['r', 'L', '5', 'B', 'Y', 'S', 'L', 'd', '8', '9', 'u', 'z', 'j', '4', 'i', '4', 'J', '4',
    '7', 'i', 'L', 'Q', 'g', '9', 'H', 'w', 'm', 'e', 'X', 'E', '7', 'e', 'C', 't']

def sampleAddresses : List (Text × List UInt8) :=
  [(sampleAccount, [0xaf, 0xf3, 0xc2, 0xe3, 0x34, 0x58, 0xb3, 0x07, 0x14, 0xca, 0x16, 0xff, 0xee, 0x19, 0x95,
      0x2d, 0xd3, 0x5c, 0x17, 0xc8]),
    (sampleRecipient, [0xb0, 0xcb, 0x01, 0x94, 0xb3, 0x2f, 0x22, 0x13, 0x6d, 0x1f, 0xf5, 0xa0, 0x1e, 0x45, 0xfb,
      0x2f, 0xed, 0x2c, 0x3f, 0x75]),
    (sampleOther, [0xd8, 0x34, 0x3e, 0x8e, 0x1f, 0x27, 0xb4, 0x67, 0xb6, 0x51, 0x74, 0x8b, 0x83, 0x96, 0xa5,
      0x2c, 0x91, 0x85, 0xd9, 0xf9])]

def sampleSerialize (v : Value) (forSigning : Bool) : Option Text := do
  let account ← (v.index accountName).asStr.bind fun s => sampleAddresses.lookup s
  let destination ← (v.index destinationName).asStr.bind fun s => sampleAddresses.lookup s
  let amount ← (v.index amountName).asStr.bind (Bytes.parseDigits (2 ^ 62))
  let fee ← (v.index feeName).asStr.bind (Bytes.parseDigits (2 ^ 62))
  let sequence ← (v.index sequenceName).asU64
  let tag ← (v.index destinationTagName).asU64
  let key ← (v.index signingPubKeyName).asStr.bind hexDecode
  let signature ← if forSigning = true then some [] else
    (v.index txnSignatureName).asStr.bind fun s => (hexDecode s).map fun der =>
      0x74 :: UInt8.ofNat der.length :: der
  pure (upperHex ([0x12, 0, 0, 0x22, 0x80, 0, 0, 0, 0x24] ++ Bytes.be 4 sequence ++ [0x2e]
    ++ Bytes.be 4 tag ++ [0x61] ++ Bytes.be 8 (2 ^ 62 + amount) ++ [0x68]
    ++ Bytes.be 8 (2 ^ 62 + fee) ++ [0x73, 0x21] ++ key ++ signature ++ [0x81, 0x14] ++ account
    ++ [0x83, 0x14] ++ destination))

def XrpLib.sample : XrpLib where
  readFloat _ := none
  serializeTx := sampleSerialize
  sha512 _ := Block.zero 64
  serializeDer signature := some (0x30 :: signature.bytes)
  toStringPretty tx := tx.amount

def samplePath : DerivationPath := xrpAccount ++ [.normal 0, .normal 0]

def sampleKey (path : DerivationPath) : PublicKey :=
  if path = samplePath then
    Block.ofBytes 33 [0x02, 0x72, 0xdb, 0x86, 0x41, 0xa0, 0x30, 0x08, 0xc2, 0x7e, 0xbf, 0xba, 0x22, 0x34, 0xc5,
      0xbf, 0x93, 0x95, 0x2c, 0x41, 0xfa, 0xe5, 0xa6, 0x29, 0x53, 0x56, 0xcd, 0xc3, 0x99, 0x11,
      0x71, 0xeb, 0xe0]
  else Block.zero 33

def sampleSecp : SecpLib DerivationPath DerivationPath :=
  .ofPaths sampleKey fun _ _ => (0, Block.zero 64)

def sampleRootXpub : Text := ['m', '/', '4', '4', '\'', '/', '1', '4', '4', '\'', '/', '0', '\'']

def sampleHdPath : Text := sampleRootXpub ++ ['/', '0', '/', '0']

def sampleTx (fee : Text) : XrpTx where
  amount := ['1', '0', '0', '0', '0', '0', '0', '0']
  changeAddress := sampleAccount
  fee
  sequence := 1
  tag := 7
  recipient := sampleRecipient
  sequence_fits := by decide
  tag_fits := by decide

def sampleContent (fee : Text) : SignTransaction := ⟨[], sampleHdPath, some (.xrpTx (sampleTx fee))⟩

def plainFee : Text := ['1', '2']

def fullFee : Text :=
  ['1', '2', '"', ',', '"'] ++ destinationName ++ ['"', ':', '"'] ++ sampleOther

theorem takesPlain_sample : TakesPlain .sample := by
  have haddress : ∀ s ∈ sampleAddresses.map Prod.fst, ∀ c ∈ s, Serde.IsPlain c :=
    isPlain_of_all (by decide)
  have hknown : ∀ s bytes, sampleAddresses.lookup s = some bytes → ∀ c ∈ s, Serde.IsPlain c := by
    intro s bytes hlookup
    obtain ⟨front, back, hentries, -⟩ := List.lookup_eq_some_iff.mp hlookup
    exact haddress s (List.mem_map.mpr ⟨(s, bytes),
      by rw [hentries]; exact List.mem_append_right front List.mem_cons_self, rfl⟩)
  have hdigits : ∀ s n, Bytes.parseDigits (2 ^ 62) s = some n → ∀ c ∈ s, Serde.IsPlain c := by
    intro s n hparse c hc
    unfold Bytes.parseDigits at hparse
    split at hparse
    · rename_i hall
      have hdigit := List.all_eq_true.mp hall.2.1 c hc
      refine ⟨?_, ?_, ?_⟩
      · rintro rfl
        exact absurd hdigit (by decide)
      · rintro rfl
        exact absurd hdigit (by decide)
      · have hlow := (Bytes.isDigit_toNat hdigit).1
        omega
    · cases hparse
  intro v text h name hname s hs
  obtain ⟨account, haccount, h⟩ := Option.bind_eq_some_iff.mp h
  obtain ⟨destination, hdestination, h⟩ := Option.bind_eq_some_iff.mp h
  obtain ⟨amount, hamount, h⟩ := Option.bind_eq_some_iff.mp h
  obtain ⟨fee, hfee, -⟩ := Option.bind_eq_some_iff.mp h
  simp only [List.mem_cons, List.not_mem_nil, or_false] at hname
  rcases hname with rfl | rfl | rfl | rfl
  · rw [hs] at haccount
    exact hknown s account haccount
  · rw [hs] at hamount
    exact hdigits s amount hamount
  · rw [hs] at hdestination
    exact hknown s destination hdestination
  · rw [hs] at hfee
    exact hdigits s fee hfee

theorem isAccountKey_sample : IsAccountKey sampleSecp [] xrpAccount sampleRootXpub := by
  have hparse : Keys.parsePath sampleRootXpub = some xrpAccount := by
    decide
  exact ⟨[], xrpAccount, rfl, rfl, hparse⟩

theorem apart_sample : Apart sampleSecp [] sampleHdPath := by
  have hpath : Keys.parsePath (Keys.normalizePath sampleHdPath) = some samplePath := by
    decide
  intro master key a b child hmaster hkey hchild heq
  have hsample : Keys.getExtendedPrivateKeyBySeed sampleSecp [] sampleHdPath = .ok samplePath := by
    decide
  cases hkey.symm.trans hsample
  cases hmaster
  have hnext : child = xrpAccount ++ [a, b] := (Option.some.inj hchild).symm
  have hequal : child = samplePath := by
    by_contra hne
    have hzero : sampleKey samplePath = Block.zero 33 := by
      have hother : sampleKey child = Block.zero 33 := if_neg hne
      exact heq.trans hother
    exact absurd hzero (by decide)
  rw [hpath, ← hnext, hequal]

end Keystone3.Xrp
