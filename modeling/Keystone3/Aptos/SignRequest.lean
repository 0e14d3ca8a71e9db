import Keystone3.Aptos.RawTransaction
import Keystone3.Keys.Slip10

/-!
# Requests

A request is shown as a transaction if its bytes begin like one, or else as a
text or as hexadecimal digits. `determines_iff` says for which requests what is
shown determines what is signed.
-/

namespace Keystone3.Aptos

open Bytes (Block hexDecode hexText ofUtf8 utf8)
open Ethereum (Text)
open Logic (Outcome)

structure AptosLib where
  isCjk : Char → Bool
  isCjk_ascii : ∀ c, c.toNat < 128 → isCjk c = false
  hmacSha512 : List UInt8 → List UInt8 → Block 64
  /-- The signature of a message with the key pair of a secret key. -/
  signature : List UInt8 → Block 32 → Block 64
  bcsErrorText : Bytes.Bcs.Error → Text
  hexErrorText : Text → Text
  utf8ErrorText : List UInt8 → Text
  /-- What is wrong with a path, as it is quoted. -/
  pathErrorText : Text → Text

inductive AptosError where
  | keystoreError (reason : Text)
  | parseTxError (reason : Text)
  | invalidData (reason : Text)

abbrev Result (α : Type) : Type := Outcome AptosError α

inductive SignType where
  | single
  | multi
  | message
deriving DecidableEq

/-- A path with a wildcard has no text. -/
structure CryptoKeyPath where
  path : Option Text

structure AptosSignRequest where
  requestId : Option (Block 16)
  signData : List UInt8
  authenticationKeyDerivationPaths : List CryptoKeyPath
  signType : SignType

structure AptosSignature where
  requestId : Option (Block 16)
  signature : Block 64
  authenticationPublicKey : List UInt8

structure DisplayAptosTx where
  detail : Text
  isMsg : Bool

def txPrefix : List UInt8 :=
  [0xb5, 0xe9, 0x7d, 0xb0, 0x7f, 0xa0, 0xbd, 0x0e, 0x55, 0x98, 0xaa, 0x36, 0x43, 0xa9, 0xbc,
  0x6f, 0x66, 0x93, 0xbd, 0xdc, 0x1a, 0x9f, 0xec, 0x9e, 0x67, 0x4a, 0x46, 0x1e, 0xaa, 0x00,
  0xb1, 0x93]

def isTx (data : List UInt8) : Bool := 32 < data.length && data.take 32 == txPrefix

section

variable (lib : AptosLib)

def decodeUtf8 (msg : List UInt8) : Result Text :=
  match ofUtf8 msg with
  | some text =>
    if text.any lib.isCjk = true then .error (.invalidData "contains CJK".toList) else .ok text
  | none => .error (.invalidData (lib.utf8ErrorText msg))

def parseMsg (data : List UInt8) : Result Text :=
  match decodeUtf8 lib data with
  | .ok text => .ok text
  | _ => .ok (hexText data)

def parseTx (data : List UInt8) : Result RawTransaction :=
  let dataParse := if isTx data = true then data.drop 32 else data
  Outcome.mapError (fun e => .parseTxError ("bcs deserialize failed ".toList ++ lib.bcsErrorText e))
    (Bytes.Bcs.fromBytes RawTransaction.read dataParse)

def convertCChar (s : Text) : Result Text := if '\x00' ∈ s then .halted else .ok s

/-- `DisplayAptosTx::from` a transaction. -/
def DisplayAptosTx.ofTx (tx : RawTransaction) : Result DisplayAptosTx := do
  -- the tree of a transaction can always be written
  let detail ← convertCChar (Serde.toStringPretty tx.toTree)
  pure ⟨detail, false⟩

/-- `DisplayAptosTx::from` a text. -/
def DisplayAptosTx.ofText (s : Text) : Result DisplayAptosTx := do
  let detail ← convertCChar s
  pure ⟨detail, true⟩

def shownType (request : AptosSignRequest) : SignType :=
  match request.signType with
  | .single => if isTx request.signData = true then .single else .message
  | .multi => .multi
  | .message => .message

def aptosParse (request : AptosSignRequest) : Result DisplayAptosTx :=
  match shownType request with
  | .single => do
    let tx ← parseTx lib request.signData
    DisplayAptosTx.ofTx tx
  | .multi => .error (.parseTxError "not support".toList)
  | .message => do
    let text ← parseMsg lib request.signData
    DisplayAptosTx.ofText text

/-- The error of `sign` for a path. -/
def signFailed (e : Keys.PathError) : AptosError :=
  let reason := match e with
    | .parse path => lib.pathErrorText path
    | .notHardened => "non hardened derivation is not supported for slip10-ed25519".toList
  .keystoreError ("sign failed \"invalid derivation path, ".toList ++ (reason ++ ['"']))

/-- `sign_message_by_seed`. -/
def sign (message : List UInt8) (hdPath : Text) (seed : List UInt8) : Result (Block 64) := do
  let secretKey ← Outcome.mapError (signFailed lib)
    (Keys.getPrivateKeyBySeed lib.hmacSha512 seed hdPath)
  pure (lib.signature message secretKey)

def buildSignResult (request : AptosSignRequest) (seed : List UInt8) (pubKey : Text) :
    Result AptosSignature := do
  let keyPath ← Outcome.index request.authenticationKeyDerivationPaths 0
  let path ← Outcome.okOr (.invalidData "invalid derivation path".toList) keyPath.path
  let path := if ['m', '/'].isPrefixOf path = true then path else 'm' :: '/' :: path
  let signature ← sign lib request.signData path seed
  let buf ← Outcome.okOr
    (.invalidData ("hex operation failed ".toList ++ lib.hexErrorText pubKey)) (hexDecode pubKey)
  pure ⟨request.requestId, signature, buf⟩

/-- Bytes that are signed if a key of the seed signs them. -/
def Signable (seed : List UInt8) (pubKey : Text) (request : AptosSignRequest) : Prop :=
  ∃ result, buildSignResult lib request seed pubKey = .ok result

/-- What is shown of a request determines what is signed. -/
structure Determines (seed : List UInt8) (pubKey : Text) (request : AptosSignRequest) : Prop where
  signed : ∀ result, buildSignResult lib request seed pubKey = .ok result →
    ∃ key, result.signature = lib.signature request.signData key
  returns : aptosParse lib request ≠ .halted
  decoded : ∀ shown, aptosParse lib request = .ok shown → txPrefix <+: request.signData →
    ∃ tx : RawTransaction, txPrefix ++ tx.toBytes = request.signData
      ∧ shown = ⟨Serde.toStringPretty tx.toTree, false⟩
  apart : ∀ other shown, Signable lib seed pubKey other → aptosParse lib request = .ok shown →
    aptosParse lib other = .ok shown → other.signData = request.signData

def IsText (data : List UInt8) (text : Text) : Prop :=
  ofUtf8 data = some text ∧ text.any lib.isCjk = false

/-- The request is refused or shown as a transaction, or it is a text without the
character zero that is not the hexadecimal form of bytes that are none. -/
def ShownApart (request : AptosSignRequest) : Prop :=
  request.signType = .multi
    ∨ request.signType = .single ∧ isTx request.signData = true
    ∨ ∃ text, IsText lib request.signData text ∧ '\x00' ∉ text
      ∧ ∀ data, hexText data = text → ∃ text', IsText lib data text'

variable {lib}

variable {data : List UInt8} {text : Text}

theorem decodeUtf8_eq_ok :
    decodeUtf8 lib data = .ok text ↔ IsText lib data text := by
  unfold decodeUtf8 IsText
  cases ofUtf8 data with
  | none =>
    constructor
    · intro h
      cases h
    · rintro ⟨h, -⟩
      cases h
  | some text' =>
    dsimp only
    constructor
    · intro h
      split at h
      · cases h
      · rename_i hcjk
        cases h
        exact ⟨rfl, Bool.eq_false_iff.mpr hcjk⟩
    · rintro ⟨h, hcjk⟩
      cases h
      rw [if_neg (by rw [hcjk]; exact Bool.false_ne_true)]

theorem parseMsg_of_isText (h : IsText lib data text) :
    parseMsg lib data = .ok text := by
  rw [parseMsg, decodeUtf8_eq_ok.mpr h]

theorem parseMsg_of_not_isText (h : ¬∃ text, IsText lib data text) :
    parseMsg lib data = .ok (hexText data) := by
  unfold parseMsg
  split
  · rename_i text htext
    exact absurd ⟨text, decodeUtf8_eq_ok.mp htext⟩ h
  · rfl

theorem isText_hexText (data : List UInt8) : IsText lib (utf8 (hexText data)) (hexText data) := by
  refine ⟨Bytes.ofUtf8_utf8 _, ?_⟩
  rw [List.any_eq_false]
  intro c hc
  rw [lib.isCjk_ascii c (Bytes.toNat_lt_of_mem_hexText hc)]
  exact Bool.false_ne_true

theorem zero_notMem_hexText (data : List UInt8) : '\x00' ∉ hexText data := by
  intro h
  obtain ⟨d, hd, hzero⟩ := Bytes.exists_digit_of_mem_hexText h
  exact Serde.digitChar_ne_nul d hd hzero.symm

theorem txPrefix_append_of_isTx (h : isTx data = true) :
    txPrefix ++ data.drop 32 = data := by
  obtain ⟨-, hprefix⟩ := Bool.and_eq_true_iff.mp h
  rw [← eq_of_beq hprefix, List.take_append_drop]

theorem parseTx_eq_ok (h : isTx data = true) {tx : RawTransaction}
    (hparse : parseTx lib data = .ok tx) : txPrefix ++ tx.toBytes = data := by
  rw [parseTx, if_pos h] at hparse
  rw [toBytes_of_fromBytes (Outcome.mapError_eq_ok.mp hparse), txPrefix_append_of_isTx h]

theorem ofTx_eq_ok (tx : RawTransaction) :
    DisplayAptosTx.ofTx tx = .ok ⟨Serde.toStringPretty tx.toTree, false⟩ := by
  rw [DisplayAptosTx.ofTx, convertCChar, if_neg (Serde.zero_notMem_toStringPretty _)]
  rfl

theorem ofText_eq_ok {s : Text} {shown : DisplayAptosTx} :
    DisplayAptosTx.ofText s = .ok shown ↔ '\x00' ∉ s ∧ shown = ⟨s, true⟩ := by
  unfold DisplayAptosTx.ofText convertCChar
  split
  · rename_i hzero
    constructor
    · intro h
      cases h
    · intro h
      exact absurd hzero h.1
  · rename_i hzero
    constructor
    · intro h
      cases h
      exact ⟨hzero, rfl⟩
    · intro h
      rw [h.2]
      rfl

variable {request : AptosSignRequest}

theorem shownType_eq_single :
    shownType request = .single ↔ request.signType = .single ∧ isTx request.signData = true := by
  unfold shownType
  cases request.signType <;> cases isTx request.signData <;> decide

theorem shownType_eq_multi :
    shownType request = .multi ↔ request.signType = .multi := by
  unfold shownType
  cases request.signType <;> cases isTx request.signData <;> decide

theorem aptosParse_eq_ok {shown : DisplayAptosTx}
    (h : aptosParse lib request = .ok shown) :
    (shownType request = .single ∧ ∃ tx : RawTransaction, txPrefix ++ tx.toBytes = request.signData
        ∧ shown = ⟨Serde.toStringPretty tx.toTree, false⟩)
      ∨ (shownType request = .message ∧ ∃ text, parseMsg lib request.signData = .ok text
        ∧ shown = ⟨text, true⟩) := by
  unfold aptosParse at h
  cases hkind : shownType request with
  | single =>
    rw [hkind] at h
    obtain ⟨tx, hparse, hshown⟩ := Outcome.bind_eq_ok.mp h
    rw [ofTx_eq_ok] at hshown
    cases hshown
    exact .inl ⟨rfl, tx, parseTx_eq_ok (shownType_eq_single.mp hkind).2 hparse, rfl⟩
  | multi =>
    rw [hkind] at h
    cases h
  -- a message keeps the flag, so it is told from a transaction
  | message =>
    rw [hkind] at h
    obtain ⟨text, hparse, hshown⟩ := Outcome.bind_eq_ok.mp h
    exact .inr ⟨rfl, text, hparse, (ofText_eq_ok.mp hshown).2⟩

theorem returns_aptosParse_tx (h : shownType request = .single) :
    (aptosParse lib request).Returns := by
  unfold aptosParse
  rw [h]
  refine Outcome.Returns.bind ?_ fun tx _ => ?_
  · exact (Bytes.Bcs.returns_fromBytes canonical_rawTransaction _).mapError _
  · rw [ofTx_eq_ok]
    exact Outcome.returns_ok _

theorem aptosParse_message (h : shownType request = .message) (htext : parseMsg lib request.signData = .ok text) :
    aptosParse lib request = DisplayAptosTx.ofText text := by
  unfold aptosParse
  rw [h, htext]
  rfl

def AptosSignRequest.asMessage (request : AptosSignRequest) (data : List UInt8) :
    AptosSignRequest :=
  { request with signData := data, signType := .message }

theorem aptosParse_asMessage
    (htext : parseMsg lib data = .ok text) (hzero : '\x00' ∉ text) :
    aptosParse lib (request.asMessage data) = .ok ⟨text, true⟩ := by
  rw [aptosParse_message rfl htext]
  exact ofText_eq_ok.mpr ⟨hzero, rfl⟩

variable {seed : List UInt8} {pubKey : Text}

theorem buildSignResult_eq_ok {result : AptosSignature} :
    buildSignResult lib request seed pubKey = .ok result ↔ ∃ keyPath path key buf,
      request.authenticationKeyDerivationPaths[0]? = some keyPath ∧ keyPath.path = some path
      ∧ Keys.getPrivateKeyBySeed lib.hmacSha512 seed
        (if ['m', '/'].isPrefixOf path = true then path else 'm' :: '/' :: path) = .ok key
      ∧ hexDecode pubKey = some buf
      ∧ ⟨request.requestId, lib.signature request.signData key, buf⟩ = result := by
  unfold buildSignResult sign
  simp only [Outcome.bind_eq_ok, Outcome.index_eq_ok, Outcome.okOr_eq_ok, Outcome.mapError_eq_ok,
    Outcome.pure_eq, Outcome.ok.injEq]
  constructor
  · rintro ⟨keyPath, hindex, path, hpath, signature, ⟨key, hkey, rfl⟩, buf, hbuf, hresult⟩
    exact ⟨keyPath, path, key, buf, hindex, hpath, hkey, hbuf, hresult⟩
  · rintro ⟨keyPath, path, key, buf, hindex, hpath, hkey, hbuf, hresult⟩
    exact ⟨keyPath, hindex, path, hpath, _, ⟨key, hkey, rfl⟩, buf, hbuf, hresult⟩

theorem Signable.asMessage (h : Signable lib seed pubKey request)
    (data : List UInt8) : Signable lib seed pubKey (request.asMessage data) := by
  obtain ⟨result, hresult⟩ := h
  obtain ⟨keyPath, path, key, buf, hindex, hpath, hkey, hbuf, -⟩ := buildSignResult_eq_ok.mp hresult
  exact ⟨_, buildSignResult_eq_ok.mpr ⟨keyPath, path, key, buf, hindex, hpath, hkey, hbuf, rfl⟩⟩

theorem signed_of_buildSignResult {result : AptosSignature}
    (h : buildSignResult lib request seed pubKey = .ok result) :
    ∃ key, result.signature = lib.signature request.signData key := by
  obtain ⟨keyPath, path, key, buf, -, -, -, -, rfl⟩ := buildSignResult_eq_ok.mp h
  exact ⟨key, rfl⟩

theorem determines_of_single (h : shownType request = .single) :
    Determines lib seed pubKey request where
  signed _ := signed_of_buildSignResult
  returns := returns_aptosParse_tx h
  decoded shown hshown _ := by
    rcases aptosParse_eq_ok hshown with ⟨-, tx, htx, hdetail⟩ | ⟨hkind, -⟩
    · exact ⟨tx, htx, hdetail⟩
    · rw [h] at hkind
      cases hkind
  apart other shown _ hshown hother := by
    rcases aptosParse_eq_ok hshown with ⟨-, tx, htx, rfl⟩ | ⟨hkind, -⟩
    · -- one printed tree is that of one transaction, which has one spelling
      rcases aptosParse_eq_ok hother with ⟨-, tx', htx', hdetail⟩ | ⟨-, text, -, hdetail⟩
      · have htree := Serde.toStringPretty_injective (DisplayAptosTx.mk.inj hdetail).1
        rw [← htx, ← htx', RawTransaction.toTree_injective htree]
      · cases (DisplayAptosTx.mk.inj hdetail).2
    · rw [h] at hkind
      cases hkind

theorem determines_of_multi (h : shownType request = .multi) :
    Determines lib seed pubKey request := by
  have hparse : aptosParse lib request = .error (.parseTxError "not support".toList) := by
    rw [aptosParse, h]
  refine ⟨fun _ => signed_of_buildSignResult, ?_, ?_, ?_⟩
  · rw [hparse]
    exact Outcome.returns_error _
  · intro shown hshown
    rw [hparse] at hshown
    cases hshown
  · intro other shown _ hshown
    rw [hparse] at hshown
    cases hshown

theorem not_prefix_of_isText (h : IsText lib data text) :
    ¬txPrefix <+: data := by
  rintro ⟨rest, rfl⟩
  have hfirst := Bytes.first_of_utf8 (Bytes.utf8_of_ofUtf8 h.1)
  revert hfirst
  decide

theorem determines_of_isText (hkind : shownType request = .message) (htext : IsText lib request.signData text) (hzero : '\x00' ∉ text)
    (happart : ∀ data, hexText data = text → ∃ text', IsText lib data text') :
    Determines lib seed pubKey request := by
  have hparse : aptosParse lib request = .ok ⟨text, true⟩ := by
    rw [aptosParse_message hkind (parseMsg_of_isText htext)]
    exact ofText_eq_ok.mpr ⟨hzero, rfl⟩
  refine ⟨fun _ => signed_of_buildSignResult, ?_, ?_, ?_⟩
  · rw [hparse]
    exact Outcome.returns_ok _
  · intro shown _ hprefix
    exact absurd hprefix (not_prefix_of_isText htext)
  · intro other shown _ hshown hother
    rw [hparse] at hshown
    cases hshown
    rcases aptosParse_eq_ok hother with ⟨-, tx, -, hdetail⟩ | ⟨-, text', hparse', hdetail⟩
    · cases (DisplayAptosTx.mk.inj hdetail).2
    -- shown alike, the other bytes are this text or have it as their digits
    obtain rfl : text = text' := (DisplayAptosTx.mk.inj hdetail).1
    by_cases hother : ∃ text', IsText lib other.signData text'
    · obtain ⟨text', hother⟩ := hother
      rw [parseMsg_of_isText hother] at hparse'
      cases hparse'
      rw [← Bytes.utf8_of_ofUtf8 htext.1, ← Bytes.utf8_of_ofUtf8 hother.1]
    · rw [parseMsg_of_not_isText hother] at hparse'
      exact absurd (happart other.signData (Outcome.ok.inj hparse')) hother

theorem shownApart_of_determines
    (hkind : shownType request = .message) (hsign : Signable lib seed pubKey request)
    (h : Determines lib seed pubKey request) :
    ∃ text, IsText lib request.signData text ∧ '\x00' ∉ text
      ∧ ∀ data, hexText data = text → ∃ text', IsText lib data text' := by
  by_cases htext : ∃ text, IsText lib request.signData text
  · obtain ⟨text, htext⟩ := htext
    have hparse := aptosParse_message hkind (parseMsg_of_isText htext)
    have hzero : '\x00' ∉ text := by
      intro hzero
      refine h.returns ?_
      rw [hparse, DisplayAptosTx.ofText, convertCChar, if_pos hzero]
      rfl
    refine ⟨text, htext, hzero, fun data hdata => ?_⟩
    -- bytes that are no text would be shown as these digits, and signed too
    by_contra hother
    have hsame := h.apart (request.asMessage data) ⟨text, true⟩ (hsign.asMessage data)
      (by rw [hparse]; exact ofText_eq_ok.mpr ⟨hzero, rfl⟩)
      (aptosParse_asMessage (by rw [parseMsg_of_not_isText hother, hdata]) hzero)
    exact hother ⟨text, by rw [show data = request.signData from hsame]; exact htext⟩
  · -- the digits that are shown are a text of their own
    have hzero := zero_notMem_hexText request.signData
    have hparse := aptosParse_message hkind (parseMsg_of_not_isText htext)
    have hsame := h.apart (request.asMessage (utf8 (hexText request.signData)))
      ⟨hexText request.signData, true⟩ (hsign.asMessage _)
      (by rw [hparse]; exact ofText_eq_ok.mpr ⟨hzero, rfl⟩)
      (aptosParse_asMessage (parseMsg_of_isText (isText_hexText _)) hzero)
    have hdigits := @isText_hexText lib request.signData
    rw [show utf8 (hexText request.signData) = request.signData from hsame] at hdigits
    exact absurd ⟨_, hdigits⟩ htext

theorem determines_iff (lib : AptosLib) (seed : List UInt8) (pubKey : Text)
    (request : AptosSignRequest) (result : AptosSignature)
    (hsign : buildSignResult lib request seed pubKey = .ok result) :
    Determines lib seed pubKey request ↔ ShownApart lib request := by
  constructor
  · intro h
    cases hkind : shownType request with
    | single => exact .inr (.inl (shownType_eq_single.mp hkind))
    | multi => exact .inl (shownType_eq_multi.mp hkind)
    | message => exact .inr (.inr (shownApart_of_determines hkind ⟨result, hsign⟩ h))
  · intro h
    cases hkind : shownType request with
    | single => exact determines_of_single hkind
    | multi => exact determines_of_multi hkind
    | message =>
      rcases h with hmulti | hsingle | ⟨text, htext, hzero, happart⟩
      · rw [shownType_eq_multi.mpr hmulti] at hkind
        cases hkind
      · rw [shownType_eq_single.mpr hsingle] at hkind
        cases hkind
      · exact determines_of_isText hkind htext hzero happart

end

def sampleTx : List UInt8 :=
  [0xf0, 0x07, 0xdb, 0xb6, 0x09, 0x94, 0x46, 0x3d, 0xb9, 0x5b, 0x80, 0xfa, 0xd4, 0x25, 0x9e, 0xc1,
  0x87, 0x67, 0xa5, 0xbb, 0x50, 0x7f, 0x9e, 0x04, 0x8d, 0xa8, 0x4b, 0x75, 0xea, 0x79, 0x3e, 0xf5,
  0x00, 0x00, 0x00, 0x00, 0x00, 0x00, 0x00, 0x00, 0x02, 0x00, 0x00, 0x00, 0x00, 0x00, 0x00, 0x00,
  0x00, 0x00, 0x00, 0x00, 0x00, 0x00, 0x00, 0x00, 0x00, 0x00, 0x00, 0x00, 0x00, 0x00, 0x00, 0x00,
  0x00, 0x00, 0x00, 0x00, 0x00, 0x00, 0x00, 0x00, 0x01, 0x0d, 0x61, 0x70, 0x74, 0x6f, 0x73, 0x5f,
  0x61, 0x63, 0x63, 0x6f, 0x75, 0x6e, 0x74, 0x0e, 0x74, 0x72, 0x61, 0x6e, 0x73, 0x66, 0x65, 0x72,
  0x5f, 0x63, 0x6f, 0x69, 0x6e, 0x73, 0x01, 0x07, 0x00, 0x00, 0x00, 0x00, 0x00, 0x00, 0x00, 0x00,
  0x00, 0x00, 0x00, 0x00, 0x00, 0x00, 0x00, 0x00, 0x00, 0x00, 0x00, 0x00, 0x00, 0x00, 0x00, 0x00,
  0x00, 0x00, 0x00, 0x00, 0x00, 0x00, 0x00, 0x01, 0x0a, 0x61, 0x70, 0x74, 0x6f, 0x73, 0x5f, 0x63,
  0x6f, 0x69, 0x6e, 0x09, 0x41, 0x70, 0x74, 0x6f, 0x73, 0x43, 0x6f, 0x69, 0x6e, 0x00, 0x02, 0x20,
  0xf0, 0x07, 0xdb, 0xb6, 0x09, 0x94, 0x46, 0x3d, 0xb9, 0x5b, 0x80, 0xfa, 0xd4, 0x25, 0x9e, 0xc1,
  0x87, 0x67, 0xa5, 0xbb, 0x50, 0x7f, 0x9e, 0x04, 0x8d, 0xa8, 0x4b, 0x75, 0xea, 0x79, 0x3e, 0xf5,
  0x08, 0x00, 0x00, 0x00, 0x00, 0x00, 0x00, 0x00, 0x00, 0x0a, 0x00, 0x00, 0x00, 0x00, 0x00, 0x00,
  0x00, 0x64, 0x00, 0x00, 0x00, 0x00, 0x00, 0x00, 0x00, 0x61, 0x24, 0x2e, 0x65, 0x00, 0x00, 0x00,
  0x00, 0x02]

def sampleSeed : List UInt8 :=
  [0x5e, 0xb0, 0x0b, 0xbd, 0xdc, 0xf0, 0x69, 0x08, 0x48, 0x89, 0xa8, 0xab, 0x91, 0x55, 0x56, 0x81,
  0x65, 0xf5, 0xc4, 0x53, 0xcc, 0xb8, 0x5e, 0x70, 0x81, 0x1a, 0xae, 0xd6, 0xf6, 0xda, 0x5f, 0xc1,
  0x9a, 0x5a, 0xc4, 0x0b, 0x38, 0x9c, 0xd3, 0x70, 0xd0, 0x86, 0x20, 0x6d, 0xec, 0x8a, 0xa6, 0xc4,
  0x3d, 0xae, 0xa6, 0x69, 0x0f, 0x20, 0xad, 0x3d, 0x8d, 0x48, 0xb2, 0xd2, 0xce, 0x9e, 0x38, 0xe4]

def sampleKeys : List (Block 64) := [
  Block.ofBytes 64
    [0x56, 0x0f, 0x9f, 0x3c, 0x94, 0x55, 0x8b, 0x65, 0x51, 0x92, 0x8b, 0xb7, 0x81, 0xcf, 0x60,
    0x92, 0xc6, 0xb8, 0x80, 0x0b, 0x4f, 0xc5, 0x44, 0xaf, 0x2c, 0x94, 0x44, 0xed, 0x12, 0x6d, 0x51,
    0xaa, 0xdd, 0xfa, 0x71, 0x10, 0x97, 0x01, 0xbb, 0xf7, 0xc1, 0x26, 0xc8, 0xc7, 0xab, 0x58, 0x80,
    0xb0, 0xde, 0xc3, 0xd1, 0x67, 0xa8, 0xfe, 0x6a, 0xfa, 0x7a, 0x95, 0x97, 0xdf, 0x0b, 0xbe, 0xe7,
    0x2b],
  Block.ofBytes 64
    [0x70, 0x7a, 0xc4, 0x08, 0x70, 0x13, 0x10, 0x63, 0xf5, 0x80, 0x76, 0xf2, 0xf3, 0xf4, 0xe0,
    0x5c, 0x66, 0x0c, 0x0e, 0x7e, 0x0d, 0xe6, 0xf5, 0x7e, 0xc6, 0x23, 0x8a, 0x32, 0xb5, 0x13, 0xa0,
    0xc5, 0x43, 0x9f, 0x20, 0xb8, 0x0f, 0xa2, 0xc8, 0x4f, 0x6e, 0x67, 0x45, 0x4c, 0x5e, 0x24, 0xe8,
    0x23, 0xc3, 0x8e, 0x45, 0x64, 0x8e, 0x8f, 0x7f, 0x16, 0xa1, 0x8b, 0xf8, 0x04, 0xe1, 0xd9, 0x51,
    0xdf],
  Block.ofBytes 64
    [0xed, 0x74, 0x92, 0x98, 0xca, 0xc8, 0x57, 0x94, 0xd6, 0xd0, 0xbf, 0xf1, 0xac, 0x9b, 0xf3,
    0x15, 0x15, 0x9e, 0x0a, 0x63, 0xeb, 0xd9, 0x00, 0x69, 0x88, 0x35, 0xa5, 0x47, 0xc4, 0x3d, 0xc9,
    0x0a, 0x9c, 0xa9, 0x44, 0xc8, 0x04, 0xfe, 0x00, 0xb9, 0x6c, 0x61, 0x37, 0x73, 0xae, 0x1b, 0xf1,
    0xc4, 0x8c, 0x8f, 0x10, 0x60, 0xfa, 0x3b, 0x64, 0x26, 0x87, 0xc3, 0x3a, 0xee, 0xc5, 0xc0, 0x8e,
    0x1e],
  Block.ofBytes 64
    [0x41, 0x6e, 0xaf, 0xa3, 0xd0, 0x52, 0xbc, 0x4f, 0x34, 0x84, 0x6b, 0x93, 0x2b, 0xfa, 0x17,
    0x05, 0x29, 0x51, 0x6c, 0xcc, 0x32, 0xfd, 0x9b, 0xda, 0xcc, 0xfb, 0x42, 0x5a, 0x38, 0xa7, 0xa7,
    0xda, 0xb8, 0x09, 0x60, 0xc0, 0x6d, 0x7b, 0x0e, 0xda, 0x2e, 0x1c, 0x1a, 0xd5, 0x34, 0x72, 0xe0,
    0x95, 0xad, 0x7a, 0x59, 0xf5, 0x96, 0x75, 0x88, 0xbe, 0x30, 0x0a, 0x75, 0x38, 0x8e, 0xa7, 0x21,
    0x06],
  Block.ofBytes 64
    [0x03, 0xfa, 0x39, 0xcf, 0x84, 0xc9, 0x23, 0x63, 0x8e, 0x3d, 0xab, 0xda, 0x1a, 0x58, 0x6b,
    0x8e, 0xa1, 0xa3, 0xf3, 0x01, 0xaf, 0x77, 0xce, 0x40, 0xb5, 0x44, 0x8b, 0x67, 0x6a, 0x3b, 0x97,
    0x03, 0xf4, 0xb1, 0xf1, 0x1a, 0x8b, 0x67, 0x50, 0xfa, 0xcf, 0x70, 0x44, 0x40, 0x00, 0xf6, 0xc6,
    0xce, 0x82, 0xb6, 0xc9, 0x8e, 0xf3, 0xbb, 0xa6, 0xbb, 0x44, 0xde, 0x5a, 0xef, 0xe0, 0x40, 0xe8,
    0x3c],
  Block.ofBytes 64
    [0xcc, 0x92, 0xc0, 0xea, 0xf8, 0x02, 0x06, 0xd8, 0x17, 0xf1, 0x50, 0xe2, 0x19, 0x17, 0xf7,
    0x97, 0xe4, 0x9c, 0xf6, 0x44, 0xa3, 0x3a, 0xc5, 0x14, 0xde, 0x3c, 0x31, 0x6b, 0xaa, 0x2f, 0x1b,
    0xf5, 0x5a, 0xf4, 0x67, 0x5a, 0xf3, 0x79, 0xb9, 0xca, 0x1d, 0x6c, 0xe7, 0x68, 0x95, 0xaf, 0x55,
    0x53, 0xf0, 0x78, 0xd0, 0x5f, 0xce, 0x48, 0xc1, 0xf5, 0x20, 0xa9, 0xb6, 0x1a, 0x48, 0x59, 0x7c,
    0x72]]

def samplePath : List Nat := [2 ^ 31 + 44, 2 ^ 31 + 637, 2 ^ 31, 2 ^ 31, 2 ^ 31]

def sampleSignature : Block 64 := Block.ofBytes 64
  [0xff, 0x2c, 0x5e, 0x05, 0x55, 0x7c, 0x30, 0xd1, 0xcd, 0xdd, 0x50, 0x5b, 0x26, 0x83, 0x67, 0x47,
  0xea, 0xf2, 0x8f, 0x25, 0xb2, 0x81, 0x6b, 0x1e, 0x70, 0x2b, 0xd4, 0x02, 0x36, 0xbe, 0x67, 0x4e,
  0xaa, 0xef, 0x10, 0xe4, 0xbd, 0x94, 0x0b, 0x85, 0x31, 0x7b, 0xed, 0xe5, 0x37, 0xca, 0xd2, 0x23,
  0x65, 0xeb, 0x7a, 0xfc, 0xa7, 0x45, 0x6b, 0x90, 0xdc, 0xc2, 0x80, 0x7c, 0xbb, 0xdc, 0xaa, 0x0a]

def sampleHmacSha512 (key data : List UInt8) : Block 64 :=
  if key = Keys.masterSecret ∧ data = sampleSeed then sampleKeys.headD (Block.zero 64)
  else
    match (sampleKeys.zip (samplePath.zip sampleKeys.tail)).find? fun step =>
      key = step.1.bytes.drop 32 ∧ data = 0 :: (step.1.bytes.take 32 ++ Bytes.be 4 step.2.1) with
    | some step => step.2.2
    | none => Block.zero 64

def AptosLib.sample : AptosLib where
  isCjk c := 0x4e00 ≤ c.toNat && c.toNat < 0xa000
  isCjk_ascii := Bytes.ideograph_ascii
  hmacSha512 := sampleHmacSha512
  signature message key :=
    if message = txPrefix ++ sampleTx
      ∧ key.bytes = (sampleKeys.getLastD (Block.zero 64)).bytes.take 32 then sampleSignature
    else Block.zero 64
  bcsErrorText _ := []
  hexErrorText _ := []
  utf8ErrorText _ := []
  pathErrorText _ := []

def sampleRequest (signType : SignType) : AptosSignRequest where
  requestId := none
  signData := txPrefix ++ sampleTx
  authenticationKeyDerivationPaths := [⟨some "44'/637'/0'/0'/0'".toList⟩]
  signType

theorem determines_iff_sample : ∃ result,
    buildSignResult .sample (sampleRequest .single) sampleSeed [] = .ok result
      ∧ (Determines .sample sampleSeed [] (sampleRequest .single)
        ↔ ShownApart .sample (sampleRequest .single)) := by
  obtain ⟨result, hresult⟩ : ∃ result,
      buildSignResult .sample (sampleRequest .single) sampleSeed [] = .ok result :=
    Outcome.exists_of_isOk (by decide)
  exact ⟨result, hresult, determines_iff .sample sampleSeed [] (sampleRequest .single) result hresult⟩

set_option maxRecDepth 16384 in
/-- A request that calls its transfer a message is shown as one. -/
theorem not_determines_message : ¬∀ (lib : AptosLib) (seed : List UInt8) (pubKey : Text)
    (request : AptosSignRequest) (result : AptosSignature),
    buildSignResult lib request seed pubKey = .ok result →
    Determines lib seed pubKey request := by
  intro hall
  obtain ⟨result, hresult⟩ : ∃ result,
      buildSignResult .sample (sampleRequest .message) sampleSeed [] = .ok result :=
    Outcome.exists_of_isOk (by decide)
  obtain ⟨shown, hshown⟩ : ∃ shown, aptosParse .sample (sampleRequest .message) = .ok shown :=
    Outcome.exists_of_isOk (by decide +kernel)
  obtain ⟨tx, -, rfl⟩ := (hall _ _ _ _ _ hresult).decoded shown hshown (List.prefix_append _ _)
  rcases aptosParse_eq_ok hshown with ⟨hkind, -⟩ | ⟨-, text, -, hdetail⟩
  · cases hkind
  · cases (DisplayAptosTx.mk.inj hdetail).2

end Keystone3.Aptos
