import Keystone3.Bytes.Bcs
import Keystone3.Keys.Slip10

/-!
# Messages

A personal message is read as BCS, or else it is all that is behind the intent; it is
shown as a text, or else as the list of its bytes. What is signed is the hash of all
that was given, so two messages can be shown alike and signed apart.
`personalMessages_apart_iff` says for which this is so.
-/

namespace Keystone3.Sui

open Bytes (Block hexDecode hexText ofUtf8 utf8)
open Bytes.Bcs (Canonical Read canonical_bytes canonical_uleb eq_of_fromBytes fromBytes)
open Keys (Text)
open Logic (Outcome)
open Logic.Outcome (bind_eq_ok mapError_eq_ok)

/-- What the code takes from its libraries, with the transactions of `sui_types`. -/
structure SuiLib (Tx : Type) where
  isCjk : Char → Bool
  isCjk_ascii : ∀ c, c.toNat < 128 → isCjk c = false
  blake2b256 : List UInt8 → Block 32
  hmacSha512 : List UInt8 → List UInt8 → Block 64
  /-- The signature of a message with the key pair of a secret key. -/
  signature : List UInt8 → Block 32 → Block 64
  /-- `bcs::from_bytes` as an intent with a transaction. -/
  transactionFromBytes : List UInt8 → Except Bytes.Bcs.Error Tx
  bcsErrorText : Bytes.Bcs.Error → Text
  utf8ErrorText : List UInt8 → Text
  keystoreErrorText : Keys.PathError → Text

inductive SuiError where
  | signFailure (reason : Text)
  | invalidData (reason : Text)

abbrev Result (α : Type) : Type := Outcome SuiError α

inductive IntentScope where
  | transactionData
  | transactionEffects
  | checkpointSummary
  | personalMessage
  | senderSignedTransaction
  | proofOfPossession
  | headerDigest
deriving DecidableEq

inductive IntentVersion where
  | v0
deriving DecidableEq

inductive AppId where
  | sui
  | narwhal
deriving DecidableEq

structure Intent where
  scope : IntentScope
  version : IntentVersion
  appId : AppId
deriving DecidableEq

structure IntentMessage (α : Type) where
  intent : Intent
  value : α

/-- `Intent` of `lib.rs`; effects are read as transactions and come back as such. -/
inductive ParsedIntent (Tx : Type) where
  | transactionData (tx : Tx)
  | personalMessage (message : IntentMessage Text)

def variant {α : Type} (all : List α) : Read α := do
  let n ← Bytes.Bcs.uleb
  match all[n]? with
  | some a => pure a
  | none => Bytes.Bcs.fail (.unknownVariant n)

def scopes : List IntentScope := [.transactionData, .transactionEffects, .checkpointSummary,
  .personalMessage, .senderSignedTransaction, .proofOfPossession, .headerDigest]

def versions : List IntentVersion := [.v0]

def appIds : List AppId := [.sui, .narwhal]

def IntentMessage.read : Read (IntentMessage (List UInt8)) := do
  let scope ← variant scopes
  let version ← variant versions
  let appId ← variant appIds
  let message ← Bytes.Bcs.bytes
  pure ⟨⟨scope, version, appId⟩, message⟩

/-- `try_from` a byte. -/
def tryFrom {α : Type} (all : List α) (name : String) (value : UInt8) : Result α :=
  Outcome.mapError (fun _ => .invalidData ("Invalid ".toList ++ name.toList))
    (fromBytes (variant all) [value])

def Intent.fromStr (s : Text) : Result Intent := do
  let s ← Outcome.okOr (.invalidData "Invalid Intent".toList) (hexDecode s)
  match s with
  | [scope, version, appId] => do
    let scope ← tryFrom scopes "IntentScope" scope
    let version ← tryFrom versions "IntentVersion" version
    let appId ← tryFrom appIds "AppId" appId
    pure ⟨scope, version, appId⟩
  | _ => .error (.invalidData "Invalid Intent".toList)

section

variable {Tx : Type} (lib : SuiLib Tx)

def decodeUtf8 (msg : List UInt8) : Result Text :=
  match ofUtf8 msg with
  | some text =>
    if text.any lib.isCjk = true then .error (.invalidData "contains CJK".toList) else .ok text
  | none => .error (.invalidData (lib.utf8ErrorText msg))

/-- `serde_json::to_string` of bytes. -/
def listText (msg : List UInt8) : Text :=
  '[' :: ([','].intercalate (msg.map fun b => Nat.toDigits 10 b.toNat) ++ [']'])

def messageText (msg : List UInt8) : Text :=
  match decodeUtf8 lib msg with
  | .ok text => text
  | _ => listText msg

def rawMessage (intent : List UInt8) : Result (IntentMessage (List UInt8)) :=
  if intent.length < 4 then .error (.invalidData "message too short".toList)
  else do
    let header ← Intent.fromStr (hexText (intent.take 3))
    pure ⟨header, intent.drop 3⟩

def personalMessage (intent : List UInt8) : Result (IntentMessage (List UInt8)) :=
  match fromBytes IntentMessage.read intent with
  | .ok msg => .ok msg
  | _ => rawMessage intent

def parseIntent (intent : List UInt8) : Result (ParsedIntent Tx) := do
  let first ← Outcome.index intent 0
  let scope ← tryFrom scopes "IntentScope" first
  match scope with
  | .transactionData | .transactionEffects =>
    match lib.transactionFromBytes intent with
    | .ok tx => pure (.transactionData tx)
    | .error e => .error (.invalidData (lib.bcsErrorText e))
  | .personalMessage => do
    let msg ← personalMessage intent
    pure (.personalMessage ⟨msg.intent, messageText lib msg.value⟩)
  | _ => .error (.invalidData "unsupported intent".toList)

def signIntent (seed : List UInt8) (path : Text) (intent : List UInt8) : Result (Block 64) := do
  let hash := lib.blake2b256 intent
  let secretKey ← Outcome.mapError (fun e => .signFailure (lib.keystoreErrorText e))
    (Keys.getPrivateKeyBySeed lib.hmacSha512 seed path)
  pure (lib.signature hash.bytes secretKey)

def messageOf (intent : List UInt8) : List UInt8 :=
  match fromBytes IntentMessage.read intent with
  | .ok msg => msg.value
  | _ => intent.drop 3

def IsText (msg : List UInt8) (text : Text) : Prop :=
  ofUtf8 msg = some text ∧ text.any lib.isCjk = false

def Lists (msg msg' : List UInt8) : Prop :=
  (∀ text, ¬IsText lib msg text) ∧ msg' = utf8 (listText msg)

/-- The intents are the same, and the messages are, whether in BCS or not, or one is the list of
the other's bytes, which are no text. -/
def Alike (intent intent' : List UInt8) : Prop :=
  intent.take 3 = intent'.take 3 ∧ (messageOf intent = messageOf intent'
    ∨ Lists lib (messageOf intent) (messageOf intent')
    ∨ Lists lib (messageOf intent') (messageOf intent))

variable {lib}

variable {msg msg' intent : List UInt8} {text : Text}

theorem canonical_variant {α : Type} [DecidableEq α] {all : List α} (hnodup : all.Nodup)
    (hlength : all.length < 128) :
    Canonical (variant all) fun a => [UInt8.ofNat (all.idxOf a)] := by
  refine canonical_uleb.bind fun n => ?_
  split
  · rename_i a ha
    obtain ⟨hn, rfl⟩ := List.getElem?_eq_some_iff.mp ha
    refine Bytes.Bcs.CanonicalAfter.pure ?_
    rw [hnodup.idxOf_getElem n hn, Bytes.Bcs.putLength, Bytes.Bcs.putUleb, if_pos (by omega)]
  · exact Bytes.Bcs.CanonicalAfter.fail

def Intent.bytes (i : Intent) : List UInt8 :=
  [UInt8.ofNat (scopes.idxOf i.scope), UInt8.ofNat (versions.idxOf i.version),
    UInt8.ofNat (appIds.idxOf i.appId)]

theorem Intent.bytes_inj {i j : Intent} (h : i.bytes = j.bytes) : i = j := by
  have hscope : ∀ a b : IntentScope,
      UInt8.ofNat (scopes.idxOf a) = UInt8.ofNat (scopes.idxOf b) → a = b := by
    intro a b
    cases a <;> cases b <;> decide
  have happId : ∀ a b : AppId,
      UInt8.ofNat (appIds.idxOf a) = UInt8.ofNat (appIds.idxOf b) → a = b := by
    intro a b
    cases a <;> cases b <;> decide
  obtain ⟨scope, version, appId⟩ := i
  obtain ⟨scope', version', appId'⟩ := j
  simp only [Intent.bytes, List.cons.injEq] at h
  rw [hscope _ _ h.1, happId _ _ h.2.2.1]

theorem canonical_message :
    Canonical IntentMessage.read fun m => m.intent.bytes ++ Bytes.Bcs.putBytes m.value := by
  refine (canonical_variant (by decide) (by decide)).bind fun scope => ?_
  refine Bytes.Bcs.CanonicalAfter.bind (canonical_variant (by decide) (by decide)) fun version => ?_
  refine Bytes.Bcs.CanonicalAfter.bind (canonical_variant (by decide) (by decide)) fun appId => ?_
  exact canonical_bytes.map fun message => rfl

theorem returns_tryFrom {α : Type} [DecidableEq α] {all : List α} (hnodup : all.Nodup)
    (hlength : all.length < 128) (name : String) (value : UInt8) :
    (tryFrom all name value).Returns :=
  (Bytes.Bcs.returns_fromBytes (canonical_variant hnodup hlength) _).mapError _

theorem tryFrom_eq_ok {α : Type} [DecidableEq α] {all : List α} (hnodup : all.Nodup)
    (hlength : all.length < 128) {name : String} {value : UInt8} {a : α}
    (h : tryFrom all name value = .ok a) : value = UInt8.ofNat (all.idxOf a) :=
  (List.cons.inj (eq_of_fromBytes (canonical_variant hnodup hlength) (mapError_eq_ok.mp h))).1

theorem returns_fromStr (s : Text) : (Intent.fromStr s).Returns := by
  unfold Intent.fromStr
  refine (Outcome.returns_okOr _ _).bind fun s _ => ?_
  split
  · refine (returns_tryFrom (by decide) (by decide) _ _).bind fun scope _ => ?_
    refine (returns_tryFrom (by decide) (by decide) _ _).bind fun version _ => ?_
    refine (returns_tryFrom (by decide) (by decide) _ _).bind fun appId _ => ?_
    exact Outcome.returns_ok _
  · exact Outcome.returns_error _

theorem fromStr_hexText {bytes : List UInt8} {i : Intent}
    (h : Intent.fromStr (hexText bytes) = .ok i) : bytes = i.bytes := by
  rw [Intent.fromStr, Bytes.hexDecode_hexText] at h
  change (match bytes with | [scope, version, appId] => _ | _ => _) = _ at h
  split at h
  · obtain ⟨scope, hscope, h⟩ := bind_eq_ok.mp h
    obtain ⟨version, hversion, h⟩ := bind_eq_ok.mp h
    obtain ⟨appId, happId, h⟩ := bind_eq_ok.mp h
    cases h
    rw [tryFrom_eq_ok (by decide) (by decide) hscope, tryFrom_eq_ok (by decide) (by decide) hversion,
      tryFrom_eq_ok (by decide) (by decide) happId]
    rfl
  · cases h

theorem decodeUtf8_eq_ok : decodeUtf8 lib msg = .ok text ↔ IsText lib msg text := by
  unfold decodeUtf8 IsText
  cases ofUtf8 msg with
  | none => simp
  | some text' =>
    dsimp only
    by_cases hcjk : text'.any lib.isCjk = true
    · rw [if_pos hcjk]
      constructor
      · nofun
      · rintro ⟨h, hplain⟩
        cases h
        cases hcjk.symm.trans hplain
    · rw [if_neg hcjk]
      constructor
      · intro h
        cases h
        exact ⟨rfl, Bool.eq_false_iff.mpr hcjk⟩
      · rintro ⟨h, -⟩
        cases h
        rfl

theorem messageText_of_isText (h : IsText lib msg text) : messageText lib msg = text := by
  rw [messageText, decodeUtf8_eq_ok.mpr h]

theorem messageText_of_not_isText (h : ∀ text, ¬IsText lib msg text) :
    messageText lib msg = listText msg := by
  unfold messageText
  split
  · rename_i text htext
    exact absurd (decodeUtf8_eq_ok.mp htext) (h text)
  · rfl

theorem of_mem_intercalate {texts : List Text} (h : ∀ t ∈ texts, ∀ c ∈ t, c.toNat < 128) :
    ∀ c ∈ [','].intercalate texts, c.toNat < 128 := by
  induction texts with
  | nil => nofun
  | cons t texts ih =>
    intro c hc
    cases texts with
    | nil =>
      rw [List.intercalate_singleton] at hc
      exact h t (.head _) c hc
    | cons u texts =>
      rw [List.intercalate_cons_cons, List.append_assoc] at hc
      rcases List.mem_append.mp hc with hc | hc
      · exact h t (.head _) c hc
      · rcases List.mem_cons.mp hc with rfl | hc
        · decide
        · exact ih (fun v hv => h v (.tail _ hv)) c hc

theorem toNat_of_mem_listText {c : Char} (h : c ∈ listText msg) : c.toNat < 128 := by
  unfold listText at h
  rcases List.mem_cons.mp h with rfl | h
  · decide
  · rcases List.mem_append.mp h with h | h
    · refine of_mem_intercalate (fun t ht d hd => ?_) c h
      obtain ⟨b, -, rfl⟩ := List.mem_map.mp ht
      have := Bytes.isDigit_toNat (Bytes.isDigit_toDigits d hd)
      omega
    · rw [List.mem_singleton.mp h]
      decide

theorem isText_listText (msg : List UInt8) :
    IsText lib (utf8 (listText msg)) (listText msg) := by
  refine ⟨Bytes.ofUtf8_utf8 _, ?_⟩
  rw [List.any_eq_false]
  intro c hc
  rw [lib.isCjk_ascii c (toNat_of_mem_listText hc)]
  exact Bool.false_ne_true

theorem listText_inj (hmsg : msg ≠ []) (hmsg' : msg' ≠ []) (h : listText msg = listText msg') :
    msg = msg' := by
  have hcomma : ∀ (m : List UInt8), ∀ t ∈ m.map fun b => Nat.toDigits 10 b.toNat, ',' ∉ t := by
    intro m t ht hc
    obtain ⟨b, -, rfl⟩ := List.mem_map.mp ht
    cases Bytes.isDigit_toDigits ',' hc
  have hinner := List.append_cancel_right (List.cons.inj h).2
  have hlists := congrArg (List.splitOn ',') hinner
  rw [List.splitOn_intercalate _ (hcomma msg) (by simpa using hmsg),
    List.splitOn_intercalate _ (hcomma msg') (by simpa using hmsg')] at hlists
  refine List.map_injective_iff.mpr (fun b b' hb => ?_) hlists
  have hnumber := congrArg (fun s => Nat.ofDigitChars 10 s 0) hb
  rw [Nat.ofDigitChars_ten_toDigits, Nat.ofDigitChars_ten_toDigits] at hnumber
  exact UInt8.toNat_inj.mp hnumber

theorem ne_nil_of_not_isText (h : ∀ text, ¬IsText lib msg text) : msg ≠ [] := by
  rintro rfl
  exact h [] ⟨Bytes.ofUtf8_utf8 [], rfl⟩

theorem messageText_eq_iff : messageText lib msg = messageText lib msg' ↔
    msg = msg' ∨ Lists lib msg msg' ∨ Lists lib msg' msg := by
  -- of a text and what is none, the text is what is shown of the other
  have hmixed : ∀ {m m' : List UInt8} {text : Text}, IsText lib m text →
      (∀ text, ¬IsText lib m' text) → messageText lib m = messageText lib m' →
      Lists lib m' m := by
    intro m m' text htext hnone heq
    rw [messageText_of_isText htext, messageText_of_not_isText hnone] at heq
    exact ⟨hnone, by rw [← heq, Bytes.utf8_of_ofUtf8 htext.1]⟩
  have hlists : ∀ {m m' : List UInt8}, Lists lib m m' → messageText lib m = messageText lib m' := by
    rintro m m' ⟨hnone, rfl⟩
    rw [messageText_of_not_isText hnone, messageText_of_isText (isText_listText m)]
  constructor
  · intro heq
    by_cases h : ∃ text, IsText lib msg text <;> by_cases h' : ∃ text, IsText lib msg' text
    · obtain ⟨text, htext⟩ := h
      obtain ⟨text', htext'⟩ := h'
      rw [messageText_of_isText htext, messageText_of_isText htext'] at heq
      rw [← Bytes.utf8_of_ofUtf8 htext.1, ← Bytes.utf8_of_ofUtf8 htext'.1, heq]
      exact .inl rfl
    · obtain ⟨text, htext⟩ := h
      exact .inr (.inr (hmixed htext (not_exists.mp h') heq))
    · obtain ⟨text, htext⟩ := h'
      exact .inr (.inl (hmixed htext (not_exists.mp h) heq.symm))
    · rw [messageText_of_not_isText (not_exists.mp h),
        messageText_of_not_isText (not_exists.mp h')] at heq
      exact .inl (listText_inj (ne_nil_of_not_isText (not_exists.mp h))
        (ne_nil_of_not_isText (not_exists.mp h')) heq)
  · rintro (rfl | h | h)
    · rfl
    · exact hlists h
    · exact (hlists h).symm

theorem parseIntent_halted_iff : parseIntent lib intent ≠ .halted ↔ intent ≠ [] := by
  constructor
  · rintro h rfl
    exact h rfl
  · intro hne
    unfold parseIntent
    refine (Outcome.returns_index.mpr (List.length_pos_iff.mpr hne)).bind fun first _ => ?_
    refine (returns_tryFrom (by decide) (by decide) _ _).bind fun scope _ => ?_
    split
    · split
      · exact Outcome.returns_ok _
      · exact Outcome.returns_error _
    · split
      · exact Outcome.returns_ok _
      · exact Outcome.returns_error _
    · refine Outcome.Returns.bind ?_ fun msg _ => Outcome.returns_ok _
      unfold personalMessage
      split
      · exact Outcome.returns_ok _
      · unfold rawMessage
        split
        · exact Outcome.returns_error _
        · exact (returns_fromStr _).bind fun header _ => Outcome.returns_ok _
    · exact Outcome.returns_error _

theorem parseIntent_personal {shown : IntentMessage Text}
    (h : parseIntent lib intent = .ok (.personalMessage shown)) :
    intent.take 3 = shown.intent.bytes ∧ shown.value = messageText lib (messageOf intent) := by
  obtain ⟨first, -, h⟩ := bind_eq_ok.mp h
  obtain ⟨scope, -, h⟩ := bind_eq_ok.mp h
  split at h
  · split at h <;> cases h
  · split at h <;> cases h
  · obtain ⟨msg, hmsg, h⟩ := bind_eq_ok.mp h
    cases h
    unfold personalMessage at hmsg
    unfold messageOf
    split at hmsg
    · -- the BCS form begins with the intent
      rename_i msg' hread
      cases hmsg
      exact ⟨by rw [eq_of_fromBytes canonical_message hread]; rfl, rfl⟩
    · unfold rawMessage at hmsg
      split at hmsg
      · cases hmsg
      · obtain ⟨header, hheader, hmsg⟩ := bind_eq_ok.mp hmsg
        cases hmsg
        exact ⟨fromStr_hexText hheader, rfl⟩
  · cases h

theorem personalMessages_apart_iff (lib : SuiLib Tx) :
    (∀ intent, parseIntent lib intent ≠ .halted ↔ intent ≠ []) ∧
      ∀ (seed : List UInt8) (path : Text) (intent intent' : List UInt8)
        (shown shown' : IntentMessage Text) (signature signature' : Block 64),
        parseIntent lib intent = .ok (.personalMessage shown) →
        parseIntent lib intent' = .ok (.personalMessage shown') →
        signIntent lib seed path intent = .ok signature →
        signIntent lib seed path intent' = .ok signature' → signature ≠ signature' →
        (shown ≠ shown' ↔ ¬Alike lib intent intent') := by
  refine ⟨fun _ => parseIntent_halted_iff, ?_⟩
  intro _ _ intent intent' shown shown' _ _ hshown hshown' _ _ _
  obtain ⟨hintent, hvalue⟩ := parseIntent_personal hshown
  obtain ⟨hintent', hvalue'⟩ := parseIntent_personal hshown'
  obtain ⟨i, value⟩ := shown
  obtain ⟨i', value'⟩ := shown'
  rw [ne_eq, not_iff_not, IntentMessage.mk.injEq, Alike, hintent, hintent', ← messageText_eq_iff,
    ← hvalue, ← hvalue']
  exact and_congr_left fun _ => ⟨congrArg Intent.bytes, Intent.bytes_inj⟩

end

def SuiLib.sample : SuiLib Unit where
  isCjk c := 0x4e00 ≤ c.toNat && c.toNat < 0xa000
  isCjk_ascii := Bytes.ideograph_ascii
  blake2b256 := Block.ofBytes 32
  hmacSha512 _ _ := Block.zero 64
  signature message _ := Block.ofBytes 64 message
  transactionFromBytes _ := .error .eof
  bcsErrorText _ := []
  utf8ErrorText _ := []
  keystoreErrorText _ := []

def sampleMessage : List UInt8 := [3, 0, 0, 5, 0x68, 0x65, 0x6c, 0x6c, 0x6f]

def sampleRaw : List UInt8 := [3, 0, 0, 0x68, 0x65, 0x6c, 0x6c, 0x6f]

def sampleShown : IntentMessage Text := ⟨⟨.personalMessage, .v0, .sui⟩, "hello".toList⟩

def samplePath : Text := "m/44'/784'/0'/0'/0'".toList

theorem personalMessages_apart_sample :
    (sampleShown ≠ { sampleShown with value := "[255]".toList } ↔
      ¬Alike SuiLib.sample sampleMessage [3, 0, 0, 255]) :=
  (personalMessages_apart_iff SuiLib.sample).2 [] samplePath sampleMessage [3, 0, 0, 255]
    sampleShown { sampleShown with value := "[255]".toList } (Block.ofBytes 64 sampleMessage)
    (Block.ofBytes 64 [3, 0, 0, 255]) (by rfl) (by rfl) (by rfl) (by rfl) (by decide)

/-- An empty input panics, and a message and its BCS form are shown alike. -/
theorem not_personalMessages_apart : ¬∀ (Tx : Type) (lib : SuiLib Tx),
    (∀ intent, parseIntent lib intent ≠ .halted) ∧
      ∀ (seed : List UInt8) (path : Text) (intent intent' : List UInt8)
        (shown shown' : IntentMessage Text) (signature signature' : Block 64),
        parseIntent lib intent = .ok (.personalMessage shown) →
        parseIntent lib intent' = .ok (.personalMessage shown') →
        signIntent lib seed path intent = .ok signature →
        signIntent lib seed path intent' = .ok signature' → signature ≠ signature' →
        shown ≠ shown' := by
  intro claim
  exact (claim Unit SuiLib.sample).2 [] samplePath sampleMessage sampleRaw sampleShown sampleShown
    (Block.ofBytes 64 sampleMessage) (Block.ofBytes 64 sampleRaw) (by rfl) (by rfl) (by rfl)
    (by rfl) (by decide) rfl

end Keystone3.Sui
