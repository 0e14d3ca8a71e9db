import Keystone3.Monero.Amounts
import Keystone3.Monero.SignTx

/-!
# Requests from the host

A request is bytes that anybody can send, cut at fixed places before the signature is looked
at; behind the signature nothing is checked. `answers_iff` says for which bytes the device
answers, if only with an error: there is room for a nonce and a signature, and if the
signature is valid, what has been enciphered is spelled as it has to be and is about the
wallet.
-/

namespace Keystone3.Monero

open Bytes (Block toLe)
open Logic (Outcome)
open Logic.Outcome (ValueIff Returns)
open Logic.Outcome (collect ok_bind)
open UnsignedTx (strokes)

def mismatch : MoneroError → MoneroError
  | .decryptInvalidSignature => .mismatchedMfp
  | e => e

section

variable {Point Tx : Type} [AddCommGroup Point] [DecidableEq Point]

def parseUnsigned (lib : CryptLib Point) (fmtMoneroAmount : UInt64 → List Char)
    (requestData : List UInt8) (decryptKey pvk : Block 32) : Result DisplayTransactionInfo := do
  let decrypted ← Outcome.mapError mismatch
    (decryptDataWithDecryptKey lib decryptKey pvk requestData unsignedTxPrefix)
  let unsigned ← UnsignedTxData.deserialize decrypted.data
  unsigned.toUnsignedTx.displayInfo fmtMoneroAmount

variable (lib : Libraries Point Tx) (keypair : KeyPair) (requestData : List UInt8)

def signTx : Result (List UInt8) := do
  let decrypted ← Outcome.mapError mismatch
    (decryptDataWithPvk lib.toCryptLib (scalarBytes keypair.view) requestData unsignedTxPrefix)
  let unsigned ← UnsignedTxData.deserialize decrypted.data
  let signed ← unsigned.sign lib keypair
  encryptDataWithPvk lib.toCryptLib keypair (signed.serialize lib.format) signedTxPrefix

/-- `to_bytes` of the key images. -/
def keyImagesToBytes (keyImages : List KeyImageAndSignature) : List UInt8 :=
  keyImages.flatMap fun k => k.image.bytes ++ (toLe 32 k.signature.1 ++ toLe 32 k.signature.2)

def generateExportUrData : Result (List UInt8) := do
  let decrypted ← decryptDataWithPvk lib.toCryptLib (scalarBytes keypair.view) requestData
    outputExportMagic
  if decrypted.pk1 ≠ some (keypair.getPublicSpend lib.toCurve) then .halted
  else if decrypted.pk2 ≠ some (keypair.getPublicView lib.toCurve) then .halted
  else do
    let outputs ← ExportedTransferDetails.fromBytes decrypted.data
    let rngSeed := lib.keccak256 requestData
    let keyImages ← collect (fun (output, i) =>
      output.toExportedTransferDetail.keyImage lib.toCurve keypair (lib.randomScalar rngSeed i))
      outputs.details.zipIdx
    encryptDataWithPvk lib.toCryptLib keypair (keyImagesToBytes keyImages) keyImageExportMagic

end

def body (magic request : List UInt8) : List UInt8 :=
  if magic.isPrefixOf request then request.drop magic.length else request

section

variable {Point : Type} [AddCommGroup Point] [DecidableEq Point] (lib : CryptLib Point)

/-- The last 64 bytes sign what is in front of them, with the view key. -/
def Genuine (pvk : Block 32) (body : List UInt8) : Prop :=
  checkSignature lib.toCurve (lib.keccak256 (body.take (body.length - 64)))
    (lib.compress (lib.mulBase (lib.fromBytesModOrder pvk))) (body.drop (body.length - 64)) = .ok true

omit [DecidableEq Point] in
def generateDecryptKey (pvk : Block 32) : Block 32 := lib.cryptonightHashV0 pvk

omit [DecidableEq Point] in
def deciphered (decryptKey : Block 32) (body : List UInt8) : List UInt8 :=
  applyKeystream (lib.keystream decryptKey (Block.ofBytes 8 (body.take 8))) (body.drop 8)

omit [DecidableEq Point] in
/-- What is between `start` and the signature. -/
def payload (decryptKey : Block 32) (start : Nat) (body : List UInt8) : List UInt8 :=
  ((deciphered lib decryptKey body).take (body.length - 72)).drop start

omit [DecidableEq Point] in
def senderKey (decryptKey : Block 32) (start : Nat) (body : List UInt8) : Block 32 :=
  Block.ofBytes 32 (((deciphered lib decryptKey body).take (start + 32)).drop start)

/-- There is room for a nonce and a signature, and behind a valid signature the condition holds. -/
def Opens (pvk : Block 32) (magic request : List UInt8) (P : List UInt8 → Prop) : Prop :=
  72 ≤ (body magic request).length ∧ (Genuine lib pvk (body magic request) → P (body magic request))

end

theorem magicFound_cases (magic request : List UInt8) :
    magicFound magic request = .ok (magic.isPrefixOf request)
      ∨ magicFound magic request = .halted ∧ request.length < magic.length := by
  induction magic generalizing request with
  | nil => exact .inl (by simp [magicFound])
  | cons m magic ih =>
    cases request with
    | nil => exact .inr ⟨rfl, Nat.succ_pos _⟩
    | cons d request =>
      rw [magicFound]
      by_cases hd : d = m
      · subst hd
        rw [if_neg (not_not.mpr rfl)]
        rcases ih request with h | ⟨h, hlt⟩
        · exact .inl (by rw [h]; simp)
        · exact .inr ⟨h, Nat.succ_lt_succ hlt⟩
      · rw [if_pos hd]
        have hne : (m == d) = false := beq_false_of_ne (Ne.symm hd)
        exact .inl (by rw [List.isPrefixOf, hne, Bool.false_and]; rfl)

theorem length_body_le (magic request : List UInt8) : (body magic request).length ≤ request.length := by
  unfold body
  split
  · rw [List.length_drop]
    omega
  · exact Nat.le_refl _

theorem slice_of_le {bytes : List UInt8} {start stop : Nat} (h : start ≤ stop)
    (hstop : stop ≤ bytes.length) : slice bytes start stop = .ok ((bytes.take stop).drop start) :=
  if_pos ⟨h, hstop⟩

theorem signatureStart_of_le {bytes : List UInt8} (h : 64 ≤ bytes.length) :
    signatureStart bytes = .ok (bytes.length - 64) := by
  rw [signatureStart, if_neg (Nat.not_lt.mpr h)]
  rfl

section

variable {Point : Type} [AddCommGroup Point] [DecidableEq Point] (lib : CryptLib Point)
  (decryptKey pvk : Block 32) {magic request : List UInt8}

omit [DecidableEq Point] in
theorem length_deciphered (body : List UInt8) :
    (deciphered lib decryptKey body).length = body.length - 8 := by
  rw [deciphered, applyKeystream, length_applyKeystreamFrom, List.length_drop]

def openBody (magic body : List UInt8) : Result DecryptUrData := do
  let buffer := deciphered lib decryptKey body
  let start := if magic = keyImageExportMagic then 4 else 0
  let pk1 ← publicKeyAt (HasPublicKeys magic) buffer start
  let pk2 ← publicKeyAt (HasPublicKeys magic) buffer (start + 32)
  let dataEnd ← signatureStart buffer
  let data ← slice buffer (start + if HasPublicKeys magic then 64 else 0) dataEnd
  pure {
    pk1, pk2, data, magic
    nonce := Block.ofBytes 8 (body.take 8)
    signature := body.drop (body.length - 64)
    hash := lib.keccak256 (body.take (body.length - 64)) }

theorem decrypt_short (h : (body magic request).length < 72) :
    decryptDataWithDecryptKey lib decryptKey pvk request magic = .halted := by
  rw [decryptDataWithDecryptKey]
  rcases magicFound_cases magic request with hfound | ⟨hfound, -⟩
  · rw [hfound, ok_bind]
    dsimp only
    rw [← body]
    generalize body magic request = bytes at h
    -- no room for the nonce, or none for the signature, or none for both
    by_cases hnonce : 8 ≤ bytes.length
    · rw [slice_of_le (Nat.zero_le 8) hnonce, ok_bind]
      by_cases hraw : 64 ≤ bytes.length
      · have hsignature : signatureStart (bytes.drop 8) = .halted :=
          if_pos (by rw [List.length_drop]; omega)
        rw [signatureStart_of_le hraw, ok_bind, hsignature]
        rfl
      · rw [signatureStart, if_pos (Nat.not_le.mp hraw)]
        rfl
    · rw [slice, if_neg fun hlong => hnonce hlong.2]
      rfl
  · rw [hfound]
    rfl

theorem decrypt_long (hmagic : magic.length ≤ 72) (h : 72 ≤ (body magic request).length) :
    decryptDataWithDecryptKey lib decryptKey pvk request magic
      = (do
        let valid ← checkSignature lib.toCurve (lib.keccak256
          ((body magic request).take ((body magic request).length - 64)))
          (lib.compress (lib.mulBase (lib.fromBytesModOrder pvk)))
          ((body magic request).drop ((body magic request).length - 64))
        if ¬valid then .error .decryptInvalidSignature
        else openBody lib decryptKey magic (body magic request)) := by
  have hfound : magicFound magic request = .ok (magic.isPrefixOf request) := by
    rcases magicFound_cases magic request with hfound | ⟨-, hlt⟩
    · exact hfound
    · have hle := length_body_le magic request
      omega
  rw [decryptDataWithDecryptKey, hfound, ok_bind]
  dsimp only
  rw [← body]
  generalize body magic request = bytes at h
  -- the signature is looked for behind the nonce, and found at the same place
  have hsignature : (bytes.drop 8).drop ((bytes.drop 8).length - 64)
      = bytes.drop (bytes.length - 64) := by
    rw [List.drop_drop, List.length_drop]
    congr 1
    omega
  rw [slice_of_le (Nat.zero_le 8) (by omega), ok_bind, signatureStart_of_le (by omega),
    ok_bind, signatureStart_of_le (by rw [List.length_drop]; omega), ok_bind,
    hsignature]
  rfl

omit [DecidableEq Point] in
theorem openBody_unsigned {body : List UInt8} (h : 72 ≤ body.length) :
    ∃ decrypted, openBody lib decryptKey unsignedTxPrefix body = .ok decrypted
      ∧ decrypted.data = payload lib decryptKey 0 body := by
  have hlength := length_deciphered lib decryptKey body
  have hkeys : ¬HasPublicKeys unsignedTxPrefix := by decide
  have hmagic : unsignedTxPrefix ≠ keyImageExportMagic := by decide
  have hend : (deciphered lib decryptKey body).length - 64 = body.length - 72 := by omega
  have hnone : ∀ bytes start, publicKeyAt false bytes start = .ok none := fun _ _ => rfl
  unfold openBody payload
  simp only [hkeys, hmagic, decide_false, if_false, hnone, ok_bind]
  rw [signatureStart_of_le (by omega), ok_bind, hend, slice_of_le (Nat.zero_le _) (by omega)]
  exact ⟨_, rfl, rfl⟩

omit [DecidableEq Point] in
theorem openBody_export {body : List UInt8} (h : 136 ≤ body.length) :
    ∃ decrypted, openBody lib decryptKey outputExportMagic body = .ok decrypted
      ∧ decrypted.data = payload lib decryptKey 64 body
      ∧ decrypted.pk1 = some (senderKey lib decryptKey 0 body)
      ∧ decrypted.pk2 = some (senderKey lib decryptKey 32 body) := by
  have hlength := length_deciphered lib decryptKey body
  have hkeys : HasPublicKeys outputExportMagic := .inl rfl
  have hmagic : outputExportMagic ≠ keyImageExportMagic := by decide
  have hend : (deciphered lib decryptKey body).length - 64 = body.length - 72 := by omega
  have hkey : ∀ start, start + 32 ≤ (deciphered lib decryptKey body).length →
      publicKeyAt true (deciphered lib decryptKey body) start
        = .ok (some (senderKey lib decryptKey start body)) := by
    intro start hstart
    rw [publicKeyAt, if_pos rfl, slice_of_le (Nat.le_add_right start 32) hstart]
    rfl
  unfold openBody payload
  simp only [hkeys, hmagic, decide_true, if_false, if_true]
  rw [hkey 0 (by omega), ok_bind, hkey (0 + 32) (by omega), ok_bind,
    signatureStart_of_le (by omega), ok_bind, hend, slice_of_le (by omega) (by omega)]
  exact ⟨_, rfl, rfl, rfl, rfl⟩

omit [DecidableEq Point] in
theorem openBody_export_short {body : List UInt8} (h : body.length < 136) :
    openBody lib decryptKey outputExportMagic body = .halted := by
  have hlength := length_deciphered lib decryptKey body
  have hkeys : HasPublicKeys outputExportMagic := .inl rfl
  have hmagic : outputExportMagic ≠ keyImageExportMagic := by decide
  have hkey : ∀ start, publicKeyAt true (deciphered lib decryptKey body) start = .halted
      ∨ ∃ key, publicKeyAt true (deciphered lib decryptKey body) start = .ok key := by
    intro start
    rw [publicKeyAt, if_pos rfl, slice]
    split
    · exact .inr ⟨_, rfl⟩
    · exact .inl rfl
  unfold openBody
  simp only [hkeys, hmagic, decide_true, if_false, if_true]
  -- one of the two keys does not fit, or the text behind them starts after its end
  rcases hkey 0 with hfirst | ⟨first, hfirst⟩
  · rw [hfirst]
    rfl
  rcases hkey (0 + 32) with hsecond | ⟨second, hsecond⟩
  · rw [hfirst, ok_bind, hsecond]
    rfl
  rw [hfirst, ok_bind, hsecond, ok_bind]
  by_cases hlong : 64 ≤ (deciphered lib decryptKey body).length
  · rw [signatureStart_of_le hlong, ok_bind, slice, if_neg (by omega)]
    rfl
  · rw [signatureStart, if_pos (Nat.not_le.mp hlong)]
    rfl

theorem checkSignature_eq_ok (c : Curve Point) (hash : Block 32) (p : Point) (sig : List UInt8) :
    ∃ valid, checkSignature c hash (c.compress p) sig = .ok valid := by
  unfold checkSignature
  rw [c.point_compress, ok_bind]
  dsimp only
  split
  · exact ⟨_, rfl⟩
  · split
    · exact ⟨_, rfl⟩
    · exact ⟨_, rfl⟩

theorem returns_opened {α : Type} {f : DecryptUrData → Result α} {P : List UInt8 → Prop}
    (hmagic : magic.length ≤ 72) (hf : ∀ body : List UInt8, 72 ≤ body.length →
      (Returns (openBody lib decryptKey magic body >>= f) ↔ P body)) :
    Returns (decryptDataWithDecryptKey lib decryptKey pvk request magic >>= f)
      ↔ Opens lib pvk magic request P := by
  unfold Opens
  by_cases hlong : 72 ≤ (body magic request).length
  · rw [decrypt_long lib decryptKey pvk hmagic hlong, and_iff_right hlong, ← hf _ hlong]
    obtain ⟨valid, hvalid⟩ := checkSignature_eq_ok lib.toCurve
      (lib.keccak256 ((body magic request).take ((body magic request).length - 64)))
      (lib.mulBase (lib.fromBytesModOrder pvk))
      ((body magic request).drop ((body magic request).length - 64))
    rw [Genuine, hvalid]
    cases valid with
    | true => exact ⟨fun h _ => h, fun h => h rfl⟩
    | false => exact iff_of_true (Outcome.returns_error _) nofun
  · rw [decrypt_short lib decryptKey pvk (Nat.not_le.mp hlong)]
    exact iff_of_false (fun h => h rfl) fun h => hlong h.1

end

section

variable {Point Tx : Type} [AddCommGroup Point] [DecidableEq Point]

/-- The key that is selected for the output is there, and is a point. -/
def ExportedTransferDetail.Exportable (c : Curve Point) (d : ExportedTransferDetail) : Prop :=
  ∃ key, (if d.major ≠ 0 ∨ d.minor ≠ 0 then additionalTxKey d.additionalTxKeys d.internalOutputIndex
      else .ok none) = .ok key
    ∧ c.IsPoint (key.getD d.txPubkey)

/-- The text is a list of transactions, with the real output of every source. -/
def CanShow (plain : List UInt8) : Prop :=
  ∃ unsigned, Wire.unsignedTx.Begins plain unsigned ∧ unsigned.toUnsignedTx.RealOutputs

/-- The text is a list of transactions, with at least one, that can be signed, and outputs of which
the keys can be used. -/
def CanSign (lib : Libraries Point Tx) (keypair : KeyPair) (plain : List UInt8) : Prop :=
  ∃ unsigned, Wire.unsignedTx.Begins plain unsigned ∧ unsigned.txes ≠ []
    ∧ (∀ data ∈ unsigned.txes, data.toTransfer.Signable lib keypair)
    ∧ ∀ d ∈ unsigned.transfers.details, d.Usable lib.toCurve

/-- The text is a list of outputs of which the keys can be used. -/
def CanExport (c : Curve Point) (plain : List UInt8) : Prop :=
  ∃ transfers, Wire.exportedTransferDetails.Begins plain transfers
    ∧ ∀ d ∈ transfers.details, d.Exportable c

/-- The keys in front of an export are those of the wallet. -/
structure FromWallet (lib : Libraries Point Tx) (keypair : KeyPair) (decryptKey : Block 32)
    (body : List UInt8) : Prop where
  length : 136 ≤ body.length
  spend : senderKey lib.toCryptLib decryptKey 0 body = keypair.getPublicSpend lib.toCurve
  view : senderKey lib.toCryptLib decryptKey 32 body = keypair.getPublicView lib.toCurve

theorem returns_parseUnsigned (lib : CryptLib Point) (fmt : UInt64 → List Char)
    (request : List UInt8) (decryptKey pvk : Block 32) :
    Returns (parseUnsigned lib fmt request decryptKey pvk)
      ↔ Opens lib pvk unsignedTxPrefix request fun body => CanShow (payload lib decryptKey 0 body) := by
  unfold parseUnsigned
  rw [Outcome.returns_mapError_bind]
  refine returns_opened lib decryptKey pvk (by decide) fun body hlong => ?_
  obtain ⟨decrypted, hopen, hdata⟩ := openBody_unsigned lib decryptKey hlong
  rw [hopen, ok_bind, hdata]
  have hshown : ∀ unsigned : UnsignedTxData, ValueIff (unsigned.toUnsignedTx.displayInfo fmt)
      unsigned.toUnsignedTx.RealOutputs := fun unsigned =>
    Outcome.valueIff_of_returns (UnsignedTx.not_fails_displayInfo fmt)
      (UnsignedTx.returns_displayInfo_iff fmt)
  have hboth := (deserialize_valueIff (payload lib decryptKey 0 body)).bind_on
    fun unsigned _ => hshown unsigned
  rw [hboth.returns_iff]
  simp only [deserialize_eq_ok]
  rfl

variable (lib : Libraries Point Tx) (keypair : KeyPair) (request : List UInt8)

/-- Whatever is written, the generator comes to a scalar that the loop of `generate_signature` ends
with. -/
def SignatureEnds (lib : CryptLib Point) (keypair : KeyPair) : Prop :=
  ∀ data magic, ∃ k ∈ lib.draws (lib.keccak256 data),
    Accepts lib.toCurve (lib.keccak256 (sealedText lib keypair data magic))
      (keypair.getPublicView lib.toCurve) keypair.view k

omit [DecidableEq Point] in
theorem encryptDataWithPvk_returns (hlib : lib.Lawful) (hview : keypair.view < lib.order)
    (hends : SignatureEnds lib.toCryptLib keypair) (data magic : List UInt8) :
    ValueIff (encryptDataWithPvk lib.toCryptLib keypair data magic) True := by
  obtain ⟨k, -, -, hencrypt⟩ := encryptDataWithPvk_of_accepts hlib.crypt hview (hends data magic)
  rw [hencrypt]
  exact Outcome.valueIff_ok _

theorem returns_signTx (hlib : lib.Lawful) (hview : keypair.view < lib.order)
    (hends : SignatureEnds lib.toCryptLib keypair) :
    Returns (signTx lib keypair request)
      ↔ Opens lib.toCryptLib (scalarBytes keypair.view) unsignedTxPrefix request fun body =>
        CanSign lib keypair (payload lib.toCryptLib
          (generateDecryptKey lib.toCryptLib (scalarBytes keypair.view)) 0 body) := by
  unfold signTx decryptDataWithPvk
  rw [Outcome.returns_mapError_bind]
  refine returns_opened lib.toCryptLib _ _ (by decide) fun body hlong => ?_
  rw [← generateDecryptKey]
  generalize generateDecryptKey lib.toCryptLib (scalarBytes keypair.view) = decryptKey
  obtain ⟨decrypted, hopen, hdata⟩ := openBody_unsigned lib.toCryptLib decryptKey hlong
  rw [hopen, ok_bind, hdata]
  have hall := (deserialize_valueIff (payload lib.toCryptLib decryptKey 0 body)).bind_on
    fun unsigned _ => (sign_valueIff lib keypair hlib unsigned).bind fun signed _ =>
      encryptDataWithPvk_returns lib keypair hlib hview hends (signed.serialize lib.format)
        signedTxPrefix
  rw [hall.returns_iff]
  simp only [deserialize_eq_ok, and_true]
  rfl

omit [DecidableEq Point] in
theorem keyImage_valueIff (c : Curve Point) (d : ExportedTransferDetail) (k : Scalar) :
    ValueIff (d.keyImage c keypair k) (d.Exportable c) := by
  have hselect : ¬Outcome.Fails (if d.major ≠ 0 ∨ d.minor ≠ 0 then
      additionalTxKey d.additionalTxKeys d.internalOutputIndex else .ok none) := by
    split
    · exact not_fails_additionalTxKey _ _
    · exact Outcome.not_fails_ok _
  exact (Outcome.valueIff_of_not_fails hselect).bind_on fun _ _ =>
    (calcOutputKeyOffset_valueIff c keypair _ _ d.major d.minor).map.map

omit [DecidableEq Point] in
theorem keyImages_valueIff (details : List TransferDetail) :
    ValueIff (collect (fun ((output, i) : TransferDetail × Nat) =>
        output.toExportedTransferDetail.keyImage lib.toCurve keypair
          (lib.randomScalar (lib.keccak256 request) i)) details.zipIdx)
      (∀ d ∈ details, d.Exportable lib.toCurve) := by
  rw [← forall_mem_zipIdx (P := fun d : TransferDetail =>
    d.toExportedTransferDetail.Exportable lib.toCurve)]
  exact ValueIff.collect fun p _ => keyImage_valueIff keypair lib.toCurve _ _

theorem returns_generateExportUrData (hlib : lib.Lawful) (hview : keypair.view < lib.order)
    (hends : SignatureEnds lib.toCryptLib keypair) :
    Returns (generateExportUrData lib keypair request)
      ↔ Opens lib.toCryptLib (scalarBytes keypair.view) outputExportMagic request fun body =>
        FromWallet lib keypair (generateDecryptKey lib.toCryptLib (scalarBytes keypair.view)) body
        ∧ CanExport lib.toCurve (payload lib.toCryptLib
          (generateDecryptKey lib.toCryptLib (scalarBytes keypair.view)) 64 body) := by
  unfold generateExportUrData decryptDataWithPvk
  refine returns_opened lib.toCryptLib _ _ (by decide) fun body hlong => ?_
  rw [← generateDecryptKey]
  generalize generateDecryptKey lib.toCryptLib (scalarBytes keypair.view) = decryptKey
  by_cases hkeys : 136 ≤ body.length
  · obtain ⟨decrypted, hopen, hdata, hpk1, hpk2⟩ := openBody_export lib.toCryptLib decryptKey hkeys
    rw [hopen, ok_bind, hdata, hpk1, hpk2]
    by_cases hspend : senderKey lib.toCryptLib decryptKey 0 body = keypair.getPublicSpend lib.toCurve
    · by_cases hsender : senderKey lib.toCryptLib decryptKey 32 body
          = keypair.getPublicView lib.toCurve
      · rw [hspend, hsender, if_neg (not_not.mpr rfl), if_neg (not_not.mpr rfl),
          and_iff_right ⟨hkeys, hspend, hsender⟩]
        have hall := (fromBytes_valueIff (payload lib.toCryptLib decryptKey 64 body)).bind_on
          fun outputs _ => (keyImages_valueIff lib keypair request outputs.details).bind
            fun keyImages _ => encryptDataWithPvk_returns lib keypair hlib hview hends
              (keyImagesToBytes keyImages) keyImageExportMagic
        refine hall.returns_iff.trans ?_
        simp only [fromBytes_eq_ok, and_true]
        rfl
      · rw [if_neg (not_not.mpr (congrArg some hspend)),
          if_pos fun h => hsender (Option.some.inj h)]
        exact iff_of_false (fun h => h rfl) fun h => hsender h.1.view
    · rw [if_pos fun h => hspend (Option.some.inj h)]
      exact iff_of_false (fun h => h rfl) fun h => hspend h.1.spend
  · rw [openBody_export_short lib.toCryptLib decryptKey (Nat.not_le.mp hkeys)]
    exact iff_of_false (fun h => h rfl) fun h => hkeys h.1.length

/-- **When the device answers**, with a result or an error. To show, to sign and to export, the
request has to be long enough, and what a valid signature is for has to be spelled and to be about
the wallet as the function expects it. -/
theorem answers_iff (hlib : lib.Lawful) (hview : keypair.view < lib.order)
    (hends : SignatureEnds lib.toCryptLib keypair)
    (fmt : UInt64 → List Char) (decryptKey pvk : Block 32) :
    (Returns (parseUnsigned lib.toCryptLib fmt request decryptKey pvk)
      ↔ Opens lib.toCryptLib pvk unsignedTxPrefix request fun body =>
        CanShow (payload lib.toCryptLib decryptKey 0 body))
    ∧ (Returns (signTx lib keypair request)
      ↔ Opens lib.toCryptLib (scalarBytes keypair.view) unsignedTxPrefix request fun body =>
        CanSign lib keypair (payload lib.toCryptLib
          (generateDecryptKey lib.toCryptLib (scalarBytes keypair.view)) 0 body))
    ∧ (Returns (generateExportUrData lib keypair request)
      ↔ Opens lib.toCryptLib (scalarBytes keypair.view) outputExportMagic request fun body =>
        FromWallet lib keypair (generateDecryptKey lib.toCryptLib (scalarBytes keypair.view)) body
        ∧ CanExport lib.toCurve (payload lib.toCryptLib
          (generateDecryptKey lib.toCryptLib (scalarBytes keypair.view)) 64 body)) :=
  ⟨returns_parseUnsigned lib.toCryptLib fmt request decryptKey pvk,
    returns_signTx lib keypair request hlib hview hends,
    returns_generateExportUrData lib keypair request hlib hview hends⟩

end

/-- The curve with thirteen points, with a hash that is never zero, and transactions that are not
written. -/
def smallLibraries : Libraries (ZMod 13) Unit where
  __ := smallTxCurve
  __ := smallLib
  keccak256 data := Block.ofBytes 32 [UInt8.ofNat (((data.take 32).map UInt8.toNat).sum % 12 + 1)]
  prove _ _ commitments :=
    if 0 < commitments.length ∧ commitments.length ≤ 16 then some [] else none
  format := {
    serialize := fun _ => []
    read := pure ()
    reads := fun _ => Bytes.Reader.Reads.pure ()
    takes := fun _ _ _ h => by cases h; exact Nat.le_refl _ }
  transaction _ _ := ()
  accepts := smallAccepts
  signatureHash _ := some (Block.ofBytes 32 [])
  clsagSign rng signs _ _ := some (signs.map fun _ => ([], 0), rng)

theorem smallLibraries_lawful : smallLibraries.Lawful where
  crypt := ⟨by decide, fun _ => show ∀ k ∈ ([1, 2, 3] : List Nat), k < 13 by decide⟩
  proves := by
    intro plus seed commitments
    show (if _ then _ else _ : Option (List UInt8)).isSome = true ↔ _
    split
    · rename_i h
      exact iff_of_true rfl h
    · rename_i h
      exact iff_of_false Bool.false_ne_true h
  accepts_lt := by
    intro decoys commitment h
    have hall : smallAccepts decoys commitment = true := h
    simp only [smallAccepts, Bool.and_eq_true, decide_eq_true_eq] at hall
    exact ⟨hall.1.2, hall.2⟩
  signatureHash_isSome _ _ := rfl
  clsagSign_isSome _ _ _ _ _ := rfl

theorem challenge_smallLibraries (hash : Block 32) : ∃ e : Nat, 0 < e ∧ e < 13 ∧ ∀ pubkey commitment,
    challenge smallLibraries.toCurve hash pubkey commitment = e := by
  refine ⟨(hash.bytes.map UInt8.toNat).sum % 12 + 1, Nat.succ_pos _, by omega, fun pubkey p => ?_⟩
  have hfront : (hash.bytes ++ pubkey.bytes ++ (smallLibraries.compress p).bytes).take 32
      = hash.bytes := by
    rw [List.append_assoc]
    exact List.take_left' hash.size_eq
  have hvalue : ∀ x : UInt8, Bytes.ofLe (Block.ofBytes 32 [x]).bytes = x.toNat := fun _ => rfl
  show Bytes.ofLe (Block.ofBytes 32 [UInt8.ofNat (((List.take 32 _).map UInt8.toNat).sum % 12 + 1)]).bytes
    % 13 = _
  rw [hfront, hvalue, UInt8.toNat_ofNat']
  omega

theorem signatureEnds_smallLibraries : SignatureEnds smallLibraries.toCryptLib smallWallet := by
  intro data magic
  generalize smallLibraries.toCryptLib.keccak256
    (sealedText smallLibraries.toCryptLib smallWallet data magic) = hash
  obtain ⟨e, hpos, hlt, he⟩ := challenge_smallLibraries hash
  have haccepts : ∀ k : Nat, (k + (13 - e * 2 % 13)) % 13 ≠ 0 →
      Accepts smallLibraries.toCryptLib.toCurve hash
        (smallWallet.getPublicView smallLibraries.toCryptLib.toCurve) smallWallet.view k := by
    intro k hk
    have hchallenge : challenge smallLibraries.toCryptLib.toCurve hash
        (smallWallet.getPublicView smallLibraries.toCryptLib.toCurve)
        (smallLibraries.toCryptLib.toCurve.mulBase k) = e := he _ _
    constructor
    · rw [hchallenge]
      exact Nat.ne_of_gt hpos
    · rw [hchallenge]
      exact hk
  by_cases hseven : e = 7
  · exact ⟨2, show 2 ∈ ([1, 2, 3] : List Nat) by decide, haccepts 2 (by omega)⟩
  · exact ⟨1, show 1 ∈ ([1, 2, 3] : List Nat) by decide, haccepts 1 (by omega)⟩

/-- Without a signature that is valid, there is an error. -/
theorem answers_zeros :
    Returns (parseUnsigned smallLibraries.toCryptLib strokes (List.replicate 72 0)
      (Block.ofBytes 32 [1]) (Block.ofBytes 32 [2]))
    ∧ Returns (signTx smallLibraries smallWallet (List.replicate 72 0))
    ∧ Returns (generateExportUrData smallLibraries smallWallet (List.replicate 72 0)) := by
  have hopens : ∀ pvk magic P, magic.isPrefixOf (List.replicate 72 0) = false →
      Opens smallLibraries.toCryptLib pvk magic (List.replicate 72 0) P := by
    intro pvk magic P hmagic
    have hbody : body magic (List.replicate 72 0) = List.replicate 72 0 := by
      rw [body, hmagic]
      rfl
    rw [Opens, hbody]
    exact ⟨by decide, nofun⟩
  have hall := answers_iff smallLibraries smallWallet (List.replicate 72 0) smallLibraries_lawful
    (by decide) signatureEnds_smallLibraries strokes (Block.ofBytes 32 [1]) (Block.ofBytes 32 [2])
  exact ⟨hall.1.mpr (hopens _ _ _ (by decide)), hall.2.1.mpr (hopens _ _ _ (by decide)),
    hall.2.2.mpr (hopens _ _ _ (by decide))⟩

/-- **No bytes**: the first of them is compared with that of the magic. -/
theorem not_answers_nil : ¬(Returns (parseUnsigned smallLibraries.toCryptLib strokes []
      (Block.ofBytes 32 [1]) (Block.ofBytes 32 [2]))
    ∨ Returns (signTx smallLibraries smallWallet [])
    ∨ Returns (generateExportUrData smallLibraries smallWallet [])) := by
  rintro (h | h | h)
  · exact h rfl
  · exact h rfl
  · exact h rfl

end Keystone3.Monero
