import Keystone3.Usb.FrameParser

/-!
# The public key for a file transfer

A host that is about to send firmware asks for the device's public key with a key of its
own and a signature of it (`serviceFileTransGetPubkey`). The array the TLVs were read
into is used again for the answer, and with it the pointer of the first TLV: what is
sent are the four bytes it points at.

`serviceFileTransGetPubkey_refused_iff` says for which requests the answer is right all
the same.
-/

namespace Keystone3

open Bytes (Block length_toLe)

variable {σ : Type}

def SERVICE_ID_FILE_TRANS : UInt8 := 2

def COMMAND_ID_FILE_GET_PUBKEY : UInt8 := 4

def TYPE_FILE_FINO_PUBKEY : UInt8 := 1

def TYPE_FILE_FINO_PUBKEY_SIGN : UInt8 := 2

/-- What the handler calls: the hash, the verification with `g_webUsbUpdatePubKey`, and
`GetDeviceParserPubKey`, which draws a key and answers with its public key or `NULL`. -/
structure PubkeyEnv (σ : Type) where
  sha256 : List UInt8 → Block 32
  k1VerifySignature : Block 71 → Block 32 → Bool
  getDeviceParserPubKey : List UInt8 → σ → Option (List UInt8) × σ

/-- `GetTlvFromData` with its pointers: behind a value is what follows it in the receive
buffer, to the end of the data and further, into `behind`. -/
def getTlvPointers : Nat → List UInt8 → List UInt8 → List Tlv
  | 0, _, _ => []
  | maxTlvLen + 1, data, behind =>
    match tlvHead data with
    | none => []
    | some (type, length, data) =>
      if data.length < length.toNat ∨ length = 0 then []
      else ⟨type, length, some (data ++ behind), 0⟩ ::
        getTlvPointers maxTlvLen (data.drop length.toNat) behind

/-- What does not fit is not copied, and the destination is cleared. -/
def memcpyS {n : Nat} (dest : Block n) (src : List UInt8) : Block n :=
  if src.length ≤ n then dest.overwrite src else Block.zero n

structure PubkeyRequest where
  pubKey : Block 34
  pubKeySign : Block 71
  pubKeyReceived : Bool
  pubKeySignReceived : Bool

def readPubkeyTlv (r : PubkeyRequest) : UInt8 × List UInt8 → PubkeyRequest
  | (type, value) =>
    if type = TYPE_FILE_FINO_PUBKEY then
      { r with pubKey := memcpyS r.pubKey value, pubKeyReceived := true }
    else if type = TYPE_FILE_FINO_PUBKEY_SIGN then
      { r with pubKeySign := memcpyS r.pubKeySign value, pubKeySignReceived := true }
    else r

def readPubkeyTlvs (tlvArray : List Tlv) : PubkeyRequest :=
  (tlvArray.map fun t => (t.type, t.contents)).foldl readPubkeyTlv
    ⟨Block.zero 34, Block.zero 71, false, false⟩

/-- `k1_verify_signature` over the hash of the key. -/
def pubkeyVerifies (env : PubkeyEnv σ) (r : PubkeyRequest) : Bool :=
  env.k1VerifySignature r.pubKeySign (env.sha256 (r.pubKey.bytes.take 33))

/-- The TLV of the answer, put into `tlvArray[0]`, the slot of the first TLV. -/
def pubkeyTlv (env : PubkeyEnv σ) (slot : Tlv) (r : PubkeyRequest) (s : σ) : Tlv × σ :=
  let slot := { slot with type := TYPE_FILE_FINO_PUBKEY }
  if !r.pubKeyReceived || !r.pubKeySignReceived then ({ slot with length := 4, value := 3 }, s)
  else if !pubkeyVerifies env r then ({ slot with length := 4, value := 3 }, s)
  else
    let (pubKey, s) := env.getDeviceParserPubKey (r.pubKey.bytes.take 33) s
    ({ slot with length := 33, pValue := pubKey }, s)

def pubkeyHead (head : FrameHead) : FrameHead :=
  ⟨0, 0, head.packetIndex, SERVICE_ID_FILE_TRANS, COMMAND_ID_FILE_GET_PUBKEY, 0, 0⟩

/-- A frame in the memory that is allocated for it; `none` is a failed assertion. -/
def frameOf (sramMalloc : ∀ n, Block n) (head : FrameHead) (t : Tlv) : Option (List UInt8) :=
  (buildFrame head [t] (sramMalloc _)).map Block.bytes

/-- `ServiceFileTransGetPubkey`, with what is behind the TLVs in the receive buffer. -/
def serviceFileTransGetPubkey (env : PubkeyEnv σ) (sramMalloc : ∀ n, Block n) (head : FrameHead)
    (tlvData behind : List UInt8) (s : σ) : Option (List UInt8) × σ :=
  let tlvArray := getTlvPointers 2 tlvData behind
  let (t, s) := pubkeyTlv env (tlvArray.headD ⟨0, 0, none, 0⟩) (readPubkeyTlvs tlvArray) s
  (frameOf sramMalloc (pubkeyHead head) t, s)

/-- What is behind the TLVs of a frame in the receive buffer: its CRC, and what was
there before. -/
def ValidFrame.behind (f : ValidFrame) (stale : List UInt8) : List UInt8 :=
  f.bytes.drop (frameHeadSize + f.tlvData.length) ++ stale

/-- The key or its signature is missing, or the signature does not verify. -/
def PubkeyRefused (env : PubkeyEnv σ) (tlvs : List Tlv) : Prop :=
  (∀ t ∈ tlvs, t.type ≠ TYPE_FILE_FINO_PUBKEY) ∨ (∀ t ∈ tlvs, t.type ≠ TYPE_FILE_FINO_PUBKEY_SIGN)
    ∨ pubkeyVerifies env (readPubkeyTlvs tlvs) = false

def pubkeyError : Tlv := ⟨TYPE_FILE_FINO_PUBKEY, 4, none, 3⟩

def firstPointer (data behind : List UInt8) : Option (List UInt8) :=
  match tlvHead data with
  | none => none
  | some (_, length, data) =>
    if data.length < length.toNat ∨ length = 0 then none else some (data ++ behind)

theorem map_getTlvPointers (behind : List UInt8) : ∀ (maxTlvLen : Nat) (data : List UInt8),
    (getTlvPointers maxTlvLen data behind).map (fun t => (t.type, t.contents))
      = (getTlvFromData maxTlvLen data).map (fun t => (t.type, t.contents))
  | 0, _ => rfl
  | maxTlvLen + 1, data => by
    unfold getTlvPointers getTlvFromData
    cases tlvHead data with
    | none => rfl
    | some r =>
      obtain ⟨type, length, data⟩ := r
      dsimp only
      by_cases hcut : data.length < length.toNat ∨ length = 0
      · rw [if_pos hcut, if_pos hcut]
      · rw [if_neg hcut, if_neg hcut, List.map_cons, List.map_cons,
          map_getTlvPointers behind maxTlvLen]
        have hvalue : (data ++ behind).take length.toNat
            = (data.take length.toNat).take length.toNat := by
          rw [List.take_append_of_le_length (by omega), List.take_take, Nat.min_self]
        simp only [Tlv.contents, Tlv.memory, hvalue]

theorem readPubkeyTlvs_getTlvPointers (maxTlvLen : Nat) (data behind : List UInt8) :
    readPubkeyTlvs (getTlvPointers maxTlvLen data behind)
      = readPubkeyTlvs (getTlvFromData maxTlvLen data) := by
  unfold readPubkeyTlvs
  rw [map_getTlvPointers]

theorem received_foldl (values : List (UInt8 × List UInt8)) (r : PubkeyRequest) :
    (values.foldl readPubkeyTlv r).pubKeyReceived
        = (r.pubKeyReceived || values.any fun v => v.1 == TYPE_FILE_FINO_PUBKEY)
      ∧ (values.foldl readPubkeyTlv r).pubKeySignReceived
        = (r.pubKeySignReceived || values.any fun v => v.1 == TYPE_FILE_FINO_PUBKEY_SIGN) := by
  induction values generalizing r with
  | nil => simp
  | cons v values ih =>
    obtain ⟨type, value⟩ := v
    rw [List.foldl_cons, (ih _).1, (ih _).2, List.any_cons, List.any_cons]
    unfold readPubkeyTlv
    by_cases hkey : type = TYPE_FILE_FINO_PUBKEY
    · subst hkey
      simp [TYPE_FILE_FINO_PUBKEY, TYPE_FILE_FINO_PUBKEY_SIGN]
    · by_cases hsign : type = TYPE_FILE_FINO_PUBKEY_SIGN
      · subst hsign
        simp [TYPE_FILE_FINO_PUBKEY, TYPE_FILE_FINO_PUBKEY_SIGN]
      · simp [hkey, hsign, beq_eq_false_iff_ne.mpr hkey, beq_eq_false_iff_ne.mpr hsign]

/-- **A request that is to be refused** gets the number 3 and keeps the first pointer. -/
theorem pubkeyTlv_refused {env : PubkeyEnv σ} {tlvs : List Tlv} (h : PubkeyRefused env tlvs)
    (slot : Tlv) (s : σ) :
    pubkeyTlv env slot (readPubkeyTlvs tlvs) s = (⟨TYPE_FILE_FINO_PUBKEY, 4, slot.pValue, 3⟩, s) := by
  obtain ⟨hkey, hsign⟩ := received_foldl (tlvs.map fun t => (t.type, t.contents))
    ⟨Block.zero 34, Block.zero 71, false, false⟩
  rw [Bool.false_or, List.any_map] at hkey hsign
  unfold pubkeyTlv
  by_cases hboth : (!(readPubkeyTlvs tlvs).pubKeyReceived
      || !(readPubkeyTlvs tlvs).pubKeySignReceived) = true
  · rw [if_pos hboth]
  · rw [if_neg hboth]
    -- both are there, so it is the signature
    have hverify : pubkeyVerifies env (readPubkeyTlvs tlvs) = false := by
      rw [Bool.not_eq_true, Bool.or_eq_false_iff, Bool.not_eq_false', Bool.not_eq_false'] at hboth
      rcases h with hnone | hnone | hverify
      · have hany := List.any_eq_true.mp (hkey.symm.trans hboth.1)
        obtain ⟨t, ht, htype⟩ := hany
        exact absurd (beq_iff_eq.mp htype) (hnone t ht)
      · have hany := List.any_eq_true.mp (hsign.symm.trans hboth.2)
        obtain ⟨t, ht, htype⟩ := hany
        exact absurd (beq_iff_eq.mp htype) (hnone t ht)
      · exact hverify
    rw [hverify]
    rfl

theorem headD_getTlvPointers (maxTlvLen : Nat) (data behind : List UInt8) :
    ((getTlvPointers (maxTlvLen + 1) data behind).headD ⟨0, 0, none, 0⟩).pValue
      = firstPointer data behind := by
  unfold getTlvPointers firstPointer
  cases tlvHead data with
  | none => rfl
  | some r =>
    obtain ⟨type, length, data⟩ := r
    dsimp only
    split <;> rfl

theorem frameOf_eq_iff (sramMalloc : ∀ n, Block n) (head : FrameHead) {t t' : Tlv}
    (ht : t.Encodable) (ht' : t'.Encodable) (hlength : t.bytes.length = t'.bytes.length) :
    frameOf sramMalloc head t = frameOf sramMalloc head t' ↔ t.bytes = t'.bytes := by
  obtain ⟨frame, hframe, hbytes⟩ := @buildFrame_writes head [t]
    (fun u hu => List.mem_singleton.mp hu ▸ ht) (sramMalloc _)
  obtain ⟨frame', hframe', hbytes'⟩ := @buildFrame_writes head [t']
    (fun u hu => List.mem_singleton.mp hu ▸ ht') (sramMalloc _)
  unfold frameOf
  rw [hframe, hframe', Option.map_some, Option.map_some, Option.some.injEq, hbytes, hbytes']
  unfold frameBody
  simp only [List.flatMap_cons, List.flatMap_nil, List.append_nil]
  constructor
  · intro h
    obtain ⟨hbody, -⟩ := List.append_inj' h (by rw [length_toLe, length_toLe])
    rw [hlength] at hbody
    exact List.append_cancel_left hbody
  · intro h
    rw [h]

theorem ValidFrame.length_behind (f : ValidFrame) (stale : List UInt8) :
    4 ≤ (f.behind stale).length := by
  have hsize := f.length_bytes
  have hhead : frameHeadSize = 10 := rfl
  unfold ValidFrame.behind
  rw [List.length_append, List.length_drop]
  omega

theorem length_firstPointer {data behind p : List UInt8} (h : firstPointer data behind = some p) :
    behind.length ≤ p.length := by
  unfold firstPointer at h
  cases hhead : tlvHead data with
  | none =>
    rw [hhead] at h
    cases h
  | some r =>
    obtain ⟨type, length, data'⟩ := r
    rw [hhead] at h
    dsimp only at h
    split at h
    · cases h
    · cases h
      rw [List.length_append]
      omega

theorem serviceFileTransGetPubkey_refused {env : PubkeyEnv σ} (sramMalloc : ∀ n, Block n)
    (head : FrameHead) {tlvData : List UInt8} (behind : List UInt8) (s : σ)
    (h : PubkeyRefused env (getTlvFromData 2 tlvData)) :
    (serviceFileTransGetPubkey env sramMalloc head tlvData behind s).1
      = frameOf sramMalloc (pubkeyHead head)
        ⟨TYPE_FILE_FINO_PUBKEY, 4, firstPointer tlvData behind, 3⟩ := by
  unfold serviceFileTransGetPubkey
  simp only [readPubkeyTlvs_getTlvPointers, pubkeyTlv_refused h, headD_getTlvPointers]

/-- **What a host without a signature is told.** The answer is the fixed error exactly if
there is no first TLV, or the four bytes from its value on are the error. -/
theorem serviceFileTransGetPubkey_refused_iff (env : PubkeyEnv σ) (sramMalloc : ∀ n, Block n)
    (f : ValidFrame) (stale : List UInt8) (s : σ)
    (h : PubkeyRefused env (getTlvFromData 2 f.tlvData)) :
    (serviceFileTransGetPubkey env sramMalloc f.head f.tlvData (f.behind stale) s).1
        = frameOf sramMalloc (pubkeyHead f.head) pubkeyError
      ↔ ∀ p, firstPointer f.tlvData (f.behind stale) = some p → p.take 4 = [3, 0, 0, 0] := by
  rw [serviceFileTransGetPubkey_refused sramMalloc f.head _ s h]
  cases hp : firstPointer f.tlvData (f.behind stale) with
  | none => exact ⟨fun _ p hp => (by cases hp), fun _ => rfl⟩
  | some p =>
    have hfour : 4 ≤ p.length := Nat.le_trans (f.length_behind stale) (length_firstPointer hp)
    have ht : (⟨TYPE_FILE_FINO_PUBKEY, 4, some p, 3⟩ : Tlv).Encodable :=
      ⟨by show (4 : UInt16) ≤ 0x7FFF; decide, hfour⟩
    have herror : pubkeyError.Encodable := ⟨by decide, by decide⟩
    rw [frameOf_eq_iff sramMalloc _ ht herror
      (by rw [Tlv.length_bytes ht.readable, Tlv.length_bytes herror.readable]; rfl)]
    have hbytes : (⟨TYPE_FILE_FINO_PUBKEY, 4, some p, 3⟩ : Tlv).bytes = 1 :: 4 :: p.take 4 := rfl
    have hfixed : pubkeyError.bytes = [1, 4, 3, 0, 0, 0] := by decide
    rw [hbytes, hfixed]
    constructor
    · intro heq q hq
      cases hq
      exact (List.cons.inj (List.cons.inj heq).2).2
    · intro hq
      rw [hq p rfl]

set_option maxRecDepth 16384 in
def emptyRequest : ValidFrame where
  bytes := [0x6B, 0, 1, 0, 2, 4, 2, 0, 0, 0, 0x2F, 0x58, 0x66, 0x14]
  head := ⟨0x6B, 0, 1, 2, 4, 2, 0⟩
  tlvData := []
  accepted := by decide
  fits := by decide

set_option maxRecDepth 16384 in
def unsignedRequest : ValidFrame where
  bytes := [0x6B, 0, 1, 0, 2, 4, 2, 0, 6, 0, 1, 4, 0xAA, 0xBB, 0xCC, 0xDD, 0x60, 0x93, 0x7A, 0xC6]
  head := ⟨0x6B, 0, 1, 2, 4, 2, 6⟩
  tlvData := [1, 4, 0xAA, 0xBB, 0xCC, 0xDD]
  accepted := by decide
  fits := by decide

def unsignedEnv : PubkeyEnv Unit where
  sha256 _ := Block.zero 32
  k1VerifySignature _ _ := false
  getDeviceParserPubKey _ s := (none, s)

theorem serviceFileTransGetPubkey_refused_iff_empty :
    (serviceFileTransGetPubkey unsignedEnv Block.zero emptyRequest.head emptyRequest.tlvData
        (emptyRequest.behind []) ()).1 = frameOf Block.zero (pubkeyHead emptyRequest.head) pubkeyError
      ↔ ∀ p, firstPointer emptyRequest.tlvData (emptyRequest.behind []) = some p →
        p.take 4 = [3, 0, 0, 0] :=
  serviceFileTransGetPubkey_refused_iff unsignedEnv Block.zero emptyRequest [] () (.inl (by decide))

/-- The first four bytes of the key are sent back. -/
theorem not_serviceFileTransGetPubkey_error : ¬∀ (σ : Type) (env : PubkeyEnv σ)
    (sramMalloc : ∀ n, Block n) (f : ValidFrame) (stale : List UInt8) (s : σ),
    PubkeyRefused env (getTlvFromData 2 f.tlvData) →
    (serviceFileTransGetPubkey env sramMalloc f.head f.tlvData (f.behind stale) s).1
      = frameOf sramMalloc (pubkeyHead f.head) pubkeyError := by
  intro h
  have hrefused : PubkeyRefused unsignedEnv (getTlvFromData 2 unsignedRequest.tlvData) :=
    .inr (.inl (by decide))
  have hsame := h Unit unsignedEnv Block.zero unsignedRequest [] () hrefused
  rw [serviceFileTransGetPubkey_refused Block.zero _ _ () hrefused] at hsame
  have hpointer : firstPointer unsignedRequest.tlvData (unsignedRequest.behind [])
      = some [0xAA, 0xBB, 0xCC, 0xDD, 0x60, 0x93, 0x7A, 0xC6] := by decide
  rw [hpointer, frameOf_eq_iff Block.zero _ (by constructor <;> decide)
    (by constructor <;> decide) (by decide)] at hsame
  cases hsame

end Keystone3
