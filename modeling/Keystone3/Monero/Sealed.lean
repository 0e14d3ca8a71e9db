import Keystone3.Monero.TransferKey

/-!
# Data for the other side

What is handed over is a nonce, a text under a stream cipher and a signature, behind a
magic that says what it is. The cipher covers the text alone when it is written, and the
text and the signature when it is read: the byte at a place depends on the place only
(`take_applyKeystream`), so the text comes out.
-/

namespace Keystone3.Monero

open Bytes (Block toLe ofLe)
open Logic (Outcome)
open Logic.Outcome (ok_bind pure_eq)
open List (append_assoc length_append)

/-- `"Monero output export\x04"`. -/
def outputExportMagic : List UInt8 :=
  [0x4D, 0x6F, 0x6E, 0x65, 0x72, 0x6F, 0x20, 0x6F, 0x75, 0x74, 0x70, 0x75, 0x74, 0x20, 0x65, 0x78,
    0x70, 0x6F, 0x72, 0x74, 0x04]

/-- `"Monero key image export\x03"`. -/
def keyImageExportMagic : List UInt8 :=
  [0x4D, 0x6F, 0x6E, 0x65, 0x72, 0x6F, 0x20, 0x6B, 0x65, 0x79, 0x20, 0x69, 0x6D, 0x61, 0x67, 0x65,
    0x20, 0x65, 0x78, 0x70, 0x6F, 0x72, 0x74, 0x03]

/-- `"Monero unsigned tx set\x05"`. -/
def unsignedTxPrefix : List UInt8 :=
  [0x4D, 0x6F, 0x6E, 0x65, 0x72, 0x6F, 0x20, 0x75, 0x6E, 0x73, 0x69, 0x67, 0x6E, 0x65, 0x64, 0x20,
    0x74, 0x78, 0x20, 0x73, 0x65, 0x74, 0x05]

/-- `"Monero signed tx set\x05"`. -/
def signedTxPrefix : List UInt8 :=
  [0x4D, 0x6F, 0x6E, 0x65, 0x72, 0x6F, 0x20, 0x73, 0x69, 0x67, 0x6E, 0x65, 0x64, 0x20, 0x74, 0x78,
    0x20, 0x73, 0x65, 0x74, 0x05]

def HasPublicKeys (magic : List UInt8) : Prop :=
  magic = outputExportMagic ∨ magic = keyImageExportMagic

instance (magic : List UInt8) : Decidable (HasPublicKeys magic) := inferInstanceAs (Decidable (_ ∨ _))

structure CryptLib (Point : Type) [AddCommGroup Point] extends Curve Point where
  cryptonightHashV0 : Block 32 → Block 32
  /-- The stream of `ChaCha20Legacy` for a key and a nonce. -/
  keystream : Block 32 → Block 8 → Nat → UInt8
  /-- The first number of the generator with a seed. -/
  nextU64 : Block 32 → UInt64
  /-- The scalars that the generator draws, as many as are asked for. -/
  draws : Block 32 → List Scalar

structure CryptLib.Lawful {Point : Type} [AddCommGroup Point] (lib : CryptLib Point) : Prop where
  /-- A scalar has 32 bytes. -/
  order_le : lib.order ≤ 256 ^ 32
  draws_lt : ∀ seed, ∀ k ∈ lib.draws seed, k < lib.order

/-- `to_bytes` of a scalar. -/
def scalarBytes (a : Scalar) : Block 32 := ⟨toLe 32 a, Bytes.length_toLe 32 a⟩

def toBeBytes (n : UInt64) : Block 8 :=
  ⟨(toLe 8 n.toNat).reverse, by rw [List.length_reverse, Bytes.length_toLe]⟩

/-- `apply_keystream`, from a place in the stream. -/
def applyKeystreamFrom (stream : Nat → UInt8) : Nat → List UInt8 → List UInt8
  | _, [] => []
  | i, b :: bs => (b ^^^ stream i) :: applyKeystreamFrom stream (i + 1) bs

def applyKeystream (stream : Nat → UInt8) (bs : List UInt8) : List UInt8 :=
  applyKeystreamFrom stream 0 bs

section

variable {Point : Type} [AddCommGroup Point] [DecidableEq Point]

def challenge (c : Curve Point) (hash pubkey : Block 32) (commitment : Point) : Scalar :=
  c.hashToScalar (hash.bytes ++ pubkey.bytes ++ (c.compress commitment).bytes)

/-- The loop of `generate_signature`, over the scalars that are drawn. -/
def signatureLoop (c : Curve Point) (hash pubkey : Block 32) (seckey : Scalar) :
    List Scalar → Option (List UInt8)
  | [] => none
  | k :: draws =>
    let e := challenge c hash pubkey (c.mulBase k)
    let r := c.sub k (e * seckey)
    if e = 0 ∨ r = 0 then signatureLoop c hash pubkey seckey draws
    else some (toLe 32 e ++ toLe 32 r)

def generateSignature (c : Curve Point) (hash pubkey : Block 32) (seckey : Scalar)
    (draws : List Scalar) : Option (List UInt8) :=
  if c.compress (c.mulBase seckey) ≠ pubkey then none
  else signatureLoop c hash pubkey seckey draws

def checkSignature (c : Curve Point) (hash pubkey : Block 32) (sig : List UInt8) : Result Bool := do
  let e := ofLe (sig.take 32)
  let r := ofLe (sig.drop 32)
  let point ← c.point pubkey
  if ¬e < c.order ∨ ¬r < c.order ∨ r = 0 then pure false
  else
    let resultPoint := e • point + r • c.base
    if resultPoint = 0 then pure false
    else pure (c.sub (challenge c hash pubkey resultPoint) e = 0)

variable (lib : CryptLib Point)

def encryptDataWithPvk (keypair : KeyPair) (data magic : List UInt8) : Result (List UInt8) := do
  let pvkHash := lib.cryptonightHashV0 (scalarBytes keypair.view)
  let seed := lib.keccak256 data
  let nonceNum := toBeBytes (lib.nextU64 seed)
  let version := if magic = keyImageExportMagic then toLe 4 0 else []
  let publicKeys := if HasPublicKeys magic then
      (keypair.getPublicSpend lib.toCurve).bytes ++ (keypair.getPublicView lib.toCurve).bytes
    else []
  let buffer := applyKeystream (lib.keystream pvkHash nonceNum) (version ++ publicKeys ++ data)
  let signature ← Outcome.unwrap (generateSignature lib.toCurve
    (lib.keccak256 (nonceNum.bytes ++ buffer)) (keypair.getPublicView lib.toCurve)
    (lib.fromBytesModOrder (scalarBytes keypair.view)) (lib.draws seed))
  pure (magic ++ nonceNum.bytes ++ (buffer ++ signature))

structure DecryptUrData where
  pk1 : Option (Block 32)
  pk2 : Option (Block 32)
  data : List UInt8
  nonce : Block 8
  magic : List UInt8
  signature : List UInt8
  hash : Block 32

def magicFound : List UInt8 → List UInt8 → Result Bool
  | [], _ => pure true
  | _ :: _, [] => .halted
  | m :: magic, d :: data => if d ≠ m then pure false else magicFound magic data

def signatureStart (bytes : List UInt8) : Result Nat :=
  if bytes.length < 64 then .halted else pure (bytes.length - 64)

def slice (bytes : List UInt8) (start stop : Nat) : Result (List UInt8) :=
  if start ≤ stop ∧ stop ≤ bytes.length then pure ((bytes.take stop).drop start) else .halted

def publicKeyAt (present : Bool) (bytes : List UInt8) (start : Nat) : Result (Option (Block 32)) :=
  if present then do
    let key ← slice bytes start (start + 32)
    pure (some (Block.ofBytes 32 key))
  else pure none

def decryptDataWithDecryptKey (decryptKey pvk : Block 32) (data magic : List UInt8) :
    Result DecryptUrData := do
  let found ← magicFound magic data
  let data := if found then data.drop magic.length else data
  let nonceBytes ← slice data 0 8
  let nonce := Block.ofBytes 8 nonceBytes
  let rawEnd ← signatureStart data
  let rawData := data.take rawEnd
  let buffer := data.drop 8
  let start ← signatureStart buffer
  let signature := buffer.drop start
  let valid ← checkSignature lib.toCurve (lib.keccak256 rawData)
    (lib.compress (lib.mulBase (lib.fromBytesModOrder pvk))) signature
  if ¬valid then .error .decryptInvalidSignature
  else do
    let buffer := applyKeystream (lib.keystream decryptKey nonce) buffer
    let start := if magic = keyImageExportMagic then 4 else 0
    let pk1 ← publicKeyAt (HasPublicKeys magic) buffer start
    let pk2 ← publicKeyAt (HasPublicKeys magic) buffer (start + 32)
    let dataEnd ← signatureStart buffer
    let data ← slice buffer (start + if HasPublicKeys magic then 64 else 0) dataEnd
    pure { pk1, pk2, data, nonce, magic, signature, hash := lib.keccak256 rawData }

def decryptDataWithPvk (pvk : Block 32) (data magic : List UInt8) : Result DecryptUrData :=
  decryptDataWithDecryptKey lib (lib.cryptonightHashV0 pvk) pvk data magic

end

theorem length_applyKeystreamFrom (stream : Nat → UInt8) (bs : List UInt8) :
    ∀ i, (applyKeystreamFrom stream i bs).length = bs.length := by
  induction bs with
  | nil =>
    intro i
    rfl
  | cons b bs ih =>
    intro i
    exact congrArg Nat.succ (ih (i + 1))

theorem applyKeystreamFrom_append (stream : Nat → UInt8) (bs tail : List UInt8) :
    ∀ i, applyKeystreamFrom stream i (applyKeystreamFrom stream i bs ++ tail)
      = bs ++ applyKeystreamFrom stream (i + bs.length) tail := by
  induction bs with
  | nil =>
    intro i
    rfl
  | cons b bs ih =>
    intro i
    have hback : (b ^^^ stream i) ^^^ stream i = b := by
      rw [UInt8.xor_assoc, UInt8.xor_self, UInt8.xor_zero]
    rw [applyKeystreamFrom, List.cons_append, applyKeystreamFrom, hback, ih, List.length_cons,
      List.cons_append, Nat.add_right_comm, ← Nat.add_assoc]

section

variable {Point : Type} [AddCommGroup Point]

def Accepts (c : Curve Point) (hash pubkey : Block 32) (seckey k : Scalar) : Prop :=
  challenge c hash pubkey (c.mulBase k) ≠ 0
    ∧ c.sub k (challenge c hash pubkey (c.mulBase k) * seckey) ≠ 0

theorem signatureLoop_eq_some {c : Curve Point} {hash pubkey : Block 32} {seckey : Scalar}
    {draws : List Scalar} (h : ∃ k ∈ draws, Accepts c hash pubkey seckey k) :
    ∃ k ∈ draws, Accepts c hash pubkey seckey k ∧ signatureLoop c hash pubkey seckey draws
      = some (toLe 32 (challenge c hash pubkey (c.mulBase k))
        ++ toLe 32 (c.sub k (challenge c hash pubkey (c.mulBase k) * seckey))) := by
  induction draws with
  | nil =>
    obtain ⟨k, hk, -⟩ := h
    cases hk
  | cons first draws ih =>
    by_cases hfirst : Accepts c hash pubkey seckey first
    · refine ⟨first, .head _, hfirst, ?_⟩
      rw [signatureLoop, if_neg]
      rw [not_or]
      exact hfirst
    · obtain ⟨k, hk, haccepts⟩ := h
      rcases List.mem_cons.mp hk with rfl | hk
      · exact absurd haccepts hfirst
      obtain ⟨k', hk', haccepts', hloop⟩ := ih ⟨k, hk, haccepts⟩
      refine ⟨k', List.mem_cons_of_mem first hk', haccepts', ?_⟩
      rw [signatureLoop, if_pos]
      · exact hloop
      · unfold Accepts at hfirst
        tauto

theorem sub_add (c : Curve Point) (k b : Scalar) : c.sub k b • c.base + b • c.base = k • c.base := by
  have hb : b • c.base = (b % c.order) • c.base := (c.mod_base b).symm
  have hle : b % c.order ≤ c.order := Nat.le_of_lt (Nat.mod_lt b c.order_pos)
  rw [Curve.sub, c.mod_base, hb, ← add_nsmul, Nat.add_assoc, Nat.sub_add_cancel hle, add_nsmul,
    c.order_base, add_zero]

variable {lib : CryptLib Point} {keypair : KeyPair} {data magic : List UInt8}

def header (lib : CryptLib Point) (keypair : KeyPair) (magic : List UInt8) : List UInt8 :=
  (if magic = keyImageExportMagic then toLe 4 0 else [])
    ++ if HasPublicKeys magic then
        (keypair.getPublicSpend lib.toCurve).bytes ++ (keypair.getPublicView lib.toCurve).bytes
      else []

def sealedText (lib : CryptLib Point) (keypair : KeyPair) (data magic : List UInt8) : List UInt8 :=
  let nonce := toBeBytes (lib.nextU64 (lib.keccak256 data))
  nonce.bytes ++ applyKeystream
    (lib.keystream (lib.cryptonightHashV0 (scalarBytes keypair.view)) nonce)
    (header lib keypair magic ++ data)

/-- The generator that is seeded with the data draws a scalar that can be signed with, and
never zero. -/
structure Signs (lib : CryptLib Point) (keypair : KeyPair) (data magic : List UInt8) : Prop where
  ne_zero : ∀ k ∈ lib.draws (lib.keccak256 data), k ≠ 0
  accepts : ∃ k ∈ lib.draws (lib.keccak256 data),
    Accepts lib.toCurve (lib.keccak256 (sealedText lib keypair data magic))
      (keypair.getPublicView lib.toCurve) keypair.view k

theorem fromBytesModOrder_scalarBytes (hlib : lib.Lawful) {a : Scalar} (ha : a < lib.order) :
    lib.fromBytesModOrder (scalarBytes a) = a := by
  rw [Curve.fromBytesModOrder, scalarBytes,
    Bytes.ofLe_toLe 32 a (Nat.lt_of_lt_of_le ha hlib.order_le), Nat.mod_eq_of_lt ha]

theorem magicFound_append (magic tail : List UInt8) :
    magicFound magic (magic ++ tail) = .ok true := by
  induction magic with
  | nil => rfl
  | cons m magic ih =>
    rw [List.cons_append, magicFound, if_neg (not_not.mpr rfl)]
    exact ih

theorem slice_append {front part back : List UInt8} {start stop : Nat} (hstart : front.length = start)
    (hstop : start + part.length = stop) :
    slice (front ++ (part ++ back)) start stop = .ok part := by
  subst hstart
  subst hstop
  rw [slice, if_pos ⟨Nat.le_add_right _ _, by simp⟩, ← append_assoc,
    List.take_left' length_append, List.drop_left]
  rfl

theorem signatureStart_append {text sig : List UInt8} (h : sig.length = 64) :
    signatureStart (text ++ sig) = .ok text.length := by
  rw [signatureStart, if_neg (by rw [length_append]; omega), length_append, h,
    Nat.add_sub_cancel]
  rfl

theorem length_header (lib : CryptLib Point) (keypair : KeyPair) (magic : List UInt8) :
    (header lib keypair magic).length
      = (if magic = keyImageExportMagic then 4 else 0) + if HasPublicKeys magic then 64 else 0 := by
  rw [header, length_append]
  congr 1
  · split
    · exact Bytes.length_toLe 4 0
    · rfl
  · split
    · rw [length_append, Block.size_eq, Block.size_eq]
    · rfl

theorem publicKeyAt_header (lib : CryptLib Point) (keypair : KeyPair) (magic tail : List UInt8) :
    publicKeyAt (HasPublicKeys magic) (header lib keypair magic ++ tail)
        (if magic = keyImageExportMagic then 4 else 0)
      = .ok (if HasPublicKeys magic then some (keypair.getPublicSpend lib.toCurve) else none)
    ∧ publicKeyAt (HasPublicKeys magic) (header lib keypair magic ++ tail)
        ((if magic = keyImageExportMagic then 4 else 0) + 32)
      = .ok (if HasPublicKeys magic then some (keypair.getPublicView lib.toCurve) else none) := by
  by_cases hkeys : HasPublicKeys magic
  · have hversion : (if magic = keyImageExportMagic then toLe 4 0 else []).length
        = if magic = keyImageExportMagic then 4 else 0 := by
      split
      · exact Bytes.length_toLe 4 0
      · rfl
    generalize hfront : (if magic = keyImageExportMagic then toLe 4 0 else []) = front at hversion
    have hheader : header lib keypair magic = front
        ++ ((keypair.getPublicSpend lib.toCurve).bytes
          ++ (keypair.getPublicView lib.toCurve).bytes) := by
      rw [header, if_pos hkeys, hfront]
    rw [hheader]
    constructor
    · simp only [publicKeyAt, hkeys, decide_true, if_true, append_assoc]
      rw [slice_append hversion (by rw [Block.size_eq])]
      simp only [ok_bind, Block.ofBytes_bytes]
      rfl
    · simp only [publicKeyAt, hkeys, decide_true, if_true, append_assoc]
      rw [← append_assoc front, slice_append (by rw [length_append, hversion,
        Block.size_eq]) (by rw [Block.size_eq])]
      simp only [ok_bind, Block.ofBytes_bytes]
      rfl
  · simp [publicKeyAt, hkeys]

variable [DecidableEq Point]

theorem checkSignature_accepted {c : Curve Point} (horder : c.order ≤ 256 ^ 32) {hash : Block 32}
    {seckey k : Scalar} (hk : k < c.order) (hne : k ≠ 0)
    (haccepts : Accepts c hash (c.compress (c.mulBase seckey)) seckey k) :
    checkSignature c hash (c.compress (c.mulBase seckey))
      (toLe 32 (challenge c hash (c.compress (c.mulBase seckey)) (c.mulBase k))
        ++ toLe 32 (c.sub k (challenge c hash (c.compress (c.mulBase seckey)) (c.mulBase k)
          * seckey))) = .ok true := by
  obtain ⟨-, hr⟩ := haccepts
  generalize hedef : challenge c hash (c.compress (c.mulBase seckey)) (c.mulBase k) = e at *
  have he : e < c.order := by
    rw [← hedef]
    exact Nat.mod_lt _ c.order_pos
  have hrlt : c.sub k (e * seckey) < c.order := Nat.mod_lt _ c.order_pos
  have htake : ofLe ((toLe 32 e ++ toLe 32 (c.sub k (e * seckey))).take 32) = e := by
    rw [List.take_left' (Bytes.length_toLe 32 e), Bytes.ofLe_toLe 32 e (Nat.lt_of_lt_of_le he horder)]
  have hdrop : ofLe ((toLe 32 e ++ toLe 32 (c.sub k (e * seckey))).drop 32)
      = c.sub k (e * seckey) := by
    rw [List.drop_left' (Bytes.length_toLe 32 e),
      Bytes.ofLe_toLe 32 _ (Nat.lt_of_lt_of_le hrlt horder)]
  have hresult : e • c.mulBase seckey + c.sub k (e * seckey) • c.base = c.mulBase k := by
    rw [Curve.mulBase, ← mul_nsmul', add_comm, sub_add, Curve.mulBase]
  have hpoint : c.mulBase k ≠ 0 := by
    intro hzero
    refine hne (c.base_inj k hk 0 c.order_pos ?_)
    rw [zero_nsmul]
    exact hzero
  have hzero : c.sub e e = 0 := by
    rw [Curve.sub, Nat.mod_eq_of_lt he, Nat.add_sub_cancel' (Nat.le_of_lt he), Nat.mod_self]
  unfold checkSignature
  simp only [htake, hdrop, c.point_compress, ok_bind]
  rw [if_neg (by simp [he, hrlt, hr]), hresult, if_neg hpoint, hedef, hzero]
  rfl

omit [DecidableEq Point] in
theorem encryptDataWithPvk_of_accepts (hlib : lib.Lawful) (hview : keypair.view < lib.order)
    (haccepts : ∃ k ∈ lib.draws (lib.keccak256 data),
      Accepts lib.toCurve (lib.keccak256 (sealedText lib keypair data magic))
        (keypair.getPublicView lib.toCurve) keypair.view k) :
    ∃ k ∈ lib.draws (lib.keccak256 data),
      Accepts lib.toCurve (lib.keccak256 (sealedText lib keypair data magic))
        (keypair.getPublicView lib.toCurve) keypair.view k
      ∧ encryptDataWithPvk lib keypair data magic
        = .ok (magic ++ (sealedText lib keypair data magic
          ++ (toLe 32 (challenge lib.toCurve (lib.keccak256 (sealedText lib keypair data magic))
              (keypair.getPublicView lib.toCurve) (lib.mulBase k))
            ++ toLe 32 (lib.sub k (challenge lib.toCurve
              (lib.keccak256 (sealedText lib keypair data magic))
              (keypair.getPublicView lib.toCurve) (lib.mulBase k) * keypair.view))))) := by
  obtain ⟨k, hk, haccepted, hloop⟩ := signatureLoop_eq_some haccepts
  refine ⟨k, hk, haccepted, ?_⟩
  have hgenerate := hloop
  rw [← show generateSignature lib.toCurve (lib.keccak256 (sealedText lib keypair data magic))
    (keypair.getPublicView lib.toCurve) keypair.view (lib.draws (lib.keccak256 data)) = _ from
    if_neg (not_not.mpr rfl)] at hgenerate
  unfold encryptDataWithPvk
  dsimp only
  rw [fromBytesModOrder_scalarBytes hlib hview]
  unfold sealedText header at hgenerate ⊢
  dsimp only at hgenerate ⊢
  rw [hgenerate]
  simp only [Outcome.unwrap, ok_bind, pure_eq, append_assoc]

theorem encryptDataWithPvk_eq_ok (hlib : lib.Lawful) (hview : keypair.view < lib.order)
    (hsigns : Signs lib keypair data magic) : ∃ sig, sig.length = 64
      ∧ checkSignature lib.toCurve (lib.keccak256 (sealedText lib keypair data magic))
        (keypair.getPublicView lib.toCurve) sig = .ok true
      ∧ encryptDataWithPvk lib keypair data magic
        = .ok (magic ++ (sealedText lib keypair data magic ++ sig)) := by
  obtain ⟨k, hk, haccepts, hencrypt⟩ := encryptDataWithPvk_of_accepts hlib hview hsigns.accepts
  refine ⟨_, ?_, checkSignature_accepted hlib.order_le (hlib.draws_lt _ k hk)
    (hsigns.ne_zero k hk) haccepts, hencrypt⟩
  rw [length_append, Bytes.length_toLe, Bytes.length_toLe]

theorem decryptDataWithPvk_sealed (hlib : lib.Lawful) (hview : keypair.view < lib.order)
    {sig : List UInt8} (hlength : sig.length = 64)
    (hvalid : checkSignature lib.toCurve (lib.keccak256 (sealedText lib keypair data magic))
      (keypair.getPublicView lib.toCurve) sig = .ok true) :
    decryptDataWithPvk lib (scalarBytes keypair.view)
        (magic ++ (sealedText lib keypair data magic ++ sig)) magic
      = .ok {
        pk1 := if HasPublicKeys magic then some (keypair.getPublicSpend lib.toCurve) else none
        pk2 := if HasPublicKeys magic then some (keypair.getPublicView lib.toCurve) else none
        data
        nonce := toBeBytes (lib.nextU64 (lib.keccak256 data))
        magic
        signature := sig
        hash := lib.keccak256 (sealedText lib keypair data magic) } := by
  generalize hnonce : toBeBytes (lib.nextU64 (lib.keccak256 data)) = nonce
  generalize hstream : lib.keystream (lib.cryptonightHashV0 (scalarBytes keypair.view)) nonce = stream
  have hsealed : sealedText lib keypair data magic
      = nonce.bytes ++ applyKeystream stream (header lib keypair magic ++ data) := by
    rw [sealedText, hnonce, hstream]
  generalize hcipher : applyKeystream stream (header lib keypair magic ++ data) = cipher at hsealed
  generalize hall : sealedText lib keypair data magic = all at hsealed hvalid
  -- the text, and the signature under the cipher
  obtain ⟨noise, hnoise, hplain⟩ : ∃ noise : List UInt8, noise.length = 64
      ∧ applyKeystream stream (cipher ++ sig) = header lib keypair magic ++ (data ++ noise) := by
    refine ⟨applyKeystreamFrom stream (0 + (header lib keypair magic ++ data).length) sig, ?_, ?_⟩
    · rw [length_applyKeystreamFrom, hlength]
    · rw [← hcipher, applyKeystream, applyKeystream, applyKeystreamFrom_append, append_assoc]
  have hbytes : all ++ sig = [] ++ (nonce.bytes ++ (cipher ++ sig)) := by
    rw [hsealed, append_assoc]
    rfl
  have hnonce8 : slice (all ++ sig) 0 8 = .ok nonce.bytes := by
    rw [hbytes]
    exact slice_append rfl (by rw [Block.size_eq])
  have hdrop : (all ++ sig).drop 8 = cipher ++ sig := by
    rw [hbytes, List.nil_append]
    exact List.drop_left' nonce.size_eq
  have hkeys := publicKeyAt_header lib keypair magic (data ++ noise)
  have hend : signatureStart (header lib keypair magic ++ (data ++ noise))
      = .ok ((header lib keypair magic).length + data.length) := by
    rw [← append_assoc, signatureStart_append hnoise, length_append]
  have hdata : slice (header lib keypair magic ++ (data ++ noise))
      ((if magic = keyImageExportMagic then 4 else 0) + if HasPublicKeys magic then 64 else 0)
      ((header lib keypair magic).length + data.length) = .ok data := by
    rw [length_header]
    exact slice_append (length_header lib keypair magic) rfl
  rw [decryptDataWithPvk, decryptDataWithDecryptKey, magicFound_append]
  simp only [ok_bind, if_true, List.drop_left, hnonce8, signatureStart_append hlength,
    List.take_left, hdrop, Block.ofBytes_bytes, fromBytesModOrder_scalarBytes hlib hview]
  rw [show checkSignature lib.toCurve (lib.keccak256 all)
    (lib.compress (lib.mulBase keypair.view)) sig = .ok true from hvalid]
  simp only [ok_bind, not_true_eq_false, if_false, hstream, hplain, hkeys.1, hkeys.2, hend,
    hdata, pure_eq]

/-- **What is encrypted is decrypted with the view key**, and the keys of the sender come out
of what is exported. -/
theorem decrypt_encryptDataWithPvk (lib : CryptLib Point) (hlib : lib.Lawful) (keypair : KeyPair)
    (hview : keypair.view < lib.order) (data magic : List UInt8)
    (hsigns : Signs lib keypair data magic) : ∃ bytes result,
      encryptDataWithPvk lib keypair data magic = .ok bytes
        ∧ decryptDataWithPvk lib (scalarBytes keypair.view) bytes magic = .ok result
        ∧ result.data = data
        ∧ result.pk1 = (if HasPublicKeys magic then some (keypair.getPublicSpend lib.toCurve) else none)
        ∧ result.pk2
          = if HasPublicKeys magic then some (keypair.getPublicView lib.toCurve) else none := by
  obtain ⟨sig, hlength, hvalid, hencrypt⟩ := encryptDataWithPvk_eq_ok hlib hview hsigns
  exact ⟨_, _, hencrypt, decryptDataWithPvk_sealed hlib hview hlength hvalid, rfl, rfl, rfl⟩

end

def smallLib : CryptLib (ZMod 13) where
  toCurve := smallCurve.toCurve
  cryptonightHashV0 b := b
  keystream _ _ i := UInt8.ofNat i
  nextU64 _ := 5
  draws _ := [1, 2, 3]

set_option maxRecDepth 16384 in
theorem decrypt_encrypt_small : ∃ bytes result,
    encryptDataWithPvk smallLib smallWallet [1, 2, 3] keyImageExportMagic = .ok bytes
      ∧ decryptDataWithPvk smallLib (scalarBytes smallWallet.view) bytes keyImageExportMagic
        = .ok result
      ∧ result.data = [1, 2, 3]
      ∧ result.pk1 = some (smallWallet.getPublicSpend smallLib.toCurve)
      ∧ result.pk2 = some (smallWallet.getPublicView smallLib.toCurve) := by
  have hlib : smallLib.Lawful := ⟨by decide, fun _ => show ∀ k ∈ ([1, 2, 3] : List Nat), k < 13 by decide⟩
  have hsigns : Signs smallLib smallWallet [1, 2, 3] keyImageExportMagic :=
    ⟨by decide, ⟨1, by decide, by unfold Accepts; decide⟩⟩
  exact decrypt_encryptDataWithPvk smallLib hlib smallWallet (by decide) [1, 2, 3]
    keyImageExportMagic hsigns

end Keystone3.Monero
