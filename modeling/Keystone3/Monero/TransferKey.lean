import Mathlib.Data.ZMod.Basic
import Keystone3.Monero.Curve

/-!
# The keys of a transaction

The secret an output is made with (`ecdhs`) and what is published (`extraFields`) are
computed by functions with conditions of their own. `ecdhs_detectable` says when the
recipient of every output finds its secret from what is published, and that a payment
which does not fit is lost.
-/

namespace Keystone3.Monero

open Bytes (Block)
open Logic (Outcome)
open Logic.Outcome (bind_eq_ok collect)

structure CtKey where
  dest : Block 32
  mask : Block 32
deriving DecidableEq

structure OutputEntry where
  index : UInt64
  key : CtKey
deriving DecidableEq

structure AccountPublicAddress where
  spendPublicKey : Block 32
  viewPublicKey : Block 32
deriving DecidableEq

structure TxDestinationEntry where
  original : List Char
  amount : UInt64
  addr : AccountPublicAddress
  isSubaddress : Bool
  isIntegrated : Bool
deriving DecidableEq

structure TxSourceEntry where
  outputs : List OutputEntry
  realOutput : UInt64
  realOutTxKey : Block 32
  realOutAdditionalTxKeys : List (Block 32)
  realOutputInTxIndex : UInt64
  amount : UInt64
  mask : Block 32
deriving DecidableEq

inductive RctType where
  | null
  | full
  | simple
  | bulletproof
  | bulletproof2
  | clsag
  | bulletproofPlus

/-- What a transaction is made from, less what is only handed back. -/
structure TxConstructionData where
  sources : List TxSourceEntry
  changeDts : TxDestinationEntry
  splittedDsts : List TxDestinationEntry
  extra : List UInt8
  unlockTime : UInt64
  bpVersion : RctType
  subaddrAccount : UInt32
  subaddrIndices : List UInt32

structure SharedKeyDerivations where
  sharedKey : Scalar
  viewTag : UInt8
  commitmentMask : Scalar

/-- The curve, the generator of secrets and what is derived from a shared secret. -/
structure Crypto (Point : Type) [AddCommGroup Point] extends Curve Point where
  /-- The scalars that a generator with this seed gives, one after the other. -/
  randomScalar : Block 32 → Nat → Scalar
  paymentIdXor : Point → Block 8
  outputDerivations : Point → Nat → SharedKeyDerivations

/-- A field of `extra`, less those that are never written. -/
inductive ExtraField (Point : Type) where
  | publicKey (key : Point)
  | nonce (bytes : List UInt8)
  | publicKeys (keys : List Point)

/-- The keys of a transaction: the secret ones and the published ones. -/
structure TransactionKeys (Point : Type) where
  txKey : Scalar
  additionalKeys : List Scalar
  txKeyPub : Point
  additionalKeysPub : List Point

namespace TxConstructionData

variable {Point : Type} [AddCommGroup Point] (c : Crypto Point) (tx : TxConstructionData)

def shouldUseAdditionalKeys : Bool :=
  tx.sources.any fun source => decide (source.realOutAdditionalTxKeys.length > 0)

def hasPaymentsToSubaddresses : Bool := tx.splittedDsts.any (·.isSubaddress)

def firstSubaddress : Result TxDestinationEntry :=
  match tx.splittedDsts.find? (·.isSubaddress) with
  | some dest => .ok dest
  | none => .halted

def additionalKeyPub (additionalKey : Scalar) (dest : TxDestinationEntry) : Result Point :=
  if dest.isSubaddress then do
    let spend ← c.point dest.addr.spendPublicKey
    pure (additionalKey • spend)
  else pure (c.mulBase additionalKey)

def transactionKeys : Result (TransactionKeys Point) :=
  let seed := c.keccak256 tx.extra
  let txKey := c.randomScalar seed 0
  let additionalKeys := if tx.shouldUseAdditionalKeys then
      (List.range tx.splittedDsts.length).map fun i => c.randomScalar seed (i + 1)
    else []
  if tx.hasPaymentsToSubaddresses && !tx.shouldUseAdditionalKeys then do
    let dest ← tx.firstSubaddress
    let spend ← c.point dest.addr.spendPublicKey
    pure ⟨txKey, additionalKeys, txKey • spend, []⟩
  else if tx.shouldUseAdditionalKeys then do
    let additionalKeysPub ← collect (fun (key, dest) => additionalKeyPub c key dest)
      (additionalKeys.zip tx.splittedDsts)
    pure ⟨txKey, additionalKeys, c.mulBase txKey, additionalKeysPub⟩
  else pure ⟨txKey, additionalKeys, c.mulBase txKey, []⟩

def isChangeDest (dest : TxDestinationEntry) : Bool := dest = tx.changeDts

def ecdh (keypair : KeyPair) (keys : TransactionKeys Point) (dest : TxDestinationEntry) (i : Nat) :
    Result Point :=
  let keyToUse := if dest.isSubaddress then keys.additionalKeys[i]?.getD keys.txKey
    else keys.txKey
  if tx.isChangeDest dest then pure (keypair.view • keys.txKeyPub)
  else do
    let view ← c.point dest.addr.viewPublicKey
    pure (keyToUse • view)

def ecdhs (keypair : KeyPair) : Result (List Point) := do
  let keys ← tx.transactionKeys c
  collect (fun (dest, i) => tx.ecdh c keypair keys dest i) tx.splittedDsts.zipIdx

def paymentIdXors (keypair : KeyPair) : Result (List (Block 8)) := do
  let secrets ← tx.ecdhs c keypair
  pure (secrets.map c.paymentIdXor)

/-- `extra`, as a list of fields. -/
def extraFields (keypair : KeyPair) : Result (List (ExtraField Point)) := do
  let keys ← tx.transactionKeys c
  let paymentIdXors ← tx.paymentIdXors c keypair
  let fields := .publicKey keys.txKeyPub
    :: if keys.additionalKeysPub.isEmpty then [] else [.publicKeys keys.additionalKeysPub]
  if tx.splittedDsts.length = 2 then
    match (tx.splittedDsts.zip paymentIdXors).find? fun (dest, _) => tx.isChangeDest dest with
    | some (_, paymentIdXor) => pure (fields ++ [.nonce (1 :: paymentIdXor.bytes)])
    | none => .halted
  else pure fields

def sharedKeyDerivations (keypair : KeyPair) : Result (List SharedKeyDerivations) := do
  let secrets ← tx.ecdhs c keypair
  pure (secrets.zipIdx.map fun (secret, i) => c.outputDerivations secret i)

end TxConstructionData

section

variable {Point : Type} [AddCommGroup Point] (c : Crypto Point)

def TxDestinationEntry.target (dest : TxDestinationEntry) : Option Point :=
  if dest.isSubaddress then c.decompress dest.addr.spendPublicKey else some c.base

def IsViewKey (a : Scalar) (dest : TxDestinationEntry) : Prop :=
  ∃ target, dest.target c = some target ∧ c.decompress dest.addr.viewPublicKey = some (a • target)

def ExtraField.keysFor (i : Nat) : ExtraField Point → List Point
  | .publicKey key => [key]
  | .nonce _ => []
  | .publicKeys keys => keys[i]?.toList

/-- The secret view key and a published key make the secret. -/
def Detectable (fields : List (ExtraField Point)) (a : Scalar) (i : Nat) (secret : Point) : Prop :=
  ∃ field ∈ fields, ∃ key ∈ field.keysFor i, secret = a • key

/-- The point that the transaction key is a multiple of: the spend key of the first subaddress, or
the base point. -/
def TxConstructionData.keyBase (tx : TxConstructionData) : Option Point :=
  if tx.hasPaymentsToSubaddresses && !tx.shouldUseAdditionalKeys then
    (tx.splittedDsts.find? (·.isSubaddress)).bind fun dest => c.decompress dest.addr.spendPublicKey
  else some c.base

/-- Every output fits what is published: change goes to the wallet, and a payment has a key of its
own, or the transaction key is a multiple of the point that its view key is. -/
structure TxConstructionData.Suits (tx : TxConstructionData) (keypair : KeyPair)
    (a : Nat → Scalar) : Prop where
  change : ∀ (i : Nat) (dest : TxDestinationEntry), tx.splittedDsts[i]? = some dest →
    tx.isChangeDest dest = true → a i = keypair.view
  payment : tx.shouldUseAdditionalKeys = true
    ∨ ∀ dest ∈ tx.splittedDsts, tx.isChangeDest dest = false → dest.target c = tx.keyBase c

namespace TxConstructionData

variable {c} {tx : TxConstructionData} {keypair : KeyPair}

variable {keys : TransactionKeys Point}

theorem transactionKeys_spec (h : tx.transactionKeys c = .ok keys) :
    (∃ point, tx.keyBase c = some point ∧ keys.txKeyPub = keys.txKey • point)
      ∧ (tx.shouldUseAdditionalKeys = false → keys.additionalKeys = []
        ∧ keys.additionalKeysPub = [])
      ∧ (tx.shouldUseAdditionalKeys = true → tx.keyBase c = some c.base
        ∧ ∀ (i : Nat) (dest : TxDestinationEntry), tx.splittedDsts[i]? = some dest →
          ∃ key target, keys.additionalKeys[i]? = some key ∧ (dest.target c = some target)
            ∧ keys.additionalKeysPub[i]? = some (key • target)) := by
  unfold transactionKeys at h
  dsimp only at h
  cases hadditional : tx.shouldUseAdditionalKeys with
  | false =>
    rw [hadditional] at h
    cases hsub : tx.hasPaymentsToSubaddresses with
    | true =>
      rw [hsub, Bool.not_false, Bool.and_self, if_pos rfl, if_neg Bool.false_ne_true] at h
      obtain ⟨dest, hdest, h⟩ := bind_eq_ok.mp h
      obtain ⟨spend, hspend, h⟩ := bind_eq_ok.mp h
      have hfind : tx.splittedDsts.find? (·.isSubaddress) = some dest := by
        unfold firstSubaddress at hdest
        split at hdest
        · rename_i hfound
          cases hdest
          exact hfound
        · cases hdest
      cases h
      refine ⟨⟨spend, ?_, rfl⟩, fun _ => ⟨rfl, rfl⟩, fun htrue => absurd htrue Bool.false_ne_true⟩
      rw [keyBase, hadditional, hsub, hfind]
      exact (c.point_eq_ok).mp hspend
    | false =>
      rw [hsub, Bool.false_and, if_neg Bool.false_ne_true, if_neg Bool.false_ne_true] at h
      cases h
      refine ⟨⟨c.base, ?_, rfl⟩, fun _ => ⟨rfl, rfl⟩, fun htrue => absurd htrue Bool.false_ne_true⟩
      rw [keyBase, hsub]
      rfl
  | true =>
    have hbase : tx.keyBase c = some c.base := by
      rw [keyBase, hadditional, Bool.not_true, Bool.and_false]
      rfl
    rw [hadditional, Bool.not_true, Bool.and_false, if_neg Bool.false_ne_true, if_pos rfl] at h
    obtain ⟨pubs, hpubs, h⟩ := bind_eq_ok.mp h
    cases h
    refine ⟨⟨c.base, hbase, rfl⟩, fun hfalse => absurd hfalse.symm Bool.false_ne_true,
      fun _ => ⟨hbase, ?_⟩⟩
    intro i dest hdest
    have hi : i < tx.splittedDsts.length := (List.getElem?_eq_some_iff.mp hdest).1
    have hkey : ((List.range tx.splittedDsts.length).map
        fun i => c.randomScalar (c.keccak256 tx.extra) (i + 1))[i]?
          = some (c.randomScalar (c.keccak256 tx.extra) (i + 1)) := by
      rw [List.getElem?_map, List.getElem?_range hi]
      rfl
    have hzip : (((List.range tx.splittedDsts.length).map
        fun i => c.randomScalar (c.keccak256 tx.extra) (i + 1)).zip tx.splittedDsts)[i]?
          = some (c.randomScalar (c.keccak256 tx.extra) (i + 1), dest) := by
      rw [List.getElem?_zip_eq_some]
      exact ⟨hkey, hdest⟩
    obtain ⟨pub, hpub, hmade⟩ := Outcome.collect_getElem? hpubs hzip
    have hmade : additionalKeyPub c (c.randomScalar (c.keccak256 tx.extra) (i + 1)) dest
      = .ok pub := hmade
    unfold additionalKeyPub at hmade
    split at hmade
    · rename_i hsub
      obtain ⟨spend, hspend, hmade⟩ := bind_eq_ok.mp hmade
      cases hmade
      refine ⟨_, spend, hkey, ?_, hpub⟩
      rw [TxDestinationEntry.target, if_pos hsub]
      exact (c.point_eq_ok).mp hspend
    · rename_i hsub
      cases hmade
      refine ⟨_, c.base, hkey, ?_, hpub⟩
      rw [TxDestinationEntry.target, if_neg hsub]

variable {fields : List (ExtraField Point)}

theorem extraFields_keys
    (h : tx.extraFields c keypair = .ok fields) :
    ∃ keys, tx.transactionKeys c = .ok keys
      ∧ ∀ i key, (∃ field ∈ fields, key ∈ field.keysFor i)
        ↔ key = keys.txKeyPub ∨ keys.additionalKeysPub[i]? = some key := by
  obtain ⟨keys, hkeys, h⟩ := bind_eq_ok.mp h
  obtain ⟨xors, -, h⟩ := bind_eq_ok.mp h
  refine ⟨keys, hkeys, ?_⟩
  intro i key
  have hplain : (∃ field ∈ (.publicKey keys.txKeyPub :: if keys.additionalKeysPub.isEmpty then []
      else [.publicKeys keys.additionalKeysPub] : List (ExtraField Point)), key ∈ field.keysFor i)
      ↔ key = keys.txKeyPub ∨ keys.additionalKeysPub[i]? = some key := by
    cases hempty : keys.additionalKeysPub with
    | nil => simp [ExtraField.keysFor]
    | cons pub pubs =>
      simp [ExtraField.keysFor]
  dsimp only at h
  split at h
  · split at h
    · cases h
      rw [← hplain]
      simp [ExtraField.keysFor, or_and_right, exists_or]
    · cases h
  · cases h
    exact hplain

theorem ecdhs_getElem? {secrets : List Point}
    (hkeys : tx.transactionKeys c = .ok keys) (h : tx.ecdhs c keypair = .ok secrets) {i : Nat}
    {dest : TxDestinationEntry} (hdest : tx.splittedDsts[i]? = some dest) {secret : Point}
    (hsecret : secrets[i]? = some secret) : tx.ecdh c keypair keys dest i = .ok secret := by
  obtain ⟨keys', hkeys', h⟩ := bind_eq_ok.mp h
  rw [hkeys] at hkeys'
  cases hkeys'
  have hzip : tx.splittedDsts.zipIdx[i]? = some (dest, i) := by
    rw [List.getElem?_zipIdx, hdest, Nat.zero_add]
    rfl
  obtain ⟨secret', hsecret', hmade⟩ := Outcome.collect_getElem? h hzip
  rw [hsecret] at hsecret'
  cases hsecret'
  exact hmade

theorem ecdh_payment {dest : TxDestinationEntry} {i : Nat}
    {secret : Point} (h : tx.ecdh c keypair keys dest i = .ok secret)
    (hpayment : tx.isChangeDest dest = false) {a : Scalar} (hview : IsViewKey c a dest) :
    ∃ target, dest.target c = some target
      ∧ secret = (if dest.isSubaddress then keys.additionalKeys[i]?.getD keys.txKey
        else keys.txKey) • a • target := by
  obtain ⟨target, htarget, hview⟩ := hview
  unfold ecdh at h
  rw [hpayment] at h
  obtain ⟨view, hread, h⟩ := bind_eq_ok.mp h
  rw [c.point_eq_ok, hview] at hread
  cases hread
  cases h
  exact ⟨target, htarget, rfl⟩

theorem detectable_iff
    (hextra : tx.extraFields c keypair = .ok fields) (hkeys : tx.transactionKeys c = .ok keys)
    (hfew : tx.shouldUseAdditionalKeys = false) {a : Scalar} {i : Nat} {secret : Point} :
    Detectable fields a i secret ↔ secret = a • keys.txKeyPub := by
  obtain ⟨keys', hkeys', hpublished⟩ := extraFields_keys hextra
  rw [hkeys] at hkeys'
  cases hkeys'
  obtain ⟨-, hnone, -⟩ := transactionKeys_spec hkeys
  constructor
  · intro h
    obtain ⟨field, hfield, key, hkey, rfl⟩ := h
    rcases (hpublished i key).mp ⟨field, hfield, hkey⟩ with rfl | hkey
    · rfl
    · rw [(hnone hfew).2] at hkey
      cases hkey
  · intro h
    obtain ⟨field, hfield, hkey⟩ := (hpublished i _).mpr (.inl rfl)
    exact ⟨field, hfield, _, hkey, h⟩

theorem detectable_payment {secrets : List Point}
    (hextra : tx.extraFields c keypair = .ok fields) (hecdhs : tx.ecdhs c keypair = .ok secrets)
    (hfew : tx.shouldUseAdditionalKeys = false) {i : Nat} {dest : TxDestinationEntry}
    (hdest : tx.splittedDsts[i]? = some dest) (hpayment : tx.isChangeDest dest = false)
    {a : Scalar} (hview : IsViewKey c a dest) {secret : Point}
    (hsecret : secrets[i]? = some secret) :
    ∃ txKey target point, dest.target c = some target ∧ tx.keyBase c = some point
      ∧ tx.transactionKeys c = .ok ⟨txKey, [], txKey • point, []⟩
      ∧ (Detectable fields a i secret ↔ (a * txKey) • target = (a * txKey) • point) := by
  obtain ⟨keys, hkeys, -⟩ := extraFields_keys hextra
  obtain ⟨⟨point, hpoint, hpub⟩, hnone, -⟩ := transactionKeys_spec hkeys
  obtain ⟨hadditional, hadditionalPub⟩ := hnone hfew
  obtain ⟨target, htarget, hmade⟩ := ecdh_payment (ecdhs_getElem? hkeys hecdhs hdest hsecret)
    hpayment hview
  rw [hadditional, List.getElem?_nil, Option.getD_none, ite_self] at hmade
  refine ⟨keys.txKey, target, point, htarget, hpoint, ?_, ?_⟩
  · rw [hkeys, ← hpub, ← hadditional, ← hadditionalPub]
  · rw [detectable_iff hextra hkeys hfew, hmade, hpub, Curve.mul_comm, mul_nsmul', mul_nsmul']

/-- **When every output is found.** If what is published suits the outputs, the recipient of each
makes its secret from it. Without keys for the outputs it is also so only then: a payment that is
found is one that the transaction key fits, unless multiples of different points coincide, and
change that is found is the wallet's, as far as multiples of the transaction key tell. -/
theorem ecdhs_detectable (c : Crypto Point) {tx : TxConstructionData} {keypair : KeyPair}
    {fields : List (ExtraField Point)} {secrets : List Point}
    (hextra : tx.extraFields c keypair = .ok fields) (hecdhs : tx.ecdhs c keypair = .ok secrets)
    {a : Nat → Scalar} (hview : ∀ (i : Nat) (dest : TxDestinationEntry),
      tx.splittedDsts[i]? = some dest → IsViewKey c (a i) dest) :
    (tx.Suits c keypair a → ∀ (i : Nat) (secret : Point), secrets[i]? = some secret →
      Detectable fields (a i) i secret)
    ∧ ∀ (i : Nat) (dest : TxDestinationEntry) (secret : Point),
      tx.shouldUseAdditionalKeys = false → tx.splittedDsts[i]? = some dest →
      secrets[i]? = some secret →
      (∀ keys, tx.transactionKeys c = .ok keys → ∀ p q : Point,
        (a i * keys.txKey) • p = (a i * keys.txKey) • q → p = q) →
      Detectable fields (a i) i secret →
      if tx.isChangeDest dest then ∃ keys, tx.transactionKeys c = .ok keys
          ∧ keypair.view • keys.txKeyPub = a i • keys.txKeyPub
      else dest.target c = tx.keyBase c := by
  constructor
  · intro hsuits i secret hsecret
    obtain ⟨keys, hkeys, hpublished⟩ := extraFields_keys hextra
    obtain ⟨⟨point, hpoint, hpub⟩, hnone, hsome⟩ := transactionKeys_spec hkeys
    have hlength : i < tx.splittedDsts.length := by
      obtain ⟨keys', -, hcollect⟩ := bind_eq_ok.mp hecdhs
      have hsame := (Outcome.collect_eq_ok.mp hcollect).length_eq
      rw [List.length_zipIdx] at hsame
      rw [hsame]
      exact (List.getElem?_eq_some_iff.mp hsecret).1
    obtain ⟨dest, hdest⟩ : ∃ dest, tx.splittedDsts[i]? = some dest :=
      ⟨_, List.getElem?_eq_getElem hlength⟩
    have hmade := ecdhs_getElem? hkeys hecdhs hdest hsecret
    -- the transaction key and the output's own are both published
    have htxKey : ∀ key, secret = a i • key → key = keys.txKeyPub
        ∨ keys.additionalKeysPub[i]? = some key → Detectable fields (a i) i secret := by
      intro key hkey hfrom
      obtain ⟨field, hfield, hmem⟩ := (hpublished i key).mpr hfrom
      exact ⟨field, hfield, key, hmem, hkey⟩
    cases hchange : tx.isChangeDest dest with
    | true =>
      unfold ecdh at hmade
      rw [hchange] at hmade
      cases hmade
      refine htxKey keys.txKeyPub ?_ (.inl rfl)
      rw [hsuits.change i dest hdest hchange]
    | false =>
      obtain ⟨target, htarget, hmade⟩ := ecdh_payment hmade hchange (hview i dest hdest)
      cases hadditional : tx.shouldUseAdditionalKeys with
      | true =>
        obtain ⟨hbase, hown⟩ := hsome hadditional
        cases hsub : dest.isSubaddress with
        | true =>
          obtain ⟨key, target', hkey, htarget', hkeyPub⟩ := hown i dest hdest
          rw [htarget] at htarget'
          cases htarget'
          rw [hsub, if_pos rfl, hkey, Option.getD_some, Curve.mul_comm] at hmade
          exact htxKey _ hmade (.inr hkeyPub)
        | false =>
          rw [hsub, if_neg Bool.false_ne_true, Curve.mul_comm] at hmade
          have hsame : target = point := by
            rw [TxDestinationEntry.target, hsub, if_neg Bool.false_ne_true] at htarget
            rw [hbase] at hpoint
            exact (Option.some.inj htarget).symm.trans (Option.some.inj hpoint)
          rw [hsame, ← hpub] at hmade
          exact htxKey _ hmade (.inl rfl)
      | false =>
        have hfit := hsuits.payment.resolve_left (by rw [hadditional]; exact Bool.false_ne_true) dest
          (List.mem_of_getElem? hdest) hchange
        rw [htarget, hpoint] at hfit
        cases hfit
        rw [(hnone hadditional).1, List.getElem?_nil, Option.getD_none, ite_self, Curve.mul_comm,
          ← hpub] at hmade
        exact htxKey _ hmade (.inl rfl)
  · intro i dest secret hfew hdest hsecret hcancel hfound
    cases hchange : tx.isChangeDest dest with
    | true =>
      obtain ⟨keys, hkeys, -⟩ := extraFields_keys hextra
      have hmade := ecdhs_getElem? hkeys hecdhs hdest hsecret
      unfold ecdh at hmade
      rw [hchange] at hmade
      cases hmade
      exact ⟨keys, hkeys, (detectable_iff hextra hkeys hfew).mp hfound⟩
    | false =>
      obtain ⟨txKey, target, point, htarget, hpoint, hkeys, hiff⟩ := detectable_payment hextra
        hecdhs hfew hdest hchange (hview i dest hdest) hsecret
      rw [if_neg Bool.false_ne_true, htarget, hpoint, hcancel _ hkeys _ _ (hiff.mp hfound)]

end TxConstructionData

end

def smallCurve : Crypto (ZMod 13) where
  base := 1
  order := 13
  order_pos := Nat.succ_pos 12
  order_base := rfl
  base_inj := by decide
  compress p := Block.ofBytes 32 [UInt8.ofNat p.val]
  decompress b := some ((b.bytes.headD 0).toNat : ZMod 13)
  decompress_compress := by decide
  hashToPoint b := ((b.bytes.headD 0).toNat + 1 : ZMod 13)
  keccak256 data := Block.ofBytes 32 data
  randomScalar _ n := n + 2
  paymentIdXor p := Block.ofBytes 8 [UInt8.ofNat p.val]
  outputDerivations p n := ⟨p.val + n, UInt8.ofNat p.val, p.val⟩

def smallDest (spend view : UInt8) (isSubaddress : Bool) : TxDestinationEntry :=
  ⟨[], 1, ⟨Block.ofBytes 32 [spend], Block.ofBytes 32 [view]⟩, isSubaddress, false⟩

def smallTx (change : TxDestinationEntry) : TxConstructionData where
  sources := []
  changeDts := change
  splittedDsts := [smallDest 5 3 false, change]
  extra := []
  unlockTime := 0
  bpVersion := .null
  subaddrAccount := 0
  subaddrIndices := [0]

def smallWallet : KeyPair := ⟨2, 4⟩

def smallViews (i : Nat) : Scalar := if i = 0 then 3 else 2

theorem isViewKey_smallViews (change : TxDestinationEntry)
    (hchange : IsViewKey smallCurve 2 change) :
    ∀ (i : Nat) (dest : TxDestinationEntry), (smallTx change).splittedDsts[i]? = some dest →
      IsViewKey smallCurve (smallViews i) dest := by
  intro i dest hdest
  rcases i with _ | _ | i
  · cases hdest
    exact ⟨1, rfl, by decide⟩
  · cases hdest
    exact hchange
  · cases hdest

/-- With change at a standard address, the payment and the change are found. -/
theorem ecdhs_detectable_small : ∃ fields secrets,
    (smallTx (smallDest 4 2 false)).extraFields smallCurve smallWallet = .ok fields
      ∧ (smallTx (smallDest 4 2 false)).ecdhs smallCurve smallWallet = .ok secrets
      ∧ ∀ (i : Nat) (secret : ZMod 13), secrets[i]? = some secret →
        Detectable fields (smallViews i) i secret := by
  refine ⟨_, _, rfl, rfl, ?_⟩
  have hview := isViewKey_smallViews (smallDest 4 2 false) ⟨1, rfl, by decide⟩
  refine (@TxConstructionData.ecdhs_detectable _ _ smallCurve (smallTx (smallDest 4 2 false))
    smallWallet _ _ rfl rfl _ hview).1 ⟨?_, ?_⟩
  · intro i dest hdest hchange
    rcases i with _ | _ | i
    · cases hdest
      cases hchange
    · rfl
    · cases hdest
  · refine .inr ?_
    intro dest hdest _
    rcases List.mem_cons.mp hdest with rfl | hdest
    · rfl
    · rw [List.mem_singleton.mp hdest]
      rfl

/-- **A payment that nobody finds**: with change at a subaddress of the wallet, the transaction key
is a multiple of that subaddress's key, and the payment to a standard address is lost. -/
theorem ecdhs_not_detectable : ¬∀ (c : Crypto (ZMod 13)) (tx : TxConstructionData)
    (keypair : KeyPair) (fields : List (ExtraField (ZMod 13))) (secrets : List (ZMod 13))
    (a : Nat → Scalar), tx.extraFields c keypair = .ok fields → tx.ecdhs c keypair = .ok secrets →
    (∀ (i : Nat) (dest : TxDestinationEntry), tx.splittedDsts[i]? = some dest →
      IsViewKey c (a i) dest) →
    (∀ (i : Nat) (dest : TxDestinationEntry), tx.splittedDsts[i]? = some dest →
      tx.isChangeDest dest = true → a i = keypair.view) →
    ∀ (i : Nat) (secret : ZMod 13), secrets[i]? = some secret →
      Detectable fields (a i) i secret := by
  intro claim
  have hfound := claim smallCurve (smallTx (smallDest 7 1 true)) smallWallet _ _ smallViews rfl rfl
    (isViewKey_smallViews _ ⟨7, rfl, by decide⟩) (by
      intro i dest hdest hchange
      rcases i with _ | _ | i
      · cases hdest
        cases hchange
      · rfl
      · cases hdest) 0 6 rfl
  have hkeys : (smallTx (smallDest 7 1 true)).transactionKeys smallCurve = .ok ⟨2, [], 1, []⟩ := rfl
  have hsecret := (TxConstructionData.detectable_iff rfl hkeys rfl).mp hfound
  cases hsecret

end Keystone3.Monero
