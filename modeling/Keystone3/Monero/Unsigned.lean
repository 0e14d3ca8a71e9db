import Keystone3.Monero.Display
import Keystone3.Monero.Transfer

/-!
# The transaction before it is signed

A transaction is built anew from the fields of the request. `meets_iff` says for
which requests it is the one that has been asked for: the inputs, the outputs and
the amounts always are, and the fee unless it wraps, but the time lock and the
payment id of the request are dropped.
-/

namespace Keystone3.Monero

open Bytes (Block)
open Logic (Outcome)
open Logic.Outcome (bind_eq_ok collect collect_getElem? exists_of_isOk)

/-- Commitments, the encryption of amounts and proofs that they are small. -/
structure TxCrypto (Point : Type) [AddCommGroup Point] extends Crypto Point where
  /-- The point that an amount is a multiple of in a commitment. -/
  amountBase : Point
  compactAmountEncryption : SharedKeyDerivations → UInt64 → Block 8
  /-- `Bulletproof::prove_plus`, or `prove`, with the seed of its generator. -/
  prove : Bool → Block 32 → List Commitment → Option (List UInt8)

inductive Timelock where
  | none
  | block (height : UInt64)
  | time (seconds : UInt64)

def Timelock.raw : Timelock → UInt64
  | .none => 0
  | .block height => height
  | .time seconds => seconds

structure Output where
  key : Block 32
  viewTag : Option UInt8

structure InnerOutput where
  output : Output
  keyImage : Block 32

/-- `Transaction::V2`, less what is still empty. -/
structure Transaction (Point : Type) where
  additionalTimelock : Timelock
  inputs : List (Input Point)
  outputs : List Output
  extra : List (ExtraField Point)
  fee : UInt64
  encryptedAmounts : List (Block 8)
  commitments : List Point
  bulletproof : List UInt8

section

variable {Point : Type} [AddCommGroup Point] [DecidableEq Point] (c : TxCrypto Point)

def Commitment.calculate (commitment : Commitment) : Point :=
  c.mulBase commitment.mask + commitment.amount.toNat • c.amountBase

namespace TxConstructionData

variable (tx : TxConstructionData) (keypair : KeyPair)

def hasViewTags : Result Bool :=
  match tx.bpVersion with
  | .full => .ok false
  | .null | .bulletproof2 => .ok true
  | _ => .halted

def innerOutput (dest : TxDestinationEntry) (derivations : SharedKeyDerivations) :
    Result InnerOutput := do
  let image := generateKeyImageFromPrivateKey c.toCurve derivations.sharedKey
  let spend ← c.point dest.addr.spendPublicKey
  let viewTags ← tx.hasViewTags
  pure ⟨⟨c.compress (spend + c.mulBase derivations.sharedKey),
    if viewTags then some derivations.viewTag else none⟩, c.compress image⟩

def outputs : Result (List InnerOutput) := do
  let derivations ← tx.sharedKeyDerivations c.toCrypto keypair
  collect (fun (dest, derivations) => tx.innerOutput c dest derivations)
    (tx.splittedDsts.zip derivations)

def commitmentsAndEncryptedAmounts : Result (List (Commitment × Block 8)) := do
  let derivations ← tx.sharedKeyDerivations c.toCrypto keypair
  pure ((tx.splittedDsts.zip derivations).map fun (dest, derivations) =>
    (⟨derivations.commitmentMask, dest.amount⟩, c.compactAmountEncryption derivations dest.amount))

def bulletproof (commitments : List Commitment) : Result (List UInt8) := do
  let seed := c.keccak256 ([0x62, 0x75, 0x6C, 0x6C, 0x65, 0x74, 0x70, 0x72, 0x6F, 0x6F, 0x66]
    ++ tx.extra)
  let plus ← tx.hasViewTags
  Outcome.unwrap (c.prove plus seed commitments)

/-- `transaction_without_signatures`, for one of the transactions. -/
def transactionWithoutSignatures : Result (Transaction Point) := do
  let pairs ← tx.commitmentsAndEncryptedAmounts c keypair
  let bulletproof ← tx.bulletproof c (pairs.map (·.1))
  let inputs ← tx.inputs c.toCurve keypair
  let outputs ← tx.outputs c keypair
  let extra ← tx.extraFields c.toCrypto keypair
  pure {
    additionalTimelock := .none
    inputs := inputs.map (·.input)
    outputs := outputs.map (·.output)
    extra
    fee := tx.fee
    encryptedAmounts := pairs.map (·.2)
    commitments := pairs.map fun pair => pair.1.calculate c
    bulletproof }

end TxConstructionData

def UnsignedTx.transactionWithoutSignatures (unsigned : UnsignedTx) (keypair : KeyPair) :
    Result (List (Transaction Point)) :=
  collect (fun tx => tx.transactionWithoutSignatures c keypair) unsigned.txes

/-- A field of the bytes `extra` of a request. -/
inductive RequestField where
  | padding (size : Nat)
  | publicKey (key : Block 32)
  | nonce (bytes : List UInt8)
  | mergeMining (bytes : List UInt8)
  | publicKeys (keys : List (Block 32))
  | mysteriousMinergate (bytes : List UInt8)

def counted (length : Nat) (bytes : List UInt8) : List UInt8 :=
  writeVarinteger (UInt64.ofNat length) ++ bytes

def RequestField.bytes : RequestField → List UInt8
  | .padding size => 0x00 :: List.replicate size 0
  | .publicKey key => 0x01 :: key.bytes
  | .nonce bytes => 0x02 :: counted bytes.length bytes
  | .mergeMining bytes => 0x03 :: counted bytes.length bytes
  | .publicKeys keys => 0x04 :: counted keys.length (keys.flatMap Block.bytes)
  | .mysteriousMinergate bytes => 0xDE :: counted bytes.length bytes

def HasNonce (extra nonce : List UInt8) : Prop :=
  ∃ fields : List RequestField, extra = fields.flatMap RequestField.bytes ∧ .nonce nonce ∈ fields

/-- A payment id as it is asked for: a long one, or one for an integrated address. -/
inductive PaymentId where
  | plain (id : Block 32)
  | encrypted (id : Block 8)

def PaymentId.nonce : PaymentId → List UInt8
  | .plain id => 0 :: id.bytes
  | .encrypted id => 1 :: id.bytes

/-- The secret that an output for the destination is made with. -/
def TxConstructionData.IsSecret (tx : TxConstructionData) (keypair : KeyPair) (i : Nat)
    (dest : TxDestinationEntry) (secret : Point) : Prop :=
  tx.splittedDsts[i]? = some dest ∧ ∃ keys, tx.transactionKeys c.toCrypto = .ok keys
    ∧ tx.ecdh c.toCrypto keypair keys dest i = .ok secret

/-- A long payment id is carried as it is, and the other kind with the mask of a recipient. -/
def TxConstructionData.Carries (tx : TxConstructionData) (keypair : KeyPair)
    (fields : List (ExtraField Point)) : PaymentId → Prop
  | .plain id => .nonce (0 :: id.bytes) ∈ fields
  | .encrypted id => ∃ i dest secret, tx.IsSecret c keypair i dest secret
    ∧ tx.isChangeDest dest = false
    ∧ .nonce (1 :: (id.xor (c.paymentIdXor secret)).bytes) ∈ fields

/-- An input spends the real output of the source, out of the source's ring. -/
def Input.For (source : TxSourceEntry) (input : Input Point) : Prop :=
  input.keyOffsets = absoluteOutputOffsetsToRelative (source.outputs.map (·.index))
    ∧ ∃ output secret, source.outputs[asUsize source.realOutput]? = some output
      ∧ c.decompress output.key.dest = some (c.mulBase secret)
      ∧ input.keyImage = secret • c.hashToPoint output.key.dest

/-- At `i` the transaction has an output for the destination, and its amount. -/
def Transaction.Pays (t : Transaction Point) (tx : TxConstructionData) (keypair : KeyPair) (i : Nat)
    (dest : TxDestinationEntry) : Prop :=
  ∃ secret spend, tx.IsSecret c keypair i dest secret
    ∧ c.decompress dest.addr.spendPublicKey = some spend
    ∧ t.outputs[i]?.map (·.key)
      = some (c.compress (spend + c.mulBase (c.outputDerivations secret i).sharedKey))
    ∧ t.commitments[i]? = some (c.mulBase (c.outputDerivations secret i).commitmentMask
      + dest.amount.toNat • c.amountBase)
    ∧ t.encryptedAmounts[i]?
      = some (c.compactAmountEncryption (c.outputDerivations secret i) dest.amount)

def TxConstructionData.spent (tx : TxConstructionData) : Nat :=
  (tx.sources.map (·.amount.toNat)).sum

def TxConstructionData.paid (tx : TxConstructionData) : Nat :=
  (tx.splittedDsts.map (·.amount.toNat)).sum

/-- The transaction is the one that the request asks for. -/
structure Transaction.Meets (t : Transaction Point) (tx : TxConstructionData) (keypair : KeyPair) :
    Prop where
  inputs : ∃ sources : List TxSourceEntry, sources.Perm tx.sources
    ∧ List.Forall₂ (Input.For c) sources t.inputs
  outputs : t.outputs.length = tx.splittedDsts.length
  commitments : t.commitments.length = tx.splittedDsts.length
  encryptedAmounts : t.encryptedAmounts.length = tx.splittedDsts.length
  pays : ∀ (i : Nat) (dest : TxDestinationEntry), tx.splittedDsts[i]? = some dest →
    t.Pays c tx keypair i dest
  fee : (t.fee.toNat : Int) = tx.spent - tx.paid
  unlockTime : t.additionalTimelock.raw = tx.unlockTime
  paymentId : ∀ id : PaymentId, HasNonce tx.extra id.nonce → tx.Carries c keypair t.extra id

end

theorem toNat_foldl_add (amounts : List UInt64) (acc : UInt64) :
    (amounts.foldl (· + ·) acc).toNat = (acc.toNat + (amounts.map UInt64.toNat).sum) % 2 ^ 64 := by
  induction amounts generalizing acc with
  | nil =>
    have hlt := acc.toNat_lt
    rw [List.foldl_nil, List.map_nil, List.sum_nil, Nat.add_zero, Nat.mod_eq_of_lt hlt]
  | cons amount amounts ih =>
    rw [List.foldl_cons, ih, UInt64.toNat_add, Nat.mod_add_mod, List.map_cons, List.sum_cons,
      Nat.add_assoc]

namespace TxConstructionData

theorem toNat_outputsAmount (tx : TxConstructionData) :
    tx.outputsAmount.toNat = tx.spent % 2 ^ 64 := by
  rw [outputsAmount, toNat_foldl_add, spent, List.map_map, UInt64.toNat_zero, Nat.zero_add]
  rfl

theorem toNat_inputsAmount (tx : TxConstructionData) :
    tx.inputsAmount.toNat = tx.paid % 2 ^ 64 := by
  rw [inputsAmount, toNat_foldl_add, paid, List.map_map, UInt64.toNat_zero, Nat.zero_add]
  rfl

theorem fee_iff (tx : TxConstructionData) :
    (tx.fee.toNat : Int) = tx.spent - tx.paid
      ↔ tx.paid ≤ tx.spent ∧ tx.spent - tx.paid < 2 ^ 64 := by
  have hspent := tx.toNat_outputsAmount
  have hpaid := tx.toNat_inputsAmount
  rw [fee, UInt64.toNat_sub, hspent, hpaid]
  omega

end TxConstructionData

section

variable {Point : Type} [AddCommGroup Point] {c : TxCrypto Point}
  {tx : TxConstructionData} {keypair : KeyPair}

namespace TxConstructionData

theorem isSecret_iff {secrets : List Point} (h : tx.ecdhs c.toCrypto keypair = .ok secrets) {i : Nat}
    {dest : TxDestinationEntry} {secret : Point} :
    tx.IsSecret c keypair i dest secret
      ↔ tx.splittedDsts[i]? = some dest ∧ secrets[i]? = some secret := by
  have hspec := h
  obtain ⟨keys, hkeys, hcollect⟩ := bind_eq_ok.mp hspec
  constructor
  · intro hsecret
    obtain ⟨hdest, keys', hkeys', hmade⟩ := hsecret
    have hzip : tx.splittedDsts.zipIdx[i]? = some (dest, i) := by
      rw [List.getElem?_zipIdx, hdest, Nat.zero_add]
      rfl
    obtain ⟨secret', hat, hmade'⟩ := collect_getElem? hcollect hzip
    have hmade' : tx.ecdh c.toCrypto keypair keys dest i = .ok secret' := hmade'
    rw [hkeys] at hkeys'
    cases hkeys'
    rw [hmade] at hmade'
    cases hmade'
    exact ⟨hdest, hat⟩
  · intro hboth
    exact ⟨hboth.1, keys, hkeys, ecdhs_getElem? hkeys h hboth.1 hboth.2⟩

theorem length_ecdhs {c : Crypto Point} {secrets : List Point}
    (h : tx.ecdhs c keypair = .ok secrets) : secrets.length = tx.splittedDsts.length := by
  obtain ⟨keys, -, hcollect⟩ := bind_eq_ok.mp h
  rw [← (Outcome.collect_eq_ok.mp hcollect).length_eq, List.length_zipIdx]

theorem zip_derivations {derivations : List SharedKeyDerivations}
    (h : tx.sharedKeyDerivations c.toCrypto keypair = .ok derivations) :
    (tx.splittedDsts.zip derivations).length = tx.splittedDsts.length
      ∧ ∀ (i : Nat) (dest : TxDestinationEntry), tx.splittedDsts[i]? = some dest →
        ∃ secret, tx.IsSecret c keypair i dest secret
          ∧ (tx.splittedDsts.zip derivations)[i]? = some (dest, c.outputDerivations secret i) := by
  obtain ⟨secrets, hsecrets, h⟩ := bind_eq_ok.mp h
  cases h
  have hlength := length_ecdhs hsecrets
  constructor
  · rw [List.length_zip, List.length_map, List.length_zipIdx, hlength, Nat.min_self]
  · intro i dest hdest
    have hi : i < secrets.length := hlength ▸ (List.getElem?_eq_some_iff.mp hdest).1
    have hsecret := List.getElem?_eq_getElem hi
    refine ⟨secrets[i], (isSecret_iff hsecrets).mpr ⟨hdest, hsecret⟩, ?_⟩
    rw [List.getElem?_zip_eq_some, List.getElem?_map, List.getElem?_zipIdx, hsecret]
    refine ⟨hdest, ?_⟩
    simp

theorem innerOutput_key {dest : TxDestinationEntry} {derivations : SharedKeyDerivations}
    {output : InnerOutput} (h : tx.innerOutput c dest derivations = .ok output) :
    ∃ spend, c.decompress dest.addr.spendPublicKey = some spend
      ∧ output.output.key = c.compress (spend + c.mulBase derivations.sharedKey) := by
  obtain ⟨spend, hspend, h⟩ := bind_eq_ok.mp h
  obtain ⟨viewTags, -, h⟩ := bind_eq_ok.mp h
  cases h
  exact ⟨spend, c.point_eq_ok.mp hspend, rfl⟩

/-- The mask that is written: that of the first change of two destinations. -/
def IsMask (c : TxCrypto Point) (tx : TxConstructionData) (keypair : KeyPair) (mask : Block 8) :
    Prop :=
  tx.splittedDsts.length = 2 ∧ ∃ i dest secret, tx.IsSecret c keypair i dest secret
    ∧ tx.isChangeDest dest = true
    ∧ (∀ j < i, ∀ dest', tx.splittedDsts[j]? = some dest' → tx.isChangeDest dest' = false)
    ∧ mask = c.paymentIdXor secret

/-- A payment id happens to be what the mask that is written and that of a recipient make. -/
def Coincides (c : TxCrypto Point) (tx : TxConstructionData) (keypair : KeyPair) : PaymentId → Prop
  | .plain _ => False
  | .encrypted id => ∃ mask i dest secret, tx.IsMask c keypair mask
    ∧ tx.IsSecret c keypair i dest secret ∧ tx.isChangeDest dest = false
    ∧ id = mask.xor (c.paymentIdXor secret)

theorem isMask_unique {mask mask' : Block 8} (h : tx.IsMask c keypair mask)
    (h' : tx.IsMask c keypair mask') : mask = mask' := by
  obtain ⟨-, i, dest, secret, hsecret, hchange, hfirst, rfl⟩ := h
  obtain ⟨-, j, dest', secret', hsecret', hchange', hfirst', rfl⟩ := h'
  rcases Nat.lt_trichotomy i j with hlt | rfl | hlt
  · rw [hfirst' i hlt dest hsecret.1] at hchange
    cases hchange
  · obtain ⟨hdest, keys, hkeys, hmade⟩ := hsecret
    obtain ⟨hdest', keys', hkeys', hmade'⟩ := hsecret'
    rw [hdest] at hdest'
    cases hdest'
    rw [hkeys] at hkeys'
    cases hkeys'
    rw [hmade] at hmade'
    cases hmade'
    rfl
  · rw [hfirst j hlt dest' hsecret'.1] at hchange'
    cases hchange'

theorem isMask_of_find {secrets : List Point} (h : tx.ecdhs c.toCrypto keypair = .ok secrets)
    (htwo : tx.splittedDsts.length = 2) {dest : TxDestinationEntry} {mask : Block 8}
    (hfind : ((tx.splittedDsts.zip (secrets.map c.paymentIdXor)).find?
      fun (dest, _) => tx.isChangeDest dest) = some (dest, mask)) : tx.IsMask c keypair mask := by
  obtain ⟨hchange, i, hi, hat, hbefore⟩ := List.find?_eq_some_iff_getElem.mp hfind
  have hat := List.getElem?_eq_some_iff.mpr ⟨hi, hat⟩
  obtain ⟨hdest, hmask⟩ := List.getElem?_zip_eq_some.mp hat
  rw [List.getElem?_map, Option.map_eq_some_iff] at hmask
  obtain ⟨secret, hsecret, rfl⟩ := hmask
  refine ⟨htwo, i, dest, secret, (isSecret_iff h).mpr ⟨hdest, hsecret⟩, hchange, ?_, rfl⟩
  intro j hj dest' hdest'
  have hnot := hbefore j hj
  rw [List.getElem_zip] at hnot
  obtain ⟨hlt, rfl⟩ := List.getElem?_eq_some_iff.mp hdest'
  simpa using hnot

theorem nonce_mem_extraFields_iff {fields : List (ExtraField Point)}
    (h : tx.extraFields c.toCrypto keypair = .ok fields) (nonce : List UInt8) :
    .nonce nonce ∈ fields ↔ ∃ mask, tx.IsMask c keypair mask ∧ nonce = 1 :: mask.bytes := by
  obtain ⟨keys, hkeys, h⟩ := bind_eq_ok.mp h
  obtain ⟨xors, hxors, h⟩ := bind_eq_ok.mp h
  obtain ⟨secrets, hsecrets, hxors⟩ := bind_eq_ok.mp hxors
  cases hxors
  have hplain : .nonce nonce ∉ (.publicKey keys.txKeyPub :: if keys.additionalKeysPub.isEmpty then []
      else [.publicKeys keys.additionalKeysPub] : List (ExtraField Point)) := by
    cases keys.additionalKeysPub with
    | nil => simp
    | cons pub pubs => simp
  dsimp only at h
  by_cases htwo : tx.splittedDsts.length = 2
  · rw [if_pos htwo] at h
    split at h
    · rename_i dest mask hfind
      have hmask := isMask_of_find hsecrets htwo hfind
      cases h
      rw [List.mem_append, or_iff_right hplain, List.mem_singleton]
      constructor
      · intro heq
        cases heq
        exact ⟨mask, hmask, rfl⟩
      · intro hexists
        obtain ⟨mask', hmask', rfl⟩ := hexists
        rw [isMask_unique hmask hmask']
    · cases h
  · rw [if_neg htwo] at h
    cases h
    constructor
    · intro hmem
      exact absurd hmem hplain
    · intro hexists
      obtain ⟨mask, hmask, -⟩ := hexists
      exact absurd hmask.1 htwo

theorem carries_iff {fields : List (ExtraField Point)}
    (h : tx.extraFields c.toCrypto keypair = .ok fields) (id : PaymentId) :
    tx.Carries c keypair fields id ↔ tx.Coincides c keypair id := by
  cases id with
  | plain id =>
    rw [Carries, nonce_mem_extraFields_iff h, Coincides, iff_false]
    intro hexists
    obtain ⟨mask, -, heq⟩ := hexists
    cases heq
  | encrypted id =>
    constructor
    · intro hcarries
      obtain ⟨i, dest, secret, hsecret, hpayment, hmem⟩ := hcarries
      obtain ⟨mask, hmask, heq⟩ := (nonce_mem_extraFields_iff h _).mp hmem
      have hxor : id.xor (c.paymentIdXor secret) = mask := Block.ext (List.cons.inj heq).2
      refine ⟨mask, i, dest, secret, hmask, hsecret, hpayment, ?_⟩
      rw [← hxor, Block.xor_xor_cancel_right]
    · intro hcoincides
      obtain ⟨mask, i, dest, secret, hmask, hsecret, hpayment, rfl⟩ := hcoincides
      refine ⟨i, dest, secret, hsecret, hpayment, (nonce_mem_extraFields_iff h _).mpr ?_⟩
      exact ⟨mask, hmask, by rw [Block.xor_xor_cancel_right]⟩

variable [DecidableEq Point]

theorem inputs_for {inputs : List (InnerInput Point)} (h : tx.inputs c.toCurve keypair = .ok inputs) :
    ∃ sources : List TxSourceEntry, sources.Perm tx.sources
      ∧ List.Forall₂ (Input.For c) sources (inputs.map (·.input)) := by
  obtain ⟨hperm, hinner⟩ := inputs_spec h
  refine ⟨inputs.map (·.source), hperm, ?_⟩
  rw [List.forall₂_map_left_iff, List.forall₂_map_right_iff, List.forall₂_same]
  intro input hinput
  obtain ⟨source, index, hsource, hmade⟩ := hinner input hinput
  obtain ⟨rfl, hoffsets, hpublished, output, houtput, hdest, himage⟩ :=
    innerInput_spec hsource hmade
  exact ⟨hpublished.trans hoffsets, output, _, houtput, hdest, himage⟩

theorem transactionWithoutSignatures_spec {t : Transaction Point}
    (h : tx.transactionWithoutSignatures c keypair = .ok t) :
    (∃ sources : List TxSourceEntry, sources.Perm tx.sources
        ∧ List.Forall₂ (Input.For c) sources t.inputs)
      ∧ t.outputs.length = tx.splittedDsts.length
      ∧ t.commitments.length = tx.splittedDsts.length
      ∧ t.encryptedAmounts.length = tx.splittedDsts.length
      ∧ (∀ (i : Nat) (dest : TxDestinationEntry), tx.splittedDsts[i]? = some dest →
        t.Pays c tx keypair i dest)
      ∧ t.fee = tx.fee ∧ t.additionalTimelock = .none
      ∧ tx.extraFields c.toCrypto keypair = .ok t.extra := by
  obtain ⟨pairs, hpairs, h⟩ := bind_eq_ok.mp h
  obtain ⟨bulletproof, -, h⟩ := bind_eq_ok.mp h
  obtain ⟨inputs, hinputs, h⟩ := bind_eq_ok.mp h
  obtain ⟨outputs, houtputs, h⟩ := bind_eq_ok.mp h
  obtain ⟨extra, hextra, h⟩ := bind_eq_ok.mp h
  cases h
  obtain ⟨derivations, hderivations, hpairs⟩ := bind_eq_ok.mp hpairs
  cases hpairs
  obtain ⟨derivations', hderivations', houtputs⟩ := bind_eq_ok.mp houtputs
  rw [hderivations] at hderivations'
  cases hderivations'
  obtain ⟨hlength, hzip⟩ := zip_derivations hderivations
  refine ⟨inputs_for hinputs, ?_, ?_, ?_, ?_, rfl, rfl, hextra⟩
  · rw [List.length_map, ← (Outcome.collect_eq_ok.mp houtputs).length_eq, hlength]
  · rw [List.length_map, List.length_map, hlength]
  · rw [List.length_map, List.length_map, hlength]
  · intro i dest hdest
    obtain ⟨secret, hsecret, hat⟩ := hzip i dest hdest
    obtain ⟨output, houtput, hmade⟩ := collect_getElem? houtputs hat
    obtain ⟨spend, hspend, hkey⟩ := innerOutput_key hmade
    refine ⟨secret, spend, hsecret, hspend, ?_, ?_, ?_⟩
    · rw [List.getElem?_map, houtput]
      exact congrArg some hkey
    · rw [List.getElem?_map, List.getElem?_map, hat]
      rfl
    · rw [List.getElem?_map, List.getElem?_map, hat]
      rfl

end TxConstructionData

/-- **When the request is met.** Of every transaction that is built, all is as it was asked for
exactly if no time lock was, the amounts leave a fee that does not wrap, and there is no payment id
but one that the mask of the change happens to be right for. -/
theorem UnsignedTx.meets_iff [DecidableEq Point] (c : TxCrypto Point) {unsigned : UnsignedTx} {keypair : KeyPair}
    {txes : List (Transaction Point)}
    (h : unsigned.transactionWithoutSignatures c keypair = .ok txes) {i : Nat}
    {tx : TxConstructionData} (hi : unsigned.txes[i]? = some tx) :
    ∃ t, txes[i]? = some t ∧ (t.Meets c tx keypair ↔ tx.unlockTime = 0
      ∧ (tx.paid ≤ tx.spent ∧ tx.spent - tx.paid < 2 ^ 64)
      ∧ ∀ id : PaymentId, HasNonce tx.extra id.nonce → tx.Coincides c keypair id) := by
  obtain ⟨t, ht, hbuilt⟩ := collect_getElem? h hi
  obtain ⟨hinputs, houtputs, hcommitments, hamounts, hpays, hfee, hlock, hextra⟩ :=
    TxConstructionData.transactionWithoutSignatures_spec hbuilt
  refine ⟨t, ht, ?_⟩
  constructor
  · intro hmeets
    have hunlock := hmeets.unlockTime
    rw [hlock] at hunlock
    have hamount := hmeets.fee
    rw [hfee, tx.fee_iff] at hamount
    refine ⟨hunlock.symm, hamount, ?_⟩
    intro id hid
    exact (TxConstructionData.carries_iff hextra id).mp (hmeets.paymentId id hid)
  · intro hgood
    obtain ⟨hunlock, hamount, hids⟩ := hgood
    refine ⟨hinputs, houtputs, hcommitments, hamounts, hpays, ?_, ?_, ?_⟩
    · rw [hfee, tx.fee_iff]
      exact hamount
    · rw [hlock]
      exact hunlock.symm
    · intro id hid
      exact (TxConstructionData.carries_iff hextra id).mpr (hids id hid)

end

def smallTxCurve : TxCrypto (ZMod 13) where
  __ := smallCurve
  amountBase := 2
  compactAmountEncryption derivations amount :=
    Block.ofBytes 8 [UInt8.ofNat (derivations.commitmentMask + amount.toNat)]
  prove _ _ _ := some []

def smallRequest (unlockTime : UInt64) (extra : List UInt8) : TxConstructionData where
  __ := smallRing [smallEntry 3 5, smallEntry 5 7] 1
  unlockTime
  extra

theorem not_hasNonce_nil (nonce : List UInt8) : ¬HasNonce [] nonce := by
  intro h
  obtain ⟨fields, hnil, hmem⟩ := h
  have hempty := List.flatMap_eq_nil_iff.mp hnil.symm _ hmem
  cases hempty

theorem meets_smallRequest : ∃ txes, UnsignedTx.transactionWithoutSignatures smallTxCurve
      ⟨[smallRequest 0 []]⟩ smallWallet = .ok txes
    ∧ ∃ t, txes[0]? = some t ∧ t.Meets smallTxCurve (smallRequest 0 []) smallWallet := by
  have hok : (UnsignedTx.transactionWithoutSignatures smallTxCurve ⟨[smallRequest 0 []]⟩
      smallWallet).isOk = true := by
    decide
  obtain ⟨txes, htxes⟩ := exists_of_isOk hok
  obtain ⟨t, ht, hiff⟩ := UnsignedTx.meets_iff smallTxCurve htxes (i := 0) rfl
  refine ⟨txes, htxes, t, ht, hiff.mpr ⟨rfl, ⟨by decide, by decide⟩, ?_⟩⟩
  intro id hid
  exact absurd hid (not_hasNonce_nil _)

def smallId : Block 8 := Block.fill 8 0xFF

theorem hasNonce_smallId :
    HasNonce ([2, 9, 1] ++ smallId.bytes) (PaymentId.encrypted smallId).nonce :=
  ⟨[.nonce (1 :: smallId.bytes)], rfl, List.mem_singleton.mpr rfl⟩

/-- A time lock is not kept, and a payment id is not carried. -/
theorem not_meets_smallRequest :
    (∃ t, (smallRequest 5 []).transactionWithoutSignatures smallTxCurve smallWallet = .ok t
      ∧ t.additionalTimelock.raw ≠ 5 ∧ ¬t.Meets smallTxCurve (smallRequest 5 []) smallWallet)
    ∧ ∃ t, (smallRequest 0 ([2, 9, 1] ++ smallId.bytes)).transactionWithoutSignatures smallTxCurve
        smallWallet = .ok t
      ∧ ¬t.Meets smallTxCurve (smallRequest 0 ([2, 9, 1] ++ smallId.bytes)) smallWallet := by
  constructor
  · have hok : ((smallRequest 5 []).transactionWithoutSignatures smallTxCurve smallWallet).isOk
        = true := by
      decide
    obtain ⟨t, ht⟩ := exists_of_isOk hok
    obtain ⟨-, -, -, -, -, -, hlock, -⟩ :=
      TxConstructionData.transactionWithoutSignatures_spec ht
    have hraw : t.additionalTimelock.raw = 0 := congrArg Timelock.raw hlock
    refine ⟨t, ht, ?_, ?_⟩
    · rw [hraw]
      decide
    · intro hmeets
      have hunlock := hraw.symm.trans hmeets.unlockTime
      cases hunlock
  · have hok : ((smallRequest 0 ([2, 9, 1] ++ smallId.bytes)).transactionWithoutSignatures
        smallTxCurve smallWallet).isOk = true := by
      decide
    obtain ⟨t, ht⟩ := exists_of_isOk hok
    obtain ⟨-, -, -, -, -, -, -, hextra⟩ :=
      TxConstructionData.transactionWithoutSignatures_spec ht
    refine ⟨t, ht, ?_⟩
    intro hmeets
    have hcarries := hmeets.paymentId _ hasNonce_smallId
    obtain ⟨mask, i, dest, secret, ⟨-, j, dest', secret', -, -, -, rfl⟩, -, -, hid⟩ :=
      (TxConstructionData.carries_iff hextra _).mp hcarries
    have hnever : ∀ p q : ZMod 13,
        smallId ≠ (smallCurve.paymentIdXor p).xor (smallCurve.paymentIdXor q) := by
      decide
    exact hnever secret' secret hid

end Keystone3.Monero
