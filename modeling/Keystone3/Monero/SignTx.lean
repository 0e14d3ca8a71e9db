import Keystone3.Bytes.Numeral
import Keystone3.Monero.Buildable
import Keystone3.Monero.Payload

/-!
# Signing all transactions of a request

`sign` builds the transactions, hands the inputs of each to the signer, and adds the key
images of the wallet's outputs. There is no error in it: what cannot be signed is a
panic.
-/

namespace Keystone3.Monero

open Bytes (Block)
open Logic (Outcome)
open Logic.Outcome (ValueIff)
open Logic.Outcome (bind_eq_ok collect not_fails_ok ok_bind)

/-- A generator of random numbers, and how far it has been used. -/
structure Rng where
  seed : Block 32
  position : Nat

structure Libraries (Point Tx : Type) [AddCommGroup Point] extends TxCrypto Point, CryptLib Point where
  format : TxFormat Tx
  /-- `Transaction::V2` from its parts, with the signature and the commitment of each input. -/
  transaction : Transaction Point → List (List UInt8 × Point) → Tx
  /-- The checks that `Decoys::new` and `ClsagContext::new` make. -/
  accepts : Decoys Point → Commitment → Bool
  signatureHash : Tx → Option (Block 32)
  /-- `Clsag::sign`, for the secrets and rings of all inputs. -/
  clsagSign : Rng → List (Scalar × ClsagContext Point) → Scalar → Block 32 →
    Option (List (List UInt8 × Point) × Rng)

/-- The signer's secret is that of its place in the ring. -/
def SecretFits {Point : Type} [AddCommGroup Point] (c : Curve Point)
    (sign : Scalar × ClsagContext Point) : Prop :=
  ∃ member, sign.2.decoys.ring[sign.2.decoys.signerIndex.toNat]? = some member
    ∧ c.mulBase sign.1 = member.1

structure Libraries.Lawful {Point Tx : Type} [AddCommGroup Point] (lib : Libraries Point Tx) :
    Prop where
  crypt : lib.toCryptLib.Lawful
  proves : lib.toTxCrypto.Proves
  /-- A ring has at most 255 members, and the signer is one of them. -/
  accepts_lt : ∀ decoys commitment, lib.accepts decoys commitment = true →
    decoys.ring.length < 256 ∧ decoys.signerIndex.toNat < decoys.ring.length
  /-- There is a hash for every transaction with proofs. -/
  signatureHash_isSome : ∀ t signatures,
    (lib.signatureHash (lib.transaction t signatures)).isSome = true
  clsagSign_isSome : ∀ rng signs sum msg, (∀ sign ∈ signs, SecretFits lib.toCurve sign) →
    (lib.clsagSign rng signs sum msg).isSome = true

section

variable {Point Tx : Type} [AddCommGroup Point] [DecidableEq Point] (lib : Libraries Point Tx)
  (keypair : KeyPair)

namespace TxConstructionData

variable (tx : TxConstructionData)

def sumOutputMasks : Result Scalar := do
  let pairs ← tx.commitmentsAndEncryptedAmounts lib.toTxCrypto keypair
  pure (pairs.foldl (fun sum pair => lib.add sum pair.1.mask) 0)

def calcKeyImages : Result (List (Block 32)) :=
  collect (fun index => do
    let image ← tx.calcKeyImageByIndex lib.toCurve keypair index
    pure image.1) (List.range tx.sources.length)

end TxConstructionData

def keyImagesStr (keyImages : List (Block 32)) : List Char :=
  keyImages.flatMap fun image => '<' :: Bytes.hexText image.bytes ++ ['>', ' ']

abbrev SignedOne (Tx : Type) : Type := PendingTx Tx × List (Block 32 × Block 32)

/-- The loop body of `sign`. -/
def signOne (rng : Rng) (t : Transaction Point) (unsigned : ConstructionData) :
    Result (SignedOne Tx × Rng) := do
  let tx := unsigned.toTransfer
  let maskSum ← tx.sumOutputMasks lib keypair
  let signed ← tx.signInputs lib.toCurve keypair lib.accepts
  let msg ← Outcome.unwrap (lib.signatureHash (lib.transaction t []))
  let (clsags, rng) ← Outcome.unwrap (lib.clsagSign rng signed.clsagSigns maskSum msg)
  let keyImages ← tx.calcKeyImages lib keypair
  let keys ← tx.transactionKeys lib.toCrypto
  let outputs ← tx.outputs lib.toTxCrypto keypair
  let ptx := {
    tx := lib.transaction t clsags
    dust := 0
    fee := tx.fee
    dustAddedToFee := false
    changeDts := unsigned.changeDts
    selectedTransfers := unsigned.selectedTransfers
    keyImages := keyImagesStr keyImages
    txKey := scalarBytes keys.txKey
    additionalTxKeys := keys.additionalKeys.map scalarBytes
    dests := unsigned.dests
    multisigSigs := []
    constructionData := unsigned
    multisigTxKeyEntropy := scalarBytes 0 }
  pure ((ptx, outputs.map fun output => (output.output.key, output.keyImage)), rng)

/-- The loop of `sign`. -/
def signEach (rng : Rng) : List (Transaction Point × ConstructionData) → Result (List (SignedOne Tx))
  | [] => pure []
  | (t, unsigned) :: rest => do
    let (one, rng) ← signOne lib keypair rng t unsigned
    let others ← signEach rng rest
    pure (one :: others)

def UnsignedTxData.sign (unsigned : UnsignedTxData) : Result (SignedTxSet Tx) := do
  let txes ← unsigned.toUnsignedTx.transactionWithoutSignatures lib.toTxCrypto keypair
  let first ← Outcome.index txes 0
  let seed := lib.keccak256 (lib.format.serialize (lib.transaction first []))
  let signed ← signEach lib keypair ⟨seed, 0⟩ (txes.zip unsigned.txes)
  let images ← collect (fun transfer =>
    transfer.generateKeyImageWithoutSignature lib.toCurve keypair)
    (unsigned.transfers.details.map TransferDetail.toExportedTransferDetail)
  pure ⟨signed.map (·.1), [], signed.flatMap (·.2) ++ images⟩

/-- The ring of a source consists of points, and the signer accepts it. -/
def TxSourceEntry.RingAccepted (source : TxSourceEntry) : Prop :=
  ∃ ring, List.Forall₂ (fun (output : OutputEntry) (member : Point × Point) =>
      lib.decompress output.key.dest = some member.1 ∧ lib.decompress output.key.mask = some member.2)
      source.outputs ring
    ∧ lib.accepts ⟨absoluteOutputOffsetsToRelative (source.outputs.map (·.index)),
        source.realOutput.toUInt8, ring⟩
      ⟨lib.fromBytesModOrder source.mask, source.amount⟩ = true

structure TxConstructionData.Signable (tx : TxConstructionData) : Prop where
  buildable : tx.Buildable lib.toCurve keypair
  rings : ∀ source ∈ tx.sources, source.RingAccepted lib

/-- The key that is selected for an output of the wallet is there, and is a point. -/
def ExportedTransferDetail.Usable {Point : Type} [AddCommGroup Point] (c : Curve Point)
    (d : ExportedTransferDetail) : Prop :=
  ∃ key, additionalTxKey d.additionalTxKeys d.internalOutputIndex = .ok key
    ∧ c.IsPoint (key.getD d.txPubkey)

end

section

variable {Point : Type} [AddCommGroup Point] [DecidableEq Point]

omit [DecidableEq Point] in
theorem ringMember_eq_ok {c : Curve Point} {output : OutputEntry} {member : Point × Point} :
    ringMember c output = .ok member ↔ c.decompress output.key.dest = some member.1
      ∧ c.decompress output.key.mask = some member.2 := by
  constructor
  · intro h
    obtain ⟨dest, hdest, h⟩ := bind_eq_ok.mp h
    obtain ⟨mask, hmask, h⟩ := bind_eq_ok.mp h
    cases h
    exact ⟨c.point_eq_ok.mp hdest, c.point_eq_ok.mp hmask⟩
  · rintro ⟨hdest, hmask⟩
    rw [ringMember, c.point_eq_ok.mpr hdest, ok_bind, c.point_eq_ok.mpr hmask]
    rfl

omit [DecidableEq Point] in
theorem ring_valueIff (c : Curve Point) (outputs : List OutputEntry) :
    ValueIff (collect (ringMember c) outputs)
      (∀ output ∈ outputs, c.IsPoint output.key.dest ∧ c.IsPoint output.key.mask) :=
  ValueIff.collect fun output _ =>
    (c.point_valueIff output.key.dest).bind fun _ _ => (c.point_valueIff output.key.mask).map

variable {Tx : Type} {lib : Libraries Point Tx} {keypair : KeyPair} {tx : TxConstructionData}
  {inputs : List (InnerInput Point)}

omit [DecidableEq Point] in
theorem ringAccepted_iff (source : TxSourceEntry) : source.RingAccepted lib
    ↔ ∃ ring, collect (ringMember lib.toCurve) source.outputs = .ok ring
      ∧ lib.accepts ⟨absoluteOutputOffsetsToRelative (source.outputs.map (·.index)),
          source.realOutput.toUInt8, ring⟩
        ⟨lib.fromBytesModOrder source.mask, source.amount⟩ = true := by
  unfold TxSourceEntry.RingAccepted
  simp only [Outcome.collect_eq_ok, ringMember_eq_ok]

namespace TxConstructionData

theorem keyOffsets_of_inputs {c : Curve Point} (hinputs : tx.inputs c keypair = .ok inputs)
    {input : InnerInput Point} (hinput : input ∈ inputs) :
    input.keyOffsets = absoluteOutputOffsetsToRelative (input.source.outputs.map (·.index)) := by
  obtain ⟨source, index, hsource, hinner⟩ := (inputs_spec hinputs).2 input hinput
  obtain ⟨rfl, hoffsets, -⟩ := innerInput_spec hsource hinner
  exact hoffsets

theorem clsagSign_valueIff (hinputs : tx.inputs lib.toCurve keypair = .ok inputs)
    {input : InnerInput Point} {i : Nat} (hinput : inputs[i]? = some input) :
    ValueIff (tx.clsagSign lib.toCurve keypair lib.accepts input i)
      (input.source.RingAccepted lib) := by
  have hoffsets := keyOffsets_of_inputs hinputs (List.mem_of_getElem? hinput)
  unfold clsagSign
  refine ((ring_valueIff lib.toCurve input.source.outputs).bind_on fun ring _ => ?_).congr
    (ringAccepted_iff input.source).symm
  rw [hinputs, ok_bind, Outcome.index_eq_ok.mpr hinput, ok_bind, hoffsets]
  exact (ValueIff.ite (fun _ => Outcome.valueIff_ok _) fun _ => Outcome.valueIff_halted).congr
    ⟨fun h => by_contra h.2, fun h => ⟨fun _ => trivial, fun hnot => hnot h⟩⟩

theorem accepts_of_clsagSign {c : Curve Point} {accepts : Decoys Point → Commitment → Bool}
    {input : InnerInput Point} {i : Nat} {sign : Scalar × ClsagContext Point}
    (h : tx.clsagSign c keypair accepts input i = .ok sign) :
    accepts sign.2.decoys sign.2.commitment = true := by
  obtain ⟨ring, -, h⟩ := bind_eq_ok.mp h
  obtain ⟨inputs, -, h⟩ := bind_eq_ok.mp h
  obtain ⟨other, -, h⟩ := bind_eq_ok.mp h
  dsimp only at h
  split at h
  · rename_i haccepts
    cases h
    exact haccepts
  · cases h

theorem signInputs_valueIff : ValueIff (tx.signInputs lib.toCurve keypair lib.accepts)
    ((∀ source ∈ tx.sources, tx.Spendable lib.toCurve keypair source)
      ∧ ∀ source ∈ tx.sources, source.RingAccepted lib) := by
  have hmade := inputs_valueIff lib.toCurve keypair tx
  refine (hmade.bind (Q := ∀ source ∈ tx.sources, source.RingAccepted lib) fun inputs hinputs => ?_)
  rw [hinputs, ok_bind]
  refine (ValueIff.collect (P := fun p : InnerInput Point × Nat => p.1.source.RingAccepted lib)
    fun p hp => clsagSign_valueIff hinputs (List.mem_zipIdx_iff_getElem?.mp hp)).map.congr ?_
  rw [forall_mem_zipIdx (P := fun input : InnerInput Point => input.source.RingAccepted lib)]
  -- the inputs are the sources, in another order
  have hsources := (inputs_spec hinputs).1
  rw [← List.forall_mem_map (f := fun input : InnerInput Point => input.source)
    (P := fun source => source.RingAccepted lib)]
  exact ⟨fun h source hsource => h source (hsources.mem_iff.mpr hsource),
    fun h source hsource => h source (hsources.mem_iff.mp hsource)⟩

theorem secretFits_of_signInputs (hlib : lib.Lawful) {signed : SigningInputs Point}
    (h : tx.signInputs lib.toCurve keypair lib.accepts = .ok signed) :
    ∀ sign ∈ signed.clsagSigns, SecretFits lib.toCurve sign := by
  intro sign hsign
  obtain ⟨published, -, h⟩ := bind_eq_ok.mp h
  obtain ⟨inputs, hinputs, h⟩ := bind_eq_ok.mp h
  obtain ⟨signs, hsigns, h⟩ := bind_eq_ok.mp h
  cases h
  obtain ⟨⟨input, i⟩, hinput, hok⟩ := Outcome.exists_of_mem_collect hsigns hsign
  have hinput := List.mem_zipIdx_iff_getElem?.mp hinput
  obtain ⟨hsecret, -, hsigner, hring⟩ := clsagSign_spec hinputs hinput hok
  obtain ⟨hshort, -⟩ := hlib.accepts_lt _ _ (accepts_of_clsagSign hok)
  obtain ⟨source, index, hsource, hinner⟩ :=
    (inputs_spec hinputs).2 input (List.mem_of_getElem? hinput)
  obtain ⟨rfl, -, -, output, houtput, hdest, -⟩ := innerInput_spec hsource hinner
  obtain ⟨member, hmember, hpoints⟩ := Outcome.collect_getElem? hring houtput
  -- the real output is in the ring, which has fewer than 256 members
  have hplace : asUsize input.source.realOutput < 256 := by
    have hlt := (List.getElem?_eq_some_iff.mp hmember).1
    omega
  refine ⟨member, ?_, ?_⟩
  · rw [hsigner, (signerIndex_iff _).mpr hplace]
    exact hmember
  · rw [hsecret]
    exact Option.some.inj (hdest.symm.trans (ringMember_eq_ok.mp hpoints).1)

end TxConstructionData

end

section

variable {Point Tx : Type} [AddCommGroup Point] [DecidableEq Point] (lib : Libraries Point Tx)
  (keypair : KeyPair)

theorem calcKeyImages_valueIff (tx : TxConstructionData) :
    ValueIff (tx.calcKeyImages lib keypair)
      (∀ source ∈ tx.sources, tx.Spendable lib.toCurve keypair source) := by
  refine (ValueIff.collect (P := fun i => ∀ source, tx.sources[i]? = some source →
    tx.Spendable lib.toCurve keypair source) fun i hi => ?_).congr ?_
  · have hsource := List.getElem?_eq_getElem (List.mem_range.mp hi)
    refine (TxConstructionData.calcKeyImageByIndex_valueIff lib.toCurve keypair tx hsource).map.congr ?_
    simp only [hsource, Option.some.injEq, forall_eq']
  · constructor
    · intro h source hsource
      obtain ⟨i, hi⟩ := List.mem_iff_getElem?.mp hsource
      exact h i (List.mem_range.mpr (List.getElem?_eq_some_iff.mp hi).1) source hi
    · intro h i _ source hsource
      exact h source (List.mem_of_getElem? hsource)

theorem signOne_valueIff (hlib : lib.Lawful) {unsigned : ConstructionData}
    (hbuildable : unsigned.toTransfer.Buildable lib.toCurve keypair) (rng : Rng)
    (t : Transaction Point) : ValueIff (signOne lib keypair rng t unsigned)
      (∀ source ∈ unsigned.toTransfer.sources, source.RingAccepted lib) := by
  generalize htx : unsigned.toTransfer = tx at hbuildable
  have hsecrets : tx.SecretsMade lib.toCrypto :=
    ⟨TxConstructionData.keysMade_of_spend lib.toTxCrypto tx hbuildable.spend, hbuildable.view⟩
  have hmasks : ValueIff (tx.sumOutputMasks lib keypair) (tx.SecretsMade lib.toCrypto) :=
    (TxConstructionData.commitmentsAndEncryptedAmounts_valueIff lib.toTxCrypto tx keypair).map
  have hinputs := @TxConstructionData.signInputs_valueIff _ _ _ _ lib keypair tx
  have hhash := iff_true_intro (hlib.signatureHash_isSome t [])
  unfold signOne
  dsimp only
  rw [htx]
  refine (hmasks.bind fun sum _ => hinputs.bind fun signed hsigned =>
    ((Outcome.valueIff_unwrap _).congr hhash).bind fun msg _ =>
    ((Outcome.valueIff_unwrap _).congr (iff_true_intro (hlib.clsagSign_isSome rng _ sum msg
      (TxConstructionData.secretFits_of_signInputs hlib hsigned)))).bind fun _ _ =>
    (calcKeyImages_valueIff lib keypair tx).bind fun _ _ =>
    (TxConstructionData.transactionKeys_valueIff lib.toCrypto tx).bind fun _ _ =>
    (TxConstructionData.outputs_valueIff lib.toTxCrypto tx keypair).map).congr ?_
  -- all but the rings has been asked for when the transaction was built
  constructor
  · rintro ⟨-, ⟨-, hrings⟩, -⟩
    exact hrings
  · intro hrings
    exact ⟨hsecrets, ⟨hbuildable.inputs, hrings⟩, trivial, trivial, hbuildable.inputs, hsecrets.1,
      hsecrets, fun dest hdest => ⟨hbuildable.spend dest hdest, hbuildable.bpVersion⟩⟩

theorem signEach_valueIff (hlib : lib.Lawful) (items : List (Transaction Point × ConstructionData))
    (hbuildable : ∀ item ∈ items, item.2.toTransfer.Buildable lib.toCurve keypair) :
    ∀ rng, ValueIff (signEach lib keypair rng items)
      (∀ item ∈ items, ∀ source ∈ item.2.toTransfer.sources, source.RingAccepted lib) := by
  induction items with
  | nil => exact fun _ => (Outcome.valueIff_ok []).congr (iff_of_true trivial nofun)
  | cons item items ih =>
    obtain ⟨hfirst, hrest⟩ := List.forall_mem_cons.mp hbuildable
    intro rng
    refine ((signOne_valueIff lib keypair hlib hfirst rng item.1).bind
      fun r _ => (ih hrest r.2).map).congr ?_
    rw [List.forall_mem_cons]

theorem not_fails_additionalTxKey (keys : List (Block 32)) (index : UInt64) :
    ¬Outcome.Fails (additionalTxKey keys index) := by
  unfold additionalTxKey
  split
  · exact not_fails_ok _
  · exact not_fails_ok _
  · split
    · exact not_fails_ok _
    · exact Outcome.not_fails_halted

omit [DecidableEq Point] in
theorem generateKeyImage_valueIff (d : ExportedTransferDetail) :
    ValueIff (d.generateKeyImageWithoutSignature lib.toCurve keypair) (d.Usable lib.toCurve) :=
  (Outcome.valueIff_of_not_fails (not_fails_additionalTxKey _ _)).bind_on fun _ _ =>
    (calcOutputKeyOffset_valueIff lib.toCurve keypair _ _ d.major d.minor).map.map

theorem sign_valueIff (hlib : lib.Lawful) (unsigned : UnsignedTxData) :
    ValueIff (unsigned.sign lib keypair) (unsigned.txes ≠ []
      ∧ (∀ data ∈ unsigned.txes, data.toTransfer.Signable lib keypair)
      ∧ ∀ d ∈ unsigned.transfers.details, d.Usable lib.toCurve) := by
  have hbuilt : ValueIff (unsigned.toUnsignedTx.transactionWithoutSignatures lib.toTxCrypto keypair)
      (∀ tx ∈ unsigned.txes.map ConstructionData.toTransfer, tx.Buildable lib.toCurve keypair) :=
    ValueIff.collect fun tx _ =>
      TxConstructionData.transactionWithoutSignatures_valueIff lib.toTxCrypto tx keypair hlib.proves
  have himages : ValueIff (collect (fun transfer =>
      transfer.generateKeyImageWithoutSignature lib.toCurve keypair)
      (unsigned.transfers.details.map TransferDetail.toExportedTransferDetail))
      (∀ d ∈ unsigned.transfers.details.map TransferDetail.toExportedTransferDetail,
        d.Usable lib.toCurve) :=
    ValueIff.collect fun d _ => generateKeyImage_valueIff lib keypair d
  simp only [List.forall_mem_map] at hbuilt himages
  have hlength : ∀ txes, unsigned.toUnsignedTx.transactionWithoutSignatures lib.toTxCrypto keypair
      = .ok txes → txes.length = unsigned.txes.length := by
    intro txes htxes
    rw [← (Outcome.collect_eq_ok.mp htxes).length_eq, UnsignedTxData.toUnsignedTx, List.length_map]
  have hfirst : ∀ txes, unsigned.toUnsignedTx.transactionWithoutSignatures lib.toTxCrypto keypair
      = .ok txes → ValueIff (Outcome.index txes 0 : Result (Transaction Point))
        (unsigned.txes ≠ []) := by
    intro txes htxes
    refine (Outcome.valueIff_index txes 0).congr ?_
    rw [hlength txes htxes, List.length_pos_iff]
  have heach : ∀ txes rng, unsigned.toUnsignedTx.transactionWithoutSignatures lib.toTxCrypto keypair
      = .ok txes → ValueIff (signEach lib keypair rng (txes.zip unsigned.txes))
        (∀ data ∈ unsigned.txes, ∀ source ∈ data.toTransfer.sources, source.RingAccepted lib) := by
    intro txes rng htxes
    have hbuildable := (forall_mem_zip (hlength txes htxes)).mpr (hbuilt.holds htxes)
    exact (signEach_valueIff lib keypair hlib _ hbuildable rng).congr
      (forall_mem_zip (P := fun data : ConstructionData =>
        ∀ source ∈ data.toTransfer.sources, source.RingAccepted lib) (hlength txes htxes))
  refine (hbuilt.bind fun txes htxes => (hfirst txes htxes).bind fun _ _ =>
    (heach txes _ htxes).bind fun _ _ => himages.map).congr ?_
  constructor
  · rintro ⟨hbuildable, hne, hrings, husable⟩
    exact ⟨hne, fun data hdata => ⟨hbuildable data hdata, hrings data hdata⟩, husable⟩
  · rintro ⟨hne, hsignable, husable⟩
    exact ⟨fun data hdata => (hsignable data hdata).buildable, hne,
      fun data hdata => (hsignable data hdata).rings, husable⟩

variable {lib keypair}

end

end Keystone3.Monero
