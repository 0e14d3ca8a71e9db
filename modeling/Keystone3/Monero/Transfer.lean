import Mathlib.Algebra.Order.Group.Nat
import Mathlib.Data.List.Sort
import Mathlib.Data.UInt
import Keystone3.Monero.KeyImages

/-!
# The inputs of a transaction

A ring is published as the differences of its sorted indices, and handed to the
signer as a list of keys. `prefixSum_relative` reads the indices off the
differences again. The list of keys is in the host's order: `sign_consistent_iff`
says when that is the order of the indices.
-/

namespace Keystone3.Monero

open Bytes (Block)
open Logic (Outcome)
open Logic.Outcome (bind_eq_ok collect collect_eq_ok collect_getElem?)

/-- `res[i] -= res[i - 1]`, from the given index down to the second. -/
def subtractDown : Nat → List UInt64 → List UInt64
  | 0, res => res
  | i + 1, res => subtractDown i (res.set (i + 1) (res.getD (i + 1) 0 - res.getD i 0))

def absoluteOutputOffsetsToRelative (off : List UInt64) : List UInt64 :=
  let res := off.insertionSort (· ≤ ·)
  subtractDown (res.length - 1) res

def prefixSum (offsets : List UInt64) (i : Nat) : Nat :=
  ((offsets.take (i + 1)).map UInt64.toNat).sum

@[simp] theorem length_subtractDown (k : Nat) (res : List UInt64) :
    (subtractDown k res).length = res.length := by
  induction k generalizing res with
  | zero => rfl
  | succ k ih =>
    rw [subtractDown, ih, List.length_set]

theorem subtractDown_getD (k : Nat) (res : List UInt64) (hk : k < res.length) (j : Nat) :
    (subtractDown k res).getD j 0
      = if 1 ≤ j ∧ j ≤ k then res.getD j 0 - res.getD (j - 1) 0 else res.getD j 0 := by
  induction k generalizing res with
  | zero =>
    rw [if_neg (by omega)]
    rfl
  | succ k ih =>
    have hset : ∀ i, (res.set (k + 1) (res.getD (k + 1) 0 - res.getD k 0)).getD i 0
        = if i = k + 1 then res.getD (k + 1) 0 - res.getD k 0 else res.getD i 0 := by
      intro i
      simp only [List.getD_eq_getElem?_getD, List.getElem?_set]
      by_cases hi : k + 1 = i
      · rw [if_pos hi, if_pos hk, if_pos hi.symm, Option.getD_some]
      · rw [if_neg hi, if_neg (Ne.symm hi)]
    rw [subtractDown, ih _ (by rw [List.length_set]; omega)]
    -- the upper end of the loop has been written, and its lower neighbours not yet
    by_cases hj : j = k + 1
    · subst hj
      rw [if_neg (by omega), hset, if_pos rfl, if_pos (by omega), Nat.add_sub_cancel]
    · by_cases hle : 1 ≤ j ∧ j ≤ k
      · rw [if_pos hle, hset, hset, if_neg hj, if_neg (by omega), if_pos (by omega)]
      · rw [if_neg hle, hset, if_neg hj, if_neg (by omega)]

@[simp] theorem length_absoluteOutputOffsetsToRelative (off : List UInt64) :
    (absoluteOutputOffsetsToRelative off).length = off.length := by
  rw [absoluteOutputOffsetsToRelative, length_subtractDown, List.length_insertionSort]

theorem prefixSum_zero (offsets : List UInt64) :
    prefixSum offsets 0 = (offsets.getD 0 0).toNat := by
  cases offsets with
  | nil => rfl
  | cons offset offsets => simp [prefixSum]

theorem prefixSum_succ (offsets : List UInt64) (i : Nat) :
    prefixSum offsets (i + 1) = prefixSum offsets i + (offsets.getD (i + 1) 0).toNat := by
  unfold prefixSum
  rw [List.take_add_one (i := i + 1), List.map_append, List.sum_append]
  cases h : offsets[i + 1]? with
  | none => simp [h]
  | some offset => simp [h]

theorem prefixSum_subtractDown {res : List UInt64} (hsorted : res.Pairwise (· ≤ ·)) {i : Nat}
    (hi : i < res.length) :
    prefixSum (subtractDown (res.length - 1) res) i = (res.getD i 0).toNat := by
  induction i with
  | zero =>
    rw [prefixSum_zero, subtractDown_getD _ _ (by omega), if_neg (by omega)]
  | succ i ih =>
    have hle : res.getD i 0 ≤ res.getD (i + 1) 0 := by
      rw [List.getD_eq_getElem?_getD, List.getD_eq_getElem?_getD,
        List.getElem?_eq_getElem (by omega), List.getElem?_eq_getElem hi]
      exact List.pairwise_iff_getElem.mp hsorted i (i + 1) _ _ (by omega)
    rw [prefixSum_succ, ih (by omega), subtractDown_getD _ _ (by omega), if_pos (by omega),
      Nat.add_sub_cancel, UInt64.toNat_sub_of_le _ _ hle]
    have := UInt64.le_iff_toNat_le.mp hle
    omega

theorem prefixSum_relative {off : List UInt64} {i : Nat} (hi : i < off.length) :
    prefixSum (absoluteOutputOffsetsToRelative off) i
      = ((off.insertionSort (· ≤ ·)).getD i 0).toNat := by
  apply prefixSum_subtractDown (List.pairwise_insertionSort (· ≤ ·) off)
  rwa [List.length_insertionSort]

theorem prefixSum_relative_iff (off : List UInt64) :
    (∀ (i : Nat) (index : UInt64), off[i]? = some index →
      prefixSum (absoluteOutputOffsetsToRelative off) i = index.toNat)
      ↔ off.Pairwise (· ≤ ·) := by
  constructor
  · intro h
    have hsame : off = off.insertionSort (· ≤ ·) := by
      apply List.ext_getElem (List.length_insertionSort _ _).symm
      intro i hi hi'
      have hat := h i off[i] (List.getElem?_eq_getElem hi)
      rw [prefixSum_relative hi, List.getD_eq_getElem?_getD, List.getElem?_eq_getElem hi',
        Option.getD_some] at hat
      exact (UInt64.toNat_inj.mp hat).symm
    rw [hsame]
    exact List.pairwise_insertionSort (· ≤ ·) off
  · intro h i index hindex
    obtain ⟨hi, rfl⟩ := List.getElem?_eq_some_iff.mp hindex
    rw [prefixSum_relative hi, h.insertionSort_eq, List.getD_eq_getElem?_getD, hindex,
      Option.getD_some]

/-- `Input::ToKey`, which has no amount. -/
structure Input (Point : Type) where
  keyOffsets : List UInt64
  keyImage : Point
deriving DecidableEq

structure InnerInput (Point : Type) where
  source : TxSourceEntry
  keyOffsets : List UInt64
  input : Input Point
  keyOffset : Scalar
deriving DecidableEq

/-- `Commitment`, opened. -/
structure Commitment where
  mask : Scalar
  amount : UInt64
deriving DecidableEq

/-- What `Decoys::new` is given. -/
structure Decoys (Point : Type) where
  offsets : List UInt64
  signerIndex : UInt8
  ring : List (Point × Point)
deriving DecidableEq

structure ClsagContext (Point : Type) where
  decoys : Decoys Point
  commitment : Commitment
deriving DecidableEq

/-- What a transaction is signed from: its inputs, and for each the secret and the ring. -/
structure SigningInputs (Point : Type) where
  inputs : List (Input Point)
  clsagSigns : List (Scalar × ClsagContext Point)
deriving DecidableEq

section

variable {Point : Type} [AddCommGroup Point] [DecidableEq Point] (c : Curve Point)

def KeyImageSort (a b : InnerInput Point) : Prop :=
  ¬(c.compress a.input.keyImage).bytes < (c.compress b.input.keyImage).bytes

instance : DecidableRel (KeyImageSort c) := fun a b =>
  inferInstanceAs (Decidable ¬(c.compress a.input.keyImage).bytes < (c.compress b.input.keyImage).bytes)

def ringMember (output : OutputEntry) : Result (Point × Point) := do
  let dest ← c.point output.key.dest
  let mask ← c.point output.key.mask
  pure (dest, mask)

namespace TxConstructionData

variable (tx : TxConstructionData) (keypair : KeyPair)

def innerInput (source : TxSourceEntry) (index : Nat) : Result (InnerInput Point) := do
  let keyOffsets := absoluteOutputOffsetsToRelative (source.outputs.map (·.index))
  let keyImage ← tx.calcKeyImageByIndex c keypair index
  let point ← c.point keyImage.1
  pure ⟨source, keyOffsets, ⟨keyOffsets, point⟩, keyImage.2⟩

def inputs : Result (List (InnerInput Point)) := do
  let res ← collect (fun (source, index) => tx.innerInput c keypair source index) tx.sources.zipIdx
  pure (res.insertionSort (KeyImageSort c))

/-- What is given to the signer for an input. `accepts` stands for the checks that `Decoys::new`
and `ClsagContext::new` make. -/
def clsagSign (accepts : Decoys Point → Commitment → Bool) (input : InnerInput Point) (i : Nat) :
    Result (Scalar × ClsagContext Point) := do
  let ring ← collect (ringMember c) input.source.outputs
  let inputs ← tx.inputs c keypair
  let other ← Outcome.index inputs i
  let decoys := ⟨other.keyOffsets, input.source.realOutput.toUInt8, ring⟩
  let commitment := ⟨c.fromBytesModOrder input.source.mask, input.source.amount⟩
  if accepts decoys commitment then
    pure (c.add keypair.spend input.keyOffset, ⟨decoys, commitment⟩)
  else .halted

/-- The part of `sign` for the inputs of one transaction. -/
def signInputs (accepts : Decoys Point → Commitment → Bool) : Result (SigningInputs Point) := do
  let published ← tx.inputs c keypair
  let inputs ← tx.inputs c keypair
  let clsagSigns ← collect (fun (input, i) => tx.clsagSign c keypair accepts input i) inputs.zipIdx
  pure ⟨published.map (·.input), clsagSigns⟩

end TxConstructionData

def TxSourceEntry.InOrder (source : TxSourceEntry) : Prop :=
  (source.outputs.map (·.index)).Pairwise (· ≤ ·)

/-- What is published of an input and what its signer is given are about the same ring, and the
signer's place and secret are those of the real output. -/
structure Input.Consistent (source : TxSourceEntry) (published : Input Point) (secret : Scalar)
    (decoys : Decoys Point) : Prop where
  length_eq : decoys.ring.length = published.keyOffsets.length
  /-- The member at `i` is the output whose index is published there. -/
  ring : ∀ (i : Nat) (member : Point × Point), decoys.ring[i]? = some member →
    ∃ output, source.outputs[i]? = some output ∧ output.index.toNat = prefixSum published.keyOffsets i
      ∧ ringMember c output = .ok member
  signer : decoys.signerIndex.toNat = asUsize source.realOutput
  image : ∃ output, source.outputs[asUsize source.realOutput]? = some output
    ∧ c.decompress output.key.dest = some (c.mulBase secret)
    ∧ published.keyImage = secret • c.hashToPoint output.key.dest

variable {c} {tx : TxConstructionData} {keypair : KeyPair}

theorem tryToGenerateImage_image {key dest : Block 32} {index : UInt64} {major : UInt32}
    {minors : List UInt32} {image : Block 32} {offset : Scalar}
    (h : tryToGenerateImage c keypair key dest index major minors = .ok (image, offset)) :
    c.decompress dest = some (c.mulBase (c.add keypair.spend offset))
      ∧ image = c.compress (c.add keypair.spend offset • c.hashToPoint dest) := by
  induction minors with
  | nil => cases h
  | cons minor minors ih =>
    obtain ⟨offset', -, h⟩ := bind_eq_ok.mp h
    obtain ⟨found, hfound, h⟩ := bind_eq_ok.mp h
    obtain ⟨p, hp, hfound⟩ := bind_eq_ok.mp hfound
    by_cases hne : c.mulBase (c.add keypair.spend offset') ≠ p
    · rw [if_pos hne] at hfound
      cases hfound
      exact ih h
    · rw [if_neg hne] at hfound
      cases hfound
      cases h
      rw [not_not.mp hne]
      exact ⟨(c.point_eq_ok).mp hp, rfl⟩

namespace TxConstructionData

theorem innerInput_spec {source : TxSourceEntry} {index : Nat} {input : InnerInput Point}
    (hsource : tx.sources[index]? = some source)
    (h : tx.innerInput c keypair source index = .ok input) :
    input.source = source
      ∧ input.keyOffsets = absoluteOutputOffsetsToRelative (source.outputs.map (·.index))
      ∧ input.input.keyOffsets = input.keyOffsets
      ∧ ∃ output, source.outputs[asUsize source.realOutput]? = some output
        ∧ c.decompress output.key.dest = some (c.mulBase (c.add keypair.spend input.keyOffset))
        ∧ input.input.keyImage
          = c.add keypair.spend input.keyOffset • c.hashToPoint output.key.dest := by
  obtain ⟨found, hfound, h⟩ := bind_eq_ok.mp h
  obtain ⟨point, hpoint, h⟩ := bind_eq_ok.mp h
  cases h
  obtain ⟨source', hsource', hfound⟩ := bind_eq_ok.mp hfound
  obtain ⟨output, houtput, hfound⟩ := bind_eq_ok.mp hfound
  rw [Outcome.index, hsource] at hsource'
  cases hsource'
  obtain ⟨hdest, himage⟩ := tryToGenerateImage_image (unwrap_eq_ok.mp hfound)
  have hat : source.outputs[asUsize source.realOutput]? = some output :=
    Outcome.index_eq_ok.mp houtput
  rw [himage, c.point_compress] at hpoint
  cases hpoint
  exact ⟨rfl, rfl, rfl, output, hat, hdest, rfl⟩

theorem inputs_spec {inputs : List (InnerInput Point)} (h : tx.inputs c keypair = .ok inputs) :
    (inputs.map (·.source)).Perm tx.sources
      ∧ ∀ input ∈ inputs, ∃ (source : TxSourceEntry) (index : Nat),
        tx.sources[index]? = some source ∧ tx.innerInput c keypair source index = .ok input := by
  obtain ⟨res, hres, h⟩ := bind_eq_ok.mp h
  cases h
  have hall := collect_eq_ok.mp hres
  have hperm := List.perm_insertionSort (KeyImageSort c) res
  have hlen : res.length = tx.sources.length := by
    rw [← hall.length_eq, List.length_zipIdx]
  have hat : ∀ (i : Nat) (source : TxSourceEntry) (input : InnerInput Point),
      tx.sources[i]? = some source → res[i]? = some input →
      tx.innerInput c keypair source i = .ok input := by
    intro i source input hsource hinput
    have hzip : tx.sources.zipIdx[i]? = some (source, i) := by
      rw [List.getElem?_zipIdx, hsource]
      simp
    obtain ⟨input', hinput', hok⟩ := collect_getElem? hres hzip
    rw [hinput] at hinput'
    cases hinput'
    exact hok
  constructor
  · refine (hperm.map _).trans ?_
    rw [show res.map (·.source) = tx.sources from ?_]
    apply List.ext_getElem
    · rw [List.length_map, hlen]
    · intro i hi hi'
      rw [List.length_map] at hi
      rw [List.getElem_map]
      have hsource := List.getElem?_eq_getElem hi'
      exact (innerInput_spec hsource (hat i _ _ hsource (List.getElem?_eq_getElem hi))).1
  · intro input hinput
    obtain ⟨i, hi, rfl⟩ := List.getElem_of_mem (hperm.mem_iff.mp hinput)
    have hsource := List.getElem?_eq_getElem (hlen ▸ hi)
    exact ⟨_, i, hsource, hat i _ _ hsource (List.getElem?_eq_getElem hi)⟩

theorem clsagSign_spec {accepts : Decoys Point → Commitment → Bool}
    {inputs : List (InnerInput Point)} (hinputs : tx.inputs c keypair = .ok inputs) {i : Nat}
    {input : InnerInput Point} (hinput : inputs[i]? = some input)
    {sign : Scalar × ClsagContext Point} (h : tx.clsagSign c keypair accepts input i = .ok sign) :
    sign.1 = c.add keypair.spend input.keyOffset
      ∧ sign.2.decoys.offsets = input.keyOffsets
      ∧ sign.2.decoys.signerIndex = input.source.realOutput.toUInt8
      ∧ collect (ringMember c) input.source.outputs = .ok sign.2.decoys.ring := by
  obtain ⟨ring, hring, h⟩ := bind_eq_ok.mp h
  obtain ⟨inputs', hinputs', h⟩ := bind_eq_ok.mp h
  obtain ⟨other, hother, h⟩ := bind_eq_ok.mp h
  rw [hinputs] at hinputs'
  cases hinputs'
  rw [Outcome.index_eq_ok, hinput] at hother
  cases hother
  dsimp only at h
  split at h
  · cases h
    exact ⟨rfl, rfl, rfl, hring⟩
  · cases h

theorem signerIndex_iff (n : UInt64) : n.toUInt8.toNat = asUsize n ↔ asUsize n < 256 := by
  rw [asUsize, UInt64.toNat_toUInt8]
  omega

/-- **When a ring is consistent.** Of every input that is signed the ring, the signer's place and
the key image belong to the published one exactly if the host has listed the ring in ascending
order, with the real output among the first 256. -/
theorem sign_consistent_iff (c : Curve Point) {tx : TxConstructionData} {keypair : KeyPair}
    {accepts : Decoys Point → Commitment → Bool} {signed : SigningInputs Point}
    (h : tx.signInputs c keypair accepts = .ok signed) :
    ∃ inputs : List (InnerInput Point), tx.inputs c keypair = .ok inputs
      ∧ (inputs.map (·.source)).Perm tx.sources ∧ signed.inputs = inputs.map (·.input)
      ∧ signed.clsagSigns.length = inputs.length
      ∧ ∀ (i : Nat) (input : InnerInput Point) (sign : Scalar × ClsagContext Point),
        inputs[i]? = some input → signed.clsagSigns[i]? = some sign →
        (Input.Consistent c input.source input.input sign.1 sign.2.decoys
          ↔ input.source.InOrder ∧ asUsize input.source.realOutput < 256) := by
  obtain ⟨inputs, hinputs, hrest⟩ := bind_eq_ok.mp h
  obtain ⟨inputs', hinputs', hrest⟩ := bind_eq_ok.mp hrest
  obtain ⟨clsagSigns, hsigns, hsigned⟩ := bind_eq_ok.mp hrest
  rw [hinputs] at hinputs'
  cases hinputs'
  cases hsigned
  obtain ⟨hperm, hsources⟩ := inputs_spec hinputs
  refine ⟨inputs, hinputs, hperm, rfl, ?_, ?_⟩
  · rw [← (collect_eq_ok.mp hsigns).length_eq, List.length_zipIdx]
  · intro i input sign hinput hsign
    have hzip : inputs.zipIdx[i]? = some (input, i) := by
      rw [List.getElem?_zipIdx, hinput]
      simp
    obtain ⟨sign', hsign', hok⟩ := collect_getElem? hsigns hzip
    rw [hsign] at hsign'
    cases hsign'
    obtain ⟨hsecret, -, hsigner, hring⟩ := clsagSign_spec hinputs hinput hok
    obtain ⟨source, index, hsource, hinner⟩ := hsources input (List.mem_of_getElem? hinput)
    obtain ⟨rfl, hoffsets, hpublished, himage⟩ := innerInput_spec hsource hinner
    rw [hoffsets] at hpublished
    have hlen := (collect_eq_ok.mp hring).length_eq
    have hmember : ∀ (j : Nat) (output : OutputEntry), input.source.outputs[j]? = some output →
        ∃ member, sign.2.decoys.ring[j]? = some member ∧ ringMember c output = .ok member :=
      fun j output houtput => collect_getElem? hring houtput
    constructor
    · intro hconsistent
      constructor
      · refine (prefixSum_relative_iff _).mp ?_
        intro j offset hoffset
        rw [List.getElem?_map, Option.map_eq_some_iff] at hoffset
        obtain ⟨output, houtput, rfl⟩ := hoffset
        obtain ⟨member, hat, -⟩ := hmember j output houtput
        obtain ⟨output', houtput', hsum, -⟩ := hconsistent.ring j member hat
        rw [houtput] at houtput'
        cases houtput'
        rw [hsum, hpublished]
      · rw [← signerIndex_iff, ← hsigner]
        exact hconsistent.signer
    · intro hgood
      refine ⟨?_, ?_, ?_, ?_⟩
      · rw [hpublished, length_absoluteOutputOffsetsToRelative, List.length_map, ← hlen]
      · intro j member hat
        obtain ⟨hj, -⟩ := List.getElem?_eq_some_iff.mp hat
        have houtput := List.getElem?_eq_getElem (hlen ▸ hj)
        obtain ⟨member', hat', hok'⟩ := hmember j _ houtput
        rw [hat] at hat'
        cases hat'
        refine ⟨_, houtput, ?_, hok'⟩
        rw [hpublished]
        refine ((prefixSum_relative_iff _).mpr hgood.1 j _ ?_).symm
        rw [List.getElem?_map, houtput]
        rfl
      · rw [hsigner]
        exact (signerIndex_iff _).mpr hgood.2
      · rw [hsecret]
        exact himage

end TxConstructionData

end

def smallEntry (index : UInt64) (dest : UInt8) : OutputEntry :=
  ⟨index, ⟨Block.ofBytes 32 [dest], Block.ofBytes 32 [0]⟩⟩

def smallSource (outputs : List OutputEntry) (realOutput : UInt64) : TxSourceEntry where
  outputs
  realOutput
  realOutTxKey := Block.ofBytes 32 [1]
  realOutAdditionalTxKeys := []
  realOutputInTxIndex := 0
  amount := 10
  mask := Block.ofBytes 32 [0]

def smallRing (outputs : List OutputEntry) (realOutput : UInt64) : TxConstructionData where
  __ := smallTx (smallDest 4 2 false)
  sources := [smallSource outputs realOutput]

def smallAccepts (decoys : Decoys (ZMod 13)) (_ : Commitment) : Bool :=
  decoys.ring.length = decoys.offsets.length && decoys.ring.length < 256
    && decoys.signerIndex.toNat < decoys.ring.length

def smallSigned (signerIndex : UInt8) (ring : List (ZMod 13 × ZMod 13)) :
    SigningInputs (ZMod 13) where
  inputs := [⟨[3, 2], 4⟩]
  clsagSigns := [(7, ⟨⟨[3, 2], signerIndex, ring⟩, ⟨0, 10⟩⟩)]

def smallInner (outputs : List OutputEntry) (realOutput : UInt64) : InnerInput (ZMod 13) :=
  ⟨smallSource outputs realOutput, [3, 2], ⟨[3, 2], 4⟩, 3⟩

theorem signInputs_ascending : (smallRing [smallEntry 3 5, smallEntry 5 7] 1).signInputs
    smallCurve.toCurve smallWallet smallAccepts = .ok (smallSigned 1 [(5, 0), (7, 0)]) := by
  decide

theorem signInputs_descending : (smallRing [smallEntry 5 7, smallEntry 3 5] 0).signInputs
    smallCurve.toCurve smallWallet smallAccepts = .ok (smallSigned 0 [(7, 0), (5, 0)]) := by
  decide

namespace TxConstructionData

/-- In ascending order the ring is consistent. -/
theorem sign_consistent_ascending : Input.Consistent smallCurve.toCurve
    (smallSource [smallEntry 3 5, smallEntry 5 7] 1)
    (smallInner [smallEntry 3 5, smallEntry 5 7] 1).input 7 ⟨[3, 2], 1, [(5, 0), (7, 0)]⟩ := by
  obtain ⟨inputs, hinputs, -, -, -, hiff⟩ :=
    sign_consistent_iff smallCurve.toCurve signInputs_ascending
  have hinner : (smallRing [smallEntry 3 5, smallEntry 5 7] 1).inputs smallCurve.toCurve smallWallet
      = .ok [smallInner [smallEntry 3 5, smallEntry 5 7] 1] := by
    decide
  rw [hinner] at hinputs
  cases hinputs
  refine (hiff 0 _ _ rfl rfl).mpr ⟨?_, by decide⟩
  exact List.pairwise_pair.mpr (UInt64.le_iff_toNat_le.mpr (by decide))

/-- **A ring for another one**: listed in descending order, the members do not belong to the
published indices. -/
theorem sign_not_consistent : ¬∀ (c : Curve (ZMod 13)) (tx : TxConstructionData)
    (keypair : KeyPair) (accepts : Decoys (ZMod 13) → Commitment → Bool)
    (signed : SigningInputs (ZMod 13)), tx.signInputs c keypair accepts = .ok signed →
    ∀ inputs : List (InnerInput (ZMod 13)), tx.inputs c keypair = .ok inputs →
    ∀ (i : Nat) (input : InnerInput (ZMod 13)) (sign : Scalar × ClsagContext (ZMod 13)),
      inputs[i]? = some input → signed.clsagSigns[i]? = some sign →
      Input.Consistent c input.source input.input sign.1 sign.2.decoys := by
  intro claim
  have hconsistent := claim smallCurve.toCurve _ _ _ _ signInputs_descending
    [smallInner [smallEntry 5 7, smallEntry 3 5] 0] (by decide) 0 _ _ rfl rfl
  obtain ⟨output, houtput, hindex, -⟩ := hconsistent.ring 0 _ rfl
  cases houtput
  cases hindex

end TxConstructionData

end Keystone3.Monero
