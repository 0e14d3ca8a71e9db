import Keystone3.Logic.Panic
import Keystone3.Monero.Unsigned

/-!
# When a transaction can be built

A request is built into a transaction without a check: keys are taken for points, the real
outputs for those of the wallet, and a pair of outputs for a payment with its change. Whatever
is not so is a panic. `transactionWithoutSignatures_valueIff` says what a transaction has to be
like to be built: no more and no less than `Buildable`.
-/

namespace Keystone3.Monero

open Bytes (Block)
open Logic (Outcome)
open Logic.Outcome (ValueIff)
open Logic.Outcome (bind_eq_ok ok_bind valueIff_halted valueIff_ok)

section

variable {Point : Type} [AddCommGroup Point]

def Curve.IsPoint (c : Curve Point) (key : Block 32) : Prop := (c.decompress key).isSome = true

def RctType.Supported (type : RctType) : Prop := type = .null ∨ type = .full ∨ type = .bulletproof2

/-- The real output of a source is there, and it is the wallet's, at one of the indices. -/
def TxConstructionData.Spendable (c : Curve Point) (keypair : KeyPair) (tx : TxConstructionData)
    (source : TxSourceEntry) : Prop :=
  ∃ output, source.outputs[asUsize source.realOutput]? = some output
    ∧ ∃ minor ∈ tx.subaddrIndices, ∃ offset, calcOutputKeyOffset c keypair source.realOutTxKey
        source.realOutputInTxIndex tx.subaddrAccount minor = .ok offset
      ∧ c.decompress output.key.dest = some (c.mulBase (c.add keypair.spend offset))

structure TxConstructionData.Buildable (c : Curve Point) (keypair : KeyPair)
    (tx : TxConstructionData) : Prop where
  bpVersion : tx.bpVersion.Supported
  outputs : 0 < tx.splittedDsts.length ∧ tx.splittedDsts.length ≤ 16
  spend : ∀ dest ∈ tx.splittedDsts, c.IsPoint dest.addr.spendPublicKey
  view : ∀ dest ∈ tx.splittedDsts, dest ≠ tx.changeDts → c.IsPoint dest.addr.viewPublicKey
  change : tx.splittedDsts.length = 2 → tx.changeDts ∈ tx.splittedDsts
  inputs : ∀ source ∈ tx.sources, tx.Spendable c keypair source

/-- A proof is found for one amount and more, up to sixteen. -/
def TxCrypto.Proves (c : TxCrypto Point) : Prop := ∀ (plus : Bool) (seed : Block 32)
  (commitments : List Commitment), (c.prove plus seed commitments).isSome = true
    ↔ 0 < commitments.length ∧ commitments.length ≤ 16

end

theorem forall_mem_zipIdx {α : Type} {P : α → Prop} (as : List α) :
    (∀ p ∈ as.zipIdx, P p.1) ↔ ∀ a ∈ as, P a := by
  have hmap := List.forall_mem_map (f := Prod.fst) (l := as.zipIdx) (P := P)
  rw [List.zipIdx_map_fst] at hmap
  exact hmap.symm

theorem forall_mem_zip {α β : Type} {P : β → Prop} {as : List α} {bs : List β}
    (hlength : as.length = bs.length) : (∀ p ∈ as.zip bs, P p.2) ↔ ∀ b ∈ bs, P b := by
  have hmap := List.forall_mem_map (f := Prod.snd) (l := as.zip bs) (P := P)
  rw [List.map_snd_zip hlength.ge] at hmap
  exact hmap.symm

theorem forall_mem_zip_fst {α β : Type} {P : α → Prop} {as : List α} {bs : List β}
    (hlength : as.length = bs.length) : (∀ p ∈ as.zip bs, P p.1) ↔ ∀ a ∈ as, P a := by
  have hmap := List.forall_mem_map (f := Prod.fst) (l := as.zip bs) (P := P)
  rw [List.map_fst_zip hlength.le] at hmap
  exact hmap.symm

section

variable {Point : Type} [AddCommGroup Point]

theorem Curve.point_valueIff (c : Curve Point) (key : Block 32) :
    ValueIff (c.point key) (c.IsPoint key) := by
  unfold Curve.point Curve.IsPoint
  cases c.decompress key with
  | none => exact valueIff_halted.congr (iff_of_false id Bool.false_ne_true)
  | some p => exact (valueIff_ok p).congr (iff_of_true trivial rfl)

namespace TxConstructionData

variable (c : Crypto Point) (tx : TxConstructionData) (keypair : KeyPair)

/-- What the keys of a transaction are made from: the spend key of the first subaddress, or those
of all subaddresses. -/
structure KeysMade : Prop where
  first : tx.hasPaymentsToSubaddresses = true → tx.shouldUseAdditionalKeys = false →
    ∀ dest, tx.splittedDsts.find? (·.isSubaddress) = some dest → c.IsPoint dest.addr.spendPublicKey
  additional : tx.shouldUseAdditionalKeys = true →
    ∀ dest ∈ tx.splittedDsts, dest.isSubaddress = true → c.IsPoint dest.addr.spendPublicKey

/-- What the secrets of the outputs are made from: the keys, and the view keys of all that is not
change. -/
def SecretsMade : Prop := tx.KeysMade c
  ∧ ∀ dest ∈ tx.splittedDsts, dest ≠ tx.changeDts → c.IsPoint dest.addr.viewPublicKey

theorem additionalKeyPub_valueIff (key : Scalar) (dest : TxDestinationEntry) :
    ValueIff (additionalKeyPub c key dest)
      (dest.isSubaddress = true → c.IsPoint dest.addr.spendPublicKey) := by
  unfold additionalKeyPub
  refine (ValueIff.ite (fun _ => (c.point_valueIff dest.addr.spendPublicKey).map)
    fun _ => valueIff_ok _).congr ?_
  exact and_iff_left fun _ => trivial

theorem transactionKeys_valueIff : ValueIff (tx.transactionKeys c) (tx.KeysMade c) := by
  unfold transactionKeys
  dsimp only
  cases hadditional : tx.shouldUseAdditionalKeys with
  | true =>
    -- a key for each destination, bound to it if it is a subaddress
    rw [Bool.not_true, Bool.and_false, if_neg Bool.false_ne_true, if_pos rfl, if_pos rfl]
    refine (ValueIff.collect (P := fun p =>
      p.2.isSubaddress = true → c.IsPoint p.2.addr.spendPublicKey)
      fun p _ => additionalKeyPub_valueIff c p.1 p.2).map.congr ?_
    rw [forall_mem_zip (P := fun dest : TxDestinationEntry =>
      dest.isSubaddress = true → c.IsPoint dest.addr.spendPublicKey) (by simp)]
    constructor
    · intro h
      exact ⟨fun _ hnone => absurd (hnone.symm.trans hadditional) Bool.false_ne_true, fun _ => h⟩
    · intro h
      exact h.additional hadditional
  | false =>
    cases hsub : tx.hasPaymentsToSubaddresses with
    | false =>
      -- one key, bound to nothing
      rw [Bool.false_and, if_neg Bool.false_ne_true, if_neg Bool.false_ne_true,
        if_neg Bool.false_ne_true]
      refine (valueIff_ok _).congr (iff_of_true trivial ⟨fun htrue => ?_, fun htrue => ?_⟩)
      · cases hsub.symm.trans htrue
      · cases hadditional.symm.trans htrue
    | true =>
      rw [Bool.not_false, Bool.and_self, if_pos rfl]
      -- one key, bound to the first subaddress, which is there
      obtain ⟨dest, hdest, hkind⟩ := List.any_eq_true.mp hsub
      obtain ⟨found, hfound⟩ := Option.isSome_iff_exists.mp
        (List.find?_isSome.mpr ⟨dest, hdest, hkind⟩)
      have hfirst : tx.firstSubaddress = .ok found := by
        rw [firstSubaddress, hfound]
      rw [hfirst, ok_bind]
      refine (c.point_valueIff found.addr.spendPublicKey).map.congr ?_
      constructor
      · intro h
        refine ⟨fun _ _ other hother => ?_, fun htrue => ?_⟩
        · cases hfound.symm.trans hother
          exact h
        · cases hadditional.symm.trans htrue
      · intro h
        exact h.first hsub hadditional found hfound

theorem ecdhs_valueIff : ValueIff (tx.ecdhs c keypair) (tx.SecretsMade c) := by
  refine (transactionKeys_valueIff c tx).bind fun keys _ => ?_
  rw [← forall_mem_zipIdx (P := fun dest : TxDestinationEntry =>
    dest ≠ tx.changeDts → c.IsPoint dest.addr.viewPublicKey)]
  refine ValueIff.collect fun p _ => ?_
  show ValueIff (tx.ecdh c keypair keys p.1 p.2) _
  unfold ecdh isChangeDest
  by_cases hchange : p.1 = tx.changeDts
  · simp only [hchange, decide_true, if_true]
    exact (valueIff_ok _).congr (iff_of_true trivial fun hne => absurd rfl hne)
  · simp only [hchange, decide_false, Bool.false_eq_true, if_false]
    exact (c.point_valueIff p.1.addr.viewPublicKey).map.congr ⟨fun h _ => h, fun h => h hchange⟩

theorem sharedKeyDerivations_valueIff :
    ValueIff (tx.sharedKeyDerivations c keypair) (tx.SecretsMade c) :=
  (ecdhs_valueIff c tx keypair).map

theorem length_sharedKeyDerivations {derivations : List SharedKeyDerivations}
    (h : tx.sharedKeyDerivations c keypair = .ok derivations) :
    derivations.length = tx.splittedDsts.length := by
  obtain ⟨secrets, hsecrets, h⟩ := bind_eq_ok.mp h
  cases h
  rw [List.length_map, List.length_zipIdx, length_ecdhs hsecrets]

theorem extraFields_valueIff : ValueIff (tx.extraFields c keypair) (tx.SecretsMade c
    ∧ (tx.splittedDsts.length = 2 → tx.changeDts ∈ tx.splittedDsts)) := by
  have hxors : ValueIff (tx.paymentIdXors c keypair) (tx.SecretsMade c) :=
    (ecdhs_valueIff c tx keypair).map
  refine ((transactionKeys_valueIff c tx).bind fun keys _ => hxors.bind
    (Q := tx.splittedDsts.length = 2 → tx.changeDts ∈ tx.splittedDsts) fun xors hmade => ?_).congr ?_
  · dsimp only
    by_cases htwo : tx.splittedDsts.length = 2
    · rw [if_pos htwo]
      obtain ⟨secrets, hsecrets, hmade⟩ := bind_eq_ok.mp hmade
      cases hmade
      have hlength := length_ecdhs hsecrets
      -- the change is found exactly if it is among the destinations
      cases hfind : (tx.splittedDsts.zip (secrets.map c.paymentIdXor)).find?
          fun p => tx.isChangeDest p.1 with
      | some p =>
        refine (valueIff_ok _).congr (iff_of_true trivial fun _ => ?_)
        have hmem := (List.of_mem_zip (List.mem_of_find?_eq_some hfind)).1
        have hchange := List.find?_some hfind
        rwa [of_decide_eq_true hchange] at hmem
      | none =>
        refine valueIff_halted.congr (iff_of_false id fun h => ?_)
        obtain ⟨i, hi, hdest⟩ := List.mem_iff_getElem.mp (h htwo)
        have hi' : i < (tx.splittedDsts.zip (secrets.map c.paymentIdXor)).length := by
          rw [List.length_zip, List.length_map]
          omega
        have hnot := List.find?_eq_none.mp hfind _ (List.getElem_mem hi')
        rw [List.getElem_zip] at hnot
        exact hnot (decide_eq_true hdest)
    · rw [if_neg htwo]
      exact (valueIff_ok _).congr (iff_of_true trivial fun h => absurd h htwo)
  · constructor
    · exact fun h => h.2
    · exact fun h => ⟨h.1.1, h⟩

end TxConstructionData

end

section

variable {Point : Type} [AddCommGroup Point] (c : TxCrypto Point) (tx : TxConstructionData)
  (keypair : KeyPair)

namespace TxConstructionData

theorem hasViewTags_valueIff : ValueIff tx.hasViewTags tx.bpVersion.Supported := by
  unfold hasViewTags RctType.Supported
  cases tx.bpVersion with
  | null => exact (valueIff_ok _).congr (by simp)
  | full => exact (valueIff_ok _).congr (by simp)
  | simple => exact valueIff_halted.congr (by simp)
  | bulletproof => exact valueIff_halted.congr (by simp)
  | bulletproof2 => exact (valueIff_ok _).congr (by simp)
  | clsag => exact valueIff_halted.congr (by simp)
  | bulletproofPlus => exact valueIff_halted.congr (by simp)

theorem innerOutput_valueIff (dest : TxDestinationEntry) (derivations : SharedKeyDerivations) :
    ValueIff (tx.innerOutput c dest derivations)
      (c.IsPoint dest.addr.spendPublicKey ∧ tx.bpVersion.Supported) :=
  (c.point_valueIff dest.addr.spendPublicKey).bind fun _ _ => (hasViewTags_valueIff tx).map

theorem outputs_valueIff : ValueIff (tx.outputs c keypair) (tx.SecretsMade c.toCrypto
    ∧ ∀ dest ∈ tx.splittedDsts, c.IsPoint dest.addr.spendPublicKey
      ∧ tx.bpVersion.Supported) := by
  refine (sharedKeyDerivations_valueIff c.toCrypto tx keypair).bind fun derivations hmade => ?_
  have hlength := length_sharedKeyDerivations c.toCrypto tx keypair hmade
  refine (ValueIff.collect (P := fun p : TxDestinationEntry × SharedKeyDerivations =>
    c.IsPoint p.1.addr.spendPublicKey ∧ tx.bpVersion.Supported)
    fun p _ => innerOutput_valueIff c tx p.1 p.2).congr ?_
  exact forall_mem_zip_fst (P := fun dest : TxDestinationEntry =>
    c.IsPoint dest.addr.spendPublicKey ∧ tx.bpVersion.Supported) hlength.symm

theorem commitmentsAndEncryptedAmounts_valueIff :
    ValueIff (tx.commitmentsAndEncryptedAmounts c keypair) (tx.SecretsMade c.toCrypto) :=
  (sharedKeyDerivations_valueIff c.toCrypto tx keypair).map

theorem length_commitments {pairs : List (Commitment × Block 8)}
    (h : tx.commitmentsAndEncryptedAmounts c keypair = .ok pairs) :
    pairs.length = tx.splittedDsts.length := by
  obtain ⟨derivations, hmade, h⟩ := bind_eq_ok.mp h
  cases h
  rw [List.length_map, List.length_zip, length_sharedKeyDerivations c.toCrypto tx keypair hmade,
    Nat.min_self]

theorem bulletproof_valueIff (hproves : c.Proves) (commitments : List Commitment) :
    ValueIff (tx.bulletproof c commitments)
      (tx.bpVersion.Supported ∧ 0 < commitments.length ∧ commitments.length ≤ 16) :=
  (hasViewTags_valueIff tx).bind fun plus _ =>
    (Outcome.valueIff_unwrap _).congr (hproves plus _ commitments)

end TxConstructionData

end

section

variable {Point : Type} [AddCommGroup Point] [DecidableEq Point] (c : Curve Point)
  (keypair : KeyPair)

omit [DecidableEq Point] in
theorem calcOutputKeyOffset_valueIff (key : Block 32) (index : UInt64) (major minor : UInt32) :
    ValueIff (calcOutputKeyOffset c keypair key index major minor) (c.IsPoint key) :=
  (c.point_valueIff key).map

theorem tryToGenerateImage_valueIff (key dest : Block 32) (index : UInt64) (major : UInt32)
    (minors : List UInt32) :
    ValueIff (unwrap (tryToGenerateImage c keypair key dest index major minors))
      (∃ minor ∈ minors, ∃ offset, calcOutputKeyOffset c keypair key index major minor = .ok offset
        ∧ c.decompress dest = some (c.mulBase (c.add keypair.spend offset))) := by
  have hoffset := calcOutputKeyOffset_valueIff c keypair key index major
  by_cases hpoints : c.IsPoint key ∧ c.IsPoint dest
  · -- with both points an index is right or wrong, and the search goes on behind a wrong one
    obtain ⟨p, hp⟩ := Option.isSome_iff_exists.mp hpoints.2
    induction minors with
    | nil => exact valueIff_halted.congr (iff_of_false id fun ⟨_, h, _⟩ => nomatch h)
    | cons minor minors ih =>
      obtain ⟨offset, hmade⟩ := (hoffset minor).exists_ok hpoints.1
      rw [tryToGenerateImage, hmade, ok_bind, generateKeyImageFromOffset,
        c.point_eq_ok.mpr hp, ok_bind, Outcome.pure_eq, ok_bind]
      by_cases hfits : c.mulBase (c.add keypair.spend offset) = p
      · rw [if_neg (not_not.mpr hfits)]
        refine (valueIff_ok _).congr (iff_of_true trivial ?_)
        exact ⟨minor, .head _, offset, hmade, hp.trans (congrArg some hfits.symm)⟩
      · rw [if_pos hfits]
        refine ih.congr ?_
        constructor
        · rintro ⟨minor', hminor', h⟩
          exact ⟨minor', List.mem_cons_of_mem minor hminor', h⟩
        · rintro ⟨minor', hminor', offset', hmade', h⟩
          rcases List.mem_cons.mp hminor' with rfl | hminor'
          · cases hmade.symm.trans hmade'
            exact absurd (Option.some.inj (hp.symm.trans h)).symm hfits
          · exact ⟨minor', hminor', offset', hmade', h⟩
  · -- without the two points the first index panics, and no index can be right
    constructor
    · rintro ⟨minor, -, offset, hmade, h⟩
      exact absurd ⟨(hoffset minor).holds hmade, Option.isSome_iff_exists.mpr ⟨_, h⟩⟩ hpoints
    · intro _
      cases minors with
      | nil => rfl
      | cons minor minors =>
        rw [tryToGenerateImage]
        by_cases hkey : c.IsPoint key
        · obtain ⟨offset, hmade⟩ := (hoffset minor).exists_ok hkey
          have hdest := (c.point_valueIff dest).halted fun hdest => hpoints ⟨hkey, hdest⟩
          rw [hmade, ok_bind, generateKeyImageFromOffset, hdest]
          rfl
        · rw [(hoffset minor).halted hkey]
          rfl

variable (tx : TxConstructionData)

namespace TxConstructionData

theorem calcKeyImageByIndex_valueIff {source : TxSourceEntry} {i : Nat}
    (hsource : tx.sources[i]? = some source) :
    ValueIff (tx.calcKeyImageByIndex c keypair i) (tx.Spendable c keypair source) := by
  rw [calcKeyImageByIndex, Outcome.index_eq_ok.mpr hsource, ok_bind]
  refine ((Outcome.valueIff_index source.outputs _).bind_on fun output _ =>
    tryToGenerateImage_valueIff c keypair source.realOutTxKey output.key.dest
      source.realOutputInTxIndex tx.subaddrAccount tx.subaddrIndices).congr ?_
  simp only [Outcome.index_eq_ok]
  rfl

theorem innerInput_valueIff {source : TxSourceEntry} {i : Nat}
    (hsource : tx.sources[i]? = some source) :
    ValueIff (tx.innerInput c keypair source i) (tx.Spendable c keypair source) := by
  refine ((calcKeyImageByIndex_valueIff c keypair tx hsource).bind (Q := True)
    fun image himage => ?_).congr (and_iff_left trivial)
  -- the image is the compressed form of a point
  obtain ⟨source', -, himage⟩ := bind_eq_ok.mp himage
  obtain ⟨output, -, himage⟩ := bind_eq_ok.mp himage
  obtain ⟨-, hcompressed⟩ := tryToGenerateImage_image (unwrap_eq_ok.mp himage)
  rw [hcompressed, c.point_compress]
  exact valueIff_ok _

theorem inputs_valueIff : ValueIff (tx.inputs c keypair)
    (∀ source ∈ tx.sources, tx.Spendable c keypair source) := by
  rw [← forall_mem_zipIdx]
  refine (ValueIff.collect fun p hp => ?_).map
  exact innerInput_valueIff c keypair tx (List.mem_zipIdx_iff_getElem?.mp hp)

end TxConstructionData

end

section

variable {Point : Type} [AddCommGroup Point] [DecidableEq Point] (c : TxCrypto Point)
  (tx : TxConstructionData) (keypair : KeyPair)

namespace TxConstructionData

omit [DecidableEq Point] in
theorem keysMade_of_spend (h : ∀ dest ∈ tx.splittedDsts, c.IsPoint dest.addr.spendPublicKey) :
    tx.KeysMade c.toCrypto :=
  ⟨fun _ _ dest hfind => h dest (List.mem_of_find?_eq_some hfind), fun _ dest hdest _ => h dest hdest⟩

theorem transactionWithoutSignatures_valueIff (hproves : c.Proves) :
    ValueIff (tx.transactionWithoutSignatures c keypair) (tx.Buildable c.toCurve keypair) := by
  have hproof : ∀ pairs, tx.commitmentsAndEncryptedAmounts c keypair = .ok pairs →
      ValueIff (tx.bulletproof c (pairs.map (·.1))) (tx.bpVersion.Supported
        ∧ 0 < tx.splittedDsts.length ∧ tx.splittedDsts.length ≤ 16) := by
    intro pairs hpairs
    have hmade := bulletproof_valueIff c tx hproves (pairs.map (·.1))
    rwa [List.length_map, length_commitments c tx keypair hpairs] at hmade
  refine ((commitmentsAndEncryptedAmounts_valueIff c tx keypair).bind fun pairs hpairs =>
    (hproof pairs hpairs).bind fun _ _ => (inputs_valueIff c.toCurve keypair tx).bind fun _ _ =>
    (outputs_valueIff c tx keypair).bind fun _ _ =>
    (extraFields_valueIff c.toCrypto tx keypair).map).congr ?_
  -- the conditions of the parts overlap, and together they are those of the whole
  constructor
  · rintro ⟨hsecrets, ⟨hsupported, hcount⟩, hinputs, ⟨-, houtputs⟩, -, hchange⟩
    exact ⟨hsupported, hcount, fun dest hdest => (houtputs dest hdest).1, hsecrets.2, hchange,
      hinputs⟩
  · intro h
    have hsecrets : tx.SecretsMade c.toCrypto := ⟨keysMade_of_spend c tx h.spend, h.view⟩
    exact ⟨hsecrets, ⟨h.bpVersion, h.outputs⟩, h.inputs,
      ⟨hsecrets, fun dest hdest => ⟨h.spend dest hdest, h.bpVersion⟩⟩, hsecrets, h.change⟩

end TxConstructionData

end

end Keystone3.Monero
