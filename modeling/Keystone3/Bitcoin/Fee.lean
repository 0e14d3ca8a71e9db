import Keystone3.Bitcoin.OwnInputs

/-!
# The fee that is shown

An input that is signed with `ANYONECANPAY` leaves the other inputs open, and what the
transaction pays in fees is then not known. `normalize` gives the fee up for such a
transaction, and with it the check that the inputs cover the outputs.
-/

namespace Keystone3.Bitcoin

open Bytes (Block)
open Logic.Outcome (bind_eq_ok collect collect_eq_ok)

/-- The signature type that an input declares, as the code reads it, leaves the
other inputs open. -/
def anyoneCanPay (lib : BitcoinLib) (input : Input) : Bool :=
  ((input.sighashType.bind lib.ecdsaHashTy).getD 1).toUInt8 &&& 0x80 > 0

def sumOf (values : List UInt64) : Nat := (values.map UInt64.toNat).sum

def inputValues (lib : BitcoinLib) (psbt : Psbt) : Result (List UInt64) :=
  collect (fun (input, i) => inputValue lib psbt input i) psbt.inputs.zipIdx

def outputValues (psbt : Psbt) : List UInt64 := psbt.unsignedTx.output.map (·.value)

/-- The fee that is shown, in the overview and in the details, is what the inputs
have and the outputs do not. -/
def FeeTrue (inputs outputs : List UInt64) (tx : ParsedTx) : Prop :=
  tx.overview.feeAmount = tx.detail.feeAmount ∧
    tx.detail.feeAmount.toNat + sumOf outputs = sumOf inputs

theorem sum_values_from (values : List UInt64) (acc : UInt64) :
    (values.foldl (· + ·) acc).toNat = (acc.toNat + sumOf values) % 2 ^ 64 := by
  induction values generalizing acc with
  | nil => exact (Nat.mod_eq_of_lt acc.toNat_lt).symm
  | cons value values ih =>
    rw [List.foldl_cons, ih, UInt64.toNat_add]
    show _ = (acc.toNat + (value.toNat + sumOf values)) % 2 ^ 64
    omega

/-- **The sums of the code** are those of the values, up to 64 bits. -/
theorem sum_values (values : List UInt64) :
    (values.foldl (· + ·) 0).toNat = sumOf values % 2 ^ 64 := by
  have h := sum_values_from values 0
  rwa [show (0 : UInt64).toNat = 0 from rfl, Nat.zero_add] at h

theorem normalize_fee {inputs : List ParsedInput} {outputs : List ParsedOutput} {name : String}
    {tx : ParsedTx} (h : normalize inputs outputs name = .ok tx) :
    tx.overview.feeAmount = tx.detail.feeAmount ∧
      (if inputs.any fun v => v.ecdsaSighashType &&& 0x80 > 0 then tx.detail.feeAmount = 0
      else sumOf (outputs.map (·.value)) % 2 ^ 64 ≤ sumOf (inputs.map (·.value)) % 2 ^ 64 ∧
        tx.detail.feeAmount.toNat + sumOf (outputs.map (·.value)) % 2 ^ 64 =
          sumOf (inputs.map (·.value)) % 2 ^ 64) := by
  have hin := sum_values (inputs.map (·.value))
  have hout := sum_values (outputs.map (·.value))
  rw [List.foldl_map] at hin hout
  have hany : (inputs.find? fun v => v.ecdsaSighashType &&& 0x80 > 0).isSome
      = inputs.any fun v => v.ecdsaSighashType &&& 0x80 > 0 := by
    rw [Bool.eq_iff_iff, List.find?_isSome, List.any_eq_true]
  unfold normalize at h
  simp only [hany] at h
  by_cases hacp : (inputs.any fun v => v.ecdsaSighashType &&& 0x80 > 0) = true
  · simp only [hacp, Bool.not_true, Bool.false_and, Bool.false_eq_true, if_false, if_true] at h
    cases h
    refine ⟨rfl, ?_⟩
    rw [if_pos hacp]
  · rw [Bool.not_eq_true] at hacp
    simp only [hacp, Bool.not_false, Bool.true_and, Bool.false_eq_true, if_false,
      decide_eq_true_eq] at h
    split at h
    · cases h
    · rename_i hle
      cases h
      rw [UInt64.not_lt, UInt64.le_iff_toNat_le] at hle
      refine ⟨rfl, ?_⟩
      rw [if_neg (by rw [hacp]; exact Bool.false_ne_true), ← hin, ← hout]
      refine ⟨hle, ?_⟩
      show (_ - _ : UInt64).toNat + _ = _
      rw [UInt64.toNat_sub_of_le _ _ (UInt64.le_iff_toNat_le.mpr hle)]
      omega

section

variable {lib : BitcoinLib} {psbt : Psbt} {context : ParseContext} {tx : ParsedTx}

theorem parseInput_sighash {input : Input} {index : Nat} {network : Network} {parsed : ParsedInput}
    (h : parseInput lib psbt input index context network = .ok parsed) :
    (parsed.ecdsaSighashType &&& 0x80 > 0) ↔ anyoneCanPay lib input = true := by
  obtain ⟨address, -, h⟩ := bind_eq_ok.mp h
  obtain ⟨value, hvalue, h⟩ := bind_eq_ok.mp h
  obtain ⟨path, -, h⟩ := bind_eq_ok.mp h
  obtain ⟨needSign, -, h⟩ := bind_eq_ok.mp h
  cases h
  rw [anyoneCanPay, decide_eq_true_eq]

def NoForeignAnyoneCanPay (lib : BitcoinLib) (context : ParseContext) (psbt : Psbt) : Prop :=
  ∀ (index : Nat) (input : Input), psbt.inputs[index]? = some input →
    ¬Mine lib context input index → anyoneCanPay lib input = false

theorem any_collect {α β : Type} {f : α × Nat → Result β} {p : α → Bool} {q : β → Bool}
    (hf : ∀ a i b, f (a, i) = .ok b → q b = p a) {as : List α} {bs : List β}
    (h : collect f as.zipIdx = .ok bs) : bs.any q = as.any p := by
  have hall := collect_eq_ok.mp h
  have hgeneral : ∀ (n : Nat) (as : List α) (bs : List β),
      List.Forall₂ (fun a b => f a = .ok b) (as.zipIdx n) bs → bs.any q = as.any p := by
    intro n as
    induction as generalizing n with
    | nil =>
      intro bs h
      rw [List.zipIdx_nil, List.forall₂_nil_left_iff] at h
      rw [h]
      rfl
    | cons a as ih =>
      intro bs h
      rw [List.zipIdx_cons, List.forall₂_cons_left_iff] at h
      obtain ⟨b, bs', hb, hrest, rfl⟩ := h
      rw [List.any_cons, List.any_cons, hf a n b hb, ih (n + 1) bs' hrest]
  exact hgeneral 0 as bs hall

theorem values_of_inputs {network : Network} {inputs : List ParsedInput}
    (h : collect (fun (input, i) => parseInput lib psbt input i context network)
      psbt.inputs.zipIdx = .ok inputs) :
    inputValues lib psbt = .ok (inputs.map (·.value)) := by
  refine collect_eq_ok.mpr ?_
  rw [List.forall₂_map_right_iff]
  exact (collect_eq_ok.mp h).imp fun _ _ hread => parseInput_value hread

theorem values_of_outputs {network : Network} {outputs : List ParsedOutput}
    (hpaired : psbt.outputs.length = psbt.unsignedTx.output.length)
    (h : collect (fun (output, i) => parseOutput lib psbt output i context network)
      psbt.outputs.zipIdx = .ok outputs) :
    outputs.map (·.value) = outputValues psbt := by
  have hlength : outputs.length = psbt.outputs.length := by
    rw [← (collect_eq_ok.mp h).length_eq, List.length_zipIdx]
  refine List.ext_getElem (by rw [outputValues, List.length_map, List.length_map, hlength, hpaired])
    fun i hi hi' => ?_
  rw [List.length_map] at hi
  have hout : i < psbt.outputs.length := hlength ▸ hi
  obtain ⟨parsed, hparsed, hread⟩ := collect_zipIdx h (List.getElem?_eq_getElem hout)
  obtain ⟨txOut, path, htxOut, -, hvalue⟩ := parseOutput_eq_ok.mp hread
  rw [List.getElem?_eq_getElem hi] at hparsed
  obtain ⟨htx, htxOut⟩ := List.getElem?_eq_some_iff.mp htxOut
  simp only [outputValues, List.getElem_map]
  rw [Option.some.inj hparsed, hvalue, ← htxOut]

/-- **When the fee is true.** With no `ANYONECANPAY` on an input of the wallet, the
fee that is shown is what the inputs have more than the outputs exactly when no
foreign input has it either, and the sums carry the same out of 64 bits, or there
is no fee. -/
theorem fee_true_iff (lib : BitcoinLib) (psbt : Psbt) (context : ParseContext) (tx : ParsedTx)
    (hpaired : psbt.outputs.length = psbt.unsignedTx.output.length)
    (hparse : parse lib psbt (some context) = .ok tx)
    (hmine : ∀ (index : Nat) (input : Input), psbt.inputs[index]? = some input →
      Mine lib context input index → anyoneCanPay lib input = false) :
    ∃ values, inputValues lib psbt = .ok values ∧
      (FeeTrue values (outputValues psbt) tx ↔
        (NoForeignAnyoneCanPay lib context psbt →
          sumOf values / 2 ^ 64 = sumOf (outputValues psbt) / 2 ^ 64) ∧
        (¬NoForeignAnyoneCanPay lib context psbt →
          sumOf values = sumOf (outputValues psbt))) := by
  obtain ⟨network, name, hinputs, houtputs, hnormalize⟩ := parse_normalize hparse
  obtain ⟨hsame, hfee⟩ := normalize_fee hnormalize
  rw [values_of_outputs hpaired houtputs] at hfee
  refine ⟨_, values_of_inputs hinputs, ?_⟩
  have hany : tx.detail.fromInputs.any (fun v => v.ecdsaSighashType &&& 0x80 > 0)
      = psbt.inputs.any (anyoneCanPay lib) :=
    any_collect (fun input index parsed hread => by
      rw [Bool.eq_iff_iff, decide_eq_true_eq]
      exact parseInput_sighash hread) hinputs
  have hforeign : psbt.inputs.any (anyoneCanPay lib) = true ↔
      ¬NoForeignAnyoneCanPay lib context psbt := by
    constructor
    · intro h hnone
      obtain ⟨input, hinput, hacp⟩ := List.any_eq_true.mp h
      obtain ⟨index, hindex⟩ := List.mem_iff_getElem?.mp hinput
      by_cases hown : Mine lib context input index
      · rw [hmine index input hindex hown] at hacp
        cases hacp
      · rw [hnone index input hindex hown] at hacp
        cases hacp
    · intro h
      by_contra hnone
      refine h fun index input hindex _ => ?_
      rw [Bool.eq_false_iff]
      exact fun hacp => hnone (List.any_eq_true.mpr ⟨input, List.mem_of_getElem? hindex, hacp⟩)
  rw [hany] at hfee
  by_cases hnone : NoForeignAnyoneCanPay lib context psbt
  · rw [if_neg fun h => hforeign.mp h hnone] at hfee
    constructor
    · intro h
      refine ⟨fun _ => ?_, fun hnot => absurd hnone hnot⟩
      have htrue := h.2
      omega
    · intro h
      have hcarry := h.1 hnone
      exact ⟨hsame, by omega⟩
  · rw [if_pos (hforeign.mpr hnone)] at hfee
    have hzero : tx.detail.feeAmount.toNat = 0 := by
      rw [hfee]
      rfl
    constructor
    · intro h
      refine ⟨fun h' => absurd h' hnone, fun _ => ?_⟩
      have htrue := h.2
      omega
    · intro h
      have hequal := h.2 hnone
      exact ⟨hsame, by omega⟩

end

def foreignInput (sighashType : UInt32) (utxo : TxOut) : Input where
  nonWitnessUtxo := none
  witnessUtxo := some utxo
  partialSigs := .empty
  sighashType := some sighashType
  redeemScript := none
  witnessScript := none
  bip32Derivation := .empty
  tapKeySig := none
  tapScriptSigs := .empty
  tapKeyOrigins := .empty
  tapInternalKey := none
  tapMerkleRoot := none

def jointPsbt (sighashType : UInt32) : Psbt where
  unsignedTx := ⟨2, 0, [⟨⟨Block.zero 32, 0⟩, [], 0, []⟩, ⟨⟨Block.zero 32, 1⟩, [], 0, []⟩],
    [⟨900, foreignScript⟩]⟩
  xpub := .empty
  unknown := .empty
  inputs := [sampleInput 84 none ⟨5000, [0, 20] ++ List.replicate 20 7⟩,
    foreignInput sighashType ⟨3000, foreignScript⟩]
  outputs := [⟨.empty, .empty⟩]

def jointParsed (sighashType : UInt32) : Option ParsedTx :=
  match parse BitcoinLib.sample (jointPsbt sighashType) (some (sampleContext 84)) with
  | .ok tx => some tx
  | _ => none

theorem parse_jointParsed {sighashType : UInt32} {tx : ParsedTx}
    (h : jointParsed sighashType = some tx) :
    parse BitcoinLib.sample (jointPsbt sighashType) (some (sampleContext 84)) = .ok tx := by
  unfold jointParsed at h
  split at h
  · rename_i hparse
    cases h
    exact hparse
  · cases h

theorem mine_joint (sighashType : UInt32) (index : Nat) (input : Input)
    (hinput : (jointPsbt sighashType).inputs[index]? = some input)
    (hmine : Mine BitcoinLib.sample (sampleContext 84) input index) :
    anyoneCanPay BitcoinLib.sample input = false := by
  rcases index with _ | _ | index
  · cases hinput
    rfl
  · cases hinput
    obtain ⟨path, hpath⟩ := hmine
    cases hpath
  · cases hinput

theorem inputValues_joint (sighashType : UInt32) :
    inputValues BitcoinLib.sample (jointPsbt sighashType) = .ok [5000, 3000] := rfl

/-- With `ALL` on the foreign input, the fee is 7100. -/
theorem fee_true_joint : ∃ tx,
    parse BitcoinLib.sample (jointPsbt 1) (some (sampleContext 84)) = .ok tx ∧
      FeeTrue [5000, 3000] [900] tx := by
  have hsome : (jointParsed 1).isSome = true := by decide
  obtain ⟨tx, htx⟩ := Option.isSome_iff_exists.mp hsome
  have hparse := parse_jointParsed htx
  refine ⟨tx, hparse, ?_⟩
  obtain ⟨values, hvalues, htrue⟩ := fee_true_iff BitcoinLib.sample (jointPsbt 1)
    (sampleContext 84) tx rfl hparse (mine_joint 1)
  rw [inputValues_joint] at hvalues
  cases hvalues
  refine htrue.mpr ⟨fun _ => by decide, fun hnot => absurd ?_ hnot⟩
  intro index input hinput _
  rcases index with _ | _ | index
  · cases hinput
    rfl
  · cases hinput
    decide
  · cases hinput

/-- With `SINGLE | ANYONECANPAY` on it, none is shown. -/
theorem fee_hidden_by_foreign : ¬∀ (lib : BitcoinLib) (psbt : Psbt) (context : ParseContext)
    (tx : ParsedTx), psbt.outputs.length = psbt.unsignedTx.output.length →
    parse lib psbt (some context) = .ok tx →
    (∀ (index : Nat) (input : Input), psbt.inputs[index]? = some input →
      Mine lib context input index → anyoneCanPay lib input = false) →
    ∀ values, inputValues lib psbt = .ok values → FeeTrue values (outputValues psbt) tx := by
  intro claim
  have hfee : (jointParsed 0x83).map (·.detail.feeAmount) = some 0 := by decide
  obtain ⟨tx, htx, hzero⟩ := Option.map_eq_some_iff.mp hfee
  have htrue := (claim BitcoinLib.sample (jointPsbt 0x83) (sampleContext 84) tx rfl
    (parse_jointParsed htx) (mine_joint 0x83) _ (inputValues_joint 0x83)).2
  rw [hzero] at htrue
  cases htrue

/-- The transaction has an input with `ANYONECANPAY`. -/
def hasAnyoneCanPay (inputs : List ParsedInput) : Bool :=
  inputs.any fun v => v.ecdsaSighashType &&& 0x80 > 0

def FoldFits : UInt64 → List UInt64 → Prop
  | _, [] => True
  | acc, value :: values => acc.toNat + value.toNat < 2 ^ 64 ∧ FoldFits (acc + value) values

/-- What `normalize` does where its arithmetic is exact. -/
structure NormalizesExactly (inputs : List ParsedInput) (outputs : List ParsedOutput)
    (name : String) : Prop where
  inputsFit : FoldFits 0 (inputs.map (·.value))
  outputsFit : FoldFits 0 (outputs.map (·.value))
  overviewFits : FoldFits 0 ((outputs.filter (·.counted)).map (·.value))
  feeFits : hasAnyoneCanPay inputs = false →
    ¬inputs.foldl (fun acc cur => acc + cur.value) (0 : UInt64)
      < outputs.foldl (fun acc cur => acc + cur.value) 0
  error : hasAnyoneCanPay inputs = false → ((∃ e, normalize inputs outputs name = .error e) ↔
    sumOf (inputs.map (·.value)) < sumOf (outputs.map (·.value)))
  fee : hasAnyoneCanPay inputs = false → ∀ tx, normalize inputs outputs name = .ok tx →
    FeeTrue (inputs.map (·.value)) (outputs.map (·.value)) tx

theorem foldFits_iff (values : List UInt64) (acc : UInt64) :
    FoldFits acc values ↔ acc.toNat + sumOf values < 2 ^ 64 := by
  induction values generalizing acc with
  | nil => exact iff_of_true trivial acc.toNat_lt
  | cons value values ih =>
    have hsum : sumOf (value :: values) = value.toNat + sumOf values := rfl
    have hacc := UInt64.toNat_add acc value
    unfold FoldFits
    rw [ih, hsum]
    constructor
    · intro h
      rw [hacc, Nat.mod_eq_of_lt h.1] at h
      omega
    · intro h
      rw [hacc, Nat.mod_eq_of_lt (by omega)]
      omega

theorem foldFits_zero (values : List UInt64) : FoldFits 0 values ↔ sumOf values < 2 ^ 64 := by
  rw [foldFits_iff, show (0 : UInt64).toNat = 0 from rfl, Nat.zero_add]

theorem sum_counted_le (outputs : List ParsedOutput) :
    sumOf ((outputs.filter (·.counted)).map (·.value)) ≤ sumOf (outputs.map (·.value)) := by
  induction outputs with
  | nil => exact Nat.le_refl 0
  | cons output outputs ih =>
    rw [List.filter_cons]
    split
    · exact Nat.add_le_add_left ih _
    · exact Nat.le_add_left_of_le ih

theorem normalize_error_iff {inputs : List ParsedInput} {outputs : List ParsedOutput} {name : String}
    (h : hasAnyoneCanPay inputs = false) :
    (∃ e, normalize inputs outputs name = .error e) ↔
      inputs.foldl (fun acc cur => acc + cur.value) (0 : UInt64)
        < outputs.foldl (fun acc cur => acc + cur.value) 0 := by
  have hany : (inputs.find? fun v => v.ecdsaSighashType &&& 0x80 > 0).isSome = false := by
    rw [← h, hasAnyoneCanPay, Bool.eq_iff_iff, List.find?_isSome, List.any_eq_true]
  unfold normalize
  simp only [hany, Bool.not_false, Bool.true_and, decide_eq_true_eq]
  split
  · next hlt => exact iff_of_true ⟨_, rfl⟩ hlt
  · next hlt => exact iff_of_false (fun ⟨_, he⟩ => by cases he) hlt

theorem sum_fold {α : Type} (g : α → UInt64) (as : List α) :
    (as.foldl (fun acc cur => acc + g cur) 0).toNat = sumOf (as.map g) % 2 ^ 64 := by
  rw [← sum_values, List.foldl_map]

/-- **When the arithmetic is exact**: both sums fit 64 bits, and the difference is not negative
where it is taken. It is taken before the sums are compared. -/
theorem normalize_exact_iff (inputs : List ParsedInput) (outputs : List ParsedOutput)
    (name : String) :
    NormalizesExactly inputs outputs name ↔
      sumOf (inputs.map (·.value)) < 2 ^ 64 ∧ sumOf (outputs.map (·.value)) < 2 ^ 64 ∧
        (hasAnyoneCanPay inputs = false →
          sumOf (outputs.map (·.value)) ≤ sumOf (inputs.map (·.value))) := by
  have hin := sum_fold ParsedInput.value inputs
  have hout := sum_fold ParsedOutput.value outputs
  constructor
  · intro h
    have hinputs := (foldFits_zero _).mp h.inputsFit
    have houtputs := (foldFits_zero _).mp h.outputsFit
    refine ⟨hinputs, houtputs, fun hacp => ?_⟩
    have hfee := h.feeFits hacp
    rw [UInt64.lt_iff_toNat_lt, hin, hout, Nat.mod_eq_of_lt hinputs,
      Nat.mod_eq_of_lt houtputs] at hfee
    exact Nat.le_of_not_lt hfee
  · rintro ⟨hinputs, houtputs, hle⟩
    rw [Nat.mod_eq_of_lt hinputs] at hin
    rw [Nat.mod_eq_of_lt houtputs] at hout
    have hcounted := sum_counted_le outputs
    -- the comparison of the code is that of the exact sums
    have hlt : (inputs.foldl (fun acc cur => acc + cur.value) (0 : UInt64)
        < outputs.foldl (fun acc cur => acc + cur.value) 0) ↔
          sumOf (inputs.map (·.value)) < sumOf (outputs.map (·.value)) := by
      rw [UInt64.lt_iff_toNat_lt, hin, hout]
    refine ⟨(foldFits_zero _).mpr hinputs, (foldFits_zero _).mpr houtputs,
      (foldFits_zero _).mpr (by omega), fun hacp => ?_, fun hacp => ?_, fun hacp tx htx => ?_⟩
    · rw [hlt]
      exact Nat.not_lt.mpr (hle hacp)
    · rw [normalize_error_iff hacp, hlt]
    · obtain ⟨hsame, hfee⟩ := normalize_fee htx
      have hacp' : (inputs.any fun v => v.ecdsaSighashType &&& 0x80 > 0) = false := hacp
      rw [hacp', if_neg Bool.false_ne_true, Nat.mod_eq_of_lt hinputs,
        Nat.mod_eq_of_lt houtputs] at hfee
      exact ⟨hsame, hfee.2⟩

def wrappingOutput : ParsedOutput := ⟨.script [], 0x8000000000000000, none, true⟩

/-- Two outputs whose sum wraps to 0: the input of 5 is shown as the fee. -/
theorem fee_of_wrapped_sum :
    ¬∀ (inputs : List ParsedInput) (outputs : List ParsedOutput) (name : String),
      NormalizesExactly inputs outputs name := by
  intro claim
  have hfit := (claim [⟨none, 5, none, (0, 1), false, false, false, 1⟩]
    [wrappingOutput, wrappingOutput] "").outputsFit
  rw [foldFits_zero] at hfit
  exact absurd hfit (by decide)

end Keystone3.Bitcoin
