import Keystone3.Bitcoin.OwnOutputs

/-!
# Where the value of a legacy input comes from

A signature for a segwit input commits to the value that is spent, one for a legacy
input does not. The code compares the hash of the previous transaction where that is there, and
compares the two forms of the output where both are there.
-/

namespace Keystone3.Bitcoin

open Bytes (Block toLe)
open Logic (Outcome)
open Logic.Outcome (bind_eq_ok okOr_eq_ok)

section

variable (lib : BitcoinLib) (psbt : Psbt)

def Mine (context : ParseContext) (input : Input) (index : Nat) : Prop :=
  ∃ path, getMyInputPath lib input index context = .ok (some path)

def spentOutput (input : Input) (index : Nat) : Option TxOut :=
  match input.witnessUtxo with
  | some utxo => some utxo
  | none =>
    match input.nonWitnessUtxo, psbt.unsignedTx.input[index]? with
    | some prevTx, some txIn => prevTx.output[txIn.previousOutput.vout.toNat]?
    | _, _ => none

def segwitSpend (input : Input) (index : Nat) : Bool :=
  (spentOutput psbt input index).any fun out =>
    lib.isWitnessProgram out.scriptPubkey
      || (lib.isP2sh out.scriptPubkey && input.redeemScript.any lib.isWitnessProgram)

/-- The value is that of the output that is spent, in a previous transaction with the hash
that the input names. -/
def FromPrevTx (txIn : TxIn) (prevTx : Transaction) (value : UInt64) : Prop :=
  lib.computeTxid prevTx = txIn.previousOutput.txid ∧
    ∃ out, prevTx.output[txIn.previousOutput.vout.toNat]? = some out ∧ value = out.value

def Authenticated (input : Input) (index : Nat) (value : UInt64) : Prop :=
  ∃ prevTx txIn, input.nonWitnessUtxo = some prevTx ∧
    psbt.unsignedTx.input[index]? = some txIn ∧ FromPrevTx lib txIn prevTx value

/-- The input comes with a previous transaction that has the output it spends. -/
def CarriesPrevTx (input : Input) (index : Nat) : Prop :=
  ∃ prevTx txIn, input.nonWitnessUtxo = some prevTx ∧
    psbt.unsignedTx.input[index]? = some txIn ∧
    txIn.previousOutput.vout.toNat < prevTx.output.length

end

section

variable {lib : BitcoinLib} {psbt : Psbt} {context : ParseContext} {input : Input} {index : Nat}

theorem judged_of_check (h : check lib psbt context = .ok ())
    (hinput : psbt.inputs[index]? = some input) :
    ∃ mine, judgeMyInputThenCheck lib psbt input index context = .ok mine := by
  obtain ⟨_, hinputs, -⟩ := bind_eq_ok.mp h
  unfold checkInputs at hinputs
  split at hinputs
  · cases hinputs
  · obtain ⟨hasMyInput, hfold, -⟩ := bind_eq_ok.mp hinputs
    obtain ⟨judged, hjudged, -⟩ := Outcome.foldAll_eq_ok.mp hfold
    have hat := congrArg (fun results => results[index]?) hjudged
    dsimp only at hat
    rw [List.getElem?_map, List.getElem?_map, List.getElem?_zipIdx, hinput, Nat.zero_add] at hat
    cases hmine : judged[index]? with
    | none =>
      rw [hmine] at hat
      cases hat
    | some mine =>
      rw [hmine] at hat
      exact ⟨mine, Option.some.inj hat⟩

theorem not_tampered_of_judged {mine : Bool} (hmine : Mine lib context input index)
    (h : judgeMyInputThenCheck lib psbt input index context = .ok mine) :
    checkMyInputValueTampered psbt input index = .ok () := by
  obtain ⟨path, hpath⟩ := hmine
  obtain ⟨path', hpath', h⟩ := bind_eq_ok.mp h
  cases hpath.symm.trans hpath'
  obtain ⟨_, -, h⟩ := bind_eq_ok.mp h
  obtain ⟨_, -, h⟩ := bind_eq_ok.mp h
  obtain ⟨_, -, h⟩ := bind_eq_ok.mp h
  obtain ⟨_, htampered, -⟩ := bind_eq_ok.mp h
  exact htampered

theorem checkMyInputValueTampered_eq_ok {prevTx : Transaction} {utxo : TxOut}
    (hprev : input.nonWitnessUtxo = some prevTx) (hutxo : input.witnessUtxo = some utxo)
    (h : checkMyInputValueTampered psbt input index = .ok ()) :
    ∃ txIn, psbt.unsignedTx.input[index]? = some txIn ∧
      prevTx.output[txIn.previousOutput.vout.toNat]? = some utxo := by
  unfold checkMyInputValueTampered at h
  rw [hprev, hutxo] at h
  obtain ⟨txIn, htxIn, h⟩ := bind_eq_ok.mp h
  obtain ⟨out, hout, h⟩ := bind_eq_ok.mp h
  split at h
  · cases h
  · rename_i heq
    rw [not_not] at heq
    rw [heq] at hout
    exact ⟨txIn, okOr_eq_ok.mp htxIn, okOr_eq_ok.mp hout⟩

theorem prevTxValue_eq_ok {prevTx : Transaction} {value : UInt64}
    (hprev : input.nonWitnessUtxo = some prevTx)
    (h : prevTxValue lib psbt input index = .ok value) :
    ∃ txIn, psbt.unsignedTx.input[index]? = some txIn ∧
      lib.computeTxid prevTx = txIn.previousOutput.txid ∧
      value = (prevTx.output[txIn.previousOutput.vout.toNat]?.map (·.value)).getD 0 := by
  unfold prevTxValue at h
  rw [hprev] at h
  obtain ⟨txIn, htxIn, h⟩ := bind_eq_ok.mp h
  split at h
  · cases h
  · rename_i htxid
    rw [not_not] at htxid
    cases h
    exact ⟨txIn, okOr_eq_ok.mp htxIn, htxid.symm, rfl⟩

/-- **An input with its previous transaction** is shown with the value in it. -/
theorem authenticated_of_carries {value : UInt64} (hcarries : CarriesPrevTx psbt input index)
    (htampered : checkMyInputValueTampered psbt input index = .ok ())
    (hvalue : inputValue lib psbt input index = .ok value) :
    Authenticated lib psbt input index value := by
  obtain ⟨prevTx, txIn, hprev, htxIn, hvout⟩ := hcarries
  obtain ⟨prevValue, hread, hvalue⟩ := bind_eq_ok.mp hvalue
  obtain ⟨txIn', htxIn', htxid, hprevValue⟩ := prevTxValue_eq_ok hprev hread
  cases htxIn.symm.trans htxIn'
  cases hutxo : input.witnessUtxo with
  | none =>
    rw [hutxo] at hvalue
    cases hvalue
    rw [List.getElem?_eq_getElem hvout] at hprevValue
    exact ⟨prevTx, txIn, hprev, htxIn, htxid, _, List.getElem?_eq_getElem hvout, hprevValue⟩
  | some utxo =>
    rw [hutxo] at hvalue
    cases hvalue
    obtain ⟨txIn'', htxIn'', hout⟩ := checkMyInputValueTampered_eq_ok hprev hutxo htampered
    cases htxIn.symm.trans htxIn''
    exact ⟨prevTx, txIn, hprev, htxIn, htxid, utxo, hout, rfl⟩

theorem carries_of_authenticated {value : UInt64} (h : Authenticated lib psbt input index value) :
    CarriesPrevTx psbt input index := by
  obtain ⟨prevTx, txIn, hprev, htxIn, -, out, hout, -⟩ := h
  exact ⟨prevTx, txIn, hprev, htxIn, (List.getElem?_eq_some_iff.mp hout).1⟩

end

/-- **Legacy values.** In a PSBT that is checked and parsed, the values of the wallet's legacy
inputs all come from the previous transactions that these inputs name, if and only if each of
these inputs comes with its previous transaction and the output it spends in it. -/
theorem legacy_values_authenticated (lib : BitcoinLib) (psbt : Psbt) (context : ParseContext)
    (tx : ParsedTx) (hcheck : check lib psbt context = .ok ())
    (hparse : parse lib psbt (some context) = .ok tx) :
    (∀ (index : Nat) (input : Input) (shown : ParsedInput), psbt.inputs[index]? = some input →
        tx.detail.fromInputs[index]? = some shown → Mine lib context input index →
        segwitSpend lib psbt input index = false →
        Authenticated lib psbt input index shown.value) ↔
      ∀ (index : Nat) (input : Input), psbt.inputs[index]? = some input →
        Mine lib context input index → segwitSpend lib psbt input index = false →
        CarriesPrevTx psbt input index := by
  obtain ⟨network, hinputs, -, -⟩ := parse_eq_ok hparse
  constructor
  · intro hauth index input hinput hmine hlegacy
    obtain ⟨shown, hshown, -⟩ := collect_zipIdx hinputs hinput
    exact carries_of_authenticated (hauth index input shown hinput hshown hmine hlegacy)
  · intro hcarries index input shown hinput hshown hmine hlegacy
    obtain ⟨shown', hshown', hread⟩ := collect_zipIdx hinputs hinput
    cases hshown.symm.trans hshown'
    obtain ⟨judged, hjudged⟩ := judged_of_check hcheck hinput
    exact authenticated_of_carries (hcarries index input hinput hmine hlegacy)
      (not_tampered_of_judged hmine hjudged) (parseInput_value hread)

def legacyOutput (value : UInt64) : TxOut :=
  ⟨value, [0x76, 0xA9, 20] ++ List.replicate 20 7 ++ [0x88, 0xAC]⟩

def legacyPrevTx : Transaction := ⟨2, 0, [], [legacyOutput 5000]⟩

/-- A PSBT that spends it, with or without the transaction itself, and with the value that
the host says. -/
def legacyPsbt (prevTx : Option Transaction) (value : UInt64) : Psbt where
  unsignedTx := ⟨2, 0, [⟨⟨BitcoinLib.sample.computeTxid legacyPrevTx, 0⟩, [], 0, []⟩],
    [⟨900, foreignScript⟩]⟩
  xpub := .empty
  unknown := .empty
  inputs := [sampleInput 44 prevTx (legacyOutput value)]
  outputs := [⟨.empty, .empty⟩]

def legacyParsed (prevTx : Option Transaction) (value : UInt64) : Option ParsedTx :=
  match parse BitcoinLib.sample (legacyPsbt prevTx value) (some (sampleContext 44)) with
  | .ok tx => some tx
  | _ => none

theorem parse_legacyParsed {prevTx : Option Transaction} {value : UInt64} {tx : ParsedTx}
    (h : legacyParsed prevTx value = some tx) :
    parse BitcoinLib.sample (legacyPsbt prevTx value) (some (sampleContext 44)) = .ok tx := by
  unfold legacyParsed at h
  split at h
  · rename_i hparse
    cases h
    exact hparse
  · cases h

theorem mine_legacy (prevTx : Option Transaction) (value : UInt64) :
    Mine BitcoinLib.sample (sampleContext 44) (sampleInput 44 prevTx (legacyOutput value)) 0 :=
  ⟨("44'/0'/0'/0/5".toList, true), rfl⟩

/-- With the transaction, the value is the one in it. -/
theorem legacy_values_authenticated_sample : ∃ tx,
    parse BitcoinLib.sample (legacyPsbt (some legacyPrevTx) 5000) (some (sampleContext 44)) = .ok tx ∧
      ∀ shown, tx.detail.fromInputs[0]? = some shown →
        Authenticated BitcoinLib.sample (legacyPsbt (some legacyPrevTx) 5000)
          (sampleInput 44 (some legacyPrevTx) (legacyOutput 5000)) 0 shown.value := by
  have hsome : (legacyParsed (some legacyPrevTx) 5000).isSome = true := by decide
  obtain ⟨tx, htx⟩ := Option.isSome_iff_exists.mp hsome
  have hparse := parse_legacyParsed htx
  refine ⟨tx, hparse, ?_⟩
  intro shown hshown
  refine (legacy_values_authenticated BitcoinLib.sample (legacyPsbt (some legacyPrevTx) 5000)
    (sampleContext 44) tx (by decide) hparse).mpr ?_ 0 _ shown rfl hshown
    (mine_legacy _ _) (by decide)
  intro index input hinput _ _
  cases index with
  | zero =>
    cases hinput
    exact ⟨legacyPrevTx, _, rfl, rfl, by decide⟩
  | succ index => cases hinput

/-- Without it, the value is the host's: 1000 is shown for an output of 5000, and no previous
transaction with the hash has it. -/
theorem legacy_value_of_host : ¬∀ (lib : BitcoinLib) (psbt : Psbt) (context : ParseContext)
    (tx : ParsedTx), check lib psbt context = .ok () → parse lib psbt (some context) = .ok tx →
    ∀ (index : Nat) (input : Input) (shown : ParsedInput), psbt.inputs[index]? = some input →
      tx.detail.fromInputs[index]? = some shown → Mine lib context input index →
      segwitSpend lib psbt input index = false →
      ∃ txIn prevTx, psbt.unsignedTx.input[index]? = some txIn ∧
        FromPrevTx lib txIn prevTx shown.value := by
  intro claim
  have hvalue : (legacyParsed none 1000).map (fun tx => tx.detail.fromInputs.map (·.value))
      = some [1000] := by
    decide
  obtain ⟨tx, htx, hvalues⟩ := Option.map_eq_some_iff.mp hvalue
  obtain ⟨shown, hfrom, hshown⟩ := List.map_eq_singleton_iff.mp hvalues
  have hat : tx.detail.fromInputs[0]? = some shown := by
    rw [hfrom]
    rfl
  obtain ⟨txIn, prevTx, htxIn, htxid, out, hout, hpaid⟩ := claim BitcoinLib.sample
    (legacyPsbt none 1000) (sampleContext 44) tx (by decide) (parse_legacyParsed htx) 0
    (sampleInput 44 none (legacyOutput 1000)) shown rfl hat (mine_legacy _ _) (by decide)
  cases htxIn
  have hhead : prevTx.output.head? = some out := by
    rw [List.head?_eq_getElem?]
    exact hout
  -- the sample's hash of a transaction is the value of its first output
  have hhash : Block.ofBytes 32 (toLe 8 ((prevTx.output.head?.map (·.value.toNat)).getD 0))
      = Block.ofBytes 32 (toLe 8 5000) := htxid
  rw [hhead, Option.map_some, Option.getD_some, ← hpaid, hshown] at hhash
  cases hhash

end Keystone3.Bitcoin
