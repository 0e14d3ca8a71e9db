import Keystone3.Avalanche.Wire

/-!
# Transactions

A transaction of each kind, its serialisation, and whether the parser for its kind gives
back its fields (`Tx.Faithful`). The parsers' sizes are right everywhere (`SizesExact`),
so no element is read from a shifted position, and the fields come back unless the
transaction adds a validator or ends with an input that no signature index comes with.
-/

namespace Keystone3.Avalanche

open Bytes (Block be length_be)
open Bytes.Reader (Reads ReadsBefore ParsesBefore sized run)
open Logic (Outcome)
open Bytes.Reader (bind_apply peek reads_block)

namespace Wire

structure Base where
  header : Header
  outputs : Counted Output
  inputs : Counted Input
  memo : Counted UInt8

namespace Base

def memoBytes (b : Base) : List UInt8 := be 4 b.memo.items.length ++ b.memo.items

def bytes (kind : Kind) (b : Base) : List UInt8 :=
  be 2 (0 : UInt16).toNat ++ (be 4 kind.value.toNat ++ (headerBytes b.header
    ++ (b.outputs.bytes Output.bytes ++ (b.inputs.bytes Input.bytes ++ b.memoBytes))))

def viewSized (kind : Kind) (b : Base) (txSize : Nat) : BaseTx where
  codecId := 0
  typeId := kind.typeId
  txHeader := b.header
  outputs := b.outputs.view Output.view
  inputs := b.inputs.view Input.view
  memoLen := UInt32.ofNat b.memo.items.length
  memo := b.memo.items
  txSize := txSize

def view (kind : Kind) (b : Base) : BaseTx := b.viewSized kind (b.bytes kind).length

theorem reads_memo (b : Base) :
    Reads (Bytes.Reader.take (none : Option AvaxError) (UInt32.ofNat b.memo.items.length).toNat)
      b.memo.items b.memo.items := by
  rw [UInt32.toNat_ofNat_of_lt' b.memo.bound]
  exact Bytes.Reader.reads_take none b.memo.items

theorem reads_fields (kind : Kind) (b : Base) :
    ReadsBefore 0 (BaseTx.fields .unlimited) (b.bytes kind) (b.viewSized kind) := by
  refine ((reads_getU16 0).before 0).bind ?_ (Nat.zero_le _)
  refine ((reads_getTypeId kind).before 0).bind ?_ (Nat.zero_le _)
  refine ((reads_header b.header).before 0).bind ?_ (Nat.zero_le _)
  refine ((Output.reads_outputs b.outputs).before 0).bind ?_ (Nat.zero_le _)
  -- the length of the memo comes behind the inputs
  refine (Input.reads_inputs b.inputs).bind ?_ ?_
  · exact (b.memo.reads_length.bind (b.reads_memo.map _)).before 0
  · rw [memoBytes, List.length_append, length_be]
    omega

theorem parses_base (kind : Kind) (b : Base) :
    ParsesBefore 0 (BaseTx.tryFrom .unlimited) (b.bytes kind) (b.view kind) :=
  ((b.reads_fields kind).measured.map fun tx => tx.1 tx.2).run

theorem reads_base (kind : Kind) (b : Base) :
    Reads (BaseTx.next .unlimited) (b.bytes kind) (b.view kind) :=
  ((b.parses_base kind).sized rfl).reads

end Base

/-- The chains whose transactions begin with a base transaction. -/
inductive Chain where
  | x
  | p

def baseKind : Chain → Kind
  | .x => ⟨0, .baseTx, rfl⟩
  | .p => ⟨0x22, .baseTx, rfl⟩

def importKind : Chain → Kind
  | .x => ⟨0x03, .xchainImportTx, rfl⟩
  | .p => ⟨0x11, .pchainImportTx, rfl⟩

def exportKind : Chain → Kind
  | .x => ⟨0x04, .xchainExportTx, rfl⟩
  | .p => ⟨0x12, .pchainExportTx, rfl⟩

/-- The ids of the C-chain's transactions; that of an import is `baseTx` for the parser. -/
def evmImportKind : Kind := ⟨0, .baseTx, rfl⟩

def evmExportKind : Kind := ⟨0x01, .cchainExportTx, rfl⟩

def validatorKind : Kind := ⟨0x19, .addPermissLessionValidator, rfl⟩

def delegatorKind : Kind := ⟨0x1A, .addPermissLessionDelegator, rfl⟩

/-- The signer of a validator: only one of the primary network has keys. -/
inductive Signer where
  | empty
  | proofOfPossession (pubkey : Block 48) (signature : Block 96)

def Signer.bytes : Signer → List UInt8
  | .empty => be 4 0x1B
  | .proofOfPossession pubkey signature => be 4 0x1C ++ (pubkey.bytes ++ signature.bytes)

structure AddValidator where
  base : Base
  validator : Validator
  subnetId : Block 32
  signer : Signer
  stakeOut : Counted Output
  validatorOwner : Owner
  delegatorOwner : Owner
  delegatorShare : UInt32

inductive Tx where
  | base (chain : Chain) (b : Base)
  | importTx (chain : Chain) (b : Base) (sourceChain : Block 32) (transferIn : Counted Input)
  | exportTx (chain : Chain) (b : Base) (destChain : Block 32) (transferOut : Counted Output)
  | evmImport (header : Header) (sourceChain : Block 32) (inputs : Counted Input)
    (outputs : Counted EvmOutput)
  | evmExport (header : Header) (destChain : Block 32) (inputs : Counted EvmInput)
    (outputs : Counted Output)
  | addValidator (tx : AddValidator)
  | addDelegator (b : Base) (validator : Validator) (subnetId : Block 32)
    (stakeOut : Counted Output) (delegatorOwner : Owner)

def AddValidator.bytes (tx : AddValidator) : List UInt8 :=
  tx.base.bytes validatorKind ++ (validatorBytes tx.validator ++ (tx.subnetId.bytes
    ++ (tx.signer.bytes ++ (tx.stakeOut.bytes Output.bytes ++ (tx.validatorOwner.bytes
      ++ (tx.delegatorOwner.bytes ++ be 4 tx.delegatorShare.toNat))))))

def Tx.bytes : Tx → List UInt8
  | .base chain b => b.bytes (baseKind chain)
  | .importTx chain b sourceChain transferIn =>
    b.bytes (importKind chain) ++ (sourceChain.bytes ++ transferIn.bytes Input.bytes)
  | .exportTx chain b destChain transferOut =>
    b.bytes (exportKind chain) ++ (destChain.bytes ++ transferOut.bytes Output.bytes)
  | .evmImport header sourceChain inputs outputs =>
    be 2 (0 : UInt16).toNat ++ (be 4 evmImportKind.value.toNat ++ (headerBytes header
      ++ (sourceChain.bytes ++ (inputs.bytes Input.bytes ++ outputs.bytes evmOutputBytes))))
  | .evmExport header destChain inputs outputs =>
    be 2 (0 : UInt16).toNat ++ (be 4 evmExportKind.value.toNat ++ (headerBytes header
      ++ (destChain.bytes ++ (inputs.bytes evmInputBytes ++ outputs.bytes Output.bytes))))
  | .addValidator tx => tx.bytes
  | .addDelegator b validator subnetId stakeOut delegatorOwner =>
    b.bytes delegatorKind ++ (validatorBytes validator ++ (subnetId.bytes
      ++ (stakeOut.bytes Output.bytes ++ delegatorOwner.bytes)))

def Signer.Is : Signer → Avalanche.Signer → Prop
  | .empty, _ => False
  | .proofOfPossession pubkey signature, s =>
    s.pubkey = pubkey ∧ s.signature.bytes = signature.bytes

def AddValidator.viewWith (tx : AddValidator) (signer : Avalanche.Signer) :
    AddPermissLessionValidatorTx where
  baseTx := tx.base.view validatorKind
  validator := tx.validator
  subnetId := tx.subnetId
  signer := signer
  stakeOut := tx.stakeOut.view Output.view
  validatorOwner := tx.validatorOwner.view
  delegatorOwner := tx.delegatorOwner.view
  delegatorShare := tx.delegatorShare

/-- The parser for the kind of the transaction returns its fields. -/
def Tx.Faithful (tx : Tx) : Prop :=
  match tx with
  | .base chain b => BaseTx.tryFrom .unlimited tx.bytes = .ok (b.view (baseKind chain))
  | .importTx chain b sourceChain transferIn => ImportTx.tryFrom .unlimited tx.bytes
      = .ok ⟨b.view (importKind chain), sourceChain, transferIn.view Input.view⟩
  | .exportTx chain b destChain transferOut => ExportTx.tryFrom .unlimited tx.bytes
      = .ok ⟨b.view (exportKind chain), destChain, transferOut.view Output.view⟩
  | .evmImport header sourceChain inputs outputs => CChain.ImportTx.tryFrom .unlimited tx.bytes
      = .ok ⟨0, evmImportKind.typeId, header, sourceChain, inputs.view Input.view, outputs.view id⟩
  | .evmExport header destChain inputs outputs => CChain.ExportTx.tryFrom .unlimited tx.bytes
      = .ok ⟨0, evmExportKind.typeId, header, destChain, inputs.view id, outputs.view Output.view⟩
  | .addValidator v => ∃ signer : Avalanche.Signer, v.signer.Is signer
      ∧ AddPermissLessionValidatorTx.tryFrom .unlimited tx.bytes = .ok (v.viewWith signer)
  | .addDelegator b validator subnetId stakeOut delegatorOwner =>
      AddPermissLessionDelegatorTx.tryFrom .unlimited tx.bytes = .ok ⟨b.view delegatorKind,
        validator, subnetId, stakeOut.view Output.view, delegatorOwner.view⟩

/-- No validator is added, and the last input that is imported has a signature index. -/
def Tx.Readable : Tx → Prop
  | .importTx _ _ _ transferIn => ∀ i ∈ transferIn.items.getLast?, i.indices.items ≠ []
  | .addValidator _ => False
  | _ => True

theorem parses_evmImport (header : Header) (sourceChain : Block 32) (inputs : Counted Input)
    (outputs : Counted EvmOutput) : ParsesBefore 0 (CChain.ImportTx.tryFrom .unlimited)
      (Tx.evmImport header sourceChain inputs outputs).bytes
      ⟨0, evmImportKind.typeId, header, sourceChain, inputs.view Input.view, outputs.view id⟩ := by
  refine ReadsBefore.run ?_
  refine ((reads_getU16 0).before 0).bind ?_ (Nat.zero_le _)
  refine ((reads_getTypeId evmImportKind).before 0).bind ?_ (Nat.zero_le _)
  refine ((reads_header header).before 0).bind ?_ (Nat.zero_le _)
  refine ((reads_block none sourceChain).before 0).bind ?_ (Nat.zero_le _)
  -- the outputs come behind the inputs
  refine (Input.reads_inputs inputs).bind ((reads_evmOutputs outputs).before 0 |>.map _) ?_
  rw [Counted.bytes, List.length_append, length_be]
  omega

theorem parses_evmExport (header : Header) (destChain : Block 32) (inputs : Counted EvmInput)
    (outputs : Counted Output) : ParsesBefore 0 (CChain.ExportTx.tryFrom .unlimited)
      (Tx.evmExport header destChain inputs outputs).bytes
      ⟨0, evmExportKind.typeId, header, destChain, inputs.view id, outputs.view Output.view⟩ := by
  refine (Reads.before ?_ 0).run
  exact (reads_getU16 0).bind ((reads_getTypeId evmExportKind).bind ((reads_header header).bind
    ((reads_block none destChain).bind ((reads_evmInputs inputs).bind
      ((Output.reads_outputs outputs).map _)))))

theorem parses_exportTx (chain : Chain) (b : Base) (destChain : Block 32)
    (transferOut : Counted Output) : ParsesBefore 0 (ExportTx.tryFrom .unlimited)
      (Tx.exportTx chain b destChain transferOut).bytes
      ⟨b.view (exportKind chain), destChain, transferOut.view Output.view⟩ := by
  refine ((b.reads_base (exportKind chain)).before 0).run_bind ?_ (Nat.zero_le _)
  refine ((reads_block none destChain).before 0).run_bind ?_ (Nat.zero_le _)
  refine ParsesBefore.run_peek ?_ (ExportTx.mk (b.view (exportKind chain)) destChain)
  exact transferOut.parses_vec fun o _ => o.parses_output.sized o.parsedSize_view

theorem parses_addDelegator (b : Base) (validator : Validator) (subnetId : Block 32)
    (stakeOut : Counted Output) (delegatorOwner : Owner) :
    ParsesBefore 0 (AddPermissLessionDelegatorTx.tryFrom .unlimited)
      (Tx.addDelegator b validator subnetId stakeOut delegatorOwner).bytes
      ⟨b.view delegatorKind, validator, subnetId, stakeOut.view Output.view,
        delegatorOwner.view⟩ := by
  refine (Reads.before ?_ 0).run
  exact (b.reads_base delegatorKind).bind ((reads_validator validator).bind
    ((reads_subnetId subnetId).bind ((Output.reads_outputs stakeOut).bind
      (delegatorOwner.reads_owner.map _))))

theorem importTx_tryFrom (chain : Chain) (b : Base) (sourceChain : Block 32)
    (transferIn : Counted Input) :
    ImportTx.tryFrom .unlimited (Tx.importTx chain b sourceChain transferIn).bytes
      = if ∀ i ∈ transferIn.items.getLast?, i.indices.items ≠ [] then
          .ok ⟨b.view (importKind chain), sourceChain, transferIn.view Input.view⟩
        else .error (.invalidHex "Insufficient data") := by
  have hend := Input.inputs_tryFrom_end transferIn
  rw [ImportTx.tryFrom, run, bind_apply, Tx.bytes, b.reads_base, Outcome.ok_bind,
    bind_apply, reads_block none sourceChain, Outcome.ok_bind,
    bind_apply, peek, hend]
  split <;> rfl

def shifted (pubkey : Block 48) (signature : Block 96) : Avalanche.Signer where
  pubkey := Block.ofBytes 48 (be 4 0x1C ++ pubkey.bytes.take 44)
  signature := Block.ofBytes 100 (pubkey.bytes.drop 44 ++ signature.bytes)

theorem bytes_shifted (pubkey : Block 48) (signature : Block 96) :
    (Signer.proofOfPossession pubkey signature).bytes
      = (shifted pubkey signature).pubkey.bytes ++ (shifted pubkey signature).signature.bytes := by
  have hkey : (be 4 0x1C ++ pubkey.bytes.take 44).length = 48 := by
    rw [List.length_append, length_be, List.length_take, pubkey.size_eq]
    rfl
  have hsignature : (pubkey.bytes.drop 44 ++ signature.bytes).length = 100 := by
    rw [List.length_append, List.length_drop, pubkey.size_eq, signature.size_eq]
  have hfirst : (shifted pubkey signature).pubkey.bytes = be 4 0x1C ++ pubkey.bytes.take 44 :=
    congrArg Block.bytes (Block.ofBytes_bytes ⟨_, hkey⟩)
  have hsecond : (shifted pubkey signature).signature.bytes
      = pubkey.bytes.drop 44 ++ signature.bytes :=
    congrArg Block.bytes (Block.ofBytes_bytes ⟨_, hsignature⟩)
  rw [hfirst, hsecond, Signer.bytes, List.append_assoc, ← List.append_assoc (pubkey.bytes.take 44),
    List.take_append_drop]

theorem reads_signer (pubkey : Block 48) (signature : Block 96) :
    Reads (sized (fun _ => 48 + 100) Avalanche.Signer.tryFrom)
      (Signer.proofOfPossession pubkey signature).bytes (shifted pubkey signature) := by
  have hlength : 48 + 100 = (Signer.proofOfPossession pubkey signature).bytes.length := by
    rw [bytes_shifted, List.length_append, Block.size_eq, Block.size_eq]
  have hfields : Reads (do
      let pubkey ← Bytes.Reader.block (none : Option AvaxError) 48
      let signature ← Bytes.Reader.block none 100
      pure { pubkey, signature }) (Signer.proofOfPossession pubkey signature).bytes
      (shifted pubkey signature) := by
    rw [bytes_shifted]
    exact (reads_block none _).bind ((reads_block none _).map _)
  exact ((hfields.before 0).run.sized hlength).reads

theorem parses_addValidator (tx : AddValidator) (pubkey : Block 48) (signature : Block 96)
    (hsigner : tx.signer = .proofOfPossession pubkey signature) :
    ParsesBefore 0 (AddPermissLessionValidatorTx.tryFrom .unlimited) tx.bytes
      (tx.viewWith (shifted pubkey signature)) := by
  refine (Reads.before ?_ 0).run
  rw [AddValidator.bytes, hsigner]
  exact (tx.base.reads_base validatorKind).bind ((reads_validator tx.validator).bind
    ((reads_subnetId tx.subnetId).bind ((reads_signer pubkey signature).bind
      ((Output.reads_outputs tx.stakeOut).bind (tx.validatorOwner.reads_owner.bind
        (tx.delegatorOwner.reads_owner.bind ((reads_getU32 tx.delegatorShare).map _)))))))

theorem Signer.not_is (signer : Signer) (s : Avalanche.Signer) : ¬signer.Is s := by
  intro h
  cases signer with
  | empty => exact h
  | proofOfPossession pubkey signature =>
    have hlength := congrArg List.length h.2
    rw [s.signature.size_eq, signature.size_eq] at hlength
    cases hlength

/-- The sizes that the parsers of nested records report are those of the serialisation. -/
structure SizesExact : Prop where
  address : ∀ a : Block 20, Address.parsedSize ⟨a⟩ = a.bytes.length
  output : ∀ o : Output, o.view.parsedSize = o.bytes.length
  input : ∀ i : Input, i.view.parsedSize = i.bytes.length
  evmInput : ∀ i : EvmInput, i.parsedSize = (evmInputBytes i).length
  evmOutput : ∀ o : EvmOutput, o.parsedSize = (evmOutputBytes o).length
  header : ∀ h : Header, h.parsedSize = (headerBytes h).length
  validator : ∀ v : Validator, v.parsedSize = (validatorBytes v).length
  owner : ∀ o : Owner, o.view.parsedSize = o.bytes.length
  addresses : ∀ l : Counted (Block 20),
    (l.view Address.mk).parsedSize Address.parsedSize = (l.bytes Block.bytes).length
  outputs : ∀ l : Counted Output,
    (l.view Output.view).parsedSize TransferableOutput.parsedSize = (l.bytes Output.bytes).length
  inputs : ∀ l : Counted Input,
    (l.view Input.view).parsedSize TransferableInput.parsedSize = (l.bytes Input.bytes).length
  evmInputs : ∀ l : Counted EvmInput,
    (l.view id).parsedSize EvmInput.parsedSize = (l.bytes evmInputBytes).length
  evmOutputs : ∀ l : Counted EvmOutput,
    (l.view id).parsedSize EvmOutput.parsedSize = (l.bytes evmOutputBytes).length

theorem sizesExact : SizesExact := by
  have haddress : ∀ a : Block 20, Address.parsedSize ⟨a⟩ = a.bytes.length := fun a => a.size_eq.symm
  exact {
    address := haddress
    output := Output.parsedSize_view
    input := Input.parsedSize_view
    evmInput := parsedSize_evmInput
    evmOutput := parsedSize_evmOutput
    header := parsedSize_header
    validator := parsedSize_validator
    owner := Owner.parsedSize_view
    addresses := fun l => l.parsedSize_view haddress
    outputs := fun l => l.parsedSize_view Output.parsedSize_view
    inputs := fun l => l.parsedSize_view Input.parsedSize_view
    evmInputs := fun l => l.parsedSize_view parsedSize_evmInput
    evmOutputs := fun l => l.parsedSize_view parsedSize_evmOutput }

theorem tryFrom_of_parses {α : Type} {q : List UInt8 → Outcome AvaxError α} {w : List UInt8} {a : α}
    (h : ParsesBefore 0 q w a) : q w = .ok a := by
  have hnil := h [] (Nat.zero_le _)
  rwa [List.append_nil] at hnil

/-- All sizes are right, and the fields come back just from the transactions that can be read. -/
theorem sizesExact_and_faithful_iff (tx : Tx) : SizesExact ∧ (tx.Faithful ↔ tx.Readable) := by
  refine ⟨sizesExact, ?_⟩
  cases tx with
  | base chain b => exact iff_of_true (tryFrom_of_parses (b.parses_base _)) trivial
  | importTx chain b sourceChain transferIn =>
    rw [Tx.Faithful, importTx_tryFrom, Tx.Readable]
    split
    · rename_i hlast
      exact iff_of_true rfl hlast
    · rename_i hlast
      exact iff_of_false nofun hlast
  | exportTx chain b destChain transferOut =>
    exact iff_of_true (tryFrom_of_parses (parses_exportTx chain b destChain transferOut)) trivial
  | evmImport header sourceChain inputs outputs =>
    have hparses := parses_evmImport header sourceChain inputs outputs
    exact iff_of_true (tryFrom_of_parses hparses) trivial
  | evmExport header destChain inputs outputs =>
    exact iff_of_true (tryFrom_of_parses (parses_evmExport header destChain inputs outputs)) trivial
  | addValidator tx =>
    refine iff_of_false ?_ id
    intro h
    obtain ⟨signer, his, -⟩ := h
    exact tx.signer.not_is signer his
  | addDelegator b validator subnetId stakeOut delegatorOwner =>
    exact iff_of_true
      (tryFrom_of_parses (parses_addDelegator b validator subnetId stakeOut delegatorOwner)) trivial

def zeroItems {α : Type} : Counted α := ⟨[], Nat.succ_pos 4294967295⟩

def oneItem {α : Type} (a : α) : Counted α := ⟨[a], Nat.succ_lt_succ (Nat.succ_pos 4294967294)⟩

def sampleBase : Base := ⟨⟨1, Block.zero 32⟩, zeroItems, zeroItems, zeroItems⟩

def sampleImport : Tx :=
  .importTx .x sampleBase (Block.zero 32)
    (oneItem ⟨Block.fill 32 1, 0, Block.fill 32 2, 5, zeroItems⟩)

def sampleValidator : AddValidator where
  base := sampleBase
  validator := ⟨Block.fill 20 3, 1, 2, 4⟩
  subnetId := Block.zero 32
  signer := .proofOfPossession (Block.fill 48 0xA0) (Block.fill 96 0xB0)
  stakeOut := zeroItems
  validatorOwner := ⟨0, 1, oneItem (Block.fill 20 5)⟩
  delegatorOwner := ⟨0, 1, oneItem (Block.fill 20 6)⟩
  delegatorShare := 20000

/-- The key that is parsed begins with the type id of the signer. -/
theorem not_faithful_samples : ¬sampleImport.Faithful ∧ ¬(Tx.addValidator sampleValidator).Faithful
    ∧ ∃ t, AddPermissLessionValidatorTx.tryFrom .unlimited sampleValidator.bytes = .ok t
      ∧ t.signer.pubkey.bytes = [0, 0, 0, 0x1C] ++ List.replicate 44 0xA0 := by
  refine ⟨?_, ?_, _, tryFrom_of_parses (parses_addValidator sampleValidator _ _ rfl), rfl⟩
  · intro h
    rw [sampleImport, Tx.Faithful, importTx_tryFrom] at h
    split at h
    · rename_i hlast
      exact hlast _ rfl rfl
    · cases h
  · intro h
    obtain ⟨signer, his, -⟩ := h
    exact Signer.not_is _ signer his

end Wire

end Keystone3.Avalanche
