import Keystone3.Avalanche.Room
import Keystone3.Avalanche.Totals

/-!
# When a transaction is shown without a panic

Ahead of the parser that a type id asks for, the type id and the header are unwrapped,
and so is a whole import, since the path of the account's key is chosen by it. What
comes behind the header is asked of the bytes record by record (`Room`).
`returns_iff_displayable` puts these together.
-/

namespace Keystone3.Avalanche

open Bytes (Reader)
open Bytes.Reader (Ends Fixed Measures Consumes has run sized measured skip)
open Logic (Outcome)
open Logic.Outcome (Returns)
open Logic.Outcome (ends_bind ends_congr not_fails_ok)

namespace Room

section

variable (alloc : Alloc) (E : Prop)

def baseTx (K : List Nat → Prop) : Cond := base alloc E fun counts _ => K counts

def importTx (K : List Nat → Prop) : Cond :=
  base alloc E fun counts => has 32 (inputs alloc E fun _ => K counts)

def exportTx (K : List Nat → Prop) : Cond :=
  base alloc E fun counts => has 32 (outputs alloc E fun more _ => K (counts ++ more))

def cchainImport (K : Prop) : Cond :=
  has 32 (inputs alloc E (vector alloc E 48 (fun K => has 60 (K ())) fun (_ : List Unit) _ => K))

def cchainExport (K : List Nat → Prop) : Cond :=
  has 32 (vector alloc E 56 (fun K => has 68 (K ())) fun (_ : List Unit) =>
    outputs alloc E fun counts _ => K counts)

def addValidator (K : List Nat → Prop) : Cond :=
  base alloc E fun counts => has (44 + 32 + 148) (outputs alloc E fun more =>
    owner alloc E (owner alloc E (has 4 fun _ => K (counts ++ more))))

def addDelegator (K : List Nat → Prop) : Cond :=
  base alloc E fun counts => has (44 + 32) (outputs alloc E fun more =>
    owner alloc E fun _ => K (counts ++ more))

end

def shown (counts : List Nat) : Prop := 0 ∉ counts

def behindHeader (alloc : Alloc) (isCChain : Bool) : TypeId → Cond
  | .baseTx =>
    if isCChain = true then cchainImport alloc True True else baseTx alloc True shown
  | .pchainExportTx | .xchainExportTx => exportTx alloc True shown
  | .xchainImportTx | .pchainImportTx => importTx alloc False shown
  | .cchainExportTx => cchainExport alloc True shown
  | .addPermissLessionValidator => addValidator alloc True shown
  | .addPermissLessionDelegator => addDelegator alloc True shown
  | _ => fun _ => True

end Room

open Room

def namesCChain (data : List UInt8) : Bool :=
  decide ((data.drop 10).take 32 = C_BLOCKCHAIN_ID)
    || decide ((data.drop 10).take 32 = C_TEST_BLOCKCHAIN_ID)

/-- There are a header and a type id that is known, and behind them what the type id asks for. -/
def Displayable (alloc : Alloc) (data : List UInt8) : Prop :=
  42 ≤ data.length ∧ ∃ typeId, TypeId.tryFrom (UInt32.ofNat (number 2 data)) = .ok typeId ∧
    behindHeader alloc (namesCChain data) typeId (data.drop 42)

section

variable {alloc : Alloc} {E : Prop} {s : List UInt8}

theorem measures_getTypeId : Measures (fun _ => 4) getTypeId := by
  intro s typeId rest h
  obtain ⟨value, mid, hvalue, h⟩ := Reader.bind_eq_ok.mp h
  obtain ⟨-, rfl⟩ := Reader.lift_eq_ok.mp h
  exact fixed_getU32.measures s value rest hvalue

theorem ends_nextOwner (K : Cond) (s : List UInt8) :
    Ends E (fun _ => K) (nextOwner alloc) s ↔ owner alloc E K s := by
  have hnext : nextOwner alloc = (do
      let typeId ← getTypeId
      let locktime ← getU64
      let threshold ← getU32
      let addresses ← LengthPrefixedVec.next alloc 20 Address.parsedSize Address.tryFrom
      pure { typeId, locktime, threshold, addresses }) := by
    refine Measures.sized_run fun s owner rest h => ?_
    obtain ⟨typeId, s₁, htypeId, h⟩ := Reader.bind_eq_ok.mp h
    obtain ⟨locktime, s₂, hlocktime, h⟩ := Reader.bind_eq_ok.mp h
    obtain ⟨threshold, s₃, hthreshold, h⟩ := Reader.bind_eq_ok.mp h
    obtain ⟨vec, s₄, hvec, h⟩ := Reader.bind_eq_ok.mp h
    cases h
    obtain ⟨hfour, rfl⟩ := measures_getTypeId _ _ _ htypeId
    obtain ⟨height, rfl⟩ := fixed_getU64.measures _ _ _ hlocktime
    obtain ⟨htwelve, rfl⟩ := fixed_getU32.measures _ _ _ hthreshold
    obtain ⟨hle, rfl⟩ := Reader.measures_sized _ _ _ hvec
    simp only [List.length_drop] at height htwelve hle
    refine ⟨?_, ?_⟩
    · show 4 + 8 + 4 + vec.parsedSize Address.parsedSize ≤ s.length
      omega
    · simp only [List.drop_drop, OutputOwner.parsedSize]
  rw [hnext, owner]
  refine (ends_getTypeId_bind (K := has 12 (addresses alloc E fun _ => K)) (fun typeId t => ?_)
    s).trans ?_
  · rw [show 12 = 8 + 4 from rfl, ← Reader.has_has]
    refine fixed_getU64.ends_bind (fun locktime => fixed_getU32.ends_bind fun threshold t => ?_) t
    rw [Reader.ends_bind]
    exact ends_addresses (Q := fun _ _ => K)
  · refine and_congr_right fun hfour => ?_
    rw [show 16 = 4 + 12 from rfl, ← Reader.has_has, Reader.has_of_le hfour]

theorem consumes_fields : Consumes (BaseTx.fields alloc) := by
  refine fixed_getU16.measures.consumes.bind fun codecId => ?_
  refine measures_getTypeId.consumes.bind fun typeId => ?_
  refine fixed_header.measures.consumes.bind fun txHeader => ?_
  refine Reader.measures_sized.consumes.bind fun outputs => ?_
  refine Reader.measures_sized.consumes.bind fun inputs => ?_
  refine fixed_getU32.measures.consumes.bind fun memoLen => ?_
  exact (Reader.fixed_take _).measures.consumes.bind fun memo => Reader.consumes_pure _

theorem baseTx_next_eq : BaseTx.next alloc = (do
    let tx ← measured (BaseTx.fields alloc)
    pure (tx.1 tx.2)) := by
  refine Measures.sized_run (consumes_fields.measures fun s mk rest h n => ?_)
  obtain ⟨codecId, s₁, -, h⟩ := Reader.bind_eq_ok.mp h
  obtain ⟨typeId, s₂, -, h⟩ := Reader.bind_eq_ok.mp h
  obtain ⟨txHeader, s₃, -, h⟩ := Reader.bind_eq_ok.mp h
  obtain ⟨outputs, s₄, -, h⟩ := Reader.bind_eq_ok.mp h
  obtain ⟨inputs, s₅, -, h⟩ := Reader.bind_eq_ok.mp h
  obtain ⟨memoLen, s₆, -, h⟩ := Reader.bind_eq_ok.mp h
  obtain ⟨memo, s₇, -, h⟩ := Reader.bind_eq_ok.mp h
  cases h
  rfl

theorem ends_memo {α : Type} {Q : α → Cond} {K : Cond} {mk : UInt32 → List UInt8 → α}
    (hQ : ∀ memoLen memo rest, Q (mk memoLen memo) rest ↔ K rest) (s : List UInt8) :
    Ends E Q (do
      let memoLen ← getU32
      let memo ← Reader.take none memoLen.toNat
      pure (mk memoLen memo)) s ↔ memo K s := by
  rw [Reader.ends_bind, ends_getU32, memo]
  refine and_congr_right fun hfour => ?_
  rw [← Reader.has_has, Reader.has_of_le hfour, toNat_number]
  refine Fixed.ends_bind (Reader.fixed_take _) (fun bytes rest => ?_) _
  exact hQ _ bytes rest

/-- The type id is one that is known, and there is a header. -/
structure Headed (s : List UInt8) : Prop where
  length : 42 ≤ s.length
  known : (TypeId.tryFrom (UInt32.ofNat (number 2 s))).isOk = true

theorem ends_header {α : Type} {Q : α → Cond} {K : Cond}
    {f : UInt16 → TypeId → Header → Reader AvaxError α} (h : Headed s)
    (hf : ∀ codecId typeId txHeader rest, Ends E Q (f codecId typeId txHeader) rest ↔ K rest) :
    Ends E Q (do
      let codecId ← getU16
      let typeId ← getTypeId
      let txHeader ← sized Header.parsedSize Header.tryFrom
      f codecId typeId txHeader) s ↔ K (s.drop 42) := by
  let known : Cond := fun t => 4 ≤ t.length ∧
    if (TypeId.tryFrom (UInt32.ofNat (number 0 t))).isOk = true then has 36 K (t.drop 4) else E
  refine (fixed_getU16.ends_bind (K := known) (fun codecId => ?_) s).trans ?_
  · exact ends_getTypeId_bind fun typeId => fixed_header.ends_bind (hf codecId typeId)
  · have hlength := h.length
    have hfour : 4 ≤ (s.drop 2).length := by
      rw [List.length_drop]
      omega
    rw [Reader.has_of_le (by omega)]
    refine (and_iff_right hfour).trans ?_
    rw [number_drop, if_pos h.known, List.drop_drop]
    refine (Reader.has_of_le ?_).trans ?_
    · rw [List.length_drop]
      omega
    · rw [List.drop_drop]

theorem ends_baseTx_next {K : List Nat → Cond} (h : Headed s) :
    Ends E (fun tx => K (tx.outputs.items.map addressCount)) (BaseTx.next alloc) s ↔
      base alloc E K (s.drop 42) := by
  rw [baseTx_next_eq, Reader.ends_bind, Reader.ends_measured]
  refine ends_header h fun codecId typeId txHeader rest => ?_
  rw [Reader.ends_bind, base, ← ends_nextOutputs]
  refine Reader.ends_congr fun outputs rest => ?_
  rw [Reader.ends_bind, ← ends_nextInputs]
  refine Reader.ends_congr fun inputs rest => ?_
  refine ends_memo (fun memoLen memo rest => ?_) rest
  exact Iff.rfl

variable {K : List Nat → Prop}

theorem ends_baseTx (h : Headed s) : Outcome.Ends E
    (fun tx => K (tx.outputs.items.map addressCount)) (BaseTx.tryFrom alloc s) ↔
      baseTx alloc E K (s.drop 42) := by
  rw [BaseTx.tryFrom, Reader.ends_run, ← baseTx_next_eq]
  exact ends_baseTx_next (K := fun counts _ => K counts) h

theorem ends_importTx (h : Headed s) : Outcome.Ends E
    (fun tx => K (tx.baseTx.outputs.items.map addressCount)) (ImportTx.tryFrom alloc s) ↔
      importTx alloc E K (s.drop 42) := by
  rw [ImportTx.tryFrom, Reader.ends_run, Reader.ends_bind, importTx, ← ends_baseTx_next h]
  refine Reader.ends_congr fun baseTx rest => ?_
  refine Fixed.ends_bind (Reader.fixed_block 32) (fun sourceChain rest => ?_) rest
  rw [Reader.ends_bind, Reader.ends_peek, ← ends_nextInputs]
  exact ends_tryFrom

theorem ends_exportTx (h : Headed s) : Outcome.Ends E
    (fun tx => K (tx.baseTx.outputs.items.map addressCount
      ++ tx.transferOut.items.map addressCount)) (ExportTx.tryFrom alloc s) ↔
      exportTx alloc E K (s.drop 42) := by
  rw [ExportTx.tryFrom, Reader.ends_run, Reader.ends_bind, exportTx, ← ends_baseTx_next h]
  refine Reader.ends_congr fun baseTx rest => ?_
  refine Fixed.ends_bind (Reader.fixed_block 32) (fun destChain rest => ?_) rest
  rw [Reader.ends_bind, Reader.ends_peek, ← ends_nextOutputs]
  exact ends_tryFrom

theorem ends_cchainImport {P : Prop} (h : Headed s) :
    Outcome.Ends E (fun _ => P) (CChain.ImportTx.tryFrom alloc s) ↔
      cchainImport alloc E P (s.drop 42) := by
  rw [CChain.ImportTx.tryFrom, Reader.ends_run]
  refine ends_header h fun codecId typeId txHeader rest => ?_
  refine Fixed.ends_bind (Reader.fixed_block 32) (fun sourceChain rest => ?_) rest
  rw [Reader.ends_bind, ← ends_nextInputs]
  refine Reader.ends_congr fun inputs rest => ?_
  rw [Reader.ends_bind]
  exact ends_vector (g := fun _ => ()) (fun K s => fixed_evmOutput.ends) (fun _ _ => P) rest

theorem ends_cchainExport (h : Headed s) : Outcome.Ends E
    (fun tx => K (tx.outputs.items.map addressCount)) (CChain.ExportTx.tryFrom alloc s) ↔
      cchainExport alloc E K (s.drop 42) := by
  rw [CChain.ExportTx.tryFrom, Reader.ends_run]
  refine ends_header h fun codecId typeId txHeader rest => ?_
  refine Fixed.ends_bind (Reader.fixed_block 32) (fun destChain rest => ?_) rest
  rw [Reader.ends_bind, ← ends_vector (g := fun _ => ()) fun K s => fixed_evmInput.ends]
  refine Reader.ends_congr fun inputs rest => ?_
  rw [Reader.ends_bind, ← ends_nextOutputs]
  exact Iff.rfl

theorem ends_addDelegator (h : Headed s) : Outcome.Ends E
    (fun tx => K (tx.baseTx.outputs.items.map addressCount
      ++ tx.stakeOut.items.map addressCount)) (AddPermissLessionDelegatorTx.tryFrom alloc s) ↔
      addDelegator alloc E K (s.drop 42) := by
  rw [AddPermissLessionDelegatorTx.tryFrom, Reader.ends_run, Reader.ends_bind, addDelegator,
    ← ends_baseTx_next h]
  refine Reader.ends_congr fun baseTx rest => ?_
  rw [← Reader.has_has]
  refine fixed_validator.ends_bind (fun validator => fixed_subnetId.ends_bind
    fun subnetId rest => ?_) rest
  rw [Reader.ends_bind, ← ends_nextOutputs]
  refine Reader.ends_congr fun stakeOut rest => ?_
  rw [Reader.ends_bind, ← ends_nextOwner]
  exact Iff.rfl

theorem ends_addValidator (h : Headed s) : Outcome.Ends E
    (fun tx => K (tx.baseTx.outputs.items.map addressCount
      ++ tx.stakeOut.items.map addressCount)) (AddPermissLessionValidatorTx.tryFrom alloc s) ↔
      addValidator alloc E K (s.drop 42) := by
  rw [AddPermissLessionValidatorTx.tryFrom, Reader.ends_run, Reader.ends_bind, addValidator,
    ← ends_baseTx_next h]
  refine Reader.ends_congr fun baseTx rest => ?_
  rw [← Reader.has_has, ← Reader.has_has]
  refine fixed_validator.ends_bind (fun validator => fixed_subnetId.ends_bind fun subnetId =>
    fixed_signer.ends_bind fun signer rest => ?_) rest
  rw [Reader.ends_bind, ← ends_nextOutputs]
  refine Reader.ends_congr fun stakeOut rest => ?_
  rw [Reader.ends_bind, ← ends_nextOwner]
  refine Reader.ends_congr fun validatorOwner rest => ?_
  rw [Reader.ends_bind, ← ends_nextOwner]
  refine Reader.ends_congr fun delegatorOwner rest => ?_
  refine Fixed.ends_bind fixed_getU32 (fun delegatorShare rest => ?_) rest
  exact Iff.rfl

end

def ParsedTx.counts : ParsedTx → List Nat
  | base tx => tx.outputs.items.map addressCount
  | cchainImport _ => []
  | exportTx _ tx =>
    tx.baseTx.outputs.items.map addressCount ++ tx.transferOut.items.map addressCount
  | importTx _ tx => tx.baseTx.outputs.items.map addressCount
  | cchainExport tx => tx.outputs.items.map addressCount
  | addValidator tx =>
    tx.baseTx.outputs.items.map addressCount ++ tx.stakeOut.items.map addressCount
  | addDelegator tx =>
    tx.baseTx.outputs.items.map addressCount ++ tx.stakeOut.items.map addressCount

theorem addressed_outputs_iff {lib : AvaxLib} (outputs : List TransferableOutput) :
    (∀ o ∈ outputs.map (TransferableOutput.produced lib), o.addresses ≠ []) ↔
      shown (outputs.map addressCount) := by
  rw [List.forall_mem_map, shown, List.mem_map, not_exists]
  refine forall_congr' fun output => ?_
  rw [not_and]
  refine imp_congr_right fun _ => not_congr ?_
  exact List.map_eq_nil_iff.trans List.length_eq_zero_iff.symm

theorem addressed_iff_shown {lib : AvaxLib} (tx : ParsedTx) :
    (∀ o ∈ tx.produced lib, o.addresses ≠ []) ↔ shown tx.counts := by
  cases tx with
  | base tx => exact addressed_outputs_iff _
  | cchainImport tx =>
    refine iff_of_true ?_ List.not_mem_nil
    rw [ParsedTx.produced, List.forall_mem_map]
    exact fun o _ => List.cons_ne_nil _ _
  | exportTx chain tx =>
    rw [ParsedTx.counts, ← List.map_append]
    exact addressed_outputs_iff _
  | importTx chain tx => exact addressed_outputs_iff _
  | cchainExport tx => exact addressed_outputs_iff _
  | addValidator tx =>
    rw [ParsedTx.counts, ← List.map_append]
    exact addressed_outputs_iff _
  | addDelegator tx =>
    rw [ParsedTx.counts, ← List.map_append]
    exact addressed_outputs_iff _

theorem not_fails_findFirst (address : Text) (infos : List AvaxFromToInfo) :
    ¬Outcome.Fails (AvaxTxInfo.findFirst address infos) := by
  induction infos with
  | nil => exact not_fails_ok none
  | cons info infos ih =>
    rw [AvaxTxInfo.findFirst, Outcome.fails_bind]
    rintro (h | ⟨first, -, h⟩)
    · exact Outcome.not_fails_index h
    · by_cases heq : first = address
      · rw [if_pos heq] at h
        exact not_fails_ok _ h
      · rw [if_neg heq] at h
        exact ih h

theorem not_fails_fromTxInfo (info : AvaxTxInfo) (fromPath address : Text) (walletIndex : Nat)
    (typeId : TypeId) :
    ¬Outcome.Fails (fromTxInfo info fromPath address walletIndex typeId) := by
  have hamount : ¬Outcome.Fails (info.getOutputAmount address typeId) := by
    unfold AvaxTxInfo.getOutputAmount
    split
    · exact not_fails_ok _
    · exact not_fails_ok _
    · exact fun h => not_fails_findFirst address _ (Outcome.fails_map.mp h)
  rw [fromTxInfo, Outcome.fails_bind]
  rintro (h | ⟨amount, -, h⟩)
  · exact hamount h
  · refine Outcome.not_fails_collect (fun v _ hv => ?_) (Outcome.fails_map.mp h)
    exact Outcome.not_fails_index (Outcome.fails_map.mp hv)

theorem fromTxInfo_returns_iff {lib : AvaxLib} {tx : ParsedTx} {fromPath address : Text}
    {walletIndex : Nat} :
    Returns (fromTxInfo (tx.info lib) fromPath address walletIndex tx.typeId) ↔
      shown tx.counts := by
  rw [← @addressed_iff_shown lib]
  constructor
  · intro h
    cases hresult : fromTxInfo (tx.info lib) fromPath address walletIndex tx.typeId with
    | ok display => exact (fromTxInfo_eq hresult).1
    | error e => exact absurd ⟨e, hresult⟩ (not_fails_fromTxInfo _ _ _ _ _)
    | halted => exact absurd hresult h
  · intro h
    obtain ⟨display, hdisplay⟩ := exists_fromTxInfo h fromPath walletIndex
    rw [hdisplay]
    exact Outcome.returns_ok display

theorem getAvaxTxHeader_eq {data : List UInt8} (h : 42 ≤ data.length) :
    ∃ header, getAvaxTxHeader data = .ok header ∧
      header.isCChain = namesCChain data := by
  refine Outcome.ends_false.mp ?_
  rw [getAvaxTxHeader, Reader.ends_run, Reader.ends_bind, Reader.ends_skip, Reader.ends_bind,
    Reader.ends_skip, Reader.ends_sized, Header.tryFrom, Reader.ends_run, Reader.ends_bind,
    ends_getU32, Reader.ends_bind, Reader.ends_block]
  simp only [List.length_drop, List.drop_drop, Nat.reduceAdd]
  refine ⟨by omega, by omega, by omega, by omega, ?_⟩
  have hbytes : (Bytes.Block.ofBytes 32 ((data.drop 10).take 32)).bytes
      = (data.drop 10).take 32 := by
    have hlength : ((data.drop 10).take 32).length = 32 := by
      rw [List.length_take, List.length_drop]
      omega
    exact congrArg Bytes.Block.bytes (Bytes.Block.ofBytes_bytes ⟨_, hlength⟩)
  refine ⟨?_, ?_⟩
  · show 4 + 32 ≤ _
    omega
  · rw [Header.isCChain, namesCChain]
    dsimp only
    rw [hbytes]

section

variable {alloc : Alloc} {data : List UInt8}

/-- What the parser for a type id asks for, if an error is all right. -/
def parserAsks (alloc : Alloc) (data : List UInt8) : TypeId → Prop
  | .xchainImportTx | .pchainImportTx => importTx alloc True shown (data.drop 42)
  | typeId => behindHeader alloc (namesCChain data) typeId (data.drop 42)

theorem ends_parseAvaxTx {α : Type} {E : Prop} {Q : ParsedTx → Prop} (mk : α → ParsedTx)
    (tryFrom : List UInt8 → Outcome AvaxError α) :
    Outcome.Ends E Q (mk <$> parseAvaxTx tryFrom data) ↔
      Outcome.Ends E (fun tx => Q (mk tx)) (tryFrom data) := by
  rw [Outcome.ends_map, parseAvaxTx, Outcome.ends_mapError]

theorem parseTx_ends_iff (h : Headed data) (typeId : TypeId) :
    Outcome.Ends True (fun tx => shown tx.counts) (parseTx alloc data typeId) ↔
      parserAsks alloc data typeId := by
  cases typeId with
  | baseTx =>
    obtain ⟨header, hheader, hchain⟩ := getAvaxTxHeader_eq h.length
    show Outcome.Ends True _ (Outcome.expect (getAvaxTxHeader data) >>= fun header =>
      if header.isCChain = true then _ else _) ↔
      (if namesCChain data = true then cchainImport alloc True True else baseTx alloc True shown)
        (data.drop 42)
    rw [hheader]
    show Outcome.Ends True _ (if header.isCChain = true then _ else _) ↔ _
    rw [hchain]
    cases namesCChain data with
    | true =>
      rw [if_pos rfl, if_pos rfl, ends_parseAvaxTx, ← ends_cchainImport h]
      exact ends_congr fun tx _ => iff_of_true List.not_mem_nil trivial
    | false =>
      rw [if_neg Bool.false_ne_true, if_neg Bool.false_ne_true, ends_parseAvaxTx]
      exact ends_baseTx h
  | pchainExportTx => exact (ends_parseAvaxTx (ParsedTx.exportTx .p) _).trans (ends_exportTx h)
  | xchainExportTx => exact (ends_parseAvaxTx (ParsedTx.exportTx .x) _).trans (ends_exportTx h)
  | xchainImportTx => exact (ends_parseAvaxTx (ParsedTx.importTx .x) _).trans (ends_importTx h)
  | pchainImportTx => exact (ends_parseAvaxTx (ParsedTx.importTx .p) _).trans (ends_importTx h)
  | cchainExportTx => exact (ends_parseAvaxTx ParsedTx.cchainExport _).trans (ends_cchainExport h)
  | addPermissLessionValidator =>
    exact (ends_parseAvaxTx ParsedTx.addValidator _).trans (ends_addValidator h)
  | addPermissLessionDelegator =>
    exact (ends_parseAvaxTx ParsedTx.addDelegator _).trans (ends_addDelegator h)
  | _ => exact Iff.rfl

theorem determineDerivationPath_ends_iff (h : Headed data) {typeId : TypeId} {walletIndex : Nat} :
    Outcome.Ends False (fun _ => parserAsks alloc data typeId)
      (determineDerivationPath alloc typeId data walletIndex) ↔
      behindHeader alloc (namesCChain data) typeId (data.drop 42) := by
  obtain ⟨header, hheader, -⟩ := getAvaxTxHeader_eq h.length
  have himport : Outcome.Ends False (fun _ => importTx alloc True shown (data.drop 42))
      (ImportTx.tryFrom alloc data) ↔ importTx alloc False shown (data.drop 42) := by
    rw [← ends_importTx h, ← ends_importTx h]
    exact Outcome.ends_again
  rw [determineDerivationPath, hheader, Outcome.ok_bind]
  cases typeId with
  | xchainImportTx =>
    refine Iff.trans ?_ himport
    exact ends_bind
  | pchainImportTx =>
    refine Iff.trans ?_ himport
    exact ends_bind
  | _ => exact Iff.rfl

theorem shown_ends_iff (h : Headed data) {typeId : TypeId} {lib : AvaxLib} {path : ParsedTx → Text}
    {address : Text} {walletIndex : Nat} :
    Outcome.Ends True (fun _ => True) (do
      let tx ← parseTx alloc data typeId
      fromTxInfo (tx.info lib) (path tx) address walletIndex typeId) ↔
      parserAsks alloc data typeId := by
  rw [ends_bind, ← parseTx_ends_iff h]
  refine ends_congr fun tx htx => ?_
  rw [Outcome.ends_true, ← typeId_of_parseTx htx]
  exact fromTxInfo_returns_iff

end

theorem fixed_txHeader : Fixed 42 (do
    skip 2
    skip 4
    sized Header.parsedSize Header.tryFrom) :=
  (Reader.fixed_skip 2).bind fun _ => (Reader.fixed_skip 4).bind fun _ => fixed_header

/-- The path that is shown: of an import to the C chain there is none. -/
def shownPath (fullPath : Text) : ParsedTx → Text
  | .cchainImport _ => []
  | _ => fullPath

def sampleUnwritten : List UInt8 :=
  List.replicate 42 0 ++ [0, 0, 0, 1] ++ List.replicate 32 0 ++ [0, 0, 0, 3]

end Keystone3.Avalanche
