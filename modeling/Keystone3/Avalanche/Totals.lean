import Mathlib.Algebra.Order.BigOperators.Group.List
import Mathlib.Algebra.Order.Ring.Nat
import Keystone3.Avalanche.Display
import Keystone3.Bytes.Checked
import Keystone3.Logic.Panic

/-!
# The totals that are shown

The fee is a difference of sums of 64 bits that may wrap. An import counts what it
imports and not what its base transaction spends (`uncounted`). `amountsExact_iff` says
when the fee is the exact one and the amount is that of the outputs to others.
-/

namespace Keystone3.Avalanche

open Logic (Outcome)

def total (amounts : List UInt64) : Nat := (amounts.map UInt64.toNat).sum

structure Produced where
  amount : UInt64
  addresses : List Text

section

variable (lib : AvaxLib)

def BaseTx.spent (tx : BaseTx) : List UInt64 := tx.inputs.items.map TransferableInput.getAmount

def TransferableOutput.produced (output : TransferableOutput) : Produced :=
  ⟨output.getAmount, output.getAddresses lib⟩

namespace ParsedTx

def counted : ParsedTx → List UInt64
  | base tx => tx.spent
  | cchainImport tx => tx.inputs.items.map TransferableInput.getAmount
  | exportTx _ tx => tx.baseTx.spent
  | importTx _ tx => tx.transferIn.items.map TransferableInput.getAmount
  | cchainExport tx => tx.inputs.items.map EvmInput.amount
  | addValidator tx => tx.baseTx.spent
  | addDelegator tx => tx.baseTx.spent

def uncounted : ParsedTx → List UInt64
  | importTx _ tx => tx.baseTx.spent
  | _ => []

def spent (tx : ParsedTx) : List UInt64 := tx.uncounted ++ tx.counted

def produced : ParsedTx → List Produced
  | base tx => tx.outputs.items.map (TransferableOutput.produced lib)
  | cchainImport tx => tx.outputs.items.map fun o => ⟨o.amount, [o.address.toEvmAddress]⟩
  | exportTx _ tx => (tx.baseTx.outputs.items ++ tx.transferOut.items).map
      (TransferableOutput.produced lib)
  | importTx _ tx => tx.baseTx.outputs.items.map (TransferableOutput.produced lib)
  | cchainExport tx => tx.outputs.items.map (TransferableOutput.produced lib)
  | addValidator tx => (tx.baseTx.outputs.items ++ tx.stakeOut.items).map
      (TransferableOutput.produced lib)
  | addDelegator tx => (tx.baseTx.outputs.items ++ tx.stakeOut.items).map
      (TransferableOutput.produced lib)

def producedTotal (tx : ParsedTx) : Nat := total ((tx.produced lib).map Produced.amount)

def toOthers (tx : ParsedTx) (address : Text) : Nat :=
  total (((tx.produced lib).filter fun o => !o.addresses.contains address).map Produced.amount)

def IsImport : ParsedTx → Bool
  | importTx _ _ => true
  | cchainImport _ => true
  | _ => false

def firstChange (tx : ParsedTx) (address : Text) : Nat :=
  match tx with
  | importTx _ _ => 0
  | tx => (((tx.produced lib).find? fun o => o.addresses.head? = some address).map
      fun o => o.amount.toNat).getD 0

end ParsedTx

/-- The fee is what is spent and not produced, the amount is what goes to others, and no sum and no
difference wraps. -/
structure AmountsExact (tx : ParsedTx) (address : Text) (display : DisplayTxAvaxData) : Prop where
  input : display.totalInputAmount.toNat = total tx.counted
  output : display.totalOutputAmount.toNat = tx.producedTotal lib
  covered : tx.producedTotal lib ≤ total tx.counted
  fee : (display.feeAmount.toNat : Int) = total tx.spent - tx.producedTotal lib
  amount : display.amount.toNat = tx.toOthers lib address

/-- The inputs that count add up, cover the outputs, and no others are spent. -/
structure CountsOnce (tx : ParsedTx) (address : Text) : Prop where
  addressed : ∀ o ∈ tx.produced lib, o.addresses ≠ []
  fits : total tx.counted < 2 ^ 64
  covered : tx.producedTotal lib ≤ total tx.counted
  counted : total tx.uncounted = 0
  change : (if tx.IsImport then total tx.counted else tx.producedTotal lib)
    = tx.toOthers lib address + tx.firstChange lib address

end

theorem sumAmounts_toNat (amounts : List UInt64) :
    (sumAmounts amounts).toNat = total amounts % 2 ^ 64 := by
  rw [sumAmounts, Bytes.foldl_add_toNat, UInt64.toNat_zero, Nat.zero_add]
  rfl

theorem total_append (a b : List UInt64) : total (a ++ b) = total a + total b := by
  rw [total, List.map_append, List.sum_append]
  rfl

theorem sumAmounts_append (a b : List UInt64) :
    sumAmounts a + sumAmounts b = sumAmounts (a ++ b) := by
  rw [← UInt64.toNat_inj, UInt64.toNat_add, sumAmounts_toNat, sumAmounts_toNat, sumAmounts_toNat,
    ← Nat.add_mod, total_append]

theorem sumAmounts_toNat_eq_iff (amounts : List UInt64) :
    (sumAmounts amounts).toNat = total amounts ↔ total amounts < 2 ^ 64 := by
  constructor
  · intro h
    rw [← h]
    exact (sumAmounts amounts).toNat_lt
  · intro h
    rw [sumAmounts_toNat, Nat.mod_eq_of_lt h]

section

variable {lib : AvaxLib} (tx : ParsedTx)

theorem totalInputAmount_info : (tx.info lib).totalInputAmount = sumAmounts tx.counted := by
  cases tx <;> rfl

theorem producedAmounts_map (outputs : List TransferableOutput) :
    (outputs.map (TransferableOutput.produced lib)).map Produced.amount
      = outputs.map TransferableOutput.getAmount := by
  rw [List.map_map]
  rfl

theorem totalOutputAmount_info :
    (tx.info lib).totalOutputAmount = sumAmounts ((tx.produced lib).map Produced.amount) := by
  -- Outputs behind the base transaction are added up by themselves.
  have hwith (base : BaseTx) (outputs : LengthPrefixedVec TransferableOutput) :
      (base.infoWith lib outputs).totalOutputAmount = sumAmounts
        (((base.outputs.items ++ outputs.items).map (TransferableOutput.produced lib)).map
          Produced.amount) := by
    rw [producedAmounts_map, List.map_append, ← sumAmounts_append]
    rfl
  cases tx with
  | exportTx chain tx => exact hwith _ _
  | addValidator tx => exact hwith _ _
  | addDelegator tx => exact hwith _ _
  | cchainImport tx =>
    show sumAmounts _ = sumAmounts _
    rw [ParsedTx.produced, List.map_map]
    rfl
  | base tx => exact congrArg sumAmounts (producedAmounts_map _).symm
  | importTx chain tx => exact congrArg sumAmounts (producedAmounts_map _).symm
  | cchainExport tx => exact congrArg sumAmounts (producedAmounts_map _).symm

theorem importTxFee_info : (tx.info lib).importTxFee
    = if tx.IsImport then 0 else (tx.info lib).getFeeAmount := by
  cases tx <;> rfl

theorem outputsAddresses_info : (tx.info lib).outputsAddresses.map
    (fun info => Produced.mk info.amount info.address) = tx.produced lib := by
  have hmap (pathPrefix : Text) (outputs : List TransferableOutput) :
      (outputs.map (TransferableOutput.info lib pathPrefix)).map
        (fun info => Produced.mk info.amount info.address)
        = outputs.map (TransferableOutput.produced lib) := by
    rw [List.map_map]
    rfl
  have hwith (base : BaseTx) (outputs : LengthPrefixedVec TransferableOutput) :
      (base.infoWith lib outputs).outputsAddresses.map
        (fun info => Produced.mk info.amount info.address)
        = (base.outputs.items ++ outputs.items).map (TransferableOutput.produced lib) := by
    rw [List.map_append, ← hmap X_P_CHAIN_PREFIX, ← hmap X_P_CHAIN_PREFIX, ← List.map_append]
    rfl
  cases tx with
  | exportTx chain tx => exact hwith _ _
  | addValidator tx => exact hwith _ _
  | addDelegator tx => exact hwith _ _
  | cchainImport tx =>
    show List.map _ (List.map _ _) = _
    rw [List.map_map]
    rfl
  | base tx => exact hmap _ _
  | importTx chain tx => exact hmap _ _
  | cchainExport tx => exact hmap _ _

end

theorem index_zero_eq {l : List Text} : (Outcome.index l 0 : Outcome RustCError Text)
    = Outcome.unwrap l.head? := by
  cases l with
  | nil => rfl
  | cons a l => rfl

theorem findFirst_eq {address : Text} {infos : List AvaxFromToInfo}
    (h : ∀ info ∈ infos, info.address ≠ []) : AvaxTxInfo.findFirst address infos
      = .ok (infos.find? fun info => info.address.head? = some address) := by
  induction infos with
  | nil => rfl
  | cons info infos ih =>
    obtain ⟨hinfo, hinfos⟩ := List.forall_mem_cons.mp h
    obtain ⟨first, rest, hfirst⟩ := List.exists_cons_of_ne_nil hinfo
    rw [AvaxTxInfo.findFirst, index_zero_eq, List.find?_cons, hfirst]
    show (if first = address then _ else _) = _
    by_cases heq : first = address
    · rw [if_pos heq, heq]
      simp
    · rw [if_neg heq, ih hinfos]
      simp [heq]

theorem receivers_returns_iff {infos : List AvaxFromToInfo} {walletIndex : Nat} {address : Text}
    {typeId : TypeId} : (∃ receivers, Outcome.collect
        (fun v => fromIndex v walletIndex address typeId) infos = .ok receivers) ↔
      ∀ info ∈ infos, info.address ≠ [] := by
  have hvalue (info : AvaxFromToInfo) :
      Outcome.ValueIff (fromIndex info walletIndex address typeId) (info.address ≠ []) := by
    refine ((Outcome.valueIff_index info.address 0).bind fun first _ =>
      Outcome.valueIff_ok _).congr ?_
    rw [and_true, List.length_pos_iff]
  have hall := Outcome.ValueIff.collect fun (info : AvaxFromToInfo) (_ : info ∈ infos) => hvalue info
  constructor
  · rintro ⟨receivers, h⟩
    exact hall.holds h
  · exact hall.exists_ok

section

variable {lib : AvaxLib} {tx : ParsedTx} {address : Text}

theorem addressed_iff : (∀ info ∈ (tx.info lib).outputsAddresses, info.address ≠ []) ↔
    ∀ o ∈ tx.produced lib, o.addresses ≠ [] := by
  rw [← outputsAddresses_info tx, List.forall_mem_map]

theorem getOutputAmount_eq (h : ∀ o ∈ tx.produced lib, o.addresses ≠ []) :
    ∃ change : UInt64, change.toNat = tx.firstChange lib address ∧
      (tx.info lib).getOutputAmount address tx.typeId
        = .ok ((tx.info lib).totalInputAmount - (tx.info lib).importTxFee - change) := by
  -- Where change is looked for, it is the first output with the address in first place.
  have hfind (htypeId : tx.typeId ≠ .pchainImportTx ∧ tx.typeId ≠ .xchainImportTx)
      (hchange : tx.firstChange lib address = (((tx.produced lib).find? fun o =>
        o.addresses.head? = some address).map fun o => o.amount.toNat).getD 0) :
      ∃ change : UInt64, change.toNat = tx.firstChange lib address ∧
        (tx.info lib).getOutputAmount address tx.typeId
          = .ok ((tx.info lib).totalInputAmount - (tx.info lib).importTxFee - change) := by
    refine ⟨(((tx.info lib).outputsAddresses.find? fun info =>
      info.address.head? = some address).map AvaxFromToInfo.amount).getD 0, ?_, ?_⟩
    · rw [hchange, ← outputsAddresses_info tx, List.find?_map]
      cases hfound : (tx.info lib).outputsAddresses.find? fun info =>
          info.address.head? = some address with
      | none =>
        have hnone : (tx.info lib).outputsAddresses.find? ((fun o : Produced =>
            decide (o.addresses.head? = some address)) ∘ fun info =>
              Produced.mk info.amount info.address) = none := hfound
        rw [hnone]
        rfl
      | some info =>
        have hsome : (tx.info lib).outputsAddresses.find? ((fun o : Produced =>
            decide (o.addresses.head? = some address)) ∘ fun info =>
              Produced.mk info.amount info.address) = some info := hfound
        rw [hsome]
        rfl
    · rw [AvaxTxInfo.getOutputAmount, findFirst_eq (addressed_iff.mpr h)]
      · rfl
      · exact htypeId.1
      · exact htypeId.2
  cases tx with
  | importTx chain tx =>
    refine ⟨0, rfl, ?_⟩
    rw [UInt64.sub_zero]
    cases chain with
    | x => rfl
    | p => rfl
  | exportTx chain tx =>
    cases chain with
    | x => exact hfind ⟨nofun, nofun⟩ rfl
    | p => exact hfind ⟨nofun, nofun⟩ rfl
  | base tx => exact hfind ⟨nofun, nofun⟩ rfl
  | cchainImport tx => exact hfind ⟨nofun, nofun⟩ rfl
  | cchainExport tx => exact hfind ⟨nofun, nofun⟩ rfl
  | addValidator tx => exact hfind ⟨nofun, nofun⟩ rfl
  | addDelegator tx => exact hfind ⟨nofun, nofun⟩ rfl

theorem le_total_of_mem {amounts : List UInt64} {amount : UInt64} (h : amount ∈ amounts) :
    amount.toNat ≤ total amounts :=
  List.le_sum_of_mem (List.mem_map_of_mem h)

theorem firstChange_le : tx.firstChange lib address ≤ tx.producedTotal lib := by
  have hfound : (((tx.produced lib).find? fun o => o.addresses.head? = some address).map
      fun o => o.amount.toNat).getD 0 ≤ tx.producedTotal lib := by
    cases h : (tx.produced lib).find? fun o => o.addresses.head? = some address with
    | none => exact Nat.zero_le _
    | some o => exact le_total_of_mem (List.mem_map_of_mem (List.mem_of_find?_eq_some h))
  cases tx with
  | importTx chain tx => exact Nat.zero_le _
  | _ => exact hfound

theorem fromTxInfo_eq {fromPath : Text} {walletIndex : Nat} {display : DisplayTxAvaxData}
    (h : fromTxInfo (tx.info lib) fromPath address walletIndex tx.typeId = .ok display) :
    (∀ o ∈ tx.produced lib, o.addresses ≠ []) ∧ ∃ change : UInt64,
      change.toNat = tx.firstChange lib address ∧
      display.totalInputAmount = (tx.info lib).totalInputAmount ∧
      display.totalOutputAmount = (tx.info lib).totalOutputAmount ∧
      display.feeAmount = (tx.info lib).getFeeAmount ∧
      display.amount = (tx.info lib).totalInputAmount - (tx.info lib).importTxFee - change := by
  obtain ⟨amount, hamount, h⟩ := Outcome.bind_eq_ok.mp h
  obtain ⟨receivers, hreceivers, h⟩ := Outcome.bind_eq_ok.mp h
  have haddressed := addressed_iff.mp (receivers_returns_iff.mp ⟨receivers, hreceivers⟩)
  obtain ⟨change, hchange, heq⟩ := @getOutputAmount_eq lib tx address haddressed
  cases h
  exact ⟨haddressed, change, hchange, rfl, rfl, rfl, Outcome.ok.inj (hamount.symm.trans heq)⟩

theorem exists_fromTxInfo (h : ∀ o ∈ tx.produced lib, o.addresses ≠ []) (fromPath : Text)
    (walletIndex : Nat) : ∃ display,
      fromTxInfo (tx.info lib) fromPath address walletIndex tx.typeId = .ok display := by
  obtain ⟨change, -, hamount⟩ := @getOutputAmount_eq lib tx address h
  obtain ⟨receivers, hreceivers⟩ := (@receivers_returns_iff _ walletIndex address tx.typeId).mpr
    (addressed_iff.mpr h)
  rw [fromTxInfo, hamount, Outcome.ok_bind, hreceivers]
  exact ⟨_, rfl⟩

theorem fee_toNat (hfits : total tx.counted < 2 ^ 64)
    (hcovered : tx.producedTotal lib ≤ total tx.counted) :
    (tx.info lib).getFeeAmount.toNat = total tx.counted - tx.producedTotal lib := by
  have hinput : (tx.info lib).totalInputAmount.toNat = total tx.counted := by
    rw [totalInputAmount_info]
    exact (sumAmounts_toNat_eq_iff _).mpr hfits
  have houtput : (tx.info lib).totalOutputAmount.toNat = tx.producedTotal lib := by
    rw [totalOutputAmount_info]
    exact (sumAmounts_toNat_eq_iff _).mpr (Nat.lt_of_le_of_lt hcovered hfits)
  have hle : (tx.info lib).totalOutputAmount ≤ (tx.info lib).totalInputAmount := by
    rw [UInt64.le_iff_toNat_le, hinput, houtput]
    exact hcovered
  rw [AvaxTxInfo.getFeeAmount, UInt64.toNat_sub_of_le _ _ hle, hinput, houtput]

theorem amount_toNat (hfits : total tx.counted < 2 ^ 64)
    (hcovered : tx.producedTotal lib ≤ total tx.counted) {change : UInt64}
    (hchange : change.toNat = tx.firstChange lib address) :
    ((tx.info lib).totalInputAmount - (tx.info lib).importTxFee - change).toNat
        + tx.firstChange lib address
      = if tx.IsImport then total tx.counted else tx.producedTotal lib := by
  have hinput : (tx.info lib).totalInputAmount.toNat = total tx.counted := by
    rw [totalInputAmount_info]
    exact (sumAmounts_toNat_eq_iff _).mpr hfits
  have hfee := fee_toNat hfits hcovered
  have hle := @firstChange_le lib tx address
  have hleft : ((tx.info lib).totalInputAmount - (tx.info lib).importTxFee).toNat
      = if tx.IsImport then total tx.counted else tx.producedTotal lib := by
    rw [importTxFee_info]
    by_cases himport : tx.IsImport = true
    · rw [if_pos himport, if_pos himport, UInt64.sub_zero, hinput]
    · rw [if_neg himport, if_neg himport, UInt64.toNat_sub_of_le, hinput, hfee]
      · omega
      · rw [UInt64.le_iff_toNat_le, hinput, hfee]
        omega
  have hchangeLe : change ≤ (tx.info lib).totalInputAmount - (tx.info lib).importTxFee := by
    rw [UInt64.le_iff_toNat_le, hleft, hchange]
    split_ifs
    · omega
    · exact hle
  rw [UInt64.toNat_sub_of_le _ _ hchangeLe, hleft, hchange]
  rw [UInt64.le_iff_toNat_le, hleft, hchange] at hchangeLe
  omega

/-- The amounts are shown exactly as they are if each counts once. -/
theorem amountsExact_iff (lib : AvaxLib) (tx : ParsedTx) (fromPath address : Text)
    (walletIndex : Nat) : (∃ display,
      fromTxInfo (tx.info lib) fromPath address walletIndex tx.typeId = .ok display ∧
        AmountsExact lib tx address display) ↔ CountsOnce lib tx address := by
  have hspent : total tx.spent = total tx.uncounted + total tx.counted := total_append _ _
  constructor
  · rintro ⟨display, hdisplay, hexact⟩
    obtain ⟨haddressed, change, hchange, hin, hout, hfee, hamount⟩ := fromTxInfo_eq hdisplay
    have hfits : total tx.counted < 2 ^ 64 := by
      rw [← hexact.input]
      exact display.totalInputAmount.toNat_lt
    have hcovered := hexact.covered
    have hfeeValue := hexact.fee
    rw [hfee, fee_toNat hfits hcovered, hspent] at hfeeValue
    have hamountValue := amount_toNat hfits hcovered hchange
    rw [← hamount, hexact.amount] at hamountValue
    exact ⟨haddressed, hfits, hcovered, by omega, hamountValue.symm⟩
  · intro h
    obtain ⟨display, hdisplay⟩ := exists_fromTxInfo h.addressed fromPath walletIndex
    obtain ⟨-, change, hchange, hin, hout, hfee, hamount⟩ := fromTxInfo_eq hdisplay
    have hamountValue := amount_toNat h.fits h.covered hchange
    rw [← hamount, h.change] at hamountValue
    refine ⟨display, hdisplay, ?_, ?_, h.covered, ?_, by omega⟩
    · rw [hin, totalInputAmount_info]
      exact (sumAmounts_toNat_eq_iff _).mpr h.fits
    · rw [hout, totalOutputAmount_info]
      exact (sumAmounts_toNat_eq_iff _).mpr (Nat.lt_of_le_of_lt h.covered h.fits)
    · have hcovered := h.covered
      rw [hfee, fee_toNat h.fits h.covered, hspent, h.counted]
      omega

end

def sampleImportTx : ImportTx where
  baseTx :=
    { codecId := 0
      typeId := .pchainImportTx
      txHeader := ⟨1, Bytes.Block.zero 32⟩
      outputs := ⟨0, []⟩
      inputs := ⟨1, [⟨Bytes.Block.zero 32, 0, Bytes.Block.zero 32, .secp256k1 ⟨5, 1000, 0, []⟩⟩]⟩
      memoLen := 0
      memo := []
      txSize := 0 }
  sourceChain := Bytes.Block.zero 32
  transferIn := ⟨1, [⟨Bytes.Block.zero 32, 0, Bytes.Block.zero 32, .secp256k1 ⟨5, 7, 0, []⟩⟩]⟩

/-- The fee that is shown lacks what the base transaction spends. -/
theorem not_amountsExact_import : ¬∀ (lib : AvaxLib) (tx : ParsedTx) (fromPath address : Text)
    (walletIndex : Nat), ∃ display,
      fromTxInfo (tx.info lib) fromPath address walletIndex tx.typeId = .ok display ∧
        AmountsExact lib tx address display := by
  intro h
  obtain ⟨display, hdisplay, hexact⟩ :=
    h ⟨fun _ => [], fun _ _ _ => []⟩ (.importTx .p sampleImportTx) [] [] 0
  obtain ⟨-, -, -, -, -, hfee, -⟩ := fromTxInfo_eq hdisplay
  have hvalue := hexact.fee
  rw [hfee] at hvalue
  cases hvalue

end Keystone3.Avalanche
