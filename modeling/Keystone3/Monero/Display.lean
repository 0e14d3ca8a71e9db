import Keystone3.Monero.KeyImages

/-!
# What is shown of a transaction

Every output is shown with its address, and marked if it is change. The change
destination comes from the host with the others. `displayInfo_isChange` says
what the mark means: that the two destinations have one address, whoever
receives there.
-/

namespace Keystone3.Monero

open Bytes (Block)
open Logic (Outcome)

inductive Network where
  | mainnet
  | testnet
  | stagenet
deriving DecidableEq

inductive AddressType where
  | standard
  | subaddress
deriving DecidableEq

structure Address where
  network : Network
  addrType : AddressType
  publicSpend : Block 32
  publicView : Block 32
deriving DecidableEq

def AccountPublicAddress.toAddress (a : AccountPublicAddress) (network : Network)
    (isSubaddress : Bool) : Address where
  network
  addrType := if isSubaddress then .subaddress else .standard
  publicSpend := a.spendPublicKey
  publicView := a.viewPublicKey

def TxDestinationEntry.address (dest : TxDestinationEntry) : Address :=
  dest.addr.toAddress .mainnet dest.isSubaddress

structure DisplayOutput where
  address : Address
  amount : List Char
  isChange : Bool

structure DisplayTransactionInfo where
  outputs : List DisplayOutput
  inputs : List (Block 32 × List Char)
  inputAmount : List Char
  outputAmount : List Char
  fee : List Char

namespace TxConstructionData

variable (tx : TxConstructionData)

def outputsAmount : UInt64 := (tx.sources.map (·.amount)).foldl (· + ·) 0

def inputsAmount : UInt64 := (tx.splittedDsts.map (·.amount)).foldl (· + ·) 0

def fee : UInt64 := tx.outputsAmount - tx.inputsAmount

end TxConstructionData

structure UnsignedTx where
  txes : List TxConstructionData

section

/-! `fmtMoneroAmount` is an amount as a text. -/

variable (fmtMoneroAmount : UInt64 → List Char)

def displayInput (source : TxSourceEntry) : Result (Block 32 × List Char) := do
  let output ← Outcome.index source.outputs (asUsize source.realOutput)
  pure (output.key.dest, fmtMoneroAmount source.amount)

def displayOutput (changeDts dest : TxDestinationEntry) : DisplayOutput where
  address := dest.address
  amount := fmtMoneroAmount dest.amount
  isChange := dest.address = changeDts.address

def UnsignedTx.displayInfo (unsigned : UnsignedTx) : Result DisplayTransactionInfo := do
  let inputs ← Outcome.collect (displayInput fmtMoneroAmount) (unsigned.txes.flatMap (·.sources))
  pure {
    outputs := unsigned.txes.flatMap fun tx =>
      tx.splittedDsts.map (displayOutput fmtMoneroAmount tx.changeDts)
    inputs
    inputAmount := fmtMoneroAmount ((unsigned.txes.map (·.inputsAmount)).foldl (· + ·) 0)
    outputAmount := fmtMoneroAmount ((unsigned.txes.map (·.outputsAmount)).foldl (· + ·) 0)
    fee := fmtMoneroAmount ((unsigned.txes.map (·.fee)).foldl (· + ·) 0) }

end

def KeyPair.Receives {Point : Type} [AddCommGroup Point] (c : Curve Point) (keypair : KeyPair)
    (a : Address) : Prop :=
  (a.publicSpend = keypair.getPublicSpend c ∧ a.publicView = keypair.getPublicView c)
    ∨ ∃ major minor, a.publicSpend = keypair.getPublicSubSpend c major minor
      ∧ a.publicView = keypair.getPublicSubView c major minor

theorem address_eq_iff (dest dest' : TxDestinationEntry) : dest.address = dest'.address
    ↔ dest.addr = dest'.addr ∧ dest.isSubaddress = dest'.isSubaddress := by
  obtain ⟨original, amount, ⟨spend, view⟩, isSubaddress, isIntegrated⟩ := dest
  obtain ⟨original', amount', ⟨spend', view'⟩, isSubaddress', isIntegrated'⟩ := dest'
  cases isSubaddress with
  | true =>
    cases isSubaddress' with
    | true => simp [TxDestinationEntry.address, AccountPublicAddress.toAddress]
    | false => simp [TxDestinationEntry.address, AccountPublicAddress.toAddress]
  | false =>
    cases isSubaddress' with
    | true => simp [TxDestinationEntry.address, AccountPublicAddress.toAddress]
    | false => simp [TxDestinationEntry.address, AccountPublicAddress.toAddress]

theorem displayOutput_isChange (fmt : UInt64 → List Char) (changeDts dest : TxDestinationEntry) :
    (displayOutput fmt changeDts dest).isChange = true
      ↔ dest.addr = changeDts.addr ∧ dest.isSubaddress = changeDts.isSubaddress := by
  rw [← address_eq_iff]
  exact decide_eq_true_iff

def UnsignedTx.destinations (unsigned : UnsignedTx) :
    List (TxConstructionData × TxDestinationEntry) :=
  unsigned.txes.flatMap fun tx => tx.splittedDsts.map fun dest => (tx, dest)

theorem displayInfo_outputs {fmt : UInt64 → List Char} {unsigned : UnsignedTx}
    {info : DisplayTransactionInfo} (h : unsigned.displayInfo fmt = .ok info) :
    info.outputs = unsigned.destinations.map fun p => displayOutput fmt p.1.changeDts p.2 := by
  obtain ⟨inputs, -, hinfo⟩ := Outcome.bind_eq_ok.mp h
  cases hinfo
  simp [UnsignedTx.destinations, List.map_flatMap, Function.comp_def]

/-- **What is marked as change**: the outputs with the keys and the kind of their transaction's
change destination. All that is taken for change in the construction is marked, and what is marked
is the wallet's exactly if the change destination is. -/
theorem displayInfo_isChange {Point : Type} [AddCommGroup Point] (c : Curve Point)
    (keypair : KeyPair) (fmt : UInt64 → List Char) (unsigned : UnsignedTx)
    {info : DisplayTransactionInfo} (h : unsigned.displayInfo fmt = .ok info) :
    List.Forall₂ (fun (p : TxConstructionData × TxDestinationEntry) (shown : DisplayOutput) =>
        shown.address = p.2.address ∧ shown.amount = fmt p.2.amount
        ∧ (shown.isChange = true
          ↔ p.2.addr = p.1.changeDts.addr ∧ p.2.isSubaddress = p.1.changeDts.isSubaddress)
        ∧ (p.1.isChangeDest p.2 = true → shown.isChange = true)
        ∧ (shown.isChange = true →
          (keypair.Receives c shown.address ↔ keypair.Receives c p.1.changeDts.address)))
      unsigned.destinations info.outputs := by
  rw [displayInfo_outputs h, List.forall₂_map_right_iff, List.forall₂_same]
  intro p _
  refine ⟨rfl, rfl, displayOutput_isChange fmt p.1.changeDts p.2, ?_, ?_⟩
  · intro hchange
    rw [displayOutput_isChange, of_decide_eq_true hchange]
    exact ⟨rfl, rfl⟩
  · intro hmarked
    rw [displayOutput_isChange, ← address_eq_iff] at hmarked
    show keypair.Receives c p.2.address ↔ _
    rw [hmarked]

def smallUnsigned (dest : TxDestinationEntry) : UnsignedTx :=
  ⟨[{ smallTx dest with splittedDsts := [dest] }]⟩

def smallShown (dest : TxDestinationEntry) : DisplayTransactionInfo where
  outputs := [⟨dest.address, [], true⟩]
  inputs := []
  inputAmount := []
  outputAmount := []
  fee := []

theorem displayInfo_smallUnsigned (dest : TxDestinationEntry) :
    (smallUnsigned dest).displayInfo (fun _ => []) = .ok (smallShown dest) := by
  simp [UnsignedTx.displayInfo, smallUnsigned, smallTx, smallShown, displayOutput, Outcome.collect]

/-- Change to the wallet is marked, and is the wallet's. -/
theorem displayInfo_isChange_own : smallWallet.Receives smallCurve.toCurve
    (smallDest 4 2 false).address := by
  have hall := displayInfo_isChange smallCurve.toCurve smallWallet (fun _ => [])
    (smallUnsigned (smallDest 4 2 false)) (displayInfo_smallUnsigned _)
  rcases hall with _ | ⟨⟨-, -, -, -, hreceives⟩, -⟩
  exact (hreceives rfl).mpr (.inl ⟨by decide, by decide⟩)

/-- **Change to somebody else**: the host names a foreign address twice. -/
theorem displayInfo_foreign : ¬∀ (c : Curve (ZMod 13)) (keypair : KeyPair)
    (fmt : UInt64 → List Char) (unsigned : UnsignedTx) (info : DisplayTransactionInfo),
    unsigned.displayInfo fmt = .ok info →
    ∀ shown ∈ info.outputs, shown.isChange = true → keypair.Receives c shown.address := by
  intro claim
  have hreceives := claim smallCurve.toCurve smallWallet _ _ _
    (displayInfo_smallUnsigned (smallDest 5 3 false)) _ (.head _) rfl
  rcases hreceives with ⟨hspend, -⟩ | ⟨major, minor, hspend, hview⟩
  · cases hspend
  · have hpoint : (5 : ZMod 13) = smallWallet.subSpendPoint smallCurve.toCurve major minor :=
      Option.some.inj ((show some (5 : ZMod 13) = smallCurve.decompress _ from rfl).trans
        ((congrArg smallCurve.decompress hspend).trans (smallCurve.decompress_compress _)))
    rw [KeyPair.getPublicSubView, ← hpoint] at hview
    cases hview

end Keystone3.Monero
