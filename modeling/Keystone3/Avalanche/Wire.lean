import Keystone3.Avalanche.Structs

/-!
# The serialisation of the parts

What a transaction is before it is bytes: a list has fewer than `2 ^ 32` elements and
stands behind their number, numbers have the most significant byte first. One parser
asks for more bytes than there need be: an input that no signature index comes with is
only read when something comes behind it (`parses_input`).
-/

namespace Keystone3.Avalanche

open Bytes (Block Reader be length_be)
open Bytes.Reader (Reads ReadsBefore ParsesBefore sized run)
open Logic (Outcome)
open Logic.Outcome (ok_bind)
open Bytes.Reader (bind_apply demand peek reads_big reads_block)
open TransferableInput (parsedSize tryFrom)
open LengthPrefixedVec (next)
open List (length_append)

theorem reads_getU16 (value : UInt16) : Reads getU16 (be 2 value.toNat) value := by
  have hbig := (reads_big (none : Option AvaxError) (n := 2) value.toNat_lt).map UInt16.ofNat
  rwa [UInt16.ofNat_toNat] at hbig

theorem reads_getU32 (value : UInt32) : Reads getU32 (be 4 value.toNat) value := by
  have hbig := (reads_big (none : Option AvaxError) (n := 4) value.toNat_lt).map UInt32.ofNat
  rwa [UInt32.ofNat_toNat] at hbig

theorem reads_getU64 (value : UInt64) : Reads getU64 (be 8 value.toNat) value := by
  have hbig := (reads_big (none : Option AvaxError) (n := 8) value.toNat_lt).map UInt64.ofNat
  rwa [UInt64.ofNat_toNat] at hbig

theorem reads_getI64 (value : Int64) : Reads getI64 (be 8 value.toUInt64.toNat) value := by
  have hvalue := (reads_getU64 value.toUInt64).map UInt64.toInt64
  rwa [Int64.toInt64_toUInt64] at hvalue

structure Kind where
  value : UInt32
  typeId : TypeId
  tryFrom_eq : TypeId.tryFrom value = .ok typeId

theorem reads_getTypeId (kind : Kind) : Reads getTypeId (be 4 kind.value.toNat) kind.typeId := by
  intro rest
  rw [getTypeId, bind_apply, reads_getU32, ok_bind]
  show Bytes.Reader.lift (TypeId.tryFrom kind.value) rest = _
  rw [kind.tryFrom_eq]
  rfl

structure Counted (α : Type) where
  items : List α
  bound : items.length < 4294967296

namespace Counted

variable {α β : Type}

def bytes (write : α → List UInt8) (l : Counted α) : List UInt8 :=
  be 4 l.items.length ++ l.items.flatMap write

def view (value : α → β) (l : Counted α) : LengthPrefixedVec β :=
  ⟨l.items.length, l.items.map value⟩

theorem reads_length (l : Counted α) :
    Reads getU32 (be 4 l.items.length) (UInt32.ofNat l.items.length) := by
  have hread := reads_getU32 (UInt32.ofNat l.items.length)
  rwa [UInt32.toNat_ofNat_of_lt' l.bound] at hread

variable {write : α → List UInt8}

theorem foldl_sizes {size : β → Nat} {value : α → β} (items : List α)
    (hsize : ∀ a, size (value a) = (write a).length) (acc : Nat) :
    (items.map value).foldl (fun acc item => acc + size item) acc
      = acc + (items.flatMap write).length := by
  induction items generalizing acc with
  | nil => rfl
  | cons a items ih =>
    rw [List.map_cons, List.foldl_cons, ih, hsize, List.flatMap_cons, length_append, Nat.add_assoc]

theorem parsedSize_view {size : β → Nat} {value : α → β} (l : Counted α)
    (hsize : ∀ a, size (value a) = (write a).length) :
    (l.view value).parsedSize size = (l.bytes write).length := by
  rw [LengthPrefixedVec.parsedSize, view, foldl_sizes l.items hsize, bytes, length_append,
    length_be, Nat.zero_add]

theorem reads_withCapacity (n : Nat) : Reads (Alloc.unlimited.withCapacity n) [] () := fun _ => rfl

theorem parses_vec {n memory : Nat} {size : β → Nat} {item : List UInt8 → Outcome AvaxError β} {value : α → β} (l : Counted α)
    (hitem : ∀ a ∈ l.items, ReadsBefore n (sized size item) (write a) (value a)) :
    ParsesBefore n (LengthPrefixedVec.tryFrom .unlimited memory size item) (l.bytes write)
      (l.view value) := by
  have hcount : (UInt32.ofNat l.items.length).toNat = l.items.length :=
    UInt32.toNat_ofNat_of_lt' l.bound
  refine ReadsBefore.run (ReadsBefore.demand _ ((l.reads_length.before 0).bind ?_ ?_) ?_)
  · show ReadsBefore n (do
      Alloc.unlimited.withCapacity (memory * (UInt32.ofNat l.items.length).toNat)
      let items ← Bytes.Reader.many (sized size item) (UInt32.ofNat l.items.length).toNat
      pure (LengthPrefixedVec.mk (UInt32.ofNat l.items.length).toNat items)) _ _
    rw [hcount]
    refine ((reads_withCapacity _).before 0).bind ?_ (Nat.zero_le _)
    exact (ReadsBefore.many hitem).map (LengthPrefixedVec.mk l.items.length)
  · exact Nat.zero_le _
  · rw [bytes, length_append, length_be]
    omega

theorem reads_vec {n memory : Nat} {size : β → Nat} {item : List UInt8 → Outcome AvaxError β} {value : α → β} (l : Counted α)
    (hsize : ∀ a, size (value a) = (write a).length)
    (hitem : ∀ a ∈ l.items, ParsesBefore n item (write a) (value a)) :
    ReadsBefore n (next .unlimited memory size item) (l.bytes write)
      (l.view value) := by
  refine ParsesBefore.sized (l.parses_vec fun a hmem => ?_) (l.parsedSize_view hsize)
  exact (hitem a hmem).sized (hsize a)

end Counted

theorem parses_address (a : Block 20) : ParsesBefore 0 Address.tryFrom a.bytes ⟨a⟩ :=
  (((reads_block none a).map Address.mk).before 0).run

theorem reads_addresses (l : Counted (Block 20)) :
    Reads (next .unlimited 20 Address.parsedSize Address.tryFrom)
      (l.bytes Block.bytes) (l.view Address.mk) := by
  have hsize : ∀ a : Block 20, Address.parsedSize ⟨a⟩ = a.bytes.length := fun a => a.size_eq.symm
  exact (l.reads_vec hsize fun a _ => parses_address a).reads

theorem length_addresses (l : Counted (Block 20)) :
    (l.bytes Block.bytes).length = 4 + l.items.length * 20 := by
  rw [Counted.bytes, length_append, length_be, List.length_flatMap]
  simp [Block.size_eq]

namespace Wire

structure Output where
  assetId : Block 32
  amount : UInt64
  locktime : UInt64
  threshold : UInt32
  addresses : Counted (Block 20)

namespace Output

def secp (o : Output) : List UInt8 :=
  be 4 (7 : UInt32).toNat ++ (be 8 o.amount.toNat ++ (be 8 o.locktime.toNat
    ++ (be 4 o.threshold.toNat ++ o.addresses.bytes Block.bytes)))

def bytes (o : Output) : List UInt8 := o.assetId.bytes ++ o.secp

def secpView (o : Output) : SECP256K1TransferOutput where
  typeId := 7
  amount := o.amount
  locktime := o.locktime
  threshold := o.threshold
  addresses := o.addresses.view Address.mk

def view (o : Output) : TransferableOutput := ⟨o.assetId, .secp256k1 o.secpView⟩

theorem length_secp (o : Output) : o.secp.length = 28 + o.addresses.items.length * 20 := by
  simp only [secp, length_append, length_be, length_addresses]
  omega

theorem parsedSize_view (o : Output) : o.view.parsedSize = o.bytes.length := by
  rw [bytes, length_append, o.assetId.size_eq, length_secp, Nat.add_comm]
  rfl

theorem parses_secp (o : Output) :
    ParsesBefore 0 (SECP256K1TransferOutput.tryFrom .unlimited) o.secp o.secpView := by
  refine (ReadsBefore.demand _ (Reads.before ?_ 0) ?_).run
  · exact (reads_getU32 7).bind ((reads_getU64 _).bind ((reads_getU64 _).bind
      ((reads_getU32 _).bind ((reads_addresses _).map _))))
  · rw [length_secp]
    omega

theorem parses_outputType (o : Output) :
    ParsesBefore 0 (OutputType.tryFrom .unlimited) o.secp (.secp256k1 o.secpView) := by
  intro rest hrest
  have hvalue : run getU32 (o.secp ++ rest) = .ok 7 := by
    rw [secp, List.append_assoc]
    exact ((reads_getU32 7).before 0).run _ (Nat.zero_le _)
  rw [OutputType.tryFrom, hvalue]
  show (SECP256K1TransferOutput.tryFrom .unlimited (o.secp ++ rest) >>= fun output =>
    pure (OutputType.secp256k1 output)) = _
  rw [o.parses_secp rest hrest]
  rfl

theorem parses_output (o : Output) :
    ParsesBefore 0 (TransferableOutput.tryFrom .unlimited) o.bytes o.view :=
  ((reads_block none o.assetId).before 0).run_bind
    (o.parses_outputType.run_peek (TransferableOutput.mk o.assetId)) (Nat.zero_le _)

theorem reads_outputs (l : Counted Output) :
    Reads (nextOutputs .unlimited) (l.bytes bytes) (l.view view) :=
  (l.reads_vec parsedSize_view fun o _ => o.parses_output).reads

end Output

structure Input where
  txId : Block 32
  utxoIndex : UInt32
  assetId : Block 32
  amount : UInt64
  indices : Counted UInt32

namespace Input

def writeIndex (index : UInt32) : List UInt8 := be 4 index.toNat

def secp (i : Input) : List UInt8 :=
  be 4 (5 : UInt32).toNat ++ (be 8 i.amount.toNat ++ i.indices.bytes writeIndex)

def bytes (i : Input) : List UInt8 :=
  i.txId.bytes ++ (be 4 i.utxoIndex.toNat ++ (i.assetId.bytes ++ i.secp))

def secpView (i : Input) : SECP256K1TransferInput where
  typeId := 5
  amount := i.amount
  addressesLen := UInt32.ofNat i.indices.items.length
  addressIndices := i.indices.items

def view (i : Input) : TransferableInput := ⟨i.txId, i.utxoIndex, i.assetId, .secp256k1 i.secpView⟩

variable (i : Input)

theorem toNat_addressesLen : i.secpView.addressesLen.toNat = i.indices.items.length :=
  UInt32.toNat_ofNat_of_lt' i.indices.bound

theorem length_secp : i.secp.length = 16 + i.indices.items.length * 4 := by
  simp only [secp, Counted.bytes, length_append, length_be, List.length_flatMap, writeIndex]
  simp
  omega

theorem length_bytes : i.bytes.length = 84 + i.indices.items.length * 4 := by
  simp only [bytes, length_append, length_be, i.txId.size_eq, i.assetId.size_eq, length_secp]
  omega

theorem parsedSize_view : i.view.parsedSize = i.bytes.length := by
  show 16 + i.secpView.addressesLen.toNat * 4 + 32 + 32 + 4 = _
  rw [toNat_addressesLen, length_bytes]
  omega

def Enough (n : Nat) (i : Input) : Prop := 20 ≤ i.secp.length + n

theorem reads_indices :
    Reads (Bytes.Reader.many getU32 i.secpView.addressesLen.toNat)
      (i.indices.items.flatMap writeIndex) i.indices.items := by
  rw [toNat_addressesLen]
  exact Reads.many fun index _ => reads_getU32 index

theorem parses_secp {n : Nat} (h : i.Enough n) :
    ParsesBefore n (SECP256K1TransferInput.tryFrom .unlimited) i.secp i.secpView := by
  refine (ReadsBefore.demand _ (Reads.before ?_ n) h).run
  exact (reads_getU32 5).bind ((reads_getU64 _).bind (i.indices.reads_length.bind
    ((Counted.reads_withCapacity _).bind (i.reads_indices.map _))))

theorem run_getU32_secp (rest : List UInt8) : run getU32 (i.secp ++ rest) = .ok 5 := by
  rw [secp, List.append_assoc]
  exact ((reads_getU32 5).before 0).run _ (Nat.zero_le _)

theorem inputType_tryFrom (rest : List UInt8) :
    InputType.tryFrom .unlimited (i.secp ++ rest) = (do
      let input ← SECP256K1TransferInput.tryFrom .unlimited (i.secp ++ rest)
      pure (.secp256k1 input)) := by
  rw [InputType.tryFrom, run_getU32_secp]
  rfl

theorem parses_inputType {n : Nat} (h : i.Enough n) :
    ParsesBefore n (InputType.tryFrom .unlimited) i.secp (.secp256k1 i.secpView) := by
  intro rest hrest
  rw [inputType_tryFrom, i.parses_secp h rest hrest]
  rfl

theorem parses_input {n : Nat} (h : i.Enough n) :
    ParsesBefore n (tryFrom .unlimited) i.bytes i.view := by
  refine ((reads_block none i.txId).before 0).run_bind ?_ (Nat.zero_le _)
  refine ((reads_getU32 i.utxoIndex).before 0).run_bind ?_ (Nat.zero_le _)
  refine ((reads_block none i.assetId).before 0).run_bind ?_ (Nat.zero_le _)
  exact (i.parses_inputType h).run_peek (TransferableInput.mk i.txId i.utxoIndex i.assetId)

theorem enough_four : i.Enough 4 := by
  rw [Enough, length_secp]
  omega

theorem reads_inputs (l : Counted Input) :
    ReadsBefore 4 (nextInputs .unlimited) (l.bytes bytes) (l.view view) :=
  l.reads_vec parsedSize_view fun i _ => i.parses_input i.enough_four

theorem input_tryFrom_short (h : i.indices.items = []) :
    tryFrom .unlimited i.bytes = .error (.invalidHex "Insufficient data") := by
  have hlength : i.secp.length < 20 := by
    rw [length_secp, h]
    decide
  have hsecp : SECP256K1TransferInput.tryFrom .unlimited i.secp
      = .error (.invalidHex "Insufficient data") := by
    rw [SECP256K1TransferInput.tryFrom, run, bind_apply, demand, if_pos hlength]
    rfl
  have htype := inputType_tryFrom i []
  rw [List.append_nil, hsecp] at htype
  rw [tryFrom, run, bind_apply, bytes,
    reads_block none i.txId, ok_bind, bind_apply,
    reads_getU32 i.utxoIndex, ok_bind, bind_apply,
    reads_block none i.assetId, ok_bind, bind_apply,
    peek, htype]
  rfl

def nextInput : Reader AvaxError TransferableInput := sized parsedSize (tryFrom .unlimited)

theorem many_inputs_end : ∀ items : List Input,
    Bytes.Reader.many nextInput items.length (items.flatMap bytes)
      = if ∀ i ∈ items.getLast?, i.indices.items ≠ [] then .ok (items.map view, [])
        else .error (.invalidHex "Insufficient data") := by
  intro items
  induction items with
  | nil => rfl
  | cons i items ih =>
    rw [List.length_cons, Bytes.Reader.many, bind_apply, List.flatMap_cons]
    cases items with
    | nil =>
      by_cases hempty : i.indices.items = []
      · -- the last input is short
        have hshort : nextInput (i.bytes ++ []) = .error (.invalidHex "Insufficient data") := by
          rw [List.append_nil, nextInput, sized, bind_apply, peek, i.input_tryFrom_short hempty]
          rfl
        rw [List.flatMap_nil, hshort, if_neg]
        · rfl
        · intro h
          exact h i rfl hempty
      · have henough : i.Enough 0 := by
          have hpos := List.length_pos_iff.mpr hempty
          rw [Enough, length_secp]
          omega
        have hread := (i.parses_input henough).sized (parsedSize_view i) [] (Nat.zero_le _)
        rw [List.flatMap_nil, nextInput, hread, if_pos]
        · rfl
        · intro j hj
          cases hj
          exact hempty
    | cons j items =>
      -- the next input comes behind
      have hbehind : 4 ≤ ((j :: items).flatMap bytes).length := by
        rw [List.flatMap_cons, length_append, length_bytes]
        omega
      have hread := (i.parses_input i.enough_four).sized (parsedSize_view i) _ hbehind
      rw [nextInput, hread, ok_bind, List.getLast?_cons_cons]
      show ((Bytes.Reader.many nextInput _ >>= fun rest => pure (i.view :: rest)) _) = _
      rw [bind_apply, ih]
      split <;> rfl

theorem inputs_tryFrom_end (l : Counted Input) :
    LengthPrefixedVec.tryFrom .unlimited 88 parsedSize
      (tryFrom .unlimited) (l.bytes bytes)
      = if ∀ i ∈ l.items.getLast?, i.indices.items ≠ [] then .ok (l.view view)
        else .error (.invalidHex "Insufficient data") := by
  have hcount : (UInt32.ofNat l.items.length).toNat = l.items.length :=
    UInt32.toNat_ofNat_of_lt' l.bound
  have henough : ¬(l.bytes bytes).length < 4 := by
    rw [Counted.bytes, length_append, length_be]
    omega
  rw [LengthPrefixedVec.tryFrom, run, bind_apply, demand, if_neg henough,
    ok_bind, bind_apply, Counted.bytes, l.reads_length, ok_bind,
    bind_apply, hcount]
  have hmany := many_inputs_end l.items
  rw [nextInput] at hmany
  show ((Bytes.Reader.many _ _ >>= fun items => _) _ >>= fun r => _) = _
  rw [bind_apply, hmany]
  split <;> rfl

end Input

def evmInputBytes (i : EvmInput) : List UInt8 :=
  i.address.address.bytes ++ (be 8 i.amount.toNat ++ (i.assetId.bytes ++ be 8 i.nonce.toNat))

theorem parsedSize_evmInput (i : EvmInput) : i.parsedSize = (evmInputBytes i).length := by
  simp only [evmInputBytes, length_append, length_be, Block.size_eq, EvmInput.parsedSize]

theorem parses_evmInput (i : EvmInput) : ParsesBefore 0 EvmInput.tryFrom (evmInputBytes i) i := by
  refine (Reads.before ?_ 0).run
  exact (reads_block none _).bind ((reads_getU64 _).bind
    ((reads_block none _).bind ((reads_getU64 _).map _)))

theorem reads_evmInputs (l : Counted EvmInput) :
    Reads (next .unlimited 56 EvmInput.parsedSize EvmInput.tryFrom)
      (l.bytes evmInputBytes) (l.view id) :=
  (l.reads_vec parsedSize_evmInput fun i _ => parses_evmInput i).reads

def evmOutputBytes (o : EvmOutput) : List UInt8 :=
  o.address.address.bytes ++ (be 8 o.amount.toNat ++ o.assetId.bytes)

theorem parsedSize_evmOutput (o : EvmOutput) : o.parsedSize = (evmOutputBytes o).length := by
  simp only [evmOutputBytes, length_append, length_be, Block.size_eq, EvmOutput.parsedSize]

theorem parses_evmOutput (o : EvmOutput) :
    ParsesBefore 0 EvmOutput.tryFrom (evmOutputBytes o) o := by
  refine (Reads.before ?_ 0).run
  exact (reads_block none _).bind ((reads_getU64 _).bind ((reads_block none _).map _))

theorem reads_evmOutputs (l : Counted EvmOutput) :
    Reads (next .unlimited 48 EvmOutput.parsedSize EvmOutput.tryFrom)
      (l.bytes evmOutputBytes) (l.view id) :=
  (l.reads_vec parsedSize_evmOutput fun o _ => parses_evmOutput o).reads

def headerBytes (h : Header) : List UInt8 := be 4 h.networkId.toNat ++ h.blockchainId.bytes

theorem parsedSize_header (h : Header) : h.parsedSize = (headerBytes h).length := by
  simp only [headerBytes, length_append, length_be, Block.size_eq, Header.parsedSize]

theorem reads_header (h : Header) :
    Reads (sized Header.parsedSize Header.tryFrom) (headerBytes h) h := by
  have hfields : Reads (do
      let networkId ← getU32
      let blockchainId ← Bytes.Reader.block none 32
      pure { networkId, blockchainId }) (headerBytes h) h :=
    (reads_getU32 _).bind ((reads_block none _).map _)
  exact ((hfields.before 0).run.sized (parsedSize_header h)).reads

def validatorBytes (v : Validator) : List UInt8 :=
  v.nodeId.bytes ++ (be 8 v.startTime.toUInt64.toNat ++ (be 8 v.endTime.toUInt64.toNat
    ++ be 8 v.weight.toNat))

theorem parsedSize_validator (v : Validator) : v.parsedSize = (validatorBytes v).length := by
  simp only [validatorBytes, length_append, length_be, Block.size_eq, Validator.parsedSize]

theorem reads_validator (v : Validator) :
    Reads (sized Validator.parsedSize Validator.tryFrom) (validatorBytes v) v := by
  have hfields : Reads (do
      let nodeId ← Bytes.Reader.block none 20
      let startTime ← getI64
      let endTime ← getI64
      let weight ← getU64
      pure { nodeId, startTime, endTime, weight }) (validatorBytes v) v :=
    (reads_block none _).bind ((reads_getI64 _).bind ((reads_getI64 _).bind
      ((reads_getU64 _).map _)))
  exact ((hfields.before 0).run.sized (parsedSize_validator v)).reads

theorem reads_subnetId (id : Block 32) :
    Reads (sized (fun _ => 32) (run (Bytes.Reader.block (none : Option AvaxError) 32))) id.bytes
      id :=
  (((reads_block none id).before 0).run.sized id.size_eq.symm).reads

structure Owner where
  locktime : UInt64
  threshold : UInt32
  addresses : Counted (Block 20)

namespace Owner

def kind : Kind := ⟨0x0B, .validatorRewardsOwner, rfl⟩

def bytes (o : Owner) : List UInt8 :=
  be 4 kind.value.toNat ++ (be 8 o.locktime.toNat ++ (be 4 o.threshold.toNat
    ++ o.addresses.bytes Block.bytes))

def view (o : Owner) : OutputOwner where
  typeId := .validatorRewardsOwner
  locktime := o.locktime
  threshold := o.threshold
  addresses := o.addresses.view Address.mk

theorem parsedSize_view (o : Owner) : o.view.parsedSize = o.bytes.length := by
  have haddress : ∀ a : Block 20, Address.parsedSize ⟨a⟩ = a.bytes.length := fun a => a.size_eq.symm
  rw [OutputOwner.parsedSize, view, o.addresses.parsedSize_view haddress]
  simp only [bytes, length_append, length_be]
  omega

theorem reads_owner (o : Owner) : Reads (nextOwner .unlimited) o.bytes o.view := by
  have hfields : Reads (do
      let typeId ← getTypeId
      let locktime ← getU64
      let threshold ← getU32
      let addresses ← next .unlimited 20 Address.parsedSize Address.tryFrom
      pure { typeId, locktime, threshold, addresses }) o.bytes o.view :=
    (reads_getTypeId kind).bind ((reads_getU64 _).bind ((reads_getU32 _).bind
      ((reads_addresses _).map _)))
  exact ((hfields.before 0).run.sized o.parsedSize_view).reads

end Owner

end Wire

end Keystone3.Avalanche
