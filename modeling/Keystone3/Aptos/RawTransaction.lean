import Keystone3.Bytes.Bcs
import Keystone3.Json.Pretty

/-!
# Raw transactions

Bytes that are read as a transaction are those of the transaction
(`toBytes_of_fromBytes`), and no two transactions have the same tree
(`RawTransaction.toTree_injective`).
-/

namespace Keystone3.Aptos

open Bytes (Block Reader hexText)
open Bytes.Bcs (Canonical CanonicalAfter)
open Ethereum (Text)
open Serde (Tree)

abbrev AccountAddress : Type := Block 32

abbrev Identifier : Type := Text

/-- A `StructTag` stands in its place. -/
inductive TypeTag where
  | bool
  | u8
  | u64
  | u128
  | address
  | signer
  | vector (t : TypeTag)
  | struct (address : AccountAddress) (moduleName name : Identifier) (typeParams : List TypeTag)

structure ModuleId where
  address : AccountAddress
  name : Identifier

inductive TransactionArgument where
  | u8 (n : UInt8)
  | u64 (n : Nat)
  | u128 (n : Nat)
  | address (a : AccountAddress)
  | u8Vector (bytes : List UInt8)
  | bool (b : Bool)

structure Script where
  code : List UInt8
  tyArgs : List TypeTag
  args : List TransactionArgument

structure Module where
  code : List UInt8

structure ModuleBundle where
  codes : List Module

structure EntryFunction where
  module_ : ModuleId
  function : Identifier
  tyArgs : List TypeTag
  args : List (List UInt8)

inductive TransactionPayload where
  | script (s : Script)
  | moduleBundle (m : ModuleBundle)
  | entryFunction (f : EntryFunction)

structure RawTransaction where
  sender : AccountAddress
  sequenceNumber : Nat
  payload : TransactionPayload
  maxGasAmount : Nat
  gasUnitPrice : Nat
  expirationTimestampSecs : Nat
  chainId : UInt8

section

open Bytes.Bcs

def readAddress : Read AccountAddress := Reader.block (some .eof) 32

def TypeTag.read : Nat → Read TypeTag
  | 0 => fail .exceededContainerDepthLimit
  | depth + 1 => do
    let variant ← uleb
    match variant with
    | 0 => pure .bool
    | 1 => pure .u8
    | 2 => pure .u64
    | 3 => pure .u128
    | 4 => pure .address
    | 5 => pure .signer
    | 6 => do
      let t ← TypeTag.read depth
      pure (.vector t)
    | 7 =>
      match depth with
      | 0 => fail .exceededContainerDepthLimit
      | depth + 1 => do
        let address ← container (fun _ => readAddress) depth
        let moduleName ← container (fun _ => string) depth
        let name ← container (fun _ => string) depth
        let typeParams ← seq (TypeTag.read depth)
        pure (.struct address moduleName name typeParams)
    | variant => fail (.unknownVariant variant)

def readTag : Read TypeTag := TypeTag.read 497

def ModuleId.read : Read ModuleId := do
  let address ← readAddress
  let name ← string
  pure { address, name }

def TransactionArgument.read : Read TransactionArgument := do
  let variant ← uleb
  match variant with
  | 0 => do
    let n ← Reader.byte (some .eof)
    pure (.u8 n)
  | 1 => do
    let n ← int 8
    pure (.u64 n)
  | 2 => do
    let n ← int 16
    pure (.u128 n)
  | 3 => do
    let a ← readAddress
    pure (.address a)
  | 4 => do
    let s ← bytes
    pure (.u8Vector s)
  | 5 => do
    let b ← Bytes.Bcs.bool
    pure (.bool b)
  | variant => fail (.unknownVariant variant)

def Script.read : Read Script := do
  let code ← bytes
  let tyArgs ← seq readTag
  let args ← seq TransactionArgument.read
  pure { code, tyArgs, args }

def Module.read : Read Module := do
  let code ← bytes
  pure { code }

def ModuleBundle.read : Read ModuleBundle := do
  let codes ← seq Module.read
  pure { codes }

def EntryFunction.read : Read EntryFunction := do
  let module_ ← ModuleId.read
  let function ← string
  let tyArgs ← seq readTag
  let args ← seq bytes
  pure { module_, function, tyArgs, args }

def TransactionPayload.read : Read TransactionPayload := do
  let variant ← uleb
  match variant with
  | 0 => do
    let s ← Script.read
    pure (.script s)
  | 1 => do
    let m ← ModuleBundle.read
    pure (.moduleBundle m)
  | 2 => do
    let f ← EntryFunction.read
    pure (.entryFunction f)
  | variant => fail (.unknownVariant variant)

def RawTransaction.read : Read RawTransaction := do
  let sender ← readAddress
  let sequenceNumber ← int 8
  let payload ← TransactionPayload.read
  let maxGasAmount ← int 8
  let gasUnitPrice ← int 8
  let expirationTimestampSecs ← int 8
  let chainId ← Reader.byte (some .eof)
  pure ⟨sender, sequenceNumber, payload, maxGasAmount, gasUnitPrice, expirationTimestampSecs,
    chainId⟩

end

section

open Bytes.Bcs

mutual

def TypeTag.toBytes : TypeTag → List UInt8
  | .bool => putLength 0
  | .u8 => putLength 1
  | .u64 => putLength 2
  | .u128 => putLength 3
  | .address => putLength 4
  | .signer => putLength 5
  | .vector t => putLength 6 ++ t.toBytes
  | .struct address moduleName name typeParams => putLength 7 ++ (address.bytes
      ++ (putString moduleName ++ (putString name
      ++ (putLength typeParams.length ++ tagsToBytes typeParams))))

def tagsToBytes : List TypeTag → List UInt8
  | [] => []
  | t :: ts => t.toBytes ++ tagsToBytes ts

end

def ModuleId.toBytes (m : ModuleId) : List UInt8 := m.address.bytes ++ putString m.name

def TransactionArgument.toBytes : TransactionArgument → List UInt8
  | .u8 n => putLength 0 ++ [n]
  | .u64 n => putLength 1 ++ putInt 8 n
  | .u128 n => putLength 2 ++ putInt 16 n
  | .address a => putLength 3 ++ a.bytes
  | .u8Vector s => putLength 4 ++ putBytes s
  | .bool b => putLength 5 ++ putBool b

def Script.toBytes (s : Script) : List UInt8 :=
  putBytes s.code ++ putSeq TypeTag.toBytes s.tyArgs ++ putSeq TransactionArgument.toBytes s.args

def Module.toBytes (m : Module) : List UInt8 := putBytes m.code

def ModuleBundle.toBytes (m : ModuleBundle) : List UInt8 := putSeq Module.toBytes m.codes

def EntryFunction.toBytes (f : EntryFunction) : List UInt8 :=
  f.module_.toBytes ++ putString f.function ++ putSeq TypeTag.toBytes f.tyArgs
    ++ putSeq putBytes f.args

def TransactionPayload.toBytes : TransactionPayload → List UInt8
  | .script s => putLength 0 ++ s.toBytes
  | .moduleBundle m => putLength 1 ++ m.toBytes
  | .entryFunction f => putLength 2 ++ f.toBytes

def RawTransaction.toBytes (tx : RawTransaction) : List UInt8 :=
  tx.sender.bytes ++ putInt 8 tx.sequenceNumber ++ tx.payload.toBytes ++ putInt 8 tx.maxGasAmount
    ++ putInt 8 tx.gasUnitPrice ++ putInt 8 tx.expirationTimestampSecs ++ [tx.chainId]

end

section

open Bytes.Bcs

theorem tagsToBytes_eq (ts : List TypeTag) : tagsToBytes ts = ts.flatMap TypeTag.toBytes := by
  induction ts with
  | nil => rw [tagsToBytes, List.flatMap_nil]
  | cons t ts ih => rw [tagsToBytes, List.flatMap_cons, ih]

theorem canonical_address : Canonical readAddress Block.bytes := canonical_block 32

theorem canonical_container {α : Type} {p : Read α} {write : α → List UInt8}
    (hp : Canonical p write) (depth : Nat) : Canonical (container (fun _ => p) depth) write := by
  cases depth with
  | zero => exact CanonicalAfter.fail
  | succ depth => exact hp

theorem canonical_tag (depth : Nat) : Canonical (TypeTag.read depth) TypeTag.toBytes := by
  -- a tag in a vector is one container deeper, a tag of a struct two
  induction depth using Nat.strongRecOn with
  | ind depth ih =>
    cases depth with
    | zero => exact CanonicalAfter.fail
    | succ depth =>
      unfold TypeTag.read
      refine canonical_uleb.bind fun variant => ?_
      split
      · exact CanonicalAfter.pure (by rw [TypeTag.toBytes])
      · exact CanonicalAfter.pure (by rw [TypeTag.toBytes])
      · exact CanonicalAfter.pure (by rw [TypeTag.toBytes])
      · exact CanonicalAfter.pure (by rw [TypeTag.toBytes])
      · exact CanonicalAfter.pure (by rw [TypeTag.toBytes])
      · exact CanonicalAfter.pure (by rw [TypeTag.toBytes])
      · exact CanonicalAfter.map (ih depth (by omega)) fun t => by rw [TypeTag.toBytes]
      · -- a struct opens a container of its own, and in it one for the address and for each name
        split
        · exact CanonicalAfter.fail
        · rename_i depth
          refine CanonicalAfter.bind (canonical_container canonical_address depth) fun address => ?_
          refine CanonicalAfter.bind (canonical_container canonical_string depth) fun name => ?_
          refine CanonicalAfter.bind (canonical_container canonical_string depth) fun name' => ?_
          refine CanonicalAfter.map (canonical_seq (ih depth (by omega))) fun ts => ?_
          rw [TypeTag.toBytes, tagsToBytes_eq, putSeq]
          simp only [List.append_assoc]
      · exact CanonicalAfter.fail

theorem canonical_moduleId : Canonical ModuleId.read ModuleId.toBytes :=
  canonical_address.bind fun _ => CanonicalAfter.map canonical_string fun _ => rfl

theorem canonical_argument : Canonical TransactionArgument.read TransactionArgument.toBytes := by
  refine canonical_uleb.bind fun variant => ?_
  split
  · exact CanonicalAfter.map canonical_byte fun _ => rfl
  · exact CanonicalAfter.map (canonical_int 8) fun _ => rfl
  · exact CanonicalAfter.map (canonical_int 16) fun _ => rfl
  · exact CanonicalAfter.map canonical_address fun _ => rfl
  · exact CanonicalAfter.map canonical_bytes fun _ => rfl
  · exact CanonicalAfter.map canonical_bool fun _ => rfl
  · exact CanonicalAfter.fail

theorem canonical_script : Canonical Script.read Script.toBytes :=
  canonical_bytes.bind fun _ => CanonicalAfter.bind (canonical_seq (canonical_tag 497)) fun _ =>
    CanonicalAfter.map (canonical_seq canonical_argument) fun _ => rfl

theorem canonical_moduleBundle : Canonical ModuleBundle.read ModuleBundle.toBytes :=
  CanonicalAfter.map (canonical_seq (CanonicalAfter.map canonical_bytes fun _ => rfl)) fun _ => rfl

theorem canonical_entryFunction : Canonical EntryFunction.read EntryFunction.toBytes :=
  canonical_moduleId.bind fun _ => CanonicalAfter.bind canonical_string fun _ =>
    CanonicalAfter.bind (canonical_seq (canonical_tag 497)) fun _ =>
    CanonicalAfter.map (canonical_seq canonical_bytes) fun _ => rfl

theorem canonical_payload : Canonical TransactionPayload.read TransactionPayload.toBytes := by
  refine canonical_uleb.bind fun variant => ?_
  split
  · exact CanonicalAfter.map canonical_script fun _ => rfl
  · exact CanonicalAfter.map canonical_moduleBundle fun _ => rfl
  · exact CanonicalAfter.map canonical_entryFunction fun _ => rfl
  · exact CanonicalAfter.fail

theorem canonical_rawTransaction : Canonical RawTransaction.read RawTransaction.toBytes :=
  canonical_address.bind fun _ => CanonicalAfter.bind (canonical_int 8) fun _ =>
    CanonicalAfter.bind canonical_payload fun _ => CanonicalAfter.bind (canonical_int 8) fun _ =>
    CanonicalAfter.bind (canonical_int 8) fun _ => CanonicalAfter.bind (canonical_int 8) fun _ =>
    CanonicalAfter.map canonical_byte fun _ => rfl

theorem toBytes_of_fromBytes {s : List UInt8} {tx : RawTransaction}
    (h : fromBytes RawTransaction.read s = .ok tx) : tx.toBytes = s :=
  (eq_of_fromBytes canonical_rawTransaction h).symm

end

def addressTree (a : AccountAddress) : Tree := .string (hexText a.bytes)

def bytesTree (s : List UInt8) : Tree := .array (s.map fun b => .number b.toNat)

mutual

def TypeTag.toTree : TypeTag → Tree
  | .bool => .string "bool".toList
  | .u8 => .string "u8".toList
  | .u64 => .string "u64".toList
  | .u128 => .string "u128".toList
  | .address => .string "address".toList
  | .signer => .string "signer".toList
  | .vector t => .object [("vector".toList, t.toTree)]
  | .struct address moduleName name typeParams => .object [("struct".toList, .object
      [("address".toList, addressTree address), ("module".toList, .string moduleName),
        ("name".toList, .string name), ("type_args".toList, .array (tagTrees typeParams))])]

def tagTrees : List TypeTag → List Tree
  | [] => []
  | t :: ts => t.toTree :: tagTrees ts

end

def ModuleId.toTree (m : ModuleId) : Tree :=
  .object [("address".toList, addressTree m.address), ("name".toList, .string m.name)]

def TransactionArgument.toTree : TransactionArgument → Tree
  | .u8 n => .object [("U8".toList, .number n.toNat)]
  | .u64 n => .object [("U64".toList, .number n)]
  | .u128 n => .object [("U128".toList, .number n)]
  | .address a => .object [("Address".toList, addressTree a)]
  | .u8Vector s => .object [("U8Vector".toList, bytesTree s)]
  | .bool b => .object [("Bool".toList, .bool b)]

def Script.toTree (s : Script) : Tree :=
  .object [("code".toList, bytesTree s.code), ("ty_args".toList, .array (tagTrees s.tyArgs)),
    ("args".toList, .array (s.args.map TransactionArgument.toTree))]

def Module.toTree (m : Module) : Tree := .object [("code".toList, bytesTree m.code)]

def ModuleBundle.toTree (m : ModuleBundle) : Tree :=
  .object [("codes".toList, .array (m.codes.map Module.toTree))]

def EntryFunction.toTree (f : EntryFunction) : Tree :=
  .object [("module".toList, f.module_.toTree), ("function".toList, .string f.function),
    ("ty_args".toList, .array (tagTrees f.tyArgs)), ("args".toList, .array (f.args.map bytesTree))]

def TransactionPayload.toTree : TransactionPayload → Tree
  | .script s => .object [("Script".toList, s.toTree)]
  | .moduleBundle m => .object [("ModuleBundle".toList, m.toTree)]
  | .entryFunction f => .object [("EntryFunction".toList, f.toTree)]

/-- `Serialize for RawTransaction`, with the fields in their order. -/
def RawTransaction.toTree (tx : RawTransaction) : Tree :=
  .object [("sender".toList, addressTree tx.sender),
    ("sequence_number".toList, .number tx.sequenceNumber),
    ("payload".toList, tx.payload.toTree),
    ("max_gas_amount".toList, .number tx.maxGasAmount),
    ("gas_unit_price".toList, .number tx.gasUnitPrice),
    ("expiration_timestamp_secs".toList, .number tx.expirationTimestampSecs),
    ("chain_id".toList, .number tx.chainId.toNat)]

theorem addressTree_injective {a a' : AccountAddress} (h : addressTree a = addressTree a') :
    a = a' :=
  Block.ext (Bytes.hexText_injective (Tree.string.inj h))

theorem bytesTree_injective : Function.Injective bytesTree := by
  intro s s' h
  refine List.map_injective_iff.mpr ?_ (Tree.array.inj h)
  intro b b' hb
  exact UInt8.toNat_inj.mp (Tree.number.inj hb)

mutual

theorem TypeTag.toTree_injective : ∀ {t t' : TypeTag}, t.toTree = t'.toTree → t = t'
  | .bool, t', h => by cases t' <;> simp_all [TypeTag.toTree]
  | .u8, t', h => by cases t' <;> simp_all [TypeTag.toTree]
  | .u64, t', h => by cases t' <;> simp_all [TypeTag.toTree]
  | .u128, t', h => by cases t' <;> simp_all [TypeTag.toTree]
  | .address, t', h => by cases t' <;> simp_all [TypeTag.toTree]
  | .signer, t', h => by cases t' <;> simp_all [TypeTag.toTree]
  | .vector t, t', h => by
    cases t' with
    | vector t' =>
      rw [TypeTag.toTree, TypeTag.toTree] at h
      have ht : t.toTree = t'.toTree := by simpa using h
      rw [TypeTag.toTree_injective ht]
    | _ => simp_all [TypeTag.toTree]
  | .struct address moduleName name typeParams, t', h => by
    cases t' with
    | struct address' moduleName' name' typeParams' =>
      simp only [TypeTag.toTree, Tree.object.injEq, List.cons.injEq, Prod.mk.injEq, Tree.array.injEq,
        Tree.string.injEq, and_true, true_and] at h
      obtain ⟨haddress, rfl, rfl, hparams⟩ := h
      rw [addressTree_injective haddress, tagTrees_injective hparams]
    | _ => simp_all [TypeTag.toTree]

theorem tagTrees_injective : ∀ {ts ts' : List TypeTag}, tagTrees ts = tagTrees ts' → ts = ts'
  | [], [], _ => rfl
  | [], _ :: _, h => by cases h
  | _ :: _, [], h => by cases h
  | t :: ts, t' :: ts', h => by
    rw [tagTrees, tagTrees, List.cons.injEq] at h
    rw [TypeTag.toTree_injective h.1, tagTrees_injective h.2]

end

theorem ModuleId.toTree_injective {m m' : ModuleId} (h : m.toTree = m'.toTree) : m = m' := by
  simp only [ModuleId.toTree, Tree.object.injEq, List.cons.injEq, Prod.mk.injEq, Tree.string.injEq,
    and_true, true_and] at h
  cases m
  cases m'
  rw [ModuleId.mk.injEq]
  exact ⟨addressTree_injective h.1, h.2⟩

theorem TransactionArgument.toTree_injective : Function.Injective TransactionArgument.toTree := by
  intro x y h
  cases x <;> cases y <;>
    simp only [TransactionArgument.toTree, Tree.object.injEq, List.cons.injEq, Prod.mk.injEq,
      Tree.number.injEq, Tree.bool.injEq, and_true, true_and] at h
  case u8.u8 => rw [UInt8.toNat_inj.mp h]
  case u64.u64 => rw [h]
  case u128.u128 => rw [h]
  case address.address => rw [addressTree_injective h]
  case u8Vector.u8Vector => rw [bytesTree_injective h]
  case bool.bool => rw [h]
  all_goals cases h.1

theorem Script.toTree_injective {s s' : Script} (h : s.toTree = s'.toTree) : s = s' := by
  simp only [Script.toTree, Tree.object.injEq, List.cons.injEq, Prod.mk.injEq, Tree.array.injEq,
    and_true, true_and] at h
  cases s
  cases s'
  rw [Script.mk.injEq]
  exact ⟨bytesTree_injective h.1, tagTrees_injective h.2.1,
    List.map_injective_iff.mpr TransactionArgument.toTree_injective h.2.2⟩

theorem Module.toTree_injective : Function.Injective Module.toTree := by
  intro m m' h
  simp only [Module.toTree, Tree.object.injEq, List.cons.injEq, Prod.mk.injEq, and_true,
    true_and] at h
  cases m
  cases m'
  rw [Module.mk.injEq]
  exact bytesTree_injective h

theorem ModuleBundle.toTree_injective {m m' : ModuleBundle} (h : m.toTree = m'.toTree) :
    m = m' := by
  simp only [ModuleBundle.toTree, Tree.object.injEq, List.cons.injEq, Prod.mk.injEq,
    Tree.array.injEq, and_true, true_and] at h
  cases m
  cases m'
  rw [ModuleBundle.mk.injEq]
  exact List.map_injective_iff.mpr Module.toTree_injective h

theorem EntryFunction.toTree_injective {f f' : EntryFunction} (h : f.toTree = f'.toTree) :
    f = f' := by
  simp only [EntryFunction.toTree, Tree.object.injEq, List.cons.injEq, Prod.mk.injEq,
    Tree.array.injEq, Tree.string.injEq, and_true, true_and] at h
  cases f
  cases f'
  rw [EntryFunction.mk.injEq]
  exact ⟨ModuleId.toTree_injective h.1, h.2.1, tagTrees_injective h.2.2.1,
    List.map_injective_iff.mpr bytesTree_injective h.2.2.2⟩

theorem TransactionPayload.toTree_injective {p p' : TransactionPayload}
    (h : p.toTree = p'.toTree) : p = p' := by
  cases p <;> cases p' <;>
    simp only [TransactionPayload.toTree, Tree.object.injEq, List.cons.injEq, Prod.mk.injEq,
      and_true, true_and] at h
  case script.script => rw [Script.toTree_injective h]
  case moduleBundle.moduleBundle => rw [ModuleBundle.toTree_injective h]
  case entryFunction.entryFunction => rw [EntryFunction.toTree_injective h]
  all_goals cases h.1

theorem RawTransaction.toTree_injective {tx tx' : RawTransaction} (h : tx.toTree = tx'.toTree) :
    tx = tx' := by
  simp only [RawTransaction.toTree, Tree.object.injEq, List.cons.injEq, Prod.mk.injEq,
    Tree.number.injEq, and_true, true_and] at h
  obtain ⟨hsender, hnumber, hpayload, hgas, hprice, hexpiration, hchain⟩ := h
  cases tx
  cases tx'
  rw [RawTransaction.mk.injEq]
  exact ⟨addressTree_injective hsender, hnumber, TransactionPayload.toTree_injective hpayload, hgas,
    hprice, hexpiration, UInt8.toNat_inj.mp hchain⟩

end Keystone3.Aptos
