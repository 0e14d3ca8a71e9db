import Keystone3.Avalanche.Structs
import Keystone3.Bytes.Demand

/-!
# What the records ask of the bytes

For each record the condition on bytes under which its parser does not panic on them,
and under which what follows on it does not (`K`). There are four reasons for a panic:
the bytes are short of what is read without a check, the memory for a vector is not to
be had, the type id of an output is one of the two that are not written yet, and behind
a record its size is not there.
-/

namespace Keystone3.Avalanche

open Bytes (Reader)
open Bytes.Reader (Ends Fixed Measures has demand run sized many)
open Logic (Outcome)

abbrev Cond : Type := List UInt8 → Prop

namespace Room

def number (place : Nat) (s : List UInt8) : Nat := Bytes.ofBe ((s.drop place).take 4)

section

variable (alloc : Alloc) (E : Prop)

def addresses (K : Nat → Cond) : Cond := fun s =>
  if 4 ≤ s.length then
    alloc.fits (20 * number 0 s) = true ∧ has (4 + 20 * number 0 s) (K (number 0 s)) s
  else E

def output (K : Nat → Cond) : Cond := fun s =>
  36 ≤ s.length ∧ number 32 s ≠ 1 ∧ number 32 s ≠ 3 ∧
    if number 32 s = 7 ∧ 60 ≤ s.length then addresses alloc E K (s.drop 56) else E

def input (K : Unit → Cond) : Cond := fun s =>
  72 ≤ s.length ∧
    if number 68 s = 5 ∧ 88 ≤ s.length then
      alloc.fits (4 * number 80 s) = true ∧ has (84 + 4 * number 80 s) (K ()) s
    else E

def vector {γ : Type} (memory : Nat) (one : (γ → Cond) → Cond) (K : List γ → Cond) : Cond :=
  fun s =>
    if 4 ≤ s.length then
      alloc.fits (memory * number 0 s) = true ∧ Reader.each one (number 0 s) K (s.drop 4)
    else E

def outputs : (List Nat → Cond) → Cond := vector alloc E 56 (output alloc E)

def inputs (K : Cond) : Cond := vector alloc E 88 (input alloc E) fun _ => K

def owner (K : Cond) : Cond := fun s =>
  4 ≤ s.length ∧
    if (TypeId.tryFrom (UInt32.ofNat (number 0 s))).isOk = true then
      has 16 (addresses alloc E fun _ => K) s
    else E

def memo (K : Cond) : Cond := fun s => 4 ≤ s.length ∧ has (4 + number 0 s) K s

def base (K : List Nat → Cond) : Cond :=
  outputs alloc E fun counts => inputs alloc E (memo (K counts))

end

section

variable {alloc : Alloc} {E : Prop} {s : List UInt8}

theorem ends_getU32 {Q : UInt32 → Cond} :
    Ends E Q getU32 s ↔ 4 ≤ s.length ∧ Q (UInt32.ofNat (number 0 s)) (s.drop 4) := by
  rw [getU32, Reader.ends_bind, Reader.ends_big]
  exact Iff.rfl

theorem number_lt (place : Nat) (s : List UInt8) : number place s < 4294967296 := by
  have hlt := Bytes.ofBe_lt ((s.drop place).take 4)
  have hlength : ((s.drop place).take 4).length ≤ 4 := List.length_take_le 4 _
  calc number place s < 256 ^ ((s.drop place).take 4).length := hlt
    _ ≤ 256 ^ 4 := Nat.pow_le_pow_right (by decide) hlength

theorem toNat_number (place : Nat) (s : List UInt8) :
    (UInt32.ofNat (number place s)).toNat = number place s :=
  UInt32.toNat_ofNat_of_lt' (number_lt place s)

theorem number_drop (m n : Nat) (s : List UInt8) : number m (s.drop n) = number (n + m) s := by
  rw [number, List.drop_drop]
  rfl

theorem fixed_getU16 : Fixed 2 getU16 := (Reader.fixed_big 2).map

theorem fixed_getU32 : Fixed 4 getU32 := (Reader.fixed_big 4).map

theorem fixed_getU64 : Fixed 8 getU64 := (Reader.fixed_big 8).map

theorem fixed_getI64 : Fixed 8 getI64 := fixed_getU64.map

theorem ends_withCapacity {n : Nat} {Q : Unit → Cond} :
    Ends E Q (alloc.withCapacity n) s ↔ alloc.fits n = true ∧ Q () s := by
  unfold Ends Alloc.withCapacity
  by_cases h : alloc.fits n = true
  · rw [if_pos h]
    exact (and_iff_right h).symm
  · rw [if_neg h]
    exact iff_of_false id fun hfits => h hfits.1

theorem measures_withCapacity (n : Nat) : Measures (fun _ => 0) (alloc.withCapacity n) := by
  intro s a rest h
  unfold Alloc.withCapacity at h
  by_cases hfits : alloc.fits n = true
  · rw [if_pos hfits] at h
    cases h
    exact ⟨Nat.zero_le _, rfl⟩
  · rw [if_neg hfits] at h
    cases h

section

variable {α γ : Type} {memory : Nat} {size : α → Nat} {item : List UInt8 → Outcome AvaxError α}

theorem foldl_sizes (items : List α) (acc : Nat) :
    items.foldl (fun acc item => acc + size item) acc = acc + (items.map size).sum := by
  induction items generalizing acc with
  | nil => rfl
  | cons a items ih => rw [List.foldl_cons, ih, List.map_cons, List.sum_cons, Nat.add_assoc]

theorem measures_demand (e : AvaxError) (n : Nat) : Measures (fun _ => 0) (demand e n) := by
  intro s a rest h
  unfold demand at h
  by_cases hshort : s.length < n
  · rw [if_pos hshort] at h
    cases h
  · rw [if_neg hshort] at h
    cases h
    exact ⟨Nat.zero_le _, rfl⟩

theorem vec_next_eq : LengthPrefixedVec.next alloc memory size item = (do
    demand (.invalidHex "Insufficient data for LengthPrefixedVec") 4
    let len ← getU32
    alloc.withCapacity (memory * len.toNat)
    let items ← many (sized size item) len.toNat
    pure ⟨len.toNat, items⟩) := by
  refine Measures.sized_run fun s vec rest h => ?_
  obtain ⟨u, s₁, hdemand, h⟩ := Reader.bind_eq_ok.mp h
  obtain ⟨len, s₂, hlen, h⟩ := Reader.bind_eq_ok.mp h
  obtain ⟨u', s₃, hfits, h⟩ := Reader.bind_eq_ok.mp h
  obtain ⟨items, s₄, hitems, h⟩ := Reader.bind_eq_ok.mp h
  cases h
  obtain ⟨-, rfl⟩ := measures_demand _ 4 _ _ _ hdemand
  obtain ⟨hfour, rfl⟩ := fixed_getU32.measures _ _ _ hlen
  obtain ⟨-, rfl⟩ := measures_withCapacity _ _ _ _ hfits
  obtain ⟨hle, rfl⟩ := Reader.measures_many Reader.measures_sized _ _ _ _ hitems
  simp only [List.drop_zero, List.length_drop] at hfour hle
  rw [LengthPrefixedVec.parsedSize, foldl_sizes, Nat.zero_add]
  refine ⟨?_, ?_⟩
  · show 4 + (items.map size).sum ≤ _
    omega
  · simp only [List.drop_drop]

theorem ends_next {Q : LengthPrefixedVec α → Cond} :
    Ends E Q (LengthPrefixedVec.next alloc memory size item) s ↔
      if 4 ≤ s.length then
        alloc.fits (memory * number 0 s) = true ∧
          Ends E (fun items => Q ⟨number 0 s, items⟩) (many (sized size item) (number 0 s))
            (s.drop 4)
      else E := by
  rw [vec_next_eq, Reader.ends_bind, Reader.ends_demand]
  by_cases h : 4 ≤ s.length
  · rw [if_pos h, if_pos h, Reader.ends_bind, ends_getU32, and_iff_right h, Reader.ends_bind,
      ends_withCapacity, toNat_number, Reader.ends_bind]
    exact Iff.rfl
  · rw [if_neg h, if_neg h]

theorem ends_tryFrom {Q : LengthPrefixedVec α → Prop} :
    Outcome.Ends E Q (LengthPrefixedVec.tryFrom alloc memory size item s) ↔
      Ends E (fun vec _ => Q vec) (LengthPrefixedVec.next alloc memory size item) s := by
  rw [vec_next_eq]
  exact Reader.ends_run

theorem ends_vector {g : α → γ} {one : (γ → Cond) → Cond}
    (hitem : ∀ K s, Ends E (fun a => K (g a)) (sized size item) s ↔ one K s)
    (K : List γ → Cond) (s : List UInt8) :
    Ends E (fun vec => K (vec.items.map g)) (LengthPrefixedVec.next alloc memory size item) s ↔
      vector alloc E memory one K s := by
  rw [ends_next, vector, ← Reader.ends_many hitem]

end

theorem fixed_address : Fixed 20 (sized Address.parsedSize Address.tryFrom) :=
  (Reader.fixed_block 20).map.sized fun _ => rfl

theorem ends_addresses {Q : Nat → Nat → Cond} :
    Ends E (fun vec => Q vec.len vec.items.length)
      (LengthPrefixedVec.next alloc 20 Address.parsedSize Address.tryFrom) s ↔
      addresses alloc E (fun n => Q n n) s := by
  rw [ends_next, addresses]
  by_cases h : 4 ≤ s.length
  · rw [if_pos h, if_pos h]
    refine and_congr_right fun _ => ?_
    have hlength : Ends E (fun items => Q (number 0 s) items.length)
        (many (sized Address.parsedSize Address.tryFrom) (number 0 s)) (s.drop 4) ↔
        Ends E (fun _ => Q (number 0 s) (number 0 s))
          (many (sized Address.parsedSize Address.tryFrom) (number 0 s)) (s.drop 4) :=
      Outcome.ends_congr fun r hr => iff_of_eq
        (congrArg (fun n => Q (number 0 s) n r.2) (Reader.length_many hr))
    rw [hlength, (fixed_address.many _).ends, ← Reader.has_has, Reader.has_of_le h]
  · rw [if_neg h, if_neg h]

def addressCount (output : TransferableOutput) : Nat :=
  match output.output with
  | .secp256k1 output => output.addresses.items.length

theorem ends_secp256k1Output {Q : SECP256K1TransferOutput → Prop} {K : Nat → Nat → Prop}
    (hQ : ∀ output, Q output ↔ K output.addresses.len output.addresses.items.length) :
    Outcome.Ends E Q (SECP256K1TransferOutput.tryFrom alloc s) ↔
      if 28 ≤ s.length then addresses alloc E (fun n _ => K n n) (s.drop 24) else E := by
  rw [SECP256K1TransferOutput.tryFrom, Reader.ends_run, Reader.ends_bind, Reader.ends_demand]
  by_cases h : 28 ≤ s.length
  · rw [if_pos h, if_pos h]
    let rest := addresses alloc E fun n _ => K n n
    refine (fixed_getU32.ends_bind (K := has 8 (has 8 (has 4 rest))) (fun typeId => ?_) s).trans ?_
    · refine fixed_getU64.ends_bind fun amount => fixed_getU64.ends_bind fun locktime =>
        fixed_getU32.ends_bind fun threshold s => ?_
      rw [Reader.ends_bind]
      refine Iff.trans (Reader.ends_congr fun addresses rest => ?_) (@ends_addresses alloc E s
        fun len count _ => K len count)
      exact hQ _
    · rw [Reader.has_has, Reader.has_has, Reader.has_has, Reader.has_of_le (by omega)]
  · rw [if_neg h, if_neg h]

theorem ends_outputType {Q : OutputType → Prop} {K : Nat → Nat → Prop}
    (hQ : ∀ output, Q (.secp256k1 output) ↔ K output.addresses.len output.addresses.items.length) :
    Outcome.Ends E Q (OutputType.tryFrom alloc s) ↔
      4 ≤ s.length ∧ number 0 s ≠ 1 ∧ number 0 s ≠ 3 ∧
        if number 0 s = 7 ∧ 28 ≤ s.length then
          addresses alloc E (fun n _ => K n n) (s.drop 24)
        else E := by
  rw [OutputType.tryFrom, Outcome.ends_bind, Reader.ends_run, ends_getU32]
  refine and_congr_right fun _ => ?_
  rw [Outcome.ends_bind]
  by_cases hseven : number 0 s = 7
  · rw [show TypeId.tryFrom (UInt32.ofNat (number 0 s)) = .ok .secp256k1TransferOutput by
      rw [hseven]; rfl]
    show Outcome.Ends E Q (SECP256K1TransferOutput.tryFrom alloc s >>= fun output => _) ↔ _
    rw [Outcome.ends_bind, and_iff_right (by omega), and_iff_right (by omega)]
    simp only [hseven, true_and]
    exact ends_secp256k1Output hQ
  · -- All other type ids end in an error, but for the two that are not written yet.
    rw [if_neg fun h => hseven h.1, TypeId.tryFrom, toNat_number]
    split <;> simp_all [Outcome.Ends]

theorem addresses_drop {K : Nat → Cond} (h : 60 ≤ s.length) :
    addresses alloc E (fun n _ => has (28 + n * 20 + 32) (K n) s) (s.drop 56) ↔
      addresses alloc E K (s.drop 56) := by
  unfold addresses
  have hfour : 4 ≤ (s.drop 56).length := by
    rw [List.length_drop]
    omega
  rw [if_pos hfour, if_pos hfour]
  refine and_congr_right fun _ => ?_
  generalize number 0 (s.drop 56) = n
  unfold has
  rw [List.length_drop, List.drop_drop]
  dsimp only
  have hsize : 28 + n * 20 + 32 = 56 + (4 + 20 * n) := by omega
  rw [hsize]
  constructor
  · intro hK
    exact ⟨hK.1, hK.2.2⟩
  · intro hK
    exact ⟨hK.1, by omega, hK.2⟩

theorem ends_output (K : Nat → Cond) (s : List UInt8) : Ends E (fun o => K (addressCount o))
    (sized TransferableOutput.parsedSize (TransferableOutput.tryFrom alloc)) s ↔
      output alloc E K s := by
  let behind : Cond := fun t => Outcome.Ends E
    (fun output : OutputType => has (output.getTransferOutputLen + 32)
      (K (addressCount ⟨Bytes.Block.zero 32, output⟩)) s) (OutputType.tryFrom alloc t)
  have hread : Ends E (fun o => K (addressCount o))
      (sized TransferableOutput.parsedSize (TransferableOutput.tryFrom alloc)) s ↔
        has 32 behind s := by
    rw [Reader.ends_sized, TransferableOutput.tryFrom, Reader.ends_run]
    refine (Reader.fixed_block 32).ends_bind (fun assetId t => ?_) s
    rw [Reader.ends_bind, Reader.ends_peek]
    exact Iff.rfl
  have hbehind : behind (s.drop 32) ↔ _ := ends_outputType
    (K := fun len count => has (28 + len * 20 + 32) (K count) s) fun output => Iff.rfl
  rw [hread]
  unfold has output
  rw [hbehind, number_drop, List.length_drop, List.drop_drop, ← and_assoc]
  refine and_congr (by omega) (and_congr_right fun _ => and_congr_right fun _ => ?_)
  by_cases h : number 32 s = 7 ∧ 60 ≤ s.length
  · rw [if_pos h, if_pos ⟨h.1, by omega⟩, addresses_drop h.2]
  · rw [if_neg h, if_neg fun h' => h ⟨h'.1, by omega⟩]

theorem ends_secp256k1Input {Q : SECP256K1TransferInput → Prop} {K : Nat → Prop}
    (hQ : ∀ input, Q input ↔ K input.addressesLen.toNat) :
    Outcome.Ends E Q (SECP256K1TransferInput.tryFrom alloc s) ↔
      if 20 ≤ s.length then
        alloc.fits (4 * number 12 s) = true ∧
          has (16 + 4 * number 12 s) (fun _ => K (number 12 s)) s
      else E := by
  rw [SECP256K1TransferInput.tryFrom, Reader.ends_run, Reader.ends_bind, Reader.ends_demand]
  by_cases h : 20 ≤ s.length
  · rw [if_pos h, if_pos h]
    let indices : Cond := fun t => 4 ≤ t.length ∧ alloc.fits (4 * number 0 t) = true ∧
      has (4 * number 0 t) (fun _ => K (number 0 t)) (t.drop 4)
    refine (fixed_getU32.ends_bind (K := has 8 indices) (fun typeId => ?_) s).trans ?_
    · refine fixed_getU64.ends_bind fun amount t => ?_
      rw [Reader.ends_bind, ends_getU32]
      refine and_congr_right fun _ => ?_
      rw [Reader.ends_bind, ends_withCapacity, toNat_number]
      refine and_congr_right fun _ => ?_
      refine (fixed_getU32.many _).ends_bind (fun addressIndices t' => ?_) _
      exact (hQ _).trans (by rw [toNat_number])
    · rw [Reader.has_has, Reader.has_of_le (by omega)]
      have hfour : 4 ≤ (s.drop (4 + 8)).length := by
        rw [List.length_drop]
        omega
      refine (and_iff_right hfour).trans ?_
      unfold has
      simp only [number_drop, List.drop_drop, List.length_drop, Nat.reduceAdd]
      refine and_congr_right fun _ => and_congr_left fun _ => ?_
      omega
  · rw [if_neg h, if_neg h]

theorem ends_inputType {Q : InputType → Prop} {K : Nat → Prop}
    (hQ : ∀ input, Q (.secp256k1 input) ↔ K input.addressesLen.toNat) :
    Outcome.Ends E Q (InputType.tryFrom alloc s) ↔
      4 ≤ s.length ∧
        if number 0 s = 5 ∧ 20 ≤ s.length then
          alloc.fits (4 * number 12 s) = true ∧
            has (16 + 4 * number 12 s) (fun _ => K (number 12 s)) s
        else E := by
  rw [InputType.tryFrom, Outcome.ends_bind, Reader.ends_run, ends_getU32]
  refine and_congr_right fun _ => ?_
  rw [Outcome.ends_bind]
  by_cases hfive : number 0 s = 5
  · rw [show TypeId.tryFrom (UInt32.ofNat (number 0 s)) = .ok .secp256k1TransferInput by
      rw [hfive]; rfl]
    show Outcome.Ends E Q (SECP256K1TransferInput.tryFrom alloc s >>= fun input => _) ↔ _
    rw [Outcome.ends_bind]
    simp only [hfive, true_and]
    exact ends_secp256k1Input hQ
  · rw [if_neg fun h => hfive h.1, TypeId.tryFrom, toNat_number]
    split <;> simp_all [Outcome.Ends]

theorem ends_input (K : Unit → Cond) (s : List UInt8) : Ends E (fun _ => K ())
    (sized TransferableInput.parsedSize (TransferableInput.tryFrom alloc)) s ↔
      input alloc E K s := by
  let behind : Cond := fun t => Outcome.Ends E
    (fun input : InputType => has (input.getTransferInputLen + 32 + 32 + 4) (K ()) s)
    (InputType.tryFrom alloc t)
  have hread : Ends E (fun _ => K ())
      (sized TransferableInput.parsedSize (TransferableInput.tryFrom alloc)) s ↔
        has 32 (has 4 (has 32 behind)) s := by
    rw [Reader.ends_sized, TransferableInput.tryFrom, Reader.ends_run]
    refine (Reader.fixed_block 32).ends_bind (fun txId => fixed_getU32.ends_bind fun utxoIndex =>
      (Reader.fixed_block 32).ends_bind fun assetId t => ?_) s
    rw [Reader.ends_bind, Reader.ends_peek]
    exact Iff.rfl
  have hbehind : behind (s.drop 68) ↔ _ := ends_inputType
    (K := fun len => has (16 + len * 4 + 32 + 32 + 4) (K ()) s) fun input => Iff.rfl
  rw [hread, Reader.has_has, Reader.has_has]
  unfold has input
  rw [hbehind, List.length_drop, ← and_assoc]
  simp only [number_drop, Nat.reduceAdd]
  refine and_congr (by omega) ?_
  by_cases h : number 68 s = 5 ∧ 88 ≤ s.length
  · rw [if_pos h, if_pos ⟨h.1, by omega⟩]
    refine and_congr_right fun _ => ?_
    unfold has
    have hsize : 16 + number 80 s * 4 + 32 + 32 + 4 = 84 + 4 * number 80 s := by omega
    rw [hsize, ← and_assoc]
    refine and_congr_left fun _ => ?_
    rw [List.length_drop]
    omega
  · rw [if_neg h, if_neg fun h' => h ⟨h'.1, by omega⟩]

theorem ends_nextOutputs (K : List Nat → Cond) (s : List UInt8) :
    Ends E (fun vec => K (vec.items.map addressCount)) (nextOutputs alloc) s ↔
      outputs alloc E K s :=
  ends_vector ends_output K s

theorem ends_nextInputs (K : Cond) (s : List UInt8) :
    Ends E (fun _ => K) (nextInputs alloc) s ↔ inputs alloc E K s :=
  ends_vector (g := fun _ => ()) ends_input (fun _ => K) s

theorem fixed_header : Fixed 36 (sized Header.parsedSize Header.tryFrom) :=
  (fixed_getU32.bind fun _ => (Reader.fixed_block 32).map).sized fun _ => rfl

theorem fixed_validator : Fixed 44 (sized Validator.parsedSize Validator.tryFrom) :=
  ((Reader.fixed_block 20).bind fun _ => fixed_getI64.bind fun _ => fixed_getI64.bind fun _ =>
    fixed_getU64.map).sized fun _ => rfl

theorem fixed_subnetId :
    Fixed 32 (sized (fun _ => 32) (run (Reader.block (none : Option AvaxError) 32))) :=
  (Reader.fixed_block 32).sized fun _ => rfl

theorem fixed_signer : Fixed 148 (sized (fun _ => 48 + 100) Signer.tryFrom) :=
  ((Reader.fixed_block 48).bind fun _ => (Reader.fixed_block 100).map).sized fun _ => rfl

theorem fixed_evmInput : Fixed 68 (sized EvmInput.parsedSize EvmInput.tryFrom) :=
  ((Reader.fixed_block 20).bind fun _ => fixed_getU64.bind fun _ =>
    (Reader.fixed_block 32).bind fun _ => fixed_getU64.map).sized fun _ => rfl

theorem fixed_evmOutput : Fixed 60 (sized EvmOutput.parsedSize EvmOutput.tryFrom) :=
  ((Reader.fixed_block 20).bind fun _ => fixed_getU64.bind fun _ =>
    (Reader.fixed_block 32).map).sized fun _ => rfl

theorem ends_getTypeId {Q : TypeId → Cond} : Ends E Q getTypeId s ↔ 4 ≤ s.length ∧
    Outcome.Ends E (fun typeId => Q typeId (s.drop 4))
      (TypeId.tryFrom (UInt32.ofNat (number 0 s))) := by
  rw [getTypeId, Reader.ends_bind, ends_getU32, Reader.ends_lift]

theorem typeId_tryFrom_returns (value : UInt32) : Outcome.Returns (TypeId.tryFrom value) := by
  unfold TypeId.tryFrom
  split <;> exact nofun

theorem ends_getTypeId_bind {α : Type} {Q : α → Cond} {K : Cond} {f : TypeId → Reader AvaxError α}
    (hf : ∀ typeId rest, Ends E Q (f typeId) rest ↔ K rest) (s : List UInt8) :
    Ends E Q (getTypeId >>= f) s ↔ 4 ≤ s.length ∧
      if (TypeId.tryFrom (UInt32.ofNat (number 0 s))).isOk = true then K (s.drop 4) else E := by
  rw [Reader.ends_bind, ends_getTypeId]
  refine and_congr_right fun _ => ?_
  cases h : TypeId.tryFrom (UInt32.ofNat (number 0 s)) with
  | ok typeId => exact hf typeId _
  | error e => exact Iff.rfl
  | halted => exact absurd h (typeId_tryFrom_returns _)

end

end Room

end Keystone3.Avalanche
