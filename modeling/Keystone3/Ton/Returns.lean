import Keystone3.Bytes.Demand
import Keystone3.Ton.Proof

/-!
# What panics in a transaction

Reading bits of a cell ends in an error where there are none, and so do all
messages (`readTransfer_returns`). There are five places left where a
transaction panics: the vector for the cells, which has as many places as the
bytes say (`withCapacity`), the links of the cells (`LinksWithin`) and the
roots, which are indices that are not compared with the number of cells, the
two bytes behind the number of a wallet's root cell, which are unwrapped
(`SigningMessage.parse_returns_iff`), and the amount of a jetton, which is
unwrapped as a number of 64 bits (`tryFrom_returns_iff`).
-/

namespace Keystone3.Ton

open Bytes (Reader)
open Logic (Outcome)
open Logic.Outcome (Stays Returns)
open Logic.Outcome (bind_eq_ok collect exists_of_isOk ok_bind returns_bind returns_error returns_ok
  returns_okOr stays_pure)

theorem stays_readVarSize (n : Nat) : Stays (readVarSize n) :=
  (Reader.stays_take n).bind fun _ => stays_pure _

theorem stays_readHeader : Stays readHeader := by
  refine (Reader.stays_big 4).bind fun magic => Stays.ite (fun _ => ?_) fun _ => ?_
  · exact Reader.stays_lift (returns_error _)
  · refine Reader.stays_byte.bind fun header => Reader.stays_byte.bind fun offBytes => ?_
    refine (stays_readVarSize _).bind fun cells => (stays_readVarSize _).bind fun roots => ?_
    refine (stays_readVarSize _).bind fun _ => (stays_readVarSize _).bind fun _ => ?_
    refine (Reader.stays_many (stays_readVarSize _) _).bind fun rootList => ?_
    refine Stays.ite (fun _ => ?_) fun _ => stays_pure _
    exact (Reader.stays_many (stays_readVarSize _) _).bind fun _ => stays_pure _

theorem stripMark_returns (data : List UInt8) : Returns (stripMark data) := by
  unfold stripMark
  cases data.getLast? with
  | none => exact returns_ok _
  | some b =>
    dsimp only
    by_cases h : 8 ≤ trailingZeros b
    · rw [if_pos h]
      exact returns_error _
    · rw [if_neg h]
      exact returns_ok _

theorem stays_readCell (size : Nat) : Stays (readCell size) := by
  refine Reader.stays_byte.bind fun d1 => Reader.stays_byte.bind fun d2 => ?_
  -- What is made of the data and their padding.
  have hcell (stripped : List UInt8 × Nat) : Stays (do
      let references ← Reader.many (readVarSize size) (d1.toNat % 8)
      pure ({ data := stripped.1, bitLen := stripped.1.length * 8 - stripped.2, references,
              isExotic := d1.toNat.testBit 3 } : RawCell)) :=
    (Reader.stays_many (stays_readVarSize size) _).bind fun _ => stays_pure _
  have hdata (data : List UInt8) : Stays (do
      let stripped ← if d2.toNat % 2 = 0 then pure (data, 0) else Reader.lift (stripMark data)
      let references ← Reader.many (readVarSize size) (d1.toNat % 8)
      pure ({ data := stripped.1, bitLen := stripped.1.length * 8 - stripped.2, references,
              isExotic := d1.toNat.testBit 3 } : RawCell)) := by
    refine Stays.ite (fun _ => (stays_pure _).bind hcell) fun _ => ?_
    exact (Reader.stays_lift (stripMark_returns data)).bind hcell
  refine Stays.ite (fun _ => (Reader.stays_take _).bind fun _ => ?_) fun _ => ?_
  · exact (Reader.stays_take _).bind hdata
  · exact (Reader.stays_take _).bind hdata

/-- What comes before the cells asks for a vector that is one. -/
def HasRoom (serial : List UInt8) : Prop :=
  ∀ header rest, readHeader serial = .ok (header, rest) → rawCellSize * header.cells < 2 ^ 31

theorem withCapacity_returns_iff {elementSize n : Nat} :
    Returns (withCapacity elementSize n) ↔ elementSize * n < 2 ^ 31 := by
  unfold withCapacity
  by_cases h : 2 ^ 31 ≤ elementSize * n
  · rw [if_pos h]
    exact iff_of_false (fun hreturns => hreturns rfl) (Nat.not_lt.mpr h)
  · rw [if_neg h]
    exact iff_of_true (returns_ok ()) (Nat.not_le.mp h)

theorem rawBagOfCells_returns_iff {serial : List UInt8} :
    Returns (Reader.run RawBagOfCells.parse serial) ↔ HasRoom serial := by
  have hbehind (header : BocHeader) : Stays (do
      let cells ← Reader.many (readCell header.size) header.cells
      if header.hasCrc32c = true then
        let _crc32c ← Reader.big short 4
      pure ({ cells, roots := header.roots } : RawBagOfCells)) := by
    refine (Reader.stays_many (stays_readCell _) _).bind fun cells => Stays.ite (fun _ => ?_) fun _ => ?_
    · exact (Reader.stays_big 4).bind fun _ => stays_pure _
    · exact stays_pure _
  rw [show Returns (Reader.run RawBagOfCells.parse serial) ↔ Returns (RawBagOfCells.parse serial)
    from Outcome.returns_map (f := Prod.fst)]
  rw [RawBagOfCells.parse, Reader.bind_apply, returns_bind,
    and_iff_right (stays_readHeader serial), HasRoom, Prod.forall]
  refine forall_congr' fun header => forall_congr' fun rest => imp_congr_right fun _ => ?_
  rw [Reader.bind_apply, returns_bind]
  rw [← withCapacity_returns_iff]
  constructor
  · intro h
    exact (returns_bind.mp h.1).1
  · intro h
    exact ⟨Reader.stays_lift h rest, fun r _ => hbehind header r.2⟩

theorem length_of_linkCells {exotic : ExoticCheck} {cellIndex : Nat} {raws : List RawCell}
    {cells : List Cell} (h : linkCells exotic cellIndex raws = .ok cells) :
    cells.length = raws.length := by
  induction raws generalizing cellIndex cells with
  | nil =>
    cases h
    rfl
  | cons raw raws ih =>
    obtain ⟨later, hlater, h⟩ := bind_eq_ok.mp h
    obtain ⟨references, -, h⟩ := bind_eq_ok.mp h
    obtain ⟨cell, -, h⟩ := bind_eq_ok.mp h
    cases h
    exact congrArg Nat.succ (ih hlater)

theorem references_returns_iff {cellIndex : Nat} {cells : List Cell} {references : List Nat} :
    Returns (collect (fun refIndex =>
      if refIndex ≤ cellIndex then
        .error (deserializationError "References to previous cells are not supported")
      else Outcome.index cells (refIndex - cellIndex - 1)) references) ↔
    ∀ r ∈ references.takeWhile (cellIndex < ·), r < cellIndex + 1 + cells.length := by
  induction references with
  | nil => exact iff_of_true (returns_ok []) nofun
  | cons r references ih =>
    unfold collect
    by_cases hback : r ≤ cellIndex
    · rw [if_pos hback, List.takeWhile_cons_of_neg (by simpa using hback)]
      exact iff_of_true (returns_error _) nofun
    · rw [if_neg hback, List.takeWhile_cons_of_pos (by simpa using hback), List.forall_mem_cons,
        ← ih, returns_bind, Outcome.returns_index]
      have hindex : r - cellIndex - 1 < cells.length ↔ r < cellIndex + 1 + cells.length := by
        omega
      rw [hindex]
      refine and_congr_right fun hr => ?_
      obtain ⟨cell, hcell⟩ := (Outcome.valueIff_index (ε := TonCellError) cells
        (r - cellIndex - 1)).exists_ok (hindex.mpr hr)
      constructor
      · intro h
        exact (returns_bind.mp (h cell hcell)).1
      · intro h _ _
        exact h.bind fun _ _ => returns_ok _

theorem cellNew_returns (exotic : ExoticCheck) (raw : RawCell) (references : List Cell) :
    Returns (Cell.new exotic raw references) := by
  unfold Cell.new
  by_cases h : raw.isExotic = true ∧ exotic raw.data raw.bitLen references = false
  · rw [if_pos h]
    exact returns_error _
  · rw [if_neg h]
    exact returns_ok _

/-- Where all later cells are taken, the references before the first one that goes back lie
within. -/
def LinksFrom (exotic : ExoticCheck) (start : Nat) (raws : List RawCell) : Prop :=
  ∀ i raw later, raws.drop i = raw :: later →
    (linkCells exotic (start + i + 1) later).isOk = true →
    ∀ r ∈ raw.references.takeWhile (start + i < ·), r < start + raws.length

theorem linksFrom_cons {exotic : ExoticCheck} {start : Nat} {raw : RawCell} {raws : List RawCell} :
    LinksFrom exotic start (raw :: raws) ↔ LinksFrom exotic (start + 1) raws ∧
      ((linkCells exotic (start + 1) raws).isOk = true →
        ∀ r ∈ raw.references.takeWhile (start < ·), r < start + 1 + raws.length) := by
  have hlength : start + (raw :: raws).length = start + 1 + raws.length := by
    rw [List.length_cons]
    omega
  unfold LinksFrom
  rw [hlength]
  constructor
  · intro h
    refine ⟨fun i raw' later hdrop hok => ?_, fun hok => h 0 raw raws rfl hok⟩
    have hlinks := h (i + 1) raw' later hdrop
    rw [show start + (i + 1) = start + 1 + i by omega] at hlinks
    exact hlinks hok
  · rintro ⟨hlater, hfirst⟩ i raw' later hdrop
    cases i with
    | zero =>
      cases hdrop
      exact hfirst
    | succ i =>
      rw [show start + (i + 1) = start + 1 + i by omega]
      exact hlater i raw' later hdrop

theorem linkCells_returns_iff {exotic : ExoticCheck} {start : Nat} {raws : List RawCell} :
    Returns (linkCells exotic start raws) ↔ LinksFrom exotic start raws := by
  induction raws generalizing start with
  | nil =>
    refine iff_of_true (returns_ok []) fun i raw later hdrop => ?_
    rw [List.drop_nil] at hdrop
    cases hdrop
  | cons raw raws ih =>
    rw [linksFrom_cons, ← ih, linkCells, returns_bind]
    refine and_congr_right fun _ => ?_
    constructor
    · intro h hok
      obtain ⟨cells, hcells⟩ := exists_of_isOk hok
      rw [← length_of_linkCells hcells]
      exact references_returns_iff.mp (returns_bind.mp (h cells hcells)).1
    · intro h cells hcells
      have hlinks := h (by rw [hcells]; rfl)
      rw [← length_of_linkCells hcells] at hlinks
      refine (references_returns_iff.mpr hlinks).bind fun references _ => ?_
      exact (cellNew_returns exotic raw references).bind fun _ _ => returns_ok _

def LinksWithin (exotic : ExoticCheck) (serial : List UInt8) : Prop :=
  ∀ raw, Reader.run RawBagOfCells.parse serial = .ok raw → LinksFrom exotic 0 raw.cells

def RootsWithin (exotic : ExoticCheck) (serial : List UInt8) : Prop :=
  ∀ raw, Reader.run RawBagOfCells.parse serial = .ok raw →
    (linkCells exotic 0 raw.cells).isOk = true → ∀ r ∈ raw.roots, r < raw.cells.length

theorem bagOfCells_returns_iff {exotic : ExoticCheck} {serial : List UInt8} :
    Returns (BagOfCells.parse exotic serial) ↔
      HasRoom serial ∧ LinksWithin exotic serial ∧ RootsWithin exotic serial := by
  rw [BagOfCells.parse, returns_bind, rawBagOfCells_returns_iff, LinksWithin, RootsWithin,
    ← forall_and]
  refine and_congr_right fun _ => forall_congr' fun raw => ?_
  rw [← imp_and]
  refine imp_congr_right fun _ => ?_
  rw [returns_bind, linkCells_returns_iff]
  refine and_congr_right fun _ => ?_
  have hroots (cells : List Cell) (hcells : linkCells exotic 0 raw.cells = .ok cells) :
      Returns (collect (Outcome.index (ε := TonCellError) cells) raw.roots) ↔
        ∀ r ∈ raw.roots, r < raw.cells.length := by
    rw [Outcome.returns_collect_iff fun r _ => Outcome.not_fails_index]
    simp only [Outcome.returns_index, length_of_linkCells hcells]
  constructor
  · intro h hok
    obtain ⟨cells, hcells⟩ := exists_of_isOk hok
    exact (hroots cells hcells).mp (returns_bind.mp (h cells hcells)).1
  · intro h cells hcells
    refine ((hroots cells hcells).mpr (h (by rw [hcells]; rfl))).bind fun _ _ => ?_
    exact returns_ok _

theorem stays_loadBits (n : Nat) : Stays (loadBits n) := by
  intro parser
  unfold loadBits
  by_cases h : parser.bits.length < n
  · rw [if_pos h]
    exact returns_error _
  · rw [if_neg h]
    exact returns_ok _

theorem stays_loadBit : Stays loadBit := (stays_loadBits 1).bind fun _ => stays_pure _

theorem stays_loadUint (n : Nat) : Stays (loadUint n) :=
  (stays_loadBits n).bind fun _ => stays_pure _

theorem stays_loadBytes (n : Nat) : Stays (loadBytes n) :=
  (stays_loadBits (8 * n)).bind fun _ => stays_pure _

theorem stays_loadCoins : Stays loadCoins :=
  (stays_loadUint 4).bind fun _ =>
    Stays.ite (fun _ => stays_pure 0) fun _ => stays_loadUint _

theorem stays_fail {α : Type} (e : TonCellError) : Stays (fail e : Load α) :=
  fun _ => returns_error e

theorem stays_loadAddress : Stays loadAddress := by
  refine (stays_loadUint 2).bind fun tp => Stays.ite (fun _ => stays_pure _) fun _ =>
    Stays.ite (fun _ => ?_) fun _ => stays_fail _
  refine (stays_loadUint 1).bind fun _ => (stays_loadUint 8).bind fun _ => ?_
  exact (stays_loadBytes 32).bind fun _ => stays_pure _

theorem stays_remainingBits : Stays remainingBits := fun _ => returns_ok _

theorem stays_remainingBytes : Stays remainingBytes :=
  stays_remainingBits.bind fun _ => stays_pure _

theorem stays_liftResult {α : Type} {x : Result α} (hx : Returns x) : Stays (liftResult x) :=
  fun _ => hx.bind fun _ _ => returns_ok _

theorem parse_returns {α : Type} {load : Load α} (h : Stays load) (cell : Cell) :
    Returns (cell.parse load) :=
  (h cell.parser).bind fun _ _ => returns_ok _

theorem parseFully_returns {α : Type} {load : Load α} (h : Stays load) (cell : Cell) :
    Returns (cell.parseFully load) := by
  refine (h cell.parser).bind fun loaded _ => ?_
  by_cases hempty : loaded.2.remainingBits = 0
  · rw [if_pos hempty]
    exact returns_ok _
  · rw [if_neg hempty]
    exact returns_error _

theorem stays_loadUtf8 (n : Nat) : Stays (loadUtf8 n) :=
  (stays_loadBytes n).bind fun _ => stays_liftResult (returns_okOr _ _)

theorem stays_loadRest : Stays loadRest := stays_remainingBytes.bind stays_loadUtf8

variable (cell : Cell)

theorem parseComment_returns : Returns (parseComment cell) := by
  refine parseFully_returns (stays_remainingBits.bind fun bits => ?_) cell
  refine Stays.ite (fun _ => stays_fail _) fun _ => (stays_loadUint 32).bind fun op => ?_
  refine Stays.ite (fun _ => stays_fail _) fun _ => stays_remainingBytes.bind fun n => ?_
  exact (stays_loadBytes n).bind fun _ => stays_liftResult (returns_okOr _ _)

theorem toOption_returns {α : Type} {x : Result α} (hx : Returns x) :
    Returns (Outcome.toOption x) := by
  cases x with
  | ok a => exact returns_ok _
  | error e => exact returns_ok _
  | halted => exact absurd rfl hx

theorem commentOf_returns (payload : Option Cell) : Returns (commentOf payload) := by
  cases payload with
  | none => exact returns_ok _
  | some child => exact toOption_returns (parseComment_returns child)

theorem stays_loadPayload (refIndex : Nat) : Stays (loadPayload cell refIndex) := by
  refine stays_loadBit.bind fun present => Stays.ite (fun _ => ?_) fun _ => stays_pure _
  exact (stays_liftResult (returns_okOr _ _)).bind fun _ => stays_pure _

theorem jettonTransfer_returns : Returns (JettonTransferMessage.parse cell) := by
  refine parseFully_returns ((stays_loadUint 32).bind fun _ => ?_) cell
  refine (stays_loadUint 64).bind fun _ => stays_loadCoins.bind fun _ => ?_
  refine stays_loadAddress.bind fun _ => stays_loadAddress.bind fun _ => ?_
  refine (stays_loadPayload cell 0).bind fun custom => stays_loadCoins.bind fun _ => ?_
  refine (stays_loadPayload cell custom.2).bind fun forward => ?_
  exact (stays_liftResult (commentOf_returns forward.1)).bind fun _ => stays_pure _

theorem nftTransfer_returns : Returns (NFTTransferMessage.parse cell) := by
  refine parseFully_returns ((stays_loadUint 32).bind fun _ => ?_) cell
  refine (stays_loadUint 64).bind fun _ => ?_
  refine stays_loadAddress.bind fun _ => stays_loadAddress.bind fun _ => ?_
  refine (stays_loadPayload cell 0).bind fun custom => stays_loadCoins.bind fun _ => ?_
  refine (stays_loadPayload cell custom.2).bind fun forward => ?_
  exact (stays_liftResult (commentOf_returns forward.1)).bind fun _ => stays_pure _

theorem parseJettonMessage_returns : Returns (parseJettonMessage cell) := by
  refine parse_returns ((stays_loadUint 32).bind fun _ => Stays.ite (fun _ => ?_) fun _ => ?_) cell
  · exact stays_liftResult (jettonTransfer_returns cell)
  · exact stays_fail _

theorem parseNFTMessage_returns : Returns (parseNFTMessage cell) := by
  refine parse_returns ((stays_loadUint 32).bind fun _ => Stays.ite (fun _ => ?_) fun _ => ?_) cell
  · exact stays_liftResult (nftTransfer_returns cell)
  · exact stays_fail _

theorem commentTail_returns : ∀ cell : Cell, Returns (commentTail cell)
  | .mk _ _ [] => by
    rw [commentTail]
    exact returns_ok _
  | .mk _ _ (child :: _) => by
    rw [commentTail]
    refine (parseFully_returns stays_loadRest child).bind fun _ _ => ?_
    exact (commentTail_returns child).bind fun _ _ => returns_ok _

theorem internalMessage_returns : Returns (InternalMessage.parse cell) := by
  refine parse_returns ((stays_loadUint 32).bind fun opCode => ?_) cell
  refine Stays.ite (fun _ => ?_) fun _ => Stays.ite (fun _ => ?_) fun _ =>
    Stays.ite (fun _ => ?_) fun _ => ?_
  · exact (stays_liftResult (parseJettonMessage_returns cell)).bind fun _ => stays_pure _
  · exact (stays_liftResult (parseNFTMessage_returns cell)).bind fun _ => stays_pure _
  · refine stays_loadRest.bind fun _ => ?_
    exact (stays_liftResult (commentTail_returns cell)).bind fun _ => stays_pure _
  · refine stays_remainingBytes.bind fun n => ?_
    exact (stays_loadBytes n).bind fun _ => stays_pure _

theorem dataOf_returns (body : Option Cell) : Returns (dataOf body) := by
  cases body with
  | none => exact returns_ok _
  | some body => exact toOption_returns (internalMessage_returns body)

theorem buildCell_returns (bits : List Bool) : Returns (buildCell bits) := by
  unfold buildCell
  by_cases h : 1023 < bits.length
  · rw [if_pos h]
    exact returns_error _
  · rw [if_neg h]
    exact returns_ok _

theorem stays_loadBody (refIndex : Nat) : Stays (loadBody cell refIndex) := by
  refine stays_loadBit.bind fun referenced => Stays.ite (fun _ => ?_) fun _ => ?_
  · exact (stays_liftResult (returns_okOr _ _)).bind fun _ => stays_pure _
  · refine stays_remainingBits.bind fun n => Stays.ite (fun _ => ?_) fun _ => stays_pure _
    refine (stays_loadBits n).bind fun bits => ?_
    exact (stays_liftResult (buildCell_returns bits)).bind fun _ => stays_pure _

section

variable {lib : TonLib}

theorem readTransfer_returns (cell : Cell) : Returns (readTransfer lib cell) := by
  refine parse_returns (stays_loadBit.bind fun _ => stays_loadBit.bind fun _ => ?_) cell
  refine stays_loadBit.bind fun _ => stays_loadBit.bind fun _ => ?_
  refine stays_loadAddress.bind fun _ => stays_loadAddress.bind fun _ => ?_
  refine stays_loadCoins.bind fun coins => Stays.ite (fun _ => stays_fail _) fun _ => ?_
  refine stays_loadBit.bind fun _ => stays_loadCoins.bind fun _ => stays_loadCoins.bind fun _ => ?_
  refine (stays_loadUint 64).bind fun _ => (stays_loadUint 32).bind fun _ => ?_
  refine (stays_loadPayload cell 0).bind fun stateInit => ?_
  refine (stays_loadBody cell stateInit.2).bind fun body => ?_
  exact (stays_liftResult (dataOf_returns body)).bind fun _ => stays_pure _

theorem transferMessage_returns (cell : Cell) : Returns (TransferMessage.parse lib cell) :=
  (readTransfer_returns cell).bind fun _ _ => returns_ok _

theorem loadUint_eq {n : Nat} {parser : CellParser} (h : n ≤ parser.bits.length) :
    loadUint n parser = .ok (ofBits (parser.bits.take n),
      ⟨parser.bits.drop n, parser.remainingBits - n⟩) := by
  show (loadBits n parser >>= fun r => _) = _
  rw [loadBits, if_neg (Nat.not_lt.mpr h)]
  rfl

theorem loadUint_short {n : Nat} {parser : CellParser} (h : parser.bits.length < n) :
    loadUint n parser = .error (.cellParserError "Cell parser error: ") := by
  show (loadBits n parser >>= fun r => _) = _
  rw [loadBits, if_pos h]
  rfl

theorem loadUint_bind_returns_iff {α : Type} {n : Nat} {f : Nat → Load α} {P : CellParser → Prop}
    {parser : CellParser} (hf : ∀ a rest, Returns (f a rest) ↔ P rest) :
    Returns ((loadUint n >>= f) parser) ↔
      (n ≤ parser.bits.length → P ⟨parser.bits.drop n, parser.remainingBits - n⟩) := by
  show Returns (loadUint n parser >>= fun r => f r.1 r.2) ↔ _
  by_cases h : n ≤ parser.bits.length
  · rw [loadUint_eq h, ok_bind, hf]
    exact ⟨fun hP _ => hP, fun hP => hP h⟩
  · rw [loadUint_short (Nat.not_le.mp h)]
    exact iff_of_true (returns_error _) fun hle => absurd hle h

theorem unwrapLoad_bind_returns_iff {α : Type} {n : Nat} {f : Nat → Load α}
    {P : CellParser → Prop} {parser : CellParser} (hf : ∀ a rest, Returns (f a rest) ↔ P rest) :
    Returns ((unwrapLoad (loadUint n) >>= f) parser) ↔
      n ≤ parser.bits.length ∧ P ⟨parser.bits.drop n, parser.remainingBits - n⟩ := by
  show Returns (Outcome.expect (loadUint n parser) >>= fun r => f r.1 r.2) ↔ _
  by_cases h : n ≤ parser.bits.length
  · rw [loadUint_eq h, and_iff_right h]
    exact hf _ _
  · rw [loadUint_short (Nat.not_le.mp h)]
    exact iff_of_false (fun hreturns => hreturns rfl) fun hP => h hP.1

theorem length_parser_bits (cell : Cell) : cell.parser.bits.length = 8 * cell.data.length := by
  show (cell.data.flatMap bitsOf).length = _
  rw [List.length_flatMap]
  have hbits : cell.data.map (fun b => (bitsOf b).length) = cell.data.map fun _ => 8 :=
    List.map_congr_left fun b _ => by rw [bitsOf, List.length_map, List.length_range]
  rw [hbits, List.map_const', List.sum_replicate_nat, Nat.mul_comm]

theorem signingMessage_returns_iff {cell : Cell} : Returns (SigningMessage.parse lib cell) ↔
    cell.data.length ≠ 12 ∧ cell.data.length ≠ 13 := by
  have hmessages : Returns (collect (TransferMessage.parse lib) cell.references) :=
    Returns.collect fun reference _ => transferMessage_returns reference
  have hmodes (walletId : Option Nat) (timeout seqNo : Nat) (parser : CellParser) : Returns ((do
      let _order ← unwrapLoad (loadUint 8)
      let _sendMode ← unwrapLoad (loadUint 8)
      let messages ← liftResult (collect (TransferMessage.parse lib) cell.references)
      pure { walletId, timeout, seqNo, messages } : Load SigningMessage) parser) ↔
      16 ≤ parser.bits.length := by
    refine (unwrapLoad_bind_returns_iff (P := fun rest => 8 ≤ rest.bits.length)
      fun order rest => ?_).trans ?_
    · refine (unwrapLoad_bind_returns_iff (P := fun _ => True)
        fun sendMode rest => iff_true_intro ?_).trans (and_iff_left trivial)
      exact (stays_liftResult hmessages).bind (fun _ => stays_pure _) rest
    · rw [List.length_drop]
      omega
  -- What follows on the wallet's id asks for 64 bits, and then for 16 bits more.
  have hbehind (walletId : Option Nat) (parser : CellParser) : Returns ((do
      let timeout ← loadUint 32
      let seqNo ← loadUint 32
      let _order ← unwrapLoad (loadUint 8)
      let _sendMode ← unwrapLoad (loadUint 8)
      let messages ← liftResult (collect (TransferMessage.parse lib) cell.references)
      pure { walletId, timeout, seqNo, messages } : Load SigningMessage) parser) ↔
      (64 ≤ parser.bits.length → 80 ≤ parser.bits.length) := by
    refine (loadUint_bind_returns_iff
      (P := fun rest => 32 ≤ rest.bits.length → 48 ≤ rest.bits.length)
      fun timeout rest => ?_).trans ?_
    · refine (loadUint_bind_returns_iff (hmodes walletId timeout)).trans ?_
      rw [List.length_drop]
      omega
    · rw [List.length_drop]
      omega
  have hlength := length_parser_bits cell
  rw [show Returns (SigningMessage.parse lib cell) ↔ _ from Outcome.returns_map (f := Prod.fst)]
  by_cases hid : 32 ≤ cell.parser.bits.length
  · have hload : tryLoad (loadUint 32) cell.parser = .ok (some (ofBits (cell.parser.bits.take 32)),
        ⟨cell.parser.bits.drop 32, cell.parser.remainingBits - 32⟩) := by
      rw [tryLoad, loadUint_eq hid]
    show Returns (tryLoad (loadUint 32) cell.parser >>= fun r => _) ↔ _
    rw [hload, ok_bind, hbehind, List.length_drop]
    omega
  · have hload : tryLoad (loadUint 32) cell.parser = .ok (none, cell.parser) := by
      rw [tryLoad, loadUint_short (Nat.not_le.mp hid)]
    show Returns (tryLoad (loadUint 32) cell.parser >>= fun r => _) ↔ _
    rw [hload, ok_bind, hbehind]
    dsimp only
    omega

def jettonAmount (body : Cell) : Result Nat :=
  body.parse do
    let _opCode ← loadUint 32
    let _queryId ← loadUint 64
    loadCoins

theorem parseFully_eq_ok {α : Type} {cell : Cell} {load : Load α} {a : α}
    (h : cell.parseFully load = .ok a) : ∃ s, load cell.parser = .ok (a, s) ∧ s.remainingBits = 0 := by
  obtain ⟨⟨a', s⟩, hload, h⟩ := bind_eq_ok.mp h
  dsimp only at h
  by_cases hempty : s.remainingBits = 0
  · rw [if_pos hempty] at h
    cases h
    exact ⟨s, hload, hempty⟩
  · rw [if_neg hempty] at h
    cases h

variable {transfer : JettonTransferMessage}

theorem amount_of_jettonTransfer {body : Cell}
    (h : JettonTransferMessage.parse body = .ok transfer) :
    ∃ n, jettonAmount body = .ok n ∧ transfer.amount = natText n := by
  obtain ⟨s, h, -⟩ := parseFully_eq_ok h
  obtain ⟨opCode, s₁, hopCode, h⟩ := bind_load_eq_ok.mp h
  obtain ⟨queryId, s₂, hqueryId, h⟩ := bind_load_eq_ok.mp h
  obtain ⟨amount, s₃, hamount, h⟩ := bind_load_eq_ok.mp h
  have hload : jettonAmount body = .ok amount := by
    refine bind_eq_ok.mpr ⟨(amount, s₃), ?_, rfl⟩
    exact bind_load_eq_ok.mpr ⟨opCode, s₁, hopCode, bind_load_eq_ok.mpr
      ⟨queryId, s₂, hqueryId, hamount⟩⟩
  refine ⟨amount, hload, ?_⟩
  obtain ⟨_, _, -, h⟩ := bind_load_eq_ok.mp h
  obtain ⟨_, _, -, h⟩ := bind_load_eq_ok.mp h
  obtain ⟨_, _, -, h⟩ := bind_load_eq_ok.mp h
  obtain ⟨_, _, -, h⟩ := bind_load_eq_ok.mp h
  obtain ⟨_, _, -, h⟩ := bind_load_eq_ok.mp h
  obtain ⟨_, _, -, h⟩ := bind_load_eq_ok.mp h
  cases h
  rfl

theorem operation_eq_jetton_iff {body : Cell} :
    (∃ data, InternalMessage.parse body = .ok data ∧ data.operation = .jettonMessage transfer) ↔
      parseJettonMessage body = .ok transfer := by
  constructor
  · rintro ⟨data, hdata, hoperation⟩
    obtain ⟨⟨result, s⟩, h, hresult⟩ := bind_eq_ok.mp hdata
    cases hresult
    obtain ⟨opCode, s₁, hopCode, h⟩ := bind_load_eq_ok.mp h
    split_ifs at h with hjetton hnft hcomment
    · obtain ⟨transfer', _, htransfer, h⟩ := bind_load_eq_ok.mp h
      cases h
      cases hoperation
      exact (liftResult_eq_ok.mp htransfer).1
    · obtain ⟨_, _, -, h⟩ := bind_load_eq_ok.mp h
      cases h
      cases hoperation
    · obtain ⟨_, _, -, h⟩ := bind_load_eq_ok.mp h
      obtain ⟨_, _, -, h⟩ := bind_load_eq_ok.mp h
      cases h
      cases hoperation
    · obtain ⟨_, _, -, h⟩ := bind_load_eq_ok.mp h
      obtain ⟨_, _, -, h⟩ := bind_load_eq_ok.mp h
      cases h
      cases hoperation
  · intro h
    obtain ⟨loaded, hload, -⟩ := bind_eq_ok.mp h
    obtain ⟨opCode, s₁, hopCode, hload⟩ := bind_load_eq_ok.mp hload
    split_ifs at hload with hjetton
    · refine ⟨⟨hexNumberText opCode, inferAction opCode, .jettonMessage transfer⟩, ?_, rfl⟩
      refine bind_eq_ok.mpr ⟨(_, s₁), bind_load_eq_ok.mpr ⟨opCode, s₁, hopCode, ?_⟩, rfl⟩
      rw [if_pos hjetton]
      exact bind_load_eq_ok.mpr ⟨transfer, s₁, liftResult_eq_ok.mpr ⟨h, rfl⟩, rfl⟩
    · cases hload

theorem jettonTransfer_of_parseJettonMessage {body : Cell}
    (h : parseJettonMessage body = .ok transfer) :
    JettonTransferMessage.parse body = .ok transfer := by
  obtain ⟨⟨result, s⟩, hload, hresult⟩ := bind_eq_ok.mp h
  cases hresult
  obtain ⟨opCode, s₁, hopCode, hload⟩ := bind_load_eq_ok.mp hload
  split_ifs at hload with hjetton
  · exact (liftResult_eq_ok.mp hload).1
  · cases hload

/-- The amount of a jetton transfer that is shown is a number of 64 bits. -/
def AmountFits (message : TransferMessage) : Prop :=
  ∀ data transfer, message.data = some data → data.operation = .jettonMessage transfer →
    ∃ n, Bytes.parseUnsigned (2 ^ 64) transfer.amount = some n

theorem tryFrom_returns_iff {signingMessage : SigningMessage} :
    Returns (TonTransaction.tryFrom lib signingMessage) ↔
      ∀ message rest, signingMessage.messages = message :: rest → AmountFits message := by
  unfold TonTransaction.tryFrom
  cases hmessages : signingMessage.messages with
  | nil => exact iff_of_true (returns_error _) nofun
  | cons message rest =>
    dsimp only
    have hunique : (∀ message' rest', message :: rest = message' :: rest' → AmountFits message') ↔
        AmountFits message := by
      constructor
      · exact fun h => h message rest rfl
      · intro h message' rest' heq
        cases heq
        exact h
    rw [hunique]
    unfold AmountFits
    cases hdata : message.data with
    | none => exact iff_of_true (returns_ok _) nofun
    | some data =>
      dsimp only
      cases hoperation : data.operation with
      | jettonMessage transfer =>
        dsimp only
        constructor
        · intro h data' transfer' hdata' htransfer
          cases hdata'
          cases hoperation.symm.trans htransfer
          have hvalue := (returns_bind.mp (returns_bind.mp h).1).1
          rw [(Outcome.valueIff_unwrap _).returns_iff] at hvalue
          exact Option.isSome_iff_exists.mp hvalue
        · intro h
          obtain ⟨n, hn⟩ := h data transfer rfl hoperation
          rw [getJettonAmountText, hn]
          exact returns_ok _
      | comment text =>
        refine iff_of_true (returns_ok _) fun data' transfer h h' => ?_
        cases h
        cases hoperation.symm.trans h'
      | nftMessage transfer =>
        refine iff_of_true (returns_ok _) fun data' transfer h h' => ?_
        cases h
        cases hoperation.symm.trans h'
      | otherMessage payload =>
        refine iff_of_true (returns_ok _) fun data' transfer h h' => ?_
        cases h
        cases hoperation.symm.trans h'

/-- The first message, if it is a jetton transfer and all messages are parsed, is one of less than
`2 ^ 64` units. -/
def JettonFits (lib : TonLib) (root : Cell) : Prop :=
  ∀ reference references message body n, root.references = reference :: references →
    (SigningMessage.parse lib root).isOk = true →
    readTransfer lib reference = .ok (message, some body) →
    (parseJettonMessage body).isOk = true → jettonAmount body = .ok n → n < 2 ^ 64

theorem amountFits_iff {reference : Cell} {message : TransferMessage} {body : Option Cell}
    (hread : readTransfer lib reference = .ok (message, body)) : AmountFits message ↔
      ∀ b n, body = some b → (parseJettonMessage b).isOk = true → jettonAmount b = .ok n →
        n < 2 ^ 64 := by
  obtain ⟨hdata, -⟩ := spec_of_readTransfer hread
  constructor
  · rintro hfits b n rfl hok hn
    obtain ⟨transfer, htransfer⟩ := exists_of_isOk hok
    obtain ⟨data, hparse, hoperation⟩ := operation_eq_jetton_iff.mpr htransfer
    have hmessage : message.data = some data := by
      change Outcome.toOption (InternalMessage.parse b) = _ at hdata
      rw [hparse] at hdata
      exact (Outcome.ok.inj hdata).symm
    obtain ⟨m, hm⟩ := hfits data transfer hmessage hoperation
    obtain ⟨n', hn', hamount⟩ :=
      amount_of_jettonTransfer (jettonTransfer_of_parseJettonMessage htransfer)
    cases hn.symm.trans hn'
    rw [hamount, natText, Bytes.parseUnsigned_toDigits_eq] at hm
    by_contra hnot
    rw [if_neg hnot] at hm
    cases hm
  · intro hfits data transfer hmessage hoperation
    cases body with
    | none =>
      cases hmessage.symm.trans (Outcome.ok.inj hdata).symm
    | some b =>
      have hparse : InternalMessage.parse b = .ok data := by
        change Outcome.toOption (InternalMessage.parse b) = _ at hdata
        rw [hmessage] at hdata
        cases hb : InternalMessage.parse b with
        | ok data' =>
          rw [hb] at hdata
          cases hdata
          rfl
        | error e =>
          rw [hb] at hdata
          cases hdata
        | halted =>
          rw [hb] at hdata
          cases hdata
      have htransfer := operation_eq_jetton_iff.mp ⟨data, hparse, hoperation⟩
      obtain ⟨n, hn, hamount⟩ :=
        amount_of_jettonTransfer (jettonTransfer_of_parseJettonMessage htransfer)
      have hlt := hfits b n rfl (by rw [htransfer]; rfl) hn
      exact ⟨n, hamount ▸ Bytes.parseUnsigned_toDigits hlt⟩

theorem jettonFits_iff {root : Cell} {signingMessage : SigningMessage}
    (h : SigningMessage.parse lib root = .ok signingMessage) :
    Returns (TonTransaction.tryFrom lib signingMessage) ↔ JettonFits lib root := by
  have hok : (SigningMessage.parse lib root).isOk = true := by rw [h]; rfl
  have hmessages := messages_of_parse h
  rw [tryFrom_returns_iff]
  constructor
  · intro hfits reference references message body n hreferences _ hread hjetton hn
    rw [hreferences] at hmessages
    obtain ⟨message', rest, hmessage, -, hlist⟩ := List.forall₂_cons_left_iff.mp hmessages
    obtain ⟨body', hread'⟩ := exists_readTransfer hmessage
    cases hread.symm.trans hread'
    exact (amountFits_iff hread).mp (hfits message rest hlist) body n rfl hjetton hn
  · intro hfits message rest hlist
    rw [hlist] at hmessages
    obtain ⟨reference, references, hmessage, -, hreferences⟩ :=
      List.forall₂_cons_right_iff.mp hmessages
    obtain ⟨body, hread⟩ := exists_readTransfer hmessage
    refine (amountFits_iff hread).mpr ?_
    rintro b n rfl hjetton hn
    exact hfits reference references message b n hreferences hok hread hjetton hn

/-- What has to hold of the bytes of a transaction, as far as they are read. -/
structure SoundTransaction (lib : TonLib) (serial : List UInt8) : Prop where
  room : HasRoom serial
  links : LinksWithin lib.exotic serial
  roots : RootsWithin lib.exotic serial
  modes : ∀ root, rootToSign lib serial = .ok root → root.data.length ≠ 12 ∧ root.data.length ≠ 13
  jetton : ∀ root, rootToSign lib serial = .ok root → JettonFits lib root

theorem mapError_returns_iff {ε δ α : Type} {x : Outcome ε α} {g : ε → δ} :
    Returns (Outcome.mapError g x) ↔ Returns x := by
  cases x with
  | ok a => exact iff_of_true (returns_ok a) (returns_ok a)
  | error e => exact iff_of_true (returns_error _) (returns_error e)
  | halted => exact iff_of_false (fun h => h rfl) fun h => h rfl

theorem singleRoot_returns (boc : BagOfCells) : Returns boc.singleRoot := by
  unfold BagOfCells.singleRoot
  rcases boc.roots with _ | ⟨root, _ | ⟨root', roots⟩⟩
  · exact returns_error _
  · exact returns_ok _
  · exact returns_error _

theorem parseTransaction_returns_iff {serial : List UInt8} :
    Returns (parseTransaction lib serial) ↔ SoundTransaction lib serial := by
  have hroot (root : Cell) : Returns (Outcome.mapError TonError.transactionError
      (SigningMessage.parse lib root) >>= TonTransaction.tryFrom lib) ↔
      (root.data.length ≠ 12 ∧ root.data.length ≠ 13) ∧ JettonFits lib root := by
    rw [returns_bind, mapError_returns_iff, signingMessage_returns_iff]
    refine and_congr_right fun _ => ?_
    constructor
    · intro h reference references message body n hreferences hok hread hjetton hn
      obtain ⟨signingMessage, hparse⟩ := exists_of_isOk hok
      have hfits := (jettonFits_iff hparse).mp (h _ (Outcome.mapError_eq_ok.mpr hparse))
      exact hfits reference references message body n hreferences hok hread hjetton hn
    · intro h signingMessage hparse
      exact (jettonFits_iff (Outcome.mapError_eq_ok.mp hparse)).mpr h
  have hboc (boc : BagOfCells) (h : Outcome.mapError TonError.transactionError
      (BagOfCells.parse lib.exotic serial) = .ok boc) :
      Returns (TonTransaction.parse lib boc) ↔ ∀ root, rootToSign lib serial = .ok root →
        (root.data.length ≠ 12 ∧ root.data.length ≠ 13) ∧ JettonFits lib root := by
    rw [TonTransaction.parse, returns_bind, mapError_returns_iff,
      and_iff_right (singleRoot_returns boc), rootToSign, h, ok_bind]
    exact forall_congr' fun root => imp_congr_right fun _ => hroot root
  rw [parseTransaction, returns_bind, mapError_returns_iff, bagOfCells_returns_iff]
  constructor
  · rintro ⟨⟨hroom, hlinks, hroots⟩, h⟩
    have hall : ∀ root, rootToSign lib serial = .ok root →
        (root.data.length ≠ 12 ∧ root.data.length ≠ 13) ∧ JettonFits lib root := by
      intro root hsign
      obtain ⟨boc, hparse, -⟩ := bind_eq_ok.mp hsign
      exact (hboc boc hparse).mp (returns_bind.mp (h boc hparse)).1 root hsign
    exact ⟨hroom, hlinks, hroots, fun root hsign => (hall root hsign).1,
      fun root hsign => (hall root hsign).2⟩
  · intro h
    refine ⟨⟨h.room, h.links, h.roots⟩, fun boc hparse => ?_⟩
    refine Returns.bind ?_ fun tx _ => returns_ok _
    exact (hboc boc hparse).mpr fun root hsign => ⟨h.modes root hsign, h.jetton root hsign⟩

/-- A proof and a transaction are parsed without a panic, and a proof only if it is one. A slice has
less than `2 ^ 31` bytes on a machine of 32 bits. -/
theorem parses_iff {serial : List UInt8} (hsize : serial.length < 2 ^ 31) :
    (ParsesProofs serial ∧ Returns (parseTransaction lib serial)) ↔
      SoundProof serial ∧ SoundTransaction lib serial :=
  and_congr (parsesProofs_iff hsize) parseTransaction_returns_iff

end

theorem parses_iff_sample : ([] : List UInt8).length < 2 ^ 31 ∧
    ((ParsesProofs [] ∧ Returns (parseTransaction .sample [])) ↔
      SoundProof [] ∧ SoundTransaction .sample []) :=
  ⟨by decide, parses_iff (by decide)⟩

def negativeProof : List UInt8 := proofHeader ++ List.replicate 36 0 ++ List.replicate 4 255 ++
  List.replicate 8 0

/-- The end of the domain lies before its beginning. -/
theorem not_parses_negative : ¬∀ serial : List UInt8, serial.length < 2 ^ 31 →
    ParsesProofs serial ∧ Returns (parseTransaction .sample serial) := by
  intro h
  have hparses := (h negativeProof (by decide)).1
  exact hparses.returns (parseHex_wraps (by decide) (by decide))

end Keystone3.Ton
