import Keystone3.Ethereum.Parsed

/-!
# What is shown of a transaction

A transaction is shown, with its own numbers, just if they fit and every price is the
shortest decimal of its double (`LegacyFits`, `FeeMarketFits`), as all prices below `2 ^ 22`
Gwei are (`printsExactly_of_lt`).

The chain id is taken from `v`. The subtraction wraps where there is none in it, and the
first `v` of a chain id, 35, is taken for one without: but for that, the `v` of a signature
is that of the standard as long as it has 64 bits (`computedV_eq_iff`).
-/

namespace Keystone3.Ethereum.Parsed

open Bytes (Block Double IsDecimal hexText)
open Bytes.Rlp (Item)
open Logic (Outcome)
open Logic.Outcome (Returns ValueIff)
open Logic.Outcome (ok_bind returns_error returns_ok)

/-- The price in Gwei is the shortest decimal that is read as the double. -/
def PrintsExactly (price : Nat) : Prop := (gwei price).Shortest (price / 10 ^ 9)

theorem isDecimal_gwei {price : Nat} :
    IsDecimal (gwei price).text (price / 10 ^ 9) ↔ PrintsExactly price := Double.isDecimal_text

theorem printsExactly_of_lt {price : Nat} (h : price < 2 ^ 22 * 10 ^ 9) : PrintsExactly price := by
  have hdivider : Bytes.nearest ((10 ^ 9 : Nat) : ℚ) = (10 ^ 9 : Nat) :=
    Double.nearest_natCast (by norm_num)
  have hprice : Bytes.nearest (price : ℚ) = price := Double.nearest_natCast (by omega)
  have hlt : (price : ℚ) / 10 ^ 9 < 2 ^ (22 : ℤ) := by
    rw [div_lt_iff₀ (by norm_num)]
    exact_mod_cast h
  have hshortest := Double.shortest_round (d := 9) (by norm_num) (by norm_num) ⟨price, rfl⟩ hlt
    (by positivity)
  have hgwei : gwei price = .round (price / 10 ^ 9) (by positivity) := by
    unfold gwei Double.div Double.ofNat Double.round
    simp only [hprice, hdivider]
    simp only [Nat.cast_pow, Nat.cast_ofNat]
  rw [PrintsExactly, hgwei]
  exact hshortest

def IsPlain (s : Text) : Prop := '\x00' ∉ s

theorem convertCChar_eq {s : Text} (h : IsPlain s) : convertCChar s = .ok s := if_neg h

theorem convertOption_eq {s : Option Text} (h : ∀ t, s = some t → IsPlain t) :
    convertOption s = .ok s := by
  cases s with
  | none => rfl
  | some s =>
    rw [convertOption, convertCChar_eq (h s rfl)]
    rfl

theorem isPlain_toDigits (n : Nat) : IsPlain (Nat.toDigits 10 n) := by
  intro hmem
  cases Bytes.isDigit_toDigits _ hmem

theorem isPlain_of_isDecimal {s : Text} {q : ℚ} (h : IsDecimal s q) : IsPlain s := by
  obtain ⟨x, rfl, -⟩ := h
  intro hmem
  rcases List.mem_append.mp hmem with hwhole | hplaces
  · exact isPlain_toDigits _ hwhole
  · split_ifs at hplaces with hnil
    · exact List.not_mem_nil hplaces
    · rcases List.mem_cons.mp hplaces with hpoint | hplace
      · cases hpoint
      · cases x.isDigit _ hplace

theorem isPlain_normalizeValue (value : Nat) : IsPlain (normalizeValue value) :=
  isPlain_of_isDecimal (isDecimal_normalizeValue value)

theorem isPlain_normalizePrice (gas : UInt64) : IsPlain (normalizePrice gas) := by
  intro hmem
  rcases List.mem_append.mp hmem with hprice | hunit
  · exact isPlain_of_isDecimal ⟨_, rfl, rfl⟩ hprice
  · exact absurd hunit (by decide)

theorem isPlain_hexText (bytes : List UInt8) : IsPlain (hexText bytes) := by
  intro hmem
  have hdigit : ∀ d < 16, Nat.digitChar d ≠ '\x00' := by decide
  obtain ⟨d, hd, hzero⟩ := Bytes.exists_digit_of_mem_hexText hmem
  exact hdigit d hd hzero.symm

theorem isPlain_prefixedHex (bytes : List UInt8) : IsPlain (prefixedHex bytes) := by
  intro hmem
  simp only [prefixedHex, List.mem_cons] at hmem
  rcases hmem with hzero | hx | hdigit
  · cases hzero
  · cases hx
  · exact isPlain_hexText bytes hdigit

theorem isPlain_senderText {lib : ParseLib} (law : lib.Lawful) {key : Option lib.PublicKey}
    {s : Text} (h : senderText lib key = some s) : IsPlain s := by
  cases key with
  | none => cases h
  | some key =>
    cases h
    show IsPlain ((lib.generateAddress key).getD [])
    cases haddress : lib.generateAddress key with
    | none => exact List.not_mem_nil
    | some address => exact law.zero_notMem_address key address haddress

structure ParsedEthereumTransaction.Plain (tx : ParsedEthereumTransaction) : Prop where
  sender : ∀ s, tx.sender = some s → IsPlain s
  recipient : IsPlain tx.recipient
  value : IsPlain tx.value
  input : IsPlain tx.input
  gasPrice : ∀ s, tx.gasPrice = some s → IsPlain s
  maxFeePerGas : ∀ s, tx.maxFeePerGas = some s → IsPlain s
  maxPriorityFeePerGas : ∀ s, tx.maxPriorityFeePerGas = some s → IsPlain s
  maxFee : ∀ s, tx.maxFee = some s → IsPlain s
  maxPriority : ∀ s, tx.maxPriority = some s → IsPlain s
  gasLimit : IsPlain tx.gasLimit
  maxTxnFee : IsPlain tx.maxTxnFee

def DisplayETH.plain (tx : ParsedEthereumTransaction) : DisplayETH where
  txType := if tx.maxPriorityFeePerGas.isSome = true then "FeeMarket".toList else "Legacy".toList
  chainId := tx.chainId
  overview := ⟨tx.value, tx.maxTxnFee, tx.gasPrice, tx.gasLimit, tx.sender, tx.recipient⟩
  detail := ⟨tx.value, tx.maxTxnFee, tx.maxFee, tx.maxPriority, tx.maxFeePerGas,
    tx.maxPriorityFeePerGas, tx.gasPrice, tx.gasLimit, tx.sender, tx.recipient,
    Nat.toDigits 10 tx.nonce.toNat, tx.input⟩

theorem DisplayETH.ofParsed_eq {tx : ParsedEthereumTransaction} (h : tx.Plain) :
    DisplayETH.ofParsed tx = .ok (DisplayETH.plain tx) := by
  have hfeeMarket : '\x00' ∉ "FeeMarket".toList := by decide
  have hlegacy : '\x00' ∉ "Legacy".toList := by decide
  have htype : IsPlain (if tx.maxPriorityFeePerGas.isSome = true then "FeeMarket".toList
      else "Legacy".toList) := by
    by_cases hkind : tx.maxPriorityFeePerGas.isSome = true
    · rw [if_pos hkind]
      exact hfeeMarket
    · rw [if_neg hkind]
      exact hlegacy
  rw [DisplayETH.ofParsed, convertCChar_eq htype, DisplayETHOverview.ofParsed,
    DisplayETHDetail.ofParsed, convertCChar_eq h.value, convertCChar_eq h.maxTxnFee,
    convertOption_eq h.gasPrice, convertCChar_eq h.gasLimit, convertOption_eq h.sender,
    convertCChar_eq h.recipient, convertOption_eq h.maxFee, convertOption_eq h.maxPriority,
    convertOption_eq h.maxFeePerGas, convertOption_eq h.maxPriorityFeePerGas,
    convertCChar_eq (isPlain_toDigits _), convertCChar_eq h.input]
  rfl

/-- The nonce, the prices and what they make of the limit have the bits that they are given. -/
structure Fits (nonce gasLimit : Nat) (prices : List Nat) : Prop where
  nonce : nonce < 2 ^ 32
  price : ∀ price ∈ prices, price < 2 ^ 64
  fee : ∀ price ∈ prices, price * gasLimit < 2 ^ 256

theorem valueIff_guard {ε α : Type} {P : Prop} [Decidable P] (a : α) :
    ValueIff (if P then .ok a else .halted : Outcome ε α) P := by
  constructor
  · intro h
    exact ⟨a, if_pos h⟩
  · intro h
    exact if_neg h

theorem ParsedLegacyTransaction.valueIff_ofTx {ε : Type} (tx : RawTransaction) :
    ValueIff (ofTx tx : Outcome ε ParsedLegacyTransaction)
      (Fits tx.nonce tx.gasLimit [tx.gasPrice]) := by
  refine ((valueIff_guard _).bind fun nonce _ => (valueIff_guard _).bind fun gasPrice _ =>
    (valueIff_guard _).map).congr ?_
  constructor
  · rintro ⟨hnonce, hprice, hfee⟩
    exact ⟨hnonce, List.forall_mem_singleton.mpr hprice, List.forall_mem_singleton.mpr hfee⟩
  · intro h
    exact ⟨h.nonce, h.price _ (List.mem_singleton_self _), h.fee _ (List.mem_singleton_self _)⟩

theorem ParsedEIP1559Transaction.valueIff_ofTx {ε : Type} (tx : EIP1559Transaction) :
    ValueIff (ofTx tx : Outcome ε ParsedEIP1559Transaction)
      (Fits tx.nonce tx.gasLimit [tx.maxPriorityFeePerGas, tx.maxFeePerGas]) := by
  refine ((valueIff_guard _).bind fun nonce _ => (valueIff_guard _).bind fun maxPriorityFee _ =>
    (valueIff_guard _).bind fun maxFee _ => (valueIff_guard _).bind fun maxTxnFee _ =>
    (valueIff_guard _).bind fun maxPriority _ => (valueIff_guard _).map).congr ?_
  constructor
  · rintro ⟨hnonce, hprice, hprice', hfee', hfee, -⟩
    refine ⟨hnonce, ?_, ?_⟩
    · exact List.forall_mem_cons.mpr ⟨hprice, List.forall_mem_singleton.mpr hprice'⟩
    · exact List.forall_mem_cons.mpr ⟨hfee, List.forall_mem_singleton.mpr hfee'⟩
  · intro h
    obtain ⟨hprice, hprice'⟩ := List.forall_mem_cons.mp h.price
    obtain ⟨hfee, hfee'⟩ := List.forall_mem_cons.mp h.fee
    rw [List.forall_mem_singleton] at hprice' hfee'
    exact ⟨h.nonce, hprice, hprice', hfee', hfee, hfee'⟩

def ParsedLegacyTransaction.narrowed (tx : RawTransaction) : ParsedLegacyTransaction where
  nonce := UInt32.ofNat tx.nonce
  gasPrice := normalizePrice (UInt64.ofNat tx.gasPrice)
  gasLimit := Nat.toDigits 10 tx.gasLimit
  recipient := prefixedHex (TransactionAction.getTo tx.action)
  value := normalizeValue tx.value
  input := hexText tx.input
  chainId := tx.chainId
  maxTxnFee := normalizeValue (tx.gasPrice * tx.gasLimit)

theorem ParsedLegacyTransaction.ofTx_eq {ε : Type} {tx : RawTransaction}
    (h : Fits tx.nonce tx.gasLimit [tx.gasPrice]) :
    (ofTx tx : Outcome ε ParsedLegacyTransaction) = .ok (narrowed tx) := by
  have hprice := List.mem_singleton_self tx.gasPrice
  rw [ofTx, asU32, if_pos h.nonce, asU64, if_pos (h.price _ hprice), mul, if_pos (h.fee _ hprice)]
  rfl

def ParsedEIP1559Transaction.narrowed (tx : EIP1559Transaction) : ParsedEIP1559Transaction where
  chainId := tx.chainId
  nonce := UInt32.ofNat tx.nonce
  maxPriorityFeePerGas := normalizePrice (UInt64.ofNat tx.maxPriorityFeePerGas)
  maxFeePerGas := normalizePrice (UInt64.ofNat tx.maxFeePerGas)
  gasLimit := Nat.toDigits 10 tx.gasLimit
  recipient := prefixedHex (TransactionAction.getTo tx.action)
  value := normalizeValue tx.value
  input := hexText tx.input
  maxTxnFee := normalizeValue (tx.maxFeePerGas * tx.gasLimit)
  maxPriority := normalizeValue (tx.maxPriorityFeePerGas * tx.gasLimit)
  maxFee := normalizeValue (tx.maxFeePerGas * tx.gasLimit)

theorem ParsedEIP1559Transaction.ofTx_eq {ε : Type} {tx : EIP1559Transaction}
    (h : Fits tx.nonce tx.gasLimit [tx.maxPriorityFeePerGas, tx.maxFeePerGas]) :
    (ofTx tx : Outcome ε ParsedEIP1559Transaction) = .ok (narrowed tx) := by
  have hpriority : tx.maxPriorityFeePerGas ∈ [tx.maxPriorityFeePerGas, tx.maxFeePerGas] := by simp
  have hmax : tx.maxFeePerGas ∈ [tx.maxPriorityFeePerGas, tx.maxFeePerGas] := by simp
  rw [ofTx, asU32, if_pos h.nonce, asU64, if_pos (h.price _ hpriority), asU64,
    if_pos (h.price _ hmax), mul, if_pos (h.fee _ hmax), mul, if_pos (h.fee _ hpriority)]
  rfl

theorem returns_decodeUint (size : Nat) (item : Item) : Returns (decodeUint size item) := by
  cases item with
  | list payload => exact returns_error _
  | data bytes =>
    rw [decodeUint]
    split_ifs <;> simp

theorem returns_decodeBytes (item : Item) : Returns (decodeBytes item) := by
  cases item with
  | list payload => exact returns_error _
  | data bytes => exact returns_ok bytes

theorem returns_decodeH160 (item : Item) : Returns (decodeH160 item) := by
  cases item with
  | list payload => exact returns_error _
  | data bytes =>
    rw [decodeH160]
    split_ifs <;> simp

theorem returns_decodeAction (item : Item) :
    Returns (Ethereum.TransactionAction.decode item) := by
  have hcall : Returns (decodeH160 item >>= fun recipient =>
      pure (TransactionAction.call recipient)) :=
    (returns_decodeH160 item).bind fun recipient _ => returns_ok _
  cases item with
  | list payload =>
    cases payload with
    | nil => exact returns_error _
    | cons b payload => exact hcall
  | data bytes =>
    cases bytes with
    | nil => exact returns_ok _
    | cons b bytes => exact hcall

theorem returns_valAt {α : Type} {items : List Item} {i : Nat}
    {decode : Item → Outcome DecoderError α} (h : ∀ item, Returns (decode item)) :
    Returns (valAt items i decode) :=
  (Outcome.returns_okOr _ _).bind fun item _ => h item

theorem returns_decodeRsv (items : List Item) : Returns (RawTransaction.decodeRsv items) := by
  have hvalAt : ∀ i size, Returns (valAt items i (decodeUint size)) :=
    fun i size => returns_valAt (returns_decodeUint size)
  unfold RawTransaction.decodeRsv
  split_ifs
  · exact returns_ok _
  · refine (hvalAt 6 8).bind fun v _ => (hvalAt 7 32).bind fun r _ => ?_
    exact (hvalAt 8 32).bind fun s _ => returns_ok _
  · exact returns_error _

section

variable {lib : ParseLib} {txHex : List UInt8} {key : Option lib.PublicKey}

theorem returns_decodeRaw (law : lib.Lawful) :
    Returns (RawTransaction.decodeRaw lib.toRlpLib txHex) := by
  refine (law.returns_items txHex).bind fun items _ => ?_
  have hvalAt : ∀ i, Returns (valAt items i (decodeUint 32)) :=
    fun i => returns_valAt (returns_decodeUint 32)
  unfold RawTransaction.decode
  split_ifs
  · exact returns_error _
  · refine (returns_decodeRsv items).bind fun signature _ => (hvalAt 0).bind fun nonce _ => ?_
    refine (hvalAt 1).bind fun gasPrice _ => (hvalAt 2).bind fun gasLimit _ => ?_
    refine (returns_valAt returns_decodeAction).bind fun action _ => ?_
    refine (hvalAt 4).bind fun value _ => (returns_valAt returns_decodeBytes).bind fun input _ => ?_
    exact returns_ok _

theorem returns_decodeRaw_eip1559 (law : lib.Lawful) :
    Returns (EIP1559Transaction.decodeRaw lib.toRlpLib txHex) := by
  refine (law.returns_items txHex).bind fun items _ => ?_
  have hvalAt : ∀ i size, Returns (valAt items i (decodeUint size)) :=
    fun i size => returns_valAt (returns_decodeUint size)
  refine (hvalAt 0 8).bind fun chainId _ => (hvalAt 1 32).bind fun nonce _ => ?_
  refine (hvalAt 2 32).bind fun maxPriority _ => (hvalAt 3 32).bind fun maxFee _ => ?_
  refine (hvalAt 4 32).bind fun gasLimit _ => (returns_valAt returns_decodeAction).bind ?_
  intro action _
  refine (hvalAt 6 32).bind fun value _ => (returns_valAt returns_decodeBytes).bind fun input _ => ?_
  exact returns_ok _

theorem showLegacyTx_of_decode {tx : RawTransaction}
    (h : RawTransaction.decodeRaw lib.toRlpLib txHex = .ok tx) :
    showLegacyTx lib txHex key = ParsedLegacyTransaction.ofTx tx >>= fun parsed =>
      Outcome.expect (DisplayETH.ofParsed (.fromLegacy (senderText lib key) parsed)) := by
  rw [showLegacyTx, parseLegacyTx, h]
  show (ParsedLegacyTransaction.ofTx tx >>= _) >>= _ = _
  cases ParsedLegacyTransaction.ofTx (ε := EthereumError) tx with
  | ok parsed => rfl
  | error e => rfl
  | halted => rfl

theorem showFeeMarketTx_of_decode {tx : EIP1559Transaction}
    (h : EIP1559Transaction.decodeRaw lib.toRlpLib txHex = .ok tx) :
    showFeeMarketTx lib txHex key = ParsedEIP1559Transaction.ofTx tx >>= fun parsed =>
      Outcome.expect (DisplayETH.ofParsed (.fromEip1559 (senderText lib key) parsed)) := by
  rw [showFeeMarketTx, parseFeeMarketTx, h]
  show (ParsedEIP1559Transaction.ofTx tx >>= _) >>= _ = _
  cases ParsedEIP1559Transaction.ofTx (ε := EthereumError) tx with
  | ok parsed => rfl
  | error e => rfl
  | halted => rfl

theorem showLegacyTx_eq (law : lib.Lawful) {tx : RawTransaction}
    (hdecode : RawTransaction.decodeRaw lib.toRlpLib txHex = .ok tx)
    (h : Fits tx.nonce tx.gasLimit [tx.gasPrice]) : showLegacyTx lib txHex key
      = .ok (.plain (.fromLegacy (senderText lib key) (.narrowed tx))) := by
  have hplain : (ParsedEthereumTransaction.fromLegacy (senderText lib key)
      (.narrowed tx)).Plain := {
    sender := fun s hs => isPlain_senderText law hs
    recipient := isPlain_prefixedHex _
    value := isPlain_normalizeValue _
    input := isPlain_hexText _
    gasPrice := fun s hs => Option.some.inj hs ▸ isPlain_normalizePrice _
    maxFeePerGas := nofun
    maxPriorityFeePerGas := nofun
    maxFee := nofun
    maxPriority := nofun
    gasLimit := isPlain_toDigits _
    maxTxnFee := isPlain_normalizeValue _ }
  rw [showLegacyTx_of_decode hdecode, ParsedLegacyTransaction.ofTx_eq h, ok_bind,
    DisplayETH.ofParsed_eq hplain]
  rfl

theorem showFeeMarketTx_eq (law : lib.Lawful) {tx : EIP1559Transaction}
    (hdecode : EIP1559Transaction.decodeRaw lib.toRlpLib txHex = .ok tx)
    (h : Fits tx.nonce tx.gasLimit [tx.maxPriorityFeePerGas, tx.maxFeePerGas]) :
    showFeeMarketTx lib txHex key
      = .ok (.plain (.fromEip1559 (senderText lib key) (.narrowed tx))) := by
  have hplain : (ParsedEthereumTransaction.fromEip1559 (senderText lib key)
      (.narrowed tx)).Plain := {
    sender := fun s hs => isPlain_senderText law hs
    recipient := isPlain_prefixedHex _
    value := isPlain_normalizeValue _
    input := isPlain_hexText _
    gasPrice := nofun
    maxFeePerGas := fun s hs => Option.some.inj hs ▸ isPlain_normalizePrice _
    maxPriorityFeePerGas := fun s hs => Option.some.inj hs ▸ isPlain_normalizePrice _
    maxFee := fun s hs => Option.some.inj hs ▸ isPlain_normalizeValue _
    maxPriority := fun s hs => Option.some.inj hs ▸ isPlain_normalizeValue _
    gasLimit := isPlain_toDigits _
    maxTxnFee := isPlain_normalizeValue _ }
  rw [showFeeMarketTx_of_decode hdecode, ParsedEIP1559Transaction.ofTx_eq h, ok_bind,
    DisplayETH.ofParsed_eq hplain]
  rfl

end

def ShowsPrice (shown : Option Text) (price : Nat) : Prop :=
  ∃ s, shown = some (s ++ " Gwei".toList) ∧ IsDecimal s (price / 10 ^ 9)

def ShowsFee (shown : Option Text) (price gasLimit : Nat) : Prop :=
  ∃ s, shown = some s ∧ IsDecimal s ((price * gasLimit : Nat) / 10 ^ 18)

/-- The `v` of a signature that is not that of a transaction still to be signed. -/
def SignedWith (tx : RawTransaction) (v : UInt64) : Prop :=
  ∃ signature, tx.signature = some signature ∧ signature.s ≠ Block.zero 32 ∧ signature.v = v

structure ShowsLegacy (tx : RawTransaction) (shown : DisplayETH) : Prop where
  nonce : shown.detail.nonce = Nat.toDigits 10 tx.nonce
  gasLimit : shown.overview.gasLimit = Nat.toDigits 10 tx.gasLimit
    ∧ shown.detail.gasLimit = Nat.toDigits 10 tx.gasLimit
  gasPrice : ShowsPrice shown.overview.gasPrice tx.gasPrice
    ∧ ShowsPrice shown.detail.gasPrice tx.gasPrice
  fee : ShowsFee (some shown.overview.maxTxnFee) tx.gasPrice tx.gasLimit
    ∧ ShowsFee (some shown.detail.maxTxnFee) tx.gasPrice tx.gasLimit
  /-- The subtraction does not wrap. -/
  chainId : ∀ v, SignedWith tx v → (shown.chainId.toNat : ℤ) = ((v.toNat : ℤ) - 35) / 2

structure ShowsFeeMarket (tx : EIP1559Transaction) (shown : DisplayETH) : Prop where
  nonce : shown.detail.nonce = Nat.toDigits 10 tx.nonce
  gasLimit : shown.overview.gasLimit = Nat.toDigits 10 tx.gasLimit
    ∧ shown.detail.gasLimit = Nat.toDigits 10 tx.gasLimit
  maxFeePrice : ShowsPrice shown.detail.maxFeePrice tx.maxFeePerGas
  maxPriorityPrice : ShowsPrice shown.detail.maxPriorityPrice tx.maxPriorityFeePerGas
  maxTxnFee : ShowsFee (some shown.overview.maxTxnFee) tx.maxFeePerGas tx.gasLimit
    ∧ ShowsFee (some shown.detail.maxTxnFee) tx.maxFeePerGas tx.gasLimit
  maxFee : ShowsFee shown.detail.maxFee tx.maxFeePerGas tx.gasLimit
  maxPriority : ShowsFee shown.detail.maxPriority tx.maxPriorityFeePerGas tx.gasLimit

theorem showsPrice_normalizePrice {price : Nat} (h : price < 2 ^ 64) :
    ShowsPrice (some (normalizePrice (UInt64.ofNat price))) price ↔ PrintsExactly price := by
  have hprice : (UInt64.ofNat price).toNat = price := UInt64.toNat_ofNat_of_lt' h
  rw [← isDecimal_gwei, normalizePrice, hprice]
  constructor
  · rintro ⟨s, hs, hdecimal⟩
    rwa [List.append_cancel_right (Option.some.inj hs)]
  · intro hdecimal
    exact ⟨_, rfl, hdecimal⟩

theorem showsFee_normalizeValue (price gasLimit : Nat) :
    ShowsFee (some (normalizeValue (price * gasLimit))) price gasLimit :=
  ⟨_, rfl, isDecimal_normalizeValue _⟩

theorem sub_div_eq_iff {v : UInt64} :
    (((v - 35) / 2).toNat : ℤ) = ((v.toNat : ℤ) - 35) / 2 ↔ 35 ≤ v.toNat := by
  have hv := v.toNat_lt
  rw [UInt64.toNat_div, UInt64.toNat_sub]
  simp only [UInt64.reduceToNat]
  omega

/-- The chain id behind the `v` of a transaction, if it has one. A transaction that is still to be
signed has the chain id itself in the place of `v`. -/
def eip155ChainId (tx : RawTransaction) : Option Nat :=
  match tx.signature with
  | none => none
  | some signature =>
    if signature.s = Block.zero 32 then some signature.v.toNat
    else if signature.v.toNat < 35 then none
    else some ((signature.v.toNat - 35) / 2)

/-- The `v` of the standard. -/
def standardV (parity : Nat) : Option Nat → Nat
  | none => 27 + parity
  | some chainId => 35 + 2 * chainId + parity

/-- It has 64 bits, and the transaction has not been signed with 35. -/
structure Signable (tx : RawTransaction) (parity : Nat) : Prop where
  fits : standardV parity (eip155ChainId tx) < 2 ^ 64
  not_signedWith : ¬SignedWith tx 35

section

variable {tx : RawTransaction} {signature : TransactionSignature} {parity : Fin 4}

/-- `v` as it is computed. -/
def computedV (tx : RawTransaction) (parity : Fin 4) : UInt64 :=
  if isEip155Compatible tx = true then UInt64.ofNat parity + 27 + tx.chainId * 2 + 8
  else UInt64.ofNat parity + 27

theorem toNat_withChain (c : UInt64) (parity : Fin 4) :
    (UInt64.ofNat parity + 27 + c * 2 + 8).toNat = 35 + 2 * c.toNat + parity ↔
      35 + 2 * c.toNat + parity < 2 ^ 64 := by
  have hparity := parity.isLt
  simp only [UInt64.toNat_add, UInt64.toNat_mul, UInt64.toNat_ofNat', UInt64.reduceToNat]
  omega

theorem toNat_withoutChain (parity : Fin 4) :
    (UInt64.ofNat parity + 27).toNat = 27 + (parity : Nat) := by
  have hparity := parity.isLt
  simp only [UInt64.toNat_add, UInt64.toNat_ofNat', UInt64.reduceToNat]
  omega

theorem signedWith_iff (h : tx.signature = some signature) {v : UInt64} :
    SignedWith tx v ↔ signature.s ≠ Block.zero 32 ∧ signature.v = v := by
  unfold SignedWith
  simp only [h, Option.some.injEq, exists_eq_left']

theorem computedV_eq_iff (tx : RawTransaction) (parity : Fin 4) :
    (computedV tx parity).toNat = standardV parity (eip155ChainId tx) ↔ Signable tx parity := by
  have hparity := parity.isLt
  cases hsignature : tx.signature with
  | none =>
    have hcompatible : isEip155Compatible tx = false := by rw [isEip155Compatible, hsignature]
    have hchain : eip155ChainId tx = none := by rw [eip155ChainId, hsignature]
    have hfits : standardV parity none < 2 ^ 64 := by
      rw [standardV]
      omega
    rw [computedV, hcompatible, if_neg Bool.false_ne_true, hchain, toNat_withoutChain]
    refine iff_of_true rfl ⟨by rwa [hchain], ?_⟩
    rintro ⟨signature, hsome, -⟩
    rw [hsignature] at hsome
    cases hsome
  | some signature =>
    by_cases hzero : signature.s = Block.zero 32
    · -- the chain id itself stands in the place of `v`
      have hcompatible : isEip155Compatible tx = true := by
        rw [isEip155Compatible, hsignature]
        exact if_pos hzero
      have hchain : eip155ChainId tx = some signature.v.toNat := by
        rw [eip155ChainId, hsignature]
        exact if_pos hzero
      have hid : tx.chainId = signature.v := by
        rw [RawTransaction.chainId, hsignature]
        exact if_pos hzero
      rw [computedV, if_pos hcompatible, hchain, hid, standardV, toNat_withChain]
      constructor
      · intro hfits
        refine ⟨by rwa [hchain], fun hsigned => ?_⟩
        exact ((signedWith_iff hsignature).mp hsigned).1 hzero
      · intro h
        have hfits := h.fits
        rwa [hchain] at hfits
    · have hcompatible : isEip155Compatible tx = true ↔ 35 < signature.v.toNat := by
        rw [isEip155Compatible, hsignature]
        dsimp only
        rw [if_neg hzero, decide_eq_true_iff, UInt64.lt_iff_toNat_lt]
        exact Iff.rfl
      have hchain : eip155ChainId tx = if signature.v.toNat < 35 then none
          else some ((signature.v.toNat - 35) / 2) := by
        rw [eip155ChainId, hsignature]
        exact if_neg hzero
      have hid : tx.chainId = (signature.v - 35) / 2 := by
        rw [RawTransaction.chainId, hsignature]
        exact if_neg hzero
      have hsigned : SignedWith tx 35 ↔ signature.v.toNat = 35 := by
        rw [signedWith_iff hsignature, ← UInt64.toNat_inj]
        exact and_iff_right hzero
      have hv := signature.v.toNat_lt
      rw [computedV, hchain, hid]
      rcases Nat.lt_trichotomy signature.v.toNat 35 with hlt | heq | hgt
      · rw [if_neg (mt hcompatible.mp hlt.not_gt), if_pos hlt, toNat_withoutChain]
        refine iff_of_true rfl ⟨?_, fun h => hlt.ne (hsigned.mp h)⟩
        rw [hchain, if_pos hlt, standardV]
        omega
      · -- taken for a signature without a chain id
        refine iff_of_false ?_ fun h => h.not_signedWith (hsigned.mpr heq)
        rw [if_neg (mt hcompatible.mp heq.not_gt), if_neg heq.not_lt, heq, toNat_withoutChain]
        show 27 + (parity : Nat) ≠ 35 + 2 * ((35 - 35) / 2) + parity
        omega
      · have hid' : ((signature.v - 35) / 2).toNat = (signature.v.toNat - 35) / 2 := by
          have hexact := sub_div_eq_iff.mpr hgt.le
          omega
        rw [if_pos (hcompatible.mpr hgt), if_neg hgt.not_gt, standardV, ← hid', toNat_withChain]
        constructor
        · intro hfits
          refine ⟨?_, fun h => hgt.ne' (hsigned.mp h)⟩
          rwa [hchain, if_neg hgt.not_gt, ← hid']
        · intro h
          have hfits := h.fits
          rwa [hchain, if_neg hgt.not_gt, ← hid'] at hfits

end

structure LegacyFits (tx : RawTransaction) : Prop extends
    Fits tx.nonce tx.gasLimit [tx.gasPrice] where
  printsExactly : PrintsExactly tx.gasPrice
  chainId : ∀ v, SignedWith tx v → 35 ≤ v.toNat

structure FeeMarketFits (tx : EIP1559Transaction) : Prop extends
    Fits tx.nonce tx.gasLimit [tx.maxPriorityFeePerGas, tx.maxFeePerGas] where
  priorityPrintsExactly : PrintsExactly tx.maxPriorityFeePerGas
  maxPrintsExactly : PrintsExactly tx.maxFeePerGas

section

variable (lib : ParseLib) (txHex : List UInt8) (key : Option lib.PublicKey)

/-- The bytes are shown or refused, and what is shown is what they say. -/
def LegacyExact : Prop :=
  Returns (showLegacyTx lib txHex key)
    ∧ ∀ tx shown, RawTransaction.decodeRaw lib.toRlpLib txHex = .ok tx →
      showLegacyTx lib txHex key = .ok shown → ShowsLegacy tx shown

def FeeMarketExact : Prop :=
  Returns (showFeeMarketTx lib txHex key)
    ∧ ∀ tx shown, EIP1559Transaction.decodeRaw lib.toRlpLib txHex = .ok tx →
      showFeeMarketTx lib txHex key = .ok shown → ShowsFeeMarket tx shown

/-- A transaction is signed or refused, and the signature has the `v` of the standard. -/
def SignsStandard : Prop :=
  Returns (signLegacyTx lib txHex)
    ∧ ∀ tx recId rs, RawTransaction.decodeRaw lib.toRlpLib txHex = .ok tx →
      lib.signMessage (lib.keccak256 txHex) = .ok (recId, rs) →
        ∃ signature, signLegacyTx lib txHex = .ok signature
          ∧ signature.v.toNat = standardV recId (eip155ChainId tx)

variable {lib} {txHex} {key}

theorem toNat_ofNat_nonce {nonce : Nat} (h : nonce < 2 ^ 32) : (UInt32.ofNat nonce).toNat = nonce :=
  UInt32.toNat_ofNat_of_lt' h

theorem chainId_of_signedWith {tx : RawTransaction} {v : UInt64} (h : SignedWith tx v) :
    tx.chainId = (v - 35) / 2 := by
  obtain ⟨signature, hsignature, hzero, rfl⟩ := h
  rw [RawTransaction.chainId, hsignature]
  exact if_neg hzero

theorem showsLegacy_plain {tx : RawTransaction} (h : Fits tx.nonce tx.gasLimit [tx.gasPrice]) :
    ShowsLegacy tx (.plain (.fromLegacy (senderText lib key) (.narrowed tx))) ↔ LegacyFits tx := by
  have hprice := showsPrice_normalizePrice (h.price _ (List.mem_singleton_self _))
  constructor
  · intro hshows
    refine ⟨h, hprice.mp hshows.gasPrice.1, fun v hsigned => ?_⟩
    have hchain := hshows.chainId v hsigned
    rw [← sub_div_eq_iff, ← chainId_of_signedWith hsigned]
    exact hchain
  · intro hfits
    refine ⟨?_, ⟨rfl, rfl⟩, ⟨hprice.mpr hfits.printsExactly, hprice.mpr hfits.printsExactly⟩,
      ⟨showsFee_normalizeValue _ _, showsFee_normalizeValue _ _⟩, fun v hsigned => ?_⟩
    · show Nat.toDigits 10 (UInt32.ofNat tx.nonce).toNat = _
      rw [toNat_ofNat_nonce h.nonce]
    · have hchain := sub_div_eq_iff.mpr (hfits.chainId v hsigned)
      rw [← chainId_of_signedWith hsigned] at hchain
      exact hchain

theorem showsFeeMarket_plain {tx : EIP1559Transaction}
    (h : Fits tx.nonce tx.gasLimit [tx.maxPriorityFeePerGas, tx.maxFeePerGas]) :
    ShowsFeeMarket tx (.plain (.fromEip1559 (senderText lib key) (.narrowed tx)))
      ↔ FeeMarketFits tx := by
  have hpriority := showsPrice_normalizePrice (h.price tx.maxPriorityFeePerGas (by simp))
  have hmax := showsPrice_normalizePrice (h.price tx.maxFeePerGas (by simp))
  constructor
  · intro hshows
    exact ⟨h, hpriority.mp hshows.maxPriorityPrice, hmax.mp hshows.maxFeePrice⟩
  · intro hfits
    refine ⟨?_, ⟨rfl, rfl⟩, hmax.mpr hfits.maxPrintsExactly,
      hpriority.mpr hfits.priorityPrintsExactly,
      ⟨showsFee_normalizeValue _ _, showsFee_normalizeValue _ _⟩, showsFee_normalizeValue _ _,
      showsFee_normalizeValue _ _⟩
    show Nat.toDigits 10 (UInt32.ofNat tx.nonce).toNat = _
    rw [toNat_ofNat_nonce h.nonce]

theorem legacyExact_iff (law : lib.Lawful) : LegacyExact lib txHex key ↔
    ∀ tx, RawTransaction.decodeRaw lib.toRlpLib txHex = .ok tx → LegacyFits tx := by
  constructor
  · rintro ⟨hreturns, hexact⟩ tx hdecode
    have hfits : Fits tx.nonce tx.gasLimit [tx.gasPrice] := by
      rw [showLegacyTx_of_decode hdecode, Outcome.returns_bind] at hreturns
      exact (ParsedLegacyTransaction.valueIff_ofTx tx).returns_iff.mp hreturns.1
    exact (showsLegacy_plain hfits).mp (hexact tx _ hdecode (showLegacyTx_eq law hdecode hfits))
  · intro hall
    constructor
    · cases hdecode : RawTransaction.decodeRaw lib.toRlpLib txHex with
      | ok tx =>
        rw [showLegacyTx_eq law hdecode (hall tx hdecode).toFits]
        exact returns_ok _
      | error e =>
        rw [showLegacyTx, parseLegacyTx, hdecode]
        exact returns_error _
      | halted => exact absurd hdecode (returns_decodeRaw law)
    · intro tx shown hdecode hshown
      have hfits := hall tx hdecode
      rw [showLegacyTx_eq law hdecode hfits.toFits] at hshown
      cases hshown
      exact (showsLegacy_plain hfits.toFits).mpr hfits

theorem feeMarketExact_iff (law : lib.Lawful) : FeeMarketExact lib txHex key ↔
    ∀ tx, EIP1559Transaction.decodeRaw lib.toRlpLib txHex = .ok tx → FeeMarketFits tx := by
  constructor
  · rintro ⟨hreturns, hexact⟩ tx hdecode
    have hfits : Fits tx.nonce tx.gasLimit [tx.maxPriorityFeePerGas, tx.maxFeePerGas] := by
      rw [showFeeMarketTx_of_decode hdecode, Outcome.returns_bind] at hreturns
      exact (ParsedEIP1559Transaction.valueIff_ofTx tx).returns_iff.mp hreturns.1
    exact (showsFeeMarket_plain hfits).mp
      (hexact tx _ hdecode (showFeeMarketTx_eq law hdecode hfits))
  · intro hall
    constructor
    · cases hdecode : EIP1559Transaction.decodeRaw lib.toRlpLib txHex with
      | ok tx =>
        rw [showFeeMarketTx_eq law hdecode (hall tx hdecode).toFits]
        exact returns_ok _
      | error e =>
        rw [showFeeMarketTx, parseFeeMarketTx, hdecode]
        exact returns_error _
      | halted => exact absurd hdecode (returns_decodeRaw_eip1559 law)
    · intro tx shown hdecode hshown
      have hfits := hall tx hdecode
      rw [showFeeMarketTx_eq law hdecode hfits.toFits] at hshown
      cases hshown
      exact (showsFeeMarket_plain hfits.toFits).mpr hfits

theorem signLegacyTx_of_decode {tx : RawTransaction}
    (h : RawTransaction.decodeRaw lib.toRlpLib txHex = .ok tx) : signLegacyTx lib txHex
      = Outcome.mapError .signFailure (lib.signMessage (lib.keccak256 txHex)) >>= fun signed =>
        .ok ⟨computedV tx signed.1, signed.2⟩ := by
  have hmap : Outcome.mapError EthereumError.rlpDecodingError (.ok tx) = .ok tx := rfl
  rw [signLegacyTx, h, hmap, ok_bind]
  unfold computedV
  by_cases hcompatible : isEip155Compatible tx = true
  · simp only [if_pos hcompatible]
    rfl
  · simp only [if_neg hcompatible]
    rfl

theorem signsStandard_iff (law : lib.Lawful) : SignsStandard lib txHex ↔
    ∀ tx recId rs, RawTransaction.decodeRaw lib.toRlpLib txHex = .ok tx →
      lib.signMessage (lib.keccak256 txHex) = .ok (recId, rs) → Signable tx recId := by
  have hsigned : ∀ tx recId rs, RawTransaction.decodeRaw lib.toRlpLib txHex = .ok tx →
      lib.signMessage (lib.keccak256 txHex) = .ok (recId, rs) →
        signLegacyTx lib txHex = .ok ⟨computedV tx recId, rs⟩ := by
    intro tx recId rs hdecode hsign
    rw [signLegacyTx_of_decode hdecode, hsign]
    rfl
  constructor
  · rintro ⟨-, hstandard⟩ tx recId rs hdecode hsign
    obtain ⟨signature, hsignature, hv⟩ := hstandard tx recId rs hdecode hsign
    rw [hsigned tx recId rs hdecode hsign] at hsignature
    cases hsignature
    exact (computedV_eq_iff tx recId).mp hv
  · intro hall
    constructor
    · refine ((returns_decodeRaw law).mapError _).bind fun tx _ => ?_
      refine ((law.returns_signMessage _).mapError _).bind fun signed _ => ?_
      split_ifs <;> exact returns_ok _
    · intro tx recId rs hdecode hsign
      exact ⟨_, hsigned tx recId rs hdecode hsign,
        (computedV_eq_iff tx recId).mpr (hall tx recId rs hdecode hsign)⟩

end

/-- **Transactions are shown exactly, and signed as the standard says, just if their numbers
fit.** -/
theorem exact_and_standard_iff (lib : ParseLib) (law : lib.Lawful) (txHex : List UInt8)
    (key : Option lib.PublicKey) :
    (LegacyExact lib txHex key ↔
        ∀ tx, RawTransaction.decodeRaw lib.toRlpLib txHex = .ok tx → LegacyFits tx)
      ∧ (FeeMarketExact lib txHex key ↔
        ∀ tx, EIP1559Transaction.decodeRaw lib.toRlpLib txHex = .ok tx → FeeMarketFits tx)
      ∧ (SignsStandard lib txHex ↔
        ∀ tx recId rs, RawTransaction.decodeRaw lib.toRlpLib txHex = .ok tx →
          lib.signMessage (lib.keccak256 txHex) = .ok (recId, rs) → Signable tx recId) :=
  ⟨legacyExact_iff law, feeMarketExact_iff law, signsStandard_iff law⟩

def sampleLib : ParseLib where
  toRlpLib := RawTransaction.specLib
  PublicKey := Unit
  generateAddress := fun _ => none
  keccak256 := fun _ => Block.zero 32
  signMessage := fun _ => .ok (1, Block.zero 64)

theorem sampleLib_lawful : sampleLib.Lawful where
  returns_items := fun raw => Bytes.Rlp.returns_decodeList _ raw
  returns_signMessage := fun _ => returns_ok _
  zero_notMem_address := nofun

theorem exact_and_standard_sample :
    LegacyExact sampleLib RawTransaction.sampleRaw none
      ∧ SignsStandard sampleLib RawTransaction.sampleRaw := by
  obtain ⟨hlegacy, -, hsigns⟩ :=
    exact_and_standard_iff sampleLib sampleLib_lawful RawTransaction.sampleRaw none
  constructor
  · refine hlegacy.mpr fun tx htx => ?_
    cases RawTransaction.decodeRaw_sampleRaw.symm.trans htx
    refine ⟨⟨by decide, by decide, by decide⟩, printsExactly_of_lt (by decide), ?_⟩
    rintro v ⟨signature, hsignature, -⟩
    cases hsignature
  · refine hsigns.mpr fun tx recId rs htx hsign => ?_
    cases RawTransaction.decodeRaw_sampleRaw.symm.trans htx
    cases hsign
    refine ⟨by decide, ?_⟩
    rintro ⟨signature, hsignature, -⟩
    cases hsignature

def longNonceRaw : List UInt8 := [0xCB, 0x85, 1, 0, 0, 0, 0, 2, 3, 0x80, 4, 0x80]

theorem not_legacyExact_longNonce : RawTransaction.decodeRaw RawTransaction.specLib longNonceRaw
      = .ok ⟨⟨2 ^ 32, 2, 3, .create, 4, []⟩, none⟩
    ∧ showLegacyTx sampleLib longNonceRaw none = .halted
    ∧ ¬LegacyExact sampleLib longNonceRaw none := by
  have hdecode : RawTransaction.decodeRaw RawTransaction.specLib longNonceRaw
      = .ok ⟨⟨2 ^ 32, 2, 3, .create, 4, []⟩, none⟩ := by decide
  have hhalted : showLegacyTx sampleLib longNonceRaw none = .halted := by
    have hnot : ¬Fits (2 ^ 32) 3 [2] := fun h => (Nat.lt_irrefl _) h.nonce
    rw [@showLegacyTx_of_decode sampleLib longNonceRaw none _ hdecode,
      (ParsedLegacyTransaction.valueIff_ofTx _).halted hnot]
    rfl
  exact ⟨hdecode, hhalted, fun h => h.1 hhalted⟩

end Keystone3.Ethereum.Parsed
