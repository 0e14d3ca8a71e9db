import Keystone3.Bitcoin.ParsedTx

/-!
# When reading a PSBT does not panic

The paths of key origins are the host's, of any length, and three places take an element
of one by its index: the network is read from the second step of the first origin
(`determineNetwork`), the kind of an address from the first step of its key's origin,
and for the purpose 44 from the second one (`addressForKey`).
-/

namespace Keystone3.Bitcoin

open Bytes (Block)
open Logic (BTreeMap Outcome)
open Logic.Outcome (Returns returns_ok returns_error returns_okOr returns_bind returns_map
  returns_index)

/-- Without extended keys in the PSBT, the first origin has a second step. -/
def NetworkPathLong (psbt : Psbt) : Prop :=
  psbt.xpub.firstKeyValue = none →
    ∀ path, psbt.inputs.findSome? firstOriginPath = some path → 1 < path.length

/-- The path of the key that an address is shown for has a first step, and behind 44' a second
one. -/
def InputPathLong (lib : BitcoinLib) (input : Input) : Prop :=
  isTaprootInput lib input = false → input.bip32Derivation.len ≤ 1 →
    ∀ pubkey source, input.bip32Derivation.firstKeyValue = some (pubkey, source) →
      0 < source.path.length ∧ (source.path[0]? = some (.hardened 44) → 1 < source.path.length)

/-- The inputs before `index` are read without an error. -/
def Reached (lib : BitcoinLib) (psbt : Psbt) (context : ParseContext) (network : Network)
    (index : Nat) : Prop :=
  ∀ i < index, ∀ input, psbt.inputs[i]? = some input →
    (parseInput lib psbt input i context network).isOk = true

def PathsLong (lib : BitcoinLib) (psbt : Psbt) (context : Option ParseContext) : Prop :=
  NetworkPathLong psbt ∧
    ∀ network context', determineNetwork lib psbt = .ok network → context = some context' →
      ∀ index input, psbt.inputs[index]? = some input →
        Reached lib psbt context' network index → InputPathLong lib input

section

variable {lib : BitcoinLib} {psbt : Psbt} {context : ParseContext} {network : Network}
  {index : Nat} {input : Input}

theorem keyPathBelow_returns (parents : List Text) (purpose : String) (path : DerivationPath) :
    Returns (keyPathBelow lib parents purpose index path) := by
  unfold keyPathBelow
  dsimp only
  split
  · exact returns_ok _
  · exact returns_error _

theorem getMyKeyPathFrom_returns (bip32Derivation : BTreeMap PublicKey KeySource) (purpose : String)
    (keys : List PublicKey) :
    Returns (getMyKeyPathFrom lib bip32Derivation index purpose context keys) := by
  induction keys with
  | nil => exact returns_ok none
  | cons key keys ih =>
    refine returns_bind.mpr ⟨returns_okOr _ _, fun source _ => ?_⟩
    split
    · exact keyPathBelow_returns _ _ _
    · exact ih

theorem getMyKeyPath_returns (bip32Derivation : BTreeMap PublicKey KeySource) (purpose : String) :
    Returns (getMyKeyPath lib bip32Derivation index purpose context) := by
  have hscan : Returns (getMyKeyPathFrom lib bip32Derivation index purpose context
      bip32Derivation.keys) := getMyKeyPathFrom_returns _ _ _
  unfold getMyKeyPath
  dsimp only
  split
  · split
    · exact returns_ok none
    · exact hscan
  · exact hscan

theorem getMyKeyPathForTaproot_returns
    (origins : BTreeMap XOnlyPublicKey (List TapLeafHash × KeySource)) (purpose : String) :
    Returns (getMyKeyPathForTaproot lib origins index purpose context) := by
  unfold getMyKeyPathForTaproot
  induction origins.keys with
  | nil => exact returns_ok none
  | cons key keys ih =>
    refine returns_bind.mpr ⟨returns_okOr _ _, fun ⟨_, source⟩ _ => ?_⟩
    dsimp only
    split
    · exact keyPathBelow_returns _ _ _
    · exact ih

theorem getMyInputPath_returns : Returns (getMyInputPath lib input index context) := by
  unfold getMyInputPath
  split
  · exact returns_error _
  · split
    · exact getMyKeyPathForTaproot_returns _ _
    · exact getMyKeyPath_returns _ _

theorem getMyOutputPath_returns {output : Output} :
    Returns (getMyOutputPath lib output index context) := by
  refine returns_bind.mpr ⟨getMyKeyPath_returns _ _, fun path _ => ?_⟩
  split
  · exact returns_ok path
  · exact getMyKeyPathForTaproot_returns _ _

theorem address_on_returns (allowed : List Network) (reason : String) (payload : Payload)
    (network : Network) : Returns (Address.on allowed reason payload network) := by
  unfold Address.on
  split
  · exact returns_ok _
  · exact returns_error _

theorem fromScript_returns (script : Script) (network : Network) :
    Returns (Address.fromScript lib script network) := by
  unfold Address.fromScript
  split
  · exact returns_ok _
  · split
    · exact returns_ok _
    · split
      · split
        · exact returns_ok _
        · exact returns_error _
      · exact returns_error _

theorem getMultiSigScriptAndFormat_returns (input : Input) :
    Returns (getMultiSigScriptAndFormat input) := by
  unfold getMultiSigScriptAndFormat
  split
  · exact returns_ok _
  · exact returns_ok _
  · exact returns_ok _
  · exact returns_error _

theorem ofNetwork_returns (network : Network) : Returns (MultiSigNetwork.ofNetwork network) := by
  unfold MultiSigNetwork.ofNetwork
  split
  · exact returns_ok _
  · exact returns_ok _
  · exact returns_error _

theorem inputValue_returns : Returns (inputValue lib psbt input index) := by
  refine returns_bind.mpr ⟨?_, fun _ _ => returns_ok _⟩
  unfold prevTxValue
  split
  · refine returns_bind.mpr ⟨returns_okOr _ _, fun txIn _ => ?_⟩
    split
    · exact returns_error _
    · exact returns_ok _
  · exact returns_ok 0

theorem signedByMe_returns (keys : List PublicKey) : Returns (signedByMe input context keys) := by
  induction keys with
  | nil => exact returns_ok false
  | cons key keys ih =>
    refine returns_bind.mpr ⟨returns_okOr _ _, fun source _ => ?_⟩
    split
    · exact returns_ok true
    · exact ih

theorem inputNeedSign_returns (path : Option KeyPath) :
    Returns (inputNeedSign lib input context path) := by
  unfold inputNeedSign needSignInput
  split
  · split
    · dsimp only
      split
      · exact returns_ok false
      · exact returns_bind.mpr ⟨signedByMe_returns _, fun _ _ => returns_ok _⟩
    · exact returns_ok _
  · exact returns_ok false

theorem parseOutput_returns {output : Output} :
    Returns (parseOutput lib psbt output index context network) := by
  refine returns_bind.mpr ⟨returns_okOr _ _, fun txOut _ => ?_⟩
  exact returns_bind.mpr ⟨getMyOutputPath_returns, fun path _ => returns_ok _⟩

theorem normalize_returns (inputs : List ParsedInput) (outputs : List ParsedOutput)
    (name : String) : Returns (normalize inputs outputs name) := by
  unfold normalize
  dsimp only
  split
  · exact returns_error _
  · exact returns_ok _

theorem addressForKey_returns_iff {pubkey : PublicKey} {path : DerivationPath} :
    Returns (addressForKey lib pubkey path network) ↔
      0 < path.length ∧ (path[0]? = some (.hardened 44) → 1 < path.length) := by
  have hon : ∀ allowed reason payload, Returns (some <$> Address.on allowed reason payload network) :=
    fun allowed reason payload => returns_map.mpr (address_on_returns allowed reason payload network)
  unfold addressForKey
  rw [returns_bind, returns_index]
  refine and_congr_right fun hlen => ?_
  constructor
  · intro h hpurpose
    have hsecond := h _ (Outcome.index_eq_ok.mpr hpurpose)
    exact returns_index.mp (returns_bind.mp hsecond).1
  · intro h step hstep
    have hstep' := Outcome.index_eq_ok.mp hstep
    split
    · -- the coin type is looked at behind 44' only
      refine returns_bind.mpr ⟨returns_index.mpr (h hstep'), fun coin _ => ?_⟩
      split
      · exact hon _ _ _
      · exact hon _ _ _
      · exact returns_ok none
    · exact hon _ _ _
    · exact hon _ _ _
    · exact returns_ok none

theorem inputAddress_returns_iff : Returns (inputAddress lib input network) ↔
    InputPathLong lib input := by
  unfold inputAddress InputPathLong
  cases htaproot : isTaprootInput lib input with
  | true =>
    refine iff_of_true ?_ nofun
    rw [if_pos rfl]
    unfold calculateAddressForTaprootInput
    split
    · exact returns_map.mpr (address_on_returns _ _ _ _)
    · exact returns_ok none
  | false =>
    unfold calculateAddressForInput
    rw [if_neg Bool.false_ne_true]
    by_cases hmany : input.bip32Derivation.len > 1
    · rw [if_pos hmany]
      refine iff_of_true ?_ fun _ h => absurd hmany (Nat.not_lt.mpr h)
      refine returns_bind.mpr ⟨getMultiSigScriptAndFormat_returns input, fun ⟨script, format⟩ _ => ?_⟩
      refine returns_bind.mpr ⟨ofNetwork_returns network, fun network' _ => ?_⟩
      exact returns_map.mpr (fromScript_returns _ _)
    · rw [if_neg hmany]
      -- with one key at most, the path of the first one is indexed
      have hone := Nat.not_lt.mp hmany
      cases hfirst : input.bip32Derivation.firstKeyValue with
      | none => exact iff_of_true (returns_ok none) nofun
      | some first =>
        obtain ⟨pubkey, source⟩ := first
        dsimp only
        rw [addressForKey_returns_iff]
        constructor
        · intro h _ _ pubkey' source' hsame
          cases hsame
          exact h
        · intro h
          exact h rfl hone pubkey source rfl

theorem parseInput_returns_iff : Returns (parseInput lib psbt input index context network) ↔
    InputPathLong lib input := by
  unfold parseInput
  rw [returns_bind, inputAddress_returns_iff]
  refine and_iff_left fun address _ => ?_
  refine returns_bind.mpr ⟨inputValue_returns, fun value _ => ?_⟩
  refine returns_bind.mpr ⟨getMyInputPath_returns, fun path _ => ?_⟩
  exact returns_bind.mpr ⟨inputNeedSign_returns path, fun needSign _ => returns_ok _⟩

theorem determineNetwork_returns_iff : Returns (determineNetwork lib psbt) ↔
    NetworkPathLong psbt := by
  unfold determineNetwork NetworkPathLong
  cases psbt.xpub.firstKeyValue with
  | some first =>
    refine iff_of_true ?_ nofun
    dsimp only
    split
    · exact returns_ok _
    · exact returns_ok _
  | none =>
    dsimp only
    rw [returns_bind]
    refine Iff.trans (and_iff_right (returns_okOr _ _)) ?_
    constructor
    · intro h _ path hpath
      have hindex := h path (Outcome.okOr_eq_ok.mpr hpath)
      exact returns_index.mp (returns_bind.mp hindex).1
    · intro h path hpath
      refine returns_bind.mpr ⟨returns_index.mpr (h rfl path (Outcome.okOr_eq_ok.mp hpath)),
        fun coin _ => ?_⟩
      split
      · exact returns_ok _
      · exact returns_ok _
      · exact returns_ok _
      · exact returns_error _
      · exact returns_error _

end

theorem parseInputs_returns_iff (lib : BitcoinLib) (psbt : Psbt) (context : ParseContext)
    (network : Network) :
    Returns (Outcome.collect (fun (input, i) => parseInput lib psbt input i context network)
        psbt.inputs.zipIdx) ↔
      ∀ index input, psbt.inputs[index]? = some input →
        Reached lib psbt context network index → InputPathLong lib input := by
  -- the inputs are read with their numbers, up to the first that fails
  have hat : ∀ (i : Nat) (a : Input × Nat), psbt.inputs.zipIdx[i]? = some a ↔
      psbt.inputs[i]? = some a.1 ∧ a.2 = i := by
    rintro i ⟨input, n⟩
    rw [List.getElem?_zipIdx, Option.map_eq_some_iff]
    constructor
    · rintro ⟨input', hinput, hpair⟩
      cases hpair
      exact ⟨hinput, Nat.zero_add i⟩
    · rintro ⟨hinput, rfl⟩
      exact ⟨input, hinput, by rw [Nat.zero_add]⟩
  rw [Outcome.returns_collect]
  constructor
  · intro h index input hinput hreached
    have hreturns := h index (input, index) ((hat _ _).mpr ⟨hinput, rfl⟩)
    refine parseInput_returns_iff.mp (hreturns ?_)
    rintro j hj ⟨other, n⟩ hother
    obtain ⟨hother', rfl⟩ := (hat _ _).mp hother
    exact hreached n hj other hother'
  · rintro h i ⟨input, n⟩ hinput hbefore
    obtain ⟨hinput', rfl⟩ := (hat _ _).mp hinput
    refine parseInput_returns_iff.mpr (h n input hinput' fun j hj other hother => ?_)
    exact hbefore j hj (other, j) ((hat _ _).mpr ⟨hother, rfl⟩)

/-- **When parsing returns**: the paths that are indexed on the way are long enough. -/
theorem parse_returns_iff (lib : BitcoinLib) (psbt : Psbt) (context : Option ParseContext) :
    Returns (parse lib psbt context) ↔ PathsLong lib psbt context := by
  unfold parse PathsLong
  rw [returns_bind, determineNetwork_returns_iff]
  refine and_congr_right fun _ => ?_
  constructor
  · intro h network context' hnetwork hcontext
    have hinputs := (returns_bind.mp (h network hnetwork)).2 context'
      (Outcome.okOr_eq_ok.mpr hcontext)
    exact (parseInputs_returns_iff lib psbt context' network).mp (returns_bind.mp hinputs).1
  · intro h network hnetwork
    refine returns_bind.mpr ⟨returns_okOr _ _, fun context' hcontext => ?_⟩
    have hinputs := h network context' hnetwork (Outcome.okOr_eq_ok.mp hcontext)
    refine returns_bind.mpr ⟨(parseInputs_returns_iff lib psbt context' network).mpr hinputs,
      fun inputs _ => ?_⟩
    refine returns_bind.mpr ⟨Returns.collect fun ⟨output, i⟩ _ => parseOutput_returns,
      fun outputs _ => ?_⟩
    split
    · exact normalize_returns _ _ _
    · exact normalize_returns _ _ _

def masterKeyPsbt : Psbt where
  unsignedTx := ⟨2, 0, [⟨⟨Block.zero 32, 0⟩, [], 0, []⟩], []⟩
  xpub := .empty
  unknown := .empty
  inputs := [{
    nonWitnessUtxo := none
    witnessUtxo := none
    partialSigs := .empty
    sighashType := none
    redeemScript := none
    witnessScript := none
    bip32Derivation := .single (Block.fill 33 2) ⟨Block.zero 4, []⟩
    tapKeySig := none
    tapScriptSigs := .empty
    tapKeyOrigins := .empty
    tapInternalKey := none
    tapMerkleRoot := none }]
  outputs := []

/-- The network is looked for in the second step of the path. -/
theorem parse_panics_at_master_key : ¬∀ (lib : BitcoinLib) (psbt : Psbt)
    (context : Option ParseContext), Returns (parse lib psbt context) := by
  intro claim
  exact claim BitcoinLib.sample masterKeyPsbt none rfl

end Keystone3.Bitcoin
