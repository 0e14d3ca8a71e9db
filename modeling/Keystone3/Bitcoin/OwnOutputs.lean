import Keystone3.Bitcoin.ParsedTx

/-!
# The outputs that are left out of the amount sent

An output with a path is not counted as sent: it is shown as the wallet's own. The first
entry with the master fingerprint decides, and of it only the text of its path is
compared with the paths of the accounts; neither the key of the entry nor the script of
the output is looked at.
-/

namespace Keystone3.Bitcoin

open Bytes (Block)
open Logic (BTreeMap)

section

variable (lib : BitcoinLib) (context : ParseContext)

def myOrigin (origins : List KeySource) : Option KeySource :=
  origins.find? fun source => source.fingerprint = context.masterFingerprint

def bip32Origin (bip32Derivation : BTreeMap PublicKey KeySource) :
    Option (List Text × KeySource) :=
  if context.multisigWalletConfig.any fun config => notMyMultisig lib config bip32Derivation then
    none
  else (myOrigin context bip32Derivation.values).map fun source =>
    (parentPaths lib context source.fingerprint, source)

def taprootOrigin (tapKeyOrigins : BTreeMap XOnlyPublicKey (List TapLeafHash × KeySource)) :
    Option (List Text × KeySource) :=
  (myOrigin context (tapKeyOrigins.values.map Prod.snd)).map fun source =>
    (accountPaths lib context, source)

def outputOrigin (output : Output) : Option (List Text × KeySource) :=
  (bip32Origin lib context output.bip32Derivation).or
    (taprootOrigin lib context output.tapKeyOrigins)

def judgeOrigin (purpose : String) (index : Nat) :
    Option (List Text × KeySource) → Result (Option KeyPath)
  | none => .ok none
  | some (parents, source) => keyPathBelow lib parents purpose index source.path

end

theorem myOrigin_mine {context : ParseContext} {source : KeySource} (sources : List KeySource)
    (h : source.fingerprint = context.masterFingerprint) :
    myOrigin context (source :: sources) = some source :=
  List.find?_cons_of_pos (decide_eq_true h)

theorem myOrigin_other {context : ParseContext} {source : KeySource} (sources : List KeySource)
    (h : source.fingerprint ≠ context.masterFingerprint) :
    myOrigin context (source :: sources) = myOrigin context sources :=
  List.find?_cons_of_neg (by simpa using h)

section

variable {lib : BitcoinLib} {context : ParseContext} {index : Nat} {purpose : String}

theorem getMyKeyPathFrom_eq (m : BTreeMap PublicKey KeySource) :
    ∀ es : List (PublicKey × KeySource), (∀ e ∈ es, e ∈ m.entries) →
    getMyKeyPathFrom lib m index purpose context (es.map Prod.fst)
      = judgeOrigin lib purpose index ((myOrigin context (es.map Prod.snd)).map fun source =>
          (parentPaths lib context source.fingerprint, source)) := by
  intro es
  induction es with
  | nil =>
    intro _
    rfl
  | cons e es ih =>
    intro hes
    have hget : m.get e.1 = some e.2 := m.get_of_mem (hes e (.head _))
    rw [List.map_cons, List.map_cons]
    unfold getMyKeyPathFrom
    rw [hget]
    show (if e.2.fingerprint = context.masterFingerprint then _ else _) = _
    by_cases hmine : e.2.fingerprint = context.masterFingerprint
    · rw [if_pos hmine, myOrigin_mine _ hmine]
      rfl
    · rw [if_neg hmine, myOrigin_other _ hmine]
      exact ih fun e' he' => hes e' (List.mem_cons_of_mem e he')

theorem getMyKeyPathForTaprootFrom_eq
    (m : BTreeMap XOnlyPublicKey (List TapLeafHash × KeySource)) :
    ∀ es : List (XOnlyPublicKey × (List TapLeafHash × KeySource)), (∀ e ∈ es, e ∈ m.entries) →
    getMyKeyPathForTaprootFrom lib m index purpose context (es.map Prod.fst)
      = judgeOrigin lib purpose index ((myOrigin context ((es.map Prod.snd).map Prod.snd)).map
          fun source => (accountPaths lib context, source)) := by
  intro es
  induction es with
  | nil =>
    intro _
    rfl
  | cons e es ih =>
    intro hes
    have hget : m.get e.1 = some e.2 := m.get_of_mem (hes e (.head _))
    rw [List.map_cons, List.map_cons, List.map_cons]
    unfold getMyKeyPathForTaprootFrom
    rw [hget]
    show (if e.2.2.fingerprint = context.masterFingerprint then _ else _) = _
    by_cases hmine : e.2.2.fingerprint = context.masterFingerprint
    · rw [if_pos hmine, myOrigin_mine _ hmine]
      rfl
    · rw [if_neg hmine, myOrigin_other _ hmine]
      exact ih fun e' he' => hes e' (List.mem_cons_of_mem e he')

theorem getMyKeyPath_eq (m : BTreeMap PublicKey KeySource) :
    getMyKeyPath lib m index purpose context
      = judgeOrigin lib purpose index (bip32Origin lib context m) := by
  have hscan : getMyKeyPathFrom lib m index purpose context m.keys = judgeOrigin lib purpose index
      ((myOrigin context m.values).map fun source =>
        (parentPaths lib context source.fingerprint, source)) :=
    getMyKeyPathFrom_eq m m.entries fun e he => he
  unfold getMyKeyPath bip32Origin
  cases hconfig : context.multisigWalletConfig with
  | none => exact hscan
  | some config =>
    show (if notMyMultisig lib config m = true then _ else _)
      = judgeOrigin lib purpose index (if notMyMultisig lib config m = true then _ else _)
    by_cases hnot : notMyMultisig lib config m = true
    · rw [if_pos hnot, if_pos hnot]
      rfl
    · rw [if_neg hnot, if_neg hnot]
      exact hscan

theorem keyPathBelow_ne_none (parents : List Text) (path : DerivationPath) :
    keyPathBelow lib parents purpose index path ≠ .ok none := by
  intro h
  unfold keyPathBelow at h
  dsimp only at h
  split at h
  · cases h
  · cases h

/-- **The path of an output** is what the deciding origin makes of it. -/
theorem getMyOutputPath_eq (output : Output) :
    getMyOutputPath lib output index context
      = judgeOrigin lib "output" index (outputOrigin lib context output) := by
  have htaproot : getMyKeyPathForTaproot lib output.tapKeyOrigins index "output" context
      = judgeOrigin lib "output" index (taprootOrigin lib context output.tapKeyOrigins) :=
    getMyKeyPathForTaprootFrom_eq output.tapKeyOrigins output.tapKeyOrigins.entries fun e he => he
  unfold getMyOutputPath outputOrigin
  rw [getMyKeyPath_eq, htaproot]
  cases bip32Origin lib context output.bip32Derivation with
  | none => rfl
  | some origin =>
    show (keyPathBelow lib origin.1 "output" index origin.2.path >>= fun path =>
      if path.isSome = true then _ else _) = keyPathBelow lib origin.1 "output" index origin.2.path
    cases hpath : keyPathBelow lib origin.1 "output" index origin.2.path with
    | ok path =>
      cases path with
      | none => exact absurd hpath (keyPathBelow_ne_none origin.1 origin.2.path)
      | some path => rfl
    | error e => rfl
    | halted => rfl

end

def accountAddress (lib : BitcoinLib) (pk : PublicKey) (network : Network) :
    DerivationPath → Result Address
  | .hardened 44 :: .hardened 60 :: _ => Address.p2wpkh lib pk network
  | .hardened 44 :: _ => Address.p2pkh lib pk network
  | .hardened 49 :: _ => Address.p2shp2wpkh lib pk network
  | .hardened 84 :: _ => Address.p2wpkh lib pk network
  | .hardened 86 :: _ => Address.p2trNoScript lib pk network
  | _ => .error (.addressError "network is not supported")

def cosignerKey (lib : BitcoinLib) (item : MultiSigXPubItem) (change index : UInt32) :
    Except String PublicKey := do
  let xpub ← lib.convertVersion item.xpub
  lib.derivePublicKey xpub ("m/".toList ++ lib.pathText [.normal change, .normal index])

def walletScript (lib : BitcoinLib) (config : MultiSigWalletConfig) (format : MultiSigFormat)
    (keys : List PublicKey) : Script :=
  multiScript lib (lib.newMultisig config.threshold
    (keys.insertionSort fun a b => a.bytes ≤ b.bytes)) format

/-- The scripts that are the wallet's own, each with the path it is derived at, as it is
shown. -/
inductive Own (lib : BitcoinLib) (context : ParseContext) : Text → Script → Prop where
  | account {account below : DerivationPath} {xpub : Xpub} {key : PublicKey} {network : Network}
      {address : Address}
      (known : (account, xpub) ∈ context.extendedPublicKeys.entries)
      (derived : lib.derivePublicKey (lib.xpubText xpub) ("m/".toList ++ lib.pathText below)
        = .ok key)
      (paid : accountAddress lib key network (account ++ below) = .ok address) :
      Own lib context (lib.pathText (account ++ below)).toUppercase (address.scriptPubkey lib)
  | multisig {config : MultiSigWalletConfig} {account : DerivationPath} {change index : UInt32}
      {keys : List PublicKey} {format : MultiSigFormat}
      (wallet : context.multisigWalletConfig = some config)
      (known : lib.pathText account ∈ cosignerPaths lib config context.masterFingerprint)
      (derived : List.Forall₂ (fun item key => cosignerKey lib item change index = .ok key)
        config.xpubItems keys)
      (formatted : MultiSigFormat.ofText config.format = .ok format) :
      Own lib context (lib.pathText (account ++ [.normal change, .normal index])).toUppercase
        (walletScript lib config format keys)

section

variable (lib : BitcoinLib) (context : ParseContext) (psbt : Psbt)

/-- Every output that is left out of the amount sent pays the wallet, at the path it is
shown with. -/
def HiddenOwn (network : Network) : Prop :=
  ∀ (index : Nat) (output : Output) (txOut : TxOut) (parsed : ParsedOutput),
    psbt.outputs[index]? = some output →
    psbt.unsignedTx.output[index]? = some txOut →
    parseOutput lib psbt output index context network = .ok parsed → parsed.counted = false →
    ∃ path, parsed.path = some path ∧ Own lib context path txOut.scriptPubkey

/-- The host tells the truth in the origins that decide: where the path of one is below an
account, the output pays the wallet at this path. -/
def OriginsTrue : Prop :=
  ∀ (index : Nat) (output : Output) (txOut : TxOut) (parents : List Text) (source : KeySource),
    psbt.outputs[index]? = some output →
    psbt.unsignedTx.output[index]? = some txOut →
    outputOrigin lib context output = some (parents, source) →
    (∃ parent ∈ parents, (lib.pathText source.path).startsWith parent = true) →
    lib.pathText source.path ≠ [] →
    Own lib context (lib.pathText source.path).toUppercase txOut.scriptPubkey

end

section

variable {lib : BitcoinLib} {context : ParseContext} {psbt : Psbt} {network : Network}
  {index : Nat} {purpose : String}

theorem keyPathBelow_eq_ok {parents : List Text} {path : DerivationPath} {shown : KeyPath}
    (h : keyPathBelow lib parents purpose index path = .ok (some shown)) :
    (∃ parent ∈ parents, (lib.pathText path).startsWith parent = true)
      ∧ shown.1 = (lib.pathText path).toUppercase := by
  unfold keyPathBelow at h
  dsimp only at h
  split at h
  · rename_i parent hfind
    cases h
    exact ⟨⟨parent, List.mem_of_find?_eq_some hfind, List.find?_some hfind⟩, rfl⟩
  · cases h

theorem keyPathBelow_of_startsWith {parents : List Text} {path : DerivationPath}
    (h : ∃ parent ∈ parents, (lib.pathText path).startsWith parent = true) :
    ∃ external, keyPathBelow lib parents purpose index path
      = .ok (some ((lib.pathText path).toUppercase, external)) := by
  obtain ⟨parent, hmem, hprefix⟩ := h
  cases hfind : parents.find? (lib.pathText path).startsWith with
  | none => exact absurd hprefix (List.find?_eq_none.mp hfind parent hmem)
  | some first =>
    refine ⟨judgeExternalKey (lib.pathText path) first, ?_⟩
    unfold keyPathBelow
    dsimp only
    rw [hfind]

theorem counted_eq_false {parsed : ParsedOutput} (h : parsed.counted = false) :
    ∃ path, parsed.path = some path ∧ path ≠ [] := by
  unfold ParsedOutput.counted at h
  split at h
  · cases h
  · rename_i path hpath
    refine ⟨path, hpath, ?_⟩
    intro hempty
    rw [hempty] at h
    cases h

theorem toUppercase_eq_nil {s : Text} : s.toUppercase = [] ↔ s = [] := List.map_eq_nil_iff

theorem hiddenOwn_of_originsTrue (htrue : OriginsTrue lib context psbt) :
    HiddenOwn lib context psbt network := by
  intro index output txOut parsed houtput htxOut hparsed hhidden
  obtain ⟨txOut', path, htxOut', hpath, rfl⟩ := parseOutput_eq_ok.mp hparsed
  cases htxOut.symm.trans htxOut'
  obtain ⟨shown, hshown, hne⟩ := counted_eq_false hhidden
  -- a path is shown, so an origin has given it
  rw [getMyOutputPath_eq] at hpath
  cases horigin : outputOrigin lib context output with
  | none =>
    rw [horigin] at hpath
    cases hpath
    cases hshown
  | some origin =>
    rw [horigin] at hpath
    cases path with
    | none => cases hshown
    | some keyPath =>
      obtain ⟨hbelow, htext⟩ := keyPathBelow_eq_ok hpath
      cases hshown
      refine ⟨keyPath.1, rfl, ?_⟩
      rw [htext]
      rw [htext, ne_eq, toUppercase_eq_nil] at hne
      exact htrue index output txOut origin.1 origin.2 houtput htxOut horigin hbelow hne

end

/-- **The outputs left out of the amount sent** all pay the wallet if and only if the host
tells the truth in the origins that decide. -/
theorem hidden_outputs_own (lib : BitcoinLib) (context : ParseContext) (psbt : Psbt)
    (network : Network) :
    HiddenOwn lib context psbt network ↔ OriginsTrue lib context psbt := by
  constructor
  · intro hown index output txOut parents source houtput htxOut horigin hbelow hne
    obtain ⟨external, hpath⟩ := keyPathBelow_of_startsWith hbelow
    have hmine : getMyOutputPath lib output index context
        = .ok (some ((lib.pathText source.path).toUppercase, external)) := by
      rw [getMyOutputPath_eq, horigin]
      exact hpath
    have hparsed : parseOutput lib psbt output index context network
        = .ok ⟨calculateAddressForOutput lib txOut network, txOut.value,
            some (lib.pathText source.path).toUppercase, external⟩ :=
      parseOutput_eq_ok.mpr ⟨txOut, _, htxOut, hmine, rfl⟩
    have hhidden : (lib.pathText source.path).toUppercase.isEmpty = false := by
      rw [Bool.eq_false_iff, ne_eq, List.isEmpty_iff, toUppercase_eq_nil]
      exact hne
    obtain ⟨path, hshown, hpays⟩ := hown index output txOut _ houtput htxOut hparsed hhidden
    cases hshown
    exact hpays
  · intro htrue
    exact hiddenOwn_of_originsTrue htrue

theorem accountAddress_payload {lib : BitcoinLib} {pk : PublicKey} {network : Network}
    {path : DerivationPath} {address : Address}
    (h : accountAddress lib pk network path = .ok address) :
    address.payload = .p2pkh (lib.pubkeyHash pk).bytes ∨
      address.payload = .segwit 0 (lib.pubkeyHash pk).bytes ∨
      (∃ scriptHash, address.payload = .p2sh scriptHash) ∨
      ∃ program, address.payload = .segwit 1 program := by
  unfold accountAddress at h
  split at h
  · exact .inr (.inl (Address.on_eq_ok h))
  · exact .inl (Address.on_eq_ok h)
  · exact .inr (.inr (.inl ⟨_, Address.on_eq_ok h⟩))
  · exact .inr (.inl (Address.on_eq_ok h))
  · exact .inr (.inr (.inr ⟨_, Address.on_eq_ok h⟩))
  · cases h

def sampleFingerprint : Fingerprint := Block.ofBytes 4 [0x73, 0xC5, 0xDA, 0x0A]

def sampleAccount (purpose : UInt32) : DerivationPath :=
  [.hardened purpose, .hardened 0, .hardened 0]

def sampleContext (purpose : UInt32) : ParseContext where
  masterFingerprint := sampleFingerprint
  extendedPublicKeys := .single (sampleAccount purpose) ⟨.main, [1]⟩
  verifyCode := none
  multisigWalletConfig := none

def sampleOrigin (purpose : UInt32) : BTreeMap PublicKey KeySource :=
  .single (Block.zero 33) ⟨sampleFingerprint, sampleAccount purpose ++ [.normal 0, .normal 5]⟩

def sampleInput (purpose : UInt32) (prevTx : Option Transaction) (utxo : TxOut) : Input where
  nonWitnessUtxo := prevTx
  witnessUtxo := some utxo
  partialSigs := .empty
  sighashType := none
  redeemScript := none
  witnessScript := none
  bip32Derivation := sampleOrigin purpose
  tapKeySig := none
  tapScriptSigs := .empty
  tapKeyOrigins := .empty
  tapInternalKey := none
  tapMerkleRoot := none

def foreignScript : Script := [0, 20] ++ List.replicate 20 0xEE

def foreignPsbt : Psbt where
  unsignedTx := ⟨2, 0, [⟨⟨Block.zero 32, 0⟩, [], 0, []⟩], [⟨900, foreignScript⟩]⟩
  xpub := .empty
  unknown := .empty
  inputs := [sampleInput 84 none ⟨1000, [0, 20] ++ List.replicate 20 7⟩]
  outputs := [⟨sampleOrigin 84, .empty⟩]

theorem not_own_foreignScript {path : Text} :
    ¬Own BitcoinLib.sample (sampleContext 84) path foreignScript := by
  intro hown
  generalize hscript : foreignScript = script at hown
  cases hown with
  | account known derived paid =>
    obtain ⟨rfl, rfl⟩ := Prod.mk.inj (List.mem_singleton.mp known)
    cases derived
    unfold Address.scriptPubkey at hscript
    rcases accountAddress_payload paid with h | h | ⟨_, h⟩ | ⟨_, h⟩
    · rw [h] at hscript
      cases hscript
    · rw [h] at hscript
      -- the hash begins with the text of the extended key
      have hbyte : some (0xEE : UInt8) = some 0x30 := congrArg (fun s : Script => s[2]?) hscript
      cases hbyte
    · rw [h] at hscript
      cases hscript
    · rw [h] at hscript
      cases hscript
  | multisig wallet known derived formatted => cases wallet

/-- The entry alone makes the output the wallet's: what is paid to somebody else is left out
of the amount sent, in a PSBT that passes the checks. -/
theorem foreign_output_hidden : ¬∀ (lib : BitcoinLib) (context : ParseContext) (psbt : Psbt)
    (network : Network), check lib psbt context = .ok () → HiddenOwn lib context psbt network := by
  intro claim
  have hcheck : check BitcoinLib.sample foreignPsbt (sampleContext 84) = .ok () := by
    decide
  have hpath : getMyOutputPath BitcoinLib.sample ⟨sampleOrigin 84, .empty⟩ 0 (sampleContext 84)
      = .ok (some ("84'/0'/0'/0/5".toList, true)) := by
    decide
  obtain ⟨path, -, hown⟩ := claim BitcoinLib.sample (sampleContext 84) foreignPsbt .bitcoin hcheck
    0 ⟨sampleOrigin 84, .empty⟩ ⟨900, foreignScript⟩ _ rfl rfl
    (parseOutput_eq_ok.mpr ⟨⟨900, foreignScript⟩, _, rfl, hpath, rfl⟩) rfl
  exact not_own_foreignScript hown

end Keystone3.Bitcoin
