import Keystone3.Bytes.Utf8
import Keystone3.Zcash.Pczt

/-!
# Showing a partially created Zcash transaction

An output is shown as change, and left out of the amount that is transferred, by
the fingerprint next to a key, or because a key of the account opens what is
encrypted for the sender. `changeIsOwn_iff` says for which transactions that pass
the checks this is change indeed.
-/

namespace Keystone3.Zcash

open Bitcoin (DerivationPath PublicKey)
open Bytes (Block hexText)
open Keys (SecpLib Text)
open Logic (BTreeMap Outcome)
open Logic.Outcome (bind_eq_ok collect collect_eq_ok okOr okOr_eq_ok)

structure ParsedFrom where
  address : Option Text
  value : Text
  amount : UInt64
  isMine : Bool

structure ParsedTo where
  address : Text
  value : Text
  amount : UInt64
  isChange : Bool
  isDummy : Bool
  memo : Option Text

/-- `ParsedTransparent` and `ParsedOrchard`. -/
structure ParsedPart where
  sources : List ParsedFrom
  targets : List ParsedTo

structure ParsedPczt where
  transparent : Option ParsedPart
  orchard : Option ParsedPart
  totalTransferValue : Text
  feeValue : Text
  hasSapling : Bool

section

variable {Xpub : Type} (lib : ZcashLib Xpub) (seedFingerprint : Block 32)
  (ufvk : UnifiedFullViewingKey Xpub)

def trimEnd (c : Char) (text : Text) : Text := (text.reverse.dropWhile fun d => d = c).reverse

def formatZecValue (value : UInt64) : Text :=
  trimEnd '.' (trimEnd '0' (lib.zecText value)) ++ [' ', 'Z', 'E', 'C']

/-- A memo that is no text, although its first byte may begin one, is a panic. -/
def decodeMemo (memo : Block 512) : Result (Option Text) :=
  let first := memo.bytes.headD 0
  if first ≤ 0xf4 then do
    let text ← Outcome.unwrap (Bytes.ofUtf8 (memo.bytes.reverse.dropWhile fun b => b = 0).reverse)
    pure (some text)
  else if first = 0xf6 ∧ memo.bytes.tail.all (fun b => b = 0) = true then pure none
  else pure (some (hexText memo.bytes))

def isMyKey (hash : Block 20) (map : BTreeMap PublicKey Bip32Derivation) : Bool :=
  match keyOfHash lib hash map with
  | some pubkey =>
    match map.get pubkey with
    | some derivation => decide (seedFingerprint = derivation.seedFingerprint)
    | none => false
  | none => false

def parseTransparentInput (input : TransparentInput) : Result ParsedFrom :=
  match lib.address input.scriptPubkey with
  | some (.publicKeyHash hash) =>
    pure ⟨some (lib.encodeP2pkh hash), formatZecValue lib input.value, input.value,
      isMyKey lib seedFingerprint hash input.bip32Derivation⟩
  | _ => .error (.invalidPczt "transparent input script pubkey mismatch")

/-- Of the keys of a script hash the first is looked at. -/
def parseTransparentOutput (output : TransparentOutput) : Result ParsedTo :=
  match lib.address output.scriptPubkey with
  | some (.publicKeyHash hash) => do
    let address ← okOr (.invalidPczt "missing user address for transparent output")
      output.userAddress
    pure ⟨address, formatZecValue lib output.value, output.value,
      isMyKey lib seedFingerprint hash output.bip32Derivation, false, none⟩
  | some (.scriptHash _) => do
    let address ← okOr (.invalidPczt "missing user address for transparent output")
      output.userAddress
    let isChange := output.bip32Derivation.firstKeyValue.any fun entry =>
      decide (seedFingerprint = entry.2.seedFingerprint)
    pure ⟨address, formatZecValue lib output.value, output.value, isChange, false, none⟩
  | none => .error (.invalidPczt "transparent output script pubkey mismatch")

def ParsedPart.nonempty (part : ParsedPart) : Option ParsedPart :=
  if part.sources.isEmpty && part.targets.isEmpty then none else some part

def parseTransparent (bundle : TransparentBundle) : Result (Option ParsedPart) := do
  let sources ← collect (parseTransparentInput lib seedFingerprint) bundle.inputs
  let targets ← collect (parseTransparentOutput lib seedFingerprint) bundle.outputs
  pure (ParsedPart.nonempty ⟨sources, targets⟩)

def noteOf (action : Action) : Result Note := do
  let recipient ← okOr (.invalidPczt "Missing recipient field for Orchard action")
    action.output.recipient
  let value ← okOr (.invalidPczt "Missing value field for Orchard action")
    action.output.value
  if lib.isRho action.spend.nullifier = false then
    .error (.invalidPczt "Missing rho field for Orchard action")
  else do
    let rseed ← okOr (.invalidPczt "Missing rseed field for Orchard action")
      action.output.rseed
    let note : Note := { recipient, value, rho := action.spend.nullifier, rseed }
    if lib.isNote note = false then .error (.invalidPczt "Orchard action contains invalid note")
    else pure note

def decodeOutputEncCiphertext (action : Action) :
    Option OutgoingViewingKey → Result (Option (Note × OrchardAddress × Block 512))
  | some ovk => pure (lib.tryOutputRecoveryWithOvk action ovk)
  | none => do
    let note ← noteOf lib action
    pure (lib.tryOutputRecoveryWithPkdEsk action note)

def checkReceiver (output : OrchardOutput) (address : OrchardAddress) : Result Unit :=
  match output.userAddress with
  | none => pure ()
  | some userAddress => do
    let found ← Outcome.unwrap (lib.matchesReceiver userAddress address)
    if found = false then
      .error (.invalidPczt "user address is not match with address in decoded note")
    else pure ()

def internalAddress : Text :=
  ['<', 'i', 'n', 't', 'e', 'r', 'n', 'a', 'l', '-', 'a', 'd', 'd', 'r', 'e', 's', 's', '>']

def dummyOutput : Text := ['D', 'u', 'm', 'm', 'y', ' ', 'o', 'u', 't', 'p', 'u', 't']

/-- `decode_output`, with one of the keys. -/
def decodeOutput (action : Action) (value : UInt64) (vk : Option OutgoingViewingKey)
    (isInternal : Bool) : Result (Option ParsedTo) := do
  let decoded ← decodeOutputEncCiphertext lib action vk
  match decoded with
  | some (note, address, memo) => do
    let memo ← decodeMemo memo
    let recipient ← okOr (.invalidPczt "recipient is not present") action.output.recipient
    if recipient ≠ address then
      .error (.invalidPczt "recipient is not match with address in decoded note")
    else do
      checkReceiver lib action.output address
      let isDummy := vk.isNone && action.output.userAddress.isNone && decide (value = 0)
      let shown := if isInternal = true then internalAddress
        else action.output.userAddress.getD (lib.encodeUnified address)
      pure (some ⟨shown, formatZecValue lib note.value, note.value, isInternal, isDummy, memo⟩)
  | none =>
    if vk.isNone = true ∧ action.output.value.any (fun v => v != 0) = true then
      .error (.invalidPczt "enc_ciphertext field for Orchard action is undecryptable")
    else pure none

def firstDecoded (action : Action) (value : UInt64) :
    List (Option OutgoingViewingKey × Bool) → Result (Option ParsedTo)
  | [] => pure none
  | key :: keys => do
    let output ← decodeOutput lib action value key.1 key.2
    match output with
    | some output => pure (some output)
    | none => firstDecoded action value keys

def decodingKeys (fvk : FullViewingKey) : List (Option OutgoingViewingKey × Bool) :=
  [(some (lib.toOvk fvk .external), false), (some (lib.toOvk fvk .internal), true)]
    ++ (ufvk.transparent.map fun k => (some (lib.internalOvk k), true)).toList ++ [(none, false)]

def parseOrchardOutput (action : Action) : Result ParsedTo := do
  let fvk ← okOr (.invalidDataError "orchard is not present in ufvk") ufvk.orchard
  let value ← okOr (.invalidPczt "value is not present") action.output.value
  let parsed ← firstDecoded lib action value (decodingKeys lib ufvk fvk)
  match parsed with
  | some parsed => pure parsed
  | none =>
    match action.output.userAddress with
    | some address => pure ⟨address, formatZecValue lib value, value, false, false, none⟩
    | none =>
      if value = 0 then pure ⟨dummyOutput, formatZecValue lib value, value, false, true, none⟩
      else .error (.invalidPczt "missing user address for Orchard output")

/-- `parse_orchard_spend`, for a spend with a value. -/
def parseOrchardSpend (spend : OrchardSpend) (value : UInt64) : ParsedFrom :=
  ⟨none, formatZecValue lib value, value,
    spend.zip32Derivation.any fun derivation =>
      decide (seedFingerprint = derivation.seedFingerprint)⟩

/-- One action of `parse_orchard`. A spend or an output that is a dummy is not shown. -/
def parseAction (action : Action) : Result (Option ParsedFrom × ParsedTo) := do
  let source := match action.spend.value with
    | some value =>
      if value = 0 then none else some (parseOrchardSpend lib seedFingerprint action.spend value)
    | none => none
  let target ← parseOrchardOutput lib ufvk action
  pure (source, target)

def parseOrchard (bundle : OrchardBundle) : Result (Option ParsedPart) := do
  let parsed ← collect (parseAction lib seedFingerprint ufvk) bundle.actions
  pure (ParsedPart.nonempty ⟨parsed.filterMap Prod.fst,
    (parsed.map Prod.snd).filter fun target => !target.isDummy⟩)

def sum (amounts : List UInt64) : UInt64 := amounts.foldl (· + ·) 0

def ParsedPart.totalInput (part : ParsedPart) : UInt64 := sum (part.sources.map ParsedFrom.amount)

def ParsedPart.totalOutput (part : ParsedPart) : UInt64 := sum (part.targets.map ParsedTo.amount)

def ParsedPart.totalChange (part : ParsedPart) : UInt64 :=
  sum ((part.targets.filter ParsedTo.isChange).map ParsedTo.amount)

def total (f : ParsedPart → UInt64) (parts : List (Option ParsedPart)) : UInt64 :=
  sum (parts.filterMap fun part => part.map f)

def saturatingAdd (a b : UInt64) : UInt64 :=
  if a.toNat + b.toNat < 2 ^ 64 then a + b else UInt64.ofNat (2 ^ 64 - 1)

def maxMoney : Int := 21000000 * 100000000

def parsePczt (pczt : Pczt) : Result ParsedPczt := do
  let orchardBundle ← part pczt.orchard
  let orchard ← Outcome.mapError .verifier (parseOrchard lib seedFingerprint ufvk orchardBundle)
  let transparentBundle ← part pczt.transparent
  let transparent ← Outcome.mapError .verifier
    (parseTransparent lib seedFingerprint transparentBundle)
  let parts := [orchard, transparent]
  let valueSum := pczt.sapling.valueSum
  if ¬(-maxMoney ≤ valueSum ∧ valueSum ≤ maxMoney) then
    .error (.invalidPczt "sapling value_sum is invalid")
  else do
    let totalInput := total ParsedPart.totalInput parts
    let totalOutput := total ParsedPart.totalOutput parts
    let amount := UInt64.ofNat valueSum.natAbs
    let totalOutput := if valueSum < 0 then saturatingAdd totalOutput amount else totalOutput
    let totalInput := if valueSum < 0 then totalInput else saturatingAdd totalInput amount
    pure {
      transparent
      orchard
      totalTransferValue := formatZecValue lib (totalOutput - total ParsedPart.totalChange parts)
      feeValue := formatZecValue lib (totalInput - totalOutput)
      hasSapling := pczt.sapling.hasSpends || pczt.sapling.hasOutputs }

end

structure Receivers where
  /-- Is the hash that of a script which a signature with the key satisfies? -/
  opensScript : PublicKey → Block 20 → Prop
  /-- Is the address one of those of the key? -/
  hasAddress : FullViewingKey → OrchardAddress → Prop

section

variable {Xpub : Type} (lib : ZcashLib Xpub) (receivers : Receivers) (seedFingerprint : Block 32)
  (accountIndex : UInt32) (ufvk : UnifiedFullViewingKey Xpub)

def TransparentOutput.IsOwn (output : TransparentOutput) : Prop :=
  ∃ xpub path pubkey, ufvk.transparent = some xpub
    ∧ lib.derivePubkeyAtBip32Path xpub accountIndex path = some pubkey
    ∧ match lib.address output.scriptPubkey with
      | some (.publicKeyHash hash) => hash = lib.hash160 pubkey
      | some (.scriptHash hash) => receivers.opensScript pubkey hash
      | none => False

def Action.IsOwn (action : Action) : Prop :=
  ∃ fvk recipient, ufvk.orchard = some fvk ∧ action.output.recipient = some recipient
    ∧ receivers.hasAddress fvk recipient

def targetsOf (part : Option ParsedPart) : List ParsedTo := (part.map ParsedPart.targets).getD []

def ChangeIsOwn (pczt : Pczt) (parsed : ParsedPczt) : Prop :=
  (∃ bundle, pczt.transparent = some bundle
    ∧ List.Forall₂ (fun output target => target.isChange = true →
        output.IsOwn lib receivers accountIndex ufvk) bundle.outputs (targetsOf parsed.transparent))
  ∧ ∃ bundle targets, pczt.orchard = some bundle
    ∧ List.Forall₂ (fun action target => parseOrchardOutput lib ufvk action = .ok target
        ∧ (target.isChange = true → action.IsOwn receivers ufvk)) bundle.actions targets
    ∧ targetsOf parsed.orchard = targets.filter fun target => !target.isDummy

/-- The first key of a script hash has the fingerprint of the seed. -/
def TransparentOutput.ClaimsScript (output : TransparentOutput) : Prop :=
  (∃ hash, lib.address output.scriptPubkey = some (.scriptHash hash))
    ∧ ∃ entry, output.bip32Derivation.firstKeyValue = some entry
      ∧ seedFingerprint = entry.2.seedFingerprint

/-- What is encrypted for the sender is opened by a key for change and not by the external one. -/
def Action.OpensInternally (action : Action) : Prop :=
  ∃ fvk, ufvk.orchard = some fvk
    ∧ lib.tryOutputRecoveryWithOvk action (lib.toOvk fvk .external) = none
    ∧ ((lib.tryOutputRecoveryWithOvk action (lib.toOvk fvk .internal)).isSome = true
      ∨ ∃ xpub, ufvk.transparent = some xpub
        ∧ (lib.tryOutputRecoveryWithOvk action (lib.internalOvk xpub)).isSome = true)

/-- Script hashes with the fingerprint of the seed, and notes that a key for change opens, are the
account's own. -/
def OwnWhereUnchecked (pczt : Pczt) : Prop :=
  (∀ bundle, pczt.transparent = some bundle → ∀ output ∈ bundle.outputs,
    output.ClaimsScript lib seedFingerprint → output.IsOwn lib receivers accountIndex ufvk)
  ∧ ∀ bundle, pczt.orchard = some bundle → ∀ action ∈ bundle.actions,
    action.OpensInternally lib ufvk → action.IsOwn receivers ufvk

end

section

variable {Xpub : Type} {lib : ZcashLib Xpub} {receivers : Receivers} {seedFingerprint : Block 32}
  {accountIndex : UInt32} {ufvk : UnifiedFullViewingKey Xpub}

theorem getD_nonempty (part : ParsedPart) {α : Type} {f : ParsedPart → List α}
    (hf : part.sources = [] → part.targets = [] → f part = []) :
    (part.nonempty.map f).getD [] = f part := by
  unfold ParsedPart.nonempty
  split
  · rename_i hempty
    obtain ⟨hsources, htargets⟩ := Bool.and_eq_true_iff.mp hempty
    exact (hf (List.isEmpty_iff.mp hsources) (List.isEmpty_iff.mp htargets)).symm
  · rfl

theorem targetsOf_nonempty (part : ParsedPart) : targetsOf part.nonempty = part.targets :=
  getD_nonempty part fun _ htargets => htargets

variable {action : Action} {result : Option ParsedTo}

theorem decodeOutput_key {value : UInt64} {ovk : OutgoingViewingKey}
    {isInternal : Bool}
    (h : decodeOutput lib action value (some ovk) isInternal = .ok result) :
    result.isSome = (lib.tryOutputRecoveryWithOvk action ovk).isSome
      ∧ ∀ target, result = some target → target.isChange = isInternal := by
  unfold decodeOutput at h
  obtain ⟨decoded, hdecoded, h⟩ := bind_eq_ok.mp h
  have hdecoded : lib.tryOutputRecoveryWithOvk action ovk = decoded := Outcome.ok.inj hdecoded
  rw [hdecoded]
  cases decoded with
  | none =>
    dsimp only at h
    rw [if_neg (by simp)] at h
    cases h
    exact ⟨rfl, nofun⟩
  | some opened =>
    obtain ⟨note, address, memo⟩ := opened
    obtain ⟨text, -, h⟩ := bind_eq_ok.mp h
    obtain ⟨recipient, -, h⟩ := bind_eq_ok.mp h
    split at h
    · cases h
    · obtain ⟨_, -, h⟩ := bind_eq_ok.mp h
      cases h
      refine ⟨rfl, ?_⟩
      rintro target ⟨⟩
      rfl

theorem decodeOutput_direct {value : UInt64} {isInternal : Bool}
    {target : ParsedTo} (h : decodeOutput lib action value none isInternal = .ok (some target)) :
    target.isChange = isInternal := by
  unfold decodeOutput at h
  obtain ⟨decoded, -, h⟩ := bind_eq_ok.mp h
  cases decoded with
  | none =>
    dsimp only at h
    split at h
    · cases h
    · cases h
  | some opened =>
    obtain ⟨note, address, memo⟩ := opened
    obtain ⟨text, -, h⟩ := bind_eq_ok.mp h
    obtain ⟨recipient, -, h⟩ := bind_eq_ok.mp h
    split at h
    · cases h
    · obtain ⟨_, -, h⟩ := bind_eq_ok.mp h
      cases h
      rfl

theorem firstDecoded_cons {value : UInt64}
    {key : Option OutgoingViewingKey × Bool} {keys : List (Option OutgoingViewingKey × Bool)} (h : firstDecoded lib action value (key :: keys) = .ok result) :
    (∃ target, decodeOutput lib action value key.1 key.2 = .ok (some target)
        ∧ result = some target)
      ∨ (decodeOutput lib action value key.1 key.2 = .ok none
        ∧ firstDecoded lib action value keys = .ok result) := by
  rw [firstDecoded] at h
  obtain ⟨output, houtput, h⟩ := bind_eq_ok.mp h
  cases output with
  | some target =>
    cases h
    exact .inl ⟨target, houtput, rfl⟩
  | none => exact .inr ⟨houtput, h⟩

theorem firstDecoded_direct {value : UInt64}
    (h : firstDecoded lib action value [(none, false)] = .ok result) :
    ∀ target, result = some target → target.isChange = false := by
  rintro target rfl
  rcases firstDecoded_cons h with ⟨target', hdecoded, heq⟩ | ⟨-, hnone⟩
  · cases heq
    exact decodeOutput_direct hdecoded
  · cases hnone

theorem firstDecoded_internal {value : UInt64} {ovks : List OutgoingViewingKey} (h : firstDecoded lib action value
      (ovks.map (fun ovk => (some ovk, true)) ++ [(none, false)]) = .ok result) :
    (∃ target, result = some target ∧ target.isChange = true)
      ↔ ∃ ovk ∈ ovks, (lib.tryOutputRecoveryWithOvk action ovk).isSome = true := by
  induction ovks with
  | nil =>
    constructor
    · rintro ⟨target, htarget, hchange⟩
      rw [firstDecoded_direct h target htarget] at hchange
      cases hchange
    · rintro ⟨ovk, hovk, -⟩
      cases hovk
  | cons ovk ovks ih =>
    rw [List.map_cons, List.cons_append] at h
    rcases firstDecoded_cons h with ⟨target, hdecoded, rfl⟩ | ⟨hnone, hrest⟩
    · obtain ⟨hopens, hmark⟩ := decodeOutput_key hdecoded
      constructor
      · intro _
        exact ⟨ovk, .head _, hopens.symm⟩
      · intro _
        exact ⟨target, rfl, hmark target rfl⟩
    · have hcloses := (decodeOutput_key hnone).1
      rw [ih hrest]
      constructor
      · rintro ⟨other, hother, hopens⟩
        exact ⟨other, List.mem_cons_of_mem ovk hother, hopens⟩
      · rintro ⟨other, hother, hopens⟩
        rcases List.mem_cons.mp hother with rfl | hother
        · rw [← hcloses] at hopens
          cases hopens
        · exact ⟨other, hother, hopens⟩

theorem isChange_iff {target : ParsedTo}
    (h : parseOrchardOutput lib ufvk action = .ok target) :
    target.isChange = true ↔ action.OpensInternally lib ufvk := by
  unfold parseOrchardOutput at h
  obtain ⟨fvk, hfvk, h⟩ := bind_eq_ok.mp h
  obtain ⟨value, -, h⟩ := bind_eq_ok.mp h
  obtain ⟨parsed, hparsed, h⟩ := bind_eq_ok.mp h
  have hfvk := okOr_eq_ok.mp hfvk
  have hmark : target.isChange = true ↔ ∃ t, parsed = some t ∧ t.isChange = true := by
    cases parsed with
    | some t =>
      cases h
      constructor
      · exact fun ht => ⟨target, rfl, ht⟩
      · rintro ⟨t, ⟨⟩, ht⟩
        exact ht
    | none =>
      have hplain : target.isChange = false := by
        dsimp only at h
        split at h
        · cases h
          rfl
        · split at h
          · cases h
            rfl
          · cases h
      rw [hplain]
      constructor
      · nofun
      · rintro ⟨t, ht, -⟩
        cases ht
  rw [hmark]
  let ovks := lib.toOvk fvk .internal :: (ufvk.transparent.map lib.internalOvk).toList
  have hkeys : decodingKeys lib ufvk fvk = (some (lib.toOvk fvk .external), false)
      :: (ovks.map (fun ovk => (some ovk, true)) ++ [(none, false)]) := by
    unfold decodingKeys
    cases hxpub : ufvk.transparent with
    | none => simp [ovks, hxpub]
    | some xpub => simp [ovks, hxpub]
  rw [hkeys] at hparsed
  have hovks : ∀ q : OutgoingViewingKey → Prop, (∃ ovk ∈ ovks, q ovk) ↔ q (lib.toOvk fvk .internal)
      ∨ ∃ xpub, ufvk.transparent = some xpub ∧ q (lib.internalOvk xpub) := by
    intro q
    cases hxpub : ufvk.transparent with
    | none => simp [ovks, hxpub]
    | some xpub => simp [ovks, hxpub]
  rcases firstDecoded_cons hparsed with ⟨t, hdecoded, rfl⟩ | ⟨hnone, hrest⟩
  · obtain ⟨hopens, hexternal⟩ := decodeOutput_key hdecoded
    constructor
    · rintro ⟨t', ⟨⟩, hchange⟩
      rw [hexternal t rfl] at hchange
      cases hchange
    · rintro ⟨fvk', hfvk', hcloses, -⟩
      cases hfvk.symm.trans hfvk'
      rw [hcloses] at hopens
      cases hopens
  · have hcloses := (decodeOutput_key hnone).1
    rw [firstDecoded_internal hrest, hovks]
    constructor
    · intro hopens
      exact ⟨fvk, hfvk, Option.isSome_eq_false_iff.mp hcloses.symm |> Option.isNone_iff_eq_none.mp, hopens⟩
    · rintro ⟨fvk', hfvk', -, hopens⟩
      cases hfvk.symm.trans hfvk'
      exact hopens

theorem hash_of_keyOfHash {hash : Block 20} {map : BTreeMap PublicKey Bip32Derivation}
    {pubkey : PublicKey} (h : keyOfHash lib hash map = some pubkey) : hash = lib.hash160 pubkey := by
  unfold keyOfHash at h
  have hfound := List.find?_some h
  exact of_decide_eq_true hfound

theorem isOwn_of_isMyKey {xpub : Xpub} {output : TransparentOutput} {hash : Block 20}
    (hxpub : ufvk.transparent = some xpub)
    (haddress : lib.address output.scriptPubkey = some (.publicKeyHash hash))
    (hcheck : checkTransparentOutput lib seedFingerprint accountIndex xpub output = .ok ())
    (h : isMyKey lib seedFingerprint hash output.bip32Derivation = true) :
    output.IsOwn lib receivers accountIndex ufvk := by
  unfold isMyKey at h
  split at h
  · rename_i pubkey hkey
    split at h
    · rename_i derivation hget
      have hderived := checkTransparentOutput_publicKeyHash haddress hcheck hkey hget
        (of_decide_eq_true h)
      refine ⟨xpub, derivation.derivationPath, pubkey, hxpub, hderived, ?_⟩
      rw [haddress]
      exact hash_of_keyOfHash hkey
    · cases h
  · cases h

theorem isOwn_iff {xpub : Xpub} {output : TransparentOutput} {target : ParsedTo}
    (hxpub : ufvk.transparent = some xpub)
    (hcheck : checkTransparentOutput lib seedFingerprint accountIndex xpub output = .ok ())
    (hparse : parseTransparentOutput lib seedFingerprint output = .ok target) :
    (target.isChange = true → output.IsOwn lib receivers accountIndex ufvk)
      ↔ (output.ClaimsScript lib seedFingerprint
        → output.IsOwn lib receivers accountIndex ufvk) := by
  unfold parseTransparentOutput at hparse
  split at hparse
  · rename_i hash haddress
    obtain ⟨address, -, hparse⟩ := bind_eq_ok.mp hparse
    cases hparse
    constructor
    · rintro - ⟨⟨hash', hscript⟩, -⟩
      cases haddress.symm.trans hscript
    · intro _ hmark
      exact isOwn_of_isMyKey hxpub haddress hcheck hmark
  · rename_i hash haddress
    obtain ⟨address, -, hparse⟩ := bind_eq_ok.mp hparse
    cases hparse
    have hmark : output.bip32Derivation.firstKeyValue.any (fun entry =>
        decide (seedFingerprint = entry.2.seedFingerprint)) = true
          ↔ output.ClaimsScript lib seedFingerprint := by
      rw [Option.any_eq_true]
      constructor
      · rintro ⟨entry, hentry, hmine⟩
        exact ⟨⟨hash, haddress⟩, entry, hentry, of_decide_eq_true hmine⟩
      · rintro ⟨-, entry, hentry, hmine⟩
        exact ⟨entry, hentry, decide_eq_true hmine⟩
    exact imp_congr_left hmark
  · cases hparse

theorem forall₂_iff_forall {α β : Type} {R P : α → β → Prop} {Q : α → Prop} {as : List α}
    {bs : List β} (h : List.Forall₂ R as bs) (hiff : ∀ a ∈ as, ∀ b, R a b → (P a b ↔ Q a)) :
    List.Forall₂ P as bs ↔ ∀ a ∈ as, Q a := by
  induction h with
  | nil => exact ⟨fun _ a ha => absurd ha List.not_mem_nil, fun _ => .nil⟩
  | @cons a b as bs hab h ih =>
    have htail := ih fun a' ha' => hiff a' (List.mem_cons_of_mem a ha')
    rw [List.forall₂_cons, List.forall_mem_cons, hiff a (.head _) b hab, htail]

theorem parseTransparent_eq_ok {bundle : TransparentBundle} {shown : Option ParsedPart}
    (h : parseTransparent lib seedFingerprint bundle = .ok shown) : ∃ sources,
      List.Forall₂ (fun input source => parseTransparentInput lib seedFingerprint input = .ok source)
        bundle.inputs sources
      ∧ List.Forall₂ (fun output target => parseTransparentOutput lib seedFingerprint output
          = .ok target) bundle.outputs (targetsOf shown)
      ∧ shown = ParsedPart.nonempty ⟨sources, targetsOf shown⟩ := by
  unfold parseTransparent at h
  obtain ⟨sources, hsources, h⟩ := bind_eq_ok.mp h
  obtain ⟨targets, htargets, h⟩ := bind_eq_ok.mp h
  cases h
  rw [targetsOf_nonempty]
  exact ⟨sources, collect_eq_ok.mp hsources, collect_eq_ok.mp htargets, rfl⟩

theorem parseOrchard_eq_ok {bundle : OrchardBundle} {shown : Option ParsedPart}
    (h : parseOrchard lib seedFingerprint ufvk bundle = .ok shown) : ∃ targets,
      List.Forall₂ (fun action target => parseOrchardOutput lib ufvk action = .ok target)
        bundle.actions targets
      ∧ targetsOf shown = targets.filter fun target => !target.isDummy := by
  unfold parseOrchard at h
  obtain ⟨parsed, hparsed, h⟩ := bind_eq_ok.mp h
  cases h
  refine ⟨parsed.map Prod.snd, ?_, targetsOf_nonempty _⟩
  rw [List.forall₂_map_right_iff]
  refine (collect_eq_ok.mp hparsed).imp ?_
  intro action result haction
  unfold parseAction at haction
  obtain ⟨target, htarget, haction⟩ := bind_eq_ok.mp haction
  cases haction
  exact htarget

theorem parsePczt_eq_ok {pczt : Pczt} {parsed : ParsedPczt}
    (h : parsePczt lib seedFingerprint ufvk pczt = .ok parsed) : ∃ orchard transparent,
      pczt.orchard = some orchard ∧ pczt.transparent = some transparent
        ∧ parseOrchard lib seedFingerprint ufvk orchard = .ok parsed.orchard
        ∧ parseTransparent lib seedFingerprint transparent = .ok parsed.transparent := by
  unfold parsePczt at h
  obtain ⟨orchardBundle, horchardBundle, h⟩ := bind_eq_ok.mp h
  obtain ⟨orchard, horchard, h⟩ := bind_eq_ok.mp h
  obtain ⟨transparentBundle, htransparentBundle, h⟩ := bind_eq_ok.mp h
  obtain ⟨transparent, htransparent, h⟩ := bind_eq_ok.mp h
  dsimp only at h
  split at h
  · cases h
  · cases h
    exact ⟨orchardBundle, transparentBundle, okOr_eq_ok.mp horchardBundle,
      okOr_eq_ok.mp htransparentBundle, Outcome.mapError_eq_ok.mp horchard,
      Outcome.mapError_eq_ok.mp htransparent⟩

end

/-- What is shown as change of a transaction that passes the checks is the account's own if the
script hashes with the seed's fingerprint and the notes that a key for change opens are: the scripts
of the former and the receivers of the latter are compared with nothing. -/
theorem changeIsOwn_iff {Xpub : Type} (lib : ZcashLib Xpub) (receivers : Receivers)
    (seedFingerprint : Block 32) (accountIndex : UInt32) (ufvk : UnifiedFullViewingKey Xpub)
    (pczt : Pczt) (parsed : ParsedPczt)
    (hcheck : checkPczt lib seedFingerprint accountIndex ufvk pczt = .ok ())
    (hparse : parsePczt lib seedFingerprint ufvk pczt = .ok parsed) :
    ChangeIsOwn lib receivers accountIndex ufvk pczt parsed
      ↔ OwnWhereUnchecked lib receivers seedFingerprint accountIndex ufvk pczt := by
  obtain ⟨xpub, bundle, hxpub, hbundle, -, houtputs⟩ := checkPczt_eq_ok hcheck
  obtain ⟨orchard, transparent, horchard, htransparent, hactions, hparts⟩ := parsePczt_eq_ok hparse
  cases hbundle.symm.trans htransparent
  obtain ⟨sources, -, htargets, -⟩ := parseTransparent_eq_ok hparts
  obtain ⟨notes, hnotes, hshown⟩ := parseOrchard_eq_ok hactions
  have hscripts : List.Forall₂ (fun output target => target.isChange = true →
      output.IsOwn lib receivers accountIndex ufvk) bundle.outputs (targetsOf parsed.transparent)
        ↔ ∀ output ∈ bundle.outputs, output.ClaimsScript lib seedFingerprint →
          output.IsOwn lib receivers accountIndex ufvk :=
    forall₂_iff_forall htargets fun output houtput target htarget =>
      isOwn_iff hxpub (houtputs output houtput) htarget
  have hmarks : ∀ action target, parseOrchardOutput lib ufvk action = .ok target →
      ((target.isChange = true → action.IsOwn receivers ufvk)
        ↔ (action.OpensInternally lib ufvk → action.IsOwn receivers ufvk)) :=
    fun action target haction => imp_congr_left (isChange_iff haction)
  constructor
  · rintro ⟨⟨bundle', hbundle', hown⟩, orchard', targets, horchard', hall, -⟩
    cases hbundle.symm.trans hbundle'
    cases horchard.symm.trans horchard'
    refine ⟨?_, ?_⟩
    · intro b hb
      cases hbundle.symm.trans hb
      exact hscripts.mp hown
    · intro b hb
      cases horchard.symm.trans hb
      exact (forall₂_iff_forall hall fun action _ target htarget =>
        (and_iff_right htarget.1).trans (hmarks action target htarget.1)).mp hall
  · rintro ⟨hown, hopened⟩
    have hnotesOwn := (forall₂_iff_forall hnotes fun action _ target htarget =>
      (and_iff_right htarget).trans (hmarks action target htarget)).mpr (hopened orchard horchard)
    exact ⟨⟨bundle, hbundle, hscripts.mpr (hown bundle hbundle)⟩, orchard, notes, horchard,
      hnotesOwn, hshown⟩

/-- `script.address()`, for the two scripts that have one. -/
def sampleAddress : List UInt8 → Option TransparentAddress
  | 0x76 :: 0xa9 :: 0x14 :: rest => some (.publicKeyHash (Block.ofBytes 20 rest))
  | 0xa9 :: 0x14 :: rest => some (.scriptHash (Block.ofBytes 20 rest))
  | _ => none

def sampleSecp : SecpLib DerivationPath DerivationPath :=
  .ofPaths (fun path => Block.ofBytes 33 (2 :: Keys.stepBytes path))
    fun key _ => (0, Block.ofBytes 64 (Keys.stepBytes key))

def ZcashLib.sample : ZcashLib DerivationPath where
  coinType := 133
  address := sampleAddress
  hash160 pubkey := Block.ofBytes 20 pubkey.bytes
  derivePubkeyAtBip32Path xpub accountIndex path :=
    if path.take 3 = accountPath 133 accountIndex then
      (sampleSecp.derivePub xpub ((path.drop 3).map childNumber)).map sampleSecp.publicKey
    else none
  encodeP2pkh hash := 't' :: '1' :: hexText hash.bytes
  encodeP2sh hash := 't' :: '3' :: hexText hash.bytes
  encodeUnified address := 'u' :: '1' :: hexText address.bytes
  matchesReceiver _ _ := none
  verifyCvNet _ := true
  verifyNullifier _ _ := true
  verifyRk _ _ := true
  verifyNoteCommitment _ _ := true
  toOvk fvk _ := Block.ofBytes 32 fvk.bytes
  internalOvk _ := Block.zero 32
  isRho _ := true
  isNote _ := true
  tryOutputRecoveryWithOvk _ _ := none
  tryOutputRecoveryWithPkdEsk _ _ := none
  zecText value := Nat.toDigits 10 value.toNat

def sampleUfvk : UnifiedFullViewingKey DerivationPath :=
  ⟨some ((accountPath 133 0).map childNumber), some (Block.zero 96)⟩

def samplePath : List UInt32 := accountPath 133 0 ++ [1, 0]

def sampleKey (path : List UInt32) : PublicKey := sampleSecp.publicKey (path.map childNumber)

def samplePczt (scriptPubkey : List UInt8) (userAddress : Text) : Pczt where
  transparent := some {
    inputs := []
    outputs := [{
      scriptPubkey
      value := 1000000
      bip32Derivation := BTreeMap.single (sampleKey samplePath) ⟨Block.zero 32, samplePath⟩
      userAddress := some userAddress }] }
  orchard := some ⟨[], 0⟩
  sapling := ⟨0, false, false⟩

def sampleReceivers : Receivers where
  opensScript pubkey hash := hash = Block.ofBytes 20 (0x76 :: pubkey.bytes)
  hasAddress _ _ := False

def ownScript : List UInt8 :=
  [0x76, 0xa9, 0x14] ++ (ZcashLib.sample.hash160 (sampleKey samplePath)).bytes ++ [0x88, 0xac]

def ownAddress : Text := ZcashLib.sample.encodeP2pkh (ZcashLib.sample.hash160 (sampleKey samplePath))

def foreignHash : Block 20 := Block.ofBytes 20 [0xee]

def foreignScript : List UInt8 := [0xa9, 0x14] ++ foreignHash.bytes ++ [0x87]

def foreignAddress : Text := ZcashLib.sample.encodeP2sh foreignHash

theorem changeIsOwn_iff_sample : ∃ parsed,
    parsePczt .sample (Block.zero 32) sampleUfvk (samplePczt ownScript ownAddress) = .ok parsed
      ∧ (ChangeIsOwn .sample sampleReceivers 0 sampleUfvk (samplePczt ownScript ownAddress) parsed
        ↔ OwnWhereUnchecked .sample sampleReceivers (Block.zero 32) 0 sampleUfvk
          (samplePczt ownScript ownAddress)) :=
  ⟨_, rfl, changeIsOwn_iff .sample sampleReceivers (Block.zero 32) 0 sampleUfvk
    (samplePczt ownScript ownAddress) _ rfl rfl⟩

theorem not_isOwn_foreignScript (output : TransparentOutput)
    (h : output.scriptPubkey = foreignScript) :
    ¬output.IsOwn .sample sampleReceivers 0 sampleUfvk := by
  rintro ⟨xpub, path, pubkey, -, -, hown⟩
  have haddress : ZcashLib.sample.address output.scriptPubkey = some (.scriptHash foreignHash) := by
    rw [h]
    decide
  rw [haddress] at hown
  have hfirst := congrArg (fun hash => hash.bytes.head?) hown
  cases Option.some.inj hfirst

/-- A script hash of another's with a key of the account next to it is shown as change. -/
theorem not_changeIsOwn_foreignScript : ¬∀ (Xpub : Type) (lib : ZcashLib Xpub)
    (receivers : Receivers) (seedFingerprint : Block 32) (accountIndex : UInt32)
    (ufvk : UnifiedFullViewingKey Xpub) (pczt : Pczt) (parsed : ParsedPczt),
    checkPczt lib seedFingerprint accountIndex ufvk pczt = .ok () →
    parsePczt lib seedFingerprint ufvk pczt = .ok parsed →
    ChangeIsOwn lib receivers accountIndex ufvk pczt parsed := by
  intro hall
  obtain ⟨⟨bundle, hbundle, hown⟩, -⟩ := hall _ .sample sampleReceivers (Block.zero 32) 0 sampleUfvk
    (samplePczt foreignScript foreignAddress) _ rfl rfl
  cases hbundle
  cases hown with
  | cons hfirst _ => exact not_isOwn_foreignScript _ rfl (hfirst rfl)

end Keystone3.Zcash
