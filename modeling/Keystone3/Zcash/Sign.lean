import Keystone3.Zcash.Parse

/-!
# Signing a partially created Zcash transaction

The check, the display and the signature look for an entry among the keys of an input,
each in its own way: the first with the seed's fingerprint, the first with the hash of
the script, and the first with the fingerprint and the key at its path. `signs_iff_mine`
says that of a transaction that passes the check they find the same one.
-/

namespace Keystone3.Zcash

open Bitcoin (DerivationPath PublicKey)
open Bytes (Block)
open Keys (SecpLib Text)
open Logic (BTreeMap Outcome)
open Logic.Outcome (bind_eq_ok collect okOr)

def stepText (n : UInt32) : Text :=
  if n < 0x80000000 then Nat.toDigits 10 n.toNat
  else Nat.toDigits 10 (n - 0x80000000).toNat ++ ['\'']

/-- The text of a path, from `m` on. -/
def pathText (path : List UInt32) : Text := 'm' :: path.flatMap fun n => '/' :: stepText n

theorem stepText_eq (n : UInt32) : stepText n = Keys.childText (childNumber n) := by
  unfold stepText childNumber
  split
  · rfl
  · rfl

theorem slash_notMem_stepText (n : UInt32) : '/' ∉ stepText n := by
  rw [stepText_eq]
  exact Keys.slash_notMem_childText _

theorem toLower_stepText (n : UInt32) : (stepText n).map Char.toLower = stepText n := by
  rw [stepText_eq]
  exact Keys.map_toLower_childText _

theorem childIndex_childNumber (n : UInt32) :
    (Keys.childIndex (childNumber n)).toNat < 2 ^ 31 := by
  have hn := n.toNat_lt
  unfold childNumber
  split
  · rename_i hlow
    exact hlow
  · rename_i hhigh
    have hhigh : 2 ^ 31 ≤ n.toNat := Nat.le_of_not_lt hhigh
    have hsub : (n - 0x80000000).toNat = n.toNat - 2 ^ 31 :=
      UInt32.toNat_sub_of_le n 0x80000000 hhigh
    rw [Keys.childIndex, hsub]
    omega

theorem parseChild_stepText (n : UInt32) : Keys.parseChild (stepText n) = some (childNumber n) := by
  rw [stepText_eq, Keys.parseChild_childText, if_pos (childIndex_childNumber n)]

theorem parseSteps_stepText (path : List UInt32) :
    Keys.parseSteps (path.map stepText) = some (path.map childNumber) := by
  induction path with
  | nil => rfl
  | cons n path ih =>
    rw [List.map_cons, Keys.parseSteps, parseChild_stepText, ih]
    rfl

theorem splitOn_pathText (path : List UInt32) :
    (pathText path).splitOn '/' = ['m'] :: path.map stepText := by
  have hsteps : ∀ (first : Text), '/' ∉ first →
      (first ++ path.flatMap fun n => '/' :: stepText n).splitOn '/'
        = first :: path.map stepText := by
    induction path with
    | nil =>
      intro first hfirst
      rw [List.flatMap_nil, List.append_nil, List.splitOn_eq_singleton hfirst]
      rfl
    | cons n path ih =>
      intro first hfirst
      rw [List.flatMap_cons, List.cons_append, Keys.splitOn_slash hfirst,
        ih (stepText n) (slash_notMem_stepText n)]
      rfl
  exact hsteps ['m'] (by decide)

theorem parsePath_pathText {path : List UInt32} (h : 2 ≤ path.length) :
    Keys.parsePath (Keys.normalizePath (pathText path)) = some (path.map childNumber) := by
  have hlower : (pathText path).map Char.toLower = pathText path := by
    unfold pathText
    rw [List.map_cons, List.map_flatMap]
    refine congrArg ('m' :: ·) (List.flatMap_congr fun n _ => ?_)
    rw [List.map_cons, toLower_stepText]
    rfl
  have hnormal : Keys.normalizePath (pathText path) = pathText path := by
    unfold Keys.normalizePath
    rw [hlower]
    rfl
  have hsplit := splitOn_pathText path
  match path, h with
  | first :: second :: rest, _ =>
    rw [hnormal, Keys.parsePath_of_splitOn hsplit, if_pos rfl]
    exact parseSteps_stepText (first :: second :: rest)

structure SignLib (Xpriv : Type) where
  /-- The fingerprint of a seed that is long enough. -/
  calculateSeedFingerprint : List UInt8 → Option (Block 32)
  determineLockTime : Pczt → Option UInt32
  /-- A signature for an input, if the key is the one of its script. -/
  signInput : Pczt → UInt32 → Nat → TransparentInput → Xpriv → Option (List UInt8)
  /-- A signature for an action with the account's key. -/
  signAction : Pczt → UInt32 → Action → List UInt8 → UInt32 → Option (Block 64)

section

variable {Xpriv Xpub : Type} (secp : SecpLib Xpriv Xpub) (signer : SignLib Xpriv)

def seedFingerprintOf (seed : List UInt8) : Result (Block 32) :=
  okOr (.signingError "Invalid seed, cannot calculate ZIP-32 Seed Fingerprint")
    (signer.calculateSeedFingerprint seed)

def signingPath (seed : List UInt8) (fingerprint : Block 32) :
    List (PublicKey × Bip32Derivation) → Result (Option Text)
  | [] => pure none
  | (pubkey, derivation) :: entries =>
    if fingerprint = derivation.seedFingerprint then do
      let path := pathText derivation.derivationPath
      let myPubkey ← Outcome.mapError .keystoreError (Keys.getPublicKeyBySeed secp seed path)
      if myPubkey = pubkey then pure (some path) else signingPath seed fingerprint entries
    else signingPath seed fingerprint entries

/-- The key and its signature, if there is one. -/
def signTransparent (pczt : Pczt) (lockTime : UInt32) (seed : List UInt8) (index : Nat)
    (input : TransparentInput) : Result (Option (PublicKey × List UInt8)) := do
  let fingerprint ← seedFingerprintOf signer seed
  let path ← signingPath secp seed fingerprint input.bip32Derivation.entries
  match path with
  | none => pure none
  | some path => do
    let key ← Outcome.mapError .keystoreError (Keys.getExtendedPrivateKeyBySeed secp seed path)
    let signature ← okOr (.signingError "failed to sign input")
      (signer.signInput pczt lockTime index input key)
    pure (some (secp.publicKey (secp.neuter key), signature))

def signMessageOrchard (pczt : Pczt) (lockTime : UInt32) (seed : List UInt8) (path : List UInt32)
    (action : Action) : Result (Block 64) :=
  match path with
  | [purpose, coin, account] =>
    if purpose = 0x80000020 ∧ coin = 0x80000085 then
      if account < 0x80000000 then .halted
      else okOr (.signingError "zcash orchard sign")
        (signer.signAction pczt lockTime action seed (account - 0x80000000))
    else .error (.signingError "invalid orchard account path")
  | _ => .error (.signingError "invalid orchard account path")

/-- `sign_orchard`, for a spend that is no dummy. -/
def signOrchard (pczt : Pczt) (lockTime : UInt32) (seed : List UInt8) (action : Action) :
    Result (Option (Block 64)) :=
  if action.spend.value.all (fun v => v == 0) = true then pure none
  else do
    let fingerprint ← seedFingerprintOf signer seed
    let derivation ← okOr
      (.signingError "missing ZIP 32 derivation for Orchard action") action.spend.zip32Derivation
    if fingerprint = derivation.seedFingerprint then do
      let signature ← signMessageOrchard signer pczt lockTime seed derivation.derivationPath action
      pure (some signature)
    else pure none

/-- What is signed of a PCZT: for each input and each action, what is added to it. -/
structure Signatures where
  transparent : List (Option (PublicKey × List UInt8))
  orchard : List (Option (Block 64))

def signTransparentBundle (pczt : Pczt) (lockTime : UInt32) (seed : List UInt8)
    (bundle : TransparentBundle) : Result (List (Option (PublicKey × List UInt8))) :=
  collect (fun p => signTransparent secp signer pczt lockTime seed p.2 p.1) bundle.inputs.zipIdx

/-- `sign_pczt`, as far as the signatures go. -/
def signPczt (pczt : Pczt) (seed : List UInt8) : Result Signatures := do
  let bundle ← part pczt.transparent
  let lockTime ← okOr (.invalidPczt "Invalid transparent bundle")
    (signer.determineLockTime pczt)
  let transparent ← signTransparentBundle secp signer pczt lockTime seed bundle
  let orchardBundle ← part pczt.orchard
  let orchard ← collect (signOrchard signer pczt lockTime seed) orchardBundle.actions
  pure ⟨transparent, orchard⟩

end

/-- A key is derived below the account's path only, and by the rest of the path. -/
def DerivesBelowAccount {Xpriv Xpub : Type} (lib : ZcashLib Xpub) (secp : SecpLib Xpriv Xpub) :
    Prop :=
  ∀ xpub accountIndex path pubkey,
    lib.derivePubkeyAtBip32Path xpub accountIndex path = some pubkey →
      ∃ rest child, path = accountPath lib.coinType accountIndex ++ rest
        ∧ secp.derivePub xpub (rest.map childNumber) = some child ∧ secp.publicKey child = pubkey

def IsAccountOf {Xpriv Xpub : Type} (lib : ZcashLib Xpub) (secp : SecpLib Xpriv Xpub)
    (seed : List UInt8) (accountIndex : UInt32) (xpub : Xpub) : Prop :=
  ∃ master key, secp.newMaster seed = some master
    ∧ secp.derivePriv master ((accountPath lib.coinType accountIndex).map childNumber) = some key
    ∧ secp.neuter key = xpub

def HashesApart {Xpub : Type} (lib : ZcashLib Xpub) (map : BTreeMap PublicKey Bip32Derivation) :
    Prop :=
  ∀ p ∈ map.keys, ∀ q ∈ map.keys, lib.hash160 p = lib.hash160 q → p = q

section

variable {Xpriv Xpub : Type} {lib : ZcashLib Xpub} {secp : SecpLib Xpriv Xpub}
  {signer : SignLib Xpriv}

theorem getPublicKeyBySeed_pathText {seed : List UInt8} {accountIndex : UInt32} {xpub : Xpub}
    {path : List UInt32} {pubkey : PublicKey} (hderives : DerivesBelowAccount lib secp)
    (haccount : IsAccountOf lib secp seed accountIndex xpub)
    (h : lib.derivePubkeyAtBip32Path xpub accountIndex path = some pubkey) :
    Keys.getPublicKeyBySeed secp seed (pathText path) = .ok pubkey := by
  obtain ⟨master, key, hmaster, hkey, rfl⟩ := haccount
  obtain ⟨rest, child, rfl, hchild, rfl⟩ := hderives _ _ _ _ h
  obtain ⟨key', hkey', rfl⟩ := Keys.Hierarchy.derivePriv_of_derivePub hkey hchild
  have hlong : 2 ≤ (accountPath lib.coinType accountIndex ++ rest).length := by
    simp [accountPath]
  have hpath := parsePath_pathText hlong
  rw [List.map_append] at hpath
  rw [Keys.getPublicKeyBySeed,
    Keys.getExtendedPrivateKeyBySeed_eq_ok.mpr ⟨_, master, hpath, hmaster, hkey'⟩]
  rfl

theorem signingPath_none {seed : List UInt8} {fingerprint : Block 32}
    {entries : List (PublicKey × Bip32Derivation)}
    (h : entries.find? (fun entry => fingerprint = entry.2.seedFingerprint) = none) :
    signingPath secp seed fingerprint entries = .ok none := by
  induction entries with
  | nil => rfl
  | cons entry entries ih =>
    rw [List.find?_eq_none] at h
    have hother : ¬fingerprint = entry.2.seedFingerprint := by
      simpa using h entry (.head _)
    rw [signingPath, if_neg hother]
    refine ih (List.find?_eq_none.mpr fun e he => h e (List.mem_cons_of_mem entry he))

theorem signingPath_some {seed : List UInt8} {fingerprint : Block 32}
    {entries : List (PublicKey × Bip32Derivation)} {pubkey : PublicKey}
    {derivation : Bip32Derivation}
    (h : entries.find? (fun entry => fingerprint = entry.2.seedFingerprint)
      = some (pubkey, derivation))
    (hkey : Keys.getPublicKeyBySeed secp seed (pathText derivation.derivationPath) = .ok pubkey) :
    signingPath secp seed fingerprint entries = .ok (some (pathText derivation.derivationPath)) := by
  induction entries with
  | nil => cases h
  | cons entry entries ih =>
    by_cases hmine : fingerprint = entry.2.seedFingerprint
    · rw [List.find?_cons_of_pos (by simpa using hmine)] at h
      cases h
      rw [signingPath, if_pos hmine]
      dsimp only
      rw [hkey]
      show (if pubkey = pubkey then _ else _) = _
      rw [if_pos rfl]
      rfl
    · rw [List.find?_cons_of_neg (by simpa using hmine)] at h
      rw [signingPath, if_neg hmine]
      exact ih h

theorem keyOfHash_of_mem {map : BTreeMap PublicKey Bip32Derivation} {pubkey : PublicKey}
    (hapart : HashesApart lib map) (h : pubkey ∈ map.keys) :
    keyOfHash lib (lib.hash160 pubkey) map = some pubkey := by
  cases hfound : keyOfHash lib (lib.hash160 pubkey) map with
  | none =>
    unfold keyOfHash at hfound
    exact absurd (decide_eq_true rfl) (List.find?_eq_none.mp hfound pubkey h)
  | some other =>
    have hmem : other ∈ map.keys := by
      unfold keyOfHash at hfound
      exact List.mem_of_find?_eq_some hfound
    exact congrArg some (hapart other hmem pubkey h (hash_of_keyOfHash hfound).symm)

theorem myDerivation_of_isMyKey {seedFingerprint : Block 32} {hash : Block 20}
    {map : BTreeMap PublicKey Bip32Derivation}
    (h : isMyKey lib seedFingerprint hash map = true) :
    (myDerivation seedFingerprint map).isSome = true := by
  unfold isMyKey at h
  split at h
  · rename_i pubkey hkey
    split at h
    · rename_i derivation hget
      have hmem := map.mem_of_get hget
      rw [myDerivation, List.find?_isSome]
      exact ⟨(pubkey, derivation), hmem, h⟩
    · cases h
  · cases h

/-- The three entries of an input are one: that of a key of the account, with the hash of the
script. -/
structure SameEntry (lib : ZcashLib Xpub) (secp : SecpLib Xpriv Xpub) (seed : List UInt8)
    (seedFingerprint : Block 32) (accountIndex : UInt32) (xpub : Xpub) (input : TransparentInput)
    (pubkey : PublicKey) (derivation : Bip32Derivation) : Prop where
  checked : myDerivation seedFingerprint input.bip32Derivation = some (pubkey, derivation)
  verified : lib.derivePubkeyAtBip32Path xpub accountIndex derivation.derivationPath = some pubkey
  script : lib.address input.scriptPubkey = some (.publicKeyHash (lib.hash160 pubkey))
  shown : keyOfHash lib (lib.hash160 pubkey) input.bip32Derivation = some pubkey
  entry : input.bip32Derivation.get pubkey = some derivation
  signed : signingPath secp seed seedFingerprint input.bip32Derivation.entries
    = .ok (some (pathText derivation.derivationPath))

section

variable {seed : List UInt8} {seedFingerprint : Block 32} {accountIndex : UInt32} {xpub : Xpub}
  {input : TransparentInput}

theorem sameEntry_of_myDerivation (hderives : DerivesBelowAccount lib secp)
    (haccount : IsAccountOf lib secp seed accountIndex xpub)
    (hapart : HashesApart lib input.bip32Derivation)
    (hcheck : checkTransparentInput lib seedFingerprint accountIndex xpub input = .ok ())
    {pubkey : PublicKey} {derivation : Bip32Derivation}
    (h : myDerivation seedFingerprint input.bip32Derivation = some (pubkey, derivation)) :
    SameEntry lib secp seed seedFingerprint accountIndex xpub input pubkey derivation := by
  obtain ⟨hash, haddress, hverified⟩ := checkTransparentInput_eq_ok hcheck
  obtain ⟨hderived, rfl⟩ := hverified pubkey derivation h
  have hmem : (pubkey, derivation) ∈ input.bip32Derivation.entries := List.mem_of_find?_eq_some h
  have hkey : pubkey ∈ input.bip32Derivation.keys := List.mem_map_of_mem hmem
  exact {
    checked := h
    verified := hderived
    script := haddress
    shown := keyOfHash_of_mem hapart hkey
    entry := input.bip32Derivation.get_of_mem hmem
    signed := signingPath_some h (getPublicKeyBySeed_pathText hderives haccount hderived) }

theorem SameEntry.isMine {pubkey : PublicKey} {derivation : Bip32Derivation}
    (h : SameEntry lib secp seed seedFingerprint accountIndex xpub input pubkey derivation)
    {source : ParsedFrom} (hparse : parseTransparentInput lib seedFingerprint input = .ok source) :
    source.isMine = true := by
  unfold parseTransparentInput at hparse
  rw [h.script] at hparse
  cases hparse
  show isMyKey lib seedFingerprint (lib.hash160 pubkey) input.bip32Derivation = true
  unfold isMyKey
  rw [h.shown]
  dsimp only
  rw [h.entry]
  have hchecked := h.checked
  unfold myDerivation at hchecked
  have hfingerprint := List.find?_some hchecked
  exact hfingerprint

theorem not_isMine {source : ParsedFrom}
    (h : myDerivation seedFingerprint input.bip32Derivation = none)
    (hparse : parseTransparentInput lib seedFingerprint input = .ok source) :
    source.isMine = false := by
  unfold parseTransparentInput at hparse
  split at hparse
  · cases hparse
    refine Bool.eq_false_iff.mpr fun hmine => ?_
    have hsome := myDerivation_of_isMyKey hmine
    rw [h] at hsome
    cases hsome
  · cases hparse

theorem signTransparent_iff {pczt : Pczt} {lockTime : UInt32} {index : Nat} {source : ParsedFrom}
    {signature : Option (PublicKey × List UInt8)} (hderives : DerivesBelowAccount lib secp)
    (haccount : IsAccountOf lib secp seed accountIndex xpub)
    (hapart : HashesApart lib input.bip32Derivation)
    (hseed : signer.calculateSeedFingerprint seed = some seedFingerprint)
    (hcheck : checkTransparentInput lib seedFingerprint accountIndex xpub input = .ok ())
    (hparse : parseTransparentInput lib seedFingerprint input = .ok source)
    (hsign : signTransparent secp signer pczt lockTime seed index input = .ok signature) :
    (signature.isSome = true ↔ source.isMine = true)
      ∧ ∀ pubkey bytes, signature = some (pubkey, bytes) → ∃ derivation,
        SameEntry lib secp seed seedFingerprint accountIndex xpub input pubkey derivation := by
  unfold signTransparent at hsign
  obtain ⟨fingerprint, hfingerprint, hsign⟩ := bind_eq_ok.mp hsign
  cases hseed.symm.trans (Outcome.okOr_eq_ok.mp hfingerprint)
  obtain ⟨path, hpath, hsign⟩ := bind_eq_ok.mp hsign
  cases hmine : myDerivation seedFingerprint input.bip32Derivation with
  | none =>
    cases (signingPath_none hmine).symm.trans hpath
    cases hsign
    rw [not_isMine hmine hparse]
    exact ⟨Iff.rfl, nofun⟩
  | some entry =>
    obtain ⟨pubkey, derivation⟩ := entry
    have hsame := sameEntry_of_myDerivation hderives haccount hapart hcheck hmine
    cases hsame.signed.symm.trans hpath
    obtain ⟨key, hkey, hsign⟩ := bind_eq_ok.mp hsign
    obtain ⟨bytes, -, hsign⟩ := bind_eq_ok.mp hsign
    cases hsign
    have hpublic := getPublicKeyBySeed_pathText hderives haccount hsame.verified
    rw [Keys.getPublicKeyBySeed, Outcome.mapError_eq_ok.mp hkey] at hpublic
    have hpubkey : secp.publicKey (secp.neuter key) = pubkey := Outcome.ok.inj hpublic
    refine ⟨iff_of_true rfl (hsame.isMine hparse), ?_⟩
    rintro pubkey' bytes' hsome
    cases hsome
    rw [hpubkey]
    exact ⟨derivation, hsame⟩

end

end

def sourcesOf (part : Option ParsedPart) : List ParsedFrom := (part.map ParsedPart.sources).getD []

theorem sourcesOf_nonempty (part : ParsedPart) : sourcesOf part.nonempty = part.sources :=
  getD_nonempty part fun hsources _ => hsources

theorem signPczt_eq_ok {Xpriv Xpub : Type} {secp : SecpLib Xpriv Xpub} {signer : SignLib Xpriv}
    {pczt : Pczt} {seed : List UInt8} {signatures : Signatures}
    (h : signPczt secp signer pczt seed = .ok signatures) : ∃ bundle lockTime,
      pczt.transparent = some bundle
        ∧ signTransparentBundle secp signer pczt lockTime seed bundle = .ok signatures.transparent := by
  unfold signPczt at h
  obtain ⟨bundle, hbundle, h⟩ := bind_eq_ok.mp h
  obtain ⟨lockTime, -, h⟩ := bind_eq_ok.mp h
  obtain ⟨transparent, htransparent, h⟩ := bind_eq_ok.mp h
  obtain ⟨orchardBundle, -, h⟩ := bind_eq_ok.mp h
  obtain ⟨orchard, -, h⟩ := bind_eq_ok.mp h
  cases h
  exact ⟨bundle, lockTime, Outcome.okOr_eq_ok.mp hbundle, htransparent⟩

/-- Of a PCZT that passes the checks, is shown and is signed, an input is signed if it is shown as
the account's own, and check, display and signature have used the same entry of its map. -/
theorem signs_iff_mine {Xpriv Xpub : Type} (lib : ZcashLib Xpub) (secp : SecpLib Xpriv Xpub)
    (signer : SignLib Xpriv) (seed : List UInt8) (seedFingerprint : Block 32)
    (accountIndex : UInt32) (ufvk : UnifiedFullViewingKey Xpub) (pczt : Pczt)
    (parsed : ParsedPczt) (signatures : Signatures) (hderives : DerivesBelowAccount lib secp)
    (haccount : ∀ xpub, ufvk.transparent = some xpub → IsAccountOf lib secp seed accountIndex xpub)
    (hseed : signer.calculateSeedFingerprint seed = some seedFingerprint)
    (hapart : ∀ bundle, pczt.transparent = some bundle → ∀ input ∈ bundle.inputs,
      HashesApart lib input.bip32Derivation)
    (hcheck : checkPczt lib seedFingerprint accountIndex ufvk pczt = .ok ())
    (hparse : parsePczt lib seedFingerprint ufvk pczt = .ok parsed)
    (hsign : signPczt secp signer pczt seed = .ok signatures) :
    ∃ xpub bundle, ufvk.transparent = some xpub ∧ pczt.transparent = some bundle
      ∧ ∀ (i : Nat) input, bundle.inputs[i]? = some input → ∃ source signature,
        (sourcesOf parsed.transparent)[i]? = some source
          ∧ signatures.transparent[i]? = some signature
          ∧ (signature.isSome = true ↔ source.isMine = true)
          ∧ ∀ pubkey bytes, signature = some (pubkey, bytes) → ∃ derivation,
            SameEntry lib secp seed seedFingerprint accountIndex xpub input pubkey derivation := by
  obtain ⟨xpub, bundle, hxpub, hbundle, hinputs, -⟩ := checkPczt_eq_ok hcheck
  obtain ⟨orchard, transparent, -, htransparent, -, hparts⟩ := parsePczt_eq_ok hparse
  obtain ⟨signedBundle, lockTime, hsignedBundle, hsigned⟩ := signPczt_eq_ok hsign
  cases hbundle.symm.trans htransparent
  cases hbundle.symm.trans hsignedBundle
  obtain ⟨sources, hsources, -, hshown⟩ := parseTransparent_eq_ok hparts
  have hlist : sourcesOf parsed.transparent = sources := by
    rw [hshown, sourcesOf_nonempty]
  refine ⟨xpub, bundle, hxpub, hbundle, ?_⟩
  intro i input hi
  have hmem : input ∈ bundle.inputs := List.mem_of_getElem? hi
  obtain ⟨source, hsource, hparsed⟩ := Outcome.collect_getElem?
    (Outcome.collect_eq_ok.mpr hsources) hi
  have hindexed : bundle.inputs.zipIdx[i]? = some (input, i) := by
    rw [List.getElem?_zipIdx, hi]
    simp
  obtain ⟨signature, hsignature, hsigning⟩ := Outcome.collect_getElem? hsigned hindexed
  obtain ⟨hiff, hsame⟩ := signTransparent_iff hderives (haccount xpub hxpub)
    (hapart bundle hbundle input hmem) hseed (hinputs input hmem) hparsed hsigning
  rw [hlist]
  exact ⟨source, signature, hsource, hsignature, hiff, hsame⟩

def SignLib.sample : SignLib DerivationPath where
  calculateSeedFingerprint _ := some (Block.zero 32)
  determineLockTime _ := some 0
  signInput _ _ _ _ key := some (Keys.stepBytes key)
  signAction _ _ _ _ _ := none

def sampleInputPczt (accountIndex : UInt32) : Pczt where
  transparent := some {
    inputs := [{
      scriptPubkey := [0x76, 0xa9, 0x14]
        ++ (ZcashLib.sample.hash160 (sampleKey (accountPath 133 accountIndex ++ [0, 0]))).bytes
        ++ [0x88, 0xac]
      value := 1000000
      bip32Derivation := BTreeMap.single (sampleKey (accountPath 133 accountIndex ++ [0, 0]))
        ⟨Block.zero 32, accountPath 133 accountIndex ++ [0, 0]⟩ }]
    outputs := [] }
  orchard := some ⟨[], 0⟩
  sapling := ⟨0, false, false⟩

theorem derivesBelowAccount_sample : DerivesBelowAccount .sample sampleSecp := by
  intro xpub accountIndex path pubkey h
  have h : (if path.take 3 = accountPath 133 accountIndex then
      (sampleSecp.derivePub xpub ((path.drop 3).map childNumber)).map sampleSecp.publicKey
    else none) = some pubkey := h
  split at h
  · rename_i hfront
    obtain ⟨child, hchild, rfl⟩ := Option.map_eq_some_iff.mp h
    refine ⟨path.drop 3, child, ?_, hchild, rfl⟩
    show path = accountPath 133 accountIndex ++ path.drop 3
    rw [← hfront, List.take_append_drop]
  · cases h

theorem isAccountOf_sample : ∀ xpub, sampleUfvk.transparent = some xpub →
    IsAccountOf .sample sampleSecp [] 0 xpub := by
  rintro xpub ⟨⟩
  exact ⟨[], _, rfl, rfl, rfl⟩

theorem hashesApart_sample (accountIndex : UInt32) : ∀ bundle,
    (sampleInputPczt accountIndex).transparent = some bundle → ∀ input ∈ bundle.inputs,
      HashesApart .sample input.bip32Derivation := by
  rintro bundle ⟨⟩ input hinput p hp q hq -
  obtain rfl := List.mem_singleton.mp hinput
  exact (List.mem_singleton.mp hp).trans (List.mem_singleton.mp hq).symm

theorem signs_iff_mine_sample : ∃ parsed signatures xpub bundle,
    parsePczt .sample (Block.zero 32) sampleUfvk (sampleInputPczt 0) = .ok parsed
      ∧ signPczt sampleSecp .sample (sampleInputPczt 0) [] = .ok signatures
      ∧ sampleUfvk.transparent = some xpub ∧ (sampleInputPczt 0).transparent = some bundle
      ∧ ∀ (i : Nat) input, bundle.inputs[i]? = some input → ∃ source signature,
        (sourcesOf parsed.transparent)[i]? = some source
          ∧ signatures.transparent[i]? = some signature
          ∧ (signature.isSome = true ↔ source.isMine = true)
          ∧ ∀ pubkey bytes, signature = some (pubkey, bytes) → ∃ derivation,
            SameEntry .sample sampleSecp [] (Block.zero 32) 0 xpub input pubkey derivation := by
  obtain ⟨parsed, hparsed⟩ : ∃ parsed,
      parsePczt .sample (Block.zero 32) sampleUfvk (sampleInputPczt 0) = .ok parsed := ⟨_, rfl⟩
  obtain ⟨signatures, hsigned⟩ : ∃ signatures,
      signPczt sampleSecp .sample (sampleInputPczt 0) [] = .ok signatures :=
    Outcome.exists_of_isOk (by decide)
  obtain ⟨xpub, bundle, hxpub, hbundle, hall⟩ := signs_iff_mine .sample sampleSecp .sample []
    (Block.zero 32) 0 sampleUfvk (sampleInputPczt 0) parsed signatures derivesBelowAccount_sample
    isAccountOf_sample rfl (hashesApart_sample 0) rfl hparsed hsigned
  exact ⟨parsed, signatures, xpub, bundle, hparsed, hsigned, hxpub, hbundle, hall⟩

/-- An input of the second account is signed, whatever the check for the first says of it. -/
theorem not_signs_checked_otherAccount : ¬∀ (Xpriv Xpub : Type) (lib : ZcashLib Xpub)
    (secp : SecpLib Xpriv Xpub) (signer : SignLib Xpriv) (seed : List UInt8)
    (seedFingerprint : Block 32) (accountIndex : UInt32) (ufvk : UnifiedFullViewingKey Xpub)
    (pczt : Pczt) (parsed : ParsedPczt) (signatures : Signatures), DerivesBelowAccount lib secp →
    (∀ xpub, ufvk.transparent = some xpub → IsAccountOf lib secp seed accountIndex xpub) →
    signer.calculateSeedFingerprint seed = some seedFingerprint →
    (∀ bundle, pczt.transparent = some bundle → ∀ input ∈ bundle.inputs,
      HashesApart lib input.bip32Derivation) →
    parsePczt lib seedFingerprint ufvk pczt = .ok parsed →
    signPczt secp signer pczt seed = .ok signatures →
    ∃ xpub bundle, ufvk.transparent = some xpub ∧ pczt.transparent = some bundle
      ∧ ∀ (i : Nat) input, bundle.inputs[i]? = some input → ∃ source signature,
        (sourcesOf parsed.transparent)[i]? = some source
          ∧ signatures.transparent[i]? = some signature
          ∧ (signature.isSome = true ↔ source.isMine = true)
          ∧ ∀ pubkey bytes, signature = some (pubkey, bytes) → ∃ derivation,
            SameEntry lib secp seed seedFingerprint accountIndex xpub input pubkey derivation := by
  intro hall
  obtain ⟨signatures, hsigned⟩ : ∃ signatures,
      signPczt sampleSecp .sample (sampleInputPczt 1) [] = .ok signatures :=
    Outcome.exists_of_isOk (by decide)
  obtain ⟨xpub, bundle, hxpub, hbundle, hinputs⟩ := hall _ _ .sample sampleSecp .sample []
    (Block.zero 32) 0 sampleUfvk (sampleInputPczt 1) _ signatures derivesBelowAccount_sample
    isAccountOf_sample rfl (hashesApart_sample 1) rfl hsigned
  cases hbundle
  obtain ⟨source, signature, hsource, -, hmine, hsame⟩ := hinputs 0 _ rfl
  cases hsource
  obtain ⟨⟨pubkey, bytes⟩, rfl⟩ := Option.isSome_iff_exists.mp (hmine.mpr rfl)
  obtain ⟨derivation, hentry⟩ := hsame pubkey bytes rfl
  have hfirst : some (sampleKey (accountPath 133 1 ++ [0, 0]), _) = some (pubkey, derivation) :=
    hentry.checked
  cases hfirst
  have hverified := hentry.verified
  cases hxpub
  have hnone : ZcashLib.sample.derivePubkeyAtBip32Path ((accountPath 133 0).map childNumber) 0
      (accountPath 133 1 ++ [0, 0]) = none := by
    decide
  cases hnone.symm.trans hverified

end Keystone3.Zcash
