import Keystone3.Cardano.Structs

/-!
# Which keys sign a Cardano transaction

A signature is made with the key of each output and of each certificate that the
host names as the device's own. `onlyVerified_iff` says for which paths these are
keys that the check has paired with an address, or that the transaction needs.
-/

namespace Keystone3.Cardano

open Bitcoin (DerivationPath)
open Bytes (Block)
open Logic (BTreeMap Outcome)
open Logic.Outcome (bind_eq_ok collect okOr)

section

variable {XPrv XPub : Type} (lib : CardanoLib XPrv XPub)

/-- The body of both loops of `sign_tx`: the signature of a key that is the device's own and has not
signed. -/
def signWith (masterKey : XPrv) (hash : Block 32) (masterFingerprint : List UInt8)
    (signatures : BTreeMap (Block 32) (Block 64)) (key : KeyPath) :
    Result (BTreeMap (Block 32) (Block 64)) :=
  if key.masterFingerprint ≠ masterFingerprint then pure signatures
  else do
    let path := Keys.pathText key.path
    let xpub ← okOr .signingFailed (lib.deriveExtendedPubkeyByXprv masterKey path)
    let pubkey := lib.publicKey xpub
    if signatures.containsKey pubkey then pure signatures
    else do
      let signature ← okOr .signingFailed (lib.signMessageByXprv masterKey hash.bytes path)
      pure (signatures.insert (fun a b => a.bytes ≤ b.bytes) pubkey signature)

def vkeywitness (entry : Block 32 × Block 64) : Result Vkeywitness :=
  if lib.isPoint entry.1 then pure ⟨entry.1, entry.2⟩ else .error .signingFailed

/-- The witnesses of `sign_tx`. -/
def witnesses (tx : List UInt8) (context : ParseContext) (masterKey : XPrv) :
    Result (List Vkeywitness) := do
  let cardanoTx ← orInvalid (lib.fromBytes tx)
  let hash := lib.blake2b256 cardanoTx.rawBody
  let sign := signWith lib masterKey hash context.masterFingerprint
  let signatures ← (context.utxos.map CardanoUtxo.toKeyPath).foldlM sign .empty
  let signatures ← (context.certKeys.map CardanoCertKey.toKeyPath).foldlM sign signatures
  collect (vkeywitness lib) signatures.entries

def signTx (tx : List UInt8) (context : ParseContext) (masterKey : XPrv) : Result (List UInt8) := do
  let vkeys ← witnesses lib tx context masterKey
  pure (lib.witnessSetToBytes vkeys)

/-- The key is that of an output that an input means, and the address of the output pays to it. -/
def IsVerified (tx : Transaction) (context : ParseContext) (masterKey : XPrv) (k : Block 32) :
    Prop :=
  ∃ input ∈ tx.inputs, ∃ utxo address, context.findUtxo input = some utxo
    ∧ lib.pubkeyAt masterKey utxo.path = k ∧ lib.fromBech32 utxo.address = some address
    ∧ address.paymentKeyHash = some (lib.blake2b224 k.bytes)

/-- The certificates or withdrawals of the transaction need the key. -/
def IsRequired (tx : Transaction) (k : Block 32) : Prop :=
  lib.blake2b224 k.bytes ∈ tx.requiredSigners

def OnlyVerified (tx : Transaction) (context : ParseContext) (masterKey : XPrv)
    (vkeys : List Vkeywitness) : Prop :=
  ∀ witness ∈ vkeys,
    IsVerified lib tx context masterKey witness.vkey ∨ IsRequired lib tx witness.vkey

def ParseContext.keyPaths (context : ParseContext) : List KeyPath :=
  context.utxos.map CardanoUtxo.toKeyPath ++ context.certKeys.map CardanoCertKey.toKeyPath

def ParseContext.signingPaths (context : ParseContext) : List DerivationPath :=
  (context.keyPaths.filter fun key => key.masterFingerprint = context.masterFingerprint).map
    KeyPath.path

/-- The path is that of an output that an input means, and is two steps below the account. -/
def IsInputPath (tx : Transaction) (context : ParseContext) (account path : DerivationPath) :
    Prop :=
  (∃ input ∈ tx.inputs, ∃ utxo, context.findUtxo input = some utxo ∧ utxo.path = path)
    ∧ ∃ change index, path = account ++ [.normal change, .normal index]

/-- The host's paths, and the paths in the account that the check takes them for, have keys whose
hashes differ. -/
def Apart (context : ParseContext) (masterKey : XPrv) (account : DerivationPath) : Prop :=
  let given := context.keyPaths.map KeyPath.path
  let paths := given ++ given.map fun path => account ++ (path.drop 3).take 2
  ∀ p ∈ paths, ∀ q ∈ paths, lib.blake2b224 (lib.pubkeyAt masterKey p).bytes
    = lib.blake2b224 (lib.pubkeyAt masterKey q).bytes → p = q

end

section

variable {XPrv XPub : Type} {lib : CardanoLib XPrv XPub} {masterKey : XPrv} {hash : Block 32}
  {masterFingerprint : List UInt8}

theorem mem_keys_signWith {signatures signatures' : BTreeMap (Block 32) (Block 64)} {key : KeyPath}
    (h : signWith lib masterKey hash masterFingerprint signatures key = .ok signatures')
    (k : Block 32) : k ∈ signatures'.keys ↔ k ∈ signatures.keys
      ∨ key.masterFingerprint = masterFingerprint ∧ lib.pubkeyAt masterKey key.path = k := by
  unfold signWith at h
  split at h
  · rename_i hother
    cases h
    exact ⟨.inl, fun h => h.resolve_right fun hown => hother hown.1⟩
  · rename_i hown
    have hown := Decidable.not_not.mp hown
    obtain ⟨xpub, hxpub, h⟩ := bind_eq_ok.mp h
    have hpubkey := Ed25519Lib.deriveExtendedPubkeyByXprv_pathText (Outcome.okOr_eq_ok.mp hxpub)
    dsimp only at h
    rw [hpubkey] at h
    split at h
    · rename_i hthere
      cases h
      refine ⟨.inl, fun h => h.elim id ?_⟩
      rintro ⟨-, rfl⟩
      exact (signatures.containsKey_iff _).mp hthere
    · obtain ⟨signature, -, h⟩ := bind_eq_ok.mp h
      cases h
      rw [BTreeMap.mem_keys_insert, or_comm, eq_comm]
      exact or_congr_right ⟨fun hk => ⟨hown, hk⟩, And.right⟩

theorem mem_keys_foldlM {keys : List KeyPath}
    {signatures signatures' : BTreeMap (Block 32) (Block 64)}
    (h : keys.foldlM (signWith lib masterKey hash masterFingerprint) signatures = .ok signatures')
    (k : Block 32) : k ∈ signatures'.keys ↔ k ∈ signatures.keys ∨ ∃ key ∈ keys,
      key.masterFingerprint = masterFingerprint ∧ lib.pubkeyAt masterKey key.path = k := by
  induction keys generalizing signatures with
  | nil =>
    cases h
    simp
  | cons key keys ih =>
    rw [List.foldlM_cons] at h
    obtain ⟨next, hnext, h⟩ := bind_eq_ok.mp h
    rw [ih h, mem_keys_signWith hnext, or_assoc, List.exists_mem_cons_iff]

theorem vkey_of_vkeywitness {entry : Block 32 × Block 64} {witness : Vkeywitness}
    (h : vkeywitness lib entry = .ok witness) : witness.vkey = entry.1 := by
  unfold vkeywitness at h
  split at h
  · cases h
    rfl
  · cases h

theorem vkeys_of_collect {entries : List (Block 32 × Block 64)} {vkeys : List Vkeywitness}
    (h : collect (vkeywitness lib) entries = .ok vkeys) :
    vkeys.map Vkeywitness.vkey = entries.map Prod.fst := by
  have hall := Outcome.collect_eq_ok.mp h
  induction hall with
  | nil => rfl
  | cons hentry hrest ih =>
    rw [List.map_cons, List.map_cons, vkey_of_vkeywitness hentry,
      ih (Outcome.collect_eq_ok.mpr hrest)]

theorem mem_signingPaths {context : ParseContext} {path : DerivationPath} :
    path ∈ context.signingPaths ↔ ∃ key ∈ context.keyPaths,
      key.masterFingerprint = context.masterFingerprint ∧ key.path = path := by
  unfold ParseContext.signingPaths
  rw [List.mem_map]
  refine exists_congr fun key => ?_
  rw [List.mem_filter, decide_eq_true_iff, and_assoc]

theorem mem_vkeys {tx : List UInt8} {context : ParseContext} {vkeys : List Vkeywitness}
    (h : witnesses lib tx context masterKey = .ok vkeys) (k : Block 32) :
    (∃ witness ∈ vkeys, witness.vkey = k)
      ↔ ∃ path ∈ context.signingPaths, lib.pubkeyAt masterKey path = k := by
  obtain ⟨cardanoTx, -, h⟩ := bind_eq_ok.mp h
  obtain ⟨signatures, hutxos, h⟩ := bind_eq_ok.mp h
  obtain ⟨signatures', hcerts, h⟩ := bind_eq_ok.mp h
  have hloop : k ∈ signatures'.keys ↔ ∃ key ∈ context.keyPaths,
      key.masterFingerprint = context.masterFingerprint ∧ lib.pubkeyAt masterKey key.path = k := by
    have hempty : k ∉ (BTreeMap.empty : BTreeMap (Block 32) (Block 64)).keys := List.not_mem_nil
    rw [mem_keys_foldlM hcerts, mem_keys_foldlM hutxos, or_iff_right hempty]
    unfold ParseContext.keyPaths
    simp only [List.mem_append, or_and_right, exists_or]
  calc (∃ witness ∈ vkeys, witness.vkey = k)
      ↔ k ∈ signatures'.keys := by rw [← List.mem_map, vkeys_of_collect h]; rfl
    _ ↔ _ := hloop
    _ ↔ _ := by
      constructor
      · rintro ⟨key, hkey, hown, hk⟩
        exact ⟨key.path, mem_signingPaths.mpr ⟨key, hkey, hown, rfl⟩, hk⟩
      · rintro ⟨path, hpath, hk⟩
        obtain ⟨key, hkey, hown, rfl⟩ := mem_signingPaths.mp hpath
        exact ⟨key, hkey, hown, hk⟩

end

section

variable {XPrv XPub : Type} {lib : CardanoLib XPrv XPub} {bytes : List UInt8}
  {context : ParseContext} {tx : Transaction} {masterKey : XPrv} {index : UInt32} {xpub : Text}

theorem isVerified_of_isInputPath (htx : lib.fromBytes bytes = some tx)
    (hcheck : checkTx lib bytes context = .ok ()) (hxpub : context.cardanoXpub = some xpub)
    (hkey : IsKeyAt lib.toEd25519Lib masterKey (cardanoAccount index) xpub) {path : DerivationPath}
    (h : IsInputPath tx context (cardanoAccount index) path) :
    IsVerified lib tx context masterKey (lib.pubkeyAt masterKey path) := by
  obtain ⟨⟨input, hinput, utxo, hfind, rfl⟩, change, i, hpath⟩ := h
  obtain ⟨step, change', i', rest, address, hsteps, haddress, hhash⟩ :=
    paired_of_checkTx htx hcheck hxpub hkey hinput hfind
  -- five steps in the account are the five steps that the check reads
  have hsame : change' = change ∧ i' = i := by
    rw [hpath] at hsteps
    simp [cardanoAccount] at hsteps
    exact ⟨hsteps.2.1.symm, hsteps.2.2.1.symm⟩
  rw [hsame.1, hsame.2, ← hpath] at hhash
  exact ⟨input, hinput, utxo, address, hfind, rfl, haddress, hhash⟩

theorem isInputPath_of_isVerified (htx : lib.fromBytes bytes = some tx)
    (hcheck : checkTx lib bytes context = .ok ()) (hxpub : context.cardanoXpub = some xpub)
    (hkey : IsKeyAt lib.toEd25519Lib masterKey (cardanoAccount index) xpub)
    (hapart : Apart lib context masterKey (cardanoAccount index)) {path : DerivationPath}
    (hpath : path ∈ context.signingPaths)
    (h : IsVerified lib tx context masterKey (lib.pubkeyAt masterKey path)) :
    IsInputPath tx context (cardanoAccount index) path := by
  obtain ⟨input, hinput, utxo, address, hfind, hpubkey, haddress, hhash⟩ := h
  obtain ⟨step, change, i, rest, address', hsteps, haddress', hhash'⟩ :=
    paired_of_checkTx htx hcheck hxpub hkey hinput hfind
  cases haddress.symm.trans haddress'
  have hutxo : utxo.path ∈ context.keyPaths.map KeyPath.path :=
    List.mem_map_of_mem
      (List.mem_append_left _ (List.mem_map_of_mem (List.mem_of_find?_eq_some hfind)))
  have hgiven : path ∈ context.keyPaths.map KeyPath.path := by
    obtain ⟨key, hmem, -, rfl⟩ := mem_signingPaths.mp hpath
    exact List.mem_map_of_mem hmem
  have hin : cardanoAccount index ++ [.normal change, .normal i]
      ∈ (context.keyPaths.map KeyPath.path).map
        fun path => cardanoAccount index ++ (path.drop 3).take 2 :=
    List.mem_map.mpr ⟨utxo.path, hutxo, by rw [hsteps]; rfl⟩
  have hsame : utxo.path = path :=
    hapart _ (List.mem_append_left _ hutxo) _ (List.mem_append_left _ hgiven) (by rw [hpubkey])
  have haccount : path = cardanoAccount index ++ [.normal change, .normal i] :=
    hapart _ (List.mem_append_left _ hgiven) _ (List.mem_append_right _ hin)
      (Option.some.inj (hhash.symm.trans hhash'))
  exact ⟨⟨input, hinput, utxo, hfind, hsame⟩, change, i, haccount⟩

end

/-- The keys that sign a transaction which is accepted are verified or needed if each path of the
device is that of an output that an input means, two steps below the account, or its key is
needed. -/
theorem onlyVerified_iff {XPrv XPub : Type} (lib : CardanoLib XPrv XPub) (bytes : List UInt8)
    (context : ParseContext) (tx : Transaction) (masterKey : XPrv) (index : UInt32) (xpub : Text)
    (vkeys : List Vkeywitness) (htx : lib.fromBytes bytes = some tx)
    (hxpub : context.cardanoXpub = some xpub)
    (hkey : IsKeyAt lib.toEd25519Lib masterKey (cardanoAccount index) xpub)
    (hapart : Apart lib context masterKey (cardanoAccount index))
    (hcheck : checkTx lib bytes context = .ok ())
    (hsign : witnesses lib bytes context masterKey = .ok vkeys) :
    OnlyVerified lib tx context masterKey vkeys ↔ ∀ path ∈ context.signingPaths,
      IsInputPath tx context (cardanoAccount index) path
        ∨ IsRequired lib tx (lib.pubkeyAt masterKey path) := by
  constructor
  · intro h path hpath
    obtain ⟨witness, hwitness, hvkey⟩ := (mem_vkeys hsign _).mpr ⟨path, hpath, rfl⟩
    have hallowed := h witness hwitness
    rw [hvkey] at hallowed
    exact hallowed.imp_left (isInputPath_of_isVerified htx hcheck hxpub hkey hapart hpath)
  · intro h witness hwitness
    obtain ⟨path, hpath, hvkey⟩ := (mem_vkeys hsign _).mp ⟨witness, hwitness, rfl⟩
    rw [← hvkey]
    exact (h path hpath).imp_left (isVerified_of_isInputPath htx hcheck hxpub hkey)

def sampleTxid : Block 32 := Block.fill 32 0x11

def sampleBody : List UInt8 :=
  [0xa4, 0x00, 0x81, 0x82, 0x58, 0x20] ++ sampleTxid.bytes
    ++ [0x00, 0x01, 0x81, 0x82, 0x58, 0x1d, 0x61] ++ paymentKey.hash.bytes
    ++ [0x1a, 0x00, 0x0f, 0x42, 0x40, 0x02, 0x1a, 0x00, 0x02, 0x98, 0x10, 0x05, 0xa1, 0x58, 0x1d, 0xe1]
    ++ stakeKey.hash.bytes ++ [0x00]

def sampleBytes : List UInt8 := 0x84 :: sampleBody ++ [0xa0, 0xf5, 0xf6]

def sampleTx : Transaction where
  rawBody := sampleBody
  inputs := [⟨sampleTxid, 0⟩]
  certs := none
  networkId := none
  outputNetworks := [some 1]
  requiredSigners := [stakeKey.hash]

def sampleHash : Block 32 := Block.ofBytes 32
  [0x24, 0xe2, 0x9f, 0xba, 0x6a, 0x14, 0xf8, 0x3a, 0x55, 0xcd, 0x8f, 0xa7, 0x5b, 0x4f, 0xa9, 0xd4,
  0x51, 0x3e, 0xe5, 0x61, 0x1b, 0x53, 0x70, 0xa9, 0xd0, 0xb4, 0xcf, 0xaa, 0x99, 0xd7, 0xdf, 0x40]

def sampleXpub : List UInt8 :=
  [0xbe, 0xb7, 0xe7, 0x70, 0xb3, 0xd0, 0xf1, 0x93, 0x2b, 0x0a, 0x2f, 0x3a, 0x63, 0x28, 0x5b, 0xf9,
  0xef, 0x7d, 0x3e, 0x46, 0x1d, 0x55, 0x44, 0x6d, 0x6a, 0x39, 0x11, 0xd8, 0xf0, 0xee, 0x55, 0xc0,
  0xb0, 0xe2, 0xdf, 0x16, 0x53, 0x85, 0x08, 0x04, 0x66, 0x49, 0xd0, 0xe6, 0xd5, 0xb3, 0x29, 0x69,
  0x55, 0x5a, 0x23, 0xf2, 0xf1, 0xeb, 0xf2, 0xdb, 0x28, 0x19, 0x35, 0x9b, 0x0d, 0x88, 0xbd, 0x16]

def sampleAddress : Text := "addr1vy8ac7qqy0vtulyl7wntmsxc6wex80gvcyjy33qffrhm7ss7lxrqp".toList

def sampleSign (path : DerivationPath) (message : List UInt8) : Block 64 :=
  if message ≠ sampleHash.bytes then Block.zero 64
  else if path = paymentKey.path then Block.ofBytes 64
    [0xa9, 0xb3, 0x6d, 0x96, 0x8c, 0x94, 0x77, 0x98, 0xac, 0x61, 0xce, 0x13, 0xd7, 0xef, 0x88, 0x37,
    0x15, 0xe9, 0xd8, 0x77, 0x5c, 0x71, 0xdb, 0x19, 0x05, 0xb2, 0x60, 0x73, 0xdc, 0x51, 0x4e, 0x34,
    0x59, 0x89, 0x76, 0x41, 0x61, 0x22, 0x22, 0x04, 0x85, 0x3d, 0xbd, 0x34, 0x3a, 0xe1, 0x7f, 0x51,
    0x9c, 0x54, 0x59, 0xe8, 0xb6, 0xfd, 0x40, 0xc8, 0xd1, 0xea, 0x63, 0x7b, 0x1a, 0x67, 0xb2, 0x03]
  else if path = stakeKey.path then Block.ofBytes 64
    [0x9a, 0x9a, 0x23, 0xbc, 0xb3, 0x23, 0xc3, 0x13, 0x8a, 0x15, 0x60, 0xfd, 0x15, 0xab, 0x0e, 0x2b,
    0xda, 0x17, 0x9d, 0x0f, 0xd7, 0x68, 0xbd, 0x6f, 0x72, 0x48, 0x9a, 0xa4, 0xc9, 0x68, 0x92, 0xe8,
    0xca, 0x4c, 0xc5, 0x3a, 0xfc, 0xa5, 0xbe, 0x89, 0x23, 0xb5, 0x05, 0x53, 0x8d, 0x36, 0x1e, 0xee,
    0x0f, 0x4d, 0x76, 0xc2, 0x03, 0xe6, 0x59, 0xef, 0xaf, 0x27, 0x59, 0x87, 0x8b, 0x24, 0x42, 0x00]
  else if path = otherKey.path then Block.ofBytes 64
    [0x83, 0xc1, 0xa9, 0xa9, 0xf2, 0xe6, 0x5c, 0xb1, 0x38, 0x4f, 0x78, 0x84, 0x0e, 0xfb, 0x3a, 0x1f,
    0x6a, 0x7f, 0x5b, 0x05, 0xe9, 0xc5, 0x9c, 0xae, 0x20, 0x7a, 0x5d, 0xcc, 0x64, 0xaa, 0x1e, 0x2f,
    0x2e, 0x56, 0xde, 0x4d, 0xe3, 0x19, 0x31, 0xac, 0x74, 0x79, 0xdf, 0xd5, 0x3b, 0x48, 0x6f, 0x69,
    0xc5, 0x35, 0xba, 0xcc, 0x42, 0x24, 0xe1, 0x3c, 0xee, 0x7d, 0x4b, 0x3b, 0x54, 0x13, 0xed, 0x0e]
  else Block.zero 64

def CardanoLib.sample : CardanoLib DerivationPath DerivationPath where
  toAddressLib := .sample fun text =>
    if text = sampleAddress then some (.enterprise (.keyHash paymentKey.hash)) else none
  toEd25519Lib := .sample
    (fun bytes => if bytes = sampleXpub then some (cardanoAccount 0) else none) sampleSign
  fromBytes bytes := if bytes = sampleBytes then some sampleTx else none
  blake2b256 bytes := if bytes = sampleBody then sampleHash else Block.zero 32
  normalizeCoin _ := []
  isPoint _ := true
  witnessSetToBytes vkeys := [0xa1, 0x00, 0x80 + UInt8.ofNat vkeys.length] ++ vkeys.flatMap fun w =>
    [0x82, 0x58, 0x20] ++ w.vkey.bytes ++ [0x58, 0x40] ++ w.signature.bytes

def sampleFingerprint : List UInt8 := [0x52, 0x74, 0x47, 0x03]

def sampleUtxo : CardanoUtxo :=
  ⟨⟨sampleFingerprint, paymentKey.path⟩, sampleAddress, 1170000, sampleTxid.bytes, 0⟩

def sampleContext (others : List CardanoUtxo) : ParseContext where
  utxos := sampleUtxo :: others
  certKeys := [⟨⟨sampleFingerprint, stakeKey.path⟩, stakeKey.hash.bytes⟩]
  cardanoXpub := some (Bytes.hexText sampleXpub)
  masterFingerprint := sampleFingerprint

def otherUtxo : CardanoUtxo := ⟨⟨sampleFingerprint, otherKey.path⟩, [], 0, (Block.zero 32).bytes, 0⟩

theorem isKeyAt_sample :
    IsKeyAt CardanoLib.sample.toEd25519Lib [] (cardanoAccount 0) (Bytes.hexText sampleXpub) :=
  ⟨sampleXpub, Bytes.hexDecode_hexText _, rfl⟩

theorem apart_sample : Apart .sample (sampleContext []) [] (cardanoAccount 0) := by
  unfold Apart
  decide

theorem fromBytes_sample : CardanoLib.sample.fromBytes sampleBytes = some sampleTx := by
  decide

theorem onlyVerified_iff_sample : ∃ vkeys,
    witnesses .sample sampleBytes (sampleContext []) [] = .ok vkeys
      ∧ (OnlyVerified .sample sampleTx (sampleContext []) [] vkeys
        ↔ ∀ path ∈ (sampleContext []).signingPaths,
          IsInputPath sampleTx (sampleContext []) (cardanoAccount 0) path
            ∨ IsRequired .sample sampleTx (CardanoLib.sample.pubkeyAt [] path)) := by
  obtain ⟨vkeys, hvkeys⟩ : ∃ vkeys,
      witnesses .sample sampleBytes (sampleContext []) [] = .ok vkeys :=
    Outcome.exists_of_isOk (by decide)
  have hcheck : checkTx .sample sampleBytes (sampleContext []) = .ok () := by
    decide
  exact ⟨vkeys, hvkeys, onlyVerified_iff .sample sampleBytes (sampleContext []) sampleTx [] 0
    (Bytes.hexText sampleXpub) vkeys fromBytes_sample rfl isKeyAt_sample apart_sample hcheck hvkeys⟩

/-- With an output of the second account among the host's the check succeeds, and its key signs. -/
theorem not_onlyVerified_otherUtxo : ¬∀ (XPrv XPub : Type) (lib : CardanoLib XPrv XPub)
    (bytes : List UInt8) (context : ParseContext) (tx : Transaction) (masterKey : XPrv)
    (index : UInt32) (xpub : Text) (vkeys : List Vkeywitness), lib.fromBytes bytes = some tx →
    context.cardanoXpub = some xpub →
    IsKeyAt lib.toEd25519Lib masterKey (cardanoAccount index) xpub →
    Apart lib context masterKey (cardanoAccount index) →
    checkTx lib bytes context = .ok () → witnesses lib bytes context masterKey = .ok vkeys →
    OnlyVerified lib tx context masterKey vkeys := by
  intro hall
  have hapart : Apart .sample (sampleContext [otherUtxo]) [] (cardanoAccount 0) := by
    unfold Apart
    decide
  obtain ⟨vkeys, hvkeys⟩ : ∃ vkeys,
      witnesses .sample sampleBytes (sampleContext [otherUtxo]) [] = .ok vkeys :=
    Outcome.exists_of_isOk (by decide)
  have hcheck : checkTx .sample sampleBytes (sampleContext [otherUtxo]) = .ok () := by
    decide
  have honly := hall _ _ .sample sampleBytes (sampleContext [otherUtxo]) sampleTx [] 0
    (Bytes.hexText sampleXpub) vkeys fromBytes_sample rfl isKeyAt_sample hapart hcheck hvkeys
  obtain ⟨witness, hwitness, hvkey⟩ := (mem_vkeys hvkeys otherKey.pubkey).mpr
    ⟨otherKey.path, by decide, by decide⟩
  have hallowed := honly witness hwitness
  rw [hvkey] at hallowed
  rcases hallowed with hverified | hrequired
  · obtain ⟨input, hinput, utxo, address, hfind, hpubkey, -⟩ := hverified
    cases List.mem_singleton.mp hinput
    have hfirst : (sampleContext [otherUtxo]).findUtxo ⟨sampleTxid, 0⟩ = some sampleUtxo := by
      decide
    cases hfirst.symm.trans hfind
    revert hpubkey
    decide
  · revert hrequired
    unfold IsRequired
    decide

end Keystone3.Cardano
