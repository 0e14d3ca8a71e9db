import Keystone3.Monero.TransferKey

/-!
# Key images

The key image of an output is computed in three places: for an export, for the
signed transaction set, and when the output is spent. Each selects for itself
which published key the output's secret is derived from. `key_images_agree` says
for which outputs the three selections are the same.
-/

namespace Keystone3.Monero

open Bytes (Block)
open Logic (Outcome)
open Logic.Outcome (bind_eq_ok ok_bind)

def encodeVarinteger : Nat → Nat → List UInt8
  | 0, _ => []
  | rounds + 1, value =>
    if value > 127 then (UInt8.ofNat value ||| 128) :: encodeVarinteger rounds (value >>> 7)
    else [UInt8.ofNat value]

/-- `encode`, for which ten bytes are enough. -/
def writeVarinteger (value : UInt64) : List UInt8 := encodeVarinteger 10 value.toNat

section

variable {Point : Type} [AddCommGroup Point] (c : Curve Point) (keypair : KeyPair)

def calcOutputKeyOffset (txPubkey : Block 32) (internalOutputIndex : UInt64)
    (major minor : UInt32) : Result Scalar := do
  let p ← c.point txPubkey
  let recvDerivation := Curve.mulByCofactor (keypair.view • p)
  let keyOffset := c.hashToScalar
    ((c.compress recvDerivation).bytes ++ writeVarinteger internalOutputIndex)
  pure (if major ≠ 0 ∨ minor ≠ 0 then c.add keyOffset (keypair.getM c major minor) else keyOffset)

def calcKeyImagePrivateKey (txPubkey : Block 32) (internalOutputIndex : UInt64)
    (major minor : UInt32) : Result Scalar := do
  let keyOffset ← calcOutputKeyOffset c keypair txPubkey internalOutputIndex major minor
  pure (c.add keypair.spend keyOffset)

def additionalTxKey (additionalTxKeys : List (Block 32)) (internalOutputIndex : UInt64) :
    Result (Option (Block 32)) :=
  match additionalTxKeys with
  | [] => .ok none
  | [key] => .ok (some key)
  | keys =>
    match keys[asUsize internalOutputIndex]? with
    | some key => .ok (some key)
    | none => .halted

/-- What the host says of an output of the wallet, less what is only shown. -/
structure ExportedTransferDetail where
  pubkey : Block 32
  internalOutputIndex : UInt64
  txPubkey : Block 32
  additionalTxKeys : List (Block 32)
  major : UInt32
  minor : UInt32

structure KeyImageAndSignature where
  image : Block 32
  signature : Scalar × Scalar

/-- `generate_ring_signature`, for a ring of one, with the secret `k` that is drawn for it. -/
def generateRingSignature (prefixHash : Block 32) (pub : Block 32) (sec k : Scalar) :
    Scalar × Scalar :=
  let h := c.hashToScalar (prefixHash.bytes ++ (c.compress (c.mulBase k)).bytes
    ++ (c.compress (k • c.hashToPoint pub)).bytes)
  (h, c.sub k (h * sec % c.order))

namespace ExportedTransferDetail

variable (d : ExportedTransferDetail)

/-- `generate_key_image`, with the secret `k` that is drawn for the signature. -/
def keyImage (k : Scalar) : Result KeyImageAndSignature := do
  let additionalTxPubKey ←
    (if d.major ≠ 0 ∨ d.minor ≠ 0 then additionalTxKey d.additionalTxKeys d.internalOutputIndex
      else .ok none)
  let keyToUse := additionalTxPubKey.getD d.txPubkey
  let prvkey ← calcKeyImagePrivateKey c keypair keyToUse d.internalOutputIndex d.major d.minor
  let image := c.compress (generateKeyImageFromPrivateKey c prvkey)
  pure ⟨image, generateRingSignature c image d.pubkey prvkey k⟩

def generateKeyImageWithoutSignature : Result (Block 32 × Block 32) := do
  let additionalTxPubKey ← additionalTxKey d.additionalTxKeys d.internalOutputIndex
  let keyToUse := additionalTxPubKey.getD d.txPubkey
  let prvkey ← calcKeyImagePrivateKey c keypair keyToUse d.internalOutputIndex d.major d.minor
  pure (c.compress (c.mulBase prvkey), c.compress (generateKeyImageFromPrivateKey c prvkey))

end ExportedTransferDetail

variable [DecidableEq Point]

def generateKeyImageFromOffset (keyOffset : Scalar) (outputPublicKey : Block 32) :
    Result (Option Point) := do
  let inputKey := c.add keypair.spend keyOffset
  let p ← c.point outputPublicKey
  pure (if c.mulBase inputKey ≠ p then none else some (inputKey • c.hashToPoint outputPublicKey))

def tryToGenerateImage (txPubkey outputPubkey : Block 32) (internalOutputIndex : UInt64)
    (major : UInt32) : List UInt32 → Result (Block 32 × Scalar)
  | [] => .error .generateKeyImageError
  | minor :: optionalMinors => do
    let offset ← calcOutputKeyOffset c keypair txPubkey internalOutputIndex major minor
    match ← generateKeyImageFromOffset c keypair offset outputPubkey with
    | some image => pure (c.compress image, offset)
    | none => tryToGenerateImage txPubkey outputPubkey internalOutputIndex major optionalMinors

def TxConstructionData.calcKeyImageByIndex (tx : TxConstructionData) (sourcesIndex : Nat) :
    Result (Block 32 × Scalar) := do
  let source ← Outcome.index tx.sources sourcesIndex
  let outputEntry ← Outcome.index source.outputs (asUsize source.realOutput)
  unwrap (tryToGenerateImage c keypair source.realOutTxKey outputEntry.key.dest
    source.realOutputInTxIndex tx.subaddrAccount tx.subaddrIndices)

end

/-- An output and the keys that its transaction has published. -/
structure ReceivedOutput where
  pubkey : Block 32
  index : UInt64
  txPubkey : Block 32
  additionalTxKeys : List (Block 32)
  major : UInt32
  minor : UInt32

section

variable {Point : Type} [AddCommGroup Point] [DecidableEq Point] {c : Curve Point}
  {keypair : KeyPair}

namespace ReceivedOutput

def ownKey (o : ReceivedOutput) : Option (Block 32) := o.additionalTxKeys[asUsize o.index]?

/-- There is no choice: the keys that may be selected for the output are one key. -/
def OneKey (o : ReceivedOutput) : Prop :=
  o.additionalTxKeys = [] ∨ o.ownKey = some o.txPubkey ∨ o.additionalTxKeys = [o.txPubkey]

def Published (o : ReceivedOutput) (key : Block 32) : Prop :=
  key = o.txPubkey ∨ key ∈ o.additionalTxKeys

/-- The wallet owns the output: it has come through `key`, one of the two, and `x` is its
secret. -/
structure Owned (c : Curve Point) (keypair : KeyPair) (o : ReceivedOutput) (key : Block 32)
    (x : Scalar) : Prop where
  through : key = o.txPubkey ∨ o.ownKey = some key
  secret : calcKeyImagePrivateKey c keypair key o.index o.major o.minor = .ok x
  pubkey_eq : o.pubkey = c.compress (c.mulBase x)

def image (c : Curve Point) (o : ReceivedOutput) (x : Scalar) : Block 32 :=
  c.compress (x • c.hashToPoint o.pubkey)

/-- The host describes the output for an export, with all additional keys or with its own. -/
structure DescribedBy (o : ReceivedOutput) (d : ExportedTransferDetail) : Prop where
  pubkey : d.pubkey = o.pubkey
  index : d.internalOutputIndex = o.index
  txPubkey : d.txPubkey = o.txPubkey
  major : d.major = o.major
  minor : d.minor = o.minor
  additional : d.additionalTxKeys = o.additionalTxKeys
    ∨ ∃ key, o.ownKey = some key ∧ d.additionalTxKeys = [key]

structure SpentBy (o : ReceivedOutput) (tx : TxConstructionData) (sourcesIndex : Nat) : Prop where
  source : ∃ source entry, tx.sources[sourcesIndex]? = some source
    ∧ source.outputs[asUsize source.realOutput]? = some entry ∧ entry.key.dest = o.pubkey
    ∧ source.realOutTxKey = o.txPubkey ∧ source.realOutAdditionalTxKeys = o.additionalTxKeys
    ∧ source.realOutputInTxIndex = o.index
  account : tx.subaddrAccount = o.major
  minor : o.minor ∈ tx.subaddrIndices

structure Agree (c : Curve Point) (keypair : KeyPair) (d : ExportedTransferDetail)
    (tx : TxConstructionData) (sourcesIndex : Nat) (image : Block 32) : Prop where
  keyImage : ∀ k, ∃ signature, d.keyImage c keypair k = .ok ⟨image, signature⟩
  withoutSignature : ∃ pubkey, d.generateKeyImageWithoutSignature c keypair = .ok (pubkey, image)
  calcKeyImage : ∃ offset, tx.calcKeyImageByIndex c keypair sourcesIndex = .ok (image, offset)

end ReceivedOutput

omit [DecidableEq Point] in
theorem calcKeyImagePrivateKey_eq_ok {key : Block 32} {index : UInt64} {major minor : UInt32}
    {x : Scalar} : calcKeyImagePrivateKey c keypair key index major minor = .ok x
      ↔ ∃ offset, calcOutputKeyOffset c keypair key index major minor = .ok offset
        ∧ x = c.add keypair.spend offset := by
  constructor
  · intro h
    obtain ⟨offset, hoffset, h⟩ := bind_eq_ok.mp h
    cases h
    exact ⟨offset, hoffset, rfl⟩
  · intro h
    obtain ⟨offset, hoffset, rfl⟩ := h
    rw [calcKeyImagePrivateKey, hoffset]
    rfl

theorem additionalTxKey_described {o : ReceivedOutput} {d : ExportedTransferDetail}
    (hd : o.DescribedBy d) (hne : o.additionalTxKeys ≠ [])
    {key : Option (Block 32)} (h : additionalTxKey d.additionalTxKeys d.internalOutputIndex = .ok key) :
    ∃ k, key = some k ∧ (o.ownKey = some k ∨ o.additionalTxKeys = [k]) := by
  unfold additionalTxKey at h
  split at h
  · rename_i hnil
    rcases hd.additional with hsame | ⟨k, -, hone⟩
    · exact absurd (hsame.symm.trans hnil) hne
    · rw [hone] at hnil
      cases hnil
  · rename_i k hone
    cases h
    rcases hd.additional with hsame | ⟨k', hown, hone'⟩
    · exact ⟨k, rfl, .inr (hsame.symm.trans hone)⟩
    · rw [hone] at hone'
      cases hone'
      exact ⟨k, rfl, .inl hown⟩
  · rename_i hmany
    split at h
    · rename_i k hk
      cases h
      rcases hd.additional with hsame | ⟨k', -, hone⟩
      · rw [hsame, hd.index] at hk
        exact ⟨k, rfl, .inl hk⟩
      · exact absurd hone (hmany k')
    · cases h

theorem additionalTxKey_oneKey {o : ReceivedOutput} {d : ExportedTransferDetail}
    (hd : o.DescribedBy d) (hone : o.OneKey) :
    ∃ key, additionalTxKey d.additionalTxKeys d.internalOutputIndex = .ok key
      ∧ key.getD o.txPubkey = o.txPubkey := by
  have hown : ∀ k, o.ownKey = some k → k = o.txPubkey := by
    intro k hk
    rcases hone with hnil | hsame | hlist
    · rw [ReceivedOutput.ownKey, hnil] at hk
      cases hk
    · rw [hsame] at hk
      exact (Option.some.inj hk).symm
    · rw [ReceivedOutput.ownKey, hlist] at hk
      have hmem := List.mem_of_getElem? hk
      exact List.mem_singleton.mp hmem
  have hall : d.additionalTxKeys = o.additionalTxKeys ∨ d.additionalTxKeys = [o.txPubkey] := by
    rcases hd.additional with hsame | ⟨k, hk, hsingle⟩
    · exact .inl hsame
    · rw [hown k hk] at hsingle
      exact .inr hsingle
  rcases hall with hsame | hsingle
  · rcases hone with hnil | hk | hlist
    · rw [hsame, hnil]
      exact ⟨none, rfl, rfl⟩
    · rw [hsame, hd.index]
      rw [ReceivedOutput.ownKey] at hk
      unfold additionalTxKey
      split
      · rename_i hnil
        rw [hnil] at hk
        cases hk
      · rename_i k hlist
        rw [hlist] at hk
        exact ⟨some k, rfl, List.mem_singleton.mp (List.mem_of_getElem? hk) ▸ rfl⟩
      · rw [hk]
        exact ⟨some o.txPubkey, rfl, rfl⟩
    · rw [hsame, hlist]
      exact ⟨some o.txPubkey, rfl, rfl⟩
  · rw [hsingle]
    exact ⟨some o.txPubkey, rfl, rfl⟩

omit [DecidableEq Point] in
theorem calcOutputKeyOffset_ok {key : Block 32} {index : UInt64} {major minor : UInt32}
    {offset : Scalar} (h : calcOutputKeyOffset c keypair key index major minor = .ok offset)
    (minor' : UInt32) : ∃ offset', calcOutputKeyOffset c keypair key index major minor'
      = .ok offset' := by
  obtain ⟨p, hp, -⟩ := bind_eq_ok.mp h
  rw [calcOutputKeyOffset, hp]
  exact ⟨_, rfl⟩

theorem generateKeyImageFromOffset_eq {offset : Scalar} {x : Scalar} (hx : x < c.order) :
    generateKeyImageFromOffset c keypair offset (c.compress (c.mulBase x))
      = .ok (if c.add keypair.spend offset = x
          then some (x • c.hashToPoint (c.compress (c.mulBase x))) else none) := by
  rw [generateKeyImageFromOffset, c.point_compress, ok_bind]
  by_cases heq : c.add keypair.spend offset = x
  · rw [if_pos heq, heq, if_neg (not_not.mpr rfl)]
    rfl
  · have hne : c.mulBase (c.add keypair.spend offset) ≠ c.mulBase x := fun h =>
      heq (c.base_inj _ (c.add_lt _ _) _ hx h)
    rw [if_neg heq, if_pos hne]
    rfl

theorem tryToGenerateImage_of_mem {key : Block 32} {index : UInt64} {major minor : UInt32}
    {x : Scalar} (h : calcKeyImagePrivateKey c keypair key index major minor = .ok x)
    {minors : List UInt32} (hmem : minor ∈ minors) :
    ∃ offset, tryToGenerateImage c keypair key (c.compress (c.mulBase x)) index major minors
      = .ok (c.compress (x • c.hashToPoint (c.compress (c.mulBase x))), offset) := by
  obtain ⟨offset, hoffset, hx⟩ := calcKeyImagePrivateKey_eq_ok.mp h
  have hlt : x < c.order := by
    rw [hx]
    exact c.add_lt _ _
  induction minors with
  | nil => exact absurd hmem List.not_mem_nil
  | cons minor' minors ih =>
    obtain ⟨offset', hoffset'⟩ := calcOutputKeyOffset_ok hoffset minor'
    rw [tryToGenerateImage, hoffset', ok_bind, generateKeyImageFromOffset_eq hlt, ok_bind]
    by_cases heq : c.add keypair.spend offset' = x
    · rw [if_pos heq]
      exact ⟨offset', rfl⟩
    · rw [if_neg heq]
      rcases List.mem_cons.mp hmem with rfl | hmem
      · rw [hoffset] at hoffset'
        cases hoffset'
        exact absurd hx.symm heq
      · exact ih hmem

theorem tryToGenerateImage_eq_ok {key : Block 32} {index : UInt64} {major : UInt32} {x : Scalar}
    (hx : x < c.order) {minors : List UInt32} {image : Block 32} {offset : Scalar}
    (h : tryToGenerateImage c keypair key (c.compress (c.mulBase x)) index major minors
      = .ok (image, offset)) :
    ∃ minor ∈ minors, calcKeyImagePrivateKey c keypair key index major minor = .ok x
      ∧ c.add keypair.spend offset = x
      ∧ image = c.compress (x • c.hashToPoint (c.compress (c.mulBase x))) := by
  induction minors with
  | nil => cases h
  | cons minor minors ih =>
    obtain ⟨offset', hoffset', h⟩ := bind_eq_ok.mp h
    rw [generateKeyImageFromOffset_eq hx, ok_bind] at h
    by_cases heq : c.add keypair.spend offset' = x
    · rw [if_pos heq] at h
      cases h
      exact ⟨minor, .head _, calcKeyImagePrivateKey_eq_ok.mpr ⟨_, hoffset', heq.symm⟩,
        heq, rfl⟩
    · rw [if_neg heq] at h
      obtain ⟨minor', hmem, hrest⟩ := ih h
      exact ⟨minor', List.mem_cons_of_mem minor hmem, hrest⟩

/-- **When the three images are the image.** For an output that the wallet owns they are if there
is one key to select. If they are, and no other published key gives the image, there is. -/
theorem key_images_agree (c : Curve Point) {keypair : KeyPair} {o : ReceivedOutput}
    {key : Block 32} {x : Scalar} (howned : o.Owned c keypair key x) {d : ExportedTransferDetail}
    (hd : o.DescribedBy d) {tx : TxConstructionData} {sourcesIndex : Nat}
    (hspent : o.SpentBy tx sourcesIndex) :
    (o.OneKey → ReceivedOutput.Agree c keypair d tx sourcesIndex (o.image c x))
    ∧ ((∀ (key' : Block 32) (minor : UInt32) (x' : Scalar), o.Published key' →
        calcKeyImagePrivateKey c keypair key' o.index o.major minor = .ok x' →
        c.compress (generateKeyImageFromPrivateKey c x') = o.image c x → key' = key) →
      ReceivedOutput.Agree c keypair d tx sourcesIndex (o.image c x) → o.OneKey) := by
  obtain ⟨source, entry, hsource, hentry, hdest, hkey, -, hindex⟩ := hspent.source
  have hx : x < c.order := by
    obtain ⟨offset, -, hx⟩ := calcKeyImagePrivateKey_eq_ok.mp howned.secret
    rw [hx]
    exact c.add_lt _ _
  have hcalc : tx.calcKeyImageByIndex c keypair sourcesIndex
      = unwrap (tryToGenerateImage c keypair o.txPubkey (c.compress (c.mulBase x)) o.index o.major
        tx.subaddrIndices) := by
    rw [TxConstructionData.calcKeyImageByIndex, Outcome.index, hsource]
    show (Outcome.index source.outputs _ >>= _) = _
    rw [Outcome.index, hentry]
    show unwrap (tryToGenerateImage c keypair source.realOutTxKey _ _ _ _) = _
    rw [hkey, hdest, hindex, hspent.account, howned.pubkey_eq]
  constructor
  · intro hone
    have hthrough : key = o.txPubkey := by
      rcases howned.through with hkey | hown
      · exact hkey
      · rcases hone with hnil | hsame | hlist
        · rw [ReceivedOutput.ownKey, hnil] at hown
          cases hown
        · rw [hsame] at hown
          exact (Option.some.inj hown).symm
        · rw [ReceivedOutput.ownKey, hlist] at hown
          exact List.mem_singleton.mp (List.mem_of_getElem? hown)
    obtain ⟨selected, hselected, hgetD⟩ := additionalTxKey_oneKey hd hone
    have hsecret := howned.secret
    rw [hthrough] at hsecret
    have himage : c.compress (generateKeyImageFromPrivateKey c x) = o.image c x := by
      rw [ReceivedOutput.image, howned.pubkey_eq]
      rfl
    refine ⟨fun k => ?_, ?_, ?_⟩
    · unfold ExportedTransferDetail.keyImage
      rw [hd.major, hd.minor, hselected]
      split
      · rw [ok_bind, hd.txPubkey, hgetD, hd.index]
        dsimp only
        rw [hsecret, ok_bind, himage]
        exact ⟨_, rfl⟩
      · rw [ok_bind, Option.getD_none, hd.txPubkey, hd.index]
        dsimp only
        rw [hsecret, ok_bind, himage]
        exact ⟨_, rfl⟩
    · rw [ExportedTransferDetail.generateKeyImageWithoutSignature, hselected, ok_bind,
        hd.txPubkey, hgetD, hd.index, hd.major, hd.minor]
      dsimp only
      rw [hsecret, ok_bind, himage]
      exact ⟨_, rfl⟩
    · obtain ⟨offset, hoffset⟩ := tryToGenerateImage_of_mem hsecret hspent.minor
      rw [hcalc, hoffset, ReceivedOutput.image, howned.pubkey_eq]
      exact ⟨offset, rfl⟩
  · intro hdistinct hagree
    -- spending goes through the transaction key
    have hthrough : o.txPubkey = key := by
      obtain ⟨offset, hoffset⟩ := hagree.calcKeyImage
      rw [hcalc, unwrap_eq_ok] at hoffset
      obtain ⟨minor, -, hsecret, -, -⟩ := tryToGenerateImage_eq_ok hx hoffset
      refine hdistinct _ minor x (.inl rfl) hsecret ?_
      rw [ReceivedOutput.image, howned.pubkey_eq]
      rfl
    -- and the second computation through an additional key, if there is one
    by_cases hnil : o.additionalTxKeys = []
    · exact .inl hnil
    · obtain ⟨pubkey, hwithout⟩ := hagree.withoutSignature
      obtain ⟨selected, hselected, hwithout⟩ := bind_eq_ok.mp hwithout
      dsimp only at hwithout
      obtain ⟨x', hsecret, himage⟩ := bind_eq_ok.mp hwithout
      obtain ⟨k, rfl, hk⟩ := additionalTxKey_described hd hnil hselected
      rw [hd.index, hd.major, Option.getD_some] at hsecret
      have hpublished : k ∈ o.additionalTxKeys := by
        rcases hk with hown | hlist
        · exact List.mem_of_getElem? hown
        · rw [hlist]
          exact List.mem_singleton_self k
      have hsame := hdistinct k _ x' (.inr hpublished) hsecret (Prod.mk.inj (Outcome.ok.inj himage)).2
      rw [hsame, ← hthrough] at hk
      exact .inr hk

end

theorem calcKeyImagePrivateKey_small :
    calcKeyImagePrivateKey smallCurve.toCurve smallWallet (Block.ofBytes 32 [1]) 0 0 0 = .ok 7 := by
  rw [calcKeyImagePrivateKey_eq_ok]
  exact ⟨3, by decide, by decide⟩

theorem compress_small_seven :
    smallCurve.compress (smallCurve.mulBase 7) = Block.ofBytes 32 [7] := by
  decide

def smallOutput (additionalTxKeys : List (Block 32)) : ReceivedOutput where
  pubkey := Block.ofBytes 32 [7]
  index := 0
  txPubkey := Block.ofBytes 32 [1]
  additionalTxKeys
  major := 0
  minor := 0

def smallDetail (additionalTxKeys : List (Block 32)) : ExportedTransferDetail where
  pubkey := Block.ofBytes 32 [7]
  internalOutputIndex := 0
  txPubkey := Block.ofBytes 32 [1]
  additionalTxKeys
  major := 0
  minor := 0

def smallSpend (additionalTxKeys : List (Block 32)) : TxConstructionData where
  __ := smallTx (smallDest 4 2 false)
  sources := [{
    outputs := [⟨5, ⟨Block.ofBytes 32 [7], Block.ofBytes 32 [0]⟩⟩]
    realOutput := 0
    realOutTxKey := Block.ofBytes 32 [1]
    realOutAdditionalTxKeys := additionalTxKeys
    realOutputInTxIndex := 0
    amount := 10
    mask := Block.ofBytes 32 [0] }]

variable (additionalTxKeys : List (Block 32))

theorem owned_smallOutput :
    (smallOutput additionalTxKeys).Owned smallCurve.toCurve smallWallet (Block.ofBytes 32 [1]) 7 :=
  ⟨.inl rfl, calcKeyImagePrivateKey_small, compress_small_seven.symm⟩

theorem describedBy_smallDetail :
    (smallOutput additionalTxKeys).DescribedBy (smallDetail additionalTxKeys) :=
  ⟨rfl, rfl, rfl, rfl, rfl, .inl rfl⟩

theorem spentBy_smallSpend :
    (smallOutput additionalTxKeys).SpentBy (smallSpend additionalTxKeys) 0 :=
  ⟨⟨_, _, rfl, rfl, rfl, rfl, rfl, rfl⟩, rfl, List.mem_singleton_self 0⟩

/-- Without additional keys there is one image. -/
theorem key_images_agree_small : ReceivedOutput.Agree smallCurve.toCurve smallWallet (smallDetail [])
    (smallSpend []) 0 ((smallOutput []).image smallCurve.toCurve 7) :=
  (key_images_agree smallCurve.toCurve (owned_smallOutput []) (describedBy_smallDetail [])
    (spentBy_smallSpend [])).1 (.inl rfl)

/-- **Two images of one output**, at the primary address, whose transaction has an additional
key. -/
theorem key_images_differ : ¬∀ (c : Curve (ZMod 13)) (keypair : KeyPair) (o : ReceivedOutput)
    (key : Block 32) (x : Scalar), o.Owned c keypair key x →
    ∀ d : ExportedTransferDetail, o.DescribedBy d →
    ∀ (tx : TxConstructionData) (sourcesIndex : Nat), o.SpentBy tx sourcesIndex →
      ReceivedOutput.Agree c keypair d tx sourcesIndex (o.image c x) := by
  intro claim
  have hagree := claim smallCurve.toCurve smallWallet _ _ _
    (owned_smallOutput [Block.ofBytes 32 [2]]) _ (describedBy_smallDetail _) _ _
    (spentBy_smallSpend _)
  obtain ⟨pubkey, hother⟩ := hagree.withoutSignature
  have himage := (Prod.mk.inj (Outcome.ok.inj hother)).2
  cases himage

end Keystone3.Monero
