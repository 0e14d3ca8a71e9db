import Keystone3.Bytes.Block
import Keystone3.Bytes.Feistel
import Keystone3.Slip39.Interpolate
import Keystone3.Slip39.Words

/-!
# Enciphering a master secret and sharing it

A master secret is first enciphered with four rounds of a Feistel network
(`masterSecretEncrypt`), and it is the cipher text that is shared. `splitSecret` draws
random shares at the places `0`, `1`, .. and puts the secret at place 255 and a share of
random bytes with a digest of the secret at place 254; the shares that are given out are
read from the curve through these.

HMAC and PBKDF2 are parameters (`Sha256`): what is proved here holds of any two
functions that give as many bytes as they are asked for.
-/

namespace Keystone3.Slip39

open Bytes (Block)
open Bytes.Feistel (rounds rounds_reverse)
open Shamir

/-- The functions of `hmac.c` and `pbkdf2.c`. -/
structure Sha256 where
  hmacSha256 : (key msg : List UInt8) → List UInt8
  pbkdf2HmacSha256Slip39 : (pass salt : List UInt8) → (iterations keylen : Nat) → List UInt8
  length_hmacSha256 : ∀ key msg, (hmacSha256 key msg).length = 32
  length_pbkdf2 : ∀ pass salt iterations keylen,
    (pbkdf2HmacSha256Slip39 pass salt iterations keylen).length = keylen

variable (sha : Sha256)

def digestIndex : UInt8 := 254

def secretIndex : UInt8 := 255

/-- Nothing for an extendable backup, and otherwise `shamir` with
the identifier. -/
def getSalt (id : Nat) (eb : Bool) : List UInt8 :=
  if eb then [] else [115, 104, 97, 109, 105, 114, UInt8.ofNat (id >>> 8), UInt8.ofNat (id &&& 0xFF)]

/-- `PBKDF2_BASE_ITERATION_COUNT << ie`, in 32 bits. -/
def iterations (ie : Nat) : Nat := (2500 <<< ie) % 2 ^ 32

/-- The key of round `i`: `pass` and `salt` and then the right half. -/
def roundKey (pass salt : List UInt8) (ie : Nat) {n : Nat} (r : Block n) : Block n :=
  ⟨sha.pbkdf2HmacSha256Slip39 pass (salt ++ r.bytes) (iterations ie) n, sha.length_pbkdf2 _ _ _ _⟩

/-- The two halves of a buffer of `n + n` bytes. -/
def halves (n : Nat) (bytes : List UInt8) : Block n × Block n :=
  (Block.ofBytes n bytes, Block.ofBytes n (bytes.drop n))

/-- The loops of `MasterSecretEncrypt` and `_decrypt`, `(L, R) = (R, L xor F(i, R))`
over the rounds, and the halves written the other way round. -/
def crypt (n : Nat) (pass : Nat → List UInt8) (salt : List UInt8) (ie : Nat) (order : List Nat)
    (bytes : List UInt8) : List UInt8 :=
  let r := rounds Block.xor (fun i r => roundKey sha (pass i) salt ie r) order (halves n bytes)
  r.2.bytes ++ r.1.bytes

/-- The passphrase counts with its length only, as the
buffer for it is left at zero. -/
def masterSecretEncrypt (masterSecret : List UInt8) (ie : Nat) (eb : Bool) (id : Nat)
    (passPhrase : List UInt8) : List UInt8 :=
  crypt sha (masterSecret.length / 2)
    (fun i => (List.replicate ((passPhrase.length + 1) % 256) 0).set 0 (UInt8.ofNat i))
    (getSalt id eb) ie [0, 1, 2, 3] masterSecret

/-- `_decrypt`, where what is deciphered and the result have the same length. -/
def decrypt (ems pp : List UInt8) (ie : Nat) (eb : Bool) (id : Nat) : Except Int (List UInt8) :=
  if ems.length % 2 = 1 then .error (-2)
  else .ok (crypt sha (ems.length / 2) (fun i => UInt8.ofNat i :: pp) (getSalt id eb) ie
    [3, 2, 1, 0] ems)

theorem halves_append {n : Nat} (a b : Block n) : halves n (a.bytes ++ b.bytes) = (a, b) := by
  have ha : Block.ofBytes n (a.bytes ++ b.bytes) = a := by
    refine Block.ext ?_
    show (a.bytes ++ b.bytes).take n ++ List.replicate (n - (a.bytes ++ b.bytes).length) 0 = a.bytes
    rw [List.length_append, a.size_eq, b.size_eq, Nat.sub_eq_zero_of_le (Nat.le_add_right n n),
      List.replicate_zero, List.append_nil, List.take_left' a.size_eq]
  rw [halves, ha, List.drop_left' a.size_eq, Block.ofBytes_bytes]

theorem append_halves {n : Nat} {bytes : List UInt8} (h : bytes.length = n + n) :
    (halves n bytes).1.bytes ++ (halves n bytes).2.bytes = bytes := by
  have hdrop : (bytes.drop n).length = n := by
    rw [List.length_drop]
    omega
  show (bytes.take n ++ List.replicate (n - bytes.length) 0)
    ++ ((bytes.drop n).take n ++ List.replicate (n - (bytes.drop n).length) 0) = bytes
  have hshort : n - bytes.length = 0 := by omega
  rw [hdrop, List.take_of_length_le (Nat.le_of_eq hdrop), Nat.sub_self, hshort,
    List.replicate_zero, List.append_nil, List.append_nil, List.take_append_drop]

@[simp] theorem length_crypt (n : Nat) (pass : Nat → List UInt8) (salt : List UInt8) (ie : Nat)
    (order : List Nat) (bytes : List UInt8) :
    (crypt sha n pass salt ie order bytes).length = n + n := by
  rw [crypt, List.length_append, Block.size_eq, Block.size_eq]

theorem crypt_reverse (n : Nat) (pass : Nat → List UInt8) (salt : List UInt8) (ie : Nat)
    (order : List Nat) {bytes : List UInt8} (h : bytes.length = n + n) :
    crypt sha n pass salt ie order.reverse (crypt sha n pass salt ie order bytes) = bytes := by
  have hundo := rounds_reverse Block.xor (fun i r => roundKey sha (pass i) salt ie r)
    Block.xor_xor_cancel_right order (halves n bytes)
  show (rounds Block.xor (fun i r => roundKey sha (pass i) salt ie r) order.reverse
      (halves n (_ ++ _))).2.bytes
    ++ (rounds Block.xor (fun i r => roundKey sha (pass i) salt ie r) order.reverse
      (halves n (_ ++ _))).1.bytes = bytes
  rw [halves_append]
  exact (congrArg (fun r : Block n × Block n => r.2.bytes ++ r.1.bytes) hundo).trans
    (append_halves h)

theorem length_masterSecretEncrypt {masterSecret : List UInt8} (heven : masterSecret.length % 2 = 0)
    (ie : Nat) (eb : Bool) (id : Nat) (passPhrase : List UInt8) :
    (masterSecretEncrypt sha masterSecret ie eb id passPhrase).length = masterSecret.length := by
  rw [masterSecretEncrypt, length_crypt]
  omega

theorem exists_decrypt {ems : List UInt8} (heven : ¬ ems.length % 2 = 1) (ie : Nat) (eb : Bool)
    (id : Nat) : ∃ ms, decrypt sha ems [] ie eb id = .ok ms :=
  ⟨_, if_neg heven⟩

/-- **Deciphering undoes enciphering** without a passphrase. -/
theorem decrypt_masterSecretEncrypt {masterSecret : List UInt8}
    (heven : masterSecret.length % 2 = 0) (ie : Nat) (eb : Bool) (id : Nat) :
    decrypt sha (masterSecretEncrypt sha masterSecret ie eb id []) [] ie eb id
      = .ok masterSecret := by
  have hlength := length_masterSecretEncrypt sha heven ie eb id []
  rw [decrypt, hlength, if_neg (by omega)]
  exact congrArg Except.ok
    (crypt_reverse sha _ (fun i => [UInt8.ofNat i]) (getSalt id eb) ie [0, 1, 2, 3] (by omega))

inductive Failure where
  /-- A return value below zero. -/
  | code (ret : Int)
  /-- A write before the start of an array. -/
  | outOfBounds

/-- `random_buffer`, on a source that has given `position` bytes so far. -/
def randomBuffer (random : Nat → UInt8) (position len : Nat) : List UInt8 :=
  (List.range len).map fun k => random (position + k)

/-- The share at `DIGEST_INDEX`: a digest of the secret, and the random bytes
that were its key. -/
def digestShare (key secret : List UInt8) : List UInt8 := (sha.hmacSha256 key secret).take 4 ++ key

/-- The points `SplitSecret` puts down, when the source has given `position` bytes. -/
def basePoints (random : Nat → UInt8) (position threshold : Nat) (enMasterSecret : List UInt8) :
    List (UInt8 × List UInt8) :=
  let n := enMasterSecret.length
  ((List.range (threshold - 2)).map fun i =>
      (UInt8.ofNat i, randomBuffer random (position + i * n) n))
    ++ [(digestIndex,
          digestShare sha (randomBuffer random (position + (threshold - 2) * n) (n - 4)) enMasterSecret),
        (secretIndex, enMasterSecret)]

/-- The shares, and how many bytes the source has given then. -/
def splitSecret (random : Nat → UInt8) (position count threshold : Nat)
    (enMasterSecret : List UInt8) : Except Failure (List (List UInt8) × Nat) :=
  if threshold = 0 ∨ count < threshold ∨ 16 < count then
    .error (.code slip39InvalidGroupThreshold)
  else if count = 1 then .ok ([enMasterSecret], position)
  -- with a threshold of one for several shares, `xi[threshold - 2]` is before the array
  else if threshold = 1 then .error .outOfBounds
  else
    let n := enMasterSecret.length
    .ok ((List.range count).map fun i =>
        interpolate (basePoints sha random position threshold enMasterSecret) (UInt8.ofNat i) n
          threshold,
      position + (threshold - 2) * n + (n - 4))

/-- `_recover_secret`, with `gsi` and `gs` side by side. -/
def recoverSecret (t sl : Nat) (points : List (UInt8 × List UInt8)) : Except Int (List UInt8) :=
  if t = 1 then .ok ((List.range sl).map fun j => (points.headD (0, [])).2.getD j 0)
  else
    let sharedSecret := interpolate points secretIndex sl t
    let digestShare := interpolate points digestIndex sl t
    if digestShare.take 4 = (sha.hmacSha256 (digestShare.drop 4) sharedSecret).take 4 then
      .ok sharedSecret
    else .error (-3)

/-- A secret shared with this threshold: its shares are at place `x`
`share x`. For a threshold of one there is no digest, and every share is the
secret. -/
structure Split (secret : List UInt8) (threshold : Nat) where
  sharing : Sharing Gf256 secret.length threshold
  secret_eq : shareBytes sharing secretIndex = secret
  digest : threshold = 1 ∨
    (shareBytes sharing digestIndex).take 4
      = (sha.hmacSha256 ((shareBytes sharing digestIndex).drop 4) secret).take 4

variable {sha}

def Split.share {secret : List UInt8} {threshold : Nat} (s : Split sha secret threshold)
    (x : UInt8) : List UInt8 := shareBytes s.sharing x

variable {threshold : Nat} {secret : List UInt8}

@[simp] theorem Split.length_share
    (s : Split sha secret threshold) (x : UInt8) : (s.share x).length = secret.length :=
  length_shareBytes s.sharing x

def Split.copy {secret secret' : List UInt8} {threshold : Nat} (s : Split sha secret threshold)
    (h : secret = secret') : Split sha secret' threshold := h ▸ s

@[simp] theorem Split.share_copy {secret secret' : List UInt8}
    (s : Split sha secret threshold) (h : secret = secret') (x : UInt8) :
    (s.copy h).share x = s.share x := by
  subst h
  rfl

theorem shareBytes_const {size : Nat} (s : Sharing Gf256 size 1) (x y : UInt8) :
    shareBytes s x = shareBytes s y := by
  refine List.ext_getElem (by rw [length_shareBytes, length_shareBytes]) fun j hj hj' => ?_
  rw [length_shareBytes] at hj
  have hx := shareBytes_getD s x ⟨j, hj⟩
  have hy := shareBytes_getD s y ⟨j, hj⟩
  have hdegree : (s.curve ⟨j, hj⟩).degree ≤ 0 := Order.lt_succ_iff.mp (s.degree_lt ⟨j, hj⟩)
  rw [Polynomial.eq_C_of_degree_le_zero hdegree, Polynomial.eval_C] at hx hy
  rw [List.getD_eq_getElem?_getD, List.getElem?_eq_getElem (by rwa [length_shareBytes]),
    Option.getD_some] at hx hy
  exact hx.trans hy.symm

theorem Split.share_of_one (s : Split sha secret 1) (x : UInt8) :
    s.share x = secret :=
  (shareBytes_const s.sharing x secretIndex).trans s.secret_eq

theorem range_getD {l : List UInt8} {n : Nat} (h : l.length = n) :
    ((List.range n).map fun j => l.getD j 0) = l := by
  refine List.ext_getElem (by rw [List.length_map, List.length_range, h]) fun j hj hj' => ?_
  rw [List.getElem_map, List.getElem_range, List.getD_eq_getElem?_getD,
    List.getElem?_eq_getElem hj', Option.getD_some]

/-- A secret that looks like a share with its own digest. -/
def SelfDigest (sha : Sha256) (secret : List UInt8) : Prop :=
  secret.take 4 = (sha.hmacSha256 (secret.drop 4) secret).take 4

instance (sha : Sha256) (secret : List UInt8) : Decidable (SelfDigest sha secret) :=
  inferInstanceAs (Decidable (_ = _))

/-- **Shares give the secret back**, when they are at different places and as many are read as
there are. -/
theorem recoverSecret_split (s : Split sha secret threshold)
    {xs : List UInt8} (hnodup : xs.Nodup) (henough : threshold ≤ xs.length) (hpos : 1 ≤ threshold)
    (t : Nat) (ht : t = xs.length) :
    recoverSecret sha t secret.length (xs.map fun x => (x, s.share x))
      = if t ≠ 1 ∧ threshold = 1 ∧ ¬ SelfDigest sha secret then .error (-3) else .ok secret := by
  subst ht
  by_cases hone : xs.length = 1
  · -- a single share with a threshold of one
    have hthreshold : threshold = 1 := by omega
    subst hthreshold
    obtain ⟨x, rfl⟩ := List.length_eq_one_iff.mp hone
    rw [recoverSecret, if_pos hone, if_neg fun h => h.1 hone]
    exact congrArg Except.ok ((range_getD (s.length_share x)).trans (s.share_of_one x))
  · rw [recoverSecret, if_neg hone]
    have hread := fun n => interpolate_shares s.sharing hnodup henough n
    have hsecret : interpolate (xs.map fun x => (x, s.share x)) secretIndex secret.length xs.length
        = secret := (hread secretIndex).trans s.secret_eq
    have hdigest : interpolate (xs.map fun x => (x, s.share x)) digestIndex secret.length xs.length
        = s.share digestIndex := hread digestIndex
    simp only [hsecret, hdigest]
    rcases s.digest with hthreshold | hmatch
    · subst hthreshold
      rw [s.share_of_one]
      by_cases hluck : SelfDigest sha secret
      · exact (if_pos hluck).trans (if_neg fun h => h.2.2 hluck).symm
      · exact (if_neg hluck).trans (if_pos ⟨hone, rfl, hluck⟩).symm
    · by_cases hthreshold : threshold = 1
      · subst hthreshold
        have hluck : SelfDigest sha secret := by
          rwa [shareBytes_const s.sharing digestIndex secretIndex, s.secret_eq] at hmatch
        rw [s.share_of_one]
        exact (if_pos hluck).trans (if_neg fun h => h.2.2 hluck).symm
      · rw [show s.share digestIndex = shareBytes s.sharing digestIndex from rfl, if_pos hmatch,
          if_neg fun h => hthreshold h.2.1]

theorem recoverSecret_take (t sl : Nat) (points : List (UInt8 × List UInt8)) (ht : 1 ≤ t) :
    recoverSecret sha t sl (points.take t) = recoverSecret sha t sl points := by
  have hread : ∀ n, interpolate (points.take t) n sl t = interpolate points n sl t := by
    intro n
    rw [interpolate, interpolate, List.take_take, Nat.min_self]
  have hhead : (points.take t).headD (0, []) = points.headD (0, []) := by
    obtain ⟨k, rfl⟩ : ∃ k, t = k + 1 := ⟨t - 1, by omega⟩
    cases points with
    | nil => rfl
    | cons p points => rfl
  rw [recoverSecret, recoverSecret, hhead]
  simp only [hread]

theorem recoverSecret_enough (s : Split sha secret threshold)
    {xs : List UInt8} (hnodup : xs.Nodup) (henough : threshold ≤ xs.length) (hpos : 1 ≤ threshold) :
    recoverSecret sha threshold secret.length (xs.map fun x => (x, s.share x)) = .ok secret := by
  have hlength : (xs.take threshold).length = threshold := by
    rw [List.length_take, Nat.min_eq_left henough]
  rw [← recoverSecret_take _ _ _ hpos, ← List.map_take,
    recoverSecret_split s (hnodup.sublist (List.take_sublist _ _)) (Nat.le_of_eq hlength.symm) hpos
      threshold hlength.symm, if_neg fun h => h.1 h.2.1]

theorem nodup_basePoints (random : Nat → UInt8) (position : Nat)
    (hthreshold : threshold ≤ 16) (enMasterSecret : List UInt8) :
    ((basePoints sha random position threshold enMasterSecret).map Prod.fst).Nodup := by
  have hplaces : (basePoints sha random position threshold enMasterSecret).map Prod.fst
      = ((List.range (threshold - 2)).map UInt8.ofNat) ++ [digestIndex, secretIndex] := by
    rw [basePoints, List.map_append, List.map_map]
    rfl
  have hsmall : ∀ i ∈ List.range (threshold - 2), i < 256 := by
    intro i hi
    have := List.mem_range.mp hi
    omega
  rw [hplaces]
  refine List.nodup_append.mpr ⟨?_, by decide, ?_⟩
  · refine List.Nodup.map_on (fun i hi j hj h => ?_) List.nodup_range
    have := congrArg UInt8.toNat h
    rwa [UInt8.toNat_ofNat_of_lt' (hsmall i hi), UInt8.toNat_ofNat_of_lt' (hsmall j hj)] at this
  · intro a ha b hb hab
    obtain ⟨i, hi, rfl⟩ := List.mem_map.mp ha
    have hi' := List.mem_range.mp hi
    have htoNat := congrArg UInt8.toNat hab
    rw [UInt8.toNat_ofNat_of_lt' (hsmall i hi)] at htoNat
    rcases List.mem_cons.mp hb with rfl | hb
    · exact absurd htoNat (by show i ≠ 254; omega)
    · rw [List.mem_singleton.mp hb] at htoNat
      exact absurd htoNat (by show i ≠ 255; omega)

/-- The curves of `SplitSecret`. -/
theorem splitSecret_sharing (random : Nat → UInt8) (position : Nat) {count n : Nat}
    (hsecret : secret.length = n) (hsize : 4 ≤ n) (htwo : 2 ≤ threshold) (hle : threshold ≤ count)
    (hcount : count ≤ 16) :
    ∃ s : Sharing Gf256 n threshold,
      (∀ p ∈ basePoints sha random position threshold secret, shareBytes s p.1 = p.2)
      ∧ splitSecret sha random position count threshold secret
        = .ok ((List.range count).map fun i => shareBytes s (UInt8.ofNat i),
          position + (threshold - 2) * n + (n - 4)) := by
  subst hsecret
  have hlength : (basePoints sha random position threshold secret).length = threshold := by
    rw [basePoints, List.length_append, List.length_map, List.length_range]
    show threshold - 2 + 2 = threshold
    omega
  have hbuffer : ∀ k len, (randomBuffer random k len).length = len := fun k len => by
    rw [randomBuffer, List.length_map, List.length_range]
  have hbytes : ∀ p ∈ basePoints sha random position threshold secret,
      p.2.length = secret.length := by
    intro p hp
    rcases List.mem_append.mp hp with hp | hp
    · obtain ⟨i, _, rfl⟩ := List.mem_map.mp hp
      exact hbuffer _ _
    · rcases List.mem_cons.mp hp with rfl | hp
      · rw [digestShare, List.length_append, List.length_take, sha.length_hmacSha256, hbuffer]
        omega
      · rw [List.mem_singleton.mp hp]
  obtain ⟨s, hon, hread⟩ :=
    exists_sharing (nodup_basePoints random position (by omega) secret) hbytes hlength
  refine ⟨s, hon, ?_⟩
  rw [splitSecret, if_neg (by omega), if_neg (by omega), if_neg (by omega)]
  simp only [hread]

/-- The digest of a share that has it in front of its key. -/
theorem take_digestShare (key secret : List UInt8) :
    (digestShare sha key secret).take 4
      = (sha.hmacSha256 ((digestShare sha key secret).drop 4) secret).take 4 := by
  have hfour : ((sha.hmacSha256 key secret).take 4).length = 4 := by
    rw [List.length_take, sha.length_hmacSha256]
    rfl
  rw [digestShare, List.take_left' hfour, List.drop_left' hfour]

/-- **The firmware shares a secret.** Its shares are those of a split with the
threshold that was asked for. -/
theorem splitSecret_split (random : Nat → UInt8) (position : Nat) {count threshold : Nat}
    {enMasterSecret : List UInt8}
    (hsize : 4 ≤ enMasterSecret.length) (hcount : count ≤ 16) (hle : threshold ≤ count)
    (hthreshold : 2 ≤ threshold ∨ threshold = 1 ∧ count = 1) :
    ∃ (s : Split sha enMasterSecret threshold) (position' : Nat),
      splitSecret sha random position count threshold enMasterSecret
        = .ok ((List.range count).map fun i => s.share (UInt8.ofNat i), position') := by
  rcases hthreshold with htwo | ⟨rfl, rfl⟩
  · obtain ⟨s, hon, hsplit⟩ := splitSecret_sharing random position rfl hsize htwo hle hcount
    have hsecret : shareBytes s secretIndex = enMasterSecret :=
      hon (secretIndex, enMasterSecret) (List.mem_append_right _ (.tail _ (.head _)))
    have hdigest : shareBytes s digestIndex = _ := hon _ (List.mem_append_right _ (.head _))
    exact ⟨⟨s, hsecret, .inr (by rw [hdigest, take_digestShare])⟩, _, hsplit⟩
  · have hnodup : ([(secretIndex, enMasterSecret)].map Prod.fst).Nodup := List.nodup_singleton _
    obtain ⟨s, hon, -⟩ := exists_sharing hnodup (fun p hp => by rw [List.mem_singleton.mp hp]) rfl
    have hsecret : shareBytes s secretIndex = enMasterSecret := hon _ (.head _)
    refine ⟨⟨s, hsecret, .inl rfl⟩, position, ?_⟩
    rw [splitSecret, if_neg (by omega), if_pos rfl]
    exact congrArg (fun l => Except.ok ([l], position))
      ((shareBytes_const s _ _).trans hsecret).symm

theorem exists_split (sha : Sha256) (hsize : 4 ≤ secret.length) (hpos : 1 ≤ threshold) (hle : threshold ≤ 16) :
    Nonempty (Split sha secret threshold) := by
  obtain ⟨s, _, _⟩ := @splitSecret_split sha (fun _ => 0) 0 threshold threshold secret hsize hle
    (Nat.le_refl threshold) (by omega)
  exact ⟨s⟩

end Keystone3.Slip39
