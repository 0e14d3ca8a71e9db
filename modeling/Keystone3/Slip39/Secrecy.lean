import Keystone3.Slip39.Backup

/-!
# What too few shares tell

Two shares fewer than the threshold tell nothing of the secret: for every other secret of
that length and every key of its digest there is just one choice of the other random bytes
with which the members get what they have (`splitSecret_hides`). One share fewer tells what
the digest does, four bytes of each guess (`splitSecret_possible_iff`).
-/

namespace Keystone3.Slip39

open Shamir

section

variable {sha : Sha256} {random random' : Nat → UInt8} {position count threshold n : Nat}
  {secret secret' : List UInt8} {members : List Nat}

theorem randomBuffer_congr {len : Nat}
    (h : ∀ k, position ≤ k → k < position + len → random k = random' k) :
    randomBuffer random position len = randomBuffer random' position len := by
  refine List.map_congr_left fun j hj => h _ (Nat.le_add_right _ _) ?_
  have := List.mem_range.mp hj
  omega

theorem getD_randomBuffer {len j : Nat} (hj : j < len) :
    (randomBuffer random position len).getD j 0 = random (position + j) := by
  rw [randomBuffer, List.getD_eq_getElem?_getD, List.getElem?_map, List.getElem?_range hj]
  rfl

/-- A source that draws these shares of `len` bytes at a position, and what `random` does else. -/
def drawing (share : Nat → List UInt8) (random : Nat → UInt8) (position len total : Nat)
    (k : Nat) : UInt8 :=
  if position ≤ k ∧ k < position + total * len then
    (share ((k - position) / len)).getD ((k - position) % len) 0
  else random k

theorem drawing_outside (share : Nat → List UInt8) {len total k : Nat}
    (hk : k < position ∨ position + total * len ≤ k) :
    drawing share random position len total k = random k := if_neg (by omega)

theorem drawing_inside (share : Nat → List UInt8) {len total i j : Nat} (hi : i < total)
    (hj : j < len) :
    drawing share random position len total (position + i * len + j) = (share i).getD j 0 := by
  have hwithin : i * len + j < total * len := by
    have := Nat.mul_le_mul_right len (Nat.succ_le_of_lt hi)
    rw [Nat.succ_mul] at this
    omega
  have hdiv : (i * len + j) / len = i := by
    rw [Nat.mul_comm, Nat.mul_add_div (by omega), Nat.div_eq_of_lt hj, Nat.add_zero]
  have hmod : (i * len + j) % len = j := by
    rw [Nat.mul_comm, Nat.mul_add_mod, Nat.mod_eq_of_lt hj]
  rw [drawing, if_pos (by omega), show position + i * len + j - position = i * len + j by omega,
    hdiv, hmod]

theorem randomBuffer_drawing {share : Nat → List UInt8} {len total i : Nat} (hi : i < total)
    (hlength : (share i).length = len) :
    randomBuffer (drawing share random position len total) (position + i * len) len = share i := by
  rw [← range_getD hlength]
  exact List.map_congr_left fun j hj => drawing_inside share hi (List.mem_range.mp hj)

theorem forall_basePoints {P : UInt8 × List UInt8 → Prop} :
    (∀ p ∈ basePoints sha random position threshold secret, P p) ↔
      (∀ i < threshold - 2,
          P (UInt8.ofNat i, randomBuffer random (position + i * secret.length) secret.length))
        ∧ P (digestIndex, digestShare sha (randomBuffer random
            (position + (threshold - 2) * secret.length) (secret.length - 4)) secret)
        ∧ P (secretIndex, secret) := by
  simp [basePoints, or_imp, forall_and]

/-- Sharings that agree at as many places as the threshold says are the same. -/
theorem shareBytes_congr {s s' : Sharing Gf256 n threshold} {xs : List UInt8}
    (hnodup : xs.Nodup) (henough : threshold ≤ xs.length)
    (h : ∀ x ∈ xs, shareBytes s x = shareBytes s' x) (x : UInt8) :
    shareBytes s x = shareBytes s' x := by
  rw [← interpolate_shares s hnodup henough, ← interpolate_shares s' hnodup henough,
    List.map_congr_left fun x hx => congrArg (Prod.mk x) (h x hx)]

theorem splitSecret_of_points (c : Sharing Gf256 n threshold) (hsecret : secret.length = n)
    (hsize : 4 ≤ n) (htwo : 2 ≤ threshold) (hle : threshold ≤ count) (hcount : count ≤ 16)
    (hon : ∀ p ∈ basePoints sha random position threshold secret, shareBytes c p.1 = p.2) :
    splitSecret sha random position count threshold secret
      = .ok ((List.range count).map fun i => shareBytes c (UInt8.ofNat i),
        position + (threshold - 2) * n + (n - 4)) := by
  obtain ⟨s, hs, hsplit⟩ :=
    @splitSecret_sharing sha threshold secret random position count n hsecret hsize htwo hle hcount
  have hsame := @shareBytes_congr threshold n s c _
    (@nodup_basePoints sha threshold random position (by omega) secret)
    (by rw [List.length_map, basePoints, List.length_append, List.length_map, List.length_range,
      List.length_cons, List.length_singleton]; omega)
    (fun x hx => by
      obtain ⟨p, hp, rfl⟩ := List.mem_map.mp hx
      rw [hs p hp, hon p hp])
  rw [hsplit, List.map_congr_left fun i _ => hsame _]

theorem nodup_places (hnodup : members.Nodup) (hmembers : ∀ i ∈ members, i < 16) :
    (members.map UInt8.ofNat ++ [digestIndex, secretIndex]).Nodup := by
  have htoNat : ∀ i ∈ members, (UInt8.ofNat i).toNat = i := fun i hi =>
    UInt8.toNat_ofNat_of_lt' (lt_trans (hmembers i hi) (by decide))
  refine List.nodup_append.mpr ⟨hnodup.map_on fun i hi j hj h => ?_, by decide, ?_⟩
  · rw [← htoNat i hi, ← htoNat j hj, h]
  · intro a ha b hb hab
    obtain ⟨i, hi, rfl⟩ := List.mem_map.mp ha
    have hlarge : 254 ≤ b.toNat := by
      simp only [List.mem_cons, List.not_mem_nil, or_false] at hb
      rcases hb with rfl | rfl <;> decide
    have := hmembers i hi
    rw [← hab, htoNat i hi] at hlarge
    omega

/-- In the splits of two secrets the members get the same shares. -/
def SameShares (sha : Sha256) (random random' : Nat → UInt8) (position count threshold : Nat)
    (secret secret' : List UInt8) (members : List Nat) : Prop :=
  ∃ shares shares' used,
    splitSecret sha random position count threshold secret = .ok (shares, used)
    ∧ splitSecret sha random' position count threshold secret' = .ok (shares', used)
    ∧ ∀ i ∈ members, shares'[i]? = shares[i]?

theorem sameShares_iff {s s' : Sharing Gf256 n threshold} {used : Nat}
    (hs : splitSecret sha random position count threshold secret
      = .ok ((List.range count).map fun i => shareBytes s (UInt8.ofNat i), used))
    (hs' : splitSecret sha random' position count threshold secret'
      = .ok ((List.range count).map fun i => shareBytes s' (UInt8.ofNat i), used))
    (hmembers : ∀ i ∈ members, i < count) :
    SameShares sha random random' position count threshold secret secret' members
      ↔ ∀ i ∈ members, shareBytes s' (UInt8.ofNat i) = shareBytes s (UInt8.ofNat i) := by
  have hget : ∀ (c : Sharing Gf256 n threshold), ∀ i ∈ members,
      ((List.range count).map fun i => shareBytes c (UInt8.ofNat i))[i]?
        = some (shareBytes c (UInt8.ofNat i)) := by
    intro c i hi
    rw [List.getElem?_map, List.getElem?_range (hmembers i hi)]
    rfl
  constructor
  · rintro ⟨shares, shares', used', h, h', hsame⟩ i hi
    cases hs.symm.trans h
    cases hs'.symm.trans h'
    have := hsame i hi
    rwa [hget s' i hi, hget s i hi, Option.some_inj] at this
  · intro hsame
    refine ⟨_, _, _, hs, hs', fun i hi => ?_⟩
    rw [hget s' i hi, hget s i hi, hsame i hi]

/-- **One share fewer tells what the digest does.** A secret is possible, with some random bytes,
exactly when its digest share, which it has with the shares of the members, is its own. -/
theorem splitSecret_possible_iff (sha : Sha256) (random : Nat → UInt8) (position : Nat)
    {shares : List (List UInt8)} {used : Nat}
    (hsize : 4 ≤ secret.length) (hlength : secret'.length = secret.length) (htwo : 2 ≤ threshold)
    (hle : threshold ≤ count) (hcount : count ≤ 16) (hnodup : members.Nodup)
    (hmembers : ∀ i ∈ members, i < count) (hfew : members.length = threshold - 1)
    (hsplit : splitSecret sha random position count threshold secret = .ok (shares, used)) :
    (∃ random', SameShares sha random random' position count threshold secret secret' members)
      ↔ recoverSecret sha threshold secret'.length
          (members.map (fun i => (UInt8.ofNat i, shares.getD i [])) ++ [(secretIndex, secret')])
        = .ok secret' := by
  have hsize' : 4 ≤ secret'.length := hlength ▸ hsize
  obtain ⟨s, -, hs⟩ := @splitSecret_sharing sha threshold secret random position count _ hlength.symm
    hsize' htwo hle hcount
  cases hsplit.symm.trans hs
  have hshares : members.map (fun i => (UInt8.ofNat i,
        ((List.range count).map fun i => shareBytes s (UInt8.ofNat i)).getD i []))
      = members.map fun i => (UInt8.ofNat i, shareBytes s (UInt8.ofNat i)) := by
    refine List.map_congr_left fun i hi => ?_
    rw [List.getD_eq_getElem?_getD, List.getElem?_map, List.getElem?_range (hmembers i hi)]
    rfl
  have hplaces : (members.map UInt8.ofNat ++ [secretIndex]).Nodup :=
    (nodup_places hnodup fun i hi => lt_of_lt_of_le (hmembers i hi) hcount).sublist
      (List.Sublist.append_left (List.sublist_cons_self _ _) _)
  have hmany : (members.map UInt8.ofNat ++ [secretIndex]).length = threshold := by
    rw [List.length_append, List.length_map, hfew]
    exact Nat.sub_add_cancel (by omega)
  rw [hshares]
  constructor
  · rintro ⟨random', hsame⟩
    obtain ⟨s', hon, hs'⟩ := @splitSecret_sharing sha threshold secret' random' position count _ rfl
      hsize' htwo hle hcount
    obtain ⟨-, hdigest, hsecret⟩ := forall_basePoints.mp hon
    have hagree := (sameShares_iff hs hs' hmembers).mp hsame
    have hback := recoverSecret_enough
      ⟨s', hsecret, .inr (by rw [hdigest]; exact take_digestShare _ _)⟩ hplaces hmany.ge (by omega)
    rw [List.map_append, List.map_map] at hback
    refine Eq.trans (congrArg (recoverSecret sha threshold _) ?_) hback
    refine congrArg₂ _ (List.map_congr_left fun i hi => ?_) ?_
    · exact congrArg _ (hagree i hi).symm
    · exact congrArg (fun bytes => [(secretIndex, bytes)]) hsecret.symm
  · intro hback
    obtain ⟨c, hc, hread⟩ := @exists_sharing
      (members.map (fun i => (UInt8.ofNat i, shareBytes s (UInt8.ofNat i)))
        ++ [(secretIndex, secret')]) secret'.length threshold
      (by simpa [Function.comp_def] using hplaces) (by simp [or_imp, forall_and])
      (by simpa using hmany)
    have hsecret : shareBytes c secretIndex = secret' := hc _ (List.mem_append_right _ (.head _))
    rw [recoverSecret, if_neg (by omega)] at hback
    simp only [hread, hsecret] at hback
    split at hback
    · rename_i hdigest
      let key := (shareBytes c digestIndex).drop 4
      have hkey : key.length = secret'.length - 4 := by
        rw [List.length_drop, length_shareBytes]
      let draws := drawing (fun i => shareBytes c (UInt8.ofNat i))
        (drawing (fun _ => key) random (position + (threshold - 2) * secret'.length)
          (secret'.length - 4) 1) position secret'.length (threshold - 2)
      have hdrawn := @splitSecret_of_points sha draws position count threshold _ secret' c rfl
        hsize' htwo hle hcount (forall_basePoints.mpr ⟨fun i hi => ?_, ?_, hsecret⟩)
      · exact ⟨draws, (sameShares_iff hs hdrawn hmembers).mpr fun i hi =>
          hc _ (List.mem_append_left _ (List.mem_map_of_mem hi))⟩
      · exact (@randomBuffer_drawing _ position (fun i => shareBytes c (UInt8.ofNat i)) _ _ i hi
          (length_shareBytes c _)).symm
      · have hdraws := @randomBuffer_drawing random
          (position + (threshold - 2) * secret'.length) (fun _ => key) _ 1 0 (by decide) hkey
        rw [Nat.zero_mul, Nat.add_zero] at hdraws
        rw [randomBuffer_congr fun k hk _ => drawing_outside _ (.inr hk), hdraws, digestShare,
          ← hdigest, List.take_append_drop]
    · cases hback

theorem splitSecret_possible_iff_two :
    (∃ random', SameShares Sha256.sample (fun _ => 0) random' 0 2 2 [1, 2, 3, 4] [5, 6, 7, 8] [1])
      ↔ recoverSecret Sha256.sample 2 4 [(1, [255, 229, 26, 209]), (secretIndex, [5, 6, 7, 8])]
        = .ok [5, 6, 7, 8] :=
  @splitSecret_possible_iff 2 2 [1, 2, 3, 4] [5, 6, 7, 8] [1] Sha256.sample (fun _ => 0) 0
    [[254, 231, 25, 213], [255, 229, 26, 209]] 0 (by decide) rfl (by decide) (by decide) (by decide)
    (by decide) (by decide) rfl rfl

end

end Keystone3.Slip39
