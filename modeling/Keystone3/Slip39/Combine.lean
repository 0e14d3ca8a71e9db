import Keystone3.Slip39.Share

/-!
# When shares are combined

`combineShards` succeeds exactly when its shares go through its checks, and this module
says what these come to (`combineShards_ok`): enough groups for the threshold of the
first share, one threshold within a group, different places, at least as many shares as
the threshold, and two digests that fit, that of every group (`GroupRecovered`) and that
of the backup.
-/

namespace Keystone3.Slip39

variable {sha : Sha256}

/-- A group gives the value `v`: different places, enough shares, and a digest
that fits. -/
structure GroupRecovered (sha : Sha256) (valueLength : Nat) (members : List Slip39Shared)
    (v : List UInt8) : Prop where
  nodup : (members.map (·.memberIndex)).Nodup
  enough : groupMemberThreshold members ≤ members.length
  recovered : recoverSecret sha (groupMemberThreshold members) valueLength
    (members.map memberPoint) = .ok v

/-- The values of some groups, as the loop collects them. -/
def GroupsRecovered (sha : Sha256) (valueLength : Nat) (shards : List Slip39Shared)
    (groups : List Nat) (shares : List (UInt8 × List UInt8)) : Prop :=
  List.Forall₂ (fun i p => p.1 = UInt8.ofNat i
    ∧ GroupRecovered sha valueLength (groupShards shards i) p.2) groups shares

theorem isPresent_iff (shards : List Slip39Shared) (i : Nat) :
    isPresent shards i = true ↔ groupShards shards i ≠ [] := by
  rw [groupShards, ne_eq, List.filter_eq_nil_iff, isPresent, List.any_eq_true]
  push Not
  rfl

theorem groupMemberThreshold_pos {members : List Slip39Shared}
    (hpos : ∀ s ∈ members, 1 ≤ s.memberThreshold) (hne : members ≠ []) :
    1 ≤ groupMemberThreshold members := by
  rw [groupMemberThreshold, List.getLast?_eq_some_getLast hne]
  exact hpos _ (List.getLast_mem hne)

theorem recoverSecret_slots {t n : Nat} (ht : 1 ≤ t) {points : List (UInt8 × List UInt8)}
    (henough : t ≤ points.length) (rest : List (UInt8 × List UInt8)) :
    recoverSecret sha t n (points ++ rest) = recoverSecret sha t n points := by
  rw [← recoverSecret_take t n (points ++ rest) ht, List.take_append_of_le_length henough,
    recoverSecret_take t n points ht]

/-- **One group**, whatever is behind its shares in the slots. -/
theorem recoverGroup_ok {valueLength : Nat} {members : List Slip39Shared}
    (ht : 1 ≤ groupMemberThreshold members) (rest : List (UInt8 × List UInt8)) (v : List UInt8) :
    recoverGroup sha valueLength members (members.map memberPoint ++ rest) = .ok v
      ↔ GroupRecovered sha valueLength members v := by
  rw [recoverGroup]
  by_cases hnodup : (members.map (·.memberIndex)).Nodup
  · rw [if_neg (not_not.mpr hnodup)]
    by_cases henough : groupMemberThreshold members ≤ members.length
    · rw [recoverSecret_slots ht (by rwa [List.length_map])]
      constructor
      · intro h
        cases hvalue : recoverSecret sha (groupMemberThreshold members) valueLength
          (members.map memberPoint) with
        | error e => rw [hvalue] at h; cases h
        | ok gsv =>
          rw [hvalue] at h
          refine ⟨hnodup, henough, ?_⟩
          rw [hvalue]
          exact (if_neg (Nat.not_lt.mpr henough)).symm.trans h
      · intro h
        rw [h.recovered]
        exact if_neg (Nat.not_lt.mpr henough)
    · constructor
      · intro h
        split at h
        · cases h
        · rw [if_pos (Nat.not_le.mp henough)] at h
          cases h
      · intro h
        exact absurd h.enough henough
  · rw [if_pos hnodup]
    constructor
    · intro h; cases h
    · intro h; exact absurd h.nodup hnodup

/-- **The loop over the groups.** It collects the value of every group that is
present, and stops when one of them does not give a value. -/
theorem recoverGroups_ok {valueLength : Nat} {shards : List Slip39Shared}
    (hpos : ∀ s ∈ shards, 1 ≤ s.memberThreshold) (is : List Nat)
    (slots shares : List (UInt8 × List UInt8)) :
    recoverGroups sha valueLength shards is slots = .ok shares
      ↔ GroupsRecovered sha valueLength shards (is.filter (isPresent shards)) shares := by
  induction is generalizing slots shares with
  | nil =>
    rw [recoverGroups, List.filter_nil, GroupsRecovered, List.forall₂_nil_left_iff]
    exact ⟨fun h => (Except.ok.inj h).symm, fun h => congrArg Except.ok h.symm⟩
  | cons i is ih =>
    rw [recoverGroups]
    by_cases hpresent : isPresent shards i
    · have ht := groupMemberThreshold_pos
        (fun s hs => hpos s (List.mem_of_mem_filter hs)) ((isPresent_iff shards i).mp hpresent)
      have hgroup : ∀ v, recoverGroup sha valueLength (groupShards shards i)
          ((groupShards shards i).map memberPoint ++ slots.drop (groupShards shards i).length)
            = .ok v ↔ GroupRecovered sha valueLength (groupShards shards i) v :=
        recoverGroup_ok ht _
      rw [if_pos hpresent, List.filter_cons_of_pos hpresent, GroupsRecovered,
        List.forall₂_cons_left_iff]
      simp only
      constructor
      · intro h
        split at h
        · cases h
        · rename_i v hv
          split at h
          · cases h
          · rename_i rest hrest
            obtain rfl := Except.ok.inj h
            exact ⟨_, rest, ⟨rfl, (hgroup v).mp hv⟩, (ih _ rest).mp hrest, rfl⟩
      · rintro ⟨p, rest, ⟨hp, hv⟩, hrest, rfl⟩
        rw [(hgroup p.2).mpr hv]
        simp only
        rw [(ih _ rest).mpr hrest]
        exact congrArg (fun q => Except.ok (q :: rest)) (Prod.ext hp.symm rfl)
    · rw [if_neg hpresent, List.filter_cons_of_neg hpresent]
      exact ih slots shares

/-- What a success gives back: the cipher text, and what the first share says of
it, with the secret deciphered under that. -/
def recovered (sha : Sha256) (first : Slip39Shared) (gsv : List UInt8) : Recovered where
  ems := gsv
  masterSecret :=
    match decrypt sha gsv [] first.iteration first.extendableBackupFlag first.identifier with
    | .ok ms => ms
    | .error _ => gsv
  id := first.identifier
  eb := first.extendableBackupFlag
  ie := first.iteration

theorem recovered_of_decrypt {first : Slip39Shared} {gsv ms : List UInt8}
    (h : decrypt sha gsv [] first.iteration first.extendableBackupFlag first.identifier = .ok ms) :
    recovered sha first gsv
      = ⟨gsv, ms, first.identifier, first.extendableBackupFlag, first.iteration⟩ := by
  rw [recovered, h]

theorem combineShards_ok {stack : Stack} {first : Slip39Shared} {rest : List Slip39Shared}
    (hpos : ∀ s ∈ first :: rest, 1 ≤ s.memberThreshold) (r : Recovered) :
    combineShards sha stack (first :: rest) = .ok r
      ↔ first.groupThreshold ≤ (groupsPresent (first :: rest)).length
        ∧ memberThresholdsAgree (first :: rest) = true
        ∧ ∃ shares gsv, GroupsRecovered sha first.value.length (first :: rest)
              (groupsPresent (first :: rest)) shares
            ∧ recoverSecret sha shares.length first.value.length shares = .ok gsv
            ∧ r = recovered sha first gsv := by
  have hgroups : ∀ shares, recoverGroups sha first.value.length (first :: rest) (List.range 16)
      stack.mShare = .ok shares ↔ GroupsRecovered sha first.value.length (first :: rest)
        (groupsPresent (first :: rest)) shares := recoverGroups_ok hpos (List.range 16) stack.mShare
  rw [combineShards]
  by_cases hthreshold : first.groupThreshold ≤ (groupsPresent (first :: rest)).length
  · rw [if_neg (Nat.not_lt.mpr hthreshold)]
    by_cases hagree : memberThresholdsAgree (first :: rest) = true
    · simp only [hagree, Bool.not_true, Bool.false_eq_true, if_false]
      constructor
      · intro h
        split at h
        · cases h
        · rename_i shares hshares
          split at h
          · cases h
          · rename_i gsv hgsv
            exact ⟨hthreshold, trivial, shares, gsv, (hgroups shares).mp hshares, hgsv,
              (Except.ok.inj h).symm⟩
      · rintro ⟨-, -, shares, gsv, hshares, hgsv, rfl⟩
        rw [(hgroups shares).mpr hshares]
        simp only
        rw [hgsv]
        rfl
    · rw [if_pos (by rw [Bool.not_eq_true] at hagree; rw [hagree]; rfl)]
      constructor
      · intro h; cases h
      · intro h; exact absurd h.2.1 hagree
  · rw [if_pos (Nat.not_le.mp hthreshold)]
    constructor
    · intro h; cases h
    · intro h; exact absurd h.1 hthreshold

end Keystone3.Slip39
