import Keystone3.Slip39.Combine

/-!
# Backups

A `Backup` is a master secret enciphered and shared at two levels, whoever made
it: among groups, and in every group among members. `slip39GetMasterSecret_ok`
says on what mnemonics of one backup the firmware succeeds, as long as they are
enough for the thresholds, and that the secret it gives is then the right one.
-/

namespace Keystone3.Slip39

open Bytes (Block)
open List (length_map map_cons map_map mem_filter mem_map)

structure Backup (sha : Sha256) where
  masterSecret : List UInt8
  identifier : Nat
  extendable : Bool
  iteration : Nat
  groupThreshold : Nat
  groupCount : Nat
  memberThreshold : Nat → Nat
  memberCount : Nat → Nat
  even : masterSecret.length % 2 = 0
  length_ge : 16 ≤ masterSecret.length
  length_le : masterSecret.length ≤ 32
  identifier_lt : identifier < 2 ^ 15
  iteration_lt : iteration < 16
  groupThreshold_pos : 1 ≤ groupThreshold
  groupThreshold_le : groupThreshold ≤ groupCount
  groupCount_le : groupCount ≤ 16
  memberThreshold_pos : ∀ i, 1 ≤ memberThreshold i
  memberThreshold_le : ∀ i, memberThreshold i ≤ memberCount i
  memberCount_le : ∀ i, memberCount i ≤ 16
  /-- The cipher text is shared among the groups, .. -/
  groups : Split sha (masterSecretEncrypt sha masterSecret iteration extendable identifier [])
    groupThreshold
  /-- .. and the share of a group among its members. -/
  members : ∀ i, Split sha (groups.share (UInt8.ofNat i)) (memberThreshold i)

namespace Backup

variable {sha : Sha256} (b : Backup sha)

def ems : List UInt8 :=
  masterSecretEncrypt sha b.masterSecret b.iteration b.extendable b.identifier []

theorem length_ems : b.ems.length = b.masterSecret.length :=
  length_masterSecretEncrypt sha b.even b.iteration b.extendable b.identifier []

abbrev Member : Type := (i : Fin b.groupCount) × Fin (b.memberCount i)

def memberValue (i j : Nat) : List UInt8 := (b.members i).share (UInt8.ofNat j)

theorem length_memberValue (i j : Nat) : (b.memberValue i j).length = b.masterSecret.length := by
  rw [memberValue, Split.length_share, Split.length_share]
  exact b.length_ems

def share (m : b.Member) : Share where
  identifier := b.identifier
  extendable := b.extendable
  iteration := b.iteration
  groupIndex := m.1
  groupThreshold := b.groupThreshold
  groupCount := b.groupCount
  memberIndex := m.2
  memberThreshold := b.memberThreshold m.1
  identifier_lt := b.identifier_lt
  iteration_lt := b.iteration_lt
  groupIndex_lt := lt_of_lt_of_le m.1.isLt b.groupCount_le
  groupThreshold_pos := b.groupThreshold_pos
  groupThreshold_le := b.groupThreshold_le.trans b.groupCount_le
  groupCount_pos := b.groupThreshold_pos.trans b.groupThreshold_le
  groupCount_le := b.groupCount_le
  memberIndex_lt := lt_of_lt_of_le m.2.isLt (b.memberCount_le m.1)
  memberThreshold_pos := b.memberThreshold_pos m.1
  memberThreshold_le := (b.memberThreshold_le m.1).trans (b.memberCount_le m.1)
  value := b.memberValue m.1 m.2
  even := by rw [b.length_memberValue]; exact b.even
  length_ge := by rw [b.length_memberValue]; exact b.length_ge
  length_le := by rw [b.length_memberValue]; exact b.length_le

def mnemonic (m : b.Member) : List UInt8 := (b.share m).text

def wordsCount : Nat := slip39WordCountForBytes b.masterSecret.length + 7

theorem length_words_share (m : b.Member) : (b.share m).words.length = b.wordsCount := by
  rw [Share.length_words]
  show slip39WordCountForBytes (b.memberValue m.1 m.2).length + 7 = b.wordsCount
  rw [b.length_memberValue]
  rfl

def recovered : Recovered where
  ems := b.ems
  masterSecret := b.masterSecret
  id := b.identifier
  eb := b.extendable
  ie := b.iteration

def ofGroup (ms : List b.Member) (i : Nat) : List b.Member := ms.filter fun m => m.1.val == i

def decoded (m : b.Member) : Slip39Shared := (b.share m).decoded

theorem groupShards_decoded (ms : List b.Member) (i : Nat) :
    groupShards (ms.map b.decoded) i = (b.ofGroup ms i).map b.decoded := by
  rw [groupShards, List.filter_map]
  rfl

theorem map_memberPoint (ms : List b.Member) (i : Nat) :
    ((b.ofGroup ms i).map b.decoded).map memberPoint
      = ((b.ofGroup ms i).map fun m => UInt8.ofNat m.2).map fun x => (x, (b.members i).share x) := by
  rw [map_map, map_map]
  refine List.map_congr_left fun m hm => ?_
  have hi : m.1.val = i := beq_iff_eq.mp (mem_filter.mp hm).2
  subst hi
  rfl

variable {ms : List b.Member}

theorem groupMemberThreshold_decoded {i : Nat} (hne : b.ofGroup ms i ≠ []) :
    groupMemberThreshold ((b.ofGroup ms i).map b.decoded) = b.memberThreshold i := by
  have hne' : (b.ofGroup ms i).map b.decoded ≠ [] := fun h => hne (List.map_eq_nil_iff.mp h)
  rw [groupMemberThreshold, List.getLast?_eq_some_getLast hne', Option.map_some, Option.getD_some]
  obtain ⟨m, hm, hlast⟩ := mem_map.mp (List.getLast_mem hne')
  have hi : m.1.val = i := beq_iff_eq.mp (mem_filter.mp hm).2
  rw [← hlast, ← hi]
  rfl

theorem nodup_places (hnodup : ms.Nodup) (i : Nat) :
    ((b.ofGroup ms i).map fun m => m.2.val).Nodup := by
  refine List.Nodup.map_on (fun m hm m' hm' h => ?_) (hnodup.filter _)
  have hi : m.1.val = i := beq_iff_eq.mp (mem_filter.mp hm).2
  have hi' : m'.1.val = i := beq_iff_eq.mp (mem_filter.mp hm').2
  obtain ⟨g, j⟩ := m
  obtain ⟨g', j'⟩ := m'
  obtain rfl : g = g' := Fin.ext (hi.trans hi'.symm)
  exact congrArg _ (Fin.ext h)

theorem nodup_map_ofNat {l : List Nat} (h : l.Nodup) (hsmall : ∀ k ∈ l, k < 256) :
    (l.map UInt8.ofNat).Nodup := by
  refine h.map_on fun k hk k' hk' hsame => ?_
  have := congrArg UInt8.toNat hsame
  rwa [UInt8.toNat_ofNat_of_lt' (hsmall k hk), UInt8.toNat_ofNat_of_lt' (hsmall k' hk')] at this

def groupValue (i : Nat) : List UInt8 := b.groups.share (UInt8.ofNat i)

theorem length_groupValue (i : Nat) : (b.groupValue i).length = b.masterSecret.length := by
  rw [groupValue, Split.length_share]
  exact b.length_ems

/-- **A group gives its share** when there are as many of its members as its
threshold, and nothing when there are fewer. -/
theorem groupRecovered_iff (hnodup : ms.Nodup) {i : Nat}
    (hne : b.ofGroup ms i ≠ []) (v : List UInt8) :
    GroupRecovered sha b.masterSecret.length (groupShards (ms.map b.decoded) i) v
      ↔ b.memberThreshold i ≤ (b.ofGroup ms i).length ∧ v = b.groupValue i := by
  have hplaces : ((b.ofGroup ms i).map fun m => UInt8.ofNat m.2).Nodup := by
    have h := nodup_map_ofNat (b.nodup_places hnodup i) (by
      intro k hk
      obtain ⟨m, _, rfl⟩ := mem_map.mp hk
      have := lt_of_lt_of_le m.2.isLt (b.memberCount_le m.1)
      omega)
    rwa [map_map] at h
  have hindex : (((b.ofGroup ms i).map b.decoded).map (·.memberIndex)).Nodup := by
    rw [map_map]
    exact b.nodup_places hnodup i
  have hread : b.memberThreshold i ≤ (b.ofGroup ms i).length →
      recoverSecret sha (b.memberThreshold i) b.masterSecret.length
        (((b.ofGroup ms i).map b.decoded).map memberPoint) = .ok (b.groupValue i) := by
    intro henough
    rw [map_memberPoint, ← b.length_groupValue i]
    exact recoverSecret_enough (b.members i) hplaces (by rwa [length_map]) (b.memberThreshold_pos i)
  rw [groupShards_decoded]
  constructor
  · intro h
    have henough := h.enough
    have hvalue := h.recovered
    rw [b.groupMemberThreshold_decoded hne, length_map] at henough
    rw [b.groupMemberThreshold_decoded hne, hread henough] at hvalue
    exact ⟨henough, (Except.ok.inj hvalue).symm⟩
  · rintro ⟨henough, rfl⟩
    refine ⟨hindex, ?_, ?_⟩
    · rwa [b.groupMemberThreshold_decoded hne, length_map]
    · rw [b.groupMemberThreshold_decoded hne]
      exact hread henough

def present (ms : List b.Member) : List Nat := groupsPresent (ms.map b.decoded)

theorem mem_present {i : Nat} :
    i ∈ b.present ms ↔ i < 16 ∧ b.ofGroup ms i ≠ [] := by
  rw [present, groupsPresent, mem_filter, List.mem_range, isPresent_iff, groupShards_decoded,
    ne_eq, List.map_eq_nil_iff]

theorem nodup_present (ms : List b.Member) : (b.present ms).Nodup := List.nodup_range.filter _

/-- The members make up the threshold of every group they are of. -/
def Complete (ms : List b.Member) : Prop :=
  ∀ i ∈ b.present ms, b.memberThreshold i ≤ (b.ofGroup ms i).length

theorem groupsRecovered_iff (hnodup : ms.Nodup) (groups : List Nat)
    (hpresent : ∀ i ∈ groups, i ∈ b.present ms) (shares : List (UInt8 × List UInt8)) :
    GroupsRecovered sha b.masterSecret.length (ms.map b.decoded) groups shares
      ↔ (∀ i ∈ groups, b.memberThreshold i ≤ (b.ofGroup ms i).length)
        ∧ shares = (groups.map UInt8.ofNat).map fun x => (x, b.groups.share x) := by
  induction groups generalizing shares with
  | nil =>
    rw [GroupsRecovered, List.forall₂_nil_left_iff]
    exact ⟨fun h => ⟨fun i hi => absurd hi List.not_mem_nil, h⟩, fun h => h.2⟩
  | cons i groups ih =>
    have hne := (b.mem_present.mp (hpresent i (.head _))).2
    have ih := ih fun k hk => hpresent k (List.mem_cons_of_mem i hk)
    rw [GroupsRecovered, List.forall₂_cons_left_iff]
    constructor
    · rintro ⟨p, rest, ⟨hp, hv⟩, hrest, rfl⟩
      obtain ⟨henough, hvalue⟩ := (b.groupRecovered_iff hnodup hne p.2).mp hv
      obtain ⟨hall, rfl⟩ := (ih rest).mp hrest
      refine ⟨List.forall_mem_cons.mpr ⟨henough, hall⟩, ?_⟩
      rw [map_cons, map_cons]
      exact congrArg (· :: _) (Prod.ext hp hvalue)
    · rintro ⟨hall, rfl⟩
      obtain ⟨henough, hrest⟩ := List.forall_mem_cons.mp hall
      exact ⟨_, _, ⟨rfl, (b.groupRecovered_iff hnodup hne _).mpr ⟨henough, rfl⟩⟩,
        (ih _).mpr ⟨hrest, rfl⟩, rfl⟩

theorem memberThresholdsAgree_decoded (ms : List b.Member) :
    memberThresholdsAgree (ms.map b.decoded) = true := by
  simp only [memberThresholdsAgree, List.all_map, List.all_eq_true, Function.comp_apply,
    Bool.or_eq_true, bne_iff_ne, beq_iff_eq]
  intro m _ m' _
  by_cases h : m.1.val = m'.1.val
  · exact .inr (congrArg b.memberThreshold h)
  · exact .inl h

/-- The first two bits of the number of groups, which are lost, were zero, or
the threshold is small enough all the same. -/
def CountReadable : Prop := b.groupThreshold ≤ (b.groupCount - 1) % 4 + 1

/-- The cipher text happens to look like a share with its own digest. -/
def Lucky : Prop := SelfDigest sha b.ems

instance : Decidable b.Lucky := inferInstanceAs (Decidable (SelfDigest sha b.ems))

/-- With a threshold of one group, the loop is right when one group is given. -/
def OneGroup (ms : List b.Member) : Prop :=
  b.groupThreshold = 1 → (b.present ms).length = 1 ∨ b.Lucky

theorem recoverSecret_groups
    (henough : b.groupThreshold ≤ (b.present ms).length) (gsv : List UInt8) :
    recoverSecret sha (b.present ms).length b.masterSecret.length
        (((b.present ms).map UInt8.ofNat).map fun x => (x, b.groups.share x)) = .ok gsv
      ↔ b.OneGroup ms ∧ gsv = b.ems := by
  have hplaces : ((b.present ms).map UInt8.ofNat).Nodup :=
    nodup_map_ofNat (b.nodup_present ms) fun i hi => by
      have := (b.mem_present.mp hi).1
      omega
  have hread : recoverSecret sha (b.present ms).length b.ems.length
        (((b.present ms).map UInt8.ofNat).map fun x => (x, b.groups.share x))
      = if (b.present ms).length ≠ 1 ∧ b.groupThreshold = 1 ∧ ¬ b.Lucky then .error (-3)
        else .ok b.ems :=
    recoverSecret_split b.groups hplaces (by rwa [length_map]) b.groupThreshold_pos
      (b.present ms).length (length_map _).symm
  rw [← b.length_ems, hread]
  by_cases hbad : (b.present ms).length ≠ 1 ∧ b.groupThreshold = 1 ∧ ¬ b.Lucky
  · rw [if_pos hbad]
    constructor
    · intro h; cases h
    · rintro ⟨hone, -⟩
      rcases hone hbad.2.1 with h | h
      · exact absurd h hbad.1
      · exact absurd h hbad.2.2
  · rw [if_neg hbad]
    constructor
    · intro h
      refine ⟨fun hone => ?_, (Except.ok.inj h).symm⟩
      by_contra hnot
      obtain ⟨h1, h2⟩ := not_or.mp hnot
      exact hbad ⟨h1, hone, h2⟩
    · rintro ⟨-, rfl⟩
      rfl

theorem recovered_decoded (m : b.Member) :
    Slip39.recovered sha (b.decoded m) b.ems = b.recovered := by
  have h := decrypt_masterSecretEncrypt sha b.even b.iteration b.extendable b.identifier
  exact recovered_of_decrypt h

/-- **What the firmware does with mnemonics of one backup** of at least as many
groups as the threshold. -/
theorem slip39GetMasterSecret_ok (hnodup : ms.Nodup)
    (henough : b.groupThreshold ≤ (b.present ms).length) (stack : Stack) (r : Recovered) :
    slip39GetMasterSecret sha stack b.wordsCount (ms.map b.mnemonic) = .ok r
      ↔ (b.CountReadable ∧ b.Complete ms ∧ b.OneGroup ms) ∧ r = b.recovered := by
  cases ms with
  | nil =>
    -- no group is present
    have hnone : b.present [] = [] := List.filter_eq_nil_iff.mpr fun i _ h => by cases h
    have := b.groupThreshold_pos
    rw [hnone, List.length_nil] at henough
    omega
  | cons m ms =>
    have htexts : (m :: ms).map b.mnemonic = ((m :: ms).map b.share).map Share.text := by
      rw [map_map]
      rfl
    have hcount : ∀ s ∈ (m :: ms).map b.share, s.words.length = b.wordsCount := by
      intro s hs
      obtain ⟨m', _, rfl⟩ := mem_map.mp hs
      exact b.length_words_share m'
    have hdecoded : ((m :: ms).map b.share).map Share.decoded = (m :: ms).map b.decoded := by
      rw [map_map]
      rfl
    rw [htexts, slip39GetMasterSecret_text sha stack hcount, hdecoded]
    by_cases hreadable : b.CountReadable
    · have hall : ∀ s ∈ (m :: ms).map b.share, s.Readable := by
        intro s hs
        obtain ⟨m', _, rfl⟩ := mem_map.mp hs
        exact hreadable
      have hpos : ∀ s ∈ (m :: ms).map b.decoded, 1 ≤ s.memberThreshold := by
        intro s hs
        obtain ⟨m', _, rfl⟩ := mem_map.mp hs
        exact b.memberThreshold_pos m'.1
      have hfirst : (b.decoded m).value.length = b.masterSecret.length := b.length_memberValue _ _
      have hgroups := b.groupsRecovered_iff hnodup (b.present (m :: ms)) fun i hi => hi
      rw [if_pos hall]
      rw [map_cons] at hpos ⊢
      rw [combineShards_ok hpos, ← map_cons, hfirst]
      constructor
      · rintro ⟨-, -, shares, gsv, hshares, hgsv, rfl⟩
        obtain ⟨hcomplete, rfl⟩ := (hgroups shares).mp hshares
        rw [length_map, length_map] at hgsv
        obtain ⟨hone, rfl⟩ := (b.recoverSecret_groups henough gsv).mp hgsv
        exact ⟨⟨hreadable, hcomplete, hone⟩, b.recovered_decoded m⟩
      · rintro ⟨⟨-, hcomplete, hone⟩, rfl⟩
        refine ⟨henough, b.memberThresholdsAgree_decoded (m :: ms), _, b.ems,
          (hgroups _).mpr ⟨hcomplete, rfl⟩, ?_, (b.recovered_decoded m).symm⟩
        rw [length_map, length_map]
        exact (b.recoverSecret_groups henough b.ems).mpr ⟨hone, rfl⟩
    · have hnot : ¬ ∀ s ∈ (m :: ms).map b.share, s.Readable := fun h =>
        hreadable (h (b.share m) (List.mem_map_of_mem (.head _)))
      rw [if_neg hnot]
      constructor
      · intro h; cases h
      · intro h; exact absurd h.1.1 hreadable

def completeGroups (ms : List b.Member) : List Nat :=
  (List.range b.groupCount).filter fun i => b.memberThreshold i ≤ (b.ofGroup ms i).length

def Enough (ms : List b.Member) : Prop := b.groupThreshold ≤ (b.completeGroups ms).length

theorem Enough.present (h : b.Enough ms) :
    b.groupThreshold ≤ (b.present ms).length := by
  refine h.trans (List.Subperm.length_le ?_)
  refine List.Nodup.subperm (List.nodup_range.filter _) fun i hi => ?_
  obtain ⟨hi, hcomplete⟩ := mem_filter.mp hi
  have hlt := lt_of_lt_of_le (List.mem_range.mp hi) b.groupCount_le
  have hpos := (b.memberThreshold_pos i).trans (of_decide_eq_true hcomplete)
  exact b.mem_present.mpr ⟨hlt, fun hnil => by rw [hnil] at hpos; cases hpos⟩

/-- **When enough mnemonics give the secret back.** The mnemonics of enough
members, in any order and with any others of the backup, recover the master
secret exactly when the number of groups is read well enough for the threshold,
no group is left short, and a threshold of one group comes with one group. -/
theorem masterSecret_recovered_iff {ms : List b.Member} (hnodup : ms.Nodup) (henough : b.Enough ms)
    (stack : Stack) :
    (∃ r, slip39GetMasterSecret sha stack b.wordsCount (ms.map b.mnemonic) = .ok r
        ∧ r.masterSecret = b.masterSecret)
      ↔ b.CountReadable ∧ b.Complete ms ∧ b.OneGroup ms := by
  have hok := b.slip39GetMasterSecret_ok hnodup henough.present stack
  constructor
  · rintro ⟨r, hr, -⟩
    exact ((hok r).mp hr).1
  · intro h
    exact ⟨b.recovered, (hok _).mpr ⟨h, rfl⟩, rfl⟩

end Backup

def sampleSecret : List UInt8 := [0, 1, 2, 3, 4, 5, 6, 7, 8, 9, 10, 11, 12, 13, 14, 15]

def sampleEms : List UInt8 :=
  [53, 60, 175, 106, 197, 201, 236, 78, 194, 231, 223, 181, 129, 17, 60, 231]

def Sha256.sample : Sha256 where
  hmacSha256 key msg := (Block.ofBytes 32 (
    if msg ≠ sampleEms then []
    else if key = sampleEms.drop 4 then
      [10, 216, 108, 227, 228, 113, 148, 140, 18, 86, 172, 67, 146, 192, 44, 156, 48, 122, 81, 226,
        197, 182, 59, 141, 22, 181, 33, 172, 24, 234, 144, 8]
    else if key = List.replicate 12 0 then
      [126, 154, 115, 2, 176, 56, 1, 211, 201, 127, 162, 35, 130, 121, 111, 119, 210, 251, 87, 95,
        9, 177, 150, 27, 239, 87, 7, 162, 119, 16, 127, 164]
    else [])).bytes
  pbkdf2HmacSha256Slip39 pass salt iterations keylen := (Block.ofBytes keylen (
    if iterations = 5000 then
      if (pass, salt) = ([3], [194, 231, 223, 181, 129, 17, 60, 231]) then
        [124, 180, 138, 141, 118, 68, 6, 62]
      else if (pass, salt) = ([2], [73, 136, 37, 231, 179, 141, 234, 112]) then
        [94, 195, 104, 240, 173, 169, 216, 30]
      else if (pass, salt) = ([1], [156, 36, 183, 69, 44, 184, 228, 249]) then
        [162, 162, 141, 68, 150, 206, 89, 215]
      else if (pass, salt) = ([0], [235, 42, 168, 163, 37, 67, 179, 167]) then
        [190, 119, 226, 193, 187, 22, 123, 12]
      else []
    else if iterations ≠ 2500 then []
    else if (pass, salt) = ([0], [8, 9, 10, 11, 12, 13, 14, 15]) then
      [144, 174, 10, 19, 68, 247, 60, 88]
    else if (pass, salt) = ([1], [144, 175, 8, 16, 64, 242, 58, 95]) then
      [88, 35, 142, 163, 106, 173, 26, 148]
    else if (pass, salt) = ([2], [80, 42, 132, 168, 102, 160, 20, 155]) then
      [82, 72, 215, 165, 193, 227, 6, 184]
    else if (pass, salt) = ([3], [194, 231, 223, 181, 129, 17, 60, 231]) then
      [101, 22, 43, 194, 163, 105, 248, 213]
    else [])).bytes
  length_hmacSha256 _ _ := Block.size_eq _
  length_pbkdf2 _ _ _ _ := Block.size_eq _

theorem masterSecretEncrypt_sample :
    masterSecretEncrypt Sha256.sample sampleSecret 0 true 0 [] = sampleEms := by decide

noncomputable def sampleBackup (groupThreshold groupCount memberThreshold memberCount : Nat)
    (hgroups : 1 ≤ groupThreshold ∧ groupThreshold ≤ groupCount ∧ groupCount ≤ 16)
    (hmembers : 1 ≤ memberThreshold ∧ memberThreshold ≤ memberCount ∧ memberCount ≤ 16) :
    Backup Sha256.sample :=
  have hsize : 4 ≤ (masterSecretEncrypt Sha256.sample sampleSecret 0 true 0 []).length := by
    rw [masterSecretEncrypt_sample]
    decide
  let groups := (exists_split Sha256.sample hsize hgroups.1 (hgroups.2.1.trans hgroups.2.2)).some
  { masterSecret := sampleSecret
    identifier := 0
    extendable := true
    iteration := 0
    groupThreshold
    groupCount
    memberThreshold := fun _ => memberThreshold
    memberCount := fun _ => memberCount
    even := rfl
    length_ge := by decide
    length_le := by decide
    identifier_lt := by decide
    iteration_lt := by decide
    groupThreshold_pos := hgroups.1
    groupThreshold_le := hgroups.2.1
    groupCount_le := hgroups.2.2
    memberThreshold_pos := fun _ => hmembers.1
    memberThreshold_le := fun _ => hmembers.2.1
    memberCount_le := fun _ => hmembers.2.2
    groups
    members := fun i => (exists_split Sha256.sample
      (by rw [Split.length_share]; exact hsize) hmembers.1 (hmembers.2.1.trans hmembers.2.2)).some }

def Stack.zero : Stack := ⟨fun _ _ => 0, []⟩

noncomputable def twoOfThree : Backup Sha256.sample := sampleBackup 1 1 2 3 (by decide) (by decide)

noncomputable def oneOfTwoGroups : Backup Sha256.sample :=
  sampleBackup 1 2 1 1 (by decide) (by decide)

namespace Backup

noncomputable def firstMember : twoOfThree.Member := ⟨⟨0, by decide⟩, ⟨0, by decide⟩⟩

noncomputable def secondMember : twoOfThree.Member := ⟨⟨0, by decide⟩, ⟨1, by decide⟩⟩

noncomputable def secondAndFirst : List twoOfThree.Member := [secondMember, firstMember]

theorem masterSecret_recovered_twoOfThree :
    ∃ r, slip39GetMasterSecret Sha256.sample Stack.zero twoOfThree.wordsCount
        (secondAndFirst.map twoOfThree.mnemonic) = .ok r
      ∧ r.masterSecret = sampleSecret := by
  have hpresent : twoOfThree.present secondAndFirst = [0] := by decide
  refine (twoOfThree.masterSecret_recovered_iff (by decide) ?_ Stack.zero).mpr ⟨?_, ?_, ?_⟩
  · show 1 ≤ (twoOfThree.completeGroups secondAndFirst).length
    decide
  · exact Nat.le_refl 1
  · intro i hi
    rw [hpresent] at hi
    rw [List.mem_singleton.mp hi]
    decide
  · intro _
    rw [hpresent]
    exact .inl rfl

noncomputable def bothGroups : List oneOfTwoGroups.Member :=
  [⟨⟨0, by decide⟩, ⟨0, by decide⟩⟩, ⟨⟨1, by decide⟩, ⟨0, by decide⟩⟩]

/-- One group would be enough, and with the mnemonics of both of them the secret
is not recovered. -/
theorem masterSecret_lost_bothGroups :
    bothGroups.Nodup ∧ oneOfTwoGroups.Enough bothGroups
      ∧ ∀ stack, ¬ ∃ r, slip39GetMasterSecret Sha256.sample stack oneOfTwoGroups.wordsCount
          (bothGroups.map oneOfTwoGroups.mnemonic) = .ok r
        ∧ r.masterSecret = oneOfTwoGroups.masterSecret := by
  have hnodup : bothGroups.Nodup := by decide
  have henough : oneOfTwoGroups.Enough bothGroups := by
    show 1 ≤ (oneOfTwoGroups.completeGroups bothGroups).length
    decide
  have hems : oneOfTwoGroups.ems = sampleEms := masterSecretEncrypt_sample
  refine ⟨hnodup, henough, ?_⟩
  intro stack h
  obtain ⟨r, hr, -⟩ := h
  obtain ⟨⟨-, -, hone⟩, -⟩ :=
    (oneOfTwoGroups.slip39GetMasterSecret_ok hnodup henough.present stack r).mp hr
  rcases hone rfl with hpresent | hlucky
  · cases hpresent
  · rw [Lucky, hems] at hlucky
    cases hlucky

end Backup

end Keystone3.Slip39
