import Keystone3.Slip39.Backup

/-!
# Shares that do not belong together

What is known of shares once the firmware has combined them: that of each group it took
as many as the threshold, at different places, and that they are shares of one value
(`exists_split_of_recoverSecret`). What is not known is the rest of `Sound`. `sound_iff`
has it exactly.
-/

namespace Keystone3.Slip39

open Shamir
open List (length_map map_cons map_map map_take mem_cons mem_map not_mem_nil)

variable {sha : Sha256}

variable {points : List (UInt8 × List UInt8)}

theorem length_recoverSecret {t size : Nat} {v : List UInt8}
    (h : recoverSecret sha t size points = .ok v) : v.length = size := by
  have hlength : ∀ n, (interpolate points n size t).length = size := by
    intro n
    rw [interpolate]
    cases (points.take t).find? (·.1 == n) with
    | none => simp only [length_map, List.length_range]
    | some p => simp only [length_map, List.length_range]
  rw [recoverSecret] at h
  by_cases hone : t = 1
  · rw [if_pos hone] at h
    rw [← Except.ok.inj h, length_map, List.length_range]
  · rw [if_neg hone] at h
    simp only at h
    split at h
    · rw [← Except.ok.inj h, hlength]
    · cases h

theorem exists_split_of_curve {t size threshold : Nat}
    (c : Sharing Gf256 size threshold) (hread : ∀ n, interpolate points n size t = shareBytes c n)
    (hone : t = 1 → threshold = 1 ∧ ∃ x, (points.headD (0, [])).2 = shareBytes c x) {v : List UInt8}
    (h : recoverSecret sha t size points = .ok v) :
    ∃ s : Split sha v threshold, ∀ x, s.share x = shareBytes c x := by
  have hlength := length_recoverSecret h
  subst hlength
  rw [recoverSecret] at h
  by_cases ht : t = 1
  · obtain ⟨hthreshold, x, hx⟩ := hone ht
    subst hthreshold
    rw [if_pos ht, hx, range_getD (length_shareBytes c x)] at h
    exact ⟨⟨c, (shareBytes_const c secretIndex x).trans (Except.ok.inj h), .inl rfl⟩, fun _ => rfl⟩
  · rw [if_neg ht] at h
    simp only [hread] at h
    split at h
    · rename_i hdigest
      have hsecret := Except.ok.inj h
      exact ⟨⟨c, hsecret, .inr (by rw [hsecret] at hdigest; exact hdigest)⟩, fun _ => rfl⟩
    · cases h

/-- **What the digest lets through** is shared with the threshold, and the shares
that were read are shares of it. -/
theorem exists_split_of_recoverSecret {t size : Nat}
    (ht : 1 ≤ t) (hnodup : (points.map Prod.fst).Nodup) (hsize : ∀ p ∈ points, p.2.length = size)
    (henough : t ≤ points.length) {v : List UInt8} (h : recoverSecret sha t size points = .ok v) :
    ∃ s : Split sha v t, ∀ p ∈ points.take t, s.share p.1 = p.2 := by
  have hnodup' : ((points.take t).map Prod.fst).Nodup := by
    rw [map_take]
    exact hnodup.sublist (List.take_sublist _ _)
  obtain ⟨c, hon, hread⟩ := exists_sharing hnodup' (fun p hp => hsize p (List.mem_of_mem_take hp))
    (by rw [List.length_take, Nat.min_eq_left henough])
  rw [← recoverSecret_take t size points ht] at h
  obtain ⟨s, hs⟩ := exists_split_of_curve c hread (by
    rintro rfl
    obtain ⟨p, points, rfl⟩ := List.exists_cons_of_length_pos henough
    exact ⟨rfl, p.1, (hon p (.head _)).symm⟩) h
  exact ⟨s, fun p hp => (hs p.1).trans (hon p hp)⟩

def Split.curves {secret : List UInt8} {threshold size : Nat} (s : Split sha secret threshold)
    (h : secret.length = size) : Sharing Gf256 size threshold := h ▸ s.sharing

theorem Split.shareBytes_curves {secret : List UInt8} {threshold size : Nat}
    (s : Split sha secret threshold) (h : secret.length = size) (x : UInt8) :
    shareBytes (s.curves h) x = s.share x := by
  subst h
  rfl

def groupOf (shares : List Share) (i : Nat) : List Share := shares.filter fun s => s.groupIndex == i

def presentIn (shares : List Share) : List Nat := groupsPresent (shares.map Share.decoded)

def thresholdOf (shares : List Share) (i : Nat) : Nat :=
  groupMemberThreshold ((groupOf shares i).map Share.decoded)

def combinedOf (shares : List Share) (i : Nat) : List Share :=
  (groupOf shares i).take (thresholdOf shares i)

def combined (shares : List Share) : List Share := (presentIn shares).flatMap (combinedOf shares)

/-- The shares that count are shares of this cipher text, at both levels. -/
def OfOneSecret (sha : Sha256) (shares : List Share) (groupThreshold : Nat) (ems : List UInt8) :
    Prop :=
  ∃ groups : Split sha ems groupThreshold, ∀ i ∈ presentIn shares,
    ∃ members : Split sha (groups.share (UInt8.ofNat i)) (thresholdOf shares i),
      ∀ s ∈ combinedOf shares i, members.share (UInt8.ofNat s.memberIndex) = s.value

/-- A success that is one: the shares that count belong together, and the secret
is the one they are shares of. -/
structure Sound (sha : Sha256) (shares : List Share) (r : Recovered) : Prop where
  header : ∀ s ∈ combined shares, s.identifier = r.id ∧ s.extendable = r.eb ∧ s.iteration = r.ie
  groups : ∀ s ∈ combined shares, ∀ s' ∈ combined shares, s.groupThreshold = s'.groupThreshold
    ∧ s.groupCount = s'.groupCount ∧ s.value.length = s'.value.length
  memberThreshold : ∀ s ∈ combined shares, ∀ s' ∈ combined shares,
    s.groupIndex = s'.groupIndex → s.memberThreshold = s'.memberThreshold
  memberIndex : ∀ i, ((combinedOf shares i).map (·.memberIndex)).Nodup
  secret : ∀ s ∈ combined shares, OfOneSecret sha shares s.groupThreshold r.ems
    ∧ decrypt sha r.ems [] s.iteration s.extendable s.identifier = .ok r.masterSecret

/-- The part of the header that is the same in a whole backup. -/
structure SameHeader (s s' : Share) : Prop where
  identifier : s.identifier = s'.identifier
  extendable : s.extendable = s'.extendable
  iteration : s.iteration = s'.iteration
  groupThreshold : s.groupThreshold = s'.groupThreshold
  groupCount : s.groupCount = s'.groupCount

/-- Values at places, on curves of a degree less than the threshold. -/
def OnCurve (size threshold : Nat) (values : List (UInt8 × List UInt8)) : Prop :=
  ∃ c : Sharing Gf256 size threshold, ∀ p ∈ values, shareBytes c p.1 = p.2

/-- The checks the firmware makes, with the values of the groups. -/
structure Accepted (sha : Sha256) (first : Share) (rest : List Share)
    (values : List (UInt8 × List UInt8)) : Prop where
  readable : ∀ s ∈ first :: rest, s.Readable
  enough : first.groupThreshold ≤ (presentIn (first :: rest)).length
  agree : memberThresholdsAgree ((first :: rest).map Share.decoded) = true
  groups : GroupsRecovered sha first.value.length ((first :: rest).map Share.decoded)
    (presentIn (first :: rest)) values
  digest : ∃ ems, recoverSecret sha values.length first.value.length values = .ok ems

theorem groupShards_map_decoded (shares : List Share) (i : Nat) :
    groupShards (shares.map Share.decoded) i = (groupOf shares i).map Share.decoded := by
  rw [groupShards, List.filter_map]
  rfl

variable {shares : List Share}

theorem mem_groupOf {i : Nat} {s : Share} :
    s ∈ groupOf shares i ↔ s ∈ shares ∧ s.groupIndex = i := by
  rw [groupOf, List.mem_filter, beq_iff_eq]

theorem mem_presentIn {i : Nat} :
    i ∈ presentIn shares ↔ i < 16 ∧ groupOf shares i ≠ [] := by
  rw [presentIn, groupsPresent, List.mem_filter, List.mem_range, isPresent_iff,
    groupShards_map_decoded, ne_eq, List.map_eq_nil_iff]

theorem nodup_presentIn (shares : List Share) : (presentIn shares).Nodup :=
  List.nodup_range.filter _

theorem mem_of_mem_combinedOf {i : Nat} {s : Share}
    (h : s ∈ combinedOf shares i) : s ∈ shares ∧ s.groupIndex = i :=
  mem_groupOf.mp (List.mem_of_mem_take h)

theorem mem_combined {s : Share} :
    s ∈ combined shares ↔ s ∈ combinedOf shares s.groupIndex := by
  rw [combined, List.mem_flatMap]
  constructor
  · intro h
    obtain ⟨i, _, hs⟩ := h
    rwa [(mem_of_mem_combinedOf hs).2]
  · intro h
    refine ⟨s.groupIndex, mem_presentIn.mpr ⟨s.groupIndex_lt, fun hnil => ?_⟩, h⟩
    have hs := List.mem_of_mem_take h
    rw [hnil] at hs
    cases hs

theorem mem_of_mem_combined {s : Share} (h : s ∈ combined shares) :
    s ∈ shares :=
  (mem_of_mem_combinedOf (mem_combined.mp h)).1

theorem thresholdOf_pos {i : Nat} (h : i ∈ presentIn shares) :
    1 ≤ thresholdOf shares i := by
  refine groupMemberThreshold_pos (fun s hs => ?_) fun hnil =>
    (mem_presentIn.mp h).2 (List.map_eq_nil_iff.mp hnil)
  obtain ⟨s', _, rfl⟩ := mem_map.mp hs
  exact s'.memberThreshold_pos

theorem first_mem_combined (first : Share) (rest : List Share) :
    first ∈ combined (first :: rest) := by
  have hgroup : groupOf (first :: rest) first.groupIndex
      = first :: groupOf rest first.groupIndex := List.filter_cons_of_pos (beq_self_eq_true _)
  have hpresent : first.groupIndex ∈ presentIn (first :: rest) :=
    mem_presentIn.mpr ⟨first.groupIndex_lt, by rw [hgroup]; exact List.cons_ne_nil _ _⟩
  obtain ⟨t, ht⟩ : ∃ t, thresholdOf (first :: rest) first.groupIndex = t + 1 :=
    ⟨_, (Nat.sub_add_cancel (thresholdOf_pos hpresent)).symm⟩
  rw [mem_combined, combinedOf, ht, hgroup, List.take_succ_cons]
  exact .head _

theorem length_value_of_words {s s' : Share} (h : s.words.length = s'.words.length) :
    s.value.length = s'.value.length := by
  have h1 := s.even
  have h2 := s'.even
  have h3 := s.length_le
  have h4 := s'.length_le
  have h5 := s.length_ge
  have h6 := s'.length_ge
  rw [s.length_words, s'.length_words, slip39WordCountForBytes, slip39WordCountForBytes,
    radixBits] at h
  omega

theorem map_memberPoint_take (shares : List Share) (i : Nat) :
    (((groupOf shares i).map Share.decoded).map memberPoint).take (thresholdOf shares i)
      = (combinedOf shares i).map fun s => (UInt8.ofNat s.memberIndex, s.value) := by
  rw [← map_take, ← map_take, map_map]
  rfl

theorem nodup_memberIndex {size i : Nat} {v : List UInt8}
    (h : GroupRecovered sha size (groupShards (shares.map Share.decoded) i) v) :
    ((combinedOf shares i).map (·.memberIndex)).Nodup := by
  have hindex := h.nodup
  rw [groupShards_map_decoded, map_map] at hindex
  rw [combinedOf, map_take]
  exact List.Nodup.sublist (List.take_sublist _ _) hindex

theorem combinedOf_absent {i : Nat} (h : i ∉ presentIn shares) :
    combinedOf shares i = [] := by
  have hnil : groupOf shares i = [] := by
    by_contra hne
    obtain ⟨s, hs⟩ := List.exists_mem_of_ne_nil _ hne
    have hlt : i < 16 := (mem_groupOf.mp hs).2 ▸ s.groupIndex_lt
    exact h (mem_presentIn.mpr ⟨hlt, hne⟩)
  rw [combinedOf, hnil, List.take_nil]

theorem memberThreshold_eq
    (h : memberThresholdsAgree (shares.map Share.decoded) = true) {s s' : Share} (hs : s ∈ shares)
    (hs' : s' ∈ shares) (hgroup : s.groupIndex = s'.groupIndex) :
    s.memberThreshold = s'.memberThreshold := by
  simp only [memberThresholdsAgree, List.all_map, List.all_eq_true, Function.comp_apply,
    Bool.or_eq_true, bne_iff_ne, beq_iff_eq] at h
  rcases h s hs s' hs' with hne | hsame
  · exact absurd hgroup hne
  · exact hsame

/-- **A group that gives a value** gives one that its shares are shares of. -/
theorem exists_split_of_groupRecovered {size i : Nat}
    (hpresent : i ∈ presentIn shares) (hsize : ∀ s ∈ shares, s.value.length = size) {v : List UInt8}
    (h : GroupRecovered sha size (groupShards (shares.map Share.decoded) i) v) :
    ∃ members : Split sha v (thresholdOf shares i),
      ∀ s ∈ combinedOf shares i, members.share (UInt8.ofNat s.memberIndex) = s.value := by
  rw [groupShards_map_decoded] at h
  have hindex := h.nodup
  rw [map_map] at hindex
  have hnodup : (((((groupOf shares i).map Share.decoded).map memberPoint)).map Prod.fst).Nodup := by
    have hsmall := Backup.nodup_map_ofNat hindex (by
      intro k hk
      obtain ⟨s, _, rfl⟩ := mem_map.mp hk
      exact s.memberIndex_lt.trans (by decide))
    rw [map_map, map_map]
    rwa [map_map] at hsmall
  have hlength : ∀ p ∈ ((groupOf shares i).map Share.decoded).map memberPoint,
      p.2.length = size := by
    intro p hp
    rw [map_map] at hp
    obtain ⟨s, hs, rfl⟩ := mem_map.mp hp
    exact hsize s (mem_groupOf.mp hs).1
  obtain ⟨members, hon⟩ := exists_split_of_recoverSecret (thresholdOf_pos hpresent) hnodup
    hlength (by rw [length_map]; exact h.enough) h.recovered
  refine ⟨members, fun s hs => ?_⟩
  have hs' := map_memberPoint_take shares i ▸ hon
  exact hs' _ (List.mem_map_of_mem hs)

/-- **A group whose shares are shares of a value** gives that value, and no other. -/
theorem eq_of_groupRecovered {size i : Nat}
    (hpresent : i ∈ presentIn shares) {v w : List UInt8} (hw : w.length = size)
    (h : GroupRecovered sha size (groupShards (shares.map Share.decoded) i) v)
    (members : Split sha w (thresholdOf shares i))
    (hon : ∀ s ∈ combinedOf shares i, members.share (UInt8.ofNat s.memberIndex) = s.value) :
    v = w := by
  subst hw
  rw [groupShards_map_decoded] at h
  have hindex := h.nodup
  rw [map_map] at hindex
  have henough : thresholdOf shares i ≤ (groupOf shares i).length := by
    have := h.enough
    rwa [length_map] at this
  have hrecovered : recoverSecret sha (thresholdOf shares i) w.length
      (((groupOf shares i).map Share.decoded).map memberPoint) = .ok v := h.recovered
  rw [← recoverSecret_take _ _ _ (thresholdOf_pos hpresent), map_memberPoint_take] at hrecovered
  have hpoints : (combinedOf shares i).map (fun s => (UInt8.ofNat s.memberIndex, s.value))
      = ((combinedOf shares i).map fun s => UInt8.ofNat s.memberIndex).map
        fun x => (x, members.share x) := by
    rw [map_map]
    exact List.map_congr_left fun s hs => Prod.ext rfl (hon s hs).symm
  have hplaces : ((combinedOf shares i).map fun s => UInt8.ofNat s.memberIndex).Nodup := by
    have hsmall := Backup.nodup_map_ofNat hindex (by
      intro k hk
      obtain ⟨s, _, rfl⟩ := mem_map.mp hk
      exact s.memberIndex_lt.trans (by decide))
    rw [map_map] at hsmall
    rw [combinedOf, map_take]
    exact hsmall.sublist (List.take_sublist _ _)
  rw [hpoints, recoverSecret_enough members hplaces ?_ (thresholdOf_pos hpresent)] at hrecovered
  · exact (Except.ok.inj hrecovered).symm
  · rw [length_map, combinedOf, List.length_take, Nat.min_eq_left henough]

variable {values : List (UInt8 × List UInt8)}

theorem groupsRecovered_places {size : Nat} {shards : List Slip39Shared} {is : List Nat} (h : GroupsRecovered sha size shards is values) :
    values.map Prod.fst = is.map UInt8.ofNat := by
  rw [GroupsRecovered] at h
  induction h with
  | nil => rfl
  | cons hp _ ih => rw [map_cons, map_cons, hp.1, ih]

theorem groupsRecovered_mem {size : Nat} {shards : List Slip39Shared} {is : List Nat} (h : GroupsRecovered sha size shards is values)
    {p : UInt8 × List UInt8} (hp : p ∈ values) :
    ∃ i ∈ is, p.1 = UInt8.ofNat i ∧ GroupRecovered sha size (groupShards shards i) p.2 := by
  rw [GroupsRecovered] at h
  induction h with
  | nil => cases hp
  | cons hq _ ih =>
    rcases mem_cons.mp hp with rfl | hp
    · exact ⟨_, .head _, hq⟩
    · obtain ⟨i, hi, h⟩ := ih hp
      exact ⟨i, .tail _ hi, h⟩

theorem groupsRecovered_exists {size : Nat} {shards : List Slip39Shared} {is : List Nat} (h : GroupsRecovered sha size shards is values) {i : Nat}
    (hi : i ∈ is) :
    ∃ v, (UInt8.ofNat i, v) ∈ values ∧ GroupRecovered sha size (groupShards shards i) v := by
  rw [GroupsRecovered] at h
  induction h with
  | nil => cases hi
  | @cons k p _ _ hp _ ih =>
    rcases mem_cons.mp hi with rfl | hi
    · exact ⟨p.2, by rw [← hp.1]; exact .head _, hp.2⟩
    · obtain ⟨v, hv, h⟩ := ih hi
      exact ⟨v, .tail _ hv, h⟩

theorem exists_split_of_onCurve {size threshold : Nat}
    (hnodup : (values.map Prod.fst).Nodup) (henough : threshold ≤ values.length)
    (hpos : 1 ≤ threshold) (hcurve : OnCurve size threshold values) {ems : List UInt8}
    (h : recoverSecret sha values.length size values = .ok ems) :
    ∃ groups : Split sha ems threshold, ∀ p ∈ values, groups.share p.1 = p.2 := by
  obtain ⟨c, hon⟩ := hcurve
  have hvalues : values = (values.map Prod.fst).map fun x => (x, shareBytes c x) := by
    rw [map_map]
    exact (List.map_id values).symm.trans
      (List.map_congr_left fun p hp => Prod.ext rfl (hon p hp).symm)
  have hread : ∀ n, interpolate values n size values.length = shareBytes c n := by
    intro n
    have h := interpolate_shares c hnodup (by rwa [length_map]) n
    rwa [← hvalues, length_map] at h
  obtain ⟨groups, hgroups⟩ := exists_split_of_curve c hread (by
    intro hone
    obtain ⟨p, rfl⟩ := List.length_eq_one_iff.mp hone
    exact ⟨Nat.le_antisymm henough hpos, p.1, (hon p (.head _)).symm⟩) h
  exact ⟨groups, fun p hp => (hgroups p.1).trans (hon p hp)⟩

theorem slip39GetMasterSecret_accepted (stack : Stack) {first : Share} {rest : List Share}
    {wordsCount : Nat} (hcount : ∀ s ∈ first :: rest, s.words.length = wordsCount)
    (r : Recovered) :
    slip39GetMasterSecret sha stack wordsCount ((first :: rest).map Share.text) = .ok r
      ↔ ∃ values ems, Accepted sha first rest values
        ∧ recoverSecret sha values.length first.value.length values = .ok ems
        ∧ r = recovered sha first.decoded ems := by
  have hpos : ∀ s ∈ first.decoded :: rest.map Share.decoded, 1 ≤ s.memberThreshold := by
    intro s hs
    rw [← map_cons] at hs
    obtain ⟨s', _, rfl⟩ := mem_map.mp hs
    exact s'.memberThreshold_pos
  rw [slip39GetMasterSecret_text sha stack hcount]
  by_cases hreadable : ∀ s ∈ first :: rest, s.Readable
  · rw [if_pos hreadable, map_cons, combineShards_ok hpos, ← map_cons]
    constructor
    · intro h
      obtain ⟨henough, hagree, values, ems, hvalues, hems, hr⟩ := h
      exact ⟨values, ems, ⟨hreadable, henough, hagree, hvalues, ems, hems⟩, hems, hr⟩
    · intro h
      obtain ⟨values, ems, haccepted, hems, hr⟩ := h
      exact ⟨haccepted.enough, haccepted.agree, values, ems, haccepted.groups, hems, hr⟩
  · rw [if_neg hreadable]
    constructor
    · intro h; cases h
    · intro h
      obtain ⟨_, _, haccepted, -⟩ := h
      exact absurd haccepted.readable hreadable

noncomputable def someShare : Share :=
  { twoOfThree.share Backup.firstMember with
    value := [41, 191, 116, 190, 49, 85, 140, 124, 253, 36, 30, 69, 27, 135, 239, 36]
    even := rfl
    length_ge := by decide
    length_le := by decide }

noncomputable def sameShare : Share :=
  { twoOfThree.share Backup.secondMember with
    value := [98, 25, 168, 214, 244, 156, 96, 50, 63, 195, 193, 240, 154, 150, 211, 195]
    even := rfl
    length_ge := by decide
    length_le := by decide }

noncomputable def otherShare : Share :=
  { sameShare with
    identifier := 1
    iteration := 1
    identifier_lt := by decide
    iteration_lt := Nat.one_lt_succ_succ _ }

def otherSecret : List UInt8 :=
  [34, 83, 85, 132, 151, 174, 159, 245, 235, 42, 168, 163, 37, 67, 179, 167]

theorem length_words_sample {s : Share} (hs : s ∈ [someShare, sameShare, otherShare]) :
    s.words.length = 20 := by
  rw [Share.length_words]
  simp only [mem_cons, not_mem_nil, or_false] at hs
  rcases hs with rfl | rfl | rfl <;> rfl

theorem combineShards_sample :
    combineShards Sha256.sample Stack.zero ([someShare, otherShare].map Share.decoded)
        = .ok ⟨sampleEms, sampleSecret, 0, true, 0⟩
      ∧ combineShards Sha256.sample Stack.zero ([otherShare, someShare].map Share.decoded)
        = .ok ⟨sampleEms, otherSecret, 1, true, 1⟩ := by
  constructor <;> decide

theorem onCurve_single {size : Nat} {p : UInt8 × List UInt8} (hp : p.2.length = size) :
    OnCurve size 1 [p] := by
  obtain ⟨c, hon, -⟩ := @exists_sharing [p] size 1 (List.nodup_singleton _)
    (fun q hq => by rw [List.mem_singleton.mp hq, hp]) rfl
  exact ⟨c, hon⟩

end Keystone3.Slip39
