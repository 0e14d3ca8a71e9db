import Keystone3.Slip39.Backup

/-!
# From the firmware and back

`generateMnemonics` with one group makes a backup: the group has the cipher text
for its share, and its members' shares are those of `splitSecret`
(`generated`). So whatever is true of the mnemonics of a backup is true of the
mnemonics it writes, and any of them that are enough give back what went in
(`slip39GetMasterSecret_generateMnemonics`).
-/

namespace Keystone3.Slip39

variable {sha : Sha256}

/-- What the arguments of the generation must satisfy, with one group. -/
structure Request where
  masterSecret : List UInt8
  count : Nat
  threshold : Nat
  iterationExponent : Nat
  extendableBackupFlag : Bool
  identifier : Nat
  length_eq : masterSecret.length = 16 ∨ masterSecret.length = 32
  threshold_le : threshold ≤ count
  count_le : count ≤ 16
  threshold_ge : 2 ≤ threshold ∨ threshold = 1 ∧ count = 1
  iterationExponent_lt : iterationExponent < 16
  identifier_lt : identifier < 2 ^ 15

namespace Request

variable (q : Request)

def ems (sha : Sha256) : List UInt8 :=
  masterSecretEncrypt sha q.masterSecret q.iterationExponent q.extendableBackupFlag q.identifier []

def wordCnt : Nat := if q.masterSecret.length = 16 then 20 else 33

theorem even : q.masterSecret.length % 2 = 0 := by
  rcases q.length_eq with h | h <;> rw [h]

theorem length_ems : (q.ems sha).length = q.masterSecret.length :=
  length_masterSecretEncrypt sha q.even _ _ _ _

noncomputable def single : Split sha (q.ems sha) 1 :=
  (exists_split sha (by
    have := q.length_eq
    rw [q.length_ems]
    omega) (Nat.le_refl 1) (by decide)).some

noncomputable def backup (s : Split sha (q.ems sha) q.threshold) : Backup sha where
  masterSecret := q.masterSecret
  identifier := q.identifier
  extendable := q.extendableBackupFlag
  iteration := q.iterationExponent
  groupThreshold := 1
  groupCount := 1
  memberThreshold _ := q.threshold
  memberCount _ := q.count
  even := q.even
  length_ge := by rcases q.length_eq with h | h <;> rw [h]; decide
  length_le := by rcases q.length_eq with h | h <;> rw [h]; decide
  identifier_lt := q.identifier_lt
  iteration_lt := q.iterationExponent_lt
  groupThreshold_pos := Nat.le_refl 1
  groupThreshold_le := Nat.le_refl 1
  groupCount_le := by decide
  memberThreshold_pos _ := by rcases q.threshold_ge with h | h <;> omega
  memberThreshold_le _ := q.threshold_le
  memberCount_le _ := q.count_le
  groups := q.single
  members i := s.copy (q.single.share_of_one (UInt8.ofNat i)).symm

variable {q} (s : Split sha (q.ems sha) q.threshold)

def member (j : Nat) (hj : j < q.count) : (q.backup s).Member := ⟨⟨0, Nat.zero_lt_one⟩, ⟨j, hj⟩⟩

theorem decoded_member (j : Nat) (hj : j < q.count) :
    (q.backup s).decoded (member s j hj)
      = { identifier := q.identifier, extendableBackupFlag := q.extendableBackupFlag,
          iteration := q.iterationExponent, groupIndex := 0, groupThreshold := 1, groupCount := 1,
          memberIndex := j, memberThreshold := q.threshold, value := s.share (UInt8.ofNat j) } := by
  show (⟨_, _, _, _, _, _, _, _, ((q.backup s).members 0).share (UInt8.ofNat j)⟩ : Slip39Shared) = _
  rw [show ((q.backup s).members 0).share (UInt8.ofNat j) = s.share (UInt8.ofNat j) from
    s.share_copy _ _]
  rfl

noncomputable def membersOf :
    (picks : List Nat) → (∀ j ∈ picks, j < q.count) → List (q.backup s).Member
  | [], _ => []
  | j :: picks, h => member s j (h j (.head _))
      :: membersOf picks fun k hk => h k (List.mem_cons_of_mem j hk)

theorem map_snd_membersOf (picks : List Nat) (h : ∀ j ∈ picks, j < q.count) :
    (membersOf s picks h).map (fun m => m.2.val) = picks := by
  induction picks with
  | nil => rfl
  | cons j picks ih => exact congrArg (j :: ·) (ih _)

theorem length_membersOf (picks : List Nat) (h : ∀ j ∈ picks, j < q.count) :
    (membersOf s picks h).length = picks.length := by
  rw [← List.length_map (fun m => m.2.val), map_snd_membersOf]

theorem getElem_membersOf (picks : List Nat) (h : ∀ j ∈ picks, j < q.count) {i : Nat}
    (hi : i < (membersOf s picks h).length) (hi' : i < picks.length) :
    (membersOf s picks h)[i] = member s picks[i] (h _ (List.getElem_mem hi')) := by
  induction picks generalizing i with
  | nil => exact absurd hi' (Nat.not_lt_zero i)
  | cons j picks ih =>
    cases i with
    | zero => rfl
    | succ i => exact ih _ (Nat.lt_of_succ_lt_succ hi) (Nat.lt_of_succ_lt_succ hi')

theorem nodup_membersOf {picks : List Nat} (hnodup : picks.Nodup) (h : ∀ j ∈ picks, j < q.count) :
    (membersOf s picks h).Nodup := by
  refine List.Nodup.of_map (fun m => m.2.val) ?_
  rwa [map_snd_membersOf]

theorem ofGroup_eq (ms : List (q.backup s).Member) : (q.backup s).ofGroup ms 0 = ms := by
  refine List.filter_eq_self.mpr fun m _ => ?_
  have : m.1.val < 1 := m.1.isLt
  exact beq_iff_eq.mpr (by omega)

theorem ofGroup_ne_zero (ms : List (q.backup s).Member) {i : Nat} (hi : i ≠ 0) :
    (q.backup s).ofGroup ms i = [] := by
  refine List.filter_eq_nil_iff.mpr fun m _ => ?_
  have : m.1.val < 1 := m.1.isLt
  simp only [beq_iff_eq]
  omega

theorem present_eq {ms : List (q.backup s).Member} (hne : ms ≠ []) :
    (q.backup s).present ms = [0] := by
  have hmem : ∀ i, i ∈ (q.backup s).present ms ↔ i ∈ [0] := by
    intro i
    rw [(q.backup s).mem_present, List.mem_singleton]
    constructor
    · rintro ⟨-, h⟩
      by_contra hi
      exact h (ofGroup_ne_zero s ms hi)
    · rintro rfl
      rw [ofGroup_eq]
      exact ⟨by decide, hne⟩
  exact (List.perm_singleton.mp
    ((List.perm_ext_iff_of_nodup ((q.backup s).nodup_present ms) (List.nodup_singleton 0)).mpr hmem))

noncomputable def wordsOf (j : Nat) (hj : j < q.count) : List Nat :=
  ((q.backup s).share (member s j hj)).words

theorem length_words_member (m : (q.backup s).Member) :
    ((q.backup s).share m).words.length = q.wordCnt := by
  rw [(q.backup s).length_words_share]
  show slip39WordCountForBytes q.masterSecret.length + 7 = q.wordCnt
  rw [wordCnt, slip39WordCountForBytes, radixBits]
  rcases q.length_eq with h | h <;> rw [h] <;> rfl

theorem length_wordsOf (j : Nat) (hj : j < q.count) : (wordsOf s j hj).length = q.wordCnt :=
  length_words_member s (member s j hj)

theorem formatShards_members (ks : List Nat) (h : ∀ j ∈ ks, j < q.count) (len : Nat)
    (hlen : ks.length * q.wordCnt ≤ len) (hlen' : len < 2 ^ 16) :
    formatShards ((membersOf s ks h).map (q.backup s).decoded) len
      = ((membersOf s ks h).map fun m => ((q.backup s).share m).words).flatten := by
  induction ks generalizing len with
  | nil => rfl
  | cons j ks ih =>
    have hj := h j (.head _)
    rw [List.length_cons, Nat.add_mul, Nat.one_mul] at hlen
    have hwords : formatShareMnemonic ((q.backup s).decoded (member s j hj)) len = wordsOf s j hj :=
      formatShareMnemonic_decoded _ (show 1 ≤ 4 by decide) (by
        show (wordsOf s j hj).length ≤ len
        rw [length_wordsOf]
        omega)
    have hrest := ih (fun k hk => h k (List.mem_cons_of_mem j hk)) (len - q.wordCnt) (by omega)
      (by omega)
    have hroom : (len + 2 ^ 16 - (wordsOf s j hj).length) % 2 ^ 16 = len - q.wordCnt := by
      rw [length_wordsOf]
      omega
    show formatShareMnemonic ((q.backup s).decoded (member s j hj)) len
      ++ formatShards _ ((len + 2 ^ 16
        - (formatShareMnemonic ((q.backup s).decoded (member s j hj)) len).length) % 2 ^ 16)
      = wordsOf s j hj ++ List.flatten _
    rw [hwords, hroom, hrest]

theorem take_drop_flatten {n : Nat} :
    ∀ {ls : List (List Nat)} {i : Nat} (hi : i < ls.length), (∀ l ∈ ls, l.length = n) →
      (ls.flatten.drop (i * n)).take n = ls[i]
  | l :: ls, 0, _, h => by
    rw [Nat.zero_mul, List.drop_zero, List.flatten_cons, List.getElem_cons_zero]
    exact List.take_left' (h l (.head _))
  | l :: ls, i + 1, hi, h => by
    have hl := h l (.head _)
    rw [Nat.add_mul, Nat.one_mul, List.flatten_cons, List.getElem_cons_succ, Nat.add_comm,
      ← List.drop_drop, List.drop_left' hl]
    exact take_drop_flatten (Nat.lt_of_succ_lt_succ hi) fun k hk => h k (List.mem_cons_of_mem l hk)

theorem map_decoded_membersOf (ks : List Nat) (h : ∀ j ∈ ks, j < q.count) :
    (membersOf s ks h).map (q.backup s).decoded = ks.map fun j =>
      { identifier := q.identifier, extendableBackupFlag := q.extendableBackupFlag,
        iteration := q.iterationExponent, groupIndex := 0, groupThreshold := 1, groupCount := 1,
        memberIndex := j, memberThreshold := q.threshold, value := s.share (UInt8.ofNat j) } := by
  induction ks with
  | nil => rfl
  | cons j ks ih =>
    rw [membersOf, List.map_cons, List.map_cons, ih, decoded_member]

theorem splitGroups_one (random : Nat → UInt8) {position' : Nat}
    (hsplit : splitSecret sha random 0 q.count q.threshold (q.ems sha)
      = .ok ((List.range q.count).map fun i => s.share (UInt8.ofNat i), position')) :
    splitGroups sha random (q.ems sha) [⟨q.count, q.threshold⟩]
        (fun groupIndex memberIndex memberThreshold value =>
          { identifier := q.identifier, extendableBackupFlag := q.extendableBackupFlag,
            iteration := q.iterationExponent, groupIndex, groupThreshold := 1, groupCount := 1,
            memberIndex, memberThreshold, value })
        (List.range 1) 0 []
      = .ok ((membersOf s (List.range q.count) fun _ hj => List.mem_range.mp hj).map
          (q.backup s).decoded) := by
  rw [map_decoded_membersOf]
  simp only [List.range_one, splitGroups, List.getD_cons_zero, hsplit, List.drop_nil, List.append_nil]
  refine congrArg Except.ok (List.ext_getElem ?_ fun _ _ _ => ?_)
  · simp only [List.length_mapIdx, List.length_map]
  · simp only [List.getElem_mapIdx, List.getElem_map, List.getElem_range]

noncomputable def allMembers : List (q.backup s).Member :=
  membersOf s (List.range q.count) fun _ hj => List.mem_range.mp hj

theorem length_allMembers : (allMembers s).length = q.count := by
  rw [allMembers, length_membersOf, List.length_range]

theorem getElem_allMembers {j : Nat} (hj : j < q.count) (hj' : j < (allMembers s).length) :
    (allMembers s)[j] = member s j hj := by
  have hrange : j < (List.range q.count).length := by rwa [List.length_range]
  have h := getElem_membersOf s (List.range q.count) (fun _ hj => List.mem_range.mp hj) hj' hrange
  refine Eq.trans h ?_
  simp only [List.getElem_range]

noncomputable def buffer : List Nat :=
  ((allMembers s).map fun m => ((q.backup s).share m).words).flatten

theorem mnemonicOfBuffer_buffer {j : Nat} (hj : j < q.count) :
    mnemonicOfBuffer (buffer s) q.wordCnt j = (q.backup s).mnemonic (member s j hj) := by
  have hj' : j < (allMembers s).length := by rwa [length_allMembers]
  have hwords : ∀ l ∈ (allMembers s).map fun m => ((q.backup s).share m).words,
      l.length = q.wordCnt := by
    intro l hl
    obtain ⟨m, _, rfl⟩ := List.mem_map.mp hl
    exact length_words_member s m
  have hcut := take_drop_flatten (by rwa [List.length_map]) hwords
  rw [List.getElem_map, getElem_allMembers s hj hj'] at hcut
  rw [mnemonicOfBuffer, buffer, hcut]
  rfl

theorem map_mnemonicOfBuffer (picks : List Nat) (h : ∀ j ∈ picks, j < q.count) :
    picks.map (mnemonicOfBuffer (buffer s) q.wordCnt)
      = (membersOf s picks h).map (q.backup s).mnemonic := by
  induction picks with
  | nil => rfl
  | cons j picks ih =>
    rw [List.map_cons, membersOf, List.map_cons, ih, mnemonicOfBuffer_buffer s (h j (.head _))]

theorem generateMnemonics_buffer (q : Request) (random : Nat → UInt8) {sharesBufferLen : Nat}
    (hroom : q.count * q.wordCnt ≤ sharesBufferLen) (hlen : sharesBufferLen < 2 ^ 16) :
    ∃ s : Split sha (q.ems sha) q.threshold,
      generateMnemonics sha random q.masterSecret q.iterationExponent q.extendableBackupFlag
          q.identifier [] 1 1 [⟨q.count, q.threshold⟩] sharesBufferLen
        = .ok (q.ems sha, buffer s) := by
  have hlength := q.length_eq
  obtain ⟨s, position', hsplit⟩ := @splitSecret_split sha random 0 _ _ (q.ems sha)
    (by rw [q.length_ems]; omega) q.count_le q.threshold_le q.threshold_ge
  refine ⟨s, ?_⟩
  have hformat : formatShards ((allMembers s).map (q.backup s).decoded) sharesBufferLen
      = buffer s := formatShards_members s (List.range q.count) _ sharesBufferLen
    (by rwa [List.length_range]) hlen
  have hall : ((allMembers s).map (q.backup s).decoded).take q.count
      = (allMembers s).map (q.backup s).decoded :=
    List.take_of_length_le (by rw [List.length_map, length_allMembers])
  have hems : masterSecretEncrypt sha q.masterSecret q.iterationExponent q.extendableBackupFlag
      q.identifier [] = q.ems sha := rfl
  rw [generateMnemonics, if_neg (by omega), if_neg (by omega), if_neg (by omega)]
  simp only [hems, splitGroups_one s random hsplit]
  exact congrArg (fun words => Except.ok (q.ems sha, words))
    ((congrArg (formatShards · sharesBufferLen) hall).trans hformat)

/-- **There and back.** Of what the generation writes, any as many different
mnemonics as the threshold, in any order, give back the master secret and all
that goes with it. -/
theorem slip39GetMasterSecret_generateMnemonics (q : Request) (random : Nat → UInt8)
    {sharesBufferLen : Nat} (hroom : q.count * q.wordCnt ≤ sharesBufferLen)
    (hlen : sharesBufferLen < 2 ^ 16) :
    ∃ ems sharesBuffer,
      generateMnemonics sha random q.masterSecret q.iterationExponent q.extendableBackupFlag
          q.identifier [] 1 1 [⟨q.count, q.threshold⟩] sharesBufferLen = .ok (ems, sharesBuffer)
        ∧ ∀ (stack : Stack) (picks : List Nat), picks.Nodup → (∀ j ∈ picks, j < q.count) →
          picks.length = q.threshold →
          slip39GetMasterSecret sha stack q.wordCnt
              (picks.map (mnemonicOfBuffer sharesBuffer q.wordCnt))
            = .ok ⟨ems, q.masterSecret, q.identifier, q.extendableBackupFlag,
                q.iterationExponent⟩ := by
  obtain ⟨s, hgenerate⟩ := @generateMnemonics_buffer sha q random _ hroom hlen
  refine ⟨_, _, hgenerate, ?_⟩
  intro stack picks hnodup hlt hpicks
  have hlength : (membersOf s picks hlt).length = q.threshold :=
    (length_membersOf s picks hlt).trans hpicks
  have hthreshold : 1 ≤ q.threshold := (q.backup s).memberThreshold_pos 0
  have hne : membersOf s picks hlt ≠ [] := by
    intro h
    rw [h] at hlength
    exact absurd hlength (by simp only [List.length_nil]; omega)
  have hpresent := present_eq s hne
  have hcount : (q.backup s).wordsCount = q.wordCnt := by
    have hj : picks.head (by rintro rfl; exact hne rfl) < q.count := hlt _ (List.head_mem _)
    exact ((q.backup s).length_words_share (member s _ hj)).symm.trans (length_wordsOf s _ hj)
  rw [map_mnemonicOfBuffer s picks hlt, ← hcount]
  refine ((q.backup s).slip39GetMasterSecret_ok (nodup_membersOf s hnodup hlt) ?_ stack _).mpr
    ⟨⟨?_, ?_, ?_⟩, rfl⟩
  · rw [hpresent]
    exact Nat.le_refl 1
  · exact Nat.le_refl 1
  · intro i hi
    rw [hpresent] at hi
    obtain rfl := List.mem_singleton.mp hi
    rw [ofGroup_eq, hlength]
    exact Nat.le_refl q.threshold
  · intro _
    rw [hpresent]
    exact .inl rfl

noncomputable def sample : Request where
  masterSecret := twoOfThree.masterSecret
  count := twoOfThree.memberCount 0
  threshold := twoOfThree.memberThreshold 0
  iterationExponent := twoOfThree.iteration
  extendableBackupFlag := twoOfThree.extendable
  identifier := twoOfThree.identifier
  length_eq := .inl rfl
  threshold_le := twoOfThree.memberThreshold_le 0
  count_le := twoOfThree.memberCount_le 0
  threshold_ge := .inl (Nat.le_refl (twoOfThree.memberThreshold 0))
  iterationExponent_lt := twoOfThree.iteration_lt
  identifier_lt := twoOfThree.identifier_lt

theorem slip39GetMasterSecret_generateMnemonics_sample :
    ∃ ems sharesBuffer,
      generateMnemonics Sha256.sample (fun _ => 0) sampleSecret 0 true 0 [] 1 1 [⟨3, 2⟩] 4096
          = .ok (ems, sharesBuffer)
        ∧ slip39GetMasterSecret Sha256.sample Stack.zero 20
            ([2, 0].map (mnemonicOfBuffer sharesBuffer 20))
          = .ok ⟨ems, sampleSecret, 0, true, 0⟩ := by
  obtain ⟨ems, sharesBuffer, hgenerate, hrecovered⟩ :=
    @slip39GetMasterSecret_generateMnemonics Sha256.sample sample (fun _ => 0) 4096 (by decide)
      (by decide)
  exact ⟨ems, sharesBuffer, hgenerate, hrecovered Stack.zero [2, 0] (by decide) (by decide) rfl⟩

end Request

end Keystone3.Slip39
