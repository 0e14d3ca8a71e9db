import Keystone3.Bitcoin.WalletEntries

/-!
# Which wallets come back

A wallet that has been created is written and read again. It comes back only if
it is legible (`legible_of_comesBack`), since a line with one more colon is
skipped, and so is what it says. If its lines are lines, it comes back exactly
when it is legible, its fingerprints can be read and its paths are not those of
the test network (`parse_generate_iff`).
-/

namespace Keystone3.Bitcoin

open Bytes (Block trim lines isWhitespace)
open Logic (Outcome)
open Logic.Outcome (bind_eq_ok collect ok_bind)
open List (length_map map_map mem_map mem_map_of_mem)

variable {keys : KeyLib}

theorem verifyWalletConfig_eq_ok {wallet : MultiSigWalletFile} {xfp : Text} :
    verifyWalletConfig wallet xfp = .ok () ↔ wallet.xpubItems ≠ []
      ∧ wallet.total = UInt32.ofNat wallet.xpubItems.length
      ∧ (∃ item ∈ wallet.xpubItems, Text.eqIgnoreAsciiCase item.xfp xfp = true)
      ∧ (wallet.derivations.length = 1
        ∨ wallet.derivations.length = wallet.xpubItems.length) := by
  unfold verifyWalletConfig
  rw [← List.any_eq_true]
  by_cases hnil : wallet.xpubItems = []
  · simp [hnil]
  rw [if_neg hnil]
  by_cases htotal : wallet.total = UInt32.ofNat wallet.xpubItems.length
  · rw [if_neg (not_not.mpr htotal)]
    by_cases hown : wallet.xpubItems.any (fun item => Text.eqIgnoreAsciiCase item.xfp xfp) = true
    · rw [if_neg (not_not.mpr hown)]
      by_cases hpaths : wallet.derivations.length = 1
          ∨ wallet.derivations.length = wallet.xpubItems.length
      · rw [if_neg (by omega)]
        simp [hnil, htotal, hown, hpaths]
      · rw [if_pos (by omega)]
        simp [hpaths]
    · rw [if_pos hown]
      simp [hown]
  · rw [if_pos htotal]
    simp [htotal]

theorem calculateWalletVerifyCode_eq_ok {wallet wallet' : MultiSigWalletFile} {xfp : Text} :
    calculateWalletVerifyCode keys wallet xfp = .ok wallet' ↔ ∃ format code code',
      MultiSigFormat.ofText wallet.format = .ok format
        ∧ multiSigVerifyCode keys (wallet.xpubItems.map (·.xpub)) wallet.threshold.toUInt8
          wallet.total.toUInt8 format wallet.network none = .ok code
        ∧ multiSigVerifyCode keys (wallet.xpubItems.map (·.xpub)) wallet.threshold.toUInt8
          wallet.total.toUInt8 format wallet.network (some xfp) = .ok code'
        ∧ wallet' = { wallet with verifyWithoutMfp := code, verifyCode := code' } := by
  constructor
  · intro h
    obtain ⟨format, hformat, h⟩ := bind_eq_ok.mp h
    obtain ⟨code, hcode, h⟩ := bind_eq_ok.mp h
    obtain ⟨code', hcode', h⟩ := bind_eq_ok.mp h
    cases h
    exact ⟨format, code, code', hformat, hcode, hcode', rfl⟩
  · intro h
    obtain ⟨format, code, code', hformat, hcode, hcode', rfl⟩ := h
    rw [calculateWalletVerifyCode, hformat, ok_bind, hcode, ok_bind, hcode']
    rfl

theorem collect_congr {xpubs xpubs' : List Text}
    (h : xpubs.map (convertVersion keys · .xpub) = xpubs'.map (convertVersion keys · .xpub)) :
    collect (fun x => convertVersion keys x .xpub) xpubs
      = collect (fun x => convertVersion keys x .xpub) xpubs' := by
  induction xpubs generalizing xpubs' with
  | nil =>
    rw [List.map_eq_nil_iff.mp h.symm]
  | cons x xs ih =>
    cases xpubs' with
    | nil => cases h
    | cons x' xs' =>
      rw [List.map_cons, List.map_cons] at h
      injection h with hx hxs
      rw [collect, collect, hx, ih hxs]

theorem multiSigVerifyCode_congr {xpubs xpubs' : List Text}
    (h : xpubs.map (convertVersion keys · .xpub) = xpubs'.map (convertVersion keys · .xpub))
    (threshold total : UInt8) (format : MultiSigFormat) (network : MultiSigNetwork)
    (xfp : Option Text) : multiSigVerifyCode keys xpubs threshold total format network xfp
      = multiSigVerifyCode keys xpubs' threshold total format network xfp := by
  rw [multiSigVerifyCode, multiSigVerifyCode, collect_congr h]

theorem checkNetworks_eq_ok {isFirst : Bool} {network network' : MultiSigNetwork}
    {items : List MultiSigXPubItem} (h : checkNetworks isFirst network items = .ok network') :
    ∀ item ∈ items, detectNetwork item.xpub = .mainNet := by
  induction items generalizing isFirst network with
  | nil =>
    intro item hitem
    cases hitem
  | cons item items ih =>
    unfold checkNetworks at h
    dsimp only at h
    by_cases htest : detectNetwork item.xpub = .testNet
    · rw [if_pos htest] at h
      cases h
    have hmain : detectNetwork item.xpub = .mainNet := by
      cases hnet : detectNetwork item.xpub with
      | mainNet => rfl
      | testNet => exact absurd hnet htest
    rw [if_neg htest] at h
    intro item' hitem
    rcases List.mem_cons.mp hitem with rfl | hitem
    · exact hmain
    · by_cases hfirst : isFirst = true
      · rw [if_pos hfirst] at h
        exact ih h item' hitem
      · rw [if_neg hfirst] at h
        split at h
        · cases h
        · exact ih h item' hitem

theorem checkNetworks_mainNet {isFirst : Bool} {items : List MultiSigXPubItem}
    (h : ∀ item ∈ items, detectNetwork item.xpub = .mainNet) :
    checkNetworks isFirst .mainNet items = .ok .mainNet := by
  induction items generalizing isFirst with
  | nil => rfl
  | cons item items ih =>
    have hrest : ∀ item ∈ items, detectNetwork item.xpub = .mainNet := by
      intro item' hitem
      exact h item' (List.mem_cons_of_mem item hitem)
    rw [checkNetworks, h item (.head _)]
    cases isFirst with
    | true => exact ih hrest
    | false => exact ih hrest

theorem parseWalletConfig_eq_ok {text xfp : Text} {wallet : MultiSigWalletFile}
    (h : parseWalletConfig keys text xfp = .ok wallet) : ∃ read network code code',
      readLines keys .empty (lines text) = .ok read
        ∧ (∀ item ∈ read.xpubItems, detectNetwork item.xpub = .mainNet)
        ∧ verifyWalletConfig read xfp = .ok ()
        ∧ wallet = { read with
          network, configText := text, verifyWithoutMfp := code, verifyCode := code' } := by
  obtain ⟨plain, hplain, h⟩ := bind_eq_ok.mp h
  obtain ⟨⟨⟩, hverify, h⟩ := bind_eq_ok.mp h
  obtain ⟨read, hread, hplain⟩ := bind_eq_ok.mp hplain
  obtain ⟨network, hnetwork, hplain⟩ := bind_eq_ok.mp hplain
  cases hplain
  obtain ⟨format, code, code', -, -, -, rfl⟩ := calculateWalletVerifyCode_eq_ok.mp h
  exact ⟨read, network, code, code', hread, checkNetworks_eq_ok hnetwork, hverify, rfl⟩

structure Created (keys : KeyLib) (config : MultiSigWalletFile) (xfp : Text) : Prop where
  network : config.network = .mainNet
  policy : isValidMultiSigPolicy config.threshold config.total = true
  verified : verifyWalletConfig config xfp = .ok ()
  written : ∃ text, generateConfigData keys config xfp = .ok text
  code : calculateWalletVerifyCode keys config xfp = .ok config

variable {config : MultiSigWalletFile}

theorem createWallet_created {creator name format xfp : Text} {threshold total : UInt32}
    {xpubInfos : List (Text × MultiSigXPubItem)}
    (h : createWallet keys creator name threshold total format xpubInfos .mainNet xfp
      = .ok config) : Created keys config xfp := by
  unfold createWallet at h
  by_cases hpolicy : isValidMultiSigPolicy threshold total = true
  · rw [if_neg (not_not.mpr hpolicy)] at h
    obtain ⟨first, -, h⟩ := bind_eq_ok.mp h
    dsimp only at h
    obtain ⟨⟨⟩, hverify, h⟩ := bind_eq_ok.mp h
    obtain ⟨text, htext, h⟩ := bind_eq_ok.mp h
    obtain ⟨code, code', code'', hformat, hcode, hcode', rfl⟩ :=
      calculateWalletVerifyCode_eq_ok.mp h
    exact ⟨rfl, hpolicy, hverify, ⟨text, htext⟩,
      calculateWalletVerifyCode_eq_ok.mpr ⟨code, code', code'', hformat, hcode, hcode', rfl⟩⟩
  · rw [if_pos hpolicy] at h
    cases h

structure SameWallet (keys : KeyLib) (config wallet : MultiSigWalletFile) : Prop where
  name : wallet.name = config.name
  threshold : wallet.threshold = config.threshold
  total : wallet.total = config.total
  derivations : wallet.derivations = config.derivations
  format : wallet.format = config.format
  xpubs : xpubsOf keys wallet = xpubsOf keys config
  verifyCode : wallet.verifyCode = config.verifyCode

def ComesBack (keys : KeyLib) (config : MultiSigWalletFile) (xfp : Text) : Prop :=
  ∃ text wallet, generateConfigData keys config xfp = .ok text
    ∧ parseWalletConfig keys text xfp = .ok wallet ∧ SameWallet keys config wallet

structure OneLine (config : MultiSigWalletFile) (xfp : Text) : Prop where
  creator : '\n' ∉ config.creator
  xfp : '\n' ∉ xfp
  items : ∀ item ∈ config.xpubItems, '\n' ∉ item.xfp

/-- The fingerprints that are read, one of them that of the device. -/
structure ReadableXfps (config : MultiSigWalletFile) (xfp : Text) : Prop where
  valid : ∀ item ∈ config.xpubItems, isValidXfp (trim item.xfp) = true
  own : ∃ item ∈ config.xpubItems, Text.eqIgnoreAsciiCase (trim item.xfp) xfp = true

def MainPath (path : Text) : Prop :=
  path.startsWith multiP2wshP2shPathTest = false ∧ path.startsWith multiP2wshPathTest = false

theorem versionOf_mainNet {path : Text} : (versionOf path .mainNet = .xpub
    ∨ versionOf path .mainNet = .ypubMultisig ∨ versionOf path .mainNet = .zpubMultisig)
      ↔ MainPath path := by
  -- two of the prefixes are of one path only if one is a prefix of the other
  have hother : ∀ {p q : Text}, path.startsWith p = true → p.length ≤ q.length →
      p.isPrefixOf q = false → path.startsWith q = false := by
    intro p q hp hlength hpq
    rw [Bool.eq_false_iff] at hpq ⊢
    intro hq
    exact hpq (List.isPrefixOf_iff_prefix.mpr (List.prefix_of_prefix_length_le
      (List.isPrefixOf_iff_prefix.mp hp) (List.isPrefixOf_iff_prefix.mp hq) hlength))
  unfold versionOf MainPath
  by_cases h45 : path.startsWith multiP2shPath = true
  · simp [h45, hother h45 (q := multiP2wshP2shPathTest) (by decide) (by decide),
      hother h45 (q := multiP2wshPathTest) (by decide) (by decide)]
  by_cases hwrapped : path.startsWith multiP2wshP2shPath = true
  · simp [h45, hwrapped, hother hwrapped (q := multiP2wshP2shPathTest) (by decide) (by decide),
      hother hwrapped (q := multiP2wshPathTest) (by decide) (by decide)]
  by_cases hwrappedTest : path.startsWith multiP2wshP2shPathTest = true
  · simp [h45, hwrapped, hwrappedTest]
  by_cases hnative : path.startsWith multiP2wshPath = true
  · simp [h45, hwrapped, hwrappedTest, hnative,
      hother hnative (q := multiP2wshPathTest) (by decide) (by decide)]
  by_cases hnativeTest : path.startsWith multiP2wshPathTest = true
  · simp [h45, hwrapped, hwrappedTest, hnative, hnativeTest]
  · simp [h45, hwrapped, hwrappedTest, hnative, hnativeTest]

theorem legible_of_comesBack {xfp : Text}
    (hc : Created keys config xfp) (h : ComesBack keys config xfp) : Legible keys config := by
  obtain ⟨text, wallet, -, hparse, hsame⟩ := h
  obtain ⟨read, network, code, code', hread, -, -, rfl⟩ := parseWalletConfig_eq_ok hparse
  have hlegible := readLines_readSoFar readSoFar_empty Bytes.not_mem_of_mem_lines hread
  constructor
  · rw [← hsame.name]
    exact hlegible.name
  · rw [← hsame.total, ← hsame.threshold]
    rcases hlegible.policy with hpolicy | ⟨htotal, hthreshold⟩
    · exact hpolicy
    · -- a policy of zeros is not one that a wallet is created with
      have hzero := hc.policy
      rw [← hsame.total, ← hsame.threshold] at hzero
      change isValidMultiSigPolicy read.threshold read.total = true at hzero
      rw [htotal, hthreshold] at hzero
      cases hzero
  · rw [← hsame.derivations]
    exact hlegible.derivations
  · rw [← hsame.xpubs]
    exact hlegible.xpubs

theorem field_format {xfp : Text} (hc : Created keys config xfp) :
    Field config.format := by
  obtain ⟨format, -, -, hformat, -⟩ := calculateWalletVerifyCode_eq_ok.mp hc.code
  unfold MultiSigFormat.ofText at hformat
  split at hformat
  · rename_i heq
    rw [heq]
    exact ⟨by decide, by decide, by decide⟩
  split at hformat
  · rename_i heq
    rcases heq with heq | heq
    · rw [heq]
      exact ⟨by decide, by decide, by decide⟩
    · rw [heq]
      exact ⟨by decide, by decide, by decide⟩
  split at hformat
  · rename_i heq
    rw [heq]
    exact ⟨by decide, by decide, by decide⟩
  · cases hformat

theorem field_converted (hkeys : keys.Lawful) {s xpub : Text} {v : Version}
    (h : convertVersion keys s v = .ok xpub) : Field xpub := by
  have hall : base58Chars.all (fun c => c != ':' && c != '\n' && !isWhitespace c) = true := by
    decide
  have hchars : ∀ c ∈ base58Chars, c ≠ ':' ∧ c ≠ '\n' ∧ isWhitespace c = false := by
    intro c hc
    simpa [and_assoc] using List.all_eq_true.mp hall c hc
  obtain ⟨bytes, -, -, rfl⟩ := convertVersion_eq_ok.mp h
  rw [hkeys.encodeCheck_eq]
  refine ⟨?_, ?_, ?_⟩
  · intro hmem
    exact (hchars _ (mem_base58Text _ hmem)).1 rfl
  · intro hmem
    exact (hchars _ (mem_base58Text _ hmem)).2.1 rfl
  · exact Bytes.trim_of_forall fun c hc => (hchars c (mem_base58Text c hc)).2.2

theorem length_pathsOf {xfp : Text}
    (hc : Created keys config xfp) : (pathsOf config).length = config.xpubItems.length := by
  obtain ⟨-, -, -, hpaths⟩ := verifyWalletConfig_eq_ok.mp hc.verified
  by_cases hone : ∃ path, config.derivations = [path]
  · obtain ⟨path, hone⟩ := hone
    rw [pathsOf_one hone, length_map]
  · have hmany : ∀ path, config.derivations ≠ [path] := fun path h => hone ⟨path, h⟩
    rw [pathsOf_many hmany]
    rcases hpaths with hlength | hlength
    · exact absurd (List.length_eq_one_iff.mp hlength) hone
    · exact hlength

theorem mem_pathsOf (hne : config.xpubItems ≠ []) {path : Text} :
    path ∈ pathsOf config ↔ path ∈ config.derivations := by
  by_cases hone : ∃ path, config.derivations = [path]
  · obtain ⟨path', hone⟩ := hone
    rw [pathsOf_one hone, hone, List.map_const', List.mem_replicate, List.mem_singleton]
    simp [hne]
  · have hmany : ∀ path, config.derivations ≠ [path] := fun path h => hone ⟨path, h⟩
    rw [pathsOf_many hmany]

section

variable {config : MultiSigWalletFile} {xfp : Text} {items : List MultiSigXPubItem}

theorem Written.length_eq (hc : Created keys config xfp) (hw : Written keys config items) :
    config.xpubItems.length = items.length := by
  have hlength := List.Forall₂.length_eq hw
  rw [List.length_zip, length_pathsOf hc, Nat.min_self] at hlength
  exact hlength

theorem Written.of_mem (hw : Written keys config items) {item : MultiSigXPubItem}
    (hitem : item ∈ items) : ∃ path ∈ pathsOf config, ∃ own ∈ config.xpubItems,
      item.xfp = own.xfp
        ∧ convertVersion keys own.xpub (versionOf path config.network) = .ok item.xpub := by
  obtain ⟨i, hi, rfl⟩ := List.mem_iff_getElem.mp hitem
  have hi' : i < ((pathsOf config).zip config.xpubItems).length := by
    rwa [List.Forall₂.length_eq hw]
  have hpair := (List.forall₂_iff_get.mp hw).2 i hi' hi
  have hmem := List.of_mem_zip (List.getElem_mem hi')
  exact ⟨_, hmem.1, _, hmem.2, hpair.1, hpair.2⟩

theorem Written.of_mem_pathsOf (hc : Created keys config xfp) (hw : Written keys config items)
    {path : Text} (hpath : path ∈ pathsOf config) : ∃ own ∈ config.xpubItems, ∃ item ∈ items,
      convertVersion keys own.xpub (versionOf path config.network) = .ok item.xpub := by
  obtain ⟨i, hi, rfl⟩ := List.mem_iff_getElem.mp hpath
  have hlength := length_pathsOf hc
  have hi' : i < ((pathsOf config).zip config.xpubItems).length := by
    rw [List.length_zip]
    omega
  have hi'' : i < items.length := by
    rw [← hw.length_eq hc]
    omega
  have hpair := (List.forall₂_iff_get.mp hw).2 i hi' hi''
  have hmem := List.of_mem_zip (List.getElem_mem hi')
  refine ⟨_, hmem.2, _, List.getElem_mem hi'', ?_⟩
  have hconvert := hpair.2
  rw [convertXpub] at hconvert
  simp only [List.get_eq_getElem, List.getElem_zip] at hconvert ⊢
  exact hconvert

theorem Written.map_eq (hc : Created keys config xfp) (hw : Written keys config items)
    {β : Type} {f : MultiSigXPubItem → β} (h : ∀ own item : MultiSigXPubItem, ∀ path,
      item.xfp = own.xfp → convertXpub keys path own.xpub config.network = .ok item.xpub →
      f item = f own) : items.map f = config.xpubItems.map f := by
  have hsnd : ((pathsOf config).zip config.xpubItems).map (·.2) = config.xpubItems :=
    List.map_snd_zip (le_of_eq (length_pathsOf hc).symm)
  conv_rhs => rw [← hsnd]
  unfold Written at hw
  generalize (pathsOf config).zip config.xpubItems = pairs at hw ⊢
  induction hw with
  | nil => rfl
  | cons hpair _ ih => exact congrArg₂ List.cons (h _ _ _ hpair.1 hpair.2) ih

theorem Written.xpubs_eq (hkeys : keys.Lawful) (hc : Created keys config xfp)
    (hw : Written keys config items) :
    items.map (fun item => convertVersion keys item.xpub .xpub) = xpubsOf keys config := by
  refine hw.map_eq hc (f := fun item => convertVersion keys item.xpub .xpub) ?_
  intro own item path _ hconvert
  exact convertVersion_converted hkeys hconvert .xpub

theorem Written.valid (hkeys : keys.Lawful) (hl : Legible keys config)
    (hw : Written keys config items) {item : MultiSigXPubItem} (hitem : item ∈ items) :
    Field item.xpub ∧ isValidXyzpub keys item.xpub = true := by
  obtain ⟨path, -, own, hown, -, hconvert⟩ := hw.of_mem hitem
  refine ⟨field_converted hkeys hconvert, ?_⟩
  rw [isValidXyzpub_iff, convertVersion_converted hkeys hconvert .xpub]
  exact hl.xpubs.valid _ (mem_map_of_mem hown)

theorem Written.plain (hkeys : keys.Lawful) (hc : Created keys config xfp)
    (hl : Legible keys config) (ho : OneLine config xfp) (hw : Written keys config items) :
    ∀ entry ∈ entriesOf config xfp items, entry.Plain := by
  have hpath : ∀ path ∈ config.derivations, (Entry.derivation path).Plain :=
    fun path hpath => (hl.derivations path hpath).1
  have hcosigner : ∀ item ∈ items, (Entry.cosigner item).Plain := by
    intro item hitem
    obtain ⟨-, -, own, hown, hxfp, -⟩ := hw.of_mem hitem
    refine ⟨?_, (hw.valid hkeys hl hitem).1⟩
    rw [hxfp]
    exact ho.items own hown
  exact forall_entriesOf hpath hcosigner ⟨ho.creator, ho.xfp⟩ trivial hl.name trivial
    (field_format hc) trivial

end

section

variable {config : MultiSigWalletFile} {xfp : Text} {items : List MultiSigXPubItem}

theorem Written.lines_eq (hkeys : keys.Lawful) (hc : Created keys config xfp)
    (hl : Legible keys config) (ho : OneLine config xfp) (hw : Written keys config items) :
    lines (List.intercalate ['\n'] ((entriesOf config xfp items).map Entry.render))
      = (entriesOf config xfp items).map Entry.render := by
  obtain ⟨hne, -⟩ := verifyWalletConfig_eq_ok.mp hc.verified
  have hitems : items ≠ [] := by
    intro hnil
    have hlength := hw.length_eq hc
    rw [hnil] at hlength
    exact hne (List.length_eq_zero_iff.mp hlength)
  obtain ⟨item, -, hlast⟩ := getLast?_entriesOf xfp hitems
    ((length_pathsOf hc).trans (hw.length_eq hc))
  have hend : ((entriesOf config xfp items).map Entry.render).getLast?
      = some (labelled item.xfp item.xpub) := by
    rw [List.getLast?_map, hlast]
    rfl
  have hlines : (entriesOf config xfp items).map Entry.render ≠ [] := by
    intro hnil
    rw [hnil] at hend
    cases hend
  refine Bytes.lines_intercalate hlines ?_ ?_
  · rw [List.getLast?_eq_getLast_of_ne_nil hlines] at hend
    injection hend with hend
    rw [hend]
    exact List.append_ne_nil_of_right_ne_nil _ (List.cons_ne_nil _ _)
  · intro line hline
    obtain ⟨entry, hentry, rfl⟩ := mem_map.mp hline
    exact Entry.render_line (hw.plain hkeys hc hl ho entry hentry)

theorem Written.readLines_eq (hkeys : keys.Lawful) (hc : Created keys config xfp)
    (hl : Legible keys config) (ho : OneLine config xfp) (hw : Written keys config items)
    (hxfp : ∀ item ∈ items, isValidXfp (trim item.xfp) = true) :
    ∃ creator, readLines keys .empty ((entriesOf config xfp items).map Entry.render)
      = .ok { MultiSigWalletFile.empty with
          creator
          name := config.name
          threshold := config.threshold
          total := config.total
          format := config.format
          derivations := config.derivations
          xpubItems := items.map fun item => ⟨trim item.xfp, item.xpub⟩ } := by
  obtain ⟨creator, hfold⟩ := foldl_entriesOf config xfp
    ((length_pathsOf hc).trans (hw.length_eq hc))
  refine ⟨creator, ?_⟩
  rw [← hfold]
  refine Entry.readLines_render ?_ ?_
  · have hcosigner : ∀ item ∈ items, (Entry.cosigner item).Readable keys := by
      intro item hitem
      obtain ⟨-, -, own, hown, hsame, -⟩ := hw.of_mem hitem
      refine ⟨⟨?_, hxfp item hitem⟩, hw.valid hkeys hl hitem⟩
      rw [hsame]
      exact ho.items own hown
    exact forall_entriesOf hl.derivations hcosigner ⟨ho.creator, ho.xfp⟩ trivial hl.name
      hl.policy (field_format hc) trivial
  · rw [hfold]
    have hxpubs := hl.xpubs
    rw [← hw.xpubs_eq hkeys hc] at hxpubs
    rw [xpubsOf, map_map]
    exact hxpubs

theorem Written.xfps_eq (hc : Created keys config xfp) (hw : Written keys config items) :
    items.map (·.xfp) = config.xpubItems.map (·.xfp) :=
  hw.map_eq hc (f := fun item => item.xfp) fun _ _ _ hsame _ => hsame

theorem comesBack_of_legible (hkeys : keys.Lawful) (hc : Created keys config xfp)
    (hl : Legible keys config) (ho : OneLine config xfp) (hx : ReadableXfps config xfp)
    (hmain : ∀ path ∈ config.derivations, MainPath path) : ComesBack keys config xfp := by
  obtain ⟨text, htext⟩ := hc.written
  obtain ⟨hne, htotal, -, hpaths⟩ := verifyWalletConfig_eq_ok.mp hc.verified
  obtain ⟨items, hw, rfl⟩ := generateConfigData_eq hne htext
  have hlength := hw.length_eq hc
  have hxfps := hw.xfps_eq hc
  have hvalid : ∀ item ∈ items, isValidXfp (trim item.xfp) = true := by
    intro item hitem
    obtain ⟨own, hown, hsame⟩ := mem_map.mp (hxfps ▸ mem_map_of_mem hitem)
    rw [← hsame]
    exact hx.valid own hown
  obtain ⟨creator, hread⟩ := hw.readLines_eq hkeys hc hl ho hvalid
  rw [← hw.lines_eq hkeys hc hl ho] at hread
  have hnetworks : ∀ item ∈ items, detectNetwork item.xpub = .mainNet := by
    intro item hitem
    obtain ⟨path, hpath, own, hown, -, hconvert⟩ := hw.of_mem hitem
    rw [detectNetwork_converted hkeys hconvert
      (isValidXyzpub_iff.mpr (hl.xpubs.valid _ (mem_map_of_mem hown))), hc.network,
      versionOf_mainNet]
    exact hmain path ((mem_pathsOf hne).mp hpath)
  generalize List.intercalate ['\n'] ((entriesOf config xfp items).map Entry.render) = text
    at htext hread
  generalize hwallet : ({ MultiSigWalletFile.empty with
    creator
    name := config.name
    threshold := config.threshold
    total := config.total
    format := config.format
    derivations := config.derivations
    xpubItems := items.map fun item => ⟨trim item.xfp, item.xpub⟩ } : MultiSigWalletFile) = wallet
    at hread
  have hcosigners : wallet.xpubItems = items.map fun item => ⟨trim item.xfp, item.xpub⟩ := by
    rw [← hwallet]
  have hcount : wallet.xpubItems.length = config.xpubItems.length := by
    rw [hcosigners, length_map, hlength]
  have hconverted : (wallet.xpubItems.map (·.xpub)).map (convertVersion keys · .xpub)
      = (config.xpubItems.map (·.xpub)).map (convertVersion keys · .xpub) := by
    rw [hcosigners, map_map, map_map, map_map]
    exact hw.xpubs_eq hkeys hc
  have hdetect : ∀ item ∈ wallet.xpubItems, detectNetwork item.xpub = .mainNet := by
    intro item hitem
    rw [hcosigners] at hitem
    obtain ⟨item', hitem', rfl⟩ := mem_map.mp hitem
    exact hnetworks item' hitem'
  have hown : ∃ item ∈ wallet.xpubItems, Text.eqIgnoreAsciiCase item.xfp xfp = true := by
    obtain ⟨own, hown, hsame⟩ := hx.own
    obtain ⟨item, hitem, heq⟩ := mem_map.mp (hxfps ▸ mem_map_of_mem hown)
    refine ⟨⟨trim item.xfp, item.xpub⟩, ?_, ?_⟩
    · rw [hcosigners]
      exact mem_map_of_mem hitem
    · rw [heq]
      exact hsame
  have hverify : verifyWalletConfig wallet xfp = .ok () := by
    refine verifyWalletConfig_eq_ok.mpr ⟨?_, ?_, hown, ?_⟩
    · intro hnil
      rw [hnil] at hcount
      exact hne (List.length_eq_zero_iff.mp hcount.symm)
    · rw [hcount, ← hwallet]
      exact htotal
    · rw [hcount, ← hwallet]
      exact hpaths
  have hplain : parsePlainWalletConfig keys text
      = .ok { wallet with network := .mainNet, configText := text } := by
    have hnetwork : wallet.network = .mainNet := by rw [← hwallet]; rfl
    rw [parsePlainWalletConfig, hread, ok_bind, hnetwork, checkNetworks_mainNet hdetect]
    rfl
  obtain ⟨format, code, code', hformat, hcode, hcode', hconfig⟩ :=
    calculateWalletVerifyCode_eq_ok.mp hc.code
  rw [← multiSigVerifyCode_congr hconverted, hc.network] at hcode hcode'
  have hcalculate : calculateWalletVerifyCode keys
      { wallet with network := .mainNet, configText := text } xfp = .ok { wallet with
        network := .mainNet, configText := text, verifyWithoutMfp := code, verifyCode := code' } := by
    rw [← hwallet] at hcode hcode' ⊢
    exact calculateWalletVerifyCode_eq_ok.mpr ⟨format, code, code', hformat, hcode, hcode', rfl⟩
  refine ⟨text, { wallet with
    network := .mainNet, configText := text, verifyWithoutMfp := code, verifyCode := code' },
    htext, ?_, ?_⟩
  · rw [parseWalletConfig, hplain, ok_bind]
    have hchecked : verifyWalletConfig { wallet with network := .mainNet, configText := text } xfp
        = .ok () := hverify
    rw [hchecked, ok_bind]
    exact hcalculate
  · have hxpubs : xpubsOf keys wallet = xpubsOf keys config := by
      rw [map_map, map_map] at hconverted
      exact hconverted
    have hverifyCode : code' = config.verifyCode := by rw [hconfig]
    rw [← hwallet] at hxpubs ⊢
    exact ⟨rfl, rfl, rfl, rfl, rfl, hxpubs, hverifyCode⟩

theorem of_comesBack (hkeys : keys.Lawful) (hc : Created keys config xfp)
    (hl : Legible keys config) (ho : OneLine config xfp) (h : ComesBack keys config xfp) :
    ReadableXfps config xfp ∧ ∀ path ∈ config.derivations, MainPath path := by
  obtain ⟨text, wallet, htext, hparse, hsame⟩ := h
  obtain ⟨hne, -⟩ := verifyWalletConfig_eq_ok.mp hc.verified
  obtain ⟨items, hw, rfl⟩ := generateConfigData_eq hne htext
  obtain ⟨read, network, code, code', hread, hdetect, hverify, rfl⟩ :=
    parseWalletConfig_eq_ok hparse
  rw [hw.lines_eq hkeys hc hl ho] at hread
  have hlength := hw.length_eq hc
  have hxfps := hw.xfps_eq hc
  -- as many cosigners have been read as were written
  have hcount : read.xpubItems.length = items.length := by
    have hxpubs := congrArg List.length hsame.xpubs
    rw [xpubsOf, xpubsOf, length_map, length_map] at hxpubs
    exact hxpubs.trans hlength
  obtain ⟨creator, hfold⟩ := foldl_entriesOf config xfp ((length_pathsOf hc).trans hlength)
  have hwritten : ((entriesOf config xfp items).filterMap Entry.item?).length = items.length := by
    have hitems := congrArg (fun w => w.xpubItems.length) hfold
    simpa [Entry.foldl_xpubItems, MultiSigWalletFile.empty] using hitems
  obtain ⟨-, hall⟩ := Entry.readLines_cosigners hread
  have hvalid : ∀ item ∈ items, isValidXfp (trim item.xfp) = true := by
    intro item hitem
    refine hall ?_ item (mem_entriesOf ((length_pathsOf hc).trans hlength) hitem)
    rw [hwritten, hcount]
    exact (Nat.zero_add _).symm
  obtain ⟨creator', hread'⟩ := hw.readLines_eq hkeys hc hl ho hvalid
  rw [hread'] at hread
  cases hread
  refine ⟨⟨?_, ?_⟩, ?_⟩
  · intro own hown
    obtain ⟨item, hitem, heq⟩ := mem_map.mp (hxfps ▸ mem_map_of_mem hown)
    rw [← heq]
    exact hvalid item hitem
  · obtain ⟨-, -, ⟨read, hread, heq⟩, -⟩ := verifyWalletConfig_eq_ok.mp hverify
    obtain ⟨item, hitem, rfl⟩ := mem_map.mp hread
    obtain ⟨own, hown, hxfp⟩ := mem_map.mp (hxfps ▸ mem_map_of_mem hitem)
    refine ⟨own, hown, ?_⟩
    rw [hxfp]
    exact heq
  · intro path hpath
    obtain ⟨own, hown, item, hitem, hconvert⟩ :=
      hw.of_mem_pathsOf hc ((mem_pathsOf hne).mpr hpath)
    have hmain := hdetect _ (mem_map_of_mem hitem)
    rw [detectNetwork_converted hkeys hconvert
      (isValidXyzpub_iff.mpr (hl.xpubs.valid _ (mem_map_of_mem hown))), hc.network,
      versionOf_mainNet] at hmain
    exact hmain

end

/-- **A wallet that is created for the main network comes back only if it is legible.** If
its texts are one line each, it comes back exactly when it is legible, its fingerprints can
be read and none of its paths is of the test network. -/
theorem parse_generate_iff (hkeys : keys.Lawful) {creator name format xfp : Text}
    {threshold total : UInt32} {xpubInfos : List (Text × MultiSigXPubItem)}
    {config : MultiSigWalletFile}
    (h : createWallet keys creator name threshold total format xpubInfos .mainNet xfp
      = .ok config) :
    (ComesBack keys config xfp → Legible keys config)
      ∧ (OneLine config xfp → (ComesBack keys config xfp ↔ Legible keys config
        ∧ ReadableXfps config xfp ∧ ∀ path ∈ config.derivations, MainPath path)) := by
  have hc := createWallet_created h
  refine ⟨legible_of_comesBack hc, ?_⟩
  intro ho
  constructor
  · intro hback
    have hl := legible_of_comesBack hc hback
    exact ⟨hl, of_comesBack hkeys hc hl ho hback⟩
  · intro hall
    obtain ⟨hl, hx, hmain⟩ := hall
    exact comesBack_of_legible hkeys hc hl ho hx hmain

theorem createWallet_fields {creator name format xfp : Text} {threshold total : UInt32}
    {xpubInfos : List (Text × MultiSigXPubItem)} {network : MultiSigNetwork}
    (h : createWallet keys creator name threshold total format xpubInfos network xfp
      = .ok config) : config.creator = creator ∧ config.name = name ∧ config.threshold = threshold
        ∧ config.total = total ∧ config.xpubItems = xpubInfos.map (·.2)
        ∧ ∀ path ∈ config.derivations, path ∈ xpubInfos.map (·.1) := by
  unfold createWallet at h
  split at h
  · cases h
  obtain ⟨first, hfirst, h⟩ := bind_eq_ok.mp h
  dsimp only at h
  obtain ⟨⟨⟩, -, h⟩ := bind_eq_ok.mp h
  obtain ⟨text, -, h⟩ := bind_eq_ok.mp h
  obtain ⟨code, code', code'', -, -, -, rfl⟩ := calculateWalletVerifyCode_eq_ok.mp h
  refine ⟨rfl, rfl, rfl, rfl, rfl, ?_⟩
  intro path hpath
  dsimp only at hpath
  split at hpath
  · rw [List.mem_singleton.mp hpath]
    exact mem_map_of_mem (List.mem_of_getElem? (Outcome.index_eq_ok.mp hfirst))
  · exact hpath

def zeroLib : KeyLib where
  encodeCheck data := base58Text (data ++ [0, 0, 0, 0])
  decodeCheck s :=
    match fromBase58Str s with
    | .ok bytes => .ok (bytes.take (bytes.length - 4))
    | _ => .error "not in base 58"
  isXpub s :=
    match fromBase58Str s with
    | .ok bytes => bytes.length = 82
    | _ => false
  sha256 _ := Block.zero 32

theorem zeroLib_lawful : zeroLib.Lawful where
  encodeCheck_eq _ := rfl
  decodeCheck_encodeCheck data := by
    simp [zeroLib, fromBase58Str_base58Text]
  length_of_isXpub data h := by
    simpa [zeroLib, fromBase58Str_base58Text] using h

/-- A key with bytes that are all the same. -/
@[irreducible] def keyOf (n : UInt8) : Text :=
  zeroLib.encodeCheck (Version.xpub.bytes ++ List.replicate 74 n)

theorem keyOf_eq (n : UInt8) :
    keyOf n = zeroLib.encodeCheck (Version.xpub.bytes ++ List.replicate 74 n) := by
  unfold keyOf
  rfl

theorem keyOf_converted (n : UInt8) : convertVersion zeroLib (keyOf n) .xpub = .ok (keyOf n) := by
  rw [keyOf_eq]
  exact convertVersion_encodeCheck zeroLib_lawful .xpub .xpub (List.replicate 74 n)

theorem isXpub_encodeCheck {data : List UInt8} (h : data.length = 78) :
    zeroLib.isXpub (zeroLib.encodeCheck data) = true := by
  simp [zeroLib, fromBase58Str_base58Text, h]

theorem isXpub_keyOf (n : UInt8) : zeroLib.isXpub (keyOf n) = true := by
  have hlength : (Version.xpub.bytes ++ List.replicate 74 n).length = 78 := by
    rw [List.length_append, length_versionBytes, List.length_replicate]
  rw [keyOf_eq]
  exact isXpub_encodeCheck hlength

def cosignersAt (path : Text) : List (Text × MultiSigXPubItem) :=
  [(path, ⟨['7', '3', 'C', '5', 'D', 'A', '0', 'A'], keyOf 1⟩),
    (path, ⟨['7', '4', '8', 'C', 'C', '6', 'A', 'A'], keyOf 2⟩)]

def walletNamed (name : Text) : Result MultiSigWalletFile :=
  createWallet zeroLib [] name 2 2 ['P', '2', 'W', 'S', 'H'] (cosignersAt multiP2wshPath) .mainNet
    ['7', '3', 'C', '5', 'D', 'A', '0', 'A']

theorem convertVersion_keyOf (n : UInt8) (version : Version) :
    convertVersion zeroLib (keyOf n) version
      = .ok (zeroLib.encodeCheck (version.bytes ++ List.replicate 74 n)) := by
  rw [keyOf_eq]
  exact convertVersion_encodeCheck zeroLib_lawful .xpub version (List.replicate 74 n)

theorem createWallet_cosigners (name : Text) {threshold : UInt32}
    (hpolicy : isValidMultiSigPolicy threshold 2 = true) :
    (createWallet zeroLib [] name threshold 2 ['P', '2', 'W', 'S', 'H']
      (cosignersAt multiP2wshPath) .mainNet ['7', '3', 'C', '5', 'D', 'A', '0', 'A']).isOk
      = true := by
  have hconverted : ∀ n version, ∃ t, convertVersion zeroLib (keyOf n) version = .ok t :=
    fun n version => ⟨_, convertVersion_keyOf n version⟩
  unfold cosignersAt
  -- the keys are not to be computed
  generalize keyOf = key at hconverted ⊢
  generalize zeroLib = lib at hconverted ⊢
  choose converted hconverted using hconverted
  have hmine : Text.eqIgnoreAsciiCase ['7', '3', 'C', '5', 'D', 'A', '0', 'A']
      ['7', '3', 'C', '5', 'D', 'A', '0', 'A'] = true := rfl
  have hformat : MultiSigFormat.ofText ['P', '2', 'W', 'S', 'H'] = .ok .p2wsh := rfl
  rw [createWallet, if_neg (by rw [hpolicy]; simp)]
  simp [Outcome.index, verifyWalletConfig, hmine, generateConfigData, xpubLine, convertXpub,
    calculateWalletVerifyCode, multiSigVerifyCode, collect, hconverted, hformat, Outcome.isOk]

theorem walletNamed_legible {name : Text} (hname : Field name)
    (h : walletNamed name = .ok config) : Legible zeroLib config
      ∧ OneLine config ['7', '3', 'C', '5', 'D', 'A', '0', 'A']
      ∧ ReadableXfps config ['7', '3', 'C', '5', 'D', 'A', '0', 'A']
      ∧ ∀ path ∈ config.derivations, MainPath path := by
  obtain ⟨hcreator, hname', hthreshold, htotal, hitems, hpaths⟩ := createWallet_fields h
  have hpath : ∀ path ∈ config.derivations, path = multiP2wshPath := by
    intro path hpath
    simpa [cosignersAt] using hpaths path hpath
  have hxpubs : xpubsOf zeroLib config = [.ok (keyOf 1), .ok (keyOf 2)] := by
    rw [xpubsOf, hitems]
    show [convertVersion zeroLib (keyOf 1) .xpub, convertVersion zeroLib (keyOf 2) .xpub] = _
    rw [keyOf_converted, keyOf_converted]
  have hdistinct : Text.eqIgnoreAsciiCase (keyOf 1) (keyOf 2) = false := by decide +kernel
  refine ⟨⟨?_, ?_, ?_, ⟨?_, ?_⟩⟩, ⟨?_, by decide, ?_⟩, ⟨?_, ?_⟩, ?_⟩
  · rw [hname']
    exact hname
  · rw [htotal, hthreshold]
    decide
  · intro path hmem
    rw [hpath path hmem]
    exact ⟨⟨by decide, by decide, by decide⟩, by decide⟩
  · intro r hr
    rw [hxpubs] at hr
    rcases List.mem_cons.mp hr with rfl | hr
    · exact ⟨_, rfl, isXpub_keyOf 1⟩
    · rw [List.mem_singleton.mp hr]
      exact ⟨_, rfl, isXpub_keyOf 2⟩
  · rw [hxpubs]
    refine List.pairwise_pair.mpr ?_
    intro x y hx hy
    injection hx with hx
    injection hy with hy
    rw [← hx, ← hy]
    exact hdistinct
  · rw [hcreator]
    decide
  · rw [hitems]
    decide
  · rw [hitems]
    decide
  · rw [hitems]
    exact ⟨_, .head _, by decide⟩
  · intro path hmem
    rw [hpath path hmem]
    exact ⟨by decide, by decide⟩

theorem walletNamed_isOk (name : Text) : (walletNamed name).isOk = true :=
  createWallet_cosigners name rfl

/-- A wallet with a plain name comes back. -/
theorem parse_generate_plain : ∃ config, walletNamed ['a', 'b'] = .ok config
    ∧ ComesBack zeroLib config ['7', '3', 'C', '5', 'D', 'A', '0', 'A'] := by
  obtain ⟨config, hconfig⟩ := Outcome.exists_of_isOk (walletNamed_isOk ['a', 'b'])
  have hname : Field ['a', 'b'] := ⟨by decide, by decide, by decide⟩
  obtain ⟨hl, ho, hx, hmain⟩ := walletNamed_legible hname hconfig
  exact ⟨config, hconfig, ((parse_generate_iff zeroLib_lawful hconfig).2 ho).mpr ⟨hl, hx, hmain⟩⟩

/-- One with a colon in its name does not. -/
theorem not_comesBack_colon : ∃ config, walletNamed ['a', ':', 'b'] = .ok config
    ∧ ¬ComesBack zeroLib config ['7', '3', 'C', '5', 'D', 'A', '0', 'A'] := by
  obtain ⟨config, hconfig⟩ := Outcome.exists_of_isOk (walletNamed_isOk ['a', ':', 'b'])
  refine ⟨config, hconfig, ?_⟩
  intro hback
  have hname := (legible_of_comesBack (createWallet_created hconfig) hback).name.colon
  rw [(createWallet_fields hconfig).2.1] at hname
  exact hname (by decide)

end Keystone3.Bitcoin
