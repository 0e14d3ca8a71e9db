import Keystone3.Account.Passphrase
import Keystone3.Settings.Document

/-!
# Settings without a passphrase

Without a passphrase every call reads the document from the flash, and a setter writes
it back, so a getter sees what the document that was last stored says (`get_stored`),
and a setter leaves the changed one behind (`set_stored`).

A value that is set is not always the value that is read.
-/

namespace Keystone3.Settings

open Logic (Outcome)
open Logic.Prog
open Json (Item Text ascii sameName lookup printValue squeeze)

def Clean (text : Text) : Prop := 0 ∉ text ∧ 32 ∉ text

/-- No passphrase is in force for the account in session. -/
structure NoPassphrase (i : AccountIndex) (d : Device) : Prop where
  current : d.currentAccountIndex = some i
  agrees : (d.passphraseInfo i).Agrees
  empty : (d.passphraseInfo i).passphrase = []

structure Stored (i : AccountIndex) (root : Item) (d : Device) : Prop where
  size : areaSize d i .mutableData = (printValue root).length
  text : areaText d i .mutableData = printValue root
  fits : (printValue root).length ≤ UserArea.mutableData.size - 4
  shaped : Shaped root
  clean : Texts Clean root

variable {root : Item}

theorem Texts.mono {p q : Text → Prop} (h : Texts p root)
    (hpq : ∀ text, p text → q text) : Texts q root := by
  intro m hm
  exact ⟨hpq _ (h m hm).1, fun field hfield => hpq _ ((h m hm).2 field hfield)⟩

theorem Stored.noBlanks {i : AccountIndex} {d : Device} (h : Stored i root d) :
    Texts (32 ∉ ·) root := h.clean.mono fun _ hclean => hclean.2

theorem Stored.terminated {i : AccountIndex} {d : Device} (h : Stored i root d) :
    Texts (0 ∉ ·) root := h.clean.mono fun _ hclean => hclean.1

/-- A setter has an item to put its value into: one that is there, or a new one whose name
is stored as it is. -/
def Reaches (kind : Kind) (name : Name) (root : Item) : Prop :=
  (root.getObjectItem (kind.place name)).isSome ∨ (kind.creates = true ∧ 32 ∉ kind.place name)

instance (kind : Kind) (name : Name) (root : Item) : Decidable (Reaches kind name root) :=
  inferInstanceAs (Decidable (_ ∨ _))

set_option maxRecDepth 16384 in
theorem toLower_eq_blank {c : UInt8} : Json.toLower c = 32 ↔ c = 32 := by
  have hall : ∀ n < 256, Json.toLower (UInt8.ofNat n) = 32 ↔ UInt8.ofNat n = 32 := by
    decide
  have h := hall c.toNat c.toNat_lt
  rwa [UInt8.ofNat_toNat] at h

theorem blank_mem_of_sameName {a b : Text} (h : sameName a b = true) (ha : 32 ∈ a) : 32 ∈ b := by
  have hmem : (32 : UInt8) ∈ a.map Json.toLower := List.mem_map.mpr ⟨32, ha, by decide⟩
  rw [Json.sameName_iff.mp h] at hmem
  obtain ⟨c, hc, hlower⟩ := List.mem_map.mp hmem
  rw [toLower_eq_blank.mp hlower] at hc
  exact hc

theorem lookup_blank {ms : List (Text × Item)} (h : ∀ m ∈ ms, 32 ∉ m.1) {name : Text}
    (hname : 32 ∈ name) : lookup name ms = none := by
  induction ms with
  | nil => rfl
  | cons m ms ih =>
    have hne : ¬sameName name m.1 = true :=
      fun hsame => h m (.head _) (blank_mem_of_sameName hsame hname)
    unfold lookup
    rw [if_neg hne]
    exact ih fun m' hm' => h m' (.tail _ hm')

theorem blank_notMem_withoutBlanks (text : Text) : 32 ∉ Json.withoutBlanks text := by
  intro hmem
  cases List.of_mem_filter hmem

theorem valueIn_missing {kind : Kind} {name : Name} (h : Shaped root)
    (hnone : root.getObjectItem (kind.place name) = none) : valueIn root kind name = 0 := by
  obtain ⟨ms, rfl, -⟩ := h
  rw [valueIn_object, show lookup _ ms = none from hnone]
  rfl

structure Left (kind : Kind) (name : Name) (value : UInt32) (root next : Item) : Prop where
  shaped : Shaped next
  clean : Texts Clean next
  reached : Reaches kind name root → Change kind name value root next
  /-- Without an item to put it into the value is lost, and a zero changes nothing. -/
  lost : ¬Reaches kind name root → valueIn next kind name = 0 ∧
    (value = 0 → ∀ kind' name', valueIn next kind' name' = valueIn root kind' name')

theorem left_blank {kind : Kind} {name : Name} (value : UInt32) (h : Shaped root)
    (hclean : Texts Clean root) (hcreates : kind.creates = true) (hblank : 32 ∈ kind.place name) :
    Left kind name value root (squeeze (changed kind name value root)) := by
  obtain ⟨ms, rfl, hms⟩ := h
  have hnoBlanks : Texts (32 ∉ ·) (.object ms) := hclean.mono fun _ hc => hc.2
  have hmissing : ∀ (kind' : Kind) (name' : Name), 32 ∈ kind'.place name' →
      lookup (kind'.place name') ms = none :=
    fun _ _ hb => lookup_blank (fun m hm => (hnoBlanks m hm).1) hb
  have hchanged : changed kind name value (.object ms) =
      .object (ms ++ [(kind.place name, .object [(kind.key, createNumber value)])]) := by
    unfold changed
    rw [Item.getObjectItem_object, hmissing kind name hblank]
    dsimp only
    rw [if_pos hcreates]
    rfl
  rw [hchanged, squeeze_added hms hnoBlanks]
  constructor
  · exact shaped_added hms _ (itemShaped_single kind.key value)
  · intro m hm
    rcases List.mem_append.mp hm with hm | hm
    · exact hclean m hm
    · rw [List.mem_singleton.mp hm]
      refine ⟨⟨Json.zero_notMem_withoutBlanks (zero_notMem_place kind name),
        blank_notMem_withoutBlanks _⟩, ?_⟩
      intro field hfield
      rw [List.mem_singleton.mp hfield]
      exact ⟨zero_notMem_key kind, blank_notMem_key kind⟩
  · intro hreach
    rcases hreach with hfound | hnew
    · rw [Item.getObjectItem_object, hmissing kind name hblank] at hfound
      cases hfound
    · exact absurd hblank hnew.2
  · intro _
    constructor
    · have hold : valueIn (.object ms) kind name = 0 :=
        valueIn_missing ⟨ms, rfl, hms⟩ (hmissing kind name hblank)
      rw [valueIn_added, if_neg, hold]
      intro hsame
      exact blank_notMem_withoutBlanks _ (blank_mem_of_sameName hsame.2.2 hblank)
    · intro hzero kind' name'
      rw [valueIn_added, hzero, capped_zero]
      by_cases hnew : lookup (kind'.place name') ms = none ∧ kind' = kind ∧
          sameName (kind'.place name') (Json.withoutBlanks (kind.place name)) = true
      · rw [if_pos hnew, valueIn_missing ⟨ms, rfl, hms⟩ hnew.1]
      · rw [if_neg hnew]

theorem left_changed (kind : Kind) (name : Name) (value : UInt32) (h : Shaped root)
    (hclean : Texts Clean root) :
    Left kind name value root (squeeze (changed kind name value root)) := by
  have hnoBlanks : Texts (32 ∉ ·) root := hclean.mono fun _ hc => hc.2
  by_cases hreach : Reaches kind name root
  · have hitem : (root.getObjectItem (kind.place name)).isSome ∨ kind.creates = true :=
      hreach.imp_right fun hnew => hnew.1
    have hplace : 32 ∉ kind.place name := by
      rcases hreach with hfound | hnew
      · intro hblank
        obtain ⟨ms, rfl, -⟩ := h
        have hnone : lookup (kind.place name) ms = none :=
          lookup_blank (fun m hm => (hnoBlanks m hm).1) hblank
        rw [Item.getObjectItem_object, hnone] at hfound
        cases hfound
      · exact hnew.2
    have hchange := change_changed value h hitem
    have htexts := texts_changed value h hclean ⟨zero_notMem_key kind, blank_notMem_key kind⟩
      ⟨zero_notMem_place kind name, hplace⟩
    rw [squeeze_of_shaped hchange.shaped (htexts.mono fun _ hc => hc.2)]
    exact ⟨hchange.shaped, htexts, fun _ => hchange, fun hnot => absurd hreach hnot⟩
  · by_cases hcreates : kind.creates = true
    · have hblank : 32 ∈ kind.place name := by
        by_contra hnot
        exact hreach (.inr ⟨hcreates, hnot⟩)
      exact left_blank value h hclean hcreates hblank
    · have hnone : root.getObjectItem (kind.place name) = none := by
        rw [← Option.not_isSome_iff_eq_none]
        exact fun hfound => hreach (.inl hfound)
      have hsame : changed kind name value root = root := by
        unfold changed
        rw [hnone]
        exact if_neg hcreates
      rw [hsame, squeeze_of_shaped h hnoBlanks]
      exact ⟨h, hclean, fun hr => absurd hr hreach,
        fun _ => ⟨valueIn_missing h hnone, fun _ _ _ => rfl⟩⟩

section

variable {env : Env} {i : AccountIndex} {root : Item} {s : SettingsDevice}

theorem currentAccount_eq (h : s.device.currentAccountIndex = some i) :
    currentAccount s = (.ok i, s) := by
  unfold currentAccount
  rw [get_bind, h]
  rfl

theorem passphraseExist_none {d : Device} (h : NoPassphrase i d) :
    passphraseExist i d = (.ok false, d) := by
  have hexist := passphraseExist_agrees h.agrees
  rw [h.empty] at hexist
  exact hexist

theorem passphraseMode_none (h : NoPassphrase i s.device) : passphraseMode s = (.ok false, s) := by
  unfold passphraseMode
  rw [bind_ok (currentAccount_eq h.current)]
  exact onPart_eq (passphraseExist_none h)

theorem cleanupJson_own (h : NoPassphrase i s.device) (json : Option Item) :
    cleanupJson (.own json) s = (.ok (), s) := by
  unfold cleanupJson
  rw [bind_ok (passphraseMode_none h)]
  rfl

def withoutTemp (s : SettingsDevice) : SettingsDevice := { s with tempParsePhraseJson := .null }

theorem dropTemp_eq (h : s.tempParsePhraseJson ≠ .dangling) :
    dropTemp s = (.ok (), withoutTemp s) := by
  obtain ⟨d, temp, used⟩ := s
  cases temp with
  | null => rfl
  | live root => rfl
  | dangling => exact absurd rfl h

theorem takeWhile_printValue (h : Stored i root s.device) :
    (areaText s.device i .mutableData).takeWhile (· != 0) = printValue root := by
  rw [h.text]
  refine List.takeWhile_eq_self_iff.mpr fun c hc => bne_iff_ne.mpr ?_
  rintro rfl
  have hvisible := Json.visible_printValue (printable_of_shaped h.shaped h.terminated)
  cases hvisible 0 hc

theorem read_stored (hmode : NoPassphrase i s.device) (h : Stored i root s.device)
    (htemp : s.tempParsePhraseJson ≠ .dangling) :
    readAndParseAccountJson s = (.ok (.own (some root)), withoutTemp s) := by
  have hexist : onDevice (passphraseExist i) s = (.ok false, s) :=
    onPart_eq (passphraseExist_none hmode)
  have hsize : ¬areaSize s.device i .mutableData = 0xFFFFFFFF := by
    have hfits := h.fits
    have harea : UserArea.mutableData.size - 4 < 0xFFFFFFFF := by decide
    rw [h.size]
    omega
  unfold readAndParseAccountJson
  rw [bind_ok (currentAccount_eq hmode.current), bind_ok hexist, if_neg Bool.false_ne_true,
    bind_ok (dropTemp_eq htemp)]
  unfold parseArea
  rw [get_bind]
  show (if areaSize s.device i .mutableData = 0xFFFFFFFF then (halt : Routine RootJson)
    else return .own (Json.parse ((areaText s.device i .mutableData).takeWhile (· != 0))))
      (withoutTemp s) = _
  rw [if_neg hsize, takeWhile_printValue h,
    Json.parse_printValue (printable_of_shaped h.shaped h.terminated)]
  rfl

theorem read_dangling (hmode : NoPassphrase i s.device)
    (htemp : s.tempParsePhraseJson = .dangling) :
    readAndParseAccountJson s = (.halted, { s with usedAfterDelete := true }) := by
  have hexist : onDevice (passphraseExist i) s = (.ok false, s) :=
    onPart_eq (passphraseExist_none hmode)
  have hdrop : dropTemp s = (.halted, { s with usedAfterDelete := true }) := by
    obtain ⟨d, temp, used⟩ := s
    cases htemp
    rfl
  unfold readAndParseAccountJson
  rw [bind_ok (currentAccount_eq hmode.current), bind_ok hexist, if_neg Bool.false_ne_true]
  exact bind_halted hdrop

/-- What the routines without a passphrase leave of a device. -/
structure Kept (i : AccountIndex) (root : Item) (t : SettingsDevice) : Prop where
  stored : Stored i root t.device
  mode : NoPassphrase i t.device
  temp : t.tempParsePhraseJson = .null

theorem Kept.notDangling {t : SettingsDevice} (h : Kept i root t) :
    t.tempParsePhraseJson ≠ .dangling := by
  rw [h.temp]
  exact TempParsePhraseJson.noConfusion

theorem noPassphrase_onlyArea {d t : Device} (h : OnlyArea i .mutableData d t)
    (hmode : NoPassphrase i d) : NoPassphrase i t where
  current := h.currentAccountIndex.trans hmode.current
  agrees := by
    rw [h.passphraseInfo]
    exact hmode.agrees
  empty := by
    rw [h.passphraseInfo]
    exact hmode.empty

/-- **A document is written in the place of the stored one.** -/
theorem storeRoot_stored (hw : ∀ w, env.writeReply w = .answered) (s : SettingsDevice)
    {next : Item} (hprint : Json.Printable Json.nestingLimit next) (hshape : Shaped (squeeze next))
    (hclean : Texts Clean (squeeze next))
    (hfits : (printValue (squeeze next)).length ≤ UserArea.mutableData.size - 4) :
    ∃ t, storeRoot env i (.own (some next)) s = (.ok (), { s with device := t }) ∧
      Stored i (squeeze next) t ∧ OnlyArea i .mutableData s.device t := by
  have htext : Json.removeFormatChar (printValue next) = printValue (squeeze next) := by
    rw [Json.removeFormatChar_visible (Json.visible_printValue hprint),
      Json.withoutBlanks_printValue hprint]
  obtain ⟨t, herase, ht, herased⟩ := @eraseArea_answered _ i .mutableData hw s.device
  obtain ⟨u, hwrite, hu, hsize, hread⟩ := writeSizedText_answered hw hfits herased
  refine ⟨u, ?_, ⟨hsize, hread, hfits, hshape, hclean⟩, ht.trans hu⟩
  have herase' : onDevice (eraseArea env i .mutableData) s = (.ok (), { s with device := t }) :=
    onPart_eq herase
  have hroot : (RootJson.own (some next)).read { s with device := t } =
      (.ok (some next), { s with device := t }) := rfl
  have hprinted : printRoot (some next) { s with device := t } =
      (.ok (printValue (squeeze next)), { s with device := t }) := by
    rw [← htext]
    rfl
  have hwrite' : onDevice (writeSizedText env i .mutableData (printValue (squeeze next)))
      { s with device := t } = (.ok (), { s with device := u }) := onPart_eq hwrite
  unfold storeRoot
  rw [bind_ok herase', bind_ok hroot, bind_ok hprinted, hwrite']

theorem finishSet_stored (hw : ∀ w, env.writeReply w = .answered) (hmode : NoPassphrase i s.device)
    (htemp : s.tempParsePhraseJson = .null) {next : Item}
    (hprint : Json.Printable Json.nestingLimit next) (hshape : Shaped (squeeze next))
    (hclean : Texts Clean (squeeze next))
    (hfits : (printValue (squeeze next)).length ≤ UserArea.mutableData.size - 4) :
    ∃ t, finishSet env (.own (some next)) s = (.ok (), t) ∧ Kept i (squeeze next) t := by
  have hexist : onDevice (passphraseExist i) s = (.ok false, s) :=
    onPart_eq (passphraseExist_none hmode)
  obtain ⟨t, hstore, hstored, ht⟩ := storeRoot_stored (i := i) hw s hprint hshape hclean hfits
  have hmode' : NoPassphrase i t := noPassphrase_onlyArea ht hmode
  have hwrite : writeJsonToFlash env (.own (some next)) s = (.ok (), { s with device := t }) := by
    unfold writeJsonToFlash
    rw [bind_ok (currentAccount_eq hmode.current), bind_ok hexist, if_neg Bool.false_ne_true]
    exact hstore
  refine ⟨{ s with device := t }, ?_, hstored, hmode', htemp⟩
  unfold finishSet
  rw [bind_ok hwrite]
  exact cleanupJson_own hmode' _

theorem printable_changed (kind : Kind) (name : Name) (value : UInt32) (h : Shaped root)
    (hclean : Texts (0 ∉ ·) root) :
    Json.Printable Json.nestingLimit (changed kind name value root) := by
  refine printable_of_shaped ?_
    (texts_changed value h hclean (zero_notMem_key kind) (zero_notMem_place kind name))
  by_cases hitem : (root.getObjectItem (kind.place name)).isSome ∨ kind.creates = true
  · exact (change_changed value h hitem).shaped
  · have hnone : root.getObjectItem (kind.place name) = none := by
      rw [← Option.not_isSome_iff_eq_none]
      exact fun hfound => hitem (.inl hfound)
    unfold changed
    rw [hnone]
    dsimp only
    rw [if_neg fun hcreates => hitem (.inr hcreates)]
    exact h

theorem changed_receiveIndex (name : Name) (value : UInt32) (h : Shaped root) :
    changed .receiveIndex name value root =
      Item.updateItem name.text (putValue (ascii "recvIndex") value) root := by
  obtain ⟨ms, rfl, -⟩ := h
  unfold changed
  cases hfind : (Item.object ms).getObjectItem (Kind.receiveIndex.place name) with
  | some item => rfl
  | none => exact congrArg Item.object (Json.updateFirst_missing hfind _).symm

theorem set_eq (hmode : NoPassphrase i s.device) (h : Stored i root s.device)
    (htemp : s.tempParsePhraseJson ≠ .dangling) (kind : Kind) (name : Name) (value : UInt32) :
    kind.set env name value s =
        finishSet env (.own (some (changed kind name value root))) (withoutTemp s) ∨
      (kind.set env name value s = (.ok (), withoutTemp s) ∧ changed kind name value root = root) := by
  have hread := read_stored hmode h htemp
  have hroot : (RootJson.own (some root)).read (withoutTemp s) = (.ok (some root), withoutTemp s) :=
    rfl
  have hany : ∀ put : CString → UInt32 → Item → Item, kind.put = put → kind.creates = true →
      setAnyItem env put kind.key (kind.place name) value s =
        finishSet env (.own (some (changed kind name value root))) (withoutTemp s) := by
    rintro put rfl hcreates
    unfold setAnyItem changed itemOf
    rw [bind_ok hread, bind_ok hroot, Option.bind_some]
    cases root.getObjectItem (kind.place name) with
    | some item => rfl
    | none =>
      dsimp only
      rw [if_pos hcreates]
      rfl
  have hold : kind.put = putValue → kind.creates = false →
      setOldItem env kind.key (kind.place name) value s =
          finishSet env (.own (some (changed kind name value root))) (withoutTemp s) ∨
        (setOldItem env kind.key (kind.place name) value s = (.ok (), withoutTemp s) ∧
          changed kind name value root = root) := by
    intro hput hcreates
    unfold setOldItem changed itemOf
    rw [bind_ok hread, bind_ok hroot, Option.bind_some, hput]
    cases root.getObjectItem (kind.place name) with
    | some item => exact .inl rfl
    | none =>
      dsimp only
      rw [hcreates]
      exact .inr ⟨rfl, rfl⟩
  cases kind with
  | receiveIndex =>
    left
    rw [changed_receiveIndex name value h.shaped]
    show setAccountReceiveIndex env name.text value s = _
    unfold setAccountReceiveIndex
    rw [bind_ok hread]
    rfl
  | receivePath => exact hold rfl rfl
  | accountIndex => exact hold rfl rfl
  | walletAccount => exact .inl (hany putValue rfl rfl)
  | walletNetwork => exact .inl (hany putValue rfl rfl)
  | walletPath => exact .inl (hany setValue rfl rfl)

theorem set_stored (hw : ∀ w, env.writeReply w = .answered) (hmode : NoPassphrase i s.device)
    (h : Stored i root s.device) (htemp : s.tempParsePhraseJson ≠ .dangling) (kind : Kind)
    (name : Name) (value : UInt32)
    (hfits : (printValue (squeeze (changed kind name value root))).length
      ≤ UserArea.mutableData.size - 4) :
    ∃ t, kind.set env name value s = (.ok (), t) ∧
      Kept i (squeeze (changed kind name value root)) t := by
  have hleft := left_changed kind name value h.shaped h.clean
  rcases @set_eq env _ _ _ hmode h htemp kind name value with hset | ⟨hset, hsame⟩
  · rw [hset]
    exact finishSet_stored (s := withoutTemp s) hw hmode rfl
      (printable_changed kind name value h.shaped h.terminated) hleft.shaped hleft.clean hfits
  · refine ⟨withoutTemp s, hset, ?_, hmode, rfl⟩
    rw [hsame, squeeze_of_shaped h.shaped h.noBlanks]
    exact h

theorem get_stored (hmode : NoPassphrase i s.device) (h : Stored i root s.device)
    (htemp : s.tempParsePhraseJson ≠ .dangling) (kind : Kind) (name : Name) :
    kind.get name s = (.ok (valueIn root kind name), withoutTemp s) := by
  have hread := read_stored hmode h htemp
  have hroot : (RootJson.own (some root)).read (withoutTemp s) = (.ok (some root), withoutTemp s) :=
    rfl
  have hcleanup : ∀ json, cleanupJson (.own json) (withoutTemp s) = (.ok (), withoutTemp s) :=
    fun json => cleanupJson_own (s := withoutTemp s) hmode json
  have hvalue : getValue kind.key (kind.place name) s =
      (.ok (valueIn root kind name), withoutTemp s) := by
    unfold getValue
    rw [bind_ok hread, bind_ok hroot, bind_ok (hcleanup _)]
    rfl
  cases kind with
  | receiveIndex =>
    have hensure : ∃ json, ensureChainItem name.text (.own (some root)) (itemOf name.text (some root))
        (withoutTemp s) = (.ok (.own json), withoutTemp s) := by
      unfold ensureChainItem
      cases itemOf name.text (some root) with
      | some item => exact ⟨_, rfl⟩
      | none => exact ⟨_, rfl⟩
    obtain ⟨json, hjson⟩ := hensure
    show getAccountReceiveIndex name.text s = _
    unfold getAccountReceiveIndex
    rw [bind_ok hread, bind_ok hroot, bind_ok hjson, bind_ok (hcleanup json)]
    rfl
  | receivePath => exact hvalue
  | accountIndex => exact hvalue
  | walletAccount => exact hvalue
  | walletNetwork => exact hvalue
  | walletPath => exact hvalue

theorem set_dangling (hmode : NoPassphrase i s.device)
    (htemp : s.tempParsePhraseJson = .dangling) (kind : Kind) (name : Name) (value : UInt32) :
    kind.set env name value s = (.halted, { s with usedAfterDelete := true }) := by
  have hread := read_dangling hmode htemp
  cases kind <;> exact bind_halted hread

end

/-- The claim on a setter: it returns, the value is read back, and so are the old values of the
settings that `others` picks out. -/
def SetKeeps (env : Env) (others : Kind → Name → Prop) (kind : Kind) (name : Name)
    (value : UInt32) (s : SettingsDevice) : Prop :=
  ∃ t, kind.set env name value s = (.ok (), t) ∧ (kind.get name t).1 = .ok value ∧
    ∀ kind' name', others kind' name' → (kind'.get name' t).1 = (kind'.get name' s).1

def Other (kind : Kind) (name : Name) (kind' : Kind) (name' : Name) : Prop :=
  ¬(kind' = kind ∧ name' = name)

def Apart (kind : Kind) (name : Name) (kind' : Kind) (name' : Name) : Prop :=
  ¬SamePlace kind name kind' name'

def OnlySpelling (kind : Kind) (name : Name) : Prop :=
  ∀ name', SamePlace kind name kind name' → name' = name

section

variable {env : Env} {i : AccountIndex} {root : Item} {s : SettingsDevice}

theorem setKeeps_iff (hw : ∀ w, env.writeReply w = .answered) (hmode : NoPassphrase i s.device)
    (h : Stored i root s.device) (htemp : s.tempParsePhraseJson ≠ .dangling) {kind : Kind}
    {name : Name} {value : UInt32}
    (hfits : (printValue (squeeze (changed kind name value root))).length
      ≤ UserArea.mutableData.size - 4) (others : Kind → Name → Prop) :
    SetKeeps env others kind name value s ↔
      valueIn (squeeze (changed kind name value root)) kind name = value ∧
      ∀ kind' name', others kind' name' →
        valueIn (squeeze (changed kind name value root)) kind' name' = valueIn root kind' name' := by
  obtain ⟨t, hset, hkept⟩ := set_stored hw hmode h htemp kind name value hfits
  have hafter : ∀ (kind' : Kind) (name' : Name), (kind'.get name' t).1 =
      .ok (valueIn (squeeze (changed kind name value root)) kind' name') := by
    intro kind' name'
    rw [get_stored hkept.mode hkept.stored hkept.notDangling]
  have hbefore : ∀ (kind' : Kind) (name' : Name),
      (kind'.get name' s).1 = .ok (valueIn root kind' name') := by
    intro kind' name'
    rw [get_stored hmode h htemp]
  constructor
  · intro hkeeps
    obtain ⟨t', hset', hget, hothers⟩ := hkeeps
    rw [hset] at hset'
    cases hset'
    rw [hafter] at hget
    refine ⟨Outcome.ok.inj hget, ?_⟩
    intro kind' name' hother
    have hsame := hothers kind' name' hother
    rw [hafter, hbefore] at hsame
    exact Outcome.ok.inj hsame
  · intro hvalues
    refine ⟨t, hset, ?_, ?_⟩
    · rw [hafter, hvalues.1]
    · intro kind' name' hother
      rw [hafter, hbefore, hvalues.2 kind' name' hother]

theorem values_of_lost {kind : Kind} {name : Name} {value : UInt32} {next : Item}
    (hleft : Left kind name value root next) (hreach : ¬Reaches kind name root)
    (others : Kind → Name → Prop) :
    (valueIn next kind name = value ∧
      ∀ kind' name', others kind' name' → valueIn next kind' name' = valueIn root kind' name') ↔
    value = 0 := by
  obtain ⟨hzero, hkeep⟩ := hleft.lost hreach
  constructor
  · intro h
    rw [← h.1, hzero]
  · intro h
    exact ⟨hzero.trans h.symm, fun kind' name' _ => hkeep h kind' name'⟩

theorem values_of_reached {kind : Kind} {name : Name} {value : UInt32} {next : Item}
    (hleft : Left kind name value root next) (hreach : Reaches kind name root)
    (others : Kind → Name → Prop) :
    (valueIn next kind name = value ∧
      ∀ kind' name', others kind' name' → valueIn next kind' name' = valueIn root kind' name') ↔
    value.toNat ≤ 2147483647 ∧ ∀ kind' name', others kind' name' → SamePlace kind name kind' name' →
      valueIn root kind' name' = value := by
  have hchange := (hleft.reached hreach).value
  have hself : valueIn next kind name = capped value := by
    rw [hchange, if_pos (samePlace_self kind name)]
  rw [hself, capped_eq_iff]
  constructor
  · intro h
    refine ⟨h.1, ?_⟩
    intro kind' name' hother hsame
    rw [← h.2 kind' name' hother, hchange, if_pos hsame, capped_small h.1]
  · intro h
    refine ⟨h.1, ?_⟩
    intro kind' name' hother
    rw [hchange]
    by_cases hsame : SamePlace kind name kind' name'
    · rw [if_pos hsame, h.2 kind' name' hother hsame, capped_small h.1]
    · rw [if_neg hsame]

theorem not_setKeeps_dangling (hmode : NoPassphrase i s.device)
    (htemp : s.tempParsePhraseJson = .dangling) (others : Kind → Name → Prop) (kind : Kind)
    (name : Name) (value : UInt32) : ¬SetKeeps env others kind name value s := by
  intro hkeeps
  obtain ⟨t, hset, -⟩ := hkeeps
  rw [set_dangling hmode htemp] at hset
  cases hset

theorem valueIn_of_not_reaches {kind : Kind} {name : Name} (h : Shaped root)
    (hreach : ¬Reaches kind name root) : valueIn root kind name = 0 := by
  refine valueIn_missing h ?_
  rw [← Option.not_isSome_iff_eq_none]
  exact fun hfound => hreach (.inl hfound)

theorem others_iff (h : Shaped root) {kind : Kind} {name : Name} {value : UInt32} :
    (∀ kind' name', Other kind name kind' name' → SamePlace kind name kind' name' →
      valueIn root kind' name' = value) ↔
    OnlySpelling kind name ∨ valueIn root kind name = value := by
  obtain ⟨ms, rfl, -⟩ := h
  constructor
  · intro hall
    by_cases honly : OnlySpelling kind name
    · exact .inl honly
    · right
      unfold OnlySpelling at honly
      simp only [not_forall] at honly
      obtain ⟨name', hsame, hne⟩ := honly
      rw [← valueIn_samePlace hsame]
      exact hall kind name' (fun hboth => hne hboth.2) hsame
  · intro hcases kind' name' hother hsame
    rcases hcases with honly | hvalue
    · obtain ⟨rfl, hname⟩ := hsame
      exact absurd ⟨rfl, honly name' ⟨rfl, hname⟩⟩ hother
    · rw [valueIn_samePlace hsame]
      exact hvalue

end

def emptySettings : SettingsDevice where
  device := { Device.blank with
    currentAccountIndex := some 0
    flash := fun _ _ x => ([2, 0, 0, 0, 123, 125] : List UInt8).getD x Flash.erased }
  tempParsePhraseJson := .null
  usedAfterDelete := false

theorem stored_emptySettings : Stored 0 (.object []) emptySettings.device where
  size := by decide
  text := by decide
  fits := by decide
  shaped := shaped_empty
  clean := fun _ hm => absurd hm List.not_mem_nil

theorem noPassphrase_emptySettings : NoPassphrase 0 emptySettings.device where
  current := rfl
  agrees := PassphraseInfo.agrees_cleared
  empty := rfl

def coreWallet : Name := ⟨ascii "Core Wallet", by decide⟩

/-- **The network of a wallet with a blank in its name is lost.** -/
theorem coreWallet_network_lost :
    NoPassphrase 0 emptySettings.device ∧ Stored 0 (.object []) emptySettings.device ∧
    ¬SetKeeps Env.sample.ideal (Other .walletNetwork coreWallet) .walletNetwork coreWallet 1
      emptySettings := by
  have hleft := left_changed .walletNetwork coreWallet 1 shaped_empty stored_emptySettings.clean
  have hlost := values_of_lost hleft (by decide) (Other .walletNetwork coreWallet)
  refine ⟨noPassphrase_emptySettings, stored_emptySettings, ?_⟩
  rw [setKeeps_iff (fun _ => rfl) noPassphrase_emptySettings stored_emptySettings
    TempParsePhraseJson.noConfusion (by decide), hlost]
  decide

/-- **When the value that is set is read back, and no other setting changes: the value fits in
an `int`, it is zero or there is an item for it, and no other spelling of the name had
another value. Settings in other places never change then.** -/
theorem settings_kept_iff (env : Env) (i : AccountIndex) (root : Item) (kind : Kind) (name : Name)
    (value : UInt32) (s : SettingsDevice) (hmode : NoPassphrase i s.device)
    (h : Stored i root s.device)
    (hfits : (printValue (squeeze (changed kind name value root))).length
      ≤ UserArea.mutableData.size - 4) :
    (SetKeeps env.ideal (Other kind name) kind name value s ↔
      s.tempParsePhraseJson ≠ .dangling ∧ value.toNat ≤ 2147483647 ∧
        (value = 0 ∨ Reaches kind name root) ∧
        (OnlySpelling kind name ∨ valueIn root kind name = value)) ∧
    (SetKeeps env.ideal (Apart kind name) kind name value s ↔
      s.tempParsePhraseJson ≠ .dangling ∧ value.toNat ≤ 2147483647 ∧
        (value = 0 ∨ Reaches kind name root)) := by
  have hw : ∀ w, env.ideal.writeReply w = .answered := fun _ => rfl
  have hleft := left_changed kind name value h.shaped h.clean
  by_cases htemp : s.tempParsePhraseJson = .dangling
  · have hnot := fun others => @not_setKeeps_dangling env.ideal _ _ hmode htemp others kind name value
    constructor
    · exact ⟨fun hk => absurd hk (hnot _), fun hc => absurd htemp hc.1⟩
    · exact ⟨fun hk => absurd hk (hnot _), fun hc => absurd htemp hc.1⟩
  · rw [setKeeps_iff hw hmode h htemp hfits, setKeeps_iff hw hmode h htemp hfits]
    by_cases hreach : Reaches kind name root
    · rw [values_of_reached hleft hreach, values_of_reached hleft hreach, others_iff h.shaped]
      constructor
      · constructor
        · exact fun hc => ⟨htemp, hc.1, .inr hreach, hc.2⟩
        · exact fun hc => ⟨hc.2.1, hc.2.2.2⟩
      · constructor
        · exact fun hc => ⟨htemp, hc.1, .inr hreach⟩
        · exact fun hc => ⟨hc.2.1, fun kind' name' hapart hsame => absurd hsame hapart⟩
    · have hold := valueIn_of_not_reaches h.shaped hreach
      rw [values_of_lost hleft hreach, values_of_lost hleft hreach]
      constructor
      · constructor
        · rintro rfl
          exact ⟨htemp, by decide, .inl rfl, .inr hold⟩
        · exact fun hc => hc.2.2.1.resolve_right hreach
      · constructor
        · rintro rfl
          exact ⟨htemp, by decide, .inl rfl⟩
        · exact fun hc => hc.2.2.resolve_right hreach

/-- The network of a wallet whose name has no blank. -/
theorem settings_kept_iff_network :
    (SetKeeps Env.sample.ideal (Other .walletNetwork ⟨[65], by decide⟩) .walletNetwork
        ⟨[65], by decide⟩ 1 emptySettings ↔
      emptySettings.tempParsePhraseJson ≠ .dangling ∧ (1 : UInt32).toNat ≤ 2147483647 ∧
        ((1 : UInt32) = 0 ∨ Reaches .walletNetwork ⟨[65], by decide⟩ (.object [])) ∧
        (OnlySpelling .walletNetwork ⟨[65], by decide⟩ ∨
          valueIn (.object []) .walletNetwork ⟨[65], by decide⟩ = 1)) ∧
    (SetKeeps Env.sample.ideal (Apart .walletNetwork ⟨[65], by decide⟩) .walletNetwork
        ⟨[65], by decide⟩ 1 emptySettings ↔
      emptySettings.tempParsePhraseJson ≠ .dangling ∧ (1 : UInt32).toNat ≤ 2147483647 ∧
        ((1 : UInt32) = 0 ∨ Reaches .walletNetwork ⟨[65], by decide⟩ (.object []))) :=
  settings_kept_iff Env.sample 0 (.object []) .walletNetwork ⟨[65], by decide⟩ 1 emptySettings
    noPassphrase_emptySettings stored_emptySettings (by decide)

inductive SettingsOp where
  | set (kind : Kind) (name : Name) (value : UInt32)
  | get (kind : Kind) (name : Name)

def SettingsOp.routine (env : Env) : SettingsOp → Routine Unit
  | .set kind name value => kind.set env name value
  | .get kind name => do
    let _ ← kind.get name

section

variable {env : Env} {i : AccountIndex}

end

end Keystone3.Settings
