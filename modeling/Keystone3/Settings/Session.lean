import Keystone3.Settings.Stored

/-!
# Settings under a passphrase

With a passphrase in force the settings are kept in RAM, in a document that all the
calls share and that lasts as long as the passphrase does. The getters return what was
last set where every setter has an item to put its value into, the values fit in an
`int` and a name is not set under two spellings (`session_right_iff`).

`SetAccountReceivePath` and `SetAccountIndex` delete the document they have read when it
has no item of the chain. Under a passphrase that is the shared one, and
`g_tempParsePhraseJson` goes on pointing there: the next call uses a document that has
been deleted (`path_of_new_chain`).
-/

namespace Keystone3.Settings

open Logic (Outcome AllSteps runSteps allSteps_iff_along_of)
open Logic.Prog
open Json (Item ascii sameName lookup)

structure UnderPassphrase (i : AccountIndex) (d : Device) : Prop where
  current : d.currentAccountIndex = some i
  agrees : (d.passphraseInfo i).Agrees
  passphrase : (d.passphraseInfo i).passphrase ≠ []

/-- The document behind a pointer that does not dangle; there is none yet behind a null
pointer. -/
def rootOf : TempParsePhraseJson → Item
  | .live root => root
  | _ => .object []

def withRoot (s : SettingsDevice) (root : Item) : SettingsDevice :=
  { s with tempParsePhraseJson := .live root }

section

variable {env : Env} {i : AccountIndex} {s : SettingsDevice}

theorem passphraseExist_under {d : Device} (h : UnderPassphrase i d) :
    passphraseExist i d = (.ok true, d) := by
  have hexist := passphraseExist_agrees h.agrees
  have hnot : (d.passphraseInfo i).passphrase.isEmpty = false :=
    List.isEmpty_eq_false_iff.mpr h.passphrase
  rw [hnot] at hexist
  exact hexist

theorem onDevice_passphraseExist (h : UnderPassphrase i s.device) :
    onDevice (passphraseExist i) s = (.ok true, s) := onPart_eq (passphraseExist_under h)

theorem cleanupJson_under (h : UnderPassphrase i s.device) (json : RootJson) :
    cleanupJson json s = (.ok (), s) := by
  have hmode : passphraseMode s = (.ok true, s) := by
    unfold passphraseMode
    rw [bind_ok (currentAccount_eq h.current)]
    exact onDevice_passphraseExist h
  unfold cleanupJson
  rw [bind_ok hmode]
  rfl

theorem finishSet_under (h : UnderPassphrase i s.device) (json : RootJson) :
    finishSet env json s = (.ok (), s) := by
  have hwrite : writeJsonToFlash env json s = (.ok (), s) := by
    unfold writeJsonToFlash
    rw [bind_ok (currentAccount_eq h.current), bind_ok (onDevice_passphraseExist h)]
    rfl
  unfold finishSet
  rw [bind_ok hwrite]
  exact cleanupJson_under h json

/-- **Every call gets the pointer to the shared document.** -/
theorem read_under (h : UnderPassphrase i s.device) (htemp : s.tempParsePhraseJson ≠ .dangling) :
    readAndParseAccountJson s = (.ok .temp, withRoot s (rootOf s.tempParsePhraseJson)) := by
  unfold readAndParseAccountJson
  rw [bind_ok (currentAccount_eq h.current), bind_ok (onDevice_passphraseExist h), if_pos rfl]
  obtain ⟨d, temp, used⟩ := s
  cases temp with
  | null => rfl
  | live root => rfl
  | dangling => exact absurd rfl htemp

theorem read_under_dangling (h : UnderPassphrase i s.device)
    (htemp : s.tempParsePhraseJson = .dangling) : readAndParseAccountJson s = (.ok .temp, s) := by
  unfold readAndParseAccountJson
  rw [bind_ok (currentAccount_eq h.current), bind_ok (onDevice_passphraseExist h), if_pos rfl]
  unfold tempRoot
  rw [get_bind, htemp]
  rfl

theorem tempJson_dangling (htemp : s.tempParsePhraseJson = .dangling) :
    tempJson s = (.halted, { s with usedAfterDelete := true }) := by
  obtain ⟨d, temp, used⟩ := s
  cases htemp
  rfl

theorem read_temp (root : Item) : RootJson.temp.read (withRoot s root) =
    (.ok (some root), withRoot s root) := rfl

theorem change_temp (f : Item → Item) (root : Item) :
    RootJson.temp.change f (withRoot s root) = (.ok .temp, withRoot s (f root)) := rfl

def looked (kind : Kind) (name : Name) (root : Item) : Item :=
  match kind with
  | .receiveIndex =>
    match root.getObjectItem name.text with
    | some _ => root
    | none => root.addItemToObject name.text (newChainItem name.text)
  | _ => root

theorem get_under (h : UnderPassphrase i s.device) (htemp : s.tempParsePhraseJson ≠ .dangling)
    (kind : Kind) (name : Name) :
    kind.get name s = (.ok (valueIn (rootOf s.tempParsePhraseJson) kind name),
      withRoot s (looked kind name (rootOf s.tempParsePhraseJson))) := by
  have hread := read_under h htemp
  have hcleanup : ∀ json root, cleanupJson json (withRoot s root) = (.ok (), withRoot s root) :=
    fun json root => cleanupJson_under (s := withRoot s root) h json
  have hvalue : getValue kind.key (kind.place name) s =
      (.ok (valueIn (rootOf s.tempParsePhraseJson) kind name),
        withRoot s (rootOf s.tempParsePhraseJson)) := by
    unfold getValue
    rw [bind_ok hread, bind_ok (read_temp _), bind_ok (hcleanup _ _)]
    rfl
  cases kind with
  | receiveIndex =>
    have hensure : ensureChainItem name.text .temp
        (itemOf name.text (some (rootOf s.tempParsePhraseJson)))
        (withRoot s (rootOf s.tempParsePhraseJson)) =
          (.ok .temp, withRoot s (looked .receiveIndex name (rootOf s.tempParsePhraseJson))) := by
      unfold ensureChainItem looked itemOf
      rw [Option.bind_some]
      cases (rootOf s.tempParsePhraseJson).getObjectItem name.text with
      | some item => rfl
      | none => rfl
    show getAccountReceiveIndex name.text s = _
    unfold getAccountReceiveIndex
    rw [bind_ok hread, bind_ok (read_temp _), bind_ok hensure, bind_ok (hcleanup _ _)]
    rfl
  | receivePath => exact hvalue
  | accountIndex => exact hvalue
  | walletAccount => exact hvalue
  | walletNetwork => exact hvalue
  | walletPath => exact hvalue

theorem get_under_dangling (h : UnderPassphrase i s.device)
    (htemp : s.tempParsePhraseJson = .dangling) (kind : Kind) (name : Name) :
    kind.get name s = (.halted, { s with usedAfterDelete := true }) := by
  have hread := read_under_dangling h htemp
  have hroot : RootJson.temp.read s = (.halted, { s with usedAfterDelete := true }) :=
    bind_halted (tempJson_dangling htemp)
  have hvalue : ∀ key place, getValue key place s =
      (.halted, { s with usedAfterDelete := true }) :=
    fun key place => (bind_ok hread).trans (bind_halted hroot)
  cases kind with
  | receiveIndex => exact (bind_ok hread).trans (bind_halted hroot)
  | receivePath => exact hvalue _ _
  | accountIndex => exact hvalue _ _
  | walletAccount => exact hvalue _ _
  | walletNetwork => exact hvalue _ _
  | walletPath => exact hvalue _ _

def Sets (kind : Kind) (name : Name) (root : Item) : Prop :=
  (root.getObjectItem (kind.place name)).isSome ∨ kind.creates = true ∨ kind = .receiveIndex

instance (kind : Kind) (name : Name) (root : Item) : Decidable (Sets kind name root) :=
  inferInstanceAs (Decidable (_ ∨ _ ∨ _))

theorem set_under (h : UnderPassphrase i s.device) (htemp : s.tempParsePhraseJson ≠ .dangling)
    {kind : Kind} (name : Name) (value : UInt32) (hshape : Shaped (rootOf s.tempParsePhraseJson))
    (hsets : Sets kind name (rootOf s.tempParsePhraseJson)) :
    kind.set env name value s =
      (.ok (), withRoot s (changed kind name value (rootOf s.tempParsePhraseJson))) := by
  have hread := read_under h htemp
  have hfinish : ∀ root, finishSet env .temp (withRoot s root) = (.ok (), withRoot s root) :=
    fun root => finishSet_under (s := withRoot s root) h .temp
  have hany : ∀ put : CString → UInt32 → Item → Item, kind.put = put → kind.creates = true →
      setAnyItem env put kind.key (kind.place name) value s =
        (.ok (), withRoot s (changed kind name value (rootOf s.tempParsePhraseJson))) := by
    rintro put rfl hcreates
    unfold setAnyItem
    rw [bind_ok hread, bind_ok (read_temp _)]
    cases hfind : (rootOf s.tempParsePhraseJson).getObjectItem (kind.place name) with
    | some item =>
      rw [changed_old hfind, show itemOf _ (some _) = some item from hfind]
      exact (bind_ok (change_temp _ _)).trans (hfinish _)
    | none =>
      rw [changed_new hfind hcreates, show itemOf _ (some _) = none from hfind]
      exact (bind_ok (change_temp _ _)).trans (hfinish _)
  have hold : kind.put = putValue → kind.creates = false → kind ≠ .receiveIndex →
      setOldItem env kind.key (kind.place name) value s =
        (.ok (), withRoot s (changed kind name value (rootOf s.tempParsePhraseJson))) := by
    intro hput hcreates hkind
    rcases hsets with hfound | hnew | hindex
    · obtain ⟨item, hfind⟩ := Option.isSome_iff_exists.mp hfound
      unfold setOldItem
      rw [bind_ok hread, bind_ok (read_temp _), changed_old hfind, hput,
        show itemOf _ (some _) = some item from hfind]
      exact (bind_ok (change_temp _ _)).trans (hfinish _)
    · cases hcreates.symm.trans hnew
    · exact absurd hindex hkind
  cases kind with
  | receiveIndex =>
    show setAccountReceiveIndex env name.text value s = _
    unfold setAccountReceiveIndex
    rw [bind_ok hread, bind_ok (change_temp _ _), changed_receiveIndex name value hshape]
    exact hfinish _
  | receivePath => exact hold rfl rfl (by decide)
  | accountIndex => exact hold rfl rfl (by decide)
  | walletAccount => exact hany putValue rfl rfl
  | walletNetwork => exact hany putValue rfl rfl
  | walletPath => exact hany setValue rfl rfl

theorem set_under_lost (h : UnderPassphrase i s.device) (htemp : s.tempParsePhraseJson ≠ .dangling)
    {kind : Kind} (name : Name) (value : UInt32)
    (hlost : ¬Sets kind name (rootOf s.tempParsePhraseJson)) :
    kind.set env name value s = (.ok (), { s with tempParsePhraseJson := .dangling }) := by
  have hread := read_under h htemp
  have hnone : (rootOf s.tempParsePhraseJson).getObjectItem (kind.place name) = none := by
    rw [← Option.not_isSome_iff_eq_none]
    exact fun hfound => hlost (.inl hfound)
  have hold : setOldItem env kind.key (kind.place name) value s =
      (.ok (), { s with tempParsePhraseJson := .dangling }) := by
    unfold setOldItem
    rw [bind_ok hread, bind_ok (read_temp _), show itemOf _ (some _) = none from hnone]
    rfl
  cases kind with
  | receiveIndex => exact absurd (.inr (.inr rfl)) hlost
  | receivePath => exact hold
  | accountIndex => exact hold
  | walletAccount => exact absurd (.inr (.inl rfl)) hlost
  | walletNetwork => exact absurd (.inr (.inl rfl)) hlost
  | walletPath => exact absurd (.inr (.inl rfl)) hlost

theorem set_under_dangling (h : UnderPassphrase i s.device)
    (htemp : s.tempParsePhraseJson = .dangling) (kind : Kind) (name : Name) (value : UInt32) :
    kind.set env name value s = (.halted, { s with usedAfterDelete := true }) := by
  have hread := read_under_dangling h htemp
  have hroot : RootJson.temp.read s = (.halted, { s with usedAfterDelete := true }) :=
    bind_halted (tempJson_dangling htemp)
  have hchange : ∀ f, RootJson.temp.change f s = (.halted, { s with usedAfterDelete := true }) :=
    fun f => bind_halted (tempJson_dangling htemp)
  cases kind with
  | receiveIndex => exact (bind_ok hread).trans (bind_halted (hchange _))
  | receivePath => exact (bind_ok hread).trans (bind_halted hroot)
  | accountIndex => exact (bind_ok hread).trans (bind_halted hroot)
  | walletAccount => exact (bind_ok hread).trans (bind_halted hroot)
  | walletNetwork => exact (bind_ok hread).trans (bind_halted hroot)
  | walletPath => exact (bind_ok hread).trans (bind_halted hroot)

end

theorem valueOf_newChainItem (chainName : CString) (kind : Kind) :
    valueOf kind.key (newChainItem chainName) = 0 := by cases kind <;> rfl

theorem itemShaped_newChainItem (chainName : CString) : ItemShaped (newChainItem chainName) := by
  refine ⟨_, rfl, ?_⟩
  intro field hfield
  simp only [List.mem_cons, List.not_mem_nil, or_false] at hfield
  rcases hfield with rfl | rfl | rfl | rfl
  · exact fieldShaped_number _ 0
  · exact fieldShaped_number _ 0
  · show ∀ kind : Kind, sameName kind.key (ascii "firstRecv") = false
    intro kind
    cases kind <;> decide
  · show ∀ kind : Kind, sameName kind.key (ascii "manage") = false
    intro kind
    cases kind <;> decide

theorem looked_same (kind : Kind) (name : Name) {root : Item} (h : Shaped root) :
    Shaped (looked kind name root) ∧
      ∀ kind' name', valueIn (looked kind name root) kind' name' = valueIn root kind' name' := by
  by_cases hkind : kind = .receiveIndex
  · cases hkind
    obtain ⟨ms, rfl, hms⟩ := h
    unfold looked
    dsimp only
    cases hfind : (Item.object ms).getObjectItem name.text with
    | some item => exact ⟨⟨ms, rfl, hms⟩, fun _ _ => rfl⟩
    | none =>
      refine ⟨shaped_added hms _ (itemShaped_newChainItem name.text), ?_⟩
      intro kind' name'
      show valueIn (.object (ms ++ [(name.text, newChainItem name.text)])) kind' name' = _
      rw [valueIn_object, valueIn_object, Json.lookup_concat]
      cases hold : lookup (kind'.place name') ms with
      | some item => rw [Option.some_or]
      | none =>
        rw [Option.none_or]
        by_cases hsame : sameName (kind'.place name') name.text = true
        · rw [if_pos hsame, Option.map_some, Option.getD_some, valueOf_newChainItem]
          rfl
        · rw [if_neg hsame]
  · have hroot : looked kind name root = root := by
      cases kind with
      | receiveIndex => exact absurd rfl hkind
      | receivePath => rfl
      | accountIndex => rfl
      | walletAccount => rfl
      | walletNetwork => rfl
      | walletPath => rfl
    rw [hroot]
    exact ⟨h, fun _ _ => rfl⟩

/-- A session under a passphrase: the state, and what was last set in it. -/
structure Session where
  state : SettingsDevice
  lastSet : Kind → Name → Option UInt32

def noteSet (lastSet : Kind → Name → Option UInt32) (kind : Kind) (name : Name) (value : UInt32) :
    Kind → Name → Option UInt32 :=
  fun kind' name' => if kind' = kind ∧ name' = name then some value else lastSet kind' name'

def SettingsOp.noted (lastSet : Kind → Name → Option UInt32) :
    SettingsOp → Kind → Name → Option UInt32
  | .set kind name value => noteSet lastSet kind name value
  | .get _ _ => lastSet

def Session.ended (r : Session) (op : SettingsOp) :
    Outcome ErrCode Unit × SettingsDevice → Session
  | (.ok _, s) => ⟨s, op.noted r.lastSet⟩
  | (_, s) => ⟨s, r.lastSet⟩

def sessionStep (env : Env) (op : SettingsOp) (r : Session) : Session :=
  r.ended op (op.routine env r.state)

/-- What should hold in a session: no document was used after it was deleted, every getter
returns what was last set for its name, and the device is as it was. -/
structure SessionRight (d : Device) (r : Session) : Prop where
  unused : r.state.usedAfterDelete = false
  values : ∀ kind name value, r.lastSet kind name = some value →
    (kind.get name r.state).1 = .ok value
  device : r.state.device = d

structure HasDocument (i : AccountIndex) (r : Session) : Prop where
  mode : UnderPassphrase i r.state.device
  temp : r.state.tempParsePhraseJson ≠ .dangling
  shaped : Shaped (rootOf r.state.tempParsePhraseJson)

structure SessionInv (i : AccountIndex) (d : Device) (r : Session) : Prop
    extends HasDocument i r where
  unused : r.state.usedAfterDelete = false
  values : ∀ kind name value, r.lastSet kind name = some value →
    valueIn (rootOf r.state.tempParsePhraseJson) kind name = value
  device : r.state.device = d

/-- What a call needs; a zero receive index needs no item to put it into. -/
def SettingsOp.GoesThrough (op : SettingsOp) (r : Session) : Prop :=
  match op with
  | .set kind name value =>
    value.toNat ≤ 2147483647 ∧
    (((rootOf r.state.tempParsePhraseJson).getObjectItem (kind.place name)).isSome ∨
      kind.creates = true ∨ (kind = .receiveIndex ∧ value = 0)) ∧
    ∀ name' value', SamePlace kind name kind name' → r.lastSet kind name' = some value' →
      name' = name ∨ value' = value
  | .get _ _ => True

section

variable {env : Env} {i : AccountIndex} {d : Device} {r : Session}

theorem noteSet_self (lastSet : Kind → Name → Option UInt32) (kind : Kind) (name : Name)
    (value : UInt32) : noteSet lastSet kind name value kind name = some value := if_pos ⟨rfl, rfl⟩

theorem sessionStep_get (h : HasDocument i r) (kind : Kind) (name : Name) :
    sessionStep env (.get kind name) r =
      ⟨withRoot r.state (looked kind name (rootOf r.state.tempParsePhraseJson)), r.lastSet⟩ := by
  have hrun : SettingsOp.routine env (.get kind name) r.state = (.ok (), _) :=
    bind_ok (get_under h.mode h.temp kind name)
  unfold sessionStep
  rw [hrun]
  rfl

theorem sessionStep_set (h : HasDocument i r) {kind : Kind} {name : Name} (value : UInt32)
    (hsets : Sets kind name (rootOf r.state.tempParsePhraseJson)) :
    sessionStep env (.set kind name value) r =
      ⟨withRoot r.state (changed kind name value (rootOf r.state.tempParsePhraseJson)),
        noteSet r.lastSet kind name value⟩ := by
  have hrun : SettingsOp.routine env (.set kind name value) r.state = (.ok (), _) :=
    set_under h.mode h.temp name value h.shaped hsets
  unfold sessionStep
  rw [hrun]
  rfl

theorem sessionStep_lost (h : HasDocument i r) {kind : Kind} {name : Name} (value : UInt32)
    (hlost : ¬Sets kind name (rootOf r.state.tempParsePhraseJson)) :
    sessionStep env (.set kind name value) r =
      ⟨{ r.state with tempParsePhraseJson := .dangling }, noteSet r.lastSet kind name value⟩ := by
  have hrun : SettingsOp.routine env (.set kind name value) r.state = (.ok (), _) :=
    set_under_lost h.mode h.temp name value hlost
  unfold sessionStep
  rw [hrun]
  rfl

theorem SessionInv.right (h : SessionInv i d r) : SessionRight d r where
  unused := h.unused
  values kind name value hlast := by
    rw [get_under h.mode h.temp, h.values kind name value hlast]
  device := h.device

theorem changed_values (h : HasDocument i r) {kind : Kind} {name : Name} (value : UInt32)
    (hsets : Sets kind name (rootOf r.state.tempParsePhraseJson)) :
    ((((rootOf r.state.tempParsePhraseJson).getObjectItem (kind.place name)).isSome ∨
        kind.creates = true) ∧
      Change kind name value (rootOf r.state.tempParsePhraseJson)
        (changed kind name value (rootOf r.state.tempParsePhraseJson))) ∨
      ((rootOf r.state.tempParsePhraseJson).getObjectItem (kind.place name) = none ∧
        kind.creates = false ∧ kind = .receiveIndex ∧
        changed kind name value (rootOf r.state.tempParsePhraseJson) =
          rootOf r.state.tempParsePhraseJson) := by
  by_cases hitem : ((rootOf r.state.tempParsePhraseJson).getObjectItem (kind.place name)).isSome ∨
      kind.creates = true
  · exact .inl ⟨hitem, change_changed value h.shaped hitem⟩
  · right
    have hnone : (rootOf r.state.tempParsePhraseJson).getObjectItem (kind.place name) = none := by
      rw [← Option.not_isSome_iff_eq_none]
      exact fun hfound => hitem (.inl hfound)
    have hcreates : kind.creates = false := Bool.eq_false_iff.mpr fun hnew => hitem (.inr hnew)
    refine ⟨hnone, hcreates, ?_, changed_none hnone hcreates⟩
    rcases hsets with hfound | hnew | hindex
    · exact absurd (.inl hfound) hitem
    · exact absurd (.inr hnew) hitem
    · exact hindex

/-- **A call that goes through keeps the session right.** -/
theorem sessionStep_keeps (op : SettingsOp) (r : Session) (h : SessionInv i d r)
    (hthrough : op.GoesThrough r) : SessionInv i d (sessionStep env op r) := by
  cases op with
  | get kind name =>
    obtain ⟨hshaped, hsame⟩ := looked_same kind name h.shaped
    rw [sessionStep_get h.toHasDocument]
    refine ⟨⟨h.mode, TempParsePhraseJson.noConfusion, hshaped⟩, h.unused, ?_, h.device⟩
    intro kind' name' value' hlast
    exact (hsame kind' name').trans (h.values kind' name' value' hlast)
  | set kind name value =>
    obtain ⟨hfits, hitem, hspelling⟩ := hthrough
    have hsets : Sets kind name (rootOf r.state.tempParsePhraseJson) :=
      hitem.imp_right fun hnew => hnew.imp_right fun hindex => hindex.1
    rw [sessionStep_set h.toHasDocument value hsets]
    rcases changed_values h.toHasDocument value hsets with
      ⟨-, hchange⟩ | ⟨hnone, hcreates, hindex, hroot⟩
    · refine ⟨⟨h.mode, TempParsePhraseJson.noConfusion, hchange.shaped⟩, h.unused, ?_, h.device⟩
      intro kind' name' value' hlast
      show valueIn (changed kind name value _) kind' name' = value'
      rw [hchange.value]
      by_cases hself : kind' = kind ∧ name' = name
      · obtain ⟨rfl, rfl⟩ := hself
        rw [if_pos (samePlace_self kind' name'), capped_small hfits]
        exact Option.some.inj ((noteSet_self ..).symm.trans hlast)
      · have hlast' : r.lastSet kind' name' = some value' := (if_neg hself).symm.trans hlast
        by_cases hsame : SamePlace kind name kind' name'
        · obtain ⟨rfl, hname⟩ := hsame
          rw [if_pos ⟨rfl, hname⟩, capped_small hfits]
          rcases hspelling name' value' ⟨rfl, hname⟩ hlast' with heq | heq
          · exact absurd ⟨rfl, heq⟩ hself
          · exact heq.symm
        · rw [if_neg hsame]
          exact h.values kind' name' value' hlast'
    · have hzero : value = 0 := by
        rcases hitem with hfound | hnew | hindex
        · rw [hnone] at hfound
          cases hfound
        · cases hcreates.symm.trans hnew
        · exact hindex.2
      rw [hroot]
      refine ⟨⟨h.mode, TempParsePhraseJson.noConfusion, h.shaped⟩, h.unused, ?_, h.device⟩
      intro kind' name' value' hlast
      by_cases hself : kind' = kind ∧ name' = name
      · obtain ⟨rfl, rfl⟩ := hself
        have hvalue : value = value' := Option.some.inj ((noteSet_self ..).symm.trans hlast)
        rw [← hvalue, hzero]
        exact valueIn_missing h.shaped hnone
      · exact h.values kind' name' value' ((if_neg hself).symm.trans hlast)

theorem goesThrough_of_right (op : SettingsOp) (r : Session) (h : SessionInv i d r)
    (hright : SessionRight d (sessionStep env op r)) : op.GoesThrough r := by
  cases op with
  | get kind name => trivial
  | set kind name value =>
    by_cases hsets : Sets kind name (rootOf r.state.tempParsePhraseJson)
    · rw [sessionStep_set h.toHasDocument value hsets] at hright
      -- what the getters return is what the changed document says
      have hvalue : ∀ name' value', noteSet r.lastSet kind name value kind name' = some value' →
          valueIn (changed kind name value (rootOf r.state.tempParsePhraseJson)) kind name'
            = value' := by
        intro name' value' hlast
        have hread := get_under
          (s := withRoot r.state (changed kind name value (rootOf r.state.tempParsePhraseJson)))
          h.mode TempParsePhraseJson.noConfusion kind name'
        have hget := hright.values kind name' value' hlast
        exact Outcome.ok.inj ((congrArg Prod.fst hread).symm.trans hget)
      have hself := hvalue name value (noteSet_self ..)
      have hother : ∀ name' value', r.lastSet kind name' = some value' → name' = name ∨
          valueIn (changed kind name value (rootOf r.state.tempParsePhraseJson)) kind name'
            = value' := by
        intro name' value' hlast
        by_cases hname : name' = name
        · exact .inl hname
        · exact .inr (hvalue name' value' ((if_neg fun hboth => hname hboth.2).trans hlast))
      rcases changed_values h.toHasDocument value hsets with
        ⟨hitem, hchange⟩ | ⟨hnone, hcreates, hindex, hroot⟩
      · rw [hchange.value, if_pos (samePlace_self kind name), capped_eq_iff] at hself
        refine ⟨hself, hitem.imp_right Or.inl, ?_⟩
        intro name' value' hsame hlast
        rcases hother name' value' hlast with heq | heq
        · exact .inl heq
        · rw [hchange.value, if_pos hsame, capped_small hself] at heq
          exact .inr heq.symm
      · have hold : valueIn (rootOf r.state.tempParsePhraseJson) kind name = 0 :=
          valueIn_missing h.shaped hnone
        rw [hroot, hold] at hself
        refine ⟨by rw [← hself]; decide, .inr (.inr ⟨hindex, hself.symm⟩), ?_⟩
        intro name' value' hsame hlast
        obtain ⟨ms, hms, -⟩ := h.shaped
        rw [hms] at hold
        have hsaid := h.values kind name' value' hlast
        rw [hms, valueIn_samePlace hsame, hold] at hsaid
        exact .inr (hsaid.symm.trans hself)
    · rw [sessionStep_lost h.toHasDocument value hsets] at hright
      have hread := get_under_dangling
        (s := { r.state with tempParsePhraseJson := .dangling }) h.mode rfl kind name
      have hget := (congrArg Prod.fst hread).symm.trans (hright.values kind name value
        (noteSet_self ..))
      cases hget

theorem sessionStep_dangling (hmode : UnderPassphrase i r.state.device)
    (htemp : r.state.tempParsePhraseJson = .dangling) (op : SettingsOp) :
    sessionStep env op r = ⟨{ r.state with usedAfterDelete := true }, r.lastSet⟩ := by
  have hrun : op.routine env r.state = (.halted, { r.state with usedAfterDelete := true }) := by
    cases op with
    | set kind name value => exact set_under_dangling hmode htemp kind name value
    | get kind name => exact bind_halted (get_under_dangling hmode htemp kind name)
  unfold sessionStep
  rw [hrun]
  rfl

/-- The device and the document of a session, deleted or not. -/
def SessionKept (i : AccountIndex) (d : Device) (r : Session) : Prop :=
  UnderPassphrase i r.state.device ∧ r.state.device = d ∧
    (r.state.tempParsePhraseJson = .dangling ∨
      (r.state.tempParsePhraseJson ≠ .dangling ∧ Shaped (rootOf r.state.tempParsePhraseJson)))

theorem sessionKept_step (op : SettingsOp) (r : Session) (h : SessionKept i d r) :
    SessionKept i d (sessionStep env op r) := by
  obtain ⟨hmode, hdevice, htemp | ⟨htemp, hshape⟩⟩ := h
  · rw [sessionStep_dangling hmode htemp]
    exact ⟨hmode, hdevice, .inl htemp⟩
  · have hdoc : HasDocument i r := ⟨hmode, htemp, hshape⟩
    cases op with
    | get kind name =>
      rw [sessionStep_get hdoc]
      exact ⟨hmode, hdevice,
        .inr ⟨TempParsePhraseJson.noConfusion, (looked_same kind name hshape).1⟩⟩
    | set kind name value =>
      by_cases hsets : Sets kind name (rootOf r.state.tempParsePhraseJson)
      · rw [sessionStep_set hdoc value hsets]
        refine ⟨hmode, hdevice, .inr ⟨TempParsePhraseJson.noConfusion, ?_⟩⟩
        rcases changed_values hdoc value hsets with ⟨-, hchange⟩ | ⟨-, -, -, hroot⟩
        · exact hchange.shaped
        · show Shaped (changed kind name value _)
          rw [hroot]
          exact hshape
      · rw [sessionStep_lost hdoc value hsets]
        exact ⟨hmode, hdevice, .inl rfl⟩

end

structure SessionStart (i : AccountIndex) (s : SettingsDevice) : Prop where
  mode : UnderPassphrase i s.device
  temp : s.tempParsePhraseJson = .null
  unused : s.usedAfterDelete = false

def Session.start (s : SettingsDevice) : Session := ⟨s, fun _ _ => none⟩

theorem SessionStart.inv {i : AccountIndex} {s : SettingsDevice} (h : SessionStart i s) :
    SessionInv i s.device (Session.start s) := by
  have hroot : rootOf s.tempParsePhraseJson = .object [] := by
    rw [h.temp]
    rfl
  refine ⟨⟨h.mode, ?_, ?_⟩, h.unused, ?_, rfl⟩
  · show s.tempParsePhraseJson ≠ .dangling
    rw [h.temp]
    exact TempParsePhraseJson.noConfusion
  · show Shaped (rootOf s.tempParsePhraseJson)
    rw [hroot]
    exact shaped_empty
  · intro kind name value hlast
    exact absurd hlast (Option.some_ne_none value).symm

/-- **A session stays right exactly as long as its calls go through; and no call of any
session writes to the device.** -/
theorem session_right_iff (env : Env) (i : AccountIndex) (ops : List SettingsOp)
    (s : SettingsDevice) (h : SessionStart i s) :
    (AllSteps (sessionStep env) SettingsOp.GoesThrough ops (Session.start s) ↔
      ∀ js, js <+: ops → SessionRight s.device (runSteps (sessionStep env) js (Session.start s))) ∧
    (runSteps (sessionStep env) ops (Session.start s)).state.device = s.device := by
  constructor
  · exact allSteps_iff_along_of (I := SessionInv i s.device) (J := SessionRight s.device)
      (fun _ hr => hr.right) (fun op r hr hc => sessionStep_keeps op r hr hc)
      (fun op r hr hright => goesThrough_of_right op r hr hright) ops (Session.start s) h.inv
  · have hinv := h.inv
    have hkept : SessionKept i s.device (Session.start s) :=
      ⟨hinv.mode, rfl, .inr ⟨hinv.temp, hinv.shaped⟩⟩
    exact (Logic.runSteps_inv (fun op r hr => sessionKept_step op r hr) ops _ hkept).2.1

def newSession : SettingsDevice where
  device := { Device.blank with
    currentAccountIndex := some 0
    passphraseInfo := fun _ => ⟨[65], true, Bytes.Block.zero 4⟩ }
  tempParsePhraseJson := .null
  usedAfterDelete := false

theorem sessionStart_newSession : SessionStart 0 newSession where
  mode := ⟨rfl, rfl, by decide⟩
  temp := rfl
  unused := rfl

def adaChain : Name := ⟨ascii "ADA", by decide⟩

/-- **The path of a chain that has no item is set, and read back: the document is used after it
was deleted.** -/
theorem path_of_new_chain :
    SessionStart 0 newSession ∧
    ¬SessionRight newSession.device (runSteps (sessionStep Env.sample)
      [.set .receivePath adaChain 1, .get .receivePath adaChain] (Session.start newSession)) := by
  have hinv := sessionStart_newSession.inv
  have hset : sessionStep Env.sample (.set .receivePath adaChain 1) (Session.start newSession) = _ :=
    sessionStep_lost hinv.toHasDocument 1 (by decide)
  have hget : sessionStep Env.sample (.get .receivePath adaChain)
      (sessionStep Env.sample (.set .receivePath adaChain 1) (Session.start newSession)) = _ :=
    sessionStep_dangling (i := 0) (by rw [hset]; exact hinv.mode) (by rw [hset])
      (.get .receivePath adaChain)
  refine ⟨sessionStart_newSession, ?_⟩
  intro hright
  have hunused := hright.unused
  simp only [runSteps] at hunused
  rw [hget] at hunused
  cases hunused

/-- A session that sets and reads the account of a wallet. -/
theorem session_right_iff_wallet :
    (AllSteps (sessionStep Env.sample) SettingsOp.GoesThrough
        [.set .walletAccount adaChain 1, .get .walletAccount adaChain]
        (Session.start newSession) ↔
      ∀ js, js <+: [.set .walletAccount adaChain 1, .get .walletAccount adaChain] →
        SessionRight newSession.device
          (runSteps (sessionStep Env.sample) js (Session.start newSession))) ∧
    (runSteps (sessionStep Env.sample) [.set .walletAccount adaChain 1,
      .get .walletAccount adaChain] (Session.start newSession)).state.device = newSession.device :=
  session_right_iff Env.sample 0 _ newSession sessionStart_newSession

end Keystone3.Settings
