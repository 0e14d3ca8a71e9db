import Keystone3.Settings.AccountJson

/-!
# What a document says

The value a document holds for each kind of setting and each name, and how a setter
changes these values (`value_changed`). Two names with one place share their value.
-/

namespace Keystone3.Settings

open Json (Item Text ascii sameName lookup updateFirst replaceFirst)
open List (mem_append mem_cons mem_singleton)

def Kind.key : Kind → CString
  | .receiveIndex => ascii "recvIndex"
  | .receivePath => ascii "recvPath"
  | .accountIndex => ascii "recvAccount"
  | .walletAccount => ascii "walletAccount"
  | .walletNetwork => ascii "walletNetwork"
  | .walletPath => ascii "derivePath"

def Kind.place (name : Name) : Kind → CString
  | .walletAccount => walletNameCopy name.text
  | .walletPath => walletNameCopy name.text
  | _ => name.text

def Kind.creates : Kind → Bool
  | .walletAccount => true
  | .walletNetwork => true
  | .walletPath => true
  | _ => false

def Kind.put : Kind → CString → UInt32 → Item → Item
  | .walletPath => setValue
  | _ => putValue

theorem sameName_key (kind kind' : Kind) : sameName kind.key kind'.key = decide (kind = kind') := by
  cases kind <;> cases kind' <;> decide

def SamePlace (kind : Kind) (name : Name) (kind' : Kind) (name' : Name) : Prop :=
  kind' = kind ∧ sameName (kind'.place name') (kind.place name) = true

instance (kind : Kind) (name : Name) (kind' : Kind) (name' : Name) :
    Decidable (SamePlace kind name kind' name') :=
  inferInstanceAs (Decidable (_ ∧ _))

theorem samePlace_self (kind : Kind) (name : Name) : SamePlace kind name kind name :=
  ⟨rfl, Json.sameName_self _⟩

def valueIn (root : Item) (kind : Kind) (name : Name) : UInt32 :=
  namedValue (kind.place name) kind.key (some root)

def changed (kind : Kind) (name : Name) (value : UInt32) (root : Item) : Item :=
  match root.getObjectItem (kind.place name) with
  | some _ => root.updateItem (kind.place name) (kind.put kind.key value)
  | none =>
    if kind.creates then
      root.addItemToObject (kind.place name) (.object [(kind.key, createNumber value)])
    else root

/-- What a value reads back as: `valueint` stops at `INT_MAX`. -/
def capped (value : UInt32) : UInt32 := UInt32.ofInt (createNumber value).valueInt

variable {value : UInt32}

theorem capped_small (h : value.toNat ≤ 2147483647) : capped value = value := by
  have hint : (createNumber value).valueInt = value.toNat :=
    Item.valueInt_number (by show (-2147483648 : Int) ≤ value.toNat; omega)
      (by show (value.toNat : Int) ≤ 2147483647; omega)
  unfold capped
  rw [hint]
  apply UInt32.toNat_inj.mp
  have hlt := value.toNat_lt
  simp only [UInt32.ofInt, UInt32.toNat_ofNat']
  omega

theorem capped_large (h : 2147483647 < value.toNat) :
    capped value = 2147483647 := by
  have hint : (createNumber value).valueInt = 2147483647 :=
    if_pos (by show (2147483647 : Int) ≤ value.toNat; omega)
  unfold capped
  rw [hint]
  rfl

theorem capped_eq_iff : capped value = value ↔ value.toNat ≤ 2147483647 := by
  constructor
  · intro h
    by_contra hlarge
    rw [capped_large (Nat.lt_of_not_le hlarge)] at h
    rw [← h] at hlarge
    exact hlarge (by decide)
  · exact capped_small

theorem capped_zero : capped 0 = 0 := by decide

/-- A field of a named item: a number of an unsigned value, or a truth value under another
name than those of the settings. -/
def FieldShaped (field : Text × Item) : Prop :=
  match field.2 with
  | .number value => 0 ≤ value ∧ value < 2 ^ 32
  | .bool _ => ∀ kind : Kind, sameName kind.key field.1 = false
  | _ => False

def ItemShaped (item : Item) : Prop :=
  ∃ fields, item = .object fields ∧ ∀ field ∈ fields, FieldShaped field

theorem fieldShaped_number (key : Text) (value : UInt32) :
    FieldShaped (key, createNumber value) := by
  have hlt := value.toNat_lt
  show (0 : Int) ≤ value.toNat ∧ (value.toNat : Int) < 2 ^ 32
  omega

theorem itemShaped_single (key : Text) (value : UInt32) :
    ItemShaped (.object [(key, createNumber value)]) := by
  refine ⟨_, rfl, ?_⟩
  intro field hfield
  rw [mem_singleton.mp hfield]
  exact fieldShaped_number key value

variable {kind : Kind} {fields : List (Text × Item)} {item : Item}

theorem number_of_lookup (h : ∀ field ∈ fields, FieldShaped field) (hfind : lookup kind.key fields = some item) :
    ∃ value, item = .number value := by
  induction fields with
  | nil => cases hfind
  | cons field fields ih =>
    unfold lookup at hfind
    by_cases hkey : sameName kind.key field.1 = true
    · rw [if_pos hkey] at hfind
      have hshape := h field (.head _)
      rw [← Option.some.inj hfind]
      unfold FieldShaped at hshape
      cases hitem : field.2 with
      | number value => exact ⟨value, rfl⟩
      | bool b =>
        rw [hitem] at hshape
        exact absurd hkey (Bool.eq_false_iff.mp (hshape kind))
      | null => rw [hitem] at hshape; exact hshape.elim
      | string s => rw [hitem] at hshape; exact hshape.elim
      | array items => rw [hitem] at hshape; exact hshape.elim
      | object members => rw [hitem] at hshape; exact hshape.elim
    · rw [if_neg hkey] at hfind
      exact ih (fun f hf => h f (.tail _ hf)) hfind

variable {ms : List (Text × Item)}

theorem forall_replaceFirst {P : Text × Item → Prop} {name : Text} (h : ∀ m ∈ ms, P m) (hnew : P (name, item)) :
    ∀ m ∈ replaceFirst name item ms, P m := by
  induction ms with
  | nil => exact h
  | cons m ms ih =>
    intro k hk
    unfold replaceFirst at hk
    by_cases hm : sameName name m.1 = true
    · rw [if_pos hm] at hk
      rcases mem_cons.mp hk with rfl | hk
      · exact hnew
      · exact h k (.tail _ hk)
    · rw [if_neg hm] at hk
      rcases mem_cons.mp hk with rfl | hk
      · exact h _ (.head _)
      · exact ih (fun m' hm' => h m' (.tail _ hm')) k hk

theorem forall_updateFirst {P : Text × Item → Prop} {name : Text} {f : Item → Item} (h : ∀ m ∈ ms, P m) (hnew : ∀ m ∈ ms, P (m.1, f m.2)) :
    ∀ m ∈ updateFirst name f ms, P m := by
  induction ms with
  | nil => exact h
  | cons m ms ih =>
    intro k hk
    unfold updateFirst at hk
    by_cases hm : sameName name m.1 = true
    · rw [if_pos hm] at hk
      rcases mem_cons.mp hk with rfl | hk
      · exact hnew m (.head _)
      · exact h k (.tail _ hk)
    · rw [if_neg hm] at hk
      rcases mem_cons.mp hk with rfl | hk
      · exact h _ (.head _)
      · exact ih (fun m' hm' => h m' (.tail _ hm'))
          (fun m' hm' => hnew m' (.tail _ hm')) k hk

structure PutIn (kind : Kind) (value : UInt32) (item next : Item) : Prop where
  shaped : ItemShaped next
  value : ∀ kind' : Kind,
    valueOf kind'.key next = if kind' = kind then capped value else valueOf kind'.key item

theorem valueOf_of_lookup {fields fields' : List (Text × Item)}
    (h : ∀ kind' : Kind, lookup kind'.key fields' =
      if kind' = kind then some (createNumber value) else lookup kind'.key fields)
    (kind' : Kind) :
    valueOf kind'.key (.object fields') =
      if kind' = kind then capped value else valueOf kind'.key (.object fields) := by
  unfold valueOf
  rw [Item.getObjectItem_object, Item.getObjectItem_object, h kind']
  by_cases hkind : kind' = kind
  · rw [if_pos hkind, if_pos hkind]
    rfl
  · rw [if_neg hkind, if_neg hkind]

theorem if_sameName_key {α : Type} (kind kind' : Kind) (a b : α) :
    (if sameName kind'.key kind.key = true then a else b) = if kind' = kind then a else b := by
  rw [sameName_key]
  by_cases h : kind' = kind
  · rw [if_pos h, if_pos (decide_eq_true h)]
  · rw [if_neg h, if_neg (by rw [decide_eq_false h]; exact Bool.false_ne_true)]

theorem putIn_add
    (h : ∀ field ∈ fields, FieldShaped field) (hnone : lookup kind.key fields = none) :
    PutIn kind value (.object fields)
      ((Item.object fields).addItemToObject kind.key (createNumber value)) where
  shaped := by
    refine ⟨_, rfl, ?_⟩
    intro field hfield
    rcases mem_append.mp hfield with hfield | hfield
    · exact h field hfield
    · rw [mem_singleton.mp hfield]
      exact fieldShaped_number _ value
  value := by
    refine valueOf_of_lookup ?_
    intro kind'
    rw [Json.lookup_concat, if_sameName_key]
    by_cases hkind : kind' = kind
    · rw [if_pos hkind, if_pos hkind, hkind, hnone, Option.none_or]
    · rw [if_neg hkind, if_neg hkind, Option.or_none]

theorem putIn_putValue (kind : Kind) (value : UInt32) (h : ItemShaped item) :
    PutIn kind value item (putValue kind.key value item) := by
  obtain ⟨fields, rfl, hfields⟩ := h
  unfold putValue
  rw [Item.getObjectItem_object]
  cases hfind : lookup kind.key fields with
  | none => exact putIn_add hfields hfind
  | some old =>
    constructor
    · exact ⟨_, rfl, forall_replaceFirst hfields (fieldShaped_number _ value)⟩
    · refine valueOf_of_lookup ?_
      intro kind'
      rw [Json.lookup_replaceFirst, if_sameName_key]
      by_cases hkind : kind' = kind
      · rw [if_pos hkind, if_pos hkind, hkind, hfind, Option.map_some]
      · rw [if_neg hkind, if_neg hkind]

theorem putIn_setValue (kind : Kind) (value : UInt32) (h : ItemShaped item) :
    PutIn kind value item (setValue kind.key value item) := by
  obtain ⟨fields, rfl, hfields⟩ := h
  unfold setValue
  rw [Item.getObjectItem_object]
  cases hfind : lookup kind.key fields with
  | none => exact putIn_add hfields hfind
  | some old =>
    obtain ⟨number, rfl⟩ := number_of_lookup hfields hfind
    constructor
    · refine ⟨_, rfl, forall_updateFirst hfields ?_⟩
      intro field hfield
      have hshape := hfields field hfield
      unfold FieldShaped at hshape ⊢
      cases hitem : field.2 with
      | number _ => exact fieldShaped_number field.1 value
      | bool b => rw [hitem] at hshape; exact hshape
      | null => rw [hitem] at hshape; exact hshape
      | string s => rw [hitem] at hshape; exact hshape
      | array items => rw [hitem] at hshape; exact hshape
      | object members => rw [hitem] at hshape; exact hshape
    · refine valueOf_of_lookup ?_
      intro kind'
      rw [Json.lookup_updateFirst, if_sameName_key]
      by_cases hkind : kind' = kind
      · rw [if_pos hkind, if_pos hkind, hkind, hfind]
        rfl
      · rw [if_neg hkind, if_neg hkind]

theorem putIn (kind : Kind) (value : UInt32) (h : ItemShaped item) :
    PutIn kind value item (kind.put kind.key value item) := by
  cases kind with
  | walletPath => exact putIn_setValue .walletPath value h
  | receiveIndex => exact putIn_putValue .receiveIndex value h
  | receivePath => exact putIn_putValue .receivePath value h
  | accountIndex => exact putIn_putValue .accountIndex value h
  | walletAccount => exact putIn_putValue .walletAccount value h
  | walletNetwork => exact putIn_putValue .walletNetwork value h

def Shaped (root : Item) : Prop := ∃ ms, root = .object ms ∧ ∀ m ∈ ms, ItemShaped m.2

theorem shaped_empty : Shaped (.object []) := ⟨[], rfl, fun _ hm => absurd hm List.not_mem_nil⟩

theorem itemShaped_of_lookup (h : ∀ m ∈ ms, ItemShaped m.2) {name : Text} (hfind : lookup name ms = some item) : ItemShaped item := by
  obtain ⟨key, hmem⟩ := Json.mem_of_lookup hfind
  exact h _ hmem

theorem valueIn_object (ms : List (Text × Item)) (kind : Kind) (name : Name) :
    valueIn (.object ms) kind name =
      ((lookup (kind.place name) ms).map (valueOf kind.key)).getD 0 := by
  unfold valueIn namedValue itemOf
  rw [Option.bind_some, Item.getObjectItem_object]
  cases lookup (kind.place name) ms <;> rfl

theorem valueIn_samePlace {kind kind' : Kind} {name name' : Name}
    (h : SamePlace kind name kind' name') (ms : List (Text × Item)) :
    valueIn (.object ms) kind' name' = valueIn (.object ms) kind name := by
  obtain ⟨rfl, hname⟩ := h
  rw [valueIn_object, valueIn_object, Json.lookup_congr hname]

structure Change (kind : Kind) (name : Name) (value : UInt32) (root next : Item) : Prop where
  shaped : Shaped next
  value : ∀ kind' name', valueIn next kind' name' =
    if SamePlace kind name kind' name' then capped value else valueIn root kind' name'

variable {name : Name}

theorem change_old (value : UInt32) {root item : Item}
    (h : Shaped root) (hfind : root.getObjectItem (kind.place name) = some item) :
    Change kind name value root
      (root.updateItem (kind.place name) (kind.put kind.key value)) := by
  obtain ⟨ms, rfl, hms⟩ := h
  have hput := putIn kind value (itemShaped_of_lookup hms hfind)
  constructor
  · refine ⟨_, rfl, ?_⟩
    refine forall_updateFirst (P := fun m => ItemShaped m.2) hms ?_
    intro m hm
    exact (putIn kind value (hms m hm)).shaped
  · intro kind' name'
    show valueIn (.object (updateFirst _ _ ms)) kind' name' = _
    rw [valueIn_object, valueIn_object, Json.lookup_updateFirst]
    by_cases hname : sameName (kind'.place name') (kind.place name) = true
    · rw [if_pos hname, Json.lookup_congr hname, show lookup _ ms = some item from hfind]
      show valueOf kind'.key (kind.put kind.key value item) = _
      rw [hput.value]
      by_cases hkind : kind' = kind
      · have hsame : SamePlace kind name kind' name' := ⟨hkind, hname⟩
        rw [if_pos hkind, if_pos hsame]
      · rw [if_neg hkind, if_neg fun hsame => hkind hsame.1]
        rfl
    · rw [if_neg hname, if_neg fun hsame => hname hsame.2]

theorem valueIn_added (kind : Kind) (value : UInt32) (ms : List (Text × Item)) (key : Text)
    (kind' : Kind) (name' : Name) :
    valueIn (.object (ms ++ [(key, .object [(kind.key, createNumber value)])])) kind' name' =
      if lookup (kind'.place name') ms = none ∧ kind' = kind ∧
          sameName (kind'.place name') key = true
        then capped value else valueIn (.object ms) kind' name' := by
  have hnew : valueOf kind'.key (.object [(kind.key, createNumber value)]) =
      if kind' = kind then capped value else 0 := by
    have hnone : lookup kind.key [] = none := rfl
    exact (@putIn_add _ _ [] (fun _ hf => absurd hf List.not_mem_nil) hnone).value kind'
  rw [valueIn_object, valueIn_object, Json.lookup_concat]
  cases hfind : lookup (kind'.place name') ms with
  | some item =>
    rw [Option.some_or, if_neg fun h => Option.some_ne_none item h.1]
  | none =>
    rw [Option.none_or]
    by_cases hname : sameName (kind'.place name') key = true
    · rw [if_pos hname, Option.map_some, Option.getD_some, hnew]
      by_cases hkind : kind' = kind
      · rw [if_pos hkind, if_pos ⟨rfl, hkind, hname⟩]
      · rw [if_neg hkind, if_neg fun h => hkind h.2.1]
        rfl
    · rw [if_neg hname, if_neg fun h => hname h.2.2]

theorem shaped_added (h : ∀ m ∈ ms, ItemShaped m.2) (key : Text) (hitem : ItemShaped item) : Shaped (.object (ms ++ [(key, item)])) := by
  refine ⟨_, rfl, ?_⟩
  intro m hm
  rcases mem_append.mp hm with hm | hm
  · exact h m hm
  · rw [mem_singleton.mp hm]
    exact hitem

variable {root : Item}

theorem change_new (value : UInt32) (h : Shaped root)
    (hfind : root.getObjectItem (kind.place name) = none) :
    Change kind name value root (root.addItemToObject (kind.place name)
      (.object [(kind.key, createNumber value)])) := by
  obtain ⟨ms, rfl, hms⟩ := h
  constructor
  · exact shaped_added hms _ (itemShaped_single kind.key value)
  · intro kind' name'
    refine (valueIn_added kind value ms (kind.place name) kind' name').trans ?_
    by_cases hsame : SamePlace kind name kind' name'
    · rw [if_pos hsame, if_pos ⟨(Json.lookup_congr hsame.2 ms).trans hfind, hsame⟩]
    · rw [if_neg hsame, if_neg fun h => hsame h.2]

theorem changed_old {root item : Item}
    (hfind : root.getObjectItem (kind.place name) = some item) :
    changed kind name value root =
      root.updateItem (kind.place name) (kind.put kind.key value) := by
  unfold changed
  rw [hfind]

theorem changed_new
    (hfind : root.getObjectItem (kind.place name) = none) (hcreates : kind.creates = true) :
    changed kind name value root = root.addItemToObject (kind.place name)
      (.object [(kind.key, createNumber value)]) := by
  unfold changed
  rw [hfind]
  exact if_pos hcreates

theorem changed_none
    (hfind : root.getObjectItem (kind.place name) = none) (hcreates : kind.creates = false) :
    changed kind name value root = root := by
  unfold changed
  rw [hfind]
  exact if_neg (by rw [hcreates]; exact Bool.false_ne_true)

/-- **A setter that has an item to put its value into changes the values of one place.** -/
theorem change_changed (value : UInt32) (h : Shaped root)
    (hitem : (root.getObjectItem (kind.place name)).isSome ∨ kind.creates = true) :
    Change kind name value root (changed kind name value root) := by
  cases hfind : root.getObjectItem (kind.place name) with
  | some item =>
    rw [changed_old hfind]
    exact change_old value h hfind
  | none =>
    rw [hfind] at hitem
    rw [changed_new hfind (hitem.resolve_left Bool.false_ne_true)]
    exact change_new value h hfind

def Texts (p : Text → Prop) (root : Item) : Prop :=
  ∀ m ∈ root.members, p m.1 ∧ ∀ field ∈ m.2.members, p field.1

theorem members_putValue {p : Text → Prop} {key : CString} (hkey : p key) (value : UInt32) (h : ∀ field ∈ fields, p field.1) :
    ∀ field ∈ (putValue key value (.object fields)).members, p field.1 := by
  unfold putValue
  cases (Item.object fields).getObjectItem key with
  | some _ => exact forall_replaceFirst (P := fun m => p m.1) h hkey
  | none =>
    intro field hfield
    rcases mem_append.mp hfield with hfield | hfield
    · exact h field hfield
    · rw [mem_singleton.mp hfield]
      exact hkey

theorem members_setValue {p : Text → Prop} {key : CString} (hkey : p key) (value : UInt32) (h : ∀ field ∈ fields, p field.1) :
    ∀ field ∈ (setValue key value (.object fields)).members, p field.1 := by
  unfold setValue
  cases (Item.object fields).getObjectItem key with
  | some _ => exact forall_updateFirst (P := fun m => p m.1) h h
  | none =>
    intro field hfield
    rcases mem_append.mp hfield with hfield | hfield
    · exact h field hfield
    · rw [mem_singleton.mp hfield]
      exact hkey

theorem members_put {p : Text → Prop} (hkey : p kind.key) (value : UInt32) (h : ∀ field ∈ fields, p field.1) :
    ∀ field ∈ (kind.put kind.key value (.object fields)).members, p field.1 := by
  cases kind with
  | walletPath => exact members_setValue hkey value h
  | receiveIndex => exact members_putValue hkey value h
  | receivePath => exact members_putValue hkey value h
  | accountIndex => exact members_putValue hkey value h
  | walletAccount => exact members_putValue hkey value h
  | walletNetwork => exact members_putValue hkey value h

theorem texts_changed {p : Text → Prop} (value : UInt32)
    (hshape : Shaped root) (h : Texts p root) (hkey : p kind.key) (hplace : p (kind.place name)) :
    Texts p (changed kind name value root) := by
  obtain ⟨ms, rfl, hms⟩ := hshape
  unfold changed
  cases (Item.object ms).getObjectItem (kind.place name) with
  | some _ =>
    refine forall_updateFirst (P := fun m => p m.1 ∧ ∀ field ∈ m.2.members, p field.1) h ?_
    intro m hm
    obtain ⟨fields, hfields, -⟩ := hms m hm
    have hold := h m hm
    rw [hfields] at hold
    exact ⟨hold.1, hfields ▸ members_put hkey value hold.2⟩
  | none =>
    dsimp only
    by_cases hcreates : kind.creates = true
    · rw [if_pos hcreates]
      intro m hm
      rcases mem_append.mp hm with hm | hm
      · exact h m hm
      · rw [mem_singleton.mp hm]
        refine ⟨hplace, ?_⟩
        intro field hfield
        rw [mem_singleton.mp hfield]
        exact hkey
    · rw [if_neg hcreates]
      exact h

theorem zero_notMem_key (kind : Kind) : 0 ∉ kind.key := by cases kind <;> decide

theorem blank_notMem_key (kind : Kind) : 32 ∉ kind.key := by cases kind <;> decide

theorem notMem_removeFormatChar {c : UInt8} {text : Text} (h : c ∉ text) :
    c ∉ Json.removeFormatChar text := fun hmem => h (List.mem_of_mem_filter hmem)

theorem zero_notMem_place (kind : Kind) (name : Name) : 0 ∉ kind.place name := by
  have hcopy : 0 ∉ walletNameCopy name.text := by
    refine notMem_removeFormatChar ?_
    unfold strncpyS
    by_cases hfits : name.text.length < 32
    · rw [if_pos hfits]
      exact name.terminated
    · rw [if_neg hfits]
      exact List.not_mem_nil
  cases kind with
  | walletAccount => exact hcopy
  | walletPath => exact hcopy
  | receiveIndex => exact name.terminated
  | receivePath => exact name.terminated
  | accountIndex => exact name.terminated
  | walletNetwork => exact name.terminated

theorem printable_of_shaped (h : Shaped root) (htexts : Texts (0 ∉ ·) root) :
    Json.Printable Json.nestingLimit root := by
  obtain ⟨ms, rfl, hms⟩ := h
  intro m hm
  obtain ⟨fields, hfields, hshape⟩ := hms m hm
  have hnames := htexts m hm
  rw [hfields] at hnames
  refine ⟨hnames.1, ?_⟩
  rw [hfields]
  intro field hfield
  refine ⟨hnames.2 field hfield, ?_⟩
  have hone := hshape field hfield
  unfold FieldShaped at hone
  cases hitem : field.2 with
  | number value =>
    rw [hitem] at hone
    refine (Json.printable_number _ value).mpr ?_
    dsimp only at hone
    omega
  | bool b => exact Json.printable_bool _ b
  | null => rw [hitem] at hone; exact hone.elim
  | string s => rw [hitem] at hone; exact hone.elim
  | array items => rw [hitem] at hone; exact hone.elim
  | object members => rw [hitem] at hone; exact hone.elim

theorem withoutBlanks_of_notMem {s : Text} (h : 32 ∉ s) : Json.withoutBlanks s = s :=
  List.filter_eq_self.mpr fun _ hc => bne_iff_ne.mpr fun hblank => h (hblank ▸ hc)

theorem map_eq_self {α : Type} {f : α → α} {xs : List α} (h : ∀ x ∈ xs, f x = x) :
    xs.map f = xs := by
  rw [List.map_congr_left h, List.map_id']

theorem squeeze_item (h : ItemShaped item) (hnames : ∀ f ∈ item.members, 32 ∉ f.1) :
    Json.squeeze item = item := by
  obtain ⟨fields, rfl, hfields⟩ := h
  unfold Json.squeeze
  rw [Json.mapText, Json.mapMembers_eq]
  refine congrArg Item.object (map_eq_self ?_)
  intro field hfield
  have hshape := hfields field hfield
  unfold FieldShaped at hshape
  obtain ⟨key, item⟩ := field
  rw [withoutBlanks_of_notMem (hnames _ hfield)]
  cases item with
  | number value => rfl
  | bool b => rfl
  | null => exact hshape.elim
  | string s => exact hshape.elim
  | array items => exact hshape.elim
  | object members => exact hshape.elim

theorem squeeze_members (h : ∀ m ∈ ms, ItemShaped m.2)
    (hnames : ∀ m ∈ ms, ∀ f ∈ m.2.members, 32 ∉ f.1) :
    Json.squeeze (.object ms) = .object (ms.map fun m => (Json.withoutBlanks m.1, m.2)) := by
  unfold Json.squeeze
  rw [Json.mapText, Json.mapMembers_eq]
  refine congrArg Item.object (List.map_congr_left ?_)
  intro m hm
  have hitem := squeeze_item (h m hm) (hnames m hm)
  unfold Json.squeeze at hitem
  rw [hitem]

theorem squeeze_of_shaped (h : Shaped root) (htexts : Texts (32 ∉ ·) root) :
    Json.squeeze root = root := by
  obtain ⟨ms, rfl, hms⟩ := h
  rw [squeeze_members hms fun m hm => (htexts m hm).2]
  refine congrArg Item.object (map_eq_self ?_)
  intro m hm
  rw [withoutBlanks_of_notMem (htexts m hm).1]

theorem squeeze_added (h : ∀ m ∈ ms, ItemShaped m.2)
    (htexts : Texts (32 ∉ ·) (.object ms)) (key : Text) (value : UInt32) :
    Json.squeeze (.object (ms ++ [(key, .object [(kind.key, createNumber value)])])) =
      .object (ms ++ [(Json.withoutBlanks key, .object [(kind.key, createNumber value)])]) := by
  rw [squeeze_members, List.map_append]
  · refine congrArg (fun front => Item.object (front ++ _)) (map_eq_self ?_)
    intro m hm
    rw [withoutBlanks_of_notMem (htexts m hm).1]
  · obtain ⟨_, hms', hall⟩ := shaped_added h key (itemShaped_single kind.key value)
    cases hms'
    exact hall
  · intro m hm
    rcases mem_append.mp hm with hm | hm
    · exact (htexts m hm).2
    · rw [mem_singleton.mp hm]
      intro field hfield
      rw [mem_singleton.mp hfield]
      exact blank_notMem_key kind

end Keystone3.Settings
