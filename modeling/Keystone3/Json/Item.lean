import Mathlib.Algebra.GroupWithZero.Nat

/-!
# JSON items

The items of `cJSON.c`, the JSON library the firmware keeps its documents with. An
object holds its members in the order they were added and a name may stand in it twice;
a lookup compares names without regard to the case of letters and takes the first that
fits (`getObjectItem`), a new member goes to the end (`addItemToObject`), and
`replaceItemInObject` puts an item in the place of the one a lookup finds.
-/

namespace Keystone3.Json

abbrev Text : Type := List UInt8

def ascii (s : String) : Text := s.toList.map fun c => UInt8.ofNat c.toNat

/-- A `cJSON` item with what hangs below it. -/
inductive Item where
  | null
  | bool (value : Bool)
  | number (value : Int)
  | string (value : Text)
  | array (items : List Item)
  | object (members : List (Text × Item))

/-- `tolower` in the C locale. -/
def toLower (c : UInt8) : UInt8 := if 65 ≤ c ∧ c ≤ 90 then c + 32 else c

/-- `case_insensitive_strcmp` finds no difference. -/
def sameName (a b : Text) : Bool := a.map toLower == b.map toLower

def lookup (name : Text) : List (Text × Item) → Option Item
  | [] => none
  | (key, item) :: members => if sameName name key then some item else lookup name members

/-- The members with `item` in the place of the first one of a name, under the
name it was asked for. -/
def replaceFirst (name : Text) (item : Item) : List (Text × Item) → List (Text × Item)
  | [] => []
  | (key, old) :: members =>
    if sameName name key then (name, item) :: members
    else (key, old) :: replaceFirst name item members

def updateFirst (name : Text) (f : Item → Item) : List (Text × Item) → List (Text × Item)
  | [] => []
  | (key, old) :: members =>
    if sameName name key then (key, f old) :: members
    else (key, old) :: updateFirst name f members

namespace Item

def members : Item → List (Text × Item)
  | .object members => members
  | _ => []

def elements : Item → List Item
  | .array items => items
  | _ => []

def getObjectItem (item : Item) (name : Text) : Option Item := lookup name item.members

/-- `cJSON_AddItemToObject`, on an object. -/
def addItemToObject : Item → Text → Item → Item
  | .object members, name, item => .object (members ++ [(name, item)])
  | other, _, _ => other

def replaceItemInObject : Item → Text → Item → Item
  | .object members, name, item => .object (replaceFirst name item members)
  | other, _, _ => other

/-- What a pointer from `cJSON_GetObjectItem` changes. -/
def updateItem (name : Text) (f : Item → Item) : Item → Item
  | .object members => .object (updateFirst name f members)
  | other => other

def setNumberValue (number : Int) : Item → Item
  | .number _ => .number number
  | other => other

def intMax : Int := 2147483647

def intMin : Int := -2147483648

/-- `valueint`, which saturates. -/
def valueInt : Item → Int
  | .number value => if intMax ≤ value then intMax else if value ≤ intMin then intMin else value
  | .bool true => 1
  | _ => 0

/-- `valuestring`; `none` is a null pointer. -/
def valueString : Item → Option Text
  | .string value => some value
  | _ => none

end Item

@[simp] theorem sameName_self (a : Text) : sameName a a = true := beq_self_eq_true _

theorem sameName_iff {a b : Text} : sameName a b = true ↔ a.map toLower = b.map toLower :=
  beq_iff_eq

theorem sameName_comm (a b : Text) : sameName a b = sameName b a := by
  unfold sameName
  exact BEq.comm

theorem sameName_trans {a b c : Text} (hab : sameName a b = true) (hbc : sameName b c = true) :
    sameName a c = true :=
  sameName_iff.mpr ((sameName_iff.mp hab).trans (sameName_iff.mp hbc))

theorem sameName_congr {a b : Text} (h : sameName a b = true) (c : Text) :
    sameName a c = sameName b c := by
  unfold sameName
  rw [sameName_iff.mp h]

theorem lookup_congr {a b : Text} (h : sameName a b = true) :
    ∀ ms : List (Text × Item), lookup a ms = lookup b ms := by
  intro ms
  induction ms with
  | nil => rfl
  | cons m ms ih =>
    unfold lookup
    rw [sameName_congr h, ih]

theorem mem_of_lookup {name : Text} {item : Item} : ∀ {ms : List (Text × Item)},
    lookup name ms = some item → ∃ key, (key, item) ∈ ms := by
  intro ms
  induction ms with
  | nil => intro h; cases h
  | cons m ms ih =>
    intro h
    unfold lookup at h
    by_cases hm : sameName name m.1 = true
    · rw [if_pos hm] at h
      exact ⟨m.1, by rw [← Option.some.inj h]; exact .head _⟩
    · rw [if_neg hm] at h
      obtain ⟨key, hkey⟩ := ih h
      exact ⟨key, .tail _ hkey⟩

theorem lookup_concat (name key : Text) (item : Item) (ms : List (Text × Item)) :
    lookup name (ms ++ [(key, item)]) =
      (lookup name ms).or (if sameName name key then some item else none) := by
  induction ms with
  | nil => rfl
  | cons m ms ih =>
    rw [List.cons_append]
    unfold lookup
    by_cases hm : sameName name m.1 = true
    · rw [if_pos hm, if_pos hm, Option.some_or]
    · rw [if_neg hm, if_neg hm, ih]

theorem lookup_replaceFirst (name key : Text) (item : Item) (ms : List (Text × Item)) :
    lookup name (replaceFirst key item ms) =
      if sameName name key then (lookup name ms).map fun _ => item else lookup name ms := by
  induction ms with
  | nil =>
    unfold replaceFirst lookup
    rw [Option.map_none, ite_self]
  | cons m ms ih =>
    by_cases hname : sameName name key = true
    · rw [if_pos hname] at ih ⊢
      unfold replaceFirst lookup
      rw [sameName_congr hname]
      by_cases hm : sameName key m.1 = true
      · rw [if_pos hm, if_pos hm]
        show (if sameName name key = true then some item else _) = _
        rw [if_pos hname]
        rfl
      · rw [if_neg hm, if_neg hm]
        show (if sameName name m.1 = true then some m.2 else _) = _
        rw [sameName_congr hname, if_neg hm, ih]
    · rw [if_neg hname] at ih ⊢
      unfold replaceFirst lookup
      by_cases hm : sameName key m.1 = true
      · have hnot : ¬sameName name m.1 = true := by
          intro h
          rw [sameName_comm] at hm
          exact hname (sameName_trans h hm)
        rw [if_pos hm, if_neg hnot]
        show (if sameName name key = true then some item else _) = _
        rw [if_neg hname]
      · rw [if_neg hm]
        show (if sameName name m.1 = true then some m.2 else _) = _
        rw [ih]

theorem updateFirst_missing {name : Text} {ms : List (Text × Item)} (h : lookup name ms = none)
    (f : Item → Item) : updateFirst name f ms = ms := by
  induction ms with
  | nil => rfl
  | cons m ms ih =>
    unfold lookup at h
    unfold updateFirst
    by_cases hm : sameName name m.1 = true
    · rw [if_pos hm] at h
      exact absurd h (Option.some_ne_none _)
    · rw [if_neg hm] at h ⊢
      rw [ih h]

theorem lookup_updateFirst (name key : Text) (f : Item → Item) (ms : List (Text × Item)) :
    lookup name (updateFirst key f ms) =
      if sameName name key then (lookup name ms).map f else lookup name ms := by
  induction ms with
  | nil =>
    unfold updateFirst lookup
    rw [Option.map_none, ite_self]
  | cons m ms ih =>
    by_cases hname : sameName name key = true
    · rw [if_pos hname] at ih ⊢
      unfold updateFirst lookup
      rw [sameName_congr hname]
      by_cases hm : sameName key m.1 = true
      · rw [if_pos hm, if_pos hm]
        show (if sameName name m.1 = true then some (f m.2) else _) = _
        rw [sameName_congr hname, if_pos hm]
        rfl
      · rw [if_neg hm, if_neg hm]
        show (if sameName name m.1 = true then some m.2 else _) = _
        rw [sameName_congr hname, if_neg hm, ih]
    · rw [if_neg hname] at ih ⊢
      unfold updateFirst lookup
      by_cases hm : sameName key m.1 = true
      · have hnot : ¬sameName name m.1 = true := by
          intro h
          rw [sameName_comm] at hm
          exact hname (sameName_trans h hm)
        rw [if_pos hm, if_neg hnot]
        show (if sameName name m.1 = true then some (f m.2) else _) = _
        rw [if_neg hnot]
      · rw [if_neg hm]
        show (if sameName name m.1 = true then some m.2 else _) = _
        rw [ih]

namespace Item

@[simp] theorem getObjectItem_object (ms : List (Text × Item)) (name : Text) :
    (Item.object ms).getObjectItem name = lookup name ms := rfl

@[simp] theorem elements_array (items : List Item) : (Item.array items).elements = items := rfl

theorem valueInt_number {value : Int} (hlo : intMin ≤ value) (hhi : value ≤ intMax) :
    (Item.number value).valueInt = value := by
  unfold valueInt
  dsimp only
  by_cases hmax : intMax ≤ value
  · rw [if_pos hmax]
    exact Int.le_antisymm hmax hhi
  · rw [if_neg hmax]
    by_cases hmin : value ≤ intMin
    · rw [if_pos hmin]
      exact Int.le_antisymm hlo hmin
    · rw [if_neg hmin]

end Item

end Keystone3.Json
