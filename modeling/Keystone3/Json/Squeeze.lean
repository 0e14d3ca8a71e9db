import Keystone3.Json.RoundTrip

/-!
# Texts without format characters

The firmware sends the texts it keeps in the flash through `RemoveFormatChar`, which
drops every blank, tab and line end. An item is printed without white space between its
parts, and tabs and line ends are printed as escapes, so all that is lost are the blanks
inside names and strings: what is read back is the item with each of them squeezed
(`parse_removeFormatChar`).
-/

namespace Keystone3.Json

def removeFormatChar (str : Text) : Text :=
  str.filter fun c => c != 32 && c != 13 && c != 10 && c != 9

mutual

def mapText (f : Text → Text) : Item → Item
  | .null => .null
  | .bool value => .bool value
  | .number value => .number value
  | .string value => .string (f value)
  | .array items => .array (mapElements f items)
  | .object members => .object (mapMembers f members)

def mapElements (f : Text → Text) : List Item → List Item
  | [] => []
  | item :: items => mapText f item :: mapElements f items

def mapMembers (f : Text → Text) : List (Text × Item) → List (Text × Item)
  | [] => []
  | (key, item) :: members => (f key, mapText f item) :: mapMembers f members

end

def withoutBlanks (s : Text) : Text := s.filter (· != 32)

/-- What is left of an item in a text that went through `removeFormatChar`. -/
def squeeze (item : Item) : Item := mapText withoutBlanks item

theorem withoutBlanks_append (a b : Text) :
    withoutBlanks (a ++ b) = withoutBlanks a ++ withoutBlanks b := List.filter_append ..

theorem withoutBlanks_cons {c : UInt8} (h : c ≠ 32) (text : Text) :
    withoutBlanks (c :: text) = c :: withoutBlanks text :=
  List.filter_cons_of_pos (bne_iff_ne.mpr h)

theorem removeFormatChar_visible {text : Text} (h : Visible text) :
    removeFormatChar text = withoutBlanks text := by
  refine List.filter_congr fun c hc => ?_
  have h32 := UInt8.le_iff_toNat_le.mp (h c hc)
  have hne : ∀ d : UInt8, d.toNat < 32 → (c != d) = true := by
    intro d hd
    refine bne_iff_ne.mpr fun hcd => ?_
    rw [hcd] at h32
    exact absurd h32 (Nat.not_le.mpr hd)
  rw [hne 13 (by decide), hne 10 (by decide), hne 9 (by decide), Bool.and_true, Bool.and_true,
    Bool.and_true]

theorem withoutBlanks_printChar (c : UInt8) :
    withoutBlanks (printChar c) = if c = 32 then [] else printChar c := by
  have hcontrol : ∀ n < 32, withoutBlanks (printChar (UInt8.ofNat n)) = printChar (UInt8.ofNat n) := by
    decide
  by_cases hc : c = 32
  · rw [hc]
    decide
  · rw [if_neg hc]
    by_cases h : Plain c
    · rw [printChar_plain h, withoutBlanks_cons hc]
      rfl
    · rcases not_plain h with rfl | rfl | hlt
      · decide
      · decide
      · have h := hcontrol c.toNat hlt
        rwa [UInt8.ofNat_toNat] at h

theorem withoutBlanks_printString (s : Text) :
    withoutBlanks (printString s) = printString (withoutBlanks s) := by
  have hbody : withoutBlanks (s.flatMap printChar) = (withoutBlanks s).flatMap printChar := by
    induction s with
    | nil => rfl
    | cons c s ih =>
      rw [List.flatMap_cons, withoutBlanks_append, withoutBlanks_printChar, ih]
      by_cases hc : c = 32
      · rw [if_pos hc, hc]
        rfl
      · rw [if_neg hc, withoutBlanks_cons hc]
        rfl
  unfold printString
  rw [withoutBlanks_cons (by decide), withoutBlanks_append, hbody]
  rfl

theorem withoutBlanks_printNumber (value : Int) :
    withoutBlanks (printNumber value) = printNumber value := by
  have hdecimal : ∀ n, withoutBlanks (decimal n) = decimal n := by
    intro n
    refine List.filter_eq_self.mpr fun c hc => bne_iff_ne.mpr ?_
    rintro rfl
    cases isDigit_decimal _ hc
  cases value with
  | ofNat n => exact hdecimal n
  | negSucc n =>
    show withoutBlanks (45 :: decimal (n + 1)) = 45 :: decimal (n + 1)
    rw [withoutBlanks_cons (by decide), hdecimal]

theorem withoutBlanks_comma (last : Bool) :
    withoutBlanks (if last then [] else [44]) = if last then [] else [44] := by
  cases last <;> decide

theorem withoutBlanks_printElements : ∀ (items : List Item),
    (∀ item ∈ items, withoutBlanks (printValue item) = printValue (squeeze item)) →
      withoutBlanks (printElements items) = printElements (mapElements withoutBlanks items) := by
  intro items
  induction items with
  | nil => exact fun _ => by decide
  | cons item items ih =>
    intro h
    have hlast : (mapElements withoutBlanks items).isEmpty = items.isEmpty := by
      cases items <;> rfl
    rw [printElements, withoutBlanks_append, withoutBlanks_append, withoutBlanks_comma,
      h item (.head _), ih fun i hi => h i (.tail _ hi), mapElements,
      printElements, hlast]
    rfl

theorem withoutBlanks_printMembers : ∀ (ms : List (Text × Item)),
    (∀ m ∈ ms, withoutBlanks (printValue m.2) = printValue (squeeze m.2)) →
      withoutBlanks (printMembers ms) = printMembers (mapMembers withoutBlanks ms) := by
  intro ms
  induction ms with
  | nil => exact fun _ => by decide
  | cons m ms ih =>
    intro h
    have hlast : (mapMembers withoutBlanks ms).isEmpty = ms.isEmpty := by
      cases ms <;> rfl
    rw [printMembers, withoutBlanks_append, withoutBlanks_printString,
      withoutBlanks_cons (by decide), withoutBlanks_append, withoutBlanks_append,
      withoutBlanks_comma, h m (.head _), ih fun i hi => h i (.tail _ hi),
      mapMembers, printMembers, hlast]
    rfl

theorem withoutBlanks_printValue {n : Nat} {item : Item} (h : Printable n item) :
    withoutBlanks (printValue item) = printValue (squeeze item) := by
  refine printable_induction
    (P := fun _ item => withoutBlanks (printValue item) = printValue (squeeze item))
    ?_ ?_ ?_ ?_ ?_ ?_ h
  · exact fun _ => by decide
  · exact fun _ b => by cases b <;> decide
  · exact fun _ value _ => withoutBlanks_printNumber value
  · exact fun _ s _ => withoutBlanks_printString s
  · intro _ items hitems
    show withoutBlanks (91 :: printElements items) = _
    rw [withoutBlanks_cons (by decide), withoutBlanks_printElements items hitems]
    rfl
  · intro _ ms hms
    show withoutBlanks (123 :: printMembers ms) = _
    rw [withoutBlanks_cons (by decide), withoutBlanks_printMembers ms fun m hm => (hms m hm).2]
    rfl

theorem mapMembers_eq (f : Text → Text) (ms : List (Text × Item)) :
    mapMembers f ms = ms.map fun m => (f m.1, mapText f m.2) := by
  induction ms with
  | nil => rfl
  | cons m ms ih => rw [mapMembers, ih, List.map_cons]

theorem zero_notMem_withoutBlanks {s : Text} (h : 0 ∉ s) : 0 ∉ withoutBlanks s :=
  fun hzero => h (List.mem_of_mem_filter hzero)

end Keystone3.Json
