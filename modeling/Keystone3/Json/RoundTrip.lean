import Mathlib.Data.List.TakeWhile
import Mathlib.Data.Nat.Digits.Lemmas
import Keystone3.Json.Text

/-!
# A printed item reads back

`parse (printValue item) = some item` for every item the library can print and
read at all: its strings hold no null character, its numbers are short and it is
nested less than a thousand deep (`Printable`).
-/

namespace Keystone3.Json

open List (append_assoc append_nil cons_append cons_ne_nil drop_left length_append length_cons)

/-- The item can be printed and read back inside of `n` arrays and objects less than
the limit. -/
def Printable : Nat → Item → Prop
  | _, .null => True
  | _, .bool _ => True
  | _, .number value => value.natAbs < 10 ^ 15
  | _, .string s => 0 ∉ s
  | 0, .array _ => False
  | n + 1, .array items => ∀ item ∈ items, Printable n item
  | 0, .object _ => False
  | n + 1, .object members => ∀ m ∈ members, 0 ∉ m.1 ∧ Printable n m.2

@[simp] theorem printable_null (n : Nat) : Printable n .null := by cases n <;> trivial

@[simp] theorem printable_bool (n : Nat) (value : Bool) : Printable n (.bool value) := by
  cases n <;> trivial

@[simp] theorem printable_number (n : Nat) (value : Int) :
    Printable n (.number value) ↔ value.natAbs < 10 ^ 15 := by
  cases n <;> exact Iff.rfl

@[simp] theorem printable_string (n : Nat) (s : Text) : Printable n (.string s) ↔ 0 ∉ s := by
  cases n <;> exact Iff.rfl

theorem printable_induction {P : Nat → Item → Prop} (null : ∀ n, P n .null)
    (bool : ∀ n b, P n (.bool b))
    (number : ∀ n (value : Int), value.natAbs < 10 ^ 15 → P n (.number value))
    (string : ∀ n s, 0 ∉ s → P n (.string s))
    (array : ∀ n items, (∀ item ∈ items, P n item) → P (n + 1) (.array items))
    (object : ∀ n ms, (∀ m ∈ ms, 0 ∉ m.1 ∧ P n m.2) → P (n + 1) (.object ms)) :
    ∀ {n : Nat} {item : Item}, Printable n item → P n item := by
  intro n
  induction n with
  | zero =>
    intro item h
    cases item with
    | null => exact null 0
    | bool b => exact bool 0 b
    | number value => exact number 0 value h
    | string s => exact string 0 s h
    | array items => exact h.elim
    | object ms => exact h.elim
  | succ n ih =>
    intro item h
    cases item with
    | null => exact null _
    | bool b => exact bool _ b
    | number value => exact number _ value h
    | string s => exact string _ s h
    | array items => exact array n items fun item hitem => ih (h item hitem)
    | object ms => exact object n ms fun m hm => ⟨(h m hm).1, ih (h m hm).2⟩

variable {item : Item}

theorem Printable.mono {n m : Nat} (h : Printable n item) (hnm : n ≤ m) :
    Printable m item := by
  refine printable_induction (P := fun n item => ∀ m, n ≤ m → Printable m item)
    ?_ ?_ ?_ ?_ ?_ ?_ h m hnm
  · exact fun _ m _ => printable_null m
  · exact fun _ b m _ => printable_bool m b
  · exact fun _ value hvalue m _ => (printable_number m value).mpr hvalue
  · exact fun _ s hs m _ => (printable_string m s).mpr hs
  · intro n items hitems m hm
    cases m with
    | zero => omega
    | succ m => exact fun item hitem => hitems item hitem m (by omega)
  · intro n ms hms m hm
    cases m with
    | zero => omega
    | succ m => exact fun k hk => ⟨(hms k hk).1, (hms k hk).2 m (by omega)⟩

def Plain (c : UInt8) : Prop := 31 < c ∧ c ≠ quote ∧ c ≠ backslash

instance (c : UInt8) : Decidable (Plain c) := inferInstanceAs (Decidable (_ ∧ _ ∧ _))

variable {c : UInt8}

theorem printChar_plain (h : Plain c) : printChar c = [c] := if_pos h

theorem not_plain (h : ¬Plain c) : c = quote ∨ c = backslash ∨ c.toNat < 32 := by
  by_cases hc : 31 < c
  · by_contra hnot
    rw [not_or, not_or] at hnot
    exact h ⟨hc, hnot.1, hnot.2.1⟩
  · have h31 := UInt8.le_iff_toNat_le.mp (UInt8.not_lt.mp hc)
    exact .inr (.inr (Nat.lt_succ_of_le h31))

theorem printChar_escaped (h : ¬Plain c) :
    (∃ letter, printChar c = [backslash, letter] ∧ letter ≠ 117 ∧ escapedChar letter = some c) ∨
    ∃ x y, printChar c = [backslash, 117, 48, 48, x, y] ∧ parseHex4 48 48 x y = c.toNat ∧
      c.toNat < 32 := by
  have hcontrol : ∀ n < 32,
      (∃ letter ∈ [98, 102, 110, 114, 116], printChar (UInt8.ofNat n) = [backslash, letter] ∧
        letter ≠ 117 ∧ escapedChar letter = some (UInt8.ofNat n)) ∨
      ∃ x ∈ [48, 49], ∃ y ∈ ascii "0123456789abcdef",
        printChar (UInt8.ofNat n) = [backslash, 117, 48, 48, x, y] ∧
          parseHex4 48 48 x y = n := by decide
  rcases not_plain h with rfl | rfl | hlt
  · exact .inl ⟨quote, by decide, by decide, by decide⟩
  · exact .inl ⟨backslash, by decide, by decide, by decide⟩
  · rcases hcontrol c.toNat hlt with ⟨letter, -, hp, hne, he⟩ | ⟨x, -, y, -, hp, hv⟩
    · rw [UInt8.ofNat_toNat] at hp he
      exact .inl ⟨letter, hp, hne, he⟩
    · rw [UInt8.ofNat_toNat] at hp
      exact .inr ⟨x, y, hp, hv, hlt⟩

theorem scanString_plain (h : Plain c) (rest : Text) :
    scanString (c :: rest) = (scanString rest).map fun r => (c :: r.1, r.2) := by
  rw [scanString.eq_def]
  dsimp only
  rw [if_neg h.2.1, if_neg h.2.2]

theorem scanString_escape (d : UInt8) (rest : Text) :
    scanString (backslash :: d :: rest) =
      (scanString rest).map fun r => (backslash :: d :: r.1, r.2) := by
  rw [scanString.eq_def]
  dsimp only
  rw [if_neg (by decide), if_pos rfl]

theorem scanString_quote (rest : Text) : scanString (quote :: rest) = some ([], rest) := by
  rw [scanString.eq_def]
  exact if_pos rfl

theorem plain_of_parseHex4 {x y : UInt8} (h : ¬Plain c)
    (hp : printChar c = [backslash, 117, 48, 48, x, y]) : Plain x ∧ Plain y := by
  have hdigit : ∀ n < 16, Plain (hexDigit (UInt8.ofNat n)) := by decide
  have hand : (c &&& 15).toNat < 16 := by
    rw [UInt8.toNat_and]
    exact Nat.lt_of_le_of_lt Nat.and_le_right (by decide)
  have hshift : (c >>> 4).toNat < 16 := by
    rw [UInt8.toNat_shiftRight]
    show c.toNat >>> 4 < 16
    rw [Nat.shiftRight_eq_div_pow]
    have := c.toNat_lt
    omega
  rw [printChar, if_neg (show ¬(31 < c ∧ c ≠ quote ∧ c ≠ backslash) from h)] at hp
  cases hl : escapeLetter c with
  | some letter =>
    rw [hl] at hp
    cases hp
  | none =>
    rw [hl] at hp
    dsimp only at hp
    have hx : hexDigit (c >>> 4) = x := (List.cons.inj (List.cons.inj (List.cons.inj
      (List.cons.inj (List.cons.inj hp).2).2).2).2).1
    have hy : hexDigit (c &&& 15) = y := (List.cons.inj (List.cons.inj (List.cons.inj
      (List.cons.inj (List.cons.inj (List.cons.inj hp).2).2).2).2).2).1
    rw [← hx, ← hy, ← UInt8.ofNat_toNat (x := c >>> 4), ← UInt8.ofNat_toNat (x := c &&& 15)]
    exact ⟨hdigit _ hshift, hdigit _ hand⟩

theorem scanString_printChar (c : UInt8) (rest : Text) :
    scanString (printChar c ++ rest) =
      (scanString rest).map fun r => (printChar c ++ r.1, r.2) := by
  by_cases h : Plain c
  · rw [printChar_plain h]
    exact scanString_plain h rest
  · rcases printChar_escaped h with ⟨letter, hp, -, -⟩ | ⟨x, y, hp, -, -⟩
    · rw [hp]
      exact scanString_escape letter rest
    · obtain ⟨hx, hy⟩ := plain_of_parseHex4 h hp
      have hzero : Plain 48 := by decide
      rw [hp]
      show scanString (backslash :: 117 :: 48 :: 48 :: x :: y :: rest) = _
      rw [scanString_escape, scanString_plain hzero, scanString_plain hzero, scanString_plain hx,
        scanString_plain hy]
      simp only [Option.map_map]
      rfl

theorem unescape_printChar (c : UInt8) (rest : Text) :
    unescape (printChar c ++ rest) = (unescape rest).map (c :: ·) := by
  by_cases h : Plain c
  · rw [printChar_plain h]
    show unescape (c :: rest) = _
    rw [unescape.eq_def]
    exact if_pos h.2.2
  · rcases printChar_escaped h with ⟨letter, hp, hne, he⟩ | ⟨x, y, hp, hv, hlt⟩
    · rw [hp]
      show unescape (backslash :: letter :: rest) = _
      rw [unescape.eq_def]
      dsimp only
      rw [if_neg (not_not.mpr rfl), if_neg hne, he]
    · rw [hp]
      show unescape (backslash :: 117 :: 48 :: 48 :: x :: y :: rest) = _
      rw [unescape.eq_def]
      dsimp only
      rw [if_neg (not_not.mpr rfl), if_pos rfl, hv, if_neg (by omega), if_neg (by omega)]
      have hutf : utf8 c.toNat = [c] := by
        unfold utf8
        rw [if_pos (by omega), UInt8.ofNat_toNat]
      rw [hutf]
      rfl

theorem scanString_printed (s rest : Text) :
    scanString (s.flatMap printChar ++ quote :: rest) = some (s.flatMap printChar, rest) := by
  induction s with
  | nil =>
    exact scanString_quote rest
  | cons c s ih =>
    rw [List.flatMap_cons, append_assoc, scanString_printChar, ih]
    rfl

theorem unescape_printed (s : Text) : unescape (s.flatMap printChar) = some s := by
  induction s with
  | nil => rfl
  | cons c s ih =>
    rw [List.flatMap_cons, unescape_printChar, ih]
    rfl

theorem parseString_printString {s : Text} (h : 0 ∉ s) (rest : Text) :
    parseString (printString s ++ rest) = some (s, rest) := by
  have htake : s.takeWhile (· != 0) = s := by
    refine List.takeWhile_eq_self_iff.mpr fun c hc => ?_
    exact bne_iff_ne.mpr fun hzero => h (hzero ▸ hc)
  show parseString (quote :: (s.flatMap printChar ++ [quote] ++ rest)) = _
  rw [parseString, if_pos rfl, append_assoc, List.singleton_append, scanString_printed]
  show ((unescape (s.flatMap printChar)).map fun t => (t.takeWhile (· != 0), rest)) = _
  rw [unescape_printed, Option.map_some, htake]

def Stops (p : UInt8 → Bool) (rest : Text) : Prop := ∀ c ∈ rest.head?, p c = false

theorem takeWhile_stops {p : UInt8 → Bool} {front rest : Text} (hfront : ∀ c ∈ front, p c = true)
    (hrest : Stops p rest) : (front ++ rest).takeWhile p = front := by
  rw [List.takeWhile_append_of_pos hfront]
  cases rest with
  | nil => rw [List.takeWhile_nil, append_nil]
  | cons c rest =>
    have hc := hrest c rfl
    rw [List.takeWhile_cons_of_neg (by rw [hc]; exact Bool.false_ne_true), append_nil]

theorem dropWhile_stops {p : UInt8 → Bool} {front rest : Text} (hfront : ∀ c ∈ front, p c = true)
    (hrest : Stops p rest) : (front ++ rest).dropWhile p = rest := by
  rw [List.dropWhile_append_of_pos hfront]
  cases rest with
  | nil => rfl
  | cons c rest =>
    have hc := hrest c rfl
    rw [List.dropWhile_cons_of_neg (by rw [hc]; exact Bool.false_ne_true)]

variable {n : Nat}

theorem isDigit_decimal : ∀ c ∈ decimal n, isDigit c = true := by
  have hdigit : ∀ d < 10, isDigit (48 + UInt8.ofNat d) = true := by decide
  intro c hc
  unfold decimal at hc
  by_cases hn : n = 0
  · rw [if_pos hn, List.mem_singleton] at hc
    rw [hc]
    decide
  · rw [if_neg hn, List.mem_map] at hc
    obtain ⟨d, hd, rfl⟩ := hc
    exact hdigit d (Nat.digits_lt_base (by decide) (List.mem_reverse.mp hd))

theorem decimal_ne_nil (n : Nat) : decimal n ≠ [] := by
  unfold decimal
  by_cases hn : n = 0
  · rw [if_pos hn]
    exact cons_ne_nil _ _
  · rw [if_neg hn]
    intro hnil
    rw [List.map_eq_nil_iff, List.reverse_eq_nil_iff] at hnil
    exact Nat.digits_ne_nil_iff_ne_zero.mpr hn hnil

theorem ofDecimal_decimal (n : Nat) : ofDecimal (decimal n) = n := by
  have hdigit : ∀ d < 10, (48 + UInt8.ofNat d).toNat - 48 = d := by decide
  unfold ofDecimal decimal
  by_cases hn : n = 0
  · rw [if_pos hn, hn]
    rfl
  · rw [if_neg hn, ← List.map_reverse, List.reverse_reverse, List.map_map]
    have hmap := List.map_congr_left (f := (fun c : UInt8 => c.toNat - 48) ∘ fun d =>
      48 + UInt8.ofNat d) (g := id) (l := Nat.digits 10 n)
      fun d hd => hdigit d (Nat.digits_lt_base (by decide) hd)
    rw [hmap, List.map_id, Nat.ofDigits_digits]

theorem length_decimal_le {n k : Nat} (hk : 0 < k) (hn : n < 10 ^ k) : (decimal n).length ≤ k := by
  unfold decimal
  by_cases hz : n = 0
  · rw [if_pos hz]
    exact hk
  · rw [if_neg hz, List.length_map, List.length_reverse]
    exact (Nat.digits_length_le_iff (by decide) n).mpr hn

theorem isNumberChar_of_isDigit (h : isDigit c = true) : isNumberChar c = true := by
  unfold isDigit at h
  unfold isNumberChar
  rw [h]
  rfl

theorem stops_isDigit {rest : Text} (h : Stops isNumberChar rest) : Stops isDigit rest := by
  intro c hc
  by_contra hd
  have hnumber := isNumberChar_of_isDigit (Bool.not_eq_false _ ▸ hd)
  rw [h c hc] at hnumber
  cases hnumber

theorem readInteger_decimal (n : Nat) {rest : Text} (hrest : Stops isNumberChar rest) :
    readInteger (decimal n ++ rest) = some (n, rest) := by
  have hstops := stops_isDigit hrest
  unfold readInteger
  rw [takeWhile_stops isDigit_decimal hstops, dropWhile_stops isDigit_decimal hstops]
  dsimp only
  rw [if_neg (fun hnil => decimal_ne_nil n (List.isEmpty_iff.mp hnil)), ofDecimal_decimal]
  cases rest with
  | nil => rfl
  | cons c rest =>
    dsimp only
    rw [if_neg]
    intro hc
    have hnumber := hrest c rfl
    rcases hc with hc | hc | hc <;>
      · rw [hc] at hnumber
        cases hnumber

theorem collect_number {number rest : Text} (hchars : ∀ c ∈ number, isNumberChar c = true)
    (hlength : number.length ≤ 63) (hrest : Stops isNumberChar rest) :
    ((number ++ rest).take 63).takeWhile isNumberChar = number := by
  rw [List.take_append, List.take_of_length_le hlength]
  refine takeWhile_stops hchars ?_
  intro c hc
  cases rest with
  | nil =>
    rw [List.take_nil] at hc
    cases hc
  | cons d rest =>
    cases hk : 63 - number.length with
    | zero =>
      rw [hk] at hc
      cases hc
    | succ k =>
      rw [hk] at hc
      exact hrest c hc

theorem parseNumber_printNumber {value : Int} (hvalue : value.natAbs < 10 ^ 15) {rest : Text}
    (hrest : Stops isNumberChar rest) :
    parseNumber (printNumber value ++ rest) = some (.number value, rest) := by
  have hdigits : ∀ {n : Nat}, ∀ c ∈ decimal n, isNumberChar c = true :=
    fun c hc => isNumberChar_of_isDigit (isDigit_decimal c hc)
  have hread : ∀ n, readInteger (decimal n) = some (n, []) := by
    intro n
    have h := @readInteger_decimal n [] fun c hc => by cases hc
    rwa [append_nil] at h
  unfold parseNumber
  cases value with
  | ofNat n =>
    have hlength := length_decimal_le (by decide) (show n < 10 ^ 15 from hvalue)
    rw [show printNumber (.ofNat n) = decimal n from rfl, collect_number hdigits (by omega) hrest]
    dsimp only
    rw [drop_left]
    split
    · next number hnumber =>
      -- a digit is no minus sign
      have hminus := isDigit_decimal (n := n) 45 (hnumber ▸ (.head _))
      cases hminus
    · rw [hread n]
      rfl
  | negSucc n =>
    have hlength := length_decimal_le (by decide) (show n + 1 < 10 ^ 15 from hvalue)
    have hchars : ∀ c ∈ 45 :: decimal (n + 1), isNumberChar c = true := by
      intro c hc
      rcases List.mem_cons.mp hc with rfl | hc
      · decide
      · exact hdigits c hc
    rw [show printNumber (.negSucc n) = 45 :: decimal (n + 1) from rfl,
      collect_number hchars (by rw [length_cons]; omega) hrest]
    dsimp only
    rw [drop_left]
    show (readInteger (decimal (n + 1))).map _ = _
    rw [hread (n + 1)]
    rfl

theorem stripPrefix_append (literal rest : Text) :
    stripPrefix literal (literal ++ rest) = some rest := by
  unfold stripPrefix
  rw [if_pos (List.isPrefixOf_iff_prefix.mpr (List.prefix_append literal rest)), drop_left]

theorem stripPrefix_ne {c d : UInt8} (h : c ≠ d) (literal text : Text) :
    stripPrefix (c :: literal) (d :: text) = none := by
  unfold stripPrefix
  rw [if_neg]
  intro hp
  exact h (List.cons_prefix_cons.mp (List.isPrefixOf_iff_prefix.mp hp)).1

theorem skipWhitespace_cons (h : 32 < c) (text : Text) :
    skipWhitespace (c :: text) = c :: text := by
  unfold skipWhitespace
  rw [List.dropWhile_cons_of_neg]
  rw [decide_eq_true_eq]
  exact UInt8.not_le.mpr h

def Opening (c : UInt8) : Prop :=
  c = 110 ∨ c = 102 ∨ c = 116 ∨ c = quote ∨ c = 45 ∨ isDigit c = true ∨ c = 91 ∨ c = 123

theorem printValue_opening (item : Item) : ∃ c text, printValue item = c :: text ∧ Opening c := by
  cases item with
  | null => exact ⟨110, _, rfl, .inl rfl⟩
  | bool value =>
    cases value with
    | false => exact ⟨102, _, rfl, .inr (.inl rfl)⟩
    | true => exact ⟨116, _, rfl, .inr (.inr (.inl rfl))⟩
  | number value =>
    cases value with
    | ofNat n =>
      cases hn : decimal n with
      | nil => exact absurd hn (decimal_ne_nil n)
      | cons c text =>
        have hc := isDigit_decimal (n := n) c (hn ▸ (.head _))
        exact ⟨c, text, hn, by simp [Opening, hc]⟩
    | negSucc n => exact ⟨45, _, rfl, by simp [Opening]⟩
  | string s => exact ⟨quote, _, rfl, by simp [Opening]⟩
  | array items => exact ⟨91, _, rfl, by simp [Opening]⟩
  | object members => exact ⟨123, _, rfl, by simp [Opening]⟩

theorem Opening.visible (h : Opening c) : 32 < c ∧ c ≠ 93 ∧ c ≠ 125 ∧ c ≠ 44 := by
  unfold Opening at h
  by_cases hd : isDigit c = true
  · simp only [isDigit, Bool.and_eq_true, decide_eq_true_eq] at hd
    have hlo := UInt8.le_iff_toNat_le.mp hd.1
    have hhi := UInt8.le_iff_toNat_le.mp hd.2
    refine ⟨UInt8.lt_iff_toNat_lt.mpr (Nat.lt_of_lt_of_le (by decide) hlo), ?_, ?_, ?_⟩ <;>
      · rintro rfl
        revert hlo hhi
        decide
  · rcases h with rfl | rfl | rfl | rfl | rfl | h | rfl | rfl <;> first | exact absurd h hd | decide

/-- What reading a printed item takes: enough calls, enough levels and a text behind it
that does not go on with a number. -/
def ReadsBack (n : Nat) (item : Item) : Prop :=
  ∀ fuel depth rest, 2 * (printValue item).length ≤ fuel → depth + n ≤ nestingLimit →
    Stops isNumberChar rest → parseValue fuel depth (printValue item ++ rest) = some (item, rest)

theorem stops_cons {p : UInt8 → Bool} (h : p c = false) (rest : Text) :
    Stops p (c :: rest) := by
  intro d hd
  rw [← Option.some.inj hd]
  exact h

theorem length_printValue_pos (item : Item) : 0 < (printValue item).length := by
  obtain ⟨c, text, h, -⟩ := printValue_opening item
  rw [h]
  exact Nat.succ_pos _

theorem printElements_single (item : Item) : printElements [item] = printValue item ++ [93] := rfl

theorem printElements_cons (item next : Item) (items : List Item) :
    printElements (item :: next :: items) = printValue item ++ 44 :: printElements (next :: items) :=
  rfl

theorem parseElements_step {fuel depth : Nat} {text rest : Text}
    (h : parseValue fuel depth text = some (item, c :: rest)) (hc : 32 < c) :
    parseElements (fuel + 1) depth text =
      if c = 44 then
        (parseElements fuel depth (skipWhitespace rest)).map fun r => (item :: r.1, r.2)
      else if c = 93 then some ([item], rest)
      else none := by
  rw [parseElements.eq_def]
  dsimp only
  rw [h]
  dsimp only
  rw [skipWhitespace_cons hc]

theorem skipWhitespace_printValue (item : Item) (rest : Text) :
    skipWhitespace (printValue item ++ rest) = printValue item ++ rest := by
  obtain ⟨c, text, hopen, hc⟩ := printValue_opening item
  rw [hopen]
  exact skipWhitespace_cons hc.visible.1 _

theorem skipWhitespace_printElements {items : List Item} (h : items ≠ []) (rest : Text) :
    skipWhitespace (printElements items ++ rest) = printElements items ++ rest := by
  cases items with
  | nil => exact absurd rfl h
  | cons item items =>
    rw [printElements, append_assoc]
    exact skipWhitespace_printValue item _

theorem parseElements_printed : ∀ (items : List Item), items ≠ [] →
    (∀ item ∈ items, ReadsBack n item) → ∀ fuel depth rest,
      2 * (printElements items).length ≤ fuel + 1 → depth + n ≤ nestingLimit →
        parseElements fuel depth (printElements items ++ rest) = some (items, rest) := by
  intro items
  induction items with
  | nil =>
    intro hne
    exact absurd rfl hne
  | cons item items ih =>
    intro _ hitems fuel depth rest hfuel hdepth
    have hpos := length_printValue_pos item
    have hitem := hitems item (.head _)
    cases items with
    | nil =>
      rw [printElements_single, length_append, List.length_singleton] at hfuel
      obtain ⟨fuel, rfl⟩ : ∃ k, fuel = k + 1 := ⟨fuel - 1, by omega⟩
      rw [printElements_single, append_assoc]
      exact parseElements_step
        (hitem fuel depth _ (by omega) hdepth (stops_cons (by decide) rest)) (by decide)
    | cons next items =>
      rw [printElements_cons, length_append, length_cons] at hfuel
      obtain ⟨fuel, rfl⟩ : ∃ k, fuel = k + 1 := ⟨fuel - 1, by omega⟩
      have hrest := ih (cons_ne_nil _ _)
        (fun i hi => hitems i (.tail _ hi)) fuel depth rest (by omega) hdepth
      rw [printElements_cons, append_assoc, cons_append]
      rw [parseElements_step
        (hitem fuel depth _ (by omega) hdepth (stops_cons (by decide) _)) (by decide)]
      rw [if_pos rfl, skipWhitespace_printElements (cons_ne_nil _ _), hrest]
      rfl

theorem printMembers_single (key : Text) (item : Item) :
    printMembers [(key, item)] = printString key ++ 58 :: (printValue item ++ [125]) := rfl

theorem printMembers_cons (key : Text) (item : Item) (next : Text × Item)
    (ms : List (Text × Item)) :
    printMembers ((key, item) :: next :: ms) =
      printString key ++ 58 :: (printValue item ++ 44 :: printMembers (next :: ms)) := rfl

theorem parseMembers_step {fuel depth : Nat} {text rest value : Text} {key : Text} (hkey : parseString text = some (key, 58 :: rest))
    (h : parseValue fuel depth (skipWhitespace rest) = some (item, c :: value)) (hc : 32 < c) :
    parseMembers (fuel + 1) depth text =
      if c = 44 then
        (parseMembers fuel depth (skipWhitespace value)).map fun r => ((key, item) :: r.1, r.2)
      else if c = 125 then some ([(key, item)], value)
      else none := by
  have hcolon : stripPrefix [58] (58 :: rest) = some rest := stripPrefix_append [58] rest
  rw [parseMembers.eq_def]
  dsimp only
  rw [hkey]
  dsimp only
  rw [skipWhitespace_cons (by decide), hcolon]
  dsimp only
  rw [h]
  dsimp only
  rw [skipWhitespace_cons hc]

theorem skipWhitespace_printMembers {ms : List (Text × Item)} (h : ms ≠ []) (rest : Text) :
    skipWhitespace (printMembers ms ++ rest) = printMembers ms ++ rest := by
  cases ms with
  | nil => exact absurd rfl h
  | cons m ms =>
    rw [printMembers]
    exact skipWhitespace_cons (by decide) _

theorem parseMembers_printed : ∀ (ms : List (Text × Item)), ms ≠ [] →
    (∀ m ∈ ms, 0 ∉ m.1 ∧ ReadsBack n m.2) → ∀ fuel depth rest,
      2 * (printMembers ms).length ≤ fuel + 1 → depth + n ≤ nestingLimit →
        parseMembers fuel depth (printMembers ms ++ rest) = some (ms, rest) := by
  intro ms
  induction ms with
  | nil =>
    intro hne
    exact absurd rfl hne
  | cons m ms ih =>
    intro _ hms fuel depth rest hfuel hdepth
    obtain ⟨key, item⟩ := m
    have hkey : 0 ∉ key := (hms (key, item) (.head _)).1
    have hitem : ReadsBack n item := (hms (key, item) (.head _)).2
    cases ms with
    | nil =>
      rw [printMembers_single, length_append, length_cons, length_append] at hfuel
      obtain ⟨fuel, rfl⟩ : ∃ k, fuel = k + 1 := ⟨fuel - 1, by omega⟩
      rw [List.length_singleton] at hfuel
      rw [printMembers_single, append_assoc, cons_append, append_assoc, List.singleton_append]
      have hvalue : parseValue fuel depth (skipWhitespace (printValue item ++ 125 :: rest)) =
          some (item, 125 :: rest) := by
        rw [skipWhitespace_printValue]
        exact hitem fuel depth _ (by omega) hdepth (stops_cons (by decide) rest)
      exact parseMembers_step (parseString_printString hkey _) hvalue (by decide)
    | cons next ms =>
      rw [printMembers_cons, length_append, length_cons, length_append, length_cons] at hfuel
      obtain ⟨fuel, rfl⟩ : ∃ k, fuel = k + 1 := ⟨fuel - 1, by omega⟩
      have hrest := ih (cons_ne_nil _ _)
        (fun i hi => hms i (.tail _ hi)) fuel depth rest (by omega) hdepth
      have hvalue : parseValue fuel depth (skipWhitespace (printValue item ++
          44 :: (printMembers (next :: ms) ++ rest))) =
          some (item, 44 :: (printMembers (next :: ms) ++ rest)) := by
        rw [skipWhitespace_printValue]
        exact hitem fuel depth _ (by omega) hdepth (stops_cons (by decide) _)
      rw [printMembers_cons, append_assoc, cons_append, append_assoc, cons_append]
      rw [parseMembers_step (parseString_printString hkey _) hvalue (by decide)]
      rw [if_pos rfl, skipWhitespace_printMembers (cons_ne_nil _ _), hrest]
      rfl

theorem parseValue_other {fuel depth : Nat} {text : Text}
    (hnull : c ≠ 110) (hfalse : c ≠ 102) (htrue : c ≠ 116) :
    parseValue (fuel + 1) depth (c :: text) =
      if c = quote then (parseString (c :: text)).map fun r => (.string r.1, r.2)
      else if c = 45 ∨ isDigit c then parseNumber (c :: text)
      else if c = 91 then
        if nestingLimit ≤ depth then none
        else match stripPrefix [93] (skipWhitespace text) with
          | some rest => some (.array [], rest)
          | none =>
            (parseElements fuel (depth + 1) (skipWhitespace text)).map fun r => (.array r.1, r.2)
      else if c = 123 then
        if nestingLimit ≤ depth then none
        else match stripPrefix [125] (skipWhitespace text) with
          | some rest => some (.object [], rest)
          | none =>
            (parseMembers fuel (depth + 1) (skipWhitespace text)).map fun r => (.object r.1, r.2)
      else none := by
  have h₁ : stripPrefix (ascii "null") (c :: text) = none := stripPrefix_ne hnull.symm _ _
  have h₂ : stripPrefix (ascii "false") (c :: text) = none := stripPrefix_ne hfalse.symm _ _
  have h₃ : stripPrefix (ascii "true") (c :: text) = none := stripPrefix_ne htrue.symm _ _
  rw [parseValue.eq_def]
  dsimp only
  rewrite [h₁, h₂, h₃]
  rfl

theorem readsBack_of_call
    (h : ∀ fuel depth rest, 2 * (printValue item).length ≤ fuel + 1 → depth + n ≤ nestingLimit →
      Stops isNumberChar rest →
        parseValue (fuel + 1) depth (printValue item ++ rest) = some (item, rest)) :
    ReadsBack n item := by
  intro fuel depth rest hfuel hdepth hrest
  have hpos := length_printValue_pos item
  cases fuel with
  | zero => omega
  | succ fuel => exact h fuel depth rest hfuel hdepth hrest

theorem readsBack_word (n : Nat) (b : Bool) : ReadsBack n .null ∧ ReadsBack n (.bool b) := by
  refine ⟨readsBack_of_call fun fuel depth rest _ _ _ => ?_,
    readsBack_of_call fun fuel depth rest _ _ _ => ?_⟩
  · rw [parseValue.eq_def]
    dsimp only
    rw [show printValue .null = ascii "null" from rfl, stripPrefix_append]
  · rw [parseValue.eq_def]
    dsimp only
    cases b with
    | false =>
      have hnull : stripPrefix (ascii "null") (ascii "false" ++ rest) = none :=
        stripPrefix_ne (by decide) _ _
      rw [show printValue (.bool false) = ascii "false" from rfl, hnull, stripPrefix_append]
    | true =>
      have hnull : stripPrefix (ascii "null") (ascii "true" ++ rest) = none :=
        stripPrefix_ne (by decide) _ _
      have hfalse : stripPrefix (ascii "false") (ascii "true" ++ rest) = none :=
        stripPrefix_ne (by decide) _ _
      rw [show printValue (.bool true) = ascii "true" from rfl, hnull, hfalse, stripPrefix_append]

theorem readsBack_number {value : Int} (h : value.natAbs < 10 ^ 15) :
    ReadsBack n (.number value) := by
  refine readsBack_of_call fun fuel depth rest _ _ hrest => ?_
  have hread := parseNumber_printNumber h hrest
  have hfirst : ∃ c text, printNumber value = c :: text ∧ (c = 45 ∨ isDigit c = true) := by
    cases value with
    | ofNat k =>
      cases hk : decimal k with
      | nil => exact absurd hk (decimal_ne_nil k)
      | cons c text =>
        exact ⟨c, text, hk, .inr (isDigit_decimal (n := k) c (hk ▸ (.head _)))⟩
    | negSucc k => exact ⟨45, decimal (k + 1), rfl, .inl rfl⟩
  obtain ⟨c, text, hc, hkind⟩ := hfirst
  have hother : c ≠ 110 ∧ c ≠ 102 ∧ c ≠ 116 ∧ c ≠ quote := by
    rcases hkind with rfl | hdigit
    · decide
    · refine ⟨?_, ?_, ?_, ?_⟩ <;>
        · rintro rfl
          cases hdigit
  show parseValue (fuel + 1) depth (printNumber value ++ rest) = _
  rw [hc] at hread ⊢
  rw [cons_append] at hread ⊢
  rw [parseValue_other hother.1 hother.2.1 hother.2.2.1, if_neg hother.2.2.2, if_pos hkind, hread]

theorem readsBack_string {s : Text} (h : 0 ∉ s) : ReadsBack n (.string s) := by
  refine readsBack_of_call fun fuel depth rest _ _ _ => ?_
  have hread := parseString_printString h rest
  show parseValue (fuel + 1) depth (quote :: (s.flatMap printChar ++ [quote] ++ rest)) = _
  rw [parseValue_other (by decide) (by decide) (by decide), if_pos rfl]
  show (parseString (printString s ++ rest)).map _ = _
  rw [hread]
  rfl

theorem stripPrefix_close {close c : UInt8} (h : c ≠ close) (text : Text) :
    stripPrefix [close] (c :: text) = none := stripPrefix_ne h.symm [] text

theorem readsBack_array {items : List Item} (h : ∀ item ∈ items, ReadsBack n item) :
    ReadsBack (n + 1) (.array items) := by
  refine readsBack_of_call fun fuel depth rest hfuel hdepth _ => ?_
  show parseValue (fuel + 1) depth (91 :: (printElements items ++ rest)) = _
  rw [parseValue_other (by decide) (by decide) (by decide), if_neg (by decide),
    if_neg (by decide), if_pos rfl, if_neg (by omega)]
  cases items with
  | nil =>
    rw [show printElements [] ++ rest = 93 :: rest from rfl, skipWhitespace_cons (by decide),
      show stripPrefix [93] (93 :: rest) = some rest from stripPrefix_append [93] rest]
  | cons item items =>
    have hlength : 2 * (printElements (item :: items)).length ≤ fuel + 1 := by
      have hcons : (printValue (.array (item :: items))).length =
        (printElements (item :: items)).length + 1 := rfl
      omega
    have hread := parseElements_printed _ (cons_ne_nil item items) h fuel (depth + 1) rest
      hlength (by omega)
    obtain ⟨c, text, hopen, hc⟩ := printValue_opening item
    rw [skipWhitespace_printElements (cons_ne_nil _ _), hread]
    rw [show printElements (item :: items) ++ rest = c :: (text ++ _ ++ rest) from by
      rw [printElements, hopen, cons_append, cons_append],
      stripPrefix_close hc.visible.2.1]
    rfl

theorem readsBack_object {ms : List (Text × Item)}
    (h : ∀ m ∈ ms, 0 ∉ m.1 ∧ ReadsBack n m.2) : ReadsBack (n + 1) (.object ms) := by
  refine readsBack_of_call fun fuel depth rest hfuel hdepth _ => ?_
  show parseValue (fuel + 1) depth (123 :: (printMembers ms ++ rest)) = _
  rw [parseValue_other (by decide) (by decide) (by decide), if_neg (by decide),
    if_neg (by decide), if_neg (by decide), if_pos rfl, if_neg (by omega)]
  cases ms with
  | nil =>
    rw [show printMembers [] ++ rest = 125 :: rest from rfl, skipWhitespace_cons (by decide),
      show stripPrefix [125] (125 :: rest) = some rest from stripPrefix_append [125] rest]
  | cons m ms =>
    have hlength : 2 * (printMembers (m :: ms)).length ≤ fuel + 1 := by
      have hcons : (printValue (.object (m :: ms))).length =
        (printMembers (m :: ms)).length + 1 := rfl
      omega
    have hread := parseMembers_printed _ (cons_ne_nil m ms) h fuel (depth + 1) rest
      hlength (by omega)
    rw [skipWhitespace_printMembers (cons_ne_nil _ _), hread]
    rw [show printMembers (m :: ms) ++ rest = quote :: (m.1.flatMap printChar ++ _) from by
      rw [printMembers, printString, cons_append, cons_append, append_assoc, append_assoc],
      stripPrefix_close (by decide)]
    rfl

theorem readsBack (h : Printable n item) : ReadsBack n item :=
  printable_induction (fun n => (readsBack_word n true).1) (fun n b => (readsBack_word n b).2)
    (fun _ _ hvalue => readsBack_number hvalue) (fun _ _ hs => readsBack_string hs)
    (fun _ _ hitems => readsBack_array hitems) (fun _ _ hms => readsBack_object hms) h

def Visible (text : Text) : Prop := ∀ c ∈ text, 32 ≤ c

instance (text : Text) : Decidable (Visible text) := List.decidableBAll (32 ≤ ·) text

theorem Visible.append {a b : Text} (ha : Visible a) (hb : Visible b) : Visible (a ++ b) := by
  intro c hc
  rcases List.mem_append.mp hc with h | h
  · exact ha c h
  · exact hb c h

theorem Visible.cons {text : Text} (hc : 32 ≤ c) (h : Visible text) :
    Visible (c :: text) := by
  intro d hd
  rcases List.mem_cons.mp hd with rfl | hd
  · exact hc
  · exact h d hd

theorem visible_printChar (c : UInt8) : Visible (printChar c) := by
  have hcontrol : ∀ n < 32, (printChar (UInt8.ofNat n)).all (32 ≤ ·) = true := by decide
  by_cases h : Plain c
  · rw [printChar_plain h]
    intro d hd
    rw [List.mem_singleton.mp hd]
    exact UInt8.le_iff_toNat_le.mpr (UInt8.lt_iff_toNat_lt.mp h.1)
  · have hall : (printChar c).all (32 ≤ ·) = true := by
      rcases not_plain h with rfl | rfl | hlt
      · rfl
      · rfl
      · rw [← @UInt8.ofNat_toNat c]
        exact hcontrol c.toNat hlt
    intro d hd
    exact of_decide_eq_true (List.all_eq_true.mp hall d hd)

theorem visible_printString (s : Text) : Visible (printString s) := by
  refine Visible.cons (by decide) (Visible.append ?_ (Visible.cons (by decide) ?_))
  · intro c hc
    obtain ⟨d, -, hd⟩ := List.mem_flatMap.mp hc
    exact visible_printChar d c hd
  · intro c hc
    cases hc

theorem visible_printNumber (value : Int) : Visible (printNumber value) := by
  have hdecimal : ∀ n, Visible (decimal n) := by
    intro n c hc
    have hd := isDigit_decimal c hc
    rw [isDigit, Bool.and_eq_true, decide_eq_true_eq] at hd
    exact UInt8.le_trans (by decide) hd.1
  cases value with
  | ofNat n => exact hdecimal n
  | negSucc n => exact Visible.cons (by decide) (hdecimal (n + 1))

theorem visible_comma (last : Bool) : Visible (if last then [] else [44]) := by
  cases last <;> decide

theorem visible_printElements : ∀ (items : List Item), (∀ item ∈ items, Visible (printValue item)) →
    Visible (printElements items) := by
  intro items
  induction items with
  | nil => exact fun _ => by decide
  | cons item items ih =>
    intro h
    rw [printElements]
    exact (h item (.head _)).append ((visible_comma _).append (ih fun i hi => h i (.tail _ hi)))

theorem visible_printMembers : ∀ (ms : List (Text × Item)),
    (∀ m ∈ ms, Visible (printValue m.2)) → Visible (printMembers ms) := by
  intro ms
  induction ms with
  | nil => exact fun _ => by decide
  | cons m ms ih =>
    intro h
    rw [printMembers]
    exact (visible_printString m.1).append (Visible.cons (by decide)
      ((h m (.head _)).append ((visible_comma _).append (ih fun i hi => h i (.tail _ hi)))))

theorem visible_printValue (h : Printable n item) :
    Visible (printValue item) := by
  refine printable_induction (P := fun _ item => Visible (printValue item)) ?_ ?_ ?_ ?_ ?_ ?_ h
  · exact fun _ => by decide
  · exact fun _ b => by cases b <;> decide
  · exact fun _ value _ => visible_printNumber value
  · exact fun _ s _ => visible_printString s
  · exact fun _ items hitems => Visible.cons (by decide) (visible_printElements items hitems)
  · exact fun _ ms hms =>
      Visible.cons (by decide) (visible_printMembers ms fun m hm => (hms m hm).2)

/-- **`cJSON_Parse` reads back what `cJSON_PrintBuffered` printed.** -/
theorem parse_printValue (h : Printable nestingLimit item) :
    parse (printValue item) = some item := by
  have hvisible := visible_printValue h
  have hnull : (printValue item).takeWhile (· != 0) = printValue item := by
    refine List.takeWhile_eq_self_iff.mpr fun c hc => bne_iff_ne.mpr fun hzero => ?_
    have h32 := hvisible c hc
    rw [hzero] at h32
    cases h32
  have hbom : skipUtf8Bom (printValue item) = printValue item := by
    obtain ⟨c, text, hopen, hc⟩ := printValue_opening item
    have hne : (0xEF : UInt8) ≠ c := by
      rintro rfl
      exact absurd hc (by unfold Opening; decide)
    unfold skipUtf8Bom
    rw [hopen, stripPrefix_ne hne]
  have hskip := skipWhitespace_printValue item []
  have hread := readsBack h (2 * (printValue item).length + 2) 0 [] (by omega) (by omega)
    fun c hc => by cases hc
  rw [append_nil] at hskip hread
  unfold parse
  rw [hnull]
  dsimp only
  rw [hbom, hskip, hread]
  rfl

end Keystone3.Json
