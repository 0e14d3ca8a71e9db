import Keystone3.Ethereum.JsonValue
import Keystone3.Logic.BTreeMap

/-!
# Reading JSON

`serde_json::from_str`, as far as a value. A text in quotes is read up to the
next quote, so a text that has one in it ends early (`scanString_plain`). An
object that is written member by member is read so
(`fromStr_objectText`).
-/

namespace Keystone3.Serde

open Bytes (intText)
open Ethereum (FloatText Number Text Value)
open Logic (BTreeMap)

def isBlank (c : Char) : Bool := c = ' ' || c = '\n' || c = '\t' || c = '\r'

def skipBlanks (text : Text) : Text := text.dropWhile isBlank

def expectChar (c : Char) (text : Text) : Option Text :=
  match skipBlanks text with
  | d :: rest => if d = c then some rest else none
  | [] => none

def hex4 : Text → Option (Nat × Text)
  | a :: b :: c :: d :: rest => do
    let a ← Bytes.hexValue a
    let b ← Bytes.hexValue b
    let c ← Bytes.hexValue c
    let d ← Bytes.hexValue d
    pure (4096 * a + 256 * b + 16 * c + d, rest)
  | _ => none

def escapedChar : Char → Option Char
  | '"' => some '"'
  | '\\' => some '\\'
  | '/' => some '/'
  | 'b' => some '\x08'
  | 'f' => some '\x0c'
  | 'n' => some '\n'
  | 'r' => some '\r'
  | 't' => some '\t'
  | _ => none

def escapedNumber (text : Text) : Option (Char × Text) := do
  let (high, rest) ← hex4 text
  if 0xd800 ≤ high ∧ high < 0xdc00 then
    match rest with
    | '\\' :: 'u' :: rest => do
      let (low, rest) ← hex4 rest
      if 0xdc00 ≤ low ∧ low < 0xe000 then
        pure (Char.ofNat (0x10000 + (high - 0xd800) * 0x400 + (low - 0xdc00)), rest)
      else none
    | _ => none
  else if 0xdc00 ≤ high ∧ high < 0xe000 then none
  else pure (Char.ofNat high, rest)

def scanString : Nat → Text → Option (Text × Text)
  | 0, _ => none
  | _ + 1, [] => none
  | fuel + 1, c :: rest =>
    if c = '"' then some ([], rest)
    else if c = '\\' then
      match rest with
      | 'u' :: rest => do
        let (c, rest) ← escapedNumber rest
        let (s, rest) ← scanString fuel rest
        pure (c :: s, rest)
      | letter :: rest => do
        let c ← escapedChar letter
        let (s, rest) ← scanString fuel rest
        pure (c :: s, rest)
      | [] => none
    else if c.toNat < 32 then none
    else do
      let (s, rest) ← scanString fuel rest
      pure (c :: s, rest)

def scanDigits (text : Text) : Option (Text × Text) :=
  match text.takeWhile Char.isDigit with
  | [] => none
  | digits => some (digits, text.dropWhile Char.isDigit)

def scanInteger : Text → Option (Text × Text)
  | '0' :: rest => if (rest.head?.any Char.isDigit) = true then none else some (['0'], rest)
  | text => scanDigits text

def scanFraction : Text → Option (Text × Text)
  | '.' :: rest => do
    let (digits, rest) ← scanDigits rest
    pure ('.' :: digits, rest)
  | text => some ([], text)

def scanExponent : Text → Option (Text × Text)
  | e :: rest =>
    if e = 'e' ∨ e = 'E' then
      match rest with
      | '+' :: rest => do
        let (digits, rest) ← scanDigits rest
        pure ('e' :: '+' :: digits, rest)
      | '-' :: rest => do
        let (digits, rest) ← scanDigits rest
        pure ('e' :: '-' :: digits, rest)
      | rest => do
        let (digits, rest) ← scanDigits rest
        pure ('e' :: digits, rest)
    else some ([], e :: rest)
  | [] => some ([], [])

def integerOf (readFloat : Text → Option FloatText) (isNegative : Bool) (digits : Text) :
    Option Number :=
  let n := Nat.ofDigitChars 10 digits 0
  if isNegative = true then
    if h : 0 < n ∧ n ≤ 2 ^ 63 then some (.negative ⟨n - 1, by omega⟩)
    else (readFloat ('-' :: digits)).map .float
  else if n < 2 ^ 64 then some (.unsigned (UInt64.ofNat n))
  else (readFloat digits).map .float

def parseNumber (readFloat : Text → Option FloatText) (isNegative : Bool) (text : Text) :
    Option (Value × Text) := do
  let (integer, rest) ← scanInteger text
  let (fraction, rest) ← scanFraction rest
  let (exponent, rest) ← scanExponent rest
  let number ←
    if fraction = [] ∧ exponent = [] then integerOf readFloat isNegative integer
    else
      (readFloat ((if isNegative then ['-'] else []) ++ integer ++ fraction ++ exponent)).map .float
  pure (.number number, rest)

def stripWord (word text : Text) : Option Text :=
  if word.isPrefixOf text then some (text.drop word.length) else none

def objectOf (members : List (Text × Value)) : Value := .object (BTreeMap.ofList members).entries

variable (readFloat : Text → Option FloatText)

mutual

def parseValue : Nat → Nat → Text → Option (Value × Text)
  | 0, _, _ => none
  | fuel + 1, depth, text =>
    match skipBlanks text with
    | [] => none
    | c :: rest =>
      if c = '"' then (scanString (rest.length + 1) rest).map fun r => (.string r.1, r.2)
      else if c = '{' then
        if depth ≤ 1 then none
        else match expectChar '}' rest with
          | some rest => some (.object [], rest)
          | none => (parseMembers fuel (depth - 1) rest).map fun r => (objectOf r.1, r.2)
      else if c = '[' then
        if depth ≤ 1 then none
        else match expectChar ']' rest with
          | some rest => some (.array [], rest)
          | none => (parseElements fuel (depth - 1) rest).map fun r => (.array r.1, r.2)
      else if c = '-' then parseNumber readFloat true rest
      else if c.isDigit = true then parseNumber readFloat false (c :: rest)
      else match stripWord "null".toList (c :: rest), stripWord "true".toList (c :: rest),
          stripWord "false".toList (c :: rest) with
        | some rest, _, _ => some (.null, rest)
        | _, some rest, _ => some (.bool true, rest)
        | _, _, some rest => some (.bool false, rest)
        | _, _, _ => none

def parseElements : Nat → Nat → Text → Option (List Value × Text)
  | 0, _, _ => none
  | fuel + 1, depth, text => do
    let (v, rest) ← parseValue fuel depth text
    match skipBlanks rest with
    | ',' :: rest => do
      let (vs, rest) ← parseElements fuel depth rest
      pure (v :: vs, rest)
    | ']' :: rest => pure ([v], rest)
    | _ => none

def parseMembers : Nat → Nat → Text → Option (List (Text × Value) × Text)
  | 0, _, _ => none
  | fuel + 1, depth, text => do
    let rest ← expectChar '"' text
    let (key, rest) ← scanString (rest.length + 1) rest
    let rest ← expectChar ':' rest
    let (v, rest) ← parseValue fuel depth rest
    match skipBlanks rest with
    | ',' :: rest => do
      let (ms, rest) ← parseMembers fuel depth rest
      pure ((key, v) :: ms, rest)
    | '}' :: rest => pure ([(key, v)], rest)
    | _ => none

end

def fromStr (text : Text) : Option Value := do
  let (v, rest) ← parseValue readFloat (text.length + 1) 128 text
  if skipBlanks rest = [] then some v else none

def IsPlain (c : Char) : Prop := c ≠ '"' ∧ c ≠ '\\' ∧ 32 ≤ c.toNat

theorem scanString_plain {s : Text} (h : ∀ c ∈ s, IsPlain c) {fuel : Nat}
    (hfuel : s.length < fuel) (rest : Text) : scanString fuel (s ++ '"' :: rest) = some (s, rest) := by
  induction s generalizing fuel with
  | nil =>
    obtain ⟨fuel, rfl⟩ := Nat.exists_eq_add_one_of_ne_zero (Nat.ne_of_gt hfuel)
    rw [List.nil_append, scanString.eq_def]
    dsimp only
    rw [if_pos rfl]
  | cons c s ih =>
    obtain ⟨fuel, rfl⟩ := Nat.exists_eq_add_one_of_ne_zero (by omega : fuel ≠ 0)
    obtain ⟨hquote, hslash, hcontrol⟩ := h c List.mem_cons_self
    have htail : scanString fuel (s ++ '"' :: rest) = some (s, rest) :=
      ih (fun d hd => h d (List.mem_cons_of_mem c hd)) (by rw [List.length_cons] at hfuel; omega)
    rw [List.cons_append, scanString.eq_def]
    dsimp only
    rw [if_neg hquote, if_neg hslash, if_neg (by omega), htail]
    rfl

theorem skipBlanks_append {blanks : Text} (h : ∀ c ∈ blanks, isBlank c = true) (c : Char)
    (hc : isBlank c = false) (rest : Text) : skipBlanks (blanks ++ c :: rest) = c :: rest := by
  induction blanks with
  | nil =>
    rw [List.nil_append, skipBlanks, List.dropWhile_cons_of_neg (by rw [hc]; exact Bool.false_ne_true)]
  | cons b blanks ih =>
    rw [List.cons_append, skipBlanks, List.dropWhile_cons_of_pos (h b (.head _))]
    exact ih fun d hd => h d (List.mem_cons_of_mem b hd)

theorem expectChar_append {blanks : Text} (h : ∀ c ∈ blanks, isBlank c = true) {c : Char}
    (hc : isBlank c = false) (rest : Text) : expectChar c (blanks ++ c :: rest) = some rest := by
  rw [expectChar, skipBlanks_append h c hc]
  dsimp only
  rw [if_pos rfl]

theorem head_toDigits {n : Nat} (h : 0 < n) :
    ∃ d, 0 < d ∧ d < 10 ∧ (Nat.toDigits 10 n).head? = some (Nat.digitChar d) := by
  induction n using Nat.strongRecOn with
  | ind n ih =>
    by_cases hsmall : n < 10
    · exact ⟨n, h, hsmall, by rw [Nat.toDigits_of_lt_base hsmall]; rfl⟩
    · obtain ⟨d, hd, hten, hhead⟩ := ih (n / 10) (by omega) (by omega)
      refine ⟨d, hd, hten, ?_⟩
      rw [Nat.toDigits_of_base_le (by omega) (by omega), List.head?_append, hhead]
      rfl

theorem digitChar_ne_zero : ∀ d < 10, 0 < d → Nat.digitChar d ≠ '0' := by
  decide

def Ends (rest : Text) : Prop := ∀ c ∈ rest.head?, c.isDigit = false ∧ c ≠ '.' ∧ c ≠ 'e' ∧ c ≠ 'E'

theorem takeWhile_digits {digits rest : Text} (h : ∀ c ∈ digits, c.isDigit = true)
    (hrest : Ends rest) : (digits ++ rest).takeWhile Char.isDigit = digits
      ∧ (digits ++ rest).dropWhile Char.isDigit = rest := by
  have hstop : rest.takeWhile Char.isDigit = [] ∧ rest.dropWhile Char.isDigit = rest := by
    cases rest with
    | nil => exact ⟨rfl, rfl⟩
    | cons c rest =>
      have hc := (hrest c rfl).1
      exact ⟨List.takeWhile_cons_of_neg (by rw [hc]; exact Bool.false_ne_true),
        List.dropWhile_cons_of_neg (by rw [hc]; exact Bool.false_ne_true)⟩
  rw [List.takeWhile_append_of_pos h, List.dropWhile_append_of_pos h, hstop.1, hstop.2,
    List.append_nil]
  exact ⟨rfl, rfl⟩

theorem scanInteger_toDigits (n : Nat) {rest : Text} (hrest : Ends rest) :
    scanInteger (Nat.toDigits 10 n ++ rest) = some (Nat.toDigits 10 n, rest) := by
  by_cases hzero : n = 0
  · subst hzero
    rw [Nat.toDigits_zero]
    show (if (rest.head?.any Char.isDigit) = true then none else some (['0'], rest)) = _
    cases rest with
    | nil => rfl
    | cons c rest =>
      have hdigit : ¬((c :: rest).head?.any Char.isDigit) = true := by
        show ¬c.isDigit = true
        rw [(hrest c rfl).1]
        exact Bool.false_ne_true
      rw [if_neg hdigit]
  · obtain ⟨d, hd, hten, hhead⟩ := head_toDigits (Nat.pos_of_ne_zero hzero)
    obtain ⟨htake, hdrop⟩ := takeWhile_digits (@Bytes.isDigit_toDigits n) hrest
    have hscan : scanInteger (Nat.toDigits 10 n ++ rest) = scanDigits (Nat.toDigits 10 n ++ rest) := by
      unfold scanInteger
      split
      · rename_i rest' heq
        have hfirst := congrArg List.head? heq
        rw [List.head?_append, hhead] at hfirst
        exact absurd (Option.some.inj hfirst) (digitChar_ne_zero d hten hd)
      · rfl
    rw [hscan, scanDigits, htake, hdrop]
    cases hdigits : Nat.toDigits 10 n with
    | nil => exact absurd hdigits Nat.toDigits_ne_nil
    | cons c digits => rfl

theorem scanFraction_ends {rest : Text} (hrest : Ends rest) : scanFraction rest = some ([], rest) := by
  unfold scanFraction
  split
  · exact absurd rfl (hrest '.' rfl).2.1
  · rfl

theorem scanExponent_ends {rest : Text} (hrest : Ends rest) : scanExponent rest = some ([], rest) := by
  cases rest with
  | nil => rfl
  | cons c rest =>
    obtain ⟨-, -, he, hE⟩ := hrest c rfl
    have hnone : ¬(c = 'e' ∨ c = 'E') := fun h => h.elim he hE
    rw [scanExponent.eq_def]
    dsimp only
    rw [if_neg hnone]

def numberOf : (n : Int) → Number
  | .ofNat n => .unsigned (UInt64.ofNat n)
  | .negSucc n => .negative (Fin.ofNat _ n)

variable {readFloat}

theorem parseNumber_toDigits (n : Nat) (isNegative : Bool) {number : Number}
    (h : integerOf readFloat isNegative (Nat.toDigits 10 n) = some number) {rest : Text}
    (hrest : Ends rest) :
    parseNumber readFloat isNegative (Nat.toDigits 10 n ++ rest) = some (.number number, rest) := by
  unfold parseNumber
  rw [scanInteger_toDigits n hrest]
  show (scanFraction rest >>= _) = _
  rw [scanFraction_ends hrest]
  show (scanExponent rest >>= _) = _
  rw [scanExponent_ends hrest]
  show (integerOf readFloat isNegative (Nat.toDigits 10 n) >>= _) = _
  rw [h]
  rfl

theorem integerOf_unsigned {n : Nat} (h : n < 2 ^ 64) :
    integerOf readFloat false (Nat.toDigits 10 n) = some (numberOf n) := by
  unfold integerOf
  simp only [Nat.ofDigitChars_ten_toDigits]
  rw [if_neg Bool.false_ne_true, if_pos h]
  rfl

theorem integerOf_negative {n : Nat} (h : n < 2 ^ 63) :
    integerOf readFloat true (Nat.toDigits 10 (n + 1)) = some (numberOf (.negSucc n)) := by
  have hfits : 0 < n + 1 ∧ n + 1 ≤ 2 ^ 63 := by omega
  unfold integerOf
  simp only [Nat.ofDigitChars_ten_toDigits]
  rw [if_pos trivial, dif_pos hfits]
  refine congrArg (fun k => some (Number.negative k)) (Fin.ext ?_)
  show n + 1 - 1 = n % 2 ^ 63
  omega

inductive Scalar where
  | string (s : Text)
  | int (n : Int)

def Scalar.text : Scalar → Text
  | string s => '"' :: (s ++ ['"'])
  | int n => intText n

def Scalar.value : Scalar → Value
  | string s => .string s
  | int n => .number (numberOf n)

/-- A text without quotes, or an integer that has 64 bits. -/
def Scalar.IsPlain : Scalar → Prop
  | string s => ∀ c ∈ s, Serde.IsPlain c
  | int n => -2 ^ 63 ≤ n ∧ n < 2 ^ 64

/-- A member, with the blanks in front of it and behind its colon. -/
structure Member where
  before : Text
  key : Text
  between : Text
  scalar : Scalar

def Member.text (m : Member) : Text :=
  m.before ++ '"' :: (m.key ++ '"' :: ':' :: (m.between ++ m.scalar.text))

structure Member.IsPlain (m : Member) : Prop where
  before : ∀ c ∈ m.before, isBlank c = true
  key : ∀ c ∈ m.key, Serde.IsPlain c
  between : ∀ c ∈ m.between, isBlank c = true
  scalar : m.scalar.IsPlain

def membersText : List Member → Text
  | [] => []
  | [m] => m.text
  | m :: ms => m.text ++ ',' :: membersText ms

theorem membersText_cons_cons (m m' : Member) (ms : List Member) :
    membersText (m :: m' :: ms) = m.text ++ ',' :: membersText (m' :: ms) := rfl

def Member.entry (m : Member) : Text × Value := (m.key, m.scalar.value)

theorem isBlank_of_isDigit {c : Char} (h : c.isDigit = true) : isBlank c = false := by
  unfold isBlank
  have hne : ∀ d : Char, d.isDigit = false → c ≠ d := by
    rintro d hd rfl
    rw [hd] at h
    cases h
  simp [hne ' ' (by decide), hne '\n' (by decide), hne '\t' (by decide), hne '\r' (by decide)]

theorem parseValue_string {blanks s : Text} (hblanks : ∀ c ∈ blanks, isBlank c = true)
    (hs : ∀ c ∈ s, IsPlain c) (fuel depth : Nat) (rest : Text) :
    parseValue readFloat (fuel + 1) depth (blanks ++ '"' :: (s ++ '"' :: rest))
      = some (.string s, rest) := by
  rw [parseValue.eq_def]
  dsimp only
  rw [skipBlanks_append hblanks '"' (by decide)]
  dsimp only
  rw [if_pos rfl, scanString_plain hs (by rw [List.length_append]; omega)]
  rfl

theorem parseValue_digit {blanks text : Text} (hblanks : ∀ c ∈ blanks, isBlank c = true)
    (c : Char) (hc : c.isDigit = true) (fuel depth : Nat) :
    parseValue readFloat (fuel + 1) depth (blanks ++ c :: text)
      = parseNumber readFloat false (c :: text) := by
  have hne : ∀ d : Char, d.isDigit = false → c ≠ d := by
    rintro d hd rfl
    rw [hd] at hc
    cases hc
  rw [parseValue.eq_def]
  dsimp only
  rw [skipBlanks_append hblanks c (isBlank_of_isDigit hc)]
  dsimp only
  rw [if_neg (hne _ (by decide)), if_neg (hne _ (by decide)), if_neg (hne _ (by decide)),
    if_neg (hne _ (by decide)), if_pos hc]

theorem parseValue_minus {blanks text : Text} (hblanks : ∀ c ∈ blanks, isBlank c = true)
    (fuel depth : Nat) : parseValue readFloat (fuel + 1) depth (blanks ++ '-' :: text)
      = parseNumber readFloat true text := by
  rw [parseValue.eq_def]
  dsimp only
  rw [skipBlanks_append hblanks '-' (by decide)]
  rfl

theorem parseValue_int {blanks : Text} (hblanks : ∀ c ∈ blanks, isBlank c = true) {n : Int}
    (hn : -2 ^ 63 ≤ n ∧ n < 2 ^ 64) (fuel depth : Nat) {rest : Text} (hrest : Ends rest) :
    parseValue readFloat (fuel + 1) depth (blanks ++ (intText n ++ rest))
      = some (.number (numberOf n), rest) := by
  cases n with
  | ofNat n =>
    have hfits : n < 2 ^ 64 := by
      have hlt := hn.2
      rw [Int.ofNat_eq_natCast] at hlt
      omega
    obtain ⟨c, digits, hdigits⟩ : ∃ c digits, Nat.toDigits 10 n = c :: digits :=
      List.exists_cons_of_ne_nil Nat.toDigits_ne_nil
    have hc : c.isDigit = true :=
      Bytes.isDigit_toDigits c (by rw [hdigits]; exact List.mem_cons_self)
    have hread := parseNumber_toDigits n false (@integerOf_unsigned readFloat n hfits) hrest
    rw [intText, hdigits, List.cons_append, parseValue_digit hblanks c hc, ← List.cons_append,
      ← hdigits]
    exact hread
  | negSucc n =>
    have hfits : n < 2 ^ 63 := by omega
    rw [intText, List.cons_append, parseValue_minus hblanks]
    exact parseNumber_toDigits (n + 1) true (integerOf_negative hfits) hrest

theorem parseValue_scalar {blanks : Text} (hblanks : ∀ c ∈ blanks, isBlank c = true)
    {scalar : Scalar} (hscalar : scalar.IsPlain) (fuel depth : Nat) {rest : Text}
    (hrest : Ends rest) : parseValue readFloat (fuel + 1) depth (blanks ++ (scalar.text ++ rest))
      = some (scalar.value, rest) := by
  cases scalar with
  | string s =>
    rw [Scalar.text, List.cons_append, List.append_assoc]
    exact parseValue_string hblanks hscalar fuel depth rest
  | int n => exact parseValue_int hblanks hscalar fuel depth hrest

theorem parseMembers_member {m : Member} (hm : m.IsPlain) (fuel depth : Nat) {rest : Text}
    (hrest : Ends rest) : parseMembers readFloat (fuel + 2) depth (m.text ++ rest)
      = match skipBlanks rest with
        | ',' :: rest => do
          let (ms, rest) ← parseMembers readFloat (fuel + 1) depth rest
          pure (m.entry :: ms, rest)
        | '}' :: rest => pure ([m.entry], rest)
        | _ => none := by
  have htext : m.text ++ rest = m.before ++ '"' :: (m.key ++ '"' :: ':'
      :: (m.between ++ (m.scalar.text ++ rest))) := by
    simp [Member.text]
  have hquote := expectChar_append hm.before (by decide : isBlank '"' = false)
    (m.key ++ '"' :: ':' :: (m.between ++ (m.scalar.text ++ rest)))
  have hcolon : expectChar ':' (':' :: (m.between ++ (m.scalar.text ++ rest)))
      = some (m.between ++ (m.scalar.text ++ rest)) :=
    @expectChar_append [] (fun _ h => absurd h List.not_mem_nil) ':' (by decide) _
  have hkey : ∀ after : Text, scanString ((m.key ++ '"' :: after).length + 1) (m.key ++ '"' :: after)
      = some (m.key, after) :=
    fun after => scanString_plain hm.key (by rw [List.length_append]; omega) after
  have hvalue := @parseValue_scalar readFloat _ hm.between _ hm.scalar fuel depth _ hrest
  rw [htext, parseMembers.eq_def]
  simp only [hquote, hkey, hcolon, hvalue, Option.bind_eq_bind, Option.bind_some]
  rfl

theorem parseMembers_text {ms : List Member} (hms : ∀ m ∈ ms, m.IsPlain) (hne : ms ≠ [])
    {after : Text} (hafter : ∀ c ∈ after, isBlank c = true) {fuel : Nat}
    (hfuel : ms.length < fuel) (depth : Nat) (rest : Text) :
    parseMembers readFloat fuel depth (membersText ms ++ (after ++ '}' :: rest))
      = some (ms.map Member.entry, rest) := by
  have hend : Ends (after ++ '}' :: rest) := by
    intro c hc
    have hblank : isBlank c = true ∨ c = '}' := by
      cases after with
      | nil => exact .inr (Option.some.inj hc).symm
      | cons d after =>
        obtain rfl := Option.some.inj hc
        exact .inl (hafter d List.mem_cons_self)
    rcases hblank with hblank | rfl
    · refine ⟨?_, ?_, ?_, ?_⟩
      · exact Bool.eq_false_iff.mpr fun hdigit => by
          rw [isBlank_of_isDigit hdigit] at hblank
          cases hblank
      · rintro rfl
        exact absurd hblank (by decide)
      · rintro rfl
        exact absurd hblank (by decide)
      · rintro rfl
        exact absurd hblank (by decide)
    · decide
  induction ms generalizing fuel with
  | nil => exact absurd rfl hne
  | cons m ms ih =>
    have hm := hms m List.mem_cons_self
    obtain ⟨fuel, rfl⟩ : ∃ k, fuel = k + 2 := ⟨fuel - 2, by rw [List.length_cons] at hfuel; omega⟩
    cases ms with
    | nil =>
      rw [membersText, parseMembers_member hm fuel depth hend,
        skipBlanks_append hafter '}' (by decide)]
      rfl
    | cons m' ms =>
      have hcomma : Ends (',' :: (membersText (m' :: ms) ++ (after ++ '}' :: rest))) := by
        intro c hc
        cases hc
        decide
      have hrest := ih (fun m'' h => hms m'' (List.mem_cons_of_mem m h)) (List.cons_ne_nil m' ms)
        (by rw [List.length_cons] at hfuel; omega : (m' :: ms).length < fuel + 1)
      rw [membersText_cons_cons, List.append_assoc, List.cons_append,
        parseMembers_member hm fuel depth hcomma]
      show (parseMembers readFloat (fuel + 1) depth _ >>= _) = _
      rw [hrest]
      rfl

def objectText (ms : List Member) (after : Text) : Text :=
  '{' :: (membersText ms ++ (after ++ ['}']))

theorem length_le_membersText (ms : List Member) : ms.length ≤ (membersText ms).length := by
  have hpos : ∀ m : Member, 0 < m.text.length := by
    intro m
    rw [Member.text, List.length_append, List.length_cons]
    omega
  induction ms with
  | nil => exact Nat.le_refl 0
  | cons m ms ih =>
    have hm := hpos m
    cases ms with
    | nil => exact hm
    | cons m' ms =>
      rw [membersText_cons_cons, List.length_append, List.length_cons, List.length_cons,
        List.length_cons]
      rw [List.length_cons] at ih
      omega

theorem fromStr_objectText {ms : List Member} (hms : ∀ m ∈ ms, m.IsPlain) (hne : ms ≠ [])
    {after : Text} (hafter : ∀ c ∈ after, isBlank c = true) :
    fromStr readFloat (objectText ms after) = some (objectOf (ms.map Member.entry)) := by
  have hopen : expectChar '}' (membersText ms ++ (after ++ ['}'])) = none := by
    obtain ⟨m, ms', rfl⟩ := List.exists_cons_of_ne_nil hne
    obtain ⟨rest, hrest⟩ : ∃ rest, membersText (m :: ms') = m.before ++ '"' :: rest := by
      cases ms' with
      | nil => exact ⟨_, rfl⟩
      | cons m' ms' =>
        rw [membersText_cons_cons, Member.text, List.append_assoc, List.cons_append]
        exact ⟨_, rfl⟩
    rw [hrest, List.append_assoc, List.cons_append, expectChar,
      skipBlanks_append (hms m (.head _)).before '"' (by decide)]
    rfl
  have hlength : ms.length < (objectText ms after).length := by
    have hle := length_le_membersText ms
    unfold objectText
    rw [List.length_cons, List.length_append]
    omega
  have hread := @parseMembers_text readFloat _ hms hne _ hafter _ hlength 127 []
  have hbrace : skipBlanks (objectText ms after) = objectText ms after := rfl
  have hvalue : parseValue readFloat ((objectText ms after).length + 1) 128 (objectText ms after)
      = some (objectOf (ms.map Member.entry), []) := by
    rw [parseValue.eq_def]
    dsimp only
    rw [hbrace]
    show (match expectChar '}' (membersText ms ++ (after ++ ['}'])) with
      | some rest => some (Value.object [], rest)
      | none => (parseMembers readFloat (objectText ms after).length 127
          (membersText ms ++ (after ++ ['}']))).map
            fun (r : List (Text × Value) × Text) => (objectOf r.1, r.2)) = _
    rw [hopen]
    dsimp only
    rw [hread]
    rfl
  rw [fromStr, hvalue]
  rfl

end Keystone3.Serde
