import Keystone3.Json.Serde

/-!
# Writing JSON on several lines

`serde_json::to_string_pretty`. What is written has no character zero in it
(`zero_notMem_toStringPretty`), and no two trees are written alike
(`toStringPretty_injective`): a text in quotes is read back up to its closing quote, a
number ends where the digits end, and lists are read element by element.
-/

namespace Keystone3.Serde

open Ethereum (Text)
open List (append_assoc append_cancel_left cons_append)

/-- What is written: the members of an object stay in their order. -/
inductive Tree where
  | bool (b : Bool)
  | number (n : Nat)
  | string (s : Text)
  | array (ts : List Tree)
  | object (ms : List (Text × Tree))

def escapeChar (c : Char) : Text :=
  if c = '"' then ['\\', '"']
  else if c = '\\' then ['\\', '\\']
  else if c = '\x08' then ['\\', 'b']
  else if c = '\x0c' then ['\\', 'f']
  else if c = '\n' then ['\\', 'n']
  else if c = '\r' then ['\\', 'r']
  else if c = '\t' then ['\\', 't']
  else if c.toNat < 32 then
    ['\\', 'u', '0', '0', Nat.digitChar (c.toNat / 16), Nat.digitChar (c.toNat % 16)]
  else [c]

def quoted (s : Text) : Text := '"' :: (s.flatMap escapeChar ++ ['"'])

theorem escapeChar_plain {c : Char} (h : IsPlain c) : escapeChar c = [c] := by
  obtain ⟨hquote, hslash, hcontrol⟩ := h
  have hne : ∀ d : Char, d.toNat < 32 → c ≠ d := by
    rintro d hd rfl
    omega
  unfold escapeChar
  rw [if_neg hquote, if_neg hslash, if_neg (hne _ (by decide)), if_neg (hne _ (by decide)),
    if_neg (hne _ (by decide)), if_neg (hne _ (by decide)), if_neg (hne _ (by decide)),
    if_neg (by omega)]

theorem escapedNumber_digits {n : Nat} (h : n < 32) (text : Text) :
    escapedNumber ('0' :: '0' :: Nat.digitChar (n / 16) :: Nat.digitChar (n % 16) :: text)
      = some (Char.ofNat n, text) := by
  have hhex : hex4 ('0' :: '0' :: Nat.digitChar (n / 16) :: Nat.digitChar (n % 16) :: text)
      = some (n, text) := by
    have hvalue : 4096 * 0 + 256 * 0 + 16 * (n / 16) + n % 16 = n := by omega
    rw [hex4, Bytes.hexValue_digitChar _ (by omega), Bytes.hexValue_digitChar _ (by omega)]
    show some (4096 * 0 + 256 * 0 + 16 * (n / 16) + n % 16, text) = _
    rw [hvalue]
  rw [escapedNumber, hhex]
  show (if 0xd800 ≤ n ∧ n < 0xdc00 then _ else _) = _
  rw [if_neg (by omega), if_neg (by omega)]
  rfl

theorem scanString_escapeChar (c : Char) (fuel : Nat) (text : Text) :
    scanString (fuel + 1) (escapeChar c ++ text)
      = (scanString fuel text >>= fun r => pure (c :: r.1, r.2)) := by
  by_cases hplain : IsPlain c
  · rw [escapeChar_plain hplain, cons_append, List.nil_append, scanString.eq_def]
    dsimp only
    rw [if_neg hplain.1, if_neg hplain.2.1, if_neg (Nat.not_lt.mpr hplain.2.2)]
  · -- seven characters have a letter, and the other control characters a number
    unfold escapeChar
    split_ifs with hquote hslash h h h h h hcontrol
    · rw [hquote]
      rfl
    · rw [hslash]
      rfl
    · rw [h]
      rfl
    · rw [h]
      rfl
    · rw [h]
      rfl
    · rw [h]
      rfl
    · rw [h]
      rfl
    · show (escapedNumber ('0' :: '0' :: _ :: _ :: text) >>= _) = _
      rw [escapedNumber_digits hcontrol, Char.ofNat_toNat]
      rfl
    · exact absurd ⟨hquote, hslash, Nat.not_lt.mp hcontrol⟩ hplain

theorem scanString_flatMap (s : Text) {fuel : Nat} (hfuel : s.length < fuel) (rest : Text) :
    scanString fuel (s.flatMap escapeChar ++ '"' :: rest) = some (s, rest) := by
  induction s generalizing fuel with
  | nil =>
    obtain ⟨fuel, rfl⟩ := Nat.exists_eq_add_one_of_ne_zero (Nat.ne_of_gt hfuel)
    rfl
  | cons c s ih =>
    rw [List.length_cons] at hfuel
    obtain ⟨fuel, rfl⟩ := Nat.exists_eq_add_one_of_ne_zero (by omega : fuel ≠ 0)
    rw [List.flatMap_cons, append_assoc, scanString_escapeChar, ih (by omega)]
    rfl

theorem eq_of_quoted {s s' rest rest' : Text} (h : quoted s ++ rest = quoted s' ++ rest') :
    s = s' ∧ rest = rest' := by
  have hbody : s.flatMap escapeChar ++ '"' :: rest = s'.flatMap escapeChar ++ '"' :: rest' := by
    simpa [quoted] using h
  -- one scan reads both texts, with fuel for the longer of them
  have hread := scanString_flatMap s (Nat.lt_succ_of_le (Nat.le_max_left s.length s'.length)) rest
  rw [hbody, scanString_flatMap s' (Nat.lt_succ_of_le (Nat.le_max_right s.length s'.length))] at hread
  obtain ⟨hs, hrest⟩ := Prod.mk.inj (Option.some.inj hread)
  exact ⟨hs.symm, hrest.symm⟩

def newline (depth : Nat) : Text := '\n' :: List.replicate (2 * depth) ' '

mutual

/-- A tree inside `depth` arrays and objects. -/
def prettyTree (depth : Nat) : Tree → Text
  | .bool true => ['t', 'r', 'u', 'e']
  | .bool false => ['f', 'a', 'l', 's', 'e']
  | .number n => Nat.toDigits 10 n
  | .string s => quoted s
  | .array [] => ['[', ']']
  | .array (t :: ts) => '[' :: (newline (depth + 1) ++ (prettyTree (depth + 1) t
      ++ (prettyElements (depth + 1) ts ++ (newline depth ++ [']']))))
  | .object [] => ['\x7b', '\x7d']
  | .object ((key, t) :: ms) => '\x7b' :: (newline (depth + 1) ++ (quoted key ++ (':' :: ' '
      :: (prettyTree (depth + 1) t ++ (prettyMembers (depth + 1) ms ++ (newline depth ++ ['\x7d']))))))

def prettyElements (depth : Nat) : List Tree → Text
  | [] => []
  | t :: ts => ',' :: (newline depth ++ (prettyTree depth t ++ prettyElements depth ts))

def prettyMembers (depth : Nat) : List (Text × Tree) → Text
  | [] => []
  | (key, t) :: ms => ',' :: (newline depth ++ (quoted key ++ (':' :: ' '
      :: (prettyTree depth t ++ prettyMembers depth ms))))

end

def toStringPretty (t : Tree) : Text := prettyTree 0 t

theorem digitChar_ne_nul : ∀ d < 16, Nat.digitChar d ≠ '\x00' := by
  decide

theorem zero_notMem_escapeChar (c : Char) : '\x00' ∉ escapeChar c := by
  by_cases hplain : IsPlain c
  · rw [escapeChar_plain hplain, List.mem_singleton]
    rintro rfl
    exact absurd hplain.2.2 (by decide)
  · unfold escapeChar
    split_ifs with hquote hslash _ _ _ _ _ hcontrol
    · decide
    · decide
    · decide
    · decide
    · decide
    · decide
    · decide
    · simp [(digitChar_ne_nul (c.toNat / 16) (by omega)).symm,
        (digitChar_ne_nul (c.toNat % 16) (by omega)).symm]
    · exact absurd ⟨hquote, hslash, Nat.not_lt.mp hcontrol⟩ hplain

theorem zero_notMem_quoted (s : Text) : '\x00' ∉ quoted s := by
  have hbody : '\x00' ∉ s.flatMap escapeChar := by
    rw [List.mem_flatMap]
    rintro ⟨c, -, hc⟩
    exact zero_notMem_escapeChar c hc
  simp [quoted, hbody]

theorem zero_notMem_newline (depth : Nat) : '\x00' ∉ newline depth := by
  simp [newline]

theorem zero_notMem_toDigits (n : Nat) : '\x00' ∉ Nat.toDigits 10 n := by
  intro h
  cases Bytes.isDigit_toDigits _ h

mutual

theorem zero_notMem_prettyTree (depth : Nat) : ∀ t : Tree, '\x00' ∉ prettyTree depth t
  | .bool true => by simp [prettyTree]
  | .bool false => by simp [prettyTree]
  | .number n => by
    rw [prettyTree]
    exact zero_notMem_toDigits n
  | .string s => by
    rw [prettyTree]
    exact zero_notMem_quoted s
  | .array [] => by simp [prettyTree]
  | .array (t :: ts) => by
    simp [prettyTree, zero_notMem_newline, zero_notMem_prettyTree (depth + 1) t,
      zero_notMem_prettyElements (depth + 1) ts]
  | .object [] => by simp [prettyTree]
  | .object ((key, t) :: ms) => by
    simp [prettyTree, zero_notMem_newline, zero_notMem_quoted,
      zero_notMem_prettyTree (depth + 1) t, zero_notMem_prettyMembers (depth + 1) ms]

theorem zero_notMem_prettyElements (depth : Nat) : ∀ ts : List Tree,
    '\x00' ∉ prettyElements depth ts
  | [] => List.not_mem_nil
  | t :: ts => by
    simp [prettyElements, zero_notMem_newline, zero_notMem_prettyTree depth t,
      zero_notMem_prettyElements depth ts]

theorem zero_notMem_prettyMembers (depth : Nat) : ∀ ms : List (Text × Tree),
    '\x00' ∉ prettyMembers depth ms
  | [] => List.not_mem_nil
  | (key, t) :: ms => by
    simp [prettyMembers, zero_notMem_newline, zero_notMem_quoted, zero_notMem_prettyTree depth t,
      zero_notMem_prettyMembers depth ms]

end

theorem zero_notMem_toStringPretty (t : Tree) : '\x00' ∉ toStringPretty t :=
  zero_notMem_prettyTree 0 t

inductive Start where
  | letter
  | digit
  | quote
  | bracket
  | brace

def Start.ofChar (c : Char) : Start :=
  if c.isDigit = true then .digit
  else if c = '"' then .quote
  else if c = '[' then .bracket
  else if c = '\x7b' then .brace
  else .letter

def Tree.start : Tree → Start
  | .bool _ => .letter
  | .number _ => .digit
  | .string _ => .quote
  | .array _ => .bracket
  | .object _ => .brace

theorem exists_prettyTree_eq_cons (depth : Nat) (t : Tree) :
    ∃ c text, prettyTree depth t = c :: text ∧ Start.ofChar c = t.start := by
  cases t with
  | bool b =>
    cases b with
    | true => exact ⟨_, _, by rw [prettyTree], rfl⟩
    | false => exact ⟨_, _, by rw [prettyTree], rfl⟩
  | number n =>
    obtain ⟨c, digits, hdigits⟩ : ∃ c digits, Nat.toDigits 10 n = c :: digits :=
      List.exists_cons_of_ne_nil Nat.toDigits_ne_nil
    have hc : c.isDigit = true := Bytes.isDigit_toDigits c (by rw [hdigits]; exact .head _)
    exact ⟨c, digits, by rw [prettyTree, hdigits], if_pos hc⟩
  | string s => exact ⟨_, _, by rw [prettyTree, quoted], rfl⟩
  | array ts =>
    cases ts with
    | nil => exact ⟨_, _, by rw [prettyTree], rfl⟩
    | cons t ts => exact ⟨_, _, by rw [prettyTree], rfl⟩
  | object ms =>
    cases ms with
    | nil => exact ⟨_, _, by rw [prettyTree], rfl⟩
    | cons m ms => exact ⟨_, _, by rw [prettyTree], rfl⟩

theorem start_eq {depth : Nat} {t t' : Tree} {rest rest' : Text}
    (h : prettyTree depth t ++ rest = prettyTree depth t' ++ rest') : t.start = t'.start := by
  obtain ⟨c, text, ht, hc⟩ := exists_prettyTree_eq_cons depth t
  obtain ⟨c', text', ht', hc'⟩ := exists_prettyTree_eq_cons depth t'
  rw [ht, ht', cons_append, cons_append] at h
  rw [← hc, ← hc', (List.cons.inj h).1]

theorem eq_of_toDigits {n n' : Nat} {rest rest' : Text} (hrest : Ends rest) (hrest' : Ends rest')
    (h : Nat.toDigits 10 n ++ rest = Nat.toDigits 10 n' ++ rest') : n = n' ∧ rest = rest' := by
  obtain ⟨htake, hdrop⟩ := takeWhile_digits (@Bytes.isDigit_toDigits n) hrest
  obtain ⟨htake', hdrop'⟩ := takeWhile_digits (@Bytes.isDigit_toDigits n') hrest'
  rw [h] at htake hdrop
  have hdigits : Nat.toDigits 10 n = Nat.toDigits 10 n' := htake.symm.trans htake'
  have hvalue := congrArg (Nat.ofDigitChars 10 · 0) hdigits
  simp only [Nat.ofDigitChars_ten_toDigits] at hvalue
  exact ⟨hvalue, hdrop.symm.trans hdrop'⟩

def EndsLine (rest : Text) : Prop := rest.head? = some '\n'

theorem endsLine_newline (depth : Nat) (rest : Text) : EndsLine (newline depth ++ rest) := rfl

theorem EndsLine.ne_cons {rest text : Text} (h : EndsLine rest) {c : Char} (hc : c ≠ '\n') :
    rest ≠ c :: text := by
  rintro rfl
  exact hc (Option.some.inj h)

theorem ends_of_endsLine {rest : Text} (h : EndsLine rest) : Ends rest := by
  intro c hc
  rw [h] at hc
  cases hc
  decide

theorem ends_prettyElements (depth : Nat) (ts : List Tree) {rest : Text} (h : EndsLine rest) :
    Ends (prettyElements depth ts ++ rest) := by
  cases ts with
  | nil =>
    rw [prettyElements, List.nil_append]
    exact ends_of_endsLine h
  | cons t ts =>
    rw [prettyElements, cons_append]
    intro c hc
    cases hc
    decide

theorem ends_prettyMembers (depth : Nat) (ms : List (Text × Tree)) {rest : Text}
    (h : EndsLine rest) : Ends (prettyMembers depth ms ++ rest) := by
  cases ms with
  | nil =>
    rw [prettyMembers, List.nil_append]
    exact ends_of_endsLine h
  | cons m ms =>
    rw [prettyMembers, cons_append]
    intro c hc
    cases hc
    decide

mutual

theorem eq_of_prettyTree (depth : Nat) : ∀ (t t' : Tree) {rest rest' : Text}, Ends rest →
    Ends rest' → prettyTree depth t ++ rest = prettyTree depth t' ++ rest' → t = t' ∧ rest = rest'
  | .bool b, t', rest, rest', _, _, h => by
    have hstart := start_eq h
    cases t' with
    | bool b' =>
      cases b <;> cases b' <;> simp_all [prettyTree]
    | number _ => cases hstart
    | string _ => cases hstart
    | array _ => cases hstart
    | object _ => cases hstart
  | .number n, t', rest, rest', hrest, hrest', h => by
    have hstart := start_eq h
    cases t' with
    | number n' =>
      rw [prettyTree, prettyTree] at h
      obtain ⟨rfl, hrest⟩ := eq_of_toDigits hrest hrest' h
      exact ⟨rfl, hrest⟩
    | bool _ => cases hstart
    | string _ => cases hstart
    | array _ => cases hstart
    | object _ => cases hstart
  | .string s, t', rest, rest', _, _, h => by
    have hstart := start_eq h
    cases t' with
    | string s' =>
      rw [prettyTree, prettyTree] at h
      obtain ⟨rfl, hrest⟩ := eq_of_quoted h
      exact ⟨rfl, hrest⟩
    | bool _ => cases hstart
    | number _ => cases hstart
    | array _ => cases hstart
    | object _ => cases hstart
  | .array [], t', rest, rest', _, _, h => by
    have hstart := start_eq h
    cases t' with
    | array ts' =>
      cases ts' with
      | nil => exact ⟨rfl, append_cancel_left h⟩
      | cons t' ts' =>
        rw [prettyTree, prettyTree] at h
        cases (List.cons.inj (List.cons.inj h).2).1
    | bool _ => cases hstart
    | number _ => cases hstart
    | string _ => cases hstart
    | object _ => cases hstart
  -- behind the first element there is a comma or a line end, so it ends there in both texts
  | .array (t :: ts), t', rest, rest', _, _, h => by
    have hstart := start_eq h
    cases t' with
    | array ts' =>
      cases ts' with
      | nil =>
        rw [prettyTree, prettyTree] at h
        cases (List.cons.inj (List.cons.inj h).2).1
      | cons t' ts' =>
        rw [prettyTree, prettyTree, cons_append, cons_append, List.cons.injEq] at h
        simp only [append_assoc, true_and] at h
        obtain ⟨rfl, htail⟩ := eq_of_prettyTree (depth + 1) t t'
          (ends_prettyElements _ ts (endsLine_newline depth _))
          (ends_prettyElements _ ts' (endsLine_newline depth _)) (append_cancel_left h)
        obtain ⟨rfl, hclose⟩ := eq_of_prettyElements (depth + 1) ts ts'
          (endsLine_newline depth _) (endsLine_newline depth _) htail
        exact ⟨rfl, (List.cons.inj (append_cancel_left hclose)).2⟩
    | bool _ => cases hstart
    | number _ => cases hstart
    | string _ => cases hstart
    | object _ => cases hstart
  | .object [], t', rest, rest', _, _, h => by
    have hstart := start_eq h
    cases t' with
    | object ms' =>
      cases ms' with
      | nil => exact ⟨rfl, append_cancel_left h⟩
      | cons m' ms' =>
        rw [prettyTree, prettyTree] at h
        cases (List.cons.inj (List.cons.inj h).2).1
    | bool _ => cases hstart
    | number _ => cases hstart
    | string _ => cases hstart
    | array _ => cases hstart
  -- the key ends at its quote, and the rest is as in an array
  | .object ((key, t) :: ms), t', rest, rest', _, _, h => by
    have hstart := start_eq h
    cases t' with
    | object ms' =>
      cases ms' with
      | nil =>
        rw [prettyTree, prettyTree] at h
        cases (List.cons.inj (List.cons.inj h).2).1
      | cons m' ms' =>
        obtain ⟨key', t'⟩ := m'
        rw [prettyTree, prettyTree, cons_append, cons_append, List.cons.injEq] at h
        simp only [append_assoc, cons_append, true_and] at h
        obtain ⟨rfl, hvalue⟩ := eq_of_quoted (append_cancel_left h)
        obtain ⟨rfl, htail⟩ := eq_of_prettyTree (depth + 1) t t'
          (ends_prettyMembers _ ms (endsLine_newline depth _))
          (ends_prettyMembers _ ms' (endsLine_newline depth _))
          (List.cons.inj (List.cons.inj hvalue).2).2
        obtain ⟨rfl, hclose⟩ := eq_of_prettyMembers (depth + 1) ms ms'
          (endsLine_newline depth _) (endsLine_newline depth _) htail
        exact ⟨rfl, (List.cons.inj (append_cancel_left hclose)).2⟩
    | bool _ => cases hstart
    | number _ => cases hstart
    | string _ => cases hstart
    | array _ => cases hstart

theorem eq_of_prettyElements (depth : Nat) : ∀ (ts ts' : List Tree) {rest rest' : Text},
    EndsLine rest → EndsLine rest' →
    prettyElements depth ts ++ rest = prettyElements depth ts' ++ rest' → ts = ts' ∧ rest = rest'
  | [], [], _, _, _, _, h => by
    rw [prettyElements] at h
    exact ⟨rfl, h⟩
  -- one list is at its end, where the other has a comma
  | [], t' :: ts', _, _, hrest, _, h => by
    rw [prettyElements, prettyElements] at h
    exact absurd h (hrest.ne_cons (by decide))
  | t :: ts, [], _, _, _, hrest', h => by
    rw [prettyElements, prettyElements] at h
    exact absurd h.symm (hrest'.ne_cons (by decide))
  | t :: ts, t' :: ts', _, _, hrest, hrest', h => by
    rw [prettyElements, prettyElements, cons_append, cons_append, List.cons.injEq] at h
    simp only [append_assoc, true_and] at h
    obtain ⟨rfl, htail⟩ := eq_of_prettyTree depth t t' (ends_prettyElements _ ts hrest)
      (ends_prettyElements _ ts' hrest') (append_cancel_left h)
    obtain ⟨rfl, hrest⟩ := eq_of_prettyElements depth ts ts' hrest hrest' htail
    exact ⟨rfl, hrest⟩

theorem eq_of_prettyMembers (depth : Nat) : ∀ (ms ms' : List (Text × Tree)) {rest rest' : Text},
    EndsLine rest → EndsLine rest' →
    prettyMembers depth ms ++ rest = prettyMembers depth ms' ++ rest' → ms = ms' ∧ rest = rest'
  | [], [], _, _, _, _, h => by
    rw [prettyMembers] at h
    exact ⟨rfl, h⟩
  | [], m' :: ms', _, _, hrest, _, h => by
    rw [prettyMembers, prettyMembers] at h
    exact absurd h (hrest.ne_cons (by decide))
  | m :: ms, [], _, _, _, hrest', h => by
    rw [prettyMembers, prettyMembers] at h
    exact absurd h.symm (hrest'.ne_cons (by decide))
  | (key, t) :: ms, (key', t') :: ms', _, _, hrest, hrest', h => by
    rw [prettyMembers, prettyMembers, cons_append, cons_append, List.cons.injEq] at h
    simp only [append_assoc, cons_append, true_and] at h
    obtain ⟨rfl, hvalue⟩ := eq_of_quoted (append_cancel_left h)
    obtain ⟨rfl, htail⟩ := eq_of_prettyTree depth t t' (ends_prettyMembers _ ms hrest)
      (ends_prettyMembers _ ms' hrest') (List.cons.inj (List.cons.inj hvalue).2).2
    obtain ⟨rfl, hrest⟩ := eq_of_prettyMembers depth ms ms' hrest hrest' htail
    exact ⟨rfl, hrest⟩

end

theorem toStringPretty_injective {t t' : Tree} (h : toStringPretty t = toStringPretty t') :
    t = t' := by
  have hends : Ends [] := fun c hc => absurd hc (by simp)
  rw [toStringPretty, toStringPretty, ← List.append_nil (prettyTree 0 t),
    ← List.append_nil (prettyTree 0 t')] at h
  exact (eq_of_prettyTree 0 t t' hends hends h).1

end Keystone3.Serde
