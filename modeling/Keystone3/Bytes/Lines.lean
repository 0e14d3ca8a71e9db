import Mathlib.Data.List.DropRight
import Mathlib.Data.Char

/-!
# Lines and fields

Texts cut at line breaks, at separators and at blanks. What is put together from
lines is cut into the same lines (`lines_intercalate`), and a part has no
separator left (`not_mem_of_mem_splitOn`).
-/

namespace Keystone3.Bytes

open List (mem_append mem_cons mem_cons_of_mem not_mem_nil)

def isWhitespace (c : Char) : Bool :=
  let n := c.toNat
  (9 ≤ n && n ≤ 13) || n = 32 || n = 133 || n = 160 || n = 5760 || (8192 ≤ n && n ≤ 8202)
    || n = 8232 || n = 8233 || n = 8239 || n = 8287 || n = 12288

def trim (s : List Char) : List Char := (s.dropWhile isWhitespace).rdropWhile isWhitespace

variable {s : List Char}

theorem mem_of_mem_trim {c : Char} (h : c ∈ trim s) : c ∈ s :=
  (List.dropWhile_suffix isWhitespace).subset ((List.rdropWhile_prefix isWhitespace _).subset h)

theorem trim_cons {c : Char} (h : isWhitespace c = true) (s : List Char) : trim (c :: s) = trim s := by
  rw [trim, List.dropWhile_cons_of_pos h, trim]

theorem trim_eq_self (hfirst : ∀ c, s.head? = some c → isWhitespace c = false)
    (hlast : ∀ c, s.getLast? = some c → isWhitespace c = false) : trim s = s := by
  have hdrop : s.dropWhile isWhitespace = s := by
    cases s with
    | nil => rfl
    | cons c s =>
      rw [List.dropWhile_cons_of_neg]
      rw [hfirst c rfl]
      exact Bool.false_ne_true
  rw [trim, hdrop, List.rdropWhile_eq_self_iff]
  intro hs
  rw [hlast _ (List.getLast?_eq_some_getLast hs)]
  exact Bool.false_ne_true

theorem trim_of_forall (h : ∀ c ∈ s, isWhitespace c = false) : trim s = s :=
  trim_eq_self (fun c hc => h c (List.mem_of_head? hc)) (fun c hc => h c (List.mem_of_getLast? hc))

theorem trim_trim (s : List Char) : trim (trim s) = trim s := by
  have hdrop : (trim s).dropWhile isWhitespace = trim s := by
    rw [List.dropWhile_eq_self_iff]
    intro hs
    have hne : s.dropWhile isWhitespace ≠ [] := by
      intro hnil
      rw [trim, hnil] at hs
      cases hs
    have hfirst : (trim s)[0] = (s.dropWhile isWhitespace).head hne := by
      rw [← List.getElem_zero (List.length_pos_of_ne_nil hne)]
      exact (List.rdropWhile_prefix isWhitespace _).getElem hs
    rw [hfirst, List.head_dropWhile_not isWhitespace hne]
    exact Bool.false_ne_true
  rw [trim, hdrop]
  exact List.rdropWhile_idempotent isWhitespace _

theorem trim_map {g : Char → Char} (hg : ∀ c, isWhitespace (g c) = isWhitespace c) (s : List Char) :
    trim (s.map g) = (trim s).map g := by
  have hcomp : isWhitespace ∘ g = isWhitespace := funext hg
  rw [trim, trim, List.rdropWhile, List.rdropWhile, List.dropWhile_map, hcomp, ← List.map_reverse,
    List.dropWhile_map, hcomp, List.map_reverse]

theorem mem_trim_of_mem {c : Char} (hc : c ∈ s) (hblank : isWhitespace c = false) :
    c ∈ trim s := by
  rw [← List.takeWhile_append_dropWhile (p := isWhitespace) (l := s)] at hc
  rcases mem_append.mp hc with hc | hc
  · rw [List.mem_takeWhile_imp hc] at hblank
    cases hblank
  · rw [← @List.rdropWhile_append_rtakeWhile _ isWhitespace (s.dropWhile isWhitespace)] at hc
    rcases mem_append.mp hc with hc | hc
    · exact hc
    · rw [List.mem_rtakeWhile_imp hc] at hblank
      cases hblank

theorem head_trim {c : Char} (hc : isWhitespace c = false) :
    (trim s).head? = some c ↔ (s.dropWhile isWhitespace).head? = some c := by
  obtain ⟨rest, hrest⟩ : trim s <+: s.dropWhile isWhitespace := List.rdropWhile_prefix _ _
  constructor
  · intro h
    rw [← hrest, List.head?_append, h]
    rfl
  · intro h
    have hne : trim s ≠ [] := by
      intro hnil
      have hall := List.rdropWhile_eq_nil_iff.mp hnil
      rw [hall c (List.mem_of_head? h)] at hc
      cases hc
    rw [← hrest, List.head?_append_of_ne_nil _ hne] at h
    exact h

def stripCr (line : List Char) : List Char :=
  if line.getLast? = some '\r' then line.dropLast else line

def lines (s : List Char) : List (List Char) :=
  let parts := s.splitOn '\n'
  parts.dropLast.map stripCr ++ (parts.getLast?.filter fun line => line ≠ []).toList

theorem append_cons_inj {c : Char} {a a' b b' : List Char} (ha : c ∉ a) (ha' : c ∉ a')
    (h : a ++ c :: b = a' ++ c :: b') : a = a' ∧ b = b' := by
  induction a generalizing a' with
  | nil =>
    cases a' with
    | nil => exact ⟨rfl, (List.cons.inj h).2⟩
    | cons d a' =>
      obtain ⟨rfl, -⟩ := List.cons.inj h
      exact absurd (.head _) ha'
  | cons d a ih =>
    cases a' with
    | nil =>
      obtain ⟨rfl, -⟩ := List.cons.inj h
      exact absurd (.head _) ha
    | cons d' a' =>
      obtain ⟨rfl, hrest⟩ := List.cons.inj h
      obtain ⟨rfl, rfl⟩ := ih (fun hc => ha (mem_cons_of_mem d hc))
        (fun hc => ha' (mem_cons_of_mem d hc)) hrest
      exact ⟨rfl, rfl⟩

theorem not_mem_intercalate {c : Char} {sep : List Char} (hc : c ∉ sep) {parts : List (List Char)}
    (h : ∀ part ∈ parts, c ∉ part) : c ∉ sep.intercalate parts := by
  induction parts with
  | nil => exact not_mem_nil
  | cons part parts ih =>
    have hpart := h part (.head _)
    have hparts := ih fun other hother => h other (mem_cons_of_mem part hother)
    cases parts with
    | nil => simpa [List.intercalate] using hpart
    | cons next parts =>
      rw [List.intercalate_cons_cons, mem_append, mem_append]
      rintro ((hin | hin) | hin)
      · exact hpart hin
      · exact hc hin
      · exact hparts hin

theorem not_mem_of_mem_splitOn {sep : Char} :
    ∀ part ∈ s.splitOn sep, sep ∉ part := by
  induction s with
  | nil =>
    intro part hpart
    rw [List.splitOn_nil, List.mem_singleton] at hpart
    rw [hpart]
    exact not_mem_nil
  | cons c s ih =>
    intro part hpart
    rw [List.splitOn_cons_eq_if_modifyHead] at hpart
    by_cases hc : c = sep
    · rw [if_pos (beq_iff_eq.mpr hc)] at hpart
      rcases mem_cons.mp hpart with rfl | hpart
      · exact not_mem_nil
      · exact ih part hpart
    · rw [if_neg (by simpa using hc)] at hpart
      cases hsplit : s.splitOn sep with
      | nil => exact absurd hsplit (List.splitOn_ne_nil sep s)
      | cons first parts =>
        rw [hsplit, List.modifyHead_cons] at hpart
        rw [hsplit] at ih
        rcases mem_cons.mp hpart with rfl | hpart
        · intro hmem
          rcases mem_cons.mp hmem with heq | hmem
          · exact hc heq.symm
          · exact ih first (.head _) hmem
        · exact ih part (mem_cons_of_mem first hpart)

theorem mem_of_mem_splitOn {sep c : Char} :
    ∀ part ∈ s.splitOn sep, c ∈ part → c ∈ s := by
  induction s with
  | nil =>
    intro part hpart hc
    rw [List.splitOn_nil, List.mem_singleton] at hpart
    rw [hpart] at hc
    exact hc
  | cons d s ih =>
    intro part hpart hc
    rw [List.splitOn_cons_eq_if_modifyHead] at hpart
    by_cases hd : d = sep
    · rw [if_pos (beq_iff_eq.mpr hd)] at hpart
      rcases mem_cons.mp hpart with rfl | hpart
      · exact absurd hc not_mem_nil
      · exact mem_cons_of_mem d (ih part hpart hc)
    · rw [if_neg (by simpa using hd)] at hpart
      cases hsplit : s.splitOn sep with
      | nil => exact absurd hsplit (List.splitOn_ne_nil sep s)
      | cons first parts =>
        rw [hsplit, List.modifyHead_cons] at hpart
        rw [hsplit] at ih
        rcases mem_cons.mp hpart with rfl | hpart
        · rcases mem_cons.mp hc with rfl | hc
          · exact .head _
          · exact mem_cons_of_mem d (ih first (.head _) hc)
        · exact mem_cons_of_mem d (ih part (mem_cons_of_mem first hpart) hc)

theorem mem_of_mem_stripCr {line : List Char} {c : Char} (h : c ∈ stripCr line) : c ∈ line := by
  unfold stripCr at h
  split at h
  · exact (List.dropLast_subset _) h
  · exact h

theorem not_mem_of_mem_lines : ∀ line ∈ lines s, '\n' ∉ line := by
  intro line hline
  rcases mem_append.mp hline with hline | hline
  · obtain ⟨part, hpart, rfl⟩ := List.mem_map.mp hline
    intro hmem
    exact not_mem_of_mem_splitOn part ((List.dropLast_subset _) hpart) (mem_of_mem_stripCr hmem)
  · rw [Option.mem_toList] at hline
    exact not_mem_of_mem_splitOn line (List.mem_of_getLast? (Option.eq_some_of_filter_eq_some hline))

theorem lines_append {line : List Char} (h : '\n' ∉ line) (rest : List Char) :
    lines (line ++ '\n' :: rest) = stripCr line :: lines rest := by
  have hne := List.splitOn_ne_nil '\n' rest
  unfold lines
  rw [List.splitOn_append_cons_self_of_not_mem h]
  dsimp only
  rw [List.dropLast_cons_of_ne_nil hne, List.map_cons, List.getLast?_cons_of_ne_nil hne]
  rfl

theorem lines_last {line : List Char} (h : '\n' ∉ line) (hne : line ≠ []) : lines line = [line] := by
  unfold lines
  rw [List.splitOn_eq_singleton h]
  simp [hne]

theorem lines_intercalate {ls : List (List Char)} (hne : ls ≠ []) (hlast : ls.getLast hne ≠ [])
    (h : ∀ line ∈ ls, '\n' ∉ line ∧ stripCr line = line) :
    lines (List.intercalate ['\n'] ls) = ls := by
  induction ls with
  | nil => exact absurd rfl hne
  | cons line ls ih =>
    obtain ⟨hbreak, hcr⟩ := h line (.head _)
    cases ls with
    | nil =>
      rw [List.intercalate_singleton]
      exact lines_last hbreak hlast
    | cons line' ls =>
      rw [List.intercalate_cons_cons, List.append_assoc, List.singleton_append, lines_append hbreak,
        hcr, ih (List.cons_ne_nil line' ls) _ fun l hl => h l (mem_cons_of_mem line hl)]
      rwa [List.getLast_cons (List.cons_ne_nil line' ls)] at hlast

def splitTextFrom (sep : List Char) : Nat → List Char → List (List Char)
  | _, [] => [[]]
  | inside + 1, _ :: s => splitTextFrom sep inside s
  | 0, c :: s =>
    if sep.isPrefixOf (c :: s) then [] :: splitTextFrom sep (sep.length - 1) s
    else (splitTextFrom sep 0 s).modifyHead (List.cons c)

/-- `str::split` at a text. -/
def splitText (sep s : List Char) : List (List Char) := splitTextFrom sep 0 s

theorem splitTextFrom_inside (sep : List Char) {skipped : List Char} (s : List Char) :
    splitTextFrom sep skipped.length (skipped ++ s) = splitTextFrom sep 0 s := by
  induction skipped with
  | nil => rfl
  | cons c skipped ih => exact ih

theorem splitText_of_not_mem {first : Char} {sep s : List Char} (h : first ∉ s) :
    splitText (first :: sep) s = [s] := by
  induction s with
  | nil => rfl
  | cons c s ih =>
    have hc : first ≠ c := fun heq => h (heq ▸ (.head _))
    have hprefix : (first :: sep).isPrefixOf (c :: s) = false := by
      simp [List.isPrefixOf, hc]
    have hrest := ih fun hmem => h (mem_cons_of_mem c hmem)
    rw [splitText] at hrest ⊢
    rw [splitTextFrom, hprefix, if_neg Bool.false_ne_true, hrest]
    rfl

theorem splitText_append {first : Char} {sep a : List Char} (h : first ∉ a) (s : List Char) :
    splitText (first :: sep) (a ++ (first :: sep ++ s)) = a :: splitText (first :: sep) s := by
  induction a with
  | nil =>
    have hprefix : (first :: sep).isPrefixOf (first :: (sep ++ s)) = true := by
      simp [List.isPrefixOf]
    rw [List.nil_append, List.cons_append, splitText, splitTextFrom, hprefix, if_pos rfl,
      List.length_cons, Nat.add_sub_cancel, splitTextFrom_inside _ s]
    rfl
  | cons c a ih =>
    have hc : first ≠ c := fun heq => h (heq ▸ (.head _))
    have hprefix : (first :: sep).isPrefixOf (c :: (a ++ (first :: sep ++ s))) = false := by
      simp [List.isPrefixOf, hc]
    have hrest := ih fun hmem => h (mem_cons_of_mem c hmem)
    rw [splitText] at hrest ⊢
    rw [List.cons_append, splitTextFrom, hprefix, if_neg Bool.false_ne_true, hrest]
    rfl

end Keystone3.Bytes
