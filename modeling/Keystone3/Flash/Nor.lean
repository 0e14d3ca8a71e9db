import Keystone3.Bytes.Block

/-!
# NOR flash

A NOR flash is erased sector by sector to `0xFF` and programmed page by page, and
programming can only clear bits: what a cell holds afterwards is the `and` of what it
held and what was sent.

`Holds f a bs k` says how far a write has come: the first `k` bytes of `bs` stand at
`a` and the rest of its cells are erased.
-/

namespace Keystone3.Flash

abbrev Cells : Type := Nat → UInt8

def erased : UInt8 := 0xFF

/-- Erase the `size` cells from `a` on. -/
def eraseSector (size a : Nat) (f : Cells) : Cells := fun x =>
  if a ≤ x ∧ x < a + size then erased else f x

/-- Program `bs` from `a` on. -/
def program (a : Nat) (bs : List UInt8) (f : Cells) : Cells := fun x =>
  if a ≤ x ∧ x < a + bs.length then f x &&& bs.getD (x - a) erased else f x

/-- The `n` cells from `a` on. -/
def read (f : Cells) (a n : Nat) : List UInt8 := (List.range n).map fun k => f (a + k)

/-- The pieces of `bs` between page boundaries, each with its offset. The
first argument after the page size bounds the number of pieces. -/
def splitPages (page : Nat) : Nat → Nat → List UInt8 → List (Nat × List UInt8)
  | 0, _, _ => []
  | fuel + 1, a, bs =>
    if bs.isEmpty then []
    else (a, bs.take (page - a % page)) ::
      splitPages page fuel (a + (page - a % page)) (bs.drop (page - a % page))

/-- The first `k` bytes of `bs`, the rest as erased cells read. -/
def torn (bs : List UInt8) (k : Nat) : List UInt8 :=
  bs.take k ++ List.replicate (bs.length - k) erased

@[simp] theorem length_read (f : Cells) (a n : Nat) : (read f a n).length = n := by
  unfold read
  rw [List.length_map, List.length_range]

theorem getElem?_read (f : Cells) (a : Nat) {n j : Nat} (h : j < n) :
    (read f a n)[j]? = some (f (a + j)) := by
  unfold read
  rw [List.getElem?_map, List.getElem?_range h]
  rfl

@[simp] theorem length_torn (bs : List UInt8) (k : Nat) : (torn bs k).length = bs.length := by
  unfold torn
  rw [List.length_append, List.length_take, List.length_replicate]
  omega

theorem getElem?_torn (bs : List UInt8) (k : Nat) {j : Nat} (h : j < bs.length) :
    (torn bs k)[j]? = some (if j < k then bs.getD j erased else erased) := by
  unfold torn
  by_cases hjk : j < k
  · rw [if_pos hjk, List.getElem?_append_left (by rw [List.length_take]; omega),
      List.getElem?_take_of_lt hjk, List.getD_eq_getElem?_getD, List.getElem?_eq_getElem h,
      Option.getD_some]
  · rw [if_neg hjk, List.getElem?_append_right (by rw [List.length_take]; omega),
      List.length_take, List.getElem?_replicate_of_lt (by omega)]

theorem torn_of_le {bs : List UInt8} {k : Nat} (hk : bs.length ≤ k) : torn bs k = bs := by
  unfold torn
  rw [List.take_of_length_le hk, Nat.sub_eq_zero_of_le hk, List.replicate_zero, List.append_nil]

theorem eraseSector_in {size a x : Nat} (f : Cells) (h : a ≤ x ∧ x < a + size) :
    eraseSector size a f x = erased := if_pos h

theorem eraseSector_out {size a x : Nat} (f : Cells) (h : ¬(a ≤ x ∧ x < a + size)) :
    eraseSector size a f x = f x := if_neg h

theorem program_out {a x : Nat} {bs : List UInt8} (f : Cells)
    (h : ¬(a ≤ x ∧ x < a + bs.length)) : program a bs f x = f x := if_neg h

theorem program_erased {a x : Nat} {bs : List UInt8} {f : Cells}
    (h : a ≤ x ∧ x < a + bs.length) (hx : f x = erased) :
    program a bs f x = bs.getD (x - a) erased := by
  unfold program
  rw [if_pos h, hx]
  show (-1 : UInt8) &&& _ = _
  exact UInt8.neg_one_and

/-- The first `k` bytes of `bs` stand at `a`, the rest of its cells are
erased. -/
def Holds (f : Cells) (a : Nat) (bs : List UInt8) (k : Nat) : Prop :=
  ∀ j, j < bs.length → f (a + j) = if j < k then bs.getD j erased else erased

theorem holds_zero {f : Cells} {a : Nat} {bs : List UInt8}
    (h : ∀ j, j < bs.length → f (a + j) = erased) : Holds f a bs 0 := fun j hj => by
  rw [if_neg (Nat.not_lt_zero j)]
  exact h j hj

theorem holds_program {f : Cells} {a k m : Nat} {bs : List UInt8} (h : Holds f a bs k) :
    Holds (program (a + k) ((bs.drop k).take m) f) a bs (k + m) := by
  intro j hj
  have hlen : ((bs.drop k).take m).length = min m (bs.length - k) := by
    rw [List.length_take, List.length_drop]
  by_cases hin : a + k ≤ a + j ∧ a + j < a + k + ((bs.drop k).take m).length
  · have hjk : k ≤ j := by omega
    have hjm : j < k + m := by omega
    have hf : f (a + j) = erased := by
      rw [h j hj, if_neg (by omega)]
    rw [program_erased hin hf, if_pos hjm]
    have hsub : a + j - (a + k) = j - k := by omega
    rw [hsub, List.getD_eq_getElem?_getD, List.getElem?_take_of_lt (by omega),
      List.getElem?_drop, show k + (j - k) = j from by omega, ← List.getD_eq_getElem?_getD]
  · rw [program_out _ hin, h j hj]
    by_cases hjk : j < k
    · rw [if_pos hjk, if_pos (by omega)]
    · rw [if_neg hjk, if_neg (by omega)]

theorem holds_read {f : Cells} {a k : Nat} {bs : List UInt8} (h : Holds f a bs k) :
    read f a bs.length = torn bs k := by
  apply List.ext_getElem?
  intro j
  by_cases hj : j < bs.length
  · rw [getElem?_read f a hj, getElem?_torn bs k hj, h j hj]
  · rw [List.getElem?_eq_none (by rw [length_read]; omega),
      List.getElem?_eq_none (by rw [length_torn]; omega)]

theorem holds_read_all {f : Cells} {a k : Nat} {bs : List UInt8} (h : Holds f a bs k)
    (hk : bs.length ≤ k) : read f a bs.length = bs := by
  rw [holds_read h, torn_of_le hk]

theorem read_congr {f g : Cells} {a n : Nat} (h : ∀ x, a ≤ x → x < a + n → f x = g x) :
    read f a n = read g a n := by
  unfold read
  apply List.map_congr_left
  intro k hk
  have hk' := List.mem_range.mp hk
  exact h (a + k) (by omega) (by omega)

/-- How many bytes of a buffer at `a` the first `n` pieces are. -/
def written (page a n : Nat) : Nat := (a / page + n) * page - a

theorem written_zero (page a : Nat) : written page a 0 = 0 := by
  unfold written
  rw [Nat.add_zero]
  exact Nat.sub_eq_zero_of_le (Nat.div_mul_le_self a page)

theorem written_succ {page : Nat} (hp : 0 < page) (a n : Nat) :
    written page a (n + 1)
      = (page - a % page) + written page (a + (page - a % page)) n := by
  have hmod := Nat.mod_lt a hp
  have hdiv := Nat.div_add_mod a page
  have hnext : a + (page - a % page) = (a / page + 1) * page := by
    rw [Nat.add_mul, Nat.one_mul, Nat.mul_comm (a / page)]
    omega
  have hquot : (a + (page - a % page)) / page = a / page + 1 := by
    rw [hnext, Nat.mul_div_cancel _ hp]
  have hsplit : (a / page + (n + 1)) * page = (a / page + 1) * page + n * page := by
    rw [← Nat.add_mul, Nat.add_assoc, Nat.add_comm n 1]
  have hrest : (a / page + 1 + n) * page = (a / page + 1) * page + n * page := Nat.add_mul _ _ _
  unfold written
  rw [hquot, hsplit, hrest, ← hnext]
  omega

theorem splitPages_get {page : Nat} (hp : 0 < page) :
    ∀ (fuel a : Nat) (bs : List UInt8) (j : Nat) (p : Nat × List UInt8),
      (splitPages page fuel a bs)[j]? = some p →
      written page a j < bs.length ∧ p.1 = a + written page a j ∧
        p.2 = (bs.drop (written page a j)).take (written page a (j + 1) - written page a j)
  | 0, _, _, _, _, h => nomatch h
  | fuel + 1, a, bs, j, p, h => by
    unfold splitPages at h
    split at h
    · exact nomatch h
    · next he =>
      have hpos : 0 < bs.length := List.length_pos_iff.mpr fun hb => he (List.isEmpty_iff.mpr hb)
      cases j with
      | zero =>
        cases h
        rw [written_succ hp, written_zero, written_zero, Nat.add_zero, Nat.sub_zero]
        exact ⟨hpos, rfl, rfl⟩
      | succ j =>
        obtain ⟨hlt, hfst, hsnd⟩ := splitPages_get hp fuel _ _ j p h
        rw [List.length_drop] at hlt
        rw [List.drop_drop] at hsnd
        have hnext := written_succ hp a j
        have hnext' := written_succ hp a (j + 1)
        refine ⟨by omega, by omega, ?_⟩
        rw [hsnd, ← hnext]
        congr 1
        omega

theorem splitPages_all {page : Nat} (hp : 0 < page) :
    ∀ (fuel a : Nat) (bs : List UInt8), bs.length ≤ fuel →
      bs.length ≤ written page a (splitPages page fuel a bs).length
  | 0, _, _, h => Nat.le_trans h (Nat.zero_le _)
  | fuel + 1, a, bs, h => by
    unfold splitPages
    split
    · next he =>
      rw [List.isEmpty_iff.mp he]
      exact Nat.zero_le _
    · have hmod := Nat.mod_lt a hp
      have hrest := splitPages_all hp fuel (a + (page - a % page)) (bs.drop (page - a % page))
        (by rw [List.length_drop]; omega)
      rw [List.length_drop] at hrest
      rw [List.length_cons, written_succ hp]
      omega

def programPages (page a : Nat) (bs : List UInt8) (f : Cells) : Cells :=
  (splitPages page bs.length a bs).foldl (fun f p => program p.1 p.2 f) f

theorem program_nil (a : Nat) (f : Cells) : program a [] f = f := by
  funext x
  refine program_out f fun h => ?_
  rw [List.length_nil] at h
  omega

theorem program_append (a : Nat) (xs ys : List UInt8) (f : Cells) :
    program (a + xs.length) ys (program a xs f) = program a (xs ++ ys) f := by
  funext x
  unfold program
  rw [List.length_append]
  by_cases hx : a ≤ x ∧ x < a + xs.length
  · rw [if_neg (by omega), if_pos hx, if_pos (by omega), List.getD_eq_getElem?_getD,
      List.getD_eq_getElem?_getD, List.getElem?_append_left (by omega)]
  · rw [if_neg hx]
    by_cases hy : a + xs.length ≤ x ∧ x < a + xs.length + ys.length
    · rw [if_pos hy, if_pos (by omega), List.getD_eq_getElem?_getD, List.getD_eq_getElem?_getD,
        List.getElem?_append_right (by omega), Nat.sub_add_eq]
    · rw [if_neg hy, if_neg (by omega)]

theorem foldl_splitPages {page : Nat} (hp : 0 < page) (fuel a : Nat) (bs : List UInt8) (f : Cells)
    (h : bs.length ≤ fuel) :
    (splitPages page fuel a bs).foldl (fun f p => program p.1 p.2 f) f = program a bs f := by
  induction fuel generalizing a bs f with
  | zero =>
    rw [List.length_eq_zero_iff.mp (Nat.le_zero.mp h), program_nil]
    rfl
  | succ fuel ih =>
    unfold splitPages
    split
    · next he =>
      rw [List.isEmpty_iff.mp he, program_nil]
      rfl
    · have hmod := Nat.mod_lt a hp
      rw [List.foldl_cons, ih _ _ _ (by rw [List.length_drop]; omega)]
      by_cases hlong : page - a % page ≤ bs.length
      · have happend := program_append a (bs.take (page - a % page)) (bs.drop (page - a % page)) f
        rwa [List.length_take, Nat.min_eq_left hlong, List.take_append_drop] at happend
      · rw [List.drop_of_length_le (by omega), List.take_of_length_le (by omega), program_nil]

theorem programPages_eq {page : Nat} (hp : 0 < page) (a : Nat) (bs : List UInt8) (f : Cells) :
    programPages page a bs f = program a bs f :=
  foldl_splitPages hp bs.length a bs f (Nat.le_refl _)

theorem read_program {f : Cells} {a : Nat} {bs : List UInt8}
    (h : ∀ j, j < bs.length → f (a + j) = erased) : read (program a bs f) a bs.length = bs := by
  have hholds := holds_program (m := bs.length) (holds_zero h)
  rw [Nat.add_zero, List.drop_zero, List.take_length] at hholds
  exact holds_read_all hholds (Nat.le_add_left _ _)

end Keystone3.Flash
