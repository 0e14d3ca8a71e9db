import Mathlib.Data.List.Nodup

/-!
# Depth-first search

The nodes that can be reached from one, in a graph of which only some nodes are
known. The search goes as deep as a number says; a depth above the number of
known nodes is enough, and then exactly the nodes that can be reached are found
(`mem_search_iff`), each of them once (`nodup_search`).
-/

namespace Keystone3.Logic

variable {α : Type} (next : α → Option (List α))

def search [DecidableEq α] : Nat → α → List α → List α
  | 0, _, found => found
  | depth + 1, a, found =>
    if a ∈ found then found
    else
      match next a with
      | none => found
      | some bs => bs.foldl (fun found b => search depth b found) (a :: found)

inductive Reaches : α → α → Prop where
  | refl {a : α} {bs : List α} (ha : next a = some bs) : Reaches a a
  | step {a b c : α} {bs : List α} (ha : next a = some bs) (hb : b ∈ bs) (hc : Reaches b c) :
      Reaches a c

/-- More nodes, with the known ones next to each of them. -/
structure Extends (found result : List α) : Prop where
  subset : ∀ a ∈ found, a ∈ result
  nodup : found.Nodup → result.Nodup
  closed : ∀ a ∈ result, a ∉ found → ∀ bs, next a = some bs → ∀ b ∈ bs,
    (next b).isSome = true → b ∈ result

variable {next}

theorem Extends.refl (found : List α) : Extends next found found where
  subset := fun _ ha => ha
  nodup := fun h => h
  closed := fun _ ha hnew => absurd ha hnew

theorem Extends.trans {a b c : List α} (hab : Extends next a b) (hbc : Extends next b c) :
    Extends next a c where
  subset := fun x hx => hbc.subset x (hab.subset x hx)
  nodup := fun h => hbc.nodup (hab.nodup h)
  closed := by
    intro x hx hnew bs hbs y hy hknown
    by_cases hxb : x ∈ b
    · exact hbc.subset y (hab.closed x hxb hnew bs hbs y hy hknown)
    · exact hbc.closed x hx hxb bs hbs y hy hknown

section

variable [DecidableEq α]

def unseen (domain found : List α) : List α := domain.filter fun a => a ∉ found

theorem unseen_le (domain : List α) {found result : List α} (h : ∀ a ∈ found, a ∈ result) :
    (unseen domain result).length ≤ (unseen domain found).length := by
  refine (List.monotone_filter_right domain ?_).length_le
  intro a ha
  simp only [decide_eq_true_eq] at ha ⊢
  intro hfound
  exact ha (h a hfound)

theorem unseen_cons_lt {domain found : List α} {a : α} (hdomain : a ∈ domain)
    (hnew : a ∉ found) :
    (unseen domain (a :: found)).length < (unseen domain found).length := by
  have hfilter : unseen domain (a :: found) = (unseen domain found).filter fun b => b ≠ a := by
    rw [unseen, unseen, List.filter_filter]
    refine List.filter_congr ?_
    intro b _
    simp only [List.mem_cons, not_or, ne_eq, Bool.decide_and]
  rw [hfilter]
  refine List.length_filter_lt_length_iff_exists.mpr ⟨a, ?_, ?_⟩
  · rw [unseen, List.mem_filter]
    exact ⟨hdomain, by simpa using hnew⟩
  · simp

/-- What a search adds from some nodes: a closed set of nodes that can be reached. -/
structure Searched (next : α → Option (List α)) (roots found result : List α) : Prop where
  more : Extends next found result
  root_mem : ∀ a ∈ roots, (next a).isSome = true → a ∈ result
  reached : ∀ c ∈ result, c ∉ found → ∃ a ∈ roots, Reaches next a c

theorem searched_foldl {depth : Nat} {domain : List α}
    (ih : ∀ a found, (unseen domain found).length < depth →
      Searched next [a] found (search next depth a found)) (bs : List α) :
    ∀ found, (unseen domain found).length < depth →
      Searched next bs found (bs.foldl (fun found b => search next depth b found) found) := by
  induction bs with
  | nil =>
    intro found _
    refine ⟨Extends.refl found, ?_, ?_⟩
    · intro a ha
      cases ha
    · intro c hc hnew
      exact absurd hc hnew
  | cons b bs ihbs =>
    intro found hdepth
    have hfirst := ih b found hdepth
    have hless := unseen_le domain hfirst.more.subset
    have hrest := ihbs (search next depth b found) (by omega)
    rw [List.foldl_cons]
    refine ⟨hfirst.more.trans hrest.more, ?_, ?_⟩
    · intro a ha hknown
      rcases List.mem_cons.mp ha with rfl | ha
      · exact hrest.more.subset a (hfirst.root_mem a (.head _) hknown)
      · exact hrest.root_mem a ha hknown
    · intro c hc hnew
      by_cases hcb : c ∈ search next depth b found
      · obtain ⟨a, ha, hreach⟩ := hfirst.reached c hcb hnew
        rcases List.mem_singleton.mp ha with rfl
        exact ⟨a, .head _, hreach⟩
      · obtain ⟨a, ha, hreach⟩ := hrest.reached c hc hcb
        exact ⟨a, List.mem_cons_of_mem b ha, hreach⟩

theorem searched_search {domain : List α} (hdomain : ∀ a bs, next a = some bs → a ∈ domain)
    (depth : Nat) : ∀ a found, (unseen domain found).length < depth →
      Searched next [a] found (search next depth a found) := by
  induction depth with
  | zero =>
    intro a found hdepth
    omega
  | succ depth ih =>
    intro a found hdepth
    rw [search]
    by_cases ha : a ∈ found
    · rw [if_pos ha]
      refine ⟨Extends.refl found, ?_, ?_⟩
      · intro b hb _
        rcases List.mem_singleton.mp hb with rfl
        exact ha
      · intro c hc hnew
        exact absurd hc hnew
    · rw [if_neg ha]
      cases hnext : next a with
      | none =>
        refine ⟨Extends.refl found, ?_, ?_⟩
        · intro b hb hknown
          rcases List.mem_singleton.mp hb with rfl
          rw [hnext] at hknown
          cases hknown
        · intro c hc hnew
          exact absurd hc hnew
      | some bs =>
        dsimp only
        have hlt := unseen_cons_lt (hdomain a bs hnext) ha
        have hrest := searched_foldl ih bs (a :: found) (by omega)
        have hself := hrest.more.subset a (.head _)
        refine ⟨⟨?_, ?_, ?_⟩, ?_, ?_⟩
        · intro b hb
          exact hrest.more.subset b (List.mem_cons_of_mem a hb)
        · intro hnodup
          exact hrest.more.nodup (List.nodup_cons.mpr ⟨ha, hnodup⟩)
        · -- the neighbours of the node itself are those the loop started from
          intro b hb hnew cs hcs c hc hknown
          by_cases hba : b = a
          · rw [hba, hnext] at hcs
            cases hcs
            exact hrest.root_mem c hc hknown
          · have hnew' : b ∉ a :: found := by
              intro hmem
              rcases List.mem_cons.mp hmem with h | h
              · exact hba h
              · exact hnew h
            exact hrest.more.closed b hb hnew' cs hcs c hc hknown
        · intro b hb _
          rcases List.mem_singleton.mp hb with rfl
          exact hself
        · intro c hc hnew
          refine ⟨a, .head _, ?_⟩
          by_cases hca : c = a
          · rw [hca]
            exact Reaches.refl hnext
          · have hnew' : c ∉ a :: found := by
              intro hmem
              rcases List.mem_cons.mp hmem with h | h
              · exact hca h
              · exact hnew h
            obtain ⟨b, hb, hreach⟩ := hrest.reached c hc hnew'
            exact Reaches.step hnext hb hreach

section

variable (domain : List α) (hdomain : ∀ a bs, next a = some bs → a ∈ domain) {depth : Nat}
  (hdepth : domain.length < depth)

include hdomain hdepth

theorem searched_whole (a : α) : Searched next [a] [] (search next depth a []) := by
  refine searched_search hdomain depth a [] ?_
  have hle : (unseen domain []).length ≤ domain.length := List.length_filter_le _ _
  omega

theorem mem_search_iff {a b : α} : b ∈ search next depth a [] ↔ Reaches next a b := by
  have hall := searched_whole domain hdomain hdepth a
  constructor
  · intro hb
    obtain ⟨a', ha', hreach⟩ := hall.reached b hb List.not_mem_nil
    rcases List.mem_singleton.mp ha' with rfl
    exact hreach
  · intro hreach
    -- a path stays among the nodes found, since these are closed
    have hpath : ∀ c d, Reaches next c d → c ∈ search next depth a [] →
        d ∈ search next depth a [] := by
      intro c d hcd
      induction hcd with
      | refl hc =>
        intro hmem
        exact hmem
      | step hc hb hd ih =>
        intro hmem
        refine ih (hall.more.closed _ hmem List.not_mem_nil _ hc _ hb ?_)
        cases hd with
        | refl hd => rw [hd, Option.isSome_some]
        | step hd _ _ => rw [hd, Option.isSome_some]
    refine hpath a b hreach (hall.root_mem a (.head _) ?_)
    cases hreach with
    | refl ha => rw [ha, Option.isSome_some]
    | step ha _ _ => rw [ha, Option.isSome_some]

theorem nodup_search (a : α) : (search next depth a []).Nodup :=
  (searched_whole domain hdomain hdepth a).more.nodup List.nodup_nil

end

end

end Keystone3.Logic
