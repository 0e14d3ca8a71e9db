import Mathlib.Data.List.Nodup
import Mathlib.Data.List.Sort

/-!
# Maps that are read in the order of their keys

A `BTreeMap` is the list of its entries in the order a loop over it takes them, no key
twice.
-/

namespace Keystone3.Logic

structure BTreeMap (κ ν : Type) where
  entries : List (κ × ν)
  nodup : (entries.map Prod.fst).Nodup

namespace BTreeMap

variable {κ ν : Type}

def empty : BTreeMap κ ν := ⟨[], List.nodup_nil⟩

def single (k : κ) (v : ν) : BTreeMap κ ν := ⟨[(k, v)], List.nodup_singleton k⟩

def keys (m : BTreeMap κ ν) : List κ := m.entries.map Prod.fst

def values (m : BTreeMap κ ν) : List ν := m.entries.map Prod.snd

def len (m : BTreeMap κ ν) : Nat := m.entries.length

def isEmpty (m : BTreeMap κ ν) : Bool := m.entries.isEmpty

def firstKeyValue (m : BTreeMap κ ν) : Option (κ × ν) := m.entries.head?

variable [DecidableEq κ]

def get (m : BTreeMap κ ν) (k : κ) : Option ν := (m.entries.find? fun e => e.1 = k).map Prod.snd

def ofList : List (κ × ν) → BTreeMap κ ν
  | [] => empty
  | (k, v) :: rest =>
    let m := ofList rest
    if h : k ∈ m.entries.map Prod.fst then m
    else ⟨(k, v) :: m.entries, List.nodup_cons.mpr ⟨h, m.nodup⟩⟩

theorem entries_ofList {l : List (κ × ν)} (h : (l.map Prod.fst).Nodup) :
    (ofList l).entries = l := by
  induction l with
  | nil => rfl
  | cons e l ih =>
    rw [List.map_cons, List.nodup_cons] at h
    have htail := ih h.2
    unfold ofList
    dsimp only
    rw [dif_neg (by rw [htail]; exact h.1)]
    exact congrArg (e :: ·) htail

def containsKey (m : BTreeMap κ ν) (k : κ) : Bool := (m.get k).isSome

theorem get_of_mem (m : BTreeMap κ ν) {k : κ} {v : ν} (h : (k, v) ∈ m.entries) :
    m.get k = some v := by
  have hfind : m.entries.find? (fun e => e.1 = k) = some (k, v) := by
    obtain ⟨entries, hnodup⟩ := m
    dsimp only at h ⊢
    induction entries with
    | nil => cases h
    | cons e es ih =>
      rw [List.map_cons, List.nodup_cons] at hnodup
      rcases List.mem_cons.mp h with rfl | hmem
      · exact List.find?_cons_of_pos (decide_eq_true rfl)
      · have hne : e.1 ≠ k := by
          intro he
          exact hnodup.1 (he ▸ List.mem_map_of_mem hmem)
        rw [List.find?_cons_of_neg (by simpa using hne)]
        exact ih hnodup.2 hmem
  unfold get
  rw [hfind]
  rfl

theorem mem_of_get (m : BTreeMap κ ν) {k : κ} {v : ν} (h : m.get k = some v) :
    (k, v) ∈ m.entries := by
  unfold get at h
  rw [Option.map_eq_some_iff] at h
  obtain ⟨e, he, rfl⟩ := h
  have hkey : e.1 = k := by simpa using List.find?_some he
  rw [← hkey]
  exact List.mem_of_find?_eq_some he

theorem key_mem_of_get (m : BTreeMap κ ν) {k : κ} {v : ν} (h : m.get k = some v) :
    k ∈ m.keys :=
  List.mem_map_of_mem (m.mem_of_get h)

theorem containsKey_iff (m : BTreeMap κ ν) (k : κ) : m.containsKey k = true ↔ k ∈ m.keys := by
  unfold containsKey
  constructor
  · intro h
    obtain ⟨v, hv⟩ := Option.isSome_iff_exists.mp h
    exact m.key_mem_of_get hv
  · intro h
    obtain ⟨⟨key, v⟩, he, rfl⟩ := List.mem_map.mp h
    rw [m.get_of_mem he]
    rfl

section

variable (le : κ → κ → Prop) [DecidableRel le]

def insert (m : BTreeMap κ ν) (k : κ) (v : ν) : BTreeMap κ ν where
  entries := (m.entries.filter fun e => e.1 ≠ k).orderedInsert (fun a b => le a.1 b.1) (k, v)
  nodup := by
    have hperm := (List.perm_orderedInsert (fun a b : κ × ν => le a.1 b.1) (k, v)
      (m.entries.filter fun e => e.1 ≠ k)).map Prod.fst
    rw [hperm.nodup_iff, List.map_cons, List.nodup_cons]
    refine ⟨?_, m.nodup.sublist (List.filter_sublist.map Prod.fst)⟩
    intro hmem
    obtain ⟨e, he, hkey⟩ := List.mem_map.mp hmem
    exact absurd hkey (of_decide_eq_true (List.mem_filter.mp he).2)

theorem mem_entries_insert {m : BTreeMap κ ν} {k : κ} {v : ν} {e : κ × ν} :
    e ∈ (m.insert le k v).entries ↔ e = (k, v) ∨ e ∈ m.entries ∧ e.1 ≠ k := by
  show e ∈ List.orderedInsert _ _ _ ↔ _
  rw [List.mem_orderedInsert, List.mem_filter, decide_eq_true_iff]

theorem mem_keys_insert {m : BTreeMap κ ν} {k k' : κ} {v : ν} :
    k' ∈ (m.insert le k v).keys ↔ k' = k ∨ k' ∈ m.keys := by
  unfold keys
  constructor
  · intro h
    obtain ⟨e, he, rfl⟩ := List.mem_map.mp h
    rcases (mem_entries_insert le).mp he with rfl | he
    · exact .inl rfl
    · exact .inr (List.mem_map_of_mem he.1)
  · rintro (rfl | h)
    · exact List.mem_map.mpr ⟨(k', v), (mem_entries_insert le).mpr (.inl rfl), rfl⟩
    · by_cases hk : k' = k
      · exact List.mem_map.mpr ⟨(k, v), (mem_entries_insert le).mpr (.inl rfl), hk.symm⟩
      · obtain ⟨e, he, rfl⟩ := List.mem_map.mp h
        exact List.mem_map_of_mem ((mem_entries_insert le).mpr (.inr ⟨he, hk⟩))

end

end BTreeMap

end Keystone3.Logic
