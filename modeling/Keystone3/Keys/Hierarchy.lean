import Mathlib.Data.Option.Basic

/-!
# Hierarchies of keys

Every key has children, and a path leads from a key to one below it. Some steps
can be taken from the public half of a key alone; the others are hardened. By
`derivePub_neuter` the public half of a key leads to the public halves of the
keys below it.
-/

namespace Keystone3.Keys

/-- Private keys, public keys and the steps to their children. -/
structure Hierarchy (Priv Pub Step : Type) where
  hardened : Step → Bool
  neuter : Priv → Pub
  childPriv : Priv → Step → Option Priv
  childPub : Pub → Step → Option Pub
  childPub_hardened : ∀ k s, hardened s = true → childPub k s = none
  childPub_neuter : ∀ k s, hardened s = false → childPub (neuter k) s = (childPriv k s).map neuter

namespace Hierarchy

variable {Priv Pub Step : Type} (keys : Hierarchy Priv Pub Step)

def derivePriv : Priv → List Step → Option Priv
  | k, [] => some k
  | k, s :: path => (keys.childPriv k s).bind fun child => derivePriv child path

def derivePub : Pub → List Step → Option Pub
  | k, [] => some k
  | k, s :: path => (keys.childPub k s).bind fun child => derivePub child path

variable {keys}

theorem derivePriv_append {k : Priv} {p q : List Step} : keys.derivePriv k (p ++ q)
    = (keys.derivePriv k p).bind fun child => keys.derivePriv child q := by
  induction p generalizing k with
  | nil => rfl
  | cons s p ih =>
    rw [List.cons_append, derivePriv, derivePriv]
    cases keys.childPriv k s with
    | none => rfl
    | some child => exact ih

theorem not_hardened_of_derivePub {k child : Pub} {path : List Step}
    (h : keys.derivePub k path = some child) : ∀ s ∈ path, keys.hardened s = false := by
  induction path generalizing k with
  | nil => exact fun s hs => absurd hs List.not_mem_nil
  | cons s path ih =>
    rw [derivePub, Option.bind_eq_some_iff] at h
    obtain ⟨next, hnext, h⟩ := h
    have hs : keys.hardened s = false := by
      cases hhard : keys.hardened s with
      | false => rfl
      | true =>
        rw [keys.childPub_hardened k s hhard] at hnext
        cases hnext
    intro t ht
    rcases List.mem_cons.mp ht with rfl | ht
    · exact hs
    · exact ih h t ht

theorem derivePub_neuter {k : Priv} {child : Pub} {path : List Step}
    (h : keys.derivePub (keys.neuter k) path = some child) :
    ∃ k', keys.derivePriv k path = some k' ∧ keys.neuter k' = child := by
  induction path generalizing k with
  | nil => exact ⟨k, rfl, Option.some.inj h⟩
  | cons s path ih =>
    have hs := not_hardened_of_derivePub h s (.head _)
    rw [derivePub, keys.childPub_neuter k s hs, Option.bind_eq_some_iff] at h
    obtain ⟨next, hnext, h⟩ := h
    obtain ⟨next', hnext', rfl⟩ := Option.map_eq_some_iff.mp hnext
    obtain ⟨k', hk', hchild⟩ := ih h
    refine ⟨k', ?_, hchild⟩
    rw [derivePriv, hnext', Option.bind_some]
    exact hk'

theorem derivePriv_of_derivePub {root k : Priv} {child : Pub} {p q : List Step}
    (hroot : keys.derivePriv root p = some k) (h : keys.derivePub (keys.neuter k) q = some child) :
    ∃ k', keys.derivePriv root (p ++ q) = some k' ∧ keys.neuter k' = child := by
  obtain ⟨k', hk', hchild⟩ := derivePub_neuter h
  refine ⟨k', ?_, hchild⟩
  rw [derivePriv_append, hroot, Option.bind_some]
  exact hk'

end Hierarchy

end Keystone3.Keys
