import Mathlib.Data.List.Basic
import Mathlib.Logic.Relation

set_option autoImplicit false

/-! # Versioned rows and conditional writes

A store whose rows carry a revision. Every write gives its row a revision that the row never had
before, and the store remembers all of them. So a revision names one version of a row: if a row
shows an old revision, nothing has happened to it since (`VersionedStore.rows_eq_of_revision`). This
is what makes a write that is conditional on a revision atomic with every read of that revision.

A step of the store may change any number of rows (`Evolves`); who caused it does not matter. -/

structure VersionedStore (κ ρ ν : Type) (revision : ρ → ν) where
  rows : κ → Option ρ
  history : κ → List ν
  dated : ∀ {k row}, rows k = some row → revision row ∈ history k

namespace VersionedStore

variable {κ ρ ν : Type} {revision : ρ → ν}

/-! ## Steps of the store -/

/-- One step of the store: each row stays, is written under a new revision, or is removed. -/
def Evolves (s t : VersionedStore κ ρ ν revision) : Prop :=
  ∀ k, (t.rows k = s.rows k ∧ t.history k = s.history k) ∨
    (∃ row, t.rows k = some row ∧ revision row ∉ s.history k ∧
      t.history k = revision row :: s.history k) ∨
    (t.rows k = none ∧ t.history k = s.history k)

theorem Evolves.refl (s : VersionedStore κ ρ ν revision) : s.Evolves s := by
  intro k
  exact .inl ⟨rfl, rfl⟩

variable {s t : VersionedStore κ ρ ν revision} {k : κ} {r : ν}

theorem Evolves.mem_history (h : s.Evolves t) (hr : r ∈ s.history k) : r ∈ t.history k := by
  rcases h k with ⟨-, hhist⟩ | ⟨row, -, -, hhist⟩ | ⟨-, hhist⟩
  · rwa [hhist]
  · rw [hhist]
    exact List.mem_cons_of_mem _ hr
  · rwa [hhist]

theorem mem_history_of_run (h : Relation.ReflTransGen Evolves s t) (hr : r ∈ s.history k) :
    r ∈ t.history k := by
  induction h with
  | refl => exact hr
  | tail _ hstep ih => exact hstep.mem_history ih

/-- A step that leaves a row at an old revision leaves the row alone. -/
theorem Evolves.rows_eq (h : s.Evolves t) {row : ρ} (hrow : t.rows k = some row)
    (hold : revision row ∈ s.history k) : s.rows k = some row := by
  rcases h k with ⟨hsame, -⟩ | ⟨row', hrow', hfresh, -⟩ | ⟨hnone, -⟩
  · rw [← hsame, hrow]
  · rw [hrow] at hrow'
    rw [← Option.some.inj hrow'] at hfresh
    exact absurd hold hfresh
  · rw [hnone] at hrow
    exact absurd hrow (by simp)

/-- **A revision names one version**: a row that shows a revision it already had at `s` is the row
    it was at `s`. -/
theorem rows_eq_of_revision (h : Relation.ReflTransGen Evolves s t) {row : ρ}
    (hrow : t.rows k = some row) (hold : revision row ∈ s.history k) : s.rows k = some row := by
  induction h with
  | refl => exact hrow
  | tail hrun hstep ih => exact ih (hstep.rows_eq hrow (mem_history_of_run hrun hold))

/-! ## Writes -/

section Writes

variable [DecidableEq κ]

/-- Write a row; its revision goes into the history. -/
def put (s : VersionedStore κ ρ ν revision) (k : κ) (row : ρ) : VersionedStore κ ρ ν revision where
  rows k' := if k' = k then some row else s.rows k'
  history k' := if k' = k then revision row :: s.history k else s.history k'
  dated := by
    intro k' row' h
    by_cases hk : k' = k
    · rw [if_pos hk] at h ⊢
      rw [Option.some.inj h]
      exact List.mem_cons_self
    · rw [if_neg hk] at h ⊢
      exact s.dated h

/-- Remove a row; its history stays. -/
def remove (s : VersionedStore κ ρ ν revision) (k : κ) : VersionedStore κ ρ ν revision where
  rows k' := if k' = k then none else s.rows k'
  history := s.history
  dated := by
    intro k' row' h
    by_cases hk : k' = k
    · rw [if_pos hk] at h
      exact absurd h (by simp)
    · rw [if_neg hk] at h
      exact s.dated h

@[simp] theorem put_rows_self (s : VersionedStore κ ρ ν revision) (k : κ) (row : ρ) :
    (s.put k row).rows k = some row := if_pos rfl

@[simp] theorem put_rows_of_ne (s : VersionedStore κ ρ ν revision) {k k' : κ} (h : k' ≠ k)
    (row : ρ) : (s.put k row).rows k' = s.rows k' := if_neg h

@[simp] theorem put_history_self (s : VersionedStore κ ρ ν revision) (k : κ) (row : ρ) :
    (s.put k row).history k = revision row :: s.history k := if_pos rfl

@[simp] theorem put_history_of_ne (s : VersionedStore κ ρ ν revision) {k k' : κ} (h : k' ≠ k)
    (row : ρ) : (s.put k row).history k' = s.history k' := if_neg h

theorem Evolves.put {s : VersionedStore κ ρ ν revision} {k : κ} {row : ρ}
    (hfresh : revision row ∉ s.history k) : s.Evolves (s.put k row) := by
  intro k'
  by_cases hk : k' = k
  · subst hk
    exact .inr (.inl ⟨row, s.put_rows_self k' row, hfresh, s.put_history_self k' row⟩)
  · exact .inl ⟨if_neg hk, if_neg hk⟩

theorem Evolves.remove (s : VersionedStore κ ρ ν revision) (k : κ) : s.Evolves (s.remove k) := by
  intro k'
  by_cases hk : k' = k
  · exact .inr (.inr ⟨if_pos hk, rfl⟩)
  · exact .inl ⟨if_neg hk, rfl⟩

end Writes

end VersionedStore
