import Mathlib.Data.List.Nodup

set_option autoImplicit false

/-! # Sorting by a comparison

`SortedBy cmp l` says that `l` is in the order of `cmp`. A `Sorter` is any procedure that permutes
its input into order; which of several equal elements comes first is left open, so that unstable
sorts are covered. Merge sort is one (`Sorter.stable`).

Two facts carry the canonical forms. Sorting permutations of one list gives one result as soon as
equal elements are identical (`Sorter.sort_eq_of_perm`), and in a sorted list an equal neighbour is
the only kind of duplicate there is (`SortedBy.hasAdjacent_eq_false_iff`). Both are used through a
key that the comparison looks at first (`KeyFirst`). -/

open Std (TransCmp LawfulEqCmp)

variable {α κ : Type}

/-- No element comes before a smaller one. -/
def SortedBy (cmp : α → α → Ordering) (l : List α) : Prop :=
  l.Pairwise (fun a b => (cmp a b).isLE = true)

/-- A sorting procedure, stable or not. -/
structure Sorter where
  sort : {α : Type} → (α → α → Ordering) → List α → List α
  sort_perm : ∀ {α : Type} (cmp : α → α → Ordering) (l : List α), (sort cmp l).Perm l
  sort_sorted : ∀ {α : Type} (cmp : α → α → Ordering) [TransCmp cmp] (l : List α),
    SortedBy cmp (sort cmp l)

/-- Merge sort, which keeps equal elements in their order. -/
def Sorter.stable : Sorter where
  sort cmp l := l.mergeSort (fun a b => (cmp a b).isLE)
  sort_perm cmp l := List.mergeSort_perm l _
  sort_sorted cmp _ l := by
    apply List.pairwise_mergeSort
    · intro a b c hab hbc
      exact TransCmp.isLE_trans hab hbc
    · intro a b
      have hswap : cmp a b = (cmp b a).swap := Std.OrientedCmp.eq_swap
      rw [hswap]
      cases cmp b a <;> rfl

theorem Sorter.perm_of_sort_eq (S : Sorter) {cmp : α → α → Ordering} {l l' : List α}
    (h : S.sort cmp l = S.sort cmp l') : l.Perm l' := by
  have hperm := S.sort_perm cmp l
  rw [h] at hperm
  exact hperm.symm.trans (S.sort_perm cmp l')

/-- Sorting finds the arrangement that is in order, where equal elements are identical. -/
theorem Sorter.sort_eq_of_sortedBy (S : Sorter) {cmp : α → α → Ordering} [TransCmp cmp]
    {l l' : List α} (hties : ∀ a ∈ l, ∀ b ∈ l, cmp a b = .eq → a = b) (hperm : l.Perm l')
    (hl' : SortedBy cmp l') : S.sort cmp l = l' := by
  have hsorted : (S.sort cmp l).Perm l' := (S.sort_perm cmp l).trans hperm
  refine List.Perm.eq_of_pairwise ?_ (S.sort_sorted cmp l) hl' hsorted
  intro a b ha hb hab hba
  have ha' : a ∈ l := (S.sort_perm cmp l).mem_iff.mp ha
  exact hties a ha' b (hperm.mem_iff.mpr hb) (Std.OrientedCmp.isLE_antisymm hab hba)

/-- Sorting forgets the order of a list whose equal elements are identical. -/
theorem Sorter.sort_eq_of_perm (S : Sorter) {cmp : α → α → Ordering} [TransCmp cmp] {l l' : List α}
    (hties : ∀ a ∈ l, ∀ b ∈ l, cmp a b = .eq → a = b) (hperm : l.Perm l') :
    S.sort cmp l = S.sort cmp l' :=
  S.sort_eq_of_sortedBy hties (hperm.trans (S.sort_perm cmp l').symm) (S.sort_sorted cmp l')

/-! ## Comparisons that look at a key first -/

/-- Elements in the order of `cmp` have their keys in the order of `kcmp`. -/
def KeyFirst (cmp : α → α → Ordering) (key : α → κ) (kcmp : κ → κ → Ordering) : Prop :=
  ∀ a b, (cmp a b).isLE = true → (kcmp (key a) (key b)).isLE = true

theorem KeyFirst.lex {cmp cmp' : α → α → Ordering} {key : α → κ} {kcmp : κ → κ → Ordering}
    (h : KeyFirst cmp key kcmp) : KeyFirst (compareLex cmp cmp') key kcmp := by
  intro a b hab
  apply h a b
  unfold compareLex at hab
  cases hcmp : cmp a b with
  | lt => rfl
  | eq => rfl
  | gt =>
      rw [hcmp] at hab
      exact absurd hab (by simp)

theorem lawfulEqCmp_compareOn [Ord κ] [Std.TransOrd κ] [Std.LawfulEqOrd κ] {f : α → κ}
    (hf : Function.Injective f) : LawfulEqCmp (compareOn f) where
  compare_self := Std.ReflCmp.compare_self (α := κ)
  eq_of_compare h := hf (Std.LawfulEqCmp.eq_of_compare h)

/-- Some two neighbours of the list are related. -/
def hasAdjacent (p : α → α → Bool) (l : List α) : Bool :=
  (l.zip l.tail).any (fun w => p w.1 w.2)

@[simp] theorem hasAdjacent_cons_cons (p : α → α → Bool) (a b : α) (l : List α) :
    hasAdjacent p (a :: b :: l) = (p a b || hasAdjacent p (b :: l)) := by
  simp [hasAdjacent]

section Key

variable {cmp : α → α → Ordering} {key : α → κ} {kcmp : κ → κ → Ordering} [TransCmp kcmp]
  [LawfulEqCmp kcmp]

/-- A key occurs twice in a sorted list exactly when two neighbours share it. -/
theorem SortedBy.hasAdjacent_eq_false_iff [DecidableEq κ] (hkey : KeyFirst cmp key kcmp)
    {l : List α} (hl : SortedBy cmp l) :
    hasAdjacent (fun a b => key a == key b) l = false ↔ (l.map key).Nodup := by
  induction l with
  | nil => simp [hasAdjacent]
  | cons a l ih =>
      cases l with
      | nil => simp [hasAdjacent]
      | cons b l =>
          obtain ⟨ha, hbl⟩ := List.pairwise_cons.mp hl
          rw [hasAdjacent_cons_cons, Bool.or_eq_false_iff, ih hbl, List.map_cons (a := a),
            List.nodup_cons]
          refine and_congr_left (fun _ => ?_)
          constructor
          · intro hne hmem
            obtain ⟨c, hc, hca⟩ := List.mem_map.mp hmem
            -- `key b` lies between `key a` and `key c`, which are equal.
            have hab := hkey a b (ha b (List.mem_cons_self ..))
            have hba : (kcmp (key b) (key a)).isLE = true := by
              rcases List.mem_cons.mp hc with rfl | hc
              · have hself : kcmp (key a) (key a) = .eq := Std.ReflCmp.compare_self
                rw [hca, hself]
                rfl
              · rw [← hca]
                exact hkey b c ((List.pairwise_cons.mp hbl).1 c hc)
            have heq := Std.LawfulEqCmp.eq_of_compare (Std.OrientedCmp.isLE_antisymm hab hba)
            simp [heq] at hne
          · intro hnotMem
            have hne : key a ≠ key b := fun h => hnotMem (by simp [h])
            simpa using hne

/-- After sorting, equal neighbours tell whether a key occurs twice in the list. -/
theorem Sorter.hasAdjacent_sort_eq_false_iff [DecidableEq κ] [TransCmp cmp] (S : Sorter)
    (hkey : KeyFirst cmp key kcmp) (l : List α) :
    hasAdjacent (fun a b => key a == key b) (S.sort cmp l) = false ↔ (l.map key).Nodup := by
  rw [(S.sort_sorted cmp l).hasAdjacent_eq_false_iff hkey]
  exact ((S.sort_perm cmp l).map key).nodup_iff

/-- Sorting forgets the order of a list without repeated keys. -/
theorem Sorter.sort_eq_of_perm_of_nodup [TransCmp cmp] (S : Sorter) (hkey : KeyFirst cmp key kcmp)
    {l l' : List α} (hnodup : (l.map key).Nodup) (hperm : l.Perm l') :
    S.sort cmp l = S.sort cmp l' := by
  apply S.sort_eq_of_perm _ hperm
  intro a ha b hb hab
  have hle : (cmp a b).isLE = true := by rw [hab]; rfl
  have hge : (cmp b a).isLE = true := by rw [Std.OrientedCmp.eq_symm hab]; rfl
  have hkeys := Std.LawfulEqCmp.eq_of_compare
    (Std.OrientedCmp.isLE_antisymm (hkey a b hle) (hkey b a hge))
  exact List.inj_on_of_nodup_map hnodup ha hb hkeys

end Key
