import SerenSecrets.Lib.Except
import SerenSecrets.Lib.Serde
import Mathlib.Data.List.Nodup
import Mathlib.Data.List.Perm.Basic

set_option autoImplicit false

/-! # JSON values up to the order of keys

`Json.Reordered` relates two values that differ only in the order of the keys of their objects, at
any depth. Among the values that are related to one another there is one whose objects have their
keys in byte order, `Json.sorted`; it is how a sorted map type keeps a value. With distinct keys,
two values have the same sorted form exactly when they are reordered
(`Json.sorted_eq_sorted_iff`).

`Json.all` says that a condition holds everywhere inside a value, `Json.depth` counts how deep its
arrays and objects are nested. -/

namespace Json

/-! ## Induction over values -/

/-- Induction with one hypothesis for all elements of an array, or all members of an object. -/
@[elab_as_elim]
theorem induction {motive : Json → Prop} (null : motive .null) (bool : ∀ b, motive (.bool b))
    (num : ∀ n, motive (.num n)) (str : ∀ s, motive (.str s))
    (arr : ∀ elems, (∀ a ∈ elems, motive a) → motive (.arr elems))
    (obj : ∀ members, (∀ m ∈ members, motive m.2) → motive (.obj members)) (a : Json) :
    motive a :=
  match a with
  | .null => null
  | .bool b => bool b
  | .num n => num n
  | .str s => str s
  | .arr elems => arr elems fun a _ => induction null bool num str arr obj a
  | .obj members => obj members fun m _ => induction null bool num str arr obj m.2
termination_by sizeOf a
decreasing_by
  · have := List.sizeOf_lt_of_mem ‹_ ∈ elems›
    simp only [Json.arr.sizeOf_spec]
    omega
  · have := List.sizeOf_lt_of_mem ‹_ ∈ members›
    have : sizeOf m = 1 + sizeOf m.1 + sizeOf m.2 := rfl
    simp only [Json.obj.sizeOf_spec]
    omega

/-! ## Conditions that hold everywhere -/

mutual

/-- The condition holds of the value and of all values inside it. -/
def all (p : Json → Bool) : Json → Bool
  | .null => p .null
  | .bool b => p (.bool b)
  | .num n => p (.num n)
  | .str s => p (.str s)
  | .arr elems => p (.arr elems) && allElems p elems
  | .obj members => p (.obj members) && allMembers p members

def allElems (p : Json → Bool) : List Json → Bool
  | [] => true
  | a :: rest => a.all p && allElems p rest

def allMembers (p : Json → Bool) : List (String × Json) → Bool
  | [] => true
  | (_, a) :: rest => a.all p && allMembers p rest

end

theorem allElems_eq (p : Json → Bool) (elems : List Json) :
    allElems p elems = elems.all (fun a => a.all p) := by
  induction elems with
  | nil => rfl
  | cons a rest ih => rw [allElems, ih, List.all_cons]

theorem allMembers_eq (p : Json → Bool) (members : List (String × Json)) :
    allMembers p members = members.all (fun m => m.2.all p) := by
  induction members with
  | nil => rfl
  | cons m rest ih => rw [allMembers, ih, List.all_cons]

theorem all_arr {p : Json → Bool} {elems : List Json} :
    (Json.arr elems).all p = true ↔ p (.arr elems) = true ∧ ∀ a ∈ elems, a.all p = true := by
  rw [all, allElems_eq, Bool.and_eq_true, List.all_eq_true]

theorem all_obj {p : Json → Bool} {members : List (String × Json)} :
    (Json.obj members).all p = true ↔
      p (.obj members) = true ∧ ∀ m ∈ members, m.2.all p = true := by
  rw [all, allMembers_eq, Bool.and_eq_true, List.all_eq_true]

/-- No object has a key twice. -/
def distinctKeys (a : Json) : Bool :=
  a.all fun
    | .obj members => decide (members.map Prod.fst).Nodup
    | _ => true

/-- No number is a float. -/
def floatFree (a : Json) : Bool :=
  a.all fun
    | .num (.float _) => false
    | _ => true

/-- Every integer fits in 64 bits, with or without a sign. -/
def intsFit (a : Json) : Bool :=
  a.all fun
    | .num (.int i) => decide (-2 ^ 63 ≤ i ∧ i < 2 ^ 64)
    | _ => true

theorem distinctKeys_arr {elems : List Json} :
    (Json.arr elems).distinctKeys = true ↔ ∀ a ∈ elems, a.distinctKeys = true := by
  simp only [distinctKeys, all_arr, true_and]

theorem distinctKeys_obj {members : List (String × Json)} :
    (Json.obj members).distinctKeys = true ↔
      (members.map Prod.fst).Nodup ∧ ∀ m ∈ members, m.2.distinctKeys = true := by
  simp only [distinctKeys, all_obj, decide_eq_true_eq]

theorem floatFree_arr_eq (elems : List Json) :
    (Json.arr elems).floatFree = elems.all floatFree := by
  rw [floatFree, all, allElems_eq, Bool.true_and]
  rfl

theorem floatFree_obj_eq (members : List (String × Json)) :
    (Json.obj members).floatFree = members.all (fun m => m.2.floatFree) := by
  rw [floatFree, all, allMembers_eq, Bool.true_and]
  rfl

theorem floatFree_arr {elems : List Json} :
    (Json.arr elems).floatFree = true ↔ ∀ a ∈ elems, a.floatFree = true := by
  simp only [floatFree, all_arr, true_and]

theorem floatFree_obj {members : List (String × Json)} :
    (Json.obj members).floatFree = true ↔ ∀ m ∈ members, m.2.floatFree = true := by
  simp only [floatFree, all_obj, true_and]

theorem intsFit_int {i : ℤ} (hlow : -2 ^ 63 ≤ i) (hhigh : i < 2 ^ 64) :
    (Json.int i).intsFit = true :=
  decide_eq_true ⟨hlow, hhigh⟩

/-! ## Depth -/

mutual

/-- How deep arrays and objects are nested. -/
def depth : Json → ℕ
  | .null => 0
  | .bool _ => 0
  | .num _ => 0
  | .str _ => 0
  | .arr elems => depthElems elems + 1
  | .obj members => depthMembers members + 1

def depthElems : List Json → ℕ
  | [] => 0
  | a :: rest => max a.depth (depthElems rest)

def depthMembers : List (String × Json) → ℕ
  | [] => 0
  | (_, a) :: rest => max a.depth (depthMembers rest)

end

theorem depthElems_le {elems : List Json} {d : ℕ} :
    depthElems elems ≤ d ↔ ∀ a ∈ elems, a.depth ≤ d := by
  induction elems with
  | nil => simp [depthElems]
  | cons a rest ih => rw [depthElems, Nat.max_le, ih, List.forall_mem_cons]

theorem depthMembers_le {members : List (String × Json)} {d : ℕ} :
    depthMembers members ≤ d ↔ ∀ m ∈ members, m.2.depth ≤ d := by
  induction members with
  | nil => simp [depthMembers]
  | cons m rest ih =>
      obtain ⟨k, a⟩ := m
      rw [depthMembers, Nat.max_le, ih, List.forall_mem_cons]

theorem depth_arr_le {elems : List Json} {d : ℕ} :
    (Json.arr elems).depth ≤ d + 1 ↔ ∀ a ∈ elems, a.depth ≤ d := by
  rw [depth, Nat.add_le_add_iff_right, depthElems_le]

theorem depth_obj_le {members : List (String × Json)} {d : ℕ} :
    (Json.obj members).depth ≤ d + 1 ↔ ∀ m ∈ members, m.2.depth ≤ d := by
  rw [depth, Nat.add_le_add_iff_right, depthMembers_le]

/-! ## Equal up to the order of keys -/

mutual

/-- The values differ only in the order of the keys of their objects. -/
def Reordered : Json → Json → Prop
  | .null, b => b = .null
  | .bool x, b => b = .bool x
  | .num n, b => b = .num n
  | .str s, b => b = .str s
  | .arr elems, b => ∃ elems', b = .arr elems' ∧ ReorderedElems elems elems'
  | .obj members, b => ∃ members' matched, b = .obj members' ∧
      ReorderedMembers members matched ∧ matched.Perm members'

/-- Element by element. -/
def ReorderedElems : List Json → List Json → Prop
  | [], l => l = []
  | a :: rest, l => ∃ b rest', l = b :: rest' ∧ a.Reordered b ∧ ReorderedElems rest rest'

/-- Member by member, under the same keys. -/
def ReorderedMembers : List (String × Json) → List (String × Json) → Prop
  | [], l => l = []
  | (k, a) :: rest, l =>
      ∃ b rest', l = (k, b) :: rest' ∧ a.Reordered b ∧ ReorderedMembers rest rest'

end

/-- The same key with a reordered value. -/
def MemberReordered (m n : String × Json) : Prop := m.1 = n.1 ∧ m.2.Reordered n.2

theorem reorderedElems_iff {l m : List Json} :
    ReorderedElems l m ↔ List.Forall₂ Reordered l m := by
  induction l generalizing m with
  | nil => rw [ReorderedElems, List.forall₂_nil_left_iff]
  | cons a l ih =>
      rw [ReorderedElems, List.forall₂_cons_left_iff]
      constructor
      · rintro ⟨b, rest, rfl, hab, hrest⟩
        exact ⟨b, rest, hab, ih.mp hrest, rfl⟩
      · rintro ⟨b, rest, hab, hrest, rfl⟩
        exact ⟨b, rest, rfl, hab, ih.mpr hrest⟩

theorem reorderedMembers_iff {l m : List (String × Json)} :
    ReorderedMembers l m ↔ List.Forall₂ MemberReordered l m := by
  induction l generalizing m with
  | nil => rw [ReorderedMembers, List.forall₂_nil_left_iff]
  | cons a l ih =>
      obtain ⟨k, a⟩ := a
      rw [ReorderedMembers, List.forall₂_cons_left_iff]
      constructor
      · rintro ⟨b, rest, rfl, hab, hrest⟩
        exact ⟨(k, b), rest, ⟨rfl, hab⟩, ih.mp hrest, rfl⟩
      · rintro ⟨⟨k', b⟩, rest, ⟨rfl, hab⟩, hrest, rfl⟩
        exact ⟨b, rest, rfl, hab, ih.mpr hrest⟩

theorem reordered_arr {elems : List Json} {b : Json} :
    (Json.arr elems).Reordered b ↔
      ∃ elems', b = .arr elems' ∧ List.Forall₂ Reordered elems elems' := by
  simp only [Reordered, reorderedElems_iff]

theorem reordered_obj {members : List (String × Json)} {b : Json} :
    (Json.obj members).Reordered b ↔ ∃ members' matched, b = .obj members' ∧
      List.Forall₂ MemberReordered members matched ∧ matched.Perm members' := by
  simp only [Reordered, reorderedMembers_iff]

/-- A relation may be weakened where the left list has an element. -/
theorem forall₂_imp_of_mem {α β : Type} {R S : α → β → Prop} {l : List α} {m : List β}
    (h : List.Forall₂ R l m) (himp : ∀ a ∈ l, ∀ b, R a b → S a b) : List.Forall₂ S l m := by
  induction h with
  | nil => exact .nil
  | cons hab _ ih =>
      exact .cons (himp _ (by simp) _ hab) (ih fun a ha => himp a (List.mem_cons_of_mem _ ha))

theorem forall₂_trans_of_mem {α : Type} {R : α → α → Prop} {l m k : List α}
    (h : List.Forall₂ R l m) (h' : List.Forall₂ R m k)
    (htrans : ∀ a ∈ l, ∀ b c, R a b → R b c → R a c) : List.Forall₂ R l k := by
  induction h generalizing k with
  | nil => exact h'
  | cons hab _ ih =>
      cases h' with
      | cons hbc hrest =>
          refine .cons (htrans _ (by simp) _ _ hab hbc) (ih hrest ?_)
          exact fun a ha => htrans a (List.mem_cons_of_mem _ ha)

theorem Reordered.refl (a : Json) : a.Reordered a := by
  induction a using Json.induction with
  | null | bool | num | str => rw [Reordered]
  | arr elems ih =>
      exact reordered_arr.mpr ⟨elems, rfl, List.forall₂_same.mpr ih⟩
  | obj members ih =>
      refine reordered_obj.mpr ⟨members, members, rfl, List.forall₂_same.mpr ?_, .refl _⟩
      exact fun m hm => ⟨rfl, ih m hm⟩

theorem Reordered.symm {a b : Json} (h : a.Reordered b) : b.Reordered a := by
  induction a using Json.induction generalizing b with
  | null | bool | num | str =>
      rw [Reordered] at h
      rw [h, Reordered]
  | arr elems ih =>
      obtain ⟨elems', rfl, helems⟩ := reordered_arr.mp h
      refine reordered_arr.mpr ⟨elems, rfl, List.Forall₂.flip ?_⟩
      exact forall₂_imp_of_mem helems fun a ha b hab => ih a ha hab
  | obj members ih =>
      obtain ⟨members', matched, rfl, hmatch, hperm⟩ := reordered_obj.mp h
      have hback : List.Forall₂ MemberReordered matched members :=
        (forall₂_imp_of_mem hmatch fun m hm n hmn => ⟨hmn.1.symm, ih m hm hmn.2⟩).flip
      obtain ⟨matched', hmatched, hperm'⟩ := List.perm_comp_forall₂ hperm.symm hback
      exact reordered_obj.mpr ⟨members, matched', rfl, hmatched, hperm'⟩

theorem Reordered.trans {a b c : Json} (h : a.Reordered b) (h' : b.Reordered c) :
    a.Reordered c := by
  induction a using Json.induction generalizing b c with
  | null | bool | num | str =>
      rw [Reordered] at h
      rw [h, Reordered] at h'
      rw [h', Reordered]
  | arr elems ih =>
      obtain ⟨elems', rfl, helems⟩ := reordered_arr.mp h
      obtain ⟨elems'', rfl, helems'⟩ := reordered_arr.mp h'
      refine reordered_arr.mpr ⟨elems'', rfl, ?_⟩
      exact forall₂_trans_of_mem helems helems' fun a ha b c hab hbc => ih a ha hab hbc
  | obj members ih =>
      obtain ⟨members', matched, rfl, hmatch, hperm⟩ := reordered_obj.mp h
      obtain ⟨members'', matched', rfl, hmatch', hperm'⟩ := reordered_obj.mp h'
      obtain ⟨between, hbetween, hperm''⟩ := List.perm_comp_forall₂ hperm hmatch'
      refine reordered_obj.mpr ⟨members'', between, rfl, ?_, hperm''.trans hperm'⟩
      exact forall₂_trans_of_mem hmatch hbetween fun m hm n k hmn hnk =>
        ⟨hmn.1.trans hnk.1, ih m hm hmn.2 hnk.2⟩

theorem map_fst_eq_of_forall₂ {l m : List (String × Json)}
    (h : List.Forall₂ MemberReordered l m) : l.map Prod.fst = m.map Prod.fst := by
  induction h with
  | nil => rfl
  | cons hmn _ ih => rw [List.map_cons, List.map_cons, hmn.1, ih]

/-- A condition that does not look at the order of keys holds everywhere inside both or neither. -/
theorem Reordered.all {p : Json → Bool}
    (hp : ∀ {a b : Json}, a.Reordered b → p a = true → p b = true) {a b : Json}
    (h : a.Reordered b) (ha : a.all p = true) : b.all p = true := by
  induction a using Json.induction generalizing b with
  | null | bool | num | str =>
      rw [Reordered] at h
      rwa [h]
  | arr elems ih =>
      obtain ⟨hnode, helems⟩ := all_arr.mp ha
      have hb := hp h hnode
      obtain ⟨elems', rfl, hmatch⟩ := reordered_arr.mp h
      refine all_arr.mpr ⟨hb, ?_⟩
      intro b hmem
      obtain ⟨a, ha, hab⟩ := hmatch.exists_of_mem_right hmem
      exact ih a ha hab (helems a ha)
  | obj members ih =>
      obtain ⟨hnode, hmembers⟩ := all_obj.mp ha
      have hb := hp h hnode
      obtain ⟨members', matched, rfl, hmatch, hperm⟩ := reordered_obj.mp h
      refine all_obj.mpr ⟨hb, ?_⟩
      intro n hn
      obtain ⟨m, hm, hmn⟩ := hmatch.exists_of_mem_right (hperm.mem_iff.mpr hn)
      exact ih m hm hmn.2 (hmembers m hm)

theorem Reordered.distinctKeys {a b : Json} (h : a.Reordered b) (ha : a.distinctKeys = true) :
    b.distinctKeys = true := by
  refine Reordered.all ?_ h ha
  intro a b hab hnode
  cases a with
  | null | bool | num | str =>
      rw [Reordered] at hab
      rw [hab]
  | arr elems =>
      obtain ⟨elems', rfl, -⟩ := reordered_arr.mp hab
      rfl
  | obj members =>
      obtain ⟨members', matched, rfl, hmatch, hperm⟩ := reordered_obj.mp hab
      rw [decide_eq_true_eq] at hnode ⊢
      rw [map_fst_eq_of_forall₂ hmatch] at hnode
      exact ((hperm.map Prod.fst).nodup_iff).mp hnode

/-! ### Members of reordered objects -/

theorem find?_key_eq_some_iff {members : List (String × Json)} {k : String} {m : String × Json}
    (h : (members.map Prod.fst).Nodup) :
    members.find? (fun n => n.1 == k) = some m ↔ m ∈ members ∧ m.1 = k := by
  constructor
  · intro hfind
    exact ⟨List.mem_of_find?_eq_some hfind, by simpa using List.find?_some hfind⟩
  · rintro ⟨hmem, rfl⟩
    cases hfind : members.find? (fun n => n.1 == m.1) with
    | none => exact absurd (List.find?_eq_none.mp hfind m hmem) (by simp)
    | some n =>
        have hkey : n.1 = m.1 := by simpa using List.find?_some hfind
        rw [List.inj_on_of_nodup_map h (List.mem_of_find?_eq_some hfind) hmem hkey]

/-- With distinct keys, a member is found under its key. -/
theorem get?_eq_some_iff {members : List (String × Json)} {k : String} {a : Json}
    (h : (members.map Prod.fst).Nodup) :
    (Json.obj members).get? k = some a ↔ (k, a) ∈ members := by
  simp only [get?, Option.map_eq_some_iff, find?_key_eq_some_iff h]
  constructor
  · rintro ⟨⟨k', a'⟩, ⟨hmem, rfl⟩, rfl⟩
    exact hmem
  · intro hmem
    exact ⟨(k, a), ⟨hmem, rfl⟩, rfl⟩

/-- Reordered objects have the same keys, with reordered values. -/
theorem Reordered.get? {a b : Json} (h : a.Reordered b) (ha : a.distinctKeys = true) (k : String) :
    Option.Rel Reordered (a.get? k) (b.get? k) := by
  cases a with
  | null | bool | num | str =>
      rw [Reordered] at h
      rw [h]
      exact .none
  | arr elems =>
      obtain ⟨elems', rfl, -⟩ := reordered_arr.mp h
      exact .none
  | obj members =>
      have hb := h.distinctKeys ha
      obtain ⟨members', matched, rfl, hmatch, hperm⟩ := reordered_obj.mp h
      have hkeys := (distinctKeys_obj.mp ha).1
      have hkeys' := (distinctKeys_obj.mp hb).1
      cases hget : (Json.obj members).get? k with
      | some value =>
          have hmem := (get?_eq_some_iff hkeys).mp hget
          obtain ⟨⟨k', value'⟩, hmem', hk, hvalue⟩ := hmatch.exists_of_mem_left hmem
          have hk' : k = k' := hk
          subst hk'
          rw [(get?_eq_some_iff hkeys').mpr (hperm.mem_iff.mp hmem')]
          exact .some hvalue
      | none =>
          cases hget' : (Json.obj members').get? k with
          | none => exact .none
          | some value' =>
              have hmem' := hperm.mem_iff.mpr ((get?_eq_some_iff hkeys').mp hget')
              obtain ⟨⟨k', value⟩, hmem, hk, -⟩ := hmatch.exists_of_mem_right hmem'
              have hk' : k' = k := hk
              subst hk'
              rw [(get?_eq_some_iff hkeys).mpr hmem] at hget
              cases hget

/-! ## The sorted form -/

/-- The keys of the members are in strict byte order. -/
def KeyLt (m n : String × Json) : Prop := compare (utf8 m.1) (utf8 n.1) = .lt

instance : DecidableRel KeyLt := fun m n =>
  inferInstanceAs (Decidable (compare (utf8 m.1) (utf8 n.1) = .lt))

/-- The members of an object, inserted one by one into a map that is kept in byte order. -/
def sortMembers (members : List (String × Json)) : List (String × Json) :=
  members.foldl (fun map m => insertMember m.1 m.2 map) []

mutual

/-- The value with the keys of all its objects in byte order. -/
def sorted : Json → Json
  | .null => .null
  | .bool b => .bool b
  | .num n => .num n
  | .str s => .str s
  | .arr elems => .arr (sortedElems elems)
  | .obj members => .obj (sortMembers (sortedMembers members))

def sortedElems : List Json → List Json
  | [] => []
  | a :: rest => a.sorted :: sortedElems rest

def sortedMembers : List (String × Json) → List (String × Json)
  | [] => []
  | (k, a) :: rest => (k, a.sorted) :: sortedMembers rest

end

example : (Json.obj [("b", .arr [.obj [("d", .null), ("c", .null)]]), ("a", .null)]).sorted
    = .obj [("a", .null), ("b", .arr [.obj [("c", .null), ("d", .null)]])] := rfl

/-- Every object has its keys in strict byte order. -/
def isSorted (a : Json) : Bool :=
  a.all fun
    | .obj members => decide (members.Pairwise KeyLt)
    | _ => true

theorem sortedElems_eq (elems : List Json) : sortedElems elems = elems.map sorted := by
  induction elems with
  | nil => rfl
  | cons a rest ih => rw [sortedElems, ih, List.map_cons]

theorem sortedMembers_eq (members : List (String × Json)) :
    sortedMembers members = members.map (fun m => (m.1, m.2.sorted)) := by
  induction members with
  | nil => rfl
  | cons m rest ih => rw [sortedMembers, ih, List.map_cons]

theorem sorted_arr (elems : List Json) : (Json.arr elems).sorted = .arr (elems.map sorted) := by
  rw [sorted, sortedElems_eq]

theorem sorted_obj (members : List (String × Json)) :
    (Json.obj members).sorted
      = .obj (sortMembers (members.map (fun m => (m.1, m.2.sorted)))) := by
  rw [sorted, sortedMembers_eq]

theorem KeyLt.trans {m n k : String × Json} (h : KeyLt m n) (h' : KeyLt n k) : KeyLt m k :=
  Std.TransCmp.lt_trans h h'

theorem KeyLt.ne {m n : String × Json} (h : KeyLt m n) : m.1 ≠ n.1 := by
  intro hkey
  have hself : compare (utf8 n.1) (utf8 n.1) = .eq := Std.ReflCmp.compare_self
  rw [KeyLt, hkey, hself] at h
  cases h

theorem nodup_of_pairwise_keyLt {members : List (String × Json)} (h : members.Pairwise KeyLt) :
    (members.map Prod.fst).Nodup :=
  List.pairwise_map.mpr (h.imp KeyLt.ne)

theorem isSorted_obj {members : List (String × Json)} :
    (Json.obj members).isSorted = true ↔
      members.Pairwise KeyLt ∧ ∀ m ∈ members, m.2.isSorted = true := by
  simp only [isSorted, all_obj, decide_eq_true_eq]

theorem isSorted_arr {elems : List Json} :
    (Json.arr elems).isSorted = true ↔ ∀ a ∈ elems, a.isSorted = true := by
  simp only [isSorted, all_arr, true_and]

theorem insertMember_perm {k : String} {a : Json} {members : List (String × Json)}
    (hk : k ∉ members.map Prod.fst) :
    (insertMember k a members).Perm ((k, a) :: members) := by
  induction members with
  | nil => exact .refl _
  | cons m rest ih =>
      obtain ⟨k', a'⟩ := m
      simp only [List.map_cons, List.mem_cons, not_or] at hk
      rw [insertMember]
      cases hcmp : compare (utf8 k) (utf8 k') with
      | lt => exact .refl _
      | eq => exact absurd (utf8_injective (Std.LawfulEqCmp.eq_of_compare hcmp)) hk.1
      | gt => exact ((ih hk.2).cons (k', a')).trans (.swap ..)

theorem mem_insertMember {k : String} {a : Json} {members : List (String × Json)}
    {m : String × Json} (h : m ∈ insertMember k a members) : m = (k, a) ∨ m ∈ members := by
  induction members with
  | nil => exact .inl (List.mem_singleton.mp h)
  | cons n rest ih =>
      obtain ⟨k', a'⟩ := n
      rw [insertMember] at h
      cases hcmp : compare (utf8 k) (utf8 k') with
      | lt =>
          rw [hcmp] at h
          exact List.mem_cons.mp h
      | eq =>
          rw [hcmp, ← utf8_injective (Std.LawfulEqCmp.eq_of_compare hcmp)] at h
          exact (List.mem_cons.mp h).imp_right (List.mem_cons_of_mem _)
      | gt =>
          rw [hcmp] at h
          rcases List.mem_cons.mp h with rfl | h
          · exact .inr (by simp)
          · exact (ih h).imp_right (List.mem_cons_of_mem _)

theorem insertMember_pairwise {k : String} {a : Json} {members : List (String × Json)}
    (h : members.Pairwise KeyLt) : (insertMember k a members).Pairwise KeyLt := by
  induction members with
  | nil => exact List.pairwise_singleton ..
  | cons m rest ih =>
      obtain ⟨k', a'⟩ := m
      obtain ⟨hhead, hrest⟩ := List.pairwise_cons.mp h
      rw [insertMember]
      cases hcmp : compare (utf8 k) (utf8 k') with
      | lt =>
          have hlt : KeyLt (k, a) (k', a') := hcmp
          refine List.pairwise_cons.mpr ⟨?_, h⟩
          intro n hn
          rcases List.mem_cons.mp hn with rfl | hn
          · exact hlt
          · exact hlt.trans (hhead n hn)
      | eq => exact List.pairwise_cons.mpr ⟨hhead, hrest⟩
      | gt =>
          have hgt : KeyLt (k', a') (k, a) := Std.OrientedCmp.lt_of_gt hcmp
          refine List.pairwise_cons.mpr ⟨?_, ih hrest⟩
          intro n hn
          rcases mem_insertMember hn with rfl | hn
          · exact hgt
          · exact hhead n hn

theorem foldl_insertMember_perm {members map : List (String × Json)}
    (h : ((members ++ map).map Prod.fst).Nodup) :
    (members.foldl (fun map m => insertMember m.1 m.2 map) map).Perm (members ++ map) := by
  induction members generalizing map with
  | nil => exact .refl _
  | cons m rest ih =>
      rw [List.cons_append, List.map_cons, List.nodup_cons] at h
      have hmap : m.1 ∉ map.map Prod.fst := by
        intro hmem
        exact h.1 (by simp [hmem])
      have hinsert := insertMember_perm (a := m.2) hmap
      have hmoved : (rest ++ insertMember m.1 m.2 map).Perm (m :: (rest ++ map)) :=
        (hinsert.append_left rest).trans List.perm_middle
      refine (ih ?_).trans hmoved
      rw [(hmoved.map Prod.fst).nodup_iff]
      exact List.nodup_cons.mpr h

theorem sortMembers_perm {members : List (String × Json)} (h : (members.map Prod.fst).Nodup) :
    (sortMembers members).Perm members := by
  have hperm := @foldl_insertMember_perm members [] (by simpa using h)
  rwa [List.append_nil] at hperm

theorem sortMembers_pairwise (members : List (String × Json)) :
    (sortMembers members).Pairwise KeyLt := by
  have hfold : ∀ l map : List (String × Json), map.Pairwise KeyLt →
      (l.foldl (fun map m => insertMember m.1 m.2 map) map).Pairwise KeyLt := by
    intro l
    induction l with
    | nil => exact fun _ h => h
    | cons m rest ih => exact fun map h => ih _ (insertMember_pairwise h)
  exact hfold members [] .nil

theorem mem_of_mem_sortMembers {members : List (String × Json)} {m : String × Json}
    (h : m ∈ sortMembers members) : m ∈ members := by
  have hfold : ∀ l map : List (String × Json),
      m ∈ l.foldl (fun map m => insertMember m.1 m.2 map) map → m ∈ l ∨ m ∈ map := by
    intro l
    induction l with
    | nil => exact fun _ h => .inr h
    | cons n rest ih =>
        intro map hmem
        rcases ih _ hmem with hrest | hinsert
        · exact .inl (List.mem_cons_of_mem _ hrest)
        · rcases mem_insertMember hinsert with rfl | hmap
          · exact .inl (by simp)
          · exact .inr hmap
  exact (hfold members [] h).resolve_right (by simp)

/-- A list in strict byte order is determined by its members. -/
theorem eq_of_perm_of_pairwise_keyLt {l m : List (String × Json)} (hl : l.Pairwise KeyLt)
    (hm : m.Pairwise KeyLt) (h : l.Perm m) : l = m := by
  refine List.Perm.eq_of_pairwise ?_ hl hm h
  intro a b _ _ hab hba
  exact absurd rfl (hab.trans hba).ne

theorem sortMembers_eq_of_perm {l m : List (String × Json)} (hl : (l.map Prod.fst).Nodup)
    (h : l.Perm m) : sortMembers l = sortMembers m := by
  have hm : (m.map Prod.fst).Nodup := ((h.map Prod.fst).nodup_iff).mp hl
  refine eq_of_perm_of_pairwise_keyLt (sortMembers_pairwise l) (sortMembers_pairwise m) ?_
  exact (sortMembers_perm hl).trans (h.trans (sortMembers_perm hm).symm)

/-- Sorting looks at the keys only. -/
theorem sortMembers_map {f : Json → Json} {members : List (String × Json)}
    (h : (members.map Prod.fst).Nodup) :
    sortMembers (members.map (fun m => (m.1, f m.2)))
      = (sortMembers members).map (fun m => (m.1, f m.2)) := by
  have hkeys : ((members.map (fun m => (m.1, f m.2))).map Prod.fst).Nodup := by
    rw [List.map_map]
    exact h
  refine eq_of_perm_of_pairwise_keyLt (sortMembers_pairwise _) ?_ ?_
  · exact List.pairwise_map.mpr (sortMembers_pairwise members)
  · exact (sortMembers_perm hkeys).trans ((sortMembers_perm h).symm.map _)

theorem map_fst_sorted (members : List (String × Json)) :
    (members.map (fun m => (m.1, m.2.sorted))).map Prod.fst = members.map Prod.fst := by
  rw [List.map_map]
  rfl

/-- Sorting only reorders keys. -/
theorem reordered_sorted {a : Json} (h : a.distinctKeys = true) : a.Reordered a.sorted := by
  induction a using Json.induction with
  | null | bool | num | str => exact .refl _
  | arr elems ih =>
      rw [sorted_arr]
      refine reordered_arr.mpr ⟨_, rfl, ?_⟩
      rw [List.forall₂_map_right_iff]
      exact List.forall₂_same.mpr fun a ha => ih a ha (distinctKeys_arr.mp h a ha)
  | obj members ih =>
      obtain ⟨hnodup, hmembers⟩ := distinctKeys_obj.mp h
      rw [sorted_obj]
      refine reordered_obj.mpr ⟨_, members.map (fun m => (m.1, m.2.sorted)), rfl, ?_, ?_⟩
      · rw [List.forall₂_map_right_iff]
        exact List.forall₂_same.mpr fun m hm => ⟨rfl, ih m hm (hmembers m hm)⟩
      · refine (sortMembers_perm ?_).symm
        rwa [map_fst_sorted]

/-- Reordering does not change the sorted form. -/
theorem Reordered.sorted_eq {a b : Json} (h : a.Reordered b) (ha : a.distinctKeys = true) :
    a.sorted = b.sorted := by
  induction a using Json.induction generalizing b with
  | null | bool | num | str =>
      rw [Reordered] at h
      rw [h]
  | arr elems ih =>
      obtain ⟨elems', rfl, hmatch⟩ := reordered_arr.mp h
      rw [sorted_arr, sorted_arr]
      congr 1
      rw [← List.forall₂_eq_eq_eq, List.forall₂_map_left_iff, List.forall₂_map_right_iff]
      exact forall₂_imp_of_mem hmatch fun a ha' b hab => ih a ha' hab (distinctKeys_arr.mp ha a ha')
  | obj members ih =>
      obtain ⟨hnodup, hmembers⟩ := distinctKeys_obj.mp ha
      obtain ⟨members', matched, rfl, hmatch, hperm⟩ := reordered_obj.mp h
      have hsame : members.map (fun m => (m.1, m.2.sorted))
          = matched.map (fun m => (m.1, m.2.sorted)) := by
        rw [← List.forall₂_eq_eq_eq, List.forall₂_map_left_iff, List.forall₂_map_right_iff]
        exact forall₂_imp_of_mem hmatch fun m hm n hmn =>
          Prod.ext hmn.1 (ih m hm hmn.2 (hmembers m hm))
      rw [sorted_obj, sorted_obj, hsame]
      congr 1
      refine sortMembers_eq_of_perm ?_ (hperm.map _)
      rwa [← hsame, map_fst_sorted]

/-- **The sorted form is a canonical form** of a value up to the order of keys. -/
theorem sorted_eq_sorted_iff {a b : Json} (ha : a.distinctKeys = true)
    (hb : b.distinctKeys = true) : a.sorted = b.sorted ↔ a.Reordered b := by
  constructor
  · intro h
    have hab := reordered_sorted ha
    rw [h] at hab
    exact hab.trans (reordered_sorted hb).symm
  · intro h
    exact h.sorted_eq ha

theorem isSorted_sorted (a : Json) : a.sorted.isSorted = true := by
  induction a using Json.induction with
  | null | bool | num | str => rfl
  | arr elems ih =>
      rw [sorted_arr, isSorted_arr]
      exact List.forall_mem_map.mpr ih
  | obj members ih =>
      rw [sorted_obj, isSorted_obj]
      refine ⟨sortMembers_pairwise _, ?_⟩
      intro n hn
      obtain ⟨m, hm, rfl⟩ := List.mem_map.mp (mem_of_mem_sortMembers hn)
      exact ih m hm

theorem depth_sorted_le (a : Json) : a.sorted.depth ≤ a.depth := by
  induction a using Json.induction with
  | null | bool | num | str => exact Nat.le_refl _
  | arr elems ih =>
      have helems := depth_arr_le.mp (Nat.le_refl (depthElems elems + 1))
      rw [sorted_arr]
      refine depth_arr_le.mpr (List.forall_mem_map.mpr fun a ha => ?_)
      exact Nat.le_trans (ih a ha) (helems a ha)
  | obj members ih =>
      have hmembers := depth_obj_le.mp (Nat.le_refl (depthMembers members + 1))
      rw [sorted_obj]
      refine depth_obj_le.mpr fun n hn => ?_
      obtain ⟨m, hm, rfl⟩ := List.mem_map.mp (mem_of_mem_sortMembers hn)
      exact Nat.le_trans (ih m hm) (hmembers m hm)

theorem distinctKeys_of_isSorted {a : Json} (h : a.isSorted = true) : a.distinctKeys = true := by
  induction a using Json.induction with
  | null | bool | num | str => rfl
  | arr elems ih =>
      exact distinctKeys_arr.mpr fun a ha => ih a ha (isSorted_arr.mp h a ha)
  | obj members ih =>
      obtain ⟨hpairwise, hmembers⟩ := isSorted_obj.mp h
      exact distinctKeys_obj.mpr
        ⟨nodup_of_pairwise_keyLt hpairwise, fun m hm => ih m hm (hmembers m hm)⟩

/-- A sorted value is its own sorted form. -/
theorem sorted_of_isSorted {a : Json} (h : a.isSorted = true) : a.sorted = a := by
  induction a using Json.induction with
  | null | bool | num | str => rfl
  | arr elems ih =>
      have hmap := List.map_congr_left fun a ha => ih a ha (isSorted_arr.mp h a ha)
      rw [sorted_arr, hmap, List.map_id']
  | obj members ih =>
      obtain ⟨hpairwise, hmembers⟩ := isSorted_obj.mp h
      have hmap : members.map (fun m => (m.1, m.2.sorted)) = members.map (fun m => m) :=
        List.map_congr_left fun m hm => Prod.ext rfl (ih m hm (hmembers m hm))
      rw [sorted_obj, hmap, List.map_id']
      congr 1
      exact eq_of_perm_of_pairwise_keyLt (sortMembers_pairwise _) hpairwise
        (sortMembers_perm (nodup_of_pairwise_keyLt hpairwise))

end Json
