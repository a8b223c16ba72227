import JsonPath.Reported
import Mathlib.Data.List.Perm.Basic

/-!
# Rearranged lists

Two lists are *rearranged* up to a relation if some permutation of the first one is related to the
second one member by member (`Rearranged`).  The members that are paired are related, and a member
that occurs several times is paired as often.

What is done to each member on its own, without regard to its place, keeps lists rearranged: this
is shown here for appending, concatenating and filtering, for plain lists and for results with
reports.  Two results *agree* (`Reported.Agree`) if their values are related and their diagnostics
are the same up to order.
-/

namespace JsonPath

variable {α β γ δ : Type}

/-- Some permutation of the first list is related to the second one member by member. -/
def Rearranged (R : α → β → Prop) (xs : List α) (ys : List β) : Prop :=
  ∃ zs, xs.Perm zs ∧ List.Forall₂ R zs ys

namespace Rearranged

variable {R : α → β → Prop} {S : γ → δ → Prop}

lemma of_forall₂ {xs : List α} {ys : List β} (h : List.Forall₂ R xs ys) : Rearranged R xs ys :=
  ⟨xs, .refl xs, h⟩

/-- The permutation may also follow the relation. -/
lemma of_forall₂_perm {xs : List α} {zs ys : List β} (h : List.Forall₂ R xs zs)
    (hperm : zs.Perm ys) : Rearranged R xs ys := by
  have hcomp : Relation.Comp (List.Forall₂ R) List.Perm xs ys := ⟨zs, h, hperm⟩
  rw [List.forall₂_comp_perm_eq_perm_comp_forall₂] at hcomp
  exact hcomp

lemma nil : Rearranged R [] [] := of_forall₂ .nil

lemma singleton {x : α} {y : β} (h : R x y) : Rearranged R [x] [y] := of_forall₂ (.cons h .nil)

lemma perm_left {xs xs' : List α} {ys : List β} (hperm : xs.Perm xs')
    (h : Rearranged R xs' ys) : Rearranged R xs ys := by
  obtain ⟨zs, hzs, hrel⟩ := h
  exact ⟨zs, hperm.trans hzs, hrel⟩

lemma imp {R' : α → β → Prop} (hR : ∀ x y, R x y → R' x y) {xs : List α} {ys : List β}
    (h : Rearranged R xs ys) : Rearranged R' xs ys := by
  obtain ⟨zs, hzs, hrel⟩ := h
  exact ⟨zs, hzs, hrel.imp hR⟩

/-- The pairs are made of members of the lists. -/
lemma with_mem {xs : List α} {ys : List β} (h : Rearranged R xs ys) :
    Rearranged (fun x y => x ∈ xs ∧ R x y) xs ys := by
  obtain ⟨zs, hzs, hrel⟩ := h
  have hmem : ∀ x ∈ zs, x ∈ xs := fun x hx => hzs.mem_iff.mpr hx
  exact ⟨zs, hzs, (List.forall₂_and_left zs ys).mpr ⟨hmem, hrel⟩⟩

lemma length_eq {xs : List α} {ys : List β} (h : Rearranged R xs ys) :
    xs.length = ys.length := by
  obtain ⟨zs, hzs, hrel⟩ := h
  rw [hzs.length_eq, hrel.length_eq]

lemma append {xs xs' : List α} {ys ys' : List β} (h : Rearranged R xs ys)
    (h' : Rearranged R xs' ys') : Rearranged R (xs ++ xs') (ys ++ ys') := by
  obtain ⟨zs, hzs, hrel⟩ := h
  obtain ⟨zs', hzs', hrel'⟩ := h'
  exact ⟨zs ++ zs', hzs.append hzs', List.rel_append hrel hrel'⟩

lemma map {f : α → γ} {g : β → δ} {xs : List α} {ys : List β}
    (h : Rearranged R xs ys) (hfg : ∀ x y, R x y → S (f x) (g y)) :
    Rearranged S (xs.map f) (ys.map g) := by
  obtain ⟨zs, hzs, hrel⟩ := h
  exact ⟨zs.map f, hzs.map f, List.rel_map (fun x y => hfg x y) hrel⟩

/-- The lists for related members may themselves be rearranged. -/
lemma flatMap {f : α → List γ} {g : β → List δ} {xs : List α} {ys : List β}
    (h : Rearranged R xs ys) (hfg : ∀ x y, R x y → Rearranged S (f x) (g y)) :
    Rearranged S (xs.flatMap f) (ys.flatMap g) := by
  obtain ⟨zs, hzs, hrel⟩ := h
  refine perm_left (hzs.flatMap_right f) ?_
  clear hzs
  induction hrel with
  | nil => exact nil
  | cons hxy _ ih =>
    rw [List.flatMap_cons, List.flatMap_cons]
    exact (hfg _ _ hxy).append ih

lemma flatMap_perm {f : α → List γ} {g : β → List γ} {xs : List α} {ys : List β}
    (h : Rearranged R xs ys) (hfg : ∀ x y, R x y → (f x).Perm (g y)) :
    (xs.flatMap f).Perm (ys.flatMap g) := by
  obtain ⟨zs, hzs, hrel⟩ := h
  refine (hzs.flatMap_right f).trans ?_
  clear hzs
  induction hrel with
  | nil => exact .refl _
  | cons hxy _ ih =>
    rw [List.flatMap_cons, List.flatMap_cons]
    exact (hfg _ _ hxy).append ih

lemma filter {p : α → Bool} {q : β → Bool} {xs : List α} {ys : List β}
    (h : Rearranged R xs ys) (hpq : ∀ x y, R x y → p x = q y) :
    Rearranged R (xs.filter p) (ys.filter q) := by
  obtain ⟨zs, hzs, hrel⟩ := h
  refine ⟨zs.filter p, hzs.filter p, List.rel_filter ?_ hrel⟩
  intro x y hxy
  show p x = true ↔ q y = true
  rw [hpq x y hxy]

/-- A test that all members pass does not depend on their order. -/
lemma all_eq {p : α → Bool} {q : β → Bool} {xs : List α} {ys : List β}
    (h : Rearranged R xs ys) (hpq : ∀ x y, R x y → p x = q y) : xs.all p = ys.all q := by
  obtain ⟨zs, hzs, hrel⟩ := h
  rw [hzs.all_eq]
  clear hzs
  induction hrel with
  | nil => rfl
  | cons hxy _ ih => rw [List.all_cons, List.all_cons, hpq _ _ hxy, ih]

end Rearranged

namespace Reported

/-- The values of two results are related and their diagnostics are the same up to order. -/
structure Agree (R : α → β → Prop) (r : Reported α) (s : Reported β) : Prop where
  value : R r.value s.value
  diagnostics : r.diagnostics.Perm s.diagnostics

namespace Agree

variable {R : α → β → Prop} {S : γ → δ → Prop}

lemma pure {x : α} {y : β} (h : R x y) : Agree R (Pure.pure x) (Pure.pure y) := ⟨h, .refl _⟩

lemma report (d : Diagnostic) : Agree Eq (Reported.report d) (Reported.report d) :=
  ⟨rfl, .refl _⟩

lemma bind {r : Reported α} {s : Reported β} {f : α → Reported γ} {g : β → Reported δ}
    (h : Agree R r s) (hfg : ∀ x y, R x y → Agree S (f x) (g y)) :
    Agree S (r >>= f) (s >>= g) := by
  have hnext := hfg _ _ h.value
  exact ⟨hnext.value, h.diagnostics.append hnext.diagnostics⟩

lemma map {r : Reported α} {s : Reported β} {f : α → γ} {g : β → δ} (h : Agree R r s)
    (hfg : ∀ x y, R x y → S (f x) (g y)) : Agree S (f <$> r) (g <$> s) := by
  refine ⟨hfg _ _ h.value, ?_⟩
  rw [diagnostics_map, diagnostics_map]
  exact h.diagnostics

lemma concatMap {f : α → Reported (List γ)} {g : β → Reported (List δ)} {xs : List α}
    {ys : List β} (h : Rearranged R xs ys)
    (hfg : ∀ x y, R x y → Agree (Rearranged S) (f x) (g y)) :
    Agree (Rearranged S) (concatMap f xs) (concatMap g ys) := by
  constructor
  · rw [value_concatMap, value_concatMap]
    exact h.flatMap fun x y hxy => (hfg x y hxy).value
  · rw [diagnostics_concatMap, diagnostics_concatMap]
    exact h.flatMap_perm fun x y hxy => (hfg x y hxy).diagnostics

lemma filter {f : α → Reported Bool} {g : β → Reported Bool} {xs : List α} {ys : List β}
    (h : Rearranged R xs ys) (hfg : ∀ x y, R x y → Agree Eq (f x) (g y)) :
    Agree (Rearranged R) (filter f xs) (filter g ys) := by
  constructor
  · rw [value_filter, value_filter]
    exact h.filter fun x y hxy => (hfg x y hxy).value
  · rw [diagnostics_filter, diagnostics_filter]
    exact h.flatMap_perm fun x y hxy => (hfg x y hxy).diagnostics

end Agree

end Reported

end JsonPath
