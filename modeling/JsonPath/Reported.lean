import JsonPath.Diagnostic

/-!
# Results with reports

A computation that can warn returns its value together with the diagnostics that it reports, in
the order in which it reports them.
-/

namespace JsonPath

/-- A value, and the diagnostics reported on the way to it. -/
structure Reported (α : Type) where
  value : α
  diagnostics : List Diagnostic

namespace Reported

variable {α β : Type}

instance : Monad Reported where
  pure x := ⟨x, []⟩
  bind r f :=
    let next := f r.value
    ⟨next.value, r.diagnostics ++ next.diagnostics⟩

/-- Reports one diagnostic. -/
def report (d : Diagnostic) : Reported Unit := ⟨(), [d]⟩

section Laws

variable (x : α) (r : Reported α) (f : α → Reported β) (g : α → β)

@[simp] theorem value_pure : (pure x : Reported α).value = x := rfl

@[simp] theorem diagnostics_pure : (pure x : Reported α).diagnostics = [] := rfl

@[simp] theorem value_bind : (r >>= f).value = (f r.value).value := rfl

@[simp] theorem diagnostics_bind :
    (r >>= f).diagnostics = r.diagnostics ++ (f r.value).diagnostics := rfl

@[simp] theorem value_map : (g <$> r).value = g r.value := rfl

@[simp] theorem diagnostics_map : (g <$> r).diagnostics = r.diagnostics :=
  List.append_nil r.diagnostics

/-- Only the value of a computation matters to what comes after it. -/
theorem bind_congr_value {r : Reported α} {f g : α → Reported β} (h : f r.value = g r.value) :
    r >>= f = r >>= g := by
  show Reported.mk (f r.value).value _ = Reported.mk (g r.value).value _
  rw [h]

@[simp] theorem diagnostics_report (d : Diagnostic) : (report d).diagnostics = [d] := rfl

end Laws

/-- The lists for all members of a list, one after the other. -/
def concatMap (f : α → Reported (List β)) (xs : List α) : Reported (List β) :=
  let results := xs.map f
  ⟨results.flatMap value, results.flatMap diagnostics⟩

/-- The members of a list that pass a test. -/
def filter (test : α → Reported Bool) (xs : List α) : Reported (List α) :=
  let results := xs.map fun x => (x, test x)
  ⟨results.filterMap fun r => if r.2.value then some r.1 else none,
    results.flatMap fun r => r.2.diagnostics⟩

section Lists

variable (xs : List α)

theorem concatMap_congr {xs : List α} {f g : α → Reported (List β)} (h : ∀ x ∈ xs, f x = g x) :
    concatMap f xs = concatMap g xs := by
  rw [concatMap, concatMap, List.map_congr_left h]

theorem filter_congr {xs : List α} {f g : α → Reported Bool} (h : ∀ x ∈ xs, f x = g x) :
    filter f xs = filter g xs := by
  have hmap : xs.map (fun x => (x, f x)) = xs.map fun x => (x, g x) :=
    List.map_congr_left fun x hx => by rw [h x hx]
  rw [filter, filter, hmap]

theorem value_concatMap (f : α → Reported (List β)) :
    (concatMap f xs).value = xs.flatMap fun x => (f x).value := List.flatMap_map ..

theorem diagnostics_concatMap (f : α → Reported (List β)) :
    (concatMap f xs).diagnostics = xs.flatMap fun x => (f x).diagnostics := List.flatMap_map ..

theorem value_filter (test : α → Reported Bool) :
    (filter test xs).value = xs.filter fun x => (test x).value := by
  simp only [filter, List.filterMap_map]
  induction xs with
  | nil => rfl
  | cons x xs ih =>
    cases h : (test x).value with
    | false => simpa [h] using ih
    | true => simpa [h] using ih

theorem diagnostics_filter (test : α → Reported Bool) :
    (filter test xs).diagnostics = xs.flatMap fun x => (test x).diagnostics := List.flatMap_map ..

end Lists

end Reported

end JsonPath
