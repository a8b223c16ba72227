import JsonPath.Evaluation.Places
import Mathlib.Tactic.Ring

/-!
# Slices are exact

The places that a slice names are computed with 64-bit integers, in a loop whose sums stop at the
ends of their range.  `Slice.places_exact` says that this comes to the same as unbounded integers:
the places are all numbers from the first bound on in steps of the given length up to the second
bound (`Slice.IsExact`).

The sums are the only operations that are guarded against the ends of the range.
`Slice.Computes` has the others with what they need, and the loop as one that goes on until the
bound is passed, whether or not its steps make progress.  So a derivation of it says that nothing
overflows and that the loop comes to an end.
-/

namespace JsonPath.Slice

/-! ## Over unbounded integers -/

/-- A bound counted from the start, where no sum is too great. -/
def normalized (length bound : Int) : Int := if 0 ≤ bound then bound else length + bound

/-- The places are the numbers from `first` on in steps of `step`, as far as they are inside. -/
def AllOf (first step : Int) (inside : Int → Prop) (places : List Nat) : Prop :=
  ∀ i : Int, i ∈ places.map Int.ofNat ↔ ∃ k : Nat, i = first + k * step ∧ inside i

/-- The places that a slice stands for: none for a step of zero, otherwise the numbers between the
bounds, in the direction of the step. -/
def IsExact (length : Nat) (start stop step : Option Int) (places : List Nat) : Prop :=
  (step.getD 1 = 0 → places = []) ∧
  (0 < step.getD 1 →
    let lower := clamp 0 length (normalized length (start.getD 0))
    let upper := clamp 0 length (normalized length (stop.getD length))
    places.Pairwise (· < ·) ∧ AllOf lower (step.getD 1) (· < upper) places) ∧
  (step.getD 1 < 0 →
    let upper := clamp (-1) (length - 1) (normalized length (start.getD (length - 1)))
    let lower := clamp (-1) (length - 1) (normalized length (stop.getD (-length - 1)))
    places.Pairwise (· > ·) ∧ AllOf upper (step.getD 1) (lower < ·) places)

/-! ## With 64-bit integers -/

/-- The integer is one of 64 bits. -/
def InRange (i : Int) : Prop := least ≤ i ∧ i ≤ greatest

/-- The loop comes to its end with these places: it goes on wherever it is still inside, and never
meets a negative number there. -/
inductive Loops (step : Int) (inside : Int → Prop) : Int → List Nat → Prop
  | done {i : Int} (h : ¬ inside i) : Loops step inside i []
  | next {i : Int} {places : List Nat} (h : inside i) (hplace : 0 ≤ i)
      (rest : Loops step inside (add i step) places) : Loops step inside i (i.toNat :: places)

/-- The places are computed with 64-bit integers: no operation that is not a sum of `add` leaves
their range, nothing is clamped between bounds in the wrong order, and the loop comes to its
end. -/
inductive Computes (length : Int) (start stop step : Option Int) : List Nat → Prop
  | nothing (hstep : step.getD 1 = 0) : Computes length start stop step []
  | upwards {places : List Nat} (hstep : 0 < step.getD 1) (hclamp : 0 ≤ length)
      (hloop : Loops (step.getD 1) (· < clamp 0 length (fromStart length (stop.getD length)))
        (clamp 0 length (fromStart length (start.getD 0))) places) :
      Computes length start stop step places
  | downwards {places : List Nat} (hstep : step.getD 1 < 0) (hlast : InRange (length - 1))
      (hnegated : InRange (-length)) (hbefore : InRange (-length - 1)) (hclamp : -1 ≤ length - 1)
      (hloop : Loops (step.getD 1)
        (clamp (-1) (length - 1) (fromStart length (stop.getD (-length - 1))) < ·)
        (clamp (-1) (length - 1) (fromStart length (start.getD (length - 1)))) places) :
      Computes length start stop step places

/-! ## Loops -/

section Loops

variable {first step i : Int} {inside : Int → Prop} {places : List Nat}

lemma add_succ_mul (i step : Int) (k : Nat) :
    i + (k + 1 : Nat) * step = i + step + k * step := by
  push_cast
  ring

/-- What a loop over numbers that are `valid` needs to list all that is inside: what is outside
stays outside, and the sums stop at the ends of the range only there. -/
structure IsBound (step : Int) (valid inside : Int → Prop) : Prop where
  valid_add : ∀ {i}, valid i → inside i → valid (add i step)
  outside : ∀ {i}, ¬ inside i → ∀ k : Nat, ¬ inside (i + k * step)
  add_eq : ∀ {i}, valid i → inside i → inside (add i step) ∨ inside (i + step) →
    add i step = i + step

variable {valid : Int → Prop} (hbound : IsBound step valid inside)
include hbound

/-- What the loop lists behind a number is what lies one step and more behind it. -/
lemma AllOf.behind (hvalid : valid i) (hi : inside i)
    (h : AllOf (add i step) step inside places) (j : Int) :
    j ∈ places.map Int.ofNat ↔ ∃ k : Nat, j = i + (k + 1 : Nat) * step ∧ inside j := by
  rw [h j]
  -- Either the sum is exact, or neither it nor what follows it is inside.
  by_cases hsum : inside (add i step) ∨ inside (i + step)
  · refine exists_congr fun k => ?_
    rw [hbound.add_eq hvalid hi hsum, add_succ_mul]
  · obtain ⟨hstopped, hexact⟩ := not_or.1 hsum
    refine iff_of_false ?_ ?_
    · rintro ⟨k, rfl, hinside⟩
      exact hbound.outside hstopped k hinside
    · rintro ⟨k, rfl, hinside⟩
      rw [add_succ_mul] at hinside
      exact hbound.outside hexact k hinside

lemma Loops.allOf (h : Loops step inside first places) (hvalid : valid first) :
    AllOf first step inside places := by
  induction h with
  | @done i h =>
    intro j
    simp only [List.map_nil, List.not_mem_nil, false_iff]
    rintro ⟨k, rfl, hinside⟩
    exact hbound.outside h k hinside
  | @next i places h hplace _ ih =>
    intro j
    have hi : Int.ofNat i.toNat = i := Int.toNat_of_nonneg hplace
    have hrest := ih (hbound.valid_add hvalid h)
    rw [List.map_cons, List.mem_cons, hi, hrest.behind hbound hvalid h]
    constructor
    · rintro (rfl | ⟨k, hk, hinside⟩)
      · exact ⟨0, by simp, h⟩
      · exact ⟨k + 1, hk, hinside⟩
    · rintro ⟨k, hk, hinside⟩
      cases k with
      | zero => exact .inl (by simpa using hk)
      | succ k => exact .inr ⟨k, hk, hinside⟩

lemma Loops.pairwise (h : Loops step inside first places) (hvalid : valid first)
    (before : Int → Int → Prop)
    (hbefore : ∀ (i : Int) (k : Nat), before i (i + (k + 1 : Nat) * step)) :
    (places.map Int.ofNat).Pairwise before := by
  induction h with
  | done => exact .nil
  | @next i places h hplace hrest ih =>
    have hi : Int.ofNat i.toNat = i := Int.toNat_of_nonneg hplace
    have hnext := hbound.valid_add hvalid h
    rw [List.map_cons, hi]
    refine List.pairwise_cons.2 ⟨fun j hj => ?_, ih hnext⟩
    obtain ⟨k, rfl, -⟩ := ((hrest.allOf hbound hnext).behind hbound hvalid h j).1 hj
    exact hbefore i k

end Loops

/-! ## Both directions -/

lemma mul_step_bounds (k : Nat) (step : Int) :
    (0 < step → 0 ≤ k * step ∧ 0 < (k + 1 : Nat) * step) ∧
      (step < 0 → k * step ≤ 0 ∧ (k + 1 : Nat) * step < 0) := by
  refine ⟨fun hstep => ⟨?_, ?_⟩, fun hstep => ⟨?_, ?_⟩⟩
  · exact Int.mul_nonneg (Int.natCast_nonneg k) (Int.le_of_lt hstep)
  · exact Int.mul_pos (by omega) hstep
  · exact Int.mul_nonpos_of_nonneg_of_nonpos (Int.natCast_nonneg k) (Int.le_of_lt hstep)
  · exact Int.mul_neg_of_pos_of_neg (by omega) hstep

lemma isBound_below {step upper : Int} (hstep : 0 < step) (hupper : upper ≤ greatest) :
    IsBound step (0 ≤ ·) (· < upper) where
  valid_add := by
    intro i hi _
    unfold add clamp least greatest
    omega
  outside {i} hi k := by
    have := ((mul_step_bounds k step).1 hstep).1
    omega
  add_eq := by
    intro i hi _ hsum
    unfold greatest at hupper
    unfold add clamp least greatest at hsum ⊢
    omega

lemma isBound_above {step lower : Int} (hstep : step < 0) (hleast : least ≤ step)
    (hlower : -1 ≤ lower) : IsBound step (· ≤ greatest) (lower < ·) where
  valid_add := by
    intro i hi _
    unfold greatest at hi
    unfold add clamp least greatest
    omega
  outside {i} hi k := by
    have := ((mul_step_bounds k step).2 hstep).1
    omega
  add_eq := by
    intro i hi _ _
    unfold greatest at hi
    unfold least at hleast
    unfold add clamp least greatest
    omega

/-- The guard of `ascending` stops no loop before its end. -/
lemma loops_ascending {lower upper step : Int} (hstep : 0 < step) (hupper : upper ≤ greatest)
    (hlower : 0 ≤ lower) : Loops step (· < upper) lower (ascending lower upper step) := by
  fun_induction ascending lower upper step with
  | case1 lower h ih =>
    exact .next h.1 hlower (ih ((isBound_below hstep hupper).valid_add hlower h.1))
  | case2 lower h =>
    refine .done fun hinside => h ⟨hinside, ?_⟩
    unfold greatest at hupper
    unfold add clamp least greatest
    omega

/-- The guard of `descending` stops no loop before its end. -/
lemma loops_descending {lower upper step : Int} (hstep : step < 0) (hlower : -1 ≤ lower)
    (hupper : upper ≤ greatest) :
    Loops step (lower < ·) upper (descending lower upper step) := by
  fun_induction descending lower upper step with
  | case1 upper h ih =>
    refine .next h.1 (by omega) (ih ?_)
    exact Int.le_of_lt (Int.lt_of_lt_of_le h.2 hupper)
  | case2 upper h =>
    refine .done fun hinside => h ⟨hinside, ?_⟩
    unfold greatest at hupper
    unfold add clamp least greatest
    omega

/-! ## Slices -/

lemma clamp_mem {low high : Int} (h : low ≤ high) (i : Int) :
    low ≤ clamp low high i ∧ clamp low high i ≤ high := by
  unfold clamp
  omega

/-- A negative bound never leaves the range when the length is added to it. -/
lemma fromStart_eq {length bound : Int} (hlength : 0 ≤ length) (hgreatest : length ≤ greatest)
    (hbound : least ≤ bound) : fromStart length bound = normalized length bound := by
  unfold greatest at hgreatest
  unfold least at hbound
  unfold fromStart normalized add clamp least greatest
  omega

section Exact

variable {length : Nat} (hlength : (length : Int) ≤ greatest)
include hlength

lemma computes_places (start stop step : Option Int64) :
    Computes length (start.map Int64.toInt) (stop.map Int64.toInt) (step.map Int64.toInt)
      (places length start stop step) := by
  have hnat : (0 : Int) ≤ length := Int.natCast_nonneg length
  have hlow : (-1 : Int) ≤ length - 1 := by omega
  have hrange : InRange (length - 1) ∧ InRange (-length) ∧ InRange (-length - 1) := by
    unfold greatest at hlength
    unfold InRange least greatest
    omega
  unfold places
  simp only [Int.min_eq_left hlength]
  split
  · exact .nothing ‹_›
  split
  · rename_i hstep
    have hupper := (clamp_mem hnat (fromStart length ((stop.map Int64.toInt).getD length))).2
    have hlower := (clamp_mem hnat (fromStart length ((start.map Int64.toInt).getD 0))).1
    have hloop := loops_ascending hstep (Int.le_trans hupper hlength) hlower
    exact .upwards hstep hnat hloop
  · rename_i hzero hpositive
    have hstep : (step.map Int64.toInt).getD 1 < 0 := by omega
    have hlower :=
      (clamp_mem hlow (fromStart length ((stop.map Int64.toInt).getD (-length - 1)))).1
    have hupper :=
      (clamp_mem hlow (fromStart length ((start.map Int64.toInt).getD (length - 1)))).2
    have hloop := loops_descending hstep hlower (Int.le_trans hupper hrange.1.2)
    exact .downwards hstep hrange.1 hrange.2.1 hrange.2.2 hlow hloop

variable {start stop step : Option Int} {places : List Nat}

/-- What is computed with 64-bit integers is exact. -/
lemma Computes.isExact (h : Computes length start stop step places)
    (hstart : ∀ i ∈ start, least ≤ i) (hstop : ∀ i ∈ stop, least ≤ i)
    (hleast : ∀ i ∈ step, least ≤ i) : IsExact length start stop step places := by
  have hnat : (0 : Int) ≤ length := Int.natCast_nonneg length
  have hlow : (-1 : Int) ≤ length - 1 := by omega
  have hnormal {bound : Option Int} (h : ∀ i ∈ bound, least ≤ i) {default : Int}
      (hdefault : least ≤ default) :
      fromStart length (bound.getD default) = normalized length (bound.getD default) := by
    refine fromStart_eq hnat hlength ?_
    cases bound with
    | none => exact hdefault
    | some i => exact h i rfl
  have hdefaults : least ≤ 0 ∧ least ≤ (length : Int) ∧ least ≤ (length : Int) - 1 ∧
      least ≤ -(length : Int) - 1 := by
    unfold greatest at hlength
    unfold least
    omega
  cases h with
  | nothing hzero => exact ⟨fun _ => rfl, fun h => by omega, fun h => by omega⟩
  | upwards hstep _ hloop =>
    refine ⟨fun h => by omega, fun _ => ?_, fun h => by omega⟩
    rw [hnormal hstart hdefaults.1, hnormal hstop hdefaults.2.1] at hloop
    have hupper := (clamp_mem hnat (normalized length (stop.getD length))).2
    have hlower := (clamp_mem hnat (normalized length (start.getD 0))).1
    have hbound := isBound_below hstep (Int.le_trans hupper hlength)
    refine ⟨?_, hloop.allOf hbound hlower⟩
    have hsorted := hloop.pairwise hbound hlower (· < ·) fun i k => by
      have := ((mul_step_bounds k (step.getD 1)).1 hstep).2
      omega
    exact (List.pairwise_map.1 hsorted).imp Int.ofNat_lt.1
  | downwards hstep hlast _ _ _ hloop =>
    refine ⟨fun h => by omega, fun h => by omega, fun _ => ?_⟩
    rw [hnormal hstart hdefaults.2.2.1, hnormal hstop hdefaults.2.2.2] at hloop
    have hlower := (clamp_mem hlow (normalized length (stop.getD (-length - 1)))).1
    have hupper := (clamp_mem hlow (normalized length (start.getD (length - 1)))).2
    have hstep' : least ≤ step.getD 1 := by
      cases step with
      | none => simp [least]
      | some i => exact hleast i rfl
    have hbound := isBound_above hstep hstep' hlower
    have hvalid := Int.le_trans hupper hlast.2
    refine ⟨?_, hloop.allOf hbound hvalid⟩
    have hsorted := hloop.pairwise hbound hvalid (· > ·) fun i k => by
      have := ((mul_step_bounds k (step.getD 1)).2 hstep).2
      omega
    exact (List.pairwise_map.1 hsorted).imp Int.ofNat_lt.1

omit hlength in
/-- All places of an exact list lie within the array, and none is listed twice. -/
lemma IsExact.lt_length_nodup (h : IsExact length start stop step places) :
    (∀ i ∈ places, i < length) ∧ places.Nodup := by
  have hmem {i : Nat} (hi : i ∈ places) : (i : Int) ∈ places.map Int.ofNat :=
    List.mem_map_of_mem hi
  obtain ⟨hnone, hup, hdown⟩ := h
  rcases Int.lt_trichotomy (step.getD 1) 0 with hstep | hstep | hstep
  · obtain ⟨hsorted, hall⟩ := hdown hstep
    refine ⟨fun i hi => ?_, hsorted.imp Nat.ne_of_gt⟩
    obtain ⟨k, hk, -⟩ := (hall i).1 (hmem hi)
    have hlow : (-1 : Int) ≤ length - 1 := by omega
    have hupper := (clamp_mem hlow (normalized length (start.getD (length - 1)))).2
    have := ((mul_step_bounds k (step.getD 1)).2 hstep).1
    omega
  · rw [hnone hstep]
    exact ⟨fun i hi => absurd hi List.not_mem_nil, .nil⟩
  · obtain ⟨hsorted, hall⟩ := hup hstep
    refine ⟨fun i hi => ?_, hsorted.imp Nat.ne_of_lt⟩
    obtain ⟨k, -, hk⟩ := (hall i).1 (hmem hi)
    have hupper := (clamp_mem (Int.natCast_nonneg length) (normalized length (stop.getD length))).2
    omega

end Exact

/-- The places of a slice are computed without overflow, in a loop that comes to its end, and are
exactly those of unbounded integers: none for a step of zero; for a positive one all numbers from
the lower bound on in steps of this length below the upper one, in ascending order; for a negative
one all numbers from the upper bound on above the lower one, in descending order.  So they are
places of the array, and none of them comes twice. -/
theorem places_exact {length : Nat} (hlength : (length : Int) ≤ greatest)
    (start stop step : Option Int64) :
    Computes length (start.map Int64.toInt) (stop.map Int64.toInt) (step.map Int64.toInt)
        (places length start stop step) ∧
      IsExact length (start.map Int64.toInt) (stop.map Int64.toInt) (step.map Int64.toInt)
        (places length start stop step) ∧
      (∀ i ∈ places length start stop step, i < length) ∧
      (places length start stop step).Nodup := by
  have hleast {i : Option Int64} : ∀ j ∈ i.map Int64.toInt, least ≤ j := by
    intro j hj
    obtain ⟨k, -, rfl⟩ := Option.map_eq_some_iff.1 hj
    exact Int64.le_toInt k
  have hcomputes := computes_places hlength start stop step
  have hexact := hcomputes.isExact hlength hleast hleast hleast
  exact ⟨hcomputes, hexact, hexact.lt_length_nodup⟩

/-- In the longest array, a slice from its last but one element on in steps of the greatest length:
the first step goes beyond the range. -/
theorem places_exact_longest :
    ((0x7FFFFFFFFFFFFFFF : Nat) : Int) ≤ greatest ∧
      places 0x7FFFFFFFFFFFFFFF (some (-2)) none (some Int64.maxValue) = [0x7FFFFFFFFFFFFFFD] ∧
      Computes (0x7FFFFFFFFFFFFFFF : Nat) (some (-2)) none (some greatest)
        [0x7FFFFFFFFFFFFFFD] ∧
      IsExact 0x7FFFFFFFFFFFFFFF (some (-2)) none (some greatest) [0x7FFFFFFFFFFFFFFD] := by
  have hlength : ((0x7FFFFFFFFFFFFFFF : Nat) : Int) ≤ greatest := by decide
  have hplaces : places 0x7FFFFFFFFFFFFFFF (some (-2)) none (some Int64.maxValue) =
      [0x7FFFFFFFFFFFFFFD] := by decide +kernel
  have hbounds : (some (-2 : Int64)).map Int64.toInt = some (-2) ∧
      (some Int64.maxValue).map Int64.toInt = some greatest := by decide
  obtain ⟨hcomputes, hexact, -⟩ :=
    places_exact hlength (some (-2)) none (some Int64.maxValue)
  rw [hplaces, hbounds.1, hbounds.2] at hcomputes hexact
  exact ⟨hlength, hplaces, hcomputes, hexact⟩

end JsonPath.Slice
