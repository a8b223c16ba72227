import JsonPath.Evaluation.Basic
import JsonPath.Proofs.Arrays.Slices

/-!
# Indexes

An index selects the element that many places from the start, or from the end if it is negative, and
nothing where there is no such element.  The slice from an index to the next one, in steps of one,
selects the same (`Registry.select_index_exact`).

The two come to their places in different ways.  An index adds the length only where that stays
within 64 bits (`ComputesPlace` has the guards), and then looks whether there is an element.  The
bounds of a slice are cut off at the ends of the array, and an index beyond them leaves a slice
whose bounds meet.  The greatest integer has no next one, and the one behind `-1` counts from the
other end, so that slice has to go on to the end of the array.
-/

namespace JsonPath

open Slice (InRange greatest least normalized)

/-- The place of an index is computed with 64-bit integers: where the length of the array is added,
it is one of them, and so is the sum. -/
inductive ComputesPlace (length index : Int) : Int → Prop
  | fromStart (hindex : 0 ≤ index) : ComputesPlace length index index
  | fromEnd (hindex : index < 0) (hlength : InRange length) (hsum : InRange (length + index)) :
      ComputesPlace length index (length + index)

/-! ## Places -/

section Places

variable {length : Nat} {i : Int64}

lemma placeOfIndex?_eq (length : Nat) (i : Int64) :
    placeOfIndex? length i =
      if 0 ≤ normalized length i.toInt ∧ normalized length i.toInt < length then
        some (normalized length i.toInt).toNat
      else none := by
  have hplace : (if i.toInt < 0 then length + i.toInt else i.toInt) =
      normalized length i.toInt := by
    unfold normalized
    split_ifs <;> omega
  rw [placeOfIndex?, hplace]

/-- The guards hold for every index. -/
lemma computesPlace_normalized (hlength : (length : Int) ≤ greatest) (i : Int64) :
    ComputesPlace length i.toInt (normalized length i.toInt) := by
  have hi := Int64.le_toInt i
  unfold greatest at hlength
  unfold normalized
  split_ifs with hindex
  · exact .fromStart hindex
  · refine .fromEnd (by omega) ?_ ?_
    · unfold InRange least greatest
      omega
    · unfold InRange least greatest
      omega

/-- The loop with steps of one makes at most one step where the bounds are next to each other. -/
lemma ascending_one {lower upper : Int} (hlower : 0 ≤ lower) (hupper : upper ≤ lower + 1)
    (hgreatest : upper ≤ greatest) :
    Slice.ascending lower upper 1 = if lower < upper then [lower.toNat] else [] := by
  have hadd : lower < upper → Slice.add lower 1 = lower + 1 := fun hlt => by
    unfold greatest at hgreatest
    unfold Slice.add Slice.clamp least greatest
    omega
  rw [Slice.ascending]
  split_ifs with hguard hlt hlt
  · rw [hadd hlt, Slice.ascending, dif_neg (by omega)]
  · exact absurd hguard.1 hlt
  · exact absurd ⟨hlt, by rw [hadd hlt]; omega⟩ hguard
  · rfl

/-- A slice in steps of one that ends one place behind its start has the place of the start. -/
lemma places_one (hlength : (length : Int) ≤ greatest) {stop : Option Int64}
    (hstop : Slice.fromStart length ((stop.map Int64.toInt).getD length) =
      normalized length i.toInt + 1) :
    Slice.places length (some i) stop (some 1) = (placeOfIndex? length i).toList := by
  have hnat : (0 : Int) ≤ length := Int.natCast_nonneg length
  have hone : Int64.toInt 1 = 1 := rfl
  have hstart := Slice.fromStart_eq hnat hlength (Int64.le_toInt i)
  rw [placeOfIndex?_eq]
  generalize normalized length i.toInt = place at hstop hstart ⊢
  have hlower := Slice.clamp_mem hnat place
  have hupper := Slice.clamp_mem hnat (place + 1)
  simp only [Slice.places, Int.min_eq_left hlength, Option.map_some, Option.getD_some, hone, hstop,
    hstart, one_ne_zero, zero_lt_one, if_true, if_false]
  rw [ascending_one hlower.1 (by unfold Slice.clamp; omega) (Int.le_trans hupper.2 hlength)]
  unfold Slice.clamp
  by_cases hplace : 0 ≤ place ∧ place < length
  · have hsame : max 0 (min (length : Int) place) = place := by omega
    rw [if_pos hplace, hsame, if_pos (by omega), Option.toList_some]
  · rw [if_neg hplace, if_neg (by omega), Option.toList_none]

lemma toInt_add_one (hi : i ≠ Int64.maxValue) : (i + 1).toInt = i.toInt + 1 := by
  have hle := Int64.toInt_le i
  have hne : i.toInt ≠ Int64.maxValue.toInt := fun heq => hi (Int64.toInt_inj.1 heq)
  have hmax : Int64.maxValue.toInt = 9223372036854775807 := rfl
  have hone : Int64.toInt 1 = 1 := rfl
  rw [Int64.toInt_add, hone, Int.bmod_eq_of_le]
  all_goals
    have := Int64.le_toInt i
    omega

/-- The next index is one place further on, unless the array ends in between. -/
lemma fromStart_add_one (hlength : (length : Int) ≤ greatest) (hlast : i ≠ -1)
    (hgreatest : i ≠ Int64.maxValue) :
    Slice.fromStart length (i + 1).toInt = normalized length i.toInt + 1 := by
  have hnat : (0 : Int) ≤ length := Int.natCast_nonneg length
  have hne : i.toInt ≠ -1 := fun heq => hlast (Int64.toInt_inj.1 heq)
  rw [Slice.fromStart_eq hnat hlength (Int64.le_toInt _), toInt_add_one hgreatest]
  unfold normalized
  split_ifs <;> omega

end Places

/-! ## Selection -/

namespace Registry

variable (r : Registry) (root : Json) {elements : List Json} {i : Int64}

lemma select_index (i : Int64) :
    r.select root (.array elements) (.index i) =
      pure ((placeOfIndex? elements.length i).bind (elements[·]?)).toList := rfl

lemma select_slice_one (hlength : (elements.length : Int) ≤ greatest) {stop : Option Int64}
    (hstop : Slice.fromStart elements.length ((stop.map Int64.toInt).getD elements.length) =
      normalized elements.length i.toInt + 1) :
    r.select root (.array elements) (.slice (some i) stop (some 1)) =
      r.select root (.array elements) (.index i) := by
  simp only [select, places_one hlength hstop, elementAt?]
  cases placeOfIndex? elements.length i with
  | none => rfl
  | some place => cases h : elements[place]? <;> simp [NodeList.ofSlots, h]

/-- What an index selects from an array: the element at its place from the start, or from the end if
it is negative, and nothing where the array has no such place.  The place is computed without
overflow, and is the only one of the slice from the index to the next one, or to the end of the
array for the last element. -/
theorem select_index_exact (hlength : (elements.length : Int) ≤ greatest) (i : Int64) :
    (∀ place (hplace : place < elements.length),
        i.toInt = place ∨ i.toInt = (place : Int) - elements.length →
        r.select root (.array elements) (.index i) = pure [elements[place]]) ∧
      (i.toInt < -elements.length ∨ elements.length ≤ i.toInt →
        r.select root (.array elements) (.index i) = pure []) ∧
      (∃ place, ComputesPlace elements.length i.toInt place ∧
        r.select root (.array elements) (.index i) =
          pure (if 0 ≤ place then elements[place.toNat]? else none).toList) ∧
      (i ≠ -1 → i ≠ Int64.maxValue →
        r.select root (.array elements) (.index i) =
          r.select root (.array elements) (.slice (some i) (some (i + 1)) (some 1))) ∧
      (i = -1 →
        r.select root (.array elements) (.index i) =
          r.select root (.array elements) (.slice (some i) none (some 1))) := by
  have hnat : (0 : Int) ≤ elements.length := Int.natCast_nonneg _
  refine ⟨fun place hplace hi => ?_, fun hi => ?_,
    ⟨_, computesPlace_normalized hlength i, ?_⟩, fun hlast hgreatest => ?_, ?_⟩
  · have hnormal : normalized elements.length i.toInt = place := by
      unfold normalized
      split_ifs <;> omega
    rw [select_index, placeOfIndex?_eq, hnormal, if_pos (by omega), Int.toNat_natCast,
      Option.bind_some, List.getElem?_eq_getElem hplace]
    rfl
  · have hnormal : ¬(0 ≤ normalized elements.length i.toInt ∧
        normalized elements.length i.toInt < elements.length) := by
      unfold normalized
      split_ifs <;> omega
    rw [select_index, placeOfIndex?_eq, if_neg hnormal]
    rfl
  · rw [select_index, placeOfIndex?_eq]
    generalize normalized elements.length i.toInt = place
    by_cases hplace : 0 ≤ place ∧ place < elements.length
    · rw [if_pos hplace, if_pos hplace.1, Option.bind_some]
    · rw [if_neg hplace, Option.bind_none]
      split_ifs with hstart
      · rw [List.getElem?_eq_none (by omega)]
      · rfl
  · have hnext : Slice.fromStart elements.length
        (((some (i + 1)).map Int64.toInt).getD elements.length) =
          normalized elements.length i.toInt + 1 := fromStart_add_one hlength hlast hgreatest
    exact (r.select_slice_one root hlength hnext).symm
  · rintro rfl
    refine (r.select_slice_one root hlength ?_).symm
    have hlast : Int64.toInt (-1) = -1 := rfl
    rw [Option.map_none, Option.getD_none, hlast]
    unfold Slice.fromStart normalized
    rw [if_pos hnat, if_neg (by omega)]
    omega

/-- Three places before the end of an array of three elements stands the first one, and there is no
element as far before the end as the least integer says. -/
theorem select_index_exact_threeElements :
    ((3 : Nat) : Int) ≤ greatest ∧
      Registry.standard.select .null (.array [.bool true, .null, .bool false]) (.index (-3)) =
        pure [.bool true] ∧
      Registry.standard.select .null (.array [.bool true, .null, .bool false])
        (.slice (some (-3)) (some (-2)) (some 1)) = pure [.bool true] ∧
      Registry.standard.select .null (.array [.bool true, .null, .bool false])
        (.index Int64.minValue) = pure [] := by
  have hlength : (([.bool true, .null, .bool false] : List Json).length : Int) ≤ greatest := by
    decide
  obtain ⟨hinside, -, -, hslice, -⟩ :=
    Registry.standard.select_index_exact .null hlength (-3)
  obtain ⟨-, houtside, -⟩ :=
    Registry.standard.select_index_exact .null hlength Int64.minValue
  have hfirst := hinside 0 (by decide) (.inr (by decide))
  refine ⟨hlength, hfirst, ?_, houtside (.inl (by decide))⟩
  exact (hslice (by decide) (by decide)).symm.trans hfirst

end Registry

end JsonPath
