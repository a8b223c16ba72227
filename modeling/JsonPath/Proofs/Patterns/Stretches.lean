import JsonPath.Pattern.Matching
import Mathlib.Data.List.Nodup
import Mathlib.Data.List.Perm.Subperm
import Mathlib.Tactic.SplitIfs

/-!
# The stretches that a pattern matches

`Pattern.Matches` says by the parts of a pattern which stretches of a text it matches, without
regard to how they are found.  Matching goes through lists of places instead, and this module shows
that it finds exactly these stretches (`Pattern.computes_ends`), so that a pattern is found in a
text where it matches some stretch (`Pattern.isFoundIn_iff`).

Each way to put patterns together is a way to put steps on places together (`Computes`).  Only a
repetition without an upper count takes more than that: it is stepped through as often as there are
places, and goes no further as soon as a step gains none.  A list of places that gains none is
closed under steps, and it cannot gain a place more often than there are any
(`Computes.closed_withinSteps`).
-/

namespace JsonPath.Pattern

/-! ## Stretches -/

/-- That many steps lead from one place to another. -/
def Times (step : Nat → Nat → Prop) : Nat → Nat → Nat → Prop
  | 0, i, j => i = j
  | count + 1, i, k => ∃ j, step i j ∧ Times step count j k

mutual

/-- The pattern matches the stretch of the text from one place to another. -/
def Matches (subject : Subject) : Pattern → Nat → Nat → Prop
  | .empty, i, j => i = j
  | .chars set _, i, j => ∃ c, subject[i]? = some c ∧ set.has c = true ∧ j = i + 1
  | .look condition, i, j => i = j ∧ condition.holds subject i = true
  | .group p _, i, j => Matches subject p i j
  | .repetition p least most _, i, j =>
    ∃ further, (∀ n ∈ most, further ≤ n - least) ∧
      Times (Matches subject p) (least + further) i j
  | .sequence ps, i, j => MatchesInSequence subject ps i j
  | .choice ps, i, j => MatchesOneOf subject ps i j

/-- The patterns match stretches one after the other, from one place to another. -/
def MatchesInSequence (subject : Subject) : List Pattern → Nat → Nat → Prop
  | [], i, j => i = j
  | p :: ps, i, k => ∃ j, Matches subject p i j ∧ MatchesInSequence subject ps j k

/-- One of the patterns matches the stretch. -/
def MatchesOneOf (subject : Subject) : List Pattern → Nat → Nat → Prop
  | [], _, _ => False
  | p :: ps, i, j => Matches subject p i j ∨ MatchesOneOf subject ps i j

end

/-- The pattern matches the whole of a text. -/
def MatchesWhole (p : Pattern) (text : String) : Prop :=
  Matches text.toList.toArray p 0 text.toList.length

/-- The pattern matches some stretch of a text. -/
def MatchesSomewhere (p : Pattern) (text : String) : Prop :=
  ∃ i j, i ≤ text.toList.length ∧ Matches text.toList.toArray p i j

lemma times_add_iff {step : Nat → Nat → Prop} {m n i k : Nat} :
    Times step (m + n) i k ↔ ∃ j, Times step m i j ∧ Times step n j k := by
  induction m generalizing i with
  | zero => simp [Times]
  | succ m ih =>
    rw [Nat.succ_add]
    simp only [Times, ih]
    constructor
    · rintro ⟨i', hstep, j, hm, hn⟩
      exact ⟨j, ⟨i', hstep, hm⟩, hn⟩
    · rintro ⟨j, ⟨i', hstep, hm⟩, hn⟩
      exact ⟨i', hstep, j, hm, hn⟩

/-! ## Lists of places -/

/-- The places are those of a text of that size, in ascending order. -/
structure IsPlaces (size : Nat) (places : List Nat) : Prop where
  sorted : places.Pairwise (· < ·)
  le_size : ∀ i ∈ places, i ≤ size

section Places

variable {size i : Nat} {places others : List Nat}

lemma isPlaces_nil (size : Nat) : IsPlaces size [] := ⟨.nil, by simp⟩

lemma isPlaces_range (size : Nat) : IsPlaces size (List.range (size + 1)) :=
  ⟨List.pairwise_lt_range, fun _ hi => Nat.lt_succ_iff.1 (List.mem_range.1 hi)⟩

lemma IsPlaces.nodup (h : IsPlaces size places) : places.Nodup := h.sorted.imp Nat.ne_of_lt

/-- A text has no more places than one behind each character and one before all. -/
lemma IsPlaces.length_le (h : IsPlaces size places) : places.length ≤ size + 1 := by
  have hsubset : places ⊆ List.range (size + 1) := fun i hi =>
    List.mem_range.2 (Nat.lt_succ_of_le (h.le_size i hi))
  have hlength := (h.nodup.subperm hsubset).length_le
  rwa [List.length_range] at hlength

lemma mem_mergePlaces : i ∈ mergePlaces places others ↔ i ∈ places ∨ i ∈ others := by
  fun_induction mergePlaces places others with
  | case1 => simp
  | case2 => simp
  | case3 place places other others _ ih => simp [ih, or_assoc]
  | case4 place places other others _ _ ih =>
    rw [List.mem_cons, ih, List.mem_cons, List.mem_cons]
    tauto
  | case5 place places other others hle hge ih =>
    obtain rfl : place = other := by omega
    rw [List.mem_cons, ih, List.mem_cons, List.mem_cons]
    tauto

lemma IsPlaces.merge (h : IsPlaces size places) (h' : IsPlaces size others) :
    IsPlaces size (mergePlaces places others) := by
  refine ⟨?_, fun i hi => (mem_mergePlaces.1 hi).elim (h.le_size i) (h'.le_size i)⟩
  have hsorted := h.sorted
  have hsorted' := h'.sorted
  clear h h'
  fun_induction mergePlaces places others with
  | case1 => exact hsorted'
  | case2 => exact hsorted
  | case3 place places other others hlt ih =>
    obtain ⟨hplace, hplaces⟩ := List.pairwise_cons.1 hsorted
    refine .cons (fun i hi => ?_) (ih hplaces hsorted')
    rcases mem_mergePlaces.1 hi with hi | hi
    · exact hplace i hi
    · rcases List.mem_cons.1 hi with rfl | hi
      · exact hlt
      · exact Nat.lt_trans hlt ((List.pairwise_cons.1 hsorted').1 i hi)
  | case4 place places other others _ hlt ih =>
    obtain ⟨hother, hothers⟩ := List.pairwise_cons.1 hsorted'
    refine .cons (fun i hi => ?_) (ih hsorted hothers)
    rcases mem_mergePlaces.1 hi with hi | hi
    · rcases List.mem_cons.1 hi with rfl | hi
      · exact hlt
      · exact Nat.lt_trans hlt ((List.pairwise_cons.1 hsorted).1 i hi)
    · exact hother i hi
  | case5 place places other others hle hge ih =>
    obtain rfl : place = other := by omega
    obtain ⟨hplace, hplaces⟩ := List.pairwise_cons.1 hsorted
    obtain ⟨hother, hothers⟩ := List.pairwise_cons.1 hsorted'
    refine .cons (fun i hi => ?_) (ih hplaces hothers)
    exact (mem_mergePlaces.1 hi).elim (hplace i) (hother i)

/-- A list that gains no place when it is merged holds all of the other's places. -/
lemma IsPlaces.subset_of_length_merge (h : IsPlaces size places)
    (hlength : (mergePlaces others places).length ≤ places.length) : others ⊆ places := by
  have hsubset : places ⊆ mergePlaces others places := fun i hi => mem_mergePlaces.2 (.inr hi)
  have hperm := (h.nodup.subperm hsubset).perm_of_length_le hlength
  exact fun i hi => hperm.mem_iff.2 (mem_mergePlaces.2 (.inl hi))

lemma IsPlaces.length_le_merge (h : IsPlaces size places) (others : List Nat) :
    places.length ≤ (mergePlaces others places).length :=
  (h.nodup.subperm fun _ hi => mem_mergePlaces.2 (.inr hi)).length_le

end Places

/-! ## Steps -/

/-- The step on lists of places leads from each place to those that it is related to. -/
structure Computes (size : Nat) (step : List Nat → List Nat) (related : Nat → Nat → Prop) :
    Prop where
  isPlaces : ∀ {places}, IsPlaces size places → IsPlaces size (step places)
  mem_iff : ∀ {places}, IsPlaces size places → ∀ {j}, j ∈ step places ↔ ∃ i ∈ places, related i j

namespace Computes

variable {size : Nat} {step step' : List Nat → List Nat} {related related' : Nat → Nat → Prop}

lemma congr (h : Computes size step related) (heq : ∀ i j, related i j ↔ related' i j) :
    Computes size step related' where
  isPlaces := h.isPlaces
  mem_iff hplaces j := by simp only [h.mem_iff hplaces, heq]

lemma nothing (size : Nat) : Computes size (fun _ => []) fun _ _ => False where
  isPlaces _ := isPlaces_nil size
  mem_iff _ _ := by simp

lemma stay (size : Nat) : Computes size (fun places => places) fun i j => i = j where
  isPlaces h := h
  mem_iff _ _ := by simp

/-- One step after the other. -/
lemma comp (h : Computes size step related) (h' : Computes size step' related') :
    Computes size (fun places => step' (step places))
      fun i k => ∃ j, related i j ∧ related' j k where
  isPlaces hplaces := h'.isPlaces (h.isPlaces hplaces)
  mem_iff {places} hplaces k := by
    rw [h'.mem_iff (h.isPlaces hplaces)]
    constructor
    · rintro ⟨j, hj, hstep'⟩
      obtain ⟨i, hi, hstep⟩ := (h.mem_iff hplaces).1 hj
      exact ⟨i, hi, j, hstep, hstep'⟩
    · rintro ⟨i, hi, j, hstep, hstep'⟩
      exact ⟨j, (h.mem_iff hplaces).2 ⟨i, hi, hstep⟩, hstep'⟩

/-- Either of two steps. -/
lemma merge (h : Computes size step related) (h' : Computes size step' related') :
    Computes size (fun places => mergePlaces (step places) (step' places))
      fun i j => related i j ∨ related' i j where
  isPlaces hplaces := (h.isPlaces hplaces).merge (h'.isPlaces hplaces)
  mem_iff hplaces j := by
    rw [mem_mergePlaces, h.mem_iff hplaces, h'.mem_iff hplaces]
    simp only [and_or_left, exists_or]

/-- A number of steps. -/
lemma afterSteps (h : Computes size step related) (count : Nat) :
    Computes size (Pattern.afterSteps step count) (Times related count) := by
  induction count with
  | zero => exact stay size
  | succ count ih =>
    have heq : Pattern.afterSteps step (count + 1) =
        fun places => if places.isEmpty then [] else Pattern.afterSteps step count (step places) :=
      rfl
    have hnext := h.comp ih
    rw [heq]
    constructor
    · intro places hplaces
      split_ifs
      · exact isPlaces_nil size
      · exact hnext.isPlaces hplaces
    · intro places hplaces k
      split_ifs with hempty
      · rw [List.isEmpty_iff.1 hempty]
        simp
      · exact hnext.mem_iff hplaces

/-! ## Repeated steps -/

section Within

variable (h : Computes size step related) {places : List Nat}
include h

lemma isPlaces_withinSteps (hplaces : IsPlaces size places) (count : Nat) :
    IsPlaces size (withinSteps step count places) := by
  induction count generalizing places with
  | zero => exact hplaces
  | succ count ih =>
    rw [withinSteps]
    split_ifs
    · exact hplaces
    · exact ih ((h.isPlaces hplaces).merge hplaces)

lemma subset_withinSteps (hplaces : IsPlaces size places) (count : Nat) :
    places ⊆ withinSteps step count places := by
  induction count generalizing places with
  | zero => exact List.Subset.refl _
  | succ count ih =>
    rw [withinSteps]
    split_ifs
    · exact List.Subset.refl _
    · exact fun i hi =>
        ih ((h.isPlaces hplaces).merge hplaces) (mem_mergePlaces.2 (.inr hi))

/-- A list of places that is closed under steps holds all places that steps lead to. -/
lemma mem_of_times (hplaces : IsPlaces size places) (hclosed : step places ⊆ places)
    {count i j : Nat} (hi : i ∈ places) (htimes : Times related count i j) : j ∈ places := by
  induction count generalizing i with
  | zero => exact htimes ▸ hi
  | succ count ih =>
    obtain ⟨i', hstep, hrest⟩ := htimes
    exact ih (hclosed ((h.mem_iff hplaces).2 ⟨i, hi, hstep⟩)) hrest

lemma mem_withinSteps_iff (hplaces : IsPlaces size places) (count : Nat) {j : Nat} :
    j ∈ withinSteps step count places ↔ ∃ i ∈ places, ∃ n ≤ count, Times related n i j := by
  induction count generalizing places with
  | zero =>
    simp only [withinSteps, Nat.le_zero, exists_eq_left, Times, exists_eq_right]
  | succ count ih =>
    have hnext := (h.isPlaces hplaces).merge hplaces
    rw [withinSteps]
    split_ifs with hlength
    · have hclosed := hplaces.subset_of_length_merge (Nat.le_of_eq hlength)
      constructor
      · exact fun hj => ⟨j, hj, 0, Nat.zero_le _, rfl⟩
      · rintro ⟨i, hi, n, -, htimes⟩
        exact h.mem_of_times hplaces hclosed hi htimes
    · rw [ih hnext]
      constructor
      · rintro ⟨i, hi, n, hn, htimes⟩
        rcases mem_mergePlaces.1 hi with hi | hi
        · obtain ⟨i', hi', hstep⟩ := (h.mem_iff hplaces).1 hi
          exact ⟨i', hi', n + 1, Nat.succ_le_succ hn, i, hstep, htimes⟩
        · exact ⟨i, hi, n, Nat.le_succ_of_le hn, htimes⟩
      · rintro ⟨i, hi, n, hn, htimes⟩
        cases n with
        | zero => exact ⟨i, mem_mergePlaces.2 (.inr hi), 0, Nat.zero_le _, htimes⟩
        | succ n =>
          obtain ⟨i', hstep, hrest⟩ := htimes
          refine ⟨i', mem_mergePlaces.2 (.inl ?_), n, Nat.le_of_succ_le_succ hn, hrest⟩
          exact (h.mem_iff hplaces).2 ⟨i, hi, hstep⟩

/-- With more steps than there are places to gain, no step leads any further. -/
theorem closed_withinSteps (hplaces : IsPlaces size places) (count : Nat)
    (hcount : places = [] ∨ size + 1 < count + places.length) :
    step (withinSteps step count places) ⊆ withinSteps step count places := by
  induction count generalizing places with
  | zero =>
    have hlength := hplaces.length_le
    obtain rfl : places = [] := hcount.resolve_right (by omega)
    intro j hj
    obtain ⟨i, hi, -⟩ := (h.mem_iff hplaces).1 hj
    exact absurd hi List.not_mem_nil
  | succ count ih =>
    have hnext := (h.isPlaces hplaces).merge hplaces
    rw [withinSteps]
    split_ifs with hlength
    · exact hplaces.subset_of_length_merge (Nat.le_of_eq hlength)
    · refine ih hnext (.inr ?_)
      have hle := hplaces.length_le_merge (step places)
      rcases hcount with rfl | hcount
      · -- Nothing is gained from no places.
        have hnone : step [] = [] := List.eq_nil_iff_forall_not_mem.2 fun j hj => by
          obtain ⟨i, hi, -⟩ := (h.mem_iff hplaces).1 hj
          exact absurd hi List.not_mem_nil
        rw [hnone] at hlength
        exact absurd (by rw [mergePlaces]) hlength
      · omega

/-- Up to a number of steps. -/
lemma within (count : Nat) :
    Computes size (withinSteps step count) fun i j => ∃ n ≤ count, Times related n i j where
  isPlaces hplaces := h.isPlaces_withinSteps hplaces count
  mem_iff hplaces _ := h.mem_withinSteps_iff hplaces count

/-- Any number of steps. -/
lemma saturated :
    Computes size (withinSteps step (size + 1)) fun i j => ∃ n, Times related n i j where
  isPlaces hplaces := h.isPlaces_withinSteps hplaces _
  mem_iff {places} hplaces j := by
    constructor
    · intro hj
      obtain ⟨i, hi, n, -, htimes⟩ := (h.mem_withinSteps_iff hplaces _).1 hj
      exact ⟨i, hi, n, htimes⟩
    · rintro ⟨i, hi, n, htimes⟩
      have hpos := List.length_pos_of_mem hi
      have hclosed := h.closed_withinSteps hplaces (size + 1) (.inr (by omega))
      exact h.mem_of_times (h.isPlaces_withinSteps hplaces _) hclosed
        (h.subset_withinSteps hplaces _ hi) htimes

end Within

end Computes

/-! ## Patterns -/

section Ends

variable {subject : Subject}

/-- The place behind a character of the set. -/
def placeBehind? (subject : Subject) (set : CharSet) (place : Nat) : Option Nat :=
  subject[place]?.bind fun c => if set.has c then some (place + 1) else none

lemma ends_chars (subject : Subject) (set : CharSet) (nesting : Nat) :
    ends subject (.chars set nesting) = List.filterMap (placeBehind? subject set) := by
  funext places
  rw [ends]
  congr 1
  funext place
  rw [placeBehind?]
  cases subject[place]? <;> rfl

lemma placeBehind?_eq_some_iff {set : CharSet} (nesting : Nat) {place next : Nat} :
    placeBehind? subject set place = some next ↔
      Matches subject (.chars set nesting) place next := by
  rw [placeBehind?, Matches, Option.bind_eq_some_iff]
  refine exists_congr fun c => and_congr_right fun _ => ?_
  split_ifs with hhas
  · simp [hhas, eq_comm]
  · simp [hhas]

lemma computes_chars (subject : Subject) (set : CharSet) (nesting : Nat) :
    Computes subject.size (ends subject (.chars set nesting))
      (Matches subject (.chars set nesting)) := by
  rw [ends_chars]
  constructor
  · intro places hplaces
    constructor
    · refine List.pairwise_filterMap.2 (hplaces.sorted.imp fun hlt => ?_)
      intro j hj j' hj'
      obtain ⟨-, -, -, rfl⟩ := (placeBehind?_eq_some_iff nesting).1 hj
      obtain ⟨-, -, -, rfl⟩ := (placeBehind?_eq_some_iff nesting).1 hj'
      exact Nat.succ_lt_succ hlt
    · intro j hj
      obtain ⟨i, -, hnext⟩ := List.mem_filterMap.1 hj
      obtain ⟨c, hc, -, rfl⟩ := (placeBehind?_eq_some_iff nesting).1 hnext
      exact Nat.succ_le_of_lt (Array.getElem?_eq_some_iff.1 hc).1
  · intro places hplaces j
    rw [List.mem_filterMap]
    exact exists_congr fun i => and_congr_right fun _ => placeBehind?_eq_some_iff nesting

lemma computes_look (subject : Subject) (condition : Look) :
    Computes subject.size (ends subject (.look condition)) (Matches subject (.look condition)) where
  isPlaces hplaces :=
    ⟨hplaces.sorted.filter _, fun i hi => hplaces.le_size i (List.mem_filter.1 hi).1⟩
  mem_iff _ j := by
    simp only [ends, List.mem_filter, Matches]
    constructor
    · exact fun hj => ⟨j, hj.1, rfl, hj.2⟩
    · rintro ⟨i, hi, rfl, hholds⟩
      exact ⟨hi, hholds⟩

lemma computes_repetition {p : Pattern}
    (h : Computes subject.size (ends subject p) (Matches subject p)) (least : Nat)
    (most : Option Nat) (preferFew : Bool) :
    Computes subject.size (ends subject (.repetition p least most preferFew))
      (Matches subject (.repetition p least most preferFew)) := by
  cases most with
  | none =>
    refine ((h.afterSteps least).comp h.saturated).congr fun i k => ?_
    simp only [Matches, times_add_iff, Option.mem_def, reduceCtorEq, false_implies, implies_true,
      true_and]
    constructor
    · rintro ⟨j, hleast, further, hfurther⟩
      exact ⟨further, j, hleast, hfurther⟩
    · rintro ⟨further, j, hleast, hfurther⟩
      exact ⟨j, hleast, further, hfurther⟩
  | some most =>
    refine ((h.afterSteps least).comp (h.within (most - least))).congr fun i k => ?_
    simp only [Matches, times_add_iff, Option.mem_def, Option.some.injEq, forall_eq']
    constructor
    · rintro ⟨j, hleast, further, hle, hfurther⟩
      exact ⟨further, hle, j, hleast, hfurther⟩
    · rintro ⟨further, hle, j, hleast, hfurther⟩
      exact ⟨j, hleast, further, hle, hfurther⟩

mutual

/-- Matching finds the stretches that a pattern matches, and no others. -/
theorem computes_ends (subject : Subject) :
    ∀ p : Pattern, Computes subject.size (ends subject p) (Matches subject p)
  | .empty => .stay _
  | .chars set nesting => computes_chars subject set nesting
  | .look condition => computes_look subject condition
  | .group p _ => computes_ends subject p
  | .repetition p least most preferFew =>
    computes_repetition (computes_ends subject p) least most preferFew
  | .sequence ps => computes_endsInSequence subject ps
  | .choice ps => computes_endsOfChoice subject ps

lemma computes_endsInSequence (subject : Subject) :
    ∀ ps : List Pattern,
      Computes subject.size (endsInSequence subject ps) (MatchesInSequence subject ps)
  | [] => .stay _
  | p :: ps => (computes_ends subject p).comp (computes_endsInSequence subject ps)

lemma computes_endsOfChoice (subject : Subject) :
    ∀ ps : List Pattern, Computes subject.size (endsOfChoice subject ps) (MatchesOneOf subject ps)
  | [] => .nothing _
  | p :: ps => (computes_ends subject p).merge (computes_endsOfChoice subject ps)

end

theorem isFoundIn_iff (p : Pattern) (text : String) :
    p.isFoundIn text = true ↔ p.MatchesSomewhere text := by
  have hmem : ∀ j, j ∈ ends text.toList.toArray p (List.range (text.toList.length + 1)) ↔
      ∃ i ∈ List.range (text.toList.length + 1), Matches text.toList.toArray p i j := fun _ =>
    (computes_ends text.toList.toArray p).mem_iff (isPlaces_range _)
  have hfound : p.isFoundIn text = true ↔
      ends text.toList.toArray p (List.range (text.toList.length + 1)) ≠ [] := by
    rw [isFoundIn, Bool.not_eq_true', List.isEmpty_eq_false_iff]
    rfl
  rw [hfound]
  constructor
  · intro hsome
    obtain ⟨j, hj⟩ := List.exists_mem_of_ne_nil _ hsome
    obtain ⟨i, hi, hmatches⟩ := (hmem j).1 hj
    exact ⟨i, j, Nat.lt_succ_iff.1 (List.mem_range.1 hi), hmatches⟩
  · rintro ⟨i, j, hi, hmatches⟩
    exact List.ne_nil_of_mem ((hmem j).2 ⟨i, List.mem_range.2 (Nat.lt_succ_of_le hi), hmatches⟩)

end Ends

end JsonPath.Pattern
