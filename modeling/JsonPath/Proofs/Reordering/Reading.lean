import JsonPath.Json.Reader
import JsonPath.Proofs.Reordering.Documents

/-!
# Documents that are read

A member that is read takes the place of an earlier one of its name (`Json.setMember`).  So an
object never comes to have two members of one name, and neither does any value inside a text that is
read (`Json.hasUniqueNames_of_parse?`): documents that are read are such as the results about the
order of members, the paths to nodes and the equality of values ask for.

The reader bounds its recursion by fuel, and what holds of its three parts is carried over all fuel
at once (`Json.ReadsUnique`).
-/

namespace JsonPath.Json

variable {name : String} {value : Json} {ms : List (String × Json)}

/-! ## Giving a member its value -/

lemma mem_setMember {m : String × Json} (h : m ∈ setMember name value ms) :
    m = (name, value) ∨ m ∈ ms := by
  induction ms with
  | nil => exact .inl (List.mem_singleton.1 h)
  | cons first rest ih =>
    rw [setMember] at h
    split_ifs at h with hname
    · rw [hname] at h
      exact (List.mem_cons.1 h).imp_right (List.mem_cons_of_mem first)
    · rcases List.mem_cons.1 h with rfl | h
      · exact .inr List.mem_cons_self
      · exact (ih h).imp_right (List.mem_cons_of_mem first)

lemma nodup_setMember (h : (ms.map Prod.fst).Nodup) :
    ((setMember name value ms).map Prod.fst).Nodup := by
  induction ms with
  | nil => simp [setMember]
  | cons first rest ih =>
    obtain ⟨hfresh, hrest⟩ := List.nodup_cons.1 h
    rw [setMember]
    split_ifs with hname
    · exact h
    · refine List.nodup_cons.2 ⟨fun hmem => ?_, ih hrest⟩
      obtain ⟨m, hm, hfirst⟩ := List.mem_map.1 hmem
      rcases mem_setMember hm with rfl | hm
      · exact hname hfirst.symm
      · exact hfresh (List.mem_map.2 ⟨m, hm, hfirst⟩)

lemma hasUniqueNames_setMember (h : (object ms).HasUniqueNames) (hvalue : value.HasUniqueNames) :
    (object (setMember name value ms)).HasUniqueNames := by
  rw [hasUniqueNames_object_iff] at h ⊢
  refine ⟨nodup_setMember h.1, fun m hm => ?_⟩
  rcases mem_setMember hm with rfl | hm
  · exact hvalue
  · exact h.2 m hm

/-! ## Reading -/

/-- With that much fuel all three parts of the reader read values with unique names. -/
structure ReadsUnique (fuel : Nat) : Prop where
  value : ∀ {s x rest}, scanValue fuel s = some (x, rest) → x.HasUniqueNames
  elements : ∀ {read s xs rest}, (array read).HasUniqueNames →
    scanElements fuel read s = some (xs, rest) → (array xs).HasUniqueNames
  members : ∀ {read s ms rest}, (object read).HasUniqueNames →
    scanMembers fuel read s = some (ms, rest) → (object ms).HasUniqueNames

namespace ReadsUnique

variable {fuel : Nat} {s rest : List Char}

lemma value_succ (h : ReadsUnique fuel) {x : Json}
    (hread : scanValue (fuel + 1) s = some (x, rest)) : x.HasUniqueNames := by
  rw [scanValue] at hread
  split at hread
  · cases hread
    exact hasUniqueNames_null
  · cases hread
    exact hasUniqueNames_bool true
  · cases hread
    exact hasUniqueNames_bool false
  · obtain ⟨⟨text, rest⟩, -, heq⟩ := Option.map_eq_some_iff.1 hread
    cases heq
    exact hasUniqueNames_string text
  · split at hread
    · cases hread
      simp
    · obtain ⟨⟨xs, rest⟩, hxs, heq⟩ := Option.map_eq_some_iff.1 hread
      cases heq
      exact h.elements (by simp) hxs
  · split at hread
    · cases hread
      simp
    · obtain ⟨⟨ms, rest⟩, hms, heq⟩ := Option.map_eq_some_iff.1 hread
      cases heq
      exact h.members (by simp) hms
  · obtain ⟨⟨n, rest⟩, -, heq⟩ := Option.map_eq_some_iff.1 hread
    cases heq
    exact hasUniqueNames_number n

lemma elements_succ (h : ReadsUnique fuel) {read xs : List Json}
    (hunique : (array read).HasUniqueNames)
    (hread : scanElements (fuel + 1) read s = some (xs, rest)) : (array xs).HasUniqueNames := by
  rw [scanElements] at hread
  split at hread
  · cases hread
  · rename_i x behind hx
    have hnext : (array (x :: read)).HasUniqueNames := by
      rw [hasUniqueNames_array_iff] at hunique ⊢
      exact List.forall_mem_cons.2 ⟨h.value hx, hunique⟩
    split at hread
    · exact h.elements hnext hread
    · cases hread
      rw [hasUniqueNames_array_iff] at hnext ⊢
      exact fun y hy => hnext y (List.mem_reverse.1 hy)
    · cases hread

lemma members_succ (h : ReadsUnique fuel) {read ms : List (String × Json)}
    (hunique : (object read).HasUniqueNames)
    (hread : scanMembers (fuel + 1) read s = some (ms, rest)) : (object ms).HasUniqueNames := by
  rw [scanMembers] at hread
  split at hread
  case h_2 => cases hread
  split at hread
  · cases hread
  split at hread
  case h_2 => cases hread
  split at hread
  · cases hread
  rename_i name _ _ _ _ _ _ value _ hvalue
  have hnext : (object (setMember name value read)).HasUniqueNames :=
    hasUniqueNames_setMember hunique (h.value hvalue)
  split at hread
  · exact h.members hnext hread
  · cases hread
    exact hnext
  · cases hread

end ReadsUnique

theorem readsUnique (fuel : Nat) : ReadsUnique fuel := by
  induction fuel with
  | zero => exact ⟨nofun, fun _ => nofun, fun _ => nofun⟩
  | succ fuel ih => exact ⟨ih.value_succ, ih.elements_succ, ih.members_succ⟩

/-- No object in a document that is read has two members of one name. -/
theorem hasUniqueNames_of_parse? {text : String} {document : Json}
    (h : parse? text = some document) : document.HasUniqueNames := by
  rw [parse?] at h
  split at h
  · rename_i value rest hvalue
    split_ifs at h
    cases h
    exact (readsUnique _).value hvalue
  · cases h

end JsonPath.Json
