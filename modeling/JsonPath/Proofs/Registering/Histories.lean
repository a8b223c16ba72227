import JsonPath.Proofs.Scoping.Registries
import Mathlib.Data.List.Forall2
import Mathlib.Data.Set.List

/-!
# Histories of registries

Registries are made empty, with the built-in functions or as copies of others, and each of them is
then extended by registrations of its own (`Operation`).  Beside the registries that operations
leave, `historiesAfter` keeps what has been registered in each of them, copies of histories for
copies of registries.  A registry follows its history (`Registry.Follows`): a function has the
signature that was registered last, the names are in strict order, and no evaluator stands without
a signature.  Each registration keeps this, so every registry that operations lead to has it
(`exists_follows`).

A registration by a code succeeds exactly for the codes of signatures (`Signature.ofCode_eq_ok_iff`,
`Signature.exists_code_eq_iff`), and otherwise leaves the registry as it is.
-/

namespace JsonPath

/-! ## Codes of signatures -/

namespace FunctionType

/-- The letters of the types. -/
def letters : List Char := ['l', 'n', 'v']

lemma ofCode?_code (t : FunctionType) : ofCode? t.code = some t := by
  cases t <;> rfl

lemma ofCode?_of_notMem {c : Char} (h : c ∉ letters) : ofCode? c = none := by
  unfold ofCode?
  split
  · exact absurd (by decide) h
  · exact absurd (by decide) h
  · exact absurd (by decide) h
  · rfl

lemma code_mem_letters (t : FunctionType) : t.code ∈ letters := by
  cases t <;> decide

/-- Letters of types are the code of types. -/
lemma exists_map_code_eq {cs : List Char} (h : ∀ c ∈ cs, c ∈ letters) :
    ∃ ts : List FunctionType, ts.map code = cs := by
  have hletters : ∀ c ∈ letters, c ∈ Set.range code := by
    simp only [letters, List.forall_mem_cons]
    exact ⟨⟨.logical, rfl⟩, ⟨.nodes, rfl⟩, ⟨.value, rfl⟩, List.forall_mem_nil _⟩
  rw [← Set.mem_range, Set.range_list_map]
  exact fun c hc => hletters c (h c hc)

end FunctionType

namespace Signature

open FunctionType (letters)

variable {code : String} {cs : List Char} {ts : List FunctionType}

lemma typesOf_map_code (code : String) (ts : List FunctionType) :
    typesOf code (ts.map FunctionType.code) = .ok ts := by
  induction ts with
  | nil => rfl
  | cons t ts ih =>
    rw [List.map_cons, typesOf, FunctionType.ofCode?_code, ih]
    rfl

lemma typesOf_unknown (code : String) {c : Char} (hc : c ∉ letters) (after : List Char)
    (ts : List FunctionType) :
    typesOf code (ts.map FunctionType.code ++ c :: after) = .error (.unknownType c code) := by
  induction ts with
  | nil => rw [List.map_nil, List.nil_append, typesOf, FunctionType.ofCode?_of_notMem hc]
  | cons t ts ih =>
    rw [List.map_cons, List.cons_append, typesOf, FunctionType.ofCode?_code, ih]
    rfl

/-- Either all letters are letters of types, or there is a first one that is not. -/
lemma letters_or_unknown (cs : List Char) :
    (∀ c ∈ cs, c ∈ letters) ∨
      ∃ before c after, cs = before ++ c :: after ∧ (∀ b ∈ before, b ∈ letters) ∧ c ∉ letters := by
  induction cs with
  | nil => exact .inl nofun
  | cons c cs ih =>
    by_cases hc : c ∈ letters
    · obtain hall | ⟨before, c', after, rfl, hbefore, hc'⟩ := ih
      · exact .inl (List.forall_mem_cons.2 ⟨hc, hall⟩)
      · exact .inr ⟨c :: before, c', after, rfl, List.forall_mem_cons.2 ⟨hc, hbefore⟩, hc'⟩
    · exact .inr ⟨[], c, cs, rfl, nofun, hc⟩

/-- A code is read as the one signature that has it. -/
lemma ofCode_code (s : Signature) : ofCode s.code = .ok s := by
  rw [ofCode, Signature.code, String.toList_ofList, typesOf_map_code]

/-- The codes of signatures are the texts of one letter at least, all of them letters of types. -/
theorem exists_code_eq_iff :
    (∃ s : Signature, s.code = code) ↔ code ≠ "" ∧ ∀ c ∈ code.toList, c ∈ letters := by
  constructor
  · rintro ⟨s, rfl⟩
    have hletters : s.code.toList = (s.returns :: s.parameters).map FunctionType.code :=
      String.toList_ofList
    refine ⟨fun hempty => ?_, fun c hc => ?_⟩
    · rw [hempty] at hletters
      cases hletters
    · rw [hletters] at hc
      obtain ⟨t, -, rfl⟩ := List.mem_map.1 hc
      exact t.code_mem_letters
  · rintro ⟨hne, hall⟩
    obtain ⟨ts, hts⟩ := FunctionType.exists_map_code_eq hall
    match ts with
    | [] => exact absurd (String.toList_eq_nil_iff.1 hts.symm) hne
    | returns :: parameters =>
      exact ⟨⟨returns, parameters⟩, by rw [Signature.code, hts, String.ofList_toList]⟩

/-- What is wrong with a code: it is empty, or it has a first letter that is no type. -/
def Faulty (code : String) (e : SignatureError) : Prop :=
  (code = "" ∧ e = .empty) ∨
    ∃ before c after, code.toList = before ++ c :: after ∧ (∀ b ∈ before, b ∈ letters) ∧
      c ∉ letters ∧ e = .unknownType c code

lemma ofCode_of_faulty {e : SignatureError} (h : Faulty code e) : ofCode code = .error e := by
  obtain ⟨rfl, rfl⟩ | ⟨before, c, after, hcode, hbefore, hc, rfl⟩ := h
  · rfl
  · obtain ⟨ts, rfl⟩ := FunctionType.exists_map_code_eq hbefore
    rw [ofCode, hcode, typesOf_unknown code hc]

lemma exists_code_eq_or_faulty (code : String) :
    (∃ s : Signature, s.code = code) ∨ ∃ e, Faulty code e := by
  by_cases hempty : code = ""
  · exact .inr ⟨.empty, .inl ⟨hempty, rfl⟩⟩
  obtain hall | ⟨before, c, after, hcode, hbefore, hc⟩ := letters_or_unknown code.toList
  · exact .inl (exists_code_eq_iff.2 ⟨hempty, hall⟩)
  · exact .inr ⟨.unknownType c code, .inr ⟨before, c, after, hcode, hbefore, hc, rfl⟩⟩

theorem ofCode_eq_ok_iff {s : Signature} : ofCode code = .ok s ↔ s.code = code := by
  constructor
  · intro h
    obtain ⟨s', rfl⟩ | ⟨e, hfaulty⟩ := exists_code_eq_or_faulty code
    · rw [ofCode_code] at h
      cases h
      rfl
    · rw [ofCode_of_faulty hfaulty] at h
      cases h
  · rintro rfl
    exact ofCode_code s

lemma ofCode_eq_error_iff {e : SignatureError} : ofCode code = .error e ↔ Faulty code e := by
  constructor
  · intro h
    obtain ⟨s', rfl⟩ | ⟨e', hfaulty⟩ := exists_code_eq_or_faulty code
    · rw [ofCode_code] at h
      cases h
    · rw [ofCode_of_faulty hfaulty] at h
      cases h
      exact hfaulty
  · exact ofCode_of_faulty

end Signature

/-! ## Tables in order -/

namespace NameTable

variable {α : Type} {key name : String} {entry : α} {table : NameTable α}

lemma mem_names_iff : name ∈ names table ↔ (find? name table).isSome := by
  induction table with
  | nil => simp [names, find?]
  | cons first rest ih =>
    obtain ⟨key, old⟩ := first
    rw [names, List.map_cons, List.mem_cons, ← names, ih, find?]
    split
    · rename_i h
      exact iff_of_true (.inl h.symm) rfl
    · rename_i h
      exact or_iff_right fun heq => h heq.symm

lemma mem_names_insert :
    name ∈ names (insert key entry table) ↔ name = key ∨ name ∈ names table := by
  rw [mem_names_iff, mem_names_iff, find?_insert]
  split
  · rename_i h
    exact iff_of_true rfl (.inl h.symm)
  · rename_i h
    exact (or_iff_right fun heq => h heq.symm).symm

/-- Strict order is kept, as the entry goes in front of the first greater name. -/
lemma pairwise_names_insert (h : (names table).Pairwise (· < ·)) :
    (names (insert key entry table)).Pairwise (· < ·) := by
  induction table with
  | nil => exact List.pairwise_singleton _ _
  | cons first rest ih =>
    obtain ⟨old, value⟩ := first
    obtain ⟨hold, hrest⟩ := List.pairwise_cons.1 h
    rw [insert]
    split
    · rename_i hlt
      exact List.pairwise_cons.2
        ⟨List.forall_mem_cons.2 ⟨hlt, fun n hn => String.lt_trans hlt (hold n hn)⟩, h⟩
    · split
      · rename_i heq
        exact heq ▸ h
      · rename_i hge hne
        have hlt : old < key := Std.lt_of_le_of_ne (String.not_lt.1 hge) hne
        refine List.pairwise_cons.2 ⟨fun n hn => ?_, ih hrest⟩
        obtain rfl | hn := mem_names_insert.1 hn
        · exact hlt
        · exact hold n hn

end NameTable

/-! ## Operations -/

namespace Registry

/-- An attempt to register a function. -/
inductive Registration where
  | ofSignature (name : String) (signature : Signature)
  | ofCode (name code : String)
  | ofEvaluator (name : String) (signature : Signature) (evaluator : Evaluator)

namespace Registration

/-- The registry after a registration; a bad code leaves it as it is. -/
def run (r : Registry) : Registration → Registry
  | .ofSignature name signature => r.register name signature
  | .ofCode name code =>
    match r.registerCode name code with
    | .ok r' => r'
    | .error _ => r
  | .ofEvaluator name signature evaluator => r.registerEvaluator name signature evaluator

/-- The function that is registered and its signature, unless the registration fails. -/
def registered? : Registration → Option (String × Signature)
  | .ofSignature name signature => some (name, signature)
  | .ofCode name code => (Signature.ofCode code).toOption.map (name, ·)
  | .ofEvaluator name signature _ => some (name, signature)

end Registration

/-- What has been registered in a registry, the latest registration first. -/
abbrev History := List Registration

/-- The signature that was registered last for a function. -/
def History.signature? (history : History) (name : String) : Option Signature :=
  (history.filterMap Registration.registered?).lookup name

/-- The history of the registry of the built-in functions. -/
def builtInHistory : History :=
  (builtIns.map fun (name, signature) => Registration.ofSignature name signature).reverse

/-- An operation on registries, which have the numbers in the order in which they were made. -/
inductive Operation where
  /-- Makes a registry of the built-in functions. -/
  | standard
  /-- Makes a registry without functions. -/
  | empty
  /-- Makes a copy of a registry. -/
  | clone (source : Nat)
  | register (target : Nat) (registration : Registration)

section Runs

variable {α β : Type}

/-- What an operation does to what is kept of each registry, given what is kept of the registries
that are made anew and what a registration does to it. -/
def Operation.run (standard empty : α) (register : α → Registration → α) (xs : List α) :
    Operation → List α
  | .standard => xs ++ [standard]
  | .empty => xs ++ [empty]
  | .clone source => xs ++ xs[source]?.toList
  | .register target registration => xs.modify target (register · registration)

/-- The registries that operations leave. -/
def registriesAfter (operations : List Operation) : List Registry :=
  operations.foldl (Operation.run standard empty Registration.run) []

/-- What has been registered in each of the registries that operations leave; the history of a copy
goes on from that of its source. -/
def historiesAfter (operations : List Operation) : List History :=
  operations.foldl (Operation.run builtInHistory [] fun history x => x :: history) []

variable {R : α → β → Prop} {standard empty : α} {standard' empty' : β}
  {register : α → Registration → α} {register' : β → Registration → β}

/-- One operation keeps a relation that registrations keep. -/
lemma Operation.forall₂_run (hstandard : R standard standard') (hempty : R empty empty')
    (hregister : ∀ a b x, R a b → R (register a x) (register' b x)) {xs : List α} {ys : List β}
    (h : List.Forall₂ R xs ys) (operation : Operation) :
    List.Forall₂ R (operation.run standard empty register xs)
      (operation.run standard' empty' register' ys) := by
  cases operation with
  | standard => exact List.rel_append h (.cons hstandard .nil)
  | empty => exact List.rel_append h (.cons hempty .nil)
  | clone source =>
    refine List.rel_append h ?_
    induction h generalizing source with
    | nil => exact .nil
    | cons hhead htail ih =>
      cases source with
      | zero => exact .cons hhead .nil
      | succ source => exact ih source
  | register target registration =>
    show List.Forall₂ R (xs.modify target _) (ys.modify target _)
    induction h generalizing target with
    | nil =>
      rw [List.modify_nil, List.modify_nil]
      exact .nil
    | cons hhead htail ih =>
      cases target with
      | zero => exact .cons (hregister _ _ registration hhead) htail
      | succ target => exact .cons hhead (ih target)

/-- So does any run of operations. -/
lemma Operation.forall₂_foldl (hstandard : R standard standard') (hempty : R empty empty')
    (hregister : ∀ a b x, R a b → R (register a x) (register' b x)) (operations : List Operation)
    {xs : List α} {ys : List β} (h : List.Forall₂ R xs ys) :
    List.Forall₂ R (operations.foldl (Operation.run standard empty register) xs)
      (operations.foldl (Operation.run standard' empty' register') ys) := by
  induction operations generalizing xs ys with
  | nil => exact h
  | cons operation operations ih => exact ih (operation.forall₂_run hstandard hempty hregister h)

end Runs

/-! ## Registries and their histories -/

/-- No evaluator stands without a signature. -/
def EvaluatorsSigned (r : Registry) : Prop :=
  ∀ name, (r.evaluator? name).isSome → (r.signature? name).isSome

/-- What a registry has from its history. -/
structure Follows (r : Registry) (history : History) : Prop where
  signatures : ∀ name, r.signature? name = history.signature? name
  ordered : r.names.Pairwise (· < ·)
  evaluators : r.EvaluatorsSigned

variable {r : Registry} {history : History}

lemma registerCode_eq_ok_iff {name code : String} {r' : Registry} :
    r.registerCode name code = .ok r' ↔
      ∃ s : Signature, s.code = code ∧ r' = r.register name s := by
  rw [registerCode]
  cases h : Signature.ofCode code with
  | error e =>
    refine iff_of_false nofun ?_
    rintro ⟨s, hs, -⟩
    rw [Signature.ofCode_eq_ok_iff.2 hs] at h
    cases h
  | ok s =>
    constructor
    · intro heq
      cases heq
      exact ⟨s, Signature.ofCode_eq_ok_iff.1 h, rfl⟩
    · rintro ⟨s', hs', rfl⟩
      rw [Signature.ofCode_eq_ok_iff.2 hs'] at h
      cases h
      rfl

lemma registerCode_eq_error_iff {name code : String} {e : SignatureError} :
    r.registerCode name code = .error e ↔ Signature.Faulty code e := by
  rw [registerCode, ← Signature.ofCode_eq_error_iff]
  cases h : Signature.ofCode code with
  | error e' => simp [Except.map]
  | ok s => exact iff_of_false nofun nofun

lemma Follows.empty : Follows empty [] where
  signatures _ := rfl
  ordered := .nil
  evaluators _ h := h

/-- A signature that is registered, alone or with an evaluator. -/
lemma Follows.register (h : r.Follows history) (name : String) (signature : Signature)
    {x : Registration} (hx : x.registered? = some (name, signature)) :
    (r.register name signature).Follows (x :: history) where
  signatures function := by
    rw [signature?_register, History.signature?, List.filterMap_cons_some hx, List.lookup_cons]
    by_cases hname : name = function
    · rw [if_pos hname, beq_iff_eq.2 hname.symm]
    · rw [if_neg hname, beq_eq_false_iff_ne.2 (Ne.symm hname)]
      exact h.signatures function
  ordered := NameTable.pairwise_names_insert h.ordered
  evaluators function hfunction := by
    rw [signature?_register]
    split
    · rfl
    · exact h.evaluators function hfunction

/-- Every registration keeps a registry and its history together. -/
lemma Follows.run (h : r.Follows history) (x : Registration) :
    (x.run r).Follows (x :: history) := by
  cases x with
  | ofSignature name signature => exact h.register name signature rfl
  | ofCode name code =>
    rw [Registration.run]
    split
    · rename_i r' hok
      obtain ⟨s, hs, rfl⟩ := registerCode_eq_ok_iff.1 hok
      refine h.register name s ?_
      rw [Registration.registered?, Signature.ofCode_eq_ok_iff.2 hs]
      rfl
    · rename_i e herror
      have hnone : (Registration.ofCode name code).registered? = none := by
        rw [Registration.registered?,
          Signature.ofCode_eq_error_iff.2 (registerCode_eq_error_iff.1 herror)]
        rfl
      refine { h with signatures := fun function => ?_ }
      rw [History.signature?, List.filterMap_cons_none hnone]
      exact h.signatures function
  | ofEvaluator name signature evaluator =>
    have hsignature :
        (r.register name signature).Follows (.ofEvaluator name signature evaluator :: history) :=
      h.register name signature rfl
    refine { hsignature with evaluators := fun function hfunction => ?_ }
    rw [Registration.run, evaluator?_registerEvaluator] at hfunction
    rw [Registration.run, signature?_registerEvaluator]
    split at hfunction
    · rename_i hname
      rw [if_pos hname]
      rfl
    · rename_i hname
      rw [if_neg hname]
      exact h.evaluators function hfunction

lemma Follows.foldl (h : r.Follows history) (entries : List (String × Signature)) :
    (entries.foldl (fun r (name, signature) => r.register name signature) r).Follows
      ((entries.map fun (name, signature) => Registration.ofSignature name signature).reverse ++
        history) := by
  induction entries generalizing r history with
  | nil => exact h
  | cons entry rest ih =>
    rw [List.map_cons, List.reverse_cons, List.append_assoc]
    exact ih (h.run (.ofSignature entry.1 entry.2))

lemma Follows.standard : Follows standard builtInHistory := by
  have h : Follows Registry.standard (builtInHistory ++ []) := empty.foldl builtIns
  rwa [List.append_nil] at h

/-- Each registry that operations leave follows its history. -/
theorem exists_follows {operations : List Operation} {i : Nat}
    (h : (registriesAfter operations)[i]? = some r) :
    ∃ history, (historiesAfter operations)[i]? = some history ∧ r.Follows history := by
  have hall : List.Forall₂ Follows (registriesAfter operations) (historiesAfter operations) :=
    Operation.forall₂_foldl .standard .empty (fun _ _ x hx => hx.run x) operations .nil
  obtain ⟨hi, rfl⟩ := List.getElem?_eq_some_iff.1 h
  have hi' : i < (historiesAfter operations).length := hall.length_eq ▸ hi
  exact ⟨_, List.getElem?_eq_getElem hi', hall.get hi hi'⟩

end Registry

end JsonPath
