import JsonPath.Pattern.Cache
import Mathlib.Tactic.Lemma

/-!
# Caching shows in no result

Whatever has been asked of a cache before, it answers as if it read the text anew, and a text that
cannot be read is refused each time.  The cache holds what the first readable texts that were asked
for hold, up to its capacity: none makes room for another.

Both are carried by one invariant (`TextCache.Remembers`), since a text that is not kept tells that
there was no room, and only then.  `TextCache.get_remembers` is its step, and
`TextCache.getAll_fresh` what becomes of it over any number of requests.  Nothing is asked of the
reading but that it depends on the text alone, and `PatternCache.getAll_empty` is the case of
patterns.
-/

namespace JsonPath

namespace TextCache

section Reading

variable {α ε : Type} (read : String → Except ε α)

/-- The answers to requests one after the other, and the cache after them. -/
def getAll (c : TextCache α) : List String → List (Except ε α) × TextCache α
  | [] => ([], c)
  | text :: rest =>
    let (answer, c) := get read c text
    let (answers, c) := getAll c rest
    (answer :: answers, c)

/-- Whether a text can be read. -/
def isReadable (text : String) : Bool := (read text).isOk

/-- The readable texts among the requests, each where it is first asked for. -/
def readableOnce (requests : List String) : List String :=
  (requests.filter (isReadable read)).eraseDups

/-- The cache holds what the first readable texts among the requests hold, as far as it has room. -/
structure Remembers (c : TextCache α) (requests : List String) : Prop where
  texts : c.entries.map Prod.fst = (readableOnce read requests).take c.capacity
  contents : ∀ entry ∈ c.entries, read entry.1 = .ok entry.2

end Reading

variable {α ε : Type} {read : String → Except ε α} {c : TextCache α} {requests : List String}
  {text : String} {x : α}

/-! ## Requests -/

/-- A request that cannot be read, or has been made before, adds nothing. -/
lemma readableOnce_append_of_mem (h : isReadable read text → text ∈ readableOnce read requests) :
    readableOnce read (requests ++ [text]) = readableOnce read requests := by
  unfold readableOnce
  rw [List.filter_append, List.eraseDups_append]
  cases hread : isReadable read text with
  | false => simp [hread]
  | true =>
    have hmem := List.mem_eraseDups.1 (h hread)
    rw [List.filter_cons_of_pos hread, List.filter_nil, List.cons_removeAll,
      if_neg (by simpa using hmem)]
    simp

lemma readableOnce_append_of_not_mem (hread : isReadable read text)
    (h : text ∉ readableOnce read requests) :
    readableOnce read (requests ++ [text]) = readableOnce read requests ++ [text] := by
  have hmem : text ∉ requests.filter (isReadable read) := fun hmem =>
    h (List.mem_eraseDups.2 hmem)
  unfold readableOnce
  rw [List.filter_append, List.eraseDups_append, List.filter_cons_of_pos hread, List.filter_nil,
    List.cons_removeAll, if_pos (by simpa using hmem)]
  simp [List.eraseDups_cons]

/-! ## One request -/

lemma mem_of_find? (h : c.find? text = some x) : (text, x) ∈ c.entries := by
  obtain ⟨⟨text', x'⟩, hfind, rfl⟩ := Option.map_eq_some_iff.1 h
  obtain rfl : text' = text := by simpa using List.find?_some hfind
  exact List.mem_of_find?_eq_some hfind

lemma not_mem_of_find? (h : c.find? text = none) : text ∉ c.entries.map Prod.fst := by
  intro hmem
  obtain ⟨entry, hentry, rfl⟩ := List.mem_map.1 hmem
  have hnone := List.find?_eq_none.1 (Option.map_eq_none_iff.1 h) entry hentry
  simp at hnone

@[simp] lemma capacity_get (read : String → Except ε α) (c : TextCache α) (text : String) :
    (get read c text).2.capacity = c.capacity := by
  unfold get
  split
  · rfl
  · split
    · rfl
    · split <;> rfl

lemma Remembers.size_eq (h : c.Remembers read requests) :
    c.size = min c.capacity (readableOnce read requests).length := by
  have hlength := congrArg List.length h.texts
  rwa [List.length_map, List.length_take] at hlength

/-- With room left, a cache holds all readable texts that were asked for. -/
lemma Remembers.texts_eq (h : c.Remembers read requests) (hroom : c.size < c.capacity) :
    c.entries.map Prod.fst = readableOnce read requests := by
  have hsize := h.size_eq
  rw [h.texts, List.take_of_length_le]
  omega

/-- What is read anew is kept as long as there is room. -/
lemma Remembers.keep (h : c.Remembers read requests) (hfind : c.find? text = none)
    (hread : read text = .ok x) :
    (if c.size < c.capacity then { c with entries := c.entries ++ [(text, x)] } else c).Remembers
      read (requests ++ [text]) := by
  have hok : isReadable read text := by simp [isReadable, hread, Except.toBool]
  split
  · rename_i hroom
    have hnew : text ∉ readableOnce read requests := h.texts_eq hroom ▸ not_mem_of_find? hfind
    have hsize := h.size_eq
    constructor
    · rw [List.map_append, h.texts_eq hroom, readableOnce_append_of_not_mem hok hnew,
        List.take_of_length_le]
      · rfl
      · rw [List.length_append, List.length_singleton]
        show _ ≤ c.capacity
        omega
    · intro entry hentry
      rcases List.mem_append.1 hentry with hentry | hentry
      · exact h.contents entry hentry
      · rw [List.mem_singleton.1 hentry]
        exact hread
  · rename_i hfull
    refine ⟨?_, h.contents⟩
    by_cases hmem : text ∈ readableOnce read requests
    · rw [readableOnce_append_of_mem fun _ => hmem, h.texts]
    · have hsize := h.size_eq
      rw [readableOnce_append_of_not_mem hok hmem, List.take_append_of_le_length (by omega),
        h.texts]

/-- A request is answered by reading the text anew, and the cache goes on to hold what the first
readable texts that were asked for hold. -/
theorem get_remembers (h : c.Remembers read requests) (text : String) :
    (get read c text).1 = read text ∧
      (get read c text).2.Remembers read (requests ++ [text]) := by
  cases hfind : c.find? text with
  | some x =>
    have hmem := mem_of_find? hfind
    have hread := h.contents _ hmem
    have hasked : text ∈ readableOnce read requests := by
      have hkept : text ∈ c.entries.map Prod.fst := List.mem_map_of_mem hmem
      exact List.mem_of_mem_take (h.texts ▸ hkept)
    simp only [get, hfind]
    refine ⟨hread.symm, ?_, h.contents⟩
    rw [readableOnce_append_of_mem fun _ => hasked, h.texts]
  | none =>
    cases hread : read text with
    | error e =>
      have hfail : ¬isReadable read text := by simp [isReadable, hread, Except.toBool]
      simp only [get, hfind, hread]
      refine ⟨trivial, ?_, h.contents⟩
      rw [readableOnce_append_of_mem fun hok => absurd hok hfail, h.texts]
    | ok x =>
      simp only [get, hfind, hread]
      exact ⟨trivial, h.keep hfind hread⟩

/-! ## Any number of requests -/

@[simp] lemma capacity_getAll (read : String → Except ε α) (c : TextCache α)
    (requests : List String) : (getAll read c requests).2.capacity = c.capacity := by
  induction requests generalizing c with
  | nil => rfl
  | cons text rest ih => rw [getAll, ih, capacity_get]

lemma remembers_empty (read : String → Except ε α) (capacity : Nat) :
    (empty capacity).Remembers read [] where
  texts := List.take_nil.symm
  contents := fun _ hentry => nomatch hentry

lemma Remembers.getAll (h : c.Remembers read requests) (texts : List String) :
    (getAll read c texts).1 = texts.map read ∧
      (getAll read c texts).2.Remembers read (requests ++ texts) := by
  induction texts generalizing c requests with
  | nil => exact ⟨rfl, by rwa [List.append_nil]⟩
  | cons text rest ih =>
    obtain ⟨hanswer, hnext⟩ := get_remembers h text
    obtain ⟨hanswers, hlast⟩ := ih hnext
    rw [List.append_assoc] at hlast
    refine ⟨?_, hlast⟩
    show (get read c text).1 :: (TextCache.getAll read (get read c text).2 rest).1 = _
    rw [hanswer, hanswers, List.map_cons]

/-- A new cache answers every request as if it read the text anew.  After any requests it holds the
contents of as many texts as it has room for and different readable ones have been asked for, namely
of the first of them, in the order of the requests and as they are read. -/
theorem getAll_fresh (read : String → Except ε α) (capacity : Nat) (requests : List String) :
    (getAll read (empty capacity) requests).1 = requests.map read ∧
      (getAll read (empty capacity) requests).2.size =
        min capacity (readableOnce read requests).length ∧
      (getAll read (empty capacity) requests).2.entries.map
          (fun entry => (entry.1, Except.ok entry.2)) =
        ((readableOnce read requests).take capacity).map fun text => (text, read text) := by
  obtain ⟨hanswers, hremembers⟩ := (remembers_empty read capacity).getAll requests
  have hcapacity := capacity_getAll read (empty capacity) requests
  rw [List.nil_append] at hremembers
  have hsize := hremembers.size_eq
  have htexts := hremembers.texts
  rw [hcapacity] at hsize htexts
  refine ⟨hanswers, hsize, ?_⟩
  show _ = ((readableOnce read requests).take (empty (α := α) capacity).capacity).map _
  rw [← htexts, List.map_map]
  refine List.map_congr_left fun entry hentry => ?_
  show _ = (entry.1, read entry.1)
  rw [hremembers.contents entry hentry]

end TextCache

/-! ## Patterns -/

namespace PatternCache

/-- The answers to requests one after the other, and the cache after them. -/
def getAll (c : PatternCache) (requests : List String) :
    List (Except PatternError Pattern) × PatternCache :=
  TextCache.getAll Pattern.parse c requests

/-- The patterns among the requests, each where it is first asked for. -/
def readableOnce (requests : List String) : List String :=
  TextCache.readableOnce Pattern.parse requests

/-- A new cache answers every request as if it read the pattern anew.  After any requests it holds
as many patterns as it has room for and different ones have been asked for, namely the first of
them, in the order of the requests and as they are read. -/
theorem getAll_empty (capacity : Nat) (requests : List String) :
    ((empty capacity).getAll requests).1 = requests.map Pattern.parse ∧
      ((empty capacity).getAll requests).2.size = min capacity (readableOnce requests).length ∧
      ((empty capacity).getAll requests).2.entries.map
          (fun entry => (entry.1, Except.ok entry.2)) =
        ((readableOnce requests).take capacity).map fun text => (text, Pattern.parse text) :=
  TextCache.getAll_fresh Pattern.parse capacity requests

end PatternCache

end JsonPath
