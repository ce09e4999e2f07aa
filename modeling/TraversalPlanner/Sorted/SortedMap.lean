import TraversalPlanner.Sorted.KeyOrder

/-
  This file defines finite maps as lists of entries with strictly
  increasing keys.

  Key definitions include:
    * `SortedMap`
    * `SortedMap.get?`
    * `SortedMap.insert`
    * `SortedMap.insertIfNew`
    * `SortedMap.ofList`

  Key theorems include:
    * `SortedMap.get?_insert`
    * `SortedMap.mem_of_get?`
    * `SortedMap.get?_of_mem`
-/

namespace TraversalPlanner

------------------------------------------------------------
-- Maps
------------------------------------------------------------

/- A finite map, given by its entries in increasing order of keys. -/
structure SortedMap
    (K V : Type)
    [KeyOrder K] where
  toList : List (K × V)
  sorted : toList.Pairwise fun a b => KeyOrder.before a.1 b.1 = true

namespace SortedMap

variable {K V : Type} [KeyOrder K]

instance [DecidableEq K] [DecidableEq V] : DecidableEq (SortedMap K V) :=
  fun s t =>
    if h : s.toList = t.toList then
      isTrue (by cases s; cases t; cases h; rfl)
    else
      isFalse fun hst => h (congrArg toList hst)

/- The map without entries. -/
def empty : SortedMap K V :=
  ⟨[], List.Pairwise.nil⟩

/- The number of entries. -/
def size (m : SortedMap K V) : Nat :=
  m.toList.length

/- The keys in increasing order. -/
def keys (m : SortedMap K V) : List K :=
  m.toList.map Prod.fst

/- The values in increasing order of their keys. -/
def values (m : SortedMap K V) : List V :=
  m.toList.map Prod.snd

/- The value at a key. -/
def get?
    [DecidableEq K]
    (m : SortedMap K V)
    (k : K) : Option V :=
  (m.toList.find? fun e => decide (e.1 = k)).map Prod.snd

/- The key has a value. -/
def contains
    [DecidableEq K]
    (m : SortedMap K V)
    (k : K) : Bool :=
  (m.get? k).isSome

/- The entries whose keys pass a test. -/
def filterKeys
    (p : K → Bool)
    (m : SortedMap K V) : SortedMap K V :=
  ⟨m.toList.filter fun e => p e.1, m.sorted.filter _⟩

------------------------------------------------------------
-- Insertion
------------------------------------------------------------

/- Insert an entry, in place of the entry with the same key. -/
def insertEntry
    (k : K)
    (v : V) : List (K × V) → List (K × V)
| [] => [(k, v)]
| e :: es =>
    if KeyOrder.before k e.1 then
      (k, v) :: e :: es
    else if KeyOrder.before e.1 k then
      e :: insertEntry k v es
    else
      (k, v) :: es

/- An inserted list has the new entry and old ones only. -/
theorem mem_of_mem_insertEntry
    {k : K}
    {v : V}
    {x : K × V} :
    ∀ {es : List (K × V)}, x ∈ insertEntry k v es → x = (k, v) ∨ x ∈ es
| [], h => by
    simpa [insertEntry] using h
| e :: es, h => by
    unfold insertEntry at h
    split at h
    · rcases List.mem_cons.mp h with h | h
      · exact Or.inl h
      · exact Or.inr h
    · split at h
      · rcases List.mem_cons.mp h with h | h
        · exact Or.inr (List.mem_cons.mpr (Or.inl h))
        · rcases mem_of_mem_insertEntry h with h | h
          · exact Or.inl h
          · exact Or.inr (List.mem_cons_of_mem e h)
      · rcases List.mem_cons.mp h with h | h
        · exact Or.inl h
        · exact Or.inr (List.mem_cons_of_mem e h)

/- Insertion keeps the keys strictly increasing. -/
theorem pairwise_insertEntry
    (k : K)
    (v : V) :
    ∀ {es : List (K × V)},
      es.Pairwise (fun a b => KeyOrder.before a.1 b.1 = true) →
        (insertEntry k v es).Pairwise
          fun a b => KeyOrder.before a.1 b.1 = true
| [], _ => by
    simp [insertEntry]
| e :: es, h => by
    have he := List.pairwise_cons.mp h
    unfold insertEntry
    split
    · rename_i hke
      refine List.pairwise_cons.mpr ⟨?_, h⟩
      intro x hx
      rcases List.mem_cons.mp hx with rfl | hx
      · exact hke
      · exact KeyOrder.before_trans hke (he.1 x hx)
    · rename_i hke
      split
      · rename_i hek
        refine List.pairwise_cons.mpr ⟨?_, pairwise_insertEntry k v he.2⟩
        intro x hx
        rcases mem_of_mem_insertEntry hx with rfl | hx
        · exact hek
        · exact he.1 x hx
      · rename_i hek
        have hEq : k = e.1 :=
          KeyOrder.eq_of_not_before (by simpa using hke) (by simpa using hek)
        refine List.pairwise_cons.mpr ⟨?_, he.2⟩
        intro x hx
        have hx' := he.1 x hx
        rw [← hEq] at hx'
        exact hx'

/- Give a key a value, whether or not it had one. -/
def insert
    (m : SortedMap K V)
    (k : K)
    (v : V) : SortedMap K V :=
  ⟨insertEntry k v m.toList, pairwise_insertEntry k v m.sorted⟩

/- Give a key a value unless it has one. -/
def insertIfNew
    [DecidableEq K]
    (m : SortedMap K V)
    (k : K)
    (v : V) : SortedMap K V :=
  if m.contains k then m else m.insert k v

/- The map of a list of entries; of equal keys the last one counts. -/
def ofList (es : List (K × V)) : SortedMap K V :=
  es.foldl (fun m e => m.insert e.1 e.2) empty

------------------------------------------------------------
-- Lookup
------------------------------------------------------------

/- A value that is found belongs to an entry. -/
theorem mem_of_get?
    [DecidableEq K]
    {m : SortedMap K V}
    {k : K}
    {v : V}
    (h : m.get? k = some v) :
    (k, v) ∈ m.toList := by
  unfold get? at h
  cases hFind : m.toList.find? (fun e => decide (e.1 = k)) with
  | none =>
      rw [hFind] at h
      cases h
  | some e =>
      rw [hFind] at h
      have hKey : e.1 = k := by
        have := List.find?_some hFind
        simpa using this
      have hMem := List.mem_of_find?_eq_some hFind
      have hVal : e.2 = v := by
        simpa using h
      rw [← hKey, ← hVal]
      exact hMem

/- The value of an entry is found by its key. -/
theorem get?_of_mem
    [DecidableEq K]
    {m : SortedMap K V}
    {k : K}
    {v : V}
    (h : (k, v) ∈ m.toList) :
    m.get? k = some v := by
  have hKeys : m.toList.Pairwise fun a b => a.1 ≠ b.1 :=
    m.sorted.imp KeyOrder.ne_of_before
  unfold get?
  generalize m.toList = es at h hKeys
  induction es with
  | nil => cases h
  | cons e es ih =>
      have he := List.pairwise_cons.mp hKeys
      rcases List.mem_cons.mp h with rfl | h
      · simp
      · rw [List.find?_cons_of_neg (by simpa using he.1 (k, v) h)]
        exact ih h he.2

/- Lookup in a list after an insertion. -/
theorem find?_insertEntry
    [DecidableEq K]
    (k : K)
    (v : V)
    (l : K) :
    ∀ es : List (K × V),
      ((insertEntry k v es).find? fun e => decide (e.1 = l)) =
        if k = l then
          some (k, v)
        else
          es.find? fun e => decide (e.1 = l)
| [] => by
    by_cases hkl : k = l <;> simp [insertEntry, hkl]
| e :: es => by
    unfold insertEntry
    split
    · by_cases hkl : k = l
      · simp [hkl]
      · simp [List.find?_cons, hkl]
    · rename_i hke
      split
      · rename_i hek
        rw [List.find?_cons, find?_insertEntry k v l es]
        by_cases hkl : k = l
        · have hel : e.1 ≠ l := by
            rw [← hkl]
            exact KeyOrder.ne_of_before hek
          simp [hkl, hel]
        · simp [hkl, List.find?_cons]
      · rename_i hek
        have hEq : k = e.1 :=
          KeyOrder.eq_of_not_before (by simpa using hke) (by simpa using hek)
        by_cases hkl : k = l
        · simp [hkl]
        · have hel : e.1 ≠ l := by
            rw [← hEq]
            exact hkl
          simp [hkl, hel]

/- Lookup after an insertion. -/
theorem get?_insert
    [DecidableEq K]
    (m : SortedMap K V)
    (k l : K)
    (v : V) :
    (m.insert k v).get? l = if k = l then some v else m.get? l := by
  unfold get? insert
  rw [find?_insertEntry]
  by_cases hkl : k = l <;> simp [hkl]

end SortedMap

end TraversalPlanner
