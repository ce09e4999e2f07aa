import TraversalPlanner.Sorted.KeyOrder

/-
  This file defines finite sets as strictly increasing lists, so
  that sets with the same elements are equal.

  Key definitions include:
    * `SortedSet`
    * `SortedSet.insert`
    * `SortedSet.insertMany`
    * `SortedSet.ofList`

  Key theorems include:
    * `SortedSet.mem_insert`
    * `SortedSet.mem_insertMany`
    * `SortedSet.mem_ofList`
    * `SortedSet.ext`
-/

namespace TraversalPlanner

------------------------------------------------------------
-- Sets
------------------------------------------------------------

/- A finite set, given by its elements in increasing order. -/
structure SortedSet (K : Type) [KeyOrder K] where
  toList : List K
  sorted : toList.Pairwise fun a b => KeyOrder.before a b = true

namespace SortedSet

variable {K : Type} [KeyOrder K]

instance [DecidableEq K] : DecidableEq (SortedSet K) :=
  fun s t =>
    if h : s.toList = t.toList then
      isTrue (by cases s; cases t; cases h; rfl)
    else
      isFalse fun hst => h (congrArg toList hst)

instance : Membership K (SortedSet K) :=
  ⟨fun s a => a ∈ s.toList⟩

instance
    [DecidableEq K]
    (a : K)
    (s : SortedSet K) :
    Decidable (a ∈ s) :=
  inferInstanceAs (Decidable (a ∈ s.toList))

/- Membership is membership in the list of elements. -/
theorem mem_def
    {a : K}
    {s : SortedSet K} :
    a ∈ s ↔ a ∈ s.toList :=
  Iff.rfl

/- The set without elements. -/
def empty : SortedSet K :=
  ⟨[], List.Pairwise.nil⟩

/- The number of elements. -/
def size (s : SortedSet K) : Nat :=
  s.toList.length

------------------------------------------------------------
-- Insertion
------------------------------------------------------------

/- Insert a key into a strictly increasing list. -/
def insertKey (a : K) : List K → List K
| [] => [a]
| b :: bs =>
    if KeyOrder.before a b then
      a :: b :: bs
    else if KeyOrder.before b a then
      b :: insertKey a bs
    else
      b :: bs

/- Insertion adds the key and keeps the others. -/
theorem mem_insertKey
    {a c : K} :
    ∀ {bs : List K}, c ∈ insertKey a bs ↔ c = a ∨ c ∈ bs
| [] => by
    simp [insertKey]
| b :: bs => by
    unfold insertKey
    split
    · simp
    · rename_i hab
      split
      · rw [List.mem_cons, mem_insertKey, List.mem_cons]
        constructor
        · rintro (h | h | h)
          · exact Or.inr (Or.inl h)
          · exact Or.inl h
          · exact Or.inr (Or.inr h)
        · rintro (h | h | h)
          · exact Or.inr (Or.inl h)
          · exact Or.inl h
          · exact Or.inr (Or.inr h)
      · rename_i hba
        have hEq : a = b :=
          KeyOrder.eq_of_not_before (by simpa using hab) (by simpa using hba)
        subst hEq
        simp

/- Insertion keeps a list strictly increasing. -/
theorem pairwise_insertKey
    (a : K) :
    ∀ {bs : List K},
      bs.Pairwise (fun b c => KeyOrder.before b c = true) →
        (insertKey a bs).Pairwise fun b c => KeyOrder.before b c = true
| [], _ => by
    simp [insertKey]
| b :: bs, h => by
    have hb := List.pairwise_cons.mp h
    unfold insertKey
    split
    · rename_i hab
      refine List.pairwise_cons.mpr ⟨?_, h⟩
      intro c hc
      rcases List.mem_cons.mp hc with rfl | hc
      · exact hab
      · exact KeyOrder.before_trans hab (hb.1 c hc)
    · split
      · rename_i hba
        refine List.pairwise_cons.mpr ⟨?_, pairwise_insertKey a hb.2⟩
        intro c hc
        rcases mem_insertKey.mp hc with rfl | hc
        · exact hba
        · exact hb.1 c hc
      · exact h

/- Add an element. -/
def insert
    (s : SortedSet K)
    (a : K) : SortedSet K :=
  ⟨insertKey a s.toList, pairwise_insertKey a s.sorted⟩

/- Add the elements of a list. -/
def insertMany
    (s : SortedSet K)
    (as : List K) : SortedSet K :=
  as.foldl insert s

/- The set of the elements of a list. -/
def ofList (as : List K) : SortedSet K :=
  empty.insertMany as

/- The elements after an insertion. -/
theorem mem_insert
    {s : SortedSet K}
    {a c : K} :
    c ∈ s.insert a ↔ c = a ∨ c ∈ s :=
  mem_insertKey

/- The elements after several insertions. -/
theorem mem_insertMany
    {as : List K} :
    ∀ {s : SortedSet K} {c : K},
      c ∈ s.insertMany as ↔ c ∈ as ∨ c ∈ s := by
  induction as with
  | nil =>
      intro s c
      simp [insertMany]
  | cons a as ih =>
      intro s c
      have hStep : s.insertMany (a :: as) = (s.insert a).insertMany as := rfl
      rw [hStep, ih, mem_insert, List.mem_cons]
      constructor
      · rintro (h | h | h)
        · exact Or.inl (Or.inr h)
        · exact Or.inl (Or.inl h)
        · exact Or.inr h
      · rintro ((h | h) | h)
        · exact Or.inr (Or.inl h)
        · exact Or.inl h
        · exact Or.inr (Or.inr h)

/- No element belongs to the empty set. -/
theorem not_mem_empty
    {c : K} :
    c ∉ (empty : SortedSet K) := by
  intro h
  cases h

/- The elements of the set of a list. -/
theorem mem_ofList
    {as : List K}
    {c : K} :
    c ∈ ofList as ↔ c ∈ as := by
  unfold ofList
  rw [mem_insertMany]
  simp [not_mem_empty]

------------------------------------------------------------
-- Extensionality
------------------------------------------------------------

/- Strictly increasing lists with the same members are equal. -/
theorem eq_of_mem_iff :
    ∀ {as bs : List K},
      as.Pairwise (fun a b => KeyOrder.before a b = true) →
      bs.Pairwise (fun a b => KeyOrder.before a b = true) →
      (∀ c, c ∈ as ↔ c ∈ bs) →
        as = bs
| [], [], _, _, _ => rfl
| [], b :: bs, _, _, h => by
    have hb := (h b).mpr (by simp)
    cases hb
| a :: as, [], _, _, h => by
    have ha := (h a).mp (by simp)
    cases ha
| a :: as, b :: bs, hA, hB, h => by
    have hA' := List.pairwise_cons.mp hA
    have hB' := List.pairwise_cons.mp hB
    have hHead : a = b := by
      rcases List.mem_cons.mp ((h a).mp (by simp)) with hab | hab
      · exact hab
      · rcases List.mem_cons.mp ((h b).mpr (by simp)) with hba | hba
        · exact hba.symm
        · have hFirst := hB'.1 a hab
          have hSecond := hA'.1 b hba
          rw [KeyOrder.before_asymm hFirst] at hSecond
          cases hSecond
    subst hHead
    have hTail : as = bs := by
      apply eq_of_mem_iff hA'.2 hB'.2
      intro c
      constructor
      · intro hc
        rcases List.mem_cons.mp ((h c).mp (List.mem_cons_of_mem a hc))
          with hEq | hMem
        · exact absurd hEq (KeyOrder.ne_of_before (hA'.1 c hc)).symm
        · exact hMem
      · intro hc
        rcases List.mem_cons.mp ((h c).mpr (List.mem_cons_of_mem a hc))
          with hEq | hMem
        · exact absurd hEq (KeyOrder.ne_of_before (hB'.1 c hc)).symm
        · exact hMem
    rw [hTail]

/- Sets with the same elements are equal. -/
theorem ext
    {s t : SortedSet K}
    (h : ∀ c, c ∈ s ↔ c ∈ t) :
    s = t := by
  have hList : s.toList = t.toList :=
    eq_of_mem_iff s.sorted t.sorted h
  cases s
  cases t
  cases hList
  rfl

end SortedSet

end TraversalPlanner
