import Mathlib.Data.List.Nodup
import TraversalPlanner.Plan.FragmentSet

/-
  The candidates of an arena are the fragments of its sets, each
  told apart from all others by its two numbers.

  Main statements:
    * `Arena.mem_candidates_iff`
    * `Arena.candidate_eq_of_numbers_eq`
    * `Arena.nodup_candidates`
    * `Arena.exists_set_of_mem_candidates`
-/

namespace TraversalPlanner

------------------------------------------------------------
-- Members of Sets
------------------------------------------------------------

namespace FragmentSet

/- The first fragment of a set belongs to it. -/
@[simp] theorem first_mem_fragments
    (s : FragmentSet) :
    s.first ∈ s.fragments :=
  List.mem_cons_self

end FragmentSet

------------------------------------------------------------
-- Candidates
------------------------------------------------------------

namespace Arena

/- A candidate shows its set and its position there. -/
theorem mem_candidates_iff
    {a : Arena}
    {c : Candidate} :
    c ∈ a.candidates ↔
      ∃ s, a.sets[c.set]? = some s ∧
        s.fragments[c.index]? = some c.fragment := by
  unfold candidates
  simp only [List.mem_flatMap, List.mem_map, Prod.exists,
    List.mem_zipIdx_iff_getElem?]
  constructor
  · rintro ⟨s, id, hSet, f, index, hFragment, rfl⟩
    exact ⟨s, hSet, hFragment⟩
  · rintro ⟨s, hSet, hFragment⟩
    exact ⟨s, c.set, hSet, c.fragment, c.index, hFragment, rfl⟩

/- Two candidates with the same numbers are the same. -/
theorem candidate_eq_of_numbers_eq
    {a : Arena}
    {c d : Candidate}
    (hc : c ∈ a.candidates)
    (hd : d ∈ a.candidates)
    (hSet : c.set = d.set)
    (hIndex : c.index = d.index) :
    c = d := by
  rcases mem_candidates_iff.mp hc with ⟨s, hs, hcs⟩
  rcases mem_candidates_iff.mp hd with ⟨t, ht, hdt⟩
  rw [hSet, ht] at hs
  cases hs
  rw [hIndex, hdt] at hcs
  cases c
  cases d
  simp_all

/- No candidate is listed twice. -/
theorem nodup_candidates (a : Arena) :
    a.candidates.Nodup := by
  unfold candidates
  rw [List.nodup_flatMap]
  constructor
  · rintro ⟨s, id⟩ _
    -- the positions in a set are all different
    apply List.Nodup.of_map Candidate.index
    rw [List.map_map]
    have hIndexes : (s.fragments.zipIdx.map Prod.snd).Nodup := by
      rw [List.zipIdx_map_snd]
      exact List.nodup_range'
    exact hIndexes
  · -- and so are the numbers of the sets
    have hNumbers : (a.sets.zipIdx.map Prod.snd).Nodup := by
      rw [List.zipIdx_map_snd]
      exact List.nodup_range'
    apply (List.pairwise_map.mp hNumbers).imp
    rintro ⟨s, id⟩ ⟨t, id'⟩ hNe c hc hc'
    rcases List.mem_map.mp hc with ⟨_, _, rfl⟩
    rcases List.mem_map.mp hc' with ⟨_, _, hEq⟩
    exact hNe (congrArg Candidate.set hEq).symm

/- The set of a candidate is one of the arena. -/
theorem set_lt_size
    {a : Arena}
    {c : Candidate}
    (hc : c ∈ a.candidates) :
    c.set < a.size := by
  rcases mem_candidates_iff.mp hc with ⟨s, hs, _⟩
  exact (List.getElem?_eq_some_iff.mp hs).1

/- The fragment of a candidate belongs to the set of its number. -/
theorem exists_set_of_mem_candidates
    {a : Arena}
    {c : Candidate}
    (hc : c ∈ a.candidates) :
    ∃ s, a.set c.set = .ok s ∧ c.fragment ∈ s.fragments := by
  rcases mem_candidates_iff.mp hc with ⟨s, hs, hf⟩
  refine ⟨s, ?_, List.mem_of_getElem? hf⟩
  simp [set, hs]

end Arena

end TraversalPlanner
