import Mathlib.Data.List.Induction
import TraversalPlanner.Plan.Lowering
import TraversalPlanner.Proofs.Plan.Agreement
import TraversalPlanner.Proofs.Plan.Registration

/-
  Which set owns a fragment.  The table of an arena has, for each
  fragment, the sets that hold a similar one, in order.  The owner
  is the first of them that holds a duplicate, so it is the first
  of all sets that do.  Each fragment of each set that an arena
  was built from has an owner, merged or not, except for those
  that compare with a literal for no number.

  Main declarations:
    * `Arena.owners_register`
    * `Arena.mem_row_owners_iff`
    * `Arena.Owns`
    * `Arena.owner_eq_ok_iff`
    * `Arena.exists_owns_iff`
    * `Arena.owner_of_build`
-/

namespace TraversalPlanner

namespace Arena

------------------------------------------------------------
-- Rows of the Table
------------------------------------------------------------

/- A further set adds its number for each of its fragments. -/
theorem owners_append
    (sets : List FragmentSet)
    (s : FragmentSet) :
    (Arena.mk (sets ++ [s])).owners =
      (Arena.mk sets).owners.addAll sets.length s.fragments := by
  simp [owners, List.zipIdx_append]

/- Registering a set adds it to the table, unless it is merged. -/
theorem owners_register
    (known : List FragmentSet)
    (s : FragmentSet) :
    (Arena.mk (register known s)).owners =
      if ∃ k ∈ known, k.Duplicates s then
        (Arena.mk known).owners
      else
        (Arena.mk known).owners.addAll known.length s.fragments := by
  unfold register
  split
  · rfl
  · exact owners_append known s

/- A further set is behind all others in the rows of its fragments. -/
theorem row_owners_append
    (sets : List FragmentSet)
    (s : FragmentSet)
    (f : Fragment) :
    (Arena.mk (sets ++ [s])).owners.row f =
      (Arena.mk sets).owners.row f ++
        List.replicate (s.fragments.countP fun g => g.Similar f)
          sets.length := by
  rw [owners_append, OwnerTable.row_addAll]

/- The row of a fragment has the sets that hold a similar one. -/
theorem mem_row_owners_iff
    {sets : List FragmentSet}
    {f : Fragment}
    {id : Nat} :
    id ∈ (Arena.mk sets).owners.row f ↔
      ∃ s, sets[id]? = some s ∧ ∃ g ∈ s.fragments, g.Similar f := by
  induction sets using List.reverseRecOn with
  | nil => simp [owners]
  | append_singleton sets s ih =>
      rw [row_owners_append, List.mem_append, ih, List.mem_replicate]
      rcases Nat.lt_trichotomy id sets.length with hLt | rfl | hGt
      · rw [List.getElem?_append_left hLt]
        simp [Nat.ne_of_lt hLt]
      · simp [List.countP_eq_zero]
      · have hLength : (sets ++ [s]).length ≤ id := by
          rw [List.length_append]
          exact hGt
        rw [List.getElem?_eq_none hLength,
          List.getElem?_eq_none (Nat.le_of_lt hGt)]
        simp [Nat.ne_of_gt hGt]

/- The sets of a row are in order. -/
theorem pairwise_row_owners
    (sets : List FragmentSet)
    (f : Fragment) :
    ((Arena.mk sets).owners.row f).Pairwise (· ≤ ·) := by
  induction sets using List.reverseRecOn with
  | nil => simp [owners]
  | append_singleton sets s ih =>
      rw [row_owners_append, List.pairwise_append]
      refine ⟨ih, List.pairwise_replicate.mpr (Or.inr (Nat.le_refl _)), ?_⟩
      intro i hi j hj
      rcases mem_row_owners_iff.mp hi with ⟨t, ht, _⟩
      rw [List.eq_of_mem_replicate hj]
      exact Nat.le_of_lt (List.getElem?_eq_some_iff.mp ht).1

/- The first number with a property, in ascending order, is the least. -/
theorem le_of_find?_eq_some
    {p : Nat → Bool}
    {ids : List Nat}
    {id j : Nat}
    (h : ids.Pairwise (· ≤ ·))
    (hFind : ids.find? p = some id)
    (hj : j ∈ ids)
    (hp : p j = true) :
    id ≤ j := by
  rcases List.find?_eq_some_iff_append.mp hFind
    with ⟨_, before, behind, rfl, hBefore⟩
  rcases List.mem_append.mp hj with hj | hj
  · have hNot := hBefore j hj
    rw [hp] at hNot
    cases hNot
  · rcases List.mem_cons.mp hj with rfl | hj
    · exact Nat.le_refl j
    · have hBehind := (List.pairwise_append.mp h).2.1
      exact (List.pairwise_cons.mp hBehind).1 j hj

------------------------------------------------------------
-- Owners
------------------------------------------------------------

variable
  {a : Arena}
  {f : Fragment}
  {id : Nat}

/- The arena has a set with a number, which holds a duplicate. -/
def Owns
    (a : Arena)
    (id : Nat)
    (f : Fragment) : Prop :=
  ∃ s, a.set id = .ok s ∧ ∃ g ∈ s.fragments, g.Duplicates f

/- A number is that of a set if a set has this position. -/
theorem set_eq_ok_iff
    {s : FragmentSet} :
    a.set id = .ok s ↔ a.sets[id]? = some s := by
  unfold set
  cases a.sets[id]? with
  | none => simp
  | some t => simp

/- A set is tested for a duplicate of the fragment. -/
theorem holdsDuplicate_iff :
    a.holdsDuplicate f id = true ↔ a.Owns id f := by
  simp only [holdsDuplicate, Owns, decide_eq_true_eq, set_eq_ok_iff,
    Option.mem_def]

instance : Decidable (a.Owns id f) :=
  decidable_of_iff _ holdsDuplicate_iff

/- A set that holds a duplicate is in the row of the fragment. -/
theorem Owns.mem_row
    (h : a.Owns id f) :
    id ∈ a.owners.row f := by
  rcases h with ⟨s, hs, g, hg, hDuplicates⟩
  exact mem_row_owners_iff.mpr
    ⟨s, set_eq_ok_iff.mp hs, g, hg, hDuplicates.1⟩

/- A fragment is owned by the set that is found in its row. -/
theorem owner_eq_ok_iff_find? :
    a.owner f = .ok id ↔
      (a.owners.row f).find? (a.holdsDuplicate f) = some id := by
  unfold owner
  cases (a.owners.row f).find? (a.holdsDuplicate f) <;> simp

/- A set that is found in the row is the first one with a duplicate. -/
theorem Owns.le_of_find?
    {j : Nat}
    (h : a.Owns j f)
    (hFind : (a.owners.row f).find? (a.holdsDuplicate f) = some id) :
    id ≤ j :=
  le_of_find?_eq_some (pairwise_row_owners a.sets f) hFind h.mem_row
    (holdsDuplicate_iff.mpr h)

/- The owner of a fragment is the first set that holds a duplicate. -/
theorem owner_eq_ok_iff :
    a.owner f = .ok id ↔ a.Owns id f ∧ ∀ j < id, ¬ a.Owns j f := by
  rw [owner_eq_ok_iff_find?]
  constructor
  · intro hFind
    refine ⟨holdsDuplicate_iff.mp (List.find?_some hFind), ?_⟩
    intro j hj hOwns
    exact absurd (hOwns.le_of_find? hFind) (Nat.not_le_of_lt hj)
  · rintro ⟨hOwns, hFirst⟩
    have hSome :
        ((a.owners.row f).find? (a.holdsDuplicate f)).isSome = true :=
      List.find?_isSome.mpr
        ⟨id, hOwns.mem_row, holdsDuplicate_iff.mpr hOwns⟩
    rcases Option.isSome_iff_exists.mp hSome with ⟨i, hFind⟩
    have hFound := holdsDuplicate_iff.mp (List.find?_some hFind)
    have hNot : ¬ i < id := fun hLt => hFirst i hLt hFound
    rw [hFind, Nat.le_antisymm (hOwns.le_of_find? hFind)
      (Nat.le_of_not_lt hNot)]

/- A fragment is unassigned if no set holds a duplicate. -/
theorem owner_eq_error_iff
    {e : ContractViolation} :
    a.owner f = .error e ↔ e = .unassigned f ∧ ∀ id, ¬ a.Owns id f := by
  unfold owner
  cases hFind : (a.owners.row f).find? (a.holdsDuplicate f) with
  | none =>
      have hNone : ∀ id, ¬ a.Owns id f := fun id hOwns =>
        List.find?_eq_none.mp hFind id hOwns.mem_row
          (holdsDuplicate_iff.mpr hOwns)
      simp [hNone, eq_comm]
  | some id =>
      have hOwns := holdsDuplicate_iff.mp (List.find?_some hFind)
      constructor
      · intro h
        cases h
      · rintro ⟨_, hNone⟩
        exact absurd hOwns (hNone id)

------------------------------------------------------------
-- Fragments of Sets
------------------------------------------------------------

/- No set owns a fragment that compares with no number. -/
theorem Owns.hasNaN_eq_false
    (h : a.Owns id f) :
    f.hasNaN = false := by
  rcases h with ⟨_, _, g, _, hDuplicates⟩
  have hAgreement := Fragment.isAgreement_duplicates
  exact (hAgreement.self_iff f).mp
    (hAgreement.trans (hAgreement.symm hDuplicates) hDuplicates)

/- A set of the arena with a duplicate has a number, which owns it. -/
theorem exists_owns_of_mem_sets
    {s : FragmentSet}
    {g : Fragment}
    (hs : s ∈ a.sets)
    (hg : g ∈ s.fragments)
    (h : g.Duplicates f) :
    ∃ id, a.Owns id f := by
  rcases List.mem_iff_getElem?.mp hs with ⟨id, hid⟩
  exact ⟨id, s, set_eq_ok_iff.mpr hid, g, hg, h⟩

/-
  A fragment of a set that an arena was built from is owned, by
  this set or by the one that it was merged into, unless it
  compares with no number.
-/
theorem exists_owns_iff
    {sets : List FragmentSet}
    {s : FragmentSet}
    (hs : s ∈ sets)
    (hf : f ∈ s.fragments) :
    (∃ id, (build sets).Owns id f) ↔ f.hasNaN = false := by
  constructor
  · rintro ⟨id, hOwns⟩
    exact hOwns.hasNaN_eq_false
  · intro hNumber
    rcases mem_build_or_duplicate hs with hKept | ⟨k, hk, hDuplicates⟩
    · have hSelf := (Fragment.isAgreement_duplicates.self_iff f).mpr hNumber
      exact exists_owns_of_mem_sets hKept hf hSelf
    · rcases hDuplicates.2 f hf with ⟨g, hg, hfg⟩
      exact exists_owns_of_mem_sets hk hg
        (Fragment.isAgreement_duplicates.symm hfg)

/-
  The owner of a fragment is the first set of an arena that holds
  a duplicate, and without one the fragment is unassigned.  All
  fragments of the sets that the arena was built from have an
  owner, except for those that compare with no number, which never
  have one.  Every number in the table is that of a set.
-/
theorem owner_of_build
    (sets : List FragmentSet)
    (f : Fragment) :
    (∀ id, (build sets).owner f = .ok id ↔
      (build sets).Owns id f ∧ ∀ j < id, ¬ (build sets).Owns j f) ∧
    ((build sets).owner f = .error (.unassigned f) ↔
      ∀ id, ¬ (build sets).Owns id f) ∧
    ((∃ s ∈ sets, f ∈ s.fragments) →
      ((∃ id, (build sets).owner f = .ok id) ↔ f.hasNaN = false)) ∧
    (f.hasNaN = true →
      (build sets).owner f = .error (.unassigned f)) ∧
    ∀ id ∈ (build sets).owners.row f, ∃ s, (build sets).set id = .ok s := by
  have hError : (build sets).owner f = .error (.unassigned f) ↔
      ∀ id, ¬ (build sets).Owns id f := by
    simp [owner_eq_error_iff]
  refine ⟨fun id => owner_eq_ok_iff, hError, ?_, ?_, ?_⟩
  · rintro ⟨s, hs, hf⟩
    rw [← exists_owns_iff hs hf]
    constructor
    · rintro ⟨id, hOwner⟩
      exact ⟨id, (owner_eq_ok_iff.mp hOwner).1⟩
    · intro hOwned
      cases hOwner : (build sets).owner f with
      | ok id => exact ⟨id, rfl⟩
      | error e =>
          rcases hOwned with ⟨id, hOwns⟩
          exact absurd hOwns ((owner_eq_error_iff.mp hOwner).2 id)
  · intro hNaN
    refine hError.mpr fun id hOwns => ?_
    rw [hOwns.hasNaN_eq_false] at hNaN
    cases hNaN
  · intro id hid
    rcases mem_row_owners_iff.mp hid with ⟨s, hs, _⟩
    exact ⟨s, set_eq_ok_iff.mpr hs⟩

/- A fragment that compares with no number. -/
def noNumberFragment : Fragment :=
  .filter (.value (.compare .eq (.value (.double (.nan false))))) ⟨"x"⟩

/-
  Castings in two roles, the first of them once more with a role
  variable, and a comparison with no number.
-/
def roleSets : List FragmentSet :=
  [Lowering.cast (some "actor") none ⟨"r"⟩ ⟨"x"⟩,
   Lowering.cast (some "director") none ⟨"r"⟩ ⟨"x"⟩,
   Lowering.cast (some "actor") (some ⟨"part"⟩) ⟨"r"⟩ ⟨"x"⟩,
   .single noNumberFragment]

/-
  A casting of the merged set is owned by the set that it was
  merged into.  The casting in the other role is similar, but has
  another owner.
-/
theorem owner_of_build_roleSets :
    let merged :=
      Fragment.casting (some "actor") (some ⟨"part"⟩) .inward ⟨"x"⟩ ⟨"r"⟩
    let other :=
      Fragment.casting (some "director") none .inward ⟨"x"⟩ ⟨"r"⟩
    (∃ s ∈ roleSets, merged ∈ s.fragments) ∧
      merged.hasNaN = false ∧
      (∃ id, (build roleSets).owner merged = .ok id) ∧
      (build roleSets).owner merged = .ok 0 ∧
      other.Similar merged ∧
      (build roleSets).owner other = .ok 1 ∧
      (∃ s ∈ roleSets, noNumberFragment ∈ s.fragments) ∧
      noNumberFragment.hasNaN = true ∧
      (build roleSets).owner noNumberFragment =
        .error (.unassigned noNumberFragment) := by
  intro merged other
  have hMember : ∃ s ∈ roleSets, merged ∈ s.fragments := by decide
  have hNumber : merged.hasNaN = false := rfl
  have hNoNumber : noNumberFragment.hasNaN = true := by decide
  have hMerged := owner_of_build roleSets merged
  have hOther := owner_of_build roleSets other
  have hNone := owner_of_build roleSets noNumberFragment
  refine ⟨hMember, hNumber, (hMerged.2.2.1 hMember).mpr hNumber, ?_,
    by decide, ?_, by decide, hNoNumber, hNone.2.2.2.1 hNoNumber⟩
  · exact (hMerged.1 0).mpr ⟨by decide, by decide⟩
  · exact (hOther.1 1).mpr ⟨by decide, by decide⟩

/- A fragment of a registered set is reported as unassigned. -/
theorem exists_unassigned_member :
    let s := FragmentSet.single noNumberFragment
    s ∈ (build [s]).sets ∧
      noNumberFragment ∈ s.fragments ∧
      (build [s]).owner noNumberFragment =
        .error (.unassigned noNumberFragment) := by
  intro s
  refine ⟨by decide, by decide, owner_eq_error_iff.mpr ⟨rfl, ?_⟩⟩
  intro id hOwns
  exact absurd hOwns.hasNaN_eq_false (by decide)

end Arena

end TraversalPlanner
