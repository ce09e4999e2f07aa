import Std.Data.HashMap
import TraversalPlanner.Plan.Fragment

/-
  This file defines the table that tells which sets hold a
  fragment.  The table is a hash map, and similar fragments are
  one key of it: a row has the numbers of all sets that hold a
  fragment of one shape, start and end.

  Key definitions include:
    * `FragmentKey`
    * `OwnerTable`
    * `OwnerTable.row`
    * `OwnerTable.add`
    * `OwnerTable.addAll`
-/

namespace TraversalPlanner

------------------------------------------------------------
-- Keys
------------------------------------------------------------

deriving instance Hashable for Var, Direction, FragmentShape

/- A fragment as the key of a row. -/
structure FragmentKey where
  fragment : Fragment

namespace FragmentKey

/- Similar fragments are equal as keys. -/
instance : BEq FragmentKey where
  beq := fun k l => decide (k.fragment.Similar l.fragment)

/- What similar fragments share is hashed. -/
instance : Hashable FragmentKey where
  hash := fun k =>
    hash (k.fragment.kind.shape, k.fragment.start, k.fragment.finish?)

/- Keys are equal if their fragments are similar. -/
theorem beq_iff_similar
    {f g : Fragment} :
    (FragmentKey.mk f == ⟨g⟩) = true ↔ f.Similar g :=
  decide_eq_true_iff

instance : EquivBEq FragmentKey where
  rfl := beq_iff_similar.mpr (.refl _)
  symm := by
    intro k l h
    have hSimilar := beq_iff_similar.mp h
    exact beq_iff_similar.mpr (Fragment.Similar.symm hSimilar)
  trans := by
    intro k l m h h'
    have hSimilar := beq_iff_similar.mp h
    have hSimilar' := beq_iff_similar.mp h'
    exact beq_iff_similar.mpr (Fragment.Similar.trans hSimilar hSimilar')

/- Equal keys have the same hash. -/
instance : LawfulHashable FragmentKey where
  hash_eq := by
    intro k l h
    rcases beq_iff_similar.mp h with ⟨hShape, hStart, hFinish⟩
    simp only [hash, hShape, hStart, hFinish]

end FragmentKey

------------------------------------------------------------
-- Tables
------------------------------------------------------------

/- The numbers of the sets that hold fragments, by fragment. -/
structure OwnerTable where
  rows : Std.HashMap FragmentKey (List Nat)

namespace OwnerTable

/- The table without rows. -/
def empty : OwnerTable where
  rows := ∅

/- The numbers that were added for a fragment or similar ones. -/
def row
    (t : OwnerTable)
    (f : Fragment) : List Nat :=
  t.rows.getD ⟨f⟩ []

/- Add the number of a set that holds a fragment. -/
def add
    (t : OwnerTable)
    (id : Nat)
    (f : Fragment) : OwnerTable where
  rows := t.rows.insert ⟨f⟩ (t.row f ++ [id])

/- Add the number of a set for each of its fragments. -/
def addAll
    (t : OwnerTable)
    (id : Nat)
    (fs : List Fragment) : OwnerTable :=
  fs.foldl (fun t f => t.add id f) t

/- Nothing was added to the table without rows. -/
@[simp] theorem row_empty (f : Fragment) :
    empty.row f = [] :=
  Std.HashMap.getD_empty

/- A number is added behind those in the row of its fragment. -/
theorem row_add
    (t : OwnerTable)
    (id : Nat)
    (f g : Fragment) :
    (t.add id f).row g =
      if f.Similar g then t.row g ++ [id] else t.row g := by
  unfold add row
  rw [Std.HashMap.getD_insert]
  by_cases hSimilar : f.Similar g
  · have hKey := FragmentKey.beq_iff_similar.mpr hSimilar
    rw [if_pos hKey, if_pos hSimilar, Std.HashMap.getD_congr hKey]
  · have hKey := mt FragmentKey.beq_iff_similar.mp hSimilar
    rw [if_neg hKey, if_neg hSimilar]

/- A number is added once for each fragment that is similar. -/
theorem row_addAll
    (t : OwnerTable)
    (id : Nat)
    (fs : List Fragment)
    (g : Fragment) :
    (t.addAll id fs).row g =
      t.row g ++ List.replicate (fs.countP fun f => f.Similar g) id := by
  induction fs generalizing t with
  | nil => simp [addAll]
  | cons f fs ih =>
      have hRest : (t.addAll id (f :: fs)).row g =
          ((t.add id f).addAll id fs).row g := rfl
      rw [hRest, ih, row_add]
      by_cases hSimilar : f.Similar g
      · simp [hSimilar, List.replicate_succ]
      · simp [hSimilar]

end OwnerTable

end TraversalPlanner
