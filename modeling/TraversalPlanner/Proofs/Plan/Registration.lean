import TraversalPlanner.Plan.FragmentSet

/-
  Registering sets one after the other keeps those that no
  earlier set duplicates.

  Main statements:
    * `Arena.mem_of_mem_build`
    * `Arena.mem_build_or_duplicate`
    * `Arena.pairwise_build`
    * `Arena.findSome?_foldl_register`
    * `Arena.findSome?_eq_of_mem_foldl_register`
-/

namespace TraversalPlanner

namespace Arena

------------------------------------------------------------
-- Kept and Merged Sets
------------------------------------------------------------

/- A duplicate of a registered set is merged. -/
theorem register_of_duplicate
    {known : List FragmentSet}
    {s : FragmentSet}
    (h : ∃ k ∈ known, k.Duplicates s) :
    register known s = known :=
  if_pos h

/- A set that no registered one duplicates is added. -/
theorem register_of_new
    {known : List FragmentSet}
    {s : FragmentSet}
    (h : ¬ ∃ k ∈ known, k.Duplicates s) :
    register known s = known ++ [s] :=
  if_neg h

/- Registering a set keeps the registered ones. -/
theorem mem_register_of_mem
    {known : List FragmentSet}
    {s k : FragmentSet}
    (hk : k ∈ known) :
    k ∈ register known s := by
  unfold register
  split
  · exact hk
  · exact List.mem_append_left _ hk

/- Registering sets keeps the registered ones. -/
theorem mem_foldl_register_of_mem
    {sets : List FragmentSet}
    {k : FragmentSet} :
    ∀ {known : List FragmentSet},
      k ∈ known → k ∈ sets.foldl register known := by
  induction sets with
  | nil =>
      intro known hk
      exact hk
  | cons s sets ih =>
      intro known hk
      exact ih (mem_register_of_mem hk)

/- A set that is registered was there before or is a new one. -/
theorem mem_of_mem_foldl_register
    {sets : List FragmentSet}
    {k : FragmentSet} :
    ∀ {known : List FragmentSet},
      k ∈ sets.foldl register known → k ∈ known ∨ k ∈ sets := by
  induction sets with
  | nil =>
      intro known hk
      exact Or.inl hk
  | cons s sets ih =>
      intro known hk
      rcases ih hk with hk | hk
      · by_cases hDup : ∃ k ∈ known, k.Duplicates s
        · rw [register_of_duplicate hDup] at hk
          exact Or.inl hk
        · rw [register_of_new hDup] at hk
          rcases List.mem_append.mp hk with hk | hk
          · exact Or.inl hk
          · rw [List.mem_singleton.mp hk]
            exact Or.inr List.mem_cons_self
      · exact Or.inr (List.mem_cons_of_mem s hk)

/- The sets of an arena are sets that it was built from. -/
theorem mem_of_mem_build
    {sets : List FragmentSet}
    {s : FragmentSet}
    (hs : s ∈ (build sets).sets) :
    s ∈ sets := by
  rcases mem_of_mem_foldl_register hs with hs | hs
  · cases hs
  · exact hs

/- Each of the sets is registered, or a registered one duplicates it. -/
theorem mem_foldl_register_or_duplicate
    {sets : List FragmentSet}
    {s : FragmentSet} :
    ∀ {known : List FragmentSet},
      s ∈ sets →
        s ∈ sets.foldl register known ∨
          ∃ k ∈ sets.foldl register known, k.Duplicates s := by
  induction sets with
  | nil =>
      intro known hs
      cases hs
  | cons t sets ih =>
      intro known hs
      rw [List.foldl_cons]
      rcases List.mem_cons.mp hs with rfl | hs
      · by_cases hDup : ∃ k ∈ known, k.Duplicates s
        · rcases hDup with ⟨k, hk, hks⟩
          exact Or.inr
            ⟨k, mem_foldl_register_of_mem (mem_register_of_mem hk), hks⟩
        · apply Or.inl
          apply mem_foldl_register_of_mem
          rw [register_of_new hDup]
          exact List.mem_append_right _ List.mem_cons_self
      · exact ih hs

/- Each set is in the arena, or a set of the arena duplicates it. -/
theorem mem_build_or_duplicate
    {sets : List FragmentSet}
    {s : FragmentSet}
    (hs : s ∈ sets) :
    s ∈ (build sets).sets ∨
      ∃ k ∈ (build sets).sets, k.Duplicates s :=
  mem_foldl_register_or_duplicate hs

/- No registered set duplicates a later one. -/
theorem pairwise_foldl_register
    {sets : List FragmentSet} :
    ∀ {known : List FragmentSet},
      known.Pairwise (fun k s => ¬ k.Duplicates s) →
        (sets.foldl register known).Pairwise
          fun k s => ¬ k.Duplicates s := by
  induction sets with
  | nil =>
      intro known hKnown
      exact hKnown
  | cons s sets ih =>
      intro known hKnown
      apply ih
      by_cases hDup : ∃ k ∈ known, k.Duplicates s
      · rw [register_of_duplicate hDup]
        exact hKnown
      · rw [register_of_new hDup, List.pairwise_append]
        refine ⟨hKnown, List.pairwise_singleton _ s, ?_⟩
        intro k hk t ht hks
        rw [List.mem_singleton.mp ht] at hks
        exact hDup ⟨k, hk, hks⟩

/- No set of an arena duplicates a later one. -/
theorem pairwise_build
    (sets : List FragmentSet) :
    (build sets).sets.Pairwise fun k s => ¬ k.Duplicates s :=
  pairwise_foldl_register .nil

------------------------------------------------------------
-- First Sets of a Kind
------------------------------------------------------------

section FirstOfKind

variable {B : Type} {find : FragmentSet → Option B}

/-
  If sets of a kind are duplicates only of sets of that kind, the
  first one of the kind is registered.
-/
theorem findSome?_foldl_register
    (P : FragmentSet → Prop)
    (hKind :
      ∀ k s, P k → P s → k.Duplicates s →
        (find s).isSome = true → (find k).isSome = true)
    {sets : List FragmentSet} :
    ∀ {known : List FragmentSet},
      (∀ k ∈ known, P k) →
      (∀ s ∈ sets, P s) →
        (sets.foldl register known).findSome? find =
          (known ++ sets).findSome? find := by
  induction sets with
  | nil =>
      intro known _ _
      rw [List.append_nil]
      rfl
  | cons s sets ih =>
      intro known hKnown hSets
      rw [List.foldl_cons]
      have hLater : ∀ t ∈ sets, P t :=
        fun t ht => hSets t (List.mem_cons_of_mem s ht)
      by_cases hDup : ∃ k ∈ known, k.Duplicates s
      · rw [register_of_duplicate hDup, ih hKnown hLater,
          List.findSome?_append,
          List.findSome?_append, List.findSome?_cons]
        -- the merged set is not the first of the kind
        cases hs : find s with
        | none => rfl
        | some b =>
            rcases hDup with ⟨k, hk, hks⟩
            have hSome :
                (known.findSome? find).isSome = true :=
              List.findSome?_isSome_iff.mpr
                ⟨k, hk, hKind k s (hKnown k hk)
                  (hSets s List.mem_cons_self) hks (by simp [hs])⟩
            rcases Option.isSome_iff_exists.mp hSome with ⟨c, hc⟩
            rw [hc]
            rfl
      · have hKnown' : ∀ k ∈ known ++ [s], P k := by
          intro k hk
          rcases List.mem_append.mp hk with hk | hk
          · exact hKnown k hk
          · rw [List.mem_singleton.mp hk]
            exact hSets s List.mem_cons_self
        rw [register_of_new hDup, ih hKnown' hLater,
          List.append_assoc]
        rfl

/-
  If all sets of a kind are duplicates of each other, no other one
  of the kind than the first is registered.
-/
theorem findSome?_eq_of_mem_foldl_register
    (P : FragmentSet → Prop)
    (hDup :
      ∀ k s, P k → P s → (find k).isSome = true →
        (find s).isSome = true → k.Duplicates s)
    {sets : List FragmentSet} :
    ∀ {known : List FragmentSet},
      (∀ k ∈ known, P k) →
      (∀ s ∈ sets, P s) →
      (∀ k ∈ known, (find k).isSome = true →
        known.findSome? find = find k) →
        ∀ k ∈ sets.foldl register known, (find k).isSome = true →
          (sets.foldl register known).findSome? find = find k := by
  induction sets with
  | nil =>
      intro known _ _ hFirst
      exact hFirst
  | cons s sets ih =>
      intro known hKnown hSets hFirst
      have hLater : ∀ t ∈ sets, P t :=
        fun t ht => hSets t (List.mem_cons_of_mem s ht)
      rw [List.foldl_cons]
      by_cases hNew : ∃ k ∈ known, k.Duplicates s
      · rw [register_of_duplicate hNew]
        exact ih hKnown hLater hFirst
      · rw [register_of_new hNew]
        have hs : P s := hSets s List.mem_cons_self
        apply ih
        · intro k hk
          rcases List.mem_append.mp hk with hk | hk
          · exact hKnown k hk
          · rw [List.mem_singleton.mp hk]
            exact hs
        · exact hLater
        · intro k hk hkSome
          rw [List.findSome?_append]
          rcases List.mem_append.mp hk with hk | hk
          · have hFirst' := hFirst k hk hkSome
            rcases Option.isSome_iff_exists.mp hkSome with ⟨b, hb⟩
            rw [hFirst', hb]
            rfl
          · rw [List.mem_singleton.mp hk] at hkSome ⊢
            -- a registered set of the kind would duplicate this one
            have hNone : known.findSome? find = none := by
              rw [List.findSome?_eq_none_iff]
              intro l hl
              cases hSome : find l with
              | none => rfl
              | some b =>
                  exact absurd
                    ⟨l, hl, hDup l s (hKnown l hl) hs
                      (by simp [hSome]) hkSome⟩
                    hNew
            rw [hNone, List.findSome?_cons]
            cases find s <;> rfl

end FirstOfKind

end Arena

end TraversalPlanner
