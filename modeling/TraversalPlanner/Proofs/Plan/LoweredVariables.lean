import TraversalPlanner.Proofs.Plan.InventedVariables

/-
  The variables of lowered patterns.  They are the variables that
  the statements of a pattern are about and mention, and those
  that lowering invents for labels and for unnamed resources.  A
  clause without properties states nothing of its variable, which
  lowering leaves out.

  Main declarations:
    * `Pattern.loweredVars`
    * `Statement.Involves`
    * `Lowering.exists_set_iff_involves_filter`
    * `Pattern.mem_loweredVars_iff_involves`
-/

namespace TraversalPlanner

------------------------------------------------------------
-- Variables of Sets
------------------------------------------------------------

/- All variables of the fragments of a set. -/
def FragmentSet.varList (s : FragmentSet) : List Var :=
  s.fragments.flatMap fun f => f.vars.toList

/- All variables of the fragments that a pattern is lowered to. -/
def Pattern.loweredVars (p : Pattern) : VarSet :=
  SortedSet.ofList (p.lower.flatMap FragmentSet.varList)

namespace Lowering

/- The first fragment of a lowered set has all its variables. -/
theorem IsLowered.mem_varList_iff
    {s : FragmentSet}
    {x : Var}
    (h : IsLowered s) :
    x ∈ s.varList ↔ x ∈ s.first.vars := by
  unfold FragmentSet.varList
  rw [List.mem_flatMap]
  constructor
  · rintro ⟨f, hf, hx⟩
    rw [← h.vars_eq hf]
    exact hx
  · intro hx
    exact ⟨s.first, List.mem_cons_self, hx⟩

/- The variables of a filter. -/
theorem mem_vars_filtered_iff
    {f : Filter}
    {x y : Var} :
    y ∈ (filtered f x).first.vars ↔ y = x ∨ f.var? = some y := by
  rw [Fragment.mem_vars_iff]
  simp [filtered, FragmentSet.single, Fragment.start,
    Fragment.finish?, Fragment.others]

/- The variables of an edge. -/
theorem mem_vars_connected_iff
    {e : Edge}
    {x y z : Var} :
    z ∈ (connected e x y).first.vars ↔ z = x ∨ z = y := by
  rw [Fragment.mem_vars_iff]
  simp [connected, Fragment.start, Fragment.finish?, Fragment.others,
    eq_comm]

/- The variables of a casting. -/
theorem mem_vars_cast_iff
    {role : Option String}
    {roleVar : Option Var}
    {x y z : Var} :
    z ∈ (cast role roleVar x y).first.vars ↔
      z = x ∨ z = y ∨ roleVar = some z := by
  rw [Fragment.mem_vars_iff]
  simp [cast, Fragment.start, Fragment.finish?, Fragment.others,
    eq_comm]

/- The variables of two different concepts. -/
theorem mem_vars_distinct_iff
    {x y z : Var} :
    z ∈ (distinct x y).first.vars ↔ z = x ∨ z = y := by
  rw [Fragment.mem_vars_iff]
  simp [distinct, Fragment.start, Fragment.finish?, Fragment.others,
    eq_comm]

------------------------------------------------------------
-- Variables of Properties
------------------------------------------------------------

/- A set of a list has the variable. -/
def HasVar
    (sets : List FragmentSet)
    (x : Var) : Prop :=
  ∃ s ∈ sets, x ∈ s.first.vars

/- The variables of two lists of sets. -/
theorem hasVar_append_iff
    (ss ts : List FragmentSet)
    (x : Var) :
    HasVar (ss ++ ts) x ↔ HasVar ss x ∨ HasVar ts x := by
  unfold HasVar
  simp only [List.mem_append, or_and_right, exists_or]

/- The variables of one set. -/
theorem hasVar_singleton_iff
    {s : FragmentSet}
    {x : Var} :
    HasVar [s] x ↔ x ∈ s.first.vars := by
  unfold HasVar
  simp only [List.mem_singleton, exists_eq_left]

/- The variable of a pinned label. -/
theorem hasVar_pin_iff
    {t : TypeRef}
    {x : Var} :
    HasVar (pin t) x ↔ t.label?.map labelVar = some x := by
  cases t with
  | label l =>
      have hPin : pin (.label l) = [filtered (.label l) (labelVar l)] :=
        rfl
      rw [hPin, hasVar_singleton_iff, mem_vars_filtered_iff]
      simp [TypeRef.label?, Filter.var?, eq_comm]
  | var y =>
      simp [HasVar, pin, TypeRef.label?]

/- The variable of a reference is its own, or that of its label. -/
theorem typeVar_eq_iff
    {t : TypeRef}
    {x : Var} :
    typeVar t = x ↔ t.var? = some x ∨ t.label?.map labelVar = some x := by
  cases t with
  | label l => simp [typeVar, TypeRef.var?, TypeRef.label?]
  | var y => simp [typeVar, TypeRef.var?, TypeRef.label?]

/- The variables of an edge to a type, with what pins the type. -/
theorem hasVar_typed_iff
    {e : Edge}
    {t : TypeRef}
    {x y : Var} :
    HasVar (pin t ++ [connected e x (typeVar t)]) y ↔
      y = x ∨ y ∈ t.var?.toList ∨ t.label?.map labelVar = some y := by
  rw [hasVar_append_iff, hasVar_singleton_iff, hasVar_pin_iff,
    mem_vars_connected_iff, eq_comm (a := y) (b := typeVar t),
    typeVar_eq_iff, Option.mem_toList]
  constructor
  · rintro (h | h | h | h)
    · exact Or.inr (Or.inr h)
    · exact Or.inl h
    · exact Or.inr (Or.inl h)
    · exact Or.inr (Or.inr h)
  · rintro (h | h | h)
    · exact Or.inr (Or.inl h)
    · exact Or.inr (Or.inr (Or.inl h))
    · exact Or.inl h

/- The variables of an owner, a resource and a predicate on it. -/
theorem hasVar_resource_iff
    (type : String)
    (p : Option ValuePredicate)
    (x y z : Var) :
    HasVar
        (connected (.has type) x y ::
          (p.map fun p => filtered (.value p) y).toList)
        z ↔
      z = x ∨ z = y ∨ p.bind ValuePredicate.var? = some z := by
  cases p with
  | none =>
      rw [Option.map_none, Option.toList_none, hasVar_singleton_iff,
        mem_vars_connected_iff]
      simp
  | some p =>
      have hBoth := hasVar_append_iff [connected (.has type) x y]
        [filtered (.value p) y] z
      rw [hasVar_singleton_iff, hasVar_singleton_iff,
        mem_vars_connected_iff, mem_vars_filtered_iff] at hBoth
      refine hBoth.trans ⟨?_, ?_⟩
      · rintro ((h | h) | h | h)
        · exact Or.inl h
        · exact Or.inr (Or.inl h)
        · exact Or.inr (Or.inl h)
        · exact Or.inr (Or.inr h)
      · rintro (h | h | h)
        · exact Or.inl (Or.inl h)
        · exact Or.inl (Or.inr h)
        · exact Or.inr (Or.inr h)

/- The variables of a role player, with what pins its role. -/
theorem hasVar_role_iff
    {role : Option TypeRef}
    {x y z : Var} :
    HasVar
        ((role.map pin).getD [] ++
          [cast (role.bind TypeRef.label?) (role.map typeVar) x y])
        z ↔
      z = x ∨ (role.bind TypeRef.var? = some z ∨ z = y) ∨
        (role.bind TypeRef.label?).map labelVar = some z := by
  rw [hasVar_append_iff, hasVar_singleton_iff, mem_vars_cast_iff]
  cases role with
  | none => simp [HasVar]
  | some t =>
      rw [Option.map_some, Option.map_some, Option.getD_some,
        hasVar_pin_iff, Option.some_inj, typeVar_eq_iff,
        Option.bind_some, Option.bind_some]
      constructor
      · rintro (h | h | h | h | h)
        · exact Or.inr (Or.inr h)
        · exact Or.inl h
        · exact Or.inr (Or.inl (Or.inr h))
        · exact Or.inr (Or.inl (Or.inl h))
        · exact Or.inr (Or.inr h)
      · rintro (h | (h | h) | h)
        · exact Or.inr (Or.inl h)
        · exact Or.inr (Or.inr (Or.inr (Or.inl h)))
        · exact Or.inr (Or.inr (Or.inl h))
        · exact Or.inl h

/-
  The variables of the sets of a property: its own variable, those
  that it mentions, that of its label, and that of a resource that
  it leaves unnamed.
-/
theorem hasVar_ofProperty_iff
    {n : Nat}
    {x y : Var}
    {q : Property} :
    HasVar (ofProperty n x q) y ↔
      y = x ∨ y ∈ q.innerVars ∨ q.typeLabel?.map labelVar = some y ∨
        q.leavesUnnamed = true ∧ y = resourceVar n := by
  have hTyped : ∀ (e : Edge) (t : TypeRef),
      HasVar (pin t ++ [connected e x (typeVar t)]) y ↔
        y = x ∨ y ∈ t.var?.toList ∨ t.label?.map labelVar = some y ∨
          false = true ∧ y = resourceVar n := by
    intro e t
    rw [hasVar_typed_iff]
    simp
  have hFilter : ∀ f : Filter,
      HasVar [filtered f x] y ↔
        y = x ∨ y ∈ f.var?.toList ∨ none = some y ∨
          false = true ∧ y = resourceVar n := by
    intro f
    rw [hasVar_singleton_iff, mem_vars_filtered_iff]
    simp
  cases q with
  | isa t => exact hTyped .isa t
  | sub t => exact hTyped .sub t
  | relates t => exact hTyped .relates t
  | plays t => exact hTyped .plays t
  | label l => exact hFilter (.label l)
  | id i => exact hFilter (.id i)
  | value p => exact hFilter (.value p)
  | dataType t => exact hFilter (.dataType t)
  | isAbstract => exact hFilter .isAbstract
  | regex r => exact hFilter (.regex r)
  | has type resource predicate =>
      have hSets :=
        hasVar_resource_iff type predicate x
          (resource.getD (resourceVar n)) y
      cases resource with
      | none =>
          refine hSets.trans ?_
          simp [Property.innerVars, Property.typeLabel?,
            Property.leavesUnnamed, or_comm]
      | some z =>
          refine hSets.trans ?_
          simp [Property.innerVars, Property.typeLabel?,
            Property.leavesUnnamed]
  | rolePlayer p =>
      refine hasVar_role_iff.trans ?_
      simp [Property.innerVars, Property.typeLabel?,
        Property.leavesUnnamed, RolePlayer.roleLabel?]
  | neq z =>
      have hSets : ofProperty n x (.neq z) = [distinct x z] := rfl
      rw [hSets, hasVar_singleton_iff, mem_vars_distinct_iff]
      simp [Property.innerVars, Property.typeLabel?,
        Property.leavesUnnamed]

end Lowering

------------------------------------------------------------
-- Variables of Statements
------------------------------------------------------------

/-
  The variables of statements: the ones that they are stated of,
  the ones that they mention, one for each label of a type or a
  role, and one for each resource that is left unnamed.
-/
inductive Statement.Involves (ss : List Statement) : Var → Prop where
| subject
    {s : Statement} :
    s ∈ ss →
    Involves ss s.subject
| inner
    {s : Statement}
    {x : Var} :
    s ∈ ss →
    x ∈ s.property.innerVars →
    Involves ss x
| label
    {s : Statement}
    {l : String} :
    s ∈ ss →
    s.property.typeLabel? = some l →
    Involves ss ⟨"_label-" ++ l⟩
| resource
    {n : Nat} :
    n < ss.countP Statement.leavesUnnamed →
    Involves ss ⟨"_attr" ++ n.repr⟩

namespace Lowering

/- Unnamed resources are numbered from zero without gaps. -/
theorem exists_unnamed_iff
    {p : Pattern}
    {n : Nat} :
    (∃ e ∈ p.statements.zipIdx,
        e.1.leavesUnnamed = true ∧ p.unnamedBefore e.2 = n) ↔
      n < p.statements.countP Statement.leavesUnnamed := by
  have hNumbers := Pattern.numbers_eq_range' p.statements 0
  simp only [Nat.zero_add] at hNumbers
  have hMem :
      n ∈ List.range' 0 (p.statements.countP Statement.leavesUnnamed) ↔
        n < p.statements.countP Statement.leavesUnnamed := by
    rw [← List.range_eq_range', List.mem_range]
  rw [← hMem, ← hNumbers, List.mem_filterMap]
  simp only [Option.ite_none_right_eq_some, Option.some_inj,
    Pattern.unnamedBefore]

/- Statements that leave a resource unnamed are counted as before. -/
theorem countP_filter_eq
    {keeps : Statement → Bool}
    (hKeeps : ∀ s, s.leavesUnnamed = true → keeps s = true)
    (ss : List Statement) :
    (ss.filter keeps).countP Statement.leavesUnnamed =
      ss.countP Statement.leavesUnnamed := by
  rw [List.countP_filter]
  apply List.countP_congr
  intro s _
  rw [Bool.and_eq_true]
  exact ⟨fun h => h.1, fun h => ⟨h, hKeeps s h⟩⟩

/-
  The variables of the sets of some statements of a pattern, among
  them all that leave a resource unnamed.
-/
theorem exists_set_iff_involves_filter
    (p : Pattern)
    {keeps : Statement → Bool}
    (hKeeps : ∀ s, s.leavesUnnamed = true → keeps s = true)
    (x : Var) :
    (∃ e ∈ p.statements.zipIdx, keeps e.1 = true ∧
        HasVar (ofProperty (p.unnamedBefore e.2) e.1.subject
          e.1.property) x) ↔
      Statement.Involves (p.statements.filter keeps) x := by
  constructor
  · rintro ⟨e, he, hKept, hVar⟩
    have hMem : e.1 ∈ p.statements.filter keeps :=
      List.mem_filter.mpr ⟨List.fst_mem_of_mem_zipIdx he, hKept⟩
    rcases hasVar_ofProperty_iff.mp hVar
      with rfl | hInner | hLabel | ⟨hUnnamed, rfl⟩
    · exact .subject hMem
    · exact .inner hMem hInner
    · rcases Option.map_eq_some_iff.mp hLabel with ⟨l, hl, rfl⟩
      rw [labelVar_eq]
      exact .label hMem hl
    · rw [resourceVar_eq]
      apply Statement.Involves.resource
      rw [countP_filter_eq hKeeps]
      exact exists_unnamed_iff.mp ⟨e, he, hUnnamed, rfl⟩
  · -- every statement has a place in the pattern
    have hPlace : ∀ s ∈ p.statements.filter keeps,
        ∃ i, (s, i) ∈ p.statements.zipIdx ∧ keeps s = true := by
      intro s hs
      rcases List.mem_filter.mp hs with ⟨hMem, hKept⟩
      rcases List.getElem_of_mem hMem with ⟨i, hi, rfl⟩
      exact ⟨i, List.mem_zipIdx_iff_getElem?.mpr
        (List.getElem?_eq_getElem hi), hKept⟩
    intro h
    cases h with
    | subject hs =>
        rcases hPlace _ hs with ⟨i, hi, hKept⟩
        exact ⟨_, hi, hKept, hasVar_ofProperty_iff.mpr (Or.inl rfl)⟩
    | inner hs hx =>
        rcases hPlace _ hs with ⟨i, hi, hKept⟩
        exact ⟨_, hi, hKept,
          hasVar_ofProperty_iff.mpr (Or.inr (Or.inl hx))⟩
    | label hs hl =>
        rcases hPlace _ hs with ⟨i, hi, hKept⟩
        refine ⟨_, hi, hKept, hasVar_ofProperty_iff.mpr ?_⟩
        rw [hl, Option.map_some, labelVar_eq]
        exact Or.inr (Or.inr (Or.inl rfl))
    | resource hn =>
        rw [countP_filter_eq hKeeps] at hn
        rcases exists_unnamed_iff.mpr hn with ⟨e, he, hUnnamed, rfl⟩
        refine ⟨e, he, hKeeps _ hUnnamed, hasVar_ofProperty_iff.mpr ?_⟩
        rw [resourceVar_eq]
        exact Or.inr (Or.inr (Or.inr ⟨hUnnamed, rfl⟩))

end Lowering

------------------------------------------------------------
-- Variables of Patterns
------------------------------------------------------------

namespace Pattern

/- A set is lowered from a statement at some place. -/
theorem mem_lower_iff
    {p : Pattern}
    {s : FragmentSet} :
    s ∈ p.lower ↔
      ∃ e ∈ p.statements.zipIdx,
        s ∈ Lowering.ofProperty (p.unnamedBefore e.2) e.1.subject
          e.1.property := by
  rw [p.lower_eq_flatten_parts, parts, ← List.flatMap_def,
    List.mem_flatMap]

/-
  Lowering has the variables that the statements of the pattern
  are about and mention, one for each label, and one for each
  unnamed resource; and no others.
-/
theorem mem_loweredVars_iff_involves
    (p : Pattern)
    (x : Var) :
    x ∈ p.loweredVars ↔ Statement.Involves p.statements x := by
  have hEvery :
      ∀ s : Statement, s.leavesUnnamed = true →
        (fun _ : Statement => true) s = true :=
    fun _ _ => rfl
  have hAll := Lowering.exists_set_iff_involves_filter p hEvery x
  rw [List.filter_true] at hAll
  rw [← hAll, loweredVars, SortedSet.mem_ofList, List.mem_flatMap]
  constructor
  · rintro ⟨s, hs, hx⟩
    rw [(Lowering.isLowered_of_mem_lower hs).mem_varList_iff] at hx
    rcases mem_lower_iff.mp hs with ⟨e, he, hSet⟩
    exact ⟨e, he, rfl, s, hSet, hx⟩
  · rintro ⟨e, he, _, s, hSet, hx⟩
    have hs := mem_lower_iff.mpr ⟨e, he, hSet⟩
    refine ⟨s, hs, ?_⟩
    rw [(Lowering.isLowered_of_mem_lower hs).mem_varList_iff]
    exact hx

/- A variable without properties is left out. -/
example :
    (⟨[⟨⟨"x"⟩, [.isa (.label "movie")]⟩, ⟨⟨"y"⟩, []⟩]⟩ :
        Pattern).loweredVars =
      .ofList [⟨"_label-movie"⟩, ⟨"x"⟩] := by
  decide +kernel

end Pattern

end TraversalPlanner
