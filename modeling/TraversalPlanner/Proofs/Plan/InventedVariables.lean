import Mathlib.Data.List.Nodup
import TraversalPlanner.Pattern.Document
import TraversalPlanner.Proofs.Number.NumeralText
import TraversalPlanner.Proofs.Plan.LoweredStatements

/-
  The variables that lowering invents: one for every resource that
  a pattern leaves unnamed, and one for every label of a type.
  They differ from each other and from all names that queries
  choose.  A document can name any variable, and can so capture
  the variable of a resource.

  Main declarations:
    * `Pattern.inventedResources`, `Pattern.inventedLabels`
    * `Pattern.inventedResources_eq`
    * `Var.IsOffered`
    * `Pattern.captures_iff`
    * `Pattern.inventedResources_apart`
-/

namespace TraversalPlanner

------------------------------------------------------------
-- Names
------------------------------------------------------------

namespace Lowering

/- Variables of different numbers differ. -/
theorem resourceVar_injective :
    Function.Injective resourceVar := by
  intro m n h
  have hName := congrArg (fun x : Var => x.name.toList) h
  simp only [resourceVar_eq, String.toList_append, Nat.toList_repr] at hName
  exact Numeral.toDigits_injective (List.append_cancel_left hName)

/- The variable of a resource is not that of a label. -/
theorem resourceVar_ne_labelVar
    (n : Nat)
    (l : String) :
    resourceVar n ≠ labelVar l := by
  intro h
  have hName := congrArg (fun x : Var => x.name.toList) h
  simp [resourceVar_eq, labelVar_eq, String.toList_append] at hName

/- The variable of a resource is no anonymous variable. -/
theorem resourceVar_ne_anonymous (n m : Nat) :
    resourceVar n ≠ .anonymous m := by
  intro h
  have hName := congrArg (fun x : Var => x.name.toList) h
  simp [resourceVar_eq, Var.anonymous, Var.generated,
    String.toList_append] at hName

end Lowering

------------------------------------------------------------
-- Invented Variables
------------------------------------------------------------

/- The label that a property gives for a type or a role. -/
def Property.typeLabel? : Property → Option String
| .isa t => t.label?
| .sub t => t.label?
| .relates t => t.label?
| .plays t => t.label?
| .rolePlayer p => p.roleLabel?
| _ => none

namespace Lowering

/-
  The variable that the sets of a property have for a resource
  that the property leaves unnamed: the end of their edge.
-/
def inventedResource?
    (q : Property)
    (sets : List FragmentSet) : Option Var :=
  if q.leavesUnnamed then
    sets.head?.bind fun s => s.first.finish?
  else
    none

/-
  The variable that the sets of a property have for the label of a
  type: the one that the label is pinned on.
-/
def inventedLabel?
    (q : Property)
    (sets : List FragmentSet) : Option Var :=
  if q.typeLabel?.isSome then
    sets.head?.map fun s => s.first.start
  else
    none

/- The variable of an unnamed resource in lowered sets. -/
theorem inventedResource?_ofProperty
    (n : Nat)
    (x : Var)
    (q : Property) :
    inventedResource? q (ofProperty n x q) =
      if q.leavesUnnamed then some (resourceVar n) else none := by
  cases q with
  | has type resource predicate => cases resource <;> rfl
  | _ => rfl

/- The variable of a label in lowered sets. -/
theorem inventedLabel?_ofProperty
    (n : Nat)
    (x : Var)
    (q : Property) :
    inventedLabel? q (ofProperty n x q) = q.typeLabel?.map labelVar := by
  have hTyped : ∀ (t : TypeRef) (sets : List FragmentSet),
      (if t.label?.isSome then
          (pin t ++ sets).head?.map fun s => s.first.start
        else
          none) =
        t.label?.map labelVar := by
    intro t sets
    cases t <;> rfl
  cases q with
  | isa t => exact hTyped t _
  | sub t => exact hTyped t _
  | relates t => exact hTyped t _
  | plays t => exact hTyped t _
  | rolePlayer p =>
      rcases p with ⟨role, player⟩
      cases role with
      | none => rfl
      | some t => exact hTyped t _
  | _ => rfl

end Lowering

namespace Pattern

/- The variables that lowering invents for resources, in order. -/
def inventedResources (p : Pattern) : List Var :=
  (p.statements.zip p.parts).filterMap fun s =>
    Lowering.inventedResource? s.1.property s.2

/- The variables that lowering invents for labels, in order. -/
def inventedLabels (p : Pattern) : List Var :=
  (p.statements.zip p.parts).filterMap fun s =>
    Lowering.inventedLabel? s.1.property s.2

/- Each statement stands beside its sets. -/
theorem zip_parts (p : Pattern) :
    p.statements.zip p.parts =
      p.statements.zipIdx.map fun s =>
        (s.1, Lowering.ofProperty (p.unnamedBefore s.2) s.1.subject
          s.1.property) := by
  calc p.statements.zip p.parts
      = (p.statements.zipIdx.map Prod.fst).zip p.parts := by
        rw [List.zipIdx_map_fst]
    _ = _ := List.zip_map'

/- The numbers of the resources that statements leave unnamed. -/
theorem numbers_eq_range' (ss : List Statement) :
    ∀ n, (ss.zipIdx.filterMap fun s =>
        if s.1.leavesUnnamed then
          some (n + (ss.take s.2).countP Statement.leavesUnnamed)
        else
          none) =
      List.range' n (ss.countP Statement.leavesUnnamed) := by
  induction ss with
  | nil =>
      intro n
      rfl
  | cons s ss ih =>
      intro n
      have hCount : ∀ i,
          n + ((s :: ss).take (i + 1)).countP Statement.leavesUnnamed =
            n + (if s.leavesUnnamed then 1 else 0) +
              (ss.take i).countP Statement.leavesUnnamed := by
        intro i
        rw [List.take_succ_cons, List.countP_cons]
        omega
      rw [List.zipIdx_cons', List.filterMap_cons, List.filterMap_map]
      simp only [Function.comp_def, Prod.map, id, hCount, ih,
        List.take_zero, List.countP_nil, Nat.add_zero]
      cases hUnnamed : s.leavesUnnamed with
      | false => simp [hUnnamed]
      | true => simp [hUnnamed, List.range'_succ]

/- Resources get the variables of the first numbers, in order. -/
theorem inventedResources_eq (p : Pattern) :
    p.inventedResources =
      (List.range (p.statements.countP Statement.leavesUnnamed)).map
        Lowering.resourceVar := by
  have hNumbers := numbers_eq_range' p.statements 0
  simp only [Nat.zero_add] at hNumbers
  unfold inventedResources
  rw [zip_parts, List.filterMap_map, List.range_eq_range', ← hNumbers,
    List.map_filterMap]
  congr 1
  funext s
  rw [Function.comp_apply, Lowering.inventedResource?_ofProperty]
  unfold Statement.leavesUnnamed unnamedBefore
  split <;> rfl

/- Labels get their own variables. -/
theorem inventedLabels_eq (p : Pattern) :
    p.inventedLabels =
      p.statements.filterMap fun s =>
        s.property.typeLabel?.map Lowering.labelVar := by
  unfold inventedLabels
  rw [zip_parts, List.filterMap_map]
  calc p.statements.zipIdx.filterMap _
      = p.statements.zipIdx.filterMap
          ((fun s => s.property.typeLabel?.map Lowering.labelVar) ∘
            Prod.fst) := by
        congr 1
        funext s
        exact Lowering.inventedLabel?_ofProperty _ _ _
    _ = _ := by
        rw [← List.filterMap_map, List.zipIdx_map_fst]

end Pattern

------------------------------------------------------------
-- Capture
------------------------------------------------------------

/-
  A variable that queries can get without a document: by naming
  it, or as an anonymous one.
-/
inductive Var.IsOffered : Var → Prop where
| named
    {name : String}
    {x : Var} :
    Var.ofName name = .ok x →
    IsOffered x
| parsed
    {text : String}
    {x : Var} :
    Var.parse text = .ok x →
    IsOffered x
| anonymous
    (n : Nat) :
    IsOffered (Var.anonymous n)

/- No such variable is invented for a resource. -/
theorem Var.IsOffered.ne_resourceVar
    {x : Var}
    (h : x.IsOffered)
    (n : Nat) :
    x ≠ Lowering.resourceVar n := by
  have hNamed : ∀ {name : String},
      Var.ofName name = .ok x → x ≠ Lowering.resourceVar n := by
    rintro name hName rfl
    have hGenerated := isGenerated_of_ofName hName
    rw [Lowering.resourceVar, isGenerated_generated] at hGenerated
    cases hGenerated
  cases h with
  | named hName => exact hNamed hName
  | parsed hText =>
      unfold Var.parse at hText
      split at hText
      · exact hNamed hText
      · exact hNamed hText
  | anonymous m => exact (Lowering.resourceVar_ne_anonymous n m).symm

namespace Pattern

/- The variables of a resource and of a label differ. -/
theorem not_mem_inventedLabels
    {p : Pattern}
    {x : Var}
    (hx : x ∈ p.inventedResources) :
    x ∉ p.inventedLabels := by
  intro hLabel
  rw [inventedResources_eq] at hx
  rw [inventedLabels_eq] at hLabel
  rcases List.mem_map.mp hx with ⟨n, _, rfl⟩
  rcases List.mem_filterMap.mp hLabel with ⟨s, _, hs⟩
  rcases Option.map_eq_some_iff.mp hs with ⟨l, _, hEq⟩
  exact Lowering.resourceVar_ne_labelVar n l hEq.symm

/- Resources get different variables. -/
theorem nodup_inventedResources (p : Pattern) :
    p.inventedResources.Nodup := by
  rw [inventedResources_eq]
  exact List.Nodup.map Lowering.resourceVar_injective List.nodup_range

/-
  A pattern captures the variable of a resource exactly if it has
  a variable of that form, with a number below the number of its
  unnamed resources.
-/
theorem captures_iff (p : Pattern) :
    (∃ x ∈ p.inventedResources, x ∈ p.vars) ↔
      ∃ n < p.statements.countP Statement.leavesUnnamed,
        ⟨"_attr" ++ n.repr⟩ ∈ p.vars := by
  rw [inventedResources_eq]
  constructor
  · rintro ⟨x, hx, hMem⟩
    rcases List.mem_map.mp hx with ⟨n, hn, rfl⟩
    rw [Lowering.resourceVar_eq] at hMem
    exact ⟨n, List.mem_range.mp hn, hMem⟩
  · rintro ⟨n, hn, hMem⟩
    rw [← Lowering.resourceVar_eq] at hMem
    exact ⟨_, List.mem_map_of_mem (List.mem_range.mpr hn), hMem⟩

/-
  Every unnamed resource gets a variable of its own, which is that
  of no label.  The pattern has it only if it has a variable of
  the same form, which queries never get without a document.
-/
theorem inventedResources_apart (p : Pattern) :
    p.inventedResources.length =
        p.statements.countP Statement.leavesUnnamed ∧
      p.inventedResources.Nodup ∧
      (∀ x ∈ p.inventedResources, x ∉ p.inventedLabels) ∧
      ((∃ x ∈ p.inventedResources, x ∈ p.vars) ↔
        ∃ n < p.statements.countP Statement.leavesUnnamed,
          ⟨"_attr" ++ n.repr⟩ ∈ p.vars) ∧
      ((∀ x ∈ p.vars, x.IsOffered) →
        ∀ x ∈ p.inventedResources, x ∉ p.vars) := by
  refine ⟨?_, p.nodup_inventedResources,
    fun _ => not_mem_inventedLabels, p.captures_iff, ?_⟩
  · rw [inventedResources_eq, List.length_map, List.length_range]
  · intro hOffered x hx hMem
    rw [inventedResources_eq] at hx
    rcases List.mem_map.mp hx with ⟨n, _, rfl⟩
    exact (hOffered _ hMem).ne_resourceVar n rfl

/- Two titles, one of them of a thing without a name. -/
def unnamedTitlesPattern : Pattern where
  clauses :=
    [⟨⟨"x"⟩,
      [.isa (.label "attr0"), .has "title" none none]⟩,
     ⟨.anonymous 0,
      [.has "title" none (some (.contains "The")), .neq ⟨"x"⟩]⟩]

/- Both titles have variables that nothing else has. -/
theorem inventedResources_apart_unnamedTitlesPattern :
    (∀ x ∈ unnamedTitlesPattern.vars, x.IsOffered) ∧
      unnamedTitlesPattern.inventedResources = [⟨"_attr0"⟩, ⟨"_attr1"⟩] ∧
      ∀ x ∈ unnamedTitlesPattern.inventedResources,
        x ∉ unnamedTitlesPattern.vars := by
  have hOffered : ∀ x ∈ unnamedTitlesPattern.vars, x.IsOffered := by
    intro x hx
    have hCases : x = ⟨"x"⟩ ∨ x = .anonymous 0 ∨ x = ⟨"x"⟩ := by
      unfold vars at hx
      rw [SortedSet.mem_ofList] at hx
      simpa [unnamedTitlesPattern, Clause.vars, Property.innerVars,
        TypeRef.var?, ValuePredicate.var?] using hx
    have hName : Var.ofName "x" = .ok ⟨"x"⟩ := by
      decide +kernel
    rcases hCases with rfl | rfl | rfl
    · exact .named hName
    · exact .anonymous 0
    · exact .named hName
  have hApart := inventedResources_apart unnamedTitlesPattern
  exact ⟨hOffered, by decide +kernel, hApart.2.2.2.2 hOffered⟩

/- A document with a variable of the form for unnamed resources. -/
def capturingText : String :=
  "\x7b\"patterns\":[\x7b\"var\":\"_attr0\",\"properties\":[" ++
    "\x7b\"Has\":\x7b\"attribute_type\":\"title\"\x7d\x7d]\x7d]\x7d"

/- Its pattern: a thing with a title. -/
def capturingPattern : Pattern where
  clauses := [⟨⟨"_attr0"⟩, [.has "title" none none]⟩]

/- The thing becomes its own title. -/
theorem exists_captured_resource :
    Pattern.ofText? capturingText = some capturingPattern ∧
      (∃ x ∈ capturingPattern.inventedResources,
        x ∈ capturingPattern.vars) ∧
      capturingPattern.lower =
        [Lowering.connected (.has "title") ⟨"_attr0"⟩ ⟨"_attr0"⟩] := by
  refine ⟨by decide +kernel, ?_, by decide +kernel⟩
  exact ⟨⟨"_attr0"⟩, by decide +kernel, by decide +kernel⟩

end Pattern

end TraversalPlanner
