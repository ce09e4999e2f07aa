import TraversalPlanner.Proofs.Number.NumberCharacters
import TraversalPlanner.Proofs.Pattern.CanonicalPattern
import TraversalPlanner.Proofs.Text.Signatures

/-
  The signature of a pattern shows the pattern, if all literals
  that stand for no number are taken as one.

  Main statements:
    * `Value.readsBack_signature`
    * `Property.readsBack_signature`
    * `Clause.readsBack_signature`
    * `Pattern.canonical_eq_of_signature_eq`
-/

namespace TraversalPlanner

open Text Signature

------------------------------------------------------------
-- Variables
------------------------------------------------------------

namespace Var

/- Signatures of variables read back. -/
theorem readsBack_signature :
    ReadsBack Var.signature fun x => x := by
  have hName : ReadsBack (fun x : Var => quote x.name) Var.name :=
    fun _ _ _ _ h => readsBack_quote h
  apply (readsBack_tagged hName "Var").of_key
  intro x y h
  cases x
  cases y
  cases h
  rfl

end Var

------------------------------------------------------------
-- Literals
------------------------------------------------------------

namespace Numeral

/- The text of a numeral has no parentheses. -/
theorem ne_parenthesis_of_mem_render
    {plus : Bool}
    {n : Numeral} :
    ∀ c ∈ (n.render plus).toList, decide (c ≠ ')') = true :=
  fun c hc => decide_eq_true
    (ne_of_isNumberPart (isNumberPart_of_mem_render c hc) rfl)

end Numeral

namespace Binary64

/- The text of a number has no parentheses. -/
theorem ne_parenthesis_of_mem_render
    {style : NumberStyle}
    {x : Binary64} :
    ∀ c ∈ (x.render style).toList, decide (c ≠ ')') = true :=
  fun c hc => decide_eq_true
    (ne_of_isNumberPart (isNumberPart_of_mem_render c hc) rfl)

end Binary64

namespace DataType

/- Tags of data types are tags. -/
theorem isTag_tag (t : DataType) :
    IsTag t.tag := by
  cases t <;> decide

/- Tags of data types have no parentheses. -/
theorem closed_tag (t : DataType) :
    ∀ c ∈ t.tag.toList, decide (c ≠ ')') = true := by
  apply List.all_eq_true.mp
  cases t <;> decide

/- Data types with the same tag are the same. -/
theorem tag_injective
    {t u : DataType}
    (h : t.tag = u.tag) :
    t = u := by
  cases t <;> cases u <;> first
    | rfl
    | exact absurd h (by decide)

end DataType

namespace Value

/- Signatures of literals read back. -/
theorem readsBack_signature :
    ReadsBack Value.signature Value.canonical := by
  intro v w s t h
  rcases tagged_inj v.dataType.isTag_tag w.dataType.isTag_tag h
    with ⟨hTag, hContent⟩
  have hType := DataType.tag_injective hTag
  cases v with
  | string a =>
      cases w with
      | string b =>
          rcases readsBack_quote.closed hContent with ⟨hEq, hRest⟩
          exact ⟨congrArg (fun c => canonical (.string c)) hEq, hRest⟩
      | _ => cases hType
  | long m =>
      cases w with
      | long n =>
          rcases content_inj Numeral.ne_parenthesis_of_mem_render
              Numeral.ne_parenthesis_of_mem_render hContent
            with ⟨hText, hRest⟩
          have hEq : m = n :=
            Int64.toInt_inj.mp (Numeral.renderInt_injective hText)
          exact ⟨congrArg (fun k => canonical (.long k)) hEq, hRest⟩
      | _ => cases hType
  | double x =>
      cases w with
      | double y =>
          rcases content_inj Binary64.ne_parenthesis_of_mem_render
              Binary64.ne_parenthesis_of_mem_render hContent
            with ⟨hText, hRest⟩
          have hEq := Binary64.canonical_eq_of_render_eq hText
          exact ⟨congrArg Value.double hEq, hRest⟩
      | _ => cases hType
  | boolean a =>
      cases w with
      | boolean b =>
          have hPlain : ∀ b : Bool,
              ∀ c ∈ (render (.boolean b)).toList,
                decide (c ≠ ')') = true := by
            intro b
            apply List.all_eq_true.mp
            cases b <;> decide
          rcases content_inj (hPlain a) (hPlain b) hContent
            with ⟨hText, hRest⟩
          have hEq : ∀ a b : Bool,
              render (.boolean a) = render (.boolean b) → a = b := by
            decide
          exact ⟨congrArg (fun c => canonical (.boolean c))
            (hEq a b hText), hRest⟩
      | _ => cases hType

end Value

------------------------------------------------------------
-- Operands and Predicates
------------------------------------------------------------

namespace Operand

/- Signatures of operands read back. -/
theorem readsBack_signature :
    ReadsBack Operand.signature Operand.canonical := by
  have hValue : IsTag "Value" := by decide
  have hVar : IsTag "Var" := by decide
  intro o p s t h
  cases o with
  | value v =>
      cases p with
      | value w =>
          rcases tagged_inj hValue hValue h with ⟨_, hContent⟩
          rcases Value.readsBack_signature.closed hContent
            with ⟨hEq, hRest⟩
          exact ⟨congrArg Operand.value hEq, hRest⟩
      | var y =>
          exact absurd (tagged_inj hValue hVar h).1 (by decide)
  | var x =>
      cases p with
      | value w =>
          exact absurd (tagged_inj hVar hValue h).1 (by decide)
      | var y =>
          rcases tagged_inj hVar hVar h with ⟨_, hContent⟩
          rcases Var.readsBack_signature.closed hContent
            with ⟨hEq, hRest⟩
          exact ⟨congrArg Operand.var hEq, hRest⟩

end Operand

namespace Comparison

/- Tags of comparisons are tags. -/
theorem isTag_tag (c : Comparison) :
    IsTag c.tag := by
  cases c <;> decide

/- Comparisons with the same tag are the same. -/
theorem tag_injective
    {c d : Comparison}
    (h : c.tag = d.tag) :
    c = d := by
  cases c <;> cases d <;> first
    | rfl
    | exact absurd h (by decide)

/- Other predicates have other tags than comparisons. -/
theorem tag_ne (c : Comparison) :
    c.tag ≠ "Contains" ∧ c.tag ≠ "Regex" := by
  cases c <;> decide

end Comparison

namespace ValuePredicate

/- Signatures of predicates read back. -/
theorem readsBack_signature :
    ReadsBack ValuePredicate.signature ValuePredicate.canonical := by
  have hContains : IsTag "Contains" := by decide
  have hRegex : IsTag "Regex" := by decide
  intro p q s t h
  cases p with
  | compare c o =>
      cases q with
      | compare d r =>
          rcases tagged_inj c.isTag_tag d.isTag_tag h
            with ⟨hTag, hContent⟩
          rcases Operand.readsBack_signature.closed hContent
            with ⟨hEq, hRest⟩
          cases Comparison.tag_injective hTag
          exact ⟨congrArg (ValuePredicate.compare c) hEq, hRest⟩
      | contains b =>
          exact absurd (tagged_inj c.isTag_tag hContains h).1 c.tag_ne.1
      | regex b =>
          exact absurd (tagged_inj c.isTag_tag hRegex h).1 c.tag_ne.2
  | contains a =>
      cases q with
      | compare d r =>
          exact absurd (tagged_inj hContains d.isTag_tag h).1.symm
            d.tag_ne.1
      | contains b =>
          rcases tagged_inj hContains hContains h with ⟨_, hContent⟩
          rcases readsBack_quote.closed hContent with ⟨hEq, hRest⟩
          exact ⟨congrArg ValuePredicate.contains hEq, hRest⟩
      | regex b =>
          exact absurd (tagged_inj hContains hRegex h).1 (by decide)
  | regex a =>
      cases q with
      | compare d r =>
          exact absurd (tagged_inj hRegex d.isTag_tag h).1.symm
            d.tag_ne.2
      | contains b =>
          exact absurd (tagged_inj hRegex hContains h).1 (by decide)
      | regex b =>
          rcases tagged_inj hRegex hRegex h with ⟨_, hContent⟩
          rcases readsBack_quote.closed hContent with ⟨hEq, hRest⟩
          exact ⟨congrArg ValuePredicate.regex hEq, hRest⟩

end ValuePredicate

------------------------------------------------------------
-- Types and Role Players
------------------------------------------------------------

namespace TypeRef

/- Signatures of references read back. -/
theorem readsBack_signature :
    ReadsBack TypeRef.signature fun t => t := by
  have hLabel : IsTag "Label" := by decide
  have hVar : IsTag "Var" := by decide
  intro t u s r h
  cases t with
  | label l =>
      cases u with
      | label m =>
          rcases tagged_inj hLabel hLabel h with ⟨_, hContent⟩
          rcases readsBack_quote.closed hContent with ⟨hEq, hRest⟩
          exact ⟨congrArg TypeRef.label hEq, hRest⟩
      | var y =>
          exact absurd (tagged_inj hLabel hVar h).1 (by decide)
  | var x =>
      cases u with
      | label m =>
          exact absurd (tagged_inj hVar hLabel h).1 (by decide)
      | var y =>
          rcases tagged_inj hVar hVar h with ⟨_, hContent⟩
          rcases Var.readsBack_signature.closed hContent
            with ⟨hEq, hRest⟩
          exact ⟨congrArg TypeRef.var hEq, hRest⟩

end TypeRef

namespace RolePlayer

/- Signatures of role players read back. -/
theorem readsBack_signature :
    ReadsBack RolePlayer.signature fun p => p := by
  have hRole : ReadsBack
      (fun p : RolePlayer => optional (p.role.map TypeRef.signature))
      fun p => p.role.map fun t => t :=
    fun _ _ _ _ h => readsBack_optional TypeRef.readsBack_signature h
  have hPlayer : ReadsBack
      (fun p : RolePlayer => p.player.signature) RolePlayer.player :=
    fun _ _ _ _ h => Var.readsBack_signature h
  apply (readsBack_record_two hRole hPlayer _ _ _).of_key
  intro p q h
  injection h with hRoleEq hPlayerEq
  simp only [Option.map_id'] at hRoleEq
  cases p
  cases q
  cases hRoleEq
  cases hPlayerEq
  rfl

end RolePlayer

------------------------------------------------------------
-- Properties
------------------------------------------------------------

namespace Property

/-
  How the signatures of properties start, in the order of their
  forms.
-/
def openings : List String :=
  ["Isa(", "Sub(", "Label(", "Id(", "Value(", "Has ", "Rel(", "Relates(",
   "Plays(", "DataType(", "IsAbstract", "Regex(", "Neq("]

/- No opening is the start of another one. -/
theorem openings_apart :
    ∀ i < 13, ∀ j < 13,
      (openings.getD i "").toList <+: (openings.getD j "").toList →
        i = j := by
  decide +kernel

/- There are thirteen forms of properties. -/
theorem ctorIdx_lt (p : Property) :
    p.ctorIdx < 13 := by
  cases p <;> exact Nat.le_of_ble_eq_true rfl

/- A signature starts with the opening of its form. -/
theorem opening_isPrefix (p : Property) :
    (openings.getD p.ctorIdx "").toList <+: p.signature.toList := by
  have hTagged : ∀ name content : String,
      (name ++ "(").toList <+: (tagged name content).toList := by
    intro name content
    refine ⟨content.toList ++ [')'], ?_⟩
    simp [tagged]
  have hRecord : ∀ (name : String) (fields : List (String × String)),
      (name ++ " ").toList <+: (record name fields).toList := by
    intro name fields
    refine ⟨("\x7b " ++ String.intercalate ", "
      (fields.map fun f => f.1 ++ ": " ++ f.2) ++ " \x7d").toList, ?_⟩
    simp [record]
  cases p with
  | isa t => exact hTagged "Isa" _
  | sub t => exact hTagged "Sub" _
  | label l => exact hTagged "Label" _
  | id i => exact hTagged "Id" _
  | value p => exact hTagged "Value" _
  | has type resource predicate => exact hRecord "Has" _
  | rolePlayer p => exact hTagged "Rel" _
  | relates t => exact hTagged "Relates" _
  | plays t => exact hTagged "Plays" _
  | dataType t => exact hTagged "DataType" _
  | isAbstract => exact List.prefix_rfl
  | regex r => exact hTagged "Regex" _
  | neq x => exact hTagged "Neq" _

/- Signatures show the forms of properties. -/
theorem ctorIdx_eq_of_signature
    {p q : Property}
    {s t : List Char}
    (h : p.signature.toList ++ s = q.signature.toList ++ t) :
    p.ctorIdx = q.ctorIdx := by
  have hp : (openings.getD p.ctorIdx "").toList <+:
      p.signature.toList ++ s :=
    p.opening_isPrefix.trans (List.prefix_append _ _)
  have hq : (openings.getD q.ctorIdx "").toList <+:
      p.signature.toList ++ s := by
    rw [h]
    exact q.opening_isPrefix.trans (List.prefix_append _ _)
  rcases List.prefix_or_prefix_of_prefix hp hq with hPrefix | hPrefix
  · exact openings_apart _ p.ctorIdx_lt _ q.ctorIdx_lt hPrefix
  · exact (openings_apart _ q.ctorIdx_lt _ p.ctorIdx_lt hPrefix).symm

/- Signatures of owned resources read back. -/
theorem signature_has_inj
    {type type' : String}
    {resource resource' : Option Var}
    {predicate predicate' : Option ValuePredicate}
    {s t : List Char}
    (h :
      (Property.has type resource predicate).signature.toList ++ s =
        (Property.has type' resource' predicate').signature.toList ++ t) :
    (Property.has type resource predicate).canonical =
        (Property.has type' resource' predicate').canonical ∧
      s = t := by
  have hType : ReadsBack
      (fun a : String × Option Var × Option ValuePredicate => quote a.1)
      Prod.fst :=
    fun _ _ _ _ h => readsBack_quote h
  have hResource : ReadsBack
      (fun a : String × Option Var × Option ValuePredicate =>
        optional (a.2.1.map Var.signature))
      fun a => a.2.1.map fun x => x :=
    fun _ _ _ _ h => readsBack_optional Var.readsBack_signature h
  have hPredicate : ReadsBack
      (fun a : String × Option Var × Option ValuePredicate =>
        optional (a.2.2.map ValuePredicate.signature))
      fun a => a.2.2.map ValuePredicate.canonical :=
    fun _ _ _ _ h => readsBack_optional ValuePredicate.readsBack_signature h
  have hRecord := readsBack_record_three hType hResource hPredicate
    "Has" "attribute_type" "attribute" "predicate"
  rcases @hRecord (type, resource, predicate)
      (type', resource', predicate') s t h with ⟨hEq, hRest⟩
  simp only [Prod.mk.injEq, Option.map_id'] at hEq
  rcases hEq with ⟨rfl, rfl, hPredicateEq⟩
  refine ⟨?_, hRest⟩
  simp only [canonical, hPredicateEq]

/- Signatures of properties read back. -/
theorem readsBack_signature :
    ReadsBack Property.signature Property.canonical := by
  have hDataType : IsTag "DataType" := by decide
  intro p q s t h
  have hForm := ctorIdx_eq_of_signature h
  cases p with
  | isa a =>
      cases q with
      | isa b =>
          have hIsa := readsBack_tagged TypeRef.readsBack_signature "Isa"
          rcases hIsa h with ⟨rfl, hRest⟩
          exact ⟨rfl, hRest⟩
      | _ => cases hForm
  | sub a =>
      cases q with
      | sub b =>
          have hSub := readsBack_tagged TypeRef.readsBack_signature "Sub"
          rcases hSub h with ⟨rfl, hRest⟩
          exact ⟨rfl, hRest⟩
      | _ => cases hForm
  | label a =>
      cases q with
      | label b =>
          rcases readsBack_tagged readsBack_quote "Label" h
            with ⟨rfl, hRest⟩
          exact ⟨rfl, hRest⟩
      | _ => cases hForm
  | id a =>
      cases q with
      | id b =>
          rcases readsBack_tagged readsBack_quote "Id" h
            with ⟨rfl, hRest⟩
          exact ⟨rfl, hRest⟩
      | _ => cases hForm
  | value a =>
      cases q with
      | value b =>
          have hValue :=
            readsBack_tagged ValuePredicate.readsBack_signature "Value"
          rcases hValue h with ⟨hEq, hRest⟩
          exact ⟨congrArg Property.value hEq, hRest⟩
      | _ => cases hForm
  | has type resource predicate =>
      cases q with
      | has type' resource' predicate' => exact signature_has_inj h
      | _ => cases hForm
  | rolePlayer a =>
      cases q with
      | rolePlayer b =>
          have hRel :=
            readsBack_tagged RolePlayer.readsBack_signature "Rel"
          rcases hRel h with ⟨rfl, hRest⟩
          exact ⟨rfl, hRest⟩
      | _ => cases hForm
  | relates a =>
      cases q with
      | relates b =>
          have hRelates :=
            readsBack_tagged TypeRef.readsBack_signature "Relates"
          rcases hRelates h with ⟨rfl, hRest⟩
          exact ⟨rfl, hRest⟩
      | _ => cases hForm
  | plays a =>
      cases q with
      | plays b =>
          have hPlays :=
            readsBack_tagged TypeRef.readsBack_signature "Plays"
          rcases hPlays h with ⟨rfl, hRest⟩
          exact ⟨rfl, hRest⟩
      | _ => cases hForm
  | dataType a =>
      cases q with
      | dataType b =>
          rcases tagged_inj hDataType hDataType h with ⟨_, hContent⟩
          rcases content_inj a.closed_tag b.closed_tag hContent
            with ⟨hTag, hRest⟩
          cases DataType.tag_injective hTag
          exact ⟨rfl, hRest⟩
      | _ => cases hForm
  | isAbstract =>
      cases q with
      | isAbstract => exact ⟨rfl, List.append_cancel_left h⟩
      | _ => cases hForm
  | regex a =>
      cases q with
      | regex b =>
          rcases readsBack_tagged readsBack_quote "Regex" h
            with ⟨rfl, hRest⟩
          exact ⟨rfl, hRest⟩
      | _ => cases hForm
  | neq x =>
      cases q with
      | neq y =>
          have hNeq := readsBack_tagged Var.readsBack_signature "Neq"
          rcases hNeq h with ⟨rfl, hRest⟩
          exact ⟨rfl, hRest⟩
      | _ => cases hForm

/- No signature of a property looks like the end of a list. -/
theorem signature_append_ne_bracket
    (p : Property)
    (s t : List Char) :
    p.signature.toList ++ s ≠ ']' :: t := by
  intro h
  rcases p.opening_isPrefix with ⟨rest, hRest⟩
  rw [← hRest, List.append_assoc] at h
  have hHead : ∀ i < 13,
      (openings.getD i "").toList.head? ≠ some ']' := by
    decide
  cases hOpening : (openings.getD p.ctorIdx "").toList with
  | nil =>
      have hSome : ∀ i < 13, (openings.getD i "").toList ≠ [] := by
        decide
      exact hSome _ p.ctorIdx_lt hOpening
  | cons c cs =>
      rw [hOpening] at h
      injection h with hEq _
      apply hHead _ p.ctorIdx_lt
      rw [hOpening, hEq]
      rfl

end Property

------------------------------------------------------------
-- Clauses and Patterns
------------------------------------------------------------

namespace Clause

/- Signatures of clauses read back. -/
theorem readsBack_signature :
    ReadsBack Clause.signature Clause.canonical := by
  have hSubject : ReadsBack
      (fun c : Clause => c.subject.signature) Clause.subject :=
    fun _ _ _ _ h => Var.readsBack_signature h
  have hProperties : ReadsBack
      (fun c : Clause => listed (c.properties.map Property.signature))
      fun c => c.properties.map Property.canonical :=
    fun _ _ _ _ h =>
      readsBack_listed Property.readsBack_signature
        Property.signature_append_ne_bracket h
  apply (readsBack_record_two hSubject hProperties _ _ _).of_key
  intro c d h
  injection h with hSubjectEq hPropertiesEq
  unfold canonical
  rw [hSubjectEq, hPropertiesEq]

/- No signature of a clause looks like the end of a list. -/
theorem signature_append_ne_bracket
    (c : Clause)
    (s t : List Char) :
    c.signature.toList ++ s ≠ ']' :: t := by
  simp [signature, record]

end Clause

namespace Pattern

/-
  Patterns with the same signature are the same, if all literals
  that stand for no number are taken as one.
-/
theorem canonical_eq_of_signature_eq
    {p q : Pattern}
    (h : p.signature = q.signature) :
    p.canonical = q.canonical := by
  have hClauses :
      p.clauses.map Clause.canonical = q.clauses.map Clause.canonical :=
    (readsBack_listed Clause.readsBack_signature
      Clause.signature_append_ne_bracket).key_eq h
  unfold canonical
  rw [hClauses]

end Pattern

end TraversalPlanner
