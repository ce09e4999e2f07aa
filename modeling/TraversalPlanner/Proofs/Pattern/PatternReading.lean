import TraversalPlanner.Pattern.Document
import TraversalPlanner.Proofs.Json.CompactReading
import TraversalPlanner.Proofs.Json.DecodedValues
import TraversalPlanner.Proofs.Json.PrettyReading

/-
  A pattern that is written as a document is read as that pattern,
  whatever its variables, texts and integers are.  Only doubles
  may get lost: they have to be finite, and be read as what they
  are written as.

  Main declarations:
    * `Pattern.doubles`
    * `Value.ofJson?_toJson_eq_some_iff`
    * `Property.ofJson?_toJson_eq_some_iff`
    * `Pattern.ofJson?_toJson_eq_some_iff`
    * `Pattern.ofText?_toText`
-/

namespace TraversalPlanner

------------------------------------------------------------
-- Double Literals
------------------------------------------------------------

/- The number in a literal, if it is a double. -/
def Value.double? : Value → Option Binary64
| .double x => some x
| _ => none

/- The double literal of an operand. -/
def Operand.double? : Operand → Option Binary64
| .value v => v.double?
| .var _ => none

/- The double literal of a predicate. -/
def ValuePredicate.double? : ValuePredicate → Option Binary64
| .compare _ o => o.double?
| .contains _ => none
| .regex _ => none

/- The double literal of a property. -/
def Property.double? : Property → Option Binary64
| .value p => p.double?
| .has _ _ predicate => predicate.bind ValuePredicate.double?
| _ => none

/- The double literals of a clause. -/
def Clause.doubles (c : Clause) : List Binary64 :=
  c.properties.filterMap Property.double?

/- The double literals of a pattern. -/
def Pattern.doubles (p : Pattern) : List Binary64 :=
  p.clauses.flatMap Clause.doubles

namespace Binary64

/- The number is read as what it is written as in a document. -/
def IsReread (x : Binary64) : Prop :=
  (Json.ofNumber x).toNumber? = some x

/- A number that is reread is finite and reread from its numeral. -/
theorem isReread_iff
    {x : Binary64} :
    x.IsReread ↔
      x.isFinite = true ∧
        (x.toNumeral .document).toBinary64? = some x := by
  unfold IsReread Json.ofNumber
  split
  · rename_i hFinite
    simp [hFinite, Json.toNumber?]
  · rename_i hFinite
    simp [hFinite, Json.toNumber?]

/- A double whose seventeen digits are read as its neighbour. -/
example : ¬ IsReread ⟨0x3FF0000000000003⟩ := by
  unfold IsReread
  decide +kernel

end Binary64

------------------------------------------------------------
-- Literals and Predicates
------------------------------------------------------------

namespace Json

/- The content of an alternative is read under its name. -/
@[simp] theorem alternative?_tagged
    (name : String)
    (j : Json) :
    (tagged name j).alternative? = some (name, some j) :=
  rfl

end Json

/- A variable is read from its document. -/
@[simp] theorem Var.ofJson?_toJson (x : Var) :
    ofJson? x.toJson = some x :=
  rfl

/- A data type is read from its document. -/
@[simp] theorem DataType.ofJson?_toJson (t : DataType) :
    ofJson? t.toJson = some t := by
  cases t <;> decide

/- A literal is read as itself exactly if it is no lost double. -/
theorem Value.ofJson?_toJson_eq_some_iff
    {v : Value} :
    ofJson? v.toJson = some v ↔ ∀ x ∈ v.double?, x.IsReread := by
  cases v with
  | string s => simp [toJson, ofJson?, double?, Json.toText?]
  | long n => simp [toJson, ofJson?, double?, Json.toInt64?_ofInt]
  | double x => simp [toJson, ofJson?, double?, Binary64.IsReread]
  | boolean b => simp [toJson, ofJson?, double?, Json.toBool?]

/- An operand is read as itself exactly if its literal is. -/
theorem Operand.ofJson?_toJson_eq_some_iff
    {o : Operand} :
    ofJson? o.toJson = some o ↔ ∀ x ∈ o.double?, x.IsReread := by
  cases o with
  | value v =>
      have hLiteral := Value.ofJson?_toJson_eq_some_iff (v := v)
      simpa [toJson, ofJson?, double?] using hLiteral
  | var x => simp [toJson, ofJson?, double?]

/- A comparison is found by its tag. -/
theorem Comparison.ofTag?_tag (c : Comparison) :
    ofTag? c.tag = some c := by
  cases c <;> decide

/- The document of a comparison is read by its tag. -/
theorem ValuePredicate.ofJson?_compare
    (c : Comparison)
    (j : Json) :
    ofJson? (.tagged c.tag j) =
      (Operand.ofJson? j).map (.compare c) := by
  have hRead : ofJson? (.tagged c.tag j) =
      (Comparison.ofTag? c.tag).bind fun c =>
        (Operand.ofJson? j).bind fun o => some (.compare c o) := by
    cases c <;> rfl
  rw [hRead, c.ofTag?_tag, Option.bind_some, Option.map_eq_bind]
  rfl

/- A predicate is read as itself exactly if its literal is. -/
theorem ValuePredicate.ofJson?_toJson_eq_some_iff
    {p : ValuePredicate} :
    ofJson? p.toJson = some p ↔ ∀ x ∈ p.double?, x.IsReread := by
  cases p with
  | compare c o =>
      have hOperand := Operand.ofJson?_toJson_eq_some_iff (o := o)
      rw [toJson, ofJson?_compare]
      simpa [double?] using hOperand
  | contains s => simp [toJson, ofJson?, double?, Json.toText?]
  | regex r => simp [toJson, ofJson?, double?, Json.toText?]

/- No predicate is written as null. -/
theorem ValuePredicate.toJson_ne_null (p : ValuePredicate) :
    p.toJson ≠ .null := by
  cases p <;> simp [toJson, Json.tagged]

------------------------------------------------------------
-- Properties
------------------------------------------------------------

/- A reference to a type is read from its document. -/
@[simp] theorem TypeRef.ofJson?_toJson (t : TypeRef) :
    ofJson? t.toJson = some t := by
  cases t with
  | label l => simp [toJson, ofJson?, Json.toText?]
  | var x => simp [toJson, ofJson?]

/- No reference to a type is written as null. -/
theorem TypeRef.toJson_ne_null (t : TypeRef) :
    t.toJson ≠ .null := by
  cases t <;> simp [toJson, Json.tagged]

/- No variable is written as null. -/
theorem Var.toJson_ne_null (x : Var) :
    x.toJson ≠ .null := by
  simp [toJson]

/- A role player is read from its document. -/
@[simp] theorem RolePlayer.ofJson?_toJson (p : RolePlayer) :
    ofJson? p.toJson = some p := by
  have hSlots : p.toJson.slots? ["role", "player"] =
      some
        [.given (.ofOption (p.role.map TypeRef.toJson)),
         .given p.player.toJson] := by
    simp [toJson, Json.slots?, Json.slot?, Json.valuesOf]
  have hRole :
      (FieldSlot.given (.ofOption (p.role.map TypeRef.toJson))).optional
          TypeRef.ofJson? =
        some p.role :=
    (FieldSlot.optional_given_eq_some_iff TypeRef.toJson_ne_null).mpr
      fun t _ => t.ofJson?_toJson
  unfold ofJson?
  rw [hSlots]
  simp [hRole, FieldSlot.required_given]

namespace Property

/-
  The content of a `has` property is read as itself exactly if its
  predicate is.
-/
theorem hasOfJson?_hasToJson_eq_some_iff
    (type : String)
    (resource : Option Var)
    (predicate : Option ValuePredicate) :
    hasOfJson? (hasToJson type resource predicate) =
        some (.has type resource predicate) ↔
      ∀ p ∈ predicate, ValuePredicate.ofJson? p.toJson = some p := by
  have hSlots :
      (hasToJson type resource predicate).slots?
          ["attribute_type", "attribute", "predicate"] =
        some
          [.given (.string type),
           .given (.ofOption (resource.map Var.toJson)),
           .given (.ofOption (predicate.map ValuePredicate.toJson))] := by
    simp [hasToJson, Json.slots?, Json.slot?, Json.valuesOf]
  have hResource :
      (FieldSlot.given (.ofOption (resource.map Var.toJson))).optional
          Var.ofJson? =
        some resource :=
    (FieldSlot.optional_given_eq_some_iff Var.toJson_ne_null).mpr
      fun x _ => x.ofJson?_toJson
  rw [← FieldSlot.optional_given_eq_some_iff
    ValuePredicate.toJson_ne_null]
  unfold hasOfJson?
  rw [hSlots]
  simp [hResource, FieldSlot.required_given, Json.toText?,
    Option.bind_eq_some_iff]

/- A property is read as itself exactly if its literal is. -/
theorem ofJson?_toJson_eq_some_iff
    {q : Property} :
    ofJson? q.toJson = some q ↔ ∀ x ∈ q.double?, x.IsReread := by
  cases q with
  | value p =>
      have hPredicate := ValuePredicate.ofJson?_toJson_eq_some_iff (p := p)
      simpa [toJson, ofJson?, double?] using hPredicate
  | has type resource predicate =>
      have hContent :=
        hasOfJson?_hasToJson_eq_some_iff type resource predicate
      cases predicate with
      | none => simpa [toJson, ofJson?, double?] using hContent
      | some p =>
          simpa [toJson, ofJson?, double?,
            ValuePredicate.ofJson?_toJson_eq_some_iff] using hContent
  | isa t => simp [toJson, ofJson?, double?]
  | sub t => simp [toJson, ofJson?, double?]
  | relates t => simp [toJson, ofJson?, double?]
  | plays t => simp [toJson, ofJson?, double?]
  | label l => simp [toJson, ofJson?, double?, Json.toText?]
  | id i => simp [toJson, ofJson?, double?, Json.toText?]
  | regex r => simp [toJson, ofJson?, double?, Json.toText?]
  | rolePlayer p => simp [toJson, ofJson?, double?]
  | dataType t => simp [toJson, ofJson?, double?]
  | neq x => simp [toJson, ofJson?, double?]
  | isAbstract => simp [toJson, ofJson?, double?, Json.alternative?]

end Property

------------------------------------------------------------
-- Patterns
------------------------------------------------------------

/- A clause is read as itself exactly if its double literals are. -/
theorem Clause.ofJson?_toJson_eq_some_iff
    {c : Clause} :
    ofJson? c.toJson = some c ↔ ∀ x ∈ c.doubles, x.IsReread := by
  have hSlots : c.toJson.slots? ["var", "properties"] =
      some
        [.given c.subject.toJson,
         .given (.array (c.properties.map Property.toJson))] := by
    simp [toJson, Json.slots?, Json.slot?, Json.valuesOf]
  have hProperties :
      (c.properties.map Property.toJson).mapM Property.ofJson? =
          some c.properties ↔
        ∀ x ∈ c.doubles, x.IsReread := by
    rw [mapM_map_eq_some_iff]
    simp only [Property.ofJson?_toJson_eq_some_iff, doubles,
      List.mem_filterMap, Option.mem_def]
    grind
  rw [← hProperties]
  unfold ofJson?
  rw [hSlots]
  simp only [Option.bind_eq_bind, Option.bind_some, FieldSlot.required_given,
    Var.ofJson?_toJson, Json.toList?]
  constructor
  · intro h
    rcases Option.bind_eq_some_iff.mp h with ⟨qs, hRead, hClause⟩
    have hqs : qs = c.properties :=
      congrArg properties (Option.some.inj hClause)
    rw [hRead, hqs]
  · intro h
    rw [h]
    rfl

namespace Pattern

/- A pattern is read as itself exactly if its double literals are. -/
theorem ofJson?_toJson_eq_some_iff
    {p : Pattern} :
    ofJson? p.toJson = some p ↔ ∀ x ∈ p.doubles, x.IsReread := by
  have hSlots : p.toJson.slots? ["patterns"] =
      some [.given (.array (p.clauses.map Clause.toJson))] := by
    simp [toJson, Json.slots?, Json.slot?, Json.valuesOf]
  have hClauses :
      (p.clauses.map Clause.toJson).mapM Clause.ofJson? =
          some p.clauses ↔
        ∀ x ∈ p.doubles, x.IsReread := by
    rw [mapM_map_eq_some_iff]
    simp only [Clause.ofJson?_toJson_eq_some_iff, doubles,
      List.mem_flatMap]
    grind
  rw [← hClauses]
  unfold ofJson?
  rw [hSlots]
  simp only [Option.bind_eq_bind, Option.bind_some, FieldSlot.required_given,
    Json.toList?]
  constructor
  · intro h
    rcases Option.bind_eq_some_iff.mp h with ⟨cs, hRead, hPattern⟩
    have hcs : cs = p.clauses :=
      congrArg clauses (Option.some.inj hPattern)
    rw [hRead, hcs]
  · intro h
    rw [h]
    rfl

/-
  Writing a pattern and reading the document, on one line or on
  indented lines, gives the pattern back exactly if every double
  literal of the pattern is finite and is read as the number that
  it is written as.
-/
theorem ofText?_toText
    {p : Pattern} :
    (ofText? p.toText = some p ↔
      ∀ x ∈ p.doubles,
        x.isFinite = true ∧
          (x.toNumeral .document).toBinary64? = some x) ∧
    (ofText? p.toJson.pretty = some p ↔
      ∀ x ∈ p.doubles,
        x.isFinite = true ∧
          (x.toNumeral .document).toBinary64? = some x) := by
  have hLine : ofText? p.toText = ofJson? p.toJson := by
    rw [ofText?, toText, Json.parse?_compress, Option.bind_some]
  have hIndented : ofText? p.toJson.pretty = ofJson? p.toJson := by
    rw [ofText?, Json.parse?_pretty, Option.bind_some]
  rw [hLine, hIndented, ofJson?_toJson_eq_some_iff]
  simp only [Binary64.isReread_iff, and_self]

end Pattern

end TraversalPlanner
