import TraversalPlanner.Json.Decoding
import TraversalPlanner.Json.Printer
import TraversalPlanner.Json.Reader
import TraversalPlanner.Pattern.Signature

/-
  This file writes patterns as documents and reads them back.

  Key definitions include:
    * `ValuePredicate.toJson`, `ValuePredicate.ofJson?`
    * `Property.toJson`, `Property.ofJson?`
    * `Pattern.toJson`, `Pattern.ofJson?`
    * `Pattern.toText`, `Pattern.ofText?`
-/

namespace TraversalPlanner

------------------------------------------------------------
-- Alternatives
------------------------------------------------------------

namespace Json

/- An alternative with content. -/
def tagged
    (name : String)
    (content : Json) : Json :=
  .object [(name, content)]

end Json

------------------------------------------------------------
-- Variables and Data Types
------------------------------------------------------------

namespace Var

/- A variable is written as its name. -/
def toJson (x : Var) : Json :=
  .string x.name

/- Any text names a variable, reserved or not. -/
def ofJson? (j : Json) : Option Var :=
  j.toText?.map Var.mk

end Var

namespace DataType

/- A data type is written as its name. -/
def toJson (t : DataType) : Json :=
  .string t.name

/- A data type is read from its name. -/
def ofJson? (j : Json) : Option DataType :=
  j.plainAlternative?.bind ofName?

end DataType

------------------------------------------------------------
-- Literals and Predicates
------------------------------------------------------------

namespace Value

/- A literal is written under the tag of its type. -/
def toJson : Value → Json
| .string s => .tagged "String" (.string s)
| .long n => .tagged "Long" (.ofInt n.toInt)
| .double x => .tagged "Double" (.ofNumber x)
| .boolean b => .tagged "Boolean" (.bool b)

/- A literal is read by the tag of its type. -/
def ofJson? (j : Json) : Option Value :=
  match j.alternative? with
  | some ("String", some j) => j.toText?.map .string
  | some ("Long", some j) => j.toInt64?.map .long
  | some ("Double", some j) => j.toNumber?.map .double
  | some ("Boolean", some j) => j.toBool?.map .boolean
  | _ => none

end Value

namespace Operand

/- An operand is written under its tag. -/
def toJson : Operand → Json
| .value v => .tagged "Value" v.toJson
| .var x => .tagged "Var" x.toJson

/- An operand is read by its tag. -/
def ofJson? (j : Json) : Option Operand :=
  match j.alternative? with
  | some ("Value", some j) => (Value.ofJson? j).map .value
  | some ("Var", some j) => (Var.ofJson? j).map .var
  | _ => none

end Operand

namespace Comparison

/- All comparisons. -/
def all : List Comparison :=
  [.eq, .neq, .gt, .gte, .lt, .lte]

/- The comparison with a tag. -/
def ofTag? (tag : String) : Option Comparison :=
  all.find? fun c => c.tag = tag

end Comparison

namespace ValuePredicate

/- A predicate is written under its tag. -/
def toJson : ValuePredicate → Json
| .compare c o => .tagged c.tag o.toJson
| .contains s => .tagged "Contains" (.string s)
| .regex r => .tagged "Regex" (.string r)

/- A predicate is read by its tag. -/
def ofJson? (j : Json) : Option ValuePredicate :=
  match j.alternative? with
  | some ("Contains", some j) => j.toText?.map .contains
  | some ("Regex", some j) => j.toText?.map .regex
  | some (tag, some j) => do
      let c ← Comparison.ofTag? tag
      let o ← Operand.ofJson? j
      pure (.compare c o)
  | _ => none

end ValuePredicate

------------------------------------------------------------
-- Properties
------------------------------------------------------------

namespace TypeRef

/- A reference is written under its tag. -/
def toJson : TypeRef → Json
| .label l => .tagged "Label" (.string l)
| .var x => .tagged "Var" x.toJson

/- A reference is read by its tag. -/
def ofJson? (j : Json) : Option TypeRef :=
  match j.alternative? with
  | some ("Label", some j) => j.toText?.map .label
  | some ("Var", some j) => (Var.ofJson? j).map .var
  | _ => none

end TypeRef

namespace RolePlayer

/- A role player is written as a record. -/
def toJson (p : RolePlayer) : Json :=
  .object
    [("role", .ofOption (p.role.map TypeRef.toJson)),
     ("player", p.player.toJson)]

/- A role player is read from a record. -/
def ofJson? (j : Json) : Option RolePlayer := do
  match ← j.slots? ["role", "player"] with
  | [role, player] =>
      let role ← role.optional TypeRef.ofJson?
      let player ← player.required Var.ofJson?
      pure ⟨role, player⟩
  | _ => none

end RolePlayer

namespace Property

/- The content of a `has` property is written as a record. -/
def hasToJson
    (type : String)
    (resource : Option Var)
    (predicate : Option ValuePredicate) : Json :=
  .object
    [("attribute_type", .string type),
     ("attribute", .ofOption (resource.map Var.toJson)),
     ("predicate", .ofOption (predicate.map ValuePredicate.toJson))]

/- The content of a `has` property is read from a record. -/
def hasOfJson? (j : Json) : Option Property := do
  match ← j.slots? ["attribute_type", "attribute", "predicate"] with
  | [type, resource, predicate] =>
      let type ← type.required Json.toText?
      let resource ← resource.optional Var.ofJson?
      let predicate ← predicate.optional ValuePredicate.ofJson?
      pure (.has type resource predicate)
  | _ => none

/- A property is written under its tag. -/
def toJson : Property → Json
| .isa t => .tagged "Isa" t.toJson
| .sub t => .tagged "Sub" t.toJson
| .label l => .tagged "Label" (.string l)
| .id i => .tagged "Id" (.string i)
| .value p => .tagged "Value" p.toJson
| .has type resource predicate =>
    .tagged "Has" (hasToJson type resource predicate)
| .rolePlayer p => .tagged "Rel" p.toJson
| .relates t => .tagged "Relates" t.toJson
| .plays t => .tagged "Plays" t.toJson
| .dataType t => .tagged "DataType" t.toJson
| .isAbstract => .string "IsAbstract"
| .regex r => .tagged "Regex" (.string r)
| .neq x => .tagged "Neq" x.toJson

/- A property is read by its tag. -/
def ofJson? (j : Json) : Option Property :=
  match j.alternative? with
  | some ("IsAbstract", none) => some .isAbstract
  | some ("IsAbstract", some .null) => some .isAbstract
  | some ("Isa", some j) => (TypeRef.ofJson? j).map .isa
  | some ("Sub", some j) => (TypeRef.ofJson? j).map .sub
  | some ("Label", some j) => j.toText?.map .label
  | some ("Id", some j) => j.toText?.map .id
  | some ("Value", some j) => (ValuePredicate.ofJson? j).map .value
  | some ("Has", some j) => hasOfJson? j
  | some ("Rel", some j) => (RolePlayer.ofJson? j).map .rolePlayer
  | some ("Relates", some j) => (TypeRef.ofJson? j).map .relates
  | some ("Plays", some j) => (TypeRef.ofJson? j).map .plays
  | some ("DataType", some j) => (DataType.ofJson? j).map .dataType
  | some ("Regex", some j) => j.toText?.map .regex
  | some ("Neq", some j) => (Var.ofJson? j).map .neq
  | _ => none

end Property

------------------------------------------------------------
-- Clauses and Patterns
------------------------------------------------------------

namespace Clause

/- A clause is written as a record. -/
def toJson (c : Clause) : Json :=
  .object
    [("var", c.subject.toJson),
     ("properties", .array (c.properties.map Property.toJson))]

/- A clause is read from a record. -/
def ofJson? (j : Json) : Option Clause := do
  match ← j.slots? ["var", "properties"] with
  | [subject, properties] =>
      let subject ← subject.required Var.ofJson?
      let properties ← properties.required (Json.toList? Property.ofJson?)
      pure ⟨subject, properties⟩
  | _ => none

end Clause

namespace Pattern

/- A pattern is written as a record. -/
def toJson (p : Pattern) : Json :=
  .object [("patterns", .array (p.clauses.map Clause.toJson))]

/- A pattern is read from a record. -/
def ofJson? (j : Json) : Option Pattern := do
  match ← j.slots? ["patterns"] with
  | [clauses] =>
      let clauses ← clauses.required (Json.toList? Clause.ofJson?)
      pure ⟨clauses⟩
  | _ => none

/- The document of a pattern, on one line. -/
def toText (p : Pattern) : String :=
  p.toJson.compress

/- The pattern of a document. -/
def ofText? (text : String) : Option Pattern :=
  (Json.parse? text).bind ofJson?

end Pattern

end TraversalPlanner
