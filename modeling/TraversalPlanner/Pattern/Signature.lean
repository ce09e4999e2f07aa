import TraversalPlanner.Pattern.Clause

/-
  This file defines the signature of a pattern, the text under
  which its plan is cached.  It spells out the structure of the
  pattern, with texts in quotes, so that it tells apart what
  queries may write alike.

  Key definitions include:
    * `Property.signature`
    * `Clause.signature`
    * `Pattern.signature`
-/

namespace TraversalPlanner

------------------------------------------------------------
-- Building Blocks
------------------------------------------------------------

namespace Signature

/- A named alternative with its content. -/
def tagged
    (name : String)
    (content : String) : String :=
  name ++ "(" ++ content ++ ")"

/- A list of parts. -/
def listed (parts : List String) : String :=
  "[" ++ String.intercalate ", " parts ++ "]"

/- An optional part. -/
def optional : Option String → String
| none => "None"
| some s => tagged "Some" s

/- A named record with its fields. -/
def record
    (name : String)
    (fields : List (String × String)) : String :=
  let parts := fields.map fun f => f.1 ++ ": " ++ f.2
  name ++ " \x7b " ++ String.intercalate ", " parts ++ " \x7d"

end Signature

------------------------------------------------------------
-- Variables, Literals and Predicates
------------------------------------------------------------

namespace Var

/- The signature of a variable. -/
def signature (x : Var) : String :=
  Signature.tagged "Var" (Text.quote x.name)

end Var

namespace DataType

/- The tag of a data type. -/
def tag : DataType → String
| .string => "String"
| .long => "Long"
| .double => "Double"
| .boolean => "Boolean"

end DataType

namespace Value

/- The signature of a literal shows its type. -/
def signature (v : Value) : String :=
  Signature.tagged v.dataType.tag v.render

end Value

namespace Operand

/- The signature of an operand. -/
def signature : Operand → String
| .value v => Signature.tagged "Value" v.signature
| .var x => Signature.tagged "Var" x.signature

end Operand

namespace Comparison

/- The tag of a comparison. -/
def tag : Comparison → String
| .eq => "Eq"
| .neq => "Neq"
| .gt => "Gt"
| .gte => "Gte"
| .lt => "Lt"
| .lte => "Lte"

end Comparison

namespace ValuePredicate

/- The signature of a predicate. -/
def signature : ValuePredicate → String
| .compare c o => Signature.tagged c.tag o.signature
| .contains s => Signature.tagged "Contains" (Text.quote s)
| .regex r => Signature.tagged "Regex" (Text.quote r)

end ValuePredicate

------------------------------------------------------------
-- Properties
------------------------------------------------------------

namespace TypeRef

/- The signature of a reference. -/
def signature : TypeRef → String
| .label l => Signature.tagged "Label" (Text.quote l)
| .var x => Signature.tagged "Var" x.signature

end TypeRef

namespace RolePlayer

/- The signature of a role player. -/
def signature (p : RolePlayer) : String :=
  Signature.record "RolePlayer"
    [("role", Signature.optional (p.role.map TypeRef.signature)),
     ("player", p.player.signature)]

end RolePlayer

namespace Property

/- The signature of a property. -/
def signature : Property → String
| .isa t => Signature.tagged "Isa" t.signature
| .sub t => Signature.tagged "Sub" t.signature
| .label l => Signature.tagged "Label" (Text.quote l)
| .id i => Signature.tagged "Id" (Text.quote i)
| .value p => Signature.tagged "Value" p.signature
| .has type resource predicate =>
    Signature.record "Has"
      [("attribute_type", Text.quote type),
       ("attribute", Signature.optional (resource.map Var.signature)),
       ("predicate",
         Signature.optional (predicate.map ValuePredicate.signature))]
| .rolePlayer p => Signature.tagged "Rel" p.signature
| .relates t => Signature.tagged "Relates" t.signature
| .plays t => Signature.tagged "Plays" t.signature
| .dataType t => Signature.tagged "DataType" t.tag
| .isAbstract => "IsAbstract"
| .regex r => Signature.tagged "Regex" (Text.quote r)
| .neq x => Signature.tagged "Neq" x.signature

end Property

------------------------------------------------------------
-- Clauses and Patterns
------------------------------------------------------------

namespace Clause

/- The signature of a clause. -/
def signature (c : Clause) : String :=
  Signature.record "VarPattern"
    [("var", c.subject.signature),
     ("properties", Signature.listed (c.properties.map Property.signature))]

end Clause

namespace Pattern

/- The signature of a pattern. -/
def signature (p : Pattern) : String :=
  Signature.listed (p.clauses.map Clause.signature)

end Pattern

end TraversalPlanner
