import TraversalPlanner.Number.Style
import TraversalPlanner.Pattern.Var
import TraversalPlanner.Text.Quoted

/-
  This file defines attribute values and the predicates that
  patterns put on them.  Two predicates agree when they are equal
  up to literals that stand for the same number.

  Key definitions include:
    * `DataType`
    * `Value`
    * `Operand`
    * `Comparison`
    * `ValuePredicate`
    * `ValuePredicate.var?`
    * `ValuePredicate.isIndexable`
    * `ValuePredicate.render`
    * `ValuePredicate.Agree`
-/

namespace TraversalPlanner

------------------------------------------------------------
-- Data Types
------------------------------------------------------------

/- The type of the values of a resource. -/
inductive DataType where
| string
| long
| double
| boolean
deriving DecidableEq, Repr

namespace DataType

/- The name of a data type. -/
def name : DataType → String
| .string => "string"
| .long => "long"
| .double => "double"
| .boolean => "boolean"

/- All data types. -/
def all : List DataType :=
  [.string, .long, .double, .boolean]

/- The data type with a name. -/
def ofName? (name : String) : Option DataType :=
  all.find? fun t => t.name = name

end DataType

------------------------------------------------------------
-- Literals
------------------------------------------------------------

/- A literal value. -/
inductive Value where
| string : String → Value
| long : Int64 → Value
| double : Binary64 → Value
| boolean : Bool → Value
deriving DecidableEq, Repr

namespace Value

/- The data type of a literal. -/
def dataType : Value → DataType
| .string _ => .string
| .long _ => .long
| .double _ => .double
| .boolean _ => .boolean

/- A literal as queries write it. -/
def render : Value → String
| .string s => Text.quote s
| .long n => Numeral.renderInt n.toInt
| .double x => x.render .literal
| .boolean b => if b then "true" else "false"

/- Two literals stand for the same value. -/
def Agree : Value → Value → Prop
| .string s, .string t => s = t
| .long m, .long n => m = n
| .double x, .double y => x.Agree y
| .boolean a, .boolean b => a = b
| _, _ => False

instance (v w : Value) : Decidable (v.Agree w) := by
  cases v <;> cases w <;> unfold Agree <;> infer_instance

end Value

------------------------------------------------------------
-- Operands
------------------------------------------------------------

/- What a value is compared with: a literal or another variable. -/
inductive Operand where
| value : Value → Operand
| var : Var → Operand
deriving DecidableEq, Repr

namespace Operand

/- An operand as queries write it. -/
def render : Operand → String
| .value v => v.render
| .var x => x.render

/- The variable of an operand, if it is one. -/
def var? : Operand → Option Var
| .value _ => none
| .var x => some x

/- Two operands are the same variable or stand for the same value. -/
def Agree : Operand → Operand → Prop
| .value v, .value w => v.Agree w
| .var x, .var y => x = y
| _, _ => False

instance (o p : Operand) : Decidable (o.Agree p) := by
  cases o <;> cases p <;> unfold Agree <;> infer_instance

end Operand

------------------------------------------------------------
-- Predicates
------------------------------------------------------------

/- How a value is compared. -/
inductive Comparison where
| eq
| neq
| gt
| gte
| lt
| lte
deriving DecidableEq, Repr

namespace Comparison

/- The symbol of a comparison. -/
def symbol : Comparison → String
| .eq => "="
| .neq => "!="
| .gt => ">"
| .gte => ">="
| .lt => "<"
| .lte => "<="

end Comparison

/- A predicate on values. -/
inductive ValuePredicate where
| compare : Comparison → Operand → ValuePredicate
| contains : String → ValuePredicate
| regex : String → ValuePredicate
deriving DecidableEq, Repr

namespace ValuePredicate

/- The variable whose value must be known to decide the predicate. -/
def var? : ValuePredicate → Option Var
| .compare _ o => o.var?
| .contains _ => none
| .regex _ => none

/- The regular expression of the predicate, if it has one. -/
def regex? : ValuePredicate → Option String
| .compare _ _ => none
| .contains _ => none
| .regex r => some r

/- The predicate asks for one value, which an index can look up. -/
def isIndexable : ValuePredicate → Bool
| .compare .eq (.value _) => true
| _ => false

/-
  A predicate as queries write it.  A bare literal asks for
  equality.
-/
def render : ValuePredicate → String
| .compare .eq (.value v) => v.render
| .compare c o => c.symbol ++ " " ++ o.render
| .contains s => "contains " ++ Text.quote s
| .regex r => "/" ++ r ++ "/"

/- Two predicates ask for the same. -/
def Agree : ValuePredicate → ValuePredicate → Prop
| .compare c o, .compare d p => c = d ∧ o.Agree p
| .contains s, .contains t => s = t
| .regex r, .regex q => r = q
| _, _ => False

instance (p q : ValuePredicate) : Decidable (p.Agree q) := by
  cases p <;> cases q <;> unfold Agree <;> infer_instance

end ValuePredicate

end TraversalPlanner
