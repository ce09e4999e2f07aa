import TraversalPlanner.Json.Value
import TraversalPlanner.Number.Scaling

/-
  This file decodes document values.  A record is written as an
  object or as the array of its fields, an alternative as its
  name or as an object with its name and its content.

  Key definitions include:
    * `Json.toText?`, `Json.toNat?`, `Json.toInt64?`
    * `Json.toNumber?`
    * `Json.toList?`
    * `FieldSlot`
    * `Json.slots?`
    * `Json.alternative?`
-/

namespace TraversalPlanner

------------------------------------------------------------
-- Plain Values
------------------------------------------------------------

namespace Json

/- A truth value. -/
def toBool? : Json → Option Bool
| .bool b => some b
| _ => none

/- A text. -/
def toText? : Json → Option String
| .string s => some s
| _ => none

/- An integer. -/
def toInt? : Json → Option Int
| .number n => n.toInt?
| _ => none

/- A natural number that fits into sixty-four bits. -/
def toNat? (j : Json) : Option Nat := do
  let n ← j.toInt?
  if 0 ≤ n ∧ n < Int.ofNat (twoTo 64) then
    some n.toNat
  else
    none

/- A signed integer that fits into sixty-four bits. -/
def toInt64? (j : Json) : Option Int64 := do
  let n ← j.toInt?
  if -Int.ofNat (twoTo 63) ≤ n ∧ n < Int.ofNat (twoTo 63) then
    some (Int64.ofInt n)
  else
    none

/- A double-precision number. -/
def toNumber? : Json → Option Binary64
| .number n => n.toBinary64?
| _ => none

/- A value that may be null. -/
def toOption?
    {α : Type}
    (decode : Json → Option α) : Json → Option (Option α)
| .null => some none
| j => (decode j).map some

/- A list of values. -/
def toList?
    {α : Type}
    (decode : Json → Option α) : Json → Option (List α)
| .array items => items.mapM decode
| _ => none

end Json

------------------------------------------------------------
-- Records
------------------------------------------------------------

/- What a record says about one of its fields. -/
inductive FieldSlot where
/- the field is there -/
| given : Json → FieldSlot
/- an object leaves the field out -/
| omitted : FieldSlot
/- an array ends before the field -/
| beyond : FieldSlot

namespace FieldSlot

/- A field that must be there. -/
def required
    {α : Type}
    (decode : Json → Option α) : FieldSlot → Option α
| .given j => decode j
| .omitted => none
| .beyond => none

/- A field that an object may leave out. -/
def optional
    {α : Type}
    (decode : Json → Option α) : FieldSlot → Option (Option α)
| .given j => j.toOption? decode
| .omitted => some none
| .beyond => none

/- A field with a value of its own when it is not there. -/
def withDefault
    {α : Type}
    (value : α)
    (decode : Json → Option α) : FieldSlot → Option α
| .given j => decode j
| .omitted => some value
| .beyond => some value

end FieldSlot

namespace Json

/- The values of all fields of one name. -/
def valuesOf
    (name : String)
    (fields : List (String × Json)) : List Json :=
  (fields.filter fun f => f.1 = name).map Prod.snd

/- The slot of a named field of an object, which must not repeat it. -/
def slot?
    (fields : List (String × Json))
    (name : String) : Option FieldSlot :=
  match valuesOf name fields with
  | [] => some .omitted
  | [j] => some (.given j)
  | _ => none

/- The slots of fields in order, filled from the items of an array. -/
def itemSlots : List String → List Json → List FieldSlot
| [], _ => []
| _ :: names, [] => .beyond :: itemSlots names []
| _ :: names, j :: items => .given j :: itemSlots names items

/-
  The slots of a record with the given field names.  Fields of
  other names are skipped; further items are refused.
-/
def slots?
    (names : List String) : Json → Option (List FieldSlot)
| .object fields => names.mapM (slot? fields)
| .array items =>
    if items.length ≤ names.length then
      some (itemSlots names items)
    else
      none
| _ => none

------------------------------------------------------------
-- Alternatives
------------------------------------------------------------

/- The name of an alternative, and its content if it has some. -/
def alternative? : Json → Option (String × Option Json)
| .string name => some (name, none)
| .object [(name, j)] => some (name, some j)
| _ => none

/- An alternative without content, whose content may be null. -/
def plainAlternative? (j : Json) : Option String :=
  match j.alternative? with
  | some (name, none) => some name
  | some (name, some .null) => some name
  | _ => none

end Json

end TraversalPlanner
