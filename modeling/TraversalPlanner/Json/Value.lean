import TraversalPlanner.Number.Style

/-
  This file defines document values: what a JSON text holds.

  Key definitions include:
    * `Json`
    * `Json.ofInt`
    * `Json.ofNumber`
    * `Json.ofOption`
-/

namespace TraversalPlanner

------------------------------------------------------------
-- Document Values
------------------------------------------------------------

/-
  A document value.  The fields of an object keep their order
  and may repeat a name.  A value is unreadable when it is a
  string with half of a surrogate pair, or an object with such a
  field name: it may stand where it is skipped, but it denotes
  no text.
-/
inductive Json where
| null : Json
| bool : Bool → Json
| number : Numeral → Json
| string : String → Json
| array : List Json → Json
| object : List (String × Json) → Json
| unreadable : Json
deriving Repr

namespace Json

/- An integer as a document value. -/
def ofInt (n : Int) : Json :=
  .number (Numeral.ofInt n)

/- A natural number as a document value. -/
def ofNat (n : Nat) : Json :=
  ofInt n

/-
  A double-precision number as a document value.  A word that is
  not a finite number is null.
-/
def ofNumber (x : Binary64) : Json :=
  if x.isFinite then
    .number (x.toNumeral .document)
  else
    .null

/- An optional value, with null for an absent one. -/
def ofOption : Option Json → Json
| none => .null
| some j => j

/- A list of strings as a document value. -/
def ofStrings (ss : List String) : Json :=
  .array (ss.map .string)

end Json

end TraversalPlanner
