import TraversalPlanner.Regex.Expression
import TraversalPlanner.Regex.LiteralTree
import TraversalPlanner.Regex.SharedStates

/-
  This file decides if the automata for an expression are small
  enough.  There are two of them: one reads a text forwards and
  records captures, the other one reads it backwards and does not.

  Key definitions include:
    * `Regex.Expression.part`
    * `Regex.Expression.assemble?`
    * `Regex.Expression.IsPlainChoice`
    * `Regex.Expression.Fits`
-/

namespace TraversalPlanner

namespace Regex

namespace Expression

------------------------------------------------------------
-- Parts of Automata
------------------------------------------------------------

/- The bytes of some characters. -/
def bytesOf (cs : List Char) : List Nat :=
  (cs.flatMap String.utf8EncodeChar).map UInt8.toNat

/- A part for one of several characters. -/
def setPart
    (d : Direction)
    (s : CodeSet) : Part :=
  if s.isAscii then
    .ofAscii s.ranges.length
  else
    let seqs := s.ranges.flatMap byteSequences
    match d with
    | .forward => .ofSequencesForward seqs
    | .backward => .ofSequencesBackward seqs

/- A part for one of several literals. -/
def literalsPart
    (d : Direction)
    (ls : List (List Char)) : Part :=
  let bs := ls.map bytesOf
  match d with
  | .forward => .ofLiterals bs
  | .backward => .ofLiterals (bs.map List.reverse)

mutual

/- The part of an automaton for an expression. -/
def part (d : Direction) : Expression → Part
| .empty => .pass
| .literal cs => .ofSize (utf8Length cs) 0
| .oneOf s => setPart d s
| .place _ => .pass
| .repeated least most _ e => .repeated e.isSolid least most (e.part d)
| .capture _ e =>
    match d with
    | .forward => (e.part d).between
    | .backward => e.part d
| .sequence es =>
    match d with
    | .forward => .sequence (partsOf d es)
    | .backward => .sequence (partsOf d es).reverse
| .choice es =>
    match es.mapM literal? with
    | some ls => literalsPart d ls
    | none => .choice (partsOf d es)

/- The parts of an automaton for several expressions. -/
def partsOf (d : Direction) : List Expression → List Part
| [] => []
| e :: es => e.part d :: partsOf d es

end

------------------------------------------------------------
-- Automata
------------------------------------------------------------

/- The end of the text at which an automaton starts to read. -/
def startPlace : Direction → Place
| .forward => .textStart
| .backward => .textEnd

/-
  What an automaton starts with: any number of any bytes, unless
  all matches are at the end of the text where it starts.
-/
def lead
    (d : Direction)
    (e : Expression) : Part :=
  if e.demands d (startPlace d) then
    .pass
  else
    .anyNumber true (.ofAscii 1)

/- An automaton for an expression, with a last state for a match. -/
def assemble?
    (d : Direction)
    (e : Expression) : Option Assembly :=
  let body :=
    match d with
    | .forward => (e.part d).between
    | .backward => e.part d
  (Part.sequence [e.lead d, body, .pass]).add? .empty

------------------------------------------------------------
-- Limits
------------------------------------------------------------

/- As many literals as this need no automaton. -/
def manyLiterals : Nat :=
  3000

/- An expression is a choice of many literals, and of nothing else. -/
def IsPlainChoice (e : Expression) : Prop :=
  match e with
  | .choice es =>
      manyLiterals ≤ es.length ∧ ∀ e ∈ es, e.literal?.isSome = true
  | _ => False

instance (e : Expression) : Decidable e.IsPlainChoice := by
  unfold IsPlainChoice
  split <;> infer_instance

/- The automata for an expression are small enough, or not needed. -/
def Fits (e : Expression) : Prop :=
  e.IsPlainChoice ∨
    ((e.assemble? .forward).isSome = true ∧
      (e.assemble? .backward).isSome = true)

instance (e : Expression) : Decidable e.Fits := by
  unfold Fits
  infer_instance

end Expression

end Regex

end TraversalPlanner
