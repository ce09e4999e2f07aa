import TraversalPlanner.Text.CodeSet

/-
  This file defines regular expressions in a simple form.  The
  functions that build them keep the form: sequences and choices
  have several parts, none of which is of the same kind, adjacent
  literals are one, and a choice of characters is a set.

  Key definitions include:
    * `Regex.Place`
    * `Regex.Expression`
    * `Regex.Expression.leastBytes`
    * `Regex.Expression.isPlace`
    * `Regex.Expression.demands`
    * `Regex.Expression.ofSet`
    * `Regex.Expression.sequenceOf`
    * `Regex.Expression.choiceOf`
    * `Regex.Expression.repeatOf`
-/

namespace TraversalPlanner

namespace Regex

------------------------------------------------------------
-- Places
------------------------------------------------------------

/- A way in which a place is related to a word. -/
inductive Edge where
| boundary
| inside
| opening
| closing
| halfOpening
| halfClosing
deriving DecidableEq, Repr

/- A place between characters. -/
inductive Place where
| textStart : Place
| textEnd : Place
| lineStart :
    (carriageReturns : Bool) →
    Place
| lineEnd :
    (carriageReturns : Bool) →
    Place
| edge :
    Edge →
    (unicode : Bool) →
    Place
deriving DecidableEq, Repr

------------------------------------------------------------
-- Expressions
------------------------------------------------------------

/- A regular expression. -/
inductive Expression where
/- nothing, at any place -/
| empty : Expression
/- some characters one after another, at least one -/
| literal : List Char → Expression
/- one of several characters, but not just one -/
| oneOf : CodeSet → Expression
/- nothing, at some places -/
| place : Place → Expression
/- an expression several times; without a `most`, any number of times -/
| repeated :
    (least : Nat) →
    (most : Option Nat) →
    (greedy : Bool) →
    Expression →
    Expression
/- an expression whose match is recorded -/
| capture :
    (index : Nat) →
    Expression →
    Expression
/- expressions one after another -/
| sequence : List Expression → Expression
/- one of several expressions -/
| choice : List Expression → Expression
deriving Repr

/- An end of an expression from which it is read. -/
inductive Direction where
| forward
| backward
deriving DecidableEq, Repr

namespace Expression

------------------------------------------------------------
-- Equality and Size
------------------------------------------------------------

mutual

/- Two expressions are the same. -/
def same : Expression → Expression → Bool
| .empty, .empty => true
| .literal s, .literal t => s == t
| .oneOf s, .oneOf t => s == t
| .place p, .place q => p == q
| .repeated l m g e, .repeated l' m' g' e' =>
    l == l' && m == m' && g == g' && e.same e'
| .capture i e, .capture j e' => i == j && e.same e'
| .sequence es, .sequence es' => allSame es es'
| .choice es, .choice es' => allSame es es'
| _, _ => false

/- Two lists of expressions are the same. -/
def allSame : List Expression → List Expression → Bool
| [], [] => true
| e :: es, e' :: es' => e.same e' && allSame es es'
| _, _ => false

end

mutual

/- The number of all parts of an expression, itself included. -/
def size : Expression → Nat
| .empty => 1
| .literal _ => 1
| .oneOf _ => 1
| .place _ => 1
| .repeated _ _ _ e => e.size + 1
| .capture _ e => e.size + 1
| .sequence es => sizeOfAll es + 1
| .choice es => sizeOfAll es + 1

/- The number of all parts of some expressions. -/
def sizeOfAll : List Expression → Nat
| [] => 0
| e :: es => e.size + sizeOfAll es

end

------------------------------------------------------------
-- Lengths of Matches
------------------------------------------------------------

/- The bytes of some characters. -/
def utf8Length (cs : List Char) : Nat :=
  cs.foldl (fun n c => n + c.utf8Size) 0

mutual

/- The bytes of the shortest match, unless there is no match at all. -/
def leastBytes : Expression → Option Nat
| .empty => some 0
| .literal cs => some (utf8Length cs)
| .oneOf s =>
    match s.ranges with
    | [] => none
    | r :: _ => some (Char.ofNat r.1).utf8Size
| .place _ => some 0
| .repeated least _ _ e => e.leastBytes.map fun n => least * n
| .capture _ e => e.leastBytes
| .sequence es => leastOfSequence es
| .choice es => leastOfChoice es

/- The bytes of the shortest match of expressions in a row. -/
def leastOfSequence : List Expression → Option Nat
| [] => some 0
| e :: es =>
    match e.leastBytes, leastOfSequence es with
    | some m, some n => some (m + n)
    | _, _ => none

/- The bytes of the shortest match of one of some expressions. -/
def leastOfChoice : List Expression → Option Nat
| [] => none
| [e] => e.leastBytes
| e :: es =>
    match e.leastBytes, leastOfChoice es with
    | some m, some n => some (min m n)
    | _, _ => none

end

/- Each match of an expression has a byte at least. -/
def isSolid (e : Expression) : Bool :=
  match e.leastBytes with
  | some n => n != 0
  | none => false

mutual

/- An expression matches nothing but places. -/
def isPlace : Expression → Bool
| .empty => true
| .literal _ => false
| .oneOf _ => false
| .place _ => true
| .repeated _ _ _ e => e.isPlace
| .capture _ e => e.isPlace
| .sequence es => areAllPlaces es
| .choice es => areAllPlaces es

/- Expressions match nothing but places. -/
def areAllPlaces : List Expression → Bool
| [] => true
| e :: es => e.isPlace && areAllPlaces es

end

------------------------------------------------------------
-- Places at the Ends of Matches
------------------------------------------------------------

mutual

/- Each match begins, or ends, at a certain place. -/
def demands
    (d : Direction)
    (p : Place) : Expression → Bool
| .empty => false
| .literal _ => false
| .oneOf _ => false
| .place q => p == q
| .repeated least _ _ e => least != 0 && e.demands d p
| .capture _ e => e.demands d p
| .sequence es => demandedInSequence d p es
| .choice es => demandedInChoice d p es

/-
  Each match of expressions in a row begins, or ends, at a certain
  place.  Parts that are places themselves may come before it.
-/
def demandedInSequence
    (d : Direction)
    (p : Place) : List Expression → Bool
| [] => false
| e :: es =>
    match d with
    | .forward => e.demands d p || (e.isPlace && demandedInSequence d p es)
    | .backward =>
        demandedInSequence d p es || (areAllPlaces es && e.demands d p)

/- Each match of each of some expressions begins, or ends, at a place. -/
def demandedInChoice
    (d : Direction)
    (p : Place) : List Expression → Bool
| [] => true
| e :: es => e.demands d p && demandedInChoice d p es

end

------------------------------------------------------------
-- Sets and Literals
------------------------------------------------------------

/- One of the characters of a set. -/
def ofSet (s : CodeSet) : Expression :=
  match s.only? with
  | some c => .literal [c]
  | none => .oneOf s

/- The characters of a literal. -/
def literal? : Expression → Option (List Char)
| .literal cs => some cs
| _ => none

/- The characters of an expression that matches one of some. -/
def set? : Expression → Option CodeSet
| .oneOf s => some s
| _ => none

/- The only character of a literal. -/
def char? : Expression → Option Char
| .literal [c] => some c
| _ => none

------------------------------------------------------------
-- Sequences
------------------------------------------------------------

/- The parts of a sequence, of which there is one of anything else. -/
def parts : Expression → List Expression
| .empty => []
| .sequence es => es
| e => [e]

/- Put an expression in front of others, joining literals. -/
def prepend
    (e : Expression)
    (es : List Expression) : List Expression :=
  match e, es with
  | .literal s, .literal t :: es => .literal (s ++ t) :: es
  | e, es => e :: es

/- Expressions one after another. -/
def sequenceOf (es : List Expression) : Expression :=
  match (es.flatMap parts).foldr prepend [] with
  | [] => .empty
  | [e] => e
  | es => .sequence es

------------------------------------------------------------
-- Choices
------------------------------------------------------------

/- The branches of a choice, of which there is one of anything else. -/
def branches : Expression → List Expression
| .choice es => es
| e => [e]

/- The characters between which some expressions choose. -/
def chosenSet? (es : List Expression) : Option CodeSet :=
  ((es.mapM char?).map fun cs => .ofCodes (cs.map Char.toNat)).or
    ((es.mapM set?).map .unionAll)

/- The parts at the start of a list that another one starts with as well. -/
def sharedStart : List Expression → List Expression → List Expression
| e :: es, e' :: es' => if e.same e' then e :: sharedStart es es' else []
| _, _ => []

/- The parts of a sequence of several ones. -/
def sequence? : Expression → Option (List Expression)
| .sequence es => some es
| _ => none

/-
  The parts that some expressions start with in common, and what
  follows in each of them, unless nothing is in common.
-/
def splitShared? (es : List Expression) :
    Option (List Expression × List (List Expression)) := do
  match ← es.mapM sequence? with
  | [] => none
  | s :: ss =>
      let start := ss.foldl sharedStart s
      if start.isEmpty then
        none
      else
        pure (start, (s :: ss).map fun t => t.drop start.length)

/-
  One of several expressions.  What they start with in common is
  put in front, as often as the bound allows.
-/
def choiceWithin : (bound : Nat) → List Expression → Expression
| bound, es =>
    match es.flatMap branches with
    | [e] => e
    | es =>
        match chosenSet? es with
        | some s => .ofSet s
        | none =>
            match bound, splitShared? es with
            | bound + 1, some (start, rests) =>
                let rest := choiceWithin bound (rests.map sequenceOf)
                sequenceOf (start ++ [rest])
            | _, _ => .choice es

/-
  One of several expressions.  Whenever a common start is put in
  front, there are fewer parts behind it.
-/
def choiceOf (es : List Expression) : Expression :=
  choiceWithin (sizeOfAll es) es

------------------------------------------------------------
-- Repetitions
------------------------------------------------------------

/-
  An expression several times.  What matches nothing but places
  is needed once at most.
-/
def repeatOf
    (least : Nat)
    (most : Option Nat)
    (greedy : Bool)
    (e : Expression) : Expression :=
  let (least, most) :=
    if e.isPlace then
      (min least 1, some (min (most.getD 1) 1))
    else
      (least, most)
  match least, most with
  | 0, some 0 => .empty
  | 1, some 1 => e
  | least, most => .repeated least most greedy e

end Expression

end Regex

end TraversalPlanner
