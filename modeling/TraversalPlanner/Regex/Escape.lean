import TraversalPlanner.Regex.CharClass
import TraversalPlanner.Regex.Expression
import TraversalPlanner.Regex.Layout
import TraversalPlanner.Regex.Mode
import TraversalPlanner.Regex.Property
import TraversalPlanner.Text.Hexadecimal

/-
  This file reads escapes in regular expressions.

  Key definitions include:
    * `Regex.Primitive`
    * `Regex.Primitive.Fits`
    * `Regex.readCode`
    * `Regex.readProperty`
    * `Regex.readBoundary`
    * `Regex.readEscape`
-/

namespace TraversalPlanner

namespace Regex

------------------------------------------------------------
-- Primitives
------------------------------------------------------------

/- An expression without parts. -/
inductive Primitive where
/- one character; `asByte` if it is given by two hexadecimal digits -/
| literal :
    (char : Char) →
    (asByte : Bool) →
    Primitive
/- any character -/
| dot : Primitive
/- a place between characters -/
| assertion : Place → Primitive
/- the characters of a class, or all others -/
| member :
    (kind : CharClass) →
    (negated : Bool) →
    Primitive
/- the characters with a property, or all others -/
| property :
    (set : CodeSet) →
    (negated : Bool) →
    Primitive
deriving DecidableEq, Repr

namespace Primitive

/-
  A primitive can be used.  Without Unicode, everything is made
  of bytes, and no match may contain a byte that is not ASCII.
-/
def Fits
    (unicode : Bool) : Primitive → Prop
| .literal c asByte => unicode = true ∨ asByte = false ∨ c.toNat < 0x80
| .dot => unicode = true
| .assertion _ => True
| .member _ negated => unicode = true ∨ negated = false
| .property _ _ => unicode = true

instance
    (unicode : Bool)
    (p : Primitive) :
    Decidable (p.Fits unicode) := by
  cases p <;> unfold Fits <;> infer_instance

/- The characters of a set, or all others, in a mode. -/
def setIn
    (m : Mode)
    (negated : Bool)
    (s : CodeSet) : CodeSet :=
  if negated then (m.fold s).complement else m.fold s

/- The characters that a dot matches. -/
def dotSet (m : Mode) : CodeSet :=
  if m.dotMatchesNewLine then
    .all
  else if m.carriageReturns then
    (CodeSet.ofText "a d").complement
  else
    (CodeSet.ofText "a").complement

/- The characters of a class that has a letter, which has no case. -/
def memberSet
    (m : Mode)
    (negated : Bool)
    (kind : CharClass) : CodeSet :=
  let s := kind.members m.unicode
  if negated then s.complement else s

/- The expression that a primitive is in a mode. -/
def expression
    (m : Mode) : Primitive → Expression
| .literal c _ => .ofSet (m.fold (.single c))
| .dot => .ofSet (dotSet m)
| .assertion p => .place p
| .member kind negated => .ofSet (memberSet m negated kind)
| .property s negated => .ofSet (setIn m negated s)

end Primitive

/- A primitive and the text behind it. -/
abbrev Read : Type :=
  Option (Primitive × List Char)

------------------------------------------------------------
-- Characters by Code
------------------------------------------------------------

/- The character with a code, if there is one. -/
def charOfCode? (n : Nat) : Option Char :=
  if n.isValidChar then some (Char.ofNat n) else none

/- A number of hexadecimal digits, and the text behind them. -/
def takeHex
    (verbose : Bool) :
    (count : Nat) →
    List Char →
    Option (List Nat × List Char)
| 0, cs => some ([], cs)
| _ + 1, [] => none
| n + 1, c :: cs => do
    let d ← Text.hexDigit? c
    let (ds, rest) ← takeHex verbose n (skip verbose cs)
    pure (d :: ds, rest)

/-
  A character by its code, in braces or with a fixed number of
  digits.
-/
def readCode
    (verbose : Bool)
    (count : Nat)
    (cs : List Char) : Read :=
  match skip verbose cs with
  | '\x7b' :: cs => do
      let (body, rest) ← braced verbose cs
      let ds ← body.mapM Text.hexDigit?
      if ds.isEmpty then
        none
      else
        let c ← charOfCode? (Text.hexToNat ds)
        pure (.literal c false, rest)
  | cs => do
      let (ds, rest) ← takeHex verbose count cs
      let c ← charOfCode? (Text.hexToNat ds)
      pure (.literal c (count == 2), rest)

------------------------------------------------------------
-- Properties
------------------------------------------------------------

/- A property, in braces or named by one letter. -/
def readProperty
    (verbose negated : Bool)
    (cs : List Char) : Read :=
  match skip verbose cs with
  | [] => none
  | '\x7b' :: cs => do
      let (body, rest) ← braced verbose cs
      let (s, other) ← propertyQuery? body
      pure (.property s (negated != other), rest)
  | c :: cs =>
      if c = '\\' then
        none
      else
        (propertySet? [c]).map fun s => (.property s negated, cs)

------------------------------------------------------------
-- Word Boundaries
------------------------------------------------------------

/- A character that names of word boundaries are made of. -/
def isBoundaryChar (c : Char) : Bool :=
  c.isAlpha || c = '-'

/- The edge of a word that a name stands for. -/
def edge? (name : List Char) : Option Edge :=
  if name = "start".toList then
    some .opening
  else if name = "end".toList then
    some .closing
  else if name = "start-half".toList then
    some .halfOpening
  else if name = "end-half".toList then
    some .halfClosing
  else
    none

/- An edge of a word in a mode. -/
def edgeIn
    (m : Mode)
    (e : Edge) : Primitive :=
  .assertion (.edge e m.unicode)

/-
  A word boundary, whose kind may follow in braces.  Braces with
  anything but a name are a repetition and left alone.
-/
def readBoundary
    (m : Mode)
    (cs : List Char) : Read :=
  match cs with
  | '\x7b' :: inner =>
      match skip m.verbose inner with
      | [] => none
      | c :: _ =>
          if isBoundaryChar c then do
            let (body, rest) ← braced m.verbose inner
            let e ← edge? body
            pure (edgeIn m e, rest)
          else
            some (edgeIn m .boundary, cs)
  | _ => some (edgeIn m .boundary, cs)

------------------------------------------------------------
-- Escapes
------------------------------------------------------------

/- The letters that stand for a control character. -/
def controlCode? (c : Char) : Option Nat :=
  match c with
  | 'a' => some 7
  | 't' => some 9
  | 'n' => some 10
  | 'v' => some 11
  | 'f' => some 12
  | 'r' => some 13
  | _ => none

/- An ASCII character that stands for itself behind a backslash. -/
def isEscapable (c : Char) : Bool :=
  decide (c.toNat < 0x80) && !c.isAlphanum && c != '<' && c != '>'

/- The place that a letter or a sign behind a backslash stands for. -/
def assertion?
    (m : Mode)
    (c : Char) : Option Primitive :=
  match c with
  | 'A' => some (.assertion .textStart)
  | 'z' => some (.assertion .textEnd)
  | 'B' => some (edgeIn m .inside)
  | '<' => some (edgeIn m .opening)
  | '>' => some (edgeIn m .closing)
  | _ => none

/- A primitive of one character behind a backslash. -/
def shortEscape?
    (m : Mode)
    (c : Char) : Option Primitive :=
  if isEscapable c then
    some (.literal c false)
  else
    (assertion? m c).or <|
      ((CharClass.ofLetter? c.toLower).map fun kind =>
          .member kind c.isUpper).or
        ((controlCode? c).map fun n => .literal (Char.ofNat n) false)

/- What stands behind a backslash. -/
def readEscape
    (m : Mode) : List Char → Read
| [] => none
| c :: cs =>
    match c with
    | 'x' => readCode m.verbose 2 cs
    | 'u' => readCode m.verbose 4 cs
    | 'U' => readCode m.verbose 8 cs
    | 'p' => readProperty m.verbose false cs
    | 'P' => readProperty m.verbose true cs
    | 'b' => readBoundary m cs
    | c => (shortEscape? m c).map fun p => (p, cs)

end Regex

end TraversalPlanner
