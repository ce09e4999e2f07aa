import TraversalPlanner.Regex.Escape
import TraversalPlanner.Regex.Height

/-
  This file reads character classes in brackets.  Classes may be
  nested and combined by operators.  Reading a class yields its
  characters and the height of its nesting.

  Key definitions include:
    * `Regex.readAsciiClass`
    * `Regex.readRange`
    * `Regex.ClassPart`
    * `Regex.ClassLevel`
    * `Regex.ClassState`
    * `Regex.readClass`
-/

namespace TraversalPlanner

namespace Regex

------------------------------------------------------------
-- Named Classes
------------------------------------------------------------

/- The mark of a negated class, if there is one, and what follows. -/
def readNegation : List Char → Bool × List Char
| '^' :: cs => (true, cs)
| cs => (false, cs)

/-
  A named class behind its opening bracket: whether it is negated,
  its characters, and the text behind it.  Other texts are no
  named class.
-/
def readAsciiClass (cs : List Char) : Option (Bool × CodeSet × List Char) :=
  match cs with
  | ':' :: cs =>
      let (negated, cs) := readNegation cs
      match cs.dropWhile fun c => c != ':' with
      | ':' :: ']' :: rest =>
          (asciiClass? (cs.takeWhile fun c => c != ':')).map fun s =>
            (negated, s, rest)
      | _ => none
  | _ => none

------------------------------------------------------------
-- Ranges
------------------------------------------------------------

/- One end of a range, or an item that is none. -/
def readClassItem
    (mode : Mode) : List Char → Read
| [] => none
| '\\' :: cs => readEscape mode cs
| c :: cs => some (.literal c false, cs)

/-
  The characters of a primitive that is an item of a class.  The
  case of a literal does not count before the class is complete.
-/
def itemSet?
    (mode : Mode) : Primitive → Option CodeSet
| .literal c _ =>
    if mode.unicode || Nat.blt c.toNat 0x80 then some (.single c) else none
| .dot => none
| .assertion _ => none
| .member kind negated =>
    if mode.unicode || !negated then
      some (Primitive.memberSet mode negated kind)
    else
      none
| .property s negated =>
    if mode.unicode then some (Primitive.setIn mode negated s) else none

/- The characters between two primitives that are ends of a range. -/
def rangeSet?
    (mode : Mode) : Primitive → Primitive → Option CodeSet
| .literal a s, .literal b t =>
    if Nat.ble a.toNat b.toNat &&
        (itemSet? mode (.literal a s)).isSome &&
        (itemSet? mode (.literal b t)).isSome then
      some ⟨[(a.toNat, b.toNat)]⟩
    else
      none
| _, _ => none

/- A hyphen is followed by another end of a range. -/
def startsRange
    (verbose : Bool)
    (behind : List Char) : Bool :=
  let next := peek verbose behind
  next != some ']' && next != some '-'

/-
  The characters of an item of a class or a range of items, and
  the text behind it.  A hyphen in front of a closing bracket or
  of another hyphen makes no range.
-/
def readRange
    (mode : Mode)
    (cs : List Char) : Option (CodeSet × List Char) := do
  let (first, rest) ← readClassItem mode cs
  match skip mode.verbose rest with
  | [] => none
  | c :: behind =>
      if c = '-' && startsRange mode.verbose behind then
        let (second, rest) ← readClassItem mode (skip mode.verbose behind)
        (rangeSet? mode first second).map fun s => (s, rest)
      else
        (itemSet? mode first).map fun s => (s, c :: behind)

------------------------------------------------------------
-- Nested Classes
------------------------------------------------------------

/- An operator between parts of a class. -/
inductive SetOperator where
| intersection
| difference
| symmetricDifference
deriving DecidableEq, Repr

/- Combine two sets. -/
def SetOperator.apply : SetOperator → CodeSet → CodeSet → CodeSet
| .intersection => CodeSet.intersection
| .difference => CodeSet.difference
| .symmetricDifference => CodeSet.symmetricDifference

/- A part of a class: its characters, and the height of its nesting. -/
structure ClassPart where
  height : Nat
  set : CodeSet

namespace ClassPart

/- A part without parts of its own. -/
def flat (s : CodeSet) : ClassPart :=
  ⟨0, s⟩

/- Parts side by side. -/
def join (ps : List ClassPart) : ClassPart :=
  ⟨joinHeights (ps.map height), .unionAll (ps.map set)⟩

/- Two parts with an operator between them. -/
def combine
    (mode : Mode)
    (op : SetOperator)
    (front behind : ClassPart) : ClassPart :=
  ⟨max front.height behind.height + 1,
    op.apply (mode.fold front.set) (mode.fold behind.set)⟩

end ClassPart

/-
  A class that is still open: whether it is negated, its items
  behind the last operator, the last one first, and the part in
  front of that operator.
-/
structure ClassLevel where
  negated : Bool
  items : List ClassPart
  operand : Option (ClassPart × SetOperator)

namespace ClassLevel

/- Add an item. -/
def add
    (l : ClassLevel)
    (p : ClassPart) : ClassLevel :=
  { l with items := p :: l.items }

/- All that was read, without the mark of negation. -/
def content
    (mode : Mode)
    (l : ClassLevel) : ClassPart :=
  let behind := ClassPart.join l.items
  match l.operand with
  | none => behind
  | some (front, op) => .combine mode op front behind

/- Start the part behind an operator. -/
def operate
    (mode : Mode)
    (l : ClassLevel)
    (op : SetOperator) : ClassLevel :=
  ⟨l.negated, [], some (l.content mode, op)⟩

/- The class that is closed. -/
def part
    (mode : Mode)
    (l : ClassLevel) : ClassPart :=
  let p := l.content mode
  ⟨p.height + 1, Primitive.setIn mode l.negated p.set⟩

end ClassLevel

/- The literal hyphens at the start of a class, and what follows. -/
def leadingHyphens
    (verbose : Bool) :
    (bound : Nat) →
    List Char →
    Nat × List Char
| bound + 1, '-' :: cs =>
    let (n, rest) := leadingHyphens verbose bound (skip verbose cs)
    (n + 1, rest)
| _, cs => (0, cs)

/- What comes behind the opening bracket of a class. -/
structure ClassOpening where
  level : ClassLevel
  rest : List Char

/-
  The start of a class: a mark of negation, and hyphens or a
  closing bracket as literal items.
-/
def readOpening
    (verbose : Bool)
    (cs : List Char) : ClassOpening :=
  let (negated, cs) := readNegation (skip verbose cs)
  let cs := if negated then skip verbose cs else cs
  match leadingHyphens verbose cs.length cs with
  | (0, ']' :: cs) =>
      ⟨⟨negated, [.flat (.single ']')], none⟩, skip verbose cs⟩
  | (n, cs) =>
      ⟨⟨negated, List.replicate n (.flat (.single '-')), none⟩, cs⟩

/- Classes that are open, the innermost first, and the text to read. -/
structure ClassState where
  level : ClassLevel
  outer : List ClassLevel
  rest : List Char

/- What reading a part of a class leads to. -/
inductive ClassStep where
| more : ClassState → ClassStep
| closed : ClassPart → (rest : List Char) → ClassStep

namespace ClassState

/- Open a nested class. -/
def openClass
    (mode : Mode)
    (s : ClassState)
    (cs : List Char) : Option ClassStep :=
  let o := readOpening mode.verbose cs
  if o.level.negated && !mode.unicode then
    none
  else
    some (.more ⟨o.level, s.level :: s.outer, o.rest⟩)

/- Close the innermost class. -/
def close
    (mode : Mode)
    (s : ClassState)
    (cs : List Char) : ClassStep :=
  let p := s.level.part mode
  match s.outer with
  | [] => .closed p cs
  | l :: outer => .more ⟨l.add p, outer, cs⟩

/- Add an item without parts of its own. -/
def addFlat
    (s : ClassState)
    (set : CodeSet)
    (rest : List Char) : ClassStep :=
  .more { s with level := s.level.add (.flat set), rest := rest }

/- Read an operator. -/
def operate
    (mode : Mode)
    (s : ClassState)
    (op : SetOperator)
    (rest : List Char) : ClassStep :=
  .more { s with level := s.level.operate mode op, rest := rest }

/- Read the next part of a class. -/
def step
    (mode : Mode)
    (s : ClassState) : Option ClassStep :=
  match skip mode.verbose s.rest with
  | [] => none
  | '[' :: cs =>
      match readAsciiClass cs with
      | some (negated, set, rest) =>
          if negated && !mode.unicode then
            none
          else
            some (s.addFlat (Primitive.setIn mode negated set) rest)
      | none => s.openClass mode cs
  | ']' :: cs => some (s.close mode cs)
  | '&' :: '&' :: cs => some (s.operate mode .intersection cs)
  | '-' :: '-' :: cs => some (s.operate mode .difference cs)
  | '~' :: '~' :: cs => some (s.operate mode .symmetricDifference cs)
  | cs => (readRange mode cs).map fun (set, rest) => s.addFlat set rest

/- Read until the outermost class is closed, in so many steps. -/
def run
    (mode : Mode) :
    (bound : Nat) →
    ClassState →
    Option (ClassPart × List Char)
| 0, _ => none
| bound + 1, s =>
    match s.step mode with
    | none => none
    | some (.closed p rest) => some (p, rest)
    | some (.more s) => run mode bound s

end ClassState

/-
  A class behind its opening bracket, and the text behind it.
  Every step reads a character at least.
-/
def readClass
    (mode : Mode)
    (cs : List Char) : Option (ClassPart × List Char) :=
  let o := readOpening mode.verbose cs
  if o.level.negated && !mode.unicode then
    none
  else
    ClassState.run mode (o.rest.length + 1) ⟨o.level, [], o.rest⟩

end Regex

end TraversalPlanner
