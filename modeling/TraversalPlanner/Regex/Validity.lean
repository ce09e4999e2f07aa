import TraversalPlanner.Regex.Automaton
import TraversalPlanner.Regex.Bracket
import TraversalPlanner.Regex.Grammar
import TraversalPlanner.Regex.Group
import TraversalPlanner.Regex.Repetition

/-
  This file recognises regular expressions.  An expression is
  read from left to right, with the groups that are open on a
  stack.  The height of its nesting and the sizes of its automata
  must be within limits.

  Key definitions include:
    * `Regex.Nested`
    * `Regex.GroupLevel`
    * `Regex.ReadState`
    * `Regex.ReadState.stepAt`
    * `Regex.read?`
    * `Regex.refusal?`
    * `Regex.grammar`
-/

namespace TraversalPlanner

namespace Regex

------------------------------------------------------------
-- Parts of an Expression
------------------------------------------------------------

/- An expression, and the height of its nesting as it was written. -/
structure Nested where
  height : Nat
  expression : Expression

namespace Nested

/- An expression without parts. -/
def flat (e : Expression) : Nested :=
  ⟨0, e⟩

/- Expressions one after another. -/
def sequence (ns : List Nested) : Nested :=
  ⟨joinHeights (ns.map height), .sequenceOf (ns.map expression)⟩

/- One of several expressions. -/
def choice (ns : List Nested) : Nested :=
  ⟨joinHeights (ns.map height), .choiceOf (ns.map expression)⟩

/- An expression in parentheses, with an index if it is recorded. -/
def group
    (capture : Option Nat)
    (n : Nested) : Nested :=
  match capture with
  | some index => ⟨n.height + 1, .capture index n.expression⟩
  | none => ⟨n.height + 1, n.expression⟩

/- An expression that is repeated. -/
def repeated
    (m : Mode)
    (r : Repeat)
    (n : Nested) : Nested :=
  let greedy := r.isLazy == m.swapGreed
  ⟨n.height + 1, .repeatOf r.least r.most greedy n.expression⟩

end Nested

/- A part of a sequence. -/
structure Item where
  nested : Nested
  /- it is an expression, and not a setting of flags -/
  repeatable : Bool

/-
  A group that is open: its complete alternatives, and the items
  of the one being read, the last one first in both cases.
-/
structure GroupLevel where
  alternatives : List Nested
  items : List Item

namespace GroupLevel

/- A group of which nothing is read. -/
def empty : GroupLevel :=
  ⟨[], []⟩

/- All alternatives, the last one first. -/
def all (l : GroupLevel) : List Nested :=
  .sequence (l.items.reverse.map Item.nested) :: l.alternatives

/- All that was read. -/
def nested (l : GroupLevel) : Nested :=
  .choice l.all.reverse

/- Add an item. -/
def add
    (l : GroupLevel)
    (i : Item) : GroupLevel :=
  { l with items := i :: l.items }

/- Add an expression. -/
def addNested
    (l : GroupLevel)
    (n : Nested) : GroupLevel :=
  l.add ⟨n, true⟩

/- Start another alternative. -/
def alternate (l : GroupLevel) : GroupLevel :=
  ⟨l.all, []⟩

/- Repeat the last item, if it can be repeated. -/
def repeatLast
    (m : Mode)
    (l : GroupLevel)
    (r : Repeat) : Option GroupLevel :=
  match l.items with
  | [] => none
  | i :: is =>
      if i.repeatable then
        some { l with items := ⟨i.nested.repeated m r, true⟩ :: is }
      else
        none

end GroupLevel

------------------------------------------------------------
-- Reading
------------------------------------------------------------

/-
  A group with a group open inside of it: what is read of it, the
  mode to return to, and the index of the inner group if its
  match is recorded.
-/
structure OuterGroup where
  level : GroupLevel
  mode : Mode
  capture : Option Nat

/-
  What was read: the mode, the names of groups, the number of
  groups that are recorded, the innermost open group, the ones
  around it, and the text that is left.
-/
structure ReadState where
  mode : Mode
  names : List String
  captures : Nat
  level : GroupLevel
  outer : List OuterGroup
  rest : List Char

namespace ReadState

/- Nothing is read of a text. -/
def start (cs : List Char) : ReadState :=
  ⟨.standard, [], 0, .empty, [], cs⟩

/- Open a group inside of the innermost one. -/
def nest
    (s : ReadState)
    (mode : Mode)
    (rest : List Char) : ReadState :=
  { s with
    mode := mode
    level := .empty
    outer := ⟨s.level, s.mode, none⟩ :: s.outer
    rest := rest }

/- Open a group whose match is recorded. -/
def nestCapture
    (s : ReadState)
    (rest : List Char) : ReadState :=
  { s with
    captures := s.captures + 1
    level := .empty
    outer := ⟨s.level, s.mode, some (s.captures + 1)⟩ :: s.outer
    rest := rest }

/- Read an opening parenthesis and what belongs to it. -/
def openGroup
    (s : ReadState)
    (cs : List Char) : Option ReadState :=
  match readGroup s.mode.verbose cs with
  | none => none
  | some (.plain, rest) => some (s.nestCapture rest)
  | some (.named name, rest) =>
      if s.names.contains name then
        none
      else
        some ({ s with names := name :: s.names }.nestCapture rest)
  | some (.flagged fs, rest) => some (s.nest (s.mode.setAll fs) rest)
  | some (.flags fs, rest) =>
      some
        { s with
          mode := s.mode.setAll fs
          level := s.level.add ⟨.flat .empty, false⟩
          rest := rest }

/- Read a closing parenthesis, which needs an open group. -/
def closeGroup
    (s : ReadState)
    (cs : List Char) : Option ReadState :=
  match s.outer with
  | [] => none
  | o :: outer =>
      some
        { s with
          mode := o.mode
          level := o.level.addNested (s.level.nested.group o.capture)
          outer := outer
          rest := cs }

/- Repeat the last item. -/
def addRepetition
    (s : ReadState)
    (r : Repeat)
    (rest : List Char) : Option ReadState :=
  (s.level.repeatLast s.mode r).map fun l =>
    { s with level := l, rest := rest }

/- Repeat the last item as a sign says, which may be marked as lazy. -/
def addSign
    (s : ReadState)
    (least : Nat)
    (most : Option Nat)
    (cs : List Char) : Option ReadState :=
  let (isLazy, rest) := readLazy cs
  s.addRepetition ⟨least, most, isLazy⟩ rest

/- Add an expression that was read. -/
def addNested
    (s : ReadState)
    (n : Nested)
    (rest : List Char) : ReadState :=
  { s with level := s.level.addNested n, rest := rest }

/- Read a primitive that fits the mode. -/
def addPrimitive
    (s : ReadState)
    (read : Read) : Option ReadState :=
  match read with
  | none => none
  | some (p, rest) =>
      if p.Fits s.mode.unicode then
        some (s.addNested (.flat (p.expression s.mode)) rest)
      else
        none

/- The start of a line, or of the text. -/
def startPlace (m : Mode) : Place :=
  if m.multiLine then .lineStart m.carriageReturns else .textStart

/- The end of a line, or of the text. -/
def endPlace (m : Mode) : Place :=
  if m.multiLine then .lineEnd m.carriageReturns else .textEnd

/- Read a part of an expression from its first character on. -/
def stepAt
    (s : ReadState)
    (c : Char)
    (cs : List Char) : Option ReadState :=
  match c with
  | '(' => s.openGroup cs
  | ')' => s.closeGroup cs
  | '|' => some { s with level := s.level.alternate, rest := cs }
  | '[' =>
      (readClass s.mode cs).map fun (p, rest) =>
        s.addNested ⟨p.height, .ofSet p.set⟩ rest
  | '?' => s.addSign 0 (some 1) cs
  | '*' => s.addSign 0 none cs
  | '+' => s.addSign 1 none cs
  | '\x7b' =>
      (readRepetition s.mode.verbose cs).bind fun (r, rest) =>
        s.addRepetition r rest
  | '\\' => s.addPrimitive (readEscape s.mode cs)
  | '.' => s.addPrimitive (some (.dot, cs))
  | '^' => s.addPrimitive (some (.assertion (startPlace s.mode), cs))
  | '$' => s.addPrimitive (some (.assertion (endPlace s.mode), cs))
  | c => s.addPrimitive (some (.literal c false, cs))

/- What is left to read, without what does not count. -/
def pending (s : ReadState) : List Char :=
  skip s.mode.verbose s.rest

/- Read to the end of the text, in so many steps. -/
def run : (bound : Nat) → ReadState → Option ReadState
| 0, _ => none
| bound + 1, s =>
    match s.pending with
    | [] => some s
    | c :: cs => (s.stepAt c cs).bind (run bound)

end ReadState

------------------------------------------------------------
-- The Grammar
------------------------------------------------------------

/-
  The expression that a text is.  Every step reads a character at
  least, and at the end no group is open.
-/
def read? (text : String) : Option Nested :=
  let cs := text.toList
  match ReadState.run (cs.length + 1) (.start cs) with
  | none => none
  | some s => if s.outer.isEmpty then some s.level.nested else none

/- Why a text is refused that cannot be read, or nests too deeply. -/
def unreadable : String :=
  "regex parse error"

/- Why an expression is refused that takes too much memory. -/
def oversized : String :=
  "Compiled regex exceeds size limit of " ++
    Assembly.sizeLimit.repr ++ " bytes."

/- Why a text is no regular expression within the limits. -/
def refusal? (text : String) : Option String :=
  match read? text with
  | none => some unreadable
  | some n =>
      if heightLimit < n.height then
        some unreadable
      else if n.expression.Fits then
        none
      else
        some oversized

/- The regular expressions within the limits. -/
@[reducible] def grammar : RegexGrammar where
  refusal? := refusal?

end Regex

end TraversalPlanner
