import TraversalPlanner.Number.Power

/-
  This file counts the states of automata, and the bytes that they
  take, while they are assembled from parts.  A part is entered
  at its first state and left at its last one.  The states and
  bytes of an automaton are limited.

  Key definitions include:
    * `Regex.Assembly`
    * `Regex.Assembly.grow?`
    * `Regex.Part`
    * `Regex.Part.sequence`
    * `Regex.Part.choice`
    * `Regex.Part.repeated`
-/

namespace TraversalPlanner

namespace Regex

------------------------------------------------------------
-- Assemblies
------------------------------------------------------------

/- What is assembled: the number of states, and their bytes. -/
structure Assembly where
  states : Nat
  bytes : Nat
deriving DecidableEq, Repr

namespace Assembly

/- The bytes of a state, without its ways on. -/
def stateSize : Nat :=
  32

/- The bytes of a way on for a range of bytes. -/
def rangeSize : Nat :=
  8

/- The bytes of one of several ways on that are free. -/
def branchSize : Nat :=
  4

/- The bytes that an automaton may take. -/
def sizeLimit : Nat :=
  10 * twoTo 20

/- Nothing is assembled. -/
def empty : Assembly :=
  ⟨0, 0⟩

/- Add states with some bytes for their ways on, within the limit. -/
def grow?
    (a : Assembly)
    (states ways : Nat) : Option Assembly :=
  let bytes := a.bytes + states * stateSize + ways
  if bytes ≤ sizeLimit then some ⟨a.states + states, bytes⟩ else none

end Assembly

------------------------------------------------------------
-- Parts
------------------------------------------------------------

/- A part of an automaton. -/
structure Part where
  /- from its last state, several ways on are possible -/
  branching : Bool
  /- assemble it behind what is assembled already -/
  add? : Assembly → Option Assembly

namespace Part

/- Lead on from the last state, which takes bytes if it branches. -/
def leave?
    (p : Part)
    (a : Assembly) : Option Assembly :=
  if p.branching then a.grow? 0 Assembly.branchSize else some a

/- States with some bytes for the ways between them. -/
def ofSize (states ways : Nat) : Part :=
  ⟨false, fun a => a.grow? states ways⟩

/- A single state that leads on. -/
def pass : Part :=
  ofSize 1 0

/- Add a part a number of times, each time behind one like it. -/
def addCopies?
    (p : Part) :
    (count : Nat) →
    Assembly →
    Option Assembly
| 0, a => some a
| count + 1, a =>
    match (p.leave? a).bind p.add? with
    | none => none
    | some a => p.addCopies? count a

/- Add parts behind a part. -/
def addAll?
    (p : Part) :
    List Part →
    Assembly →
    Option Assembly
| [], a => some a
| q :: qs, a =>
    match (p.leave? a).bind q.add? with
    | none => none
    | some a => q.addAll? qs a

/- Parts one after another. -/
def sequence : List Part → Part
| [] => pass
| p :: ps =>
    { branching := ((p :: ps).getLast?.getD p).branching
      add? := fun a => (p.add? a).bind (p.addAll? ps) }

/- A part with a state in front and one behind. -/
def between (p : Part) : Part :=
  { branching := false
    add? := fun a => do
      let a ← a.grow? 1 0
      let a ← p.add? a
      let a ← a.grow? 1 0
      p.leave? a }

------------------------------------------------------------
-- Choices
------------------------------------------------------------

/- Add the branches of a choice, whose own states are there. -/
def addBranches? : List Part → Assembly → Option Assembly
| [], a => some a
| p :: ps, a =>
    let added := ((p.add? a).bind p.leave?).bind fun a =>
      a.grow? 0 Assembly.branchSize
    match added with
    | none => none
    | some a => addBranches? ps a

/-
  One of several parts.  The state that leads to all of them and
  the one that they lead to come behind the first two.
-/
def choice : List Part → Part
| [] => pass
| [p] => p
| p :: q :: ps =>
    { branching := false
      add? := fun a => do
        let a ← addBranches? [p, q] a
        let a ← a.grow? 2 0
        addBranches? ps a }

------------------------------------------------------------
-- Repetitions
------------------------------------------------------------

/- A part a number of times. -/
def exactly
    (count : Nat)
    (p : Part) : Part :=
  match count with
  | 0 => pass
  | count + 1 =>
      { p with add? := fun a => (p.add? a).bind (p.addCopies? count) }

/- A part, or nothing. -/
def optional (p : Part) : Part :=
  { branching := false
    add? := fun a => do
      let a ← a.grow? 1 0
      let a ← p.add? a
      let a ← a.grow? 1 (2 * Assembly.branchSize)
      p.leave? a }

/-
  A part any number of times.  Unless it is solid, so that each
  way through it takes a byte, it is once or more, or nothing.
-/
def anyNumber
    (solid : Bool)
    (p : Part) : Part :=
  if solid then
    { branching := true
      add? := fun a => do
        let a ← a.grow? 1 0
        let a ← p.add? a
        let a ← a.grow? 0 Assembly.branchSize
        p.leave? a }
  else
    { branching := false
      add? := fun a => do
        let a ← p.add? a
        let a ← p.leave? a
        a.grow? 3 (4 * Assembly.branchSize) }

/- A part once or more often. -/
def onceOrMore (p : Part) : Part :=
  { branching := true
    add? := fun a => do
      let a ← p.add? a
      let a ← p.leave? a
      a.grow? 1 Assembly.branchSize }

/- A part, and as often as needed, a way to leave before it. -/
def addOptional?
    (p : Part) :
    (count : Nat) →
    Assembly →
    Option Assembly
| 0, a => some a
| count + 1, a =>
    let fork := a.grow? 1 (2 * Assembly.branchSize)
    match (fork.bind p.add?).bind p.leave? with
    | none => none
    | some a => p.addOptional? count a

/- A part at least and at most as often as two numbers say. -/
def bounded
    (least most : Nat)
    (p : Part) : Part :=
  let needed := exactly least p
  { branching := false
    add? := fun a => do
      let a ← needed.add? a
      let a ← needed.leave? a
      let a ← a.grow? 1 0
      p.addOptional? (most - least) a }

/- A part repeated; without a `most`, any number of times. -/
def repeated
    (solid : Bool)
    (least : Nat)
    (most : Option Nat)
    (p : Part) : Part :=
  match least, most with
  | 0, some 1 => optional p
  | 0, none => anyNumber solid p
  | 1, none => onceOrMore p
  | least, none => sequence [exactly (least - 1) p, onceOrMore p]
  | least, some most =>
      if least = most then exactly least p else bounded least most p

end Part

end Regex

end TraversalPlanner
