import Std.Data.HashMap
import TraversalPlanner.Regex.Assembly
import TraversalPlanner.Regex.ByteRange

/-
  This file assembles the states for a class of characters.  A
  class is divided into sequences of byte ranges, and states of
  the same ways on are shared, as far as they are remembered.
  The memory has a number of slots, and a state is forgotten when
  another one takes its slot.

  Key definitions include:
    * `Regex.StateMemory`
    * `Regex.ClassAssembly`
    * `Regex.ClassAssembly.addForward?`
    * `Regex.ClassAssembly.addBackward?`
    * `Regex.Part.ofClass`
-/

namespace TraversalPlanner

namespace Regex

------------------------------------------------------------
-- Memory of States
------------------------------------------------------------

/- The states that are remembered, with their ways on, by slot. -/
structure StateMemory where
  capacity : Nat
  slots : Std.HashMap Nat (List Nat × Nat)

namespace StateMemory

/- Nothing is remembered in a number of slots. -/
def empty (capacity : Nat) : StateMemory :=
  ⟨capacity, ∅⟩

/- The hash of no numbers. -/
def hashStart : UInt64 :=
  14695981039346656037

/- What the hash is multiplied with for each number. -/
def hashFactor : UInt64 :=
  1099511628211

/- The hash of some numbers, known as FNV-1a. -/
def hash (ns : List Nat) : UInt64 :=
  ns.foldl (fun h n => (h ^^^ UInt64.ofNat n) * hashFactor) hashStart

/- The slot of the ways on of a state. -/
def slot
    (m : StateMemory)
    (ways : List Nat) : Nat :=
  (hash ways).toNat % m.capacity

/- The state with some ways on. -/
def find?
    (m : StateMemory)
    (ways : List Nat) : Option Nat :=
  match m.slots[m.slot ways]? with
  | some (known, state) => if known = ways then some state else none
  | none => none

/- Remember a state by its ways on. -/
def insert
    (m : StateMemory)
    (ways : List Nat)
    (state : Nat) : StateMemory :=
  { m with slots := m.slots.insert (m.slot ways) (ways, state) }

end StateMemory

------------------------------------------------------------
-- Assembling Shared States
------------------------------------------------------------

/- What is assembled, and which of its states may be shared. -/
structure ClassAssembly where
  assembly : Assembly
  memory : StateMemory

namespace ClassAssembly

/-
  The state with some ways on: one that is remembered, or a new
  one with some bytes for its ways.
-/
def share?
    (c : ClassAssembly)
    (ways : List Nat)
    (size : Nat) : Option (Nat × ClassAssembly) :=
  match c.memory.find? ways with
  | some state => some (state, c)
  | none =>
      (c.assembly.grow? 1 size).map fun a =>
        let state := c.assembly.states
        (state, ⟨a, c.memory.insert ways state⟩)

/- Two sequences start with the same range of bytes. -/
def startAlike (s t : List ByteRange) : Bool :=
  s.head? == t.head?

mutual

/-
  The state from which some sequences of at most so many ranges
  lead to a target.  The sequences ascend, so those that start
  alike are next to each other.
-/
def addForward?
    (target : Nat) :
    (bound : Nat) →
    List (List ByteRange) →
    ClassAssembly →
    Option (Nat × ClassAssembly)
| 0, _, c => some (target, c)
| bound + 1, seqs, c =>
    if seqs.all List.isEmpty then
      some (target, c)
    else
      match addGroups? target bound (seqs.splitBy startAlike) c with
      | none => none
      | some (ways, c) =>
          c.share? (ways.flatMap fun (r, next) => [r.1, r.2, next])
            (ways.length * Assembly.rangeSize)

/- The ways on for groups of sequences that start alike. -/
def addGroups?
    (target bound : Nat) :
    List (List (List ByteRange)) →
    ClassAssembly →
    Option (List (ByteRange × Nat) × ClassAssembly)
| [], c => some ([], c)
| seqs :: groups, c =>
    match seqs.head?.bind List.head? with
    | none => addGroups? target bound groups c
    | some r => do
        let (next, c) ← addForward? target bound (seqs.map List.tail) c
        let (ways, c) ← addGroups? target bound groups c
        pure ((r, next) :: ways, c)

end

/-
  The state from which a sequence leads to a target, when its
  bytes are read from the last one on.
-/
def addBackward?
    (target : Nat) :
    List ByteRange →
    ClassAssembly →
    Option (Nat × ClassAssembly)
| [], c => some (target, c)
| r :: rs, c =>
    match c.share? [target, r.1, r.2] 0 with
    | none => none
    | some (state, c) => addBackward? state rs c

/- All sequences, each with a way to it from a state in front. -/
def addAllBackward?
    (target : Nat) :
    List (List ByteRange) →
    ClassAssembly →
    Option ClassAssembly
| [], c => some c
| seq :: seqs, c =>
    match addBackward? target seq c with
    | none => none
    | some (_, c) =>
        match c.assembly.grow? 0 Assembly.branchSize with
        | none => none
        | some a => addAllBackward? target seqs { c with assembly := a }

end ClassAssembly

------------------------------------------------------------
-- Classes
------------------------------------------------------------

namespace Part

/- The most bytes that a character has. -/
def lengthLimit : Nat :=
  4

/- The slots for states that are shared forwards. -/
def forwardSlots : Nat :=
  10000

/- The slots for states that are shared backwards. -/
def backwardSlots : Nat :=
  1000

/- One of some ASCII characters, in a number of ranges. -/
def ofAscii (ranges : Nat) : Part :=
  ofSize 2 (ranges * Assembly.rangeSize)

/- One of several characters, given by their sequences, forwards. -/
def ofSequencesForward (seqs : List (List ByteRange)) : Part :=
  ⟨false, fun a => do
    let target := a.states
    let a ← a.grow? 1 0
    let (_, c) ←
      ClassAssembly.addForward? target lengthLimit seqs
        ⟨a, .empty forwardSlots⟩
    pure c.assembly⟩

/- One of several characters, given by their sequences, backwards. -/
def ofSequencesBackward (seqs : List (List ByteRange)) : Part :=
  ⟨false, fun a => do
    let target := a.states + 1
    let a ← a.grow? 2 0
    let c ←
      ClassAssembly.addAllBackward? target seqs ⟨a, .empty backwardSlots⟩
    pure c.assembly⟩

end Part

end Regex

end TraversalPlanner
