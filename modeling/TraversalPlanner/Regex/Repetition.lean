import TraversalPlanner.Json.Reader
import TraversalPlanner.Regex.Layout

/-
  This file reads counted repetitions: one number, a least
  number, or a range of numbers between braces.

  Key definitions include:
    * `Regex.readCount`
    * `Regex.Repeat`
    * `Regex.readRepetition`
-/

namespace TraversalPlanner

namespace Regex

/- Counts are smaller than this. -/
def countLimit : Nat :=
  twoTo 32

/-
  Decimal digits that count, and the text behind them.  In a
  verbose expression blanks and comments may stand behind each.
-/
def takeDigits
    (verbose : Bool) :
    (noted : Bool) →
    List Char →
    List Digit × List Char
| _, [] => ([], [])
| true, c :: cs => takeDigits verbose (c != '\n') cs
| false, c :: cs =>
    if verbose && Text.isBlank c then
      takeDigits verbose false cs
    else if verbose && c = '#' then
      takeDigits verbose true cs
    else
      match Digit.ofChar? c with
      | some d =>
          let (ds, rest) := takeDigits verbose false cs
          (d :: ds, rest)
      | none => ([], c :: cs)

/- A count with blanks around it, absent if there are no digits. -/
def readCount
    (verbose : Bool)
    (cs : List Char) : Option (Option Nat × List Char) :=
  let (ds, rest) := takeDigits verbose false (cs.dropWhile Text.isBlank)
  let rest := rest.dropWhile Text.isBlank
  let n := Json.digitsToNat ds
  if ds.isEmpty then
    some (none, rest)
  else if n < countLimit then
    some (some n, rest)
  else
    none

/- A mark of laziness, if there is one, and the text behind it. -/
def readLazy : List Char → Bool × List Char
| '?' :: cs => (true, cs)
| cs => (false, cs)

/- The closing brace of a repetition, and a mark of laziness. -/
def readClosing
    (verbose : Bool)
    (cs : List Char) : Option (Bool × List Char) :=
  match cs with
  | '\x7d' :: cs => some (readLazy (skip verbose cs))
  | _ => none

/-
  How often an expression is repeated, and whether as few times
  as possible.  Without a `most`, any number of times.
-/
structure Repeat where
  least : Nat
  most : Option Nat
  isLazy : Bool
deriving DecidableEq, Repr

/- A repetition behind its opening brace, and the text behind it. -/
def readRepetition
    (verbose : Bool)
    (cs : List Char) : Option (Repeat × List Char) := do
  let (least, rest) ← readCount verbose (skip verbose cs)
  let least ← least
  match rest with
  | ',' :: rest =>
      match skip verbose rest with
      | '\x7d' :: rest => do
          let (isLazy, rest) ← readClosing verbose ('\x7d' :: rest)
          pure (⟨least, none, isLazy⟩, rest)
      | rest => do
          let (most, rest) ← readCount verbose rest
          let most ← most
          if least ≤ most then
            let (isLazy, rest) ← readClosing verbose rest
            pure (⟨least, some most, isLazy⟩, rest)
          else
            none
  | rest => do
      let (isLazy, rest) ← readClosing verbose rest
      pure (⟨least, some least, isLazy⟩, rest)

end Regex

end TraversalPlanner
