import TraversalPlanner.Json.Value
import TraversalPlanner.Text.Hexadecimal

/-
  This file reads document values from texts.  A text holds one
  value, with blanks around it allowed.

  Key definitions include:
    * `Json.readNumber`
    * `Json.readString`
    * `Json.readValue`
    * `Json.parse?`
-/

namespace TraversalPlanner

namespace Json

------------------------------------------------------------
-- Blanks and Numbers
------------------------------------------------------------

/- A character that may stand between the parts of a document. -/
def isSpace (c : Char) : Bool :=
  c = ' ' || c = '\n' || c = '\t' || c = '\r'

/- The text behind leading blanks. -/
def skipSpace (cs : List Char) : List Char :=
  cs.dropWhile isSpace

/- The leading digits of a text, and the text behind them. -/
def readDigits : List Char → List Digit × List Char
| [] => ([], [])
| c :: cs =>
    match Digit.ofChar? c with
    | some d =>
        let (ds, rest) := readDigits cs
        (d :: ds, rest)
    | none => ([], c :: cs)

/- The number that a list of digits stands for. -/
def digitsToNat (ds : List Digit) : Nat :=
  ds.foldl (fun n d => 10 * n + d.val) 0

/- The fraction of a numeral, absent or with a digit at least. -/
def readFraction (cs : List Char) : Option (List Digit × List Char) :=
  match cs with
  | '.' :: cs =>
      match readDigits cs with
      | ([], _) => none
      | (ds, rest) => some (ds, rest)
  | _ => some ([], cs)

/- The digits of an exponent behind its sign. -/
def readExponentDigits
    (negative : Bool)
    (cs : List Char) : Option (Option Int × List Char) :=
  match readDigits cs with
  | ([], _) => none
  | (ds, rest) =>
      let n : Int := digitsToNat ds
      some (some (if negative then -n else n), rest)

/- The exponent of a numeral, absent or with a digit at least. -/
def readExponent (cs : List Char) : Option (Option Int × List Char) :=
  match cs with
  | 'e' :: '-' :: cs => readExponentDigits true cs
  | 'e' :: '+' :: cs => readExponentDigits false cs
  | 'e' :: cs => readExponentDigits false cs
  | 'E' :: '-' :: cs => readExponentDigits true cs
  | 'E' :: '+' :: cs => readExponentDigits false cs
  | 'E' :: cs => readExponentDigits false cs
  | _ => some (none, cs)

/- A numeral behind its sign; its whole part has no leading zero. -/
def readUnsigned
    (negative : Bool)
    (cs : List Char) : Option (Numeral × List Char) :=
  match readDigits cs with
  | ([], _) => none
  | (d :: ds, rest) =>
      if d.val == 0 && !ds.isEmpty then
        none
      else do
        let (fraction, rest) ← readFraction rest
        let (exponent, rest) ← readExponent rest
        pure (⟨negative, digitsToNat (d :: ds), fraction, exponent⟩, rest)

/- A numeral at the start of a text. -/
def readNumber (cs : List Char) : Option (Numeral × List Char) :=
  match cs with
  | '-' :: cs => readUnsigned true cs
  | _ => readUnsigned false cs

------------------------------------------------------------
-- Strings
------------------------------------------------------------

/-
  What a string is written with: a character as it stands, or an
  escaped UTF-16 code unit.
-/
inductive StringUnit where
| plain : Char → StringUnit
| code : Nat → StringUnit
deriving DecidableEq, Repr

/- The code unit of four hexadecimal digits. -/
def codeUnit? (a b c d : Char) : Option Nat := do
  let a ← Text.hexDigit? a
  let b ← Text.hexDigit? b
  let c ← Text.hexDigit? c
  let d ← Text.hexDigit? d
  pure (((a * 16 + b) * 16 + c) * 16 + d)

/- The character that a one-letter escape stands for. -/
def escaped? (c : Char) : Option Char :=
  match c with
  | '"' => some '"'
  | '\\' => some '\\'
  | '/' => some '/'
  | 'b' => some (Char.ofNat 8)
  | 'f' => some (Char.ofNat 12)
  | 'n' => some '\n'
  | 'r' => some '\r'
  | 't' => some '\t'
  | _ => none

/-
  The units of a string up to its closing quote, and the text
  behind it.  Control characters must be escaped.
-/
def readUnits : List Char → Option (List StringUnit × List Char)
| [] => none
| '"' :: rest => some ([], rest)
| '\\' :: 'u' :: a :: b :: c :: d :: rest => do
    let n ← codeUnit? a b c d
    let (us, rest) ← readUnits rest
    pure (.code n :: us, rest)
| '\\' :: c :: rest => do
    let c ← escaped? c
    let (us, rest) ← readUnits rest
    pure (.plain c :: us, rest)
| c :: rest =>
    if c.toNat < 32 || c = '\\' then
      none
    else do
      let (us, rest) ← readUnits rest
      pure (.plain c :: us, rest)

/- The first half of a surrogate pair. -/
def isHighSurrogate (n : Nat) : Bool :=
  decide (0xD800 ≤ n ∧ n < 0xDC00)

/- The second half of a surrogate pair. -/
def isLowSurrogate (n : Nat) : Bool :=
  decide (0xDC00 ≤ n ∧ n < 0xE000)

/-
  The characters that units stand for.  Two code units that form
  a surrogate pair stand for one character; half a pair stands
  for none.
-/
def charsOfUnits : List StringUnit → Option (List Char)
| [] => some []
| .plain c :: us => (charsOfUnits us).map (c :: ·)
| .code n :: us =>
    if isHighSurrogate n then
      match us with
      | .code m :: us =>
          if isLowSurrogate m then
            let c := Char.ofNat (0x10000 + (n - 0xD800) * 0x400 + (m - 0xDC00))
            (charsOfUnits us).map (c :: ·)
          else
            none
      | _ => none
    else if isLowSurrogate n then
      none
    else
      (charsOfUnits us).map (Char.ofNat n :: ·)

/-
  A string behind its opening quote: its text, absent if it
  denotes none, and what follows.
-/
def readString (cs : List Char) : Option (Option String × List Char) :=
  (readUnits cs).map fun (us, rest) =>
    ((charsOfUnits us).map String.ofList, rest)

------------------------------------------------------------
-- Values
------------------------------------------------------------

/- An object, unreadable if one of its field names is. -/
def ofFields (fields : List (Option String × Json)) : Json :=
  match fields.mapM fun (name, j) => name.map (·, j) with
  | some fields => .object fields
  | none => .unreadable

mutual

/-
  A value at the start of a text, and the text behind it.  The
  first argument bounds the number of calls; two for every
  character suffice.
-/
def readValue : Nat → List Char → Option (Json × List Char)
| 0, _ => none
| bound + 1, cs =>
    match skipSpace cs with
    | [] => none
    | 'n' :: 'u' :: 'l' :: 'l' :: rest => some (.null, rest)
    | 't' :: 'r' :: 'u' :: 'e' :: rest => some (.bool true, rest)
    | 'f' :: 'a' :: 'l' :: 's' :: 'e' :: rest => some (.bool false, rest)
    | '"' :: rest =>
        match readString rest with
        | some (some s, rest) => some (.string s, rest)
        | some (none, rest) => some (.unreadable, rest)
        | none => none
    | '[' :: rest =>
        match skipSpace rest with
        | ']' :: rest => some (.array [], rest)
        | rest =>
            match readItems bound rest with
            | some (items, rest) => some (.array items, rest)
            | none => none
    | '\x7b' :: rest =>
        match skipSpace rest with
        | '\x7d' :: rest => some (.object [], rest)
        | rest =>
            match readFields bound rest with
            | some (fields, rest) => some (ofFields fields, rest)
            | none => none
    | cs =>
        match readNumber cs with
        | some (n, rest) => some (.number n, rest)
        | none => none

/- The items of an array that has some, up to its closing bracket. -/
def readItems : Nat → List Char → Option (List Json × List Char)
| 0, _ => none
| bound + 1, cs =>
    match readValue bound cs with
    | none => none
    | some (j, rest) =>
        match skipSpace rest with
        | ']' :: rest => some ([j], rest)
        | ',' :: rest =>
            match readItems bound rest with
            | some (js, rest) => some (j :: js, rest)
            | none => none
        | _ => none

/- The fields of an object that has some, up to its closing brace. -/
def readFields :
    Nat → List Char → Option (List (Option String × Json) × List Char)
| 0, _ => none
| bound + 1, cs =>
    match skipSpace cs with
    | '"' :: rest =>
        match readString rest with
        | none => none
        | some (name, rest) =>
            match skipSpace rest with
            | ':' :: rest =>
                match readValue bound rest with
                | none => none
                | some (j, rest) =>
                    match skipSpace rest with
                    | '\x7d' :: rest => some ([(name, j)], rest)
                    | ',' :: rest =>
                        match readFields bound rest with
                        | some (fs, rest) => some ((name, j) :: fs, rest)
                        | none => none
                    | _ => none
            | _ => none
    | _ => none

end

/- The value that a text holds, if it holds exactly one. -/
def parse? (text : String) : Option Json :=
  let cs := text.toList
  match readValue (2 * cs.length + 2) cs with
  | some (j, rest) => if (skipSpace rest).isEmpty then some j else none
  | none => none

end Json

end TraversalPlanner
