import TraversalPlanner.Json.Value

/-
  This file prints document values, compactly on one line or
  spread over indented lines.

  Key definitions include:
    * `Json.quote`
    * `Json.compress`
    * `Json.pretty`
-/

namespace TraversalPlanner

namespace Json

------------------------------------------------------------
-- Strings
------------------------------------------------------------

/- The hexadecimal digits of a control character, two of them. -/
def controlDigits (c : Char) : List Char :=
  let digits := Nat.toDigits 16 c.toNat
  List.replicate (2 - digits.length) '0' ++ digits

/- The spelling of one character in a string. -/
def spell (c : Char) : List Char :=
  if c = '"' then
    ['\\', '"']
  else if c = '\\' then
    ['\\', '\\']
  else if c = '\n' then
    ['\\', 'n']
  else if c = '\r' then
    ['\\', 'r']
  else if c = '\t' then
    ['\\', 't']
  else if c.toNat = 8 then
    ['\\', 'b']
  else if c.toNat = 12 then
    ['\\', 'f']
  else if c.toNat < 32 then
    ['\\', 'u', '0', '0'] ++ controlDigits c
  else
    [c]

/- A string in double quotes. -/
def quote (s : String) : String :=
  String.ofList (['"'] ++ s.toList.flatMap spell ++ ['"'])

------------------------------------------------------------
-- One Line
------------------------------------------------------------

mutual

/- The text of a value without any blanks. -/
def compress : Json → String
| .null => "null"
| .bool b => if b then "true" else "false"
| .number n => n.render true
| .string s => quote s
| .array items => "[" ++ compressItems items ++ "]"
| .object fields => "\x7b" ++ compressFields fields ++ "\x7d"
| .unreadable => "\"\\ud800\""

/- The items of an array, separated by commas. -/
def compressItems : List Json → String
| [] => ""
| [j] => compress j
| j :: k :: rest => compress j ++ "," ++ compressItems (k :: rest)

/- The fields of an object, separated by commas. -/
def compressFields : List (String × Json) → String
| [] => ""
| [(name, j)] => quote name ++ ":" ++ compress j
| (name, j) :: f :: rest =>
    quote name ++ ":" ++ compress j ++ "," ++ compressFields (f :: rest)

end

------------------------------------------------------------
-- Indented Lines
------------------------------------------------------------

/- The start of a line at a depth of nesting. -/
def newline (depth : Nat) : String :=
  "\n" ++ String.ofList (List.replicate (2 * depth) ' ')

mutual

/-
  The text of a value with one item or field on a line.  Empty
  arrays and objects stay on theirs.
-/
def prettyAt
    (depth : Nat) : Json → String
| .array [] => "[]"
| .array (j :: rest) =>
    "[" ++ prettyItems (depth + 1) (j :: rest) ++ newline depth ++ "]"
| .object [] => "\x7b\x7d"
| .object (f :: rest) =>
    "\x7b" ++ prettyFields (depth + 1) (f :: rest) ++ newline depth ++ "\x7d"
| .null => "null"
| .bool b => if b then "true" else "false"
| .number n => n.render true
| .string s => quote s
| .unreadable => "\"\\ud800\""

/- The items of an array, each on a line of its own. -/
def prettyItems
    (depth : Nat) : List Json → String
| [] => ""
| [j] => newline depth ++ prettyAt depth j
| j :: k :: rest =>
    newline depth ++ prettyAt depth j ++ "," ++ prettyItems depth (k :: rest)

/- The fields of an object, each on a line of its own. -/
def prettyFields
    (depth : Nat) : List (String × Json) → String
| [] => ""
| [(name, j)] =>
    newline depth ++ quote name ++ ": " ++ prettyAt depth j
| (name, j) :: f :: rest =>
    newline depth ++ quote name ++ ": " ++ prettyAt depth j ++ "," ++
      prettyFields depth (f :: rest)

end

/- The text of a value spread over indented lines. -/
def pretty (j : Json) : String :=
  prettyAt 0 j

end Json

end TraversalPlanner
