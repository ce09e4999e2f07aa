import TraversalPlanner.Number.Numeral
import TraversalPlanner.Number.Shortest

/-
  This file gives numbers their written forms.  A style fixes
  which sizes are written out positionally, whether a whole
  number keeps a fraction digit, how exponents look and which
  way ties go.

  Key definitions include:
    * `NumberStyle`
    * `NumberStyle.literal`
    * `NumberStyle.plain`
    * `NumberStyle.document`
    * `Binary64.render`
    * `Binary64.renderFixed`
-/

namespace TraversalPlanner

------------------------------------------------------------
-- Styles
------------------------------------------------------------

/- How a number is written. -/
structure NumberStyle where
  /- the leading exponents of ten that are written positionally -/
  isPositional : Int → Bool
  /- a whole number keeps the fraction `.0` -/
  keepsFraction : Bool
  /- a positive exponent shows its sign -/
  plus : Bool
  /- which of two equally near shortest decimals is taken -/
  tie : Tie

namespace NumberStyle

/-
  Literals in patterns and answers: positional from `0.0001` up
  to below `1e16`, and never to be mistaken for an integer.
-/
def literal : NumberStyle where
  isPositional := fun e => decide (-4 ≤ e ∧ e < 16)
  keepsFraction := true
  plus := false
  tie := .up

/- Numbers in messages: always positional. -/
def plain : NumberStyle where
  isPositional := fun _ => true
  keepsFraction := false
  plus := false
  tie := .up

/- Numbers in documents: positional from `0.00001` up to below `1e16`. -/
def document : NumberStyle where
  isPositional := fun e => decide (-5 ≤ e ∧ e < 16)
  keepsFraction := true
  plus := true
  tie := .even

end NumberStyle

------------------------------------------------------------
-- Positional and Scientific Numerals
------------------------------------------------------------

namespace DecimalPoint

/-
  The positional numeral of a decimal number: the last
  `-exponent` digits of the coefficient stand behind the point.
-/
def positional
    (negative : Bool)
    (keepsFraction : Bool)
    (p : DecimalPoint) : Numeral :=
  if p.exponent < 0 then
    let places := p.exponent.natAbs
    let scale := tenTo places
    let behind := Digit.ofNat (p.coefficient % scale)
    ⟨negative, p.coefficient / scale,
      List.replicate (places - behind.length) 0 ++ behind, none⟩
  else
    ⟨negative, p.coefficient * tenTo p.exponent.natAbs,
      if keepsFraction then [0] else [], none⟩

/-
  The scientific numeral of a decimal number: one digit stands
  before the point.
-/
def scientific
    (negative : Bool)
    (p : DecimalPoint) : Numeral :=
  match Digit.ofNat p.coefficient with
  | [] => ⟨negative, 0, [], some p.exponent⟩
  | d :: ds => ⟨negative, d.val, ds, some (p.exponent + ds.length)⟩

end DecimalPoint

------------------------------------------------------------
-- Written Numbers
------------------------------------------------------------

namespace Binary64

/- The numeral of a finite number in a style. -/
def toNumeral
    (style : NumberStyle)
    (x : Binary64) : Numeral :=
  if x.isZero then
    ⟨x.isNegative, 0, if style.keepsFraction then [0] else [], none⟩
  else
    let p := x.shortest style.tie
    let lead := p.exponent + ((Digit.ofNat p.coefficient).length : Int) - 1
    if style.isPositional lead then
      p.positional x.isNegative style.keepsFraction
    else
      p.scientific x.isNegative

/- The text of a word that is not a finite number. -/
def renderNonfinite (x : Binary64) : String :=
  if x.isNaN then
    "NaN"
  else if x.isNegative then
    "-inf"
  else
    "inf"

/- The text of a number in a style. -/
def render
    (style : NumberStyle)
    (x : Binary64) : String :=
  if x.isFinite then
    (x.toNumeral style).render style.plus
  else
    x.renderNonfinite

/-
  The text of a number rounded to two places; a tie goes to the
  even last digit.
-/
def renderFixed (x : Binary64) : String :=
  if x.isFinite then
    let hundredths := divNearest (x.quanta * 100) quantaPerOne
    let behind := Digit.ofNat (hundredths % 100)
    let numeral : Numeral :=
      ⟨x.isNegative, hundredths / 100,
        List.replicate (2 - behind.length) 0 ++ behind, none⟩
    numeral.render false
  else
    x.renderNonfinite

end Binary64

end TraversalPlanner
