/-!
# The shortest decimal of a binary number

A floating point number stands for all reals that round to it.  Of the decimals among them,
the one with the fewest digits is written: powers of ten are tried as grids from coarse to
fine, and the first grid with a point in the interval decides; of two such points the
nearer one is taken, and the even one if both are as near.

Everything is exact arithmetic on natural numbers.  A grid point `c · 10 ^ p` and a bound
`x · 2 ^ e` are compared after both are multiplied by the powers that would stand below a
fraction bar.

## Main definitions

* `Binary`: a significand with a power of two, and the interval of reals that round to it
* `Decimal`: digits with a power of ten
* `Binary.shortest`: the decimal that is written
-/

namespace LogicAnalyzer

/-- The number `significand · 2 ^ exponent`. -/
structure Binary where
  /-- The digits, as a number. -/
  significand : Nat
  exponent : Int
  /-- Whether the next smaller number is only half as far away as the next larger one. -/
  closeBelow : Bool := false
deriving DecidableEq, Repr

/-- The number `digits · 10 ^ exponent`. -/
structure Decimal where
  /-- The digits, as a number. -/
  digits : Nat
  exponent : Int
deriving DecidableEq, Repr

namespace Binary

/-- The number in quarters of its last place. -/
def quarters (b : Binary) : Nat := 4 * b.significand

/-- The lower end of the interval, in quarters of the last place. -/
def lower (b : Binary) : Nat := b.quarters - if b.closeBelow then 1 else 2

/-- The upper end of the interval, in quarters of the last place. -/
def upper (b : Binary) : Nat := b.quarters + 2

/-- What a count of quarters is multiplied by to be compared on the grid `10 ^ p`. -/
def scale (b : Binary) (p : Int) : Nat := Nat.pow 2 (b.exponent - 2).toNat * Nat.pow 10 (-p).toNat

/-- The distance of neighbouring points on the grid `10 ^ p`, in the same measure. -/
def spacing (b : Binary) (p : Int) : Nat := Nat.pow 2 (2 - b.exponent).toNat * Nat.pow 10 p.toNat

/-- Whether the grid point with number `c` rounds to the number.  The ends of the interval do
if the significand is even. -/
def reads (b : Binary) (p : Int) (c : Nat) : Bool :=
  let point := c * b.spacing p
  let low := b.lower * b.scale p
  let high := b.upper * b.scale p
  if b.significand % 2 = 0 then decide (low ≤ point) && decide (point ≤ high)
  else decide (low < point) && decide (point < high)

/-- The point of the grid `10 ^ p` that is written, if the grid has one in the interval.  Only
the two neighbours of the number need to be tried. -/
def gridPoint? (b : Binary) (p : Int) : Option Nat :=
  let exact := b.quarters * b.scale p
  let spacing := b.spacing p
  let below := exact / spacing
  let above := below + 1
  match b.reads p below, b.reads p above with
  | false, false => none
  | true, false => some below
  | false, true => some above
  | true, true =>
    let down := exact - below * spacing
    let up := above * spacing - exact
    if down < up ∨ (down = up ∧ below % 2 = 0) then some below else some above

/-- A power of ten above the interval: the grid is too coarse to have a point in it. -/
def coarsest (b : Binary) : Int := (b.significand.log2 + 1 + b.exponent) * 30103 / 100000 + 2

/-- How many grids are tried.  Seventeen digits always suffice. -/
def attempts : Nat := 24

/-- **The decimal with the fewest digits** that rounds to the number. -/
def shortest (b : Binary) : Decimal :=
  let found := (List.range attempts).findSome? fun (step : Nat) =>
    let p := b.coarsest - step
    (b.gridPoint? p).map fun c => (⟨c, p⟩ : Decimal)
  found.getD ⟨0, 0⟩

/-- The number with given bits of a double: 52 bits of significand, above them 11 bits of
exponent.  The sign is left out. -/
def ofDoubleBits (bits : UInt64) : Binary :=
  let fraction : Nat := bits.toNat % Nat.pow 2 52
  let biased : Nat := bits.toNat / Nat.pow 2 52 % Nat.pow 2 11
  if biased = 0 then ⟨fraction, -1074, false⟩
  else ⟨Nat.pow 2 52 + fraction, biased - 1075, fraction == 0 && decide (1 < biased)⟩

end Binary

/-- How decimals are written. -/
structure DecimalLayout where
  /-- A number is written with an exponent if its point would stand so many digits before the
  first one, or more; given as a negative count. -/
  lowest : Int
  /-- A number is written with an exponent if its point would stand behind more digits. -/
  highest : Int
  /-- What stands in front of the exponent. -/
  mark : Char
deriving DecidableEq, Repr

namespace DecimalLayout

/-- Digits with the point behind the first `point` of them.  A digit stands on both sides. -/
def positional (digits : List Char) (point : Int) : List Char :=
  if point ≤ 0 then ['0', '.'] ++ List.replicate (-point).toNat '0' ++ digits
  else if digits.length ≤ point.toNat then
    digits ++ List.replicate (point.toNat - digits.length) '0' ++ ['.', '0']
  else digits.take point.toNat ++ ['.'] ++ digits.drop point.toNat

/-- Digits with the point behind the first one, and the exponent that puts it there. -/
def scientific (layout : DecimalLayout) (digits : List Char) (point : Int) : List Char :=
  let exponent := (toString (point - 1)).toList
  match digits with
  | [] => []
  | [digit] => digit :: layout.mark :: exponent
  | first :: rest => first :: '.' :: rest ++ layout.mark :: exponent

/-- **The text of a decimal.** -/
def render (layout : DecimalLayout) (d : Decimal) : String :=
  let digits := Nat.toDigits 10 d.digits
  let point := digits.length + d.exponent
  String.ofList <|
    if layout.lowest < point ∧ point ≤ layout.highest then positional digits point
    else layout.scientific digits point

/-- The text of a double: the shortest decimal that reads back, with its sign. -/
def renderDouble (layout : DecimalLayout) (value : Float) : String :=
  if value.isNaN then "NaN"
  else
    let sign := if value.toBits.toNat / Nat.pow 2 63 = 1 then "-" else ""
    if value.isInf then sign ++ "inf"
    else if value == 0 then sign ++ "0.0"
    else sign ++ layout.render (Binary.ofDoubleBits value.toBits).shortest

end DecimalLayout

end LogicAnalyzer
