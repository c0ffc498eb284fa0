/-!
# `AttrTemplates.Number.Shortest`: the shortest decimal that reads back

A float is written with the fewest digits that are read back as the same float, and of those
with the nearest ones. Everything is decided in exact arithmetic on natural numbers: a finite
float is `mantissa · 2 ^ exponent`, the reals that round to it form an interval whose ends
belong to it when the mantissa is even, and a grid of `k` significant digits has a point in
that interval exactly when one of the two grid points around the float lies in it.

`FloatLayout` holds the decisions of the written form.
-/

set_option autoImplicit false

namespace AttrTemplates.Number

/-- A finite, non-negative float as `mantissa · 2 ^ exponent`; `halved` tells that the gap
below it is half the gap above it. -/
structure Binary where
  mantissa : Nat
  exponent : Int
  halved : Bool

/-- A decimal `0.d₁d₂… · 10 ^ point` with the digits `d₁d₂…` of `digits`. -/
structure Decimal where
  digits : Nat
  point : Int

/-- The magnitude of a float that is neither infinite nor undefined. -/
def Binary.ofFloat (x : Float) : Binary :=
  let bits : Nat := x.toBits.toNat
  let exponent : Nat := bits / Nat.pow 2 52 % Nat.pow 2 11
  let fraction : Nat := bits % Nat.pow 2 52
  if exponent = 0 then ⟨fraction, -1074, false⟩
  else ⟨fraction + Nat.pow 2 52, (exponent : Int) - 1075, fraction = 0 && exponent > 1⟩

/-- A fraction of naturals with the power of two of `exponent` multiplied in. -/
def scaleByPower (n : Nat) (exponent : Int) : Nat × Nat :=
  if exponent < 0 then (n, Nat.pow 2 exponent.natAbs) else (n * Nat.pow 2 exponent.natAbs, 1)

/-- The number of times a fraction below one has to be multiplied by ten to reach one. -/
def leadingZeros : (fuel n d : Nat) → Nat
  | 0, _, _ => 0
  | fuel + 1, n, d => if d ≤ n then 0 else leadingZeros fuel (n * 10) d + 1

/-- The `point` for which `n / d` lies between `10 ^ (point - 1)` and `10 ^ point`. -/
def pointOf (n d : Nat) : Int :=
  if d ≤ n then ((Nat.toDigits 10 (n / d)).length : Int)
  else 1 - (leadingZeros 400 n d : Int)

/-- The point of the `k`-digit grid that reads back as `b` and lies nearest to it, if there is
one. Distances are compared in quarters of the float's gap. -/
def Binary.onGrid (b : Binary) (point : Int) (k : Nat) : Option Nat :=
  let (n, d) := scaleByPower (4 * b.mantissa) (b.exponent - 2)
  let (low, _) := scaleByPower (4 * b.mantissa - if b.halved then 1 else 2) (b.exponent - 2)
  let (high, _) := scaleByPower (4 * b.mantissa + 2) (b.exponent - 2)
  let step : Int := point - k
  -- Over the common denominator `d`, a grid point `g` stands for `g * up / down`.
  let up := if step < 0 then d else d * Nat.pow 10 step.natAbs
  let down := if step < 0 then Nat.pow 10 step.natAbs else 1
  let fits (g : Nat) : Bool :=
    if b.mantissa % 2 = 0 then low * down ≤ g * up && g * up ≤ high * down
    else low * down < g * up && g * up < high * down
  let below := n * down / up
  let above := below + 1
  let nearerAbove : Bool :=
    let toBelow := n * down - below * up
    let toAbove := above * up - n * down
    toAbove < toBelow || (toAbove = toBelow && above % 2 = 0)
  match fits below, fits above with
  | true, true => some (if nearerAbove then above else below)
  | true, false => some below
  | false, true => some above
  | false, false => none

/-- The shortest decimal, trying grids of `k` digits and more. -/
def Binary.shortestFrom (b : Binary) (point : Int) : (fuel k : Nat) → Decimal
  | 0, k => ⟨b.mantissa, k⟩
  | fuel + 1, k =>
    match b.onGrid point k with
    | some g =>
      -- A grid point may be the next power of ten, one digit longer than the grid.
      ⟨g, point + ((Nat.toDigits 10 g).length - k : Int)⟩
    | none => b.shortestFrom point fuel (k + 1)

/-- The shortest decimal that reads back as a positive finite float. -/
def Binary.shortest (b : Binary) : Decimal :=
  let (n, d) := scaleByPower b.mantissa b.exponent
  b.shortestFrom (pointOf n d) 17 1

/-- How floats are written. -/
structure FloatLayout where
  /-- A decimal is written without exponent when its `point` is above this, … -/
  positionalAbove : Int
  /-- … and at most this. -/
  positionalUpTo : Int
  /-- The least number of digits of an exponent. -/
  exponentDigits : Nat
  /-- The texts of the values that are no numbers. -/
  nan : String
  infinity : String

/-- Values from `0.0001` to below `1e16` are written without exponent; an exponent has a sign
and at least two digits. -/
def FloatLayout.plain : FloatLayout := ⟨-4, 16, 2, "nan", "inf"⟩

/-- A list of digits without the zeros at its end. -/
def dropTrailingZeros (cs : List Char) : List Char :=
  (cs.reverse.dropWhile (· == '0')).reverse

/-- The text of a positive decimal. A text without exponent has digits on both sides of its
point. -/
def Decimal.text (layout : FloatLayout) (d : Decimal) : List Char :=
  let digits := dropTrailingZeros (Nat.toDigits 10 d.digits)
  let places : Int := digits.length
  if layout.positionalAbove < d.point ∧ d.point ≤ layout.positionalUpTo then
    if d.point ≤ 0 then '0' :: '.' :: List.replicate d.point.natAbs '0' ++ digits
    else if places ≤ d.point then
      digits ++ List.replicate (d.point - places).natAbs '0' ++ ['.', '0']
    else digits.take d.point.natAbs ++ '.' :: digits.drop d.point.natAbs
  else
    let exponent := d.point - 1
    let exponentText := Nat.toDigits 10 exponent.natAbs
    let head := match digits with
      | [] => []
      | [c] => [c]
      | c :: cs => c :: '.' :: cs
    head ++ 'e' :: (if exponent < 0 then '-' else '+')
      :: List.replicate (layout.exponentDigits - exponentText.length) '0' ++ exponentText

/-- The text of a float. -/
def floatText (x : Float) (layout : FloatLayout := FloatLayout.plain) : String :=
  let negative := x.toBits.toNat / Nat.pow 2 63 = 1
  let sign (s : String) : String := if negative then "-" ++ s else s
  if x.isNaN then layout.nan
  else if x.isInf then sign layout.infinity
  else
    let b := Binary.ofFloat x
    if b.mantissa = 0 then sign "0.0"
    else sign (String.ofList (b.shortest.text layout))

end AttrTemplates.Number
