import RootedHeap.Decimal.Shortest

/-!
# Numbers in JSON

A number is a 64-bit word, a negative 64-bit integer, or else a double. The double of a literal is
not always the nearest one: the significant digits that fit a word are taken as a double, and
multiplied with or divided by a power of ten, each of which rounds (`scale?`). A double is described
by the shortest digits that read back (`floatText`).
-/

namespace RootedHeap.Json

/-- The value of a number. -/
inductive Number where
  | unsigned (value : UInt64)
  | negative (value : Int64)
  | float (value : Float)
deriving Repr

/-- The greatest power of ten that is a double. -/
def maxPower : Nat := 308

/-- The double nearest to a power of ten. -/
def powerOfTen (n : Nat) : Float := Float.ofScientific 1 false n

/-- A double times a power of ten; none if that is too large for a double. A very small power is
taken in steps. -/
def scale? (x : Float) (exponent : Int) : Option Float :=
  if exponent < -(maxPower : Int) then
    if x == 0.0 then some x else scale? (x / powerOfTen maxPower) (exponent + maxPower)
  else if exponent < 0 then
    some (x / powerOfTen exponent.natAbs)
  else if exponent ≤ maxPower then
    let product := x * powerOfTen exponent.natAbs
    if product.isInf then none else some product
  else if x == 0.0 then some x
  else none
termination_by exponent.natAbs
decreasing_by simp only [maxPower] at *; omega

/-- How doubles are laid out: the least and the greatest exponent of the first digit for which the
point stands among the digits, or zeros. -/
def positionalExponents : Int × Int := (-5, 15)

/-- Digits and the exponent of the first of them, laid out with a point or with an exponent. -/
def layout (digits : List Char) (exponent : Int) : List Char :=
  if positionalExponents.1 ≤ exponent ∧ exponent ≤ positionalExponents.2 then
    if exponent < 0 then
      ['0', '.'] ++ List.replicate (exponent.natAbs - 1) '0' ++ digits
    else
      let whole := exponent.toNat + 1
      let fraction := digits.drop whole
      digits.take whole ++ List.replicate (whole - digits.length) '0' ++
        '.' :: (if fraction.isEmpty then ['0'] else fraction)
  else
    let fraction := digits.drop 1
    digits.take 1 ++ (if fraction.isEmpty then [] else '.' :: fraction) ++
      'e' :: (if exponent < 0 then '-' else '+') :: Nat.toDigits 10 exponent.natAbs

/-- A finite double in decimal, with a sign if it is negative, zero included. -/
def floatText (x : Float) : String :=
  let sign := if x.toBits.toNat < UInt64.size / 2 then [] else ['-']
  let decimal := Decimal.shortest (Decimal.Binary.ofFloat x)
  let digits := if x == 0.0 then ['0'] else Nat.toDigits 10 decimal.digits
  let exponent : Int := if x == 0.0 then 0 else decimal.exponent + digits.length - 1
  String.ofList (sign ++ layout digits exponent)

namespace Number

/-- How a number is described. -/
def description : Number → String
  | unsigned value => "integer `" ++ toString value.toNat ++ "`"
  | negative value => "integer `" ++ toString value.toInt ++ "`"
  | float value => "floating point `" ++ floatText value ++ "`"

end Number

end RootedHeap.Json
