/-!
# The shortest decimal that reads back

A finite double stands for every real that is nearer to it than to its neighbours. Of the decimals
in that range, `Decimal.shortest` finds one with as few digits as possible, and of those the nearest
to the double itself; of two equally near ones it takes the one with an even last digit. The search
is exact: a double is a mantissa times a power of two (`Binary`), and all comparisons are between
natural numbers.
-/

namespace RootedHeap.Decimal

/-- A positive double as `mantissa * 2 ^ exponent`. Below a power of two its neighbour is only half
as far away as above (`narrowBelow`). -/
structure Binary where
  mantissa : Nat
  exponent : Int
  narrowBelow : Bool
deriving DecidableEq, Repr

/-- The magnitude of a finite double. -/
def Binary.ofFloat (x : Float) : Binary :=
  let bits := x.toBits.toNat
  let fraction : Nat := bits % Nat.pow 2 52
  let biased : Nat := bits / Nat.pow 2 52 % Nat.pow 2 11
  if biased = 0 then ⟨fraction, -1074, false⟩
  else ⟨Nat.pow 2 52 + fraction, (biased : Int) - 1075, fraction = 0 && biased ≠ 1⟩

/-- A decimal number, `digits * 10 ^ exponent`. -/
structure Scientific where
  digits : Nat
  exponent : Int
deriving DecidableEq, Repr

/-- The reals that read back as a double: those from `low` to `high` in units of `1 / scale`, the
two ends included if `closed`. The double itself is `value` of these units. -/
structure Interval where
  low : Nat
  value : Nat
  high : Nat
  scale : Nat
  closed : Bool
deriving DecidableEq, Repr

namespace Interval

/-- The interval of a double. Its unit is a quarter of the distance to the next double, or less. -/
def ofBinary (b : Binary) : Interval :=
  let unit := Nat.pow 2 b.exponent.toNat
  let below := if b.narrowBelow then 1 else 2
  { low := (4 * b.mantissa - below) * unit
    value := 4 * b.mantissa * unit
    high := (4 * b.mantissa + 2) * unit
    scale := 4 * Nat.pow 2 (-b.exponent).toNat
    closed := b.mantissa % 2 = 0 }

/-- The numerator and denominator of `10 ^ e`. -/
def powerOfTen (e : Int) : Nat × Nat := (Nat.pow 10 e.toNat, Nat.pow 10 (-e).toNat)

/-- Whether a decimal reads back as the double. -/
def contains (i : Interval) (d : Scientific) : Bool :=
  let (num, den) := powerOfTen d.exponent
  let point := d.digits * num * i.scale
  if i.closed then i.low * den ≤ point && point ≤ i.high * den
  else i.low * den < point && point < i.high * den

/-- The least exponent of ten whose power is greater than the double. -/
def magnitude (i : Interval) : Int :=
  let up := (Nat.toDigits 10 (i.value / i.scale)).length
  if i.scale ≤ i.value then up
  else 1 - ((Nat.toDigits 10 ((i.scale - 1) / i.value)).length : Int)

/-- The decimals next to the double, below and above it, in steps of `10 ^ e`: the one that reads
back and is nearer, if any does. -/
def nearest? (i : Interval) (e : Int) : Option Scientific :=
  let (num, den) := powerOfTen e
  let step := num * i.scale
  let lower := i.value * den / step
  let excess := i.value * den % step
  let below : Scientific := ⟨lower, e⟩
  let above : Scientific := ⟨lower + 1, e⟩
  match i.contains below, i.contains above with
  | true, true =>
    if 2 * excess < step || (2 * excess = step && lower % 2 = 0) then some below else some above
  | true, false => some below
  | false, true => some above
  | false, false => none

end Interval

/-- Removes the zeros that a decimal ends with, at most `n` of them. -/
def Scientific.trim : Nat → Scientific → Scientific
  | 0, d => d
  | n + 1, d => if d.digits % 10 = 0 then trim n ⟨d.digits / 10, d.exponent + 1⟩ else d

/-- The shortest decimal that reads back as a positive double; seventeen digits always do. -/
def shortest (b : Binary) : Scientific :=
  let i := Interval.ofBinary b
  let grids := (List.range 17).map fun k : Nat => i.magnitude - (k + 1 : Int)
  (((grids.findSome? i.nearest?).getD ⟨i.value / i.scale, 0⟩)).trim 17

end RootedHeap.Decimal
