/-!
# Shortest decimals of binary numbers

A positive binary number `mantissa * 2 ^ exponent` stands for every real that
rounds to it. `shortest` gives a decimal in that interval with as few digits as
possible, and of those the nearest, with an even last digit where two are equally
near. All arithmetic is on natural numbers: both sides of a comparison are
brought over one denominator.
-/

namespace TestImpact.Decimal

/-- A decimal `digits * 10 ^ power`. -/
structure Scaled where
  digits : Nat
  power : Int
  deriving DecidableEq, Repr

/-- A positive double, `mantissa * 2 ^ exponent`, with a 53-bit mantissa. -/
structure Binary where
  mantissa : Nat
  exponent : Int
  deriving DecidableEq, Repr

namespace Binary

def ofBits (bits : UInt64) : Binary :=
  let fraction := (bits &&& 0xFFFFFFFFFFFFF).toNat
  let biased := ((bits >>> 52) &&& 0x7FF).toNat
  if biased = 0 then ⟨fraction, -1074⟩
  else ⟨fraction + Nat.pow 2 52, (biased : Int) - 1075⟩

def quarters (value : Binary) : Nat := 4 * value.mantissa

/-- Lower end of the interval of reals that round to the value, in quarters.
Below a power of two the neighbour is half as far away. -/
def lowerQuarters (value : Binary) : Nat :=
  if value.mantissa = Nat.pow 2 52 ∧ value.exponent ≠ -1074 then value.quarters - 1
  else value.quarters - 2

/-- Upper end of the interval of reals that round to the value, in quarters. -/
def upperQuarters (value : Binary) : Nat := value.quarters + 2

/-- Numbers `(grid, unit)` with `10 ^ power / (2 ^ (exponent - 2)) = grid / unit`. -/
def ratio (value : Binary) (power : Int) : Nat × Nat :=
  (Nat.pow 10 power.toNat * Nat.pow 2 (2 - value.exponent).toNat,
   Nat.pow 10 (-power).toNat * Nat.pow 2 (value.exponent - 2).toNat)

def floorAt (value : Binary) (power : Int) : Nat :=
  let (grid, unit) := value.ratio power
  value.quarters * unit / grid

/-- Whether `count * 10 ^ power` rounds to the value; the ends of the interval
belong to an even mantissa. -/
def rounds (value : Binary) (power : Int) (count : Nat) : Bool :=
  let (grid, unit) := value.ratio power
  let point := count * grid
  let lower := value.lowerQuarters * unit
  let upper := value.upperQuarters * unit
  if value.mantissa % 2 = 0 then lower ≤ point && point ≤ upper
  else lower < point && point < upper

/-- Whether the point above the value is nearer to it than the point below,
on the grid of `10 ^ power`. Halfway between, the even point counts as nearer. -/
def aboveNearer (value : Binary) (power : Int) : Bool :=
  let (grid, unit) := value.ratio power
  let below := value.floorAt power
  let toAbove := (below + 1) * grid - value.quarters * unit
  let toBelow := value.quarters * unit - below * grid
  toAbove < toBelow || (toAbove = toBelow && below % 2 = 1)

def candidate? (value : Binary) (power : Int) : Option Scaled :=
  let below := value.floorAt power
  match value.rounds power below, value.rounds power (below + 1) with
  | true, true => some ⟨if value.aboveNearer power then below + 1 else below, power⟩
  | true, false => some ⟨below, power⟩
  | false, true => some ⟨below + 1, power⟩
  | false, false => none

def magnitude (value : Binary) : Int :=
  ((List.range 634).findSome? fun (step : Nat) =>
    let power : Int := 309 - step
    if value.floorAt power ≠ 0 then some power else none).getD (-324)

end Binary

def Scaled.trim : (fuel : Nat) → Scaled → Scaled
  | 0, decimal => decimal
  | fuel + 1, ⟨digits, power⟩ =>
      if digits ≠ 0 ∧ digits % 10 = 0 then Scaled.trim fuel ⟨digits / 10, power + 1⟩
      else ⟨digits, power⟩

/-- The decimal with the fewest digits that rounds to the value. Seventeen
digits always suffice. -/
def shortest (value : Binary) : Scaled :=
  let leading := value.magnitude
  let found := (List.range 17).findSome? fun (extra : Nat) =>
    value.candidate? (leading - extra)
  Scaled.trim 20 (found.getD ⟨value.floorAt (leading - 16), leading - 16⟩)

end TestImpact.Decimal
