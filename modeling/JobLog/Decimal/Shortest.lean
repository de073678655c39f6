/-!
# Shortest decimal text of a double

A finite double is `m * 2^q` for natural `m`. The decimals that read back as it form an
interval between the midpoints to its neighbours, whose ends belong to it exactly if `m` is even.
`shortest` finds the fewest significant digits that fall into the interval and, among those, the
decimal nearest to the double. `text` lays the digits out.
-/

namespace JobLog.Decimal

/-- A positive double without its sign: `mantissa * 2 ^ exponent`. -/
structure Binary where
  mantissa : Nat
  exponent : Int
  /-- Whether the next smaller double lies half as far away as the next larger one. -/
  narrowBelow : Bool

/-- The decimal `digits * 10 ^ exponent`. -/
structure Digits where
  digits : Nat
  exponent : Int
  deriving DecidableEq, Repr

/-- Decode the bits of a finite double, the sign left out. -/
def Binary.ofBits (bits : UInt64) : Binary :=
  let fraction := (bits &&& 0xFFFFFFFFFFFFF).toNat
  let field := ((bits >>> 52) &&& 0x7FF).toNat
  if field = 0 then ⟨fraction, -1074, false⟩
  else ⟨fraction + 1 <<< 52, (field : Int) - 1075, fraction = 0 && 1 < field⟩

/-- `numerator / denominator` of a double, scaled by four so that the midpoints are whole. -/
def Binary.scaled (x : Binary) : Nat × Nat :=
  if x.exponent ≥ 0 then ((4 * x.mantissa) <<< x.exponent.toNat, 4)
  else (4 * x.mantissa, 4 <<< (-x.exponent).toNat)

/-- Whether `digits * 10 ^ exponent` reads back as `x`. -/
def Binary.reads (x : Binary) (d : Digits) : Bool :=
  let (_, den) := x.scaled
  let unit := if x.exponent ≥ 0 then 1 <<< x.exponent.toNat else 1
  let low := 4 * x.mantissa * unit - (if x.narrowBelow then 1 else 2) * unit
  let high := 4 * x.mantissa * unit + 2 * unit
  let value := if d.exponent ≥ 0 then d.digits * Nat.pow 10 d.exponent.toNat * den else d.digits * den
  let scale := if d.exponent ≥ 0 then 1 else Nat.pow 10 (-d.exponent).toNat
  if x.mantissa % 2 = 0 then low * scale ≤ value && value ≤ high * scale
  else low * scale < value && value < high * scale

/-- The number of decimal digits of a natural number; zero has none. -/
def digitCount (n : Nat) : Nat :=
  if n = 0 then 0 else digitCount (n / 10) + 1
termination_by n

/-- The decimal exponent `e` with `10 ^ (e - 1) ≤ x < 10 ^ e`, for positive `num / den`. -/
def magnitude (num den : Nat) : Int :=
  let guess : Int := (digitCount num : Int) - digitCount den
  -- `guess` is the exponent or one more than it.
  let atLeast : Bool :=
    if guess ≥ 0 then num ≥ den * Nat.pow 10 guess.toNat else num * Nat.pow 10 (-guess).toNat ≥ den
  if atLeast then guess + 1 else guess

/-- The two neighbours of `num / den` on the grid of multiples of `10 ^ exponent`, with the
doubled distance of the lower one as a numerator over the doubled grid unit. -/
def neighbours (num den : Nat) (exponent : Int) : Nat × Nat × Nat :=
  let n := if exponent ≥ 0 then num else num * Nat.pow 10 (-exponent).toNat
  let d := if exponent ≥ 0 then den * Nat.pow 10 exponent.toNat else den
  (n / d, 2 * (n % d), d)

/-- The nearest of the two neighbours that read back, a tie going to the even one. -/
def candidate (x : Binary) (exponent : Int) : Option Digits :=
  let (num, den) := x.scaled
  let (low, twice, unit) := neighbours num den exponent
  let below : Digits := ⟨low, exponent⟩
  let above : Digits := ⟨low + 1, exponent⟩
  match x.reads below && low > 0, x.reads above with
  | true, true =>
    if twice < unit || (twice = unit && low % 2 = 0) then some below else some above
  | true, false => some below
  | false, true => some above
  | false, false => none

/-- Try grids from coarse to fine: `fuel` more grids, the next of unit `10 ^ exponent`. -/
def refine (x : Binary) : Nat → Int → Digits
  | 0, exponent => ⟨0, exponent⟩
  | fuel + 1, exponent =>
    match candidate x exponent with
    | some d => d
    | none => refine x fuel (exponent - 1)

/-- The fewest digits that read back as a positive double, the nearest such decimal. -/
def shortest (x : Binary) : Digits :=
  let (num, den) := x.scaled
  refine x 18 (magnitude num den - 1)

/-- Drop the zeros at the end of the digits. -/
def Digits.trim (d : Digits) : Digits :=
  if h : d.digits = 0 then ⟨0, 0⟩
  else if d.digits % 10 = 0 then Digits.trim ⟨d.digits / 10, d.exponent + 1⟩ else d
termination_by d.digits
decreasing_by exact Nat.div_lt_self (Nat.pos_of_ne_zero h) (by decide)

/-- The layout of a float inside a message: positional notation from `10 ^ least` up to, not
including, `10 ^ bound`. -/
structure Layout where
  least : Int
  bound : Int

/-- Floats below `1e-5` and from `1e16` on are written with an exponent. -/
def plain : Layout := ⟨-5, 16⟩

/-- An exponent always has its sign, and no zeros in front. -/
def exponentText (e : Int) : String :=
  (if e < 0 then "-" else "+") ++ toString e.natAbs

/-- Lay out positive digits: `12.5`, `0.001`, `100.0`, `1e+21` or `1.25e+21`. -/
def Layout.digits (layout : Layout) (d : Digits) : String :=
  let d := d.trim
  let body := toString d.digits
  let count : Int := body.length
  let point := count + d.exponent
  if layout.least < point ∧ point ≤ layout.bound then
    if d.exponent ≥ 0 then body ++ String.ofList (List.replicate d.exponent.toNat '0') ++ ".0"
    else if point > 0 then
      String.ofList (body.toList.take point.toNat) ++ "." ++
        String.ofList (body.toList.drop point.toNat)
    else "0." ++ String.ofList (List.replicate (-point).toNat '0') ++ body
  else
    let fraction := String.ofList (body.toList.drop 1)
    String.ofList (body.toList.take 1) ++ (if fraction.isEmpty then "" else "." ++ fraction) ++
      "e" ++ exponentText (point - 1)

/-- The shortest text of a double, with its sign; `0.0` and `-0.0` keep theirs. -/
def Layout.text (layout : Layout) (x : Float) : String :=
  let bits := x.toBits
  let sign := if bits >>> 63 = 1 then "-" else ""
  if x.isNaN then "NaN"
  else if x.isInf then sign ++ "inf"
  else
    let binary := Binary.ofBits bits
    if binary.mantissa = 0 then sign ++ "0.0"
    else sign ++ layout.digits (shortest binary)

end JobLog.Decimal
