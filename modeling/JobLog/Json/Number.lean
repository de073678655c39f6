import JobLog.Json.Scan

/-!
# The value of a numeral

A numeral without fraction and exponent is an integer if a 64-bit word holds it. Every other
numeral is a double, computed from the digits that fit into 64 bits and a power of ten; digits
beyond those count for their place only. `-0` is a double, since no integer is written so.
-/

namespace JobLog.Json

/-- The value of a numeral. -/
inductive Number where
  | integer (n : Int)
  | real (x : Float)

/-- Extend a significand by digits as long as it fits into 64 bits; returns the digits left. -/
def absorb (significand : Nat) : Bytes → Nat × Bytes
  | [] => (significand, [])
  | b :: s =>
    if significand * 10 + (b.toNat - 48) < UInt64.size then absorb (significand * 10 + (b.toNat - 48)) s
    else (significand, b :: s)

/-- `x * 10 ^ exponent`, or nothing if that is beyond the doubles. -/
def scale? (x : Float) (exponent : Int) : Option Float :=
  if exponent.natAbs ≤ 308 then
    if exponent ≥ 0 then
      let scaled := x * Float.ofScientific 1 false exponent.natAbs
      if scaled.isInf then none else some scaled
    else some (x / Float.ofScientific 1 false exponent.natAbs)
  else if x == 0.0 then some x
  else if exponent ≥ 0 then none
  else scale? (x / 1e308) (exponent + 308)
termination_by exponent.natAbs
decreasing_by omega

/-- The largest exponent that is counted. -/
def exponentLimit : Nat := 2147483647

/-- The value of exponent digits, or the digits after the one that exceeds the limit. -/
def exponentValue (sum : Nat) : Bytes → Except Bytes Nat
  | [] => .ok sum
  | b :: s =>
    let sum := sum * 10 + (b.toNat - 48)
    if exponentLimit < sum then .error s else exponentValue sum s

/-- Give a double the sign of its numeral. -/
def Numeral.signed (n : Numeral) (x : Float) : Float :=
  if n.negative then -x else x

/-- The double that a numeral writes. -/
def Numeral.real (n : Numeral) : Except Failure Float :=
  let (whole, spare) := absorb 0 n.whole
  let (significand, unread) := absorb whole (n.fraction.getD [])
  let places : Int := (spare.length : Int) - ((n.fraction.getD []).length - unread.length)
  let finish (exponent : Int) : Except Failure Float :=
    match scale? (Float.ofNat significand) exponent with
    | some x => .ok (n.signed x)
    | none => refuse .numberOutOfRange n.rest
  match n.exponent with
  | none => finish places
  | some (negative, digits) =>
    match exponentValue 0 digits with
    | .ok e => finish (if negative then places - e else places + e)
    | .error digits =>
      if significand ≠ 0 ∧ negative = false then refuse .numberOutOfRange (digits ++ n.rest)
      else .ok (n.signed 0.0)

/-- The value of a numeral. -/
def Numeral.value (n : Numeral) : Except Failure Number :=
  match n.fraction, n.exponent, absorb 0 n.whole with
  | none, none, (magnitude, []) =>
    if n.negative then
      if magnitude = 0 ∨ Int64.size / 2 < magnitude then .ok (.real (-Float.ofNat magnitude))
      else .ok (.integer (-magnitude))
    else .ok (.integer magnitude)
  | _, _, _ => n.real.map .real

end JobLog.Json
