import JobLog.Decimal.Shortest

/-!
# A double with six significant digits

`significant` rounds a double to six significant digits, an exact tie going to the even neighbour,
and writes it as `d.ddddde±n` without padding or a plus sign, such as `5.05000e-2`.
-/

namespace JobLog.Decimal

/-- Round `num / den` to the nearest whole number, a tie going to the even one. -/
def roundEven (num den : Nat) : Nat :=
  let low := num / den
  let twice := 2 * (num % den)
  if twice < den then low
  else if den < twice then low + 1
  else if low % 2 = 0 then low else low + 1

/-- Six digits `d.ddddd` and the decimal exponent of the first. -/
def sixDigits (x : Binary) : Nat × Int :=
  let (num, den) := x.scaled
  let lead := magnitude num den - 1
  let unit := lead - 5
  let digits :=
    if unit ≥ 0 then roundEven num (den * Nat.pow 10 unit.toNat)
    else roundEven (num * Nat.pow 10 (-unit).toNat) den
  if digits = 1000000 then (100000, lead + 1) else (digits, lead)

/-- A double as `d.ddddde±n`, zero as `0.00000e0`. -/
def significant (x : Float) : String :=
  let bits := x.toBits
  let sign := if bits >>> 63 = 1 then "-" else ""
  if x.isNaN then "NaN"
  else if x.isInf then sign ++ "inf"
  else
    let binary := Binary.ofBits bits
    if binary.mantissa = 0 then sign ++ "0.00000e0"
    else
      let (digits, exponent) := sixDigits binary
      let body := (toString digits).toList
      sign ++ String.ofList (body.take 1) ++ "." ++ String.ofList (body.drop 1) ++ "e" ++
        toString exponent

end JobLog.Decimal
