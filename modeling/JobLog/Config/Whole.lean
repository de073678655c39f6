/-!
# Whole numbers in settings

A setting that is a number is written in decimal digits, with a plus sign in front if one likes.
Texts are read from the left, so that a number that grows too large is noticed before a later
character that is no digit.
-/

namespace JobLog.Config

/-- Why a text is no number of the wanted size. -/
inductive WholeError where
  | empty
  | notDigit
  | tooLarge
  deriving DecidableEq, Repr

def WholeError.message : WholeError → String
  | .empty => "cannot parse integer from empty string"
  | .notDigit => "invalid digit found in string"
  | .tooLarge => "number too large to fit in target type"

/-- The value of a decimal digit. -/
def digit? (c : Char) : Option Nat :=
  if '0' ≤ c ∧ c ≤ '9' then some (c.toNat - 48) else none

/-- Read digits after the ones whose value is `value`; nothing above `max` is accepted. -/
def digits (max value : Nat) : List Char → Except WholeError Nat
  | [] => .ok value
  | c :: cs =>
    match digit? c with
    | none => .error .notDigit
    | some d => if max < value * 10 + d then .error .tooLarge else digits max (value * 10 + d) cs

/-- Read a number of at most `max`. -/
def whole (max : Nat) (s : List Char) : Except WholeError Nat :=
  match s with
  | [] => .error .empty
  | ['+'] => .error .notDigit
  | '+' :: cs => digits max 0 cs
  | cs => digits max 0 cs

end JobLog.Config
