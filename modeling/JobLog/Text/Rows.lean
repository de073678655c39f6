/-!
# Tables of characters

A table is an array whose entries stand for rows of code points in ascending order; `lookup?` looks a
character up by bisection. A class of characters is a table of closed ranges, and `within` tells
whether a character is in it.

A table that gives something for single characters is written as text, one entry after the other. An
entry is a code point, a colon, and numbers between points: `BD:31.2044.32`. It can stand for a whole
row of characters, `C0-D6:E0`, or for every second one of a row, `100-12E/2:101`; all numbers are
hexadecimal.
-/

namespace JobLog.Text

/-! ## Looking up -/

/-- Bisect a table between `low` and `high`, at most `fuel` times, for the entry that a code point is
in; `ends` are the first and the last code point of an entry. -/
def bisect {α : Type} (ends : α → Nat × Nat) (table : Array α) (point : Nat) :
    Nat → Nat → Nat → Option α
  | 0, _, _ => none
  | fuel + 1, low, high =>
    if low < high then
      let middle := (low + high) / 2
      match table[middle]? with
      | none => none
      | some entry =>
        if point < (ends entry).1 then bisect ends table point fuel low middle
        else if (ends entry).2 < point then bisect ends table point fuel (middle + 1) high
        else some entry
    else none

/-- The entry of a table that a character is in. -/
def lookup? {α : Type} (ends : α → Nat × Nat) (table : Array α) (c : Char) : Option α :=
  bisect ends table c.toNat (table.size + 1) 0 table.size

/-- Whether a character is in one of the ranges. -/
def within (ranges : Array (Nat × Nat)) (c : Char) : Bool :=
  (lookup? id ranges c).isSome

/-! ## Written tables -/

/-- The value of a hexadecimal digit in either case. -/
def hexDigit? (c : Char) : Option Nat :=
  if '0' ≤ c ∧ c ≤ '9' then some (c.toNat - 48)
  else if 'a' ≤ c ∧ c ≤ 'f' then some (c.toNat - 87)
  else if 'A' ≤ c ∧ c ≤ 'F' then some (c.toNat - 55)
  else none

/-- An entry of a table: the first and the last code point, the distance between two of them, and
what is given for the first. -/
structure Row where
  first : Nat
  last : Nat
  step : Nat
  values : List Nat
  deriving DecidableEq, Repr

namespace Row

/-- The value of hexadecimal digits. -/
def number (s : List Char) : Nat :=
  s.foldl (fun n c => 16 * n + (hexDigit? c).getD 0) 0

/-- Read an entry. -/
def parse (s : List Char) : Row :=
  let key := s.takeWhile (· ≠ ':')
  let values := ((s.drop (key.length + 1)).splitOn '.').map number
  let range := key.takeWhile (· ≠ '/')
  let first := range.takeWhile (· ≠ '-')
  let last := range.drop (first.length + 1)
  ⟨number first, number (if last = [] then first else last),
    max 1 (number (key.drop (range.length + 1))), values⟩

/-- What is given for a character of the row, which is as far from what is given for the first as
the characters are from each other. -/
def images (row : Row) (point : Nat) : List Char :=
  row.values.map fun value => Char.ofNat (value + (point - row.first))

end Row

/-- Read a table. -/
def rows (text : List String) : Array Row :=
  (text.flatMap fun line => ((line.toList.splitOn ' ').map Row.parse)).toArray

/-- The row of a table that a character is in, if it stands for this one. -/
def row? (table : Array Row) (c : Char) : Option Row :=
  (lookup? (fun row => (row.first, row.last)) table c).filter fun row =>
    (c.toNat - row.first) % row.step = 0

end JobLog.Text
