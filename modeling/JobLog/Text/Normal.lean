import JobLog.Text.Canonical

/-!
# The normal form of texts

A text can be written in several ways that mean the same. `normal` is the form in which characters
are put together where there is one character for several, the form C of Unicode: characters are
taken apart, marks are brought into the order of their classes, and what belongs together is put
together again.
-/

namespace JobLog.Text

/-- The class of a mark; 0 for other characters. -/
def combiningClass (c : Char) : Nat :=
  if c.toNat < 0x300 then 0 else ((row? combining c).bind (·.values.head?)).getD 0

/-! ## Taking apart -/

/-- The letters of a Hangul syllable, if a character is one. -/
def hangulLetters? (c : Char) : Option (List Char) :=
  let n := c.toNat
  if 0xAC00 ≤ n ∧ n < 0xAC00 + 11172 then
    let i := n - 0xAC00
    let letters := [Char.ofNat (0x1100 + i / 588), Char.ofNat (0x1161 + i % 588 / 28)]
    some (if i % 28 = 0 then letters else letters ++ [Char.ofNat (0x11A7 + i % 28)])
  else none

/-- The characters that a character is made of; it is taken apart at most `fuel` times. -/
def parts : Nat → Char → List Char
  | 0, c => [c]
  | fuel + 1, c =>
    if c.toNat < 0xC0 then [c]
    else
      match hangulLetters? c with
      | some letters => letters
      | none =>
        match row? decompositions c with
        | some row => (row.images c.toNat).flatMap (parts fuel)
        | none => [c]

/-- How often a character has to be taken apart at most. -/
def depth : Nat := 4

/-! ## Ordering -/

/-- Move a mark behind those of a lower class that follow it. -/
def sink (c : Char) : List Char → List Char
  | [] => [c]
  | d :: rest =>
    if 0 < combiningClass d ∧ combiningClass d < combiningClass c then d :: sink c rest
    else c :: d :: rest

/-- A text with its marks in the order of their classes. -/
def ordered (s : List Char) : List Char :=
  s.foldr sink []

/-! ## Putting together -/

/-- Two characters with the one that is made of them, in ascending order. -/
def compositions : Array (Nat × Nat × Nat) :=
  let made := decompositions.toList.filterMap fun row =>
    match row.values with
    | [a, b] => if uncomposed.contains row.first then none else some (a, b, row.first)
    | _ => none
  (made.mergeSort fun x y => x.1 < y.1 || (x.1 = y.1 && x.2.1 ≤ y.2.1)).toArray

/-- Bisect the compositions between `low` and `high`, at most `fuel` times. -/
def findComposition (a b : Nat) : Nat → Nat → Nat → Option Nat
  | 0, _, _ => none
  | fuel + 1, low, high =>
    if low < high then
      let middle := (low + high) / 2
      match compositions[middle]? with
      | none => none
      | some (x, y, composed) =>
        if a < x ∨ (a = x ∧ b < y) then findComposition a b fuel low middle
        else if a = x ∧ b = y then some composed
        else findComposition a b fuel (middle + 1) high
    else none

/-- The Hangul syllable made of two letters, or of a syllable without a last letter and one. -/
def hangulSyllable? (a b : Nat) : Option Nat :=
  if 0x1100 ≤ a ∧ a < 0x1113 ∧ 0x1161 ≤ b ∧ b < 0x1176 then
    some (0xAC00 + ((a - 0x1100) * 21 + (b - 0x1161)) * 28)
  else if 0xAC00 ≤ a ∧ a < 0xAC00 + 11172 ∧ (a - 0xAC00) % 28 = 0 ∧ 0x11A7 < b ∧ b < 0x11C3 then
    some (a + (b - 0x11A7))
  else none

/-- The character made of two others. -/
def composed? (a b : Char) : Option Char :=
  ((hangulSyllable? a.toNat b.toNat).or
    (findComposition a.toNat b.toNat (compositions.size + 1) 0 compositions.size)).map Char.ofNat

/-- Put characters together. `base` is the last character of class 0 before them, and `marks` holds
the marks after it, the last first. A character can be put together with the base if no mark between
them has its class or a higher one. -/
def compose (base : Option Char) (marks : List Char) : List Char → List Char
  | [] => base.toList ++ marks.reverse
  | c :: rest =>
    let blocked := marks.head?.any fun m => combiningClass c ≤ combiningClass m
    match if blocked then none else base.bind fun b => composed? b c with
    | some b => compose (some b) marks rest
    | none =>
      if combiningClass c = 0 then base.toList ++ marks.reverse ++ compose (some c) [] rest
      else compose base (c :: marks) rest

/-- A text in its normal form. Characters below U+0300 are in it already. -/
def normal (s : List Char) : List Char :=
  if s.all (·.toNat < 0x300) then s
  else compose none [] (ordered (s.flatMap (parts depth)))

end JobLog.Text
