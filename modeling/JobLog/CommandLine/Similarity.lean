/-!
# Words that look alike

Two words resemble each other as far as their characters match at nearly the same places and in the
same order. The resemblance is a number between zero and one.
-/

namespace JobLog.CommandLine

/-- The first place from `low` on, below `high`, that holds `c` and is not taken. -/
def placeOf (c : Char) (word : List Char) (taken : List Nat) (low high : Nat) : Option Nat :=
  (List.range high).find? fun j => low ≤ j && word[j]? = some c && j ∉ taken

/-- Match the characters of a word, each with the nearest free place in the other word that is at
most `reach` away: pairs of places in the order of the first word. -/
def pairing (a b : List Char) (reach : Nat) : List (Nat × Nat) :=
  (a.zipIdx.foldl (fun found (c, i) =>
    match placeOf c b (found.map (·.2)) (i - reach) (min b.length (i + reach + 1)) with
    | some j => (i, j) :: found
    | none => found) []).reverse

/-- How much two words resemble each other: the mean of the matched share of the one, the matched
share of the other, and the share of the matches that are in order. -/
def resemblance (a b : String) : Float :=
  let (a, b) := (a.toList, b.toList)
  let pairs := pairing a b (max a.length b.length / 2 - 1)
  let left := pairs.map fun pair => a[pair.1]?
  let right := ((List.range b.length).filter (· ∈ pairs.map (·.2))).map fun j => b[j]?
  let swapped := ((left.zip right).countP fun pair => pair.1 ≠ pair.2) / 2
  let share (n of : Nat) : Float := Float.ofNat n / Float.ofNat of
  let m := pairs.length
  if a.isEmpty && b.isEmpty then 1
  else if m = 0 then 0
  else (share m a.length + share m b.length + share (m - swapped) m) / 3

/-- The word that resembles a text most, of those that resemble it by more than seven tenths; the
last one counts if several do so alike. -/
def closest (text : String) (words : List String) : Option String :=
  (words.foldl (fun best word =>
    let r := resemblance text word
    if r ≤ 0.7 then best
    else match best with
      | some (_, b) => if r < b then best else some (word, r)
      | none => some (word, r)) none).map (·.1)

end JobLog.CommandLine
