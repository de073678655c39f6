/-!
# Punycode

The encoding of RFC 3492, which writes any text with letters, digits and hyphens. The characters of
ASCII come first; the others are put between them one by one, in the order of their code points.
All possible insertions are numbered, by code point and then by position, and what is written of
each is how far its number lies behind that of the one before.
-/

namespace JobLog.Web.Punycode

/-- A digit: letters are 0 to 25, figures 26 to 35. -/
def digit (n : Nat) : Char :=
  if n < 26 then Char.ofNat (97 + n) else Char.ofNat (22 + n)

/-- The least value of a digit at weight `k` after which more digits follow. -/
def threshold (k bias : Nat) : Nat :=
  min 26 (max 1 (k - bias))

theorem one_le_threshold (k bias : Nat) : 1 ≤ threshold k bias := by
  unfold threshold
  omega

/-- A number in digits, the lowest first. -/
def digits (bias k n : Nat) : List Char :=
  let least := threshold k bias
  if n < least then [digit n]
  else
    let base := 36 - least
    digit (least + (n - least) % base) :: digits bias (k + 36) ((n - least) / base)
termination_by n
decreasing_by
  have := one_le_threshold k bias
  exact Nat.lt_of_le_of_lt (Nat.div_le_self _ _) (by omega)

/-- The bias for a number that is like `n`; `k` counts 36 for each digit that it is long. -/
def biasFor (k n : Nat) : Nat :=
  if 455 < n then biasFor (k + 36) (n / 35) else k + 36 * n / (n + 38)
termination_by n
decreasing_by exact Nat.div_lt_self (by omega) (by omega)

/-- A character that is put into a text, and how many characters stand before it then. -/
structure Insertion where
  point : Nat
  position : Nat
  deriving DecidableEq, Repr

/-- The number of an insertion into a text of `size` characters. -/
def Insertion.number (i : Insertion) (size : Nat) : Nat :=
  i.point * (size + 1) + i.position

/-- How a text grows out of its characters of ASCII. When a character is put in, those before it are
there whose code points are at most its own. -/
def insertions (text : List Char) : List Insertion :=
  let points := text.map Char.toNat
  let found := points.zipIdx.filterMap fun (point, i) =>
    if point < 0x80 then none else some ⟨point, (points.take i).countP (· ≤ point)⟩
  found.mergeSort fun a b => a.point ≤ b.point

/-- Write insertions into a text of `size` characters, `next` being the first that is possible. The
first number that is written counts for less in the bias of those after it. -/
def write (size bias damping : Nat) (next : Insertion) : List Insertion → List Char
  | [] => []
  | i :: rest =>
    let n := i.number size - next.number size
    let likely := n / damping
    digits bias 36 n ++
      write (size + 1) (biasFor 0 (likely + likely / (size + 1))) 2 ⟨i.point, i.position + 1⟩ rest

/-- A text in Punycode. -/
def encode (text : List Char) : List Char :=
  let ascii := text.filter (·.toNat < 0x80)
  ascii ++ (if ascii.isEmpty then [] else ['-']) ++
    write ascii.length 72 700 ⟨0x80, 0⟩ (insertions text)

/-! ## Reading -/

/-- The value of a digit. -/
def digitValue? (c : Char) : Option Nat :=
  if c.isLower then some (c.toNat - 97)
  else if c.isUpper then some (c.toNat - 65)
  else if c.isDigit then some (c.toNat - 22)
  else none

/-- Read a number, which is added to `n`; a digit counts `weight` times. Numbers are below `2 ^ 32`. -/
def number? (bias k weight n : Nat) : List Char → Option (Nat × List Char)
  | [] => none
  | c :: rest =>
    match digitValue? c with
    | none => none
    | some d =>
      let n := n + d * weight
      if UInt32.size ≤ n ∨ UInt32.size ≤ weight then none
      else if d < threshold k bias then some (n, rest)
      else number? bias (k + 36) (weight * (36 - threshold k bias)) n rest

theorem number?_length_lt {bias k weight n m : Nat} {s rest : List Char}
    (h : number? bias k weight n s = some (m, rest)) : rest.length < s.length := by
  induction s generalizing k weight n with
  | nil => simp [number?] at h
  | cons c tail ih =>
    simp only [number?] at h
    split at h
    · simp at h
    · split at h
      · simp at h
      · split at h
        · simp only [Option.some.injEq, Prod.mk.injEq] at h
          simp [← h.2]
        · exact Nat.lt_succ_of_lt (ih h)

/-- Read insertions into a text, `next` being the first that is possible. -/
def read? (text : List Char) (bias : Nat) (next : Insertion) (s : List Char) : Option (List Char) :=
  if s = [] then some text
  else
    match _h : number? bias 36 1 next.position s with
    | none => none
    | some (n, rest) =>
      let size := text.length + 1
      let likely := (n - next.position) / if next.position = 0 then 700 else 2
      let point := next.point + n / size
      if point.isValidChar then
        read? (text.insertIdx (n % size) (Char.ofNat point)) (biasFor 0 (likely + likely / size))
          ⟨point, n % size + 1⟩ rest
      else none
termination_by s.length
decreasing_by exact number?_length_lt _h

/-- The text that is written in Punycode. The last hyphen, unless it comes first, ends the
characters of ASCII. -/
def decode? (s : List Char) : Option (List Char) :=
  let reversed := s.reverse
  let written := (reversed.takeWhile (· ≠ '-')).reverse
  let ascii := (reversed.drop (written.length + 1)).reverse
  if ascii = [] then read? [] 72 ⟨0x80, 0⟩ s else read? ascii 72 ⟨0x80, 0⟩ written

end JobLog.Web.Punycode
