import JobLog.Text.Alphanumeric
import JobLog.Text.Blank

/-!
# Variables from a file

A file of lines `NAME=value` adds variables that are not set yet. A line may start with `export`
and end with a comment. Values stand plain, in single quotes, which take everything literally, or in
double quotes; outside single quotes a backslash escapes the next character and `$NAME` or
`${NAME}` is replaced by a variable's value. A quoted value may go on over several lines. Reading
stops without complaint at the first line that cannot be read.
-/

namespace JobLog.Dotenv

/-- Variables with their values, the first one of a name counting. -/
abbrev Variables := List (String × String)

/-- The value of a variable that is set. -/
def Variables.get? (known : Variables) (name : String) : Option String :=
  known.lookup name

/-! ## Lines -/

/-- Where a line stands with respect to quotes, escapes and blanks. -/
inductive Scan where
  | complete
  | escape
  | strong
  | strongEscape
  | weak
  | weakEscape
  | blank
  | comment
  deriving DecidableEq, Repr

/-- The state after one character. Nothing follows a comment. -/
def Scan.next (state : Scan) (c : Char) : Scan :=
  match state with
  | .blank =>
    if c = '#' then .comment
    else if c = '\\' then .escape
    else if c = '"' then .weak
    else if c = '\'' then .strong
    else .complete
  | .escape => .complete
  | .complete =>
    if Text.isBlank c = true ∧ c ≠ '\n' ∧ c ≠ '\r' then .blank
    else if c = '\\' then .escape
    else if c = '"' then .weak
    else if c = '\'' then .strong
    else .complete
  | .weak => if c = '\\' then .weakEscape else if c = '"' then .complete else .weak
  | .weakEscape => .weak
  | .strong => if c = '\\' then .strongEscape else if c = '\'' then .complete else .strong
  | .strongEscape => .strong
  | .comment => .comment

/-- Scan a physical line from a state: the state at its end, and what comes before a comment. -/
def scan (state : Scan) (taken : List Char) : List Char → Scan × List Char
  | [] => (state, taken.reverse)
  | c :: cs =>
    match state.next c with
    | .comment => (.comment, taken.reverse)
    | state => scan state (c :: taken) cs

/-- The first physical line with its line feed, and the rest. -/
def firstLine : List Char → List Char × List Char
  | [] => ([], [])
  | c :: cs =>
    if c = '\n' then ([c], cs)
    else
      let (line, rest) := firstLine cs
      (c :: line, rest)

theorem firstLine_length_lt (c : Char) (cs : List Char) :
    (firstLine (c :: cs)).2.length < (c :: cs).length := by
  induction cs generalizing c with
  | nil => unfold firstLine; split <;> simp [firstLine]
  | cons d ds ih =>
    rw [firstLine]
    split
    · simp
    · have := ih d
      simp only [List.length_cons] at this ⊢
      omega

/-- Text without the line feed at its end, nor the carriage return before that. -/
def withoutBreak (s : List Char) : List Char :=
  match s.reverse with
  | '\n' :: '\r' :: rest => rest.reverse
  | '\n' :: rest => rest.reverse
  | _ => s

/-- The next logical line, or nothing at the end; an error if the text ends inside quotes, an
escape or blanks. `sofar` are the physical lines before. -/
def nextLine (state : Scan) (sofar input : List Char) :
    Except Unit (Option (List Char × List Char)) :=
  match input with
  | [] => if state = .complete then .ok none else .error ()
  | c :: cs =>
    let line := (firstLine (c :: cs)).1
    if ((sofar ++ line).dropWhile Text.isBlank).head? = some '#' then
      .ok (some ([], (firstLine (c :: cs)).2))
    else
      match scan state [] line with
      | (.complete, _) => .ok (some (withoutBreak (sofar ++ line), (firstLine (c :: cs)).2))
      | (.comment, before) => .ok (some (sofar ++ before, (firstLine (c :: cs)).2))
      | (state, _) => nextLine state (sofar ++ line) (firstLine (c :: cs)).2
termination_by input.length
decreasing_by exact firstLine_length_lt c cs

theorem nextLine_length_lt {state : Scan} {sofar input line rest : List Char}
    (h : nextLine state sofar input = .ok (some (line, rest))) : rest.length < input.length := by
  fun_induction nextLine state sofar input with
  | case1 => cases h
  | case2 => cases h
  | case3 => cases h; exact firstLine_length_lt ..
  | case4 => cases h; exact firstLine_length_lt ..
  | case5 => cases h; exact firstLine_length_lt ..
  | case6 state sofar c cs line hne s before hs h1 h2 ih =>
    exact Nat.lt_trans (ih h) (firstLine_length_lt c cs)

/-! ## Values -/

/-- What is replaced: nothing, a plain name after `$`, or a name in braces. -/
inductive Substitution where
  | none
  | plain
  | braced
  deriving DecidableEq, Repr

/-- The state in the middle of a value; `name` and `output` are reversed. -/
structure Reading where
  strong : Bool
  weak : Bool
  escaped : Bool
  ending : Bool
  substitution : Substitution
  name : List Char
  output : List Char

/-- Append the value of the variable that has been named. -/
def Reading.substitute (lookup : String → String) (r : Reading) : Reading :=
  { r with
    name := []
    output := (lookup (String.ofList r.name.reverse)).toList.reverse ++ r.output }

def Reading.put (r : Reading) (c : Char) : Reading :=
  { r with output := c :: r.output }

/-- Read one character of a value. Nothing if it may not stand there; `true` with the state if the
value ends before it. -/
def Reading.next (lookup : String → String) (r : Reading) (c : Char) : Option (Bool × Reading) :=
  if r.ending then
    if c = ' ' ∨ c = '\t' then some (false, r)
    else if c = '#' then some (true, r)
    else none
  else if r.escaped then
    let r := { r with escaped := false }
    if c = '\\' ∨ c = '\'' ∨ c = '"' ∨ c = '$' ∨ c = ' ' then some (false, r.put c)
    else if c = 'n' then some (false, r.put '\n')
    else none
  else if r.strong then
    some (false, if c = '\'' then { r with strong := false } else r.put c)
  else
    match r.substitution with
    | .plain =>
      if Text.isAlphanumeric c then some (false, { r with name := c :: r.name })
      else if c = '\x7b' ∧ r.name = [] then some (false, { r with substitution := .braced })
      else
        let r := r.substitute lookup
        some (false, if c = '$' then r else { r.put c with substitution := .none })
    | .braced =>
      some (false, if c = '\x7d' then { r.substitute lookup with substitution := .none }
        else { r with name := c :: r.name })
    | .none =>
      if c = '$' then some (false, { r with substitution := .plain })
      else if c = '\\' then some (false, { r with escaped := true })
      else if c = '"' then some (false, { r with weak := !r.weak })
      else if r.weak then some (false, r.put c)
      else if c = '\'' then some (false, { r with strong := true })
      else if c = ' ' ∨ c = '\t' then some (false, { r with ending := true })
      else some (false, r.put c)

/-- Read a value to its end. -/
def readValue (lookup : String → String) (r : Reading) : List Char → Option String
  | [] =>
    if r.substitution = .braced ∨ r.strong = true ∨ r.weak = true then none
    else some (String.ofList (r.substitute lookup).output.reverse)
  | c :: cs =>
    match r.next lookup c with
    | none => none
    | some (true, r) => readValue lookup r []
    | some (false, r) => readValue lookup r cs

/-- The value that a text writes, where `lookup` gives the values of variables. -/
def value (lookup : String → String) (s : List Char) : Option String :=
  readValue lookup ⟨false, false, false, false, .none, [], []⟩ s

/-! ## Definitions -/

def isNameStart (c : Char) : Bool :=
  c.isAlpha || c = '_'

def isNamePart (c : Char) : Bool :=
  c.isAlphanum || c = '_' || c = '.'

/-- The name at the front, and the rest without blanks before it. -/
def name (s : List Char) : Option (String × List Char) :=
  match s with
  | c :: _ =>
    if isNameStart c then
      some (String.ofList (s.takeWhile isNamePart), (s.dropWhile isNamePart).dropWhile Text.isBlank)
    else none
  | [] => none

/-- What follows an equals sign. -/
def afterEquals : List Char → Option (List Char)
  | '=' :: rest => some rest
  | _ => none

/-- The name that a line defines and what follows the equals sign. The word `export` in front is
passed over, unless it is itself what is defined. -/
def definition (s : List Char) : Option (String × List Char) := do
  let (first, rest) ← name s
  if first = "export" then
    match afterEquals rest with
    | some text => return (first, text)
    | none =>
      let (second, rest) ← name rest
      return (second, ← afterEquals rest)
  else return (first, ← afterEquals rest)

/-- What one logical line says: nothing if it is blank or a comment, or a variable with its value;
an error if it cannot be read. -/
def line (lookup : String → String) (s : List Char) : Except Unit (Option (String × String)) :=
  let s := (Text.trimChars s)
  match s with
  | [] => .ok none
  | '#' :: _ => .ok none
  | _ =>
    match definition s with
    | none => .error ()
    | some (name, text) =>
      match text.dropWhile Text.isBlank with
      | [] => .ok (some (name, ""))
      | '#' :: _ => .ok (some (name, ""))
      | text =>
        match value lookup text with
        | some v => .ok (some (name, v))
        | none => .error ()

/-- Add the definitions of a text to the variables. `defined` are the definitions so far, the last
one first, which count where no variable is set. -/
def addAll (known defined : Variables) (input : List Char) : Variables :=
  match _h : nextLine .complete [] input with
  | .error _ => known
  | .ok none => known
  | .ok (some (text, rest)) =>
    let lookup (n : String) : String :=
      ((known.get? n).or (defined.get? n)).getD ""
    match line lookup text with
    | .error _ => known
    | .ok none => addAll known defined rest
    | .ok (some (n, v)) =>
      addAll (if (known.get? n).isSome then known else known ++ [(n, v)])
        ((n, v) :: defined) rest
termination_by input.length
decreasing_by
  all_goals exact nextLine_length_lt _h

/-- The variables together with those that a file defines. A byte order mark in front is passed
over. -/
def load (known : Variables) (file : String) : Variables :=
  match file.toList with
  | '\uFEFF' :: input => addAll known [] input
  | input => addAll known [] input

end JobLog.Dotenv
