import JobLog.Config.Whole
import JobLog.Event
import JobLog.Pattern.Support
import JobLog.Text.Alphanumeric
import JobLog.Text.Blank

/-!
# Filter directives

A directive says up to which level events are let through: everywhere, from parts of the program
whose name starts with a target, or inside spans and among events with certain fields. It is written
`target[span{field=value}]=level`, and any of the parts may be left out; commas stand between
directives only. The value of a field is a flag, a number or a pattern.

The parts of a directive are found in its text without the blanks around it, but they are cut out of
the text as it stands. So blanks after a directive belong to its last part, and those before it shift
every part.
-/

namespace JobLog.Logging

/-- How much a directive lets through; nothing if it has no level. -/
abbrev Threshold := Option Level

/-- The most verbose rank that a threshold lets through. -/
def Threshold.verbosity (t : Threshold) : Nat :=
  (t.map Level.verbosity).getD 0

/-- Why a directive cannot be read. -/
inductive DirectiveError where
  | malformed
  | level
  | pattern (cause : Pattern.Refusal)
  deriving DecidableEq, Repr

def DirectiveError.message : DirectiveError → String
  | .malformed => "invalid filter directive"
  | .level =>
    "error parsing level filter: expected one of \"off\", \"error\", \"warn\", \"info\", " ++
      "\"debug\", \"trace\", or a number 0-5"
  | .pattern cause => "invalid field filter: " ++ ": ".intercalate (cause.chain.take 1)

def DirectiveError.chain (e : DirectiveError) : List String :=
  e.message :: match e with
    | .malformed => []
    | .level => [e.message]
    | .pattern cause => cause.chain

/-- The names of thresholds. -/
def thresholdNames : List (String × Threshold) :=
  [("error", some .error), ("warn", some .warn), ("info", some .info), ("debug", some .debug),
    ("trace", some .trace), ("off", none), ("", some .error)]

/-- The thresholds in the order of their numbers. -/
def thresholdNumbers : List Threshold :=
  [none, some .error, some .warn, some .info, some .debug, some .trace]

/-- Read a threshold: a number from 0 to 5 or a name in any case. -/
def thresholdOf? (s : List Char) : Option Threshold :=
  match Config.whole (UInt64.size - 1) s with
  | .ok n => thresholdNumbers[n]?
  | .error _ => thresholdNames.lookup (String.ofList (s.map Char.toLower))

/-- A field that a directive asks for, with the text of the value if one is given. -/
structure FieldMatch where
  name : String
  value : Option String
  deriving DecidableEq, Repr

namespace FieldMatch

/-- Whether a text without its sign is a real number: digits with a point somewhere and perhaps an
exponent, or the name of a value that is none. -/
def isUnsignedReal (s : List Char) : Bool :=
  ["inf", "infinity", "nan"].contains (String.ofList (s.map Char.toLower)) ||
    let whole := s.takeWhile Char.isDigit
    let tail := s.drop whole.length
    let places := if tail.head? = some '.' then (tail.drop 1).takeWhile Char.isDigit else []
    let tail := if tail.head? = some '.' then tail.drop (places.length + 1) else tail
    (whole ≠ [] || places ≠ []) &&
      match tail with
      | [] => true
      | e :: power =>
        let digits := if power.head? = some '+' ∨ power.head? = some '-' then power.drop 1 else power
        (e = 'e' || e = 'E') && digits ≠ [] && digits.all Char.isDigit

/-- Whether a text is a real number. -/
def isReal (s : List Char) : Bool :=
  match s with
  | '+' :: rest | '-' :: rest => isUnsignedReal rest
  | _ => isUnsignedReal s

/-- Why a value cannot be compared with: it is neither a flag nor a number, and no usable pattern. -/
def refusal? (value : List Char) : Option Pattern.Refusal :=
  if ["true", "false"].contains (String.ofList value) || isReal value then none
  else Pattern.refusal? (String.ofList value)

/-- Read a field: a name, or a name and a value; a second equals sign ends the value. -/
def parse (s : List Char) : Except DirectiveError FieldMatch :=
  match s.splitOn '=' with
  | name :: value :: _ =>
    match refusal? value with
    | some cause => .error (.pattern cause)
    | none => .ok ⟨String.ofList name, some (String.ofList value)⟩
  | _ => .ok ⟨String.ofList s, none⟩

end FieldMatch

/-- A directive. -/
structure Directive where
  target : Option String
  span : Option String
  fields : List FieldMatch
  level : Threshold
  deriving DecidableEq, Repr

namespace Directive

/-- The part of a directive that is being read, with the byte at which it starts. -/
inductive Part where
  | start
  | levelOrTarget (first : Nat)
  | span (first : Nat)
  | field (first : Nat)
  | fields
  | target
  | level (first : Nat)

/-- A directive that lets everything through. -/
def open' : Directive := ⟨none, none, [], some .trace⟩

/-- The characters of a text that start at or after byte `first` and before byte `last`; `i` is the
byte at which the text starts. -/
def between (first last i : Nat) : List Char → List Char
  | [] => []
  | c :: rest =>
    let tail := between first last (i + c.utf8Size) rest
    if first ≤ i ∧ i < last then c :: tail else tail

/-- A text without anything else is a level if it names one, and otherwise a target. -/
def setLevelOrTarget (d : Directive) (s : List Char) : Directive :=
  match s with
  | [] => { d with level := some .trace, target := none }
  | _ =>
    match thresholdOf? s with
    | some level => { d with level, target := none }
    | none => { d with level := some .trace, target := some (String.ofList s) }

/-- Read a level; without one everything is let through. -/
def setLevel (d : Directive) (s : List Char) : Except DirectiveError Directive :=
  match s with
  | [] => .ok { d with level := some .trace }
  | _ =>
    match thresholdOf? s with
    | some level => .ok { d with level }
    | none => .error .level

/-- Whether a directive may start with a character. -/
def isStart (c : Char) : Bool :=
  c = '-' || c = ':' || c = '_' || Text.isAlphanumeric c

/-- Add a field, which must not be empty. -/
def addField (d : Directive) (s : List Char) : Except DirectiveError Directive :=
  match s with
  | [] => .error .malformed
  | _ => do
    let field ← FieldMatch.parse s
    return { d with fields := d.fields ++ [field] }

/-- Take the character at byte `i`; `cut` gives the text from one byte up to another. -/
def take (cut : Nat → Nat → List Char) (d : Directive) (part : Part) (i : Nat) (c : Char) :
    Except DirectiveError (Directive × Part) :=
  match part with
  | .start =>
    if c = '[' then .ok (d, .span (i + 1))
    else if isStart c then .ok (d, .levelOrTarget i)
    else .error .malformed
  | .levelOrTarget start =>
    let target := some (String.ofList (cut start i))
    if c = '=' then .ok ({ d with target }, .level (i + 1))
    else if c = '[' then .ok ({ d with target }, .span (i + 1))
    else .ok (d, .levelOrTarget start)
  | .target => if c = '=' then .ok (d, .level (i + 1)) else .error .malformed
  | .span start =>
    let name := cut start i
    if c = ']' then .ok ({ d with span := some (String.ofList name) }, .target)
    else if c = '\x7b' then
      .ok ({ d with span := if name = [] then none else some (String.ofList name) }, .field (i + 1))
    else .ok (d, .span start)
  | .field start =>
    if c = '\x7d' then (d.addField (cut start i)).map ((·, .fields))
    else .ok (d, .field start)
  | .fields => if c = ']' then .ok (d, .target) else .error .malformed
  | .level start => .ok (d, .level start)

/-- What has been read when the text of `size` bytes ends. -/
def finish (cut : Nat → Nat → List Char) (size : Nat) (d : Directive) (part : Part) :
    Except DirectiveError Directive :=
  match part with
  | .levelOrTarget start => .ok (d.setLevelOrTarget (cut start size))
  | .level start => d.setLevel (cut start size)
  | .target => .ok d
  | .start | .span _ | .field _ | .fields => .error .malformed

/-- Read the rest of a directive, which starts at byte `i`. -/
def read (cut : Nat → Nat → List Char) (size : Nat) (d : Directive) (part : Part) (i : Nat) :
    List Char → Except DirectiveError Directive
  | [] => d.finish cut size part
  | c :: cs =>
    match d.take cut part i c with
    | .error e => .error e
    | .ok (d, part) => read cut size d part (i + c.utf8Size) cs

/-- The directive that a text writes. -/
def parse (s : String) : Except DirectiveError Directive :=
  let whole := s.toList
  read (fun first last => between first last 0 whole) s.utf8ByteSize open' .start 0
    (Text.trimChars whole)

end Directive

end JobLog.Logging
