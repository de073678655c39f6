import JobLog.CommandLine.Similarity
import JobLog.Config.Whole
import JobLog.Mode

/-!
# Arguments

The program takes three options, each at most once, and nothing else: a mode, a number of workers
and whether to log more. Two more words ask for help and for the version. Arguments are read from
the left, and the first thing that is wrong, or the first question, ends the reading. The value of
an option is looked at when the next option begins or the arguments end.
-/

namespace JobLog.CommandLine

/-- A word that starts with hyphens and means something. -/
inductive Switch where
  | mode
  | workers
  | verbose
  | help
  | version
  deriving DecidableEq, Repr

namespace Switch

/-- The long form, without its hyphens. -/
def long : Switch → String
  | .mode => "process"
  | .workers => "workers"
  | .verbose => "verbose"
  | .help => "help"
  | .version => "version"

/-- The letter of the short form. -/
def short? : Switch → Option Char
  | .mode | .workers => none
  | .verbose => some 'v'
  | .help => some 'h'
  | .version => some 'V'

/-- What stands for the value, if there is one. -/
def placeholder? : Switch → Option String
  | .mode => some "PROCESS"
  | .workers => some "WORKERS"
  | .verbose | .help | .version => none

/-- The option as messages show it. -/
def shown (o : Switch) : String :=
  "--" ++ o.long ++ (o.placeholder?.map fun name => " <" ++ name ++ ">").getD ""

def all : List Switch := [.mode, .workers, .verbose, .help, .version]

def ofLong? (s : String) : Option Switch :=
  all.find? fun o => o.long = s

def ofShort? (c : Char) : Option Switch :=
  all.find? fun o => o.short? = some c

end Switch

/-- What a reminder of the usage shows. -/
inductive Reminder where
  /-- That there are options. -/
  | anything
  | only (o : Switch)
  /-- The options that set something, as alternatives, and a question beside them. -/
  | alternatives (beside : Option Switch)
  deriving DecidableEq, Repr

/-- Why arguments cannot be used. -/
inductive UsageError where
  /-- Nothing goes by this word. -/
  | unexpected (word : String) (similar : Option Switch) (reminder : Reminder)
  | missingValue (o : Switch)
  | noMode (text : String)
  | noNumber (text : String) (cause : Config.WholeError)
  | repeated (o : Switch)
  /-- A value for an option that has none. -/
  | unneededValue (value : String) (o : Switch) (reminder : Reminder)
  deriving DecidableEq, Repr

/-- Whether an option sets something, unlike a question. -/
def Switch.isSetting : Switch → Bool
  | .mode | .workers | .verbose => true
  | .help | .version => false

/-- The reminder of an option, if one is meant. Options that set something are only shown together
once one of them has been used. -/
def Reminder.of (hasUsed : Bool) (o : Option Switch) : Reminder :=
  if hasUsed then .alternatives (o.filter fun o => !o.isSetting)
  else match o with
    | some o => .only o
    | none => .anything

/-- What the arguments ask for. -/
structure Arguments where
  mode : Mode
  workers : Option Nat
  verbose : Bool
  deriving DecidableEq, Repr

/-- Why the program does not start to work. -/
inductive Stop where
  | help (long : Bool)
  | version
  | error (cause : UsageError)
  deriving DecidableEq, Repr

/-- The largest number of workers that can be asked for. -/
def maxWorkers : Nat := UInt64.size - 1

/-- What has been read; `pending` is an option whose value has not been looked at, and `used` are the
options that were, in order. -/
structure Reading where
  mode : Option Mode
  workers : Option Nat
  verbose : Bool
  used : List Switch
  pending : Option (Switch × Option String)
  deriving DecidableEq, Repr

namespace Reading

def start : Reading := ⟨none, none, false, [], none⟩

/-- Note that an option was used; it must not be used twice. -/
def use (r : Reading) (o : Switch) : Except UsageError Reading :=
  if o ∈ r.used then .error (.repeated o)
  else .ok { r with used := r.used ++ [o] }

/-- Take the value of an option. -/
def take (r : Reading) (o : Switch) (value : String) : Except UsageError Reading :=
  match o with
  | .mode =>
    match Mode.ofName? false value with
    | some mode => .ok { r with mode := some mode }
    | none => .error (.noMode value)
  | .workers =>
    match Config.whole maxWorkers value.toList with
    | .ok n => .ok { r with workers := some n }
    | .error cause => .error (.noNumber value cause)
  | _ => .ok r

/-- Look at the value that is still to be looked at. -/
def resolve (r : Reading) : Except UsageError Reading :=
  match r.pending with
  | none => .ok r
  | some (o, none) => .error (.missingValue o)
  | some (o, some value) => do ({ ← r.use o with pending := none }).take o value

/-- Whether an option was used, also if the pending value is looked at, whatever comes of that. -/
def hasUsed (r : Reading) : Bool :=
  match r.pending with
  | some (_, some _) => true
  | _ => !r.used.isEmpty

/-- A switch without a value. -/
def flag (r : Reading) (o : Switch) (long : Bool) : Except Stop Reading :=
  match r.resolve with
  | .error cause => .error (.error cause)
  | .ok r =>
    match o with
    | .help => .error (.help long)
    | .version => .error .version
    | _ =>
      match r.use o with
      | .error cause => .error (.error cause)
      | .ok r => .ok { r with verbose := true }

/-- The letters after one hyphen. -/
def letters (r : Reading) : List Char → Except Stop Reading
  | [] => .ok r
  | c :: rest =>
    match Switch.ofShort? c with
    | none => .error (.error (.unexpected ("-" ++ c.toString) none .anything))
    | some o =>
      match r.flag o false with
      | .error stop => .error stop
      | .ok r => letters r rest

/-- A word after two hyphens that means nothing, with the option that was probably meant. -/
def unknown (r : Reading) (name : String) : UsageError :=
  let similar := (closest name (Switch.all.map Switch.long)).bind Switch.ofLong?
  .unexpected ("--" ++ name) similar (Reminder.of r.hasUsed similar)

/-- An option in its long form, with the value after an equals sign. -/
def word (r : Reading) (name : String) (value : Option String) : Except Stop Reading :=
  match Switch.ofLong? name with
  | none => .error (.error (r.unknown name))
  | some o =>
    match o.placeholder?, value with
    | some _, none =>
      match r.resolve with
      | .error cause => .error (.error cause)
      | .ok r => .ok { r with pending := some (o, none) }
    | some _, some value =>
      match r.resolve.bind fun r => { r with pending := some (o, some value) }.resolve with
      | .error cause => .error (.error cause)
      | .ok r => .ok r
    | none, none => r.flag o true
    | none, some value =>
      .error (.error (.unneededValue value o (Reminder.of (!r.used.isEmpty) (some o))))

/-- The name and the value of a long form. -/
def split (s : List Char) : String × Option String :=
  match s.span (· ≠ '=') with
  | (name, _ :: value) => (String.ofList name, some (String.ofList value))
  | (name, []) => (String.ofList name, none)

/-- A word without hyphens in front: the value that is awaited, or nothing that is known. -/
def plain (r : Reading) (s : String) : Except Stop Reading :=
  match r.pending with
  | some (o, none) => .ok { r with pending := some (o, some s) }
  | _ => .error (.error (.unexpected s none .anything))

/-- Read arguments. After two hyphens nothing more is an option, and nothing else is known. -/
def all (r : Reading) : List String → Except Stop Reading
  | [] => .ok r
  | s :: rest =>
    match s.toList with
    | ['-', '-'] =>
      match rest with
      | [] => .ok r
      | s :: _ => .error (.error (.unexpected s none .anything))
    | '-' :: '-' :: name =>
      match r.word (split name).1 (split name).2 with
      | .error stop => .error stop
      | .ok r => all r rest
    | '-' :: c :: name =>
      match r.letters (c :: name) with
      | .error stop => .error stop
      | .ok r => all r rest
    | _ =>
      match r.plain s with
      | .error stop => .error stop
      | .ok r => all r rest

end Reading

/-- The mode that a variable asks for where no argument does. -/
def modeOf (fromVariable : Option String) : Option Mode → Except UsageError Mode
  | some mode => .ok mode
  | none =>
    match fromVariable with
    | none => .ok .standard
    | some s =>
      match Mode.ofName? false s with
      | some mode => .ok mode
      | none => .error (.noMode s)

/-- What arguments ask for, given the variable that may hold the mode. -/
def parse (fromVariable : Option String) (arguments : List String) : Except Stop Arguments :=
  match Reading.start.all arguments with
  | .error stop => .error stop
  | .ok r =>
    match r.resolve with
    | .error cause => .error (.error cause)
    | .ok r =>
      match modeOf fromVariable r.mode with
      | .error cause => .error (.error cause)
      | .ok mode => .ok ⟨mode, r.workers, r.verbose⟩

end JobLog.CommandLine
