import JobLog.Logging.Filter
import JobLog.Logging.Folder
import JobLog.Logging.Settings
import JobLog.Time

/-!
# Setting up logging

The filter starts from the directives in the variable `RUST_LOG`, of which those that cannot be read
are passed over, or lets errors through if there are none. The level of the settings and then their
own directives are added; the latter must be readable. A log file stands in its directory, which is
made if need be, under its prefix and the day's date.
-/

namespace JobLog.Logging

/-- Why logging cannot be set up. -/
inductive SetupError where
  | directive (text : String) (cause : DirectiveError)
  | directory (path : String) (cause : FileError)
  deriving DecidableEq, Repr

def SetupError.message : SetupError → String
  | .directive text _ => "Failed to parse filter directive '" ++ text ++ "'"
  | .directory path _ => "Failed to create log directory " ++ path

def SetupError.chain (e : SetupError) : List String :=
  e.message :: match e with
    | .directive _ cause => cause.chain
    | .directory _ cause => [cause.message]

/-- A directive that only has a level. -/
def levelDirective (level : Level) : Directive :=
  ⟨none, none, [], some level⟩

/-- The texts between commas that are not empty. -/
def pieces (s : String) : List String :=
  (Text.splitOn ',' s).filter (· ≠ "")

/-- The filter that `RUST_LOG` asks for, and complaints about what it cannot read. -/
def inherited (text : String) : Filter × List String :=
  let read := (pieces text).map fun s => (s, Directive.parse s)
  let directives := read.filterMap fun (_, r) => r.toOption
  let complaints := read.filterMap fun (s, r) =>
    match r with
    | .error e => some ("ignoring `" ++ s ++ "`: " ++ e.message)
    | .ok _ => none
  let start := if directives = [] then [levelDirective .error] else []
  ((start ++ directives).foldl Filter.add [], complaints)

/-- Add directives; the first that cannot be read is reported. -/
def addDirectives (filter : Filter) : List String → Except SetupError Filter
  | [] => .ok filter
  | s :: rest =>
    match Directive.parse s with
    | .error e => .error (.directive s e)
    | .ok d => addDirectives (filter.add d) rest

/-- The directives of a text, without the blanks around them. -/
def trimmedPieces (s : String) : List String :=
  ((Text.splitOn ',' s).map Text.trim).filter (· ≠ "")

/-- The filter of settings, given the variable `RUST_LOG`. -/
def filterOf (settings : LogSettings) (inheritedText : String) : Except SetupError Filter :=
  addDirectives ((inherited inheritedText).1.add (levelDirective settings.level))
    ((settings.directives.map trimmedPieces).getD [])

/-- The name of the log file of a day. -/
def fileName (settings : LogSettings) (day : Date) : String :=
  if settings.filePrefix = "" then day.text else settings.filePrefix ++ "." ++ day.text

/-- Make the log file of a day below a directory. -/
def makeLogFile (name : String) (directory : Path) (folder : Folder) : Folder :=
  let names := directory ++ steps name
  match folder.makeDirectories (parent names) with
  | (.ok (some above), folder) => folder.makeFile (above ++ names.getLast?.toList)
  | (_, folder) => folder

/-- Make the log file and the directories above it. -/
def openFile (settings : LogSettings) (day : Date) (folder : Folder) :
    Except SetupError Unit × Folder :=
  let name := fileName settings day
  match folder.makeDirectory settings.directory with
  | (.error e, folder) => (.error (.directory settings.directory e), folder)
  | (.ok none, folder) => (.ok (), folder)
  | (.ok (some directory), folder) =>
    (.ok (), if isAbsolute name then folder else makeLogFile name directory folder)

/-- Set up logging: the filter, and the folder with the log file. -/
def setUp (settings : LogSettings) (inheritedText : String) (day : Date) (folder : Folder) :
    Except SetupError Filter × Folder :=
  match filterOf settings inheritedText with
  | .error e => (.error e, folder)
  | .ok filter =>
    if settings.output.toFile then
      match openFile settings day folder with
      | (.error e, folder) => (.error e, folder)
      | (.ok _, folder) => (.ok filter, folder)
    else (.ok filter, folder)

end JobLog.Logging
