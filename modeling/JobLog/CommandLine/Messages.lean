import JobLog.CommandLine.Arguments

/-!
# What the program says about its arguments

Help in a short and a long form, the version, and the messages for arguments that cannot be used.
-/

namespace JobLog.CommandLine

/-- The program's name. -/
def programName : String := "logrelay-worker"

def versionText : String := programName ++ " 0.1.0\n"

/-- What the program does. -/
def about : String :=
  "Consume job log parts from the queue, store them and push them to viewers"

/-- The variable that may hold the mode. -/
def modeVariable : String := "LOGRELAY_PROCESS"

/-- What a mode does. -/
def modeHelp : Mode → String
  | .streaming => "Consume log parts, store and broadcast them"
  | .aggregate => "Combine finished logs into archives (not available)"

/-- What an option does. -/
def Switch.purpose (long : Bool) : Switch → String
  | .mode => "Pipeline to run"
  | .workers => "Number of concurrent workers (overrides LOGRELAY_WORKERS)"
  | .verbose => "Enable debug logging"
  | .help => if long then "Print help (see a summary with '-h')"
    else "Print help (see more with '--help')"
  | .version => "Print version"

/-- Where the mode comes from if no argument gives it. -/
def modeSources (fromVariable : Option String) : List String :=
  ["[env: " ++ modeVariable ++ "=" ++ fromVariable.getD "" ++ "]",
    "[default: " ++ Mode.standard.name ++ "]"]

/-- The modes that there are. -/
def possibleModes : String :=
  "[possible values: " ++ ", ".intercalate (Mode.all.map Mode.name) ++ "]"

/-- An option as help lists it. -/
def Switch.listed (o : Switch) : String :=
  (match o.short? with
    | some c => "-" ++ c.toString ++ ", "
    | none => "    ") ++ o.shown

/-- The width of the longest option as help lists it. -/
def listedWidth : Nat :=
  (Switch.all.map fun o => o.listed.length).foldl max 0

/-- An option on a line of its own. -/
def shortEntry (fromVariable : Option String) (o : Switch) : String :=
  let more := if o = .mode then modeSources fromVariable ++ [possibleModes] else []
  "  " ++ o.listed ++ String.ofList (List.replicate (listedWidth - o.listed.length) ' ') ++ "  " ++
    " ".intercalate (o.purpose false :: more)

/-- An option with the lines about it. -/
def longEntry (fromVariable : Option String) (o : Switch) : String :=
  let indent := "          "
  let more :=
    if o = .mode then
      ["", indent ++ "Possible values:"] ++
        Mode.all.map (fun m => indent ++ "- " ++ m.name ++ ": " ++ modeHelp m) ++
        indent :: (modeSources fromVariable).map (indent ++ ·)
    else []
  "\n".intercalate (["  " ++ o.listed, indent ++ o.purpose true] ++ more)

/-- The options that set something, as alternatives. -/
def settingChoices : String :=
  "<" ++ "|".intercalate ((Switch.all.filter Switch.isSetting).map Switch.shown) ++ ">"

/-- What a reminder shows. -/
def Reminder.shown : Reminder → String
  | .anything => "[OPTIONS]"
  | .only o => o.shown
  | .alternatives beside => " ".intercalate ((beside.map Switch.shown).toList ++ [settingChoices])

/-- The line about the program's usage. -/
def usage (reminder : Reminder) : String :=
  "Usage: " ++ programName ++ " " ++ reminder.shown

/-- The help text. -/
def helpText (long : Bool) (fromVariable : Option String) : String :=
  let entries :=
    if long then "\n\n".intercalate (Switch.all.map (longEntry fromVariable))
    else "\n".intercalate (Switch.all.map (shortEntry fromVariable))
  about ++ "\n\n" ++ usage .anything ++ "\n\nOptions:\n" ++ entries ++ "\n"

namespace UsageError

/-- What is wrong. -/
def summary : UsageError → String
  | .unexpected word _ _ => "unexpected argument '" ++ word ++ "' found"
  | .missingValue o => "a value is required for '" ++ o.shown ++ "' but none was supplied"
  | .noMode text =>
    if text = "" then "a value is required for '" ++ Switch.mode.shown ++ "' but none was supplied"
    else "invalid value '" ++ text ++ "' for '" ++ Switch.mode.shown ++ "'"
  | .noNumber text cause =>
    "invalid value '" ++ text ++ "' for '" ++ Switch.workers.shown ++ "': " ++ cause.message
  | .repeated o => "the argument '" ++ o.shown ++ "' cannot be used multiple times"
  | .unneededValue value o _ =>
    "unexpected value '" ++ value ++ "' for '" ++ o.shown ++ "' found; no more were expected"

/-- What could be meant, and how the program is used. -/
def advice : UsageError → List String
  | .unexpected _ similar reminder =>
    (similar.map fun o => "  tip: a similar argument exists: '--" ++ o.long ++ "'").toList ++
      [usage reminder]
  | .noMode text =>
    ((closest text (Mode.all.map Mode.name)).map fun name =>
      "  tip: a similar value exists: '" ++ name ++ "'").toList
  | .repeated _ => [usage .anything]
  | .unneededValue _ _ reminder => [usage reminder]
  | .missingValue _ | .noNumber .. => []

/-- Whether the message lists the modes. -/
def listsModes : UsageError → Bool
  | .missingValue .mode | .noMode _ => true
  | _ => false

/-- The whole message. -/
def text (e : UsageError) : String :=
  let summary := "error: " ++ e.summary ++ if e.listsModes then "\n  " ++ possibleModes else ""
  "\n\n".intercalate (summary :: e.advice ++ ["For more information, try '--help'.\n"])

end UsageError

end JobLog.CommandLine
