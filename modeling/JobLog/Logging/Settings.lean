import JobLog.Config.Load
import JobLog.Json.Record
import JobLog.Json.Value

/-!
# Logging settings

Which events are logged, where to and in which form. Variables override the settings that a program
starts with; a variable that is not set leaves them alone. Words are read in any case.
-/

namespace JobLog

namespace Logging

/-- Where log lines go. -/
inductive Output where
  | console
  | file
  | both
  deriving DecidableEq, Repr

def Output.name : Output → String
  | .console => "console"
  | .file => "file"
  | .both => "both"

/-- Whether something is logged on the console. -/
def Output.toConsole : Output → Bool
  | .console | .both => true
  | .file => false

/-- Whether something is logged to a file. -/
def Output.toFile : Output → Bool
  | .file | .both => true
  | .console => false

/-- The form of a log line. -/
inductive Format where
  | text
  | json
  deriving DecidableEq, Repr

def Format.name : Format → String
  | .text => "text"
  | .json => "json"

/-- A word that names no setting. -/
inductive SettingsError where
  | level (text : String)
  | output (text : String)
  | format (text : String)
  deriving DecidableEq, Repr

def SettingsError.message : SettingsError → String
  | .level text => "Invalid log level: " ++ text
  | .output text => "Invalid log output: " ++ text
  | .format text => "Invalid log format: " ++ text

/-- Text in lower case. Only letters of the ASCII alphabet matter to the words below. -/
def lower (s : String) : String :=
  String.ofList (s.toList.map Char.toLower)

/-- The level that a word names. A warning has two names. -/
def levelOf (s : String) : Except SettingsError Level :=
  match lower s with
  | "trace" => .ok .trace
  | "debug" => .ok .debug
  | "info" => .ok .info
  | "warn" => .ok .warn
  | "warning" => .ok .warn
  | "error" => .ok .error
  | _ => .error (.level s)

/-- The output that a word names. -/
def outputOf (s : String) : Except SettingsError Output :=
  match lower s with
  | "console" => .ok .console
  | "stdout" => .ok .console
  | "file" => .ok .file
  | "both" => .ok .both
  | "all" => .ok .both
  | _ => .error (.output s)

/-- The form that a word names. -/
def formatOf (s : String) : Except SettingsError Format :=
  match lower s with
  | "text" => .ok .text
  | "pretty" => .ok .text
  | "json" => .ok .json
  | _ => .error (.format s)

/-- A flag, or what to take if the text is neither `true` nor `false`. -/
def flagOf (absent : Bool) (s : String) : Bool :=
  if s = "true" then true else if s = "false" then false else absent

end Logging

open Logging

/-- How a program logs. -/
structure LogSettings where
  level : Level
  output : Output
  format : Format
  directory : String
  filePrefix : String
  /-- Directives for single parts of the program. -/
  directives : Option String
  location : Bool
  threadIds : Bool
  targets : Bool
  deriving DecidableEq, Repr

namespace LogSettings

/-- What holds unless something else is asked for. -/
def standard : LogSettings :=
  ⟨.info, .console, .text, "./logs", "logrelay", none, false, false, true⟩

/-- Override a setting by a variable, if it is set. -/
def override {α : Type} (lookup : Config.Lookup) (name : String)
    (read : String → Except SettingsError α) (current : α) : Except SettingsError α :=
  match lookup name with
  | some s => read s
  | none => .ok current

/-- Settings overridden by variables. -/
def merge (s : LogSettings) (lookup : Config.Lookup) : Except SettingsError LogSettings := do
  let level ← override lookup "LOG_LEVEL" levelOf s.level
  let output ← override lookup "LOG_OUTPUT" outputOf s.output
  let format ← override lookup "LOG_FORMAT" formatOf s.format
  return {
    level, output, format
    directory := (lookup "LOG_DIR").getD s.directory
    filePrefix := (lookup "LOG_FILE_PREFIX").getD s.filePrefix
    directives := (lookup "LOG_FILTER").or s.directives
    location := ((lookup "LOG_INCLUDE_LOCATION").map (flagOf false)).getD s.location
    threadIds := ((lookup "LOG_INCLUDE_THREAD_IDS").map (flagOf false)).getD s.threadIds
    targets := ((lookup "LOG_INCLUDE_TARGETS").map (flagOf true)).getD s.targets }

/-! ## JSON -/

/-- In JSON each setting has one name, in lower case. -/
def levelReader : Json.Reader Level :=
  Json.choice [("trace", .trace), ("debug", .debug), ("info", .info), ("warn", .warn),
    ("error", .error)]

def outputReader : Json.Reader Output :=
  Json.choice [("console", .console), ("file", .file), ("both", .both)]

def formatReader : Json.Reader Format :=
  Json.choice [("text", .text), ("json", .json)]

/-- The settings in the order in which they are written. -/
def fields : Json.Fields
    [Level, Output, Format, String, String, Option String, Bool, Bool, Bool] :=
  .cons "level" .required levelReader <|
  .cons "output" .required outputReader <|
  .cons "format" .required formatReader <|
  .cons "log_dir" .required (Json.text "path string") <|
  .cons "log_file_prefix" .required (Json.text "a string") <|
  .cons "filter_directives" (.optional none false) (Json.nullable (Json.text "a string")) <|
  .cons "include_location" .required Json.flag <|
  .cons "include_thread_ids" .required Json.flag <|
  .cons "include_targets" .required Json.flag .nil

def reader : Json.Reader LogSettings :=
  (Json.record "struct LogConfig" fields).map
    fun (level, output, format, directory, filePrefix, directives, location, threadIds,
        targets, ()) =>
      ⟨level, output, format, directory, filePrefix, directives, location, threadIds, targets⟩

/-- Read settings from a text. -/
def parse (input : Json.Bytes) : Except Json.Refusal LogSettings :=
  Json.decode reader input

/-- The settings as they are written; directives that are not given are `null`. -/
def toJson (s : LogSettings) : Json.Value :=
  .object [("level", .text s.level.name), ("output", .text s.output.name),
    ("format", .text s.format.name), ("log_dir", .text s.directory),
    ("log_file_prefix", .text s.filePrefix),
    ("filter_directives", (s.directives.map Json.Value.text).getD .null),
    ("include_location", .flag s.location), ("include_thread_ids", .flag s.threadIds),
    ("include_targets", .flag s.targets)]

end LogSettings

end JobLog
