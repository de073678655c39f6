import JobLog.CommandLine.Messages
import JobLog.Config.Dotenv
import JobLog.Logging.Line
import JobLog.Logging.Setup
import JobLog.Supervisor.Live

/-!
# A run of the program

The program reads its arguments, sets up logging, and runs in the mode that is asked for. What it
prints and what it leaves behind is computed here from what surrounds it; only the clock is missing,
whose readings stand in the lines that are logged.
-/

namespace JobLog.CommandLine

/-- What surrounds the program when it is started. -/
structure Surroundings where
  arguments : List String
  environment : Dotenv.Variables
  /-- The file of variables in the working directory. -/
  dotenv : Option String
  folder : Logging.Folder
  now : Moment

/-- What ended a run. -/
inductive Failure where
  | settings (cause : Logging.SettingsError)
  | logging (cause : Logging.SetupError)
  | configuration (cause : SettingError)
  | workers (cause : SettingError)
  | pipeline (cause : StartupError)
  | mode (cause : UnsupportedMode)

/-- What is said about a failure, from the outside inwards. -/
def Failure.chain : Failure → List String
  | .settings cause => [cause.message]
  | .logging cause => cause.chain
  | .configuration cause => ["Failed to load configuration", cause.message]
  | .workers cause => ["Invalid --workers", cause.message]
  | .pipeline cause => "Streaming pipeline failed" :: cause.chain
  | .mode cause => ["Aggregation mode", cause.message]

/-- The part of the program that starts everything. -/
def target : String := "logrelay_worker"

/-! ## Configuration -/

/-- A configuration in which the number of workers is overridden. -/
def override (c : Config) : Option Nat → Except SettingError (Config × List Event)
  | none => .ok (c, [])
  | some workers =>
    let c := { c with pool := { c.pool with workers := UInt64.ofNat workers } }
    c.validate.map fun events => (c, events)

/-- The configuration for a run, with what is reported while it is read. -/
def configure (lookup : Config.Lookup) (workers : Option Nat) :
    Except Failure (Config × List Event) :=
  match Config.fromLookup lookup with
  | .error e => .error (.configuration e)
  | .ok (c, events) =>
    match override c workers with
    | .error e => .error (.workers e)
    | .ok (c, more) => .ok (c, events ++ more)

/-- What is reported before a failure to configure. -/
def reportedBefore (lookup : Config.Lookup) : Failure → List Event
  | .workers _ =>
    match Config.fromLookup lookup with
    | .ok (_, events) => events
    | .error _ => []
  | _ => []

/-- What is reported about a configuration. -/
def configured (c : Config) : Event :=
  .plain .info target "Configuration loaded"
    [("queue", .shown c.broker.queue), ("workers", .integer c.pool.workers.toNat),
      ("prefetch", .integer c.prefetch)]

/-! ## Modes -/

/-- Run in the streaming mode: what is reported, and what came of it. -/
def stream {σ : Type} (n : Network σ) (lookup : Config.Lookup) (workers : Option Nat)
    (world : World σ) : List Event × Except Failure Unit :=
  match configure lookup workers with
  | .error e => (reportedBefore lookup e, .error e)
  | .ok (c, events) =>
    let s := n.start c world
    let reported := events ++ [configured c] ++ (s.world (n.dependencies c world.systems)).events
    match s.result? with
    | some (.error e) => (reported, .error (.pipeline e))
    | _ => (reported ++ [.plain .info target "Worker shut down gracefully" []], .ok ())

/-- Run in a mode. -/
def runMode {σ : Type} (n : Network σ) (lookup : Config.Lookup) (a : Arguments)
    (world : World σ) : List Event × Except Failure Unit :=
  match a.mode with
  | .streaming => stream n lookup a.workers world
  | .aggregate => (aggregate.1, .error (.mode aggregate.2))

/-- Everything that a run in a mode reports. -/
def reported (mode : Mode) (r : List Event × Except Failure Unit) : List Event :=
  .plain .info target "Starting logrelay worker" [("mode", .shown mode.name)] :: r.1 ++
    match r.2 with
    | .error e =>
      [.plain .error target ("Worker failed: " ++ ": ".intercalate e.chain) []]
    | .ok _ => []

/-! ## The program -/

/-- What a run leaves behind: its exit status, the texts that it prints itself, the causes if it
failed, the events that its filter lets through with the settings they are logged by, and the
folder. -/
structure Result where
  status : Nat
  output : String
  complaints : String
  failure : Option (List String)
  settings : LogSettings
  events : List Event
  folder : Logging.Folder

/-- A run that ends before anything is logged. -/
def Result.early (status : Nat) (output complaints : String)
    (failure : Option (List String)) (folder : Logging.Folder) : Result :=
  ⟨status, output, complaints, failure, .standard, [], folder⟩

/-- The settings that logging starts from. -/
def baseSettings (verbose : Bool) : LogSettings :=
  { LogSettings.standard with
    level := if verbose then .debug else .info
    filePrefix := programName
    directives := some "logrelay_worker=debug,sqlx=warn,lapin=info" }

/-- Run with logging set up. -/
def runLogged {σ : Type} (n : Network σ) (world : World σ) (around : Surroundings)
    (a : Arguments) (complaints : String) (settings : LogSettings)
    (filter : Logging.Filter) (folder : Logging.Folder) : Result :=
  let environment := match around.dotenv with
    | some file => Dotenv.load around.environment file
    | none => around.environment
  let r := runMode n environment.get? a world
  { status := match r.2 with
      | .ok _ => 0
      | .error _ => 1
    output := ""
    complaints
    failure := match r.2 with
      | .ok _ => none
      | .error e => some e.chain
    settings
    events := (reported a.mode r).filter filter.allows
    folder }

/-- Run with arguments that could be read. -/
def runWith {σ : Type} (n : Network σ) (world : World σ) (around : Surroundings)
    (a : Arguments) : Result :=
  let lookup := around.environment.get?
  let early (complaints : String) (e : Failure) (folder : Logging.Folder) : Result :=
    .early 1 "" complaints (some e.chain) folder
  match (baseSettings a.verbose).merge lookup with
  | .error e => early "" (.settings e) around.folder
  | .ok settings =>
    let inherited := (lookup "RUST_LOG").getD ""
    let complaints := String.join ((Logging.inherited inherited).2.map (· ++ "\n"))
    match Logging.setUp settings inherited around.now.date around.folder with
    | (.error e, folder) => early complaints (.logging e) folder
    | (.ok filter, folder) => runLogged n world around a complaints settings filter folder

/-- Run the program. -/
def run {σ : Type} (n : Network σ) (world : World σ) (around : Surroundings) : Result :=
  let fromVariable := around.environment.get? modeVariable
  match parse fromVariable around.arguments with
  | .error (.help long) => .early 0 (helpText long fromVariable) "" none around.folder
  | .error .version => .early 0 versionText "" none around.folder
  | .error (.error e) => .early 2 "" e.text none around.folder
  | .ok a => runWith n world around a

/-! ## What is printed -/

/-- Text whose later lines are indented like its first. -/
def indented (first later : String) (s : String) : String :=
  first ++ ("\n" ++ later).intercalate (Text.splitOn '\n' s)

/-- The causes of a failure, numbered if there are several. -/
def causesText : List String → String
  | [] => ""
  | [cause] => "\n\nCaused by:\n" ++ indented "    " "    " cause
  | causes =>
    "\n\nCaused by:\n" ++ "\n".intercalate (causes.zipIdx.map fun (cause, i) =>
      let number := toString i
      indented (String.ofList (List.replicate (5 - number.length) ' ') ++ number ++ ": ") "       "
        cause)

/-- The last words of a run that failed. -/
def failureText : List String → String
  | [] => ""
  | outer :: causes => "Error: " ++ outer ++ causesText causes ++ "\n"

namespace Result

/-- What is written to standard error. -/
def errors (r : Result) : String :=
  r.complaints ++ failureText (r.failure.getD [])

/-- What is written to standard output; `time` is the time of an event. -/
def console (r : Result) (time : String) : String :=
  r.output ++
    if r.settings.output.toConsole then
      Logging.lines r.settings true (r.events.map fun e => (time, e))
    else ""

/-- What is written to the log file. -/
def file (r : Result) (time : String) : String :=
  if r.settings.output.toFile then
    Logging.lines r.settings false (r.events.map fun e => (time, e))
  else ""

end Result

end JobLog.CommandLine
