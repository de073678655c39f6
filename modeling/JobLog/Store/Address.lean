import JobLog.Config.Basic
import JobLog.Config.Whole
import JobLog.Error
import JobLog.Event
import JobLog.Text.Quoted
import JobLog.Web.Query

/-!
# Addresses of databases

An address gives the server, the user and the database, percent-encoded, and options in its query.
Its parts are checked from left to right; options that are not known are reported and passed over.
-/

namespace JobLog.Database

/-- How connections may be secured. -/
def securityModes : List String :=
  ["disable", "allow", "prefer", "require", "verify-ca", "verify-full"]

/-- Whether a text is an address of the network protocol, of either version. -/
def isAddress (s : String) : Bool :=
  let bytes := (s.toList.splitOn '.').map Web.Host.byte?
  (bytes.length = 4 && bytes.all Option.isSome) || (Web.Host.ipv6? s.toList).isSome

/-- What keeps the value of an option from being a number of at most `max`. -/
def numberFault? (max : Nat) (value : String) : Option DatabaseError :=
  match Config.whole max value.toList with
  | .ok _ => none
  | .error e => some (.configuration e.message)

/-- What keeps an option from being used. -/
def optionFault? (name value : String) : Option DatabaseError :=
  match name with
  | "sslmode" | "ssl-mode" =>
    if value.toLower ∈ securityModes then none
    else
      let reason := "unknown value " ++ Text.quoted value ++ " for `ssl_mode`"
      some (.option (.configuration reason))
  | "statement-cache-capacity" => numberFault? (UInt64.size - 1) value
  | "port" => numberFault? (UInt16.size - 1) value
  | "hostaddr" => if isAddress value then none else some (.configuration "invalid IP address syntax")
  | _ => none

/-- The names of options. Single settings of the server are options too, with their names in
brackets. -/
def optionNames : List String :=
  ["sslmode", "ssl-mode", "sslrootcert", "ssl-root-cert", "ssl-ca", "sslcert", "ssl-cert", "sslkey",
    "ssl-key", "statement-cache-capacity", "host", "hostaddr", "port", "dbname", "user", "password",
    "application_name", "options"]

/-- Whether there is an option of a name. -/
def isOption (name : String) : Bool :=
  optionNames.contains name || "options[".toList.isPrefixOf name.toList

/-- What is reported about an option that is not known. -/
def unknownOption (option : String × String) : Event :=
  .plain .warn "sqlx_postgres::options::parse" "ignoring unrecognized connect parameter"
    [("key", .shown option.1), ("value", .shown option.2)]

/-- Go through options up to the first that cannot be used. -/
def readOptions : List (String × String) → List Event × Except DatabaseError Unit
  | [] => ([], .ok ())
  | (name, value) :: rest =>
    match optionFault? name value with
    | some fault => ([], .error fault)
    | none =>
      let (events, result) := readOptions rest
      (if isOption name then events else unknownOption (name, value) :: events, result)

/-- The parts of an address that are decoded: the host if it is a path of the file system, the user,
the password, and the name of the database. -/
def encodedParts (url : Web.Url) : List String :=
  let host := (url.host.map Web.Host.text).getD ""
  (if (Web.decodeBytes host.toList).head? = some 47 then [host] else []) ++
    [url.user, url.password.getD "",
      String.ofList (url.path.toList.dropWhile (· = '/'))]

/-- Where the configured database is, and what is reported while the address is read. -/
def address (c : DatabaseConfig) : List Event × Except DatabaseError Web.Url :=
  match Web.Url.parse c.url with
  | .error fault => ([], .error (.configuration fault.message))
  | .ok url =>
    match (encodedParts url).findSome? Web.decodeFault? with
    | some reason => ([], .error (.configuration reason))
    | none =>
      let (events, result) := readOptions url.pairs
      (events, result.map fun _ => url)

end JobLog.Database
