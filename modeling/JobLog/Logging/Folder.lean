/-!
# A folder of files

The folder in which a program is started, as far as logging changes it: directories and files by
their relative paths. Paths go through names; `.` stays where it is and `..` goes up, which both ask
for a directory. What lies outside the folder is not looked at, except that nothing can be made at or
below the null device and among the processes.

A directory is made together with those above it that are missing. Those above are found by leaving
out the last name that is not `.`, so that a missing directory with `.` after it is never made.
-/

namespace JobLog.Logging

/-- A relative path as its names. -/
abbrev Path := List String

/-- What stands at a path. -/
inductive Node where
  | directory
  | file
  deriving DecidableEq, Repr

/-- The entries of a folder. -/
abbrev Folder := List (Path × Node)

/-- Why an operation on files fails. -/
inductive FileError where
  | exists
  | notDirectory
  | isDirectory
  | missing
  | nameTooLong
  | nulInName
  deriving DecidableEq, Repr

def FileError.message : FileError → String
  | .exists => "File exists (os error 17)"
  | .notDirectory => "Not a directory (os error 20)"
  | .isDirectory => "Is a directory (os error 21)"
  | .missing => "No such file or directory (os error 2)"
  | .nameTooLong => "File name too long (os error 36)"
  | .nulInName => "file name contained an unexpected NUL byte"

/-- The names of a path; empty ones and `.` lead nowhere else. -/
def Path.ofString (s : String) : Path :=
  ((s.toList.splitOn '/').map String.ofList).filter fun name => name ≠ "" ∧ name ≠ "."

/-- The names on a path, `.` among them. -/
def steps (s : String) : List String :=
  ((s.toList.splitOn '/').map String.ofList).filter (· ≠ "")

/-- Names without those at the end that lead nowhere else. -/
def trimDots (names : List String) : List String :=
  (names.reverse.dropWhile (· = ".")).reverse

theorem trimDots_length_le (names : List String) : (trimDots names).length ≤ names.length := by
  have h := (List.dropWhile_sublist (l := names.reverse) (· = ".")).length_le
  simpa [trimDots] using h

/-- The names of what a path stands in. -/
def parent (names : List String) : List String :=
  trimDots (trimDots names).dropLast

theorem parent_length_lt {names : List String} (h : names ≠ []) :
    (parent names).length < names.length := by
  have h₁ := trimDots_length_le (trimDots names).dropLast
  have h₂ := trimDots_length_le names
  have h₃ := List.length_pos_iff.mpr h
  simp only [parent, List.length_dropLast] at *
  omega

/-- Whether a path starts at the root of the file system. -/
def isAbsolute (s : String) : Bool :=
  s.toList.head? = some '/'

/-- Why no directory can be made at an absolute path. -/
def outsideFault? (s : String) : Option FileError :=
  match steps s with
  | ["dev", "null"] => some .exists
  | "dev" :: "null" :: _ => some .notDirectory
  | "proc" :: _ :: _ => some .missing
  | _ => none

/-- The size in bytes from which on a path is too long. -/
def pathLimit : Nat := 4096

/-- The size in bytes that a name may have. -/
def nameLimit : Nat := 255

namespace Folder

/-- What stands at a path; the empty path is the folder itself. -/
def at? (folder : Folder) (path : Path) : Option Node :=
  if path = [] then some .directory else folder.lookup path

/-- Go down a path of directories from `above`. Ends at the path it reaches, or at none if that lies
outside. -/
def walk (folder : Folder) (above : Path) : List String → Except FileError (Option Path)
  | [] => .ok (some above)
  | name :: rest =>
    if name = "." then folder.walk above rest
    else if name = ".." then
      if above = [] then .ok none else folder.walk above.dropLast rest
    else if nameLimit < name.utf8ByteSize then .error .nameTooLong
    else
      match folder.at? (above ++ [name]) with
      | some .directory => folder.walk (above ++ [name]) rest
      | some .file => .error .notDirectory
      | none => .error .missing

/-- Make one directory in the directory at `above`. -/
def makeIn (folder : Folder) (above : Path) (name : String) :
    Except FileError (Option Path) × Folder :=
  if name = "." ∨ name = ".." then (.error .exists, folder)
  else if nameLimit < name.utf8ByteSize then (.error .nameTooLong, folder)
  else
    match folder.at? (above ++ [name]) with
    | some _ => (.error .exists, folder)
    | none => (.ok (some (above ++ [name])), folder ++ [(above ++ [name], .directory)])

/-- Make one directory, in a directory that is there. -/
def makeOne (folder : Folder) (names : List String) : Except FileError (Option Path) × Folder :=
  match names.getLast?, folder.walk [] names.dropLast with
  | none, _ => (.error .missing, folder)
  | _, .error e => (.error e, folder)
  | _, .ok none => (.ok none, folder)
  | some name, .ok (some above) => folder.makeIn above name

/-- Make one directory unless it is there. -/
def ensure (folder : Folder) (names : List String) : Except FileError (Option Path) × Folder :=
  match folder.makeOne names with
  | (.ok path, folder) => (.ok path, folder)
  | (.error e, folder) =>
    match folder.walk [] names with
    | .ok path => (.ok path, folder)
    | .error _ => (.error e, folder)

/-- Make a directory, and those above it that are missing. -/
def makeDirectories (folder : Folder) (names : List String) :
    Except FileError (Option Path) × Folder :=
  if _h : names = [] then (.ok (some []), folder)
  else
    match folder.ensure names with
    | (.error .missing, folder) =>
      match makeDirectories folder (parent names) with
      | (.error e, folder) => (.error e, folder)
      | (.ok _, folder) => folder.ensure names
    | result => result
termination_by names.length
decreasing_by exact parent_length_lt _h

/-- Make the directory of a path, and those above it that are missing. -/
def makeDirectory (folder : Folder) (path : String) : Except FileError (Option Path) × Folder :=
  if path.toList.contains '\x00' then (.error .nulInName, folder)
  else if pathLimit ≤ path.utf8ByteSize then (.error .nameTooLong, folder)
  else if isAbsolute path then
    match outsideFault? path with
    | some fault => (.error fault, folder)
    | none => (.ok none, folder)
  else folder.makeDirectories (steps path)

/-- Make a file if there is none. -/
def makeFile (folder : Folder) (path : Path) : Folder :=
  match folder.at? path with
  | some _ => folder
  | none => folder ++ [(path, .file)]

end Folder

end JobLog.Logging
