import JobLog.Error

/-!
# Announcements to viewers

Viewers of a job listen on its channel. This broadcaster keeps what it is asked to announce. It can
be told to fail, which every later announcement then does.
-/

namespace JobLog

/-- An event for the viewers that listen on a channel; `data` is JSON. -/
structure Announcement where
  channel : String
  event : String
  data : String
  deriving DecidableEq, Repr

/-- A broadcaster in memory. -/
structure Board where
  announced : List Announcement
  fault : Option String
  deriving DecidableEq, Repr

namespace Board

def empty : Board := ⟨[], none⟩

/-- Fail every later announcement. -/
def failWith (b : Board) (reason : String) : Board :=
  { b with fault := some reason }

/-- Announce an event. -/
def publish (b : Board) (announcement : Announcement) : Except BroadcastError Unit × Board :=
  match b.fault with
  | some reason => (.error (.unavailable reason), b)
  | none => (.ok (), { b with announced := b.announced ++ [announcement] })

end Board

end JobLog
