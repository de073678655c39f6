import JobLog.Text.Utf8
import JobLog.Web.Percent
import JobLog.Web.Url

/-!
# Queries and percent-decoded parts

A query is a list of pairs `name=value` between ampersands. A plus sign in it is a blank, and this is
so before percent-encoded bytes are decoded, so that `%2B` stays a plus sign.
-/

namespace JobLog.Web

/-- What keeps the text that a part of an address stands for from being read. -/
def decodeFault? (part : String) : Option String :=
  (Text.fault? (decodeBytes part.toList)).map Text.Utf8Fault.message

/-- The text that a name or value of a query stands for. -/
def decodeField (s : List Char) : String :=
  Text.lossy (decodeBytes (s.map fun c => if c = '+' then ' ' else c))

/-- The pairs of a query; an entry without an equals sign has an empty value. -/
def pairs (query : String) : List (String × String) :=
  (query.toList.splitOn '&').filterMap fun entry =>
    if entry.isEmpty then none
    else
      let name := entry.takeWhile (· ≠ '=')
      some (decodeField name, decodeField (entry.drop (name.length + 1)))

/-- The pairs of an address's query. -/
def Url.pairs (url : Url) : List (String × String) :=
  Web.pairs (url.query.getD "")

end JobLog.Web
