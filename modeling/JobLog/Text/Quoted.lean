import JobLog.Text.Escaped

/-!
# Quoted text

`quoted` shows a text between double quotes: quote and backslash are escaped by a backslash,
NUL, tab, line feed and carriage return by a letter, and every character without a visible form of
its own by its code point, as in `\u{200b}`.
-/

namespace JobLog.Text

/-- Lower-case hexadecimal digits of a number without leading zeros. -/
def hex (n : Nat) : String :=
  String.ofList (Nat.toDigits 16 n)

/-- How one character looks inside quoted text. -/
def quotedChar (c : Char) : String :=
  if c = '"' then "\\\""
  else if c = '\\' then "\\\\"
  else if c = '\x00' then "\\0"
  else if c = '\t' then "\\t"
  else if c = '\n' then "\\n"
  else if c = '\r' then "\\r"
  else if isEscaped c then "\\u\x7b" ++ hex c.toNat ++ "\x7d"
  else c.toString

/-- Text between double quotes with what is special or invisible escaped. -/
def quoted (s : String) : String :=
  s.toList.foldl (fun shown c => shown ++ quotedChar c) "\"" ++ "\""

end JobLog.Text
