import CrashReporter.Json.Printer
import CrashReporter.Text.Printable

-- Values as they show in diagnostics: quoted text, and the layout of records and
-- lists. Quoted text escapes what would not show.

namespace CrashReporter.Text

/-! ## Quoted text -/

/-- A character by its number in hexadecimal. -/
def byNumber (c : Char) : List Char :=
  '\\' :: 'u' :: '\x7b' :: (Nat.toDigits 16 c.toNat ++ ['\x7d'])

/-- The escapes within quoted text; `marks` are the quotes that are escaped. -/
def shown (marks : List Char) (c : Char) : List Char :=
  if c = '\x00' then ['\\', '0']
  else if c = '\t' then ['\\', 't']
  else if c = '\r' then ['\\', 'r']
  else if c = '\n' then ['\\', 'n']
  else if c = '\\' ∨ c ∈ marks then ['\\', c]
  else if isJoining c || !isPrintable c then byNumber c
  else [c]

/-- The text in double quotes. -/
def quoted (s : String) : String :=
  String.ofList ('"' :: s.toList.flatMap (shown ['"']) ++ ['"'])

/-! ## Layout -/

/-- A record by its name and its fields. -/
def record (name : String) (fields : List (String × String)) : String :=
  name ++ " \x7b " ++ String.intercalate ", " (fields.map fun f => f.1 ++ ": " ++ f.2) ++ " \x7d"

/-- A dictionary from text to text. -/
def dictionary (entries : List (String × String)) : String :=
  let shown := entries.map fun e => quoted e.1 ++ ": " ++ quoted e.2
  "\x7b" ++ String.intercalate ", " shown ++ "\x7d"

/-- A value that may be missing. -/
def maybe : Option String → String
  | some s => "Some(" ++ s ++ ")"
  | none => "None"

end CrashReporter.Text
