import CrashReporter.Decimal.Digits
import CrashReporter.Decimal.Shortest
import CrashReporter.Json.Value
import CrashReporter.Text.Hex

-- The written form of JSON, without any blank. Text is quoted with the fewest
-- escapes; a double has the fewest digits that read back and always shows that
-- it is one.

namespace CrashReporter.Json

open Decimal Text

/-! ## Text -/

/-- Quote, backslash and the control characters are escaped, all else stands for
itself. -/
def escape (c : Char) : List Char :=
  if c = '"' then ['\\', '"']
  else if c = '\\' then ['\\', '\\']
  else if c = '\n' then ['\\', 'n']
  else if c = '\r' then ['\\', 'r']
  else if c = '\t' then ['\\', 't']
  else if c = '\x08' then ['\\', 'b']
  else if c = '\x0c' then ['\\', 'f']
  else if c.toNat < 32 then ['\\', 'u', '0', '0', hexDigit (c.toNat / 16), hexDigit (c.toNat % 16)]
  else [c]

def quoted (s : String) : List Char := '"' :: s.toList.flatMap escape ++ ['"']

/-! ## Numbers -/

/-- Where a double's text is written without an exponent: from the fifth place
behind the point up to sixteen places before it. -/
def positional (point : Int) : Bool := -5 < point && point ≤ 16

/-- The text of `digits * 10 ^ exponent`. -/
def scientificText (d : Scientific) : List Char :=
  let ds := digits d.digits
  let point : Int := ds.length + d.exponent
  if positional point then
    if 0 ≤ d.exponent then ds ++ List.replicate d.exponent.toNat '0' ++ ['.', '0']
    else if 0 < point then ds.take point.toNat ++ '.' :: ds.drop point.toNat
    else '0' :: '.' :: (List.replicate (-point).toNat '0' ++ ds)
  else
    let mark := if 0 < point then ['e', '+'] else ['e', '-']
    let size := digits (point - 1).natAbs
    match ds with
    | [d] => d :: mark ++ size
    | d :: rest => d :: '.' :: rest ++ mark ++ size
    | [] => []

/-- The text of a finite double; what is no number is null. -/
def doubleText (bits : UInt64) : List Char :=
  let size := bits &&& 0x7FFFFFFFFFFFFFFF
  if size ≥ 0x7FF0000000000000 then "null".toList
  else
    let sign := if bits ≥ 0x8000000000000000 then ['-'] else []
    if size = 0 then sign ++ ['0', '.', '0'] else sign ++ scientificText (shortest size)

def numberText : Number → List Char
  | .whole n => signed n
  | .double bits => doubleText bits

/-! ## Values -/

mutual

/-- The written form of a value. -/
def render : Json → List Char
  | null => ['n', 'u', 'l', 'l']
  | bool true => ['t', 'r', 'u', 'e']
  | bool false => ['f', 'a', 'l', 's', 'e']
  | num n => numberText n
  | str s => quoted s
  | arr items => '[' :: renderItems items ++ [']']
  | obj members => '{' :: renderMembers members ++ ['}']

/-- The items of an array with commas between them. -/
def renderItems : List Json → List Char
  | [] => []
  | [v] => render v
  | v :: rest => render v ++ ',' :: renderItems rest

/-- The members of an object with commas between them. -/
def renderMembers : List (String × Json) → List Char
  | [] => []
  | [(k, v)] => quoted k ++ ':' :: render v
  | (k, v) :: rest => quoted k ++ ':' :: (render v ++ ',' :: renderMembers rest)

end

def text (v : Json) : String := String.ofList v.render

end CrashReporter.Json
