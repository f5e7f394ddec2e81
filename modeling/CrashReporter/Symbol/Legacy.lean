import CrashReporter.Decimal.Digits
import CrashReporter.Text.Cut

-- Symbol names in the older form `_ZN…E`: path elements, each with its length in
-- front. Characters that a linker does not take are escaped by `$…$`, and two
-- dots stand for the path separator.

namespace CrashReporter.Symbol.Legacy

open Decimal Text

/-! ## Elements -/

/-- The text behind the lead that marks the form. -/
def body? (s : List Char) : Option (List Char) :=
  (after? "_ZN".toList s).orElse fun _ =>
    (after? "ZN".toList s).orElse fun _ => after? "__ZN".toList s

/-- The elements up to the closing `E`, and the text behind it. -/
def elements? : Nat → List Char → Option (List (List Char) × List Char)
  | 0, _ => none
  | _ + 1, 'E' :: rest => some ([], rest)
  | fuel + 1, s =>
    let ds := s.takeWhile isDigit
    let rest := s.dropWhile isDigit
    match ds, valueFrom 0 ds with
    | _ :: _, some size =>
      if size < UInt64.size ∧ size < rest.length then
        (elements? fuel (rest.drop size)).map fun (found, rest') => (rest.take size :: found, rest')
      else none
    | _, _ => none

/-! ## Escapes -/

/-- The control characters. -/
def isControl (c : Char) : Bool := c.toNat < 0x20 || (0x7F ≤ c.toNat && c.toNat < 0xA0)

def hexDigitValue? (c : Char) : Option Nat :=
  if '0' ≤ c ∧ c ≤ '9' then some (c.toNat - 48)
  else if 'a' ≤ c ∧ c ≤ 'f' then some (c.toNat - 87)
  else none

/-- The character with a number in lower-case hexadecimal. -/
def numbered? (ds : List Char) : Option Char :=
  if ds.isEmpty then none
  else do
    let n := (← ds.mapM hexDigitValue?).foldl (fun n d => n * 16 + d) 0
    if n.isValidChar ∧ !isControl (Char.ofNat n) then some (Char.ofNat n) else none

/-- What the name between two dollar signs stands for. -/
def unescape? (name : List Char) : Option Char :=
  match name with
  | ['S', 'P'] => some '@'
  | ['B', 'P'] => some '*'
  | ['R', 'F'] => some '&'
  | ['L', 'T'] => some '<'
  | ['G', 'T'] => some '>'
  | ['L', 'P'] => some '('
  | ['R', 'P'] => some ')'
  | ['C'] => some ','
  | 'u' :: ds => numbered? ds
  | _ => none

/-- The text of an element. At an escape that means nothing the rest is left as it
is. -/
def plainText : Nat → List Char → List Char
  | 0, s => s
  | _ + 1, [] => []
  | fuel + 1, '.' :: '.' :: rest => ':' :: ':' :: plainText fuel rest
  | fuel + 1, '.' :: rest => '.' :: plainText fuel rest
  | fuel + 1, '$' :: rest =>
    match cutFirst ['$'] rest with
    | none => '$' :: rest
    | some (name, behind) =>
      match unescape? name with
      | some c => c :: plainText fuel behind
      | none => '$' :: rest
  | fuel + 1, c :: rest =>
    if rest.any fun c => c == '$' || c == '.' then c :: plainText fuel rest else c :: rest

/-- An underscore before a leading escape is left out. -/
def elementText (s : List Char) : List Char :=
  let s := match s with
    | '_' :: '$' :: rest => '$' :: rest
    | _ => s
  plainText (s.length + 1) s

/-! ## Symbols -/

def isAscii (s : List Char) : Bool := s.all fun c => c.toNat < 128

/-- The readable text of a symbol in this form, and what follows the symbol. -/
def demangle? (s : List Char) : Option (List Char × List Char) := do
  let body ← body? s
  if !isAscii body then none
  else do
    let (found, rest) ← elements? (body.length + 1) body
    return ([':', ':'].intercalate (found.map elementText), rest)

end CrashReporter.Symbol.Legacy
