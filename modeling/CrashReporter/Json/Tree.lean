import CrashReporter.Dict
import CrashReporter.Json.Numeral
import CrashReporter.Text.Bytes
import CrashReporter.Text.Hex

-- The syntax tree of a JSON text. The text is read once without judging what its
-- tokens denote, since a member that nobody asks for may hold a number that is
-- too large, half a surrogate pair or bytes that are no text, and may be nested to
-- any depth. Who asks for a value gets it by `Tree.json?`, within a limit on the
-- depth.

namespace CrashReporter

/-- A JSON text by its syntax. A number or a text that denotes nothing is `none`;
an object keeps all its members, also those with one key. -/
inductive Tree
  | null
  | bool (value : Bool)
  | num (value : Option Number)
  | str (value : Option String)
  | arr (items : List Tree)
  | obj (members : List (Option String × Tree))
deriving Repr, Inhabited

namespace Tree

open Text

/-! ## Text -/

/-- A piece of quoted text: a character, half a surrogate pair, or a byte that is
part of no character. -/
inductive Piece
  | char (c : Char)
  | half (unit : Nat)
  | broken

def isHighHalf (unit : Nat) : Bool := 0xD800 ≤ unit && unit < 0xDC00
def isLowHalf (unit : Nat) : Bool := 0xDC00 ≤ unit && unit < 0xE000

/-- The piece of a 16-bit unit. -/
def unitPiece (unit : Nat) : Piece :=
  if isHighHalf unit || isLowHalf unit then .half unit else .char (Char.ofNat unit)

/-- Joins the halves of surrogate pairs; a half alone denotes nothing, and nor does
a broken byte. -/
def joinPieces : List Piece → Option (List Char)
  | [] => some []
  | .char c :: rest => (joinPieces rest).map (c :: ·)
  | .half high :: .half low :: rest =>
    if isHighHalf high && isLowHalf low then
      (joinPieces rest).map (Char.ofNat (0x10000 + (high - 0xD800) * 0x400 + (low - 0xDC00)) :: ·)
    else none
  | .half _ :: _ => none
  | .broken :: _ => none

/-- The character after a backslash and what it stands for. -/
def escaped? (c : Char) : Option Char :=
  if c = '"' ∨ c = '\\' ∨ c = '/' then some c
  else if c = 'b' then some '\x08'
  else if c = 'f' then some '\x0c'
  else if c = 'n' then some '\n'
  else if c = 'r' then some '\r'
  else if c = 't' then some '\t'
  else none

/-- The pieces up to the closing quote. -/
def readPieces : List Char → Option (List Piece × List Char)
  | [] => none
  | '"' :: rest => some ([], rest)
  | '\\' :: 'u' :: a :: b :: c :: d :: rest => do
    let unit ← hexNumber? [a, b, c, d]
    let (pieces, rest) ← readPieces rest
    return (unitPiece unit :: pieces, rest)
  | '\\' :: e :: rest => do
    let c ← escaped? e
    let (pieces, rest) ← readPieces rest
    return (.char c :: pieces, rest)
  | c :: rest =>
    if c == brokenMark then
      (readPieces rest).map fun (pieces, rest) => (.broken :: pieces, rest)
    else if c.toNat < 32 || c == '\\' then none
    else (readPieces rest).map fun (pieces, rest) => (.char c :: pieces, rest)

/-- The text up to the closing quote. -/
def readText (s : List Char) : Option (Option String × List Char) :=
  (readPieces s).map fun (pieces, rest) => ((joinPieces pieces).map String.ofList, rest)

/-! ## Values -/

def isSpace (c : Char) : Bool := c == ' ' || c == '\n' || c == '\t' || c == '\r'

def skipSpace (s : List Char) : List Char := s.dropWhile isSpace

mutual

/-- The value at the start of a text. -/
def readValue : Nat → List Char → Option (Tree × List Char)
  | 0, _ => none
  | fuel + 1, s =>
    match skipSpace s with
    | 'n' :: 'u' :: 'l' :: 'l' :: rest => some (null, rest)
    | 't' :: 'r' :: 'u' :: 'e' :: rest => some (bool true, rest)
    | 'f' :: 'a' :: 'l' :: 's' :: 'e' :: rest => some (bool false, rest)
    | '"' :: rest => (readText rest).map fun (text, rest) => (str text, rest)
    | '[' :: rest =>
      match skipSpace rest with
      | ']' :: rest => some (arr [], rest)
      | rest => (readItems fuel rest).map fun (items, rest) => (arr items, rest)
    | '{' :: rest =>
      match skipSpace rest with
      | '}' :: rest => some (obj [], rest)
      | rest => (readMembers fuel rest).map fun (members, rest) => (obj members, rest)
    | s => (Numeral.read s).map fun (numeral, rest) => (num numeral.value?, rest)

/-- The items of an array, at least one, and its closing bracket. -/
def readItems : Nat → List Char → Option (List Tree × List Char)
  | 0, _ => none
  | fuel + 1, s => do
    let (item, rest) ← readValue fuel s
    match skipSpace rest with
    | ']' :: rest => return ([item], rest)
    | ',' :: rest => (readItems fuel rest).map fun (items, rest) => (item :: items, rest)
    | _ => none

/-- The members of an object, at least one, and its closing brace. -/
def readMembers : Nat → List Char → Option (List (Option String × Tree) × List Char)
  | 0, _ => none
  | fuel + 1, s =>
    match skipSpace s with
    | '"' :: rest => do
      let (key, rest) ← readText rest
      match skipSpace rest with
      | ':' :: rest => do
        let (value, rest) ← readValue fuel rest
        match skipSpace rest with
        | '}' :: rest => return ([(key, value)], rest)
        | ',' :: rest =>
          (readMembers fuel rest).map fun (members, rest) => ((key, value) :: members, rest)
        | _ => none
      | _ => none
    | _ => none

end

/-- The tree of all the characters. Every step down takes a character, so twice
their number is fuel enough. -/
def ofChars (s : List Char) : Option Tree := do
  let (tree, rest) ← readValue (2 * s.length + 2) s
  if (skipSpace rest).isEmpty then some tree else none

/-- The tree of a whole text. No JSON text holds a NUL, so one is never taken for a
mark. -/
def ofText (s : List Char) : Option Tree := if s.contains brokenMark then none else ofChars s

/-- The tree of the text in some bytes. A string with bytes that are no text denotes
nothing; outside of strings they are refused. -/
def ofBytes (bytes : List UInt8) : Option Tree :=
  if bytes.contains 0 then none else ofChars (charsOfBytes bytes)

/-! ## What a tree denotes -/

/-- The deepest nesting of arrays and objects that is followed. -/
def depthLimit : Nat := 127

mutual

/-- The free-form value of a tree that nests at most `room` levels. The members
of an object are in key order, and of two with one key the later counts. -/
def json? (room : Nat) : Tree → Option Json
  | null => some .null
  | bool b => some (.bool b)
  | num n => n.map .num
  | str s => s.map .str
  | arr items =>
    match room with
    | 0 => none
    | room + 1 => (jsonItems? room items).map .arr
  | obj members =>
    match room with
    | 0 => none
    | room + 1 => (jsonMembers? room members []).map .obj

def jsonItems? (room : Nat) : List Tree → Option (List Json)
  | [] => some []
  | t :: rest => do
    let v ← json? room t
    let vs ← jsonItems? room rest
    return v :: vs

def jsonMembers? (room : Nat) :
    List (Option String × Tree) → List (String × Json) → Option (List (String × Json))
  | [], found => some found
  | (key, t) :: rest, found => do
    let key ← key
    let v ← json? room t
    jsonMembers? room rest (insertEntry key v found)

end

mutual

/-- The tree of a value. -/
def ofJson : Json → Tree
  | .null => null
  | .bool b => bool b
  | .num n => num (some n)
  | .str s => str (some s)
  | .arr items => arr (ofItems items)
  | .obj members => obj (ofMembers members)

def ofItems : List Json → List Tree
  | [] => []
  | v :: rest => ofJson v :: ofItems rest

def ofMembers : List (String × Json) → List (Option String × Tree)
  | [] => []
  | (key, v) :: rest => (some key, ofJson v) :: ofMembers rest

end

end Tree

namespace Json

/-- The free-form value of a JSON text. -/
def ofText? (s : String) : Option Json :=
  (Tree.ofText s.toList).bind (Tree.json? Tree.depthLimit)

end Json

end CrashReporter
