import CrashReporter.Json.Printer
import CrashReporter.Json.Reader
import CrashReporter.Text.Cut

-- Session ids: 128 bits, written as 32 hexadecimal digits in five groups.

namespace CrashReporter

structure SessionId where
  bits : BitVec 128
deriving DecidableEq, Repr, Inhabited

namespace SessionId

open Text

/-! ## Writing -/

/-- All 32 digits without hyphens. -/
def plain (id : SessionId) : List Char := hexDigits 32 id.bits.toNat

/-- Groups of 8, 4, 4, 4 and 12 digits. -/
def hyphenated (ds : List Char) : List Char :=
  ds.take 8 ++ '-' :: (ds.drop 8).take 4 ++ '-' :: (ds.drop 12).take 4 ++
    '-' :: (ds.drop 16).take 4 ++ '-' :: ds.drop 20

def text (id : SessionId) : String := String.ofList (hyphenated id.plain)

def toJson (id : SessionId) : Json := .str id.text

/-! ## Reading -/

/-- The id of 32 digits in any letter case. -/
def ofDigits? (ds : List Char) : Option SessionId :=
  if ds.length = 32 then (hexNumber? ds).map fun n => ⟨BitVec.ofNat 128 n⟩ else none

/-- The id of five groups of digits. -/
def ofGroups? (s : List Char) : Option SessionId :=
  let ds := s.filter fun c => c != '-'
  if s.length = 36 ∧ hyphenated ds = s then ofDigits? ds else none

/-- An id may be plain, in groups, in groups within braces, or in groups after
the lead `urn:uuid:`. -/
def ofText? (text : String) : Option SessionId :=
  let s := text.toList
  if s.length = 32 then ofDigits? s
  else if s.length = 36 then ofGroups? s
  else if s.length = 38 ∧ s.head? = some '{' ∧ s.getLast? = some '}' then
    ofGroups? (s.drop 1).dropLast
  else if s.length = 45 ∧ (s.take 9).map Char.toLower = "urn:uuid:".toList then
    ofGroups? (s.drop 9)
  else none

def reader : Reader SessionId := fun room t => (Reader.string room t).bind ofText?

end SessionId

end CrashReporter
