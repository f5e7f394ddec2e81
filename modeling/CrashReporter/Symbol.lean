import CrashReporter.Symbol.Compact

-- Symbols of a program and their readable text. A name in neither of the two
-- forms stays as it is.

namespace CrashReporter.Symbol

open Text

/-- The characters of the number behind a symbol that was moved. -/
def isMoveMark (c : Char) : Bool := ('A' ≤ c && c ≤ 'F') || ('0' ≤ c && c ≤ '9') || c == '@'

/-- Without the ending that a link-time optimiser appends to a symbol it moves. -/
def withoutMoved (s : List Char) : List Char :=
  match cutFirst ".llvm.".toList s with
  | some (symbol, number) => if number.all isMoveMark then symbol else s
  | none => s

/-- What may follow a symbol: words behind a dot, of printing ASCII characters. -/
def isEnding (s : List Char) : Bool :=
  s.isEmpty || (s.head? == some '.' && s.all fun c => 0x20 < c.toNat && c.toNat < 0x7F)

/-- The readable text of a symbol. -/
def readable (symbol : List Char) : List Char :=
  let s := withoutMoved symbol
  match (Legacy.demangle? s).orElse fun _ => Compact.demangle? s with
  | some (text, ending) => if isEnding ending then text ++ ending else s
  | none => s

end CrashReporter.Symbol
