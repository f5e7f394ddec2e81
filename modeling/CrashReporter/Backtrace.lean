import CrashReporter.Event
import CrashReporter.Symbol

-- Reading a printed backtrace. A line `index: symbol` begins a frame, a line that
-- begins with `at ` places the last frame in a file, and any other line is
-- passed over.

namespace CrashReporter.Backtrace

open Text Decimal

/-! ## Functions -/

/-- Functions that begin with one of these are not the app's own code. -/
def systemLeads : List (List Char) :=
  ["std::", "core::", "alloc::", "tokio::", "futures::", "futures_util::", "async_trait::",
    "tracing::", "loom_report::", "panic_unwind::", "rust_begin_unwind", "rust_panic", "__rust_",
    "_rust_"].map String.toList

/-- Functions that hold one of these are not the app's own code. -/
def systemParts : List (List Char) :=
  ["::panicking::", "::rt::", "::sys_common::", "::sys::"].map String.toList

def isInApp (function : List Char) : Bool :=
  !(systemLeads.any fun lead => startsWith lead function) &&
    !(systemParts.any fun part => holds part function)

/-- Without the hash that ends a symbol in the older form: 16 digits behind `::h`. -/
def withoutHash (function : List Char) : List Char :=
  match cutLast "::h".toList function with
  | some (head, hash) =>
    if hash.length = 16 ∧ (hash.all fun c => (hexValue? c).isSome) then head else function
  | none => function

def withoutAngles (s : List Char) : List Char := s.dropWhile (· == '<')

/-- The frame of a symbol. The module is what stands before the last `::`. -/
def frameOf (symbol : List Char) : Frame :=
  let function := withoutHash (Symbol.readable symbol)
  { function := some (String.ofList function)
    modulePath := (cutLast "::".toList function).map fun (path, _) =>
      String.ofList (withoutAngles path)
    inApp := isInApp (withoutAngles function) }

/-! ## Locations -/

/-- A line or column number. -/
def number? (s : List Char) : Option UInt32 := (bounded? (UInt32.size - 1) s).map Nat.toUInt32

/-- Places a frame at `path:line:column`, `path:line` or `path`. The numbers are
looked for from the right, so a path may hold colons. -/
def place (f : Frame) (location : List Char) : Frame :=
  let bare := { f with filename := some (String.ofList location) }
  match cutLast [':'] location with
  | none => bare
  | some (head, last) =>
    match (cutLast [':'] head).bind fun (path, line) => (number? line).map fun n => (path, n) with
    | some (path, line) =>
      { f with filename := some (String.ofList path), lineno := some line, colno := number? last }
    | none =>
      match number? last with
      | some line => { f with filename := some (String.ofList head), lineno := some line }
      | none => bare

/-! ## Backtraces -/

/-- What a trimmed line says. -/
inductive Line
  | frame (symbol : List Char)
  | location (text : List Char)
  | other

/-- A frame line has a number before its first colon, and a symbol behind it. -/
def Line.ofText (s : List Char) : Line :=
  match after? "at ".toList s with
  | some place => .location place
  | none =>
    match cutFirst ": ".toList s with
    | some (index, symbol) =>
      if (number? (trim index)).isSome && !symbol.isEmpty then .frame symbol else .other
    | none => .other

/-- The frames after one more line; the last frame comes first. -/
def step (frames : List Frame) : Line → List Frame
  | .frame symbol => frameOf symbol :: frames
  | .location text =>
    match frames with
    | last :: rest => place last text :: rest
    | [] => []
  | .other => frames

/-- The stack trace of a printed backtrace. -/
def parse (text : String) : Stacktrace :=
  ⟨(((lines text.toList).map fun line => Line.ofText (trim line)).foldl step []).reverse⟩

end CrashReporter.Backtrace
