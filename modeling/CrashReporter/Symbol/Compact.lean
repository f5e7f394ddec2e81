import CrashReporter.Decimal.Digits
import CrashReporter.Symbol.Legacy
import CrashReporter.Symbol.Punycode
import CrashReporter.Text.Quoted

-- Symbol names in the compact form `_R…`: a path written as a tree of tagged
-- nodes, where a node may refer back to an earlier one. The text is produced
-- while the symbol is read. At a fault in the symbol a note takes the place of
-- what cannot be read, and each later part shows as a question mark.

namespace CrashReporter.Symbol.Compact

open Decimal

/-! ## Reading and writing -/

inductive Fault
  | invalid
  | tooDeep

def Fault.note : Fault → String
  | invalid => "\x7binvalid syntax\x7d"
  | tooDeep => "\x7brecursion limit reached\x7d"

structure State where
  symbol : Array Char
  next : Nat := 0
  depth : Nat := 0
  /-- A fault was met; nothing is read any more. -/
  faulty : Bool := false
  /-- The symbol is only checked; no text is produced. -/
  silent : Bool := false
  /-- The text so far, backwards. -/
  out : List Char := []
  /-- The bytes that may still be written. -/
  room : Nat := 1000000
  /-- How many lifetimes are bound. -/
  lifetimes : Nat := 0

/-- Why a step ends early: its part cannot be read, or the text is too long. -/
inductive Halt
  | part
  | full

abbrev Render := ExceptT Halt (StateM State)

/-- A part of the text. A fault within it does not end what surrounds it. -/
def part {α : Type} (x : Render α) (otherwise : α) : Render α :=
  tryCatch x fun
    | .part => pure otherwise
    | .full => throw .full

def emitChars (s : List Char) : Render Unit := do
  let st ← get
  if st.silent then return
  let size := s.foldl (fun n c => n + c.utf8Size) 0
  if st.room < size then throw .full
  set { st with out := s.reverse ++ st.out, room := st.room - size }

def emit (s : String) : Render Unit := emitChars s.toList

/-- Notes a fault. From here on nothing is read. -/
def fail {α : Type} (fault : Fault) : Render α := do
  emit fault.note
  modify fun st => { st with faulty := true }
  throw .part

/-- Before something is read: nothing is left to read after a fault. -/
def expect : Render Unit := do
  if (← get).faulty then
    emit "?"
    throw .part

def peek : Render (Option Char) := do
  let st ← get
  return st.symbol[st.next]?

def advance : Render Unit := modify fun st => { st with next := st.next + 1 }

/-- Takes the character if it comes next. -/
def eat (c : Char) : Render Bool := do
  if !(← get).faulty && (← peek) == some c then
    advance
    return true
  else return false

def nextChar : Render Char := do
  expect
  match ← peek with
  | some c => advance; return c
  | none => fail .invalid

/-- The deepest nesting of nodes. -/
def depthLimit : Nat := 500

def pushDepth : Render Unit := do
  expect
  modify fun st => { st with depth := st.depth + 1 }
  if depthLimit < (← get).depth then fail .tooDeep

def popDepth : Render Unit := modify fun st => { st with depth := st.depth - 1 }

/-! ## Tokens -/

def largest : Nat := UInt64.size - 1

def base62? (c : Char) : Option Nat :=
  if '0' ≤ c ∧ c ≤ '9' then some (c.toNat - 48)
  else if 'a' ≤ c ∧ c ≤ 'z' then some (c.toNat - 97 + 10)
  else if 'A' ≤ c ∧ c ≤ 'Z' then some (c.toNat - 65 + 36)
  else none

/-- Base-62 digits up to an underscore. -/
def base62From : Nat → Nat → Render Nat
  | 0, _ => fail .invalid
  | fuel + 1, x => do
    if ← eat '_' then
      if x < largest then return x + 1 else fail .invalid
    match (← peek).bind base62? with
    | some d =>
      advance
      if x * 62 + d ≤ largest then base62From fuel (x * 62 + d) else fail .invalid
    | none => fail .invalid

/-- A base-62 number; an underscore alone is zero, all others are one more. -/
def base62 : Render Nat := do
  expect
  if ← eat '_' then return 0
  base62From (2 + (← get).symbol.size) 0

/-- A base-62 number behind a tag; zero without the tag, else one more. -/
def tagged (tag : Char) : Render Nat := do
  expect
  if ← eat tag then
    let n ← base62
    if n < largest then return n + 1 else fail .invalid
  else return 0

def disambiguator : Render Nat := tagged 's'

/-- Hexadecimal digits up to an underscore. -/
def nibblesFrom : Nat → List Char → Render (List Char)
  | 0, _ => fail .invalid
  | fuel + 1, back => do
    let c ← nextChar
    if c == '_' then return back.reverse
    else if (Legacy.hexDigitValue? c).isSome then nibblesFrom fuel (c :: back)
    else fail .invalid

def nibbles : Render (List Char) := do
  expect
  nibblesFrom (2 + (← get).symbol.size) []

/-- The number of hexadecimal digits, if it fits 64 bits. -/
def nibblesValue? (ds : List Char) : Option Nat :=
  let ds := ds.dropWhile (· == '0')
  if 16 < ds.length then none
  else (ds.mapM Legacy.hexDigitValue?).map fun values => values.foldl (fun n d => n * 16 + d) 0

/-- A name: its ASCII part and its Punycode part. -/
structure Ident where
  ascii : List Char
  codes : List Char

def Ident.isEmpty (name : Ident) : Bool := name.ascii.isEmpty && name.codes.isEmpty

/-- The digits of a length. A zero stands alone. -/
def lengthDigits : Render Nat := do
  let st ← get
  let rest := (st.symbol.extract st.next (st.next + 24)).toList
  match rest with
  | '0' :: _ => advance; return 0
  | _ =>
    let ds := rest.takeWhile isDigit
    match ds, valueFrom 0 ds with
    | _ :: _, some n =>
      if n ≤ largest then
        modify fun st => { st with next := st.next + ds.length }
        return n
      else fail .invalid
    | _, _ => fail .invalid

def ident : Render Ident := do
  expect
  let coded ← eat 'u'
  let size ← lengthDigits
  let _ ← eat '_'
  let st ← get
  if st.symbol.size < st.next + size then fail .invalid
  let text := (st.symbol.extract st.next (st.next + size)).toList
  set { st with next := st.next + size }
  if coded then
    let name : Ident := match Text.cutLast ['_'] text with
      | some (ascii, codes) => ⟨ascii, codes⟩
      | none => ⟨[], text⟩
    if name.codes.isEmpty then fail .invalid
    return name
  else return ⟨text, []⟩

def Ident.chars (name : Ident) : List Char :=
  match Punycode.decode? name.ascii name.codes with
  | some s => s
  | none =>
    if name.codes.isEmpty then name.ascii
    else "punycode\x7b".toList ++ (if name.ascii.isEmpty then [] else name.ascii ++ ['-']) ++
      name.codes ++ ['\x7d']

def emitIdent (name : Ident) : Render Unit := emitChars name.chars

def emitNat (n : Nat) : Render Unit := emitChars (digits n)

/-! ## Constants -/

/-- The types that have a letter. -/
def basicType? (tag : Char) : Option String :=
  ([('b', "bool"), ('c', "char"), ('e', "str"), ('u', "()"), ('a', "i8"), ('s', "i16"),
    ('l', "i32"), ('x', "i64"), ('n', "i128"), ('i', "isize"), ('h', "u8"), ('t', "u16"),
    ('m', "u32"), ('y', "u64"), ('o', "u128"), ('j', "usize"), ('f', "f32"), ('d', "f64"),
    ('z', "!"), ('p', "_"), ('v', "...")].find? fun e => e.1 == tag).map (·.2)

/-- A literal in quotes. The other kind of quote is not escaped within it. -/
def emitQuoted (mark : Char) (s : List Char) : Render Unit := do
  emitChars [mark]
  for c in s do
    if (mark == '\'' && c == '"') || (mark == '"' && c == '\'') then emitChars [c]
    else emitChars (Text.shown ['"', '\''] c)
  emitChars [mark]

/-- The characters of a text given by the hexadecimal digits of its UTF-8 bytes. -/
def utf8Chars? (ds : List Char) : Option (List Char) := do
  if ds.length % 2 ≠ 0 then none
  let values ← ds.mapM Legacy.hexDigitValue?
  let rec pair : List Nat → List UInt8
    | a :: b :: rest => (a * 16 + b).toUInt8 :: pair rest
    | _ => []
  (String.fromUTF8? ⟨(pair values).toArray⟩).map String.toList

def constUInt (tag : Char) : Render Unit := do
  let ds ← nibbles
  match nibblesValue? ds with
  | some n => emitNat n
  | none => emit "0x"; emitChars ds
  emit ((basicType? tag).getD "")

def constText : Render Unit := do
  match utf8Chars? (← nibbles) with
  | some s => emitQuoted '"' s
  | none => fail .invalid

/-! ## Lifetimes -/

/-- The lifetime with an index: zero is the anonymous one, others count outwards
from the innermost binder. -/
def lifetime (index : Nat) : Render Unit := part (do
  let st ← get
  if st.silent then return
  emit "'"
  if index = 0 then emit "_"
  else if index ≤ st.lifetimes then
    let depth := st.lifetimes - index
    if depth < 26 then emitChars [Char.ofNat (97 + depth)]
    else emit "_"; emitNat depth
  else fail .invalid) ()

/-- Names the lifetimes that a binder introduces. -/
def bindLifetimes : Nat → Nat → Nat → Render Unit
  | 0, _, _ => pure ()
  | fuel + 1, count, i => do
    if i < count then
      if 0 < i then emit ", "
      modify fun st => { st with lifetimes := st.lifetimes + 1 }
      lifetime 1
      bindLifetimes fuel count (i + 1)

/-- Runs `inner` below the binder that may come next. -/
def binder (inner : Render Unit) : Render Unit := part (do
  let count ← tagged 'G'
  if (← get).silent then inner
  else
    if 0 < count then
      emit "for<"
      bindLifetimes 1000001 count 0
      emit "> "
    part inner ()
    modify fun st => { st with lifetimes := st.lifetimes - count }) ()

/-! ## Nodes -/

/-- Runs `target` at an earlier place of the symbol and comes back. A silent run
only checks that the place is earlier. -/
def backref (target : Render Unit) : Render Unit := do
  expect
  let start := (← get).next - 1
  let i ← base62
  if start ≤ i then fail .invalid
  if depthLimit ≤ (← get).depth then fail .tooDeep
  let st ← get
  if st.silent then return
  set { st with next := i, depth := st.depth + 1 }
  part target ()
  modify fun now => { now with next := st.next, depth := st.depth, faulty := st.faulty }

/-- Runs `x` without producing text. -/
def unseen (x : Render Unit) : Render Unit := do
  let silent := (← get).silent
  modify fun st => { st with silent := true }
  part x ()
  modify fun st => { st with silent }

/-- The foreign convention of a function type. -/
def convention : Render (Option (List Char)) := do
  if ← eat 'K' then
    if ← eat 'C' then return some ['C']
    let name ← ident
    if name.ascii.isEmpty || !name.codes.isEmpty then fail .invalid
    return some (name.ascii.map fun c => if c == '_' then '-' else c)
  else return none

/-- Items up to an `E`, with `sep` between them; their number. -/
def items : Nat → String → Render Unit → Nat → Render Nat
  | 0, _, _, _ => fail .invalid
  | fuel + 1, sep, item, count => do
    if (← get).faulty || (← eat 'E') then return count
    if 0 < count then emit sep
    part item ()
    items fuel sep item (count + 1)

/-- Alternatives up to an `E`, behind the first one. A fault in one of them spoils
them all. -/
def alternatives : Nat → Render Unit → Render Unit
  | 0, _ => fail .invalid
  | fuel + 1, item => do
    if ← eat 'E' then return
    if (← get).faulty then fail .invalid
    emit " | "
    part item ()
    alternatives fuel item

/-- What a node can be read as. -/
inductive Goal
  | path (inValue : Bool)
  | argument
  | type
  | pattern
  | const (inValue : Bool)
  | bound
  | namedConst

/-- Reads the node that comes next and writes its text. -/
def node : Nat → Goal → Render Unit
  | 0, _ => fail .tooDeep
  | fuel + 1, .path inValue => part (do
    pushDepth
    let tag ← nextChar
    match tag with
    | 'C' =>
      let dis ← disambiguator
      emitIdent (← ident)
      if dis ≠ 0 then emit "["; emitChars (Nat.toDigits 16 dis); emit "]"
    | 'N' =>
      let ns ← nextChar
      if !(('A' ≤ ns ∧ ns ≤ 'Z') ∨ ('a' ≤ ns ∧ ns ≤ 'z')) then fail .invalid
      node fuel (.path inValue)
      if (← get).faulty then emit "::"
      let dis ← disambiguator
      let name ← ident
      if 'A' ≤ ns ∧ ns ≤ 'Z' then
        emit "::\x7b"
        if ns = 'C' then emit "closure" else if ns = 'S' then emit "shim" else emitChars [ns]
        if !name.isEmpty then emit ":"; emitIdent name
        emit "#"
        emitNat dis
        emit "\x7d"
      else if !name.isEmpty then emit "::"; emitIdent name
    | 'M' | 'X' | 'Y' =>
      if tag ≠ 'Y' then
        let _ ← disambiguator
        unseen (node fuel (.path false))
      emit "<"
      node fuel .type
      if tag ≠ 'M' then
        emit " as "
        node fuel (.path false)
      emit ">"
    | 'I' =>
      node fuel (.path inValue)
      if inValue then emit "::"
      emit "<"
      let _ ← items fuel ", " (node fuel .argument) 0
      emit ">"
    | 'B' => backref (node fuel (.path inValue))
    | _ => fail .invalid
    popDepth) ()
  | fuel + 1, .argument => part (do
    if ← eat 'L' then lifetime (← base62)
    else if ← eat 'K' then node fuel (.const false)
    else node fuel .type) ()
  | fuel + 1, .type => part (do
    if ← eat 'w' then emit "#[splat] "
    let tag ← nextChar
    match basicType? tag with
    | some name => emit name
    | none =>
      pushDepth
      match tag with
      | 'R' | 'Q' =>
        emit "&"
        if ← eat 'L' then
          let index ← base62
          if index ≠ 0 then lifetime index; emit " "
        if tag ≠ 'R' then emit "mut "
        node fuel .type
      | 'P' | 'O' =>
        emit "*"
        if tag ≠ 'P' then emit "mut " else emit "const "
        node fuel .type
      | 'A' | 'S' =>
        emit "["
        node fuel .type
        if tag = 'A' then
          emit "; "
          node fuel (.const true)
        emit "]"
      | 'T' =>
        emit "("
        let count ← items fuel ", " (node fuel .type) 0
        if count = 1 then emit ","
        emit ")"
      | 'F' =>
        binder (do
          let isUnsafe ← eat 'U'
          let foreign ← convention
          if isUnsafe then emit "unsafe "
          match foreign with
          | some name => emit "extern \""; emitChars name; emit "\" "
          | none => pure ()
          emit "fn("
          let _ ← items fuel ", " (node fuel .type) 0
          emit ")"
          if !(← eat 'u') then
            emit " -> "
            node fuel .type)
      | 'D' =>
        emit "dyn "
        binder (do let _ ← items fuel " + " (node fuel .bound) 0)
        if !(← eat 'L') then fail .invalid
        let index ← base62
        if index ≠ 0 then emit " + "; lifetime index
      | 'B' => backref (node fuel .type)
      | 'W' =>
        node fuel .type
        emit " is "
        node fuel .pattern
      | _ =>
        modify fun st => if st.faulty then st else { st with next := st.next - 1 }
        node fuel (.path false)
      popDepth) ()
  | fuel + 1, .pattern => part (do
    match ← nextChar with
    | 'R' =>
      node fuel (.const false)
      emit "..="
      node fuel (.const false)
    | 'O' =>
      pushDepth
      node fuel .pattern
      alternatives fuel (node fuel .pattern)
      popDepth
    | 'N' => emit "!null"
    | _ => fail .invalid) ()
  | fuel + 1, .const inValue => part (do
    let tag ← nextChar
    pushDepth
    let braces := !inValue && (['e', 'A', 'T', 'V'].contains tag ||
      ((tag == 'R' || tag == 'Q') && !(tag == 'R' && (← peek) == some 'e')))
    if braces then emit "\x7b"
    match tag with
    | 'p' => emit "_"
    | 'h' | 't' | 'm' | 'y' | 'o' | 'j' => part (constUInt tag) ()
    | 'a' | 's' | 'l' | 'x' | 'n' | 'i' =>
      if ← eat 'n' then emit "-"
      part (constUInt tag) ()
    | 'b' =>
      match nibblesValue? (← nibbles) with
      | some 0 => emit "false"
      | some 1 => emit "true"
      | _ => fail .invalid
    | 'c' =>
      match nibblesValue? (← nibbles) with
      | some n => if n.isValidChar then emitQuoted '\'' [Char.ofNat n] else fail .invalid
      | none => fail .invalid
    | 'e' => emit "*"; part constText ()
    | 'R' | 'Q' =>
      if tag = 'R' && (← eat 'e') then part constText ()
      else
        emit "&"
        if tag ≠ 'R' then emit "mut "
        node fuel (.const true)
    | 'A' =>
      emit "["
      let _ ← items fuel ", " (node fuel (.const true)) 0
      emit "]"
    | 'T' =>
      emit "("
      let count ← items fuel ", " (node fuel (.const true)) 0
      if count = 1 then emit ","
      emit ")"
    | 'V' =>
      node fuel (.path true)
      match ← nextChar with
      | 'U' => pure ()
      | 'T' =>
        emit "("
        let _ ← items fuel ", " (node fuel (.const true)) 0
        emit ")"
      | 'S' =>
        emit " \x7b "
        let _ ← items fuel ", " (node fuel .namedConst) 0
        emit " \x7d"
      | _ => fail .invalid
    | 'B' => backref (node fuel (.const inValue))
    | _ => fail .invalid
    if braces then emit "\x7d"
    popDepth) ()
  | fuel + 1, .namedConst => part (do
    let _ ← disambiguator
    emitIdent (← ident)
    emit ": "
    node fuel (.const true)) ()
  | fuel + 1, .bound => part (do
    let isOpen ← openPath fuel
    let isOpen ← bindings fuel isOpen
    if isOpen then emit ">") ()
where
  /-- A path whose generic arguments are left open for more; whether they are. -/
  openPath : Nat → Render Bool
    | 0 => fail .tooDeep
    | fuel + 1 => part (do
      if ← eat 'B' then
        expect
        let start := (← get).next - 1
        let i ← base62
        if start ≤ i then fail .invalid
        if depthLimit ≤ (← get).depth then fail .tooDeep
        let st ← get
        if st.silent then return false
        set { st with next := i, depth := st.depth + 1 }
        let isOpen ← part (openPath fuel) false
        modify fun now => { now with next := st.next, depth := st.depth, faulty := st.faulty }
        return isOpen
      else if ← eat 'I' then
        node fuel (.path false)
        emit "<"
        let _ ← items fuel ", " (node fuel .argument) 0
        return true
      else
        node fuel (.path false)
        return false) false
  /-- The associated types and constants of a bound. -/
  bindings : Nat → Bool → Render Bool
    | 0, isOpen => pure isOpen
    | fuel + 1, isOpen => do
      if ← eat 'p' then
        emit (if isOpen then ", " else "<")
        emitIdent (← ident)
        emit " = "
        if ← eat 'K' then node fuel (.const false) else node fuel .type
        bindings fuel true
      else return isOpen

/-! ## Symbols -/

/-- The text behind the lead that marks the form. -/
def body? (s : List Char) : Option (List Char) :=
  match s with
  | '_' :: 'R' :: c :: rest => some (c :: rest)
  | 'R' :: c :: rest => some (c :: rest)
  | '_' :: '_' :: 'R' :: c :: rest => some (c :: rest)
  | _ => none

/-- Fuel for a symbol of this size: every level of nesting can walk over it once. -/
def fuelFor (symbol : Array Char) : Nat := 600 * (symbol.size + 10)

/-- Checks the path that starts at a place; the place behind it. -/
def check? (symbol : Array Char) (next : Nat) : Option Nat :=
  let start : State := { symbol, next, silent := true }
  match (node (fuelFor symbol) (.path false)).run start with
  | (.ok _, st) => if st.faulty then none else some st.next
  | (.error _, _) => none

def isUpper (c : Char) : Bool := 'A' ≤ c && c ≤ 'Z'

/-- The readable text of a symbol in this form, and what follows the symbol. A
second path, for the place that asked for the code, is read and not shown. -/
def demangle? (s : List Char) : Option (List Char × List Char) := do
  let body ← body? s
  if !(body.head?.any isUpper) || !Legacy.isAscii body then none
  else do
    let symbol := body.toArray
    let next ← check? symbol 0
    let next ← if (symbol[next]?).any isUpper then check? symbol next else some next
    let start : State := { symbol }
    let text := match (node (fuelFor symbol) (.path true)).run start with
      | (.ok _, st) => st.out.reverse
      | (.error .full, st) => st.out.reverse ++ "\x7bsize limit reached\x7d".toList
      | (.error .part, st) => st.out.reverse
    return (text, body.drop next)

end CrashReporter.Symbol.Compact
