import CrashReporter.Backtrace
import CrashReporter.Proofs.Text.Cut

-- A printed backtrace read back: the frames of the page, in the order they were
-- printed in, whatever else is written around them.

namespace CrashReporter.Backtrace

open Text Decimal

/-! ## The printed form -/

/-- A place in a file. A path with a line but no column may hold colons if what stands
behind the last of them is no number. -/
inductive Location
  | column (path : List Char) (line column : UInt32)
  | line (path : List Char) (line : UInt32)
      (plain : ((cutLast [':'] path).bind fun (_, last) => number? last) = none)
  | file (path : List Char) (plain : ':' ∉ path)

namespace Location

def path : Location → List Char
  | .column path _ _ => path
  | .line path _ _ => path
  | .file path _ => path

def line? : Location → Option UInt32
  | .column _ l _ => some l
  | .line _ l _ => some l
  | .file _ _ => none

def column? : Location → Option UInt32
  | .column _ _ c => some c
  | .line _ _ _ => none
  | .file _ _ => none

def text : Location → List Char
  | .column path l c => path ++ ':' :: (digits l.toNat ++ ':' :: digits c.toNat)
  | .line path l _ => path ++ ':' :: digits l.toNat
  | .file path _ => path

end Location

/-- A location whose text keeps to one line and has no blanks at its end. Blanks in
front of it do no harm. -/
structure Site where
  location : Location
  oneLine : '\n' ∉ location.text
  trimmed : trimEnd location.text = location.text

/-- A symbol that is its own readable text and does not end with a hash. -/
structure PlainSymbol where
  text : List Char
  nonempty : text ≠ []
  oneLine : '\n' ∉ text
  trimmed : trimEnd text = text
  readable : Symbol.readable text = text
  hashless : ∀ head hash, text = head ++ "::h".toList ++ hash →
    ¬(hash.length = 16 ∧ ∀ c ∈ hash, (hexValue? c).isSome)

/-- The blanks in front of a line. -/
structure Indent where
  text : List Char
  blank : ∀ c ∈ text, isBlank c = true
  oneLine : '\n' ∉ text

/-- A frame as it is printed: a line with its index and its symbol, and a line with its
location if it has one. -/
structure Entry where
  indent : Indent
  index : UInt32
  symbol : PlainSymbol
  site : Option (Indent × Site)

/-- A line that gives no location and has no number before its first colon. -/
structure Remark where
  text : List Char
  oneLine : '\n' ∉ text
  placeless : after? "at ".toList (trim text) = none
  numberless : ((cutFirst ": ".toList (trim text)).bind fun (index, _) =>
    number? (trim index)) = none

/-- What stands on a page. -/
inductive Item
  | entry (e : Entry)
  | remark (r : Remark)

def Site.line (s : Site) (indent : Indent) : List Char :=
  indent.text ++ ("at ".toList ++ s.location.text)

def Entry.line (e : Entry) : List Char :=
  e.indent.text ++ (digits e.index.toNat ++ ':' :: ' ' :: e.symbol.text)

def Item.lines : Item → List (List Char)
  | entry e => e.line :: e.site.toList.map fun (indent, site) => site.line indent
  | remark r => [r.text]

/-- The text of a page. An empty remark at its end gives the last line its end. -/
def printed (page : List Item) : String :=
  String.ofList (List.intercalate ['\n'] (page.flatMap Item.lines))

/-! ## The frames of a page -/

/-- The path that is read from a location. Of an empty text nothing is left to read once
its line is trimmed. -/
def Location.filename? (l : Location) : Option String :=
  if l.text = [] then none else some (String.ofList l.path)

/-- The module and the share in the app are those of the symbol as it stands. -/
def Entry.frame (e : Entry) : Frame :=
  let location := e.site.map fun (_, site) => site.location
  { function := some (String.ofList e.symbol.text)
    modulePath := (cutLast "::".toList e.symbol.text).map fun (path, _) =>
      String.ofList (withoutAngles path)
    filename := location.bind Location.filename?
    lineno := location.bind Location.line?
    colno := location.bind Location.column?
    inApp := isInApp (withoutAngles e.symbol.text) }

def Item.frame? : Item → Option Frame
  | entry e => some e.frame
  | remark _ => none

/-! ## Locations -/

theorem number?_digits (n : UInt32) : number? (digits n.toNat) = some n := by
  have hle : n.toNat ≤ UInt32.size - 1 := Nat.le_sub_one_of_lt n.toNat_lt_size
  have hread : bounded? (UInt32.size - 1) (padded 0 n.toNat) = some n.toNat := bounded?_padded hle
  rw [padded_zero] at hread
  rw [number?, hread]
  simp

/-- The numbers of a location are found from the right. -/
theorem place_text (f : Frame) (l : Location) :
    place f l.text =
      { f with
        filename := some (String.ofList l.path)
        lineno := l.line?.or f.lineno
        colno := l.column?.or f.colno } := by
  have hcolon (n : UInt32) : ':' ∉ digits n.toNat := not_mem_digits (by decide) _
  cases l with
  | column path l c =>
    have hlast := cutLast_append (hcolon c) (path ++ ':' :: digits l.toNat)
    have hmiddle := cutLast_append (hcolon l) path
    rw [List.append_assoc, List.cons_append] at hlast
    simp [place, Location.text, Location.path, Location.line?, Location.column?, hlast, hmiddle,
      number?_digits]
  | line path l hplain =>
    have hlast := cutLast_append (hcolon l) path
    have hnone : ((cutLast [':'] path).bind fun (path, last) =>
        (number? last).map fun n => (path, n)) = none := by
      cases hcut : cutLast [':'] path with
      | none => rfl
      | some pieces =>
        rw [hcut, Option.bind_some] at hplain
        simp [hplain]
    simp [place, Location.text, Location.path, Location.line?, Location.column?, hlast, hnone,
      number?_digits]
  | file path hplain =>
    simp [place, Location.text, Location.path, Location.line?, Location.column?,
      cutLast_eq_none hplain]

/-! ## One line -/

/-- What a line says does not depend on its indentation. -/
theorem trim_indent (indent : Indent) (s : List Char) : trim (indent.text ++ s) = trim s := by
  rw [trim, trimStart_append indent.blank, trim]

/-- With no text behind it, the line of a location loses the blank by which it is known. -/
theorem ofText_site (s : Site) (indent : Indent) :
    Line.ofText (trim (s.line indent)) =
      if s.location.text = [] then .other else .location s.location.text := by
  have hstart : trimStart ("at ".toList ++ s.location.text) = "at ".toList ++ s.location.text :=
    trimStart_cons (show isBlank 'a' = false by decide) _
  rw [Site.line, trim_indent]
  split
  · next h =>
    rw [h]
    rfl
  · next h => rw [trim, hstart, trimEnd_append s.trimmed h, Line.ofText, after?_append]

theorem trim_entry (e : Entry) :
    trim e.line = digits e.index.toNat ++ ':' :: ' ' :: e.symbol.text := by
  have hstart := trimStart_padded 0 e.index.toNat (':' :: ' ' :: e.symbol.text)
  have hend := trimEnd_append e.symbol.trimmed e.symbol.nonempty
    (digits e.index.toNat ++ [':', ' '])
  rw [padded_zero] at hstart
  simp only [List.append_assoc, List.cons_append, List.nil_append] at hend
  rw [Entry.line, trim_indent, trim, hstart, hend]

theorem ofText_entry (e : Entry) : Line.ofText (trim e.line) = .frame e.symbol.text := by
  have hplace :
      after? "at ".toList (digits e.index.toNat ++ ':' :: ' ' :: e.symbol.text) = none := by
    cases hds : digits e.index.toNat with
    | nil => exact absurd hds (digits_ne_nil _)
    | cons c ds =>
      have hc : 'a' ≠ c := by
        rintro rfl
        exact not_mem_digits (show isDigit 'a' = false by decide) e.index.toNat (by simp [hds])
      simp [after?, hc]
  have hcut : cutFirst ": ".toList (digits e.index.toNat ++ ':' :: ' ' :: e.symbol.text) =
      some (digits e.index.toNat, e.symbol.text) :=
    cutFirst_append_cons (not_mem_digits (by decide) _) [' '] _
  have hindex : number? (trim (digits e.index.toNat)) = some e.index := by
    rw [trim_of_not_blank fun c hc => not_isBlank_of_isDigit (isDigit_of_mem_digits hc),
      number?_digits]
  rw [trim_entry, Line.ofText, hplace]
  simp only [hcut, hindex]
  simp [e.symbol.nonempty]

theorem ofText_remark (r : Remark) : Line.ofText (trim r.text) = .other := by
  have hnumber := r.numberless
  rw [Line.ofText, r.placeless]
  cases hcut : cutFirst ": ".toList (trim r.text) with
  | none => rfl
  | some pieces =>
    rw [hcut, Option.bind_some] at hnumber
    simp [hnumber]

/-! ## One entry -/

theorem withoutHash_plain (s : PlainSymbol) : withoutHash s.text = s.text := by
  unfold withoutHash
  split
  · next head hash hcut =>
    have hhash := s.hashless head hash (cutLast_eq_some hcut)
    rw [if_neg fun h => hhash ⟨h.1, fun c hc => List.all_eq_true.1 h.2 c hc⟩]
  · rfl

theorem frameOf_plain (s : PlainSymbol) :
    frameOf s.text =
      { function := some (String.ofList s.text)
        modulePath := (cutLast "::".toList s.text).map fun (path, _) =>
          String.ofList (withoutAngles path)
        inApp := isInApp (withoutAngles s.text) } := by
  rw [frameOf, s.readable, withoutHash_plain]

/-- Only a bare path can be empty. -/
theorem Location.numberless_of_empty {l : Location} (h : l.text = []) :
    l.line? = none ∧ l.column? = none := by
  cases l with
  | column path l c => simp [text] at h
  | line path l _ => simp [text] at h
  | file path _ => exact ⟨rfl, rfl⟩

/-! ## The lines of a page -/

/-- The frames after one more line of text, the last frame first. -/
def readLine (frames : List Frame) (line : List Char) : List Frame :=
  step frames (Line.ofText (trim line))

theorem readLine_entry (frames : List Frame) (e : Entry) :
    readLine frames e.line = frameOf e.symbol.text :: frames := by
  rw [readLine, ofText_entry, step]

theorem readLine_remark (frames : List Frame) (r : Remark) : readLine frames r.text = frames := by
  rw [readLine, ofText_remark, step]

/-- A location goes to the last frame. -/
theorem readLine_site (last : Frame) (frames : List Frame) (s : Site) (indent : Indent) :
    readLine (last :: frames) (s.line indent) =
      (if s.location.text = [] then last else place last s.location.text) :: frames := by
  rw [readLine, ofText_site]
  split <;> rfl

theorem foldl_readLine_item (frames : List Frame) (item : Item) :
    item.lines.foldl readLine frames = item.frame?.toList ++ frames := by
  cases item with
  | remark r => exact readLine_remark frames r
  | entry e =>
    cases hsite : e.site with
    | none => simp [Item.lines, Item.frame?, hsite, readLine_entry, Entry.frame, frameOf_plain]
    | some placed =>
      obtain ⟨indent, site⟩ := placed
      by_cases hempty : site.location.text = []
      · obtain ⟨hline, hcolumn⟩ := Location.numberless_of_empty hempty
        simp [Item.lines, Item.frame?, hsite, readLine_entry, readLine_site, hempty, Entry.frame,
          frameOf_plain, Location.filename?, hline, hcolumn]
      · simp [Item.lines, Item.frame?, hsite, readLine_entry, readLine_site, hempty, Entry.frame,
          frameOf_plain, place_text, Location.filename?]

/-- The frames of a page, the last first. -/
theorem foldl_readLine_page (frames : List Frame) (page : List Item) :
    (page.flatMap Item.lines).foldl readLine frames =
      (page.filterMap Item.frame?).reverse ++ frames := by
  induction page generalizing frames with
  | nil => rfl
  | cons item page ih =>
    rw [List.flatMap_cons, List.foldl_append, foldl_readLine_item, ih]
    cases h : item.frame? <;> simp [h]

theorem oneLine_item (item : Item) : ∀ l ∈ item.lines, '\n' ∉ l := by
  have hdigits (n : Nat) : '\n' ∉ digits n := not_mem_digits (by decide) n
  intro l hl
  cases item with
  | remark r =>
    obtain rfl := List.mem_singleton.1 hl
    exact r.oneLine
  | entry e =>
    rcases List.mem_cons.1 hl with rfl | hl
    · simp [Entry.line, e.indent.oneLine, hdigits, e.symbol.oneLine]
    · obtain ⟨⟨indent, site⟩, -, rfl⟩ := List.mem_map.1 hl
      simp [Site.line, indent.oneLine, site.oneLine]

/-- Joined lines are read one after another. An empty line at the end is not read, which
makes no difference. -/
theorem foldl_lines_intercalate {ls : List (List Char)} (h : ∀ l ∈ ls, '\n' ∉ l)
    (frames : List Frame) :
    ((lines (List.intercalate ['\n'] ls)).map fun l => Line.ofText (trim l)).foldl step frames =
      ls.foldl readLine frames := by
  induction ls generalizing frames with
  | nil => rfl
  | cons l ls ih =>
    cases ls with
    | nil =>
      by_cases hl : l = []
      · subst hl
        rfl
      · simp [lines_of_not_mem (h l (by simp)) hl, readLine]
    | cons next ls =>
      have ih := ih (fun l hl => h l (List.mem_cons_of_mem _ hl)) (readLine frames l)
      rw [List.intercalate_cons_cons, List.append_assoc, List.cons_append, List.nil_append,
        lines_append (h l List.mem_cons_self), List.map_cons, List.foldl_cons, trim_endedLine,
        List.foldl_cons]
      exact ih

/-! ## The page -/

/-- A printed page is read back: its frames, in their order, with the symbols as they stand
and their locations as they are given. A location without a text counts as none. -/
theorem a_printed_page_is_read_back (page : List Item) :
    parse (printed page) = ⟨page.filterMap Item.frame?⟩ := by
  have hone : ∀ l ∈ page.flatMap Item.lines, '\n' ∉ l := by
    intro l hl
    obtain ⟨item, -, hl⟩ := List.mem_flatMap.1 hl
    exact oneLine_item item l hl
  rw [parse, printed, String.toList_ofList, foldl_lines_intercalate hone, foldl_readLine_page,
    List.append_nil, List.reverse_reverse]

example : (parse "   0: f\n   at C:/m.rs:7\n").frames =
    [{ function := some "f", filename := some "C:/m.rs", lineno := some 7, inApp := true }] := by
  rfl

/-- The function `f`, at a path without a text. -/
def nowhere : Entry where
  indent := ⟨[], by simp, by simp⟩
  index := 0
  symbol :=
    { text := ['f']
      nonempty := by simp
      oneLine := by decide
      trimmed := rfl
      readable := rfl
      hashless := fun head hash h _ => by
        have hlength := congrArg List.length h
        simp at hlength
        omega }
  site := some (⟨[], by simp, by simp⟩, ⟨.file [] (by simp), by simp [Location.text], rfl⟩)

/-- A path without a text is given, printed and not read back. -/
theorem an_empty_path_is_lost :
    printed [.entry nowhere] = "0: f\nat " ∧
      nowhere.site.map (fun (_, site) => String.ofList site.location.path) = some "" ∧
      (parse (printed [.entry nowhere])).frames.map (·.filename) = [none] :=
  ⟨rfl, rfl, rfl⟩

end CrashReporter.Backtrace
