-- Cutting text into pieces: at a first or last separator, and into lines.
-- Nothing is lost: the pieces and the separator between them are the text.

namespace CrashReporter.Text

/-! ## A prefix -/

/-- What is left of `s` after the leading text `lead`, if `s` begins with it. -/
def after? : List Char → List Char → Option (List Char)
  | [], s => some s
  | _ :: _, [] => none
  | a :: lead, c :: s => if a = c then after? lead s else none

/-- `s` begins with `lead`. -/
def startsWith (lead s : List Char) : Bool := (after? lead s).isSome

/-- `s` ends with `tail`. -/
def endsWith (tail s : List Char) : Bool := startsWith tail.reverse s.reverse

/-- `part` stands somewhere in `s`. -/
def holds (part : List Char) : List Char → Bool
  | [] => part.isEmpty
  | c :: s => startsWith part (c :: s) || holds part s

/-! ## A separator -/

/-- The text before and after the first place where `sep` stands. -/
def cutFirst (sep : List Char) : List Char → Option (List Char × List Char)
  | [] => if sep.isEmpty then some ([], []) else none
  | c :: s =>
    match after? sep (c :: s) with
    | some rest => some ([], rest)
    | none => (cutFirst sep s).map fun (a, b) => (c :: a, b)

/-- The text before and after the last place where `sep` stands. -/
def cutLast (sep : List Char) (s : List Char) : Option (List Char × List Char) :=
  (cutFirst sep.reverse s.reverse).map fun (a, b) => (b.reverse, a.reverse)

theorem after?_eq_some {lead s rest : List Char} (h : after? lead s = some rest) :
    s = lead ++ rest := by
  induction lead generalizing s with
  | nil => simpa [after?] using h
  | cons a lead ih =>
    cases s with
    | nil => simp [after?] at h
    | cons c s =>
      by_cases hac : a = c
      · subst hac
        simp only [after?, if_true] at h
        simp [ih h]
      · simp [after?, hac] at h

@[simp] theorem after?_append (lead s : List Char) : after? lead (lead ++ s) = some s := by
  induction lead with
  | nil => rfl
  | cons a lead ih => simp [after?, ih]

/-- A cut is at the first place where the separator's first character stands, if the rest
of the separator follows there. -/
theorem cutFirst_append_cons {c : Char} {a : List Char} (h : c ∉ a) (sep b : List Char) :
    cutFirst (c :: sep) (a ++ c :: (sep ++ b)) = some (a, b) := by
  induction a with
  | nil => simp [cutFirst, after?]
  | cons d a ih =>
    have hd : c ≠ d := fun heq => h (heq ▸ List.mem_cons_self)
    have hne : after? (c :: sep) (d :: (a ++ c :: (sep ++ b))) = none := by simp [after?, hd]
    simp [cutFirst, hne, ih fun hmem => h (List.mem_cons_of_mem _ hmem)]

/-- A cut is at the first place where its character stands. -/
theorem cutFirst_append {c : Char} {a : List Char} (h : c ∉ a) (b : List Char) :
    cutFirst [c] (a ++ c :: b) = some (a, b) :=
  cutFirst_append_cons h [] b

/-- A cut loses nothing. -/
theorem cutFirst_eq_some {sep s a b : List Char} (h : cutFirst sep s = some (a, b)) :
    s = a ++ sep ++ b := by
  induction s generalizing a with
  | nil =>
    simp only [cutFirst] at h
    split at h
    · next he => simp_all
    · cases h
  | cons c s ih =>
    simp only [cutFirst] at h
    split at h
    · next rest hr =>
      obtain ⟨rfl, rfl⟩ := Prod.mk.inj (Option.some.inj h)
      simpa using after?_eq_some hr
    · obtain ⟨⟨a', b'⟩, hc, he⟩ := Option.map_eq_some_iff.1 h
      obtain ⟨rfl, rfl⟩ := Prod.mk.inj he
      simp [ih hc]

/-! ## Lines -/

/-- A line whose text was read backwards, without the carriage return that
belongs to its line end. -/
def endedLine : List Char → List Char
  | '\r' :: back => back.reverse
  | back => back.reverse

/-- The lines of `s`, where `back` is what was read of the first one, backwards.
The text after the last line feed is a line only if it is not empty. -/
def linesFrom (back : List Char) : List Char → List (List Char)
  | [] => if back.isEmpty then [] else [back.reverse]
  | c :: s => if c = '\n' then endedLine back :: linesFrom [] s else linesFrom (c :: back) s

/-- The lines of a text, each ended by a line feed or by a carriage return and a
line feed; the last one may lack its end. -/
def lines (s : List Char) : List (List Char) := linesFrom [] s

end CrashReporter.Text
