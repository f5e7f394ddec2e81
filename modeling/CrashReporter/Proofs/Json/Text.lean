import CrashReporter.Json.Printer
import CrashReporter.Json.Tree
import CrashReporter.Proofs.Json.Numeral

-- The text of a value has the tree of the value. Doubles are left out: what their text
-- reads as is a matter of rounding.

namespace CrashReporter

open Text Decimal

/-! ## Exact values -/

/-- A whole number of 64 bits. -/
def Number.Exact : Number → Prop
  | whole n => -2 ^ 63 ≤ n ∧ n ≤ 2 ^ 64 - 1
  | double _ => False

namespace Json

mutual

/-- Every number in a value is a whole number of 64 bits. -/
def Exact : Json → Prop
  | null => True
  | bool _ => True
  | num n => n.Exact
  | str _ => True
  | arr items => ExactItems items
  | obj members => ExactMembers members

def ExactItems : List Json → Prop
  | [] => True
  | v :: rest => v.Exact ∧ ExactItems rest

def ExactMembers : List (String × Json) → Prop
  | [] => True
  | (_, v) :: rest => v.Exact ∧ ExactMembers rest

end

theorem renderItems_cons (v w : Json) (rest : List Json) :
    renderItems (v :: w :: rest) = v.render ++ ',' :: renderItems (w :: rest) := by
  simp [renderItems]

theorem renderMembers_cons (key : String) (v : Json) (m : String × Json)
    (rest : List (String × Json)) :
    renderMembers ((key, v) :: m :: rest) =
      quoted key ++ ':' :: (v.render ++ ',' :: renderMembers (m :: rest)) := by
  simp [renderMembers]

end Json

namespace Tree

/-! ## Strings -/

theorem unitPiece_of_lt {n : Nat} (h : n < 32) : unitPiece n = .char (Char.ofNat n) := by
  have hall : ∀ m < 32, (isHighHalf m || isLowHalf m) = false := by decide
  simp [unitPiece, hall n h]

theorem hexNumber?_control {n : Nat} (h : n < 32) :
    hexNumber? ['0', '0', hexDigit (n / 16), hexDigit (n % 16)] = some n := by
  have hall : ∀ m < 32,
      hexNumber? ['0', '0', hexDigit (m / 16), hexDigit (m % 16)] = some m := by decide
  exact hall n h

/-- Puts a piece in front of what was read. -/
def withChar (c : Char) (r : List Piece × List Char) : List Piece × List Char :=
  (.char c :: r.1, r.2)

theorem readPieces_escaped {e c : Char} (h : escaped? e = some c) (hu : e ≠ 'u')
    (s : List Char) : readPieces ('\\' :: e :: s) = (readPieces s).map (withChar c) := by
  rw [readPieces]
  · rw [h]
    cases readPieces s <;> rfl
  · rintro a b c d s' rfl
    exact fun _ => hu rfl

theorem readPieces_plain {c : Char} (hquote : c ≠ '"') (hslash : c ≠ '\\') (hlow : 32 ≤ c.toNat)
    (s : List Char) : readPieces (c :: s) = (readPieces s).map (withChar c) := by
  have hmark : c ≠ brokenMark := by
    rintro rfl
    simp [brokenMark] at hlow
  rw [readPieces]
  · have hshown : ¬c.toNat < 32 := by omega
    simp only [beq_iff_eq, hmark, hslash, hshown, decide_false, Bool.false_or, if_false]
    rfl
  · exact hquote
  · intro a b c' d s' heq
    exact absurd heq hslash
  · intro e s' heq
    exact absurd heq hslash

/-- Each character reads back from the way it is written. -/
theorem readPieces_escape (c : Char) (s : List Char) :
    readPieces (Json.escape c ++ s) = (readPieces s).map (withChar c) := by
  unfold Json.escape
  split
  · next h => subst h; exact readPieces_escaped rfl (by decide) s
  split
  · next h => subst h; exact readPieces_escaped rfl (by decide) s
  split
  · next h => subst h; exact readPieces_escaped rfl (by decide) s
  split
  · next h => subst h; exact readPieces_escaped rfl (by decide) s
  split
  · next h => subst h; exact readPieces_escaped rfl (by decide) s
  split
  · next h => subst h; exact readPieces_escaped rfl (by decide) s
  split
  · next h => subst h; exact readPieces_escaped rfl (by decide) s
  split
  · next h =>
    have hchar : Char.ofNat c.toNat = c := Char.ofNat_toNat c
    simp only [List.cons_append, List.nil_append]
    rw [readPieces, hexNumber?_control h]
    cases readPieces s with
    | none => rfl
    | some r => simp [unitPiece_of_lt h, hchar, withChar]
  · next hquote hslash _ _ _ _ _ hlow =>
    exact readPieces_plain hquote hslash (by omega) s

theorem readPieces_escapes (cs tail : List Char) :
    readPieces (cs.flatMap Json.escape ++ '"' :: tail) = some (cs.map .char, tail) := by
  induction cs with
  | nil => rfl
  | cons c cs ih =>
    rw [List.flatMap_cons, List.append_assoc, readPieces_escape, ih]
    rfl

theorem joinPieces_chars (cs : List Char) : joinPieces (cs.map .char) = some cs := by
  induction cs with
  | nil => rfl
  | cons c cs ih => simp [joinPieces, ih]

/-- A text reads back from its quoted form. -/
theorem readText_quoted (s : String) (tail : List Char) :
    readText (s.toList.flatMap Json.escape ++ '"' :: tail) = some (some s, tail) := by
  unfold readText
  simp only [readPieces_escapes, Option.map_some, joinPieces_chars, String.ofList_toList]

/-! ## Values -/

theorem skipSpace_cons {c : Char} (h : isSpace c = false) (s : List Char) :
    skipSpace (c :: s) = c :: s := by
  simp [skipSpace, h]

/-- A numeral begins with a minus sign or a digit. -/
theorem signed_head (n : Int) :
    ∃ c s, signed n = c :: s ∧ (c = '-' ∨ isDigit c = true) := by
  cases n with
  | ofNat n =>
    cases hds : digits n with
    | nil => exact absurd hds (digits_ne_nil n)
    | cons c ds =>
      have hc := isDigit_of_mem_digits (show c ∈ digits n by simp [hds])
      exact ⟨c, ds, hds, .inr hc⟩
  | negSucc n => exact ⟨'-', _, rfl, .inl rfl⟩

theorem numeral_head_ne {c : Char} (h : c = '-' ∨ isDigit c = true) :
    ∀ d ∈ [' ', '\n', '\t', '\r', 'n', 't', 'f', '"', '[', '{', ']'], c ≠ d := by
  rcases h with rfl | h
  · simp
  · have hall : ∀ d ∈ [' ', '\n', '\t', '\r', 'n', 't', 'f', '"', '[', '{', ']'],
        isDigit d = false := by simp [isDigit, digitValue?]
    rintro d hd rfl
    simp [hall c hd] at h

theorem isSpace_numeral_head {c : Char} (h : c = '-' ∨ isDigit c = true) :
    isSpace c = false := by
  have hne := numeral_head_ne h
  simp only [List.mem_cons, List.not_mem_nil, or_false, forall_eq_or_imp, forall_eq] at hne
  simp [isSpace, hne]

/-- What begins like a numeral is read as one. -/
theorem readValue_numeral {c : Char} (h : c = '-' ∨ isDigit c = true) (fuel : Nat)
    (s : List Char) :
    readValue (fuel + 1) (c :: s) =
      (Numeral.read (c :: s)).map fun (numeral, rest) => (num numeral.value?, rest) := by
  have hne := numeral_head_ne h
  unfold readValue
  rw [skipSpace_cons (isSpace_numeral_head h)]
  split
  all_goals first
    | rfl
    | next heq =>
      obtain ⟨rfl, _⟩ := List.cons.inj heq
      simp at hne

/-- An array that does not end at once has items. -/
theorem readValue_arr {c : Char} (hspace : isSpace c = false) (hne : c ≠ ']') (fuel : Nat)
    (s : List Char) :
    readValue (fuel + 1) ('[' :: c :: s) =
      (readItems fuel (c :: s)).map fun (items, rest) => (arr items, rest) := by
  rw [readValue, skipSpace_cons rfl]
  simp only [skipSpace_cons hspace]
  split
  · next heq =>
    obtain ⟨rfl, _⟩ := List.cons.inj heq
    exact absurd rfl hne
  · rfl

/-- A value begins with no blank, and not with the end of an array. -/
theorem render_head {v : Json} (h : v.Exact) :
    ∃ c s, v.render = c :: s ∧ isSpace c = false ∧ c ≠ ']' := by
  cases v with
  | null => exact ⟨'n', _, rfl, rfl, by decide⟩
  | bool b => cases b <;> exact ⟨_, _, rfl, rfl, by decide⟩
  | str s => exact ⟨'"', _, rfl, rfl, by decide⟩
  | arr items => exact ⟨'[', _, rfl, rfl, by decide⟩
  | obj members => exact ⟨'\x7b', _, rfl, rfl, by decide⟩
  | num n =>
    cases n with
    | double bits => exact absurd h id
    | whole n =>
      obtain ⟨c, s, hs, hc⟩ := signed_head n
      exact ⟨c, s, hs, isSpace_numeral_head hc, numeral_head_ne hc ']' (by simp)⟩

theorem renderItems_head {items : List Json} (h : Json.ExactItems items) (hne : items ≠ []) :
    ∃ c s, Json.renderItems items = c :: s ∧ isSpace c = false ∧ c ≠ ']' := by
  cases items with
  | nil => exact absurd rfl hne
  | cons v rest =>
    obtain ⟨c, s, hs, hc⟩ := render_head h.1
    cases rest with
    | nil => exact ⟨c, s, hs, hc⟩
    | cons w rest =>
      refine ⟨c, s ++ ',' :: Json.renderItems (w :: rest), ?_, hc⟩
      rw [Json.renderItems_cons, hs]
      rfl

theorem readValue_obj (fuel : Nat) (s : List Char) :
    readValue (fuel + 1) ('{' :: '"' :: s) =
      (readMembers fuel ('"' :: s)).map fun (members, rest) => (obj members, rest) := by
  rw [readValue, skipSpace_cons rfl]
  simp only [skipSpace_cons (show isSpace '"' = false from rfl)]
  rfl

theorem renderMembers_head (key : String) (v : Json) (rest : List (String × Json)) :
    ∃ s, Json.renderMembers ((key, v) :: rest) = '"' :: s := by
  cases rest with
  | nil => exact ⟨_, rfl⟩
  | cons m rest => exact ⟨_, Json.renderMembers_cons key v m rest⟩

/-- A key and its colon are read, then the value behind it. -/
theorem readMembers_key (key : String) (fuel : Nat) (s : List Char) :
    readMembers (fuel + 1) (Json.quoted key ++ ':' :: s) =
      (readValue fuel s).bind fun (value, rest) =>
        match skipSpace rest with
        | '}' :: rest => some ([(some key, value)], rest)
        | ',' :: rest =>
          (readMembers fuel rest).map fun (members, rest) => ((some key, value) :: members, rest)
        | _ => none := by
  have htext := readText_quoted key (':' :: s)
  rw [Json.quoted, List.cons_append, List.cons_append, readMembers, skipSpace_cons rfl]
  simp only [List.append_assoc, List.singleton_append]
  rewrite [htext]
  rfl

mutual

/-- A value reads back from its text, whatever comes after it in a document. -/
theorem readValue_render : (v : Json) → v.Exact → ∀ {fuel : Nat} {tail : List Char},
    Numeral.Ends tail → 2 * v.render.length + 1 ≤ fuel →
    readValue fuel (v.render ++ tail) = some (ofJson v, tail)
  | .null, _, fuel + 1, tail, _, _ => by
    rw [Json.render, List.cons_append, readValue, skipSpace_cons rfl]
    rfl
  | .bool true, _, fuel + 1, tail, _, _ => by
    rw [Json.render, List.cons_append, readValue, skipSpace_cons rfl]
    rfl
  | .bool false, _, fuel + 1, tail, _, _ => by
    rw [Json.render, List.cons_append, readValue, skipSpace_cons rfl]
    rfl
  | .num (.whole n), h, fuel + 1, tail, hends, _ => by
    obtain ⟨hlow, hhigh⟩ : -2 ^ 63 ≤ n ∧ n ≤ 2 ^ 64 - 1 := h
    obtain ⟨numeral, hread, hvalue⟩ := Numeral.read_signed hlow hhigh hends
    obtain ⟨c, s, hs, hc⟩ := signed_head n
    rw [Json.render, Json.numberText]
    rw [hs, List.cons_append] at hread ⊢
    rw [readValue_numeral hc, hread]
    simp only [Option.map_some, hvalue]
    rfl
  | .str s, _, fuel + 1, tail, _, _ => by
    have htext := readText_quoted s tail
    rw [Json.render, Json.quoted, List.cons_append, List.cons_append, readValue, skipSpace_cons rfl]
    simp only [List.append_assoc, List.singleton_append, htext, Option.map_some]
    rfl
  | .arr [], _, fuel + 1, tail, _, _ => by
    rw [Json.render, Json.renderItems, List.append_assoc, List.cons_append, readValue,
      skipSpace_cons rfl]
    rfl
  | .arr (v :: rest), h, fuel + 1, tail, _, hfuel => by
    rw [Json.render] at hfuel ⊢
    have hitems : readItems fuel (Json.renderItems (v :: rest) ++ ']' :: tail) =
        some (ofItems (v :: rest), tail) :=
      readItems_render (v :: rest) h (List.cons_ne_nil v rest)
        (by simp only [List.length_append, List.length_cons, List.length_nil] at hfuel; omega)
    obtain ⟨c, s, hs, hspace, hne⟩ := renderItems_head h (List.cons_ne_nil v rest)
    rw [hs] at hitems ⊢
    simp only [List.cons_append, List.append_assoc, List.nil_append] at hitems ⊢
    rw [readValue_arr hspace hne, hitems]
    rfl
  | .obj [], _, fuel + 1, tail, _, _ => by
    rw [Json.render, Json.renderMembers, List.append_assoc, List.cons_append, readValue,
      skipSpace_cons rfl]
    rfl
  | .obj ((key, v) :: rest), h, fuel + 1, tail, _, hfuel => by
    rw [Json.render] at hfuel ⊢
    have hmembers : readMembers fuel (Json.renderMembers ((key, v) :: rest) ++ '}' :: tail) =
        some (ofMembers ((key, v) :: rest), tail) :=
      readMembers_render ((key, v) :: rest) h (List.cons_ne_nil _ rest)
        (by simp only [List.length_append, List.length_cons, List.length_nil] at hfuel; omega)
    obtain ⟨s, hs⟩ := renderMembers_head key v rest
    rw [hs] at hmembers ⊢
    simp only [List.cons_append, List.append_assoc, List.nil_append] at hmembers ⊢
    rw [readValue_obj, hmembers]
    rfl

theorem readItems_render : (items : List Json) → Json.ExactItems items → items ≠ [] →
    ∀ {fuel : Nat} {tail : List Char}, 2 * (Json.renderItems items).length + 2 ≤ fuel →
    readItems fuel (Json.renderItems items ++ ']' :: tail) = some (ofItems items, tail)
  | [v], h, _, fuel + 1, tail, hfuel => by
    have hread : readValue fuel (v.render ++ ']' :: tail) = some (ofJson v, ']' :: tail) :=
      readValue_render v h.1 (Numeral.ends_cons (by simp) tail)
        (by rw [Json.renderItems] at hfuel; omega)
    rw [Json.renderItems, readItems, hread]
    rfl
  | v :: w :: rest, h, _, fuel + 1, tail, hfuel => by
    rw [Json.renderItems_cons, List.length_append, List.length_cons] at hfuel
    have hread : readValue fuel
        (v.render ++ ',' :: (Json.renderItems (w :: rest) ++ ']' :: tail)) =
        some (ofJson v, ',' :: (Json.renderItems (w :: rest) ++ ']' :: tail)) :=
      readValue_render v h.1 (Numeral.ends_cons (by simp) _) (by omega)
    have hrest : readItems fuel (Json.renderItems (w :: rest) ++ ']' :: tail) =
        some (ofItems (w :: rest), tail) :=
      readItems_render (w :: rest) h.2 (List.cons_ne_nil w rest) (by omega)
    rw [Json.renderItems_cons, List.append_assoc, List.cons_append, readItems, hread]
    simp only [bind, Option.bind_some, skipSpace_cons (show isSpace ',' = false from rfl), hrest]
    rfl

theorem readMembers_render : (members : List (String × Json)) → Json.ExactMembers members →
    members ≠ [] → ∀ {fuel : Nat} {tail : List Char},
    2 * (Json.renderMembers members).length + 2 ≤ fuel →
    readMembers fuel (Json.renderMembers members ++ '}' :: tail) = some (ofMembers members, tail)
  | [(key, v)], h, _, fuel + 1, tail, hfuel => by
    rw [Json.renderMembers, List.length_append, List.length_cons] at hfuel
    have hread : readValue fuel (v.render ++ '}' :: tail) = some (ofJson v, '}' :: tail) :=
      readValue_render v h.1 (Numeral.ends_cons (by simp) tail) (by omega)
    rw [Json.renderMembers, List.append_assoc, List.cons_append, readMembers_key, hread]
    rfl
  | (key, v) :: m :: rest, h, _, fuel + 1, tail, hfuel => by
    rw [Json.renderMembers_cons, List.length_append, List.length_cons, List.length_append,
      List.length_cons] at hfuel
    have hread : readValue fuel
        (v.render ++ ',' :: (Json.renderMembers (m :: rest) ++ '}' :: tail)) =
        some (ofJson v, ',' :: (Json.renderMembers (m :: rest) ++ '}' :: tail)) :=
      readValue_render v h.1 (Numeral.ends_cons (by simp) _) (by omega)
    have hrest : readMembers fuel (Json.renderMembers (m :: rest) ++ '}' :: tail) =
        some (ofMembers (m :: rest), tail) :=
      readMembers_render (m :: rest) h.2 (List.cons_ne_nil m rest) (by omega)
    rw [Json.renderMembers_cons, List.append_assoc, List.cons_append, List.append_assoc,
      List.cons_append, readMembers_key, hread]
    simp only [Option.bind_some, skipSpace_cons (show isSpace ',' = false from rfl), hrest]
    rfl

end

/-! ## Whole texts -/

/-- A character that is written in a document is none of the control characters. -/
theorem shown_of_isDigit {c : Char} (h : isDigit c = true) : 32 ≤ c.toNat := by
  unfold isDigit digitValue? at h
  split at h
  · next hc =>
    have : '0'.toNat ≤ c.toNat := hc.1
    have hzero : '0'.toNat = 48 := rfl
    omega
  · cases h

theorem shown_signed (n : Int) : ∀ c ∈ signed n, 32 ≤ c.toNat := by
  intro c hc
  cases n with
  | ofNat n => exact shown_of_isDigit (isDigit_of_mem_digits hc)
  | negSucc n =>
    rcases List.mem_cons.1 hc with rfl | hc
    · decide
    · exact shown_of_isDigit (isDigit_of_mem_digits hc)

theorem shown_escape (c : Char) : ∀ d ∈ Json.escape c, 32 ≤ d.toNat := by
  have hhex : ∀ n < 16, 32 ≤ (hexDigit n).toNat := by decide
  unfold Json.escape
  split
  · simp
  split
  · simp
  split
  · simp
  split
  · simp
  split
  · simp
  split
  · simp
  split
  · simp
  split
  · next h =>
    have hhigh := hhex (c.toNat / 16) (by omega)
    have hlow := hhex (c.toNat % 16) (by omega)
    simp [hhigh, hlow]
  · next h =>
    intro d hd
    obtain rfl := List.mem_singleton.1 hd
    omega

theorem shown_quoted (s : String) : ∀ c ∈ Json.quoted s, 32 ≤ c.toNat := by
  intro c hc
  unfold Json.quoted at hc
  simp only [List.cons_append, List.mem_cons, List.mem_append, List.mem_flatMap,
    List.not_mem_nil, or_false] at hc
  rcases hc with rfl | ⟨d, _, hc⟩ | rfl
  · decide
  · exact shown_escape d c hc
  · decide

mutual

/-- No control character stands in the text of a value. -/
theorem shown_render : (v : Json) → v.Exact → ∀ c ∈ v.render, 32 ≤ c.toNat
  | .null, _ => by rw [Json.render]; simp
  | .bool true, _ => by rw [Json.render]; simp
  | .bool false, _ => by rw [Json.render]; simp
  | .num (.whole n), _ => by
    rw [Json.render]
    exact shown_signed n
  | .str s, _ => by
    rw [Json.render]
    exact shown_quoted s
  | .arr items, h => by
    intro c hc
    rw [Json.render] at hc
    simp only [List.cons_append, List.mem_cons, List.mem_append, List.not_mem_nil, or_false] at hc
    rcases hc with rfl | hc | rfl
    · decide
    · exact shown_renderItems items h c hc
    · decide
  | .obj members, h => by
    intro c hc
    rw [Json.render] at hc
    simp only [List.cons_append, List.mem_cons, List.mem_append, List.not_mem_nil, or_false] at hc
    rcases hc with rfl | hc | rfl
    · decide
    · exact shown_renderMembers members h c hc
    · decide

theorem shown_renderItems : (items : List Json) → Json.ExactItems items →
    ∀ c ∈ Json.renderItems items, 32 ≤ c.toNat
  | [], _ => by simp [Json.renderItems]
  | [v], h => by
    rw [Json.renderItems]
    exact shown_render v h.1
  | v :: w :: rest, h => by
    intro c hc
    rw [Json.renderItems_cons] at hc
    simp only [List.mem_append, List.mem_cons] at hc
    rcases hc with hc | rfl | hc
    · exact shown_render v h.1 c hc
    · decide
    · exact shown_renderItems (w :: rest) h.2 c hc

theorem shown_renderMembers : (members : List (String × Json)) → Json.ExactMembers members →
    ∀ c ∈ Json.renderMembers members, 32 ≤ c.toNat
  | [], _ => by simp [Json.renderMembers]
  | [(key, v)], h => by
    intro c hc
    rw [Json.renderMembers] at hc
    simp only [List.mem_append, List.mem_cons] at hc
    rcases hc with hc | rfl | hc
    · exact shown_quoted key c hc
    · decide
    · exact shown_render v h.1 c hc
  | (key, v) :: m :: rest, h => by
    intro c hc
    rw [Json.renderMembers_cons] at hc
    simp only [List.mem_append, List.mem_cons] at hc
    rcases hc with hc | rfl | hc | rfl | hc
    · exact shown_quoted key c hc
    · decide
    · exact shown_render v h.1 c hc
    · decide
    · exact shown_renderMembers (m :: rest) h.2 c hc

end

/-- The text of a value has its tree. -/
theorem ofText_text {v : Json} (h : v.Exact) : ofText v.text.toList = some (ofJson v) := by
  have hmark : v.render.contains brokenMark = false := by
    simp only [List.contains_eq_mem, decide_eq_false_iff_not]
    intro hmem
    have := shown_render v h brokenMark hmem
    simp [brokenMark] at this
  have hread : readValue (2 * v.render.length + 2) (v.render ++ []) = some (ofJson v, []) :=
    readValue_render v h Numeral.ends_nil (by omega)
  rw [List.append_nil] at hread
  unfold ofText ofChars Json.text
  simp only [String.toList_ofList, hmark, hread]
  rfl

end Tree

end CrashReporter
