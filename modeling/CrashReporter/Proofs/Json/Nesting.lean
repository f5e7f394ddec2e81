import CrashReporter.Json.Tree
import CrashReporter.Proofs.Json.Text

-- How deep a value nests, and what its tree denotes. A value whose keys go up comes back
-- from its tree exactly if it nests within the limit.

namespace CrashReporter

namespace Json

mutual

/-- How many arrays and objects stand within each other. -/
def depth : Json → Nat
  | null => 0
  | bool _ => 0
  | num _ => 0
  | str _ => 0
  | arr items => depthItems items + 1
  | obj members => depthMembers members + 1

def depthItems : List Json → Nat
  | [] => 0
  | v :: rest => max v.depth (depthItems rest)

def depthMembers : List (String × Json) → Nat
  | [] => 0
  | (_, v) :: rest => max v.depth (depthMembers rest)

end

mutual

/-- The keys of every object go up. -/
def Ordered : Json → Prop
  | null => True
  | bool _ => True
  | num _ => True
  | str _ => True
  | arr items => OrderedItems items
  | obj members => KeysUp members ∧ OrderedMembers members

def OrderedItems : List Json → Prop
  | [] => True
  | v :: rest => v.Ordered ∧ OrderedItems rest

def OrderedMembers : List (String × Json) → Prop
  | [] => True
  | (_, v) :: rest => v.Ordered ∧ OrderedMembers rest

end

theorem depthItems_le {items : List Json} {n : Nat} :
    depthItems items ≤ n ↔ ∀ v ∈ items, v.depth ≤ n := by
  induction items with
  | nil => simp [depthItems]
  | cons v rest ih => simp only [depthItems, Nat.max_le, ih, List.forall_mem_cons]

theorem depthMembers_le {members : List (String × Json)} {n : Nat} :
    depthMembers members ≤ n ↔ ∀ m ∈ members, m.2.depth ≤ n := by
  induction members with
  | nil => simp [depthMembers]
  | cons m rest ih => simp only [depthMembers, Nat.max_le, ih, List.forall_mem_cons]

theorem depthMembers_append (members more : List (String × Json)) :
    depthMembers (members ++ more) = max (depthMembers members) (depthMembers more) := by
  induction members with
  | nil => simp [depthMembers]
  | cons m rest ih => simp [depthMembers, ih, Nat.max_assoc]

theorem exactItems_iff {items : List Json} : ExactItems items ↔ ∀ v ∈ items, v.Exact := by
  induction items with
  | nil => simp [ExactItems]
  | cons v rest ih => simp [ExactItems, ih]

theorem exactMembers_iff {members : List (String × Json)} :
    ExactMembers members ↔ ∀ m ∈ members, m.2.Exact := by
  induction members with
  | nil => simp [ExactMembers]
  | cons m rest ih => simp [ExactMembers, ih]

theorem exactMembers_append {members more : List (String × Json)} :
    ExactMembers (members ++ more) ↔ ExactMembers members ∧ ExactMembers more := by
  simp only [exactMembers_iff, List.mem_append]
  constructor
  · intro h
    exact ⟨fun m hm => h m (.inl hm), fun m hm => h m (.inr hm)⟩
  · rintro ⟨h, h'⟩ m (hm | hm)
    · exact h m hm
    · exact h' m hm

/-! ## Values that may be missing -/

theorem depth_optional {α : Type} {f : α → Json} (h : ∀ x, (f x).depth = 0) (o : Option α) :
    ((o.map f).getD null).depth = 0 := by
  cases o with
  | none => rfl
  | some x => exact h x

theorem exact_optional {α : Type} {f : α → Json} {o : Option α} (h : ∀ x ∈ o, (f x).Exact) :
    ((o.map f).getD null).Exact := by
  cases o with
  | none => trivial
  | some x => exact h x rfl

theorem strOrNull_eq (o : Option String) : strOrNull o = (o.map str).getD null := by
  cases o <;> rfl

@[simp] theorem depth_strOrNull (o : Option String) : (strOrNull o).depth = 0 := by
  rw [strOrNull_eq]
  exact depth_optional (fun _ => rfl) o

@[simp] theorem exact_strOrNull (o : Option String) : (strOrNull o).Exact := by
  rw [strOrNull_eq]
  exact exact_optional fun _ _ => trivial

end Json

namespace Tree

theorem ofItems_eq_map (items : List Json) : ofItems items = items.map ofJson := by
  induction items with
  | nil => rfl
  | cons v rest ih => simp [ofItems, ih]

theorem ofMembers_eq_map (members : List (String × Json)) :
    ofMembers members = members.map fun m => (some m.1, ofJson m.2) := by
  induction members with
  | nil => rfl
  | cons m rest ih => simp [ofMembers, ih]

mutual

theorem json?_ofJson : (v : Json) → v.Ordered → ∀ room,
    json? room (ofJson v) = if v.depth ≤ room then some v else none
  | .null, _, room => by simp [ofJson, json?, Json.depth]
  | .bool b, _, room => by simp [ofJson, json?, Json.depth]
  | .num n, _, room => by simp [ofJson, json?, Json.depth]
  | .str s, _, room => by simp [ofJson, json?, Json.depth]
  | .arr items, h, 0 => by simp [ofJson, json?, Json.depth]
  | .arr items, h, room + 1 => by
    have hitems := jsonItems?_ofItems items h room
    simp only [ofJson, json?, Json.depth, hitems, Nat.add_le_add_iff_right]
    split <;> rfl
  | .obj members, h, 0 => by simp [ofJson, json?, Json.depth]
  | .obj members, h, room + 1 => by
    have hmembers := jsonMembers?_ofMembers members h.2 room [] h.1
    simp only [ofJson, json?, Json.depth, hmembers, Nat.add_le_add_iff_right, List.nil_append]
    split <;> rfl

theorem jsonItems?_ofItems : (items : List Json) → Json.OrderedItems items → ∀ room,
    jsonItems? room (ofItems items) =
      if Json.depthItems items ≤ room then some items else none
  | [], _, room => by simp [ofItems, jsonItems?, Json.depthItems]
  | v :: rest, h, room => by
    have hv := json?_ofJson v h.1 room
    have hrest := jsonItems?_ofItems rest h.2 room
    simp only [ofItems, jsonItems?, Json.depthItems, hv, hrest, Nat.max_le]
    by_cases hdepth : v.depth ≤ room
    · by_cases hdepths : Json.depthItems rest ≤ room <;> simp [hdepth, hdepths]
    · simp [hdepth]

/-- Members whose keys come after all that were found are put behind them. -/
theorem jsonMembers?_ofMembers : (members : List (String × Json)) →
    Json.OrderedMembers members → ∀ room found, KeysUp (found ++ members) →
    jsonMembers? room (ofMembers members) found =
      if Json.depthMembers members ≤ room then some (found ++ members) else none
  | [], _, room, found, _ => by simp [ofMembers, jsonMembers?, Json.depthMembers]
  | (key, v) :: rest, h, room, found, hup => by
    have hv := json?_ofJson v h.1 room
    have hinsert : insertEntry key v found = found ++ [(key, v)] :=
      insertEntry_of_lt fun e he =>
        (List.pairwise_append.1 hup).2.2 e he (key, v) List.mem_cons_self
    have hup' : KeysUp (found ++ [(key, v)] ++ rest) := by simpa using hup
    have hrest := jsonMembers?_ofMembers rest h.2 room (found ++ [(key, v)]) hup'
    simp only [ofMembers, jsonMembers?, Json.depthMembers, hv, Nat.max_le, bind, Option.bind_some]
    by_cases hdepth : v.depth ≤ room
    · simp only [hdepth, if_true, Option.bind_some, hinsert, hrest, true_and, List.append_assoc,
        List.singleton_append]
    · simp [hdepth]

end

end Tree

end CrashReporter
