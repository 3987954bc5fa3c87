import PromptCad.Json.Reader

/-! The two texts of a value differ in their blanks alone. A layout tells where blanks stand, and both texts are those
of the value in a layout of their own. -/

namespace PromptCad.Json

def Blank (s : List Char) : Prop := ∀ c ∈ s, isBlank c = true

theorem blank_nil : Blank [] := fun _ h => absurd h List.not_mem_nil

/-- The blanks before the items and before the closing bracket of a list at a level, and after a colon. -/
structure Layout where
  item : Nat → List Char
  closing : Nat → List Char
  colon : List Char
  blank_item (level : Nat) : Blank (item level)
  blank_closing (level : Nat) : Blank (closing level)
  blank_colon : Blank colon

namespace Layout

def tight : Layout := ⟨fun _ => [], fun _ => [], [], fun _ => blank_nil, fun _ => blank_nil, blank_nil⟩

theorem blank_lineBreak (level : Nat) : Blank (lineBreak level) := by
  intro c hc
  rcases List.mem_cons.mp hc with rfl | hc
  · decide
  · rw [List.eq_of_mem_replicate hc]
    decide

def lines : Layout :=
  ⟨fun level => lineBreak (level + 1), lineBreak, [' '], fun level => blank_lineBreak (level + 1), blank_lineBreak,
    List.forall_mem_singleton.mpr (by decide)⟩

variable (l : Layout)

def enclosed (level : Nat) (opening closing : Char) (ts : List (List Char)) : List Char :=
  if ts = [] then [opening, closing]
  else opening :: commas (ts.map (l.item level ++ ·)) ++ l.closing level ++ [closing]

/-- What comes after an item of a list: the other items, each after a comma, then the closing bracket and the rest. -/
def after (level : Nat) (closing : Char) (ts : List (List Char)) (rest : List Char) : List Char :=
  ts.flatMap (fun t => ',' :: (l.item level ++ t)) ++ (l.closing level ++ closing :: rest)

end Layout

theorem commas_cons (t : List Char) (ts : List (List Char)) : commas (t :: ts) = t ++ ts.flatMap (',' :: ·) := by
  induction ts generalizing t with
  | nil => exact (List.append_nil t).symm
  | cons u ts ih => rw [commas, ih, List.flatMap_cons, List.cons_append]

namespace Layout

variable {l : Layout} {level : Nat} {opening closing : Char}

/-- What is left of a list before one of its items, which may be the first. -/
def before (l : Layout) (level : Nat) (closing : Char) : Bool → List (List Char) → List Char → List Char
  | true, [], rest => closing :: rest
  | true, t :: ts, rest => l.item level ++ (t ++ l.after level closing ts rest)
  | false, ts, rest => l.after level closing ts rest

theorem enclosed_append (ts : List (List Char)) (rest : List Char) :
    l.enclosed level opening closing ts ++ rest = opening :: l.before level closing true ts rest := by
  cases ts with
  | nil => rfl
  | cons t ts =>
    rw [enclosed, if_neg (List.cons_ne_nil t ts), List.map_cons, commas_cons, List.flatMap_map, before, after]
    simp only [List.cons_append, List.append_assoc, List.nil_append]

theorem after_cons (t : List Char) (ts : List (List Char)) (rest : List Char) :
    l.after level closing (t :: ts) rest = ',' :: (l.item level ++ (t ++ l.after level closing ts rest)) := by
  rw [after, List.flatMap_cons, after]
  simp only [List.cons_append, List.append_assoc]

/-- A list is at least as long as each of its items, and as their number: so the length of a text is fuel enough. -/
theorem length_le_enclosed (l : Layout) (level : Nat) (opening closing : Char) (ts : List (List Char)) :
    ts.length ≤ (l.enclosed level opening closing ts).length ∧
      ∀ t ∈ ts, t.length ≤ (l.enclosed level opening closing ts).length := by
  have hafter : ∀ ts : List (List Char), ts.length ≤ (l.after level closing ts []).length ∧
      ∀ t ∈ ts, t.length ≤ (l.after level closing ts []).length := by
    intro ts
    induction ts with
    | nil => exact ⟨Nat.zero_le _, fun t ht => absurd ht List.not_mem_nil⟩
    | cons t ts ih =>
      obtain ⟨hcount, hitems⟩ := ih
      rw [after_cons]
      simp only [List.length_cons, List.length_append]
      refine ⟨by omega, List.forall_mem_cons.mpr ⟨by omega, fun u hu => ?_⟩⟩
      have hlength := hitems u hu
      omega
  cases ts with
  | nil => exact ⟨Nat.zero_le _, fun t ht => absurd ht List.not_mem_nil⟩
  | cons t ts =>
    obtain ⟨hcount, hitems⟩ := hafter ts
    rw [← List.append_nil (enclosed ..), enclosed_append, before]
    simp only [List.length_cons, List.length_append]
    refine ⟨by omega, List.forall_mem_cons.mpr ⟨by omega, fun u hu => ?_⟩⟩
    have hlength := hitems u hu
    omega

end Layout

mutual

def Value.laid (l : Layout) (level : Nat) : Value → List Char
  | .null => "null".toList
  | .bool b => boolChars b
  | .number n => n.chars
  | .text s => quoteString s
  | .list items => l.enclosed level '[' ']' (laidItems l level items)
  | .record members => l.enclosed level '{' '}' (laidMembers l level members)

def laidItems (l : Layout) (level : Nat) : List Value → List (List Char)
  | [] => []
  | v :: rest => v.laid l (level + 1) :: laidItems l level rest

def laidMembers (l : Layout) (level : Nat) : List (String × Value) → List (List Char)
  | [] => []
  | (key, v) :: rest => (quoteString key ++ ':' :: (l.colon ++ v.laid l (level + 1))) :: laidMembers l level rest

end

theorem enclosed_tight (level : Nat) (opening closing : Char) (ts : List (List Char)) :
    Layout.tight.enclosed level opening closing ts = opening :: commas ts ++ [closing] := by
  unfold Layout.enclosed
  split
  · next h =>
    rw [h]
    rfl
  · show opening :: commas (ts.map id) ++ [] ++ [closing] = _
    rw [List.map_id, List.append_nil]

mutual

theorem Value.compact_eq (level : Nat) : ∀ v : Value, v.compact = v.laid .tight level
  | .null | .bool _ | .number _ | .text _ => rfl
  | .list items => by rw [Value.compact, Value.laid, enclosed_tight, compactItems_eq level items]
  | .record members => by rw [Value.compact, Value.laid, enclosed_tight, compactMembers_eq level members]

theorem compactItems_eq (level : Nat) : ∀ vs : List Value, compactItems vs = laidItems .tight level vs
  | [] => rfl
  | v :: vs => by rw [compactItems, laidItems, v.compact_eq (level + 1), compactItems_eq level vs]

theorem compactMembers_eq (level : Nat) :
    ∀ ms : List (String × Value), compactMembers ms = laidMembers .tight level ms
  | [] => rfl
  | (key, v) :: ms => by
    rw [compactMembers, laidMembers, v.compact_eq (level + 1), compactMembers_eq level ms]
    rfl

end

mutual

theorem Value.pretty_eq (level : Nat) : ∀ v : Value, v.pretty level = v.laid .lines level
  | .null | .bool _ | .number _ | .text _ => rfl
  | .list items => by
    rw [Value.pretty, Value.laid, prettyItems_eq level items]
    rfl
  | .record members => by
    rw [Value.pretty, Value.laid, prettyMembers_eq level members]
    rfl

theorem prettyItems_eq (level : Nat) : ∀ vs : List Value, prettyItems level vs = laidItems .lines level vs
  | [] => rfl
  | v :: vs => by rw [prettyItems, laidItems, v.pretty_eq (level + 1), prettyItems_eq level vs]

theorem prettyMembers_eq (level : Nat) :
    ∀ ms : List (String × Value), prettyMembers level ms = laidMembers .lines level ms
  | [] => rfl
  | (key, v) :: ms => by
    rw [prettyMembers, laidMembers, v.pretty_eq (level + 1), prettyMembers_eq level ms]
    rfl

end

section Lengths

variable (l : Layout) (level : Nat)

theorem laidItems_map {α : Type} (form : α → Value) (as : List α) :
    laidItems l level (as.map form) = as.map fun a => (form a).laid l (level + 1) := by
  induction as with
  | nil => rfl
  | cons a as ih => rw [List.map_cons, laidItems, ih, List.map_cons]

theorem length_laidMembers (ms : List (String × Value)) : (laidMembers l level ms).length = ms.length := by
  induction ms with
  | nil => rfl
  | cons m ms ih => rw [laidMembers, List.length_cons, List.length_cons, ih]

theorem mem_laidMembers {ms : List (String × Value)} {key : String} {v : Value} (h : (key, v) ∈ ms) :
    quoteString key ++ ':' :: (l.colon ++ v.laid l (level + 1)) ∈ laidMembers l level ms := by
  induction ms with
  | nil => cases h
  | cons m ms ih =>
    rw [laidMembers]
    rcases List.mem_cons.mp h with rfl | h
    · exact List.mem_cons_self
    · exact List.mem_cons_of_mem _ (ih h)

theorem length_le_laid_record (ms : List (String × Value)) :
    ms.length ≤ ((Value.record ms).laid l level).length ∧
      ∀ key v, (key, v) ∈ ms → (v.laid l (level + 1)).length ≤ ((Value.record ms).laid l level).length := by
  obtain ⟨hcount, hmembers⟩ := l.length_le_enclosed level '{' '}' (laidMembers l level ms)
  rw [length_laidMembers] at hcount
  rw [Value.laid]
  refine ⟨hcount, fun key v hv => ?_⟩
  have hlength := hmembers _ (mem_laidMembers l level hv)
  simp only [List.length_append, List.length_cons] at hlength
  omega

theorem length_le_laid_list {α : Type} (form : α → Value) (as : List α) :
    as.length ≤ ((Value.list (as.map form)).laid l level).length := by
  have hcount := (l.length_le_enclosed level '[' ']' (laidItems l level (as.map form))).1
  rw [laidItems_map, List.length_map] at hcount
  rwa [Value.laid, laidItems_map]

end Lengths

end PromptCad.Json
