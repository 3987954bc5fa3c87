import PromptCad.Unicode.DecimalDigit
import PromptCad.Unicode.WhiteSpace

/-! Sentence templates and the ways in which a line fits one. A template is a list of pieces; a reading of a line
cuts the whole line into texts that fit the pieces one by one, and keeps the numbers and units among them. Runs of
digits, letters and blanks are taken whole, for what may follow such a run in a template starts with no character of
it; where blanks may be left to the piece after them, both ways are tried. -/

namespace PromptCad.Prompt

open Unicode (isDecimalDigit isWhiteSpace)

inductive Piece where
  /-- One of these words. -/
  | word (choices : List String)
  /-- One blank or more. -/
  | blanks
  /-- Any number of blanks. -/
  | gap
  /-- A number that is kept. -/
  | number
  /-- A run of the letters a to z that is kept. -/
  | unit
  /-- Such a run or nothing, whichever it is being kept. -/
  | unitIfAny
deriving DecidableEq

inductive Capture where
  | number (text : List Char)
  | unit (text : Option (List Char))
deriving DecidableEq

/-- The run of characters of one class that a text starts with, and the text after it. -/
def run? (p : Char → Bool) (s : List Char) : Option (List Char × List Char) :=
  if s.takeWhile p = [] then none else some (s.takeWhile p, s.dropWhile p)

def fraction? : List Char → Option (List Char × List Char)
  | '.' :: s => (run? isDecimalDigit s).map fun cut => ('.' :: cut.1, cut.2)
  | _ => none

/-- Digits, digits with a point and digits, or a point and digits at the front of a text, and the text after them. -/
def unsignedNumber? (s : List Char) : Option (List Char × List Char) :=
  match run? isDecimalDigit s with
  | none => fraction? s
  | some (whole, rest) => match fraction? rest with
    | none => some (whole, rest)
    | some (places, rest) => some (whole ++ places, rest)

def isSign (c : Char) : Bool := c = '-' || c = '+'

def number? : List Char → Option (List Char × List Char)
  | [] => none
  | c :: s =>
    if isSign c then (unsignedNumber? s).map fun cut => (c :: cut.1, cut.2) else unsignedNumber? (c :: s)

def isUnitLetter (c : Char) : Bool := 'a' ≤ c && c ≤ 'z'

def afterWord? (w s : List Char) : Option (List Char) :=
  if w.isPrefixOf s then some (s.drop w.length) else none

/-- The ways to fit a piece at the front of a text: what is kept, and the text after it. -/
def Piece.cuts : Piece → List Char → List (List Capture × List Char)
  | word choices, s => (choices.filterMap fun w => afterWord? w.toList s).map (([], ·))
  | blanks, s => (run? isWhiteSpace s).toList.map fun cut => ([], cut.2)
  | gap, s => ((run? isWhiteSpace s).toList.map fun cut => ([], cut.2)) ++ [([], s)]
  | number, s => (number? s).toList.map fun cut => ([.number cut.1], cut.2)
  | unit, s => (run? isUnitLetter s).toList.map fun cut => ([.unit (some cut.1)], cut.2)
  | unitIfAny, s =>
    ((run? isUnitLetter s).toList.map fun cut => ([.unit (some cut.1)], cut.2)) ++ [([.unit none], s)]

/-- What each reading of a whole line keeps. -/
def readings : List Piece → List Char → List (List Capture)
  | [], s => if s = [] then [[]] else []
  | p :: ps, s => (p.cuts s).flatMap fun cut => (readings ps cut.2).map (cut.1 ++ ·)

inductive Template where
  | sharedUnitBox
  | boxBy
  | cube
  | cylinder
  | sphere
deriving DecidableEq

/-- A length with its unit, between blanks that have to be there. -/
def lengthPieces : List Piece := [.number, .gap, .unit]

def byPieces : List Piece := [.blanks, .word ["by"], .blanks]

def timesPieces : List Piece := [.gap, .word ["x"], .gap]

/-- The forms of the templates. A cube has two, with the word in front and with the word at the end. -/
def Template.forms : List (Template × List Piece) :=
  [(sharedUnitBox, .number :: timesPieces ++ .number :: timesPieces ++ lengthPieces ++
      [.blanks, .word ["box", "cube"]]),
   (boxBy, .word ["box"] :: .blanks :: lengthPieces ++ byPieces ++ lengthPieces ++ byPieces ++ lengthPieces),
   (cube, .word ["cube"] :: .blanks :: lengthPieces),
   (cube, lengthPieces ++ [.blanks, .word ["cube"]]),
   (cylinder, [.word ["cylinder"], .blanks, .word ["radius"], .blanks, .number, .gap, .unitIfAny, .blanks,
      .word ["height"], .blanks, .number, .gap, .unitIfAny]),
   (sphere, [.word ["sphere"], .blanks, .word ["radius"], .blanks, .number, .gap, .unitIfAny])]

/-- The text is cut at the end of its longest start in the class. -/
theorem run?_eq_some_iff {p : Char → Bool} {s a b : List Char} :
    run? p s = some (a, b) ↔
      s = a ++ b ∧ a ≠ [] ∧ (∀ c ∈ a, p c = true) ∧ ∀ c ∈ b.head?, p c = false := by
  unfold run?
  constructor
  · intro h
    split at h
    · contradiction
    · next hne =>
      simp only [Option.some.injEq, Prod.mk.injEq] at h
      obtain ⟨rfl, rfl⟩ := h
      refine ⟨(List.takeWhile_append_dropWhile).symm, hne, List.all_eq_true.mp List.all_takeWhile, ?_⟩
      intro c hc
      have := List.head?_dropWhile_not p s
      simp_all
  · rintro ⟨rfl, hne, hall, hstop⟩
    have ht : (a ++ b).takeWhile p = a := by
      rw [List.takeWhile_append_of_pos hall]
      cases b with
      | nil => simp
      | cons c b => simp [hstop c rfl]
    have hd : (a ++ b).dropWhile p = b := by
      rw [List.dropWhile_append_of_pos hall]
      cases b with
      | nil => simp
      | cons c b => simp [hstop c rfl]
    rw [ht, hd, if_neg hne]

theorem append_of_fraction? {s a b : List Char} (h : fraction? s = some (a, b)) : s = a ++ b := by
  unfold fraction? at h
  split at h
  · obtain ⟨⟨ds, rest⟩, hr, he⟩ := Option.map_eq_some_iff.mp h
    obtain ⟨rfl, rfl⟩ := Prod.mk.inj he
    rw [(run?_eq_some_iff.mp hr).1, List.cons_append]
  · contradiction

theorem append_of_unsignedNumber? {s a b : List Char} (h : unsignedNumber? s = some (a, b)) : s = a ++ b := by
  unfold unsignedNumber? at h
  split at h
  · exact append_of_fraction? h
  · next whole rest hr =>
    have hs := (run?_eq_some_iff.mp hr).1
    split at h
    · obtain ⟨rfl, rfl⟩ := Prod.mk.inj (Option.some.inj h)
      exact hs
    · next places rest' hf =>
      obtain ⟨rfl, rfl⟩ := Prod.mk.inj (Option.some.inj h)
      rw [hs, append_of_fraction? hf, List.append_assoc]

/-- A number and the text after it are the whole text. -/
theorem append_of_number? {s a b : List Char} (h : number? s = some (a, b)) : s = a ++ b := by
  cases s with
  | nil => contradiction
  | cons c s =>
    rw [number?] at h
    split at h
    · obtain ⟨⟨ds, rest⟩, hu, he⟩ := Option.map_eq_some_iff.mp h
      obtain ⟨rfl, rfl⟩ := Prod.mk.inj he
      rw [append_of_unsignedNumber? hu, List.cons_append]
    · exact append_of_unsignedNumber? h

end PromptCad.Prompt
