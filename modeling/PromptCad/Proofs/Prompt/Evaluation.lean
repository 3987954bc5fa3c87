import PromptCad.Proofs.Prompt.Sentence

/-! Templates evaluated as patterns. A pattern leaves open how far its runs reach and whether a part that may be left
out is there. An evaluation tries the ways in an order of its own and takes the first by which the whole line is read.
No line has two readings, so neither this order nor that of the templates is of any consequence. -/

namespace PromptCad.Prompt

open Grammar Unicode

/-- What a piece asks of a text, in the terms of regular expressions. -/
inductive Pattern where
  /-- One character of a class. -/
  | one (p : Char → Bool)
  /-- One character of a class or more. -/
  | run (p : Char → Bool)
  /-- One of these words. -/
  | word (choices : List String)
  | seq (first second : Pattern)
  | either (first second : Pattern)
  | optional (part : Pattern)

def Pattern.language : Pattern → Language Char
  | one p => {s | ∃ c, p c = true ∧ s = [c]}
  | run p => Grammar.run p
  | word choices => {s | ∃ w ∈ choices, s = w.toList}
  | seq first second => first.language * second.language
  | either first second => first.language + second.language
  | optional part => part.language + 1

/-- The order in which the ways to go on are tried. -/
inductive Strategy where
  /-- To go on comes before to stop. -/
  | greedy
  /-- To stop comes before to go on. -/
  | lazy
  /-- What takes more of the line comes before what takes less. -/
  | longest
deriving DecidableEq

namespace Strategy

def prefer {α : Type} (σ : Strategy) (more less : List α) : List α :=
  if σ = lazy then less ++ more else more ++ less

/-- The runs of a class at the front of a text, each with the text after it. -/
def runs (σ : Strategy) (p : Char → Bool) : List Char → List (List Char × List Char)
  | [] => []
  | c :: s => if p c then σ.prefer ((σ.runs p s).map fun cut => (c :: cut.1, cut.2)) [([c], s)] else []

/-- The texts of a pattern at the front of a text, each with the text after it. Of two patterns the one that is written
first is tried first. -/
def ways (σ : Strategy) : Pattern → List Char → List (List Char × List Char)
  | .one _, [] => []
  | .one p, c :: s => if p c then [([c], s)] else []
  | .run p, s => σ.runs p s
  | .word choices, s => choices.filterMap fun w => (afterWord? w.toList s).map (w.toList, ·)
  | .seq first second, s =>
    (σ.ways first s).flatMap fun cut => (σ.ways second cut.2).map fun next => (cut.1 ++ next.1, next.2)
  | .either first second, s => σ.ways first s ++ σ.ways second s
  | .optional part, s => σ.prefer (σ.ways part s) [([], s)]

def arrange (σ : Strategy) (cuts : List (List Char × List Char)) : List (List Char × List Char) :=
  if σ = longest then cuts.mergeSort fun cut other => other.1.length ≤ cut.1.length else cuts

end Strategy

namespace Piece

def pattern : Piece → Pattern
  | word choices => .word choices
  | blanks => .run isWhiteSpace
  | gap => .optional (.run isWhiteSpace)
  | number =>
    .seq (.optional (.one isSign)) <|
      .either (.seq (.run isDecimalDigit) (.optional (.seq (.one (· = '.')) (.run isDecimalDigit))))
        (.seq (.one (· = '.')) (.run isDecimalDigit))
  | unit => .run isUnitLetter
  | unitIfAny => .optional (.run isUnitLetter)

def keep : Piece → List Char → List Capture
  | word _, _ | blanks, _ | gap, _ => []
  | number, a => [.number a]
  | unit, a => [.unit (some a)]
  | unitIfAny, a => [.unit (if a = [] then none else some a)]

end Piece

namespace Strategy

/-- What the readings of a whole line keep, in the order in which they are found. -/
def readings (σ : Strategy) : List Piece → List Char → List (List Capture)
  | [], s => if s = [] then [[]] else []
  | p :: ps, s => (σ.arrange (σ.ways p.pattern s)).flatMap fun cut => (σ.readings ps cut.2).map (p.keep cut.1 ++ ·)

def ofForms (σ : Strategy) (forms : List (Template × List Piece)) (line : List Char) : List Sentence :=
  forms.flatMap fun form => (σ.readings form.2 line).filterMap fun cs =>
    Sentence.assemble? form.1 (measurements cs)

def ofLine (σ : Strategy) (forms : List (Template × List Piece)) (line : List Char) :
    Except PromptError (Option Sentence) :=
  match (σ.ofForms forms line).head? with
  | some sentence => .ok (some sentence)
  | none => match Sentence.commitment? line with
    | some keyword => .error (.missingDimension keyword)
    | none => .ok none

def read (σ : Strategy) (forms : List (Template × List Piece)) (line : String) : Except PromptError (Option Sentence) :=
  σ.ofLine forms (normalizeChars line.toList)

end Strategy

variable {σ : Strategy} {p : Char → Bool} {ps : List Piece} {forms : List (Template × List Piece)} {a b s : List Char}
  {ks cs : List Capture} {m : Sentence}

namespace Strategy

theorem mem_prefer {α : Type} {x : α} {more less : List α} : x ∈ σ.prefer more less ↔ x ∈ more ∨ x ∈ less := by
  unfold prefer
  split
  · rw [List.mem_append, or_comm]
  · rw [List.mem_append]

theorem mem_arrange {cut : List Char × List Char} {cuts : List (List Char × List Char)} :
    cut ∈ σ.arrange cuts ↔ cut ∈ cuts := by
  unfold arrange
  split
  · exact List.mem_mergeSort
  · exact Iff.rfl

theorem mem_runs : (a, b) ∈ σ.runs p s ↔ s = a ++ b ∧ a ∈ Grammar.run p := by
  induction s generalizing a with
  | nil =>
    rw [runs]
    refine ⟨nofun, fun ⟨hs, ha⟩ => absurd (List.append_eq_nil_iff.mp hs.symm).1 ha.1⟩
  | cons c s ih =>
    rw [runs]
    split
    · next hc =>
      rw [mem_prefer, List.mem_map, List.mem_singleton]
      constructor
      · rintro (⟨cut, hcut, he⟩ | he)
        · obtain ⟨rfl, rfl⟩ := Prod.mk.inj he
          obtain ⟨rfl, -, hall⟩ := ih.mp hcut
          exact ⟨rfl, List.cons_ne_nil c _, List.forall_mem_cons.mpr ⟨hc, hall⟩⟩
        · obtain ⟨rfl, rfl⟩ := Prod.mk.inj he
          exact ⟨rfl, List.cons_ne_nil c _, List.forall_mem_singleton.mpr hc⟩
      · rintro ⟨hs, hne, hall⟩
        obtain ⟨d, t, rfl⟩ := List.exists_cons_of_ne_nil hne
        obtain ⟨rfl, rfl⟩ := List.cons.inj hs
        obtain ⟨-, hall⟩ := List.forall_mem_cons.mp hall
        by_cases ht : t = []
        · subst ht
          exact .inr rfl
        · exact .inl ⟨(t, b), ih.mpr ⟨rfl, ht, hall⟩, rfl⟩
    · next hc =>
      refine ⟨nofun, fun ⟨hs, hne, hall⟩ => ?_⟩
      obtain ⟨d, t, rfl⟩ := List.exists_cons_of_ne_nil hne
      obtain ⟨rfl, -⟩ := List.cons.inj hs
      exact absurd (hall c List.mem_cons_self) hc

theorem afterWord?_eq_some {w : List Char} : afterWord? w s = some b ↔ s = w ++ b := by
  unfold afterWord?
  split
  · next hprefix =>
    obtain ⟨t, rfl⟩ := List.isPrefixOf_iff_prefix.mp hprefix
    rw [List.drop_left, Option.some_inj]
    exact ⟨fun h => h ▸ rfl, List.append_cancel_left⟩
  · next hprefix =>
    refine ⟨nofun, fun h => absurd ?_ hprefix⟩
    rw [h]
    exact List.isPrefixOf_iff_prefix.mpr (List.prefix_append w b)

theorem mem_ways_one : (a, b) ∈ σ.ways (.one p) s ↔ s = a ++ b ∧ a ∈ (Pattern.one p).language := by
  cases s with
  | nil =>
    rw [ways]
    constructor
    · nofun
    · rintro ⟨hs, c, -, rfl⟩
      cases hs
  | cons d s =>
    rw [ways]
    constructor
    · intro h
      split at h
      · next hd =>
        obtain ⟨rfl, rfl⟩ := Prod.mk.inj (List.mem_singleton.mp h)
        exact ⟨rfl, d, hd, rfl⟩
      · cases h
    · rintro ⟨hs, c, hc, rfl⟩
      obtain ⟨rfl, rfl⟩ := List.cons.inj hs
      rw [if_pos hc]
      exact List.mem_singleton.mpr rfl

theorem mem_ways_word {choices : List String} :
    (a, b) ∈ σ.ways (.word choices) s ↔ s = a ++ b ∧ a ∈ (Pattern.word choices).language := by
  rw [ways, List.mem_filterMap]
  constructor
  · rintro ⟨w, hw, h⟩
    obtain ⟨t, ht, he⟩ := Option.map_eq_some_iff.mp h
    obtain ⟨rfl, rfl⟩ := Prod.mk.inj he
    exact ⟨afterWord?_eq_some.mp ht, w, hw, rfl⟩
  · rintro ⟨rfl, w, hw, rfl⟩
    exact ⟨w, hw, Option.map_eq_some_iff.mpr ⟨b, afterWord?_eq_some.mpr rfl, rfl⟩⟩

theorem mem_ways {r : Pattern} : (a, b) ∈ σ.ways r s ↔ s = a ++ b ∧ a ∈ r.language := by
  induction r generalizing a b s with
  | one p => exact mem_ways_one
  | run p => exact mem_runs
  | word choices => exact mem_ways_word
  | seq first second ihfirst ihsecond =>
    rw [ways, List.mem_flatMap]
    constructor
    · rintro ⟨⟨u, t⟩, hcut, h⟩
      obtain ⟨⟨v, r⟩, hnext, he⟩ := List.mem_map.mp h
      obtain ⟨rfl, rfl⟩ := Prod.mk.inj he
      obtain ⟨rfl, hu⟩ := ihfirst.mp hcut
      obtain ⟨rfl, hv⟩ := ihsecond.mp hnext
      exact ⟨(List.append_assoc u v r).symm, Language.append_mem_mul hu hv⟩
    · rintro ⟨rfl, h⟩
      obtain ⟨u, hu, v, hv, rfl⟩ := Language.mem_mul.mp h
      exact ⟨(u, v ++ b), ihfirst.mpr ⟨List.append_assoc u v b, hu⟩,
        List.mem_map.mpr ⟨(v, b), ihsecond.mpr ⟨rfl, hv⟩, rfl⟩⟩
  | either first second ihfirst ihsecond =>
    rw [ways, List.mem_append, ihfirst, ihsecond, ← and_or_left]
    exact Iff.rfl
  | optional part ih =>
    rw [ways, mem_prefer, ih, List.mem_singleton]
    constructor
    · rintro (⟨rfl, h⟩ | h)
      · exact ⟨rfl, .inl h⟩
      · obtain ⟨rfl, rfl⟩ := Prod.mk.inj h
        exact ⟨rfl, .inr rfl⟩
    · rintro ⟨rfl, h | rfl⟩
      · exact .inl ⟨rfl, h⟩
      · exact .inr rfl

end Strategy

theorem language_number : Piece.number.pattern.language = numeral := by
  have hpoint : (Pattern.one (· = '.')).language = point := by
    ext s
    exact ⟨fun ⟨c, hc, hs⟩ => by rw [hs, decide_eq_true_eq.mp hc]; rfl, fun hs => ⟨'.', rfl, hs⟩⟩
  have hsign : (Pattern.optional (.one isSign)).language = sign := by
    ext s
    rw [mem_sign, or_comm]
    exact Iff.rfl
  have hdigits : (Pattern.run isDecimalDigit).language = digits := rfl
  show (Pattern.optional (.one isSign)).language *
    (digits * ((Pattern.one (· = '.')).language * digits + 1) + (Pattern.one (· = '.')).language * digits) = numeral
  rw [hsign, hpoint, numeral, unsigned, mul_add digits, mul_one, ← mul_assoc, add_comm (digits * point * digits) digits]

theorem Piece.fits_iff {p : Piece} : p.Fits a ks ↔ a ∈ p.pattern.language ∧ ks = p.keep a := by
  constructor
  · intro h
    cases h with
    | word hw => exact ⟨⟨_, hw, rfl⟩, rfl⟩
    | blanks h => exact ⟨h, rfl⟩
    | gap h =>
      refine ⟨?_, rfl⟩
      by_cases hne : a = []
      · exact .inr hne
      · exact .inl ⟨hne, h⟩
    | number h => exact ⟨language_number ▸ h, rfl⟩
    | unit h => exact ⟨h, rfl⟩
    | someUnit h => exact ⟨.inl h, by rw [keep, if_neg h.1]⟩
    | noUnit => exact ⟨.inr rfl, rfl⟩
  · rintro ⟨h, rfl⟩
    cases p with
    | word choices =>
      obtain ⟨w, hw, rfl⟩ := h
      exact .word hw
    | blanks => exact .blanks h
    | gap =>
      rcases h with h | rfl
      · exact .gap h.2
      · exact .gap (mem_gap.mpr (by simp))
    | number => exact .number (language_number ▸ h)
    | unit => exact .unit h
    | unitIfAny =>
      rcases h with h | rfl
      · rw [keep, if_neg h.1]
        exact .someUnit h
      · exact .noUnit

namespace Strategy

/-- Every way to cut a line into texts of the pieces is found, in whatever order. -/
theorem mem_readings : cs ∈ σ.readings ps s ↔ Prompt.Fits ps s cs := by
  induction ps generalizing s cs with
  | nil =>
    rw [readings]
    constructor
    · intro h
      split at h
      · next hs =>
        obtain rfl := List.mem_singleton.mp h
        exact hs ▸ .nil
      · cases h
    · intro h
      cases h
      exact List.mem_singleton.mpr rfl
  | cons p ps ih =>
    rw [readings, List.mem_flatMap, fits_cons]
    constructor
    · rintro ⟨⟨a, b⟩, hcut, h⟩
      obtain ⟨ls, hls, rfl⟩ := List.mem_map.mp h
      obtain ⟨hs, ha⟩ := mem_ways.mp (mem_arrange.mp hcut)
      exact ⟨a, b, p.keep a, ls, hs, rfl, Piece.fits_iff.mpr ⟨ha, rfl⟩, ih.mp hls⟩
    · rintro ⟨a, b, ks, ls, hs, rfl, ha, hb⟩
      obtain ⟨hlanguage, rfl⟩ := Piece.fits_iff.mp ha
      exact ⟨(a, b), mem_arrange.mpr (mem_ways.mpr ⟨hs, hlanguage⟩), List.mem_map.mpr ⟨ls, ih.mpr hb, rfl⟩⟩

theorem mem_ofForms (hforms : forms.Perm Template.forms) : m ∈ σ.ofForms forms s ↔ s ∈ m.lines := by
  rw [ofForms, List.mem_flatMap]
  simp only [List.mem_filterMap, mem_readings, hforms.mem_iff]
  constructor
  · rintro ⟨form, hform, cs, hcs, hm⟩
    exact mem_lines_of_fits hform hcs hm
  · exact fits_of_mem_lines

theorem head?_congr {α : Type} {l k : List α} (hmem : ∀ x, x ∈ l ↔ x ∈ k) (hsame : ∀ x ∈ l, ∀ y ∈ l, x = y) :
    l.head? = k.head? := by
  cases l with
  | nil => cases k with
    | nil => rfl
    | cons y k => exact absurd ((hmem y).mpr List.mem_cons_self) List.not_mem_nil
  | cons x l => cases k with
    | nil => exact absurd ((hmem x).mp List.mem_cons_self) List.not_mem_nil
    | cons y k => exact congrArg some (hsame x List.mem_cons_self y ((hmem y).mpr List.mem_cons_self))

theorem ofLine_eq (hforms : forms.Perm Template.forms) : σ.ofLine forms s = Sentence.ofLine s := by
  have hhead : (σ.ofForms forms s).head? = (Sentence.ofForms Template.forms s).head? := by
    refine head?_congr (fun m => (mem_ofForms hforms).trans Sentence.mem_ofForms.symm) fun m hm m' hm' => ?_
    exact Sentence.lines_unique ((mem_ofForms hforms).mp hm) ((mem_ofForms hforms).mp hm')
  rw [ofLine, hhead]
  rfl

end Strategy

theorem nodup_forms : Template.forms.Nodup := by decide

/-- A line fits one of the forms at most, and what is kept of it does not depend on how it is cut. So it is read as the
same sentence, or refused for the same reason, however the forms are ordered and whichever ways to cut it are tried
first. -/
theorem read_in_any_order (line : String) :
    (Template.forms.Nodup ∧
        ∀ f ∈ Template.forms, ∀ g ∈ Template.forms, ∀ cs cs', Fits f.2 (normalizeChars line.toList) cs →
          Fits g.2 (normalizeChars line.toList) cs' → f = g ∧ cs = cs') ∧
      ∀ (σ : Strategy) (forms : List (Template × List Piece)), forms.Perm Template.forms →
        σ.read forms line = Sentence.read line :=
  ⟨⟨nodup_forms, fun _ hf _ hg _ _ => forms_unique hf hg⟩, fun _ _ hforms => Strategy.ofLine_eq hforms⟩

/-- A word that is also part of the pattern is a unit here. -/
theorem read_in_any_order_height :
    let line := "Cylinder radius 5  height height .5"
    let kept : List Capture := [.number "5".toList, .unit (some "height".toList), .number ".5".toList, .unit none]
    Fits cylinderForm (normalizeChars line.toList) kept ∧
      (∀ g ∈ Template.forms, ∀ cs, Fits g.2 (normalizeChars line.toList) cs →
        (.cylinder, cylinderForm) = g ∧ kept = cs) ∧
      Template.forms.reverse.Perm Template.forms ∧
      Strategy.lazy.read Template.forms.reverse line =
        .ok (some (.cylinder ⟨"5", some "height"⟩ ⟨".5", none⟩)) := by
  intro line kept
  obtain ⟨⟨-, hunique⟩, hread⟩ := read_in_any_order line
  have hfits : Fits cylinderForm (normalizeChars line.toList) kept := fits_of_mem_readings (by decide +kernel)
  have hmem : (.cylinder, cylinderForm) ∈ Template.forms := by simp [forms_eq]
  have hperm := Template.forms.reverse_perm
  refine ⟨hfits, fun g hg cs => hunique _ hmem g hg kept cs hfits, hperm, ?_⟩
  rw [hread .lazy _ hperm]
  exact Sentence.ofLine_eq_some.mpr (mem_lines_of_fits hmem hfits rfl)

end PromptCad.Prompt
