import PromptCad.Proofs.Prompt.Numerals
import PromptCad.Proofs.Session.InPlace
import PromptCad.Proofs.Text.Words

/-! Layout and letter case of a prompt. Trimmed texts of the same words differ in their runs of blanks alone, and where
a sentence has blanks any others would do. So the words of a line settle which sentences it says, what it starts with,
where its verb ends and whether it is empty or the word clear; and lower case settles the words. -/

namespace PromptCad.Prompt

open Grammar Unicode

variable {a b s t w r : List Char} {c : Char} {ps : List Piece} {cs : List Capture}

/-- The same characters with blanks in the same places, though not the same blanks nor as many. -/
inductive Respaced : List Char → List Char → Prop where
  | nil : Respaced [] []
  | char {c : Char} {s t : List Char} : isWhiteSpace c = false → Respaced s t → Respaced (c :: s) (c :: t)
  | spaces {a b s t : List Char} : a ∈ blanks → b ∈ blanks → (∀ c ∈ s.head?, isWhiteSpace c = false) →
      (∀ c ∈ t.head?, isWhiteSpace c = false) → Respaced s t → Respaced (a ++ s) (b ++ t)

namespace Respaced

theorem eq_nil (h : Respaced [] t) : t = [] := by
  generalize hs : [] = s at h
  cases h with
  | nil => rfl
  | char => cases hs
  | spaces ha => exact absurd hs.symm (List.append_ne_nil_of_left_ne_nil ha.1 _)

theorem exists_cons (hc : isWhiteSpace c = false) (h : Respaced (c :: s) t) : ∃ u, t = c :: u ∧ Respaced s u := by
  generalize hs : c :: s = v at h
  cases h with
  | nil => cases hs
  | char _ h =>
    cases hs
    exact ⟨_, rfl, h⟩
  | @spaces a _ _ _ ha =>
    obtain ⟨d, a, rfl⟩ := List.exists_cons_of_ne_nil ha.1
    obtain ⟨rfl, -⟩ := List.cons.inj hs
    cases hc.symm.trans (ha.2 c List.mem_cons_self)

theorem exists_unbroken (ha : ∀ c ∈ a, isWhiteSpace c = false) (h : Respaced (a ++ s) t) :
    ∃ u, t = a ++ u ∧ Respaced s u := by
  induction a generalizing t with
  | nil => exact ⟨t, rfl, h⟩
  | cons c a ih =>
    obtain ⟨hc, ha⟩ := List.forall_mem_cons.mp ha
    obtain ⟨v, rfl, hrest⟩ := exists_cons hc h
    obtain ⟨u, rfl, hu⟩ := ih ha hrest
    exact ⟨u, rfl, hu⟩

theorem exists_blanks (ha : a ∈ blanks) (hs : ∀ c ∈ s.head?, isWhiteSpace c = false) (h : Respaced (a ++ s) t) :
    ∃ b u, t = b ++ u ∧ b ∈ blanks ∧ Respaced s u := by
  generalize hv : a ++ s = v at h
  cases h with
  | nil => exact absurd hv (List.append_ne_nil_of_left_ne_nil ha.1 s)
  | char hc =>
    obtain ⟨d, a, rfl⟩ := List.exists_cons_of_ne_nil ha.1
    obtain ⟨rfl, -⟩ := List.cons.inj hv
    cases hc.symm.trans (ha.2 d List.mem_cons_self)
  | @spaces a' b s' u ha' hb hs' _ h =>
    obtain rfl := run_unique ha.2 ha'.2 hs hs' hv
    obtain rfl := List.append_cancel_left hv
    exact ⟨b, u, rfl, hb, h⟩

theorem append_unbroken (hw : ∀ c ∈ w, isWhiteSpace c = false) (h : Respaced s t) : Respaced (w ++ s) (w ++ t) := by
  induction w with
  | nil => exact h
  | cons c w ih =>
    obtain ⟨hc, hw⟩ := List.forall_mem_cons.mp hw
    exact .char hc (ih hw)

end Respaced

theorem eq_nil_of_words (hs : Text.Trimmed (w ++ r)) (h : Text.words r = []) : r = [] := by
  by_contra hne
  have hlast : r.getLast hne ∈ (w ++ r).getLast? := by
    rw [List.getLast?_append_of_ne_nil _ hne, List.getLast?_eq_some_getLast hne]
    rfl
  have hblank := Text.words_eq_nil.mp h _ (List.getLast_mem hne)
  cases hblank.symm.trans (hs.back _ hlast)

theorem trimmed_trimLeft (hs : Text.Trimmed (w ++ r)) : Text.Trimmed (Text.trimLeft r) where
  front := Text.front_trimLeft r
  back c hc := by
    have hsuffix : Text.trimLeft r <:+ w ++ r := (List.dropWhile_suffix _).trans (List.suffix_append w r)
    obtain ⟨u, hu⟩ := hsuffix
    refine hs.back c ?_
    rw [← hu, List.getLast?_append, Option.mem_def.mp hc]
    rfl

theorem exists_blanks_append (h : Text.Leads w r) (hne : r ≠ []) : ∃ b ∈ blanks, b ++ Text.trimLeft r = r := by
  obtain ⟨b, hb, hcut⟩ := Text.append_trimLeft r
  refine ⟨b, ⟨?_, hb⟩, hcut⟩
  rintro rfl
  obtain ⟨c, hc⟩ := Option.ne_none_iff_exists'.mp (mt List.head?_eq_none_iff.mp hne)
  have hfront := Text.front_trimLeft r
  rw [List.nil_append] at hcut
  rw [hcut] at hfront
  cases (h.stop c hc).symm.trans (hfront c hc)

/-- Texts with the same words differ in their blanks alone, if none of these stand at the ends. -/
theorem respaced_of_words (hs : Text.Trimmed s) (ht : Text.Trimmed t) (h : Text.words s = Text.words t) :
    Respaced s t := by
  induction hws : Text.words s generalizing s t with
  | nil =>
    obtain rfl := eq_nil_of_words (w := []) hs hws
    obtain rfl := eq_nil_of_words (w := []) ht (h.symm.trans hws)
    exact .nil
  | cons w ws ih =>
    have hne : s ≠ [] := by
      rintro rfl
      cases hws
    have hne' : t ≠ [] := by
      rintro rfl
      cases h.symm.trans hws
    obtain ⟨v, r, rfl, hv⟩ := Text.exists_leads hne hs.front
    obtain ⟨v', r', rfl, hv'⟩ := Text.exists_leads hne' ht.front
    rw [hv.words_append, hv'.words_append] at h
    rw [hv.words_append] at hws
    obtain ⟨rfl, hrest⟩ := List.cons.inj h
    refine .append_unbroken hv.unbroken ?_
    by_cases hr : r = []
    · subst hr
      obtain rfl := eq_nil_of_words ht hrest.symm
      exact .nil
    · have hr' : r' ≠ [] := by
        rintro rfl
        exact hr (eq_nil_of_words hs hrest)
      obtain ⟨b, hb, hcut⟩ := exists_blanks_append hv hr
      obtain ⟨b', hb', hcut'⟩ := exists_blanks_append hv' hr'
      have hwords : Text.words (Text.trimLeft r) = Text.words (Text.trimLeft r') := by
        rw [Text.words_trimLeft, Text.words_trimLeft, hrest]
      have htail : Text.words (Text.trimLeft r) = ws := (Text.words_trimLeft r).trans (List.cons.inj hws).2
      have hrespaced : Respaced (b ++ Text.trimLeft r) (b' ++ Text.trimLeft r') :=
        .spaces hb hb' (Text.front_trimLeft r) (Text.front_trimLeft r')
          (ih (trimmed_trimLeft hs) (trimmed_trimLeft ht) hwords htail)
      rwa [hcut, hcut'] at hrespaced

theorem number_apart_blank : numberRanges.apart whiteSpaceRanges = true := by decide +kernel

theorem letter_apart_blank : letterRanges.apart whiteSpaceRanges = true := by decide +kernel

theorem unbroken_of_mem_numeral (h : s ∈ numeral) : ∀ c ∈ s, isWhiteSpace c = false := by
  obtain ⟨t, ht, u, hu, rfl⟩ := Language.mem_mul.mp h
  have hunsigned : ∀ c ∈ u, isWhiteSpace c = false := fun c hc =>
    Ranges.contains_eq_false_of_apart number_apart_blank (numberRanges_of_mem_unsigned hu c hc)
  rcases mem_sign.mp ht with rfl | ⟨c, hc, rfl⟩
  · exact hunsigned
  · refine List.forall_mem_cons.mpr ⟨?_, hunsigned⟩
    simp only [isSign, Bool.or_eq_true, decide_eq_true_eq] at hc
    rcases hc with rfl | rfl <;> decide

theorem unbroken_of_mem_letters (h : s ∈ letters) : ∀ c ∈ s, isWhiteSpace c = false := by
  intro c hc
  have hletter : letterRanges.contains c = true := (contains_letterRanges c).trans (h.2 c hc)
  exact Ranges.contains_eq_false_of_apart letter_apart_blank hletter

def Piece.unbroken : Piece → Bool
  | word choices => choices.all fun w => w.toList.all (!isWhiteSpace ·)
  | blanks | gap | number | unit | unitIfAny => true

theorem unbroken_forms : ∀ form ∈ Template.forms, form.2.all Piece.unbroken = true := by decide

/-- Other blanks in the same places fit the same pieces, with the same kept of them. -/
theorem Fits.respaced (hps : separated ps = true) (hwords : ps.all Piece.unbroken = true) (h : Fits ps s cs)
    (hst : Respaced s t) : Fits ps t cs := by
  induction ps generalizing s t cs with
  | nil =>
    cases h
    obtain rfl := hst.eq_nil
    exact .nil
  | cons p ps ih =>
    obtain ⟨hbefore, hsep⟩ := Bool.and_eq_true_iff.mp hps
    obtain ⟨hword, hrest⟩ := Bool.and_eq_true_iff.mp hwords
    obtain ⟨a, b, ks, cs, rfl, rfl, ha, hb⟩ := fits_cons.mp h
    have hwhole (hunbroken : ∀ c ∈ a, isWhiteSpace c = false) : Fits (p :: ps) t (ks ++ cs) := by
      obtain ⟨u, rfl, hu⟩ := hst.exists_unbroken hunbroken
      exact .cons ha (ih hsep hrest hb hu)
    cases ha with
    | @word choices w hw =>
      refine hwhole fun c hc => ?_
      have hall := List.all_eq_true.mp (List.all_eq_true.mp hword w hw) c hc
      rwa [Bool.not_eq_true'] at hall
    | number ha => exact hwhole (unbroken_of_mem_numeral ha)
    | unit ha => exact hwhole (unbroken_of_mem_letters ha)
    | someUnit ha => exact hwhole (unbroken_of_mem_letters ha)
    | noUnit => exact hwhole fun c hc => absurd hc List.not_mem_nil
    | blanks ha =>
      obtain ⟨d, u, rfl, hd, hu⟩ := hst.exists_blanks ha (hb.not_swallowed hbefore)
      exact .cons (.blanks hd) (ih hsep hrest hb hu)
    | gap ha =>
      by_cases hstop : ∀ c ∈ b.head?, isWhiteSpace c = false
      · by_cases hne : a = []
        · exact hwhole fun c hc => absurd (hne ▸ hc) List.not_mem_nil
        · obtain ⟨d, u, rfl, hd, hu⟩ := hst.exists_blanks ⟨hne, ha⟩ hstop
          exact .cons (.gap hd.2) (ih hsep hrest hb hu)
      · -- the blanks are left to the pieces after the gap, here and there
        simp only [not_forall, Bool.not_eq_false] at hstop
        obtain ⟨c, hc, hblank⟩ := hstop
        obtain ⟨u, rfl⟩ := List.head?_eq_some_iff.mp hc
        have hnone : ([] : List Char) ∈ gap := fun c hc => absurd hc List.not_mem_nil
        exact .cons (.gap hnone) (ih hsep hrest (hb.append_blanks hsep hblank ha) hst)

section Words

variable {m : Sentence} (hs : Text.Trimmed s) (ht : Text.Trimmed t) (h : Text.words s = Text.words t)
include hs ht h

theorem mem_lines_of_words (hm : s ∈ m.lines) : t ∈ m.lines := by
  obtain ⟨form, hform, cs, hfits, hcs⟩ := fits_of_mem_lines hm
  have hfits' : Fits form.2 t cs :=
    hfits.respaced (separated_forms form hform) (unbroken_forms form hform) (respaced_of_words hs ht h)
  exact mem_lines_of_fits hform hfits' hcs

theorem mem_lines_iff_of_words : s ∈ m.lines ↔ t ∈ m.lines :=
  ⟨mem_lines_of_words hs ht h, mem_lines_of_words ht hs h.symm⟩

theorem eq_iff_of_words (hw : ∀ c ∈ w, isWhiteSpace c = false) : s = w ↔ t = w := by
  have hone : ∀ {s t : List Char}, Respaced s t → s = w → t = w := by
    rintro s t hst rfl
    rw [← List.append_nil s] at hst
    obtain ⟨u, rfl, hu⟩ := hst.exists_unbroken hw
    rw [hu.eq_nil, List.append_nil]
  exact ⟨hone (respaced_of_words hs ht h), hone (respaced_of_words ht hs h.symm)⟩

end Words

theorem opens_iff_of_words {k : Keyword} (h : Text.words s = Text.words t) : Opens k.word s ↔ Opens k.word t := by
  rw [← Sentence.commitment?_eq_some, ← Sentence.commitment?_eq_some, Sentence.commitment?, Sentence.commitment?,
    Text.firstWord_eq, Text.firstWord_eq, h]

theorem verb?_eq_of_words (h : Text.words s = Text.words t) : verb? s = verb? t := by
  rw [verb?, verb?, Text.firstWord_eq, Text.firstWord_eq, h]

theorem words_body (hs : Text.Trimmed s) (ht : Text.Trimmed t) (h : Text.words s = Text.words t) :
    Text.words (body s) = Text.words (body t) := by
  rw [body, body, verb?_eq_of_words h]
  cases verb? t with
  | none => exact h
  | some v =>
    dsimp only
    rw [Text.words_trim, Text.words_trim, Text.words_splitAtBlank hs.front, Text.words_splitAtBlank ht.front, h]

theorem words_normalizeChars (s : List Char) : Text.words (normalizeChars s) = (Text.words s).map Text.lower := by
  rw [normalizeChars, Text.words_lower, Text.words_trim]

theorem words_normalizeChars_eq (h : (Text.words s).map Text.lowerAscii = (Text.words t).map Text.lowerAscii) :
    Text.words (normalizeChars s) = Text.words (normalizeChars t) := by
  have hlower : ∀ s : List Char,
      (Text.words s).map Text.lower = ((Text.words s).map Text.lowerAscii).map Text.lower := by
    intro s
    rw [List.map_map]
    exact List.map_congr_left fun w _ => (Text.lower_lowerAscii w).symm
  rw [words_normalizeChars, words_normalizeChars, hlower, hlower, h]

end PromptCad.Prompt

namespace PromptCad

/-- The same error, except that the text that is called unsupported need only have the same words. -/
inductive PromptError.Alike : PromptError → PromptError → Prop where
  | same (e : PromptError) : Alike e e
  | command {s t : String} : Text.words s.toList = Text.words t.toList →
      Alike (.unsupportedCommand s) (.unsupportedCommand t)
  | shape {s t : String} : Text.words s.toList = Text.words t.toList →
      Alike (.unsupportedShape s) (.unsupportedShape t)

namespace Prompt

open PromptError (Alike)
open Unicode

variable {s t : String} {ids : IdCounter}

/-- The same result, or errors that differ in the text they name at most. -/
def Agree {α : Type} (x y : Except PromptError α) : Prop :=
  (∃ a, x = .ok a ∧ y = .ok a) ∨ ∃ e f, Alike e f ∧ x = .error e ∧ y = .error f

theorem agree_of_eq {α : Type} {x y : Except PromptError α} (h : x = y) : Agree x y := by
  cases x with
  | ok a => exact .inl ⟨a, rfl, h.symm⟩
  | error e => exact .inr ⟨e, e, .same e, rfl, h.symm⟩

theorem agree_of_words {line line' : List Char} (hline : normalizeChars s.toList = line)
    (hline' : normalizeChars t.toList = line') (h : Text.words line = Text.words line') :
    Agree (parse s ids) (parse t ids) := by
  have hnormal : Normal line := hline ▸ normal_normalizeChars s.toList
  have hnormal' : Normal line' := hline' ▸ normal_normalizeChars t.toList
  have hsame {w : List Char} (hw : w.all (!isWhiteSpace ·) = true) : line = w ↔ line' = w :=
    eq_iff_of_words hnormal.trimmed hnormal'.trimmed h fun c hc => by simpa using List.all_eq_true.mp hw c hc
  have hbody : Text.words (body line) = Text.words (body line') := words_body hnormal.trimmed hnormal'.trimmed h
  have hlines {m : Sentence} : body line ∈ m.lines ↔ body line' ∈ m.lines :=
    mem_lines_iff_of_words hnormal.body.trimmed hnormal'.body.trimmed hbody
  have hopens {k : Keyword} : Opens k.word (body line) ↔ Opens k.word (body line') := opens_iff_of_words hbody
  have hverb : verb? line = verb? line' := verb?_eq_of_words h
  by_cases hempty : line = []
  · refine agree_of_eq ?_
    rw [parse_of_empty hline hempty, parse_of_empty hline' ((hsame rfl).mp hempty)]
  by_cases hclear : line = "clear".toList
  · refine agree_of_eq ?_
    rw [parse_of_clear hline hclear, parse_of_clear hline' ((hsame rfl).mp hclear)]
  have hnone (h : ∀ m : Sentence, body line ∉ m.lines) (m : Sentence) : body line' ∉ m.lines := mt hlines.mpr (h m)
  rcases lines_or_opens_or_foreign (body line) with ⟨m, hm⟩ | ⟨k, hk, hm⟩ | hforeign
  · refine agree_of_eq ?_
    rw [parse_of_mem_lines hline hm, parse_of_mem_lines hline' (hlines.mp hm), hverb]
  · refine agree_of_eq ?_
    rw [parse_of_opens hline hk hm, parse_of_opens hline' (hopens.mp hk) (hnone hm)]
  have hforeign' : Foreign (body line') := ⟨fun k => mt hopens.mpr (hforeign.1 k), hnone hforeign.2⟩
  refine .inr ⟨_, _, ?_, parse_of_foreign hline hempty hclear hforeign,
    parse_of_foreign hline' (mt (hsame rfl).mpr hempty) (mt (hsame rfl).mpr hclear) hforeign'⟩
  have htexts : Text.words (String.ofList (body line)).toList = Text.words (String.ofList (body line')).toList := by
    rw [String.toList_ofList, String.toList_ofList, hbody]
  rw [← hverb]
  cases verb? line with
  | none => exact .command htexts
  | some v => exact .shape htexts

/-- Blanks and the case of letters never matter. Two prompts of the same words, up to the case of the letters A to Z,
are understood alike: they give the same action and leave the same counter, or are refused for the same reason, and a
refusal leaves the counter alone. Only a text that is called unsupported is given as it was written, and then the two
texts have the same words. -/
theorem layout_irrelevant (s t : String)
    (h : (Text.words s.toList).map Text.lowerAscii = (Text.words t.toList).map Text.lowerAscii) (ids : IdCounter) :
    ((∃ action next, parse s ids = .ok (action, next) ∧ parse t ids = .ok (action, next)) ∨
        ∃ e f, Alike e f ∧ parse s ids = .error e ∧ parse t ids = .error f) ∧
      ∀ text, (InPlace.parse text).perform ids = InPlace.settled ids (parse text ids) := by
  refine ⟨?_, fun text => InPlace.perform_parse text ids⟩
  rcases agree_of_words rfl rfl (words_normalizeChars_eq h) with ⟨⟨action, next⟩, hs, ht⟩ | hrefused
  · exact .inl ⟨action, next, hs, ht⟩
  · exact .inr hrefused

/-- The ideographic space separates words like any other blank. -/
theorem layout_irrelevant_wide :
    (Text.words "Add CUBE  2cm".toList).map Text.lowerAscii =
        (Text.words "\tadd\u3000cube\n2CM ".toList).map Text.lowerAscii ∧
      ∃ p next, parse "Add CUBE  2cm" ⟨1⟩ = .ok (.add p, next) ∧
        parse "\tadd\u3000cube\n2CM " ⟨1⟩ = .ok (.add p, next) := by
  have hwords : (Text.words "Add CUBE  2cm".toList).map Text.lowerAscii =
      (Text.words "\tadd\u3000cube\n2CM ".toList).map Text.lowerAscii := by decide
  have hparse : parse "Add CUBE  2cm" ⟨1⟩ = .ok (.add ⟨"box-1", .cube 20, .origin⟩, ⟨2⟩) := by decide +kernel
  refine ⟨hwords, ⟨"box-1", .cube 20, .origin⟩, ⟨2⟩, hparse, ?_⟩
  rcases (layout_irrelevant _ _ hwords ⟨1⟩).1 with ⟨action, next, hs, ht⟩ | ⟨e, f, -, hs, -⟩
  · exact ht.trans (hs.symm.trans hparse)
  · cases hs.symm.trans hparse

end Prompt

end PromptCad
