import PromptCad.Proofs.Prompt.Line

/-! Lines that are their own normal form. A line is one when it is trimmed and nothing in it has another lower case;
what stands after a blank of such a line is one again, once the blanks at its ends are gone. So normalizing a line or a
part of it anew changes nothing, and a description is found in the very text that the verb was cut from. -/

namespace PromptCad.Prompt

open Unicode (isWhiteSpace)

variable {s line rest : List Char} {verb : Verb} {read other : List Char → Except PromptError (Option Sentence)}

theorem normalizeChars_eq_self_iff : normalizeChars s = s ↔ Normal s := by
  constructor
  · intro h
    rw [← h]
    exact normal_normalizeChars s
  · exact Normal.normalizeChars_eq

theorem toList_normalize (s : String) : (normalize s).toList = normalizeChars s.toList := by
  rw [normalize, String.toList_ofList]

theorem normalize_eq_self_iff (s : String) : normalize s = s ↔ Normal s.toList := by
  rw [← String.toList_inj, toList_normalize, normalizeChars_eq_self_iff]

theorem Normal.of_splitVerb? (h : Normal line) (hcut : splitVerb? line = some (verb, rest)) : Normal rest := by
  rw [splitVerb?_eq h, Option.map_eq_some_iff] at hcut
  obtain ⟨v, -, hpair⟩ := hcut
  cases hpair
  exact h.body

/-- `build` with any way to find a description in a text. -/
def buildWith (read : List Char → Except PromptError (Option Sentence)) (text : List Char)
    (unsupported : String → PromptError) (ids : IdCounter) : Except PromptError (Primitive × IdCounter) := do
  match ← read text with
  | none => throw (unsupported (String.ofList text))
  | some sentence => ids.issue (← sentence.solid)

def parseWith (read : List Char → Except PromptError (Option Sentence)) (text : String) (ids : IdCounter) :
    Except PromptError (Action × IdCounter) := do
  let line := normalizeChars text.toList
  if line = [] then throw .emptyPrompt
  else if line = "clear".toList then return (.clear, ids)
  else match splitVerb? line with
    | some (verb, rest) =>
      let (p, ids) ← buildWith read rest .unsupportedShape ids
      return (verb.action p, ids)
    | none =>
      let (p, ids) ← buildWith read line .unsupportedCommand ids
      return (.create p, ids)

theorem parse_eq_parseWith : parse = parseWith fun line => Sentence.ofLine (normalizeChars line) := rfl

/-- A description is looked for in normal lines alone. -/
theorem parseWith_congr (h : ∀ line, Normal line → read line = other line) (text : String) :
    parseWith read text = parseWith other text := by
  funext ids
  have hline : Normal (normalizeChars text.toList) := normal_normalizeChars text.toList
  simp only [parseWith]
  split
  · rfl
  · split
    · rfl
    · split
      · next verb rest hcut => rw [buildWith, buildWith, h rest (hline.of_splitVerb? hcut)]
      · rw [buildWith, buildWith, h _ hline]

/-- Normalizing a line again keeps it, and keeps what stands after any blank in it, without the blanks at its ends. So
whatever looks for a description in a prompt finds the same in the text as it stands and in the text normalized again,
and the prompt is parsed as if that text were read as it stands. -/
theorem normalize_stable (s : String) :
    Normal (normalize s).toList ∧ normalize (normalize s) = normalize s ∧
      (∀ a c b, isWhiteSpace c = true → (normalize s).toList = a ++ c :: b →
        normalize (String.ofList (Text.trim b)) = String.ofList (Text.trim b)) ∧
      (∀ read, parseWith (fun line => read (normalizeChars line)) s = parseWith read s) ∧
      parse s = parseWith Sentence.ofLine s := by
  have hnormal : Normal (normalize s).toList := by
    rw [toList_normalize]
    exact normal_normalizeChars s.toList
  have hagain (read : List Char → Except PromptError (Option Sentence)) :
      parseWith (fun line => read (normalizeChars line)) s = parseWith read s :=
    parseWith_congr (fun line hline => by rw [hline.normalizeChars_eq]) s
  refine ⟨hnormal, (normalize_eq_self_iff _).mpr hnormal, fun a c b _ hcut => ?_, hagain, ?_⟩
  · refine (normalize_eq_self_iff _).mpr ?_
    rw [String.toList_ofList]
    exact hnormal.trim fun d hd => hcut ▸ List.mem_append_right a (List.mem_cons_of_mem c hd)
  · rw [parse_eq_parseWith]
    exact hagain Sentence.ofLine

/-- The last sigma of a word is a final one already, and the dotted capital has become two characters. -/
theorem normalize_stable_sigma :
    normalize " Add\u3000 ΟΔΟΣ İ\t" = "add\u3000 οδος i\u0307" ∧
      normalize "οδος i\u0307" = "οδος i\u0307" := by
  have hline : normalize " Add\u3000 ΟΔΟΣ İ\t" = "add\u3000 οδος i\u0307" := by decide +kernel
  have hrest : String.ofList (Text.trim " οδος i\u0307".toList) = "οδος i\u0307" := by decide
  obtain ⟨-, -, hparts, -⟩ := normalize_stable " Add\u3000 ΟΔΟΣ İ\t"
  refine ⟨hline, ?_⟩
  rw [← hrest]
  refine hparts "add".toList '\u3000' " οδος i\u0307".toList (by decide) ?_
  rw [hline]
  decide +kernel

end PromptCad.Prompt
