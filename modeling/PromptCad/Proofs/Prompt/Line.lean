import Mathlib.Data.List.TakeWhile
import PromptCad.Proofs.Prompt.Sentence
import PromptCad.Proofs.Text.Lower
import PromptCad.Prompt.Action

/-! Lines in the form in which they are read, and the description of a solid within such a line. It is in that form
again, so it is read just as it stands in the line. -/

namespace PromptCad.Prompt

open Unicode (isWhiteSpace)

/-- A line in the form in which it is read. -/
structure Normal (s : List Char) : Prop where
  lower : ∀ c ∈ s, Text.IsLower c
  trimmed : Text.Trimmed s

variable {s line : List Char}

theorem normal_normalizeChars (s : List Char) : Normal (normalizeChars s) where
  lower _ hc := Text.isLower_of_mem_lower hc
  trimmed := (Text.trimmed_trim s).lower

theorem Normal.normalizeChars_eq (h : Normal s) : normalizeChars s = s := by
  rw [normalizeChars, h.trimmed.trim_eq, Text.lower_eq_self h.lower]

theorem Normal.trim (h : Normal line) (hs : ∀ c ∈ s, c ∈ line) : Normal (Text.trim s) where
  lower c hc := h.lower c (hs c (Text.mem_of_mem_trim hc))
  trimmed := Text.trimmed_trim s

theorem normalizeChars_eq_nil : normalizeChars s = [] ↔ ∀ c ∈ s, isWhiteSpace c = true := by
  rw [normalizeChars, Text.lower, Text.lowerAfter_eq_nil, Text.trim, Text.trimRight, List.reverse_eq_nil_iff,
    List.dropWhile_eq_nil_iff]
  constructor
  · intro h
    cases hleft : Text.trimLeft s with
    | nil => exact List.dropWhile_eq_nil_iff.mp hleft
    | cons c t =>
      have hblank : isWhiteSpace c = true := h c (by simp [hleft])
      have hfront : isWhiteSpace c = false := Text.front_trimLeft s c (by simp [hleft])
      rw [hblank] at hfront
      cases hfront
  · intro h c hc
    rw [Text.trimLeft, List.dropWhile_eq_nil_iff.mpr h] at hc
    cases hc

def Verb.word : Verb → String
  | create => "create"
  | add => "add"

def verb? (line : List Char) : Option Verb :=
  if Text.firstWord line = Verb.create.word.toList then some .create
  else if Text.firstWord line = Verb.add.word.toList then some .add
  else none

/-- What a line has to say about a solid: the text after the verb, without blanks at its ends, or all of the line when
there is no verb. -/
def body (line : List Char) : List Char :=
  match verb? line with
  | some _ => Text.trim (Text.splitAtBlank line).2
  | none => line

theorem body_eq_self (h : verb? line = none) : body line = line := by rw [body, h]

theorem verb?_nil : verb? [] = none := by decide

theorem verb?_clear : verb? "clear".toList = none := by decide

theorem ne_of_verb? {v : Verb} (h : verb? line = some v) : line ≠ [] ∧ line ≠ "clear".toList := by
  constructor
  · rintro rfl
    rw [verb?_nil] at h
    cases h
  · rintro rfl
    rw [verb?_clear] at h
    cases h

theorem Normal.body (h : Normal line) : Normal (body line) := by
  unfold Prompt.body
  split
  · refine h.trim fun c hc => ?_
    exact (List.dropWhile_suffix (!isWhiteSpace ·)).subset (List.mem_of_mem_drop hc)
  · exact h

theorem splitVerb?_eq (h : Normal line) : splitVerb? line = (verb? line).map fun v => (v, body line) := by
  have hhead : (Text.splitAtBlank line).1 = Text.firstWord line := by
    rw [Text.firstWord, Text.trimLeft_eq_self h.trimmed.front]
    rfl
  have hsplit : splitVerb? line = (verb? line).map fun v => (v, Text.trim (Text.splitAtBlank line).2) := by
    rw [verb?, ← hhead, apply_ite (Option.map _), apply_ite (Option.map _)]
    rfl
  rw [hsplit, Prompt.body]
  cases verb? line with
  | some v => rfl
  | none => rfl

end PromptCad.Prompt
