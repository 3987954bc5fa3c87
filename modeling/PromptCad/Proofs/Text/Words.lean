import PromptCad.Proofs.Text.Lower

/-! The words of a text, which are what its blanks leave. Trimming changes no word, and lower case goes word by word: a
blank is neither cased nor passed over, so no letter looks past it. -/

namespace PromptCad.Text

open Unicode

variable {s t a b w : List Char} {c : Char}

def words (s : List Char) : List (List Char) := (s.splitOnP isWhiteSpace).filter (· ≠ [])

theorem words_nil : words [] = [] := rfl

theorem words_append_blank (hc : isWhiteSpace c = true) (a b : List Char) :
    words (a ++ c :: b) = words a ++ words b := by
  rw [words, List.splitOnP_append_cons a b hc, List.filter_append]
  rfl

theorem words_unbroken (hne : w ≠ []) (h : ∀ c ∈ w, isWhiteSpace c = false) : words w = [w] := by
  rw [words, List.splitOnP_eq_singleton h]
  simp [hne]

theorem words_cons_blank (hc : isWhiteSpace c = true) (s : List Char) : words (c :: s) = words s :=
  words_append_blank hc [] s

theorem words_append_left (hb : ∀ c ∈ b, isWhiteSpace c = true) (s : List Char) : words (b ++ s) = words s := by
  induction b with
  | nil => rfl
  | cons c b ih =>
    obtain ⟨hc, hb⟩ := List.forall_mem_cons.mp hb
    rw [List.cons_append, words_cons_blank hc, ih hb]

theorem words_blank (hb : ∀ c ∈ b, isWhiteSpace c = true) : words b = [] := by
  have h := words_append_left hb []
  rwa [List.append_nil] at h

theorem words_append_right (s : List Char) (hb : ∀ c ∈ b, isWhiteSpace c = true) : words (s ++ b) = words s := by
  cases b with
  | nil => rw [List.append_nil]
  | cons c b =>
    obtain ⟨hc, hb⟩ := List.forall_mem_cons.mp hb
    rw [words_append_blank hc, words_blank hb, List.append_nil]

theorem append_trimLeft (s : List Char) : ∃ b, (∀ c ∈ b, isWhiteSpace c = true) ∧ b ++ trimLeft s = s :=
  ⟨s.takeWhile isWhiteSpace, List.all_eq_true.mp List.all_takeWhile, List.takeWhile_append_dropWhile⟩

theorem trimRight_append (s : List Char) : ∃ b, (∀ c ∈ b, isWhiteSpace c = true) ∧ trimRight s ++ b = s := by
  obtain ⟨b, hb, heq⟩ := append_trimLeft s.reverse
  refine ⟨b.reverse, fun c hc => hb c (List.mem_reverse.mp hc), ?_⟩
  rw [← List.reverse_inj, List.reverse_append, List.reverse_reverse, trimRight, List.reverse_reverse]
  exact heq

theorem exists_blanks_trim (s : List Char) : ∃ a b, (∀ c ∈ a, isWhiteSpace c = true) ∧
    (∀ c ∈ b, isWhiteSpace c = true) ∧ s = a ++ trim s ++ b := by
  obtain ⟨a, ha, hleft⟩ := append_trimLeft s
  obtain ⟨b, hb, hright⟩ := trimRight_append (trimLeft s)
  refine ⟨a, b, ha, hb, ?_⟩
  rw [trim, List.append_assoc, hright, hleft]

theorem Trimmed.trim_append (h : Trimmed s) (hne : s ≠ []) (hb : ∀ c ∈ b, isWhiteSpace c = true) :
    trim (s ++ b) = s := by
  have hleft : trimLeft (s ++ b) = s ++ b := trimLeft_eq_self (by
    rw [List.head?_append_of_ne_nil _ hne]
    exact h.front)
  have hright : trimRight (s ++ b) = trimRight s := by
    rw [trimRight, List.reverse_append]
    exact congrArg List.reverse (trimLeft_append_of_all (fun c hc => hb c (List.mem_reverse.mp hc)) s.reverse)
  have htrim : trim s = s := h.trim_eq
  rw [trim, trimLeft_eq_self h.front] at htrim
  rw [trim, hleft, hright, htrim]

theorem words_trimLeft (s : List Char) : words (trimLeft s) = words s := by
  obtain ⟨b, hb, heq⟩ := append_trimLeft s
  rw [← words_append_left hb, heq]

theorem words_trim (s : List Char) : words (trim s) = words s := by
  obtain ⟨b, hb, heq⟩ := trimRight_append (trimLeft s)
  rw [trim, ← words_append_right _ hb, heq, words_trimLeft]

/-- A text is cut at each of its blanks. -/
theorem induction_on_blanks {P : List Char → Prop} (unbroken : ∀ w, (∀ c ∈ w, isWhiteSpace c = false) → P w)
    (blank : ∀ a c b, isWhiteSpace c = true → P a → P b → P (a ++ c :: b)) (s : List Char) : P s := by
  suffices h : ∀ w, (∀ c ∈ w, isWhiteSpace c = false) → P (w ++ s) from h [] (by simp)
  induction s with
  | nil => exact fun w hw => (List.append_nil w).symm ▸ unbroken w hw
  | cons c s ih =>
    intro w hw
    cases hc : isWhiteSpace c with
    | true => exact blank w c s hc (unbroken w hw) (ih [] (by simp))
    | false =>
      rw [List.append_cons]
      exact ih (w ++ [c]) (List.forall_mem_append.mpr ⟨hw, by simpa using hc⟩)

theorem words_eq_nil : words s = [] ↔ ∀ c ∈ s, isWhiteSpace c = true := by
  refine ⟨fun h => ?_, words_blank⟩
  induction s using induction_on_blanks with
  | unbroken w hw =>
    by_cases hne : w = []
    · simp [hne]
    · rw [words_unbroken hne hw] at h
      cases h
  | blank a c b hc iha ihb =>
    rw [words_append_blank hc, List.append_eq_nil_iff] at h
    exact List.forall_mem_append.mpr ⟨iha h.1, List.forall_mem_cons.mpr ⟨hc, ihb h.2⟩⟩

theorem words_lower (s : List Char) : words (lower s) = (words s).map lower := by
  induction s using induction_on_blanks with
  | unbroken w hw =>
    by_cases hne : w = []
    · rw [hne]
      rfl
    · have hlower : lower w ≠ [] := fun h => hne (lowerAfter_eq_nil.mp h)
      rw [words_unbroken hne hw, words_unbroken hlower (unbroken_lowerAfter hw), List.map_singleton]
  | blank a c b hc iha ihb =>
    rw [lower_append_blank hc, words_append_blank hc, words_append_blank hc, List.map_append, iha, ihb]

/-- A word that stands in front, up to a blank or the end. -/
structure Leads (w r : List Char) : Prop where
  ne_nil : w ≠ []
  unbroken : ∀ c ∈ w, isWhiteSpace c = false
  stop : ∀ c ∈ r.head?, isWhiteSpace c = true

theorem exists_leads (hne : s ≠ []) (hfront : ∀ c ∈ s.head?, isWhiteSpace c = false) :
    ∃ w r, s = w ++ r ∧ Leads w r := by
  refine ⟨_, _, (List.takeWhile_append_dropWhile (p := (!isWhiteSpace ·))).symm, ?_, ?_, fun c hc => ?_⟩
  · obtain ⟨c, t, rfl⟩ := List.exists_cons_of_ne_nil hne
    have hc : isWhiteSpace c = false := hfront c rfl
    simp [hc]
  · simpa using List.all_eq_true.mp (List.all_takeWhile (p := (!isWhiteSpace ·)) (l := s))
  · have hstop := List.head?_dropWhile_not (!isWhiteSpace ·) s
    rw [Option.mem_def.mp hc] at hstop
    simpa using hstop

namespace Leads

variable {r : List Char} (h : Leads w r)
include h

theorem words_drop : words (r.drop 1) = words r := by
  cases r with
  | nil => rfl
  | cons c r => exact (words_cons_blank (h.stop c rfl) r).symm

theorem words_append : words (w ++ r) = w :: words r := by
  cases r with
  | nil => rw [List.append_nil, words_unbroken h.ne_nil h.unbroken, words_nil]
  | cons c r =>
    have hc : isWhiteSpace c = true := h.stop c rfl
    rw [words_append_blank hc, words_unbroken h.ne_nil h.unbroken, words_cons_blank hc, List.singleton_append]

theorem splitAtBlank_append : splitAtBlank (w ++ r) = (w, r.drop 1) := by
  have hword : ∀ c ∈ w, (!isWhiteSpace c) = true := fun c hc => by rw [h.unbroken c hc, Bool.not_false]
  rw [splitAtBlank, List.takeWhile_append_of_pos hword, List.dropWhile_append_of_pos hword]
  cases r with
  | nil => rw [List.takeWhile_nil, List.append_nil, List.dropWhile_nil]
  | cons c r =>
    have hc : (!isWhiteSpace c) = false := by rw [h.stop c rfl, Bool.not_true]
    rw [List.takeWhile_cons, List.dropWhile_cons, hc, if_neg Bool.false_ne_true, if_neg Bool.false_ne_true,
      List.append_nil]

theorem firstWord_append : firstWord (w ++ r) = w := by
  have hfront : ∀ c ∈ (w ++ r).head?, isWhiteSpace c = false := by
    intro c hc
    rw [List.head?_append_of_ne_nil _ h.ne_nil] at hc
    exact h.unbroken c (List.mem_of_head? hc)
  rw [firstWord, trimLeft_eq_self hfront]
  exact congrArg Prod.fst h.splitAtBlank_append

end Leads

theorem firstWord_eq (s : List Char) : firstWord s = (words s).headD [] := by
  by_cases hne : trimLeft s = []
  · rw [firstWord, ← words_trimLeft, hne]
    rfl
  · obtain ⟨w, r, hcut, h⟩ := exists_leads hne (front_trimLeft s)
    have hself : trimLeft (trimLeft s) = trimLeft s := trimLeft_eq_self (front_trimLeft s)
    rw [← words_trimLeft, hcut, h.words_append, firstWord, ← hself, hcut]
    exact h.firstWord_append

theorem words_splitAtBlank (hfront : ∀ c ∈ s.head?, isWhiteSpace c = false) :
    words (splitAtBlank s).2 = (words s).tail := by
  by_cases hne : s = []
  · rw [hne]
    rfl
  · obtain ⟨w, r, rfl, h⟩ := exists_leads hne hfront
    rw [h.splitAtBlank_append, h.words_append, List.tail_cons, h.words_drop]

end PromptCad.Text
