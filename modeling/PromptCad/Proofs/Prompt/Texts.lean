import PromptCad.Proofs.Prompt.Forms

/-! The texts of a list of pieces as a product of languages. For each form they are the lines of a sentence, the one
that has the kept numbers and units. -/

namespace PromptCad.Prompt

open Grammar Unicode

variable {p : Piece} {ps : List Piece} {cs : List Capture} {s : List Char} {L : Language Char}

def texts (ps : List Piece) (cs : List Capture) : Language Char := {s | Fits ps s cs}

theorem mem_texts : s ∈ texts ps cs ↔ Fits ps s cs := Iff.rfl

theorem texts_nil : texts [] [] = 1 := by
  ext s
  rw [mem_texts, Language.mem_one]
  constructor
  · intro h
    cases h
    rfl
  · rintro rfl
    exact .nil

theorem texts_cons (ks : List Capture) (hlength : ∀ a ls, p.Fits a ls → ls.length = ks.length)
    (hp : ∀ a, p.Fits a ks ↔ a ∈ L) : texts (p :: ps) (ks ++ cs) = L * texts ps cs := by
  ext s
  rw [mem_texts, Language.mem_mul]
  constructor
  · intro h
    obtain ⟨a, b, ls, ds, rfl, hkept, ha, hb⟩ := fits_cons.mp h
    obtain ⟨rfl, rfl⟩ := List.append_inj hkept (hlength a ls ha).symm
    exact ⟨a, (hp a).mp ha, b, hb, rfl⟩
  · rintro ⟨a, ha, b, hb, rfl⟩
    exact .cons ((hp a).mpr ha) hb

theorem texts_word (w : String) : texts (.word [w] :: ps) cs = word w * texts ps cs := by
  refine texts_cons [] (fun a ls h => by rw [h.kept_word]) fun a => ?_
  constructor
  · intro h
    generalize hkept : ([] : List Capture) = ks at h
    cases h with
    | word hw => exact List.mem_singleton.mp hw ▸ rfl
  · rintro rfl
    exact .word (List.mem_singleton.mpr rfl)

theorem texts_words (v w : String) : texts (.word [v, w] :: ps) cs = (word v + word w) * texts ps cs := by
  refine texts_cons [] (fun a ls h => by rw [h.kept_word]) fun a => ?_
  constructor
  · intro h
    generalize hkept : ([] : List Capture) = ks at h
    cases h with
    | word hw =>
      rcases List.mem_pair.mp hw with rfl | rfl
      · exact .inl rfl
      · exact .inr rfl
  · rintro (rfl | rfl)
    · exact .word (by simp)
    · exact .word (by simp)

theorem texts_blanks : texts (.blanks :: ps) cs = blanks * texts ps cs := by
  refine texts_cons [] (fun a ls h => by cases h; rfl) fun a => ⟨fun h => ?_, .blanks⟩
  cases h
  assumption

theorem texts_gap : texts (.gap :: ps) cs = gap * texts ps cs := by
  refine texts_cons [] (fun a ls h => by cases h; rfl) fun a => ⟨fun h => ?_, .gap⟩
  cases h
  assumption

theorem texts_number (n : List Char) :
    texts (.number :: ps) (.number n :: cs) = number (String.ofList n) * texts ps cs := by
  refine texts_cons [.number n] (fun a ls h => by cases h; rfl) fun a => ?_
  constructor
  · intro h
    cases h with
    | number h => exact ⟨String.toList_ofList.symm, h⟩
  · rintro ⟨rfl, h⟩
    rw [String.toList_ofList] at h ⊢
    exact .number h

theorem texts_unit (u : Option (List Char)) :
    texts (.unit :: ps) (.unit u :: cs) = unit (u.map String.ofList) * texts ps cs := by
  have htext : (u.map String.ofList).map String.toList = u := by
    cases u with
    | none => rfl
    | some u => exact congrArg some String.toList_ofList
  refine texts_cons [.unit u] (fun a ls h => by cases h; rfl) fun a => ?_
  constructor
  · intro h
    cases h with
    | unit h => exact ⟨htext.symm, h⟩
  · rintro ⟨he, h⟩
    rw [htext] at he
    subst he
    exact .unit h

theorem texts_unitIfAny (u : Option (List Char)) :
    texts (.unitIfAny :: ps) (.unit u :: cs) = unitIfAny (u.map String.ofList) * texts ps cs := by
  refine texts_cons [.unit u] (fun a ls h => by cases h <;> rfl) fun a => ?_
  constructor
  · intro h
    cases h with
    | someUnit h => exact ⟨congrArg some String.toList_ofList.symm, h⟩
    | noUnit => exact rfl
  · cases u with
    | none =>
      rintro rfl
      exact .noUnit
    | some u =>
      rintro ⟨he, h⟩
      obtain rfl : a = u := (Option.some.inj he).trans String.toList_ofList
      exact .someUnit h

def measured (n : List Char) (u : Option (List Char)) : Measurement := ⟨String.ofList n, u.map String.ofList⟩

theorem exists_measured (m : Measurement) : ∃ n u, m = measured n u := by
  obtain ⟨n, u⟩ := m
  refine ⟨n.toList, u.map String.toList, ?_⟩
  cases u with
  | none => rw [measured, String.ofList_toList]; rfl
  | some u => rw [measured, String.ofList_toList, Option.map_some, Option.map_some, String.ofList_toList]

theorem unit_inj {n n' : List Char} {u u' : Option (List Char)} (h : (measured n u).unit = (measured n' u').unit) :
    u = u' :=
  (Option.map_inj_right fun _ _ => String.ofList_injective).mp h

variable (n n' n'' : List Char) (u u' u'' : Option (List Char))

theorem texts_sharedUnitBoxForm : texts sharedUnitBoxForm [.number n, .number n', .number n'', .unit u] =
    (Sentence.sharedUnitBox (measured n u) (measured n' u) (measured n'' u)).lines := by
  have hunits : ∀ L : Language Char, {s | u.map String.ofList = u.map String.ofList ∧
      u.map String.ofList = u.map String.ofList ∧ s ∈ L} = (L : Set (List Char)) := by
    intro L
    ext s
    exact ⟨fun h => h.2.2, fun h => ⟨rfl, rfl, h⟩⟩
  rw [Sentence.lines]
  refine Eq.trans ?_ (hunits _).symm
  simp only [sharedUnitBoxForm, texts_word, texts_words, texts_blanks, texts_gap, texts_number, texts_unit, texts_nil,
    times, length, measured, mul_assoc, mul_one]

theorem texts_boxByForm :
    texts boxByForm [.number n, .unit u, .number n', .unit u', .number n'', .unit u''] =
      (Sentence.boxBy (measured n u) (measured n' u') (measured n'' u'')).lines := by
  simp only [boxByForm, texts_word, texts_blanks, texts_gap, texts_number, texts_unit, texts_nil, Sentence.lines,
    byWord, length, measured, mul_assoc, mul_one]

theorem texts_cubeForms : texts cubeForm [.number n, .unit u] + texts lengthCubeForm [.number n, .unit u] =
    (Sentence.cube (measured n u)).lines := by
  simp only [cubeForm, lengthCubeForm, texts_word, texts_blanks, texts_gap, texts_number, texts_unit, texts_nil,
    Sentence.lines, length, measured, mul_assoc, mul_one]

theorem texts_cylinderForm : texts cylinderForm [.number n, .unit u, .number n', .unit u'] =
    (Sentence.cylinder (measured n u) (measured n' u')).lines := by
  simp only [cylinderForm, heightForm, texts_word, texts_blanks, texts_gap, texts_number, texts_unitIfAny, texts_nil,
    Sentence.lines, extent, measured, mul_assoc, mul_one]

theorem texts_sphereForm :
    texts sphereForm [.number n, .unit u] = (Sentence.sphere (measured n u)).lines := by
  simp only [sphereForm, texts_word, texts_blanks, texts_gap, texts_number, texts_unitIfAny, texts_nil, Sentence.lines,
    extent, measured, mul_assoc, mul_one]

end PromptCad.Prompt
