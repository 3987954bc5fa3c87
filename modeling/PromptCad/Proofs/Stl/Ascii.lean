import PromptCad.Proofs.Float.Fixed
import PromptCad.Proofs.Mesh.Corners
import PromptCad.Proofs.Prompt.Munch
import PromptCad.Proofs.Session.Save
import PromptCad.Proofs.Stl.Decoder
import PromptCad.Proofs.Text.Words

/-! STL text is read back: the name of the solid, which is a single word whatever name was given, and the number texts
of each facet. No text of a name or number can end its line or fall into two words. -/

namespace PromptCad.Stl.Ascii

open Decoder Unicode

/-- The lines of a text, each of which has to be ended by a line feed. -/
def lines? (text : List Char) : Option (List (List Char)) :=
  if (text.splitOn '\n').getLast? = some [] then some (text.splitOn '\n').dropLast else none

def words (line : List Char) : List String :=
  ((line.splitOnP isWhiteSpace).filter (· ≠ [])).map String.ofList

structure FacetText where
  normal : Vec3 String
  a : Vec3 String
  b : Vec3 String
  c : Vec3 String
deriving DecidableEq

/-- A solid with the name in front and the name at the end. -/
structure SolidText where
  head : String
  facets : List FacetText
  foot : String
deriving DecidableEq

/-- What follows given words on a line. -/
def line (ws : List String) : Decoder (List String) (List String) := do
  match (← next).dropPrefix? ws with
  | some rest => pure rest
  | none => failure

def phrase (ws : List String) : Decoder (List String) Unit := do
  match ← line ws with
  | [] => pure ()
  | _ => failure

def named (w : String) : Decoder (List String) String := do
  match ← line [w] with
  | [name] => pure name
  | _ => failure

def vector (ws : List String) : Decoder (List String) (Vec3 String) := do
  match ← line ws with
  | [x, y, z] => pure ⟨x, y, z⟩
  | _ => failure

def facet : Decoder (List String) FacetText := do
  let normal ← vector ["facet", "normal"]
  phrase ["outer", "loop"]
  let a ← vector ["vertex"]
  let b ← vector ["vertex"]
  let c ← vector ["vertex"]
  phrase ["endloop"]
  phrase ["endfacet"]
  return ⟨normal, a, b, c⟩

def solid : Decoder (List String) SolidText := do
  let head ← named "solid"
  let facets ← many facet (← get).length
  let foot ← named "endsolid"
  return ⟨head, facets, foot⟩

/-- The solid in front of a text, and the lines after it. -/
def read? (text : String) : Option (SolidText × List (List String)) := do
  solid.run ((← lines? text.toList).map words)

def numberText (v : Float) : String := String.ofList (number v)

def facetText (f : Facet) : FacetText :=
  ⟨f.normal.map numberText, f.a.map numberText, f.b.map numberText, f.c.map numberText⟩

/-- A text that white space cannot divide. -/
structure IsWord (w : List Char) : Prop where
  ne_nil : w ≠ []
  unbroken : ∀ c ∈ w, isWhiteSpace c = false

section Words

theorem isWord_of_all {w : List Char} (hne : w ≠ []) (h : w.all (!isWhiteSpace ·) = true) : IsWord w :=
  ⟨hne, fun c hc => by simpa using List.all_eq_true.mp h c hc⟩

theorem words_eq (line : List Char) : words line = (Text.words line).map String.ofList := rfl

theorem words_of_isWord {w : List Char} (h : IsWord w) : words w = [String.ofList w] := by
  rw [words_eq, Text.words_unbroken h.ne_nil h.unbroken, List.map_singleton]

theorem words_append_blank {c : Char} (hc : isWhiteSpace c = true) (a b : List Char) :
    words (a ++ c :: b) = words a ++ words b := by
  rw [words_eq, Text.words_append_blank hc, List.map_append, words_eq, words_eq]

theorem isWhiteSpace_of_isDigit {c : Char} (h : Decimal.isDigit c = true) : isWhiteSpace c = false := by
  refine Ranges.contains_eq_false_of_apart (r := [(0x30, 0x39)]) (by decide) ?_
  simpa [Ranges.contains, Decimal.isDigit, Char.le_def, UInt32.le_iff_toNat_le] using h

theorem alphanumeric_apart_blank : alphanumericRanges.apart whiteSpaceRanges = true := by decide +kernel

theorem isWhiteSpace_of_isNameChar {c : Char} (h : isNameChar c = true) : isWhiteSpace c = false := by
  simp only [isNameChar, Bool.or_eq_true, decide_eq_true_eq] at h
  obtain ((h | rfl) | rfl) | rfl := h
  · exact Ranges.contains_eq_false_of_apart alphanumeric_apart_blank h
  · decide
  · decide
  · decide

theorem isWord_solidName (name : List Char) : IsWord (solidName name) :=
  ⟨solidName_ne_nil name, fun _ hc => isWhiteSpace_of_isNameChar (isNameChar_of_mem_solidName hc)⟩

theorem isWord_of_spellsFixed {places : ℕ} {t : List Char} {d : ℚ} (h : Decimal.SpellsFixed places t d) : IsWord t := by
  obtain ⟨negative, hne, hdigits, -⟩ := h
  refine ⟨by simp, fun c hc => ?_⟩
  rw [List.append_assoc, List.mem_append] at hc
  rcases hc with hc | hc
  · cases negative with
    | true =>
      rw [List.mem_singleton.mp hc]
      decide
    | false => exact absurd hc List.not_mem_nil
  · rcases List.mem_append.mp hc with hc | hc
    · exact isWhiteSpace_of_isDigit (hdigits c (List.mem_append_left _ hc))
    · rcases List.mem_cons.mp hc with rfl | hc
      · decide
      · exact isWhiteSpace_of_isDigit (hdigits c (List.mem_append_right _ hc))

theorem halfPlace_bits : Decimal.isNegative halfPlace = false ∧
    Decimal.magnitude halfPlace = (1001 + 1) * 2 ^ 52 + 0x0C6F7A0B5ED8D := by decide

/-- Half of the last place is stored as a float that is just below it. -/
theorem exactValue_halfPlace : halfPlace.isFinite = true ∧ Decimal.exactValue halfPlace ≤ 5 / 10 ^ 7 := by
  refine ⟨by decide, ?_⟩
  rw [Decimal.exactValue, halfPlace_bits.1, halfPlace_bits.2, if_neg Bool.false_ne_true]
  have hvalue : Decimal.binary64.value ((1001 + 1) * 2 ^ 52 + 0x0C6F7A0B5ED8D) =
      (2 ^ 52 + 0x0C6F7A0B5ED8D : ℕ) * 2 ^ (-1074 + (1001 : ℕ) : ℤ) :=
    Decimal.binary64.value_normal (show 0x0C6F7A0B5ED8D < 2 ^ 52 by decide)
  rw [hvalue]
  norm_num

/-- The text of a finite number has six places and is off by at most half of the last one. -/
theorem number_spells {v : Float} (h : v.isFinite = true) :
    ∃ d, Decimal.SpellsFixed 6 (number v) d ∧ |d - Decimal.exactValue v| ≤ 5 / 10 ^ 7 := by
  unfold number
  split
  · next hsmall =>
    obtain ⟨hfinite, hvalue⟩ := Decimal.exactValue_abs h
    obtain ⟨hfinite', hhalf⟩ := exactValue_halfPlace
    have hlt := (Decimal.lt_iff_exactValue hfinite hfinite').mp hsmall
    rw [hvalue] at hlt
    have hzero : Decimal.SpellsFixed 6 "0.000000".toList 0 := by
      have htext : Decimal.pointed 6 0 = "0.000000".toList := by decide
      simpa [htext] using Decimal.spellsFixed_pointed false 6 0
    refine ⟨0, hzero, ?_⟩
    rw [zero_sub, abs_neg]
    exact (hlt.trans_le hhalf).le
  · obtain ⟨d, hspells, hnear⟩ := Decimal.exists_spellsFixed h 6
    exact ⟨d, hspells, hnear.trans (by norm_num)⟩

theorem isWord_number (v : Float) : IsWord (number v) := by
  cases h : v.isFinite with
  | true =>
    obtain ⟨d, hspells, -⟩ := number_spells h
    exact isWord_of_spellsFixed hspells
  | false =>
    have hzero : IsWord "0.000000".toList := isWord_of_all (by decide) (by decide)
    have hnan : IsWord "NaN".toList := isWord_of_all (by decide) (by decide)
    have hinf : IsWord (Decimal.signed v "inf".toList) := by
      unfold Decimal.signed
      split
      · exact isWord_of_all (by decide) (by decide)
      · exact isWord_of_all (by decide) (by decide)
    unfold number Decimal.fixed Decimal.notFinite
    rw [h, if_neg Bool.false_ne_true]
    split
    · exact hzero
    · split
      · exact hnan
      · exact hinf

def tripleWords (v : Point) : List String := [numberText v.x, numberText v.y, numberText v.z]

theorem words_triple (v : Point) : words (triple v) = tripleWords v := by
  have hblank : isWhiteSpace ' ' = true := by decide
  rw [triple, words_append_blank hblank, words_append_blank hblank, words_of_isWord (isWord_number v.x),
    words_of_isWord (isWord_number v.y), words_of_isWord (isWord_number v.z)]
  rfl

theorem words_keyword {keyword : List Char} {ws : List String} (h : words keyword = ws) (rest : List Char) :
    words (keyword ++ ' ' :: rest) = ws ++ words rest := by
  rw [words_append_blank (by decide), h]

theorem words_headLine (name : List Char) : words (headLine name) = ["solid", String.ofList (solidName name)] := by
  have hkeyword : words "solid".toList = ["solid"] := by decide
  have hline := words_keyword hkeyword (solidName name)
  rwa [words_of_isWord (isWord_solidName name)] at hline

theorem words_footLine (name : List Char) : words (footLine name) = ["endsolid", String.ofList (solidName name)] := by
  have hkeyword : words "endsolid".toList = ["endsolid"] := by decide
  have hline := words_keyword hkeyword (solidName name)
  rwa [words_of_isWord (isWord_solidName name)] at hline

theorem words_vertexLine (v : Point) : words (vertexLine v) = "vertex" :: tripleWords v := by
  have hkeyword : words "    vertex".toList = ["vertex"] := by decide
  have hline := words_keyword hkeyword (triple v)
  rwa [words_triple] at hline

theorem words_facetLines (f : Facet) : (facetLines f).map words =
    [["facet", "normal"] ++ tripleWords f.normal, ["outer", "loop"] ++ [], ["vertex"] ++ tripleWords f.a,
      ["vertex"] ++ tripleWords f.b, ["vertex"] ++ tripleWords f.c, ["endloop"] ++ [], ["endfacet"] ++ []] := by
  have hkeyword : words "facet normal".toList = ["facet", "normal"] := by decide
  have hnormal := words_keyword hkeyword (triple f.normal)
  have hloop : words "  outer loop".toList = ["outer", "loop"] := by decide
  have hclosing : closingLines.map words = [["endloop"], ["endfacet"]] := by decide
  rw [words_triple] at hnormal
  rw [facetLines, List.map_append, List.map_append, hclosing, openingLines]
  simp only [List.map_cons, List.map_nil, words_vertexLine, hloop]
  exact congrArg (· :: _) hnormal

end Words

section Lines

theorem newline_not_mem {w : List Char} (h : IsWord w) : '\n' ∉ w :=
  fun hmem => absurd (h.unbroken _ hmem) (by decide)

theorem lines?_unlines {ls : List (List Char)} (h : ∀ l ∈ ls, '\n' ∉ l) : lines? (unlines ls) = some ls := by
  have hsplit : (unlines ls).splitOn '\n' = ls ++ [[]] := by
    induction ls with
    | nil => rfl
    | cons l ls ih =>
      obtain ⟨hl, hls⟩ := List.forall_mem_cons.mp h
      have hunlines : unlines (l :: ls) = l ++ '\n' :: unlines ls := by simp [unlines]
      have hfree : ∀ c ∈ l, (c == '\n') = false := fun c hc => beq_eq_false_iff_ne.mpr fun heq => hl (heq ▸ hc)
      rw [List.splitOn_eq_splitOnP] at ih ⊢
      rw [hunlines, List.splitOnP_append_cons_of_forall_mem hfree _ (by decide), ih hls, List.cons_append]
  rw [lines?, hsplit, if_pos List.getLast?_concat, List.dropLast_concat]

theorem newline_not_mem_append {a b : List Char} (ha : '\n' ∉ a) (hb : '\n' ∉ b) : '\n' ∉ a ++ b :=
  fun h => (List.mem_append.mp h).elim ha hb

theorem newline_not_mem_triple (v : Point) : '\n' ∉ triple v := by
  have hword : ∀ x, '\n' ∉ number x := fun x => newline_not_mem (isWord_number x)
  simp [triple, hword]

theorem newline_not_mem_of_mem_lines {name : List Char} {facets : List Facet} :
    ∀ l ∈ lines name facets, '\n' ∉ l := by
  have hname := newline_not_mem (isWord_solidName name)
  have hvertex : ∀ v, '\n' ∉ vertexLine v := fun v => newline_not_mem_append (by decide) (newline_not_mem_triple v)
  intro l h
  rw [lines, List.cons_append, List.mem_cons, List.mem_append, List.mem_flatMap, List.mem_singleton] at h
  rcases h with rfl | ⟨f, -, hl⟩ | rfl
  · exact newline_not_mem_append (by decide) hname
  · simp only [facetLines, openingLines, closingLines, List.mem_append, List.mem_cons, List.not_mem_nil,
      or_false] at hl
    rcases hl with ((rfl | rfl) | rfl | rfl | rfl) | rfl | rfl
    · exact newline_not_mem_append (by decide) (newline_not_mem_triple f.normal)
    · decide
    · exact hvertex f.a
    · exact hvertex f.b
    · exact hvertex f.c
    · decide
    · decide
  · exact newline_not_mem_append (by decide) hname

end Lines

section Reading

theorem takes_line (ws args : List String) : Takes (line ws) [ws ++ args] args := by
  intro rest
  have hdrop : (ws ++ args).dropPrefix? ws = some args := List.dropPrefix?_append_of_beq args (beq_self_eq_true ws)
  show (match (ws ++ args).dropPrefix? ws with
    | some rest => pure rest
    | none => failure : Decoder (List String) (List String)).run rest = _
  rw [hdrop]
  rfl

theorem takes_phrase (ws : List String) : Takes (phrase ws) [ws ++ []] () := (takes_line ws []).bind (takes_pure ())

theorem takes_named (w name : String) : Takes (named w) [[w] ++ [name]] name :=
  (takes_line [w] [name]).bind (takes_pure name)

theorem takes_vector (ws : List String) (v : Point) : Takes (vector ws) [ws ++ tripleWords v] (v.map numberText) :=
  (takes_line ws (tripleWords v)).bind (takes_pure _)

theorem takes_facet (f : Facet) : Takes facet ((facetLines f).map words) (facetText f) := by
  rw [words_facetLines]
  exact (takes_vector _ f.normal).bind <| (takes_phrase _).bind <| (takes_vector _ f.a).bind <|
    (takes_vector _ f.b).bind <| (takes_vector _ f.c).bind <| (takes_phrase _).bind <| (takes_phrase _).bind <|
    takes_pure (facetText f)

theorem run_solid (name : List Char) (facets : List Facet) :
    solid.run ((lines name facets).map words) =
      some (⟨String.ofList (solidName name), facets.map facetText, String.ofList (solidName name)⟩, []) := by
  have hlines : (lines name facets).map words =
      [["solid"] ++ [String.ofList (solidName name)]] ++
        (facets.flatMap (fun f => (facetLines f).map words) ++
          [["endsolid"] ++ [String.ofList (solidName name)]]) := by
    simp [lines, words_headLine, words_footLine, List.map_flatMap]
  generalize String.ofList (solidName name) = word at hlines ⊢
  have hstop : facet.run [["endsolid"] ++ [word]] = none := rfl
  generalize hrest : facets.flatMap (fun f => (facetLines f).map words) ++ [["endsolid"] ++ [word]] = rest at hlines
  have hlength : facets.length ≤ rest.length := by
    have hseven := length_flatMap_const (fun f => (List.length_map words).trans (length_facetLines f)) facets
    rw [← hrest, List.length_append, hseven]
    omega
  have hfacets := run_many takes_facet hstop facets hlength
  rw [hrest] at hfacets
  have hfoot := takes_named "endsolid" word []
  rw [hlines, solid, StateT.run_bind, takes_named "solid" word rest]
  show (many facet rest.length >>= fun facets => do
    return (⟨word, facets, ← named "endsolid"⟩ : SolidText)).run rest = _
  rw [StateT.run_bind, hfacets]
  show (SolidText.mk word (facets.map facetText) <$> named "endsolid").run [["endsolid"] ++ [word]] = _
  rw [StateT.run_map]
  exact congrArg (Option.map _) hfoot

theorem read?_text (name : List Char) (m : Mesh) :
    lines? (text name m).toList = some (lines name m.facets) ∧
      read? (text name m) =
        some (⟨String.ofList (solidName name), m.facets.map facetText, String.ofList (solidName name)⟩, []) := by
  have hlines : lines? (text name m).toList = some (lines name m.facets) := by
    rw [toList_text, lines?_unlines newline_not_mem_of_mem_lines]
  refine ⟨hlines, ?_⟩
  rw [read?, hlines]
  exact run_solid name m.facets

end Reading

theorem encode_ascii {m : Mesh} (h : 0 < m.triangles.size) (name : String) :
    Stl.encode .ascii m name = .ok (text name.toList m).toUTF8 := by
  rw [Stl.encode, Mesh.isEmpty_eq_false h, if_neg Bool.false_ne_true]

/-- A mesh written as text is read back to the last line, whatever name it is given: in front and at the end the name
as one word, and between them the number texts of the facets, which are as near to the numbers as six places allow. -/
theorem text_reads_back {m : Mesh} (h : m.InRange) (hne : 0 < m.triangles.size) (name : String) :
    ∃ bytes text facets, Stl.encode .ascii m name = .ok bytes ∧ Text.decode bytes = .ok text ∧
      m.facets? = some facets ∧ facets.length = m.triangles.size ∧
      (∃ ls, lines? text.toList = some ls ∧ ls.length = 2 + 7 * m.triangles.size) ∧
      read? text = some (⟨solidNameText name, facets.map facetText, solidNameText name⟩, []) ∧
      IsWord (solidNameText name).toList ∧
      ∀ v : Float, v.isFinite = true →
        ∃ d, Decimal.SpellsFixed 6 (numberText v).toList d ∧ |d - Decimal.exactValue v| ≤ 5 / 10 ^ 7 := by
  obtain ⟨hlines, hread⟩ := read?_text name.toList m
  refine ⟨_, text name.toList m, m.facets, encode_ascii hne name, Text.decode_toUTF8 _, Mesh.facets?_eq h,
    Mesh.length_facets m, ⟨_, hlines, ?_⟩, hread, ?_, fun v hv => ?_⟩
  · rw [length_lines, Mesh.length_facets]
  · rw [solidNameText, String.toList_ofList]
    exact isWord_solidName name.toList
  · rw [numberText, String.toList_ofList]
    exact number_spells hv

/-- A name that tries to close the solid, on a mesh with a coordinate that is snapped to zero. -/
theorem text_reads_back_sliver :
    Mesh.sliver.InRange ∧ 0 < Mesh.sliver.triangles.size ∧
      ∃ bytes text, Stl.encode .ascii Mesh.sliver " a\nendsolid b " = .ok bytes ∧ Text.decode bytes = .ok text ∧
        read? text = some (⟨"a_endsolid_b",
          [⟨⟨"0.000000", "0.000000", "1.000000"⟩, ⟨"0.000000", "0.000000", "0.000000"⟩,
            ⟨"2.500000", "0.000000", "0.000000"⟩, ⟨"0.000000", "1.000000", "0.000000"⟩⟩], "a_endsolid_b"⟩, []) := by
  have hrange : Mesh.sliver.InRange := by
    unfold Mesh.InRange
    decide
  have hpos : 0 < Mesh.sliver.triangles.size := by decide
  obtain ⟨bytes, text, facets, hencode, hdecode, hfacets, -, -, hread, -⟩ :=
    text_reads_back hrange hpos " a\nendsolid b "
  have hname : solidNameText " a\nendsolid b " = "a_endsolid_b" := by decide +kernel
  have htexts : ∀ texts, Mesh.sliver.facets?.map (·.map facetText) = some texts → facets.map facetText = texts := by
    intro texts h
    rw [hfacets] at h
    exact Option.some.inj h
  refine ⟨hrange, hpos, bytes, text, hencode, hdecode, ?_⟩
  rw [hread, hname]
  exact congrArg (fun texts => some (SolidText.mk _ texts _, [])) (htexts _ (by decide +kernel))

end PromptCad.Stl.Ascii
