import PromptCad.Decimal.Layout
import PromptCad.Stl.Name
import PromptCad.Stl.Normal

/-! Meshes as STL text: a header, seven lines to each facet, a footer. -/

namespace PromptCad.Stl.Ascii

def halfPlace : Float := 5e-7

/-- A coordinate with six places. What lies nearer to zero than half a place is written without a sign. -/
def number (v : Float) : List Char :=
  if v.abs < halfPlace then "0.000000".toList else Decimal.fixed 6 v

def triple (v : Point) : List Char := number v.x ++ ' ' :: number v.y ++ ' ' :: number v.z

def vertexLine (v : Point) : List Char := "    vertex ".toList ++ triple v

def openingLines (f : Facet) : List (List Char) :=
  ["facet normal ".toList ++ triple f.normal, "  outer loop".toList]

def closingLines : List (List Char) := ["  endloop".toList, "endfacet".toList]

def facetLines (f : Facet) : List (List Char) :=
  openingLines f ++ [vertexLine f.a, vertexLine f.b, vertexLine f.c] ++ closingLines

def headLine (name : List Char) : List Char := "solid ".toList ++ solidName name

def footLine (name : List Char) : List Char := "endsolid ".toList ++ solidName name

def lines (name : List Char) (facets : List Facet) : List (List Char) :=
  headLine name :: facets.flatMap facetLines ++ [footLine name]

def unlines (ls : List (List Char)) : List Char := ls.flatMap (· ++ ['\n'])

def linesText (ls : List (List Char)) : String := String.ofList (unlines ls)

def vertexText (v : Point) : String := linesText [vertexLine v]

/-- The text of each vertex of a mesh, so that a vertex is written out once for all triangles that share it. -/
def vertexTexts (m : Mesh) : Array String := m.vertices.map vertexText

/-- A facet put after a text. `closing` is the text of the closing lines, and `beyond` that of a corner which is no
vertex. -/
def appendFacet (m : Mesh) (texts : Array String) (beyond closing out : String) (t : Triangle) : String :=
  out ++ linesText (openingLines (m.facet t)) ++ texts.getD t.a beyond ++ texts.getD t.b beyond ++
    texts.getD t.c beyond ++ closing

def text (name : List Char) (m : Mesh) : String :=
  m.triangles.foldl (appendFacet m (vertexTexts m) (vertexText .origin) (linesText closingLines))
    (linesText [headLine name]) ++ linesText [footLine name]

theorem toList_foldl_append {α : Type} {step : String → α → String} {f : α → List Char}
    (h : ∀ out a, (step out a).toList = out.toList ++ f a) (l : List α) (s : String) :
    (l.foldl step s).toList = s.toList ++ l.flatMap f := by
  induction l generalizing s with
  | nil => simp
  | cons a l ih => simp [ih, h]

theorem unlines_append (a b : List (List Char)) : unlines (a ++ b) = unlines a ++ unlines b := by
  simp [unlines]

theorem unlines_flatMap {α : Type} (f : α → List (List Char)) (l : List α) :
    unlines (l.flatMap f) = l.flatMap fun a => unlines (f a) := by
  induction l with
  | nil => rfl
  | cons a l ih => rw [List.flatMap_cons, List.flatMap_cons, unlines_append, ih]

theorem toList_linesText (ls : List (List Char)) : (linesText ls).toList = unlines ls := String.toList_ofList

theorem vertexTexts_getD (m : Mesh) (i : Nat) :
    (vertexTexts m).getD i (vertexText .origin) = vertexText (m.vertex i) := by
  rw [vertexTexts, Mesh.vertex, Array.getD_eq_getD_getElem?, Array.getD_eq_getD_getElem?, Array.getElem?_map,
    Option.getD_map]

theorem toList_appendFacet (m : Mesh) (out : String) (t : Triangle) :
    (appendFacet m (vertexTexts m) (vertexText .origin) (linesText closingLines) out t).toList =
      out.toList ++ unlines (facetLines (m.facet t)) := by
  have h : unlines (facetLines (m.facet t)) = unlines (openingLines (m.facet t)) ++
      unlines [vertexLine (m.vertex t.a)] ++ unlines [vertexLine (m.vertex t.b)] ++
      unlines [vertexLine (m.vertex t.c)] ++ unlines closingLines := by
    rw [facetLines, ← unlines_append, ← unlines_append, ← unlines_append, ← unlines_append]
    simp only [List.append_assoc, List.cons_append, List.nil_append, Mesh.facet]
  rw [appendFacet, vertexTexts_getD, vertexTexts_getD, vertexTexts_getD, h]
  simp only [String.toList_append, vertexText, toList_linesText, List.append_assoc]

/-- The text holds the lines in their order. -/
theorem toList_text (name : List Char) (m : Mesh) : (text name m).toList = unlines (lines name m.facets) := by
  have h : unlines (lines name m.facets) = unlines [headLine name] ++ unlines (m.facets.flatMap facetLines) ++
      unlines [footLine name] := by
    rw [lines, ← unlines_append, ← unlines_append]
    simp only [List.cons_append, List.nil_append]
  rw [h, text, ← Array.foldl_toList, String.toList_append, toList_foldl_append (toList_appendFacet m),
    toList_linesText, toList_linesText, unlines_flatMap, Mesh.facets, List.flatMap_map]

theorem length_facetLines (f : Facet) : (facetLines f).length = 7 := rfl

theorem length_lines (name : List Char) (facets : List Facet) :
    (lines name facets).length = 2 + 7 * facets.length := by
  have h := length_flatMap_const length_facetLines facets
  simp [lines, h]
  omega

end PromptCad.Stl.Ascii
