import PromptCad.Model.Ron
import PromptCad.Proofs.Float.Order
import PromptCad.Proofs.Model.Check
import PromptCad.Proofs.Ron.Scalars

/-! Solids, primitives, operations and models are read back from what is printed for them, at any level of
indentation, with enough fuel for the longest list and depth for the nesting. -/

namespace PromptCad.Ron

open Reader

variable {fuel : Nat} {scope : Scope}

theorem printItems_map {α : Type} (form : α → Form) (level : Nat) (as : List α) :
    printItems level (as.map form) = as.map fun a => (form a).print (level + 1) := by
  induction as with
  | nil => rfl
  | cons a as ih => rw [List.map_cons, printItems, ih, List.map_cons]

theorem length_printFields (level : Nat) (fs : List (String × Form)) : (printFields level fs).length = fs.length := by
  induction fs with
  | nil => rfl
  | cons f fs ih => rw [printFields, List.length_cons, List.length_cons, ih]

theorem mem_printFields {level : Nat} {fs : List (String × Form)} {name : String} {f : Form} (h : (name, f) ∈ fs) :
    name.toList ++ ':' :: ' ' :: f.print (level + 1) ∈ printFields level fs := by
  induction fs with
  | nil => cases h
  | cons g fs ih =>
    rw [printFields]
    rcases List.mem_cons.mp h with rfl | h
    · exact List.mem_cons_self
    · exact List.mem_cons_of_mem _ (ih h)

theorem length_le_print_record (level : Nat) (name : String) (fs : List (String × Form)) :
    fs.length ≤ ((Form.record name fs).print level).length ∧
      ∀ key f, (key, f) ∈ fs → (f.print (level + 1)).length ≤ ((Form.record name fs).print level).length := by
  obtain ⟨hcount, hitems⟩ := length_le_block '(' ')' level (printFields level fs)
  rw [length_printFields] at hcount
  rw [Form.print, List.length_append]
  refine ⟨by omega, fun key f hf => ?_⟩
  have := hitems _ (mem_printFields hf)
  simp only [List.length_append, List.length_cons] at this
  omega

theorem length_le_print_list (level : Nat) (fs : List Form) : fs.length ≤ ((Form.list fs).print level).length := by
  have hcount := (length_le_block '[' ']' level (printItems level fs)).1
  have hmap := printItems_map id level fs
  rw [List.map_id] at hmap
  rw [hmap, List.length_map] at hcount
  rw [Form.print, hmap]
  exact hcount

theorem print_record (level : Nat) (fs : List (String × Form)) :
    (Form.record "" fs).print level = block '(' ')' level (printFields level fs) := by
  rw [Form.print]
  rfl

theorem reads_kind (k : Kind) : Reads kind k.idStem.toList k := by
  have hname : isPlainName k.idStem = true := by cases k <;> decide
  have hkind : Kind.ofStem? k.idStem = some k := by cases k <;> decide
  refine ⟨by simpa using starts_field hname [], fun rest hrest => ?_⟩
  rw [kind, run_bind_of (run_name hname ?_), hkind, run_need]
  intro c hc
  obtain rfl | rfl := hrest c hc <;> decide

section Measures

variable {k : Kind}

theorem fieldsRead_measures {pairs : List (String × Float)} (hnames : ∀ p ∈ pairs, p.1 ∈ Solid.measureNames k)
    (hdistinct : (pairs.map (·.1)).Nodup) (hfinite : ∀ p ∈ pairs, p.2.isFinite = true) {known : MeasureParts}
    (hknown : ∀ p ∈ pairs, known.holds p.1 = false) (level : Nat) :
    FieldsRead (measureField fuel scope k) known (printFields level (pairs.map fun p => (p.1, .real p.2)))
      (pairs.reverse ++ known) := by
  have hplain : ∀ k : Kind, ∀ name ∈ Solid.measureNames k, isPlainName name = true := by
    intro k
    cases k <;> decide
  induction pairs generalizing known with
  | nil => exact .nil known
  | cons p pairs ih =>
    obtain ⟨name, x⟩ := p
    rw [List.map_cons, List.nodup_cons] at hdistinct
    obtain ⟨hname, hnames⟩ := List.forall_mem_cons.mp hnames
    obtain ⟨hx, hfinite⟩ := List.forall_mem_cons.mp hfinite
    obtain ⟨hnew, hknown⟩ := List.forall_mem_cons.mp hknown
    have hreads : Reads (measureField fuel scope k name known) (Decimal.plainWithPoint x) ((name, x) :: known) := by
      rw [measureField, if_pos (by simpa using hname)]
      simp only [hnew, Bool.false_eq_true, if_false]
      exact (reads_real hx).bind_right fun s => rfl
    have hknown' : ∀ p ∈ pairs, MeasureParts.holds ((name, x) :: known) p.1 = false := by
      intro p hp
      have hne : name ≠ p.1 := fun h => hdistinct.1 (List.mem_map.mpr ⟨p, hp, h.symm⟩)
      simpa [MeasureParts.holds, hne] using hknown p hp
    have hrest := ih hnames hdistinct.2 hfinite hknown'
    rw [List.map_cons, printFields, List.reverse_cons, List.append_assoc]
    exact .cons (hplain k name hname) hreads hrest

/-- The measures of a solid that passes its check are all read, the last one in front. -/
theorem fieldsRead_of_check {s : Solid} (hs : s.check = .ok ()) (level : Nat) :
    FieldsRead (measureField fuel scope s.kind) []
      (printFields level ((Solid.measureNames s.kind).zip (s.measures.map .real)))
      ((Solid.measureNames s.kind).zip s.measures).reverse := by
  have hzip : (Solid.measureNames s.kind).zip (s.measures.map .real) =
      ((Solid.measureNames s.kind).zip s.measures).map (fun p => (p.1, Form.real p.2)) := by
    rw [List.zip_map_right]
    rfl
  rw [hzip, ← List.append_nil (List.reverse _)]
  refine fieldsRead_measures (fun p hp => (List.of_mem_zip hp).1) ?_ (fun p hp => ?_) (fun p _ => rfl) level
  · rw [List.map_fst_zip s.length_measures.ge]
    exact Solid.nodup_measureNames s.kind
  · exact Solid.isFinite_of_check hs p.2 (List.of_mem_zip hp).2

/-- In front of a round bracket nothing stands that measures could begin with, so their reader goes on to the
fields. -/
theorem run_measures (hdepth : 0 < scope.depth) {parts : MeasureParts} {s : Solid} (hs : parts.solid? k = some s)
    {t rest : List Char} (h : (fields ')' (measureField fuel { scope with depth := scope.depth - 1 } k) fuel true []).run
      ('\n' :: t) = .ok (parts, rest)) : (measures fuel scope k).run ('(' :: '\n' :: t) = .ok (s, rest) := by
  have hconstant : acceptConstant.run ('(' :: '\n' :: t) = .ok (false, '(' :: '\n' :: t) := rfl
  have hsome : (acceptWord "Some").run ('(' :: '\n' :: t) = .ok (false, '(' :: '\n' :: t) := rfl
  have hspecial : acceptSpecial.run ('(' :: '\n' :: t) = .ok (none, '(' :: '\n' :: t) := rfl
  have hbrace : (acceptChar '\x7b').run ('(' :: '\n' :: t) = .ok (false, '(' :: '\n' :: t) := rfl
  have hname : Option.any isNameStart ('(' :: '\n' :: t).head? = false := rfl
  have hblanks : afterBlanks? .between ('(' :: '\n' :: t) = some ('(' :: '\n' :: t) :=
    afterBlanks?_of_standing (by decide) (by decide) _
  rw [measures, run_bind_of hconstant]
  simp only [Bool.false_eq_true, if_false]
  rw [run_bind_of hsome]
  simp only [Bool.false_eq_true, if_false]
  rw [run_bind_of hspecial]
  simp only [Option.isSome_none, Bool.false_eq_true, if_false]
  rw [run_bind_of (run_enter hdepth _), run_bind_of hbrace]
  simp only [Bool.false_eq_true, if_false]
  rw [run_bind_of (run_peek _), hname, if_neg Bool.false_ne_true, run_bind_of (run_blanks_of hblanks),
    run_bind_of (run_expectChar '(' _), run_bind_of h, hs, run_need]

theorem reads_measures {s : Solid} (hs : s.check = .ok ()) (hfuel : 3 < fuel) (hdepth : 0 < scope.depth) (level : Nat) :
    Reads (measures fuel scope s.kind)
      (Form.print level (.record "" ((Solid.measureNames s.kind).zip (s.measures.map .real)))) s := by
  have hfields := @fieldsRead_of_check fuel { scope with depth := scope.depth - 1 } s hs level
  rw [print_record]
  generalize hts : printFields level ((Solid.measureNames s.kind).zip (s.measures.map .real)) = ts at hfields
  have hlen : ts.length = (Solid.measureNames s.kind).length := by
    rw [← hts, length_printFields, List.length_zip, List.length_map, s.length_measures, Nat.min_self]
  obtain ⟨hpos, hmost⟩ := Solid.length_measureNames s.kind
  have hne : ts ≠ [] := List.ne_nil_of_length_pos (hlen ▸ hpos)
  refine ⟨⟨'(', _, (List.append_nil _).symm.trans (block_eq_lines hne []), by decide⟩, fun rest _ => ?_⟩
  obtain ⟨t, ht, hrun⟩ := run_fields_block hfields hne (by omega : ts.length < fuel) level rest
  rw [ht, run_measures hdepth (MeasureParts.solid?_measures s) hrun]

end Measures

theorem reads_solid {s : Solid} (hs : s.check = .ok ()) (hfuel : 3 < fuel) (hdepth : 2 < scope.depth) (level : Nat) :
    Reads (solid fuel scope) (s.toRon.print level) s := by
  have hkind : Reads (solidField fuel { scope with depth := scope.depth - 1 } "kind" {})
      (Form.print (level + 1) (.word s.kind.idStem)) { kind := some s.kind } := by
    refine Reads.bind_left ?_ (run_enter (by simp only; omega))
    simp only [if_true, Option.isSome_none, Bool.false_eq_true, if_false]
    exact (reads_kind s.kind).bind_right fun t => rfl
  have hparams : Reads (solidField fuel { scope with depth := scope.depth - 1 } "params" { kind := some s.kind })
      (Form.print (level + 1) (.record "" ((Solid.measureNames s.kind).zip (s.measures.map .real))))
      { kind := some s.kind, solid := some s } := by
    refine Reads.bind_left ?_ (run_enter (by simp only; omega))
    rw [if_neg (by decide), if_pos rfl]
    simp only [Option.isSome_none, Bool.or_self, Bool.false_eq_true, if_false]
    exact (reads_measures hs hfuel (by simp only; omega) (level + 1)).bind_right fun t => rfl
  rw [Solid.toRon, print_record]
  refine Reads.bind_left ?_ (run_enter (by omega))
  have hfields := FieldsRead.cons (by decide) hkind (.cons (by decide) hparams (.nil _))
  exact (reads_record hfields (by simp) (show 2 < fuel by omega) level "Shape").bind_right fun t => rfl

def coordinate (comma : Bool) : Reader (Float × Bool) := do
  if ← more ')' comma then
    let x ← real
    return (x, ← acceptComma)
  else Reader.fail

theorem point_eq : point = (do
    recordName "DVec3"
    Reader.expectChar '('
    let (x, comma) ← coordinate true
    let (y, comma) ← coordinate comma
    let (z, _) ← coordinate comma
    close ')'
    return ⟨x, y, z⟩) := rfl

theorem run_coordinate {x : Float} (hx : x.isFinite = true) {s t : List Char} {comma : Bool} (hs : Follows s)
    (hcomma : acceptComma.run s = .ok (comma, t)) :
    (coordinate true).run (Decimal.plainWithPoint x ++ s) = .ok ((x, comma), t) := by
  have hreal := reads_real hx
  have hblanks := hreal.starts.afterBlanks? (b := []) (by simp) s
  have hrun := hreal.run s hs
  obtain ⟨c, text, htext, hc⟩ := hreal.starts
  have hbracket : c ≠ ')' := by
    obtain ⟨whole, places, hne, hdigits, hcases⟩ := Decimal.plainWithPoint_cases hx
    rw [htext, Decimal.signed] at hcases
    split at hcases
    · rw [(List.cons.inj hcases).1]
      decide
    · obtain ⟨d, whole, rfl⟩ := List.exists_cons_of_ne_nil hne
      rw [(List.cons.inj hcases).1]
      exact Decimal.ne_of_isDigit (hdigits d (by simp)) (by decide)
  rw [List.nil_append, htext, List.cons_append] at hblanks
  rw [htext, List.cons_append] at hrun ⊢
  rw [coordinate, run_bind_of (run_more_go hblanks hbracket)]
  simp only [if_true]
  rw [run_bind_of hrun, run_bind_of hcomma, run_pure_eq]

theorem reads_point {p : Point} (hp : p.isFinite = true) (level : Nat) : Reads point (p.toRon.print level) p := by
  simp only [Point.isFinite, Bool.and_eq_true] at hp
  obtain ⟨⟨hx, hy⟩, hz⟩ := hp
  have htext : p.toRon.print level = '(' :: (Decimal.plainWithPoint p.x ++ ',' :: ' ' ::
      (Decimal.plainWithPoint p.y ++ ',' :: ' ' :: (Decimal.plainWithPoint p.z ++ [')']))) := by
    simp [Point.toRon, Form.tuple, Form.print, Form.reals, Vec3.toList]
  -- the comma between two numbers is taken with the space after it
  have hcomma : ∀ {x : Float}, x.isFinite = true → ∀ s,
      acceptComma.run (',' :: ' ' :: (Decimal.plainWithPoint x ++ s)) = .ok (true, Decimal.plainWithPoint x ++ s) :=
    fun hx s => run_acceptComma_some ((reads_real hx).starts.afterBlanks? isBlank_of_mem_space s)
  have hclosing : ∀ rest, afterBlanks? .between (')' :: rest) = some (')' :: rest) :=
    afterBlanks?_of_standing (by decide) (by decide)
  rw [htext]
  refine ⟨⟨'(', _, rfl, by decide⟩, fun rest _ => ?_⟩
  simp only [List.cons_append, List.append_assoc, List.nil_append]
  have hname : ∀ s, (recordName "DVec3").run ('(' :: s) = .ok ((), '(' :: s) := fun s => rfl
  rw [point_eq, run_bind_of (hname _), run_bind_of (run_expectChar '(' _),
    run_bind_of (run_coordinate hx (follows_comma _) (hcomma hy _)),
    run_bind_of (run_coordinate hy (follows_comma _) (hcomma hz _)),
    run_bind_of (run_coordinate hz (follows_bracket rest) (run_acceptComma_none (hclosing rest) (by simp))),
    run_bind_of (run_close (hclosing rest))]
  rfl

theorem reads_primitive {p : Primitive} (hp : p.Valid) (hfuel : 3 < fuel) (hdepth : 4 < scope.depth) (level : Nat) :
    Reads (primitive fuel scope) (p.toRon.print level) p := by
  generalize hscope : { scope with depth := scope.depth - 1 } = inside
  have hinside : 3 < inside.depth := by
    rw [← hscope]
    simp only
    omega
  have hid : Reads (primitiveField fuel inside "id" {}) (Form.print (level + 1) (.text p.id)) { id := some p.id } := by
    refine Reads.bind_left ?_ (run_enter (by omega))
    rw [if_pos rfl]
    exact (reads_text p.id).once.bind_right fun s => rfl
  have hsolid : Reads (primitiveField fuel inside "shape" { id := some p.id }) (p.solid.toRon.print (level + 1))
      { id := some p.id, solid := some p.solid } := by
    refine Reads.bind_left ?_ (run_enter (by omega))
    rw [if_neg (by decide), if_pos rfl]
    exact (reads_solid hp.sized hfuel (by simp only; omega) (level + 1)).once.bind_right fun s => rfl
  have hposition : Reads (primitiveField fuel inside "position_mm" { id := some p.id, solid := some p.solid })
      (p.position.toRon.print (level + 1))
      { id := some p.id, solid := some p.solid, position := some p.position } := by
    refine Reads.bind_left ?_ (run_enter (by omega))
    rw [if_neg (by decide), if_neg (by decide), if_pos rfl]
    exact (reads_point hp.placed (level + 1)).once.bind_right fun s => rfl
  have hfields := FieldsRead.cons (by decide) hid (.cons (by decide) hsolid (.cons (by decide) hposition (.nil _)))
  have hplace : Primitive.place p.id p.solid p.position = .ok p := Primitive.place_eq_ok.mpr ⟨hp.sized, hp.placed, rfl⟩
  rw [Primitive.toRon, print_record]
  refine Reads.bind_left ?_ (run_enter (by omega))
  rw [hscope]
  apply (reads_record hfields (by simp) hfuel level "PrimitiveData").bind_right
  intro s
  rw [PrimitiveParts.primitive, run_bind_of (run_need p.id s), run_bind_of (run_need p.solid s), Option.getD_some,
    hplace, run_pure_eq]

theorem reads_operation (o : Operation) (hfuel : 2 < fuel) (hdepth : 1 < scope.depth) (level : Nat) :
    Reads (operation fuel scope) (o.toRon.print level) o := by
  have hname : isPlainName o.kind.name = true := by cases o.kind <;> decide
  have hkind : OperationKind.ofName? o.kind.name = some o.kind := by cases o.kind <;> decide
  generalize hscope : { scope with depth := scope.depth - 1 - 1 } = inside
  have htarget : Reads (operandField fuel inside "target" {}) (Form.print (level + 1) (.text o.target))
      { target := some o.target } := by
    rw [operandField, if_pos rfl]
    exact (reads_text o.target).once.bind_right fun s => rfl
  have htool : Reads (operandField fuel inside "tool" { target := some o.target })
      (Form.print (level + 1) (.text o.tool)) { target := some o.target, tool := some o.tool } := by
    rw [operandField, if_neg (by decide), if_pos rfl]
    exact (reads_text o.tool).once.bind_right fun s => rfl
  have hfields := FieldsRead.cons (by decide) htarget (.cons (by decide) htool (.nil _))
  refine ⟨by rw [Operation.toRon, Form.print]; exact starts_field hname _, fun rest _ => ?_⟩
  obtain ⟨s, hs, hrun⟩ := run_fields_block hfields (by simp) hfuel level rest
  have hblanks : afterBlanks? .between ('(' :: '\n' :: s) = some ('(' :: '\n' :: s) :=
    afterBlanks?_of_standing (by decide) (by decide) _
  have htext : o.toRon.print level ++ rest = o.kind.name.toList ++ '(' :: '\n' :: s := by
    rw [Operation.toRon, Form.print, List.append_assoc]
    exact congrArg (o.kind.name.toList ++ ·) hs
  rw [htext, operation, run_bind_of (run_enter (by omega) _), run_bind_of (run_name_cons hname (by decide) _), hkind,
    run_bind_of (run_need o.kind _), run_bind_of (run_blanks_of hblanks), run_bind_of (run_expectChar '(' _),
    run_bind_of (run_enter (by simp only; omega) _), hscope, run_bind_of hrun]
  rfl

/-- A model is read back without its limit, which is not part of the text. -/
theorem reads_model {m : Model} (hversion : m.version ≤ greatestVersion) (hprimitives : ∀ p ∈ m.primitives, p.Valid)
    (hfuel : 3 < fuel) (hcount : m.primitives.length < fuel) (hcount' : m.operations.length < fuel)
    (hdepth : 8 < scope.depth) (level : Nat) :
    Reads (model fuel scope) (m.toRon.print level) { m with limit := Model.standardLimit } := by
  generalize hscope : { scope with depth := scope.depth - 1 } = inside
  have hinside : 7 < inside.depth := by
    rw [← hscope]
    simp only
    omega
  have hv : Reads (modelField fuel inside "version" {}) (Form.print (level + 1) (.natural m.version))
      { version := some m.version } := by
    refine Reads.bind_left ?_ (run_enter (by omega))
    rw [if_pos rfl]
    exact (reads_natural hversion).once.bind_right fun s => rfl
  have hp : Reads (modelField fuel inside "primitives" { version := some m.version })
      (Form.print (level + 1) (.list (m.primitives.map (·.toRon))))
      { version := some m.version, primitives := some m.primitives } := by
    refine Reads.bind_left ?_ (run_enter (by omega))
    rw [if_neg (by decide), if_pos rfl, Form.print, printItems_map]
    refine Reads.bind_left ?_ (run_enter (by simp only; omega))
    refine Reads.bind_left ?_ (run_enter (by simp only; omega))
    refine (reads_list (fun p hp => ?_) hcount (level + 1)).once.bind_right fun s => rfl
    exact reads_primitive (hprimitives p hp) hfuel (by simp only; omega) (level + 2)
  have ho : Reads (modelField fuel inside "operations" { version := some m.version, primitives := some m.primitives })
      (Form.print (level + 1) (.list (m.operations.map (·.toRon))))
      { version := some m.version, primitives := some m.primitives, operations := some m.operations } := by
    refine Reads.bind_left ?_ (run_enter (by omega))
    rw [if_neg (by decide), if_neg (by decide), if_pos rfl, Form.print, printItems_map]
    refine Reads.bind_left ?_ (run_enter (by simp only; omega))
    refine Reads.bind_left ?_ (run_enter (by simp only; omega))
    refine (reads_list (fun o _ => ?_) hcount' (level + 1)).once.bind_right fun s => rfl
    exact reads_operation o (by omega) (by simp only; omega) (level + 2)
  have hfields := FieldsRead.cons (by decide) hv (.cons (by decide) hp (.cons (by decide) ho (.nil _)))
  rw [Model.toRon, print_record]
  refine Reads.bind_left ?_ (run_enter (by omega))
  rw [hscope]
  exact (reads_record hfields (by simp) hfuel level "Model").bind_right fun s => rfl

end PromptCad.Ron
