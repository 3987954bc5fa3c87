import PromptCad.Model.Json
import PromptCad.Proofs.Json.Measures
import PromptCad.Proofs.Json.Reads
import PromptCad.Proofs.Model.Check

/-! Solids, primitives, operations and models are read back from their JSON in any layout. Their texts and names come
back as they are, and their numbers as JSON reads them. -/

namespace PromptCad

open Json (reread)

def Solid.reread : Solid → Solid
  | box width depth height => box (Json.reread width) (Json.reread depth) (Json.reread height)
  | cylinder radius height => cylinder (Json.reread radius) (Json.reread height)
  | sphere radius => sphere (Json.reread radius)

theorem Solid.kind_reread (s : Solid) : s.reread.kind = s.kind := by cases s <;> rfl

theorem Solid.measures_reread (s : Solid) : s.reread.measures = s.measures.map Json.reread := by cases s <;> rfl

def Primitive.reread (p : Primitive) : Primitive := ⟨p.id, p.solid.reread, p.position.map Json.reread⟩

theorem Solid.check_reread {s : Solid} (h : s.check = .ok ()) : s.reread.check = .ok () := by
  rw [check_eq_ok] at h ⊢
  rw [measures_reread, List.forall_mem_map]
  exact fun mm hmm => Json.admits_reread (h mm hmm)

theorem Point.isFinite_reread {p : Point} (h : p.isFinite = true) : Point.isFinite (p.map reread) = true := by
  simp only [Point.isFinite, Bool.and_eq_true, Vec3.map] at h ⊢
  exact ⟨⟨(Json.returns_reread h.1.1).1, (Json.returns_reread h.1.2).1⟩, (Json.returns_reread h.2).1⟩

theorem Primitive.Valid.reread {p : Primitive} (h : p.Valid) : p.reread.Valid :=
  ⟨Solid.check_reread h.sized, Point.isFinite_reread h.placed⟩

namespace Json

open Reader

variable {fuel depth : Nat} {l : Layout} {level : Nat}

theorem reads_kind (k : Kind) : Reads kind (quoteString k.idStem) k := by
  have hkind : Kind.ofStem? k.idStem = some k := by cases k <;> decide
  refine Reads.next rfl ?_
  rw [if_neg (by decide)]
  refine (reads_text k.idStem).bind_right fun s => ?_
  rw [hkind, run_need]

section Measures

variable {k : Kind}

/-- Measures with different names are read one after another, each in front of those before it. -/
theorem membersRead_measures {pairs : List (String × Float)} (hnames : ∀ p ∈ pairs, p.1 ∈ Solid.measureNames k)
    (hdistinct : (pairs.map (·.1)).Nodup) (hfinite : ∀ p ∈ pairs, p.2.isFinite = true) {known : MeasureParts}
    (hknown : ∀ p ∈ pairs, known.holds p.1 = false) :
    MembersRead l (measureMember fuel k) known (laidMembers l level (pairs.map fun p => (p.1, .real p.2)))
      ((pairs.map fun p => (p.1, reread p.2)).reverse ++ known) := by
  induction pairs generalizing known with
  | nil => exact .nil known
  | cons p pairs ih =>
    obtain ⟨name, x⟩ := p
    rw [List.map_cons, List.nodup_cons] at hdistinct
    obtain ⟨hname, hnames⟩ := List.forall_mem_cons.mp hnames
    obtain ⟨hx, hfinite⟩ := List.forall_mem_cons.mp hfinite
    obtain ⟨hnew, hknown⟩ := List.forall_mem_cons.mp hknown
    have hreads : Reads (measureMember fuel k name known) (realChars x) ((name, reread x) :: known) := by
      rw [measureMember, if_pos (by simpa using hname)]
      simp only [hnew, Bool.false_eq_true, if_false]
      exact (reads_real hx).bind_right fun s => rfl
    have hknown' : ∀ p ∈ pairs, MeasureParts.holds ((name, reread x) :: known) p.1 = false := by
      intro p hp
      have hne : name ≠ p.1 := fun h => hdistinct.1 (List.mem_map.mpr ⟨p, hp, h.symm⟩)
      simpa [MeasureParts.holds, hne] using hknown p hp
    have hrest := ih hnames hdistinct.2 hfinite hknown'
    rw [List.map_cons, List.map_cons, laidMembers, List.reverse_cons, List.append_assoc]
    exact .cons hreads hrest

theorem reads_measures {s : Solid} (hs : s.check = .ok ()) (hfuel : 3 < fuel) :
    Reads (measures fuel s.kind)
      (Value.laid l level (.record ((Solid.measureNames s.kind).zip (s.measures.map .real)))) s.reread := by
  have hlength := s.length_measures
  have hmembers : MembersRead l (measureMember fuel s.kind) []
      (laidMembers l level (((Solid.measureNames s.kind).zip s.measures).map fun p => (p.1, .real p.2)))
      ((((Solid.measureNames s.kind).zip s.measures).map fun p => (p.1, reread p.2)).reverse ++ []) := by
    refine membersRead_measures (fun p hp => (List.of_mem_zip hp).1) ?_ (fun p hp => ?_) fun p _ => rfl
    · rw [List.map_fst_zip hlength.ge]
      exact Solid.nodup_measureNames s.kind
    · exact Solid.isFinite_of_check hs p.2 (List.of_mem_zip hp).2
  have hzip : ∀ {α : Type} (f : Float → α), ((Solid.measureNames s.kind).zip s.measures).map (fun p => (p.1, f p.2)) =
      (Solid.measureNames s.kind).zip (s.measures.map f) := fun f => by
    rw [List.zip_map_right]
    rfl
  rw [hzip Value.real, hzip reread, List.append_nil, ← Solid.measures_reread] at hmembers
  rw [Value.laid]
  refine reads_record hmembers ?_ fun t => ?_
  · rw [length_laidMembers, List.length_zip, List.length_map, hlength, Nat.min_self]
    exact (Solid.length_measureNames s.kind).2.trans_lt hfuel
  · rw [← s.kind_reread, MeasureParts.solid?_measures, run_need]

end Measures

theorem reads_solid {s : Solid} (hs : s.check = .ok ()) (hfuel : 3 < fuel) :
    Reads (solid fuel depth) (s.toJson.laid l level) s.reread := by
  have hkind : Reads (solidMember fuel depth "kind" {}) (Value.laid l (level + 1) (.text s.kind.idStem))
      { kind := some s.kind } := by
    rw [solidMember, if_pos rfl]
    simp only [Option.isSome_none, Bool.false_eq_true, if_false]
    exact (reads_kind s.kind).bind_right fun t => rfl
  have hparams : Reads (solidMember fuel depth "params" { kind := some s.kind })
      (Value.laid l (level + 1) (.record ((Solid.measureNames s.kind).zip (s.measures.map .real))))
      { kind := some s.kind, solid := some s.reread } := by
    rw [solidMember, if_neg (by decide), if_pos rfl]
    simp only [Option.isSome_none, Bool.or_self, Bool.false_eq_true, if_false]
    exact (reads_measures hs hfuel).bind_right fun t => rfl
  rw [Solid.toJson, Value.laid]
  refine Reads.next_enclosed ?_
  rw [if_neg (by decide)]
  exact reads_record (.cons hkind (.cons hparams (.nil _))) (show 2 < fuel by omega) fun t => rfl

section Points

theorem run_item {α : Type} {r : Reader α} {t : List Char} {a : α} (l : Layout) (level : Nat) (h : Reads r t a)
    (first : Bool) (ts : List (List Char)) (rest : List Char) :
    (item first r).run (l.before level ']' first (t :: ts) rest) = .ok (a, l.after level ']' ts rest) := by
  rw [item, run_bind_of (run_more_cons (.inl rfl) h.starts first ts rest), if_pos rfl,
    h.run_at (follows_after (.inl rfl) ts rest)]

theorem run_listEnd (rest : List Char) : listEnd.run (l.after level ']' [] rest) = .ok ((), rest) := by
  have hmore : (more ']' false).run (l.after level ']' [] rest) = .ok (false, rest) :=
    run_more_nil (l := l) (.inl rfl) false rest
  rw [listEnd, run_bind_of hmore]
  rfl

theorem reads_point {p : Point} (hp : p.isFinite = true) : Reads point (p.toJson.laid l level) (p.map reread) := by
  simp only [Point.isFinite, Bool.and_eq_true] at hp
  obtain ⟨⟨hx, hy⟩, hz⟩ := hp
  rw [Point.toJson, Value.laid]
  refine reads_enclosed (by decide) fun rest => ?_
  have hfirst := run_item l level (reads_real hx) true [realChars p.y, realChars p.z] rest
  have hsecond := run_item l level (reads_real hy) false [realChars p.z] rest
  have hthird := run_item l level (reads_real hz) false [] rest
  exact (run_bind_of hfirst).trans ((run_bind_of hsecond).trans ((run_bind_of hthird).trans
    (run_bind_of (run_listEnd rest))))

end Points

theorem reads_primitive {p : Primitive} (hp : p.Valid) (hfuel : 3 < fuel) :
    Reads (primitive fuel depth) (p.toJson.laid l level) p.reread := by
  have hid : Reads (primitiveMember fuel (depth - 2) "id" {}) (Value.laid l (level + 1) (.text p.id))
      { id := some p.id } := by
    rw [primitiveMember, if_pos rfl]
    exact (reads_text p.id).once.bind_right fun s => rfl
  have hsolid : Reads (primitiveMember fuel (depth - 2) "shape" { id := some p.id }) (p.solid.toJson.laid l (level + 1))
      { id := some p.id, solid := some p.solid.reread } := by
    rw [primitiveMember, if_neg (by decide), if_pos rfl]
    exact (reads_solid hp.sized hfuel).once.bind_right fun s => rfl
  have hposition : Reads
      (primitiveMember fuel (depth - 2) "position_mm" { id := some p.id, solid := some p.solid.reread })
      (p.position.toJson.laid l (level + 1))
      { id := some p.id, solid := some p.solid.reread, position := some (p.position.map reread) } := by
    rw [primitiveMember, if_neg (by decide), if_neg (by decide), if_pos rfl]
    exact (reads_point hp.placed).once.bind_right fun s => rfl
  have hplace : Primitive.place p.id p.solid.reread (p.position.map reread) = .ok p.reread :=
    Primitive.place_eq_ok.mpr ⟨hp.reread.sized, hp.reread.placed, rfl⟩
  rw [Primitive.toJson, Value.laid]
  refine Reads.next_enclosed ?_
  rw [if_neg (by decide)]
  refine reads_record (.cons hid (.cons hsolid (.cons hposition (.nil _)))) hfuel fun s => ?_
  rw [PrimitiveParts.primitive, run_bind_of (run_need p.id s), run_bind_of (run_need p.solid.reread s),
    Option.getD_some, hplace, run_pure_eq]

theorem reads_operands (o : Operation) (hfuel : 2 < fuel) :
    Reads (operands fuel o.kind)
      (Value.laid l level (.record [("target", .text o.target), ("tool", .text o.tool)])) o := by
  have htarget : Reads (operandMember fuel "target" {}) (Value.laid l (level + 1) (.text o.target))
      { target := some o.target } := by
    rw [operandMember, if_pos rfl]
    exact (reads_text o.target).once.bind_right fun s => rfl
  have htool : Reads (operandMember fuel "tool" { target := some o.target }) (Value.laid l (level + 1) (.text o.tool))
      { target := some o.target, tool := some o.tool } := by
    rw [operandMember, if_neg (by decide), if_pos rfl]
    exact (reads_text o.tool).once.bind_right fun s => rfl
  rw [Value.laid]
  refine Reads.next_enclosed ?_
  rw [if_neg (by decide)]
  exact reads_record (.cons htarget (.cons htool (.nil _))) hfuel fun s => rfl

theorem reads_operation (o : Operation) (hfuel : 2 < fuel) : Reads (operation fuel) (o.toJson.laid l level) o := by
  have hkind : OperationKind.ofName? o.kind.name = some o.kind := by cases o.kind <;> decide
  have hoperands : Reads (operands fuel o.kind)
      (Value.laid l (level + 1) (.record [("target", .text o.target), ("tool", .text o.tool)])) o :=
    reads_operands o hfuel
  rw [Operation.toJson, Value.laid, laidMembers, laidMembers]
  generalize Value.laid l (level + 1) (.record [("target", .text o.target), ("tool", .text o.tool)]) = t at *
  refine reads_enclosed (by decide) fun rest => ?_
  have hkey := run_text o.kind.name (l.blank_item level) (':' :: (l.colon ++ (t ++ l.after level '\x7d' [] rest)))
  have hmark : (mark ':').run (':' :: (l.colon ++ (t ++ l.after level '\x7d' [] rest))) = .ok ((), _) :=
    run_mark blank_nil (by decide) _
  have hfollows : Follows (l.after level '\x7d' [] rest) := follows_after (.inr rfl) [] rest
  have hend : (mark '\x7d').run (l.after level '\x7d' [] rest) = .ok ((), rest) :=
    run_mark (l.blank_closing level) (by decide) rest
  rw [Layout.before, List.append_assoc, List.cons_append, List.append_assoc, run_bind_of hkey, hkind,
    run_bind_of (run_need o.kind _), run_bind_of hmark, run_bind_of (hoperands.run l.colon _ l.blank_colon hfollows),
    run_bind_of hend]
  rfl

theorem reads_listOf {α β : Type} {r : Reader β} {form : α → Value} {value : α → β} {as : List α}
    (h : ∀ a ∈ as, Reads r ((form a).laid l (level + 1)) (value a)) (hfuel : as.length < fuel) :
    Reads (listOf fuel r) (Value.laid l level (.list (as.map form))) (as.map value) := by
  have hitems : List.Forall₂ (Reads r) (as.map fun a => (form a).laid l (level + 1)) (as.map value) := by
    rw [List.forall₂_map_left_iff, List.forall₂_map_right_iff, List.forall₂_same]
    exact h
  rw [Value.laid, laidItems_map]
  exact reads_enclosed (by decide) fun rest => run_items hitems (by rwa [List.length_map]) true rest

/-- A model is read back without its limit, which is not part of the text. -/
theorem reads_model {m : Model} (hversion : m.version ≤ greatestVersion) (hprimitives : ∀ p ∈ m.primitives, p.Valid)
    (hfuel : 3 < fuel) (hcount : m.primitives.length < fuel) (hcount' : m.operations.length < fuel) :
    Reads (model fuel depth) (m.toJson.laid l level)
      { m with primitives := m.primitives.map (·.reread), limit := Model.standardLimit } := by
  have hv : Reads (modelMember fuel depth "version" {}) (Value.laid l (level + 1) (.natural m.version))
      { version := some m.version } := by
    rw [modelMember, if_pos rfl]
    exact (reads_natural hversion (by decide)).once.bind_right fun s => rfl
  have hp : Reads (modelMember fuel depth "primitives" { version := some m.version })
      (Value.laid l (level + 1) (.list (m.primitives.map (·.toJson))))
      { version := some m.version, primitives := some (m.primitives.map (·.reread)) } := by
    rw [modelMember, if_neg (by decide), if_pos rfl]
    refine (reads_listOf (fun p hp => ?_) hcount).once.bind_right fun s => rfl
    exact reads_primitive (hprimitives p hp) hfuel
  generalize m.primitives.map (·.reread) = ps at *
  have ho : Reads (modelMember fuel depth "operations" { version := some m.version, primitives := some ps })
      (Value.laid l (level + 1) (.list (m.operations.map (·.toJson))))
      { version := some m.version, primitives := some ps, operations := some m.operations } := by
    have hlist : Reads (listOf fuel (operation fuel)) (Value.laid l (level + 1) (.list (m.operations.map (·.toJson))))
        (m.operations.map id) :=
      reads_listOf (fun o _ => reads_operation o (by omega)) hcount'
    rw [List.map_id] at hlist
    rw [modelMember, if_neg (by decide), if_neg (by decide), if_pos rfl]
    exact hlist.once.bind_right fun s => rfl
  rw [Model.toJson, Value.laid]
  refine Reads.next_enclosed ?_
  rw [if_neg (by decide)]
  exact reads_record (.cons hv (.cons hp (.cons ho (.nil _)))) hfuel fun s => rfl

theorem readAll_of_reads {α : Type} {r : Reader α} {t : List Char} {a : α} (h : Reads r t a) : readAll r t = .ok a := by
  have hrun : r.run t = .ok (a, []) := by
    have hnil : Follows [] := fun c hc => absurd hc (Option.not_mem_none c)
    simpa using h.run_at hnil
  refine readAll_of_run ?_
  rw [run_bind_of hrun]
  rfl

/-- What a float may come back as: itself when its digits and their power are floats, and one not far away else. -/
structure ComesBack (most : Nat) (x y : Float) : Prop where
  returns : Returns x y
  most : units x ≤ most
  exact : units x = 0 → y = x

theorem units_le_four (x : Float) : units x ≤ 4 := by
  unfold units drift moves
  split_ifs <;> omega

theorem comesBack_reread {x : Float} (h : x.isFinite = true) {most : Nat} (hmost : units x ≤ most) :
    ComesBack most x (reread x) := by
  obtain ⟨-, hreturns⟩ := returns_reread h
  exact ⟨hreturns, hmost, hreturns.eq_of_units_eq_zero⟩

end Json

/-- What a primitive may come back as: a measure moves to a neighbour at most, a place by no more than four floats. -/
structure Primitive.ComesBack (p q : Primitive) : Prop where
  id : q.id = p.id
  kind : q.kind = p.kind
  measures : List.Forall₂ (Json.ComesBack 1) p.solid.measures q.solid.measures
  position : List.Forall₂ (Json.ComesBack 4) p.position.toList q.position.toList

theorem Primitive.Valid.comesBack {p : Primitive} (h : p.Valid) : p.ComesBack p.reread where
  id := rfl
  kind := p.solid.kind_reread
  measures := by
    show List.Forall₂ _ _ p.solid.reread.measures
    rw [Solid.measures_reread, List.forall₂_map_right_iff, List.forall₂_same]
    exact fun mm hmm => Json.comesBack_reread (Solid.isFinite_of_check h.sized mm hmm)
      (Json.units_le_one (Solid.check_eq_ok.mp h.sized mm hmm))
  position := by
    show List.Forall₂ _ _ (p.position.toList.map Json.reread)
    rw [List.forall₂_map_right_iff, List.forall₂_same]
    have hplaced := h.placed
    simp only [Point.isFinite, Bool.and_eq_true] at hplaced
    simp only [Vec3.toList, List.forall_mem_cons]
    exact ⟨Json.comesBack_reread hplaced.1.1 (Json.units_le_four _),
      Json.comesBack_reread hplaced.1.2 (Json.units_le_four _),
      Json.comesBack_reread hplaced.2 (Json.units_le_four _), List.forall_mem_nil _⟩

/-- A model is read back from its text without its limit, its numbers as JSON reads them. -/
theorem Model.ofJsonText_eq {m : Model} (hversion : m.version ≤ greatestVersion)
    (hprimitives : ∀ p ∈ m.primitives, p.Valid) :
    ofJsonText m.jsonText = .ok { m with primitives := m.primitives.map (·.reread), limit := standardLimit } := by
  have htext : m.jsonText.toList = m.toJson.laid .lines 0 := by
    rw [jsonText, String.toList_ofList, Json.Value.pretty_eq]
  obtain ⟨hcount, hmembers⟩ := Json.length_le_laid_record .lines 0 [("version", .natural m.version),
    ("primitives", .list (m.primitives.map (·.toJson))), ("operations", .list (m.operations.map (·.toJson)))]
  have hprimitivesLength := (Json.length_le_laid_list .lines 1 Primitive.toJson m.primitives).trans
    (hmembers "primitives" _ (by simp))
  have hoperationsLength := (Json.length_le_laid_list .lines 1 Operation.toJson m.operations).trans
    (hmembers "operations" _ (by simp))
  rw [ofJsonText, htext]
  exact Json.readAll_of_reads (Json.reads_model hversion hprimitives (Nat.lt_succ_of_le hcount)
    (Nat.lt_succ_of_le hprimitivesLength) (Nat.lt_succ_of_le hoperationsLength))

theorem Primitive.ofJsonText_eq {p : Primitive} (h : p.Valid) : ofJsonText p.jsonText = .ok p.reread := by
  have htext : p.jsonText.toList = p.toJson.laid .tight 0 := by
    rw [jsonText, String.toList_ofList, Json.Value.compact_eq 0]
  have hcount := (Json.length_le_laid_record .tight 0 [("id", .text p.id), ("shape", p.solid.toJson),
    ("position_mm", p.position.toJson)]).1
  rw [ofJsonText, htext]
  exact Json.readAll_of_reads (Json.reads_primitive h (Nat.lt_succ_of_le hcount))

/-- Reading JSON undoes writing it but for the last bits of numbers: models and primitives with admitted measures and
finite places are never refused. -/
theorem json_comes_back :
    (∀ m : Model, m.version ≤ greatestVersion → (∀ p ∈ m.primitives, p.Valid) →
      ∃ n, Model.ofJsonText m.jsonText = .ok n ∧ n.version = m.version ∧ n.operations = m.operations ∧
        n.limit = Model.standardLimit ∧ List.Forall₂ Primitive.ComesBack m.primitives n.primitives) ∧
    ∀ p : Primitive, p.Valid → ∃ q, Primitive.ofJsonText p.jsonText = .ok q ∧ p.ComesBack q := by
  refine ⟨fun m hversion hprimitives => ⟨_, Model.ofJsonText_eq hversion hprimitives, rfl, rfl, rfl, ?_⟩,
    fun p hp => ⟨_, Primitive.ofJsonText_eq hp, hp.comesBack⟩⟩
  rw [List.forall₂_map_right_iff, List.forall₂_same]
  exact fun p hp => (hprimitives p hp).comesBack

def longSphere : Primitive := ⟨"sphere-1", .sphere 22524.692491173246, .origin⟩

theorem valid_longSphere : longSphere.Valid := ⟨by decide, by decide⟩

def longModel : Model := ⟨Model.currentVersion, [longSphere], [⟨.union, "sphere-1", "sphere-1"⟩], Model.standardLimit⟩

/-- The sphere moves, alone or in a model, and nothing else does. -/
theorem json_comes_back_sphere :
    (∃ n, Model.ofJsonText longModel.jsonText = .ok n ∧ n.operations = [⟨.union, "sphere-1", "sphere-1"⟩] ∧
      List.Forall₂ Primitive.ComesBack [longSphere] n.primitives) ∧
    ∃ q, Primitive.ofJsonText longSphere.jsonText = .ok q ∧ longSphere.ComesBack q := by
  refine ⟨?_, json_comes_back.2 longSphere valid_longSphere⟩
  obtain ⟨n, hread, -, hoperations, -, hprimitives⟩ := json_comes_back.1 longModel (by decide)
    (List.forall_mem_singleton.mpr valid_longSphere)
  exact ⟨n, hread, hoperations, hprimitives⟩

/-- The radius comes back as the float after it, which is written with sixteen digits. -/
theorem json_moves_sphere :
    longSphere.Valid ∧ Primitive.ofJsonText longSphere.jsonText ≠ .ok longSphere ∧
      Model.ofJsonText longModel.jsonText ≠ .ok longModel ∧
      Primitive.ofJsonText longSphere.jsonText = .ok { longSphere with solid := .sphere 22524.69249117325 } := by
  have hreread : longSphere.reread = { longSphere with solid := .sphere 22524.69249117325 } := by decide +kernel
  have hne : longSphere.reread ≠ longSphere := by decide
  have hprimitive := Primitive.ofJsonText_eq valid_longSphere
  have hmodel : Model.ofJsonText longModel.jsonText = .ok { longModel with primitives := [longSphere.reread] } :=
    Model.ofJsonText_eq (by decide) (List.forall_mem_singleton.mpr valid_longSphere)
  refine ⟨valid_longSphere, fun h => ?_, fun h => ?_, by rw [hprimitive, hreread]⟩
  · exact hne (Except.ok.inj (hprimitive.symm.trans h))
  · exact hne (List.singleton_inj.mp (congrArg Model.primitives (Except.ok.inj (hmodel.symm.trans h))))

end PromptCad
