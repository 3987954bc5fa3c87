import PromptCad.Proofs.Session.Export
import PromptCad.Proofs.Stl.Finite

/-! When a session is exported in numbers that are all finite. Loading admits every finite position, and 32 bits hold
only those that are less far away. -/

namespace PromptCad

open Decimal

theorem Size.small {mm : Float} (h : Size.admits mm = true) : Small 20 mm :=
  ⟨Size.isFinite_of_admits h, abs_exactValue_le_of_magnitude (j := 1042) ((Size.admits_iff.mp h).2.2.trans (by decide))⟩

namespace Mesh

variable {m : Mesh} {k : ℤ} {p : Point}

def IsSmall (k : ℤ) (m : Mesh) : Prop := ∀ v ∈ m.vertices.toList, Point.IsSmall k v

theorem IsSmall.corners (h : m.IsSmall k) : ∀ f ∈ m.facets, ∀ v ∈ f.corners, Point.IsSmall k v := by
  have hvertex : ∀ i, Point.IsSmall k (m.vertex i) := by
    intro i
    rw [vertex, Array.getD_eq_getD_getElem?]
    cases hi : m.vertices[i]? with
    | none => exact Point.isSmall_origin k
    | some v => exact h v (Array.mem_toList_iff.mpr (Array.mem_of_getElem? hi))
  intro f hf v hv
  obtain ⟨t, -, rfl⟩ := List.mem_map.mp hf
  simp only [Facet.corners, facet, List.mem_cons, List.not_mem_nil, or_false] at hv
  obtain rfl | rfl | rfl := hv <;> exact hvertex _

theorem IsSmall.translate (h : m.IsSmall k) (hp : p.IsSmall k) (hlow : -1075 ≤ k) (hhigh : k ≤ 1022) :
    (m.translate p).IsSmall (k + 1) := by
  unfold Mesh.translate
  split
  · exact fun v hv x hx => (h v hv x hx).mono (by omega)
  · intro v hv
    simp only [Array.toList_map, List.mem_map] at hv
    obtain ⟨⟨x, y, z⟩, hv, rfl⟩ := hv
    obtain ⟨x', y', z'⟩ := p
    obtain ⟨hx, hy, hz⟩ := Point.isSmall_mk.mp (h _ hv)
    obtain ⟨hx', hy', hz'⟩ := Point.isSmall_mk.mp hp
    exact Point.isSmall_mk.mpr ⟨hx.add hx' hlow hhigh, hy.add hy' hlow hhigh, hz.add hz' hlow hhigh⟩

theorem isSmall_box {width depth height : Float} (hw : Small k width) (hd : Small k depth) (hh : Small k height)
    (hlow : -1074 ≤ k) (hhigh : k ≤ 1023) : (Mesh.box width depth height).IsSmall k := by
  have hone : ∀ far : Bool, Small 0 (if far then 1 else -1) := by
    intro far
    cases far with
    | true => exact ⟨by decide, abs_exactValue_le_of_magnitude (j := 1022) (by decide)⟩
    | false => exact ⟨by decide, abs_exactValue_le_of_magnitude (j := 1022) (by decide)⟩
  have hhalf : ∀ {x : Float}, Small k x → Small k (x / 2) := by
    intro x hx
    refine small_of_nearest (nearest_div hx.finite (by decide) (by rw [exactValue_two]; norm_num)) hlow hhigh ?_
    rw [exactValue_two, abs_div, abs_two]
    exact (half_le_self (abs_nonneg _)).trans hx.le
  have hcorner : ∀ {x : Float} (far : Bool), Small k x → Small k ((if far then 1 else -1) * (x / 2)) :=
    fun far hx => ((hone far).mul (hhalf hx) (by omega) (by omega)).mono (by omega)
  intro v hv
  have hmem : v ∈ Mesh.Box.corners width depth height := hv
  obtain ⟨n, -, rfl⟩ := List.mem_map.mp hmem
  exact Point.isSmall_mk.mpr ⟨hcorner _ hw, hcorner _ hh, hcorner _ hd⟩

end Mesh

theorem Primitive.Valid.narrowable {p : Primitive} (h : p.Valid) (hbox : p.kind = .box) (hposition : p.position.IsSmall 126)
    (r : Resolution) : ∀ f ∈ (p.mesh r).facets, ∀ v ∈ f.corners, ∀ x ∈ v.toList, Stl.Binary.Narrowable x := by
  obtain ⟨id, solid, position⟩ := p
  cases solid with
  | cylinder radius height => cases hbox
  | sphere radius => cases hbox
  | box width depth height =>
    have hsize : ∀ mm ∈ [width, depth, height], Small 126 mm := fun mm hmm =>
      (Size.small (Solid.check_eq_ok.mp h.sized mm hmm)).mono (by norm_num)
    have hmesh : (Mesh.box width depth height).IsSmall 126 :=
      Mesh.isSmall_box (hsize _ (by simp)) (hsize _ (by simp)) (hsize _ (by simp)) (by norm_num) (by norm_num)
    intro f hf v hv x hx
    exact Stl.Binary.narrowable_of_small (by norm_num)
      ((hmesh.translate hposition (by norm_num) (by norm_num)).corners f hf v hv x hx)

theorem forall_of_forall₂ {α β : Type} {R : α → β → Prop} {P : α → Prop} {Q : β → Prop} {l : List α} {m : List β}
    (h : List.Forall₂ R l m) (hR : ∀ a b, R a b → Q b → P a) (hm : ∀ b ∈ m, Q b) : ∀ a ∈ l, P a := by
  induction h with
  | nil => exact fun _ ha => absurd ha List.not_mem_nil
  | cons hab _ ih =>
    rw [List.forall_mem_cons] at hm ⊢
    exact ⟨hR _ _ hab hm.1, ih hm.2⟩

namespace Session

open Stl.Binary

variable {s : Session}

theorem Sound.encode_binary (h : s.Sound) (hne : s.model.primitives ≠ []) :
    ∃ bytes records, s.encode .binary = .ok bytes ∧
      takeSolid.run bytes.data.toList = some ((records.length, records), []) ∧
      List.Forall₂ Record.Holds records (s.mesh .exported).facets := by
  obtain ⟨hpos, hlt⟩ := h.size_triangles_mesh hne .exported
  obtain ⟨bytes, hbytes, records, hrun, hholds⟩ := Stl.encode_holds hpos hlt .binary s.settings.solidName
  rw [← hholds.length_eq] at hrun
  refine ⟨bytes, records, ?_, hrun, hholds⟩
  rw [encode, if_neg (by simpa using hne), hbytes]
  rfl

theorem Sound.facets?_mesh (h : s.Sound) (quality : Quality) :
    (s.mesh quality).facets? = some (s.mesh quality).facets :=
  Mesh.facets?_eq (Mesh.watertight_ofPrimitives (h.settings.resolution quality) s.model.primitives).inRange

/-- The numbers of a record are finite just when every coordinate of its facet, as exported, is within reach of 32 bits.
Boxes that are not too far away are, wherever the rest of the model is. -/
theorem binary_finite_iff (h : s.Reachable) (hne : s.model.primitives ≠ []) :
    ∃ bytes facets records, s.encode .binary = .ok bytes ∧ (s.mesh .exported).facets? = some facets ∧
      takeSolid.run bytes.data.toList = some ((records.length, records), []) ∧
      List.Forall₂ (fun r f => (∀ w ∈ r.words, IsFiniteWord w) ↔
        ∀ v ∈ Facet.corners f, ∀ x ∈ v.toList, x.isFinite = true ∧ |exactValue x| < 2 ^ 128 - 2 ^ 103) records facets ∧
      ((∀ p ∈ s.model.primitives, p.kind = .box ∧ ∀ x ∈ p.position.toList, |exactValue x| ≤ 2 ^ 126) →
        ∀ r ∈ records, ∀ w ∈ r.words, IsFiniteWord w) := by
  obtain ⟨bytes, records, hbytes, hrun, hholds⟩ := h.sound.encode_binary hne
  refine ⟨bytes, _, records, hbytes, h.sound.facets?_mesh .exported, hrun, hholds.imp fun r f hr => hr.isFinite_iff,
    fun hboxes => forall_of_forall₂ hholds (fun r f hr => hr.isFinite_iff.mpr) fun f hf => ?_⟩
  rw [facets_mesh, ← List.flatMap_def, List.mem_flatMap] at hf
  obtain ⟨p, hp, hf⟩ := hf
  obtain ⟨hbox, hposition⟩ := hboxes p hp
  have hvalid := h.sound.primitives p hp
  have hplaced := Primitive.find?_toList_eq_none.mpr hvalid.placed
  simp only [List.find?_eq_none, Bool.not_eq_true, Bool.not_eq_false'] at hplaced
  exact hvalid.narrowable hbox (fun x hx => ⟨by simpa using hplaced x hx, hposition x hx⟩) _ f hf

/-- A saved text with a cube at a finite position that is past all 32-bit floats. -/
def remote : String :=
  "(model:(version:1,primitives:[(id:\"box-1\",shape:(kind:box,params:(width_mm:1,depth_mm:1,height_mm:1))," ++
    "position_mm:(1e300,0,0))],operations:[]),ids:(next:2))"

def stranded : Session := ⟨⟨1, [⟨"box-1", .cube 1, ⟨1e300, 0, 0⟩⟩], [], 256⟩, ⟨2⟩, .standard⟩

theorem reachable_stranded : Reachable stranded := by
  have htext : ((Saved.ofText remote).toOption.bind fun d => (d.session .standard).toOption) = some stranded := by
    unfold Saved.ofText remote
    rw [String.toList_append, String.toList_ofList, String.toList_ofList]
    decide +kernel
  exact .load (load_of_text (by decide) htext)

theorem not_narrowable_of_magnitude {x : Float} {j : ℕ} (hj : 1150 ≤ j) (h : j * 2 ^ 52 + 2 ^ 52 ≤ magnitude x) :
    ¬ Narrowable x := by
  rintro ⟨-, hlt⟩
  have hle : (2 : ℚ) ^ (128 : ℤ) ≤ |exactValue x| :=
    (zpow_le_zpow_right₀ one_le_two (by omega)).trans (le_abs_exactValue_of_magnitude h)
  norm_num at hle hlt
  linarith

theorem facets_stranded : ∃ f ∈ (stranded.mesh .exported).facets, ¬ ∀ v ∈ f.corners, ∀ x ∈ v.toList, Narrowable x := by
  have hfar : ((stranded.mesh .exported).facets.head?.any fun f => 1150 * 2 ^ 52 + 2 ^ 52 ≤ magnitude f.a.x) = true := by
    decide +kernel
  cases hhead : (stranded.mesh .exported).facets.head? with
  | none => rw [hhead] at hfar; cases hfar
  | some f =>
    rw [hhead, Option.any_some, decide_eq_true_iff] at hfar
    refine ⟨f, List.mem_of_head? hhead, fun hall => not_narrowable_of_magnitude le_rfl hfar ?_⟩
    exact hall f.a (by simp [Facet.corners]) f.a.x (by simp [Vec3.toList])

/-- The file of the cube is written all the same, with an infinity in it. -/
theorem binary_finite_iff_stranded :
    stranded.Reachable ∧ stranded.model.primitives ≠ [] ∧
      ∃ bytes records, stranded.encode .binary = .ok bytes ∧
        takeSolid.run bytes.data.toList = some ((records.length, records), []) ∧
        ∃ r ∈ records, ∃ w ∈ r.words, ¬ IsFiniteWord w := by
  obtain ⟨bytes, facets, records, hbytes, hfacets, hrun, hiff, -⟩ :=
    binary_finite_iff reachable_stranded (List.cons_ne_nil _ _)
  refine ⟨reachable_stranded, List.cons_ne_nil _ _, bytes, records, hbytes, hrun, ?_⟩
  obtain rfl := Option.some.inj ((reachable_stranded.sound.facets?_mesh .exported).symm.trans hfacets)
  by_contra hc
  simp only [not_exists, not_and, not_not] at hc
  obtain ⟨f, hf, hnot⟩ := facets_stranded
  exact hnot (forall_of_forall₂ hiff.flip (fun _ _ h => h.mp) hc f hf)

theorem infinite_export :
    ¬ ∀ s : Session, s.Reachable → s.model.primitives ≠ [] →
      ∃ bytes records, s.encode .binary = .ok bytes ∧
        takeSolid.run bytes.data.toList = some ((records.length, records), []) ∧
        ∀ r ∈ records, ∀ w ∈ r.words, IsFiniteWord w := by
  intro hclaim
  obtain ⟨bytes, records, hbytes, hrun, hfinite⟩ := hclaim stranded reachable_stranded (List.cons_ne_nil _ _)
  obtain ⟨bytes', records', hbytes', hrun', hholds⟩ :=
    reachable_stranded.sound.encode_binary (List.cons_ne_nil _ _)
  obtain rfl := Except.ok.inj (hbytes.symm.trans hbytes')
  obtain rfl : records = records' := congrArg (·.1.2) (Option.some.inj (hrun.symm.trans hrun'))
  obtain ⟨f, hf, hnot⟩ := facets_stranded
  exact hnot (forall_of_forall₂ hholds.flip (fun _ _ h => h.isFinite_iff.mp) hfinite f hf)

end Session

end PromptCad
