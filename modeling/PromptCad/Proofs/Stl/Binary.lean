import PromptCad.Proofs.Float.Narrow
import PromptCad.Proofs.Mesh.Corners
import PromptCad.Proofs.Stl.Decoder
import PromptCad.Stl

/-! Binary STL is read back: after eighty bytes the number of facets, and for each facet the 32-bit patterns of its
numbers, each of them the nearest that there is. -/

namespace PromptCad.Stl.Binary

open Decoder Decimal

/-- A number of so many bytes, the least significant first. -/
def takeNumber : ℕ → Decoder UInt8 ℕ
  | 0 => pure 0
  | width + 1 => do
    let low ← next
    (low.toNat + 256 * ·) <$> takeNumber width

def takeWord : Decoder UInt8 UInt32 := UInt32.ofNat <$> takeNumber 4

def takeVector : Decoder UInt8 (Vec3 UInt32) := do
  let x ← takeWord
  let y ← takeWord
  let z ← takeWord
  return ⟨x, y, z⟩

/-- A facet in 32-bit patterns, with the attribute that a record ends with. -/
structure Record where
  normal : Vec3 UInt32
  a : Vec3 UInt32
  b : Vec3 UInt32
  c : Vec3 UInt32
  mark : ℕ
deriving DecidableEq

def takeRecord : Decoder UInt8 Record := do
  let normal ← takeVector
  let a ← takeVector
  let b ← takeVector
  let c ← takeVector
  let mark ← takeNumber 2
  return ⟨normal, a, b, c, mark⟩

/-- The header is skipped, whatever is in it; the count tells how many records there are. -/
def takeSolid : Decoder UInt8 (ℕ × List Record) := do
  let _ ← repeated next 80
  let count ← takeNumber 4
  let records ← repeated takeRecord count
  return (count, records)

theorem takes_number (width n : ℕ) : Takes (takeNumber width) (littleEndian width n) (n % 256 ^ width) := by
  induction width generalizing n with
  | zero =>
    rw [Nat.pow_zero, Nat.mod_one]
    exact takes_pure 0
  | succ width ih =>
    have hlow : (UInt8.ofNat n).toNat = n % 256 := UInt8.toNat_ofNat'
    rw [Nat.pow_succ', Nat.mod_mul, ← hlow]
    exact (takes_next (UInt8.ofNat n)).bind ((ih (n / 256)).map _)

theorem takes_word (w : UInt32) : Takes takeWord (word w) w := by
  have hmod : w.toNat % 256 ^ 4 = w.toNat := Nat.mod_eq_of_lt w.toNat_lt
  have hnumber := (takes_number 4 w.toNat).map UInt32.ofNat
  rwa [hmod, UInt32.ofNat_toNat] at hnumber

theorem takes_vector (v : Vec3 UInt32) : Takes takeVector (v.toList.flatMap word) v :=
  (takes_word v.x).bind <| (takes_word v.y).bind <| (takes_word v.z).bind <| takes_pure v

def facetRecord (f : Facet) : Record :=
  ⟨f.normal.map fun x => if x.isNaN && !hasNaN f then signedNaN else narrow x, f.a.map narrow, f.b.map narrow,
    f.c.map narrow, 0⟩

theorem takes_record (f : Facet) : Takes takeRecord (record f) (facetRecord f) := by
  rw [record, List.append_assoc, List.append_assoc, List.append_assoc]
  exact (takes_vector (facetRecord f).normal).bind <| (takes_vector (f.a.map narrow)).bind <|
    (takes_vector (f.b.map narrow)).bind <| (takes_vector (f.c.map narrow)).bind <|
    (takes_number 2 0).map fun mark => Record.mk (facetRecord f).normal _ _ _ mark

theorem takes_header : Takes (repeated next 80) header header := by
  simpa [header] using takes_repeated takes_next header

theorem takes_bytes {m : Mesh} (h : m.triangles.size < 2 ^ 32) :
    Takes takeSolid (bytes m) (m.triangles.size, m.facets.map facetRecord) := by
  have hcount := takes_number 4 m.facets.length
  have hmod : m.facets.length % 256 ^ 4 = m.facets.length := by
    rw [Mesh.length_facets]
    exact Nat.mod_eq_of_lt h
  rw [hmod] at hcount
  rw [bytes, List.append_assoc, ← Mesh.length_facets]
  exact takes_header.bind <| hcount.bind <| (takes_repeated takes_record m.facets).map _

def NarrowsEach (v : Point) (w : Vec3 UInt32) : Prop := Narrows v.x w.x ∧ Narrows v.y w.y ∧ Narrows v.z w.z

/-- A record that holds the normal and the corners of a facet, each number rounded to the nearest pattern. -/
structure Record.Holds (r : Record) (f : Facet) : Prop where
  normal : NarrowsEach f.normal r.normal
  a : NarrowsEach f.a r.a
  b : NarrowsEach f.b r.b
  c : NarrowsEach f.c r.c
  mark : r.mark = 0

theorem narrowsEach_map {g : Float → UInt32} (hg : ∀ x, Narrows x (g x)) (v : Point) : NarrowsEach v (v.map g) :=
  ⟨hg v.x, hg v.y, hg v.z⟩

theorem narrows_signedNaN {x : Float} (h : x.isNaN = true) : Narrows x signedNaN where
  notANumber _ := by decide
  sign h' := absurd (h.symm.trans h') (by decide)
  infinite h' := absurd (h.symm.trans h') (by decide)
  finite h' := absurd (h.symm.trans (isNaN_eq_false_of_isFinite h')) (by decide)

theorem holds_facetRecord (f : Facet) : (facetRecord f).Holds f := by
  refine ⟨narrowsEach_map (fun x => ?_) f.normal, narrowsEach_map narrows_narrow f.a, narrowsEach_map narrows_narrow f.b,
    narrowsEach_map narrows_narrow f.c, rfl⟩
  split
  · next h => exact narrows_signedNaN (Bool.and_eq_true_iff.mp h).1
  · exact narrows_narrow x

theorem encode_binary {m : Mesh} (h : 0 < m.triangles.size) (name : String) :
    Stl.encode .binary m name = .ok (file m) := by
  rw [Stl.encode, Mesh.isEmpty_eq_false h, if_neg Bool.false_ne_true]

theorem run_file {m : Mesh} (h : m.triangles.size < 2 ^ 32) :
    takeSolid.run (file m).data.toList = some ((m.triangles.size, m.facets.map facetRecord), []) := by
  have hread := takes_bytes h []
  rwa [List.append_nil, ← toList_file] at hread

theorem forall₂_facetRecord (fs : List Facet) : List.Forall₂ Record.Holds (fs.map facetRecord) fs :=
  List.forall₂_map_left_iff.mpr (List.forall₂_same.mpr fun f _ => holds_facetRecord f)

/-- A mesh written in binary is read back to the last byte: the number of its triangles, and for each of them a record
that holds it. -/
theorem file_reads_back {m : Mesh} (h : m.InRange) (hpos : 1 ≤ m.triangles.size) (hlt : m.triangles.size < 2 ^ 32)
    (name : String) :
    ∃ bytes facets records, Stl.encode .binary m name = .ok bytes ∧ bytes.size = 84 + 50 * m.triangles.size ∧
      m.facets? = some facets ∧ facets.length = m.triangles.size ∧
      takeSolid.run bytes.data.toList = some ((m.triangles.size, records), []) ∧
      List.Forall₂ Record.Holds records facets := by
  refine ⟨file m, m.facets, m.facets.map facetRecord, encode_binary hpos name, ?_, Mesh.facets?_eq h,
    Mesh.length_facets m, run_file hlt, forall₂_facetRecord m.facets⟩
  show (file m).data.size = _
  rw [← Array.length_toList, toList_file, length_bytes]

/-- A triangle with a coordinate that 32 bits can only come near to. -/
theorem file_reads_back_sliver :
    Mesh.sliver.InRange ∧ 1 ≤ Mesh.sliver.triangles.size ∧ Mesh.sliver.triangles.size < 2 ^ 32 ∧
      ∃ bytes record, Stl.encode .binary Mesh.sliver "" = .ok bytes ∧ bytes.size = 134 ∧
        takeSolid.run bytes.data.toList = some ((1, [record]), []) ∧
        record.Holds ⟨⟨0, -0.0, 4e-7⟩, ⟨2.5, 0, 0⟩, ⟨0, 1, 0⟩⟩ := by
  have hrange : Mesh.sliver.InRange := by
    unfold Mesh.InRange
    decide
  obtain ⟨bytes, facets, records, hencode, hsize, hfacets, -, hread, hholds⟩ :=
    file_reads_back hrange (by decide) (by decide) ""
  obtain rfl : [_] = facets := Option.some.inj hfacets
  obtain ⟨record, rest, hrecord, hrest, rfl⟩ := List.forall₂_cons_right_iff.mp hholds
  obtain rfl := List.forall₂_nil_right_iff.mp hrest
  exact ⟨hrange, by decide, by decide, bytes, record, hencode, hsize, hread, hrecord⟩

end PromptCad.Stl.Binary
