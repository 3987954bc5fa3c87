import PromptCad.Decimal.Binary
import PromptCad.Stl.Normal

/-! Meshes as binary STL: eighty zero bytes, the number of facets, and fifty bytes to each facet. -/

namespace PromptCad.Stl.Binary

/-- A number in so many bytes, the least significant first; higher bits are dropped. -/
def littleEndian : Nat → Nat → List UInt8
  | 0, _ => []
  | width + 1, n => UInt8.ofNat n :: littleEndian width (n / 256)

def word (n : UInt32) : List UInt8 := littleEndian 4 n.toNat

def corner (v : Point) : List UInt8 := v.toList.flatMap fun x => word (Decimal.narrow x)

/-- The pattern of what is not a number, with its sign bit set. -/
def signedNaN : UInt32 := 0xFFC00000

def hasNaN (f : Facet) : Bool := f.corners.any fun v => v.toList.any Float.isNaN

/-- The normal in 32-bit floats. Of numbers alone it is not a number only by a difference of two infinities, and such
a difference has its sign bit set. -/
def normal (f : Facet) : List UInt8 :=
  f.normal.toList.flatMap fun x => word (if x.isNaN && !hasNaN f then signedNaN else Decimal.narrow x)

def record (f : Facet) : List UInt8 := normal f ++ corner f.a ++ corner f.b ++ corner f.c ++ littleEndian 2 0

def header : List UInt8 := List.replicate 80 0

def bytes (m : Mesh) : List UInt8 :=
  header ++ littleEndian 4 m.facets.length ++ m.facets.flatMap record

def file (m : Mesh) : ByteArray :=
  m.triangles.foldl (fun out t => (record (m.facet t)).foldl ByteArray.push out)
    ⟨(header ++ littleEndian 4 m.triangles.size).toArray⟩

theorem toList_foldl_push (l : List UInt8) (out : ByteArray) :
    (l.foldl ByteArray.push out).data.toList = out.data.toList ++ l := by
  induction l generalizing out with
  | nil => simp
  | cons x l ih =>
    rw [List.foldl_cons, ih]
    show (out.data.push x).toList ++ l = _
    rw [Array.toList_push, List.append_assoc, List.singleton_append]

theorem toList_foldl_record {α : Type} (f : α → List UInt8) (l : List α) (out : ByteArray) :
    (l.foldl (fun out a => (f a).foldl ByteArray.push out) out).data.toList =
      out.data.toList ++ l.flatMap f := by
  induction l generalizing out with
  | nil => simp
  | cons a l ih => simp [ih, toList_foldl_push]

/-- The file holds the bytes in their order. -/
theorem toList_file (m : Mesh) : (file m).data.toList = bytes m := by
  rw [file, ← Array.foldl_toList, toList_foldl_record]
  simp [bytes, Mesh.facets, List.flatMap_map]

theorem length_littleEndian (width n : Nat) : (littleEndian width n).length = width := by
  induction width generalizing n with
  | zero => rfl
  | succ width ih => simp [littleEndian, ih]

theorem length_corner (v : Point) : (corner v).length = 12 := by
  simp [corner, Vec3.toList, word, length_littleEndian]

theorem length_normal (f : Facet) : (normal f).length = 12 := by
  simp [normal, Vec3.toList, word, length_littleEndian]

theorem length_record (f : Facet) : (record f).length = 50 := by
  simp [record, length_normal, length_corner, length_littleEndian]

theorem length_bytes (m : Mesh) : (bytes m).length = 84 + 50 * m.triangles.size := by
  have h := length_flatMap_const length_record m.facets
  simp only [bytes, header, List.length_append, List.length_replicate, length_littleEndian, h, Mesh.length_facets]
  omega

end PromptCad.Stl.Binary
