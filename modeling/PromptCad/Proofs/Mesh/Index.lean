import PromptCad.Proofs.Mesh.Solids

/-! Corners are numbered in 32 bits. Here the meshes are built once more with every such number checked: a sum, product
or count that does not fit gives no mesh. None of the checks ever fails, so that nothing is cut off or wraps around. -/

namespace PromptCad

namespace Index

def bound : ℕ := 2 ^ 32

def fit? (n : ℕ) : Option ℕ := if n < bound then some n else none

def add? (a b : ℕ) : Option ℕ := fit? (a + b)

def mul? (a b : ℕ) : Option ℕ := fit? (a * b)

def sub? (a b : ℕ) : Option ℕ := if b ≤ a then some (a - b) else none

variable {a b n : ℕ}

theorem fit?_eq (h : n < bound) : fit? n = some n := if_pos h

theorem add?_eq (h : a + b < bound) : add? a b = some (a + b) := fit?_eq h

theorem mul?_eq (h : a * b < bound) : mul? a b = some (a * b) := fit?_eq h

theorem sub?_eq (h : b ≤ a) : sub? a b = some (a - b) := if_pos h

theorem mapM_eq_some {α β : Type} {l : List α} {f : α → Option β} {g : α → β} (h : ∀ a ∈ l, f a = some (g a)) :
    l.mapM f = some (l.map g) := by
  induction l with
  | nil => rfl
  | cons a l ih =>
    obtain ⟨ha, hl⟩ := List.forall_mem_cons.mp h
    simp [ha, ih hl]

end Index

open Index

namespace Mesh

namespace Cylinder

/-- The triangles of the segment that starts at `i`, with the numbers of the two centres. -/
def segment? (n bottom top i : ℕ) : Option (List Triangle) := do
  let j := (← add? i 1) % n
  let upperI ← add? n i
  let upperJ ← add? n j
  return [⟨i, upperI, upperJ⟩, ⟨i, upperJ, j⟩, ⟨top, upperJ, upperI⟩, ⟨bottom, i, j⟩]

theorem segment?_eq {n i : ℕ} (hn : n ≤ 512) (hi : i < n) :
    segment? n (2 * n) (2 * n + 1) i = some (segment n i ((i + 1) % n)) := by
  have hbound : 1024 < bound := by decide
  have hj : (i + 1) % n < n := Nat.mod_lt _ (by omega)
  have hnext : add? i 1 = some (i + 1) := add?_eq (by omega)
  have hupper : add? n i = some (n + i) := add?_eq (by omega)
  have hupper' : add? n ((i + 1) % n) = some (n + (i + 1) % n) := add?_eq (by omega)
  simp only [segment?, hnext, hupper, hupper', bind, Option.bind]
  rfl

end Cylinder

/-- The centres are numbered by how many vertices there are when they are added. -/
def cylinder? (radius height : Float) (wanted : ℕ) : Option Mesh := do
  let n := Cylinder.segments wanted
  let rings := Cylinder.ring radius (-(height / 2)) n ++ Cylinder.ring radius (height / 2) n
  let bottom ← fit? rings.length
  let top ← fit? (rings.length + 1)
  let triangles ← (List.range n).mapM (Cylinder.segment? n bottom top)
  return ⟨(Cylinder.vertices radius height n).toArray, triangles.flatten.toArray⟩

theorem cylinder?_eq (radius height : Float) (wanted : ℕ) :
    cylinder? radius height wanted = some (cylinder radius height wanted) := by
  have hbound : 1026 < bound := by decide
  have hn : Cylinder.segments wanted ≤ 512 := by
    unfold Cylinder.segments
    omega
  have hrings : (Cylinder.ring radius (-(height / 2)) (Cylinder.segments wanted) ++
      Cylinder.ring radius (height / 2) (Cylinder.segments wanted)).length = 2 * Cylinder.segments wanted := by
    simp [Cylinder.ring]
    omega
  have hsegments := mapM_eq_some fun i hi => Cylinder.segment?_eq hn (List.mem_range.mp hi)
  simp only [cylinder?, hrings, fit?_eq (show 2 * Cylinder.segments wanted < bound by omega),
    fit?_eq (show 2 * Cylinder.segments wanted + 1 < bound by omega), hsegments, bind, Option.bind]
  rfl

namespace Sphere

def place? (lon k j : ℕ) : Option ℕ := do
  let row ← mul? k lon
  let start ← add? 1 row
  add? start (j % lon)

def northFan? (lon : ℕ) : Option (List Triangle) :=
  (List.range lon).mapM fun j => do
    let next ← add? j 1
    return ⟨0, ← place? lon 0 next, ← place? lon 0 j⟩

def quad? (lon k j : ℕ) : Option (List Triangle) := do
  let next ← add? j 1
  let below ← add? k 1
  let upperI ← place? lon k j
  let upperJ ← place? lon k next
  let lowerI ← place? lon below j
  let lowerJ ← place? lon below next
  return [⟨lowerI, upperI, upperJ⟩, ⟨lowerI, upperJ, lowerJ⟩]

def band? (lon k : ℕ) : Option (List Triangle) := do
  let quads ← (List.range lon).mapM (quad? lon k)
  return quads.flatten

def southFan? (south rings lon : ℕ) : Option (List Triangle) :=
  (List.range lon).mapM fun j => do
    let last ← sub? rings 1
    let next ← add? j 1
    return ⟨south, ← place? lon last j, ← place? lon last next⟩

variable {lat lon : ℕ}

theorem place?_eq {k : ℕ} (hlon : lon ≤ 512) (hk : k ≤ 511) (j : ℕ) (hpos : 0 < lon) :
    place? lon k j = some (place lon k j) := by
  have hbound : 512 * 512 + 512 < bound := by decide
  have hrow : k * lon ≤ 511 * 512 := Nat.mul_le_mul hk hlon
  have hj : j % lon < lon := Nat.mod_lt _ hpos
  have hmul : mul? k lon = some (k * lon) := mul?_eq (by omega)
  have hstart : add? 1 (k * lon) = some (1 + k * lon) := add?_eq (by omega)
  have hend : add? (1 + k * lon) (j % lon) = some (1 + k * lon + j % lon) := add?_eq (by omega)
  simp only [place?, hmul, hstart, hend, bind, Option.bind]
  rfl

theorem northFan?_eq (hlon : lon ≤ 512) : northFan? lon = some (northFan lon) := by
  have hbound : 512 < bound := by decide
  apply mapM_eq_some
  intro j hj
  have hj := List.mem_range.mp hj
  have hplace := fun j => place?_eq hlon (Nat.zero_le 511) j (by omega)
  have hnext : add? j 1 = some (j + 1) := add?_eq (by omega)
  simp only [hnext, hplace, bind, Option.bind]
  rfl

theorem quad?_eq {k j : ℕ} (hlon : lon ≤ 512) (hk : k + 1 ≤ 511) (hj : j < lon) :
    quad? lon k j = some [⟨place lon (k + 1) j, place lon k j, place lon k (j + 1)⟩,
      ⟨place lon (k + 1) j, place lon k (j + 1), place lon (k + 1) (j + 1)⟩] := by
  have hbound : 512 < bound := by decide
  have hupper := fun j => place?_eq hlon (show k ≤ 511 by omega) j (by omega)
  have hlower := fun j => place?_eq hlon hk j (by omega)
  have hnext : add? j 1 = some (j + 1) := add?_eq (by omega)
  have hbelow : add? k 1 = some (k + 1) := add?_eq (by omega)
  simp only [quad?, hnext, hbelow, hupper, hlower, bind, Option.bind]
  rfl

theorem band?_eq {k : ℕ} (hlon : lon ≤ 512) (hk : k + 1 ≤ 511) : band? lon k = some (band lon k) := by
  have hquads := mapM_eq_some fun j hj => quad?_eq hlon hk (List.mem_range.mp hj)
  simp only [band?, hquads, bind, Option.bind]
  rfl

theorem southFan?_eq {south : ℕ} (hlat : 2 ≤ lat) (hlat' : lat ≤ 512) (hlon : lon ≤ 512)
    (hsouth : south = southPole lat lon) : southFan? south (lat - 1) lon = some (southFan lat lon) := by
  have hbound : 512 < bound := by decide
  apply mapM_eq_some
  intro j hj
  have hj := List.mem_range.mp hj
  have hlast : sub? (lat - 1) 1 = some (lat - 2) := sub?_eq (by omega)
  have hnext : add? j 1 = some (j + 1) := add?_eq (by omega)
  have hplace := fun j => place?_eq hlon (show lat - 2 ≤ 511 by omega) j (by omega)
  simp only [hlast, hnext, hplace, hsouth, bind, Option.bind]
  rfl

end Sphere

/-- The counts that room is made for are checked as well. -/
def sphere? (radius : Float) (latitude longitude : ℕ) : Option Mesh := do
  let lat := Sphere.bands latitude
  let lon := Sphere.segments longitude
  let rings ← sub? lat 1
  let _ ← add? (← mul? rings lon) 2
  let south ← fit? (1 + ((List.range (lat - 1)).flatMap fun k => Sphere.ring radius lat lon (k + 1)).length)
  let _ ← mul? (← mul? 2 lon) (← sub? lat 1)
  let north ← Sphere.northFan? lon
  let between ← sub? rings 1
  let bands ← (List.range between).mapM (Sphere.band? lon)
  let southern ← Sphere.southFan? south rings lon
  return ⟨(Sphere.vertices radius lat lon).toArray, (north ++ bands.flatten ++ southern).toArray⟩

theorem sphere?_eq (radius : Float) (latitude longitude : ℕ) :
    sphere? radius latitude longitude = some (sphere radius latitude longitude) := by
  have hbound : 2 * 512 * 512 + 2 < bound := by decide
  have hlat : 2 ≤ Sphere.bands latitude ∧ Sphere.bands latitude ≤ 512 := by
    unfold Sphere.bands
    omega
  have hlon : Sphere.segments longitude ≤ 512 := by
    unfold Sphere.segments
    omega
  rw [sphere]
  simp only [sphere?]
  generalize Sphere.bands latitude = lat at hlat
  generalize Sphere.segments longitude = lon at hlon
  obtain ⟨htwo, hlat⟩ := hlat
  have hrow : (lat - 1) * lon ≤ 511 * 512 := Nat.mul_le_mul (by omega) hlon
  have hcapacity : 2 * lon * (lat - 1) ≤ 2 * 512 * 511 := Nat.mul_le_mul (by omega) (by omega)
  have hlength := length_flatMap_const (fun k => Sphere.length_ring radius lat lon (k + 1)) (List.range (lat - 1))
  rw [List.length_range] at hlength
  have hrings : sub? lat 1 = some (lat - 1) := sub?_eq (by omega)
  have hbetween : sub? (lat - 1) 1 = some (lat - 2) := sub?_eq (by omega)
  have hvertices : mul? (lat - 1) lon = some ((lat - 1) * lon) := mul?_eq (by omega)
  have hroom : add? ((lat - 1) * lon) 2 = some ((lat - 1) * lon + 2) := add?_eq (by omega)
  have hsouth : fit? (1 + (lat - 1) * lon) = some (1 + (lat - 1) * lon) := fit?_eq (by omega)
  have hdouble : mul? 2 lon = some (2 * lon) := mul?_eq (by omega)
  have htriangles : mul? (2 * lon) (lat - 1) = some (2 * lon * (lat - 1)) := mul?_eq (by omega)
  have hbands : (List.range (lat - 2)).mapM (Sphere.band? lon) =
      some ((List.range (lat - 2)).map (Sphere.band lon)) := by
    refine mapM_eq_some fun k hk => Sphere.band?_eq hlon ?_
    have := List.mem_range.mp hk
    omega
  have hfan : Sphere.southFan? (1 + (lat - 1) * lon) (lat - 1) lon = some (Sphere.southFan lat lon) :=
    Sphere.southFan?_eq htwo hlat hlon (Nat.add_comm _ _)
  simp only [hrings, hbetween, hvertices, hroom, hlength, hsouth, hdouble, htriangles, Sphere.northFan?_eq hlon, hbands,
    hfan, bind, Option.bind]
  rfl

end Mesh

def Triangle.shift? (t : Triangle) (n : ℕ) : Option Triangle := do
  return ⟨← add? t.a n, ← add? t.b n, ← add? t.c n⟩

theorem Triangle.shift?_eq {t : Triangle} {n : ℕ} (h : ∀ i ∈ t.indices, i + n < bound) :
    t.shift? n = some (t.shift n) := by
  have ha : add? t.a n = some (t.a + n) := add?_eq (h t.a (by simp [Triangle.indices]))
  have hb : add? t.b n = some (t.b + n) := add?_eq (h t.b (by simp [Triangle.indices]))
  have hc : add? t.c n = some (t.c + n) := add?_eq (h t.c (by simp [Triangle.indices]))
  simp only [shift?, ha, hb, hc, bind, Option.bind]
  rfl

namespace Mesh

def append? (m n : Mesh) : Option Mesh := do
  let base ← fit? m.vertices.size
  let moved ← n.triangles.toList.mapM (·.shift? base)
  return ⟨m.vertices ++ n.vertices, m.triangles ++ moved.toArray⟩

theorem append?_eq {m n : Mesh} (hn : n.InRange) (hfits : m.vertices.size + n.vertices.size < bound) :
    m.append? n = some (m.append n) := by
  have hbase : fit? m.vertices.size = some m.vertices.size := fit?_eq (by omega)
  have hmoved : n.triangles.toList.mapM (·.shift? m.vertices.size) =
      some (n.triangles.toList.map (·.shift m.vertices.size)) := by
    refine mapM_eq_some fun t ht => Triangle.shift?_eq fun i hi => ?_
    have := hn t ht i hi
    omega
  have harray : (n.triangles.toList.map (·.shift m.vertices.size)).toArray =
      n.triangles.map (·.shift m.vertices.size) := by
    rw [← Array.toList_map]
  simp only [append?, hbase, hmoved, bind, Option.bind]
  rw [harray]
  rfl

end Mesh

def Solid.mesh? (s : Solid) (r : Resolution) : Option Mesh :=
  match s with
  | .box width depth height => some (.box width depth height)
  | .cylinder radius height => Mesh.cylinder? radius height r.cylinder
  | .sphere radius => Mesh.sphere? radius r.latitude r.longitude

theorem Solid.mesh?_eq (s : Solid) (r : Resolution) : s.mesh? r = some (s.mesh r) := by
  cases s with
  | box width depth height => rfl
  | cylinder radius height => exact Mesh.cylinder?_eq radius height r.cylinder
  | sphere radius => exact Mesh.sphere?_eq radius r.latitude r.longitude

def Primitive.mesh? (p : Primitive) (r : Resolution) : Option Mesh := (p.solid.mesh? r).map (·.translate p.position)

theorem Primitive.mesh?_eq (p : Primitive) (r : Resolution) : p.mesh? r = some (p.mesh r) := by
  rw [mesh?, Solid.mesh?_eq]
  rfl

def Mesh.ofPrimitives? (ps : List Primitive) (r : Resolution) : Option Mesh :=
  ps.foldlM (fun m p => do m.append? (← p.mesh? r)) .empty

end PromptCad
