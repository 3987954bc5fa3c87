import Mathlib.Algebra.Order.BigOperators.Group.Finset
import Mathlib.Data.Sym.Sym2
import PromptCad.Proofs.Mesh.Solids

/-! How the parts of a closed surface count each other. A side without its direction stands for two directed edges, so
that the sides are told by the triangles; and how many triangles meet in a corner is told by the pieces around it. -/

namespace PromptCad

variable {α : Type}

def undirected [DecidableEq α] (es : List (α × α)) : Finset (Sym2 α) := (es.map fun e => s(e.1, e.2)).toFinset

theorem Paired.length_eq [DecidableEq α] {es : List (α × α)} (h : Paired es) :
    es.length = (undirected es).card * 2 := by
  have himage : undirected es = es.toFinset.image fun e => s(e.1, e.2) := by
    ext side
    simp [undirected]
  have hpair : ∀ e ∈ es, {f ∈ es.toFinset | s(f.1, f.2) = s(e.1, e.2)} = {e, e.swap} := by
    intro e he
    ext f
    rw [Finset.mem_filter, List.mem_toFinset, Sym2.mk_eq_mk_iff, Finset.mem_insert, Finset.mem_singleton]
    refine and_iff_right_of_imp ?_
    rintro (rfl | rfl)
    · exact he
    · exact h.reverse e he
  rw [← List.toFinset_card_of_nodup h.nodup, Finset.card_eq_sum_card_image (fun e : α × α => s(e.1, e.2)), himage]
  refine Finset.sum_const_nat fun side hside => ?_
  obtain ⟨e, he, rfl⟩ := Finset.mem_image.mp hside
  have he := List.mem_toFinset.mp he
  rw [hpair e he]
  exact Finset.card_pair fun heq => h.loopless e he (congrArg Prod.fst heq)

namespace Mesh

variable {m : Mesh}

def sides (m : Mesh) : Finset (Sym2 ℕ) := undirected m.edges

def trianglesAt (m : Mesh) (i : ℕ) : List Triangle := m.triangles.toList.filter (i ∈ ·.indices)

theorem length_edges (m : Mesh) : m.edges.length = m.triangles.size * 3 := by
  rw [edges, length_flatMap_const (n := 3) fun _ => rfl, Array.length_toList]

theorem Watertight.two_mul_card_sides (h : m.Watertight) : m.sides.card * 2 = m.triangles.size * 3 := by
  rw [← length_edges, h.paired.length_eq, sides]

end Mesh

namespace Rings

variable {last n : ℕ} {p : Piece} {s : Spot}

def Piece.Touches (last n : ℕ) (s : Spot) (p : Piece) : Prop :=
  s = (p.corners last n).1 ∨ s = (p.corners last n).2.1 ∨ s = (p.corners last n).2.2

theorem exists_touches (hn : 0 < n) (hs : s.Within last n) : ∃ p : Piece, p.Within last n ∧ p.Touches last n s := by
  cases s with
  | north => exact ⟨.north 0, hn, .inl rfl⟩
  | south => exact ⟨.south 0, hn, .inl rfl⟩
  | ring k j =>
    by_cases hk : k = last
    · exact ⟨.south j, hs.2, .inr (.inl (by rw [hk]; rfl))⟩
    · exact ⟨.upper k j, ⟨Nat.lt_of_le_of_ne hs.1 hk, hs.2⟩, .inr (.inl rfl)⟩

section Numbered

variable {m : Mesh} {l : List Piece} {number : Spot → ℕ}

/-- A numbering that keeps the spots apart also keeps apart which of them belong to a piece. -/
theorem mem_indices_triangle (hinj : ∀ a b : Spot, a.Within last n → b.Within last n → number a = number b → a = b)
    (hs : s.Within last n) (hp : p.Within last n) :
    number s ∈ (p.triangle last n number).indices ↔ p.Touches last n s := by
  obtain ⟨ha, hb, hc⟩ := within_corners hp
  have hnumber : ∀ a : Spot, a.Within last n → (number s = number a ↔ s = a) :=
    fun a ha => ⟨hinj s a hs ha, congrArg number⟩
  simp only [Triangle.indices, Piece.triangle, List.mem_cons, List.not_mem_nil, or_false, hnumber _ ha, hnumber _ hb,
    hnumber _ hc, Piece.Touches]

/-- The pieces around a spot tell how many triangles meet in it. -/
theorem length_trianglesAt (hl : l.Nodup) (hmem : ∀ p, p ∈ l ↔ p.Within last n)
    (hinj : ∀ a b : Spot, a.Within last n → b.Within last n → number a = number b → a = b)
    (htriangles : m.triangles.toList = l.map (Piece.triangle last n number)) (hs : s.Within last n)
    {star : List Piece} (hstar : star.Nodup) (haround : ∀ p, p ∈ star ↔ p.Within last n ∧ p.Touches last n s) :
    (m.trianglesAt (number s)).length = star.length := by
  rw [Mesh.trianglesAt, htriangles, List.filter_map, List.length_map]
  refine List.Perm.length_eq ((List.perm_ext_iff_of_nodup (hl.filter _) hstar).mpr fun p => ?_)
  rw [List.mem_filter, hmem, haround]
  refine and_congr_right fun hp => ?_
  rw [Function.comp_apply, decide_eq_true_iff]
  exact mem_indices_triangle hinj hs hp

/-- When the pieces around a spot come one after the other, the triangles that meet in it do so as well. -/
theorem trianglesAt_eq (hl : l.Nodup) (hmem : ∀ p, p ∈ l ↔ p.Within last n)
    (hinj : ∀ a b : Spot, a.Within last n → b.Within last n → number a = number b → a = b)
    (htriangles : m.triangles.toList = l.map (Piece.triangle last n number)) (hs : s.Within last n)
    {front star back : List Piece} (hsplit : l = front ++ star ++ back)
    (haround : ∀ p, p ∈ star ↔ p.Within last n ∧ p.Touches last n s) :
    m.trianglesAt (number s) = star.map (Piece.triangle last n number) := by
  subst hsplit
  obtain ⟨hbefore, -, hback⟩ := List.nodup_append.mp hl
  obtain ⟨-, -, hfront⟩ := List.nodup_append.mp hbefore
  have hmeets : ∀ p ∈ front ++ star ++ back, number s ∈ (p.triangle last n number).indices ↔ p ∈ star := by
    intro p hp
    have hp := (hmem p).mp hp
    rw [mem_indices_triangle hinj hs hp, haround, and_iff_right hp]
  have hstar : (front ++ star ++ back).filter (fun p => number s ∈ (p.triangle last n number).indices) = star := by
    rw [List.filter_append, List.filter_append, List.filter_eq_nil_iff.mpr, List.filter_eq_self.mpr,
      List.filter_eq_nil_iff.mpr, List.nil_append, List.append_nil]
    · intro p hp
      rw [decide_eq_true_iff, hmeets p (List.mem_append_right _ hp)]
      exact fun hmid => hback p (List.mem_append_right _ hmid) p hp rfl
    · intro p hp
      rw [decide_eq_true_iff, hmeets p (List.mem_append_left _ (List.mem_append_right _ hp))]
      exact hp
    · intro p hp
      rw [decide_eq_true_iff, hmeets p (List.mem_append_left _ (List.mem_append_left _ hp))]
      exact fun hmid => hfront p hp p hmid rfl
  rw [Mesh.trianglesAt, htriangles, List.filter_map]
  exact congrArg _ hstar

theorem exists_triangle (hn : 0 < n) (hmem : ∀ p, p ∈ l ↔ p.Within last n)
    (hinj : ∀ a b : Spot, a.Within last n → b.Within last n → number a = number b → a = b)
    (htriangles : m.triangles.toList = l.map (Piece.triangle last n number)) (hs : s.Within last n) :
    ∃ t ∈ m.triangles.toList, number s ∈ t.indices := by
  obtain ⟨p, hp, htouches⟩ := exists_touches hn hs
  refine ⟨p.triangle last n number, ?_, (mem_indices_triangle hinj hs hp).mpr htouches⟩
  rw [htriangles]
  exact List.mem_map.mpr ⟨p, (hmem p).mpr hp, rfl⟩

end Numbered

theorem mem_northFan : p ∈ (List.range n).map .north ↔ p.Within last n ∧ p.Touches last n .north := by
  cases p <;> simp [Piece.Within, Piece.Touches, Piece.corners]

theorem mem_southFan : p ∈ (List.range n).map .south ↔ p.Within last n ∧ p.Touches last n .south := by
  cases p <;> simp [Piece.Within, Piece.Touches, Piece.corners]

/-- The pieces between a place `j` of ring `k` and what is north of the ring; `i` is the place before. -/
def northOf (i j : ℕ) : ℕ → List Piece
  | 0 => [.north j, .north i]
  | k + 1 => [.upper k j, .lower k j, .lower k i]

def southOf (last i j k : ℕ) : List Piece :=
  if k = last then [.south j, .south i] else [.upper k j, .upper k i, .lower k i]

section Ring

variable {i j k : ℕ}

theorem mem_northOf : p ∈ northOf i j k ↔
    k = 0 ∧ (p = .north j ∨ p = .north i) ∨
      ∃ l, k = l + 1 ∧ (p = .upper l j ∨ p = .lower l j ∨ p = .lower l i) := by
  cases k <;> simp [northOf]

theorem mem_southOf : p ∈ southOf last i j k ↔
    k = last ∧ (p = .south j ∨ p = .south i) ∨
      k ≠ last ∧ (p = .upper k j ∨ p = .upper k i ∨ p = .lower k i) := by
  unfold southOf
  split_ifs with h <;> simp [h]

theorem mem_ringStar (hi : i < n) (hij : next n i = j) (hk : k ≤ last) :
    p ∈ northOf i j k ++ southOf last i j k ↔ p.Within last n ∧ p.Touches last n (.ring k j) := by
  have hj : j < n := hij ▸ next_lt hi
  have hnext : ∀ a < n, (j = next n a ↔ a = i) :=
    fun a ha => ⟨fun h => next_injective ha hi (h.symm.trans hij.symm), fun h => h ▸ hij.symm⟩
  rw [List.mem_append, mem_northOf, mem_southOf]
  -- a piece has the place `j` of a ring for the place that it is named by, or for the one after that
  cases p with
  | north a | south a | upper l a | lower l a =>
    simp only [Piece.Within, Piece.Touches, Piece.corners]
    grind

theorem nodup_ringStar (hn : 3 ≤ n) (hi : i < n) (hij : next n i = j) :
    (northOf i j k ++ southOf last i j k).Nodup := by
  have hne : j ≠ i := hij ▸ next_ne hn hi
  rw [List.nodup_append]
  cases k with
  | zero =>
    unfold northOf southOf
    grind
  | succ k =>
    unfold northOf southOf
    grind

end Ring

end Rings

end PromptCad
