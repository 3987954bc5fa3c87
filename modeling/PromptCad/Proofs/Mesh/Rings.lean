import PromptCad.Proofs.Mesh.Edges

/-! The surface of a round solid: rings of equally many corners between two poles. Each pole is joined to the ring next
to it by a fan of triangles, and rings that follow each other by split quads. Cylinders and spheres differ only in how
many rings there are and in how the corners are numbered. -/

namespace PromptCad.Rings

/-- A pole, or a place on a ring; rings are counted from the north. -/
inductive Spot where
  | north
  | south
  | ring (k j : ℕ)

def next (n j : ℕ) : ℕ := (j + 1) % n

section Next

variable {n i j : ℕ}

theorem next_eq (h : j < n) : next n j = if j + 1 = n then 0 else j + 1 := by
  unfold next
  split_ifs with hj
  · rw [hj, Nat.mod_self]
  · exact Nat.mod_eq_of_lt (by omega)

theorem next_lt (h : j < n) : next n j < n := Nat.mod_lt _ (by omega)

theorem next_ne (hn : 3 ≤ n) (h : j < n) : next n j ≠ j := by
  rw [next_eq h]
  split_ifs <;> omega

theorem next_next_ne (hn : 3 ≤ n) (h : j < n) : j ≠ next n (next n j) := by
  rw [next_eq (next_lt h), next_eq h]
  split_ifs <;> omega

theorem next_injective (hi : i < n) (hj : j < n) (h : next n i = next n j) : i = j := by
  rw [next_eq hi, next_eq hj] at h
  split_ifs at h <;> omega

theorem exists_next (h : j < n) : ∃ i, i < n ∧ next n i = j := by
  by_cases hj : j = 0
  · refine ⟨n - 1, by omega, ?_⟩
    rw [next_eq (by omega), if_pos (by omega), hj]
  · refine ⟨j - 1, by omega, ?_⟩
    rw [next_eq (by omega), if_neg (by omega)]
    omega

end Next

/-- A triangle of the surface: of a fan at a pole, or one of the two between ring `k` and the ring below it. -/
inductive Piece where
  | north (j : ℕ)
  | south (j : ℕ)
  | upper (k j : ℕ)
  | lower (k j : ℕ)

namespace Piece

/-- The piece is one of a surface whose last ring is ring `last`, with `n` places to a ring. -/
def Within (last n : ℕ) : Piece → Prop
  | north j => j < n
  | south j => j < n
  | upper k j => k < last ∧ j < n
  | lower k j => k < last ∧ j < n

def corners (last n : ℕ) : Piece → Spot × Spot × Spot
  | north j => (.north, .ring 0 (next n j), .ring 0 j)
  | south j => (.south, .ring last j, .ring last (next n j))
  | upper k j => (.ring (k + 1) j, .ring k j, .ring k (next n j))
  | lower k j => (.ring (k + 1) j, .ring k (next n j), .ring (k + 1) (next n j))

def sides (last n : ℕ) (p : Piece) : List (Spot × Spot) :=
  around (p.corners last n).1 (p.corners last n).2.1 (p.corners last n).2.2

def turned (n : ℕ) : Piece → Piece
  | north j => north (next n j)
  | south j => south (next n j)
  | upper k j => upper k (next n j)
  | lower k j => lower k (next n j)

end Piece

/-- The piece that a side belongs to, moved on by one place: that place can be read off either end of the side. -/
def owner (last n : ℕ) : Spot × Spot → Piece
  | (.north, .ring _ j) => .north j
  | (.ring _ i, .north) => .north (next n i)
  | (.south, .ring _ j) => .south (next n j)
  | (.ring _ i, .south) => .south i
  | (.ring k i, .ring l j) =>
    if k = l then
      -- along a ring the direction tells on which side of the ring the piece is
      if j = next n i then if k = last then .south j else .upper k j
      else if k = 0 then .north i else .lower (k - 1) i
    else if k = l + 1 then if i = j then .upper l (next n i) else .lower l (next n i)
    else if i = j then .lower k i else .upper k i
  | _ => .north 0

section Surface

variable {last n : ℕ} {p q : Piece}

theorem owner_of_mem_sides (hn : 3 ≤ n) (hp : p.Within last n) {e : Spot × Spot} (he : e ∈ p.sides last n) :
    owner last n e = p.turned n := by
  cases p with
  | north j =>
    have hback := next_next_ne hn hp
    obtain rfl | rfl | rfl := mem_around.mp he
    · rfl
    · simp [owner, Piece.corners, Piece.turned, hback]
    · rfl
  | south j =>
    obtain rfl | rfl | rfl := mem_around.mp he
    · rfl
    · simp [owner, Piece.corners, Piece.turned]
    · rfl
  | upper k j =>
    obtain ⟨hk, hj⟩ := hp
    have hne := next_ne hn hj
    have hskip : k ≠ k + 1 + 1 := by omega
    obtain rfl | rfl | rfl := mem_around.mp he
    · simp [owner, Piece.corners, Piece.turned]
    · simp [owner, Piece.corners, Piece.turned, Nat.ne_of_lt hk]
    · simp [owner, Piece.corners, Piece.turned, hne, hskip]
  | lower k j =>
    obtain ⟨hk, hj⟩ := hp
    have hne := next_ne hn hj
    have hback := next_next_ne hn hj
    have hskip : k ≠ k + 1 + 1 := by omega
    obtain rfl | rfl | rfl := mem_around.mp he
    · simp [owner, Piece.corners, Piece.turned, hne.symm]
    · simp [owner, Piece.corners, Piece.turned, hskip]
    · simp [owner, Piece.corners, Piece.turned, hback]

theorem turned_injective (hp : p.Within last n) (hq : q.Within last n) (h : p.turned n = q.turned n) : p = q := by
  cases p <;> cases q <;> simp only [Piece.turned, reduceCtorEq, Piece.north.injEq, Piece.south.injEq,
    Piece.upper.injEq, Piece.lower.injEq] at h
  · rw [next_injective hp hq h]
  · rw [next_injective hp hq h]
  · rw [h.1, next_injective hp.2 hq.2 h.2]
  · rw [h.1, next_injective hp.2 hq.2 h.2]

theorem distinct_corners (hn : 3 ≤ n) (hp : p.Within last n) :
    (p.corners last n).1 ≠ (p.corners last n).2.1 ∧ (p.corners last n).2.1 ≠ (p.corners last n).2.2 ∧
      (p.corners last n).2.2 ≠ (p.corners last n).1 := by
  cases p with
  | north j => simp [Piece.corners, next_ne hn hp]
  | south j => simp [Piece.corners, (next_ne hn hp).symm]
  | upper k j => simp [Piece.corners, (next_ne hn hp.2).symm]
  | lower k j => simp [Piece.corners, next_ne hn hp.2]

/-- Each side of a piece is, the other way round, a side of a piece. -/
theorem exists_reverse (hp : p.Within last n) {e : Spot × Spot} (he : e ∈ p.sides last n) :
    ∃ q : Piece, q.Within last n ∧ e.swap ∈ q.sides last n := by
  have hside : ∀ q : Piece, q.Within last n → (e.swap = ((q.corners last n).1, (q.corners last n).2.1) ∨
      e.swap = ((q.corners last n).2.1, (q.corners last n).2.2) ∨
        e.swap = ((q.corners last n).2.2, (q.corners last n).1)) →
      ∃ q : Piece, q.Within last n ∧ e.swap ∈ q.sides last n := fun q hq h => ⟨q, hq, mem_around.mpr h⟩
  cases p with
  | north j =>
    obtain ⟨i, hi, hij⟩ := exists_next hp
    obtain rfl | rfl | rfl := mem_around.mp he
    · exact hside (.north (next n j)) (next_lt hp) (.inr (.inr rfl))
    · -- below the first ring is a quad, or the fan of the south pole
      by_cases hlast : last = 0
      · exact hside (.south j) hp (.inr (.inl (by rw [hlast]; rfl)))
      · exact hside (.upper 0 j) ⟨by omega, hp⟩ (.inr (.inl rfl))
    · exact hside (.north i) hi (.inl (by rw [← hij]; rfl))
  | south j =>
    obtain ⟨i, hi, hij⟩ := exists_next hp
    obtain rfl | rfl | rfl := mem_around.mp he
    · exact hside (.south i) hi (.inr (.inr (by rw [← hij]; rfl)))
    · cases last with
      | zero => exact hside (.north j) hp (.inr (.inl rfl))
      | succ last => exact hside (.lower last j) ⟨Nat.lt_succ_self last, hp⟩ (.inr (.inr rfl))
    · exact hside (.south (next n j)) (next_lt hp) (.inl rfl)
  | upper k j =>
    obtain ⟨hk, hj⟩ := hp
    obtain ⟨i, hi, hij⟩ := exists_next hj
    obtain rfl | rfl | rfl := mem_around.mp he
    · exact hside (.lower k i) ⟨hk, hi⟩ (.inr (.inl (by rw [← hij]; rfl)))
    · cases k with
      | zero => exact hside (.north j) hj (.inr (.inl rfl))
      | succ k => exact hside (.lower k j) ⟨by omega, hj⟩ (.inr (.inr rfl))
    · exact hside (.lower k j) ⟨hk, hj⟩ (.inl rfl)
  | lower k j =>
    obtain ⟨hk, hj⟩ := hp
    obtain rfl | rfl | rfl := mem_around.mp he
    · exact hside (.upper k j) ⟨hk, hj⟩ (.inr (.inr rfl))
    · exact hside (.upper k (next n j)) ⟨hk, next_lt hj⟩ (.inl rfl)
    · by_cases hlast : k + 1 = last
      · exact hside (.south j) hj (.inr (.inl (by rw [← hlast]; rfl)))
      · exact hside (.upper (k + 1) j) ⟨by omega, hj⟩ (.inr (.inl rfl))

/-- The pieces in any order, each once, make up a closed surface. -/
theorem paired_pieces (hn : 3 ≤ n) {l : List Piece} (hl : l.Nodup) (hmem : ∀ p, p ∈ l ↔ p.Within last n) :
    Paired (l.flatMap (Piece.sides last n)) where
  loopless e he := by
    obtain ⟨p, hp, he⟩ := List.mem_flatMap.mp he
    obtain ⟨hab, hbc, hca⟩ := distinct_corners hn ((hmem p).mp hp)
    exact loopless_around hab hbc hca e he
  nodup := by
    refine nodup_flatMap_of_owner (owner last n) (Piece.turned n) (fun p hp => ?_) (fun p hp e he => ?_) ?_
    · obtain ⟨hab, hbc, hca⟩ := distinct_corners hn ((hmem p).mp hp)
      exact nodup_around hab hbc hca
    · exact owner_of_mem_sides hn ((hmem p).mp hp) he
    · exact hl.map_on fun p hp q hq => turned_injective ((hmem p).mp hp) ((hmem q).mp hq)
  reverse e he := by
    obtain ⟨p, hp, he⟩ := List.mem_flatMap.mp he
    obtain ⟨q, hq, he⟩ := exists_reverse ((hmem p).mp hp) he
    exact List.mem_flatMap.mpr ⟨q, (hmem q).mpr hq, he⟩

end Surface

end PromptCad.Rings
