import PromptCad.Proofs.Prompt.Munch

/-! What the pieces of a template stand for, and that the readings of a line are just the ways to cut it into texts of
its pieces. A reading takes runs and numbers whole; no way to cut the line is lost by this, since no text of the pieces
after such a run can go on with it. -/

namespace PromptCad.Prompt

open Grammar Unicode

/-- The texts of a piece, with what is kept of them. -/
inductive Piece.Fits : Piece → List Char → List Capture → Prop where
  | word {choices : List String} {w : String} : w ∈ choices → Fits (.word choices) w.toList []
  | blanks {s : List Char} : s ∈ Grammar.blanks → Fits .blanks s []
  | gap {s : List Char} : s ∈ Grammar.gap → Fits .gap s []
  | number {s : List Char} : s ∈ numeral → Fits .number s [.number s]
  | unit {s : List Char} : s ∈ letters → Fits .unit s [.unit (some s)]
  | someUnit {s : List Char} : s ∈ letters → Fits .unitIfAny s [.unit (some s)]
  | noUnit : Fits .unitIfAny [] [.unit none]

inductive Fits : List Piece → List Char → List Capture → Prop where
  | nil : Fits [] [] []
  | cons {p : Piece} {ps : List Piece} {a b : List Char} {ks cs : List Capture} :
      p.Fits a ks → Fits ps b cs → Fits (p :: ps) (a ++ b) (ks ++ cs)

variable {p : Piece} {ps : List Piece} {a b s : List Char} {c : Char} {ks cs : List Capture}

theorem fits_cons : Fits (p :: ps) s cs ↔ ∃ a b ks ls, s = a ++ b ∧ cs = ks ++ ls ∧ p.Fits a ks ∧ Fits ps b ls := by
  constructor
  · intro h
    cases h with
    | cons ha hb => exact ⟨_, _, _, _, rfl, rfl, ha, hb⟩
  · rintro ⟨a, b, ks, ls, rfl, rfl, ha, hb⟩
    exact .cons ha hb

theorem exists_run_of_mem {r : Char → Bool} (keep : List Char → List Capture)
    (h : (ks, b) ∈ (run? r s).toList.map fun cut => (keep cut.1, cut.2)) : ∃ a ∈ run r, s = a ++ b ∧ ks = keep a := by
  obtain ⟨cut, hcut, he⟩ := List.mem_map.mp h
  obtain ⟨rfl, rfl⟩ := Prod.mk.inj he
  have hrun := Option.mem_toList.mp hcut
  exact ⟨cut.1, mem_of_run? hrun, (run?_eq_some_iff.mp hrun).1, rfl⟩

theorem Piece.fits_of_mem_cuts (h : (ks, b) ∈ p.cuts s) : ∃ a, s = a ++ b ∧ p.Fits a ks := by
  cases p with
  | word choices =>
    obtain ⟨t, ht, he⟩ := List.mem_map.mp h
    obtain ⟨w, hw, hafter⟩ := List.mem_filterMap.mp ht
    cases he
    unfold afterWord? at hafter
    split at hafter
    · next hprefix =>
      cases hafter
      obtain ⟨t, rfl⟩ := List.isPrefixOf_iff_prefix.mp hprefix
      refine ⟨w.toList, ?_, .word hw⟩
      rw [List.drop_left]
    · cases hafter
  | blanks =>
    obtain ⟨a, ha, rfl, rfl⟩ := exists_run_of_mem (fun _ => []) h
    exact ⟨a, rfl, .blanks ha⟩
  | gap =>
    rcases List.mem_append.mp h with h | h
    · obtain ⟨a, ha, rfl, rfl⟩ := exists_run_of_mem (fun _ => []) h
      exact ⟨a, rfl, .gap ha.2⟩
    · obtain ⟨rfl, rfl⟩ := Prod.mk.inj (List.mem_singleton.mp h)
      exact ⟨[], rfl, .gap (mem_gap.mpr (by simp))⟩
  | number =>
    obtain ⟨cut, hcut, he⟩ := List.mem_map.mp h
    cases he
    have hnumber := Option.mem_toList.mp hcut
    exact ⟨cut.1, append_of_number? hnumber, .number (mem_of_number? hnumber)⟩
  | unit =>
    obtain ⟨a, ha, rfl, rfl⟩ := exists_run_of_mem (fun a => [.unit (some a)]) h
    exact ⟨a, rfl, .unit ha⟩
  | unitIfAny =>
    rcases List.mem_append.mp h with h | h
    · obtain ⟨a, ha, rfl, rfl⟩ := exists_run_of_mem (fun a => [.unit (some a)]) h
      exact ⟨a, rfl, .someUnit ha⟩
    · obtain ⟨rfl, rfl⟩ := Prod.mk.inj (List.mem_singleton.mp h)
      exact ⟨[], rfl, .noUnit⟩

theorem fits_of_mem_readings (h : cs ∈ readings ps s) : Fits ps s cs := by
  induction ps generalizing s cs with
  | nil =>
    rw [readings] at h
    split at h
    · next hs =>
      obtain rfl := List.mem_singleton.mp h
      exact hs ▸ .nil
    · cases h
  | cons p ps ih =>
    obtain ⟨⟨ks, b⟩, hcut, h⟩ := List.mem_flatMap.mp h
    obtain ⟨ls, hls, rfl⟩ := List.mem_map.mp h
    obtain ⟨a, rfl, ha⟩ := Piece.fits_of_mem_cuts hcut
    exact .cons ha (ih hls)

namespace Piece

def starts : Piece → Ranges
  | word choices => choices.filterMap fun w => w.toList.head?.map fun c => (c.toNat, c.toNat)
  | blanks | gap => whiteSpaceRanges
  | number => [(0x2B, 0x2B), (0x2D, 0x2D)] ++ numberRanges
  | unit | unitIfAny => letterRanges

def optional : Piece → Bool
  | word choices => choices.contains ""
  | gap | unitIfAny => true
  | blanks | number | unit => false

/-- The characters that a text of the piece goes on with, if they stand after it. -/
def swallows : Piece → Ranges
  | word _ => []
  | blanks | gap => whiteSpaceRanges
  | number => numberRanges
  | unit | unitIfAny => letterRanges

theorem Fits.optional (h : p.Fits [] ks) : p.optional = true := by
  generalize hs : ([] : List Char) = s at h
  cases h with
  | word hw =>
    obtain rfl : _ = "" := String.toList_inj.mp hs.symm
    exact List.contains_iff_mem.mpr hw
  | blanks h => exact absurd hs.symm h.1
  | gap h => rfl
  | number h =>
    obtain ⟨t, ht, u, hu, rfl⟩ := Language.mem_mul.mp h
    obtain ⟨c, v, rfl, -⟩ := exists_cons_of_mem_unsigned hu
    exact absurd hs.symm (List.append_ne_nil_of_right_ne_nil t (List.cons_ne_nil c v))
  | unit h => exact absurd hs.symm h.1
  | someUnit h => rfl
  | noUnit => rfl

theorem Fits.starts (h : p.Fits (c :: s) ks) : p.starts.contains c = true := by
  generalize hs : c :: s = t at h
  cases h with
  | word hw =>
    refine Ranges.contains_iff.mpr ⟨(c.toNat, c.toNat), ?_, Nat.le_refl _, Nat.le_refl _⟩
    refine List.mem_filterMap.mpr ⟨_, hw, ?_⟩
    rw [← hs]
    rfl
  | blanks h => exact h.2 c (hs ▸ List.mem_cons_self)
  | gap h => exact h c (hs ▸ List.mem_cons_self)
  | number h =>
    obtain ⟨t, ht, u, hu, rfl⟩ := Language.mem_mul.mp h
    rcases mem_sign.mp ht with rfl | ⟨d, hd, rfl⟩
    · obtain ⟨d, v, rfl, hd⟩ := exists_cons_of_mem_unsigned hu
      obtain ⟨rfl, -⟩ := List.cons.inj hs
      rw [Piece.starts, Ranges.contains_append, hd, Bool.or_true]
    · obtain ⟨rfl, -⟩ := List.cons.inj hs
      simp only [isSign, Bool.or_eq_true, decide_eq_true_eq] at hd
      rcases hd with rfl | rfl <;> decide
  | unit h =>
    rw [Piece.starts, contains_letterRanges]
    exact h.2 c (hs ▸ List.mem_cons_self)
  | someUnit h =>
    rw [Piece.starts, contains_letterRanges]
    exact h.2 c (hs ▸ List.mem_cons_self)
  | noUnit => cases hs

end Piece

def starts : List Piece → Ranges
  | [] => []
  | p :: ps => if p.optional then p.starts ++ starts ps else p.starts

theorem Fits.starts (h : Fits ps (c :: s) cs) : (starts ps).contains c = true := by
  generalize hs : c :: s = t at h
  induction h with
  | nil => cases hs
  | @cons p ps a b ks cs ha hb ih =>
    rw [Prompt.starts]
    cases a with
    | nil =>
      rw [if_pos ha.optional, Ranges.contains_append, ih hs, Bool.or_true]
    | cons d a =>
      obtain ⟨rfl, -⟩ := List.cons.inj hs
      split
      · rw [Ranges.contains_append, ha.starts, Bool.true_or]
      · exact ha.starts

/-- No text of the pieces goes on with a text of the first. -/
theorem Fits.not_swallowed (hp : p.swallows.apart (Prompt.starts ps) = true) (h : Fits ps b cs) :
    ∀ c ∈ b.head?, p.swallows.contains c = false := by
  intro c hc
  obtain ⟨t, rfl⟩ := List.head?_eq_some_iff.mp hc
  by_contra hswallow
  rw [Bool.not_eq_false] at hswallow
  have := Ranges.contains_eq_false_of_apart hp hswallow
  rw [h.starts] at this
  cases this

/-- Which pieces may come after a piece so that it can be read as far as it reaches. Blanks that may be left out are
no matter, since blanks after them can be read either way; but no word may begin with a blank. -/
def Piece.before (ps : List Piece) : Piece → Bool
  | .word choices => (Piece.word choices).starts.apart whiteSpaceRanges
  | .gap => true
  | p => p.swallows.apart (Prompt.starts ps)

def separated : List Piece → Bool
  | [] => true
  | p :: ps => p.before ps && separated ps

theorem Piece.Fits.mem_cuts (h : p.Fits a ks) (hb : ∀ c ∈ b.head?, p.swallows.contains c = false) :
    (ks, b) ∈ p.cuts (a ++ b) := by
  cases h with
  | @word choices w hw =>
    have hafter : afterWord? w.toList (w.toList ++ b) = some b := by
      rw [afterWord?, if_pos (List.isPrefixOf_iff_prefix.mpr (List.prefix_append _ _)), List.drop_left]
    exact List.mem_map.mpr ⟨b, List.mem_filterMap.mpr ⟨w, hw, hafter⟩, rfl⟩
  | blanks h =>
    have hrun : run? isWhiteSpace (a ++ b) = some (a, b) := run?_append h hb
    exact List.mem_map.mpr ⟨(a, b), Option.mem_toList.mpr hrun, rfl⟩
  | gap h =>
    by_cases hne : a = []
    · subst hne
      exact List.mem_append_right _ (List.mem_singleton.mpr rfl)
    · have hrun : run? isWhiteSpace (a ++ b) = some (a, b) := run?_append ⟨hne, h⟩ hb
      exact List.mem_append_left _ (List.mem_map.mpr ⟨(a, b), Option.mem_toList.mpr hrun, rfl⟩)
  | number h =>
    have hnumber : number? (a ++ b) = some (a, b) := number?_append h hb
    exact List.mem_map.mpr ⟨(a, b), Option.mem_toList.mpr hnumber, rfl⟩
  | unit h =>
    have hrun : run? isUnitLetter (a ++ b) = some (a, b) :=
      run?_append h fun c hc => (contains_letterRanges c).symm.trans (hb c hc)
    exact List.mem_map.mpr ⟨(a, b), Option.mem_toList.mpr hrun, rfl⟩
  | someUnit h =>
    have hrun : run? isUnitLetter (a ++ b) = some (a, b) :=
      run?_append h fun c hc => (contains_letterRanges c).symm.trans (hb c hc)
    exact List.mem_append_left _ (List.mem_map.mpr ⟨(a, b), Option.mem_toList.mpr hrun, rfl⟩)
  | noUnit => exact List.mem_append_right _ (List.mem_singleton.mpr rfl)

theorem Fits.append_blanks (hps : separated ps = true) (h : Fits ps (c :: b) cs) (hc : isWhiteSpace c = true)
    (ha : a ∈ Grammar.gap) : Fits ps (a ++ c :: b) cs := by
  generalize hs : c :: b = s at h
  induction h with
  | nil => cases hs
  | @cons p ps e s ks cs he h ih =>
    obtain ⟨hbefore, hsep⟩ := Bool.and_eq_true_iff.mp hps
    cases e with
    | nil =>
      have hmore := Fits.cons he (ih hsep hs)
      exact hmore
    | cons d e =>
      obtain ⟨rfl, rfl⟩ := List.cons.inj hs
      have hstart := he.starts
      rw [← List.append_assoc]
      cases p with
      | blanks =>
        cases he with
        | blanks he =>
          refine .cons (.blanks ⟨List.append_ne_nil_of_right_ne_nil a he.1, fun x hx => ?_⟩) h
          exact (List.mem_append.mp hx).elim (ha x) (he.2 x)
      | gap =>
        cases he with
        | gap he => exact .cons (.gap fun x hx => (List.mem_append.mp hx).elim (ha x) (he x)) h
      | word choices =>
        have := Ranges.contains_eq_false_of_apart hbefore hstart
        cases hc.symm.trans this
      | number =>
        have hapart : Piece.number.starts.apart whiteSpaceRanges = true := rfl
        cases hc.symm.trans (Ranges.contains_eq_false_of_apart hapart hstart)
      | unit =>
        have hapart : letterRanges.apart whiteSpaceRanges = true := by decide
        cases hc.symm.trans (Ranges.contains_eq_false_of_apart hapart hstart)
      | unitIfAny =>
        have hapart : letterRanges.apart whiteSpaceRanges = true := by decide
        cases hc.symm.trans (Ranges.contains_eq_false_of_apart hapart hstart)

/-- Every way to cut a line into texts of the pieces is found. -/
theorem mem_readings_of_fits (hps : separated ps = true) (h : Fits ps s cs) : cs ∈ readings ps s := by
  induction ps generalizing s cs with
  | nil =>
    cases h
    exact List.mem_singleton.mpr rfl
  | cons p ps ih =>
    obtain ⟨hbefore, hsep⟩ := Bool.and_eq_true_iff.mp hps
    obtain ⟨a, b, ks, cs, rfl, rfl, ha, hb⟩ := fits_cons.mp h
    have hwhole (hstop : ∀ c ∈ b.head?, p.swallows.contains c = false) : ks ++ cs ∈ readings (p :: ps) (a ++ b) :=
      List.mem_flatMap.mpr ⟨(ks, b), ha.mem_cuts hstop, List.mem_map.mpr ⟨cs, ih hsep hb, rfl⟩⟩
    cases p with
    | word choices => exact hwhole fun c _ => rfl
    | blanks => exact hwhole (hb.not_swallowed hbefore)
    | number => exact hwhole (hb.not_swallowed hbefore)
    | unit => exact hwhole (hb.not_swallowed hbefore)
    | unitIfAny => exact hwhole (hb.not_swallowed hbefore)
    | gap =>
      by_cases hstop : ∀ c ∈ b.head?, isWhiteSpace c = false
      · exact hwhole hstop
      · -- the blanks are left to the pieces after the gap
        simp only [not_forall, Bool.not_eq_false] at hstop
        obtain ⟨c, hc, hblank⟩ := hstop
        obtain ⟨t, rfl⟩ := List.head?_eq_some_iff.mp hc
        cases ha with
        | gap ha =>
          have hrest := ih hsep (hb.append_blanks hsep hblank ha)
          refine List.mem_flatMap.mpr ⟨([], a ++ c :: t), ?_, List.mem_map.mpr ⟨cs, hrest, rfl⟩⟩
          exact List.mem_append_right _ (List.mem_singleton.mpr rfl)

theorem mem_readings_iff (hps : separated ps = true) : cs ∈ readings ps s ↔ Fits ps s cs :=
  ⟨fits_of_mem_readings, mem_readings_of_fits hps⟩

end PromptCad.Prompt
