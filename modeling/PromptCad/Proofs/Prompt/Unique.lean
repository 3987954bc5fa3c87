import PromptCad.Proofs.Prompt.Fits

/-! No line can be cut in two ways that differ in what is kept, whether into the pieces of one template or of two. The
pieces are taken off from the left: a run ends where its characters end, and what follows a number, a word or a blank
tells which piece comes next. -/

namespace PromptCad.Prompt

open Grammar Unicode

variable {p q : Piece} {ps qs : List Piece} {a a' b b' s : List Char} {c : Char} {ks ks' cs cs' : List Capture}

theorem run_unique {r : Char → Bool} (ha : ∀ c ∈ a, r c = true) (ha' : ∀ c ∈ a', r c = true)
    (hb : ∀ c ∈ b.head?, r c = false) (hb' : ∀ c ∈ b'.head?, r c = false) (h : a ++ b = a' ++ b') : a = a' := by
  have htake : ∀ {a b : List Char}, (∀ c ∈ a, r c = true) → (∀ c ∈ b.head?, r c = false) →
      (a ++ b).takeWhile r = a := by
    intro a b ha hb
    rw [List.takeWhile_append_of_pos ha]
    cases b with
    | nil => exact List.append_nil a
    | cons c b => rw [List.takeWhile_cons, hb c rfl, if_neg Bool.false_ne_true, List.append_nil]
  rw [← htake ha hb, h, htake ha' hb']

namespace Piece

def prefixFree : Piece → Bool
  | word choices => choices.all fun v => choices.all fun w => v == w || !v.toList.isPrefixOf w.toList
  | _ => true

/-- Where a text of the piece ends can be told from what comes after it. -/
def settled (ps : List Piece) (p : Piece) : Bool := p.prefixFree && p.swallows.apart (Prompt.starts ps)

/-- Both pieces are words, and no word of one is the front of a word of the other. -/
def unlike : Piece → Piece → Bool
  | word vs, word ws =>
    vs.all fun v => ws.all fun w => !v.toList.isPrefixOf w.toList && !w.toList.isPrefixOf v.toList
  | _, _ => false

def within (r : Ranges) : Piece → Bool
  | word choices => choices.all fun w => w.toList.all r.contains
  | number => false
  | p => p.swallows == r

theorem Fits.of_within {r : Ranges} (hp : p.within r = true) (h : p.Fits a ks) : ∀ c ∈ a, r.contains c = true := by
  intro c hc
  cases h with
  | word hw =>
    simp only [within, List.all_eq_true] at hp
    exact hp _ hw c hc
  | blanks h =>
    obtain rfl := beq_iff_eq.mp hp
    exact h.2 c hc
  | gap h =>
    obtain rfl := beq_iff_eq.mp hp
    exact h c hc
  | number h => cases hp
  | unit h =>
    obtain rfl := beq_iff_eq.mp hp
    exact (contains_letterRanges c).trans (h.2 c hc)
  | someUnit h =>
    obtain rfl := beq_iff_eq.mp hp
    exact (contains_letterRanges c).trans (h.2 c hc)
  | noUnit => cases hc

theorem Fits.kept_word {choices : List String} (h : (Piece.word choices).Fits a ks) : ks = [] := by
  cases h
  rfl

/-- A text of a piece is kept in one way only. -/
theorem Fits.kept_unique (h : p.Fits a ks) (h' : p.Fits a ks') : ks = ks' := by
  cases h with
  | word hw => exact h'.kept_word.symm
  | blanks h => cases h'; rfl
  | gap h => cases h'; rfl
  | number h => cases h'; rfl
  | unit h => cases h'; rfl
  | someUnit h =>
    cases h' with
    | someUnit h' => rfl
    | noUnit => exact absurd rfl h.1
  | noUnit =>
    cases h' with
    | someUnit h' => exact absurd rfl h'.1
    | noUnit => rfl

theorem Fits.text_unique (hp : p.prefixFree = true) (h : p.Fits a ks) (h' : p.Fits a' ks')
    (hb : ∀ c ∈ b.head?, p.swallows.contains c = false) (hb' : ∀ c ∈ b'.head?, p.swallows.contains c = false)
    (he : a ++ b = a' ++ b') : a = a' := by
  have hrun (hwithin : p.within p.swallows = true) : a = a' :=
    run_unique (h.of_within hwithin) (h'.of_within hwithin) hb hb' he
  cases p with
  | word choices =>
    cases h with
    | @word _ v hv =>
      cases h' with
      | @word _ w hw =>
        simp only [prefixFree, List.all_eq_true, Bool.or_eq_true, beq_iff_eq, Bool.not_eq_true',
          ← Bool.not_eq_true, List.isPrefixOf_iff_prefix] at hp
        have hfront : v.toList <+: w.toList ++ b' := he ▸ List.prefix_append _ _
        rcases List.prefix_or_prefix_of_prefix hfront (List.prefix_append _ _) with hvw | hwv
        · obtain rfl := (hp v hv w hw).resolve_right (not_not_intro hvw)
          rfl
        · obtain rfl := (hp w hw v hv).resolve_right (not_not_intro hwv)
          rfl
  | number =>
    cases h with
    | number h =>
      cases h' with
      | number h' =>
        have hread := number?_append h hb
        rw [he, number?_append h' hb'] at hread
        exact (Prod.mk.inj (Option.some.inj hread)).1.symm
  | blanks => exact hrun (by decide)
  | gap => exact hrun (by decide)
  | unit => exact hrun (by decide)
  | unitIfAny => exact hrun (by decide)

theorem Fits.unique (hps : p.settled ps = true) (hqs : p.settled qs = true) (h : p.Fits a ks) (h' : p.Fits a' ks')
    (hb : Prompt.Fits ps b cs) (hb' : Prompt.Fits qs b' cs') (he : a ++ b = a' ++ b') :
    a = a' ∧ ks = ks' ∧ b = b' := by
  obtain ⟨hp, hps⟩ := Bool.and_eq_true_iff.mp hps
  obtain ⟨-, hqs⟩ := Bool.and_eq_true_iff.mp hqs
  obtain rfl : a = a' := h.text_unique hp h' (hb.not_swallowed hps) (hb'.not_swallowed hqs) he
  exact ⟨rfl, h.kept_unique h', List.append_cancel_left he⟩

end Piece

/-- However a line is cut into texts of the pieces, the same is kept. -/
def Determined (ps : List Piece) : Prop := ∀ s cs cs', Fits ps s cs → Fits ps s cs' → cs = cs'

/-- No line can be cut into texts of both lists of pieces. -/
def Apart (ps qs : List Piece) : Prop := ∀ s cs cs', Fits ps s cs → ¬Fits qs s cs'

theorem determined_nil : Determined [] := by
  intro s cs cs' h h'
  cases h
  cases h'
  rfl

theorem Determined.cons (hp : p.settled ps = true) (h : Determined ps) : Determined (p :: ps) := by
  intro s cs cs' hs hs'
  obtain ⟨a, b, ks, ls, rfl, rfl, ha, hb⟩ := fits_cons.mp hs
  obtain ⟨a', b', ks', ls', ht, rfl, ha', hb'⟩ := fits_cons.mp hs'
  obtain ⟨rfl, rfl, rfl⟩ := ha.unique hp hp ha' hb hb' ht
  rw [h b ls ls' hb hb']

def settled : List Piece → Bool
  | [] => true
  | p :: ps => p.settled ps && settled ps

theorem determined_of_settled (h : settled ps = true) : Determined ps := by
  induction ps with
  | nil => exact determined_nil
  | cons p ps ih =>
    obtain ⟨hp, hps⟩ := Bool.and_eq_true_iff.mp h
    exact .cons hp (ih hps)

namespace Apart

theorem cons (hps : p.settled ps = true) (hqs : p.settled qs = true) (h : Apart ps qs) :
    Apart (p :: ps) (p :: qs) := by
  intro s cs cs' hs hs'
  obtain ⟨a, b, ks, ls, rfl, rfl, ha, hb⟩ := fits_cons.mp hs
  obtain ⟨a', b', ks', ls', ht, rfl, ha', hb'⟩ := fits_cons.mp hs'
  obtain ⟨-, -, rfl⟩ := ha.unique hps hqs ha' hb hb' ht
  exact h b ls ls' hb hb'

theorem runs (r : Ranges) (hp : p.within r = true) (hq : q.within r = true) (hps : r.apart (starts ps) = true)
    (hqs : r.apart (starts qs) = true) (h : Apart ps qs) : Apart (p :: ps) (q :: qs) := by
  have hstop : ∀ {ps : List Piece} {b cs}, r.apart (starts ps) = true → Fits ps b cs →
      ∀ c ∈ b.head?, r.contains c = false := by
    intro ps b cs hps hb c hc
    obtain ⟨t, rfl⟩ := List.head?_eq_some_iff.mp hc
    by_contra hin
    rw [Bool.not_eq_false] at hin
    cases hb.starts.symm.trans (Ranges.contains_eq_false_of_apart hps hin)
  intro s cs cs' hs hs'
  obtain ⟨a, b, ks, ls, rfl, rfl, ha, hb⟩ := fits_cons.mp hs
  obtain ⟨a', b', ks', ls', ht, rfl, ha', hb'⟩ := fits_cons.mp hs'
  obtain rfl : a = a' := run_unique (ha.of_within hp) (ha'.of_within hq) (hstop hps hb) (hstop hqs hb') ht
  obtain rfl := List.append_cancel_left ht
  exact h b ls ls' hb hb'

theorem of_starts (h : (starts ps).apart (starts qs) = true) (hne : ps.all Piece.optional = false) :
    Apart ps qs := by
  have hnonempty : ∀ {ps : List Piece} {s cs}, Fits ps s cs → s = [] → ps.all Piece.optional = true := by
    intro ps s cs hs
    induction hs with
    | nil => exact fun _ => rfl
    | cons ha _ ih =>
      intro hnil
      obtain ⟨rfl, rfl⟩ := List.append_eq_nil_iff.mp hnil
      rw [List.all_cons, ha.optional, ih rfl, Bool.and_true]
  intro s cs cs' hs hs'
  cases s with
  | nil => cases hne.symm.trans (hnonempty hs rfl)
  | cons c s => cases hs'.starts.symm.trans (Ranges.contains_eq_false_of_apart h hs.starts)

theorem of_unlike (h : p.unlike q = true) : Apart (p :: ps) (q :: qs) := by
  intro s cs cs' hs hs'
  obtain ⟨a, b, ks, ls, rfl, rfl, ha, hb⟩ := fits_cons.mp hs
  obtain ⟨a', b', ks', ls', ht, rfl, ha', hb'⟩ := fits_cons.mp hs'
  cases ha with
  | @word vs v hv =>
    cases ha' with
    | @word ws w hw =>
      simp only [Piece.unlike, List.all_eq_true, Bool.and_eq_true, Bool.not_eq_true', ← Bool.not_eq_true,
        List.isPrefixOf_iff_prefix] at h
      obtain ⟨hvw, hwv⟩ := h v hv w hw
      have hfront : w.toList <+: v.toList ++ b := ht ▸ List.prefix_append _ _
      rcases List.prefix_or_prefix_of_prefix hfront (List.prefix_append _ _) with hprefix | hprefix
      · exact hwv hprefix
      · exact hvw hprefix
    | _ => cases h
  | _ => cases h

end Apart

/-- Whether the texts of two pieces end in the same place because both are runs of one class, as the texts of a unit
and of a word are. -/
def Piece.endsWith (ps qs : List Piece) (p q : Piece) : Bool :=
  [p.swallows, q.swallows].any fun r =>
    p.within r && q.within r && r.apart (Prompt.starts ps) && r.apart (Prompt.starts qs)

/-- Whether pieces can be told from others by how they begin, or else by what comes after a text of both. -/
def tellsApart : List Piece → List Piece → Bool
  | p :: ps, q :: qs =>
    (starts (p :: ps)).apart (starts (q :: qs)) && !(p :: ps).all Piece.optional || p.unlike q ||
      (p = q && p.settled ps && p.settled qs || p.endsWith ps qs q) && tellsApart ps qs
  | _, _ => false

theorem apart_of_tellsApart (h : tellsApart ps qs = true) : Apart ps qs := by
  induction ps generalizing qs with
  | nil => cases h
  | cons p ps ih =>
    cases qs with
    | nil => cases h
    | cons q qs =>
      simp only [tellsApart, Bool.or_eq_true, Bool.and_eq_true, Bool.not_eq_true', decide_eq_true_eq] at h
      obtain (⟨hstarts, hne⟩ | hunlike) | ⟨⟨⟨rfl, hps⟩, hqs⟩ | hends, hrest⟩ := h
      · exact .of_starts hstarts hne
      · exact .of_unlike hunlike
      · exact .cons hps hqs (ih hrest)
      · obtain ⟨r, -, hr⟩ := List.any_eq_true.mp hends
        simp only [Bool.and_eq_true] at hr
        obtain ⟨⟨⟨hp, hq⟩, hps⟩, hqs⟩ := hr
        exact .runs r hp hq hps hqs (ih hrest)

/-- A unit that may be left out before blanks is there, or the blanks before and after it are one run of blanks. -/
theorem fits_unitIfAny_cases (h : Fits (.gap :: .unitIfAny :: .blanks :: ps) s cs) :
    Fits (.gap :: .unit :: .blanks :: ps) s cs ∨ ∃ ls, cs = .unit none :: ls ∧ Fits (.blanks :: ps) s ls := by
  obtain ⟨a, b, ks, cs, rfl, rfl, ha, hb⟩ := fits_cons.mp h
  obtain ⟨u, t, ls, cs, rfl, rfl, hu, ht⟩ := fits_cons.mp hb
  cases hu with
  | someUnit hu => exact .inl (.cons ha (.cons (.unit hu) ht))
  | noUnit =>
    right
    obtain ⟨g, r, ks', cs, rfl, rfl, hg, hr⟩ := fits_cons.mp ht
    cases ha with
    | gap ha =>
      cases hg with
      | blanks hg =>
        have hblanks : a ++ g ∈ Grammar.blanks :=
          ⟨List.append_ne_nil_of_right_ne_nil a hg.1, fun c hc => (List.mem_append.mp hc).elim (ha c) (hg.2 c)⟩
        have hfits := Fits.cons (.blanks hblanks) hr
        rw [List.append_assoc] at hfits
        exact ⟨cs, rfl, hfits⟩

/-- So it is determined whether the unit is there if lines with a unit are not lines without one. -/
theorem Determined.unitIfAny (hunit : Determined (.gap :: .unit :: .blanks :: ps)) (hnone : Determined (.blanks :: ps))
    (hapart : Apart (.gap :: .unit :: .blanks :: ps) (.blanks :: ps)) :
    Determined (.gap :: .unitIfAny :: .blanks :: ps) := by
  intro s cs cs' h h'
  rcases fits_unitIfAny_cases h with hs | ⟨ls, rfl, hs⟩
  · rcases fits_unitIfAny_cases h' with hs' | ⟨ls', rfl, hs'⟩
    · exact hunit s cs cs' hs hs'
    · exact absurd hs' (hapart s cs ls' hs)
  · rcases fits_unitIfAny_cases h' with hs' | ⟨ls', rfl, hs'⟩
    · exact absurd hs (hapart s cs' ls hs')
    · rw [hnone s ls ls' hs hs']

/-- Whether what is kept is the same however a line is cut. Before blanks, a unit that may be left out must not be like
what comes after the blanks. -/
def cutsOnce : List Piece → Bool
  | .gap :: .unitIfAny :: .blanks :: ps =>
    settled (.gap :: .unit :: .blanks :: ps) && tellsApart (.gap :: .unit :: .blanks :: ps) (.blanks :: ps)
  | p :: ps => p.settled ps && cutsOnce ps
  | [] => true

theorem determined_of_cutsOnce (h : cutsOnce ps = true) : Determined ps := by
  fun_induction cutsOnce ps with
  | case1 ps =>
    obtain ⟨hsettled, happart⟩ := Bool.and_eq_true_iff.mp h
    obtain ⟨-, htail⟩ := Bool.and_eq_true_iff.mp hsettled
    obtain ⟨-, hblanks⟩ := Bool.and_eq_true_iff.mp htail
    exact .unitIfAny (determined_of_settled hsettled) (determined_of_settled hblanks) (apart_of_tellsApart happart)
  | case2 p ps _ ih =>
    obtain ⟨hp, hps⟩ := Bool.and_eq_true_iff.mp h
    exact .cons hp (ih hps)
  | case3 => exact determined_nil

end PromptCad.Prompt
