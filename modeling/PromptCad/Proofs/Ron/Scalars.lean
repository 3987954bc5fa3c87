import PromptCad.Proofs.Ron.Reads

/-! Values that hold no other values are read back: natural numbers, finite floats, and strings of any characters. -/

namespace PromptCad.Ron

open Reader
open Decimal (isDigit natChars plainWithPoint signed isDigit_iff digitValue_lt ne_of_isDigit)

theorem hexValue?_of_isDigit {c : Char} (h : isDigit c = true) : Text.hexValue? c = some (Decimal.digitValue c) := by
  have hrange : (decide ('0' ≤ c) && decide (c ≤ '9')) = true := h
  rw [Text.hexValue?, if_pos hrange]
  rfl

theorem startsValue_of_isDigit {c : Char} (h : isDigit c = true) : startsValue c = true := by
  have hblank : isBlank c = false := by
    simp [isBlank, ne_of_isDigit h (d := ' ') (by decide), ne_of_isDigit h (d := '\t') (by decide),
      ne_of_isDigit h (d := '\n') (by decide), ne_of_isDigit h (d := '\r') (by decide)]
  simp [startsValue, hblank, ne_of_isDigit h (d := '/') (by decide), ne_of_isDigit h (d := ']') (by decide)]

theorem readDigits?_of_isDigit {ds : List Char} (h : ∀ c ∈ ds, isDigit c = true) :
    readDigits? 10 ds = some (Decimal.readDigits ds) := by
  have hfilter : ds.filter (· ≠ '_') = ds := by
    rw [List.filter_eq_self]
    intro c hc
    rw [decide_eq_true_eq]
    exact ne_of_isDigit (h c hc) (by decide)
  rw [readDigits?, hfilter, Decimal.readDigits]
  generalize 0 = n
  induction ds generalizing n with
  | nil => rfl
  | cons c ds ih =>
    obtain ⟨hc, hds⟩ := List.forall_mem_cons.mp h
    have hfilter' : ds.filter (· ≠ '_') = ds := by
      rw [List.filter_cons] at hfilter
      split at hfilter
      · exact (List.cons.inj hfilter).2
      · next hno => simp [ne_of_isDigit hc (d := '_') (by decide)] at hno
    rw [List.foldlM_cons, List.foldl_cons, ← ih hds hfilter', hexValue?_of_isDigit hc]
    simp [digitValue_lt hc]

theorem splitBase_of_isDigit {ds rest : List Char} (hds : ∀ c ∈ ds, isDigit c = true) (hne : ds ≠ [])
    (hrest : Follows rest) : splitBase (ds ++ rest) = (10, ds ++ rest) := by
  have hsecond : ∀ c s, ds ++ rest = '0' :: c :: s → c ≠ 'x' ∧ c ≠ 'b' ∧ c ≠ 'o' := by
    intro c s h
    obtain ⟨d, ds, rfl⟩ := List.exists_cons_of_ne_nil hne
    cases ds with
    | nil =>
      obtain ⟨-, rfl⟩ := List.cons.inj h
      obtain rfl | rfl := hrest c rfl <;> decide
    | cons e ds =>
      obtain rfl : e = c := (List.cons.inj (List.cons.inj h).2).1
      have he := hds e (by simp)
      exact ⟨ne_of_isDigit he (by decide), ne_of_isDigit he (by decide), ne_of_isDigit he (by decide)⟩
  unfold splitBase
  split
  · next heq => exact absurd rfl (hsecond _ _ heq).1
  · next heq => exact absurd rfl (hsecond _ _ heq).2.1
  · next heq => exact absurd rfl (hsecond _ _ heq).2.2
  · rfl

theorem reads_natural {n bound : Nat} (h : n ≤ bound) : Reads (natural bound) (natChars n) n := by
  have hdigits : ∀ c ∈ natChars n, isDigit c = true := Decimal.isDigit_of_mem_natChars
  obtain ⟨c, s, hlist⟩ := List.exists_cons_of_ne_nil (Decimal.natChars_ne_nil n)
  have hc : isDigit c = true := hdigits c (by rw [hlist]; exact List.mem_cons_self)
  refine ⟨⟨c, s, hlist, startsValue_of_isDigit hc⟩, fun rest hrest => run_ofSplit ?_⟩
  have hinteger : ∀ c ∈ natChars n, isIntegerChar c = true := by
    intro c hc
    simp [isIntegerChar, hexValue?_of_isDigit (hdigits c hc)]
  obtain ⟨htake, hdrop⟩ := takeWhile_append_of_stop hinteger
    (hrest.not_of_head (p := isIntegerChar) (by decide) (by decide))
  have hfirst : ¬(natChars n = [] ∨ (natChars n).head? = some '_') := by
    rintro (he | he)
    · exact Decimal.natChars_ne_nil n he
    · rw [hlist] at he
      exact ne_of_isDigit hc (by decide) (Option.some.inj he)
  simp only [natural?, splitBase_of_isDigit hdigits (Decimal.natChars_ne_nil n) hrest, htake, hdrop, if_neg hfirst,
    readDigits?_of_isDigit hdigits, Decimal.readDigits_natChars, bind, Option.bind, if_pos h]

theorem run_acceptWordOf_none {α : Type} {words : List (String × α)} {s : List Char}
    (h : ∀ w ∈ words, ¬w.1.toList <+: s) : (acceptWordOf words).run s = .ok (none, s) := by
  induction words with
  | nil => rfl
  | cons w words ih =>
    obtain ⟨hw, hwords⟩ := List.forall_mem_cons.mp h
    have haccept : (acceptWord w.1).run s = .ok (false, s) := by
      have hprefix : w.1.toList.isPrefixOf s = false := by
        rw [Bool.eq_false_iff, ne_eq, List.isPrefixOf_iff_prefix]
        exact hw
      simp only [acceptWord]
      rw [run_get_bind, hprefix, Bool.false_and, if_neg Bool.false_ne_true, run_pure_eq]
    rw [acceptWordOf, run_bind_of haccept]
    exact ih hwords

/-- No special float is spelled with a digit in front, be it after a sign or not. -/
theorem not_special {c : Char} (hc : isDigit c = true) (s : List Char) :
    ∀ w ∈ specials, ¬w.1.toList <+: c :: s ∧ ¬w.1.toList <+: '-' :: c :: s := by
  have hspecials : specials.all
      (fun w => (w.1.toList.take 2).length = 2 && (w.1.toList.take 2).all (!isDigit ·)) = true := by
    decide
  rw [List.all_eq_true] at hspecials
  intro w hw
  have hfront := hspecials w hw
  generalize w.1.toList = word at hfront
  rw [Bool.and_eq_true, decide_eq_true_eq, List.all_eq_true] at hfront
  obtain ⟨hlen, hdigits⟩ := hfront
  match word, hlen with
  | a :: b :: rest, _ =>
    have ha : isDigit a = false := by simpa using hdigits a (by simp)
    have hb : isDigit b = false := by simpa using hdigits b (by simp)
    constructor <;> intro hp
    · obtain rfl : a = c := (List.cons_prefix_cons.mp hp).1
      exact Bool.false_ne_true (ha.symm.trans hc)
    · obtain rfl : b = c := (List.cons_prefix_cons.mp (List.cons_prefix_cons.mp hp).2).1
      exact Bool.false_ne_true (hb.symm.trans hc)

theorem isRealChar_of_isDigit {c : Char} (h : isDigit c = true) : isRealChar c = true := by
  obtain ⟨h1, h2⟩ := isDigit_iff.mp h
  simp [isRealChar, h1, h2]

theorem isRealChar_of_mem_plainWithPoint {x : Float} (h : x.isFinite = true) :
    ∀ c ∈ plainWithPoint x, isRealChar c = true := by
  obtain ⟨whole, places, -, hdigits, htext⟩ := Decimal.plainWithPoint_cases h
  have hbody : ∀ d ∈ whole ++ '.' :: places, isRealChar d = true := by
    intro d hd
    rcases List.mem_append.mp hd with hd | hd
    · exact isRealChar_of_isDigit (hdigits d (List.mem_append_left _ hd))
    · rcases List.mem_cons.mp hd with rfl | hd
      · decide
      · exact isRealChar_of_isDigit (hdigits d (List.mem_append_right _ hd))
  rw [htext, signed]
  split
  · exact List.forall_mem_cons.mpr ⟨by decide, hbody⟩
  · exact hbody

theorem reads_real {x : Float} (h : x.isFinite = true) : Reads real (plainWithPoint x) x := by
  obtain ⟨whole, places, hne, hdigits, htext⟩ := Decimal.plainWithPoint_cases h
  obtain ⟨c, whole, rfl⟩ := List.exists_cons_of_ne_nil hne
  have hc : isDigit c = true := hdigits c (by simp)
  have hstarts : Starts (plainWithPoint x) := by
    rw [htext, signed]
    split
    · exact ⟨'-', _, rfl, by decide⟩
    · exact ⟨c, _, rfl, startsValue_of_isDigit hc⟩
  refine ⟨hstarts, fun rest hrest => ?_⟩
  have hspecial : acceptSpecial.run (plainWithPoint x ++ rest) = .ok (none, plainWithPoint x ++ rest) := by
    apply run_acceptWordOf_none
    intro w hw
    rw [htext, signed]
    split
    · exact (not_special hc _ w hw).2
    · exact (not_special hc _ w hw).1
  obtain ⟨htake, hdrop⟩ := takeWhile_append_of_stop (isRealChar_of_mem_plainWithPoint h)
    (hrest.not_of_head (p := isRealChar) (by decide) (by decide))
  rw [real, run_bind_of hspecial]
  apply run_ofSplit
  rw [literal?, htake, hdrop, Decimal.read?_plainWithPoint h]
  rfl

theorem reads_text (s : String) : Reads text (quote s.toList) s := by
  refine ⟨⟨'"', _, rfl, by decide⟩, fun rest _ => ?_⟩
  rw [text, run_bind_of (run_ofSplit (string?_quote s.toList rest)), String.ofList_toList, run_pure_eq]

end PromptCad.Ron
