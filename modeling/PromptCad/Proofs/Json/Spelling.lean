import PromptCad.Json.Reader
import PromptCad.Proofs.Float.Text
import PromptCad.Proofs.Reader.Run

/-! Numbers of JSON as they are spelled. A spelling is read back from its text, and its number is that of its digits,
point or no point, times a power of ten. -/

namespace PromptCad.Json

open Decimal (isDigit readDigits ne_of_isDigit)
open Reader

def endsValue (c : Char) : Bool := isBlank c || c = ',' || c = ']' || c = '\x7d'

def Follows (rest : List Char) : Prop := ∀ c ∈ rest.head?, endsValue c = true

theorem Follows.ne {rest : List Char} (h : Follows rest) {c : Char} (hc : endsValue c = false) : rest.head? ≠ some c :=
  fun hhead => Bool.false_ne_true (hc.symm.trans (h c hhead))

theorem Follows.not_isDigit {rest : List Char} (h : Follows rest) : ∀ c ∈ rest.head?, isDigit c = false := by
  intro c hc
  by_contra hdigit
  rw [Bool.not_eq_false] at hdigit
  have hends := h c hc
  simp [endsValue, isBlank, ne_of_isDigit hdigit (d := ' ') (by decide), ne_of_isDigit hdigit (d := '\t') (by decide),
    ne_of_isDigit hdigit (d := '\n') (by decide), ne_of_isDigit hdigit (d := '\r') (by decide),
    ne_of_isDigit hdigit (d := ',') (by decide), ne_of_isDigit hdigit (d := ']') (by decide),
    ne_of_isDigit hdigit (d := '\x7d') (by decide)] at hends

def exponentChars (exponent : Option (Bool × List Char)) : List Char :=
  exponent.elim [] fun e => 'e' :: (if e.1 then '-' else '+') :: e.2

namespace Spelling

/-- All digits of a number, the point left out. -/
def mantissa (s : Spelling) : ℕ := readDigits (s.whole ++ s.places.getD [])

def power (s : Spelling) : ℤ :=
  let (below, ds) := s.exponent.getD (false, [])
  if below then -((s.places.getD []).length : ℤ) - readDigits ds else -((s.places.getD []).length : ℤ) + readDigits ds

def chars (s : Spelling) : List Char :=
  (if s.minus then ['-'] else []) ++ (s.whole ++ (s.places.elim [] ('.' :: ·) ++ exponentChars s.exponent))

structure Sound (s : Spelling) : Prop where
  whole : s.whole ≠ [] ∧ ∀ c ∈ s.whole, isDigit c = true
  leading : s.whole.head? = some '0' → s.whole.length = 1
  places : ∀ ds ∈ s.places, ds ≠ [] ∧ ∀ c ∈ ds, isDigit c = true
  exponent : ∀ e ∈ s.exponent, e.2 ≠ [] ∧ ∀ c ∈ e.2, isDigit c = true

end Spelling

theorem run_digits {ds rest : List Char} (hne : ds ≠ []) (hds : ∀ c ∈ ds, isDigit c = true)
    (hrest : ∀ c ∈ rest.head?, isDigit c = false) : digits.run (ds ++ rest) = .ok (ds, rest) := by
  rw [digits, run_bind_of (run_takeWhile hds hrest), if_neg hne, run_pure_eq]

theorem run_some_digits {ds rest : List Char} (hne : ds ≠ []) (hds : ∀ c ∈ ds, isDigit c = true)
    (hrest : ∀ c ∈ rest.head?, isDigit c = false) :
    (some <$> digits).run (ds ++ rest) = .ok (some ds, rest) := by
  rw [map_eq_pure_bind, run_bind_of (run_digits hne hds hrest), run_pure_eq]

theorem run_readExponent {e : Bool × List Char} {rest : List Char} (hne : e.2 ≠ []) (hds : ∀ c ∈ e.2, isDigit c = true)
    (hrest : ∀ c ∈ rest.head?, isDigit c = false) :
    readExponent.run ((if e.1 then '-' else '+') :: (e.2 ++ rest)) = .ok (e, rest) := by
  obtain ⟨below, ds⟩ := e
  have hdigits : digits.run (ds ++ rest) = .ok (ds, rest) := run_digits hne hds hrest
  rw [readExponent]
  cases below with
  | true =>
    rw [if_pos rfl, run_bind_of (run_acceptChar_self '-' _), if_neg (by decide), run_bind_of hdigits, run_pure_eq]
  | false =>
    have hplus : (discard (acceptChar '+')).run ('+' :: (ds ++ rest)) = .ok ((), ds ++ rest) := rfl
    rw [if_neg Bool.false_ne_true, run_bind_of (run_acceptChar_of_ne (by simp)), if_pos (by decide), run_bind_of hplus,
      run_bind_of hdigits, run_pure_eq]

def exponentPart (minus : Bool) (whole : List Char) (places : Option (List Char)) : Reader Spelling := do
  let marked ← if ← acceptChar 'e' then pure true else acceptChar 'E'
  let exponent ← if marked then some <$> readExponent else pure none
  return ⟨minus, whole, places, exponent⟩

def placesPart (minus : Bool) (whole : List Char) : Reader Spelling := do
  let places ← if ← acceptChar '.' then some <$> digits else pure none
  exponentPart minus whole places

theorem spelling_eq : spelling = (do
    let minus ← acceptChar '-'
    let whole ← digits
    if whole.head? = some '0' && 1 < whole.length then fail
    placesPart minus whole) := rfl

section Parts

variable {minus : Bool} {whole : List Char} {places : Option (List Char)} {exponent : Option (Bool × List Char)}
  {rest : List Char}

theorem run_exponentPart (h : ∀ e ∈ exponent, e.2 ≠ [] ∧ ∀ c ∈ e.2, isDigit c = true) (hrest : Follows rest) :
    (exponentPart minus whole places).run (exponentChars exponent ++ rest) =
      .ok (⟨minus, whole, places, exponent⟩, rest) := by
  rw [exponentPart]
  cases exponent with
  | none =>
    show StateT.run _ rest = _
    rw [run_bind_of (run_acceptChar_of_ne (hrest.ne (by decide))), if_neg Bool.false_ne_true,
      run_bind_of (run_acceptChar_of_ne (hrest.ne (by decide)))]
    rfl
  | some e =>
    obtain ⟨hne, hds⟩ := h e rfl
    have hexponent : (some <$> readExponent).run ((if e.1 then '-' else '+') :: (e.2 ++ rest)) =
        .ok (some e, rest) := by
      rw [map_eq_pure_bind, run_bind_of (run_readExponent hne hds hrest.not_isDigit), run_pure_eq]
    show StateT.run _ ('e' :: (if e.1 then '-' else '+') :: (e.2 ++ rest)) = _
    rw [run_bind_of (run_acceptChar_self 'e' _), if_pos rfl, run_bind_of (run_pure_eq true _)]
    show (some <$> readExponent >>= fun exponent => (pure ⟨minus, whole, places, exponent⟩ : Reader Spelling)).run _ = _
    rw [run_bind_of hexponent, run_pure_eq]

theorem exponentChars_head (h : ∀ e ∈ exponent, e.2 ≠ [] ∧ ∀ c ∈ e.2, isDigit c = true) (hrest : Follows rest) :
    ∀ c ∈ (exponentChars exponent ++ rest).head?, isDigit c = false ∧ c ≠ '.' := by
  cases exponent with
  | none =>
    exact fun c hc => ⟨hrest.not_isDigit c hc, fun hpoint => hrest.ne (c := '.') (by decide) (hpoint ▸ hc)⟩
  | some e =>
    rintro c ⟨⟩
    decide

theorem run_placesPart (hplaces : ∀ ds ∈ places, ds ≠ [] ∧ ∀ c ∈ ds, isDigit c = true)
    (h : ∀ e ∈ exponent, e.2 ≠ [] ∧ ∀ c ∈ e.2, isDigit c = true) (hrest : Follows rest) :
    (placesPart minus whole).run (places.elim [] ('.' :: ·) ++ (exponentChars exponent ++ rest)) =
      .ok (⟨minus, whole, places, exponent⟩, rest) := by
  have hhead := exponentChars_head h hrest
  rw [placesPart]
  cases places with
  | none =>
    show StateT.run _ (exponentChars exponent ++ rest) = _
    rw [run_bind_of (run_acceptChar_of_ne fun hpoint => (hhead _ hpoint).2 rfl), if_neg Bool.false_ne_true]
    exact run_exponentPart h hrest
  | some ds =>
    obtain ⟨hne, hds⟩ := hplaces ds rfl
    show StateT.run _ ('.' :: (ds ++ (exponentChars exponent ++ rest))) = _
    rw [run_bind_of (run_acceptChar_self '.' _), if_pos rfl,
      run_bind_of (run_some_digits hne hds fun c hc => (hhead c hc).1)]
    exact run_exponentPart h hrest

end Parts

theorem run_spelling {s : Spelling} (hs : s.Sound) {rest : List Char} (hrest : Follows rest) :
    spelling.run (s.chars ++ rest) = .ok (s, rest) := by
  obtain ⟨minus, whole, places, exponent⟩ := s
  obtain ⟨⟨hne, hwhole⟩, hleading, hplaces, hexponent⟩ := hs
  have htext : Spelling.chars ⟨minus, whole, places, exponent⟩ ++ rest =
      (if minus then ['-'] else []) ++ (whole ++ (places.elim [] ('.' :: ·) ++ (exponentChars exponent ++ rest))) := by
    simp only [Spelling.chars, List.append_assoc]
  have hminus : (acceptChar '-').run (Spelling.chars ⟨minus, whole, places, exponent⟩ ++ rest) =
      .ok (minus, whole ++ (places.elim [] ('.' :: ·) ++ (exponentChars exponent ++ rest))) := by
    rw [htext]
    cases minus with
    | true => exact run_acceptChar_self '-' _
    | false =>
      refine run_acceptChar_of_ne ?_
      obtain ⟨c, cs, rfl⟩ := List.exists_cons_of_ne_nil hne
      intro hc
      exact ne_of_isDigit (hwhole c List.mem_cons_self) (by decide : isDigit '-' = false) (Option.some.inj hc)
  have hhead : ∀ c ∈ (places.elim [] ('.' :: ·) ++ (exponentChars exponent ++ rest)).head?, isDigit c = false := by
    cases places with
    | none => exact fun c hc => (exponentChars_head hexponent hrest c hc).1
    | some ds =>
      rintro c ⟨⟩
      decide
  have hzero : ¬(whole.head? = some '0' && 1 < whole.length) = true := by
    rw [Bool.and_eq_true, decide_eq_true_eq, decide_eq_true_eq]
    rintro ⟨hc, hlt⟩
    exact absurd (hleading hc) hlt.ne'
  rw [spelling_eq, run_bind_of hminus, run_bind_of (run_digits hne hwhole hhead), if_neg hzero]
  exact run_placesPart hplaces hexponent hrest

theorem keep_eq {n : ℕ} {ds : List Char} (h : n * 10 ^ ds.length + readDigits ds ≤ greatestNatural) :
    keep n ds = (n * 10 ^ ds.length + readDigits ds, ds.length) := by
  induction ds generalizing n with
  | nil => simp [keep, readDigits]
  | cons c ds ih =>
    have hsum : n * 10 ^ (c :: ds).length + readDigits (c :: ds) =
        (10 * n + Decimal.digitValue c) * 10 ^ ds.length + readDigits ds := by
      rw [Decimal.readDigits_cons, List.length_cons, Nat.pow_succ]
      ring
    rw [hsum] at h ⊢
    have hfits : 10 * n + Decimal.digitValue c ≤ greatestNatural :=
      ((Nat.le_mul_of_pos_right _ (Nat.pow_pos (by decide))).trans (Nat.le_add_right _ _)).trans h
    simp only [keep, if_pos hfits, ih h, List.length_cons]

/-- A number with a point or an exponent is its digits times its power of ten. -/
theorem Spelling.number?_eq {s : Spelling} (hs : s.places.isSome ∨ s.exponent.isSome)
    (hm : s.mantissa ≤ greatestNatural) (he : ∀ e ∈ s.exponent, readDigits e.2 ≤ greatestExponent) :
    s.number? = (scale 4 (Decimal.ofFraction false s.mantissa 1) s.power).map fun f =>
      .real (if s.minus then -f else f) := by
  obtain ⟨minus, whole, places, exponent⟩ := s
  have hmantissa : mantissa ⟨minus, whole, places, exponent⟩ =
      readDigits whole * 10 ^ (places.getD []).length + readDigits (places.getD []) := Decimal.readDigits_append_eq _ _
  rw [hmantissa] at hm ⊢
  have hwhole : keep 0 whole = (readDigits whole, whole.length) := by
    have hle : readDigits whole ≤ greatestNatural :=
      ((Nat.le_mul_of_pos_right _ (Nat.pow_pos (by decide))).trans (Nat.le_add_right _ _)).trans hm
    rw [keep_eq (by rwa [Nat.zero_mul, Nat.zero_add]), Nat.zero_mul, Nat.zero_add]
  have hplain : ¬(places.isNone = true ∧ exponent.isNone = true ∧ whole.length - whole.length = 0) := by
    rintro ⟨hp, he', -⟩
    rw [Option.isNone_iff_eq_none] at hp he'
    subst hp he'
    exact hs.elim Bool.false_ne_true Bool.false_ne_true
  have hexponent : ¬greatestExponent < readDigits (exponent.getD (false, [])).2 := by
    cases exponent with
    | none => decide
    | some e => exact Nat.not_lt.mpr (he e rfl)
  simp only [number?, hwhole, if_neg hplain, keep_eq hm, scaled?, if_neg hexponent]
  rw [Option.map_map, Nat.sub_self, Nat.cast_zero, zero_sub]
  rfl

end PromptCad.Json
