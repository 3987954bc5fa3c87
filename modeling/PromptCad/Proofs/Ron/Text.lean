import Mathlib.Tactic.SplitIfs
import PromptCad.Proofs.Text.Hex
import PromptCad.Ron.Text

/-! A string is read back from its quotes: each character from the way it is written, whether it shows or not. -/

namespace PromptCad.Ron

open Text (hexChars hexPadded readHex?)

theorem charOf?_toNat (c : Char) : charOf? c.toNat = some c := by
  have hvalid : c.toNat.isValidChar := c.valid
  rw [charOf?, if_pos hvalid, Char.ofNat_toNat]

theorem length_hexChars_toNat (c : Char) : 1 ≤ (hexChars c.toNat).length ∧ (hexChars c.toNat).length ≤ 6 := by
  have hlt : c.toNat < 2 ^ 21 := by
    have hvalid : c.toNat.isValidChar := c.valid
    unfold Nat.isValidChar at hvalid
    omega
  have hlog : c.toNat.log2 < 21 := by
    by_cases hz : c.toNat = 0
    · rw [hz]
      decide
    · exact (Nat.log2_lt hz).mpr hlt
  rw [hexChars, Text.length_hexPadded]
  omega

theorem escape?_code (c : Char) (s : List Char) :
    escape? ("u\x7b".toList ++ hexChars c.toNat ++ '\x7d' :: s) = some (c, s) := by
  obtain ⟨hpos, hlen⟩ := length_hexChars_toNat c
  have hne : ∀ d ∈ hexChars c.toNat, (decide (d ≠ '\x7d')) = true := by
    intro d hd
    have hsome := Text.isSome_hexValue?_of_mem_hexPadded hd
    rw [decide_eq_true_eq]
    rintro rfl
    exact absurd hsome (by decide)
  have htake : (hexChars c.toNat ++ '\x7d' :: s).takeWhile (· ≠ '\x7d') = hexChars c.toNat := by
    rw [List.takeWhile_append_of_pos hne, List.takeWhile_cons_of_neg (by decide), List.append_nil]
  have hempty : ¬(hexChars c.toNat = [] ∨ 6 < (hexChars c.toNat).length) := by
    rintro (h | h)
    · rw [h] at hpos
      cases hpos
    · omega
  show (escape? ('u' :: '\x7b' :: (hexChars c.toNat ++ '\x7d' :: s))) = _
  simp only [escape?, htake, if_neg hempty, Text.readHex?_hexChars, charOf?_toNat, List.drop_left, bind,
    Option.bind, pure]

theorem escape_cases (c : Char) :
    (escape c = [c] ∧ c ≠ '"' ∧ c ≠ '\\') ∨
      ∃ t, escape c = '\\' :: t ∧ ∀ s, escape? (t ++ s) = some (c, s) := by
  unfold escape
  split_ifs with h0 ht hr hn hquote hshown
  · exact .inr ⟨['0'], rfl, fun s => h0 ▸ rfl⟩
  · exact .inr ⟨['t'], rfl, fun s => ht ▸ rfl⟩
  · exact .inr ⟨['r'], rfl, fun s => hr ▸ rfl⟩
  · exact .inr ⟨['n'], rfl, fun s => hn ▸ rfl⟩
  · refine .inr ⟨[c], rfl, fun s => ?_⟩
    obtain rfl | rfl | rfl := hquote <;> rfl
  · exact .inl ⟨rfl, fun h => hquote (.inr (.inl h)), fun h => hquote (.inr (.inr h))⟩
  · refine .inr ⟨"u\x7b".toList ++ hexChars c.toNat ++ ['\x7d'], rfl, fun s => ?_⟩
    rw [List.append_assoc, List.singleton_append]
    exact escape?_code c s

theorem unquote?_escape (fuel : Nat) (c : Char) (s : List Char) :
    unquote? (fuel + 1) (escape c ++ s) = (unquote? fuel s).map fun p => (c :: p.1, p.2) := by
  have hbind : (unquote? fuel s).map (fun p => (c :: p.1, p.2)) =
      (unquote? fuel s).bind fun p => some (c :: p.1, p.2) := by
    cases unquote? fuel s <;> rfl
  rw [hbind]
  obtain ⟨hc, hquote, hslash⟩ | ⟨t, hc, ht⟩ := escape_cases c
  · rw [hc, List.singleton_append, unquote?, if_neg hquote, if_neg hslash]
    rfl
  · rw [hc, List.cons_append, unquote?, if_neg (by decide), if_pos rfl, ht]
    rfl

theorem escape_ne_nil (c : Char) : escape c ≠ [] := by
  obtain ⟨hc, -⟩ | ⟨t, hc, -⟩ := escape_cases c <;> simp [hc]

theorem unquote?_flatMap_escape {fuel : Nat} {cs : List Char} (h : cs.length < fuel) (rest : List Char) :
    unquote? fuel (cs.flatMap escape ++ '"' :: rest) = some (cs, rest) := by
  induction cs generalizing fuel with
  | nil =>
    obtain ⟨fuel, rfl⟩ := Nat.exists_eq_add_of_lt h
    rfl
  | cons c cs ih =>
    cases fuel with
    | zero => cases h
    | succ fuel =>
      rw [List.flatMap_cons, List.append_assoc, unquote?_escape, ih (Nat.lt_of_succ_lt_succ h)]
      rfl

theorem length_le_flatMap_escape (cs : List Char) : cs.length ≤ (cs.flatMap escape).length := by
  induction cs with
  | nil => exact Nat.le_refl _
  | cons c cs ih =>
    have hpos := List.length_pos_iff.mpr (escape_ne_nil c)
    rw [List.flatMap_cons, List.length_append, List.length_cons]
    omega

theorem string?_quote (cs rest : List Char) : string? (quote cs ++ rest) = some (cs, rest) := by
  have hlist : quote cs ++ rest = '"' :: (cs.flatMap escape ++ '"' :: rest) := by simp [quote]
  have hlen := length_le_flatMap_escape cs
  rw [hlist, string?]
  refine unquote?_flatMap_escape ?_ rest
  rw [List.length_append]
  omega

end PromptCad.Ron
