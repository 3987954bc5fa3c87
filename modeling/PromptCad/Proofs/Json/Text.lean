import Mathlib.Tactic.SplitIfs
import PromptCad.Json.Text
import PromptCad.Proofs.Text.Hex

/-! A string of JSON is read back from its quotes: each character from the way it is written, whether it is escaped or
not. -/

namespace PromptCad.Json

open Text (hexPadded readHex?)

/-- A character is written as itself, by a backslash and a letter, or by its number. -/
theorem escape_cases (c : Char) :
    (escape c = [c] ∧ c ≠ '"' ∧ c ≠ '\\' ∧ ¬c < ' ') ∨
      (∃ d, escape c = ['\\', d] ∧ d ≠ 'u' ∧ escaped? d = some c) ∨
      (escape c = '\\' :: 'u' :: hexPadded 4 c.toNat ∧ c < ' ') := by
  unfold escape
  split_ifs with hquote hslash hb hf hn hr ht hcontrol
  · exact .inr (.inl ⟨'"', rfl, by decide, congrArg some hquote.symm⟩)
  · exact .inr (.inl ⟨'\\', rfl, by decide, congrArg some hslash.symm⟩)
  · exact .inr (.inl ⟨'b', rfl, by decide, congrArg some hb.symm⟩)
  · exact .inr (.inl ⟨'f', rfl, by decide, congrArg some hf.symm⟩)
  · exact .inr (.inl ⟨'n', rfl, by decide, congrArg some hn.symm⟩)
  · exact .inr (.inl ⟨'r', rfl, by decide, congrArg some hr.symm⟩)
  · exact .inr (.inl ⟨'t', rfl, by decide, congrArg some ht.symm⟩)
  · exact .inr (.inr ⟨rfl, hcontrol⟩)
  · exact .inl ⟨rfl, hquote, hslash, hcontrol⟩

def before (c : Char) (p : List Char × List Char) : List Char × List Char := (c :: p.1, p.2)

theorem unquote?_plain {c : Char} (hquote : c ≠ '"') (hslash : c ≠ '\\') (hcontrol : ¬c < ' ') (s : List Char) :
    unquote? (c :: s) = (unquote? s).map (before c) := by
  rw [unquote?]
  · simp [hslash, hcontrol]
    rfl
  all_goals simp_all

theorem unquote?_short {c d : Char} (hd : d ≠ 'u') (hc : escaped? d = some c) (s : List Char) :
    unquote? ('\\' :: d :: s) = (unquote? s).map (before c) := by
  rw [unquote?]
  · rw [hc]
    rfl
  all_goals simp_all

theorem unquote?_number {c : Char} (hc : c < ' ') (s : List Char) :
    unquote? ('\\' :: 'u' :: hexPadded 4 c.toNat ++ s) = (unquote? s).map (before c) := by
  have hlt : c.toNat < 32 := hc
  have hread : readHex? (hexPadded 4 c.toNat) = some c.toNat := Text.readHex?_hexPadded (by omega)
  obtain ⟨c1, c2, c3, c4, hdigits⟩ : ∃ c1 c2 c3 c4, hexPadded 4 c.toNat = [c1, c2, c3, c4] := ⟨_, _, _, _, rfl⟩
  have htrailing : isTrailing c.toNat = false := by simp [isTrailing]; omega
  have hleading : isLeading c.toNat = false := by simp [isLeading]; omega
  rw [hdigits] at hread ⊢
  show unquote? ('\\' :: 'u' :: c1 :: c2 :: c3 :: c4 :: s) = _
  rw [unquote?, hread]
  simp only [htrailing, hleading, Char.ofNat_toNat]
  rfl

theorem unquote?_escape (c : Char) (s : List Char) : unquote? (escape c ++ s) = (unquote? s).map (before c) := by
  obtain ⟨hc, hquote, hslash, hcontrol⟩ | ⟨d, hc, hd, hescaped⟩ | ⟨hc, hcontrol⟩ := escape_cases c
  · rw [hc]
    exact unquote?_plain hquote hslash hcontrol s
  · rw [hc]
    exact unquote?_short hd hescaped s
  · rw [hc]
    exact unquote?_number hcontrol s

theorem unquote?_flatMap_escape (cs rest : List Char) :
    unquote? (cs.flatMap escape ++ '"' :: rest) = some (cs, rest) := by
  induction cs with
  | nil => rfl
  | cons c cs ih =>
    rw [List.flatMap_cons, List.append_assoc, unquote?_escape, ih]
    rfl

end PromptCad.Json
