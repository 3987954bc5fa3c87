import PromptCad.Proofs.Json.Layout
import PromptCad.Proofs.Json.Number
import PromptCad.Proofs.Json.Text

/-! What is written as JSON is read back in any layout: numbers, strings, lists and objects. A reader reads a text as a
value when it takes just that text and the blanks before it, as long as a value may end there. -/

namespace PromptCad.Json

open Decimal (isDigit ne_of_isDigit natChars)
open Reader

variable {α β σ : Type}

/-- A character that a value may start with; a list does not end with it. -/
def startsValue (c : Char) : Bool := !isBlank c && c ≠ ']' && c ≠ '}'

def Starts (t : List Char) : Prop := ∃ c s, t = c :: s ∧ startsValue c = true

structure Reads (r : Reader α) (t : List Char) (a : α) : Prop where
  starts : Starts t
  run : ∀ gap rest, Blank gap → Follows rest → r.run (gap ++ (t ++ rest)) = .ok (a, rest)

theorem Reads.run_at {r : Reader α} {t : List Char} {a : α} (h : Reads r t a) {rest : List Char}
    (hrest : Follows rest) : r.run (t ++ rest) = .ok (a, rest) := h.run [] rest blank_nil hrest

section Reads

variable {r : Reader β} {f : β → Reader α} {t : List Char} {a : α} {b : β}

theorem Reads.bind_right (h : Reads r t b) (hf : ∀ s, (f b).run s = .ok (a, s)) : Reads (r >>= f) t a :=
  ⟨h.starts, fun gap rest hgap hrest => by rw [run_bind_of (h.run gap rest hgap hrest), hf]⟩

theorem Reads.once {r : Reader α} (h : Reads r t a) : Reads (once none r) t (some a) :=
  ⟨h.starts, fun gap rest hgap hrest => run_once (h.run gap rest hgap hrest)⟩

end Reads

section Blanks

variable {gap s : List Char} {c : Char}

theorem run_blanks (hgap : Blank gap) (hs : ∀ c ∈ s.head?, isBlank c = false) :
    blanks.run (gap ++ s) = .ok ((), s) := by
  show Except.ok ((), (gap ++ s).dropWhile isBlank) = _
  rw [(takeWhile_append_of_stop hgap hs).2]

theorem run_blanks_cons (hgap : Blank gap) (hc : isBlank c = false) (s : List Char) :
    blanks.run (gap ++ c :: s) = .ok ((), c :: s) := by
  refine run_blanks hgap ?_
  rintro d ⟨⟩
  exact hc

theorem run_next (hgap : Blank gap) (hc : isBlank c = false) (s : List Char) :
    next.run (gap ++ c :: s) = .ok (some c, c :: s) := by
  rw [next, run_bind_of (run_blanks_cons hgap hc s), run_peek]
  rfl

theorem run_mark (hgap : Blank gap) (hc : isBlank c = false) (s : List Char) :
    (mark c).run (gap ++ c :: s) = .ok ((), s) := by
  rw [mark, run_bind_of (run_blanks_cons hgap hc s), run_expectChar]

end Blanks

theorem Reads.next {c : Char} {s t : List Char} {f : Option Char → Reader α} {a : α} (ht : t = c :: s)
    (h : Reads (f (some c)) t a) : Reads (Json.next >>= f) t a := by
  refine ⟨h.starts, fun gap rest hgap hrest => ?_⟩
  have hrun := h.run_at hrest
  obtain ⟨d, s', hd, hstarts⟩ := h.starts
  rw [ht] at hd hrun ⊢
  obtain ⟨rfl, rfl⟩ := List.cons.inj hd
  simp only [startsValue, Bool.and_eq_true, Bool.not_eq_true'] at hstarts
  rw [List.cons_append, run_bind_of (run_next hgap hstarts.1.1 _)]
  exact hrun

def IsClosing (c : Char) : Prop := c = ']' ∨ c = '\x7d'

theorem IsClosing.isBlank {c : Char} (h : IsClosing c) : isBlank c = false := by
  obtain rfl | rfl := h <;> decide

theorem IsClosing.ne_comma {c : Char} (h : IsClosing c) : ',' ≠ c := by
  obtain rfl | rfl := h <;> decide

theorem Starts.cons {t : List Char} (ht : Starts t) :
    ∃ c s, t = c :: s ∧ isBlank c = false ∧ ∀ closing, IsClosing closing → c ≠ closing := by
  obtain ⟨c, s, hlist, hc⟩ := ht
  simp only [startsValue, Bool.and_eq_true, Bool.not_eq_true', decide_eq_true_eq] at hc
  refine ⟨c, s, hlist, hc.1.1, ?_⟩
  rintro closing (rfl | rfl)
  · exact hc.1.2
  · exact hc.2

section More

variable {l : Layout} {level : ℕ} {closing : Char} {t : List Char}

theorem run_more_nil (hclosing : IsClosing closing) (first : Bool) (rest : List Char) :
    (more closing first).run (l.before level closing first [] rest) = .ok (false, rest) := by
  have hblanks : blanks.run (l.before level closing first [] rest) = .ok ((), closing :: rest) := by
    cases first with
    | true => exact run_blanks_cons blank_nil hclosing.isBlank rest
    | false => exact run_blanks_cons (l.blank_closing level) hclosing.isBlank rest
  rw [more, run_bind_of hblanks, run_bind_of (run_acceptChar_self closing rest), if_pos rfl, run_pure_eq]

theorem run_more_cons (hclosing : IsClosing closing) (ht : Starts t) (first : Bool) (ts : List (List Char))
    (rest : List Char) :
    (more closing first).run (l.before level closing first (t :: ts) rest) =
      .ok (true, t ++ l.after level closing ts rest) := by
  obtain ⟨c, t, rfl, hc, hne⟩ := ht.cons
  cases first with
  | true =>
    have haccept : (acceptChar closing).run (c :: (t ++ l.after level closing ts rest)) = .ok (false, _) :=
      run_acceptChar_of_ne fun h => hne closing hclosing (Option.some.inj h)
    rw [Layout.before, more, List.cons_append, run_bind_of (run_blanks_cons (l.blank_item level) hc _),
      run_bind_of haccept, if_neg Bool.false_ne_true, if_pos rfl, run_pure_eq]
  | false =>
    have hblanks : ∀ s, blanks.run (',' :: s) = .ok ((), ',' :: s) := run_blanks_cons blank_nil (by decide)
    have haccept : ∀ s, (acceptChar closing).run (',' :: s) = .ok (false, ',' :: s) := fun s =>
      run_acceptChar_of_ne fun h => hclosing.ne_comma (Option.some.inj h)
    rw [Layout.before, Layout.after_cons, more, run_bind_of (hblanks _), run_bind_of (haccept _),
      if_neg Bool.false_ne_true, if_neg Bool.false_ne_true, run_bind_of (run_expectChar ',' _), List.cons_append,
      run_bind_of (run_next (l.blank_item level) hc _), if_neg fun h => hne closing hclosing (Option.some.inj h),
      run_pure_eq]

end More

section Scalars

theorem run_text (s : String) {gap : List Char} (hgap : Blank gap) (rest : List Char) :
    text.run (gap ++ (quoteString s ++ rest)) = .ok (s, rest) := by
  have hlist : quoteString s ++ rest = '"' :: (s.toList.flatMap escape ++ '"' :: rest) := by
    simp [quoteString, quote]
  rw [hlist, text, run_bind_of (run_mark hgap (by decide) _),
    run_bind_of (run_ofSplit (unquote?_flatMap_escape s.toList rest)), String.ofList_toList, run_pure_eq]

theorem reads_text (s : String) : Reads text (quoteString s) s :=
  ⟨⟨'"', _, rfl, by decide⟩, fun _ rest hgap _ => run_text s hgap rest⟩

theorem startsValue_of_isDigit {c : Char} (h : isDigit c = true) : startsValue c = true := by
  have hne : ∀ d, isDigit d = false → c ≠ d := fun d hd => ne_of_isDigit h hd
  simp [startsValue, isBlank, hne ' ' (by decide), hne '\t' (by decide), hne '\n' (by decide), hne '\r' (by decide),
    hne ']' (by decide), hne '\x7d' (by decide)]

theorem Spelling.Sound.starts {s : Spelling} (h : s.Sound) : Starts s.chars := by
  obtain ⟨c, cs, hwhole⟩ := List.exists_cons_of_ne_nil h.whole.1
  have hc := h.whole.2 c (hwhole ▸ List.mem_cons_self)
  rw [Spelling.chars, hwhole]
  split
  · exact ⟨'-', _, rfl, by decide⟩
  · exact ⟨c, _, rfl, startsValue_of_isDigit hc⟩

theorem reads_number {s : Spelling} (hs : s.Sound) {n : Number} (hn : s.number? = some n) :
    Reads (do blanks; number) s.chars n := by
  refine ⟨hs.starts, fun gap rest hgap hrest => ?_⟩
  have hspelling := run_spelling hs hrest
  obtain ⟨c, t, hlist, hc, -⟩ := hs.starts.cons
  rw [hlist, List.cons_append] at hspelling ⊢
  rw [run_bind_of (run_blanks_cons hgap hc _), number, run_bind_of hspelling, hn, run_need]

theorem reads_real {x : Float} (h : x.isFinite = true) : Reads real (realChars x) (reread x) := by
  obtain ⟨s, hs, htext, hnumber⟩ := exists_spelling_reread h
  have hreal : real = (do blanks; number) >>= fun n => pure n.toFloat := by
    rw [bind_assoc]
    rfl
  rw [← htext, hreal]
  exact (reads_number hs hnumber).bind_right fun t => rfl

theorem exists_spelling_natural {n : ℕ} (h : n ≤ greatestNatural) :
    ∃ s : Spelling, s.Sound ∧ s.chars = natChars n ∧ s.number? = some (.natural n) := by
  refine ⟨⟨false, natChars n, none, none⟩,
    ⟨⟨Decimal.natChars_ne_nil n, Decimal.isDigit_of_mem_natChars⟩, fun hhead => ?_, nofun, nofun⟩, ?_, ?_⟩
  · rcases Nat.eq_zero_or_pos n with rfl | hpos
    · decide
    · obtain ⟨c, cs, hlist, hc⟩ := Decimal.exists_natChars hpos
      rw [hlist] at hhead
      exact absurd (Option.some.inj hhead) hc
  · exact List.append_nil _
  · have hkeep : keep 0 (natChars n) = (n, (natChars n).length) := by
      have hread := Decimal.readDigits_natChars n
      rw [keep_eq (by rwa [Nat.zero_mul, Nat.zero_add, hread]), Nat.zero_mul, Nat.zero_add, hread]
    simp only [Spelling.number?, hkeep, Nat.sub_self]
    rfl

theorem reads_natural {n bound : ℕ} (h : n ≤ bound) (hbound : bound ≤ greatestNatural) :
    Reads (natural bound) (natChars n) n := by
  obtain ⟨s, hs, htext, hnumber⟩ := exists_spelling_natural (h.trans hbound)
  rw [← htext, natural, ← bind_assoc]
  refine (reads_number hs hnumber).bind_right fun t => ?_
  show (if n ≤ bound then return n else Reader.fail : Reader ℕ).run t = _
  rw [if_pos h, run_pure_eq]

end Scalars

section Lists

variable {l : Layout} {level : ℕ}

theorem follows_after {closing : Char} (hclosing : IsClosing closing) (ts : List (List Char)) (rest : List Char) :
    Follows (l.after level closing ts rest) := by
  cases ts with
  | nil =>
    intro c hc
    change c ∈ (l.closing level ++ closing :: rest).head? at hc
    cases hgap : l.closing level with
    | nil =>
      rw [hgap] at hc
      obtain rfl : closing = c := Option.some.inj hc
      obtain rfl | rfl := hclosing <;> decide
    | cons d gap =>
      rw [hgap] at hc
      obtain rfl : d = c := Option.some.inj hc
      have hblank := l.blank_closing level d (hgap ▸ List.mem_cons_self)
      simp [endsValue, hblank]
  | cons t ts =>
    rw [Layout.after_cons]
    rintro c ⟨⟩
    decide

theorem run_items {item : Reader α} {ts : List (List Char)} {as : List α} (h : List.Forall₂ (Reads item) ts as)
    {fuel : ℕ} (hfuel : as.length < fuel) (first : Bool) (rest : List Char) :
    (items item fuel first).run (l.before level ']' first ts rest) = .ok (as, rest) := by
  induction h generalizing fuel first with
  | nil =>
    cases fuel with
    | zero => cases hfuel
    | succ fuel =>
      rw [items, run_bind_of (run_more_nil (.inl rfl) first rest), if_neg Bool.false_ne_true, run_pure_eq]
  | @cons t a ts as ht _ ih =>
    cases fuel with
    | zero => cases hfuel
    | succ fuel =>
      have hrest : (items item fuel false).run (l.after level ']' ts rest) = .ok (as, rest) :=
        ih (Nat.lt_of_succ_lt_succ hfuel) false
      rw [items, run_bind_of (run_more_cons (.inl rfl) ht.starts first ts rest), if_pos rfl,
        run_bind_of (ht.run_at (follows_after (.inl rfl) ts rest)), run_bind_of hrest, run_pure_eq]

theorem starts_enclosed {opening closing : Char} (h : startsValue opening = true) (ts : List (List Char)) :
    Starts (l.enclosed level opening closing ts) :=
  ⟨opening, _, (List.append_nil _).symm.trans (Layout.enclosed_append ts []), h⟩

/-- Which bracket a list or an object starts with is looked at before it is read. -/
theorem Reads.next_enclosed {opening closing : Char} {ts : List (List Char)} {f : Option Char → Reader α} {a : α}
    (h : Reads (f (some opening)) (l.enclosed level opening closing ts) a) :
    Reads (Json.next >>= f) (l.enclosed level opening closing ts) a :=
  Reads.next ((List.append_nil _).symm.trans (Layout.enclosed_append ts [])) h

theorem reads_enclosed {opening closing : Char} (h : startsValue opening = true) {ts : List (List Char)} {r : Reader α}
    {a : α} (hr : ∀ rest, r.run (l.before level closing true ts rest) = .ok (a, rest)) :
    Reads (do mark opening; r) (l.enclosed level opening closing ts) a := by
  refine ⟨starts_enclosed h ts, fun gap rest hgap _ => ?_⟩
  simp only [startsValue, Bool.and_eq_true, Bool.not_eq_true'] at h
  rw [Layout.enclosed_append, run_bind_of (run_mark hgap h.1.1 _), hr]

end Lists

/-- The members of an object, each read from the text after its colon into what is known so far. -/
inductive MembersRead (l : Layout) (member : String → σ → Reader σ) : σ → List (List Char) → σ → Prop
  | nil (known : σ) : MembersRead l member known [] known
  | cons {key : String} {t : List Char} {ts : List (List Char)} {known next final : σ} :
      Reads (member key known) t next → MembersRead l member next ts final →
      MembersRead l member known ((quoteString key ++ ':' :: (l.colon ++ t)) :: ts) final

section Members

variable {l : Layout} {level : ℕ} {member : String → σ → Reader σ} {start final : σ} {ts : List (List Char)}

theorem run_members (h : MembersRead l member start ts final) {fuel : ℕ} (hfuel : ts.length < fuel) (first : Bool)
    (rest : List Char) :
    (members member fuel first start).run (l.before level '\x7d' first ts rest) = .ok (final, rest) := by
  induction h generalizing fuel first with
  | nil known =>
    cases fuel with
    | zero => cases hfuel
    | succ fuel =>
      rw [members, run_bind_of (run_more_nil (.inr rfl) first rest), if_neg Bool.false_ne_true, run_pure_eq]
  | @cons key t ts known next final ht _ ih =>
    cases fuel with
    | zero => cases hfuel
    | succ fuel =>
      have hstarts : Starts (quoteString key ++ ':' :: (l.colon ++ t)) := ⟨'"', _, rfl, by decide⟩
      have hkey := run_text key blank_nil (':' :: (l.colon ++ (t ++ l.after level '\x7d' ts rest)))
      have hmark : (mark ':').run (':' :: (l.colon ++ (t ++ l.after level '\x7d' ts rest))) = .ok ((), _) :=
        run_mark blank_nil (by decide) _
      have hfollows : Follows (l.after level '\x7d' ts rest) := follows_after (.inr rfl) ts rest
      rw [members, run_bind_of (run_more_cons (.inr rfl) hstarts first ts rest), if_pos rfl, List.append_assoc,
        List.cons_append, List.append_assoc]
      rw [List.nil_append] at hkey
      rw [run_bind_of hkey, run_bind_of hmark, run_bind_of (ht.run l.colon _ l.blank_colon hfollows)]
      exact ih (Nat.lt_of_succ_lt_succ hfuel) false

theorem reads_record {f : σ → Reader α} {a : α} (h : MembersRead l member start ts final) {fuel : ℕ}
    (hfuel : ts.length < fuel) (hf : ∀ s, (f final).run s = .ok (a, s)) :
    Reads (do
        mark '\x7b'
        let known ← members member fuel true start
        f known)
      (l.enclosed level '\x7b' '\x7d' ts) a :=
  reads_enclosed (by decide) fun rest => by rw [run_bind_of (run_members h hfuel true rest), hf]

end Members

end PromptCad.Json
