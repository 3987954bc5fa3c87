import PromptCad.Proofs.Float.Text
import PromptCad.Proofs.Reader.Run
import PromptCad.Proofs.Ron.Text
import PromptCad.Ron.Printer
import PromptCad.Ron.Reader

/-! What is printed is read back: numbers, strings, and blocks of items or fields, each on its own line. A reader reads
a text as a value when it takes just that text off the front, as long as a comma, a round bracket or nothing follows. -/

namespace PromptCad.Ron

open Reader

variable {α σ : Type}

/-- A character that a value or a field may start with, and that tells it from blanks and from the end of a list. -/
def startsValue (c : Char) : Bool := !isBlank c && c ≠ '/' && c ≠ ']'

def Starts (t : List Char) : Prop := ∃ c s, t = c :: s ∧ startsValue c = true

def Follows (rest : List Char) : Prop := ∀ c ∈ rest.head?, c = ',' ∨ c = ')'

structure Reads (r : Reader α) (t : List Char) (a : α) : Prop where
  starts : Starts t
  run : ∀ rest, Follows rest → r.run (t ++ rest) = .ok (a, rest)

theorem follows_comma (s : List Char) : Follows (',' :: s) := by
  rintro c ⟨⟩
  exact .inl rfl

theorem follows_bracket (s : List Char) : Follows (')' :: s) := by
  rintro c ⟨⟩
  exact .inr rfl

theorem follows_nil : Follows [] := by
  rintro c ⟨⟩

/-- Reading stops in front of what follows a value, when the class of characters holds neither a comma nor a bracket. -/
theorem Follows.not_of_head {p : Char → Bool} {rest : List Char} (h : Follows rest) (hcomma : p ',' = false)
    (hbracket : p ')' = false) : ∀ c ∈ rest.head?, p c = false := by
  intro c hc
  obtain rfl | rfl := h c hc
  · exact hcomma
  · exact hbracket

theorem Reads.bind_left {β : Type} {r : Reader β} {f : β → Reader α} {t : List Char} {a : α} {b : β}
    (h : Reads (f b) t a) (hr : ∀ s, r.run s = .ok (b, s)) : Reads (r >>= f) t a :=
  ⟨h.starts, fun rest hrest => by rw [run_bind_of (hr _), h.run rest hrest]⟩

theorem Reads.bind_right {β : Type} {r : Reader β} {f : β → Reader α} {t : List Char} {a : α} {b : β}
    (h : Reads r t b) (hf : ∀ s, (f b).run s = .ok (a, s)) : Reads (r >>= f) t a :=
  ⟨h.starts, fun rest hrest => by rw [run_bind_of (h.run rest hrest), hf]⟩

theorem Reads.once {r : Reader α} {t : List Char} {a : α} (h : Reads r t a) : Reads (once none r) t (some a) :=
  ⟨h.starts, fun rest hrest => run_once (h.run rest hrest)⟩

theorem run_enter {scope : Scope} (h : 0 < scope.depth) (s : List Char) :
    (enter scope).run s = .ok ({ scope with depth := scope.depth - 1 }, s) := by
  rw [enter, if_neg (by omega), run_pure_eq]

section Blanks

theorem afterBlanks?_of_standing {c : Char} (hblank : isBlank c = false) (hslash : c ≠ '/') (s : List Char) :
    afterBlanks? .between (c :: s) = some (c :: s) := by
  unfold afterBlanks?
  split
  · next heq => exact absurd (List.cons.inj heq).1 hslash
  · next heq => exact absurd (List.cons.inj heq).1 hslash
  · next heq =>
    obtain ⟨rfl, rfl⟩ := List.cons.inj heq
    simp [hblank, hslash]
  all_goals simp_all

theorem afterBlanks?_append {b : List Char} (hb : ∀ c ∈ b, isBlank c = true) (s : List Char) :
    afterBlanks? .between (b ++ s) = afterBlanks? .between s := by
  induction b with
  | nil => rfl
  | cons c b ih =>
    obtain ⟨hc, hb⟩ := List.forall_mem_cons.mp hb
    have hslash : c ≠ '/' := by
      rintro rfl
      exact absurd hc (by decide)
    rw [List.cons_append, afterBlanks?, if_pos hc, ih hb]
    · exact fun _ h _ => hslash h
    · exact fun _ h _ => hslash h

theorem isBlank_of_mem_indent {level : Nat} : ∀ c ∈ indent level, isBlank c = true := by
  intro c hc
  rw [List.eq_of_mem_replicate hc]
  decide

theorem isBlank_of_mem_newline : ∀ c ∈ ['\n'], isBlank c = true := by simp [isBlank]

theorem isBlank_of_mem_space : ∀ c ∈ [' '], isBlank c = true := by simp [isBlank]

theorem run_blanks_of {s t : List Char} (h : afterBlanks? .between s = some t) : blanks.run s = .ok ((), t) :=
  run_ofSplit (by rw [h]; rfl)

variable {c closing : Char} {s t : List Char}

theorem run_more_go (h : afterBlanks? .between s = some (c :: t)) (hc : c ≠ closing) :
    (more closing true).run s = .ok (true, c :: t) := by
  rw [more, run_bind_of (run_blanks_of h), run_bind_of (run_peek _)]
  simp only [List.head?_cons, Option.some.injEq, if_neg hc, if_true]
  rfl

theorem run_more_stop (h : afterBlanks? .between s = some (closing :: t)) (comma : Bool) :
    (more closing comma).run s = .ok (false, closing :: t) := by
  rw [more, run_bind_of (run_blanks_of h), run_bind_of (run_peek _)]
  simp only [List.head?_cons, if_true]
  rfl

theorem run_close (h : afterBlanks? .between s = some (closing :: t)) : (close closing).run s = .ok ((), t) := by
  rw [close, run_bind_of (run_blanks_of h), run_expectChar]

theorem run_acceptComma_some (h : afterBlanks? .between s = some t) :
    acceptComma.run (',' :: s) = .ok (true, t) := by
  rw [acceptComma, run_bind_of (run_blanks_of (afterBlanks?_of_standing (by decide) (by decide) s)),
    run_bind_of (run_acceptChar_self ',' s)]
  simp only [if_true]
  rw [run_bind_of (run_blanks_of h), run_pure_eq]

theorem run_acceptComma_none (h : afterBlanks? .between s = some t) (ht : t.head? ≠ some ',') :
    acceptComma.run s = .ok (false, t) := by
  rw [acceptComma, run_bind_of (run_blanks_of h), run_bind_of (run_acceptChar_of_ne ht)]
  rfl

theorem run_colon (h : afterBlanks? .between s = some t) : colon.run (':' :: s) = .ok ((), t) := by
  rw [colon, run_bind_of (run_blanks_of (afterBlanks?_of_standing (by decide) (by decide) s)),
    run_bind_of (run_expectChar ':' s), run_blanks_of h]

end Blanks

theorem Starts.afterBlanks? {t : List Char} (h : Starts t) {b : List Char} (hb : ∀ c ∈ b, isBlank c = true)
    (s : List Char) : afterBlanks? .between (b ++ t ++ s) = some (t ++ s) := by
  obtain ⟨c, t, rfl, hc⟩ := h
  simp only [startsValue, Bool.and_eq_true, Bool.not_eq_true', decide_eq_true_eq] at hc
  rw [List.append_assoc, afterBlanks?_append hb, List.cons_append, afterBlanks?_of_standing hc.1.1 hc.1.2]

section Lines

/-- Items on lines of their own through the closing bracket, as a block holds them, and the text after it. -/
def lines (level : Nat) (ts : List (List Char)) (closing : Char) (rest : List Char) : List Char :=
  ts.flatMap (fun t => indent (level + 1) ++ t ++ [',', '\n']) ++ indent level ++ closing :: rest

theorem block_eq_lines {opening closing : Char} {level : Nat} {ts : List (List Char)} (h : ts ≠ []) (rest : List Char) :
    block opening closing level ts ++ rest = opening :: '\n' :: lines level ts closing rest := by
  rw [block, if_neg h]
  simp [lines]

variable {level : Nat} {closing : Char} {rest : List Char}

theorem afterBlanks?_lines_nil (hblank : isBlank closing = false) (hslash : closing ≠ '/') :
    afterBlanks? .between (lines level [] closing rest) = some (closing :: rest) := by
  show afterBlanks? .between (indent level ++ closing :: rest) = _
  rw [afterBlanks?_append isBlank_of_mem_indent, afterBlanks?_of_standing hblank hslash]

theorem afterBlanks?_lines_cons {t : List Char} (ht : Starts t) (ts : List (List Char)) :
    afterBlanks? .between (lines level (t :: ts) closing rest) =
      some (t ++ ',' :: '\n' :: lines level ts closing rest) := by
  have hlines : lines level (t :: ts) closing rest =
      indent (level + 1) ++ t ++ (',' :: '\n' :: lines level ts closing rest) := by
    simp [lines]
  rw [hlines, ht.afterBlanks? isBlank_of_mem_indent]

/-- After the blanks of some lines stands an item or the closing bracket, where no further blanks are skipped. -/
theorem exists_afterBlanks?_lines (level : Nat) (rest : List Char) {ts : List (List Char)} (hts : ∀ t ∈ ts, Starts t)
    (hblank : isBlank closing = false) (hslash : closing ≠ '/') :
    ∃ s, afterBlanks? .between (lines level ts closing rest) = some s ∧ afterBlanks? .between s = some s := by
  cases ts with
  | nil => exact ⟨_, afterBlanks?_lines_nil hblank hslash, afterBlanks?_of_standing hblank hslash rest⟩
  | cons t ts =>
    have ht := hts t List.mem_cons_self
    exact ⟨_, afterBlanks?_lines_cons ht ts, ht.afterBlanks? (b := []) (by simp) _⟩

/-- The comma after an item is taken with the line end and the indentation of the next line. -/
theorem run_acceptComma_lines {ts : List (List Char)} {s : List Char}
    (h : afterBlanks? .between (lines level ts closing rest) = some s) :
    acceptComma.run (',' :: '\n' :: lines level ts closing rest) = .ok (true, s) := by
  apply run_acceptComma_some
  rw [← h]
  exact afterBlanks?_append isBlank_of_mem_newline _

theorem length_le_block (opening closing : Char) (level : Nat) (ts : List (List Char)) :
    ts.length ≤ (block opening closing level ts).length ∧
      ∀ t ∈ ts, t.length ≤ (block opening closing level ts).length := by
  have hlines : ts.length ≤ (lines level ts closing []).length ∧
      ∀ t ∈ ts, t.length ≤ (lines level ts closing []).length := by
    induction ts with
    | nil => simp
    | cons t ts ih =>
      have hcons : lines level (t :: ts) closing [] =
          indent (level + 1) ++ t ++ ',' :: '\n' :: lines level ts closing [] := by
        simp [lines]
      simp only [hcons, List.length_append, List.length_cons, List.forall_mem_cons]
      refine ⟨by omega, by omega, fun u hu => ?_⟩
      have := ih.2 u hu
      omega
  by_cases hne : ts = []
  · subst hne
    simp
  · have hblock : block opening closing level ts ++ [] = opening :: '\n' :: lines level ts closing [] :=
      block_eq_lines hne []
    rw [List.append_nil] at hblock
    rw [hblock, List.length_cons, List.length_cons]
    exact ⟨by omega, fun t ht => by have := hlines.2 t ht; omega⟩

end Lines

/-- The items of a list are read back line by line. The text may have lost the blanks of its first line. -/
theorem run_items {item : Reader α} {print : α → List Char} {as : List α} (h : ∀ a ∈ as, Reads item (print a) a)
    {fuel : Nat} (hfuel : as.length < fuel) (level : Nat) {rest s : List Char}
    (hs : afterBlanks? .between s = afterBlanks? .between (lines level (as.map print) ']' rest)) :
    (items item fuel true).run s = .ok (as, rest) := by
  induction as generalizing fuel s with
  | nil =>
    cases fuel with
    | zero => cases hfuel
    | succ fuel =>
      rw [List.map_nil, afterBlanks?_lines_nil (by decide) (by decide)] at hs
      have hclose : afterBlanks? .between (']' :: rest) = some (']' :: rest) :=
        afterBlanks?_of_standing (by decide) (by decide) rest
      rw [items, run_bind_of (run_more_stop hs true)]
      simp only [Bool.false_eq_true, if_false]
      rw [run_bind_of (run_close hclose), run_pure_eq]
  | cons a as ih =>
    cases fuel with
    | zero => cases hfuel
    | succ fuel =>
      obtain ⟨ha, has⟩ := List.forall_mem_cons.mp h
      obtain ⟨c, t, hprint, hc⟩ := ha.starts
      have hbracket : c ≠ ']' := by
        simp only [startsValue, Bool.and_eq_true, decide_eq_true_eq] at hc
        exact hc.2
      have hstarts : ∀ t ∈ as.map print, Starts t := by
        intro t ht
        obtain ⟨b, hb, rfl⟩ := List.mem_map.mp ht
        exact (has b hb).starts
      obtain ⟨next, hnext, hnext'⟩ := exists_afterBlanks?_lines level rest hstarts
        (by decide : isBlank ']' = false) (by decide)
      rw [List.map_cons, afterBlanks?_lines_cons ha.starts, hprint, List.cons_append] at hs
      rw [items, run_bind_of (run_more_go hs hbracket)]
      simp only [if_true]
      rw [← List.cons_append, ← hprint, run_bind_of (ha.run _ (follows_comma _)),
        run_bind_of (run_acceptComma_lines hnext),
        run_bind_of (ih has (Nat.lt_of_succ_lt_succ hfuel) (hnext'.trans hnext.symm)), run_pure_eq]

theorem reads_list {item : Reader α} {print : α → List Char} {as : List α} (h : ∀ a ∈ as, Reads item (print a) a)
    {fuel : Nat} (hfuel : as.length < fuel) (level : Nat) :
    Reads (list fuel item) (block '[' ']' level (as.map print)) as := by
  by_cases hempty : as.map print = []
  · have hblock : block '[' ']' level (as.map print) = ['[', ']'] := by rw [block, if_pos hempty]
    rw [hblock]
    refine ⟨⟨'[', [']'], rfl, by decide⟩, fun rest _ => ?_⟩
    show (list fuel item).run ('[' :: ']' :: rest) = _
    rw [list, run_bind_of (run_expectChar '[' _), run_items h hfuel 0]
    rw [hempty, afterBlanks?_lines_nil (by decide) (by decide), afterBlanks?_of_standing (by decide) (by decide)]
  · refine ⟨⟨'[', _, (List.append_nil _).symm.trans (block_eq_lines hempty []), by decide⟩, fun rest _ => ?_⟩
    rw [block_eq_lines hempty, list, run_bind_of (run_expectChar '[' _), run_items h hfuel level]
    exact afterBlanks?_append isBlank_of_mem_newline _

section Names

def isPlainName (s : String) : Bool := s.toList.head?.any isNameStart && s.toList.all isNameChar

theorem startsValue_of_isNameStart {c : Char} (h : isNameStart c = true) : startsValue c = true := by
  have hne : ∀ d, isNameStart d = false → c ≠ d := by
    rintro d hd rfl
    exact Bool.false_ne_true (hd.symm.trans h)
  have hblank : isBlank c = false := by
    simp [isBlank, hne ' ' (by decide), hne '\t' (by decide), hne '\n' (by decide), hne '\r' (by decide)]
  simp [startsValue, hblank, hne '/' (by decide), hne ']' (by decide)]

theorem exists_of_isPlainName {key : String} (h : isPlainName key = true) :
    ∃ c s, key.toList = c :: s ∧ isNameStart c = true ∧ ∀ d ∈ c :: s, isNameChar d = true := by
  simp only [isPlainName, Bool.and_eq_true, List.all_eq_true] at h
  obtain ⟨hstart, hall⟩ := h
  cases hkey : key.toList with
  | nil =>
    rw [hkey] at hstart
    cases hstart
  | cons c s =>
    rw [hkey] at hstart hall
    exact ⟨c, s, rfl, hstart, hall⟩

/-- A character that ends a name: no name may hold it, not even a raw one, and it does not begin a raw string. -/
def endsName (c : Char) : Bool := !isRawChar c && c ≠ '#' && c ≠ '"'

theorem endsName_iff {c : Char} : endsName c = true ↔ isRawChar c = false ∧ c ≠ '#' ∧ c ≠ '"' := by
  simp only [endsName, Bool.and_eq_true, Bool.not_eq_true', decide_eq_true_eq, and_assoc]

theorem not_isNameChar_of_not_isRawChar {c : Char} (h : isRawChar c = false) : isNameChar c = false := by
  simp only [isRawChar, Bool.or_eq_false_iff] at h
  exact h.1.1.1

theorem plainName?_append {k : Char} {ks rest : List Char} (hstart : isNameStart k = true)
    (hall : ∀ d ∈ k :: ks, isNameChar d = true) (hrest : ∀ c ∈ rest.head?, isRawChar c = false) :
    plainName? (k :: ks ++ rest) = some (k :: ks, rest) := by
  obtain ⟨htake, hdrop⟩ := takeWhile_append_of_stop hall fun c hc => not_isNameChar_of_not_isRawChar (hrest c hc)
  have hnext : rest.head?.any isRawChar = false := by
    cases hhead : rest.head? with
    | none => rfl
    | some c => exact hrest c hhead
  simp only [plainName?, List.cons_append] at htake hdrop ⊢
  rw [hdrop, htake, hstart, hnext]
  rfl

/-- Only a number sign or a quote after the first letter marks a name. -/
theorem name?_cons {k : Char} {s : List Char} (hsecond : ∀ d ∈ s.head?, d ≠ '#' ∧ d ≠ '"') :
    name? (k :: s) = plainName? (k :: s) := by
  unfold name?
  split
  · next heq => exact absurd rfl (hsecond '#' (by rw [(List.cons.inj heq).2]; rfl)).1
  · next heq => exact absurd rfl (hsecond '#' (by rw [(List.cons.inj heq).2]; rfl)).1
  · next heq => exact absurd rfl (hsecond '"' (by rw [(List.cons.inj heq).2]; rfl)).2
  · rfl

theorem run_name {key : String} (h : isPlainName key = true) {rest : List Char}
    (hrest : ∀ c ∈ rest.head?, endsName c = true) : name.run (key.toList ++ rest) = .ok (key, rest) := by
  obtain ⟨k, ks, hkey, hstart, hall⟩ := exists_of_isPlainName h
  have hsecond : ∀ d ∈ (ks ++ rest).head?, d ≠ '#' ∧ d ≠ '"' := by
    intro d hd
    cases ks with
    | nil => exact (endsName_iff.mp (hrest d hd)).2
    | cons k' ks =>
      obtain rfl : k' = d := Option.some.inj hd
      have hk' := hall k' (by simp)
      constructor <;> rintro rfl <;> exact absurd hk' (by decide)
  have hname : name? (k :: ks ++ rest) = some (k :: ks, rest) :=
    (name?_cons hsecond).trans (plainName?_append hstart hall fun c hc => (endsName_iff.mp (hrest c hc)).1)
  rw [name, hkey, run_bind_of (run_ofSplit hname), ← hkey, String.ofList_toList, run_pure_eq]

theorem run_name_cons {key : String} (h : isPlainName key = true) {c : Char} (hc : endsName c = true)
    (rest : List Char) : name.run (key.toList ++ c :: rest) = .ok (key, c :: rest) := by
  apply run_name h
  rintro d ⟨⟩
  exact hc

end Names

/-- The fields of a record, each read from the text after its name into what is known so far. -/
inductive FieldsRead (field : String → σ → Reader σ) : σ → List (List Char) → σ → Prop
  | nil (known : σ) : FieldsRead field known [] known
  | cons {key : String} {t : List Char} {ts : List (List Char)} {known next final : σ} :
      isPlainName key = true → Reads (field key known) t next → FieldsRead field next ts final →
      FieldsRead field known ((key.toList ++ ':' :: ' ' :: t) :: ts) final

section Fields

variable {field : String → σ → Reader σ} {start final : σ} {ts : List (List Char)}

theorem starts_field {key : String} (h : isPlainName key = true) (t : List Char) : Starts (key.toList ++ t) := by
  obtain ⟨c, s, hkey, hstart, -⟩ := exists_of_isPlainName h
  rw [hkey]
  exact ⟨c, s ++ t, rfl, startsValue_of_isNameStart hstart⟩

theorem FieldsRead.starts (h : FieldsRead field start ts final) : ∀ t ∈ ts, Starts t := by
  induction h with
  | nil => simp
  | cons hkey _ _ ih => exact List.forall_mem_cons.mpr ⟨starts_field hkey _, ih⟩

theorem run_fields (h : FieldsRead field start ts final) {fuel : Nat} (hfuel : ts.length < fuel) (level : Nat)
    {rest s : List Char} (hs : afterBlanks? .between s = afterBlanks? .between (lines level ts ')' rest)) :
    (fields ')' field fuel true start).run s = .ok (final, rest) := by
  induction h generalizing fuel s with
  | nil known =>
    cases fuel with
    | zero => cases hfuel
    | succ fuel =>
      rw [afterBlanks?_lines_nil (by decide) (by decide)] at hs
      have hclose : afterBlanks? .between (')' :: rest) = some (')' :: rest) :=
        afterBlanks?_of_standing (by decide) (by decide) rest
      rw [fields, run_bind_of (run_more_stop hs true)]
      simp only [Bool.false_eq_true, if_false]
      rw [run_bind_of (run_close hclose), run_pure_eq]
  | @cons key t ts known next final hkey ht hts ih =>
    cases fuel with
    | zero => cases hfuel
    | succ fuel =>
      obtain ⟨c, k, hlist, hstart, -⟩ := exists_of_isPlainName hkey
      have hbracket : c ≠ ')' := by
        rintro rfl
        exact absurd hstart (by decide)
      obtain ⟨after, hafter, hafter'⟩ := exists_afterBlanks?_lines level rest hts.starts
        (by decide : isBlank ')' = false) (by decide)
      have hcolon : afterBlanks? .between (' ' :: (t ++ ',' :: '\n' :: lines level ts ')' rest)) =
          some (t ++ ',' :: '\n' :: lines level ts ')' rest) :=
        ht.starts.afterBlanks? isBlank_of_mem_space _
      rw [afterBlanks?_lines_cons (starts_field hkey _), List.append_assoc, hlist, List.cons_append] at hs
      rw [fields, run_bind_of (run_more_go hs hbracket)]
      simp only [if_true]
      rw [← List.cons_append, ← hlist, List.cons_append, List.cons_append,
        run_bind_of (run_name_cons hkey (by decide) _), run_bind_of (run_colon hcolon),
        run_bind_of (ht.run _ (follows_comma _)), run_bind_of (run_acceptComma_lines hafter)]
      exact ih (Nat.lt_of_succ_lt_succ hfuel) (hafter'.trans hafter.symm)

theorem run_fields_block (h : FieldsRead field start ts final) (hne : ts ≠ []) {fuel : Nat} (hfuel : ts.length < fuel)
    (level : Nat) (rest : List Char) :
    ∃ s, block '(' ')' level ts ++ rest = '(' :: '\n' :: s ∧
      (fields ')' field fuel true start).run ('\n' :: s) = .ok (final, rest) := by
  refine ⟨_, block_eq_lines hne rest, run_fields h hfuel level ?_⟩
  exact afterBlanks?_append isBlank_of_mem_newline _

theorem reads_record (h : FieldsRead field start ts final) (hne : ts ≠ []) {fuel : Nat} (hfuel : ts.length < fuel)
    (level : Nat) (expected : String) :
    Reads (record fuel expected field start) (block '(' ')' level ts) final := by
  refine ⟨⟨'(', _, (List.append_nil _).symm.trans (block_eq_lines hne []), by decide⟩, fun rest _ => ?_⟩
  obtain ⟨s, hs, hrun⟩ := run_fields_block h hne hfuel level rest
  have hname : (recordName expected).run ('(' :: '\n' :: s) = .ok ((), '(' :: '\n' :: s) := rfl
  have hblanks : afterBlanks? .between ('(' :: '\n' :: s) = some ('(' :: '\n' :: s) :=
    afterBlanks?_of_standing (by decide) (by decide) _
  rw [hs, record, run_bind_of hname, run_bind_of (run_blanks_of hblanks), run_bind_of (run_expectChar '(' _), hrun]

end Fields

end PromptCad.Ron
