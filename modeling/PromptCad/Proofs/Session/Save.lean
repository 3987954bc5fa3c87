import PromptCad.Proofs.Model.Ron
import PromptCad.Proofs.Session.Reachable

/-! Saving a session and loading it again gives the same session. The text is read back piece by piece, and what a load
does after reading changes nothing: the checks pass and the counter stays, because the session was sound. -/

namespace PromptCad

namespace Ron

open Reader

variable {fuel : Nat} {scope : Scope}

theorem reads_counter {ids : IdCounter} (h : ids.next ≤ IdCounter.last) (hfuel : 1 < fuel) (hdepth : 0 < scope.depth)
    (level : Nat) : Reads (counter fuel scope) (Form.print level (.record "" [("next", .natural ids.next)])) ids := by
  have hnext : Reads (counterField fuel { scope with depth := scope.depth - 1 } "next" none)
      (Form.print (level + 1) (.natural ids.next)) (some ids.next) := by
    rw [counterField, if_pos rfl]
    exact (reads_natural h).once
  have hfields := FieldsRead.cons (by decide) hnext (.nil _)
  rw [print_record]
  refine Reads.bind_left ?_ (run_enter hdepth)
  exact (reads_record hfields (by simp) hfuel level "IdGenerator").bind_right fun s => rfl

theorem reads_saved {d : Saved} (hversion : d.model.version ≤ greatestVersion) (hvalid : d.Valid)
    (hfuel : 3 < fuel) (hcount : d.model.primitives.length < fuel) (hcount' : d.model.operations.length < fuel)
    (hdepth : 10 < scope.depth) (level : Nat) :
    Reads (saved fuel scope) (d.toRon.print level) ⟨{ d.model with limit := Model.standardLimit }, d.ids⟩ := by
  generalize hscope : { scope with depth := scope.depth - 1 } = inside
  have hinside : 9 < inside.depth := by
    rw [← hscope]
    simp only
    omega
  have hmodel : Reads (savedField fuel inside "model" {}) (d.model.toRon.print (level + 1))
      { model := some { d.model with limit := Model.standardLimit } } := by
    refine Reads.bind_left ?_ (run_enter (by omega))
    rw [if_pos rfl]
    refine Reads.bind_right (Reads.once ?_) fun s => rfl
    exact reads_model hversion hvalid.primitives hfuel hcount hcount' (by simp only; omega) (level + 1)
  have hids : Reads (savedField fuel inside "ids" { model := some { d.model with limit := Model.standardLimit } })
      (Form.print (level + 1) (.record "" [("next", .natural d.ids.next)]))
      { model := some { d.model with limit := Model.standardLimit }, ids := some d.ids } := by
    refine Reads.bind_left ?_ (run_enter (by omega))
    rw [if_neg (by decide), if_pos rfl]
    refine Reads.bind_right (Reads.once ?_) fun s => rfl
    exact reads_counter hvalid.ids (by omega) (by simp only; omega) (level + 1)
  have hfields := FieldsRead.cons (by decide) hmodel (.cons (by decide) hids (.nil _))
  rw [Saved.toRon, print_record]
  refine Reads.bind_left ?_ (run_enter (by omega))
  rw [hscope]
  exact (reads_record hfields (by simp) (show 2 < fuel by omega) level "SessionData").bind_right fun s => rfl

theorem readAll_of_reads {α : Type} {r : Nat → Scope → Reader α} {t : List Char} {a : α}
    (h : ∀ bareSome, Reads (r (t.length + 1) ⟨greatestDepth, bareSome⟩) t a) (hmark : t.head? ≠ some '#') :
    readAll r t = .ok a := by
  obtain ⟨hstarts, -⟩ := h false
  have hblanks : afterBlanks? .between t = some t := by
    simpa using hstarts.afterBlanks? (b := []) (by simp) []
  have hattributes : (attributes (t.length + 1)).run t = .ok ([], t) := by
    rw [attributes, run_bind_of (run_blanks_of hblanks), run_bind_of (run_peek t), if_neg hmark, run_pure_eq]
  have hrun := (h ([].contains bareSomeExtension)).run [] follows_nil
  rw [List.append_nil] at hrun
  have hwhole : (do
      let asked ← attributes (t.length + 1)
      let a ← r (t.length + 1) ⟨greatestDepth, asked.contains bareSomeExtension⟩
      blanks
      return a : Reader α).run t = .ok (a, []) := by
    rw [run_bind_of hattributes, run_bind_of hrun, run_bind_of (run_blanks_of rfl), run_pure_eq]
  exact readAll_of_run hwhole

end Ron

namespace Saved

/-- The text is long enough to serve as fuel for each of its lists. -/
theorem fuel_of_text (d : Saved) :
    3 < (d.toRon.print 0).length + 1 ∧ d.model.primitives.length < (d.toRon.print 0).length + 1 ∧
      d.model.operations.length < (d.toRon.print 0).length + 1 := by
  have hmodel : (d.model.toRon.print 1).length ≤ (d.toRon.print 0).length :=
    (Ron.length_le_print_record 0 "" _).2 "model" _ List.mem_cons_self
  have hfields := Ron.length_le_print_record 1 "" [("version", .natural d.model.version),
    ("primitives", .list (d.model.primitives.map (·.toRon))), ("operations", .list (d.model.operations.map (·.toRon)))]
  have hprimitives := (Ron.length_le_print_list 2 (d.model.primitives.map (·.toRon))).trans
    (hfields.2 "primitives" _ (by simp))
  have hoperations := (Ron.length_le_print_list 2 (d.model.operations.map (·.toRon))).trans
    (hfields.2 "operations" _ (by simp))
  rw [List.length_map] at hprimitives hoperations
  refine ⟨?_, ?_, ?_⟩
  · exact Nat.lt_succ_of_le (hfields.1.trans hmodel)
  · exact Nat.lt_succ_of_le (hprimitives.trans hmodel)
  · exact Nat.lt_succ_of_le (hoperations.trans hmodel)

theorem ofText_save {d : Saved} (hversion : d.model.version ≤ greatestVersion) (hvalid : d.Valid) :
    Saved.ofText (String.ofList (d.toRon.print 0)) = .ok ⟨{ d.model with limit := Model.standardLimit }, d.ids⟩ := by
  obtain ⟨hfuel, hcount, hcount'⟩ := d.fuel_of_text
  rw [ofText, String.toList_ofList]
  refine Ron.readAll_of_reads (fun bareSome => ?_) ?_
  · exact Ron.reads_saved hversion hvalid hfuel hcount hcount' (show 10 < Ron.greatestDepth by decide) 0
  · obtain ⟨s, hs⟩ : ∃ s, d.toRon.print 0 = '(' :: s := ⟨_, rfl⟩
    rw [hs]
    exact fun h => absurd (Option.some.inj h) (by decide)

end Saved

namespace Session

variable {s : Session} {settings : Settings}

theorem Sound.highestIdNumber_lt (h : s.Sound) : s.model.highestIdNumber < s.ids.next := by
  have hpos := h.positive
  have hle : s.model.highestIdNumber ≤ s.ids.next - 1 := by
    apply Model.highestIdNumber_le.mpr
    intro p hp n hn
    have := h.ahead p hp n hn
    omega
  omega

/-- What was saved of a sound session loads under settings that leave room for its primitives. -/
theorem Sound.load_toUTF8 (h : s.Sound) (hsettings : settings.check = .ok ())
    (hfits : s.model.primitives.length ≤ settings.primitiveLimit) :
    Session.load s.save.toUTF8 settings =
      .ok ⟨{ s.model with limit := settings.primitiveLimit }, s.ids, settings⟩ := by
  have hversion : s.model.version ≤ greatestVersion := by
    rw [h.version]
    decide
  have hvalid : Saved.Valid ⟨s.model, s.ids⟩ := ⟨h.primitives, h.counted⟩
  have hahead := h.highestIdNumber_lt
  have hlast := h.counted
  have hids : Saved.freshIds ⟨{ s.model with limit := Model.standardLimit }, s.ids⟩ = .ok s.ids := by
    refine Saved.freshIds_eq_ok.mpr ⟨Nat.lt_of_lt_of_le hahead hlast, ?_⟩
    show s.ids = ⟨max s.ids.next (s.model.highestIdNumber + 1)⟩
    rw [Nat.max_eq_left hahead]
  refine load_eq_ok.mpr ⟨hsettings, s.save, _, Text.decode_toUTF8 s.save, Saved.ofText_save hversion hvalid, ?_⟩
  exact Saved.session_eq_ok.mpr ⟨h.check, hfits, s.ids, hids, rfl⟩

/-- Loading what was saved gives the model and the counter back, and takes the limit from the settings of the load. -/
theorem load_save (h : s.Reachable) (hsettings : settings.check = .ok ())
    (hfits : s.model.primitives.length ≤ settings.primitiveLimit) :
    Session.load s.save.toUTF8 settings =
      .ok ⟨{ s.model with limit := settings.primitiveLimit }, s.ids, settings⟩ :=
  h.sound.load_toUTF8 hsettings hfits

/-- A session with an id of any letters, a zero with a sign and an operation, loaded with settings that leave room for
just its two primitives. -/
theorem load_save_resumed :
    resumed.Reachable ∧ Settings.check { Settings.standard with primitiveLimit := 2 } = .ok () ∧
      resumed.model.primitives.length ≤ 2 ∧
      Session.load resumed.save.toUTF8 { Settings.standard with primitiveLimit := 2 } =
        .ok ⟨{ resumed.model with limit := 2 }, resumed.ids, { Settings.standard with primitiveLimit := 2 }⟩ := by
  have hsettings : Settings.check { Settings.standard with primitiveLimit := 2 } = .ok () := by decide
  have hfits : resumed.model.primitives.length ≤ 2 := by decide
  exact ⟨reachable_resumed, hsettings, hfits, load_save reachable_resumed hsettings hfits⟩

end Session

end PromptCad
