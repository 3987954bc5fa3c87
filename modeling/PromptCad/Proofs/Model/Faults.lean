import PromptCad.Proofs.Model.Check

/-! The verdict of the check of a model. What is reported is the first fault: the version, else the first primitive with
an id that was there before, else the first operand that is missing. The check that is made when an operation is recorded
agrees with it. -/

namespace PromptCad.Model

variable {m : Model} {o : Operation} {e : ModelError} {id : String}

def withOperation (m : Model) (o : Operation) : Model := { m with operations := m.operations ++ [o] }

/-- The first fault of a model, and how it is reported. Primitives and operations are gone through in their order, a
target comes before its tool. -/
inductive FirstFault (m : Model) : ModelError → Prop
  | version (hversion : m.version ≠ currentVersion) : FirstFault m (.unsupportedVersion m.version)
  | repeated (hversion : m.version = currentVersion) {before after : List Primitive} {p : Primitive}
      (hsplit : m.primitives = before ++ p :: after) (hbefore : (before.map (·.id)).Nodup)
      (hrepeated : p.id ∈ before.map (·.id)) : FirstFault m (.duplicate p.id)
  | target (hversion : m.version = currentVersion) (hids : m.ids.Nodup) {before after : List Operation} {o : Operation}
      (hsplit : m.operations = before ++ o :: after) (hbefore : ∀ o ∈ before, o.target ∈ m.ids ∧ o.tool ∈ m.ids)
      (htarget : o.target ∉ m.ids) : FirstFault m (.notFound o.target)
  | tool (hversion : m.version = currentVersion) (hids : m.ids.Nodup) {before after : List Operation} {o : Operation}
      (hsplit : m.operations = before ++ o :: after) (hbefore : ∀ o ∈ before, o.target ∈ m.ids ∧ o.tool ∈ m.ids)
      (htarget : o.target ∈ m.ids) (htool : o.tool ∉ m.ids) : FirstFault m (.notFound o.tool)

theorem operands_mem_iff :
    (∀ o ∈ m.operations, ∀ id ∈ o.operands, id ∈ m.ids) ↔ ∀ o ∈ m.operations, o.target ∈ m.ids ∧ o.tool ∈ m.ids := by
  simp [Operation.operands]

theorem find?_operands_eq_some :
    o.operands.find? (· ∉ m.ids) = some id ↔
      o.target ∉ m.ids ∧ id = o.target ∨ o.target ∈ m.ids ∧ o.tool ∉ m.ids ∧ id = o.tool := by
  by_cases htarget : o.target ∈ m.ids
  · by_cases htool : o.tool ∈ m.ids
    · simp [Operation.operands, htarget, htool]
    · simp [Operation.operands, htarget, htool, eq_comm]
  · simp [Operation.operands, htarget, eq_comm]

/-- The first id that is there twice belongs to the first primitive that repeats an id. -/
theorem firstRepeat?_ids_eq_some :
    firstRepeat? [] m.ids = some id ↔
      ∃ before p after, m.primitives = before ++ p :: after ∧ (before.map (·.id)).Nodup ∧
        p.id ∈ before.map (·.id) ∧ id = p.id := by
  rw [firstRepeat?_eq_some]
  constructor
  · rintro ⟨front, back, hsplit, hfront, hid⟩
    obtain ⟨before, rest, hprimitives, rfl, hrest⟩ := List.map_eq_append_iff.mp hsplit
    obtain ⟨p, after, rfl, rfl, -⟩ := List.map_eq_cons_iff.mp hrest
    exact ⟨before, p, after, hprimitives, (firstRepeat?_eq_none.mp hfront).1, hid.resolve_left List.not_mem_nil, rfl⟩
  · rintro ⟨before, p, after, hsplit, hbefore, hrepeated, rfl⟩
    refine ⟨before.map (·.id), after.map (·.id), by rw [ids, hsplit, List.map_append, List.map_cons], ?_, .inr hrepeated⟩
    exact firstRepeat?_eq_none.mpr ⟨hbefore, fun _ _ => List.not_mem_nil⟩

theorem find?_missing_eq_some :
    (m.operations.flatMap (·.operands)).find? (· ∉ m.ids) = some id ↔
      ∃ before o after, m.operations = before ++ o :: after ∧ (∀ o ∈ before, o.target ∈ m.ids ∧ o.tool ∈ m.ids) ∧
        (o.target ∉ m.ids ∧ id = o.target ∨ o.target ∈ m.ids ∧ o.tool ∉ m.ids ∧ id = o.tool) := by
  have hnone : ∀ o : Operation, o.operands.find? (· ∉ m.ids) = none ↔ o.target ∈ m.ids ∧ o.tool ∈ m.ids := by
    intro o
    simp [Operation.operands]
  simp only [List.find?_flatMap, List.findSome?_eq_some_iff, find?_operands_eq_some, hnone]
  exact exists_congr fun before => exists_congr fun o => exists_congr fun after => and_congr_right fun _ => and_comm

/-- A model of the known version, with ids that differ, fails by its operations alone. -/
theorem check_of_nodup (hversion : m.version = currentVersion) (hids : m.ids.Nodup) :
    m.check = match (m.operations.flatMap (·.operands)).find? (· ∉ m.ids) with
      | some id => .error (.notFound id)
      | none => .ok () := by
  have hrepeat : firstRepeat? [] m.ids = none := firstRepeat?_eq_none.mpr ⟨hids, fun _ _ => List.not_mem_nil⟩
  cases hmissing : (m.operations.flatMap (·.operands)).find? (· ∉ m.ids) <;>
    simp only [check, if_neg (not_not.mpr hversion), hrepeat, hmissing]

theorem check_eq_error : m.check = .error e ↔ m.FirstFault e := by
  constructor
  · intro h
    by_cases hversion : m.version = currentVersion
    · cases hrepeat : firstRepeat? [] m.ids with
      | some id =>
        rw [check, if_neg (not_not.mpr hversion), hrepeat] at h
        obtain ⟨before, p, after, hsplit, hbefore, hrepeated, rfl⟩ := firstRepeat?_ids_eq_some.mp hrepeat
        obtain rfl := Except.error.inj h
        exact .repeated hversion hsplit hbefore hrepeated
      | none =>
        have hids := (firstRepeat?_eq_none.mp hrepeat).1
        rw [check_of_nodup hversion hids] at h
        split at h
        · next id hmissing =>
          obtain ⟨before, o, after, hsplit, hbefore, ⟨htarget, rfl⟩ | ⟨htarget, htool, rfl⟩⟩ :=
            find?_missing_eq_some.mp hmissing
          · obtain rfl := Except.error.inj h
            exact .target hversion hids hsplit hbefore htarget
          · obtain rfl := Except.error.inj h
            exact .tool hversion hids hsplit hbefore htarget htool
        · cases h
    · rw [check, if_pos hversion] at h
      obtain rfl := Except.error.inj h
      exact .version hversion
  · intro h
    cases h with
    | version hversion => rw [check, if_pos hversion]
    | repeated hversion hsplit hbefore hrepeated =>
      rw [check, if_neg (not_not.mpr hversion),
        firstRepeat?_ids_eq_some.mpr ⟨_, _, _, hsplit, hbefore, hrepeated, rfl⟩]
    | target hversion hids hsplit hbefore htarget =>
      rw [check_of_nodup hversion hids, find?_missing_eq_some.mpr ⟨_, _, _, hsplit, hbefore, .inl ⟨htarget, rfl⟩⟩]
    | tool hversion hids hsplit hbefore htarget htool =>
      rw [check_of_nodup hversion hids,
        find?_missing_eq_some.mpr ⟨_, _, _, hsplit, hbefore, .inr ⟨htarget, htool, rfl⟩⟩]

/-- An operation is recorded in a sound model just when the model is sound with it. -/
theorem pushOperation_eq_check (h : m.check = .ok ()) (o : Operation) :
    m.pushOperation o = (m.withOperation o).check.map fun _ => m.withOperation o := by
  obtain ⟨hversion, hids, hoperands⟩ := check_eq_ok.mp h
  have hlookup : (fun id => (m.get? id).isNone) = fun id => decide (id ∉ m.ids) := by
    funext id
    rw [Bool.eq_iff_iff, get?_isNone, decide_eq_true_iff]
  have hmissing : ((m.operations ++ [o]).flatMap (·.operands)).find? (· ∉ m.ids) =
      o.operands.find? (· ∉ m.ids) := by
    rw [List.flatMap_append, List.find?_append, find?_missing_eq_none.mpr hoperands, Option.none_or,
      List.flatMap_singleton]
  have hcheck : (m.withOperation o).check =
      match ((m.operations ++ [o]).flatMap (·.operands)).find? (· ∉ m.ids) with
      | some id => .error (.notFound id)
      | none => .ok () := check_of_nodup hversion hids
  rw [hcheck, hmissing, pushOperation, hlookup]
  cases o.operands.find? (· ∉ m.ids) with
  | some id => rfl
  | none => rfl

/-- The check of a model holds just when its version is known, its ids differ and its operations are between primitives
that it has, and reports the first fault if not. To a model that passes it just those operations can be added with which
it still does; for any other the report is the same. -/
theorem check_decides_integrity :
    (∀ m : Model, m.check = .ok () ↔
      m.version = 1 ∧ (m.primitives.map (·.id)).Nodup ∧
        ∀ o ∈ m.operations, o.target ∈ m.primitives.map (·.id) ∧ o.tool ∈ m.primitives.map (·.id)) ∧
      (∀ (m : Model) (e : ModelError), m.check = .error e ↔ m.FirstFault e) ∧
      ∀ m : Model, m.check = .ok () → ∀ o : Operation,
        m.pushOperation o = { m with operations := m.operations ++ [o] }.check.map fun _ =>
          { m with operations := m.operations ++ [o] } := by
  refine ⟨fun m => ?_, fun m e => check_eq_error, fun m h o => pushOperation_eq_check h o⟩
  rw [check_eq_ok, operands_mem_iff]
  rfl

/-- Two solids and their union. A solid may be taken away from itself; of two operands that are missing the target is
reported, whether the operation is recorded or comes with the model. -/
theorem check_decides_integrity_pair :
    let m : Model := ⟨1, [⟨"box-1", .cube 1, .origin⟩, ⟨"ball", .sphere 2, .origin⟩], [⟨.union, "ball", "box-1"⟩], 2⟩
    m.check = .ok () ∧ m.pushOperation ⟨.difference, "ball", "ball"⟩ = .ok (m.withOperation ⟨.difference, "ball", "ball"⟩) ∧
      m.pushOperation ⟨.difference, "rod", "cone"⟩ = .error (.notFound "rod") ∧
      (m.withOperation ⟨.difference, "rod", "cone"⟩).FirstFault (.notFound "rod") := by
  intro m
  obtain ⟨-, hfault, hrecord⟩ := check_decides_integrity
  have hsound : m.check = .ok () := by decide
  have hmissing : (m.withOperation ⟨.difference, "rod", "cone"⟩).check = .error (.notFound "rod") := by decide
  refine ⟨hsound, ?_, ?_, (hfault _ _).mp hmissing⟩
  · rw [hrecord m hsound]
    decide
  · rw [hrecord m hsound]
    exact congrArg (Except.map _) hmissing

end PromptCad.Model
