import DocTree.Document.Update
import DocTree.Proofs.Document.Congruence
import DocTree.Proofs.Document.RoundTrip
import DocTree.Proofs.Document.WriteLaws

/- What an update reports. A write returns no verdict, so the events are the only record of
   what was lost. One assignment either reports nothing and leaves its value in the slot of
   its path, or reports the first segment that is refused and leaves the document as it was
   (`assign_cases`). Whether a field is lost depends on all fields before it: they may have
   put an array in its way, or taken one away. So each assignment is judged on the document
   that it finds (`before`), and the events of an update are those of its assignments, one
   after another, each behind its announcement (`assignAll_events`). An update that reports no
   loss can be queried back. -/
namespace DocTree.Value
open Writes

/-! One assignment. -/

theorem assign_events (doc v : Value) (path : String) :
    (doc.assign path v).events =
      ((doc.write (Path.parse path) v).refused.map (.writeSkipped path)).toList := by
  rw [assign]
  cases (doc.write (Path.parse path) v).refused <;> rfl

theorem filter_level_assign_events (doc v : Value) (path : String) (level : Level) :
    (doc.assign path v).events.filter (·.level = level) =
      if level = .debug then (doc.assign path v).events else [] := by
  rw [assign_events]
  cases (doc.write (Path.parse path) v).refused with
  | none => cases level <;> rfl
  | some segment => cases level <;> rfl

/-- An assignment reports nothing and has its effect, or has none and reports the first segment
    that is refused. -/
theorem assign_cases (doc v : Value) (path : String) :
    ((doc.assign path v).events = [] ∧ ¬ Blocked doc (Path.parse path) ∧
      (doc.assign path v).value.slotAt? path = some v) ∨
    ∃ segment, (doc.assign path v).events = [.writeSkipped path segment] ∧
      FirstRefused doc (Path.parse path) segment ∧ (doc.assign path v).value = doc := by
  rw [assign_value, assign_events]
  cases h : (doc.write (Path.parse path) v).refused with
  | none =>
    have hfree := (refused_eq_none_iff doc (Path.parse path) v).1 h
    exact .inl ⟨rfl, hfree, slot?_write_self v hfree⟩
  | some segment =>
    have hfirst := (refused_eq_some_iff doc (Path.parse path) v segment).1 h
    have hb := (blocked_iff_exists_firstRefused doc (Path.parse path)).2 ⟨segment, hfirst⟩
    exact .inr ⟨segment, rfl, hfirst, write_of_blocked v hb⟩

/-! Assignments one after another. -/

theorem assignAll_cons_events (doc : Value) (e : String × Value) (fields : Fields Value) :
    (doc.assignAll (e :: fields)).events = .assigning e.1 ::
      ((doc.assign e.1 e.2).events ++ ((doc.assign e.1 e.2).value.assignAll fields).events) := rfl

/-- The document that the field at a place finds: as the fields before it left it. -/
def before (doc : Value) (fields : Fields Value) (i : Nat) : Value :=
  (doc.update (.assign (fields.take i))).value

@[simp] theorem before_zero (doc : Value) (fields : Fields Value) : doc.before fields 0 = doc := rfl

@[simp] theorem before_cons_succ (doc : Value) (e : String × Value) (fields : Fields Value)
    (i : Nat) : doc.before (e :: fields) (i + 1) = (doc.assign e.1 e.2).value.before fields i := rfl

theorem before_succ {fields : Fields Value} {i : Nat} {path : String} {v : Value} (doc : Value)
    (h : fields[i]? = some (path, v)) :
    doc.before fields (i + 1) = ((doc.before fields i).assign path v).value := by
  induction fields generalizing doc i with
  | nil => cases h
  | cons e fields ih =>
    cases i with
    | zero =>
      obtain rfl : e = (path, v) := Option.some.inj h
      rw [before_cons_succ, before_zero, before_zero]
    | succ i =>
      rw [before_cons_succ, before_cons_succ]
      exact ih (doc.assign e.1 e.2).value h

/-- The events of an update are those of its assignments, each behind its announcement. -/
theorem assignAll_events (doc : Value) (fields : Fields Value) :
    (doc.assignAll fields).events = (fields.mapIdx fun i e =>
      .assigning e.1 :: ((doc.before fields i).assign e.1 e.2).events).flatten := by
  induction fields generalizing doc with
  | nil => rfl
  | cons e fields ih =>
    rw [assignAll_cons_events, ih, List.mapIdx_cons, List.flatten_cons, List.cons_append]
    simp only [before_zero, before_cons_succ]

theorem filter_trace_assignAll_events (doc : Value) (fields : Fields Value) :
    (doc.assignAll fields).events.filter (·.level = .trace) =
      fields.map fun e => .assigning e.1 := by
  induction fields generalizing doc with
  | nil => rfl
  | cons e fields ih =>
    rw [assignAll_cons_events, List.filter_cons_of_pos (by rfl), List.filter_append,
      filter_level_assign_events, if_neg (by decide), ih, List.nil_append, List.map_cons]

theorem filter_debug_assignAll_events (doc : Value) (fields : Fields Value) :
    (doc.assignAll fields).events.filter (·.level = .debug) =
      (fields.mapIdx fun i e => ((doc.before fields i).assign e.1 e.2).events).flatten := by
  induction fields generalizing doc with
  | nil => rfl
  | cons e fields ih =>
    rw [assignAll_cons_events, List.filter_cons_of_neg (by simp [Event.level]), List.filter_append,
      filter_level_assign_events, if_pos rfl, ih, List.mapIdx_cons, List.flatten_cons]
    simp only [before_zero, before_cons_succ]

/-- **Every lost assignment is reported exactly once, and no applied one is.** The events of an
    update are, field by field in their order, one at trace level that announces the path, and
    behind it what the assignment reports on the document that it finds. Those at debug level
    are the reports of lost assignments, and nothing else. An assignment reports nothing where
    no array is in its way, and then it leaves its value in the slot of its path. Otherwise it
    reports its path with the first segment that is no index and comes to an array, and then it
    leaves the document as it found it. -/
theorem update_reports_lost (doc : Value) (fields : Fields Value) :
    (doc.update (.assign fields)).events = (fields.mapIdx fun i e =>
      .assigning e.1 :: ((doc.before fields i).assign e.1 e.2).events).flatten ∧
    (doc.update (.assign fields)).events.filter (·.level = .trace) =
      fields.map (fun e => .assigning e.1) ∧
    (doc.update (.assign fields)).events.filter (·.level = .debug) = (fields.mapIdx fun i e =>
      ((doc.before fields i).assign e.1 e.2).events).flatten ∧
    ∀ i path v, fields[i]? = some (path, v) →
      (((doc.before fields i).assign path v).events = [] ∧
        ¬ Blocked (doc.before fields i) (Path.parse path) ∧
        (doc.before fields (i + 1)).slotAt? path = some v) ∨
      ∃ segment, ((doc.before fields i).assign path v).events = [.writeSkipped path segment] ∧
        FirstRefused (doc.before fields i) (Path.parse path) segment ∧
        doc.before fields (i + 1) = doc.before fields i := by
  refine ⟨assignAll_events doc fields, filter_trace_assignAll_events doc fields,
    filter_debug_assignAll_events doc fields, fun i path v h => ?_⟩
  rw [before_succ doc h]
  exact assign_cases (doc.before fields i) v path

/-- The first field makes a list, which refuses a name in the second; the third puts `null` in
    the place of the list, so that the fourth, with the same name, is applied. -/
theorem update_reports_lost_made_list :
    let doc := object [("n", null)]
    let fields := [("n.1", null), ("n.x.0", null), ("n", null), ("n.x", bool true)]
    (doc.update (.assign fields)).events = [.assigning "n.1", .assigning "n.x.0",
      .writeSkipped "n.x.0" "x", .assigning "n", .assigning "n.x"] ∧
    (FirstRefused (doc.before fields 1) (Path.parse "n.x.0") "x" ∧
      doc.before fields 2 = doc.before fields 1) ∧
    ¬ Blocked (doc.before fields 3) (Path.parse "n.x") ∧
      (doc.before fields 4).slotAt? "n.x" = some (bool true) := by
  intro doc fields
  have hevents : (doc.update (.assign fields)).events = [.assigning "n.1", .assigning "n.x.0",
      .writeSkipped "n.x.0" "x", .assigning "n", .assigning "n.x"] := by decide +kernel
  have hlost : ((doc.before fields 1).assign "n.x.0" null).events =
      [.writeSkipped "n.x.0" "x"] := by decide +kernel
  have happlied : ((doc.before fields 3).assign "n.x" (bool true)).events = [] := by
    decide +kernel
  obtain ⟨-, -, -, hcases⟩ := update_reports_lost doc fields
  refine ⟨hevents, ?_, ?_⟩
  · rcases hcases 1 "n.x.0" null rfl with ⟨hnone, -⟩ | ⟨segment, hsome, hfirst⟩
    · cases hlost.symm.trans hnone
    · cases hlost.symm.trans hsome
      exact hfirst
  · rcases hcases 3 "n.x" (bool true) rfl with ⟨-, hfree⟩ | ⟨segment, hsome, -⟩
    · exact hfree
    · cases happlied.symm.trans hsome

/-! ## An update that was applied can be queried back

    A write reads back at once (`read_write`) and stays readable while the later ones go along
    paths that diverge from its own (`read_run_of_diverge`), so after an update none of whose
    writes was skipped every path reads its value (`read_run_of_mem`). What is left is which
    values a condition made from them accepts: a value that holds a NaN does not equal itself,
    and a value of a foreign kind is never expected (`accepts_ofValue_self`). -/

theorem read_run_of_diverge (doc : Value) {ws : Writes} {q : Path}
    (h : ∀ w ∈ ws, Diverge w.1 q) : (doc.run ws).read q = doc.read q := by
  induction ws generalizing doc with
  | nil => rfl
  | cons w ws ih =>
    obtain ⟨hw, hws⟩ := List.forall_mem_cons.1 h
    rw [run_cons, ih _ hws, read_write_of_diverge doc w.2 hw]

/-! Updates none of whose writes is skipped. -/

/-- Assigning the fields reports no write that was given up. -/
def Applied (doc : Value) (fields : List (String × Value)) : Prop :=
  ∀ path segment, Event.writeSkipped path segment ∉ (doc.assignAll fields).events

/-- Each write has to be possible on what the ones before it left. -/
theorem applied_cons (doc : Value) (path : String) (v : Value) (fields : List (String × Value)) :
    Applied doc ((path, v) :: fields) ↔
      ¬ Blocked doc (Path.parse path) ∧ Applied (doc.assign path v).value fields := by
  unfold Applied
  rw [assignAll_cons_events]
  rcases assign_cases doc v path with ⟨hnone, hfree, -⟩ | ⟨segment, hsome, hfirst, -⟩
  · simp [hnone, hfree]
  · have hb := (blocked_iff_exists_firstRefused doc (Path.parse path)).2 ⟨segment, hfirst⟩
    refine iff_of_false (fun happlied => ?_) fun hfree => hfree.1 hb
    exact happlied path segment (by simp [hsome])

/-- After an applied update along diverging paths every path reads its value, a hole as
    absent. -/
theorem read_run_of_mem {doc : Value} {fields : List (String × Value)}
    (hdiverge : fields.Pairwise fun d e => Diverge (Path.parse d.1) (Path.parse e.1))
    (happlied : Applied doc fields) {e : String × Value} (he : e ∈ fields) :
    (doc.run (ofFields fields)).readAt e.1 = if e.2.isHole then undefined else e.2 := by
  induction fields generalizing doc with
  | nil => cases he
  | cons d fields ih =>
    obtain ⟨hd, hdiverge⟩ := List.pairwise_cons.1 hdiverge
    obtain ⟨hfree, happlied⟩ := (applied_cons doc d.1 d.2 fields).1 happlied
    rw [assign_value] at happlied
    rcases List.mem_cons.1 he with rfl | he
    · have hlater : ∀ w ∈ ofFields fields, Diverge w.1 (Path.parse e.1) := by
        intro w hw
        obtain ⟨d, hdmem, rfl⟩ := List.mem_map.1 hw
        exact (hd d hdmem).symm
      exact (read_run_of_diverge _ hlater).trans (read_write e.2 hfree)
    · exact ih hdiverge happlied he

/-! What a condition made from a value makes of that value. -/

theorem equal_readBack (v : Value) : v.equal (if v.isHole then undefined else v) = v.equal v := by
  cases v <;> rfl

theorem accepts_ofValue_self {v : Value} (hv : DistinctKeys v) :
    (Matcher.ofValue v).accepts (if v.isHole then undefined else v) = true ↔
      NaNFree v ∧ v.isForeign = false := by
  have hexpected : (v.kind.isStorable || v.kind == .undefined) = true ↔ v.isForeign = false := by
    rw [isForeign_eq_kind, Bool.not_eq_false']
  rw [Matcher.accepts_ofValue, Bool.and_eq_true, hexpected, equal_readBack, equal_self_iff hv]
  exact and_comm

/-- **An applied update can be queried back.** When no two of the paths meet and no write is
    skipped, the document after the update passes the query that asks every path for the
    value assigned there, unless one of the values holds a NaN or is of a foreign kind. -/
theorem query_accepts_update {doc : Value} {fields : Fields Value}
    (hkeys : ∀ e ∈ fields, DistinctKeys e.2)
    (hdiverge : fields.Pairwise fun d e => Diverge (Path.parse d.1) (Path.parse e.1))
    (happlied : Applied doc fields) :
    Query.accepts (fields.map fun e => (e.1, .ofValue e.2)) (doc.update (.assign fields)).value =
        true ↔
      ∀ e ∈ fields, NaNFree e.2 ∧ e.2.isForeign = false := by
  show Query.accepts _ (doc.assignAll fields).value = true ↔ _
  rw [Query.accepts, List.all_map, List.all_eq_true, assignAll_value]
  refine forall₂_congr fun e he => ?_
  rw [← accepts_ofValue_self (hkeys e he), ← read_run_of_mem hdiverge happlied he]
  rfl

/-- A write through a scalar, which pads, then one into the padding, and absent values that
    the query finds again; and a NaN that it does not. -/
theorem query_accepts_update_padded :
    let doc := object [("tags", array [null]), ("size", number ⟨0⟩)]
    let fields := [("size.02.unit", string "mm"), ("size.1", hole), ("tags.0", array [undefined])]
    let nan := [("size.02", array [number ⟨0x7ff8000000000000⟩])]
    fields.Pairwise (fun d e => Diverge (Path.parse d.1) (Path.parse e.1)) ∧ Applied doc fields ∧
      Query.accepts (fields.map fun e => (e.1, .ofValue e.2))
        (doc.update (.assign fields)).value = true ∧
      ¬ Query.accepts (nan.map fun e => (e.1, .ofValue e.2))
        (doc.update (.assign nan)).value = true := by
  intro doc fields nan
  have hdiverge : fields.Pairwise fun d e => Diverge (Path.parse d.1) (Path.parse e.1) := by
    decide +kernel
  have happlied : Applied doc fields := by
    have hevents : (doc.assignAll fields).events =
        [.assigning "size.02.unit", .assigning "size.1", .assigning "tags.0"] := by
      decide +kernel
    simp [Applied, hevents]
  have happlied' : Applied doc nan := by
    have hevents : (doc.assignAll nan).events = [.assigning "size.02"] := by decide +kernel
    simp [Applied, hevents]
  refine ⟨hdiverge, happlied, ?_, ?_⟩
  · rw [query_accepts_update (by decide +kernel) hdiverge happlied]
    decide +kernel
  · rw [query_accepts_update (by decide +kernel) (List.pairwise_singleton _ _) happlied']
    decide +kernel

end DocTree.Value
