import DocTree.Proofs.Document.NormalForm
import DocTree.Proofs.Value.Equality

/- Where sanitizing stops. `faults` lists everything that cannot be stored in a value, in
   depth-first order, without a walk that stops or changes anything. `StopsAt` says of a
   value, a fault and a second value that the fault is the first one on the way down and
   that the second value is what is left behind: in every container on the way what comes
   before the fault is in normal form, and the rest is as it was.

   1. A storable beginning of a container is passed with its normal form done and nothing
      reported (`sanitizeFields_append`, `sanitizeItems_append`).
   2. Where a value stops, the walk ends with that fault, that value and one report
      (`sanitize_of_stopsAt`).
   3. Every value that is neither storable nor absent stops somewhere (`exists_stopsAt`),
      and that is at the first of its faults (`head?_faults_of_stopsAt`).
   4. What is left behind stops there once more, and is left as it is (`StopsAt.again`). -/
namespace DocTree

/-- What is reported of a fault. -/
def Unstorable.report : Unstorable → Event
  | invalidKey key => .dottedKey key
  | unsupported kind => .unsupported kind

theorem Unstorable.report_level (fault : Unstorable) : fault.report.level = .debug := by
  cases fault <;> rfl

namespace Value

/-! Faults in depth-first order. -/

mutual

/-- The faults inside a value: fields in their order, the key of each before its value, and
    items in their order. A foreign value is a fault as a whole, and an absent one is none. -/
def faults : Value → List Unstorable
  | array items => itemFaults items
  | object fields => fieldFaults fields
  | v => if v.isForeign then [.unsupported v.kind] else []

def itemFaults : List Value → List Unstorable
  | [] => []
  | v :: rest => v.faults ++ itemFaults rest

def fieldFaults : List (String × Value) → List Unstorable
  | [] => []
  | (key, v) :: rest =>
    (if hasSeparator key then [.invalidKey key] else []) ++ v.faults ++ fieldFaults rest

end

/-- The faults of a document, of which an absent root is one. -/
def rootFaults (v : Value) : List Unstorable :=
  if v.isAbsent then [.unsupported v.kind] else v.faults

theorem itemFaults_eq (items : List Value) : itemFaults items = items.flatMap faults := by
  induction items with
  | nil => rfl
  | cons v rest ih => rw [itemFaults, ih, List.flatMap_cons]

theorem fieldFaults_eq (fields : List (String × Value)) :
    fieldFaults fields = fields.flatMap fun e =>
      (if hasSeparator e.1 then [.invalidKey e.1] else []) ++ e.2.faults := by
  induction fields with
  | nil => rfl
  | cons e rest ih => rw [fieldFaults, ih, List.flatMap_cons]

theorem faults_eq_nil_iff (v : Value) : v.faults = [] ↔ Placeable v := by
  induction v with
  | array items ih =>
    rw [Placeable, or_iff_right (by simp [isAbsent]), storable_array, faults, itemFaults_eq,
      List.flatMap_eq_nil_iff]
    exact forall₂_congr ih
  | object fields ih =>
    rw [Placeable, or_iff_right (by simp [isAbsent]), storable_object, faults, fieldFaults_eq,
      List.flatMap_eq_nil_iff]
    refine forall₂_congr fun e he => ?_
    rw [List.append_eq_nil_iff, ih e he]
    exact and_congr_left fun _ => by simp
  | map | set =>
    refine iff_of_false (by simp [faults, isForeign]) fun h => ?_
    exact not_storable_of_isForeign rfl (h.resolve_left (by simp [isAbsent]))
  | _ =>
    rw [Placeable, storable_leaf rfl]
    simp [faults, isAbsent, isForeign]

theorem itemFaults_append {before : List Value} (h : Storable (array before))
    (after : List Value) : itemFaults (before ++ after) = itemFaults after := by
  have hnone : (array before).faults = [] := (faults_eq_nil_iff _).2 (.inr h)
  rw [faults, itemFaults_eq] at hnone
  rw [itemFaults_eq, itemFaults_eq, List.flatMap_append, hnone, List.nil_append]

theorem fieldFaults_append {before : List (String × Value)} (h : Storable (object before))
    (after : List (String × Value)) : fieldFaults (before ++ after) = fieldFaults after := by
  have hnone : (object before).faults = [] := (faults_eq_nil_iff _).2 (.inr h)
  rw [faults, fieldFaults_eq] at hnone
  rw [fieldFaults_eq, fieldFaults_eq, List.flatMap_append, hnone, List.nil_append]

/-! The first fault on the way down, and what is left behind. -/

/-- The walk over the first value ends at the fault and leaves the second value behind. -/
inductive StopsAt : Value → Unstorable → Value → Prop
  | foreign {v : Value} : v.isForeign = true → StopsAt v (.unsupported v.kind) v
  | key {before after : List (String × Value)} {key : String} {v : Value} :
      Storable (object before) → hasSeparator key = true →
      StopsAt (object (before ++ (key, v) :: after)) (.invalidKey key)
        (object (normalFields before ++ (key, v) :: after))
  | field {before after : List (String × Value)} {key : String} {v left : Value}
      {fault : Unstorable} :
      Storable (object before) → hasSeparator key = false → StopsAt v fault left →
      StopsAt (object (before ++ (key, v) :: after)) fault
        (object (normalFields before ++ (key, left) :: after))
  | item {before after : List Value} {v left : Value} {fault : Unstorable} :
      Storable (array before) → StopsAt v fault left →
      StopsAt (array (before ++ v :: after)) fault (array (normalItems before ++ left :: after))

/-- As `StopsAt`, for a document, of which the root may be absent. -/
def RootStopsAt (v : Value) (fault : Unstorable) (left : Value) : Prop :=
  v.isAbsent = true ∧ fault = .unsupported v.kind ∧ left = v ∨ StopsAt v fault left

theorem StopsAt.not_absent {v left : Value} {fault : Unstorable} (h : StopsAt v fault left) :
    v.isAbsent = false := by
  cases h with
  | foreign hv => cases v <;> simp [isForeign, isAbsent] at hv ⊢
  | _ => rfl

/-! The walk. -/

theorem sanitizeItems_pass {before : List Value} (done after : List Value) (events : List Event)
    (h : ∀ v ∈ before, v.isAbsent = true ∨ v.sanitize = ⟨v.normal, none, []⟩) :
    sanitizeItems done events (before ++ after) =
      sanitizeItems ((normalItems before).reverse ++ done) events after := by
  induction before generalizing done with
  | nil => rfl
  | cons v before ih =>
    obtain ⟨hv, hbefore⟩ := List.forall_mem_cons.1 h
    rw [List.cons_append, sanitizeItems, normalItems, List.reverse_cons, List.append_assoc]
    by_cases ha : v.isAbsent = true
    · rw [if_pos ha, if_pos ha]
      exact ih (null :: done) hbefore
    · rw [if_neg ha, if_neg ha, hv.resolve_left ha]
      simpa using ih (v.normal :: done) hbefore

theorem sanitizeFields_pass {before : List (String × Value)} (done : Fields Value)
    (after : List (String × Value)) (events : List Event)
    (h : ∀ e ∈ before, hasSeparator e.1 = false ∧
      (e.2.isAbsent = true ∨ e.2.sanitize = ⟨e.2.normal, none, []⟩)) :
    sanitizeFields done events (before ++ after) =
      sanitizeFields ((normalFields before).reverse ++ done) events after := by
  induction before generalizing done with
  | nil => rfl
  | cons e before ih =>
    obtain ⟨key, v⟩ := e
    obtain ⟨⟨hk, hv⟩, hbefore⟩ := List.forall_mem_cons.1 h
    rw [List.cons_append, sanitizeFields, normalFields, if_neg (by simp [hk])]
    by_cases ha : v.isAbsent = true
    · rw [if_pos ha, if_pos ha]
      exact ih done hbefore
    · rw [if_neg ha, if_neg ha, hv.resolve_left ha, List.reverse_cons, List.append_assoc]
      simpa using ih ((key, v.normal) :: done) hbefore

theorem sanitize_of_storable {v : Value} (h : Storable v) : v.sanitize = ⟨v.normal, none, []⟩ := by
  induction v with
  | array items ih =>
    rw [storable_array] at h
    have hwalk := sanitizeItems_pass [] [] [] fun v hv => (h v hv).imp_right (ih v hv)
    rw [List.append_nil, List.append_nil] at hwalk
    rw [sanitize, hwalk, sanitizeItems, List.reverse_reverse, normal]
  | object fields ih =>
    rw [storable_object] at h
    have hwalk := sanitizeFields_pass [] [] [] fun e he =>
      ⟨(h e he).1, (h e he).2.imp_right (ih e he)⟩
    rw [List.append_nil, List.append_nil] at hwalk
    rw [sanitize, hwalk, sanitizeFields, List.reverse_reverse, normal]
  | map | set => exact absurd h (not_storable_of_isForeign rfl)
  | _ =>
    rw [storable_leaf rfl] at h
    simp [isAbsent, isForeign, sanitize, sanitizeLeaf, kind, Kind.isScalar, normal] at h ⊢

theorem sanitizeItems_append {before : List Value} (h : Storable (array before))
    (after : List Value) :
    sanitizeItems [] [] (before ++ after) = sanitizeItems (normalItems before).reverse [] after := by
  have hwalk := sanitizeItems_pass [] after [] fun v hv =>
    ((storable_array before).1 h v hv).imp_right sanitize_of_storable
  rwa [List.append_nil] at hwalk

theorem sanitizeFields_append {before : List (String × Value)} (h : Storable (object before))
    (after : List (String × Value)) :
    sanitizeFields [] [] (before ++ after) =
      sanitizeFields (normalFields before).reverse [] after := by
  have hpass := (storable_object before).1 h
  have hwalk := sanitizeFields_pass [] after [] fun e he =>
    ⟨(hpass e he).1, (hpass e he).2.imp_right sanitize_of_storable⟩
  rwa [List.append_nil] at hwalk

/-- The walk ends where the value stops, with one report. -/
theorem sanitize_of_stopsAt {v left : Value} {fault : Unstorable} (h : StopsAt v fault left) :
    v.sanitize = ⟨left, some fault, [fault.report]⟩ := by
  induction h with
  | @foreign v hv =>
    cases v <;> simp [isForeign, sanitize, sanitizeLeaf, kind, Kind.isScalar,
      Unstorable.report] at hv ⊢
  | key hbefore hkey =>
    rw [sanitize, sanitizeFields_append hbefore]
    simp [sanitizeFields, hkey, Unstorable.report]
  | field hbefore hkey hv ih =>
    rw [sanitize, sanitizeFields_append hbefore]
    simp [sanitizeFields, hkey, hv.not_absent, ih]
  | item hbefore hv ih =>
    rw [sanitize, sanitizeItems_append hbefore]
    simp [sanitizeItems, hv.not_absent, ih]

/-! Which values stop, and at which fault. -/

theorem exists_stopsAt {v : Value} (h : ¬ Placeable v) : ∃ fault left, StopsAt v fault left := by
  induction v with
  | array items ih =>
    have hitems : ¬ ∀ v ∈ items, Placeable v := fun hall => h (.inr ((storable_array items).2 hall))
    obtain ⟨before, v, after, rfl, hbefore, hv⟩ := exists_first hitems
    obtain ⟨fault, left, hstop⟩ := ih v (by simp) hv
    exact ⟨fault, _, .item ((storable_array before).2 hbefore) hstop⟩
  | object fields ih =>
    have hfields : ¬ ∀ e ∈ fields, hasSeparator e.1 = false ∧ Placeable e.2 :=
      fun hall => h (.inr ((storable_object fields).2 hall))
    obtain ⟨before, ⟨key, v⟩, after, rfl, hbefore, he⟩ := exists_first hfields
    have hstorable : Storable (object before) := (storable_object before).2 hbefore
    -- a key is a fault of its own, whatever stands under it
    by_cases hkey : hasSeparator key = true
    · exact ⟨_, _, .key hstorable hkey⟩
    · have hkey : hasSeparator key = false := by simpa using hkey
      obtain ⟨fault, left, hstop⟩ := ih (key, v) (by simp) fun hv => he ⟨hkey, hv⟩
      exact ⟨fault, _, .field hstorable hkey hstop⟩
  | date | bytes | map | set => exact ⟨_, _, .foreign rfl⟩
  | undefined | hole => exact absurd (.inl rfl) h
  | _ => exact absurd (.inr ((storable_leaf rfl).2 ⟨rfl, rfl⟩)) h

/-- What a value stops at is the first of its faults. -/
theorem head?_faults_of_stopsAt {v left : Value} {fault : Unstorable} (h : StopsAt v fault left) :
    v.faults.head? = some fault := by
  induction h with
  | @foreign v hv => cases v <;> simp [isForeign, faults] at hv ⊢
  | key hbefore hkey =>
    rw [faults, fieldFaults_append hbefore, fieldFaults, if_pos hkey]
    rfl
  | field hbefore hkey hv ih =>
    rw [faults, fieldFaults_append hbefore, fieldFaults, if_neg (by simp [hkey]), List.nil_append,
      List.head?_append, ih]
    rfl
  | item hbefore hv ih =>
    rw [faults, itemFaults_append hbefore, itemFaults, List.head?_append, ih]
    rfl

/-! Documents, of which the root may be absent. -/

theorem storable_or_rootStopsAt (v : Value) :
    Storable v ∨ ∃ fault left, RootStopsAt v fault left := by
  by_cases ha : v.isAbsent = true
  · exact .inr ⟨_, _, .inl ⟨ha, rfl, rfl⟩⟩
  · by_cases hv : Storable v
    · exact .inl hv
    · obtain ⟨fault, left, hstop⟩ := exists_stopsAt fun h => hv (h.resolve_left ha)
      exact .inr ⟨fault, left, .inr hstop⟩

theorem sanitize_of_rootStopsAt {v left : Value} {fault : Unstorable}
    (h : RootStopsAt v fault left) : v.sanitize = ⟨left, some fault, [fault.report]⟩ := by
  obtain ⟨ha, rfl, hleft⟩ | hstop := h
  · subst hleft
    cases left <;> simp [isAbsent, sanitize, sanitizeLeaf, kind, Kind.isScalar,
      Unstorable.report] at ha ⊢
  · exact sanitize_of_stopsAt hstop

theorem head?_rootFaults_of_rootStopsAt {v left : Value} {fault : Unstorable}
    (h : RootStopsAt v fault left) : v.rootFaults.head? = some fault := by
  obtain ⟨ha, rfl, rfl⟩ | hstop := h
  · rw [rootFaults, if_pos ha]
    rfl
  · rw [rootFaults, if_neg (by simp [hstop.not_absent])]
    exact head?_faults_of_stopsAt hstop

theorem rootFaults_of_storable {v : Value} (h : Storable v) : v.rootFaults = [] := by
  rw [rootFaults, if_neg (by simp [h.1])]
  exact (faults_eq_nil_iff v).2 (.inr h)

/-- **Sanitizing fails at the first fault in depth-first order**, with that fault. What it
    leaves behind is in normal form before the fault and untouched from there on, in every
    container on the way. The fault is reported once, at debug level, and nothing is
    reported of a value that has none. -/
theorem sanitize_stops_at_first_fault (v : Value) :
    v.sanitize.fault? = v.rootFaults.head? ∧
    (∀ fault left, v.sanitize.fault? = some fault ∧ v.sanitize.value = left ↔
      RootStopsAt v fault left) ∧
    v.sanitize.events = v.sanitize.fault?.toList.map Unstorable.report ∧
    ∀ event ∈ v.sanitize.events, event.level = .debug := by
  rcases storable_or_rootStopsAt v with hv | ⟨fault, left, hstop⟩
  · rw [sanitize_of_storable hv, rootFaults_of_storable hv]
    refine ⟨rfl, fun fault left => ⟨fun h => (nomatch h.1), fun hstop => ?_⟩, rfl, by simp⟩
    -- the walk over a storable value has no fault to stop at
    have hwalk := sanitize_of_rootStopsAt hstop
    rw [sanitize_of_storable hv] at hwalk
    cases hwalk
  · rw [sanitize_of_rootStopsAt hstop, head?_rootFaults_of_rootStopsAt hstop]
    refine ⟨rfl, fun fault' left' => ⟨?_, fun hstop' => ?_⟩, rfl, ?_⟩
    · rintro ⟨hfault, rfl⟩
      cases hfault
      exact hstop
    · have hwalk := sanitize_of_rootStopsAt hstop'
      rw [sanitize_of_rootStopsAt hstop] at hwalk
      cases hwalk
      exact ⟨rfl, rfl⟩
    · simp [fault.report_level]

/-- Two faults behind an absent field and a hole: the key comes first, although its value is
    absent, and what follows it keeps its absent field. -/
theorem sanitize_stops_at_first_fault_nested :
    let v := object [("a", undefined),
      ("b", array [hole, object [("c", undefined), ("d.e", hole), ("f", set [])]]),
      ("g", undefined)]
    v.sanitize.fault? = some (.invalidKey "d.e") ∧
      RootStopsAt v (.invalidKey "d.e")
        (object [("b", array [null, object [("d.e", hole), ("f", set [])]]), ("g", undefined)]) := by
  intro v
  have hfault : v.sanitize.fault? = some (.invalidKey "d.e") := by decide +kernel
  have hleft : v.sanitize.value =
      object [("b", array [null, object [("d.e", hole), ("f", set [])]]), ("g", undefined)] := by
    cbv
  exact ⟨hfault, ((sanitize_stops_at_first_fault v).2.1 _ _).1 ⟨hfault, hleft⟩⟩

/-! ## Sanitizing what was sanitized

    A walk that got through left a normal form, which is storable and is its own normal form
    (`storable_normal`, `normal_normal`). A walk that stopped left in every container on the way
    a beginning in normal form before the fault, so a second walk passes it without a change and
    stops at the same place (`StopsAt.again`), although the fault may have moved forward in the
    objects that lost fields. In the end a walk leaves alone exactly the values that are plain
    throughout. -/

/-! Normal forms of normal forms. -/

theorem normal_of_absentFree {v : Value} (h : AbsentFree v) : v.normal = v := by
  induction v with
  | array items ih =>
    obtain ⟨-, hitems⟩ := (throughout_array items).1 h
    rw [normal, normalItems_eq]
    apply congrArg array
    apply map_eq_self
    intro v hv
    have hpresent : v.isAbsent = false := hitems v hv v (.self v)
    simp [hpresent, ih v hv (hitems v hv)]
  | object fields ih =>
    obtain ⟨-, hfields⟩ := (throughout_object fields).1 h
    have hpresent : ∀ e ∈ fields, (!e.2.isAbsent) = true := by
      intro e he
      simpa using hfields e he e.2 (.self e.2)
    rw [normal, normalFields_eq, List.filter_eq_self.2 hpresent]
    apply congrArg object
    apply map_eq_self
    intro e he
    rw [ih e he (hfields e he)]
  | _ => rfl

theorem storable_of_plain {v : Value} (h : Throughout Plain v) : Storable v :=
  ⟨(h v (.self v)).1, h.mono fun _ hx => hx.2.1, h.mono fun _ hx => hx.2.2⟩

section
variable {v : Value}

theorem storable_normal (h : Storable v) : Storable v.normal := storable_of_plain (plain_normal h)

theorem normal_normal (h : Storable v) : v.normal.normal = v.normal := by
  apply normal_of_absentFree
  exact (plain_normal h).mono fun _ hx => hx.1

end

/-! The same for the beginning of a container. -/

section
variable {items : List Value} {fields : List (String × Value)}

theorem storable_normalItems (h : Storable (array items)) :
    Storable (array (normalItems items)) := storable_normal h

theorem storable_normalFields (h : Storable (object fields)) :
    Storable (object (normalFields fields)) := storable_normal h

theorem normalItems_normalItems (h : Storable (array items)) :
    normalItems (normalItems items) = normalItems items := array.inj (normal_normal h)

theorem normalFields_normalFields (h : Storable (object fields)) :
    normalFields (normalFields fields) = normalFields fields := object.inj (normal_normal h)

end

/-! What a walk that stopped left behind. -/

section
variable {v left : Value} {fault : Unstorable}

/-- What is left behind stops at the same fault, and is left behind as it is. -/
theorem StopsAt.again (h : StopsAt v fault left) : StopsAt left fault left := by
  induction h with
  | foreign hv => exact .foreign hv
  | @key before after key v hbefore hkey =>
    have hstop : StopsAt (object (normalFields before ++ (key, v) :: after)) (.invalidKey key)
        (object (normalFields (normalFields before) ++ (key, v) :: after)) :=
      .key (storable_normalFields hbefore) hkey
    rwa [normalFields_normalFields hbefore] at hstop
  | @field before after key v left fault hbefore hkey _ ih =>
    have hstop : StopsAt (object (normalFields before ++ (key, left) :: after)) fault
        (object (normalFields (normalFields before) ++ (key, left) :: after)) :=
      .field (storable_normalFields hbefore) hkey ih
    rwa [normalFields_normalFields hbefore] at hstop
  | @item before after v left fault hbefore _ ih =>
    have hstop : StopsAt (array (normalItems before ++ left :: after)) fault
        (array (normalItems (normalItems before) ++ left :: after)) :=
      .item (storable_normalItems hbefore) ih
    rwa [normalItems_normalItems hbefore] at hstop

theorem RootStopsAt.again (h : RootStopsAt v fault left) : RootStopsAt left fault left := by
  obtain ⟨ha, hfault, rfl⟩ | hstop := h
  · exact .inl ⟨ha, hfault, rfl⟩
  · exact .inr hstop.again

end

/-- **Sanitizing again changes nothing and fails in the same way.** The second walk ends as the
    first one did, with the same fault or none and the same reports, and leaves what the
    first one left. And a walk gets through without a change exactly where nothing is
    absent, nothing is foreign and no key holds the separator. -/
theorem sanitize_again (v : Value) :
    v.sanitize.value.sanitize = v.sanitize ∧
    (v.sanitize.fault? = none ∧ v.sanitize.value = v ↔
      AbsentFree v ∧ ForeignFree v ∧ DotFree v) := by
  constructor
  · rcases storable_or_rootStopsAt v with hv | ⟨fault, left, hstop⟩
    · rw [sanitize_of_storable hv]
      show v.normal.sanitize = _
      rw [sanitize_of_storable (storable_normal hv), normal_normal hv]
    · rw [sanitize_of_rootStopsAt hstop]
      exact sanitize_of_rootStopsAt hstop.again
  · rw [sanitize_fault?_iff]
    constructor
    · intro h
      obtain ⟨hv, hsame⟩ := h
      rw [sanitize_of_storable hv] at hsame
      have hplain := plain_normal hv
      -- the normal form is the value itself
      replace hsame : v.normal = v := hsame
      rw [hsame] at hplain
      exact ⟨hplain.mono fun _ hx => hx.1, hv.2⟩
    · intro h
      obtain ⟨habsent, hforeign, hdots⟩ := h
      have hv : Storable v := ⟨habsent v (.self v), hforeign, hdots⟩
      rw [sanitize_of_storable hv]
      exact ⟨hv, normal_of_absentFree habsent⟩

/-- A fault that the first walk moved forward, behind fields that it removed at two levels. -/
example :
    let v := object [("a", undefined), ("b", array [hole, object [("c", hole), ("d", set [])]])]
    v.sanitize.value.sanitize.fault? = some (.unsupported .set) := by decide +kernel

end Value
end DocTree
