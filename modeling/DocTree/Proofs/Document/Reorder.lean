import DocTree.Proofs.Document.Runs
import DocTree.Proofs.Value.Alike

/- Writes in another order. Two paths are `Independent` in a document when neither leads
   on from the other's end and, where they part, they do not share an item and agree on the
   container: either it is in the document, or both segments call for one of the same kind.
   Then writes at them can be exchanged, and a run in any other order leaves the same tree
   up to the order of fields (`orderFree`).

   The order shows in three places, and the three conditions are about these: which of two
   writes to one place is the last one, what a fresh container is, and where a new field
   stands. Writes into different children do not meet, and those into one child are
   independent in that child (`Independent.inside`), so nothing has to be said about the
   documents in between. -/
namespace DocTree.Value
open Writes

/-- The paths part at some place and not into one item of an array, and what holds both
    sides is a container of the document, or would be created of one kind by either. -/
def Independent (doc : Value) (p q : Path) : Prop :=
  ∃ common s t p' q', p = common ++ s :: p' ∧ q = common ++ t :: q' ∧ s ≠ t ∧ ¬ SameIndex s t ∧
    ((∃ inner, doc.slot? common = some inner ∧ inner.isContainer = true) ∨
      Path.isIndex s = Path.isIndex t)

section
variable {doc : Value} {s t : String} {p q : Path}

theorem Independent.apart (h : Independent doc (s :: p) (t :: q)) (hne : s ≠ t) :
    ¬ SameIndex s t ∧ (doc.isContainer = true ∨ Path.isIndex s = Path.isIndex t) := by
  obtain ⟨common, a, b, p', q', hp, hq, -, hidx, hkind⟩ := h
  cases common with
  | nil =>
    obtain ⟨rfl, -⟩ := List.cons.inj hp
    obtain ⟨rfl, -⟩ := List.cons.inj hq
    refine ⟨hidx, hkind.imp_left ?_⟩
    intro hinner
    obtain ⟨inner, hslot, hc⟩ := hinner
    obtain rfl : doc = inner := Option.some.inj hslot
    exact hc
  | cons c common =>
    have hs : s = c := (List.cons.inj hp).1
    have ht : t = c := (List.cons.inj hq).1
    exact absurd (hs.trans ht.symm) hne

theorem Independent.inside {slot : Slot} (h : Independent doc (s :: p) (s :: q))
    (hslot : doc.slotFor? s = some slot) : Independent slot.content p q := by
  obtain ⟨common, a, b, p', q', hp, hq, hne, hidx, hkind⟩ := h
  cases common with
  | nil =>
    have ha : s = a := (List.cons.inj hp).1
    have hb : s = b := (List.cons.inj hq).1
    exact absurd (ha.symm.trans hb) hne
  | cons c common =>
    obtain ⟨rfl, rfl⟩ := List.cons.inj hp
    obtain ⟨-, rfl⟩ := List.cons.inj hq
    refine ⟨common, a, b, p', q', rfl, rfl, hne, hidx, hkind.imp_left ?_⟩
    intro hinner
    obtain ⟨inner, hinner, hc⟩ := hinner
    obtain ⟨child, hchild, hinner⟩ := Option.bind_eq_some_iff.1 hinner
    rw [content_of_child? hslot hchild]
    exact ⟨inner, hinner, hc⟩

/-- In a value that is no container all is still to be created, so that paths independent
    in it are so in any document. -/
theorem Independent.of_leaf (h : Independent doc p q) (hdoc : doc.isContainer = false)
    (doc' : Value) : Independent doc' p q := by
  obtain ⟨common, s, t, p', q', hp, hq, hne, hidx, hkind⟩ := h
  refine ⟨common, s, t, p', q', hp, hq, hne, hidx, .inr (hkind.resolve_left ?_)⟩
  intro hinner
  obtain ⟨inner, hslot, hc⟩ := hinner
  cases common with
  | nil =>
    obtain rfl : doc = inner := Option.some.inj hslot
    rw [hdoc] at hc
    cases hc
  | cons c common =>
    rw [slot?, child?_of_leaf hdoc] at hslot
    cases hslot

theorem not_independent_nil_left : ¬ Independent doc [] q := by
  intro h
  obtain ⟨common, s, t, p', q', hp, -⟩ := h
  exact List.append_ne_nil_of_right_ne_nil common (List.cons_ne_nil s p') hp.symm

theorem not_independent_nil_right : ¬ Independent doc p [] := by
  intro h
  obtain ⟨common, s, t, p', q', -, hq, -⟩ := h
  exact List.append_ne_nil_of_right_ne_nil common (List.cons_ne_nil t q') hq.symm

end

/-- Any two of the writes are independent in the document. -/
def AllIndependent (doc : Value) (ws : Writes) : Prop :=
  ws.Pairwise fun w w' => Independent doc w.1 w'.1

/-- The writes into one child are independent in it: two of them go there by one segment,
    as two spellings of one index are not independent. -/
theorem AllIndependent.below {doc x : Value} {ws : Writes} {goes : String → Bool}
    (h : AllIndependent doc ws)
    (hslot : ∀ s, goes s = true → ∃ slot, doc.slotFor? s = some slot ∧ slot.content = x)
    (hsame : ∀ s t, goes s = true → goes t = true → s = t ∨ SameIndex s t) :
    AllIndependent x (below goes ws) := by
  refine List.Pairwise.filterMap (into goes) ?_ h
  intro w w' hind e he e' he'
  obtain ⟨s, rfl, hs⟩ := into_eq_some_iff.1 he
  obtain ⟨t, rfl, ht⟩ := into_eq_some_iff.1 he'
  obtain ⟨slot, hs', rfl⟩ := hslot s hs
  by_cases hst : s = t
  · subst hst
    exact hind.inside hs'
  · exact absurd ((hsame s t hs ht).resolve_left hst) (hind.apart hst).1

theorem AllIndependent.eq_singleton {doc : Value} {ws : Writes} (h : AllIndependent doc ws)
    (hroot : ¬ RootFree ws) : ∃ w, ws = [w] := by
  have hmem : ∃ v, ([], v) ∈ ws := by simpa [RootFree] using hroot
  obtain ⟨v, hv⟩ := hmem
  obtain ⟨before, after, rfl⟩ := List.append_of_mem hv
  obtain ⟨-, hafter, hcross⟩ := List.pairwise_append.1 h
  have hbefore : before = [] := by
    apply List.eq_nil_iff_forall_not_mem.2
    intro w hw
    exact not_independent_nil_right (hcross w hw _ List.mem_cons_self)
  have hrest : after = [] := by
    apply List.eq_nil_iff_forall_not_mem.2
    intro w hw
    exact not_independent_nil_left ((List.pairwise_cons.1 hafter).1 w hw)
  exact ⟨([], v), by rw [hbefore, hrest]; rfl⟩

/-! The same writes in another order. -/

section
variable {ws ws' : Writes}

theorem below_perm (goes : String → Bool) (hp : ws.Perm ws') :
    (below goes ws).Perm (below goes ws') :=
  hp.filterMap (into goes)

theorem others_perm (goes : String → Bool) (hp : ws.Perm ws') :
    (others goes ws).Perm (others goes ws') :=
  hp.filter _

theorem RootFree.perm (h : RootFree ws) (hp : ws.Perm ws') : RootFree ws' :=
  fun w hw => h w (hp.mem_iff.2 hw)

theorem covers_perm (hp : ws.Perm ws') (i : Nat) : covers ws i = covers ws' i := hp.any_eq

end

/-! On the fields of an object. -/

theorem others_comm (goes goes' : String → Bool) (ws : Writes) :
    others goes (others goes' ws) = others goes' (others goes ws) :=
  List.filter_comm _ _ ws

/-- A field that the writes add may as well have been there first, absent. -/
theorem runFields_perm_cons {s : String} (fields : Fields Value) {ws : Writes}
    (hws : RootFree ws) (hs : fields.get? s = none) (hbelow : below (· == s) ws ≠ []) :
    (runFields fields ws).Perm (runFields ((s, undefined) :: fields) ws) := by
  refine fieldwise (motive := fun fields ws => fields.get? s = none → below (· == s) ws ≠ [] →
    (runFields fields ws).Perm (runFields ((s, undefined) :: fields) ws))
    ?_ ?_ ?_ fields hws hs hbelow
  · intro _ hbelow
    exact absurd below_nil hbelow
  · intro key x fields ws ih hs hbelow
    have hne : s ≠ key := by
      intro hkey
      simp [Fields.get?, hkey] at hs
    have hs' : fields.get? s = none := by simpa [Fields.get?, Ne.symm hne] using hs
    have hbelow' : below (· == s) (others (· == key) ws) ≠ [] := by
      rwa [below_others, if_neg hne]
    have htail := ih hs' hbelow'
    rw [runFields_cons, below_others, if_neg hne, others_comm] at htail
    rw [runFields_cons, runFields_cons, runFields_cons, below_others, if_neg (Ne.symm hne)]
    exact (htail.cons _).trans (List.Perm.swap _ _ _)
  · intro key rest v ws ih hs hbelow
    rw [runFields_nil]
    by_cases hkey : s = key
    · rw [hkey]
    · have hlast : Fields.get? [(key, undefined)] s = none := by
        simp [Fields.get?, Ne.symm hkey]
      have hothers : others (· == s) ((key :: rest, v) :: ws) =
          (key :: rest, v) :: others (· == s) ws := by
        rw [others_cons, if_neg (by simpa using Ne.symm hkey)]
      apply (ih hlast hbelow).trans
      rw [runFields_cons s undefined [(key, undefined)], runFields_cons s undefined [], hothers,
        runFields_nil key rest v (others (· == s) ws)]

/-- Alike values under the same keys, up to the order of fields. -/
def AlikeFields (as bs : Fields Value) : Prop :=
  ∃ ms, List.Forall₂ (fun d e => d.1 = e.1 ∧ Alike (· = ·) d.2 e.2) as ms ∧ ms.Perm bs

theorem AlikeFields.cons {as bs : Fields Value} {x y : Value} (key : String)
    (hxy : Alike (· = ·) x y) (h : AlikeFields as bs) :
    AlikeFields ((key, x) :: as) ((key, y) :: bs) := by
  obtain ⟨ms, hms, hp⟩ := h
  exact ⟨(key, y) :: ms, .cons ⟨rfl, hxy⟩ hms, hp.cons _⟩

theorem AlikeFields.trans_perm {as bs cs : Fields Value} (h : AlikeFields as bs)
    (hp : bs.Perm cs) : AlikeFields as cs := by
  obtain ⟨ms, hms, hp'⟩ := h
  exact ⟨ms, hms, hp'.trans hp⟩

theorem runFields_perm (fields : Fields Value) {ws ws' : Writes} (hws : RootFree ws)
    (hp : ws.Perm ws')
    (hbelow : ∀ key, Alike (· = ·) ((Slot.field fields key).content.run (below (· == key) ws))
      ((Slot.field fields key).content.run (below (· == key) ws'))) :
    AlikeFields (runFields fields ws) (runFields fields ws') := by
  have hws' : RootFree ws' := RootFree.perm hws hp
  refine fieldwise (motive := fun fields ws => ∀ ws', RootFree ws' → ws.Perm ws' →
    (∀ key, Alike (· = ·) ((Slot.field fields key).content.run (below (· == key) ws))
      ((Slot.field fields key).content.run (below (· == key) ws'))) →
    AlikeFields (runFields fields ws) (runFields fields ws')) ?_ ?_ ?_ fields hws ws' hws' hp hbelow
  · intro ws' _ hp _
    rw [hp.symm.eq_nil]
    exact ⟨[], .nil, .nil⟩
  · intro key x fields ws ih ws' hws' hp hbelow
    have hhead := hbelow key
    simp only [Slot.content, Fields.get?, if_true, Option.getD_some] at hhead
    rw [runFields_cons, runFields_cons]
    apply AlikeFields.cons key hhead
    apply ih _ hws'.others (others_perm _ hp)
    intro key'
    rw [below_others, below_others]
    split
    · exact Alike.refl (fun _ _ => rfl) _
    · next hne => simpa [Slot.content, Fields.get?, Ne.symm hne] using hbelow key'
  · intro s rest v ws ih ws' hws' hp hbelow
    have hadds : below (· == s) ws' ≠ [] := by
      intro hnil
      have hperm := below_perm (· == s) hp
      rw [hnil, below_cons, if_pos (beq_self_eq_true s)] at hperm
      exact List.cons_ne_nil _ _ hperm.eq_nil
    have habsent : ∀ key, (Slot.field [(s, undefined)] key).content = undefined := by
      intro key
      by_cases hkey : s = key <;> simp [Slot.content, Fields.get?, hkey]
    rw [runFields_nil]
    refine AlikeFields.trans_perm ?_ (runFields_perm_cons [] hws' rfl hadds).symm
    apply ih ws' hws' hp
    intro key
    rw [habsent]
    exact hbelow key

/-! On the items of an array. -/

theorem runItems_perm (items : List Value) {ws ws' : Writes} (hp : ws.Perm ws')
    (hbelow : ∀ i, Alike (· = ·)
      ((Slot.item items i).content.run (below (Path.index? · == some i) ws))
      ((Slot.item items i).content.run (below (Path.index? · == some i) ws'))) :
    List.Forall₂ (Alike (· = ·)) (runItems items ws) (runItems items ws') := by
  have hlen : (runItems items ws).length = (runItems items ws').length := by
    apply length_runItems_eq
    intro i
    rw [covers_perm hp]
  rw [List.forall₂_iff_get]
  refine ⟨hlen, ?_⟩
  intro i h h'
  rw [List.get_eq_getElem, List.get_eq_getElem, getElem_runItems, getElem_runItems]
  exact hbelow i

/-! On a document. -/

/-- The order of the writes does not show, on any document in which they are independent. -/
def OrderFree (ws : Writes) : Prop :=
  ∀ (doc : Value) (ws' : Writes), AllIndependent doc ws → ws.Perm ws' →
    Alike (· = ·) (doc.run ws) (doc.run ws')

theorem run_perm_of_container {doc : Value} {ws ws' : Writes} (hdoc : doc.isContainer = true)
    (hws : RootFree ws) (hind : AllIndependent doc ws) (hp : ws.Perm ws')
    (hbelow : ∀ goes, OrderFree (below goes ws)) :
    Alike (· = ·) (doc.run ws) (doc.run ws') := by
  have hws' : RootFree ws' := RootFree.perm hws hp
  cases doc with
  | object fields =>
    rw [run_object fields hws, run_object fields hws', alike_object]
    refine ⟨_, rfl, runFields_perm fields hws hp ?_⟩
    intro key
    refine hbelow (· == key) _ _ (hind.below ?_ ?_) (below_perm _ hp)
    · intro s hs
      exact ⟨.field fields s, rfl, by rw [beq_iff_eq.1 hs]⟩
    · intro s t hs ht
      exact .inl ((beq_iff_eq.1 hs).trans (beq_iff_eq.1 ht).symm)
  | array items =>
    rw [run_array items hws, run_array items hws', alike_array]
    refine ⟨_, rfl, runItems_perm items hp ?_⟩
    intro i
    refine hbelow (Path.index? · == some i) _ _ (hind.below ?_ ?_) (below_perm _ hp)
    · intro s hs
      exact ⟨.item items i, by simp [slotFor?, beq_iff_eq.1 hs], rfl⟩
    · intro s t hs ht
      exact .inr ⟨i, beq_iff_eq.1 hs, beq_iff_eq.1 ht⟩
  | _ => cases hdoc

/-- Independent writes that go into a value that is no container all call for a container
    of the same kind. -/
theorem emptyFor_eq_of_mem {doc : Value} (hdoc : doc.isContainer = false) {s t : String}
    {rest rest' : Path} {v v' : Value} {ws : Writes}
    (hind : AllIndependent doc ((s :: rest, v) :: ws))
    (hmem : (t :: rest', v') ∈ (s :: rest, v) :: ws) : emptyFor s = emptyFor t := by
  by_cases hst : s = t
  · rw [hst]
  · have htail : (t :: rest', v') ∈ ws := by
      rcases List.mem_cons.1 hmem with heq | htail
      · have ht : t = s := by
          injection heq with hpath
          exact (List.cons.inj hpath).1
        exact absurd ht.symm hst
      · exact htail
    have hpair := (List.pairwise_cons.1 hind).1 _ htail
    have hkind : Path.isIndex s = Path.isIndex t := by
      apply (hpair.apart hst).2.resolve_left
      rw [hdoc]
      exact Bool.false_ne_true
    rw [emptyFor, emptyFor, hkind]

/-- Independent writes leave the same tree in any order, up to the order of fields. -/
theorem orderFree (ws : Writes) : OrderFree ws := by
  induction ws using Writes.nested with
  | step ws ih =>
    intro doc ws' hind hp
    by_cases hws : RootFree ws
    · cases ws with
      | nil =>
        rw [hp.symm.eq_nil]
        exact Alike.refl (fun _ _ => rfl) doc
      | cons w ws =>
        have hbelow := ih (List.cons_ne_nil w ws)
        cases hdoc : doc.isContainer with
        | true => exact run_perm_of_container hdoc hws hind hp hbelow
        | false =>
          have hws' : RootFree ws' := RootFree.perm hws hp
          obtain ⟨path, v⟩ := w
          cases path with
          | nil => exact absurd rfl (hws _ List.mem_cons_self)
          | cons s rest =>
            cases ws' with
            | nil => exact absurd hp.eq_nil (List.cons_ne_nil _ _)
            | cons w' ws' =>
              obtain ⟨path', v'⟩ := w'
              cases path' with
              | nil => exact absurd rfl (hws' _ List.mem_cons_self)
              | cons t rest' =>
                have hkind := emptyFor_eq_of_mem hdoc hind (hp.mem_iff.2 List.mem_cons_self)
                rw [run_of_leaf hdoc, run_of_leaf hdoc, ← hkind]
                apply run_perm_of_container (isContainer_emptyFor s) hws _ hp hbelow
                exact hind.imp fun h => h.of_leaf hdoc (emptyFor s)
    · obtain ⟨w, rfl⟩ := hind.eq_singleton hws
      rw [List.perm_singleton.1 hp.symm]
      exact Alike.refl (fun _ _ => rfl) _

/-- **Independent assignments commute.** An update whose paths are independent in the
    document leaves the same tree up to the order of fields, in whatever order its fields
    are assigned. -/
theorem update_assign_perm {doc : Value} {fields fields' : Fields Value}
    (hind : fields.Pairwise fun e e' => Independent doc (Path.parse e.1) (Path.parse e'.1))
    (hp : fields.Perm fields') :
    Alike (· = ·) (doc.update (.assign fields)).value (doc.update (.assign fields')).value := by
  show Alike (· = ·) (doc.assignAll fields).value (doc.assignAll fields').value
  rw [assignAll_value, assignAll_value]
  apply orderFree
  · exact List.pairwise_map.2 hind
  · exact hp.map _

/-- A new list that is padded in one order and not in the other, before or after another
    new field. -/
theorem update_assign_perm_fresh :
    let doc := object [("tags", array [null])]
    let fields : Fields Value := [("new.2", null), ("new.00", bool true), ("last", hole)]
    let fields' : Fields Value := [("last", hole), ("new.00", bool true), ("new.2", null)]
    fields.Pairwise (fun e e' => Independent doc (Path.parse e.1) (Path.parse e'.1)) ∧
      fields.Perm fields' ∧
      Alike (· = ·) (doc.update (.assign fields)).value (doc.update (.assign fields')).value := by
  intro doc fields fields'
  have h2 : Path.parse "new.2" = ["new", "2"] := by decide +kernel
  have h0 : Path.parse "new.00" = ["new", "00"] := by decide +kernel
  have hl : Path.parse "last" = ["last"] := by decide +kernel
  have hapart : ∀ p q, Independent doc ("new" :: p) ("last" :: q) := by
    intro p q
    refine ⟨[], "new", "last", p, q, rfl, rfl, by decide, ?_, .inl ⟨doc, rfl, rfl⟩⟩
    intro hsame
    obtain ⟨i, hi, -⟩ := hsame
    have hnew : Path.index? "new" = none := by decide +kernel
    rw [hnew] at hi
    cases hi
  have hitems : Independent doc ["new", "2"] ["new", "00"] := by
    refine ⟨["new"], "2", "00", [], [], rfl, rfl, by decide, ?_, .inr (by decide +kernel)⟩
    intro hsame
    obtain ⟨i, hi, hi'⟩ := hsame
    have e2 : Path.index? "2" = some 2 := by decide +kernel
    have e0 : Path.index? "00" = some 0 := by decide +kernel
    rw [e2] at hi
    rw [e0, ← hi] at hi'
    cases hi'
  have hind : fields.Pairwise fun e e' =>
      Independent doc (Path.parse e.1) (Path.parse e'.1) := by
    simp only [fields, List.pairwise_cons, List.forall_mem_cons, h2, h0, hl]
    exact ⟨⟨hitems, hapart _ _, by simp⟩, ⟨hapart _ _, by simp⟩, by simp⟩
  have hp : fields.Perm fields' := (List.reverse_perm fields).symm
  exact ⟨hind, hp, update_assign_perm hind hp⟩

end DocTree.Value
