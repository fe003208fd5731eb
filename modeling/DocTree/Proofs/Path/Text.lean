import DocTree.Path.Basic
import DocTree.Path.Check

/- Paths as text, and the rules for such texts. `parse` cuts a text at every separator and
   `render` joins segments with one, as the library's `splitOn` and `intercalate` do on lists
   (`parse_eq_splitOn`, `toList_render`). So every text is that of its own segments
   (`render_parse`), and texts joined by a separator spell one path after the other
   (`parse_append`). Segments that are joined come apart into the segments that each of them
   spells (`parse_render_eq_flatMap`); they come back as they were if none of them holds a
   separator (`parse_render`). -/
namespace DocTree.Path

theorem cut_eq_splitOn (cs : List Char) : (cut cs).1 :: (cut cs).2 = cs.splitOn separator := by
  induction cs with
  | nil => rfl
  | cons c rest ih =>
    have hcut : cut (c :: rest) = if c = separator then ([], (cut rest).1 :: (cut rest).2)
        else (c :: (cut rest).1, (cut rest).2) := rfl
    rw [hcut, List.splitOn, List.splitOnP_cons_eq_if_modifyHead, ← List.splitOn, ← ih]
    by_cases hc : c = separator <;> simp [hc]

theorem parse_eq_splitOn (text : String) :
    parse text = (text.toList.splitOn separator).map String.ofList := by
  rw [← cut_eq_splitOn]
  rfl

theorem render_cons_cons (s t : String) (rest : Path) :
    render (s :: t :: rest) = s ++ separator.toString ++ render (t :: rest) := rfl

theorem toList_render (path : Path) :
    (render path).toList = [separator].intercalate (path.map String.toList) := by
  induction path with
  | nil => rfl
  | cons s rest ih =>
    cases rest with
    | nil => simp [render]
    | cons t rest =>
      simp only [List.map_cons] at ih ⊢
      rw [render_cons_cons, String.toList_append, String.toList_append, ih,
        List.intercalate_cons_cons]
      rfl

theorem render_parse (text : String) : render (parse text) = text := by
  have hsegments : (parse text).map String.toList = text.toList.splitOn separator := by
    rw [parse_eq_splitOn, List.map_map]
    simp
  apply String.toList_inj.1
  rw [toList_render, hsegments, List.intercalate_splitOn]

theorem parse_of_separator_not_mem {s : String} (h : separator ∉ s.toList) : parse s = [s] := by
  rw [parse_eq_splitOn, List.splitOn_eq_singleton h]
  simp

theorem parse_append (p r : String) :
    parse (p ++ separator.toString ++ r) = parse p ++ parse r := by
  have hchars : (p ++ separator.toString ++ r).toList = p.toList ++ separator :: r.toList := by
    rw [String.toList_append, String.toList_append, List.append_assoc]
    rfl
  rw [parse_eq_splitOn, parse_eq_splitOn, parse_eq_splitOn, hchars, List.splitOn_append_cons_self,
    List.map_append]

/-- Joined segments come apart into what each of them spells. -/
theorem parse_render_eq_flatMap {path : Path} (hne : path ≠ []) :
    parse (render path) = path.flatMap parse := by
  induction path with
  | nil => exact absurd rfl hne
  | cons s rest ih =>
    cases rest with
    | nil =>
      have hrender : render [s] = s := rfl
      rw [hrender, List.flatMap_singleton]
    | cons t rest =>
      calc parse (render (s :: t :: rest))
          = parse s ++ parse (render (t :: rest)) := by rw [render_cons_cons, parse_append]
        _ = parse s ++ (t :: rest).flatMap parse := by rw [ih (List.cons_ne_nil t rest)]
        _ = (s :: t :: rest).flatMap parse := List.flatMap_cons.symm

theorem parse_render {path : Path} (hne : path ≠ [])
    (h : ∀ s ∈ path, separator ∉ s.toList) : parse (render path) = path := by
  have hone : path.map parse = path.map ([·]) :=
    List.map_congr_left fun s hs => parse_of_separator_not_mem (h s hs)
  rw [parse_render_eq_flatMap hne, List.flatMap_def, hone, ← List.flatMap_def,
    List.flatMap_singleton']

/-- **Path texts and lists of segments correspond.** Every text is spelled by its segments. The
    segments that a text joins come apart into those that each of them spells, one after
    another. So a list of segments comes back from its text exactly when there is a segment in
    it and none holds the separator. The empty list comes back as one empty segment. -/
theorem text_segments_correspond :
    (∀ text, render (parse text) = text) ∧
    (∀ path : Path, path ≠ [] → parse (render path) = path.flatMap parse) ∧
    (∀ path : Path, parse (render path) = path ↔
      path ≠ [] ∧ ∀ s ∈ path, separator ∉ s.toList) ∧
    parse (render []) = [""] := by
  refine ⟨render_parse, fun path => parse_render_eq_flatMap, fun path => ⟨fun h => ?_, fun h => ?_⟩,
    rfl⟩
  · rw [← h]
    exact ⟨parse_ne_nil _, fun s => separator_not_mem_of_mem_parse⟩
  · exact parse_render h.1 h.2

/-- Segments that are empty or hold separators themselves. -/
theorem text_segments_correspond_odd_segments :
    let path := ["", "a..", "0"]
    path ≠ [] ∧ render path = ".a...0" ∧ render (parse ".a...0") = ".a...0" ∧
      parse (render path) = path.flatMap parse ∧ path.flatMap parse = ["", "a", "", "", "0"] ∧
      ¬ parse (render path) = path := by
  intro path
  obtain ⟨htext, hjoined, hback, -⟩ := text_segments_correspond
  have hne : path ≠ [] := List.cons_ne_nil _ _
  have hheld : ¬ (path ≠ [] ∧ ∀ s ∈ path, separator ∉ s.toList) := by decide +kernel
  exact ⟨hne, by decide +kernel, htext ".a...0", hjoined path hne, by decide +kernel,
    fun h => hheld ((hback path).1 h)⟩

/-! ## The rules for a path that a caller writes down

    Every text falls under exactly one of the rules (`Judged`): it is empty, or it has an empty
    segment, of which the first counts whatever the number of segments, or it has too many
    segments, or it is allowed. The empty text comes before the rest, since it spells one empty
    segment itself. Allowed are exactly the texts of allowed paths (`Allowed`), because a path
    without separators in its segments comes back from its text. -/

/-- What the rules say of a text, by the segments that it spells. -/
inductive Judged (text : String) : Option Fault → Prop
  | empty : text = "" → Judged text (some .empty)
  | emptySegment {i : Nat} : text ≠ "" → (parse text)[i]? = some "" → "" ∉ (parse text).take i →
      Judged text (some (.emptySegment i))
  | tooLong : "" ∉ parse text → maxDepth < (parse text).length →
      Judged text (some (.tooLong (parse text).length))
  | allowed : "" ∉ parse text → (parse text).length ≤ maxDepth → Judged text none

/-- A path that a caller may write down: with segments, not too many of them, and each of them
    a name of its own. -/
structure Allowed (path : Path) : Prop where
  ne_nil : path ≠ []
  length_le : path.length ≤ maxDepth
  named : ∀ segment ∈ path, segment ≠ "" ∧ separator ∉ segment.toList

/-! The search for an empty segment. -/

theorem findIdx?_isEmpty (path : Path) : path.findIdx? (·.isEmpty) = path.idxOf? "" := by
  have hempty : (fun segment : String => segment.isEmpty) = (· == "") := by
    funext segment
    rw [Bool.eq_iff_iff, String.isEmpty_iff, beq_iff_eq]
  rw [hempty]
  rfl

theorem idxOf?_empty_eq_some_iff (path : Path) (i : Nat) :
    path.idxOf? "" = some i ↔ path[i]? = some "" ∧ "" ∉ path.take i := by
  rw [List.idxOf?_eq_some_iff, List.getElem?_eq_some_iff, List.mem_take_iff_getElem]
  constructor
  · intro h
    obtain ⟨hi, hsegment, hbefore⟩ := h
    refine ⟨⟨hi, hsegment⟩, ?_⟩
    rintro ⟨j, hj, hj'⟩
    exact hbefore j (Nat.lt_of_lt_of_le hj (Nat.min_le_left _ _)) hj'
  · intro h
    obtain ⟨⟨hi, hsegment⟩, hbefore⟩ := h
    refine ⟨hi, hsegment, fun j hj hj' => hbefore ⟨j, ?_, hj'⟩⟩
    omega

/-! Texts under the rules. -/

theorem exists_judged (text : String) : ∃ verdict, Judged text verdict := by
  by_cases htext : text = ""
  · exact ⟨_, .empty htext⟩
  · cases hfirst : (parse text).idxOf? "" with
    | some i =>
      obtain ⟨hi, hbefore⟩ := (idxOf?_empty_eq_some_iff _ i).1 hfirst
      exact ⟨_, .emptySegment htext hi hbefore⟩
    | none =>
      have hnamed := List.idxOf?_eq_none_iff.1 hfirst
      by_cases hlen : maxDepth < (parse text).length
      · exact ⟨_, .tooLong hnamed hlen⟩
      · exact ⟨_, .allowed hnamed (Nat.le_of_not_lt hlen)⟩

theorem fault?_of_named {text : String} (h : "" ∉ parse text) :
    fault? text =
      if maxDepth < (parse text).length then some (.tooLong (parse text).length) else none := by
  have htext : text ≠ "" := by
    rintro rfl
    exact h List.mem_cons_self
  have hnone := List.idxOf?_eq_none_iff.2 h
  simp only [fault?, String.isEmpty_iff, htext, if_false, findIdx?_isEmpty, hnone]

theorem fault?_of_judged {text : String} {verdict : Option Fault} (h : Judged text verdict) :
    fault? text = verdict := by
  cases h with
  | empty htext =>
    subst htext
    rfl
  | emptySegment htext hi hbefore =>
    have hfirst := (idxOf?_empty_eq_some_iff _ _).2 ⟨hi, hbefore⟩
    simp only [fault?, String.isEmpty_iff, htext, if_false, findIdx?_isEmpty, hfirst]
  | tooLong hnamed hlen => rw [fault?_of_named hnamed, if_pos hlen]
  | allowed hnamed hlen => rw [fault?_of_named hnamed, if_neg (Nat.not_lt.2 hlen)]

theorem fault?_eq_iff (text : String) (verdict : Option Fault) :
    fault? text = verdict ↔ Judged text verdict := by
  constructor
  · rintro rfl
    obtain ⟨verdict, h⟩ := exists_judged text
    rwa [fault?_of_judged h]
  · exact fault?_of_judged

theorem judged_none_iff (text : String) :
    Judged text none ↔ "" ∉ parse text ∧ (parse text).length ≤ maxDepth := by
  constructor
  · intro h
    cases h with
    | allowed hnamed hlen => exact ⟨hnamed, hlen⟩
  · intro h
    exact .allowed h.1 h.2

/-- Allowed texts spell allowed paths, and allowed paths come back from their texts. -/
theorem judged_none_iff_allowed (text : String) :
    Judged text none ↔ ∃ path, Allowed path ∧ text = render path := by
  rw [judged_none_iff]
  constructor
  · intro h
    refine ⟨parse text, ⟨parse_ne_nil text, h.2, fun segment hmem => ⟨?_, ?_⟩⟩,
      (render_parse text).symm⟩
    · rintro rfl
      exact h.1 hmem
    · exact separator_not_mem_of_mem_parse hmem
  · intro h
    obtain ⟨path, hpath, rfl⟩ := h
    rw [parse_render hpath.ne_nil fun segment hmem => (hpath.named segment hmem).2]
    exact ⟨fun hmem => (hpath.named "" hmem).1 rfl, hpath.length_le⟩

/-- **What the check of a path decides.** Only the empty text is refused as empty. Of the others
    one with an empty segment is refused for the first such segment, however many segments
    there are; one without, for their number if that is over the limit; and the rest pass.
    Those are exactly the texts that spell up to `maxDepth` segments, at least one, that are
    not empty and hold no separator. -/
theorem check_decides_rules (text : String) :
    (fault? text = some .empty ↔ text = "") ∧
    (∀ i, fault? text = some (.emptySegment i) ↔
      text ≠ "" ∧ (parse text)[i]? = some "" ∧ "" ∉ (parse text).take i) ∧
    (∀ n, fault? text = some (.tooLong n) ↔
      "" ∉ parse text ∧ n = (parse text).length ∧ maxDepth < n) ∧
    (fault? text = none ↔ "" ∉ parse text ∧ (parse text).length ≤ maxDepth) ∧
    (fault? text = none ↔ ∃ path, Allowed path ∧ text = render path) := by
  simp only [fault?_eq_iff]
  refine ⟨⟨?_, .empty⟩, fun i => ⟨?_, ?_⟩, fun n => ⟨?_, ?_⟩, judged_none_iff text,
    judged_none_iff_allowed text⟩
  · intro h
    cases h with
    | empty htext => exact htext
  · intro h
    cases h with
    | emptySegment htext hi hbefore => exact ⟨htext, hi, hbefore⟩
  · intro h
    exact .emptySegment h.1 h.2.1 h.2.2
  · intro h
    cases h with
    | tooLong hnamed hlen => exact ⟨hnamed, rfl, hlen⟩
  · intro h
    obtain ⟨hnamed, rfl, hlen⟩ := h
    exact .tooLong hnamed hlen

/-- The first of two empty segments. -/
example : fault? "a..b." = some (.emptySegment 1) := by decide +kernel

end DocTree.Path
