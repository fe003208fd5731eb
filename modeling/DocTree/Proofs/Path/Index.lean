import Mathlib.Data.Nat.Digits.Defs
import DocTree.Path.Basic

/- Segments as indices. A segment may be of any length, but it is read into a machine word, one
   digit at a time and with a check that the word can still hold the number (`Digits.push?`). As
   long as the reading goes on, the word is the number of the digits so far; where it ends early,
   that number is no word, and more digits only make it larger (`le_decimal`). So the word that
   is read is the number that all the digits spell, and there is none exactly when this number is
   too large for every word (`word?_eq_some_iff`, `word?_eq_none_iff`). The limit of indices is a
   word itself, hence words do not show in what an index is: a numeral whose digits, counted by
   their places, come to no more than the limit (`index?_eq_some_iff`). Zeros in front count for
   nothing (`index?_padded`), and the decimal text of a number up to the limit stands for that
   number (`index?_repr`). -/
namespace DocTree

/-! Digits in a word. -/

namespace Digits

theorem exists_word_iff (n : Nat) : (∃ w : UInt64, w.toNat = n) ↔ n < UInt64.size := by
  constructor
  · rintro ⟨w, rfl⟩
    exact w.toNat_lt
  · intro h
    exact ⟨UInt64.ofNatLT n h, UInt64.toNat_ofNatLT⟩

theorem toNat_digit (c : Char) : (c.toNat - '0'.toNat).toUInt64.toNat = c.toNat - '0'.toNat := by
  have hc : c.toNat < UInt32.size := c.val.toNat_lt
  have hsize : UInt32.size < UInt64.size := by decide
  exact UInt64.toNat_ofNat_of_lt' (by omega)

theorem le_decimal (value : Nat) (cs : List Char) : value ≤ decimal value cs := by
  induction cs generalizing value with
  | nil => exact Nat.le_refl value
  | cons c rest ih =>
    calc value ≤ 10 * value + (c.toNat - '0'.toNat) := by omega
      _ ≤ decimal value (c :: rest) := ih _

theorem push?_eq_some_iff {value w : UInt64} {c : Char} :
    push? value c = some w ↔ w.toNat = 10 * value.toNat + (c.toNat - '0'.toNat) := by
  have hpush : push? value c = some w ↔ ∃ tens, mul? 10 value = some tens ∧
      add? tens (c.toNat - '0'.toNat).toUInt64 = some w := Option.bind_eq_some_iff
  rw [hpush]
  simp only [mul?_eq_some_iff, add?_eq_some_iff, toNat_digit]
  constructor
  · rintro ⟨tens, htens, hw⟩
    rw [hw, htens]
    rfl
  · intro h
    -- the product is a word since it is a part of one
    have hlt : 10 * value.toNat < UInt64.size := by
      have hw : w.toNat < UInt64.size := w.toNat_lt
      omega
    obtain ⟨tens, htens⟩ := (exists_word_iff _).2 hlt
    exact ⟨tens, htens, by rw [h, htens]⟩

/-- All digits: the word is the number that they spell, if that is a word. -/
theorem word?_eq_some_iff {value w : UInt64} {cs : List Char} :
    word? value cs = some w ↔ w.toNat = decimal value.toNat cs := by
  induction cs generalizing value with
  | nil =>
    have hword : word? value [] = some value := rfl
    rw [hword, Option.some_inj, eq_comm]
    exact UInt64.toNat_inj.symm
  | cons c rest ih =>
    have hword : word? value (c :: rest) = some w ↔
        ∃ next, push? value c = some next ∧ word? next rest = some w := Option.bind_eq_some_iff
    rw [hword]
    simp only [push?_eq_some_iff, ih]
    constructor
    · rintro ⟨next, hnext, hw⟩
      rw [hw, hnext]
      rfl
    · intro h
      -- no number on the way is larger than the one at the end, which is a word
      have hlt : 10 * value.toNat + (c.toNat - '0'.toNat) < UInt64.size :=
        calc 10 * value.toNat + (c.toNat - '0'.toNat) ≤ decimal value.toNat (c :: rest) :=
              le_decimal _ rest
          _ = w.toNat := h.symm
          _ < UInt64.size := w.toNat_lt
      obtain ⟨next, hnext⟩ := (exists_word_iff _).2 hlt
      exact ⟨next, hnext, by rw [h, hnext]; rfl⟩

theorem word?_eq_none_iff {value : UInt64} {cs : List Char} :
    word? value cs = none ↔ UInt64.size ≤ decimal value.toNat cs := by
  rw [Option.eq_none_iff_forall_ne_some, ← Nat.not_lt, ← exists_word_iff, not_exists]
  simp only [ne_eq, word?_eq_some_iff]

theorem decimal_eq_ofDigitChars (value : Nat) (cs : List Char) :
    decimal value cs = Nat.ofDigitChars 10 cs value := by
  induction cs generalizing value with
  | nil => exact Nat.ofDigitChars_nil.symm
  | cons c rest ih =>
    rw [Nat.ofDigitChars_cons, ← ih]
    rfl

end Digits

namespace Path

/-! What an index is. -/

/-- A decimal numeral: some characters, and each of them an ASCII digit. -/
structure Numeral (segment : String) : Prop where
  ne_empty : segment ≠ ""
  digit : ∀ c ∈ segment.toList, '0' ≤ c ∧ c ≤ '9'

/-- The number that the characters of a segment spell as digits, each counted by its place from
    the end. -/
def placeValue (segment : String) : Nat :=
  Nat.ofDigits 10 (segment.toList.reverse.map fun c => c.toNat - '0'.toNat)

theorem decimal_eq_placeValue (segment : String) :
    Digits.decimal 0 segment.toList = placeValue segment := by
  rw [Digits.decimal_eq_ofDigitChars, Nat.ofDigitChars_eq_foldl, placeValue, Nat.ofDigits_eq_foldr,
    List.foldr_map, List.foldr_reverse]
  simp only [Nat.cast_id, Nat.add_comm]

theorem numeral_iff (segment : String) :
    (!segment.toList.isEmpty && segment.toList.all Char.isDigit) = true ↔ Numeral segment := by
  have hdigit (c : Char) : c.isDigit = true ↔ '0' ≤ c ∧ c ≤ '9' := by
    simp [Char.isDigit, Char.le_def]
  rw [Bool.and_eq_true, Bool.not_eq_true', List.isEmpty_eq_false_iff, ne_eq,
    String.toList_eq_nil_iff, List.all_eq_true]
  simp only [hdigit]
  exact ⟨fun h => ⟨h.1, h.2⟩, fun h => ⟨h.ne_empty, h.digit⟩⟩

theorem maxIndex_lt_size : maxIndex < UInt64.size := by decide

/-- A numeral up to the limit stands for its number, and nothing else is an index. -/
theorem index?_eq_some_iff {segment : String} {n : Nat} :
    index? segment = some n ↔ Numeral segment ∧ placeValue segment = n ∧ n ≤ maxIndex := by
  by_cases hnumeral : Numeral segment
  · have hread : index? segment =
        ((Digits.word? 0 segment.toList).map UInt64.toNat).filter (· ≤ maxIndex) :=
      if_pos ((numeral_iff segment).2 hnumeral)
    have hword (w : UInt64) : Digits.word? 0 segment.toList = some w ↔
        w.toNat = placeValue segment := by
      rw [Digits.word?_eq_some_iff, ← decimal_eq_placeValue]
      rfl
    rw [hread, Option.filter_eq_some_iff, Option.map_eq_some_iff, decide_eq_true_iff]
    simp only [hword]
    constructor
    · rintro ⟨⟨w, hw, rfl⟩, hle⟩
      exact ⟨hnumeral, hw.symm, hle⟩
    · rintro ⟨-, rfl, hle⟩
      have hlt := Nat.lt_of_le_of_lt hle maxIndex_lt_size
      obtain ⟨w, hw⟩ := (Digits.exists_word_iff _).2 hlt
      exact ⟨⟨w, hw, hw⟩, hle⟩
  · have hnone : index? segment = none := if_neg (mt (numeral_iff segment).1 hnumeral)
    rw [hnone]
    exact iff_of_false (Option.some_ne_none n).symm fun h => hnumeral h.1

theorem index?_of_maxIndex_lt {segment : String} (h : maxIndex < placeValue segment) :
    index? segment = none := by
  rw [Option.eq_none_iff_forall_ne_some]
  intro n hn
  obtain ⟨-, rfl, hle⟩ := index?_eq_some_iff.1 hn
  exact Nat.not_lt.2 hle h

/-! Zeros in front. -/

/-- So many zeros before a text. -/
def padded (zeros : Nat) (segment : String) : String :=
  String.ofList (List.replicate zeros '0') ++ segment

theorem toList_padded (zeros : Nat) (segment : String) :
    (padded zeros segment).toList = List.replicate zeros '0' ++ segment.toList := by
  rw [padded, String.toList_append, String.toList_ofList]

theorem placeValue_padded (zeros : Nat) (segment : String) :
    placeValue (padded zeros segment) = placeValue segment := by
  rw [placeValue, toList_padded, List.reverse_append, List.map_append, List.reverse_replicate,
    List.map_replicate, Nat.sub_self, Nat.ofDigits_append_replicate_zero, placeValue]

theorem numeral_padded_iff {segment : String} (hne : segment ≠ "") (zeros : Nat) :
    Numeral (padded zeros segment) ↔ Numeral segment := by
  constructor
  · intro h
    refine ⟨hne, fun c hc => h.digit c ?_⟩
    rw [toList_padded]
    exact List.mem_append_right _ hc
  · intro h
    refine ⟨fun hempty => ?_, fun c hc => ?_⟩
    · have hnil := String.toList_eq_nil_iff.2 hempty
      rw [toList_padded, List.append_eq_nil_iff, String.toList_eq_nil_iff] at hnil
      exact hne hnil.2
    · rw [toList_padded, List.mem_append] at hc
      rcases hc with hzero | hc
      · rw [List.eq_of_mem_replicate hzero]
        decide
      · exact h.digit c hc

theorem index?_padded {segment : String} (hne : segment ≠ "") (zeros : Nat) :
    index? (padded zeros segment) = index? segment := by
  apply Option.ext
  intro n
  rw [index?_eq_some_iff, index?_eq_some_iff, numeral_padded_iff hne, placeValue_padded]

/-! Decimal texts of numbers. -/

theorem separator_not_mem_repr (i : Nat) : separator ∉ i.repr.toList := by
  intro h
  rw [Nat.toList_repr] at h
  exact absurd (Nat.isDigit_of_mem_toDigits (by decide) (by decide) h) (by decide)

theorem numeral_repr (i : Nat) : Numeral i.repr := by
  rw [← numeral_iff, Nat.toList_repr, Bool.and_eq_true, Bool.not_eq_true', List.isEmpty_eq_false_iff,
    List.all_eq_true]
  exact ⟨Nat.toDigits_ne_nil, fun _ => Nat.isDigit_of_mem_toDigits (by decide) (by decide)⟩

theorem placeValue_repr (i : Nat) : placeValue i.repr = i := by
  rw [← decimal_eq_placeValue, Digits.decimal_eq_ofDigitChars, Nat.toList_repr,
    Nat.ofDigitChars_ten_toDigits]

theorem repr_injective {i j : Nat} (h : i.repr = j.repr) : i = j := by
  rw [← placeValue_repr i, h, placeValue_repr]

theorem index?_repr {i : Nat} (h : i ≤ maxIndex) : index? i.repr = some i :=
  index?_eq_some_iff.2 ⟨numeral_repr i, placeValue_repr i, h⟩

/-- **Which segments are indices.** A segment of any length stands for the index `n` exactly when
    it is a numeral of ASCII digits whose value, as a number without a bound, is `n` and not over
    the limit. The reading in a word ends early exactly when the value is no word, and then
    the segment is no index, so that no value comes back reduced to a word. Zeros in front do not
    change what a segment stands for, and the decimal text of a number stands for it up to
    the limit, for nothing beyond. -/
theorem index_reads_decimal_value :
    (∀ (segment : String) (n : Nat), index? segment = some n ↔
      Numeral segment ∧ placeValue segment = n ∧ n ≤ maxIndex) ∧
    (∀ segment : String, Digits.word? 0 segment.toList = none ↔
      UInt64.size ≤ placeValue segment) ∧
    (∀ segment, UInt64.size ≤ placeValue segment → index? segment = none) ∧
    (∀ segment zeros, segment ≠ "" → index? (padded zeros segment) = index? segment) ∧
    (∀ n : Nat, index? n.repr = if n ≤ maxIndex then some n else none) := by
  refine ⟨fun segment n => index?_eq_some_iff, fun segment => ?_, fun segment h => ?_,
    fun segment zeros hne => index?_padded hne zeros, fun n => ?_⟩
  · rw [Digits.word?_eq_none_iff, ← decimal_eq_placeValue]
    rfl
  · exact index?_of_maxIndex_lt (Nat.lt_of_lt_of_le maxIndex_lt_size h)
  · split
    · next hle => exact index?_repr hle
    · next hlarge =>
      apply index?_of_maxIndex_lt
      rw [placeValue_repr]
      exact Nat.lt_of_not_le hlarge

/-- A value that is seven more than the count of words, the limit behind many zeros, and a seven
    in Arabic digits. -/
theorem index_reads_decimal_value_odd_numerals :
    let large := "18446744073709551623"
    let limit := "1048576"
    UInt64.size ≤ placeValue large ∧ placeValue large % UInt64.size = 7 ∧ index? large = none ∧
      limit ≠ "" ∧ index? (padded 40 limit) = some maxIndex ∧ index? "\u0667" ≠ some 7 := by
  intro large limit
  obtain ⟨hindex, -, hnone, hzeros, -⟩ := index_reads_decimal_value
  have hlarge : UInt64.size ≤ placeValue large := by decide +kernel
  have hne : limit ≠ "" := by decide
  have hlimit : index? limit = some maxIndex := (hindex limit maxIndex).2
    ⟨(numeral_iff limit).1 (by decide +kernel), by decide +kernel, Nat.le_refl _⟩
  have hforeign : ¬ Numeral "\u0667" := mt (numeral_iff "\u0667").2 (by decide +kernel)
  exact ⟨hlarge, by decide +kernel, hnone large hlarge, hne, (hzeros limit 40 hne).trans hlimit,
    fun h => hforeign ((hindex _ 7).1 h).1⟩

end Path
end DocTree
