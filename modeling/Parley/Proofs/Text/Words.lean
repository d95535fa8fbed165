import Parley.Text.Blank
import Parley.Text.LetterCase
/-!
Words put together with gaps between them, and words in another letter case.

Cut along its blanks, a text gives back the words that it was put together from, however wide the
gaps are and whatever blanks they are made of.
-/

namespace Parley.Text

def isSolid (text : String) : Bool := text.toList.all fun c => !isBlank c

def IsWord (text : String) : Prop := text ≠ "" ∧ isSolid text = true

instance : DecidablePred IsWord := fun text =>
  inferInstanceAs (Decidable (text ≠ "" ∧ isSolid text = true))

/-- A text of these words, each behind a gap. Blanks may follow the last one. -/
inductive Spaced : List String → List Char → Prop where
  | nil (blanks : List Char) : blanks.all isBlank = true → Spaced [] blanks
  | cons (gap : List Char) {word : String} {words : List String} {rest : List Char} :
      gap ≠ [] → gap.all isBlank = true → Spaced words rest →
        Spaced (word :: words) (gap ++ (word.toList ++ rest))

def InSomeCase (word name : String) : Prop := name.toList.map Char.toLower = word.toList

instance (word name : String) : Decidable (InSomeCase word name) :=
  inferInstanceAs (Decidable (name.toList.map Char.toLower = word.toList))

section Cutting

variable {current text gap rest : List Char}

theorem wordsFrom_cons {c : Char} (solid : isBlank c = false) :
    wordsFrom current (c :: rest) = wordsFrom (c :: current) rest := by
  have goesOn : ¬isBlank c = true := by simp [solid]
  cases current with
  | nil => exact if_neg goesOn
  | cons last before => exact if_neg goesOn

theorem isSolid_iff {text : String} :
    isSolid text = true ↔ ∀ c ∈ text.toList, isBlank c = false := by
  simp only [isSolid, List.all_eq_true, Bool.not_eq_true']

theorem wordsFrom_append (solid : ∀ c ∈ text, isBlank c = false) :
    wordsFrom current (text ++ rest) = wordsFrom (text.reverse ++ current) rest := by
  induction text generalizing current with
  | nil => rfl
  | cons c later ih =>
    rw [List.cons_append, wordsFrom_cons (solid c List.mem_cons_self),
      ih fun d member => solid d (List.mem_cons_of_mem _ member), List.reverse_cons,
      List.append_assoc, List.singleton_append]

theorem wordsFrom_nil_append (blank : gap.all isBlank = true) :
    wordsFrom [] (gap ++ rest) = wordsFrom [] rest := by
  induction gap with
  | nil => rfl
  | cons c later ih =>
    obtain ⟨here, further⟩ := Bool.and_eq_true_iff.mp blank
    have skipped : wordsFrom [] (c :: (later ++ rest)) = wordsFrom [] (later ++ rest) :=
      if_pos here
    rw [List.cons_append, skipped, ih further]

theorem wordsFrom_gap (started : current ≠ []) (blank : gap.all isBlank = true)
    (wide : gap ≠ []) : wordsFrom current (gap ++ rest) = current.reverse :: wordsFrom [] rest := by
  obtain ⟨last, before, rfl⟩ := List.exists_cons_of_ne_nil started
  obtain ⟨c, later, rfl⟩ := List.exists_cons_of_ne_nil wide
  obtain ⟨here, further⟩ := Bool.and_eq_true_iff.mp blank
  have ended : wordsFrom (last :: before) (c :: (later ++ rest)) =
      (last :: before).reverse :: wordsFrom [] (later ++ rest) :=
    if_pos here
  rw [List.cons_append, ended, wordsFrom_nil_append further]

theorem Spaced.wordsFrom {words : List String} (spaced : Spaced words text)
    (sound : ∀ word ∈ words, IsWord word) (started : current ≠ []) :
    wordsFrom current text = current.reverse :: words.map String.toList := by
  induction spaced generalizing current with
  | nil blanks blank =>
    -- The last word ends with the text or at the blanks behind it.
    by_cases wide : blanks = []
    · obtain ⟨last, before, rfl⟩ := List.exists_cons_of_ne_nil started
      rw [wide]
      rfl
    · rw [← List.append_nil blanks]
      exact wordsFrom_gap started blank wide
  | @cons gap word words rest wide blank _ ih =>
    obtain ⟨more, solid⟩ := sound word List.mem_cons_self
    have begun : word.toList.reverse ≠ [] := by simpa using more
    rw [wordsFrom_gap started blank wide, wordsFrom_append (isSolid_iff.mp solid), List.append_nil,
      ih (fun other member => sound other (List.mem_cons_of_mem _ member)) begun,
      List.reverse_reverse, List.map_cons]

theorem Spaced.words {name : String} {rest : List Char} {words : List String}
    (spaced : Spaced words rest) (first : IsWord name) (sound : ∀ word ∈ words, IsWord word) :
    Text.words (String.ofList (name.toList ++ rest)) = name :: words := by
  obtain ⟨more, solid⟩ := first
  have begun : name.toList.reverse ++ [] ≠ [] := by simpa using more
  have cut := spaced.wordsFrom sound begun
  rw [← wordsFrom_append (isSolid_iff.mp solid)] at cut
  rw [Text.words, String.toList_ofList, cut]
  simp

end Cutting

section Case

variable {c : Char} {word name : String}

theorem toLower_of_isBlank (blank : isBlank c = true) : c.toLower = c := by
  unfold Char.toLower
  split
  next large =>
    have bounds : 65 ≤ c.toNat ∧ c.toNat ≤ 90 := large
    simp only [isBlank, Bool.or_eq_true, Bool.and_eq_true, decide_eq_true_eq] at blank
    omega
  next => rfl

theorem toNat_lt_of_toLower (plain : c.toLower.toNat < 0x80) : c.toNat < 0x80 := by
  unfold Char.toLower at plain
  split at plain
  next large =>
    have bound : c.toNat ≤ 90 := large.2
    omega
  next => exact plain

theorem lowerFrom_eq_map (before : List Char) {text : List Char}
    (plain : ∀ c ∈ text, c.toNat < 0x80) : lowerFrom before text = text.map Char.toLower := by
  induction text generalizing before with
  | nil => rfl
  | cons c rest ih =>
    have here := plain c List.mem_cons_self
    have sigma : c ≠ 'Σ' := by
      rintro rfl
      exact absurd here (by decide)
    rw [lowerFrom, if_neg sigma, lowerChar, if_pos here,
      ih _ fun d member => plain d (List.mem_cons_of_mem _ member)]
    rfl

namespace InSomeCase

variable (same : InSomeCase word name)

include same

theorem toLower_mem (member : c ∈ name.toList) : c.toLower ∈ word.toList := by
  rw [← show name.toList.map Char.toLower = word.toList from same]
  exact List.mem_map_of_mem member

theorem lower_eq (plain : word.toList.all (·.toNat < 0x80) = true) : lower name = word := by
  have small : ∀ c ∈ name.toList, c.toNat < 0x80 := fun c member =>
    toNat_lt_of_toLower (of_decide_eq_true (List.all_eq_true.mp plain _ (same.toLower_mem member)))
  rw [lower, lowerFrom_eq_map [] small, show name.toList.map Char.toLower = word.toList from same,
    String.ofList_toList]

theorem isWord (whole : IsWord word) : IsWord name := by
  obtain ⟨more, solid⟩ := whole
  constructor
  · rintro rfl
    exact more (String.toList_eq_nil_iff.mp (Eq.symm same))
  · rw [isSolid_iff]
    intro c member
    apply Bool.eq_false_iff.mpr
    intro blank
    have held := same.toLower_mem member
    rw [toLower_of_isBlank blank] at held
    exact absurd blank (by simp [isSolid_iff.mp solid c held])

end InSomeCase

end Case

end Parley.Text
