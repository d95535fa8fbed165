import Mathlib.Algebra.Group.Nat.Even
import Parley.Template.Positional
/-!
The slot of a positional format.

Percent signs that stand next to each other are paired from the left. A `%s` or `%v` is a slot if
its percent sign is left over, which is to say that an even number of them stands right before it.
Only the first slot takes the input, and what is around it does not depend on the input.
-/

namespace Parley.Template

/-- A text with each `%%`, read from the left, as one `%`. -/
def unescaped : List Char → List Char
  | '%' :: '%' :: rest => '%' :: unescaped rest
  | c :: rest => c :: unescaped rest
  | [] => []

def escaped (text : List Char) : List Char :=
  text.flatMap fun c => if c = '%' then ['%', '%'] else [c]

def percentsAtEnd (text : List Char) : Nat := (text.reverse.takeWhile (· = '%')).length

def IsSlot (format before after : List Char) : Prop :=
  Even (percentsAtEnd before) ∧
    ∃ c, (c = 's' ∨ c = 'v') ∧ format = before ++ '%' :: c :: after

def IsFirstSlot (format before after : List Char) : Prop :=
  IsSlot format before after ∧
    ∀ earlier later, IsSlot format earlier later → before.length ≤ earlier.length

/-- What the format comes to: its first slot, if it has one, takes the input. -/
def HasOneSlot (format : List Char) : Prop :=
  (∃ before after, IsFirstSlot format before after ∧
    ∀ input, fillFrom input true format = unescaped before ++ input ++ unescaped after) ∨
  (∀ before after, ¬IsSlot format before after) ∧
    ∀ input, fillFrom input true format = unescaped format

section Reading

variable {c : Char} {rest : List Char} (input : List Char) (slotAhead : Bool)

theorem unescaped_of_ne (other : c ≠ '%') : unescaped (c :: rest) = c :: unescaped rest := by
  rw [unescaped]
  rintro _ rfl
  exact absurd rfl other

theorem unescaped_alone (other : rest.head? ≠ some '%') :
    unescaped ('%' :: rest) = '%' :: unescaped rest := by
  rw [unescaped]
  rintro _ _ rfl
  exact absurd rfl other

theorem fillFrom_of_ne (other : c ≠ '%') :
    fillFrom input slotAhead (c :: rest) = c :: fillFrom input slotAhead rest := by
  rw [fillFrom]
  · rintro _ rfl
    exact absurd rfl other
  · rintro _ _ rfl
    exact absurd rfl other

theorem fillFrom_alone (other : rest.head? ≠ some '%')
    (noSlot : slotAhead = true → ∀ d, rest.head? = some d → d ≠ 's' ∧ d ≠ 'v') :
    fillFrom input slotAhead ('%' :: rest) = '%' :: fillFrom input slotAhead rest := by
  cases rest with
  | nil => rfl
  | cons d rest =>
    have apart : d ≠ '%' := fun same => other (congrArg some same)
    rw [fillFrom, if_neg]
    · intro slot
      simp only [Bool.and_eq_true, Bool.or_eq_true, decide_eq_true_eq] at slot
      obtain ⟨notS, notV⟩ := noSlot slot.1 d rfl
      exact slot.2.elim notS notV
    · rintro rfl
      exact apart rfl

theorem fillFrom_false (format : List Char) : fillFrom input false format = unescaped format := by
  fun_induction unescaped format with
  | case1 rest ih => rw [fillFrom, ih]
  | case2 c rest unpaired ih =>
    by_cases percent : c = '%'
    · subst percent
      have alone : rest.head? ≠ some '%' := by
        intro paired
        obtain ⟨later, rfl⟩ := List.head?_eq_some_iff.mp paired
        exact unpaired later rfl rfl
      rw [fillFrom_alone input false alone nofun, ih]
    · rw [fillFrom_of_ne input false percent, ih]
  | case3 => rfl

theorem fillFrom_escaped (text : List Char) : fillFrom input slotAhead (escaped text) = text := by
  induction text with
  | nil => rfl
  | cons c rest ih =>
    by_cases percent : c = '%'
    · subst percent
      exact congrArg ('%' :: ·) ih
    · have written : escaped (c :: rest) = c :: escaped rest := by
        rw [escaped, List.flatMap_cons, if_neg percent]
        rfl
      rw [written, fillFrom_of_ne input slotAhead percent, ih]

end Reading

section Percents

theorem percentsAtEnd_cons (c : Char) (text : List Char) :
    percentsAtEnd (c :: text) =
      if c = '%' ∧ percentsAtEnd text = text.length then text.length + 1
      else percentsAtEnd text := by
  unfold percentsAtEnd
  rw [List.reverse_cons, List.takeWhile_append, List.length_reverse]
  by_cases percent : c = '%' <;>
    by_cases all : (text.reverse.takeWhile (· = '%')).length = text.length <;>
    simp [percent, all]

theorem percentsAtEnd_le (text : List Char) : percentsAtEnd text ≤ text.length := by
  rw [← text.length_reverse]
  exact (List.takeWhile_prefix _).length_le

theorem percentsAtEnd_of_ne {c : Char} (other : c ≠ '%') (text : List Char) :
    percentsAtEnd (c :: text) = percentsAtEnd text := by
  rw [percentsAtEnd_cons, if_neg fun both => other both.1]

theorem percentsAtEnd_alone {text rest : List Char}
    (other : (text ++ '%' :: rest).head? ≠ some '%') :
    percentsAtEnd ('%' :: text) = percentsAtEnd text := by
  rw [percentsAtEnd_cons, if_neg]
  rintro ⟨_, all⟩
  cases text with
  | nil => exact other rfl
  | cons c text =>
    have apart : c ≠ '%' := fun same => other (congrArg some same)
    rw [percentsAtEnd_of_ne apart, List.length_cons] at all
    have bound := percentsAtEnd_le text
    omega

theorem even_percentsAtEnd_pair (text : List Char) :
    Even (percentsAtEnd ('%' :: '%' :: text)) ↔ Even (percentsAtEnd text) := by
  rw [percentsAtEnd_cons, percentsAtEnd_cons]
  by_cases all : percentsAtEnd text = text.length
  · simp [all, Nat.even_add_one]
  · have bound := percentsAtEnd_le text
    simp only [all, and_false, if_false, List.length_cons]
    rw [if_neg fun both => by omega]

end Percents

/-- Nothing of what is put in front of a format becomes part of a slot. -/
def Spares (front rest : List Char) : Prop :=
  ∀ before after, IsSlot (front ++ rest) before after ↔
    ∃ between, before = front ++ between ∧ IsSlot rest between after

section Fronts

variable {c : Char} {rest : List Char}

theorem spares_of_ne (other : c ≠ '%') : Spares [c] rest := by
  intro before after
  constructor
  · rintro ⟨paired, d, slot, written⟩
    cases before with
    | nil => exact absurd (List.cons.inj written).1 other
    | cons first between =>
      obtain ⟨rfl, behind⟩ := List.cons.inj written
      rw [percentsAtEnd_of_ne other] at paired
      exact ⟨between, rfl, paired, d, slot, behind⟩
  · rintro ⟨between, rfl, paired, d, slot, rfl⟩
    refine ⟨?_, d, slot, rfl⟩
    rwa [List.singleton_append, percentsAtEnd_of_ne other]

theorem spares_pair : Spares ['%', '%'] rest := by
  intro before after
  constructor
  · rintro ⟨paired, d, slot, written⟩
    cases before with
    | nil =>
      have second := (List.cons.inj (List.cons.inj written).2).1
      subst second
      simp at slot
    | cons first between =>
      obtain ⟨rfl, behind⟩ := List.cons.inj written
      cases between with
      | nil =>
        rw [percentsAtEnd_cons] at paired
        simp [percentsAtEnd] at paired
      | cons second between =>
        obtain ⟨rfl, last⟩ := List.cons.inj behind
        exact ⟨between, rfl, (even_percentsAtEnd_pair between).mp paired, d, slot, last⟩
  · rintro ⟨between, rfl, paired, d, slot, rfl⟩
    exact ⟨(even_percentsAtEnd_pair between).mpr paired, d, slot, rfl⟩

theorem spares_alone (other : rest.head? ≠ some '%')
    (noSlot : ∀ d, rest.head? = some d → d ≠ 's' ∧ d ≠ 'v') : Spares ['%'] rest := by
  intro before after
  constructor
  · rintro ⟨paired, d, slot, written⟩
    cases before with
    | nil =>
      have next : rest.head? = some d := congrArg List.head? (List.cons.inj written).2
      obtain ⟨notS, notV⟩ := noSlot d next
      exact absurd slot (not_or.mpr ⟨notS, notV⟩)
    | cons first between =>
      have behind : rest = between ++ '%' :: d :: after := (List.cons.inj written).2
      obtain rfl : first = '%' := (List.cons.inj written).1.symm
      refine ⟨between, rfl, ?_, d, slot, behind⟩
      rw [behind] at other
      rwa [percentsAtEnd_alone other] at paired
  · rintro ⟨between, rfl, paired, d, slot, rfl⟩
    refine ⟨?_, d, slot, rfl⟩
    rwa [List.singleton_append, percentsAtEnd_alone other]

/-- What comes before the first slot is copied, with its pairs as one. -/
theorem HasOneSlot.prepend {front : List Char} (read : List Char) (spares : Spares front rest)
    (reads : ∀ text, text <+: rest → unescaped (front ++ text) = read ++ unescaped text)
    (fills : ∀ input, fillFrom input true (front ++ rest) = read ++ fillFrom input true rest)
    (one : HasOneSlot rest) : HasOneSlot (front ++ rest) := by
  rcases one with ⟨before, after, ⟨slot, first⟩, filled⟩ | ⟨none, plain⟩
  · refine .inl ⟨front ++ before, after, ⟨?_, fun earlier later found => ?_⟩, fun input => ?_⟩
    · exact (spares _ _).mpr ⟨before, rfl, slot⟩
    · obtain ⟨between, rfl, here⟩ := (spares _ _).mp found
      rw [List.length_append, List.length_append]
      exact Nat.add_le_add_left (first between later here) _
    · obtain ⟨_, _, _, rfl⟩ := slot
      rw [fills, filled, reads before (List.prefix_append _ _)]
      simp only [List.append_assoc]
  · refine .inr ⟨fun before after found => ?_, fun input => ?_⟩
    · obtain ⟨between, _, here⟩ := (spares _ _).mp found
      exact none between after here
    · rw [fills, plain, reads rest List.prefix_rfl]

end Fronts

theorem hasOneSlot (format : List Char) : HasOneSlot format := by
  -- The induction follows the reading of pairs; what is no pair is a slot or stands for itself.
  fun_induction unescaped format with
  | case1 rest ih => exact ih.prepend ['%'] spares_pair (fun _ _ => rfl) fun _ => rfl
  | case2 c rest unpaired ih =>
    by_cases percent : c = '%'
    case neg =>
      exact ih.prepend [c] (spares_of_ne percent) (fun _ _ => unescaped_of_ne percent)
        fun input => fillFrom_of_ne input true percent
    case pos =>
      subst percent
      have alone : rest.head? ≠ some '%' := by
        intro paired
        obtain ⟨later, rfl⟩ := List.head?_eq_some_iff.mp paired
        exact unpaired later rfl rfl
      by_cases slot : ∃ d, rest.head? = some d ∧ (d = 's' ∨ d = 'v')
      case neg =>
        have noSlot : ∀ d, rest.head? = some d → d ≠ 's' ∧ d ≠ 'v' :=
          fun d next => not_or.mp fun taken => slot ⟨d, next, taken⟩
        refine ih.prepend ['%'] (spares_alone alone noSlot) (fun text early => ?_)
          fun input => fillFrom_alone input true alone fun _ => noSlot
        obtain ⟨tail, rfl⟩ := early
        have stays : text.head? ≠ some '%' := fun paired =>
          alone (by rw [List.head?_append, paired]; rfl)
        exact unescaped_alone stays
      case pos =>
        obtain ⟨d, next, taken⟩ := slot
        obtain ⟨after, rfl⟩ := List.head?_eq_some_iff.mp next
        refine .inl ⟨[], after, ⟨⟨Even.zero, d, taken, rfl⟩, fun _ _ _ => Nat.zero_le _⟩, ?_⟩
        intro input
        rw [fillFrom, if_pos (by simpa using taken), fillFrom_false]
        · rfl
        · rintro rfl
          exact alone rfl
  | case3 =>
    refine .inr ⟨fun before after => ?_, fun _ => rfl⟩
    rintro ⟨_, _, _, written⟩
    simp at written

/-- A format has one slot for the input or none. The texts before and after it are those of the
format with each `%%` as one `%`; nothing else is changed, and the input is not read. A text with
each percent sign written twice comes to itself. -/
theorem fill_has_one_slot (format : String) :
    ((∃ before after, IsFirstSlot format.toList before after ∧
        ∀ input, fill format input =
          String.ofList (unescaped before) ++ input ++ String.ofList (unescaped after)) ∨
      (∀ before after, ¬IsSlot format.toList before after) ∧
        ∀ input, fill format input = String.ofList (unescaped format.toList)) ∧
      ∀ input, fill (String.ofList (escaped format.toList)) input = format := by
  refine ⟨?_, fun input => ?_⟩
  · rcases hasOneSlot format.toList with ⟨before, after, first, filled⟩ | ⟨none, plain⟩
    · refine .inl ⟨before, after, first, fun input => ?_⟩
      rw [fill, filled, String.ofList_append, String.ofList_append, String.ofList_toList]
    · exact .inr ⟨none, fun input => congrArg String.ofList (plain input.toList)⟩
  · rw [fill, String.toList_ofList, fillFrom_escaped, String.ofList_toList]

example :
    fill "%%s: %s, 100%% of %s%" "5%%" = "%s: 5%%, 100% of %s%" := by
  decide +kernel

end Parley.Template
