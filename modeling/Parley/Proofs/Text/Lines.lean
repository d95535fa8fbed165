import Mathlib.Algebra.Ring.Nat
/-!
The lines of a text, and how many line breaks it takes to part them.
-/

namespace Parley.Text

/-- The lines of a text. Each ends with a line break, but for the last one, which may do without. -/
def linesFrom : List Char → List (List Char)
  | [] => []
  | c :: rest =>
    if c = '\n' then [] :: linesFrom rest
    else
      match linesFrom rest with
      | [] => [[c]]
      | line :: more => (c :: line) :: more

def lines (text : String) : List String := (linesFrom text.toList).map String.ofList

def unlines (texts : List String) : String := texts.foldr (fun text rest => text ++ "\n" ++ rest) ""

def breaks (texts : List String) : Nat := (texts.map fun text => text.toList.count '\n').sum

theorem length_linesFrom (text : List Char) :
    (linesFrom (text ++ ['\n'])).length = text.count '\n' + 1 := by
  induction text with
  | nil => rfl
  | cons c rest ih =>
    rw [List.cons_append, linesFrom]
    by_cases ends : c = '\n'
    · rw [if_pos ends, ends, List.count_cons_self, List.length_cons, ih]
    · rw [if_neg ends, List.count_cons_of_ne ends, ← ih]
      cases lines : linesFrom (rest ++ ['\n']) with
      | nil => simp [lines] at ih
      | cons line more => rfl

theorem linesFrom_append (early late : List Char) :
    linesFrom (early ++ '\n' :: late) = linesFrom (early ++ ['\n']) ++ linesFrom late := by
  induction early with
  | nil => rfl
  | cons c rest ih =>
    simp only [List.cons_append, linesFrom, ih]
    by_cases ends : c = '\n'
    · rw [if_pos ends, if_pos ends, List.cons_append]
    · rw [if_neg ends, if_neg ends]
      have some := length_linesFrom rest
      cases lines : linesFrom (rest ++ ['\n']) with
      | nil => simp [lines] at some
      | cons line more => rfl

theorem linesFrom_of_not_mem {text : List Char} (unbroken : '\n' ∉ text) :
    linesFrom (text ++ ['\n']) = [text] := by
  induction text with
  | nil => rfl
  | cons c rest ih =>
    obtain ⟨other, later⟩ := not_or.mp fun either => unbroken (List.mem_cons.mpr either)
    rw [List.cons_append, linesFrom, if_neg (Ne.symm other), ih later]

theorem lines_ended (text : String) :
    lines (text ++ "\n") = (linesFrom (text.toList ++ ['\n'])).map String.ofList := by
  rw [lines, String.toList_append]
  rfl

theorem lines_append (text rest : String) :
    lines (text ++ "\n" ++ rest) = lines (text ++ "\n") ++ lines rest := by
  have parted : (text ++ "\n" ++ rest).toList = text.toList ++ '\n' :: rest.toList := by
    simp [String.toList_append]
  rw [lines, parted, linesFrom_append, List.map_append, lines_ended, lines]

section Unlines

variable {texts : List String}

theorem lines_unlines (texts : List String) :
    lines (unlines texts) = texts.flatMap fun text => lines (text ++ "\n") := by
  induction texts with
  | nil => rfl
  | cons text rest ih =>
    calc
      lines (unlines (text :: rest)) = lines (text ++ "\n" ++ unlines rest) := rfl
      _ = lines (text ++ "\n") ++ lines (unlines rest) := lines_append text _
      _ = _ := by rw [ih, List.flatMap_cons]

@[simp]
theorem breaks_nil : breaks [] = 0 := rfl

@[simp]
theorem breaks_cons (text : String) (rest : List String) :
    breaks (text :: rest) = text.toList.count '\n' + breaks rest := rfl

@[simp]
theorem breaks_append (early late : List String) :
    breaks (early ++ late) = breaks early + breaks late := by
  rw [breaks, List.map_append, List.sum_append_nat]
  rfl

theorem breaks_flatMap {α : Type} (list : List α) (texts : α → List String) :
    breaks (list.flatMap texts) = (list.map fun entry => breaks (texts entry)).sum := by
  induction list with
  | nil => rfl
  | cons entry rest ih => rw [List.flatMap_cons, breaks_append, ih, List.map_cons, List.sum_cons]

theorem breaks_eq_zero_iff : breaks texts = 0 ↔ ∀ text ∈ texts, '\n' ∉ text.toList := by
  induction texts with
  | nil => simp
  | cons text rest ih => rw [breaks_cons, Nat.add_eq_zero_iff, List.count_eq_zero, ih,
      List.forall_mem_cons]

theorem length_lines_unlines (texts : List String) :
    (lines (unlines texts)).length = texts.length + breaks texts := by
  rw [lines_unlines]
  induction texts with
  | nil => rfl
  | cons text rest ih =>
    have here : (lines (text ++ "\n")).length = text.toList.count '\n' + 1 := by
      rw [lines_ended, List.length_map, length_linesFrom]
    rw [List.flatMap_cons, List.length_append, here, ih, List.length_cons, breaks_cons]
    omega

/-- Texts are the lines that they are written as just where no line break stands in one of them. -/
theorem lines_unlines_eq_iff : lines (unlines texts) = texts ↔ breaks texts = 0 := by
  constructor
  · intro same
    have count := length_lines_unlines texts
    rw [same] at count
    omega
  · intro none
    have unbroken := breaks_eq_zero_iff.mp none
    have each : texts.map (fun text => lines (text ++ "\n")) = texts.map fun text => [text] := by
      apply List.map_congr_left
      intro text member
      rw [lines_ended, linesFrom_of_not_mem (unbroken text member), List.map_singleton,
        String.ofList_toList]
    rw [lines_unlines, List.flatMap_def, each, ← List.flatMap_def, List.flatMap_singleton']

end Unlines

end Parley.Text
