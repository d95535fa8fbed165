import Mathlib.Data.List.TakeWhile
import Parley.Console.Line
import Parley.Proofs.Text.Bytes
import Parley.Proofs.Text.Words
/-!
What is typed at the console arrives as it was typed.

The words of a command may stand behind gaps of any width. A word that gives a name a value is cut
at its first equals sign, so a value may have more of them. One word without the sign, and nothing
of the line counts.
-/

namespace Parley.Console

structure Assignment where
  key : String
  value : String
  plain : '=' ∉ key.toList
  solidKey : Text.isSolid key = true
  solidValue : Text.isSolid value = true

namespace Assignment

def word (assignment : Assignment) : String := assignment.key ++ "=" ++ assignment.value

def entry (assignment : Assignment) : String × String := (assignment.key, assignment.value)

def last? (assignments : List Assignment) (key : String) : Option String :=
  (assignments.reverse.find? (·.key = key)).map value

end Assignment

/-- The line is a slash with the name of the command in some letter case, and the words, each
behind a gap. -/
def Typed (command : String) (words : List String) (line : String) : Prop :=
  ∃ name rest, Text.InSomeCase command name ∧ Text.Spaced words rest ∧
    line.toList = '/' :: (name.toList ++ rest)

def isLoose (word : String) : Bool := '=' ∉ word.toList

namespace Assignment

theorem toList_word (assignment : Assignment) :
    assignment.word.toList = assignment.key.toList ++ '=' :: assignment.value.toList := by
  rw [word, String.toList_append, String.toList_append, List.append_assoc]
  rfl

theorem isWord_word (assignment : Assignment) : Text.IsWord assignment.word := by
  constructor
  · intro empty
    have spelt := assignment.toList_word
    rw [empty] at spelt
    exact absurd spelt.symm (by simp)
  · rw [Text.isSolid_iff]
    intro c member
    rw [toList_word, List.mem_append, List.mem_cons] at member
    rcases member with key | rfl | value
    · exact Text.isSolid_iff.mp assignment.solidKey c key
    · decide
    · exact Text.isSolid_iff.mp assignment.solidValue c value

theorem isWord_of_mem_map {assignments : List Assignment} :
    ∀ text ∈ assignments.map word, Text.IsWord text := by
  intro text member
  obtain ⟨assignment, _, rfl⟩ := List.mem_map.mp member
  exact assignment.isWord_word

theorem assignment?_word (assignment : Assignment) :
    assignment? assignment.word = some assignment.entry := by
  have apart : ∀ c ∈ assignment.key.toList, decide (c ≠ '=') = true := by
    intro c member
    rw [decide_eq_true_eq]
    rintro rfl
    exact assignment.plain member
  rw [assignment?, toList_word, List.takeWhile_append_of_pos apart,
    List.dropWhile_append_of_pos apart, List.takeWhile_cons_of_neg (by decide),
    List.dropWhile_cons_of_neg (by decide)]
  simp [entry]

theorem assignments_map_word (assignments : List Assignment) :
    Console.assignments (assignments.map word) = .ok (assignments.map entry) := by
  induction assignments with
  | nil => rfl
  | cons assignment rest ih =>
    rw [List.map_cons, Console.assignments, assignment?_word, ih]
    rfl

theorem get?_ofList (assignments : List Assignment) (key : String) :
    (TextMap.ofList (assignments.map entry)).get? key = last? assignments key :=
  TextMap.get?_ofList_map entry assignments key

theorem values_map_word (assignments : List Assignment) :
    values (assignments.map word) = .ok (TextMap.ofList (assignments.map entry)) := by
  rw [values, assignments_map_word]
  rfl

end Assignment

theorem assignment?_eq_none_iff {word : String} :
    assignment? word = none ↔ isLoose word = true := by
  have ended : word.toList.dropWhile (· ≠ '=') = [] ↔ isLoose word = true := by
    rw [List.dropWhile_eq_nil_iff, isLoose, decide_eq_true_eq]
    constructor
    · intro apart member
      exact absurd (apart '=' member) (by decide)
    · rintro absent c member
      rw [decide_eq_true_eq]
      rintro rfl
      exact absent member
  rw [← ended, assignment?]
  cases word.toList.dropWhile (· ≠ '=') with
  | nil => exact iff_of_true rfl rfl
  | cons sign value => exact iff_of_false nofun nofun

section Words

variable {connection id line name bad : String} {words : List String}

theorem assignments_of_find? (found : words.find? isLoose = some bad) :
    assignments words = .error (.noAssignment bad) := by
  induction words with
  | nil => cases found
  | cons word rest ih =>
    rw [assignments]
    cases cut : assignment? word with
    | none =>
      rw [List.find?_cons_of_pos (assignment?_eq_none_iff.mp cut)] at found
      cases found
      rfl
    | some entry =>
      have bound : ¬isLoose word = true := fun loose => by
        rw [assignment?_eq_none_iff.mpr loose] at cut
        cases cut
      rw [List.find?_cons_of_neg bound] at found
      simp only [ih found]
      rfl

theorem parse_of_typed (whole : Text.IsWord name) (plain : name.toList.all (·.toNat < 0x80) = true)
    (sound : ∀ word ∈ words, Text.IsWord word) (typed : Typed name words line) :
    parse connection id line = command connection id name words := by
  obtain ⟨given, rest, same, spaced, written⟩ := typed
  rw [parse, written]
  simp only [spaced.words (same.isWord whole) sound, same.lower_eq plain]

end Words

section Commands

variable (connection id : String) {line bad : String} {words : List String}

theorem parse_hook {assignments : List Assignment}
    (typed : Typed "hook" (assignments.map Assignment.word) line) :
    parse connection id line =
      .ok (.hook ⟨connection, .ofList (assignments.map Assignment.entry)⟩) := by
  rw [parse_of_typed (by decide) (by decide) Assignment.isWord_of_mem_map typed]
  show hook connection _ = _
  rw [hook, Assignment.values_map_word]
  rfl

def offered (map : TextMap String) : List ProofValue :=
  map.entries.map fun entry => ⟨entry.1, entry.2, none⟩

theorem ordered_offered (map : TextMap String) :
    (offered map).Pairwise fun a b => Text.bytes a.name < Text.bytes b.name :=
  List.pairwise_map.mpr (map.ordered.imp Text.lt_iff_bytes_lt.mp)

theorem mem_offered_iff {map : TextMap String} {value : ProofValue} :
    value ∈ offered map ↔ map.get? value.name = some value.value ∧ value.credDefId = none := by
  have distinct : map.entries.Pairwise (fun a b => a.1 ≠ b.1) := map.ordered.imp String.ne_of_lt
  rw [offered, List.mem_map, TextMap.get?, TextMap.findIn_eq_some_iff distinct]
  constructor
  · rintro ⟨entry, inside, rfl⟩
    exact ⟨inside, rfl⟩
  · rintro ⟨inside, alone⟩
    exact ⟨_, inside, by rw [← alone]⟩

theorem Assignment.isEmpty_ofList {assignments : List Assignment} (filled : assignments ≠ []) :
    (TextMap.ofList (assignments.map entry)).isEmpty = false := by
  obtain ⟨first, rest, rfl⟩ := List.exists_cons_of_ne_nil filled
  have held : (last? (first :: rest) first.key).isSome = true := by
    rw [last?, Option.isSome_map, List.find?_isSome]
    exact ⟨first, by simp, by simp⟩
  rw [← get?_ofList, TextMap.get?] at held
  rw [TextMap.isEmpty]
  cases entries : (TextMap.ofList ((first :: rest).map entry)).entries with
  | nil =>
    rw [entries] at held
    cases held
  | cons head tail => rfl

theorem parse_prove {assignments : List Assignment} (filled : assignments ≠ [])
    (typed : Typed "prove" (assignments.map Assignment.word) line) :
    parse connection id line =
      .ok (.deliver (.question ⟨id, connection,
        offered (.ofList (assignments.map Assignment.entry))⟩)) := by
  rw [parse_of_typed (by decide) (by decide) Assignment.isWord_of_mem_map typed]
  show prove connection id _ = _
  rw [prove, Assignment.values_map_word]
  simp only [Assignment.isEmpty_ofList filled, Bool.false_eq_true, if_false]
  rfl

theorem parse_loose {name : String} (known : name = "hook" ∨ name = "prove")
    (sound : ∀ word ∈ words, Text.IsWord word) (typed : Typed name words line)
    (found : words.find? isLoose = some bad) :
    parse connection id line = .error (.noAssignment bad) := by
  have refused : values words = .error (.noAssignment bad) := by
    rw [values, assignments_of_find? found]
    rfl
  rcases known with rfl | rfl
  · rw [parse_of_typed (by decide) (by decide) sound typed]
    show hook connection words = _
    rw [hook, refused]
    rfl
  · rw [parse_of_typed (by decide) (by decide) sound typed]
    show prove connection id words = _
    rw [prove, refused]

theorem parse_backend {subject : String} (sound : ∀ word ∈ subject :: words, Text.IsWord word)
    (typed : Typed "backend" (subject :: words) line) :
    parse connection id line =
      .ok (.deliver (.backend ⟨connection, "", subject, " ".intercalate words⟩)) := by
  rw [parse_of_typed (by decide) (by decide) sound typed]
  rfl

theorem parse_message (plain : line.toList.head? ≠ some '/') :
    parse connection id line = .ok (.deliver (.status (.message connection id line))) := by
  rw [parse]
  split
  next slash => exact absurd (by rw [slash]; rfl) plain
  next => rfl

/-- What is typed arrives: the values of a hook or of a question with the last one for each name,
the words of a message to the backend with single spaces between them, and any other line as it is.
A word that should give a name a value and does not is told instead of the whole line. -/
theorem words_arrive_as_typed (connection id : String) :
    (∀ (assignments : List Assignment) (line : String),
      Typed "hook" (assignments.map Assignment.word) line →
      ∃ data : TextMap String, parse connection id line = .ok (.hook ⟨connection, data⟩) ∧
        ∀ key, data.get? key = Assignment.last? assignments key) ∧
    (∀ (assignments : List Assignment) (line : String), assignments ≠ [] →
      Typed "prove" (assignments.map Assignment.word) line →
      ∃ values : List ProofValue,
        parse connection id line = .ok (.deliver (.question ⟨id, connection, values⟩)) ∧
          (values.Pairwise fun a b => Text.bytes a.name < Text.bytes b.name) ∧
          ∀ value, value ∈ values ↔
            Assignment.last? assignments value.name = some value.value ∧
              value.credDefId = none) ∧
    (∀ (name : String) (words : List String) (line : String), name = "hook" ∨ name = "prove" →
      (∀ word ∈ words, Text.IsWord word) → Typed name words line →
      (∃ word ∈ words, '=' ∉ word.toList) →
      ∃ bad, words.find? isLoose = some bad ∧
        parse connection id line = .error (.noAssignment bad)) ∧
    (∀ (subject : String) (words : List String) (line : String),
      (∀ word ∈ subject :: words, Text.IsWord word) → Typed "backend" (subject :: words) line →
      parse connection id line =
        .ok (.deliver (.backend ⟨connection, "", subject, " ".intercalate words⟩))) ∧
    ∀ line : String, line.toList.head? ≠ some '/' →
      ∃ said : Status, parse connection id line = .ok (.deliver (.status said)) ∧
        said.connection = connection ∧ said.protocol = .basicMessage ∧ said.ours = false ∧
        said.content = line := by
  refine ⟨?_, ?_, ?_, ?_, ?_⟩
  · intro assignments line typed
    exact ⟨_, parse_hook connection id typed, Assignment.get?_ofList assignments⟩
  · intro assignments line filled typed
    refine ⟨_, parse_prove connection id filled typed, ordered_offered _, fun value => ?_⟩
    rw [mem_offered_iff, Assignment.get?_ofList]
  · rintro name words line known sound typed ⟨word, member, absent⟩
    have loose : (words.find? isLoose).isSome = true :=
      List.find?_isSome.mpr ⟨word, member, decide_eq_true absent⟩
    obtain ⟨bad, found⟩ := Option.isSome_iff_exists.mp loose
    exact ⟨bad, found, parse_loose connection id known sound typed found⟩
  · intro subject words line sound typed
    exact parse_backend connection id sound typed
  · intro line plain
    exact ⟨_, parse_message connection id plain, rfl, rfl, rfl, rfl⟩

end Commands

section Session

def readings : List Assignment :=
  [⟨"a", "1", by decide, by decide, by decide⟩, ⟨"b", "x=y", by decide, by decide, by decide⟩,
    ⟨"a", "2", by decide, by decide, by decide⟩]

theorem typed_hook :
    Typed "hook" (readings.map Assignment.word) "/HooK\t a=1 \u2003b=x=y\na=2 " :=
  ⟨"HooK", _, by decide,
    .cons ['\t', ' '] (by decide) (by decide) <| .cons [' ', '\u2003'] (by decide) (by decide) <|
      .cons ['\n'] (by decide) (by decide) <| .nil [' '] (by decide),
    by decide⟩

theorem typed_prove :
    Typed "prove" (readings.map Assignment.word) "/PROVE a=1\u00a0b=x=y  a=2" :=
  ⟨"PROVE", _, by decide,
    .cons [' '] (by decide) (by decide) <| .cons ['\u00a0'] (by decide) (by decide) <|
      .cons [' ', ' '] (by decide) (by decide) <| .nil [] (by decide),
    by decide⟩

theorem typed_loose : Typed "hook" ["a=1", "b", "c"] "/hook a=1 b c" :=
  ⟨"hook", _, by decide,
    .cons [' '] (by decide) (by decide) <| .cons [' '] (by decide) (by decide) <|
      .cons [' '] (by decide) (by decide) <| .nil [] (by decide),
    by decide⟩

theorem typed_backend : Typed "backend" ["chat", "hi", "there"] "/Backend chat\thi   there" :=
  ⟨"Backend", _, by decide,
    .cons [' '] (by decide) (by decide) <| .cons ['\t'] (by decide) (by decide) <|
      .cons [' ', ' ', ' '] (by decide) (by decide) <| .nil [] (by decide),
    by decide⟩

theorem session_arrives :
    (∃ data, parse "c" "q" "/HooK\t a=1 \u2003b=x=y\na=2 " = .ok (.hook ⟨"c", data⟩) ∧
      data.get? "a" = some "2" ∧ data.get? "b" = some "x=y" ∧ data.get? "c" = none) ∧
    (∃ values, parse "c" "q" "/PROVE a=1\u00a0b=x=y  a=2" =
        .ok (.deliver (.question ⟨"q", "c", values⟩)) ∧
      ⟨"a", "2", none⟩ ∈ values ∧ ⟨"a", "1", none⟩ ∉ values) ∧
    parse "c" "q" "/hook a=1 b c" = .error (.noAssignment "b") ∧
    parse "c" "q" "/Backend chat\thi   there" =
      .ok (.deliver (.backend ⟨"c", "", "chat", "hi there"⟩)) ∧
    ∃ said, parse "c" "q" " /hook  a" = .ok (.deliver (.status said)) ∧
      said.content = " /hook  a" := by
  obtain ⟨hooks, proofs, looses, backends, messages⟩ := words_arrive_as_typed "c" "q"
  refine ⟨?_, ?_, ?_, ?_, ?_⟩
  · obtain ⟨data, read, held⟩ := hooks readings _ typed_hook
    exact ⟨data, read, by rw [held]; decide, by rw [held]; decide, by rw [held]; decide⟩
  · obtain ⟨values, read, _, held⟩ := proofs readings _ (by decide) typed_prove
    refine ⟨values, read, (held _).mpr (by decide), fun inside => ?_⟩
    exact absurd ((held _).mp inside) (by decide)
  · obtain ⟨bad, found, read⟩ :=
      looses "hook" _ _ (.inl rfl) (by decide) typed_loose ⟨"b", by decide, by decide⟩
    cases found
    exact read
  · exact backends "chat" ["hi", "there"] _ (by decide) typed_backend
  · obtain ⟨said, read, _, _, _, content⟩ := messages " /hook  a" (by decide)
    exact ⟨said, read, content⟩

end Session

end Parley.Console
