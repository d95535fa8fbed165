import Parley.Proofs.Json.RoundTrip
import Parley.Proofs.Template.Letters
/-!
Texts of JSON with references in their strings.

A form is such a text, token by token with the blanks between them. Its letters are what is written,
and its document is what is meant, with so much in the place of each reference. Where all that is
put consists of characters that stand for themselves, the text with it is read as the document with
it.
-/

namespace Parley.Json

open Template (Letter spell)

def isPlain (c : Char) : Bool := c ≠ '"' && c ≠ '\\' && 0x20 ≤ c.toNat

abbrev Blanks := List { c : Char // isSpace c = true }

structure CodeUnit where
  a : Char
  b : Char
  c : Char
  d : Char
  code : Nat
  reads : unit? a b c d = some code

inductive Segment where
  | plain (c : Char) (itself : isPlain c = true)
  | short (letter c : Char) (names : shortEscape? letter = some c)
  | unit (written : CodeUnit)
      (whole : isHighSurrogate written.code = false ∧ isLowSurrogate written.code = false)
  | pair (high low : CodeUnit)
      (surrogates : isHighSurrogate high.code = true ∧ isLowSurrogate low.code = true)
  | reference (name : String)

structure Numeral where
  text : List Char
  parts : NumberParts
  reads : numberParts? text = some (parts, [])
  inRange : parts.inRange = true

structure Item (α : Type) where
  before : Blanks
  value : α
  after : Blanks

structure Member (α : Type) where
  name : Item (List Segment)
  value : Item α

inductive Form where
  | null
  | bool (value : Bool)
  | number (numeral : Numeral)
  | string (segments : List Segment)
  | array (inside : Blanks) (items : List (Item Form))
  | object (inside : Blanks) (members : List (Member Form))

def Blanks.letters (blanks : Blanks) : List Letter := blanks.map fun c => .char c.val

def CodeUnit.letters (unit : CodeUnit) : List Letter :=
  ['\\', 'u', unit.a, unit.b, unit.c, unit.d].map .char

namespace Segment

def letters : Segment → List Letter
  | plain c _ => [.char c]
  | short letter _ _ => [.char '\\', .char letter]
  | unit written _ => written.letters
  | pair high low _ => high.letters ++ low.letters
  | reference name => [.reference name]

def meaning : Segment → Letter
  | plain c _ => .char c
  | short _ c _ => .char c
  | unit written _ => .char (Char.ofNat written.code)
  | pair high low _ =>
    .char (Char.ofNat (0x10000 + 0x400 * (high.code - 0xD800) + (low.code - 0xDC00)))
  | reference name => .reference name

def lettersOfTail (segments : List Segment) : List Letter :=
  segments.flatMap letters ++ [.char '"']

end Segment

namespace Form

mutual

def letters : Form → List Letter
  | null => ['n', 'u', 'l', 'l'].map .char
  | bool true => ['t', 'r', 'u', 'e'].map .char
  | bool false => ['f', 'a', 'l', 's', 'e'].map .char
  | number numeral => numeral.text.map .char
  | string segments => .char '"' :: Segment.lettersOfTail segments
  | array inside [] => .char '[' :: (inside.letters ++ [.char ']'])
  | array inside (item :: rest) =>
    .char '[' :: (inside.letters ++ lettersOfItem item ++ lettersOfItems rest)
  | object inside [] => .char '\x7b' :: (inside.letters ++ [.char '\x7d'])
  | object inside (member :: rest) =>
    .char '\x7b' :: (inside.letters ++ lettersOfMember member ++ lettersOfMembers rest)

def lettersOfItem : Item Form → List Letter
  | ⟨before, value, after⟩ => before.letters ++ value.letters ++ after.letters

def lettersOfItems : List (Item Form) → List Letter
  | [] => [.char ']']
  | item :: rest => .char ',' :: (lettersOfItem item ++ lettersOfItems rest)

def lettersOfMember : Member Form → List Letter
  | ⟨⟨before, name, after⟩, value⟩ =>
    before.letters ++ .char '"' :: (Segment.lettersOfTail name ++ after.letters ++
      .char ':' :: lettersOfItem value)

def lettersOfMembers : List (Member Form) → List Letter
  | [] => [.char '\x7d']
  | member :: rest => .char ',' :: (lettersOfMember member ++ lettersOfMembers rest)

end

def say (put : String → List Char) (segments : List Segment) : String :=
  String.ofList (spell put (segments.map Segment.meaning))

mutual

def document (put : String → List Char) : Form → Json
  | null => .null
  | bool value => .bool value
  | number numeral => .number (String.ofList numeral.text)
  | string segments => .string (say put segments)
  | array _ items => .array (documents put items)
  | object _ members => .object (memberDocuments put members)

def documents (put : String → List Char) : List (Item Form) → List Json
  | [] => []
  | ⟨_, value, _⟩ :: rest => value.document put :: documents put rest

def memberDocuments (put : String → List Char) : List (Member Form) → List (String × Json)
  | [] => []
  | ⟨⟨_, name, _⟩, ⟨_, value, _⟩⟩ :: rest =>
    (say put name, value.document put) :: memberDocuments put rest

end

end Form

section Strings

variable {put : String → List Char}

theorem pieces_plain_text {text : List Char} (plain : text.all isPlain = true) (rest : List Char) :
    pieces (text ++ rest) =
      (pieces rest).map fun read => (text.map Piece.char ++ read.1, read.2) := by
  induction text with
  | nil => simp
  | cons c later ih =>
    obtain ⟨itself, more⟩ := Bool.and_eq_true_iff.mp (List.all_cons ▸ plain)
    simp only [isPlain, Bool.and_eq_true, decide_eq_true_eq] at itself
    rw [List.cons_append, pieces_plain itself.1.1 itself.1.2 (by omega), ih more]
    cases pieces rest <;> rfl

theorem content_chars (text : List Char) (read : List Piece) :
    content (text.map Piece.char ++ read) = (content read).map (text ++ ·) := by
  induction text with
  | nil => simp
  | cons c later ih =>
    rw [List.map_cons, List.cons_append, content, ih]
    cases content read <;> rfl

theorem pieces_unit {a b c d : Char} {code : Nat} (reads : unit? a b c d = some code)
    (rest : List Char) :
    pieces ('\\' :: 'u' :: a :: b :: c :: d :: rest) =
      (pieces rest).map (Piece.unit code).before := by
  rw [pieces, reads]
  cases pieces rest <;> rfl

theorem content_whole {code : Nat}
    (whole : isHighSurrogate code = false ∧ isLowSurrogate code = false) (read : List Piece) :
    content (.unit code :: read) = (content read).map (Char.ofNat code :: ·) := by
  cases read with
  | nil => simp [content, whole]
  | cons piece more => cases piece <;> simp [content, whole]

theorem exists_pieces_segment (segment : Segment)
    (plain : ∀ name, segment = .reference name → (put name).all isPlain = true) :
    ∃ early : List Piece,
      (∀ rest, pieces (spell put segment.letters ++ rest) =
        (pieces rest).map fun read => (early ++ read.1, read.2)) ∧
      ∀ read, content (early ++ read) =
        (content read).map (spell put [segment.meaning] ++ ·) := by
  cases segment with
  | plain c itself =>
    have alone : [c].all isPlain = true := by simpa using itself
    exact ⟨[.char c], pieces_plain_text alone, fun read => rfl⟩
  | short letter c names => exact ⟨[.char c], pieces_short names, fun read => rfl⟩
  | unit written whole =>
    exact ⟨[.unit written.code], pieces_unit written.reads, content_whole whole⟩
  | pair high low surrogates =>
    refine ⟨[.unit high.code, .unit low.code], fun rest => ?_, fun read => ?_⟩
    · have both := pieces_unit high.reads ('\\' :: 'u' :: low.a :: low.b :: low.c :: low.d :: rest)
      rw [pieces_unit low.reads, Option.map_map] at both
      exact both
    · simp only [List.cons_append, List.nil_append, content, surrogates, if_true]
      rfl
  | reference name =>
    refine ⟨(put name).map .char, fun rest => ?_, fun read => ?_⟩
    · simp only [Segment.letters, spell, List.append_nil]
      exact pieces_plain_text (plain name rfl) rest
    · simp only [Segment.meaning, spell, List.append_nil]
      exact content_chars _ read

theorem stringTail_segments {segments : List Segment}
    (plain : ∀ name, .reference name ∈ segments → (put name).all isPlain = true)
    (rest : List Char) :
    stringTail (spell put (Segment.lettersOfTail segments) ++ rest) =
      some (some (Form.say put segments), rest) := by
  have read : ∃ read, pieces (spell put (Segment.lettersOfTail segments) ++ rest) =
      some (read, rest) ∧ content read = some (spell put (segments.map Segment.meaning)) := by
    induction segments with
    | nil => exact ⟨[], rfl, rfl⟩
    | cons segment more ih =>
      obtain ⟨read, taken, said⟩ := ih fun name member =>
        plain name (List.mem_cons_of_mem _ member)
      obtain ⟨early, first, means⟩ := exists_pieces_segment segment fun name same =>
        plain name (same ▸ List.mem_cons_self)
      refine ⟨early ++ read, ?_, ?_⟩
      · have split : Segment.lettersOfTail (segment :: more) =
            segment.letters ++ Segment.lettersOfTail more := by
          simp [Segment.lettersOfTail]
        rw [split, Template.spell_append, List.append_assoc, first, taken]
        rfl
      · have both := Template.spell_append put [segment.meaning] (more.map Segment.meaning)
        rw [means, said, Option.map_some, ← both]
        rfl
  obtain ⟨pieces, taken, said⟩ := read
  rw [stringTail, taken]
  simp only [said, Option.map_some]
  rfl

end Strings

section Numbers

def Stops (left : List Char) : Prop :=
  ∀ c ∈ left.head?, isDigit c = false ∧ c ≠ '.' ∧ c ≠ 'e' ∧ c ≠ 'E'

variable {text left rest : List Char}

theorem digits_of_stops (stops : Stops left) (text : List Char) :
    (text ++ left).takeWhile isDigit = text.takeWhile isDigit ∧
      (text ++ left).dropWhile isDigit = text.dropWhile isDigit ++ left := by
  induction text with
  | nil =>
    cases left with
    | nil => exact ⟨rfl, rfl⟩
    | cons c rest => simp [(stops c rfl).1]
  | cons c rest ih =>
    cases digit : isDigit c <;> simp [digit, ih]

theorem digits?_append (stops : Stops left) {digits : List Char}
    (read : digits? text = some (digits, rest)) :
    digits? (text ++ left) = some (digits, rest ++ left) := by
  obtain ⟨taken, dropped⟩ := digits_of_stops stops text
  unfold digits? at read ⊢
  rw [taken, dropped]
  split at read
  next => cases read
  next some =>
    cases read
    rfl

theorem wholePart?_append (stops : Stops left) {whole : List Char}
    (read : wholePart? text = some (whole, rest)) :
    wholePart? (text ++ left) = some (whole, rest ++ left) := by
  unfold wholePart? at read
  split at read
  next => cases read; rfl
  next nonzero =>
    cases text with
    | nil => cases read
    | cons c more =>
      rw [List.cons_append, wholePart?.eq_2 _ (by simpa using nonzero), ← List.cons_append]
      exact digits?_append stops read

theorem fractionPart?_append (stops : Stops left) {fraction : List Char}
    (read : fractionPart? text = some (fraction, rest)) :
    fractionPart? (text ++ left) = some (fraction, rest ++ left) := by
  unfold fractionPart? at read
  split at read
  next => exact digits?_append stops read
  next other =>
    cases read
    refine fractionPart?.eq_2 _ fun more same => ?_
    cases text with
    | nil =>
      have point : '.' ∈ left.head? := by simp_all
      exact (stops _ point).2.1 rfl
    | cons c later => exact other later (by simp_all)

theorem exponentPart?_append (stops : Stops left) {sign exponent : List Char}
    (read : exponentPart? text = some (sign, exponent, rest)) :
    exponentPart? (text ++ left) = some (sign, exponent, rest ++ left) := by
  have digits {signed : List Char} {more : List Char}
      (read : (digits? more).map (signed, ·) = some (sign, exponent, rest)) :
      (digits? (more ++ left)).map (signed, ·) = some (sign, exponent, rest ++ left) := by
    obtain ⟨⟨ds, after⟩, taken, same⟩ := Option.map_eq_some_iff.mp read
    cases same
    rw [digits?_append stops taken]
    rfl
  cases text with
  | nil =>
    cases read
    cases left with
    | nil => rfl
    | cons c more =>
      obtain ⟨_, _, lower, upper⟩ := stops c rfl
      simp [exponentPart?, lower, upper]
  | cons c more =>
    rw [List.cons_append]
    unfold exponentPart? at read ⊢
    dsimp only at read ⊢
    split at read
    next mark =>
      rw [if_pos mark]
      cases more with
      | nil => cases read
      | cons d later =>
        rw [List.cons_append]
        split at read
        next same => cases same; exact digits read
        next same => cases same; exact digits read
        next plus minus =>
          split
          next same => cases same; exact absurd rfl (plus _)
          next same => cases same; exact absurd rfl (minus _)
          next => exact digits read
    next other =>
      rw [if_neg other]
      cases read
      rfl

def unsignedParts? (negative : Bool) (text : List Char) : Option (NumberParts × List Char) := do
  let (whole, afterWhole) ← wholePart? text
  let (fraction, afterFraction) ← fractionPart? afterWhole
  let (sign, exponent, left) ← exponentPart? afterFraction
  some (⟨negative, whole, fraction, sign, exponent⟩, left)

theorem numberParts?_of_ne {c : Char} (bare : c ≠ '-') (later : List Char) :
    numberParts? (c :: later) = unsignedParts? false (c :: later) := by
  unfold numberParts? unsignedParts?
  split
  next negative unsigned same =>
    split at same
    next minus => exact absurd (List.cons.inj minus).1 bare
    next =>
      cases same
      rfl

theorem unsignedParts?_append (stops : Stops left) {negative : Bool} {parts : NumberParts}
    (read : unsignedParts? negative text = some (parts, rest)) :
    unsignedParts? negative (text ++ left) = some (parts, rest ++ left) := by
  simp only [unsignedParts?, Option.bind_eq_bind, Option.bind_eq_some_iff] at read ⊢
  obtain ⟨⟨whole, afterWhole⟩, first, ⟨fraction, afterFraction⟩, second, ⟨sign, exponent, after⟩,
    third, same⟩ := read
  cases same
  exact ⟨_, wholePart?_append stops first, _, fractionPart?_append stops second, _,
    exponentPart?_append stops third, rfl⟩

theorem numberParts?_append (stops : Stops left) {parts : NumberParts}
    (read : numberParts? text = some (parts, rest)) :
    numberParts? (text ++ left) = some (parts, rest ++ left) := by
  cases text with
  | nil => cases read
  | cons c more =>
    by_cases minus : c = '-'
    · subst minus
      have read : unsignedParts? true more = some (parts, rest) := read
      exact unsignedParts?_append stops read
    · rw [numberParts?_of_ne minus] at read
      rw [List.cons_append, numberParts?_of_ne minus]
      exact unsignedParts?_append stops read

theorem numberValue?_append (numeral : Numeral) (stops : Stops left) :
    numberValue? (numeral.text ++ left) = some (.number (String.ofList numeral.text), left) := by
  rw [numberValue?, numberParts?_append stops numeral.reads]
  simp [numeral.inRange]

theorem numeral_begins (numeral : Numeral) :
    ∃ c rest, numeral.text = c :: rest ∧ (c = '-' ∨ isDigit c = true) := by
  have reads := numeral.reads
  cases spelt : numeral.text with
  | nil =>
    rw [spelt] at reads
    cases reads
  | cons c rest =>
    refine ⟨c, rest, rfl, ?_⟩
    by_cases minus : c = '-'
    · exact .inl minus
    by_cases digit : isDigit c = true
    · exact .inr digit
    have zero : c ≠ '0' := by
      rintro rfl
      exact digit rfl
    have none : wholePart? (c :: rest) = Option.none := by
      rw [wholePart?.eq_2 _ (by simpa using zero), digits?,
        List.takeWhile_cons_of_neg (by simpa using digit)]
    rw [spelt, numberParts?_of_ne minus, unsignedParts?, none] at reads
    cases reads

end Numbers

section Values

variable {put : String → List Char} {first later : List Letter}

/-- All that is put into the text stands for itself. -/
def Fitting (put : String → List Char) (letters : List Letter) : Prop :=
  ∀ name, .reference name ∈ letters → (put name).all isPlain = true

theorem Fitting.left (fitting : Fitting put (first ++ later)) : Fitting put first :=
  fun name member => fitting name (List.mem_append_left _ member)

theorem Fitting.right (fitting : Fitting put (first ++ later)) : Fitting put later :=
  fun name member => fitting name (List.mem_append_right _ member)

theorem Fitting.tail {letter : Letter} (fitting : Fitting put (letter :: later)) :
    Fitting put later :=
  fun name member => fitting name (List.mem_cons_of_mem _ member)

theorem Fitting.segments {segments : List Segment}
    (fitting : Fitting put (Segment.lettersOfTail segments)) :
    ∀ name, .reference name ∈ segments → (put name).all isPlain = true := by
  intro name member
  refine fitting name (List.mem_append_left _ (List.mem_flatMap.mpr ⟨_, member, ?_⟩))
  exact List.mem_singleton.mpr rfl

theorem spell_blanks (put : String → List Char) (blanks : Blanks) :
    spell put blanks.letters = blanks.map Subtype.val := by
  induction blanks with
  | nil => rfl
  | cons c rest ih =>
    rw [List.map_cons, ← ih]
    rfl

theorem skipSpaces_blanks (blanks : Blanks) (text : List Char) :
    skipSpaces (blanks.map Subtype.val ++ text) = skipSpaces text := by
  induction blanks with
  | nil => rfl
  | cons c rest ih => simpa [skipSpaces, c.property] using ih

theorem parseValue_blanks (fuel : Nat) (blanks : Blanks) (text : List Char) :
    parseValue fuel (blanks.map Subtype.val ++ text) = parseValue fuel text := by
  cases fuel with
  | zero => rfl
  | succ fuel => rw [parseValue, parseValue, skipSpaces_blanks]

theorem parseItems_blanks (fuel : Nat) (blanks : Blanks) (text : List Char) :
    parseItems fuel (blanks.map Subtype.val ++ text) = parseItems fuel text := by
  cases fuel with
  | zero => rfl
  | succ fuel => rw [parseItems, parseItems, parseValue_blanks]

theorem parseMembers_blanks (fuel : Nat) (blanks : Blanks) (text : List Char) :
    parseMembers fuel (blanks.map Subtype.val ++ text) = parseMembers fuel text := by
  cases fuel with
  | zero => rfl
  | succ fuel => rw [parseMembers, parseMembers, skipSpaces_blanks]

theorem isSpace_of_first {c : Char} (first : c = '-' ∨ isDigit c = true) : isSpace c = false := by
  rcases first with rfl | digit
  · rfl
  · cases space : isSpace c with
    | false => rfl
    | true =>
      simp only [isSpace, Bool.or_eq_true, decide_eq_true_eq] at space
      rcases space with ((rfl | rfl) | rfl) | rfl <;> exact absurd digit (by decide)

theorem form_begins (put : String → List Char) (form : Form) :
    ∃ c rest, spell put form.letters = c :: rest ∧ isSpace c = false ∧ c ≠ ']' := by
  cases form with
  | null => exact ⟨_, _, rfl, rfl, by decide⟩
  | bool truth => cases truth <;> exact ⟨_, _, rfl, rfl, by decide⟩
  | number numeral =>
    obtain ⟨c, rest, spelt, first⟩ := numeral_begins numeral
    refine ⟨c, rest, ?_, isSpace_of_first first, ?_⟩
    · rw [Form.letters, Template.spell_chars, spelt]
    · rintro rfl
      exact absurd first (by decide)
  | string text => exact ⟨_, _, rfl, rfl, by decide⟩
  | array inside items => cases items <;> exact ⟨_, _, rfl, rfl, by decide⟩
  | object inside members => cases members <;> exact ⟨_, _, rfl, rfl, by decide⟩

theorem stop_of_isSpace {c : Char} (space : isSpace c = true) :
    isDigit c = false ∧ c ≠ '.' ∧ c ≠ 'e' ∧ c ≠ 'E' := by
  simp only [isSpace, Bool.or_eq_true, decide_eq_true_eq] at space
  rcases space with ((rfl | rfl) | rfl) | rfl <;> decide

theorem Stops.blanks {left : List Char} (stops : Stops left) (blanks : Blanks) :
    Stops (blanks.map Subtype.val ++ left) := by
  cases blanks with
  | nil => exact stops
  | cons c rest =>
    rintro _ ⟨⟩
    exact stop_of_isSpace c.property

theorem parseValue_number (fuel : Nat) {c : Char} {rest : List Char}
    (first : c = '-' ∨ isDigit c = true) :
    parseValue (fuel + 1) (c :: rest) = numberValue? (c :: rest) := by
  rw [parseValue, skipSpaces_cons (isSpace_of_first first)]
  split
  case h_7 => rfl
  all_goals
    next same =>
      cases same
      exact absurd first (by decide)

theorem spell_item (put : String → List Char) (item : Item Form) :
    spell put (Form.lettersOfItem item) = item.before.map Subtype.val ++
      (spell put item.value.letters ++ item.after.map Subtype.val) := by
  obtain ⟨before, value, after⟩ := item
  simp only [Form.lettersOfItem, Template.spell_append, spell_blanks, List.append_assoc]

theorem Fitting.item {item : Item Form} (fitting : Fitting put (Form.lettersOfItem item)) :
    Fitting put item.value.letters := by
  obtain ⟨before, value, after⟩ := item
  exact fitting.left.right

theorem stops_items (put : String → List Char) (rest : List (Item Form)) (left : List Char) :
    Stops (spell put (Form.lettersOfItems rest) ++ left) := by
  cases rest <;> rintro _ ⟨⟩ <;> decide

theorem stops_members (put : String → List Char) (rest : List (Member Form)) (left : List Char) :
    Stops (spell put (Form.lettersOfMembers rest) ++ left) := by
  cases rest <;> rintro _ ⟨⟩ <;> decide

theorem document_items (put : String → List Char) (item : Item Form) (rest : List (Item Form)) :
    Form.documents put (item :: rest) = item.value.document put :: Form.documents put rest := by
  obtain ⟨before, value, after⟩ := item
  rfl

theorem spell_member (put : String → List Char) (member : Member Form) :
    spell put (Form.lettersOfMember member) = member.name.before.map Subtype.val ++
      '"' :: (spell put (Segment.lettersOfTail member.name.value) ++
        (member.name.after.map Subtype.val ++
          ':' :: spell put (Form.lettersOfItem member.value))) := by
  obtain ⟨⟨before, name, after⟩, value⟩ := member
  simp only [Form.lettersOfMember, Template.spell_append, spell, spell_blanks, List.append_assoc]

theorem document_members (put : String → List Char) (member : Member Form)
    (rest : List (Member Form)) :
    Form.memberDocuments put (member :: rest) =
      (Form.say put member.name.value, member.value.value.document put) ::
        Form.memberDocuments put rest := by
  obtain ⟨⟨before, name, after⟩, ⟨_, value, _⟩⟩ := member
  rfl

theorem Fitting.member {member : Member Form}
    (fitting : Fitting put (Form.lettersOfMember member)) :
    Fitting put (Segment.lettersOfTail member.name.value) ∧
      Fitting put (Form.lettersOfItem member.value) := by
  obtain ⟨⟨before, name, after⟩, value⟩ := member
  exact ⟨fitting.right.tail.left.left, fitting.right.tail.right.tail⟩

-- By induction on the fuel, as for printed values. Blanks take no fuel.
mutual

theorem parseValue_form : (fuel : Nat) → (form : Form) → Fitting put form.letters →
    (left : List Char) → Stops left → 2 * (spell put form.letters).length ≤ fuel →
    parseValue fuel (spell put form.letters ++ left) = some (form.document put, left)
  | 0, form, _, _, _, enough => by
    obtain ⟨c, rest, begins, _⟩ := form_begins put form
    rw [begins, List.length_cons] at enough
    omega
  | fuel + 1, .null, _, left, _, _ => rfl
  | fuel + 1, .bool true, _, left, _, _ => rfl
  | fuel + 1, .bool false, _, left, _, _ => rfl
  | fuel + 1, .number numeral, _, left, stops, _ => by
    obtain ⟨c, rest, begins, first⟩ := numeral_begins numeral
    have read := numberValue?_append numeral stops
    rw [Form.letters, Template.spell_chars]
    rw [begins, List.cons_append] at read ⊢
    rw [parseValue_number fuel first, read, ← begins]
    rfl
  | fuel + 1, .string segments, fitting, left, _, _ => by
    simp only [Form.letters, spell, List.cons_append, parseValue, skipSpaces_cons (c := '"') rfl,
      stringTail_segments fitting.tail.segments]
    rfl
  | fuel + 1, .array inside [], _, left, _, _ => by
    simp only [Form.letters, spell, Template.spell_append, spell_blanks, List.cons_append,
      List.append_assoc, List.nil_append, parseValue, skipSpaces_cons (c := '[') rfl,
      skipSpaces_blanks, skipSpaces_cons (c := ']') rfl]
    rfl
  | fuel + 1, .array inside (item :: rest), fitting, left, _, enough => by
    simp only [Form.letters, List.append_assoc, spell, List.length_cons,
      Template.spell_append, List.length_append] at fitting enough
    have items := parseItems_form fuel item rest fitting.tail.right left
      (by simp only [Template.spell_append, List.length_append]; omega)
    obtain ⟨c, tail, begins, solid, more⟩ := form_begins put item.value
    simp only [Form.letters, spell, Template.spell_append, spell_blanks, List.cons_append,
      List.append_assoc, parseValue, skipSpaces_cons (c := '[') rfl, skipSpaces_blanks,
      parseItems_blanks] at items ⊢
    rw [items]
    -- The first item keeps the array from looking like an empty one.
    simp only [spell_item, List.append_assoc, skipSpaces_blanks, begins, List.cons_append,
      skipSpaces_cons solid]
    split
    next left ended => exact absurd (List.cons.inj ended).1 more
    next => rfl
  | fuel + 1, .object inside [], _, left, _, _ => by
    simp only [Form.letters, spell, Template.spell_append, spell_blanks, List.cons_append,
      List.append_assoc, List.nil_append, parseValue, skipSpaces_cons (c := '\x7b') rfl,
      skipSpaces_blanks, skipSpaces_cons (c := '\x7d') rfl]
    rfl
  | fuel + 1, .object inside (member :: rest), fitting, left, _, enough => by
    simp only [Form.letters, List.append_assoc, spell, List.length_cons,
      Template.spell_append, List.length_append] at fitting enough
    have members := parseMembers_form fuel member rest fitting.tail.right left
      (by simp only [Template.spell_append, List.length_append]; omega)
    simp only [Form.letters, spell, Template.spell_append, spell_blanks, List.cons_append,
      List.append_assoc, parseValue, skipSpaces_cons (c := '\x7b') rfl, skipSpaces_blanks,
      parseMembers_blanks] at members ⊢
    rw [members]
    simp only [spell_member, List.append_assoc, skipSpaces_blanks, List.cons_append,
      skipSpaces_cons (c := '"') rfl]
    rfl

theorem parseItems_form : (fuel : Nat) → (item : Item Form) → (rest : List (Item Form)) →
    Fitting put (Form.lettersOfItem item ++ Form.lettersOfItems rest) → (left : List Char) →
    2 * (spell put (Form.lettersOfItem item ++ Form.lettersOfItems rest)).length ≤ fuel + 1 →
    parseItems fuel (spell put (Form.lettersOfItem item ++ Form.lettersOfItems rest) ++ left) =
      some (Form.documents put (item :: rest), left)
  | 0, item, rest, _, left, enough => by
    obtain ⟨c, tail, begins, _⟩ := form_begins put item.value
    simp only [Template.spell_append, spell_item, begins, List.length_append,
      List.length_cons] at enough
    omega
  | fuel + 1, item, rest, fitting, left, enough => by
    simp only [Template.spell_append, spell_item, List.append_assoc, List.length_append] at enough
    have follows : 0 < (spell put (Form.lettersOfItems rest)).length := by
      cases rest <;> exact Nat.succ_pos _
    have read := parseValue_form fuel item.value fitting.left.item
      (item.after.map Subtype.val ++ (spell put (Form.lettersOfItems rest) ++ left))
      ((stops_items put rest left).blanks item.after) (by omega)
    simp only [Template.spell_append, spell_item, List.append_assoc, parseItems, parseValue_blanks,
      read, skipSpaces_blanks, document_items]
    cases rest with
    | nil =>
      simp only [Form.lettersOfItems, spell, List.cons_append, List.nil_append,
        skipSpaces_cons (c := ']') rfl]
      rfl
    | cons next more =>
      simp only [Form.lettersOfItems, spell, List.length_cons] at enough
      have others := parseItems_form fuel next more fitting.right.tail left (by omega)
      simp only [Form.lettersOfItems, spell, List.cons_append, skipSpaces_cons (c := ',') rfl,
        others]

theorem parseMembers_form : (fuel : Nat) → (member : Member Form) → (rest : List (Member Form)) →
    Fitting put (Form.lettersOfMember member ++ Form.lettersOfMembers rest) →
    (left : List Char) →
    2 * (spell put (Form.lettersOfMember member ++ Form.lettersOfMembers rest)).length ≤ fuel + 1 →
    parseMembers fuel
        (spell put (Form.lettersOfMember member ++ Form.lettersOfMembers rest) ++ left) =
      some (some (Form.memberDocuments put (member :: rest)), left)
  | 0, member, rest, _, left, enough => by
    simp only [Template.spell_append, spell_member, List.length_append, List.length_cons] at enough
    omega
  | fuel + 1, member, rest, fitting, left, enough => by
    obtain ⟨named, valued⟩ := fitting.left.member
    simp only [Template.spell_append, spell_member, spell_item, List.append_assoc,
      List.length_append, List.length_cons] at enough
    have read := parseValue_form fuel member.value.value valued.item
      (member.value.after.map Subtype.val ++ (spell put (Form.lettersOfMembers rest) ++ left))
      ((stops_members put rest left).blanks member.value.after) (by omega)
    simp only [Template.spell_append, spell_member, spell_item, List.append_assoc,
      List.cons_append, parseMembers, skipSpaces_blanks, skipSpaces_cons (c := '"') rfl,
      stringTail_segments named.segments, skipSpaces_cons (c := ':') rfl, parseValue_blanks, read,
      document_members]
    cases rest with
    | nil =>
      simp only [Form.lettersOfMembers, spell, List.cons_append, List.nil_append,
        skipSpaces_cons (c := '\x7d') rfl]
      rfl
    | cons next more =>
      simp only [Form.lettersOfMembers, spell, List.length_cons] at enough
      have others := parseMembers_form fuel next more fitting.right.tail left (by omega)
      simp only [Form.lettersOfMembers, spell, List.cons_append, skipSpaces_cons (c := ',') rfl,
        others]
      rfl

end

/-- A text with what has been put into it is read as its document with the same. -/
theorem parse_form (whole : Item Form) (fitting : Fitting put (Form.lettersOfItem whole)) :
    parse (String.ofList (spell put (Form.lettersOfItem whole))) =
      some (whole.value.document put) := by
  have nothing : Stops [] := fun c member => by cases member
  have stops := nothing.blanks whole.after
  rw [List.append_nil] at stops
  have read := parseValue_form (fuelFor (spell put (Form.lettersOfItem whole))) whole.value
    fitting.item (whole.after.map Subtype.val) stops
    (by simp only [fuelFor, spell_item, List.length_append]; omega)
  have ended : skipSpaces (whole.after.map Subtype.val) = [] := by
    have none := skipSpaces_blanks whole.after []
    rwa [List.append_nil] at none
  rw [parse, String.toList_ofList, spell_item, parseValue_blanks, ← spell_item, read]
  simp only [ended, List.isEmpty_nil, if_true]

end Values

end Parley.Json
