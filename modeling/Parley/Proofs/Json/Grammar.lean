import Parley.Proofs.Json.Form
/-!
Every text that is read has a form.

Outside of its strings a text of JSON has no two braces one after the other that open something. So
if a template is read as a document before anything has been put into it, its references stand in
strings, and what has been read can be cut into the tokens of a form.
-/

namespace Parley.Json

open Template (Letter spell dotted)

variable {letters : List Letter} {text left rest : List Char}

section Characters

theorem exists_char {c : Char} (spelt : spell dotted letters = c :: text) (other : c ≠ '\x7b') :
    ∃ more, letters = .char c :: more ∧ spell dotted more = text := by
  cases letters with
  | nil => cases spelt
  | cons letter more =>
    cases letter with
    | char d =>
      obtain ⟨rfl, later⟩ := List.cons.inj spelt
      exact ⟨more, rfl, later⟩
    | reference name => exact absurd (List.cons.inj spelt).1.symm other

theorem letters_eq_nil (nothing : spell dotted letters = []) : letters = [] := by
  cases letters with
  | nil => rfl
  | cons letter later => cases letter <;> cases nothing

theorem exists_chars (taken : List Char) (spelt : spell dotted letters = taken ++ rest)
    (others : ∀ c ∈ taken, c ≠ '\x7b') :
    ∃ more, letters = taken.map .char ++ more ∧ spell dotted more = rest := by
  induction taken generalizing letters with
  | nil => exact ⟨letters, rfl, spelt⟩
  | cons c later ih =>
    obtain ⟨after, rfl, follows⟩ := exists_char spelt (others c List.mem_cons_self)
    obtain ⟨more, rfl, ends⟩ := ih follows fun d member => others d (List.mem_cons_of_mem _ member)
    exact ⟨more, rfl, ends⟩

theorem exists_blanks (letters : List Letter) :
    ∃ (blanks : Blanks) (more : List Letter), letters = blanks.letters ++ more ∧
      spell dotted more = skipSpaces (spell dotted letters) := by
  induction letters with
  | nil => exact ⟨[], [], rfl, rfl⟩
  | cons letter later ih =>
    cases letter with
    | reference name => exact ⟨[], _, rfl, rfl⟩
    | char c =>
      cases space : isSpace c with
      | false => exact ⟨[], _, rfl, (skipSpaces_cons space _).symm⟩
      | true =>
        obtain ⟨blanks, more, rfl, ends⟩ := ih
        refine ⟨⟨c, space⟩ :: blanks, more, rfl, ?_⟩
        rw [ends, spell]
        simp [skipSpaces, space]

theorem exists_mark {c : Char} (spelt : skipSpaces (spell dotted letters) = c :: text)
    (other : c ≠ '\x7b') :
    ∃ (blanks : Blanks) (more : List Letter), letters = blanks.letters ++ .char c :: more ∧
      spell dotted more = text := by
  obtain ⟨blanks, later, rfl, solid⟩ := exists_blanks letters
  obtain ⟨more, rfl, ends⟩ := exists_char (solid.trans spelt) other
  exact ⟨blanks, more, rfl, ends⟩

theorem isPlain_of_isNameChar {c : Char} (part : Template.isNameChar c = true) :
    isPlain c = true := by
  have apart {other : Char} (mark : Template.isNameChar other = false) : c ≠ other :=
    Template.ne_of_holds part mark
  have large : 0x20 ≤ c.toNat := by
    simp only [Template.isNameChar, Template.isNameStart, Template.isDigit, Bool.or_eq_true,
      Bool.and_eq_true, decide_eq_true_eq] at part
    rcases part with ((small | large) | rfl) | digit
    · exact Nat.le_trans (by decide : 0x20 ≤ 'a'.toNat) small.1
    · exact Nat.le_trans (by decide : 0x20 ≤ 'A'.toNat) large.1
    · decide
    · exact Nat.le_trans (by decide : 0x20 ≤ '0'.toNat) digit.1
  simp only [isPlain, Bool.and_eq_true, decide_eq_true_eq]
  exact ⟨⟨apart rfl, apart rfl⟩, large⟩

theorem isPlain_dotted {name : String} (register : Template.isRegister name = true) :
    (dotted name).all isPlain = true := by
  have inside : name.toList.all isPlain = true :=
    List.all_eq_true.mpr fun c member =>
      isPlain_of_isNameChar (Template.isNameChar_of_mem register c member)
  rw [dotted, List.all_cons, List.all_cons, List.all_cons, List.all_append, inside]
  rfl

/-- As long as nothing has been put into it, a template has only such characters in its strings. -/
theorem fitting_dotted
    (registers : ∀ name, .reference name ∈ letters → Template.isRegister name = true) :
    Fitting dotted letters :=
  fun name member => isPlain_dotted (registers name member)

end Characters

section Strings

inductive Literal : List Char → List Piece → List Char → Prop where
  | quote {left : List Char} : Literal ('"' :: left) [] left
  | plain {c : Char} {rest left : List Char} {more : List Piece} :
      isPlain c = true → Literal rest more left → Literal (c :: rest) (.char c :: more) left
  | short {letter c : Char} {rest left : List Char} {more : List Piece} :
      shortEscape? letter = some c → Literal rest more left →
        Literal ('\\' :: letter :: rest) (.char c :: more) left
  | unit (written : CodeUnit) {rest left : List Char} {more : List Piece} :
      Literal rest more left →
        Literal ('\\' :: 'u' :: written.a :: written.b :: written.c :: written.d :: rest)
          (.unit written.code :: more) left

theorem literal_of_pieces {read : List Piece} (taken : pieces text = some (read, left)) :
    Literal text read left := by
  fun_induction pieces text generalizing read left
  case case2 => cases taken; exact .quote
  case case3 a b c d rest code more left later reads ih =>
    cases taken
    exact .unit ⟨a, b, c, d, code, reads⟩ (ih later)
  case case5 later names ih => cases taken; exact .short names (ih later)
  case case8 c rest quote _ _ plain more left later ih =>
    cases taken
    refine .plain ?_ (ih later)
    simp only [Bool.or_eq_true, decide_eq_true_eq, not_or, Nat.not_lt] at plain
    simp only [isPlain, Bool.and_eq_true, decide_eq_true_eq]
    exact ⟨⟨quote, plain.1⟩, plain.2⟩
  all_goals cases taken

theorem Literal.of_plain {c : Char} {read : List Piece} (literal : Literal (c :: rest) read left)
    (plain : isPlain c = true) :
    ∃ more, read = .char c :: more ∧ Literal rest more left := by
  cases literal with
  | quote => cases plain
  | plain _ later => exact ⟨_, rfl, later⟩
  | short _ _ => cases plain
  | unit _ _ => cases plain

theorem Literal.of_plain_text {taken : List Char} {read : List Piece}
    (literal : Literal (taken ++ rest) read left) (plain : taken.all isPlain = true) :
    ∃ more, read = taken.map .char ++ more ∧ Literal rest more left := by
  induction taken generalizing read with
  | nil => exact ⟨read, rfl, literal⟩
  | cons c later ih =>
    obtain ⟨itself, others⟩ := Bool.and_eq_true_iff.mp (List.all_cons ▸ plain)
    obtain ⟨read, rfl, follows⟩ := literal.of_plain itself
    obtain ⟨more, rfl, ends⟩ := ih follows others
    exact ⟨more, rfl, ends⟩

theorem unit_cases {code : Nat} {read : List Piece} {said : List Char}
    (tells : content (.unit code :: read) = some said) :
    ((isHighSurrogate code = false ∧ isLowSurrogate code = false) ∧
      ∃ later, content read = some later) ∨
    ∃ low more later, read = .unit low :: more ∧
      (isHighSurrogate code = true ∧ isLowSurrogate low = true) ∧ content more = some later := by
  have whole (neither : ¬(isHighSurrogate code || isLowSurrogate code) = true) :
      isHighSurrogate code = false ∧ isLowSurrogate code = false := by
    simpa using neither
  rcases read with _ | ⟨low | c, more⟩
  case nil =>
    rw [content] at tells
    split at tells
    next => cases tells
    next neither => exact .inl ⟨whole neither, [], rfl⟩
  case cons.char =>
    rw [content] at tells
    split at tells
    next => cases tells
    next neither =>
      obtain ⟨later, means, _⟩ := Option.map_eq_some_iff.mp tells
      exact .inl ⟨whole neither, later, means⟩
  case cons.unit =>
    rw [content] at tells
    split at tells
    next high =>
      split at tells
      next second =>
        obtain ⟨later, means, _⟩ := Option.map_eq_some_iff.mp tells
        exact .inr ⟨_, more, later, rfl, ⟨high, second⟩, means⟩
      next => cases tells
    next high =>
      split at tells
      next => cases tells
      next first =>
        obtain ⟨later, means, _⟩ := Option.map_eq_some_iff.mp tells
        exact .inl ⟨⟨by simpa using high, by simpa using first⟩, later, means⟩

theorem ne_brace_of_hexValue? {c : Char} {n : Nat} (value : hexValue? c = some n) :
    c ≠ '\x7b' := by
  rintro rfl
  cases value

theorem CodeUnit.ne_brace (written : CodeUnit) :
    ∀ c ∈ ['\\', 'u', written.a, written.b, written.c, written.d], c ≠ '\x7b' := by
  have reads := written.reads
  simp only [unit?, Option.bind_eq_bind, Option.bind_eq_some_iff] at reads
  obtain ⟨_, a, _, b, _, c, _, d, _⟩ := reads
  simp [ne_brace_of_hexValue? a, ne_brace_of_hexValue? b, ne_brace_of_hexValue? c,
    ne_brace_of_hexValue? d]

theorem exists_segments (letters : List Letter) (plain : Fitting dotted letters)
    {read : List Piece} {said : List Char} (literal : Literal (spell dotted letters) read left)
    (tells : content read = some said) :
    ∃ segments more, letters = Segment.lettersOfTail segments ++ more ∧
      spell dotted more = left := by
  match letters, plain with
  | [], _ => cases literal
  | .reference name :: later, plain =>
    obtain ⟨read, rfl, follows⟩ := literal.of_plain_text (plain name List.mem_cons_self)
    rw [content_chars] at tells
    obtain ⟨_, tells, _⟩ := Option.map_eq_some_iff.mp tells
    obtain ⟨segments, more, rfl, ends⟩ := exists_segments later plain.tail follows tells
    exact ⟨.reference name :: segments, more, rfl, ends⟩
  | .char c :: later, plain =>
    rw [spell] at literal
    generalize spelt : spell dotted later = text at literal
    cases literal with
    | quote => exact ⟨[], later, rfl, spelt⟩
    | plain itself literal =>
      subst spelt
      rw [content] at tells
      obtain ⟨_, tells, _⟩ := Option.map_eq_some_iff.mp tells
      obtain ⟨segments, more, rfl, ends⟩ := exists_segments later plain.tail literal tells
      exact ⟨.plain c itself :: segments, more, rfl, ends⟩
    | @short letter c _ _ _ names literal =>
      have other : letter ≠ '\x7b' := by
        rintro rfl
        cases names
      obtain ⟨later, rfl, rfl⟩ := exists_char spelt other
      obtain ⟨_, tells, _⟩ := Option.map_eq_some_iff.mp tells
      obtain ⟨segments, more, rfl, ends⟩ := exists_segments later plain.tail.tail literal tells
      exact ⟨.short letter c names :: segments, more, rfl, ends⟩
    | unit written literal =>
      obtain ⟨later, rfl, rfl⟩ := exists_chars ['u', written.a, written.b, written.c, written.d]
        spelt fun c member => written.ne_brace c (List.mem_cons_of_mem _ member)
      have plain := plain.tail.right
      rcases unit_cases tells with ⟨whole, _, means⟩ | ⟨low, read, _, rfl, surrogates, means⟩
      · obtain ⟨segments, more, rfl, ends⟩ := exists_segments later plain literal means
        exact ⟨.unit written whole :: segments, more, rfl, ends⟩
      · generalize spelt : spell dotted later = text at literal
        cases literal with
        | unit second literal =>
          obtain ⟨later, rfl, rfl⟩ := exists_chars ['\\', 'u', second.a, second.b, second.c,
            second.d] spelt second.ne_brace
          obtain ⟨segments, more, rfl, ends⟩ := exists_segments later plain.right literal means
          exact ⟨.pair written second surrogates :: segments, more, rfl, ends⟩
termination_by letters.length

/-- Only a literal without escapes is no longer than what it says. -/
theorem Literal.length {read : List Piece} (literal : Literal text read left) :
    read.length + left.length + 1 ≤ text.length ∧
      (text.length ≤ read.length + left.length + 1 →
        ∃ taken : List Char, taken.all isPlain = true ∧ text = taken ++ '"' :: left) := by
  induction literal with
  | quote => exact ⟨by simp, fun _ => ⟨[], rfl, rfl⟩⟩
  | @plain c _ _ _ itself _ ih =>
    simp only [List.length_cons]
    refine ⟨by omega, fun short => ?_⟩
    obtain ⟨taken, plain, rfl⟩ := ih.2 (by omega)
    exact ⟨c :: taken, by rw [List.all_cons, itself, plain]; rfl, rfl⟩
  | short _ _ ih =>
    simp only [List.length_cons]
    exact ⟨by omega, fun short => by omega⟩
  | unit _ _ ih =>
    simp only [List.length_cons]
    exact ⟨by omega, fun short => by omega⟩

theorem length_of_content {read : List Piece} {said : List Char}
    (tells : content read = some said) : said.length ≤ read.length := by
  fun_induction content read generalizing said
  case case1 => cases tells; exact Nat.le_refl 0
  case case4 => cases tells; exact Nat.le_refl 1
  case case2 ih | case5 ih | case8 ih | case10 ih =>
    obtain ⟨later, means, rfl⟩ := Option.map_eq_some_iff.mp tells
    have shorter := ih means
    simp only [List.length_cons] at shorter ⊢
    omega
  all_goals cases tells

theorem isPlain_of_parse {value : List Char}
    (read : parse (String.ofList ('"' :: (value ++ ['"']))) =
      some (.string (String.ofList value))) :
    value.all isPlain = true := by
  have taken : ∃ left, stringTail (value ++ ['"']) = some (some (String.ofList value), left) := by
    rw [parse, String.toList_ofList, fuelFor, parseValue, skipSpaces_cons rfl] at read
    rcases taken : stringTail (value ++ ['"']) with _ | ⟨_ | said, left⟩ <;>
      simp only [taken] at read
    · cases read
    · split at read <;> cases read
    · split at read <;> cases read
      exact ⟨left, rfl⟩
  obtain ⟨left, taken⟩ := taken
  unfold stringTail at taken
  split at taken
  next read after literal =>
    obtain ⟨same, rfl⟩ := Prod.mk.inj (Option.some.inj taken)
    obtain ⟨said, tells, same⟩ := Option.map_eq_some_iff.mp same
    have said : said = value := by
      rw [← String.toList_ofList (l := said), same, String.toList_ofList]
    subst said
    obtain ⟨least, short⟩ := (literal_of_pieces literal).length
    have most := length_of_content tells
    simp only [List.length_append, List.length_singleton] at least short
    obtain ⟨taken, plain, spelt⟩ := short (by omega)
    have ended : after = [] := List.eq_nil_of_length_eq_zero (by omega)
    rw [ended] at spelt
    exact List.append_cancel_right spelt ▸ plain
  next => cases taken

end Strings

section Numbers

def EndsDigits (text : List Char) : Prop := ∀ c ∈ text.head?, isDigit c = false

theorem ne_brace_of_isDigit {c : Char} (digit : isDigit c = true) : c ≠ '\x7b' := by
  rintro rfl
  cases digit

theorem digits?_taken {digits : List Char} (read : digits? text = some (digits, rest)) :
    text = digits ++ rest ∧ (∀ c ∈ digits, c ≠ '\x7b') ∧
      ∀ more, EndsDigits more → digits? (digits ++ more) = some (digits, more) := by
  unfold digits? at read
  split at read
  next => cases read
  next some =>
    cases read
    have all : ∀ c ∈ text.takeWhile isDigit, isDigit c = true :=
      List.all_eq_true.mp List.all_takeWhile
    refine ⟨List.takeWhile_append_dropWhile.symm, fun c member =>
      ne_brace_of_isDigit (all c member), fun more ends => ?_⟩
    obtain ⟨taken, left⟩ := Template.takeWhile_append_of_stop all ends
    unfold digits?
    rw [taken, left]
    split
    next none => exact absurd none some
    next => rfl

theorem wholePart?_taken {whole : List Char} (read : wholePart? text = some (whole, rest)) :
    text = whole ++ rest ∧ (∀ c ∈ whole, c ≠ '\x7b') ∧
      ∀ more, EndsDigits more → wholePart? (whole ++ more) = some (whole, more) := by
  unfold wholePart? at read
  split at read
  next => cases read; exact ⟨rfl, by simp, fun more _ => rfl⟩
  next nonzero =>
    obtain ⟨rfl, solid, again⟩ := digits?_taken read
    refine ⟨rfl, solid, fun more ends => ?_⟩
    refine (wholePart?.eq_2 _ fun later same => ?_).trans (again more ends)
    cases whole with
    | nil =>
      have zero : '0' ∈ more.head? := by simp_all
      exact absurd (ends _ zero) (by decide)
    | cons c others => exact nonzero (others ++ rest) (by simp_all)

theorem fractionPart?_taken {fraction : List Char}
    (read : fractionPart? text = some (fraction, rest)) :
    ∃ taken : List Char, text = taken ++ rest ∧ (∀ c ∈ taken, c ≠ '\x7b') ∧
      (∀ c ∈ taken.head?, c = '.') ∧
      ∀ more, EndsDigits more → '.' ∉ more.head? →
        fractionPart? (taken ++ more) = some (fraction, more) := by
  unfold fractionPart? at read
  split at read
  next later =>
    obtain ⟨rfl, solid, again⟩ := digits?_taken read
    refine ⟨'.' :: fraction, rfl, by simpa using solid, by simp, fun more ends _ => again more ends⟩
  next =>
    cases read
    refine ⟨[], rfl, by simp, by simp, fun more _ point => ?_⟩
    refine fractionPart?.eq_2 _ fun later same => point ?_
    rw [List.nil_append] at same
    rw [same]
    rfl

theorem exponentPart?_taken {sign exponent : List Char}
    (read : exponentPart? text = some (sign, exponent, rest)) :
    ∃ taken : List Char, text = taken ++ rest ∧ (∀ c ∈ taken, c ≠ '\x7b') ∧
      (∀ c ∈ taken.head?, c = 'e' ∨ c = 'E') ∧
      exponentPart? taken = some (sign, exponent, []) := by
  have digits {signed : List Char} {more : List Char}
      (read : (digits? more).map (signed, ·) = some (sign, exponent, rest)) :
      more = exponent ++ rest ∧ (∀ c ∈ exponent, c ≠ '\x7b') ∧
        (digits? exponent).map (signed, ·) = some (sign, exponent, []) := by
    obtain ⟨⟨ds, after⟩, taken, same⟩ := Option.map_eq_some_iff.mp read
    cases same
    obtain ⟨rfl, solid, again⟩ := digits?_taken taken
    have alone := again [] (by simp [EndsDigits])
    rw [List.append_nil] at alone
    exact ⟨rfl, solid, by rw [alone]; rfl⟩
  cases text with
  | nil => cases read; exact ⟨[], rfl, by simp, by simp, rfl⟩
  | cons c later =>
    unfold exponentPart? at read
    dsimp only at read
    split at read
    next mark =>
      have either : c = 'e' ∨ c = 'E' := by simpa using mark
      have solid : c ≠ '\x7b' := by rcases either with rfl | rfl <;> decide
      split at read
      next =>
        obtain ⟨rfl, others, again⟩ := digits read
        refine ⟨c :: '+' :: exponent, rfl, by simpa [solid] using others, by simpa using either, ?_⟩
        rw [exponentPart?, if_pos mark]
        exact again
      next =>
        obtain ⟨rfl, others, again⟩ := digits read
        refine ⟨c :: '-' :: exponent, rfl, by simpa [solid] using others, by simpa using either, ?_⟩
        rw [exponentPart?, if_pos mark]
        exact again
      next plus minus =>
        obtain ⟨rfl, others, again⟩ := digits read
        refine ⟨c :: exponent, rfl, by simpa [solid] using others, by simpa using either, ?_⟩
        rw [exponentPart?, if_pos mark]
        · exact again
        · rintro more rfl
          exact plus _ rfl
        · rintro more rfl
          exact minus _ rfl
    next => cases read; exact ⟨[], rfl, by simp, by simp, rfl⟩

theorem unsignedParts?_taken {negative : Bool} {parts : NumberParts}
    (read : unsignedParts? negative text = some (parts, rest)) :
    ∃ taken : List Char, text = taken ++ rest ∧ (∀ c ∈ taken, c ≠ '\x7b') ∧
      unsignedParts? negative taken = some (parts, []) := by
  simp only [unsignedParts?, Option.bind_eq_bind, Option.bind_eq_some_iff] at read ⊢
  obtain ⟨⟨whole, _⟩, first, ⟨fraction, _⟩, second, ⟨sign, exponent, _⟩, third, same⟩ := read
  cases same
  obtain ⟨rfl, solid, whole⟩ := wholePart?_taken first
  obtain ⟨point, rfl, firm, dotted, fraction⟩ := fractionPart?_taken second
  obtain ⟨mark, rfl, hard, marked, exponent⟩ := exponentPart?_taken third
  have marks : ∀ c ∈ mark.head?, isDigit c = false ∧ c ≠ '.' := by
    intro c member
    rcases marked c member with rfl | rfl <;> decide
  have points : EndsDigits (point ++ mark) := by
    cases point with
    | nil => exact fun c member => (marks c member).1
    | cons c later =>
      rintro _ ⟨⟩
      rw [dotted c rfl]
      rfl
  refine ⟨_ ++ (point ++ mark), by simp, ?_, _, whole _ points, _,
    fraction _ (fun c member => (marks c member).1) (fun point => (marks _ point).2 rfl), _,
    exponent, rfl⟩
  simp only [List.mem_append]
  rintro c (member | member | member)
  · exact solid c member
  · exact firm c member
  · exact hard c member

theorem numberParts?_taken {parts : NumberParts} (read : numberParts? text = some (parts, rest)) :
    ∃ taken : List Char, text = taken ++ rest ∧ (∀ c ∈ taken, c ≠ '\x7b') ∧
      numberParts? taken = some (parts, []) := by
  cases text with
  | nil => cases read
  | cons c more =>
    by_cases minus : c = '-'
    · subst minus
      have read : unsignedParts? true more = some (parts, rest) := read
      obtain ⟨taken, rfl, solid, again⟩ := unsignedParts?_taken read
      exact ⟨'-' :: taken, rfl, by simpa using solid, again⟩
    · rw [numberParts?_of_ne minus] at read
      obtain ⟨taken, spelt, solid, again⟩ := unsignedParts?_taken read
      cases taken with
      | nil => cases again
      | cons d later =>
        obtain ⟨rfl, rfl⟩ := List.cons.inj spelt
        exact ⟨c :: later, rfl, solid, (numberParts?_of_ne minus later).trans again⟩

theorem exists_numeral {value : Json}
    (read : numberValue? (spell dotted letters) = some (value, left))
    (formed : value.isWellFormed = true) :
    ∃ (numeral : Numeral) (more : List Letter), letters = numeral.text.map .char ++ more ∧
      spell dotted more = left := by
  unfold numberValue? at read
  split at read
  next => cases read
  next parts after parsed =>
    obtain ⟨taken, spelt, solid, again⟩ := numberParts?_taken parsed
    obtain ⟨more, rfl, ends⟩ := exists_chars taken spelt solid
    split at read
    next inRange =>
      cases read
      exact ⟨⟨taken, parts, again, inRange⟩, more, rfl, ends⟩
    next => cases read; cases formed

end Numbers

section Values

theorem exists_literal (plain : Fitting dotted letters) {said : String}
    (taken : stringTail (spell dotted letters) = some (some said, left)) :
    ∃ segments more, letters = Segment.lettersOfTail segments ++ more ∧
      spell dotted more = left := by
  unfold stringTail at taken
  split at taken
  next read after literal =>
    obtain ⟨same, rfl⟩ := Prod.mk.inj (Option.some.inj taken)
    obtain ⟨_, tells, _⟩ := Option.map_eq_some_iff.mp same
    exact exists_segments letters plain (literal_of_pieces literal) tells
  next => cases taken

theorem exists_brace (spelt : spell dotted letters = '\x7b' :: text) :
    (∃ more, letters = .char '\x7b' :: more ∧ spell dotted more = text) ∨
      ∃ later, text = '\x7b' :: later := by
  cases letters with
  | nil => cases spelt
  | cons letter more =>
    cases letter with
    | char d =>
      obtain ⟨rfl, later⟩ := List.cons.inj spelt
      exact .inl ⟨more, rfl, later⟩
    | reference name => exact .inr ⟨_, (List.cons.inj spelt).2.symm⟩

theorem parseMembers_brace (fuel : Nat) (text : List Char) :
    parseMembers fuel ('\x7b' :: text) = none := by
  cases fuel with
  | zero => rfl
  | succ fuel =>
    rw [parseMembers, skipSpaces_cons rfl]
    rfl

theorem items_cases {fuel : Nat} {items : List Json}
    (read : parseItems (fuel + 1) text = some (items, left)) :
    ∃ first others after, items = first :: others ∧
      parseValue fuel text = some (first, after) ∧
      ((∃ more, skipSpaces after = ',' :: more ∧ parseItems fuel more = some (others, left)) ∨
        skipSpaces after = ']' :: left ∧ others = []) := by
  rw [parseItems] at read
  split at read
  next => cases read
  next first after taken =>
    split at read
    next more comma =>
      split at read
      next => cases read
      next others last later =>
        cases read
        exact ⟨first, others, after, rfl, taken, .inl ⟨more, comma, later⟩⟩
    next last closing =>
      cases read
      exact ⟨first, [], after, rfl, taken, .inr ⟨closing, rfl⟩⟩
    next => cases read

theorem members_cases {fuel : Nat} {members : List (String × Json)}
    (read : parseMembers (fuel + 1) text = some (some members, left)) :
    ∃ name value others tail afterName afterColon after, members = (name, value) :: others ∧
      skipSpaces text = '"' :: tail ∧ stringTail tail = some (some name, afterName) ∧
      skipSpaces afterName = ':' :: afterColon ∧
      parseValue fuel afterColon = some (value, after) ∧
      ((∃ more, skipSpaces after = ',' :: more ∧
          parseMembers fuel more = some (some others, left)) ∨
        skipSpaces after = '\x7d' :: left ∧ others = []) := by
  rw [parseMembers] at read
  split at read
  next tail quote =>
    split at read
    next => cases read
    next name afterName literal =>
      split at read
      next afterColon colon =>
        split at read
        next => cases read
        next value after first =>
          dsimp only at read
          split at read
          next more comma =>
            split at read
            next => cases read
            next members last later =>
              obtain ⟨same, rfl⟩ := Prod.mk.inj (Option.some.inj read)
              obtain ⟨_, named, same⟩ := Option.bind_eq_some_iff.mp same
              obtain ⟨name, rfl, rfl⟩ := Option.map_eq_some_iff.mp named
              obtain ⟨others, rfl, rfl⟩ := Option.map_eq_some_iff.mp same
              exact ⟨name, value, others, tail, afterName, afterColon, after, rfl, quote, literal,
                colon, first, .inl ⟨more, comma, later⟩⟩
          next last closing =>
            obtain ⟨same, rfl⟩ := Prod.mk.inj (Option.some.inj read)
            obtain ⟨_, named, rfl⟩ := Option.map_eq_some_iff.mp same
            obtain ⟨name, rfl, rfl⟩ := Option.map_eq_some_iff.mp named
            exact ⟨name, value, [], tail, afterName, afterColon, after, rfl, quote, literal, colon,
              first, .inr ⟨closing, rfl⟩⟩
          next => cases read
      next => cases read
  next => cases read

-- By induction on the fuel, as reading goes. What is left after each token is again a text with
-- references, so the next token can be taken from it.
mutual

theorem exists_form : (fuel : Nat) → {letters : List Letter} → Fitting dotted letters →
    {value : Json} → {left : List Char} →
    parseValue fuel (spell dotted letters) = some (value, left) → value.isWellFormed = true →
    ∃ (before : Blanks) (form : Form) (more : List Letter),
      letters = before.letters ++ (form.letters ++ more) ∧ spell dotted more = left
  | 0, _, _, _, _, read, _ => by cases read
  | fuel + 1, letters, plain, value, left, read, formed => by
    obtain ⟨before, letters, rfl, spelt⟩ := exists_blanks letters
    rw [parseValue, ← spelt] at read
    suffices found : ∃ (form : Form) (more : List Letter),
        letters = form.letters ++ more ∧ spell dotted more = left by
      obtain ⟨form, more, rfl, ends⟩ := found
      exact ⟨before, form, more, rfl, ends⟩
    have plain := plain.right
    clear spelt
    split at read
    next rest spelt =>
      cases read
      obtain ⟨more, rfl, ends⟩ := exists_chars ['n', 'u', 'l', 'l'] spelt (by simp)
      exact ⟨.null, more, rfl, ends⟩
    next rest spelt =>
      cases read
      obtain ⟨more, rfl, ends⟩ := exists_chars ['t', 'r', 'u', 'e'] spelt (by simp)
      exact ⟨.bool true, more, rfl, ends⟩
    next rest spelt =>
      cases read
      obtain ⟨more, rfl, ends⟩ := exists_chars ['f', 'a', 'l', 's', 'e'] spelt
        (by simp)
      exact ⟨.bool false, more, rfl, ends⟩
    next rest spelt =>
      obtain ⟨later, rfl, rfl⟩ := exists_char spelt (by decide)
      split at read
      next => cases read
      next said after taken =>
        cases read
        obtain ⟨segments, more, rfl, ends⟩ := exists_literal plain.tail taken
        exact ⟨.string segments, more, rfl, ends⟩
      next => cases read; cases formed
    next rest spelt =>
      obtain ⟨later, rfl, rfl⟩ := exists_char spelt (by decide)
      split at read
      next after ended =>
        cases read
        obtain ⟨inside, more, rfl, ends⟩ := exists_mark ended (by decide)
        exact ⟨.array inside [], more, by simp [Form.letters], ends⟩
      next =>
        split at read
        next => cases read
        next items after taken =>
          cases read
          obtain ⟨item, others, more, same, ends⟩ := exists_items fuel plain.tail taken formed
          rw [same]
          exact ⟨.array [] (item :: others), more, by simp [Form.letters, Blanks.letters], ends⟩
    next rest spelt =>
      rcases exists_brace spelt with ⟨later, rfl, rfl⟩ | ⟨later, rfl⟩
      · split at read
        next after ended =>
          cases read
          obtain ⟨inside, more, rfl, ends⟩ := exists_mark ended (by decide)
          exact ⟨.object inside [], more, by simp [Form.letters], ends⟩
        next =>
          split at read
          next => cases read
          next members after taken =>
            cases read
            cases members with
            | none => cases formed
            | some members =>
              obtain ⟨member, others, more, same, ends⟩ :=
                exists_members fuel plain.tail taken formed
              rw [same]
              exact ⟨.object [] (member :: others), more,
                by simp [Form.letters, Blanks.letters], ends⟩
      · rw [skipSpaces_cons rfl] at read
        simp only [parseMembers_brace] at read
        cases read
    next =>
      obtain ⟨numeral, more, rfl, ends⟩ := exists_numeral read formed
      exact ⟨.number numeral, more, rfl, ends⟩

theorem exists_items : (fuel : Nat) → {letters : List Letter} → Fitting dotted letters →
    {items : List Json} → {left : List Char} →
    parseItems fuel (spell dotted letters) = some (items, left) → itemsAreWellFormed items = true →
    ∃ (item : Item Form) (rest : List (Item Form)) (more : List Letter),
      letters = Form.lettersOfItem item ++ (Form.lettersOfItems rest ++ more) ∧
        spell dotted more = left
  | 0, _, _, _, _, read, _ => by cases read
  | fuel + 1, letters, plain, items, left, read, formed => by
    obtain ⟨first, others, after, rfl, taken, following⟩ := items_cases read
    obtain ⟨whole, later⟩ := Bool.and_eq_true_iff.mp formed
    obtain ⟨before, form, letters, rfl, rfl⟩ := exists_form fuel plain taken whole
    rcases following with ⟨_, comma, read⟩ | ⟨closing, rfl⟩
    · obtain ⟨behind, letters, rfl, rfl⟩ := exists_mark comma (by decide)
      obtain ⟨item, rest, more, rfl, ends⟩ :=
        exists_items fuel plain.right.right.right.tail read later
      refine ⟨⟨before, form, behind⟩, item :: rest, more, ?_, ends⟩
      simp [Form.lettersOfItem, Form.lettersOfItems]
    · obtain ⟨behind, more, rfl, ends⟩ := exists_mark closing (by decide)
      refine ⟨⟨before, form, behind⟩, [], more, ?_, ends⟩
      simp [Form.lettersOfItem, Form.lettersOfItems]

theorem exists_members : (fuel : Nat) → {letters : List Letter} → Fitting dotted letters →
    {members : List (String × Json)} → {left : List Char} →
    parseMembers fuel (spell dotted letters) = some (some members, left) →
    membersAreWellFormed members = true →
    ∃ (member : Member Form) (rest : List (Member Form)) (more : List Letter),
      letters = Form.lettersOfMember member ++ (Form.lettersOfMembers rest ++ more) ∧
        spell dotted more = left
  | 0, _, _, _, _, read, _ => by cases read
  | fuel + 1, letters, plain, members, left, read, formed => by
    obtain ⟨name, value, others, _, _, _, _, rfl, quote, literal, colon, taken, following⟩ :=
      members_cases read
    obtain ⟨whole, later⟩ := Bool.and_eq_true_iff.mp formed
    obtain ⟨blanks, letters, rfl, rfl⟩ := exists_mark quote (by decide)
    have plain := plain.right.tail
    obtain ⟨segments, letters, rfl, rfl⟩ := exists_literal plain literal
    obtain ⟨behind, letters, rfl, rfl⟩ := exists_mark colon (by decide)
    have plain := plain.right.right.tail
    obtain ⟨before, form, letters, rfl, rfl⟩ := exists_form fuel plain taken whole
    rcases following with ⟨_, comma, read⟩ | ⟨closing, rfl⟩
    · obtain ⟨after, letters, rfl, rfl⟩ := exists_mark comma (by decide)
      obtain ⟨member, rest, more, rfl, ends⟩ :=
        exists_members fuel plain.right.right.right.tail read later
      refine ⟨⟨⟨blanks, segments, behind⟩, ⟨before, form, after⟩⟩, member :: rest, more, ?_, ends⟩
      simp [Form.lettersOfMember, Form.lettersOfItem, Form.lettersOfMembers]
    · obtain ⟨after, more, rfl, ends⟩ := exists_mark closing (by decide)
      refine ⟨⟨⟨blanks, segments, behind⟩, ⟨before, form, after⟩⟩, [], more, ?_, ends⟩
      simp [Form.lettersOfMember, Form.lettersOfItem, Form.lettersOfMembers]

end

/-- A text that is read as a value is the text of a form, and the value is its document. -/
theorem exists_form_of_parse (plain : Fitting dotted letters) {value : Json}
    (read : parse (Template.source letters) = some value) (formed : value.isWellFormed = true) :
    ∃ whole : Item Form, Form.lettersOfItem whole = letters ∧
      whole.value.document dotted = value := by
  have found : ∃ whole : Item Form, Form.lettersOfItem whole = letters := by
    rw [parse, Template.source, String.toList_ofList] at read
    split at read
    next result left taken =>
      split at read
      next ended =>
        cases read
        obtain ⟨before, form, letters, rfl, rfl⟩ := exists_form _ plain taken formed
        obtain ⟨after, more, rfl, rest⟩ := exists_blanks letters
        have nothing : more = [] := by
          rw [List.isEmpty_iff.mp ended] at rest
          exact letters_eq_nil rest
        exact ⟨⟨before, form, after⟩, by simp [Form.lettersOfItem, nothing]⟩
      next => cases read
    next => cases read
  obtain ⟨whole, rfl⟩ := found
  exact ⟨whole, rfl, Option.some.inj ((parse_form whole plain).symm.trans read)⟩

mutual

theorem isWellFormed_document (put : String → List Char) :
    (form : Form) → (form.document put).isWellFormed = true
  | .null | .bool _ | .number _ | .string _ => rfl
  | .array _ items => itemsAreWellFormed_documents put items
  | .object _ members => membersAreWellFormed_documents put members

theorem itemsAreWellFormed_documents (put : String → List Char) :
    (items : List (Item Form)) → itemsAreWellFormed (Form.documents put items) = true
  | [] => rfl
  | ⟨_, value, _⟩ :: rest => Bool.and_eq_true_iff.mpr
    ⟨isWellFormed_document put value, itemsAreWellFormed_documents put rest⟩

theorem membersAreWellFormed_documents (put : String → List Char) :
    (members : List (Member Form)) →
      membersAreWellFormed (Form.memberDocuments put members) = true
  | [] => rfl
  | ⟨⟨_, _, _⟩, ⟨_, value, _⟩⟩ :: rest => Bool.and_eq_true_iff.mpr
    ⟨isWellFormed_document put value, membersAreWellFormed_documents put rest⟩

end

end Values

end Parley.Json
