import Parley.Json.Parser
import Parley.Json.Printer
/-!
Reading back what has been printed.

A value in which everything is a name, a text or a truth value is read back from its compact text,
whatever follows that text. The reader has enough fuel for it: each level of nesting and each item
takes a character at least.
-/

namespace Parley.Json

mutual

def isVerbal : Json → Bool
  | array items => itemsAreVerbal items
  | object members => membersAreVerbal members
  | number _ | illFormed => false
  | null | bool _ | string _ => true

def itemsAreVerbal : List Json → Bool
  | [] => true
  | item :: rest => item.isVerbal && itemsAreVerbal rest

def membersAreVerbal : List (String × Json) → Bool
  | [] => true
  | (_, value) :: rest => value.isVerbal && membersAreVerbal rest

end

section Strings

theorem hexValue?_hexDigit : ∀ n < 16, hexValue? (hexDigit n) = some n := by decide

theorem unit?_control {n : Nat} (small : n < 0x20) :
    unit? '0' '0' (hexDigit (n / 16)) (hexDigit (n % 16)) = some n := by
  have high := hexValue?_hexDigit (n / 16) (by omega)
  have low := hexValue?_hexDigit (n % 16) (by omega)
  have zero : hexValue? '0' = some 0 := by decide
  simp only [unit?, zero, high, low, Option.bind_eq_bind, Option.bind_some]
  congr 1
  omega

def Piece.before (piece : Piece) (read : List Piece × List Char) : List Piece × List Char :=
  (piece :: read.1, read.2)

theorem pieces_short {letter c : Char} (short : shortEscape? letter = some c) (rest : List Char) :
    pieces ('\\' :: letter :: rest) = (pieces rest).map (Piece.char c).before := by
  have other : letter ≠ 'u' := by
    rintro rfl
    cases short
  rw [pieces.eq_4 _ _ (by simp [other]), short]
  cases pieces rest <;> rfl

theorem pieces_control {c : Char} (small : c.toNat < 0x20) (rest : List Char) :
    pieces ('\\' :: 'u' :: '0' :: '0' :: hexDigit (c.toNat / 16) :: hexDigit (c.toNat % 16) ::
        rest) = (pieces rest).map (Piece.unit c.toNat).before := by
  rw [pieces, unit?_control small]
  cases pieces rest <;> rfl

theorem pieces_plain {c : Char} (quote : c ≠ '"') (backslash : c ≠ '\\')
    (large : ¬c.toNat < 0x20) (rest : List Char) :
    pieces (c :: rest) = (pieces rest).map (Piece.char c).before := by
  rw [pieces.eq_5 _ _ (by simpa using quote) (by simp [backslash]) (by simp [backslash]),
    if_neg (by simp [backslash, large])]
  cases pieces rest <;> rfl

theorem content_unit {c : Char} (small : c.toNat < 0x20) (read : List Piece) :
    content (.unit c.toNat :: read) = (content read).map (c :: ·) := by
  have high : isHighSurrogate c.toNat = false := by
    simp only [isHighSurrogate, Bool.and_eq_false_iff, decide_eq_false_iff_not]
    omega
  have low : isLowSurrogate c.toNat = false := by
    simp only [isLowSurrogate, Bool.and_eq_false_iff, decide_eq_false_iff_not]
    omega
  cases read with
  | nil => simp [content, high, low]
  | cons piece more => cases piece <;> simp [content, high, low]

theorem exists_piece (c : Char) :
    ∃ piece : Piece, (∀ rest, pieces (escaped c ++ rest) = (pieces rest).map piece.before) ∧
      ∀ read, content (piece :: read) = (content read).map (c :: ·) := by
  have short {letter : Char} (names : shortEscape? letter = some c)
      (written : escaped c = ['\\', letter]) :
      ∃ piece : Piece, (∀ rest, pieces (escaped c ++ rest) = (pieces rest).map piece.before) ∧
        ∀ read, content (piece :: read) = (content read).map (c :: ·) :=
    ⟨.char c, fun rest => written ▸ pieces_short names rest, fun _ => rfl⟩
  by_cases quote : c = '"'
  · subst quote; exact short rfl rfl
  by_cases backslash : c = '\\'
  · subst backslash; exact short rfl rfl
  by_cases newline : c = '\n'
  · subst newline; exact short rfl rfl
  by_cases ret : c = '\r'
  · subst ret; exact short rfl rfl
  by_cases tab : c = '\t'
  · subst tab; exact short rfl rfl
  by_cases back : c = '\x08'
  · subst back; exact short rfl rfl
  by_cases feed : c = '\x0c'
  · subst feed; exact short rfl rfl
  simp only [escaped, quote, backslash, newline, ret, tab, back, feed, if_false]
  by_cases control : c.toNat < 0x20
  · simp only [control, if_true]
    exact ⟨.unit c.toNat, pieces_control control, content_unit control⟩
  · simp only [control, if_false]
    exact ⟨.char c, pieces_plain quote backslash control, fun _ => rfl⟩

theorem exists_pieces (text rest : List Char) :
    ∃ read, pieces (quotedTail text ++ rest) = some (read, rest) ∧ content read = some text := by
  induction text with
  | nil => exact ⟨[], by simp [quotedTail, pieces], rfl⟩
  | cons c later ih =>
    obtain ⟨read, taken, spelt⟩ := ih
    obtain ⟨piece, first, means⟩ := exists_piece c
    refine ⟨piece :: read, ?_, ?_⟩
    · rw [quotedTail, List.append_assoc, first, taken]
      rfl
    · rw [means, spelt]
      rfl

theorem stringTail_quotedTail (text : String) (rest : List Char) :
    stringTail (quotedTail text.toList ++ rest) = some (some text, rest) := by
  obtain ⟨read, taken, spelt⟩ := exists_pieces text.toList rest
  simp [stringTail, taken, spelt]

end Strings

section Values

theorem skipSpaces_cons {c : Char} (solid : isSpace c = false) (rest : List Char) :
    skipSpaces (c :: rest) = c :: rest := by
  simp [skipSpaces, solid]

theorem render_begins {value : Json} (verbal : value.isVerbal = true) :
    ∃ c rest, value.render = c :: rest ∧ isSpace c = false ∧ c ≠ ']' := by
  cases value with
  | null => exact ⟨_, _, rfl, rfl, by decide⟩
  | bool truth => cases truth <;> exact ⟨_, _, rfl, rfl, by decide⟩
  | number literal => cases verbal
  | string text => exact ⟨_, _, rfl, rfl, by decide⟩
  | array items => cases items <;> exact ⟨_, _, rfl, rfl, by decide⟩
  | object members => cases members <;> exact ⟨_, _, rfl, rfl, by decide⟩
  | illFormed => cases verbal

theorem fuel_ne_zero {value : Json} (verbal : value.isVerbal = true) {fuel : Nat}
    (enough : 2 * value.render.length ≤ fuel) : fuel ≠ 0 := by
  obtain ⟨c, rest, begins, _⟩ := render_begins verbal
  rw [begins, List.length_cons] at enough
  omega

-- By induction on the fuel. A value is given two units for each character; for some items or
-- members one unit may be missing, since their bracket has been read before.
mutual

theorem parseValue_render : (fuel : Nat) → (value : Json) → value.isVerbal = true →
    (left : List Char) → 2 * value.render.length ≤ fuel →
    parseValue fuel (value.render ++ left) = some (value, left)
  | 0, _, verbal, _, enough => absurd rfl (fuel_ne_zero verbal enough)
  | fuel + 1, .null, _, left, _ => rfl
  | fuel + 1, .bool true, _, left, _ => rfl
  | fuel + 1, .bool false, _, left, _ => rfl
  | fuel + 1, .string text, _, left, _ => by
    simp only [render, quoted, List.cons_append, parseValue, skipSpaces_cons (c := '"') rfl,
      stringTail_quotedTail]
  | fuel + 1, .array [], _, left, _ => rfl
  | fuel + 1, .array (item :: rest), verbal, left, enough => by
    rw [render, List.length_cons] at enough
    have items := parseItems_render fuel item rest verbal left (by omega)
    obtain ⟨c, tail, begins, solid, more⟩ := render_begins (Bool.and_eq_true_iff.mp verbal).1
    rw [render, List.cons_append, parseValue, skipSpaces_cons (c := '[') rfl]
    simp only [begins, List.cons_append, skipSpaces_cons solid] at items ⊢
    -- The first item keeps the array from looking like an empty one.
    split
    next left ended => exact absurd (List.cons.inj ended).1 more
    next => rw [items]
  | fuel + 1, .object [], _, left, _ => rfl
  | fuel + 1, .object ((name, value) :: rest), verbal, left, enough => by
    rw [render, List.length_cons] at enough
    have members := parseMembers_render fuel name value rest verbal left (by omega)
    rw [render, List.cons_append, parseValue, skipSpaces_cons (c := '\x7b') rfl]
    simp only [quoted, List.cons_append, skipSpaces_cons (c := '"') rfl] at members ⊢
    rw [members]
    rfl

theorem parseItems_render : (fuel : Nat) → (item : Json) → (rest : List Json) →
    itemsAreVerbal (item :: rest) = true → (left : List Char) →
    2 * (item.render ++ renderItems rest).length ≤ fuel + 1 →
    parseItems fuel (item.render ++ renderItems rest ++ left) = some (item :: rest, left)
  | 0, item, rest, verbal, left, enough => by
    have few : 2 * item.render.length ≤ 0 := by
      rw [List.length_append] at enough
      omega
    exact absurd rfl (fuel_ne_zero (Bool.and_eq_true_iff.mp verbal).1 few)
  | fuel + 1, item, [], verbal, left, enough => by
    rw [List.length_append, renderItems, List.length_singleton] at enough
    have read := parseValue_render fuel item (Bool.and_eq_true_iff.mp verbal).1 (']' :: left)
      (by omega)
    rw [List.append_assoc, parseItems, renderItems, List.singleton_append, read]
    rfl
  | fuel + 1, item, next :: rest, verbal, left, enough => by
    obtain ⟨first, later⟩ := Bool.and_eq_true_iff.mp verbal
    rw [List.length_append, renderItems, List.length_cons] at enough
    have others := parseItems_render fuel next rest later left (by omega)
    rw [List.append_assoc, parseItems, parseValue_render fuel item first _ (by omega)]
    simp only [renderItems, List.cons_append, skipSpaces_cons (c := ',') rfl]
    rw [others]

theorem parseMembers_render : (fuel : Nat) → (name : String) → (value : Json) →
    (rest : List (String × Json)) → membersAreVerbal ((name, value) :: rest) = true →
    (left : List Char) →
    2 * (quoted name ++ ':' :: (value.render ++ renderMembers rest)).length ≤ fuel + 1 →
    parseMembers fuel (quoted name ++ ':' :: (value.render ++ renderMembers rest) ++ left) =
      some (some ((name, value) :: rest), left)
  | 0, name, value, rest, verbal, left, enough => by
    simp only [quoted, List.length_append, List.length_cons] at enough
    omega
  | fuel + 1, name, value, [], verbal, left, enough => by
    simp only [quoted, renderMembers, List.length_append, List.length_cons] at enough
    have read := parseValue_render fuel value (Bool.and_eq_true_iff.mp verbal).1
      ('\x7d' :: left) (by omega)
    simp only [parseMembers, quoted, renderMembers, List.cons_append, List.append_assoc,
      List.nil_append, skipSpaces_cons (c := '"') rfl, stringTail_quotedTail,
      skipSpaces_cons (c := ':') rfl, read, skipSpaces_cons (c := '\x7d') rfl]
    rfl
  | fuel + 1, name, value, (other, next) :: rest, verbal, left, enough => by
    obtain ⟨first, later⟩ := Bool.and_eq_true_iff.mp verbal
    simp only [quoted, renderMembers, List.length_append, List.length_cons] at enough
    have others := parseMembers_render fuel other next rest later left
      (by simp only [quoted, List.length_append, List.length_cons]; omega)
    have read := fun left => parseValue_render fuel value first left (by omega)
    simp only [quoted, List.cons_append, List.append_assoc] at others
    simp only [parseMembers, quoted, renderMembers, List.cons_append, List.append_assoc,
      skipSpaces_cons (c := '"') rfl, stringTail_quotedTail, skipSpaces_cons (c := ':') rfl, read,
      skipSpaces_cons (c := ',') rfl, others]
    rfl

end

/-- A value is what its text is read as. -/
theorem parse_print {value : Json} (verbal : value.isVerbal = true) :
    parse value.print = some value := by
  have read := parseValue_render (fuelFor value.render) value verbal [] (by unfold fuelFor; omega)
  rw [List.append_nil] at read
  simp only [parse, print, String.toList_ofList, read]
  rfl

end Values

end Parley.Json
