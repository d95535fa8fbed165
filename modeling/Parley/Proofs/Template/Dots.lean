import Parley.Template.Reference
/-!
Where the dots of references go, and what stays.

A dot goes where two braces open a tag, with a mark or without, and after blanks or none the dot
comes with a name behind it. Two such places do not overlap, since only the first two characters of
one are braces. For the same reason the space that is put in the place of a dot brings no new one
about, so once through the text is enough.
-/

namespace Parley.Template

structure Opening where
  isMarked : Bool
  blanks : List Char
  blank : blanks.all Text.isBlank = true

namespace Opening

variable (opening : Opening)

def mark : List Char := if opening.isMarked then ['-'] else []

def inner : List Char := opening.mark ++ (opening.blanks ++ ['.'])

def written : List Char := '\x7b' :: '\x7b' :: opening.inner

def rewritten : List Char := '\x7b' :: '\x7b' :: (opening.mark ++ [' '])

theorem not_mem_mark : '\x7b' ∉ opening.mark := by
  unfold mark
  split <;> decide

theorem not_mem_inner : '\x7b' ∉ opening.inner := by
  intro inside
  rcases List.mem_append.mp inside with mark | later
  · exact opening.not_mem_mark mark
  · rcases List.mem_append.mp later with blank | dot
    · exact absurd (List.all_eq_true.mp opening.blank _ blank) (by decide)
    · exact absurd dot (by decide)

theorem inner_ne_nil : opening.inner ≠ [] := by
  simp [inner]

end Opening

def startsName : List Char → Bool
  | [] => false
  | c :: _ => isNameStart c

def StartsDotted (text : List Char) : Prop :=
  ∃ (opening : Opening) (name : List Char), text = opening.written ++ name ∧ startsName name = true

def HasDotted (text : List Char) : Prop := ∃ place, StartsDotted (text.drop place)

section Front

variable {text name front rest : List Char} {c : Char}

theorem isBlank_of_isNameStart (start : isNameStart c = true) : Text.isBlank c = false := by
  simp only [isNameStart, Bool.or_eq_true, Bool.and_eq_true, decide_eq_true_eq, Char.le_def,
    UInt32.le_iff_toNat_le] at start
  have bounds : 65 ≤ c.toNat ∧ c.toNat ≤ 122 := by
    rcases start with (⟨low, high⟩ | ⟨low, high⟩) | rfl
    · exact ⟨Nat.le_trans (by decide) low, high⟩
    · exact ⟨low, Nat.le_trans high (by decide)⟩
    · decide
  simp only [Text.isBlank, Bool.or_eq_false_iff, Bool.and_eq_false_iff, decide_eq_false_iff_not]
  omega

theorem startsName_cons (start : startsName text = true) :
    ∃ c rest, text = c :: rest ∧ isNameStart c = true := by
  cases text with
  | nil => cases start
  | cons c rest => exact ⟨c, rest, rfl, start⟩

theorem ne_of_holds {p : Char → Bool} {d : Char} (here : p c = true) (other : p d = false) :
    c ≠ d := by
  rintro rfl
  rw [here] at other
  cases other

theorem afterDot?_eq_some_iff :
    afterDot? text = some name ↔
      ∃ blanks : List Char, blanks.all Text.isBlank = true ∧
        text = blanks ++ '.' :: name ∧ startsName name = true := by
  constructor
  · intro found
    refine ⟨text.takeWhile Text.isBlank, List.all_takeWhile, ?_⟩
    unfold afterDot? at found
    split at found
    next c rest dot =>
      split at found
      next start =>
        cases found
        exact ⟨by rw [← dot, List.takeWhile_append_dropWhile], start⟩
      next => cases found
    next => cases found
  · rintro ⟨blanks, blank, rfl, start⟩
    obtain ⟨c, rest, rfl, first⟩ := startsName_cons start
    rw [afterDot?, List.dropWhile_append_of_pos (List.all_eq_true.mp blank),
      List.dropWhile_cons_of_neg (by decide)]
    exact if_pos first

theorem afterDot?_space (start : startsName name = true) : afterDot? (' ' :: name) = none := by
  obtain ⟨c, rest, rfl, first⟩ := startsName_cons start
  have solid : Text.isBlank c = false := isBlank_of_isNameStart first
  rw [afterDot?, List.dropWhile_cons_of_pos (by decide),
    List.dropWhile_cons_of_neg (by simp [solid])]
  split
  next same => exact absurd (List.cons.inj same).1 (ne_of_holds first (by decide))
  next => rfl

theorem dotReference?_space (opening : Opening) (start : startsName name = true) :
    dotReference? (opening.mark ++ ' ' :: name) = none := by
  unfold Opening.mark
  split
  · rw [List.singleton_append, dotReference?, afterDot?_space start]
    rfl
  · rw [List.nil_append, dotReference?.eq_2 _ (by simp), afterDot?_space start]
    rfl

theorem dotReference?_eq_some_iff {mark : List Char} :
    dotReference? text = some (mark, name) ↔
      ∃ opening : Opening, opening.mark = mark ∧ text = opening.inner ++ name ∧
        startsName name = true := by
  constructor
  · intro found
    unfold dotReference? at found
    split at found
    next rest =>
      obtain ⟨_, after, same⟩ := Option.map_eq_some_iff.mp found
      cases same
      obtain ⟨blanks, blank, rfl, start⟩ := afterDot?_eq_some_iff.mp after
      exact ⟨⟨true, blanks, blank⟩, rfl, by simp [Opening.inner, Opening.mark], start⟩
    next =>
      obtain ⟨_, after, same⟩ := Option.map_eq_some_iff.mp found
      cases same
      obtain ⟨blanks, blank, rfl, start⟩ := afterDot?_eq_some_iff.mp after
      exact ⟨⟨false, blanks, blank⟩, rfl, by simp [Opening.inner, Opening.mark], start⟩
  · rintro ⟨⟨isMarked, blanks, blank⟩, rfl, rfl, start⟩
    have after : afterDot? (blanks ++ '.' :: name) = some name :=
      afterDot?_eq_some_iff.mpr ⟨blanks, blank, rfl, start⟩
    cases isMarked with
    | true =>
      show dotReference? ('-' :: (blanks ++ ['.'] ++ name)) = some (['-'], name)
      rw [List.append_assoc, dotReference?, List.singleton_append, after]
      rfl
    | false =>
      have unmarked : ∀ more, blanks ++ '.' :: name ≠ '-' :: more := by
        intro more same
        cases blanks with
        | nil => exact absurd (List.cons.inj same).1 (by decide)
        | cons b later =>
          have first : b = '-' := (List.cons.inj same).1
          have dash := List.all_eq_true.mp blank b List.mem_cons_self
          rw [first] at dash
          exact absurd dash (by decide)
      show dotReference? (blanks ++ ['.'] ++ name) = some ([], name)
      rw [List.append_assoc, List.singleton_append, dotReference?.eq_2 _ unmarked, after]
      rfl

theorem startsDotted_braces_iff :
    StartsDotted ('\x7b' :: '\x7b' :: text) ↔ (dotReference? text).isSome = true := by
  rw [Option.isSome_iff_exists]
  constructor
  · rintro ⟨opening, name, split, start⟩
    have inner : text = opening.inner ++ name := (List.cons.inj (List.cons.inj split).2).2
    exact ⟨_, dotReference?_eq_some_iff.mpr ⟨opening, rfl, inner, start⟩⟩
  · rintro ⟨⟨mark, name⟩, found⟩
    obtain ⟨opening, _, inner, start⟩ := dotReference?_eq_some_iff.mp found
    exact ⟨opening, name, by rw [inner]; rfl, start⟩

theorem StartsDotted.braces (starts : StartsDotted text) :
    ∃ inner, text = '\x7b' :: '\x7b' :: inner := by
  obtain ⟨opening, name, split, _⟩ := starts
  exact ⟨opening.inner ++ name, split⟩

theorem not_startsDotted_of_braceless (braceless : '\x7b' ∉ front) (more : front ≠ []) :
    ¬StartsDotted (front ++ rest) := by
  intro starts
  obtain ⟨inner, split⟩ := starts.braces
  cases front with
  | nil => exact more rfl
  | cons c later => exact braceless (by simp [(List.cons.inj split).1])

theorem not_startsDotted_nil : ¬StartsDotted [] := by
  intro starts
  obtain ⟨inner, split⟩ := starts.braces
  cases split

theorem not_hasDotted_nil : ¬HasDotted [] := by
  rintro ⟨place, starts⟩
  rw [List.drop_nil] at starts
  exact not_startsDotted_nil starts

theorem not_startsDotted_brace (braceless : '\x7b' ∉ front) (more : front ≠ []) :
    ¬StartsDotted ('\x7b' :: (front ++ rest)) := by
  intro starts
  obtain ⟨inner, split⟩ := starts.braces
  cases front with
  | nil => exact more rfl
  | cons c later => exact braceless (by simp [(List.cons.inj (List.cons.inj split).2).1])

theorem hasDotted_cons_iff : HasDotted (c :: rest) ↔ StartsDotted (c :: rest) ∨ HasDotted rest := by
  constructor
  · rintro ⟨place, starts⟩
    cases place with
    | zero => exact .inl starts
    | succ place => exact .inr ⟨place, starts⟩
  · rintro (starts | ⟨place, starts⟩)
    · exact ⟨0, starts⟩
    · exact ⟨place + 1, starts⟩

theorem hasDotted_append_iff (braceless : '\x7b' ∉ front) :
    HasDotted (front ++ rest) ↔ HasDotted rest := by
  induction front with
  | nil => rfl
  | cons c later ih =>
    obtain ⟨apart, further⟩ := not_or.mp fun either => braceless (List.mem_cons.mpr either)
    have bare : ¬StartsDotted (c :: later ++ rest) :=
      not_startsDotted_of_braceless braceless (List.cons_ne_nil _ _)
    rw [List.cons_append, hasDotted_cons_iff, ih further]
    exact or_iff_right bare

theorem not_startsDotted_inside (opening : Opening) {place : Nat} (later : 0 < place)
    (inside : place < opening.written.length) :
    ¬StartsDotted ((opening.written ++ name).drop place) := by
  match place, later with
  | 1, _ => exact not_startsDotted_brace opening.not_mem_inner opening.inner_ne_nil
  | further + 2, _ =>
    have short : further < opening.inner.length := by
      simpa [Opening.written] using inside
    show ¬StartsDotted ((opening.inner ++ name).drop further)
    rw [List.drop_append_of_le_length (Nat.le_of_lt short)]
    apply not_startsDotted_of_braceless
    · exact fun member => opening.not_mem_inner (List.mem_of_mem_drop member)
    · simpa using short

theorem withoutDots_written (opening : Opening) (start : startsName name = true) :
    withoutDots 0 (opening.written ++ name) = opening.rewritten ++ withoutDots 0 name := by
  have found : dotReference? (opening.inner ++ name) = some (opening.mark, name) :=
    dotReference?_eq_some_iff.mpr ⟨opening, rfl, rfl, start⟩
  have gone : ('\x7b' :: (opening.inner ++ name)).length - name.length =
      opening.inner.length + 1 := by
    simp only [List.length_cons, List.length_append]
    omega
  show withoutDots 0 ('\x7b' :: '\x7b' :: (opening.inner ++ name)) = _
  rw [withoutDots, found]
  simp only [gone, withoutDots_skip (opening.inner.length + 1), List.drop_succ_cons,
    List.drop_left, Opening.rewritten, List.cons_append, List.append_assoc, List.nil_append]

theorem withoutDots_cons (bare : ¬StartsDotted (c :: rest)) :
    withoutDots 0 (c :: rest) = c :: withoutDots 0 rest := by
  by_cases brace : c = '\x7b'
  · subst brace
    cases rest with
    | nil => rfl
    | cons d inner =>
      by_cases second : d = '\x7b'
      · subst second
        rw [startsDotted_braces_iff, Bool.not_eq_true, Option.isSome_eq_false_iff,
          Option.isNone_iff_eq_none] at bare
        rw [withoutDots, bare]
      · exact withoutDots.eq_4 _ fun inner same => second (List.cons.inj same).1
  · exact withoutDots.eq_5 _ _ brace

theorem withoutDots_of_not_hasDotted (bare : ¬HasDotted text) : withoutDots 0 text = text := by
  induction text with
  | nil => rfl
  | cons c rest ih =>
    obtain ⟨here, later⟩ := not_or.mp (mt hasDotted_cons_iff.mpr bare)
    rw [withoutDots_cons here, ih later]

theorem startsName_withoutDots (start : startsName text = true) :
    startsName (withoutDots 0 text) = true := by
  obtain ⟨c, rest, rfl, first⟩ := startsName_cons start
  have brace : c ≠ '\x7b' := ne_of_holds first (by decide)
  rw [withoutDots.eq_5 _ _ brace]
  exact first

/-- No dotted reference reaches into a rewritten opening, and none starts in it. -/
theorem hasDotted_rewritten_iff (opening : Opening) (start : startsName name = true) :
    HasDotted (opening.rewritten ++ name) ↔ HasDotted name := by
  have braceless : '\x7b' ∉ opening.mark ++ [' '] := by
    intro member
    rcases List.mem_append.mp member with mark | space
    · exact opening.not_mem_mark mark
    · exact absurd space (by decide)
  have first : ¬StartsDotted ('\x7b' :: '\x7b' :: (opening.mark ++ [' '] ++ name)) := by
    rw [startsDotted_braces_iff, List.append_assoc, List.singleton_append,
      dotReference?_space opening start]
    decide
  have second : ¬StartsDotted ('\x7b' :: (opening.mark ++ [' '] ++ name)) :=
    not_startsDotted_brace braceless (by simp)
  calc
    HasDotted (opening.rewritten ++ name) ↔
        HasDotted ('\x7b' :: (opening.mark ++ [' '] ++ name)) :=
      hasDotted_cons_iff.trans (or_iff_right first)
    _ ↔ HasDotted (opening.mark ++ [' '] ++ name) :=
      hasDotted_cons_iff.trans (or_iff_right second)
    _ ↔ HasDotted name := hasDotted_append_iff braceless

end Front

theorem normalize_of_not_hasDotted {source : String} (bare : ¬HasDotted source.toList) :
    normalize source = source := by
  rw [normalize, withoutDots_of_not_hasDotted bare, String.ofList_toList]

/-- A character, or an opening whose dot goes. -/
inductive Glyph where
  | char (c : Char)
  | dotted (opening : Opening)

def Glyph.written : Glyph → List Char
  | char c => [c]
  | dotted opening => opening.written

def Glyph.rewritten : Glyph → List Char
  | char c => [c]
  | dotted opening => opening.rewritten

def OpensAt (glyphs : List Glyph) (place : Nat) : Prop :=
  ∃ before opening after, glyphs = before ++ .dotted opening :: after ∧
    (before.flatMap Glyph.written).length = place

/-- The text in glyphs, with an opening wherever a reference with a dot comes. -/
inductive Scanned : List Glyph → List Char → Prop where
  | nil : Scanned [] []
  | char {c : Char} {glyphs : List Glyph} {rest : List Char} :
      ¬StartsDotted (c :: rest) → Scanned glyphs rest → Scanned (.char c :: glyphs) (c :: rest)
  | dotted (opening : Opening) {glyphs : List Glyph} {name : List Char} :
      startsName name = true → Scanned glyphs name →
        Scanned (.dotted opening :: glyphs) (opening.written ++ name)

section Glyphs

variable {glyphs : List Glyph} {text : List Char}

theorem not_opensAt_nil (place : Nat) : ¬OpensAt [] place := by
  rintro ⟨before, opening, after, split, _⟩
  cases before <;> cases split

theorem Glyph.length_written_pos (glyph : Glyph) : 0 < glyph.written.length := by
  cases glyph <;> exact Nat.succ_pos _

theorem opensAt_cons_iff {glyph : Glyph} {place : Nat} :
    OpensAt (glyph :: glyphs) place ↔
      (place = 0 ∧ ∃ opening, glyph = .dotted opening) ∨
        ∃ further, place = glyph.written.length + further ∧ OpensAt glyphs further := by
  constructor
  · rintro ⟨before, opening, after, split, rfl⟩
    cases before with
    | nil =>
      cases split
      exact .inl ⟨rfl, opening, rfl⟩
    | cons first before =>
      cases split
      right
      exact ⟨_, by rw [List.flatMap_cons, List.length_append], before, opening, after, rfl, rfl⟩
  · rintro (⟨rfl, opening, rfl⟩ | ⟨_, rfl, before, opening, after, rfl, rfl⟩)
    · exact ⟨[], opening, glyphs, rfl, rfl⟩
    · exact ⟨glyph :: before, opening, after, rfl, by rw [List.flatMap_cons, List.length_append]⟩

theorem opensAt_cons_of_lt {glyph : Glyph} {place : Nat} (inside : place < glyph.written.length) :
    OpensAt (glyph :: glyphs) place ↔ place = 0 ∧ ∃ opening, glyph = .dotted opening := by
  rw [opensAt_cons_iff]
  apply or_iff_left
  rintro ⟨further, rfl, _⟩
  omega

theorem opensAt_cons_add (glyph : Glyph) (further : Nat) :
    OpensAt (glyph :: glyphs) (glyph.written.length + further) ↔ OpensAt glyphs further := by
  have wide := glyph.length_written_pos
  rw [opensAt_cons_iff, or_iff_right fun either => by omega]
  constructor
  · rintro ⟨other, same, opens⟩
    rwa [Nat.add_left_cancel same]
  · exact fun opens => ⟨further, rfl, opens⟩

theorem exists_scanned (text : List Char) : ∃ glyphs, Scanned glyphs text := by
  induction size : text.length using Nat.strongRecOn generalizing text with
  | _ size ih =>
    subst size
    cases text with
    | nil => exact ⟨[], .nil⟩
    | cons c rest =>
      by_cases starts : StartsDotted (c :: rest)
      · obtain ⟨opening, name, split, start⟩ := starts
        have shorter : name.length < (c :: rest).length := by
          rw [split, List.length_append, Opening.written, List.length_cons]
          omega
        obtain ⟨glyphs, scanned⟩ := ih _ shorter name rfl
        exact ⟨.dotted opening :: glyphs, split ▸ .dotted opening start scanned⟩
      · obtain ⟨glyphs, scanned⟩ := ih _ (Nat.lt_succ_self _) rest rfl
        exact ⟨.char c :: glyphs, .char starts scanned⟩

namespace Scanned

theorem flatMap_written (scanned : Scanned glyphs text) :
    glyphs.flatMap Glyph.written = text := by
  induction scanned with
  | nil => rfl
  | char _ _ ih => rw [List.flatMap_cons, ih, Glyph.written, List.singleton_append]
  | dotted _ _ _ ih => rw [List.flatMap_cons, ih, Glyph.written]

theorem flatMap_rewritten (scanned : Scanned glyphs text) :
    glyphs.flatMap Glyph.rewritten = withoutDots 0 text := by
  induction scanned with
  | nil => rfl
  | char bare _ ih =>
    rw [List.flatMap_cons, ih, withoutDots_cons bare, Glyph.rewritten, List.singleton_append]
  | dotted opening start _ ih =>
    rw [List.flatMap_cons, ih, withoutDots_written opening start, Glyph.rewritten]

/-- A reference with a dot comes just where an opening stands. -/
theorem startsDotted_drop_iff (scanned : Scanned glyphs text) (place : Nat) :
    StartsDotted (text.drop place) ↔ OpensAt glyphs place := by
  induction scanned generalizing place with
  | nil =>
    rw [List.drop_nil]
    exact iff_of_false not_startsDotted_nil (not_opensAt_nil place)
  | @char c glyphs rest bare _ ih =>
    cases place with
    | zero =>
      rw [opensAt_cons_of_lt (Glyph.length_written_pos _)]
      exact iff_of_false bare nofun
    | succ place =>
      have shifted : OpensAt (.char c :: glyphs) (1 + place) ↔ OpensAt glyphs place :=
        opensAt_cons_add (.char c) place
      rw [Nat.add_comm] at shifted
      exact (ih place).trans shifted.symm
  | @dotted opening glyphs name start _ ih =>
    rcases Nat.lt_or_ge place opening.written.length with inside | beyond
    · rw [opensAt_cons_of_lt inside]
      cases place with
      | zero => exact iff_of_true ⟨opening, name, rfl, start⟩ ⟨rfl, opening, rfl⟩
      | succ place =>
        exact iff_of_false (not_startsDotted_inside opening (Nat.succ_pos _) inside)
          fun either => absurd either.1 (Nat.succ_ne_zero _)
    · obtain ⟨further, rfl⟩ := Nat.exists_eq_add_of_le beyond
      rw [List.drop_length_add_append]
      exact (ih further).trans (opensAt_cons_add (.dotted opening) further).symm

theorem exists_of_braceless (scanned : Scanned glyphs text) {front more : List Char}
    (braceless : '\x7b' ∉ front) (split : withoutDots 0 text = front ++ more) :
    ∃ rest, text = front ++ rest := by
  induction front generalizing glyphs text with
  | nil => exact ⟨text, rfl⟩
  | cons d front ih =>
    obtain ⟨apart, further⟩ := not_or.mp fun either => braceless (List.mem_cons.mpr either)
    cases scanned with
    | nil => cases split
    | char bare scanned =>
      rw [withoutDots_cons bare] at split
      obtain ⟨rfl, later⟩ := List.cons.inj split
      obtain ⟨rest, rfl⟩ := ih scanned further later
      exact ⟨rest, rfl⟩
    | dotted opening start scanned =>
      rw [withoutDots_written opening start] at split
      exact absurd (List.cons.inj split).1 apart

theorem startsDotted_of_withoutDots (scanned : Scanned glyphs text) {c : Char}
    (starts : StartsDotted (c :: withoutDots 0 text)) : StartsDotted (c :: text) := by
  obtain ⟨opening, name, split, start⟩ := starts
  obtain ⟨first, behind⟩ := List.cons.inj split
  obtain ⟨s, more, rfl, letter⟩ := startsName_cons start
  cases scanned with
  | nil => cases behind
  | char bare scanned =>
    rw [withoutDots_cons bare] at behind
    obtain ⟨rfl, left⟩ := List.cons.inj behind
    -- Behind its two braces a reference has no more of them up to its name, so all that was copied.
    have braceless : '\x7b' ∉ opening.inner ++ [s] := by
      intro member
      rcases List.mem_append.mp member with inner | last
      · exact opening.not_mem_inner inner
      · exact ne_of_holds letter (by decide) (List.mem_singleton.mp last).symm
    obtain ⟨rest, same⟩ :=
      scanned.exists_of_braceless braceless (left.trans (List.append_cons _ s more))
    exact ⟨opening, s :: rest, by rw [first, same, Opening.written]; simp, start⟩
  | @dotted other _ rest begins scanned =>
    rw [withoutDots_written other begins] at behind
    -- The opening brings another brace, and that is where the reference has its mark or its dot.
    have second : '\x7b' :: (other.mark ++ [' '] ++ withoutDots 0 rest) =
        opening.inner ++ s :: more :=
      (List.cons.inj behind).2
    obtain ⟨d, later, inner⟩ := List.exists_cons_of_ne_nil opening.inner_ne_nil
    rw [inner] at second
    have brace : d = '\x7b' := (List.cons.inj second).1.symm
    exact absurd (by simp [inner, brace]) opening.not_mem_inner

theorem not_hasDotted_withoutDots (scanned : Scanned glyphs text) :
    ¬HasDotted (withoutDots 0 text) := by
  induction scanned with
  | nil => exact not_hasDotted_nil
  | char bare scanned ih =>
    rw [withoutDots_cons bare, hasDotted_cons_iff]
    rintro (here | later)
    · exact bare (scanned.startsDotted_of_withoutDots here)
    · exact ih later
  | dotted opening start _ ih =>
    have named := startsName_withoutDots start
    rw [withoutDots_written opening start, hasDotted_rewritten_iff opening named]
    exact ih

end Scanned

end Glyphs

/-- The dots of all references go and nothing else is changed. No reference is left with a dot, so
once more changes nothing. -/
theorem only_dots_are_rewritten (source : String) :
    normalize (normalize source) = normalize source ∧
      ¬HasDotted (normalize source).toList ∧
      (normalize source = source ↔ ¬HasDotted source.toList) ∧
      ∃ glyphs : List Glyph,
        glyphs.flatMap Glyph.written = source.toList ∧
        glyphs.flatMap Glyph.rewritten = (normalize source).toList ∧
        ∀ place, StartsDotted (source.toList.drop place) ↔ OpensAt glyphs place := by
  obtain ⟨glyphs, scanned⟩ := exists_scanned source.toList
  have result : (normalize source).toList = withoutDots 0 source.toList := String.toList_ofList
  have dotless : ¬HasDotted (normalize source).toList := by
    rw [result]
    exact scanned.not_hasDotted_withoutDots
  refine ⟨normalize_of_not_hasDotted dotless, dotless, ⟨?_, normalize_of_not_hasDotted⟩, glyphs,
    scanned.flatMap_written, ?_, scanned.startsDotted_drop_iff⟩
  · intro same
    rwa [same] at dotless
  · rw [result, scanned.flatMap_rewritten]

/-- With braces, marks and dots in a row. -/
example :
    normalize "\x7b\x7b\x7b.A \x7b\x7b-\n._b.C\x7b\x7b\x7b\x7b .D \x7b\x7b--.E \x7b\x7b .9" =
      "\x7b\x7b\x7b A \x7b\x7b- _b.C\x7b\x7b\x7b\x7b D \x7b\x7b--.E \x7b\x7b .9" := by
  decide +kernel

end Parley.Template
