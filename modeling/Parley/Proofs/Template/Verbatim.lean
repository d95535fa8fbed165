import Parley.Proofs.Template.Letters
/-!
Templates as their authors write them: texts, and references between them, each in a style of its
own.

A register takes the place of its references as it is. Nothing in it is escaped, and nothing in it
is read as a part of the template, so it may hold tags and references itself.
-/

namespace Parley.Template

theorem isClean_of_not_mem {letters : List Letter} (braceless : .char '\x7b' ∉ letters) :
    isClean letters = true := by
  induction letters with
  | nil => rfl
  | cons letter rest ih =>
    obtain ⟨apart, later⟩ := not_or.mp fun either => braceless (List.mem_cons.mpr either)
    rw [isClean, ih later]
    simp [Ne.symm apart]

inductive Part where
  | text (content : String)
  | reference (style : Style) (name : String)

namespace Part

variable {parts : List Part}

def write : Part → String
  | text content => content
  | reference style name => String.ofList (style.write name)

def fill (memory : Registers) : Part → String
  | text content => content
  | reference _ name => memory.read name

def restyle (style : Style) : Part → Part
  | text content => text content
  | reference _ name => reference style name

/-- A text that opens no tag, or a reference to a register. -/
def IsSound : Part → Prop
  | text content => '\x7b' ∉ content.toList
  | reference _ name => isRegister name = true

instance : DecidablePred IsSound
  | text content => inferInstanceAs (Decidable ('\x7b' ∉ content.toList))
  | reference _ name => inferInstanceAs (Decidable (isRegister name = true))

def letters : Part → List Letter
  | text content => content.toList.map .char
  | reference _ name => [.reference name]

theorem spelt_letters (parts : List Part) :
    Spelt Style.write (parts.flatMap letters) (String.join (parts.map write)).toList := by
  induction parts with
  | nil => exact .nil
  | cons part rest ih =>
    rw [List.flatMap_cons, List.map_cons, String.join_cons, String.toList_append]
    cases part with
    | text content =>
      show Spelt Style.write (content.toList.map .char ++ _) (content.toList ++ _)
      induction content.toList with
      | nil => exact ih
      | cons c later spelt => exact .char spelt
    | reference style name =>
      show Spelt Style.write (.reference name :: _) ((String.ofList (style.write name)).toList ++ _)
      rw [String.toList_ofList]
      exact .reference style ih

theorem spell_letters (memory : Registers) (parts : List Part) :
    String.ofList (spell (fun name => (memory.read name).toList) (parts.flatMap letters)) =
      String.join (parts.map (fill memory)) := by
  induction parts with
  | nil => rfl
  | cons part rest ih =>
    rw [List.flatMap_cons, spell_append, String.ofList_append, ih, List.map_cons, String.join_cons]
    congr 1
    cases part with
    | text content => rw [letters, spell_chars, String.ofList_toList, fill]
    | reference style name =>
      rw [letters, spell, spell, List.append_nil, String.ofList_toList, fill]

theorem isClean_letters (sound : ∀ part ∈ parts, part.IsSound) :
    isClean (parts.flatMap letters) = true := by
  apply isClean_of_not_mem
  intro member
  obtain ⟨part, inside, here⟩ := List.mem_flatMap.mp member
  cases part with
  | text content =>
    obtain ⟨c, held, same⟩ := List.mem_map.mp here
    cases same
    exact sound (text content) inside held
  | reference style name => simp [letters] at here

theorem isRegister_of_mem_letters (sound : ∀ part ∈ parts, part.IsSound) (name : String)
    (member : .reference name ∈ parts.flatMap letters) : isRegister name = true := by
  obtain ⟨part, inside, here⟩ := List.mem_flatMap.mp member
  cases part with
  | text content => simp [letters] at here
  | reference style other =>
    obtain rfl : name = other := by simpa [letters] using here
    exact sound (reference style name) inside

theorem render?_write (sound : ∀ part ∈ parts, part.IsSound) (memory : Registers) :
    render? (String.join (parts.map write)) memory =
      some (String.join (parts.map (fill memory))) := by
  have rendered := (spelt_letters parts).render? (isClean_letters sound)
    (isRegister_of_mem_letters sound) memory
  rwa [String.ofList_toList, spell_letters] at rendered

@[simp]
theorem fill_restyle (memory : Registers) (style : Style) (part : Part) :
    (part.restyle style).fill memory = part.fill memory := by
  cases part <;> rfl

theorem isSound_restyle (style : Style) (part : Part) :
    (part.restyle style).IsSound ↔ part.IsSound := by
  cases part <;> rfl

def SameButStyles (parts others : List Part) : Prop :=
  parts.map (restyle .plain) = others.map (restyle .plain)

theorem SameButStyles.sound {others : List Part} (same : SameButStyles parts others)
    (sound : ∀ part ∈ parts, part.IsSound) : ∀ part ∈ others, part.IsSound := by
  intro part member
  have here : part.restyle .plain ∈ parts.map (restyle .plain) := by
    rw [same]
    exact List.mem_map_of_mem member
  obtain ⟨former, inside, equal⟩ := List.mem_map.mp here
  rw [← isSound_restyle .plain, ← equal, isSound_restyle]
  exact sound former inside

theorem SameButStyles.fill {others : List Part} (same : SameButStyles parts others)
    (memory : Registers) : others.map (fill memory) = parts.map (fill memory) := by
  have unstyled (parts : List Part) :
      parts.map (Part.fill memory) = (parts.map (restyle .plain)).map (Part.fill memory) := by
    simp only [List.map_map, Function.comp_def, fill_restyle]
  rw [unstyled parts, unstyled others, same]

end Part

/-- A template of texts and references renders as its texts with each register, as it is, in the
place of its references. It does not matter in which styles they are written. -/
theorem references_are_verbatim {parts : List Part} (sound : ∀ part ∈ parts, part.IsSound)
    (memory : Registers) :
    render? (String.join (parts.map Part.write)) memory =
        some (String.join (parts.map (Part.fill memory))) ∧
      ∀ others, Part.SameButStyles parts others →
        render? (String.join (others.map Part.write)) memory =
          render? (String.join (parts.map Part.write)) memory := by
  have here := Part.render?_write sound memory
  constructor
  · exact here
  · intro others same
    rw [here, Part.render?_write (same.sound sound), same.fill]

section Letters

/-- References in all styles, one of them to a register that is not set. -/
def letter : List Part :=
  [.text "Dear \x7d\x7d ", .reference .close "NAME", .reference .wide "TITLE", .text ",\n100 % of ",
    .reference .plain "_sum2", .text "\n\n"]

def loaded : Registers :=
  (TextMap.empty.insert "NAME" "\x7b\x7b._sum2\x7d\x7d \x7b% if").insert "_sum2" "\x7b# <1> \"\n"

theorem letter_is_verbatim :
    (∀ part ∈ letter, part.IsSound) ∧
      Part.SameButStyles letter (letter.map (Part.restyle .close)) ∧
      render? ("Dear \x7d\x7d \x7b\x7b.NAME\x7d\x7d\x7b\x7b .TITLE \x7d\x7d,\n100 % of " ++
          "\x7b\x7b _sum2 \x7d\x7d\n\n") loaded =
        some ("Dear \x7d\x7d \x7b\x7b._sum2\x7d\x7d \x7b% if,\n100 % of " ++
          "\x7b# <1> \"\n\n\n") ∧
      render? ("Dear \x7d\x7d \x7b\x7b.NAME\x7d\x7d\x7b\x7b.TITLE\x7d\x7d,\n100 % of " ++
          "\x7b\x7b._sum2\x7d\x7d\n\n") loaded =
        some ("Dear \x7d\x7d \x7b\x7b._sum2\x7d\x7d \x7b% if,\n100 % of " ++
          "\x7b# <1> \"\n\n\n") := by
  have sound : ∀ part ∈ letter, part.IsSound := by decide
  have same : Part.SameButStyles letter (letter.map (Part.restyle .close)) := rfl
  have written : String.join (letter.map Part.write) =
      "Dear \x7d\x7d \x7b\x7b.NAME\x7d\x7d\x7b\x7b .TITLE \x7d\x7d,\n100 % of " ++
        "\x7b\x7b _sum2 \x7d\x7d\n\n" := by
    decide +kernel
  have closely : String.join ((letter.map (Part.restyle .close)).map Part.write) =
      "Dear \x7d\x7d \x7b\x7b.NAME\x7d\x7d\x7b\x7b.TITLE\x7d\x7d,\n100 % of " ++
        "\x7b\x7b._sum2\x7d\x7d\n\n" := by
    decide +kernel
  have filled : String.join (letter.map (Part.fill loaded)) =
      "Dear \x7d\x7d \x7b\x7b._sum2\x7d\x7d \x7b% if,\n100 % of " ++
        "\x7b# <1> \"\n\n\n" := by
    decide +kernel
  obtain ⟨rendered, alike⟩ := references_are_verbatim sound loaded
  have restyled := alike (letter.map (Part.restyle .close)) same
  rw [rendered] at restyled
  rw [written, filled] at rendered
  rw [closely, filled] at restyled
  exact ⟨sound, same, rendered, restyled⟩

end Letters

end Parley.Template
