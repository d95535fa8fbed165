import Parley.Lua.Evaluator
import Parley.Proofs.Json.Grammar
import Parley.Proofs.Send.Build
/-!
The documents that credentials and proof requests carry.

Their templates are texts of JSON, and registers are put into them as they are, without a look at
where a reference stands. A register cannot change the structure of the document as long as nothing
in it means something in a string literal; a quotation mark in it ends the literal.
-/

namespace Parley

open Template (Letter spell dotted source isRegister isClean)
open Json (Form Item Member Segment isPlain)

variable {σ : Type} [Evaluator σ]

def Registers.contents (memory : Registers) (name : String) : List Char := (memory.read name).toList

def filled (memory : Registers) (letters : List Letter) : String :=
  String.ofList (spell memory.contents letters)

namespace Event

def document? (event : Event) : Option String :=
  match event.protocol, event.eventData with
  | .issueCredential, some (.issuing _ attrs) => some attrs
  | .presentProof, some (.proof attributes) => some attributes
  | _, _ => none

def carrying (event : Event) (document : String) : Payload :=
  match event.eventData with
  | some (.issuing credDefId _) => .issuing credDefId document
  | _ => .proof document

omit [Evaluator σ] in
theorem payload_of_document {event : Event} {template : String}
    (sends : event.document? = some template) (memory : Registers) :
    event.payload memory = (renderOr template memory).map event.carrying := by
  unfold document? at sends
  split at sends
  case h_3 => cases sends
  all_goals
    next protocol data =>
      cases sends
      have carries : event.carrying = fun text => event.carrying text := rfl
      simp only [payload, protocol, data, carries, carrying]

end Event

/-- What an event sends is its template with the registers in it, as they are once its content has
been made. -/
theorem buildAll_document {early : List Event} {event : Event} {letters : List Letter}
    {input content : String} {store here there : Store σ} {before : List Send}
    (template : event.document? = some (source letters)) (clean : isClean letters = true)
    (registers : ∀ name, .reference name ∈ letters → isRegister name = true)
    (reached : buildAll early input store = (.ok before, here))
    (made : event.content input here = (.ok (some content), there)) (later : List Event) :
    buildAll (early ++ event :: later) input store =
      ((buildAll later input there).1.map fun after =>
        before ++ event.send content (event.carrying (filled there.memory letters)) :: after,
        (buildAll later input there).2) := by
  have carried : event.payload there.memory =
      .ok (event.carrying (filled there.memory letters)) := by
    rw [Event.payload_of_document template, renderOr, Template.render?_source clean registers]
    rfl
  have built : event.build input here =
      (.ok (some (event.send content (event.carrying (filled there.memory letters)))), there) := by
    rw [Event.build, made]
    simp only [carried]
    rfl
  rw [buildAll_append reached, buildAll, built]
  dsimp only
  rcases buildAll later input there with ⟨_ | after, last⟩ <;> rfl

/-- A document keeps its structure when registers are put into it in which nothing needs an escape.
In the place of a whole string they keep it only then. -/
theorem plain_registers_keep_structure {early : List Event} {event : Event}
    {letters : List Letter} {value : Json} {input content : String} {store here there : Store σ}
    {before : List Send} (template : event.document? = some (source letters))
    (clean : isClean letters = true)
    (registers : ∀ name, .reference name ∈ letters → isRegister name = true)
    (read : Json.parse (source letters) = some value) (formed : value.isWellFormed = true)
    (reached : buildAll early input store = (.ok before, here))
    (made : event.content input here = (.ok (some content), there)) :
    ∃ whole : Item Form,
      Form.lettersOfItem whole = letters ∧ whole.value.document dotted = value ∧
      (∀ later,
        buildAll (early ++ event :: later) input store =
          ((buildAll later input there).1.map fun after =>
            before ++ event.send content (event.carrying (filled there.memory letters)) :: after,
            (buildAll later input there).2)) ∧
      ((∀ name, .reference name ∈ letters →
          (there.memory.contents name).all isPlain = true) →
        Json.parse (filled there.memory letters) =
            some (whole.value.document there.memory.contents) ∧
          (whole.value.document there.memory.contents).isWellFormed = true) ∧
      ∀ name, letters = [.char '"', .reference name, .char '"'] →
        Json.parse (filled there.memory letters) = some (.string (there.memory.read name)) →
          (there.memory.contents name).all isPlain = true := by
  obtain ⟨whole, written, means⟩ :=
    Json.exists_form_of_parse (Json.fitting_dotted registers) read formed
  refine ⟨whole, written, means, buildAll_document template clean registers reached made,
    fun plain => ?_, fun name alone same => ?_⟩
  · subst written
    exact ⟨Json.parse_form whole plain, Json.isWellFormed_document _ _⟩
  · subst alone
    refine Json.isPlain_of_parse ?_
    rw [Registers.contents, String.ofList_toList, ← same]
    simp only [filled, spell, Registers.contents]

def plainly (text : String) (plain : text.toList.all isPlain = true) : List Segment :=
  text.toList.attach.map fun c => .plain c.val (List.all_eq_true.mp plain _ c.property)

theorem say_plainly (put : String → List Char) {text : String}
    (plain : text.toList.all isPlain = true) : Form.say put (plainly text plain) = text := by
  have meant : (plainly text plain).map Segment.meaning = text.toList.map .char := by
    conv_rhs => rw [← List.attach_map_subtype_val text.toList, List.map_map]
    rw [plainly, List.map_map]
    rfl
  rw [Form.say, meant, Template.spell_chars, String.ofList_toList]

def address : Item Form :=
  ⟨[], .array [] [⟨[], .object []
    [⟨⟨[], plainly "name" (by decide), []⟩, ⟨[], .string (plainly "email" (by decide)), []⟩⟩,
      ⟨⟨[], plainly "value" (by decide), []⟩, ⟨[], .string [.reference "EMAIL"], []⟩⟩], []⟩], []⟩

def about (email : String) : Json :=
  .array [.object [("name", .string "email"), ("value", .string email)]]

theorem document_address (put : String → List Char) :
    address.value.document put = about (String.ofList (put "EMAIL")) := by
  simp only [address, Form.document, Form.documents, Form.memberDocuments, say_plainly, about]
  simp [Form.say, Segment.meaning, spell]

def offer : Event where
  protocol := .issueCredential
  rule := .data
  typeId := none
  data := ""
  eventData := some (.issuing "cd-1" (source (Form.lettersOfItem address)))
  wantStatus := true

def addressed (email : String) : Store Lua.State :=
  ⟨TextMap.empty.insert "EMAIL" email, none, .constant (Fin.last 999999)⟩

theorem address_registers :
    ∀ name, .reference name ∈ Form.lettersOfItem address → isRegister name = true := by
  have all : ((Form.lettersOfItem address).all fun letter =>
      match letter with
      | .char _ => true
      | .reference name => isRegister name) = true := by
    decide +kernel
  exact fun name member => List.all_eq_true.mp all _ member

theorem parse_address : Json.parse (source (Form.lettersOfItem address)) =
    some (about "\x7b\x7b.EMAIL\x7d\x7d") :=
  (Json.parse_form address (Json.fitting_dotted address_registers)).trans
    (congrArg some (document_address dotted))

theorem plain_address_kept :
    ∃ whole : Item Form,
      whole.value.document dotted = about "\x7b\x7b.EMAIL\x7d\x7d" ∧
      buildAll [offer] "" (addressed "mail@example.com") =
        (.ok [offer.send "" (.issuing "cd-1"
          "[\x7b\"name\":\"email\",\"value\":\"mail@example.com\"\x7d]")],
          addressed "mail@example.com") ∧
      Json.parse "[\x7b\"name\":\"email\",\"value\":\"mail@example.com\"\x7d]" =
        some (whole.value.document (addressed "mail@example.com").memory.contents) := by
  have text : filled (addressed "mail@example.com").memory (Form.lettersOfItem address) =
      "[\x7b\"name\":\"email\",\"value\":\"mail@example.com\"\x7d]" := by
    decide +kernel
  have plain : ((Form.lettersOfItem address).all fun letter =>
      match letter with
      | .char _ => true
      | .reference name =>
        ((addressed "mail@example.com").memory.contents name).all isPlain) = true := by
    decide +kernel
  have begun : buildAll [] "" (addressed "mail@example.com") =
      (.ok [], addressed "mail@example.com") := rfl
  have made : offer.content "" (addressed "mail@example.com") =
      (.ok (some ""), addressed "mail@example.com") := rfl
  obtain ⟨whole, _, means, built, kept, _⟩ :=
    plain_registers_keep_structure rfl (by decide +kernel) address_registers parse_address rfl
      begun made
  have sent := built []
  rw [text] at kept sent
  exact ⟨whole, means, sent, (kept fun name member => List.all_eq_true.mp plain _ member).1⟩

def forged : String := "x\",\"admin\":\"true"

/-- A quotation mark in the address ends it, and what comes after it is another member. -/
theorem quotation_adds_member :
    isClean (Form.lettersOfItem address) = true ∧
      (∀ name, .reference name ∈ Form.lettersOfItem address → isRegister name = true) ∧
      offer.document? = some (source (Form.lettersOfItem address)) ∧
      Json.parse (source (Form.lettersOfItem address)) = some (address.value.document dotted) ∧
      ∃ text,
        buildAll [offer] "" (addressed forged) =
          (.ok [offer.send "" (.issuing "cd-1" text)], addressed forged) ∧
        Json.parse text = some (.array [.object
          [("name", .string "email"), ("value", .string "x"), ("admin", .string "true")]]) ∧
        Json.parse text ≠ some (address.value.document (addressed forged).memory.contents) := by
  have clean : isClean (Form.lettersOfItem address) = true := by decide +kernel
  have template : offer.document? = some (source (Form.lettersOfItem address)) := rfl
  have read : Json.parse (source (Form.lettersOfItem address)) =
      some (address.value.document dotted) :=
    parse_address.trans (congrArg some (document_address dotted).symm)
  have made : offer.content "" (addressed forged) = (.ok (some ""), addressed forged) := rfl
  have begun : buildAll [] "" (addressed forged) = (.ok [], addressed forged) := rfl
  have built := buildAll_document template clean address_registers begun made []
  have text : filled (addressed forged).memory (Form.lettersOfItem address) =
      Json.print (.array [.object
        [("name", .string "email"), ("value", .string "x"), ("admin", .string "true")]]) := by
    decide +kernel
  have parsed : Json.parse (filled (addressed forged).memory (Form.lettersOfItem address)) =
      some (.array [.object
        [("name", .string "email"), ("value", .string "x"), ("admin", .string "true")]]) := by
    rw [text]
    exact Json.parse_print rfl
  refine ⟨clean, address_registers, template, read, _, built, parsed, ?_⟩
  rw [parsed, document_address]
  simp [about]

end Parley
