import Parley.Proofs.Template.Dots
import Parley.Template.Render
/-!
Templates whose only tags are references to registers.

Such a template is a list of letters, each a character or a reference. To render it is to put the
value of its register into the place of each reference, and to change nothing else. It does not
matter in which of its styles a reference is written.
-/

namespace Parley.Template

inductive Letter where
  | char (c : Char)
  | reference (name : String)
  deriving DecidableEq

def spell (put : String → List Char) : List Letter → List Char
  | [] => []
  | .char c :: rest => c :: spell put rest
  | .reference name :: rest => put name ++ spell put rest

def dotted (name : String) : List Char :=
  '\x7b' :: '\x7b' :: '.' :: (name.toList ++ ['\x7d', '\x7d'])

def source (letters : List Letter) : String := String.ofList (spell dotted letters)

/-- The names of which a template knows more than that there may be a register. -/
def reserved : List String :=
  ["not", "true", "True", "false", "False", "none", "None", "loop", "self", "range", "dict",
    "debug", "namespace"]

def isRegister (name : String) : Bool :=
  match name.toList with
  | [] => false
  | c :: rest => isNameStart c && rest.all isNameChar && name ∉ reserved

/-- Before this a brace would open a tag. -/
def wouldOpen : List Letter → Bool
  | [] => false
  | .char c :: _ => c = '\x7b' || c = '%' || c = '#'
  | .reference _ :: _ => true

def isClean : List Letter → Bool
  | [] => true
  | letter :: rest => !(letter = .char '\x7b' && wouldOpen rest) && isClean rest

@[simp]
theorem spell_append (put : String → List Char) (early late : List Letter) :
    spell put (early ++ late) = spell put early ++ spell put late := by
  induction early with
  | nil => rfl
  | cons letter rest ih =>
    cases letter with
    | char c => rw [List.cons_append, spell, ih, spell, List.cons_append]
    | reference name => rw [List.cons_append, spell, ih, spell, List.append_assoc]

@[simp]
theorem spell_chars (put : String → List Char) (text : List Char) :
    spell put (text.map .char) = text := by
  induction text with
  | nil => rfl
  | cons c rest ih => rw [List.map_cons, spell, ih]

section Rendering

variable {letters : List Letter} {name : String} {c : Char} {put : String → List Char}

def undotted (name : String) : List Char :=
  '\x7b' :: '\x7b' :: ' ' :: (name.toList ++ ['\x7d', '\x7d'])

def spaced (name : String) : List Char :=
  '\x7b' :: '\x7b' :: ' ' :: (name.toList ++ [' ', '\x7d', '\x7d'])

inductive Style where
  /-- With a dot and no blanks. -/
  | close
  /-- With a dot, between blanks. -/
  | wide
  /-- Without a dot, between blanks. -/
  | plain
  deriving DecidableEq

def Style.write : Style → String → List Char
  | close => dotted
  | wide => fun name =>
    '\x7b' :: '\x7b' :: ' ' :: '.' :: (name.toList ++ [' ', '\x7d', '\x7d'])
  | plain => spaced

def Style.rewrite : Style → String → List Char
  | close => undotted
  | wide | plain => spaced

/-- The letters as characters, with each reference in some style. -/
inductive Spelt (write : Style → String → List Char) : List Letter → List Char → Prop where
  | nil : Spelt write [] []
  | char {c : Char} {letters : List Letter} {text : List Char} :
      Spelt write letters text → Spelt write (.char c :: letters) (c :: text)
  | reference {name : String} {letters : List Letter} {text : List Char} (style : Style) :
      Spelt write letters text →
        Spelt write (.reference name :: letters) (write style name ++ text)

def lead : List Letter → List Char
  | .char c :: rest => c :: lead rest
  | _ => []

def afterLead : List Letter → List Letter
  | .char _ :: rest => afterLead rest
  | letters => letters

theorem isClean_tail {letter : Letter} (clean : isClean (letter :: letters) = true) :
    isClean letters = true :=
  (Bool.and_eq_true_iff.mp clean).2

/-- A brace that opens no tag does so in no style of what comes after it. -/
theorem Spelt.opensTag {write : Style → String → List Char} {text : List Char}
    (spelt : Spelt write letters text) (clean : isClean (.char c :: letters) = true) :
    opensTag (c :: text) = false := by
  have shut := (Bool.and_eq_true_iff.mp clean).1
  by_cases brace : c = '\x7b'
  · subst brace
    cases spelt with
    | nil => rfl
    | char rest => simpa [wouldOpen, Template.opensTag] using shut
    | reference style rest => simp [wouldOpen] at shut
  · unfold Template.opensTag
    split
    next same => exact absurd (List.cons.inj same).1 brace
    next => rfl

theorem isRegister_cons (register : isRegister name = true) :
    ∃ c rest, name.toList = c :: rest ∧ isNameStart c = true ∧ rest.all isNameChar = true ∧
      name ∉ reserved := by
  unfold isRegister at register
  split at register
  next => cases register
  next c rest spelt =>
    simp only [Bool.and_eq_true, decide_eq_true_eq] at register
    exact ⟨c, rest, spelt, register.1.1, register.1.2, register.2⟩

theorem isNameChar_of_isNameStart (start : isNameStart c = true) : isNameChar c = true := by
  rw [isNameChar, start, Bool.true_or]

theorem isNameChar_of_mem (register : isRegister name = true) :
    ∀ c ∈ name.toList, isNameChar c = true := by
  obtain ⟨c, rest, spelt, start, parts, _⟩ := isRegister_cons register
  intro d member
  rw [spelt] at member
  rcases List.mem_cons.mp member with rfl | later
  · exact isNameChar_of_isNameStart start
  · exact List.all_eq_true.mp parts d later

theorem withoutDots_of_forall_ne {text : List Char} (none : ∀ c ∈ text, c ≠ '\x7b')
    (rest : List Char) : withoutDots 0 (text ++ rest) = text ++ withoutDots 0 rest := by
  induction text with
  | nil => rfl
  | cons c later ih =>
    have here := none c List.mem_cons_self
    rw [List.cons_append, withoutDots.eq_5 _ _ here, ih fun d member =>
      none d (List.mem_cons_of_mem _ member), List.cons_append]

theorem withoutDots_of_not_opensTag {text : List Char} (shut : opensTag (c :: text) = false) :
    withoutDots 0 (c :: text) = c :: withoutDots 0 text := by
  by_cases brace : c = '\x7b'
  · subst brace
    apply withoutDots.eq_4
    intro inner braces
    rw [braces] at shut
    cases shut
  · exact withoutDots.eq_5 _ _ brace

theorem startsName_of_isRegister (register : isRegister name = true) (rest : List Char) :
    startsName (name.toList ++ rest) = true := by
  obtain ⟨c, tail, spelt, start, _⟩ := isRegister_cons register
  rw [spelt]
  exact start

theorem withoutDots_name (register : isRegister name = true) (closing : List Char)
    (none : ∀ d ∈ closing, d ≠ '\x7b') (rest : List Char) :
    withoutDots 0 (name.toList ++ (closing ++ rest)) =
      name.toList ++ (closing ++ withoutDots 0 rest) := by
  rw [withoutDots_of_forall_ne, withoutDots_of_forall_ne none]
  intro d inside
  exact ne_of_holds (isNameChar_of_mem register d inside) (by decide)

theorem withoutDots_write (register : isRegister name = true) (style : Style) (rest : List Char) :
    withoutDots 0 (style.write name ++ rest) = style.rewrite name ++ withoutDots 0 rest := by
  have tight := withoutDots_name register ['\x7d', '\x7d'] (by simp) rest
  have loose := withoutDots_name register [' ', '\x7d', '\x7d'] (by simp) rest
  simp only [List.cons_append, List.nil_append] at tight loose
  cases style with
  | close =>
    have dot := withoutDots_written ⟨false, [], rfl⟩
      (startsName_of_isRegister register ('\x7d' :: '\x7d' :: rest))
    rw [tight] at dot
    simpa [Style.write, Style.rewrite, dotted, undotted, Opening.written, Opening.rewritten,
      Opening.inner, Opening.mark] using dot
  | wide =>
    have dot := withoutDots_written ⟨false, [' '], rfl⟩
      (startsName_of_isRegister register (' ' :: '\x7d' :: '\x7d' :: rest))
    rw [loose] at dot
    simpa [Style.write, Style.rewrite, spaced, Opening.written, Opening.rewritten, Opening.inner,
      Opening.mark] using dot
  | plain =>
    have start := startsName_of_isRegister register (' ' :: '\x7d' :: '\x7d' :: rest)
    have dotless : dotReference? (' ' :: (name.toList ++ ' ' :: '\x7d' :: '\x7d' :: rest)) =
        none :=
      dotReference?_space ⟨false, [], rfl⟩ start
    have brace (text : List Char) :
        withoutDots 0 ('\x7b' :: ' ' :: text) = '\x7b' :: ' ' :: withoutDots 0 text := rfl
    simp only [Style.write, Style.rewrite, spaced, List.cons_append, List.append_assoc,
      List.nil_append]
    rw [withoutDots.eq_3, dotless]
    simp only [brace, loose]

theorem Spelt.withoutDots {text : List Char} (spelt : Spelt Style.write letters text)
    (clean : isClean letters = true)
    (registers : ∀ name, .reference name ∈ letters → isRegister name = true) :
    Spelt Style.rewrite letters (withoutDots 0 text) := by
  induction spelt with
  | nil => exact .nil
  | char later ih =>
    rw [withoutDots_of_not_opensTag (later.opensTag clean)]
    apply Spelt.char
    exact ih (isClean_tail clean) fun name member => registers name (List.mem_cons_of_mem _ member)
  | reference style later ih =>
    rw [withoutDots_write (registers _ List.mem_cons_self)]
    apply Spelt.reference
    exact ih (isClean_tail clean) fun name member => registers name (List.mem_cons_of_mem _ member)

theorem Spelt.takeText {text : List Char} (spelt : Spelt Style.rewrite letters text)
    (clean : isClean letters = true) :
    ∃ rest, text = lead letters ++ rest ∧ takeText text = (lead letters, rest) ∧
      Spelt Style.rewrite (afterLead letters) rest := by
  induction spelt with
  | nil => exact ⟨[], rfl, rfl, .nil⟩
  | @char c letters text later ih =>
    obtain ⟨rest, cut, taken, left⟩ := ih (isClean_tail clean)
    refine ⟨rest, congrArg (c :: ·) cut, ?_, left⟩
    rw [Template.takeText, later.opensTag clean, taken]
    rfl
  | @reference name letters text style later =>
    refine ⟨style.rewrite name ++ text, rfl, ?_, .reference style later⟩
    cases style <;> rfl

theorem isClean_afterLead (clean : isClean letters = true) :
    isClean (afterLead letters) = true := by
  induction letters with
  | nil => rfl
  | cons letter rest ih =>
    cases letter with
    | char c => exact ih (isClean_tail clean)
    | reference name => exact clean

theorem mem_of_mem_afterLead {letter : Letter} (member : letter ∈ afterLead letters) :
    letter ∈ letters := by
  induction letters with
  | nil => exact member
  | cons other rest ih =>
    cases other with
    | char c => exact List.mem_cons_of_mem _ (ih member)
    | reference name => exact member

theorem spell_afterLead (put : String → List Char) (letters : List Letter) :
    lead letters ++ spell put (afterLead letters) = spell put letters := by
  induction letters with
  | nil => rfl
  | cons letter rest ih =>
    cases letter with
    | char c => rw [lead, afterLead, spell, List.cons_append, ih]
    | reference name => rfl

theorem takeWhile_append_of_stop {α : Type} {p : α → Bool} {text rest : List α}
    (all : ∀ a ∈ text, p a = true) (stop : ∀ a ∈ rest.head?, p a = false) :
    (text ++ rest).takeWhile p = text ∧ (text ++ rest).dropWhile p = rest := by
  rw [List.takeWhile_append_of_pos all, List.dropWhile_append_of_pos all]
  cases rest with
  | nil => simp
  | cons a more => simp [stop a rfl]

theorem tagEnd?_of_isNameStart (start : isNameStart c = true) (rest : List Char) :
    tagEnd? '\x7d' (c :: rest) = none := by
  have part := isNameChar_of_isNameStart start
  have unmarked : trimMark (c :: rest) = (false, c :: rest) := by
    unfold trimMark
    split
    next same => exact absurd (List.cons.inj same).1 (ne_of_holds part (by decide))
    next same => exact absurd (List.cons.inj same).1 (ne_of_holds part (by decide))
    next => rfl
  rw [tagEnd?, unmarked]
  split
  next same =>
    cases same
    exact if_neg (ne_of_holds part (by decide))
  next => rfl

theorem pair?_of_isNameStart (start : isNameStart c = true) (d : Char) : pair? c d = none := by
  have part := isNameChar_of_isNameStart start
  have apart {mark : Char} (other : isNameChar mark = false) (same : c = mark) : False :=
    ne_of_holds part other same
  exact pair?.eq_7 c d (fun same _ => apart (by decide) same) (fun same _ => apart (by decide) same)
    (fun same _ => apart (by decide) same) (fun same _ => apart (by decide) same)
    (fun same _ => apart (by decide) same) fun same _ => apart (by decide) same

theorem token?_name (register : isRegister name = true) (stop : isNameChar c = false)
    (rest : List Char) : token? (name.toList ++ c :: rest) = some (.name name, c :: rest) := by
  obtain ⟨first, tail, spelt, start, parts, _⟩ := isRegister_cons register
  have ends : ∀ d ∈ (c :: rest).head?, isNameChar d = false := by
    rintro _ ⟨⟩
    exact stop
  obtain ⟨taken, left⟩ := takeWhile_append_of_stop (List.all_eq_true.mp parts) ends
  have single : single? first (tail ++ c :: rest) = some (.name name, c :: rest) := by
    rw [single?, if_pos start, taken, left, ← spelt, String.ofList_toList]
  obtain ⟨d, later, more⟩ : ∃ d later, tail ++ c :: rest = d :: later := by
    cases tail <;> exact ⟨_, _, rfl⟩
  rw [spelt, List.cons_append, more, token?, pair?_of_isNameStart start, ← more]
  exact single

theorem tagTokens?_name (register : isRegister name = true) (stop : isNameChar c = false)
    {fuel : Nat} {behind rest : List Char}
    (ends : tagTokens? '\x7d' (fuel + 1) 0 (c :: behind) = some ([], false, rest)) :
    tagTokens? '\x7d' (fuel + 2) 0 (' ' :: (name.toList ++ c :: behind)) =
      some ([.name name], false, rest) := by
  obtain ⟨first, tail, spelt, start, _⟩ := isRegister_cons register
  have solid : isSpace first = false := by
    have part := isNameChar_of_isNameStart start
    have apart {mark : Char} (other : isNameChar mark = false) : first ≠ mark :=
      ne_of_holds part other
    simp only [isSpace, apart (show isNameChar ' ' = false by decide),
      apart (show isNameChar '\t' = false by decide),
      apart (show isNameChar '\n' = false by decide),
      apart (show isNameChar '\r' = false by decide),
      apart (show isNameChar '\x0c' = false by decide), decide_false, Bool.or_self]
  have here : (' ' :: (name.toList ++ c :: behind)).dropWhile isSpace =
      name.toList ++ c :: behind := by
    rw [List.dropWhile_cons_of_pos (by decide), spelt, List.cons_append,
      List.dropWhile_cons_of_neg (by simp [solid])]
  have goesOn : tagEnd? '\x7d' (name.toList ++ c :: behind) = none := by
    rw [spelt]
    exact tagEnd?_of_isNameStart start _
  rw [tagTokens?]
  simp only [here, if_true, goesOn, token?_name register stop]
  rw [show openAfter 0 (.name name) = 0 from rfl, ends]
  rfl

theorem three_le_length_rewrite (style : Style) (name : String) :
    3 ≤ (style.rewrite name).length := by
  cases style <;> simp [Style.rewrite, undotted, spaced]

theorem tagTokens?_rewrite (register : isRegister name = true) (style : Style) (fuel : Nat)
    (rest : List Char) :
    ∃ inner, style.rewrite name ++ rest = '\x7b' :: '\x7b' :: ' ' :: inner ∧
      tagTokens? '\x7d' (fuel + 2) 0 (' ' :: inner) = some ([.name name], false, rest) := by
  have closed : ∃ c behind,
      style.rewrite name ++ rest = '\x7b' :: '\x7b' :: ' ' :: (name.toList ++ c :: behind) ∧
      isNameChar c = false ∧
      tagTokens? '\x7d' (fuel + 1) 0 (c :: behind) = some ([], false, rest) := by
    cases style with
    | close => exact ⟨'\x7d', '\x7d' :: rest, by simp [Style.rewrite, undotted], rfl, rfl⟩
    | wide | plain =>
      exact ⟨' ', '\x7d' :: '\x7d' :: rest, by simp [Style.rewrite, spaced], rfl, rfl⟩
  obtain ⟨c, behind, written, stop, ends⟩ := closed
  exact ⟨name.toList ++ c :: behind, written, tagTokens?_name register stop ends⟩

theorem namedExpression_of_isRegister (register : isRegister name = true) :
    namedExpression name = .name name := by
  obtain ⟨_, _, _, _, _, free⟩ := isRegister_cons register
  unfold namedExpression
  split
  case h_7 => rfl
  all_goals simp [reserved] at free

theorem readOperands?_nil (fuel : Nat) (level : Level) (value : Expression) :
    readOperands? (fuel + 1) level value [] = some (value, []) := by
  have none : operator? level [] = Option.none := by cases level <;> rfl
  rw [readOperands?, none]

/-- On each level a name on its own is what it is on the next one. -/
theorem readLevel?_name {level : Level} {fuel : Nat} {value : Expression} (free : name ≠ "not")
    (proper : level ≠ .unary)
    (below : readLevel? (fuel + 1) level.tighter [.name name] = some (value, [])) :
    readLevel? (fuel + 2) level [.name name] = some (value, []) := by
  have apart (later : List Token) : [Token.name name] ≠ .name "not" :: later := by
    intro same
    exact free (Token.name.inj (List.cons.inj same).1)
  rw [readLevel?.eq_4 _ _ _ proper fun later _ => apart later, below]
  exact readOperands?_nil fuel level value

theorem expression?_name (register : isRegister name = true) :
    expression? [.name name] = some (.name name) := by
  obtain ⟨_, _, _, _, _, unreserved⟩ := isRegister_cons register
  have free : name ≠ "not" := by
    rintro rfl
    simp [reserved] at unreserved
  let read (fuel : Nat) (level : Level) : Prop :=
    readLevel? fuel level [.name name] = some (.name name, [])
  have unary : read 23 .unary := by
    show readLevel? 23 .unary [.name name] = _
    rw [readLevel?, readUnary?, readSigned?.eq_3 _ _ (fun _ same => by cases same), readPrimary?,
      namedExpression_of_isRegister register]
    rfl
  have power : read 24 .power := readLevel?_name free nofun unary
  have product : read 25 .product := readLevel?_name free nofun power
  have join : read 26 .join := readLevel?_name free nofun product
  have sum : read 27 .sum := readLevel?_name free nofun join
  have comparison : read 28 .comparison := readLevel?_name free nofun sum
  have negation : read 29 .not := readLevel?_name free nofun comparison
  have both : read 30 .both := readLevel?_name free nofun negation
  have either : read 31 .either := readLevel?_name free nofun both
  have whole : readExpression? 32 [.name name] = some (.name name, []) := by
    rw [readExpression?, show readLevel? 31 .either [.name name] = _ from either]
    rfl
  rw [expression?, show leading? [.name name] = _ from whole]

inductive Cut : List Letter → List Piece → Prop where
  | last {letters : List Letter} : afterLead letters = [] → Cut letters [.text (lead letters)]
  | tag {letters rest : List Letter} {name : String} {pieces : List Piece} :
      afterLead letters = .reference name :: rest → isRegister name = true → Cut rest pieces →
        Cut letters (.text (lead letters) :: .output [.name name] :: pieces)

theorem afterLead_cases (letters : List Letter) :
    afterLead letters = [] ∨ ∃ name rest, afterLead letters = .reference name :: rest := by
  induction letters with
  | nil => exact .inl rfl
  | cons letter rest ih =>
    cases letter with
    | char c => exact ih
    | reference name => exact .inr ⟨name, rest, rfl⟩

theorem Spelt.exists_pieces {text : List Char} (spelt : Spelt Style.rewrite letters text)
    (clean : isClean letters = true)
    (registers : ∀ name, .reference name ∈ letters → isRegister name = true) {fuel : Nat}
    (enough : text.length < fuel) :
    ∃ pieces, pieces? fuel false text = some pieces ∧ Cut letters pieces := by
  induction fuel generalizing letters text with
  | zero => omega
  | succ fuel ih =>
    obtain ⟨left, cut, first, behind⟩ := spelt.takeText clean
    rcases afterLead_cases letters with ended | ⟨name, rest, tagged⟩
    · rw [ended] at behind
      cases behind
      refine ⟨[.text (lead letters)], ?_, .last ended⟩
      rw [pieces?, first]
      rfl
    · have inside {letter : Letter} (member : letter ∈ afterLead letters) : letter ∈ letters :=
        mem_of_mem_afterLead member
      have cleaner := isClean_afterLead clean
      rw [tagged] at inside cleaner behind
      have register := registers name (inside List.mem_cons_self)
      cases behind with
      | @reference _ _ after style later =>
        have shorter := congrArg List.length cut
        have wide := three_le_length_rewrite style name
        simp only [List.length_append] at shorter
        obtain ⟨pieces, read, cutUp⟩ := ih later (isClean_tail cleaner)
          (fun other member => registers other (inside (List.mem_cons_of_mem _ member))) (by omega)
        obtain ⟨more, few⟩ : ∃ more, fuel = more + 2 := ⟨fuel - 2, by omega⟩
        obtain ⟨inner, written, tag⟩ := tagTokens?_rewrite register style more after
        rw [← few] at tag
        refine ⟨_, ?_, .tag tagged register cutUp⟩
        have unmarked : trimMark (' ' :: inner) = (false, ' ' :: inner) := rfl
        simp only [pieces?, first, written, unmarked, Char.reduceEq, if_false, tag,
          Option.bind_eq_bind, Option.bind_some, read]
        rfl

theorem Cut.readBody? {pieces : List Piece} (cut : Cut letters pieces) {fuel : Nat}
    (enough : pieces.length < fuel) :
    ∃ nodes, Template.readBody? fuel pieces = some ⟨nodes, [], []⟩ ∧
      ∀ memory : Registers, renderNodes? ⟨[.empty], memory⟩ nodes =
        some (String.ofList (spell (fun name => (memory.read name).toList) letters),
          ⟨[.empty], memory⟩) := by
  induction cut generalizing fuel with
  | @last letters ended =>
    obtain ⟨fuel, rfl⟩ : ∃ less, fuel = less + 2 := ⟨fuel - 2, by simp at enough; omega⟩
    refine ⟨[.text (lead letters)], rfl, fun memory => ?_⟩
    have all := spell_afterLead (fun name => (memory.read name).toList) letters
    rw [ended, spell, List.append_nil] at all
    rw [← all]
    simp [renderNodes?, renderNode?]
  | @tag letters rest name pieces tagged register _ ih =>
    simp only [List.length_cons] at enough
    obtain ⟨fuel, rfl⟩ : ∃ less, fuel = less + 2 := ⟨fuel - 2, by omega⟩
    obtain ⟨nodes, read, rendered⟩ := @ih fuel (by omega)
    refine ⟨.text (lead letters) :: .output (.name name) :: nodes, ?_, fun memory => ?_⟩
    · simp only [Template.readBody?, expression?_name register, read]
      rfl
    · have found : Scope.find ⟨[.empty], memory⟩ name =
          (memory.get? name).elim .undefined .text := rfl
      have shown : ((memory.get? name).elim Value.undefined Value.text).print =
          memory.read name := by
        rw [TextMap.read]
        cases memory.get? name <;> rfl
      have all := spell_afterLead (fun name => (memory.read name).toList) letters
      rw [tagged, spell] at all
      rw [← all]
      simp only [renderNodes?, renderNode?, evaluate?, found, Option.map_some, shown, rendered,
        String.ofList_append, String.ofList_toList]

/-- To render a template without other tags is to put registers into the places of its references,
in whatever style they are written. -/
theorem Spelt.render? {text : List Char} (spelt : Spelt Style.write letters text)
    (clean : isClean letters = true)
    (registers : ∀ name, .reference name ∈ letters → isRegister name = true)
    (memory : Registers) :
    render? (String.ofList text) memory =
      some (String.ofList (spell (fun name => (memory.read name).toList) letters)) := by
  obtain ⟨pieces, cutUp, cut⟩ :=
    (spelt.withoutDots clean registers).exists_pieces clean registers (Nat.lt_succ_self _)
  have few : pieces.length < 2 * pieces.length + 2 := by omega
  obtain ⟨nodes, read, rendered⟩ := cut.readBody? few
  have parsed : parse? (Template.withoutDots 0 text) = some nodes := by
    rw [parse?, Template.pieces, cutUp]
    simp only [Option.bind_eq_bind, Option.bind_some, read]
    rfl
  rw [Template.render?, String.toList_ofList, parsed]
  simp only [rendered, Option.map_some]

theorem spelt_dotted (letters : List Letter) :
    Spelt Style.write letters (spell dotted letters) := by
  induction letters with
  | nil => exact .nil
  | cons letter rest ih =>
    cases letter with
    | char c => exact .char ih
    | reference name => exact .reference .close ih

theorem render?_source (clean : isClean letters = true)
    (registers : ∀ name, .reference name ∈ letters → isRegister name = true)
    (memory : Registers) :
    render? (source letters) memory =
      some (String.ofList (spell (fun name => (memory.read name).toList) letters)) :=
  (spelt_dotted letters).render? clean registers memory

end Rendering

end Parley.Template
