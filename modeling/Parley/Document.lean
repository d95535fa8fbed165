import Parley.TextMap
/-!
Structured data before it is known what it describes, in either of the two forms it is written in.

A scalar carries all its readings at once: the word `true` of YAML is a text and a truth value,
the one of JSON is a truth value alone. What a place asks for decides.
-/

namespace Parley

structure Scalar where
  text? : Option String
  truth? : Option Bool
  count? : Option Nat
  /-- Stands for a value that is left out. -/
  isNull : Bool
  /-- Nothing is written, so it does for an empty collection too. -/
  isBlank : Bool

inductive Document where
  | scalar (readings : Scalar)
  | list (items : List Document)
  /-- A name that is no text is `none`. -/
  | record (entries : List (Option String × Document))
  | unreadable

namespace Document

def text? : Document → Option String
  | scalar s => s.text?
  | _ => none

def truth? : Document → Option Bool
  | scalar s => s.truth?
  | _ => none

def count? : Document → Option Nat
  | scalar s => s.count?
  | _ => none

def items? : Document → Option (List Document)
  | list items => some items
  | scalar s => if s.isBlank then some [] else none
  | _ => none

def entries? : Document → Option (List (String × Document))
  | record entries => entries.mapM fun (name, value) => name.map (·, value)
  | scalar s => if s.isBlank then some [] else none
  | _ => none

def texts? (document : Document) : Option (TextMap String) :=
  match document.entries? with
  | some entries =>
    (entries.mapM fun entry => (text? entry.2).map (entry.1, ·)).map TextMap.ofList
  | none => none

/-- An object of the given fields, each as far as it is there. A list gives them in order. A field
that is named twice spoils the object, an unknown one does not matter. -/
def fields? (names : List String) (document : Document) : Option (List (Option Document)) :=
  match document with
  | list items =>
    if items.length ≤ names.length then
      some (items.map some ++ List.replicate (names.length - items.length) none)
    else none
  | other =>
    match other.entries? with
    | none => none
    | some entries =>
      names.mapM fun name =>
        match entries.filter (·.1 = name) with
        | [] => some none
        | [(_, value)] => some (some value)
        | _ => none

def required {α : Type} (read : Document → Option α) : Option Document → Option α
  | some document => read document
  | none => none

def defaulted {α : Type} (read : Document → Option α) (default : α) : Option Document → Option α
  | some document => read document
  | none => some default

/-- A field whose value may be missing, or written as missing. -/
def optional {α : Type} (read : Document → Option α) : Option Document → Option (Option α)
  | some (scalar s) => if s.isNull then some none else (read (scalar s)).map some
  | some document => (read document).map some
  | none => some none

def listOf {α : Type} (read : Document → Option α) (document : Document) : Option (List α) :=
  match document.items? with
  | some items => items.mapM read
  | none => none

/-- A choice among names. It may also be written as an object of the one name with nothing in it. -/
def choice? {α : Type} (named : String → Option α) : Document → Option α
  | scalar s => s.text?.bind named
  | record [(some name, scalar s)] => if s.isNull && s.text?.isNone then named name else none
  | _ => none

end Document
end Parley
