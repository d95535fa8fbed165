import Parley.Text.Blank
/-!
References to registers with a leading dot.

A template may write `{{.NAME}}` for `{{ NAME }}`. The dot goes, and so do the blanks before it; a
mark that trims the text before the tag stays.
-/

namespace Parley.Template

def isNameStart (c : Char) : Bool :=
  ('a' ≤ c && c ≤ 'z') || ('A' ≤ c && c ≤ 'Z') || c = '_'

def afterDot? (text : List Char) : Option (List Char) :=
  match text.dropWhile Text.isBlank with
  | '.' :: c :: rest => if isNameStart c then some (c :: rest) else none
  | _ => none

/-- The mark after an opening, and the text from the name on. -/
def dotReference? : List Char → Option (List Char × List Char)
  | '-' :: rest => (afterDot? rest).map fun name => (['-'], name)
  | text => (afterDot? text).map fun name => ([], name)

/-- Copies a text without the dots of its references. So many characters at its front have been
taken care of. -/
def withoutDots : Nat → List Char → List Char
  | _, [] => []
  | done + 1, _ :: rest => withoutDots done rest
  | 0, '\x7b' :: rest =>
    match rest with
    | '\x7b' :: inner =>
      match dotReference? inner with
      | some (mark, name) =>
        '\x7b' :: '\x7b' :: (mark ++ ' ' :: withoutDots (rest.length - name.length) rest)
      | none => '\x7b' :: withoutDots 0 rest
    | _ => '\x7b' :: withoutDots 0 rest
  | 0, c :: rest => c :: withoutDots 0 rest

def normalize (source : String) : String := String.ofList (withoutDots 0 source.toList)

theorem withoutDots_skip (done : Nat) (text : List Char) :
    withoutDots done text = withoutDots 0 (text.drop done) := by
  induction done generalizing text with
  | zero => rfl
  | succ done ih =>
    cases text with
    | nil => simp [withoutDots]
    | cons c rest => simpa [withoutDots] using ih rest

end Parley.Template
