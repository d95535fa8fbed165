/-!
Coloured text on a terminal.

A text is put between the sequence that turns its look on and the one that turns all looks off. A
text that turns looks off on its way has its own turned on again.
-/

namespace Parley.Console

inductive Paint where
  | red
  | green
  | yellow
  | cyan
  | bold
  | dimmed
  | boldGreen
  | boldRed
  deriving DecidableEq

def Paint.codes : Paint → String
  | red => "31"
  | green => "32"
  | yellow => "33"
  | cyan => "36"
  | bold => "1"
  | dimmed => "2"
  | boldGreen => "1;32"
  | boldRed => "1;31"

def escape : Char := '\x1b'

def plain : List Char := [escape, '[', '0', 'm']

def Paint.start (paint : Paint) : List Char := escape :: '[' :: paint.codes.toList ++ ['m']

def resuming (start : List Char) : List Char → List Char
  | '\x1b' :: '[' :: '0' :: 'm' :: rest => plain ++ start ++ resuming start rest
  | c :: rest => c :: resuming start rest
  | [] => []

def paint (isColored : Bool) (paint : Paint) (text : String) : String :=
  if isColored then String.ofList (paint.start ++ resuming paint.start text.toList ++ plain)
  else text

end Parley.Console
