/-! # Control sequences -/

namespace RouteDocs.Text
def escape : Char := '\x1b'

def isParameter (c : Char) : Bool := c.isDigit || c == ';' || c == '?'

def sequenceRest? : List Char -> Option Nat
  | '[' :: rest =>
    match rest.dropWhile isParameter with
    | c :: _ => if c.isAlpha then some ((rest.takeWhile isParameter).length + 2) else none
    | [] => none
  | _ => none

/-- Text without its first `skip` characters and without control sequences. -/
def dropSequencesFrom : (skip : Nat) -> List Char -> List Char
  | _, [] => []
  | skip + 1, _ :: rest => dropSequencesFrom skip rest
  | 0, c :: rest =>
    if c = escape then
      match sequenceRest? rest with
      | some length => dropSequencesFrom length rest
      | none => c :: dropSequencesFrom 0 rest
    else c :: dropSequencesFrom 0 rest

def dropSequences (text : List Char) : List Char := dropSequencesFrom 0 text
end RouteDocs.Text
