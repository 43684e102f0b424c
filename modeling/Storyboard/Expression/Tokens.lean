import Storyboard.Expression.Token

/-!
# Reading tokens

Lines are indented or not, unless a bracket is open or nothing but a comment stands on them.  A
backslash at the end of a line joins it with the next one.
-/

namespace Storyboard
namespace Expression

structure Place where
  line : Nat
  /-- The open brackets with their lines, the innermost one first. -/
  brackets : List (Char × Nat)
  /-- The columns of the lines that are indented further and further, the last one first. -/
  indents : List (Nat × Nat)

namespace Place

def start (line : Nat) : Place :=
  ⟨line, [], []⟩

def advance (place : Place) (lines : Nat) : Place :=
  { place with line := place.line + lines }

def token (place : Place) (kind : TokenKind) (seesEnd : Bool) : Token :=
  ⟨kind, place.line, place.brackets.length, seesEnd⟩

/-- No more tokens because of a fault that counts in any case. -/
def refuse (place : Place) (fault : TokenFault) : Tokens :=
  ⟨[], some ⟨fault, true, place.brackets.head?⟩⟩

/-- No more tokens because of a fault that counts only if a token is missed. -/
def halt (place : Place) (fault : TokenFault) : Tokens :=
  ⟨[], some ⟨fault, false, place.brackets.head?⟩⟩

/-- No more tokens because the text ends too early. -/
def haltAtEnd (place : Place) : Tokens :=
  match place.brackets with
  | (bracket, _) :: _ => place.halt (.neverClosed bracket)
  | [] => place.halt .endOfText

end Place

def Tokens.cons (token : Token) (tokens : Tokens) : Tokens :=
  { tokens with list := token :: tokens.list }

/-- Opens or closes a bracket, if a character is one. -/
def Place.bracket (place : Place) (c : Char) : Except TokenFault Place :=
  if (closing? c).isSome then
    if maxBrackets ≤ place.brackets.length then .error .tooManyBrackets
    else .ok { place with brackets := (c, place.line) :: place.brackets }
  else if isClosing c then
    match place.brackets with
    | [] => .error (.unmatched c)
    | (bracket, line) :: rest =>
        if closing? bracket = some c then .ok { place with brackets := rest }
        else .error (.mismatched c bracket (if line = place.line then none else some line))
  else .ok place

/-! ## Lines -/

def tabStop : Nat := 8

structure Indentation where
  column : Nat
  /-- The column if a tab is as wide as a blank. -/
  narrow : Nat
  /-- The column in front of the first backslash that joined lines, or zero. -/
  joined : Nat
  /-- The lines that were joined. -/
  lines : Nat

/-- The blanks at the start of a line, and what follows; nothing if the text ends too early. -/
def Indentation.read (i : Indentation) :
    List Char → Except TokenFault (Indentation × List Char)
  | ' ' :: rest => read { i with column := i.column + 1, narrow := i.narrow + 1 } rest
  | '\t' :: rest =>
      read { i with column := (i.column / tabStop + 1) * tabStop, narrow := i.narrow + 1 } rest
  | '\x0c' :: rest => read { i with column := 0, narrow := 0 } rest
  | '\\' :: '\n' :: [] => .error .endOfText
  | '\\' :: '\n' :: rest =>
      let joined := if i.joined = 0 then i.column else i.joined
      read { i with joined := joined, lines := i.lines + 1 } rest
  | '\\' :: _ => .error .continuation
  | rest => .ok (i, rest)

def Indentation.columns (i : Indentation) : Nat × Nat :=
  if i.joined = 0 then (i.column, i.narrow) else (i.joined, i.joined)

/-- The indented lines that a line with some columns ends or starts; nothing if it is uneven. -/
def indented? (indents : List (Nat × Nat)) (columns : Nat × Nat) : Option (List (Nat × Nat)) :=
  let outer := indents.dropWhile fun indent => columns.1 < indent.1
  let last := outer.headD (0, 0)
  if columns = last then some outer
  else if outer.length = indents.length ∧ last.1 < columns.1 ∧ last.2 < columns.2 then
    some (columns :: outer)
  else none

/-! ## Reading -/

/--
The tokens of a text from a place on.  A line may start there, or a line may be blank.  Every step
reads at least one character.
-/
def tokensFrom (steps : Nat) (place : Place) (atStart isBlank : Bool) (cs : List Char) : Tokens :=
  match steps with
  | 0 => ⟨[], none⟩
  | steps + 1 =>
    if atStart then
      match Indentation.read ⟨0, 0, 0, 0⟩ cs with
      | .error .endOfText => place.haltAtEnd
      | .error fault => place.halt fault
      | .ok (indentation, rest) =>
          let place := place.advance indentation.lines
          let isBlank := rest.head? = some '#' || rest.head? = some '\n'
          if isBlank || !place.brackets.isEmpty then tokensFrom steps place false isBlank rest
          else
            match indented? place.indents indentation.columns with
            | none => place.halt .unevenIndent
            | some indents =>
                let tokens := tokensFrom steps { place with indents := indents } false false rest
                if place.indents.length < indents.length then
                  tokens.cons (place.token .indent false)
                else tokens
    else
      match cs with
      | [] => if place.brackets.isEmpty then ⟨[place.token .finish true], none⟩ else place.haltAtEnd
      | c :: rest =>
        let word := if c.isDigit then [] else cs.takeWhile mayBeInName
        match readText place.line word (cs.drop word.length) with
        | some (.error fault) => place.refuse fault
        | some (.ok (literal, rest)) =>
            (tokensFrom steps (place.advance (literal.body.count '\n')) false false rest).cons
              (place.token (.text literal) false)
        | none =>
          if !word.isEmpty then
            let rest := cs.drop word.length
            match ofWord word with
            | .error fault => place.refuse fault
            | .ok kind =>
                (tokensFrom steps place false false rest).cons (place.token kind rest.isEmpty)
          else if c = ' ' ∨ c = '\t' ∨ c = '\x0c' then tokensFrom steps place false isBlank rest
          else if c = '#' then
            tokensFrom steps place false isBlank (rest.dropWhile (· ≠ '\n'))
          else if c = '\n' then
            let tokens := tokensFrom steps (place.advance 1) true false rest
            if isBlank || !place.brackets.isEmpty then tokens
            else tokens.cons (place.token .newline false)
          else if c = '\\' then
            match rest with
            | '\n' :: [] => place.haltAtEnd
            | '\n' :: rest => tokensFrom steps (place.advance 1) false isBlank rest
            | _ => place.halt .continuation
          else if Numeral.startsHere cs then
            match Numeral.read cs with
            | .error fault => place.refuse fault
            | .ok (numeral, rest) =>
                (tokensFrom steps place false false rest).cons
                  (place.token (.numeral numeral) rest.isEmpty)
          else
            let sign := signAt cs
            let rest := cs.drop sign.length
            match place.bracket c with
            | .error fault => place.refuse fault
            | .ok place =>
                if Text.inRanges Text.unprintableRanges c then place.refuse (.character c)
                else
                  (tokensFrom steps place false false rest).cons
                    (place.token (.symbol (String.ofList sign)) (rest.isEmpty && sign.length < 3))

/-- A text with a newline at the end of each line, whatever ends it. -/
def withNewlines : List Char → List Char
  | '\r' :: '\n' :: rest | '\r' :: rest => '\n' :: withNewlines rest
  | c :: rest => c :: withNewlines rest
  | [] => []

def tokensOf (line : Nat) (cs : List Char) : Tokens :=
  if '\x00' ∈ cs then (Place.start line).halt .nullCharacter
  else
    let cs := withNewlines cs
    tokensFrom (2 * cs.length + 2) (Place.start line) true false cs

end Expression
end Storyboard
