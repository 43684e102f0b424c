import Storyboard.Expression.Literal

/-!
# Formatted texts

A formatted text is made of plain pieces and of expressions between braces.  A doubled brace stands
for itself.  Behind an expression there may be an equals sign, a conversion and a format; a format
may hold expressions again, but no deeper ones.
-/

namespace Storyboard
namespace Expression
namespace Formatted

/-! ## Plain pieces -/

/-- What ends a plain piece in front of some text. -/
inductive PieceEnd where
  /-- A brace at the start of what follows, or the end of the text. -/
  | atBrace
  /-- A doubled brace, which belongs to the piece. -/
  | doubled
deriving DecidableEq, Repr

/-- A plain piece at the start of a formatted text. -/
structure Piece where
  text : List Char
  ending : PieceEnd
  rest : List Char
deriving DecidableEq, Repr

def Piece.behind (text : List Char) (piece : Piece) : Piece :=
  { piece with text := text ++ piece.text }

/-- The piece that ends at a brace.  Inside of a format every brace counts for itself. -/
def pieceAtBrace (inFormat : Bool) (brace : Char) (rest : List Char) : Except FormatFault Piece :=
  if inFormat then .ok ⟨[], .atBrace, brace :: rest⟩
  else if rest.head? = some brace then .ok ⟨[brace], .doubled, rest.drop 1⟩
  else if brace = '}' then .error .singleBrace
  else .ok ⟨[], .atBrace, brace :: rest⟩

/-- The plain piece at the start of a text, which may start inside of the name of a character. -/
def piece (isRaw inFormat inName : Bool) : List Char → Except FormatFault Piece
  | [] => .ok ⟨[], .atBrace, []⟩
  | '\\' :: 'N' :: c :: rest =>
      if inName || isRaw then
        (piece isRaw inFormat inName ('N' :: c :: rest)).map (·.behind ['\\'])
      else (piece isRaw inFormat (c = '{') rest).map (·.behind ['\\', 'N', c])
  | '\\' :: c :: rest =>
      if inName || isRaw then (piece isRaw inFormat inName (c :: rest)).map (·.behind ['\\'])
      else if c = '{' ∨ c = '}' then (pieceAtBrace inFormat c rest).map (·.behind ['\\'])
      else (piece isRaw inFormat false rest).map (·.behind ['\\', c])
  | c :: rest =>
      if inName then (piece isRaw inFormat (c ≠ '}') rest).map (·.behind [c])
      else if c = '{' ∨ c = '}' then pieceAtBrace inFormat c rest
      else (piece isRaw inFormat false rest).map (·.behind [c])

/-! ## Expressions -/

/-- Whether two characters are a comparison, and end no expression. -/
def isComparison (first second : Char) : Bool :=
  second = '=' && (first = '!' || first = '=' || first = '<' || first = '>')

/-- An expression with a character in front, and what follows it. -/
def putFront (c : Char) (parts : List Char × List Char) : List Char × List Char :=
  (c :: parts.1, parts.2)

/--
The expression at the start of a text, and what follows it.  The first `skipped` characters belong
to a sign that was read.  There may be an open text with its quote, or three of them, and there may
be open brackets.
-/
def expression (skipped : Nat) (quote : Option (Char × Bool)) (brackets : List Char) :
    List Char → Except FormatFault (List Char × List Char)
  | [] =>
      match quote, brackets with
      | some _, _ => .error .openText
      | none, bracket :: _ => .error (.unmatched bracket)
      | none, [] => .ok ([], [])
  | c :: rest =>
      match skipped with
      | skipped + 1 => (expression skipped quote brackets rest).map (putFront c)
      | 0 =>
        if c = '\\' then .error .backslash
        else
          match quote with
          | some (opening, isLong) =>
              if c ≠ opening then (expression 0 quote brackets rest).map (putFront c)
              else if !isLong then (expression 0 none brackets rest).map (putFront c)
              else if [c, c].isPrefixOf rest then
                (expression 2 none brackets rest).map (putFront c)
              else (expression 0 quote brackets rest).map (putFront c)
          | none =>
              if c = '\'' ∨ c = '"' then
                let isLong := [c, c].isPrefixOf rest
                (expression (if isLong then 2 else 0) (some (c, isLong)) brackets rest).map
                  (putFront c)
              else if (closing? c).isSome then
                if maxBrackets ≤ brackets.length then .error .tooManyBrackets
                else (expression 0 none (c :: brackets) rest).map (putFront c)
              else if c = '#' then .error .comment
              else if brackets.isEmpty && rest.head?.any (isComparison c) then
                (expression 1 none brackets rest).map (putFront c)
              else if brackets.isEmpty && (c = '!' || c = ':' || c = '}' || c = '=') then
                .ok ([], c :: rest)
              else if isClosing c then
                match brackets with
                | [] => .error (.unmatched c)
                | bracket :: outer =>
                    if closing? bracket = some c then
                      (expression 0 none outer rest).map (putFront c)
                    else .error (.mismatched c bracket)
              else (expression 0 none brackets rest).map (putFront c)

def isBlank (c : Char) : Bool :=
  c = ' ' || c = '\t' || c = '\n' || c = '\x0c'

/-! ## Reading -/

/-- How the expressions of a formatted text are read, and how faults are reported. -/
structure Reader where
  /-- Reads the text of an expression that starts on some line. -/
  read : Nat → List Char → Except Fault Unit
  report : Fault → Fault
  isRaw : Bool

def Reader.lift {α : Type} (reader : Reader) : Except FormatFault α → Except Fault α
  | .ok a => .ok a
  | .error fault => .error (reader.report (.format fault))

def Reader.needMore (reader : Reader) (rest : List Char) : Except Fault Unit :=
  reader.lift (if rest.isEmpty then .error .braceMissing else .ok ())

def Reader.readExpression (reader : Reader) (line : Nat) (text rest : List Char) :
    Except Fault Unit :=
  if text.all isBlank then
    let fault := match rest.head? with
      | some '}' | none => FormatFault.nothingIn
      | some c => .nothingBefore c
    reader.lift (.error fault)
  else reader.read line ('(' :: text ++ [')', '\n'])

def Reader.readEquals (reader : Reader) : List Char → Except Fault (List Char)
  | '=' :: rest => do
      let rest := rest.dropWhile fun c => c.isWhitespace || c = '\x0b' || c = '\x0c'
      reader.needMore rest
      return rest
  | rest => .ok rest

def conversions : List Char :=
  ['s', 'r', 'a']

def Reader.readConversion (reader : Reader) : List Char → Except Fault (List Char)
  | '!' :: rest => do
      reader.needMore rest
      match rest with
      | c :: rest => do
          reader.lift (if c ∈ conversions then .ok () else .error .conversion)
          reader.needMore rest
          return rest
      | [] => return []
  | rest => .ok rest

/-- Reads an escape, if there is any, in a plain piece. -/
def Reader.readPiece (reader : Reader) (text : List Char) : Except Fault Unit :=
  if reader.isRaw then .ok ()
  else
    match escapeFault? 0 text with
    | some fault => .error (reader.report (.literal fault))
    | none => .ok ()

/--
Reads a formatted text, or a format at some depth, from a line on: the line where it ends, and what
follows.  Every step reads at least one character.
-/
def Reader.readFrom (reader : Reader) (steps depth line : Nat) (cs : List Char) :
    Except Fault (Nat × List Char) :=
  match steps with
  | 0 => .ok (line, cs)
  | steps + 1 => do
      let piece ← reader.lift (piece reader.isRaw (depth ≠ 0) false cs)
      reader.readPiece piece.text
      let line := line + piece.text.count '\n'
      if piece.ending = .doubled then reader.readFrom steps depth line piece.rest
      else
        match piece.rest with
        | '{' :: cs => do
            reader.lift (if 2 ≤ depth then .error .tooDeep else .ok ())
            let (text, rest) ← reader.lift (expression 0 none [] cs)
            reader.needMore rest
            reader.readExpression line text rest
            let line := line + text.count '\n'
            let converted ← reader.readConversion (← reader.readEquals rest)
            let line := line + (rest.take (rest.length - converted.length)).count '\n'
            let (line, rest) ← match converted with
              | ':' :: format => do
                  reader.needMore format
                  reader.readFrom steps (depth + 1) line format
              | rest => pure (line, rest)
            match rest with
            | '}' :: rest => reader.readFrom steps depth line rest
            | _ => reader.lift (.error .braceMissing)
        | rest => do
            if depth ≠ 0 then reader.needMore rest
            return (line, rest)

/-- What is wrong with a formatted text, if anything is. -/
def Reader.readText (reader : Reader) (literal : TextLiteral) : Except Fault Unit := do
  let _ ← reader.readFrom (literal.body.length + 1) 0 literal.line literal.body

end Formatted
end Expression
end Storyboard
