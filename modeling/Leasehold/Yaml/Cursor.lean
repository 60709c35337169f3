import Leasehold.Text.Hex

/-!
# A place in a YAML text

Indentation decides how a YAML text is read, so the reader keeps the line and the column of the next
character. This module also reads what lies between and inside words: runs of blanks and line
breaks, words without quotes, and words in single or double quotes. Where a word runs over several
lines, one line break becomes a space and further ones are kept.
-/
namespace Leasehold.Yaml

/-- A place in a text. -/
structure Cursor where
  /-- The characters that have not been read. -/
  rest : List Char
  /-- The number of line breaks before the place. -/
  line : Nat
  /-- The number of characters before the place on its line. -/
  column : Nat
  /-- The number of characters before the place. -/
  offset : Nat

/-- A space or a tab. -/
def isSpace (c : Char) : Bool := c = ' ' || c = '\t'

/-- A character that ends a line. -/
def isBreak (c : Char) : Bool := c = '\n' || c = '\r'

/-- A character that marks the structure of a collection in brackets. Inside brackets it ends a bare
word, and a colon in front of it ends a key. -/
def isFlowMark (c : Char) : Bool :=
  c = ',' || c = '[' || c = ']' || c = '\x7b' || c = '\x7d'

namespace Cursor

/-- The start of a text. -/
def start (text : List Char) : Cursor := ⟨text, 0, 0, 0⟩

/-- The place after the next character. -/
def skip (cursor : Cursor) : Cursor :=
  match cursor.rest with
  | [] => cursor
  | '\n' :: rest => ⟨rest, cursor.line + 1, 0, cursor.offset + 1⟩
  | _ :: rest => ⟨rest, cursor.line, cursor.column + 1, cursor.offset + 1⟩

/-- The place after the next characters. -/
def skipMany : Nat → Cursor → Cursor
  | 0, cursor => cursor
  | count + 1, cursor => skipMany count cursor.skip

/-- The place after the next line break, of which a pair counts as one. -/
def skipBreak (cursor : Cursor) : Cursor :=
  match cursor.rest with
  | '\r' :: '\n' :: _ => cursor.skip.skip
  | _ => cursor.skip

/-- The next character is a blank or a line break, or the text is at its end. -/
def atGap (rest : List Char) : Bool :=
  match rest with
  | [] => true
  | c :: _ => isSpace c || isBreak c

/-- The next line is a line of three marks, which starts or ends a document. -/
def atMarker (mark : Char) (cursor : Cursor) : Bool :=
  match cursor.rest with
  | a :: b :: c :: rest => cursor.column = 0 && a = mark && b = mark && c = mark && atGap rest
  | _ => false

/-- The next line starts or ends a document. -/
def atBoundary (cursor : Cursor) : Bool := cursor.atMarker '-' || cursor.atMarker '.'

/-- A run of blanks and line breaks. -/
structure Gap where
  /-- The blanks before the first line break. -/
  spaces : List Char
  /-- The number of line breaks. -/
  breaks : Nat
  /-- The place after the run. -/
  after : Cursor

/-- Read a run of blanks and line breaks. After a line break, a tab to the left of the least column
is refused. -/
def gap? (least : Int) : Nat → List Char → Nat → Cursor → Option Gap
  | 0, _, _, _ => none
  | fuel + 1, spaces, breaks, cursor =>
    match cursor.rest with
    | [] => some ⟨spaces.reverse, breaks, cursor⟩
    | c :: _ =>
      if isSpace c then
        if breaks > 0 && c = '\t' && cursor.column < least then none
        else gap? least fuel (if breaks > 0 then spaces else c :: spaces) breaks cursor.skip
      else if isBreak c then gap? least fuel spaces (breaks + 1) cursor.skipBreak
      else some ⟨spaces.reverse, breaks, cursor⟩

/-- What a run of blanks inside a word stands for. -/
def Gap.folded (gap : Gap) : List Char :=
  match gap.breaks with
  | 0 => gap.spaces
  | 1 => [' ']
  | more + 2 => List.replicate (more + 1) '\n'

/-- Read the characters of a bare word up to the next gap or mark. -/
def bareRun (inFlow : Bool) : Nat → List Char → Cursor → List Char × Cursor
  | 0, sofar, cursor => (sofar, cursor)
  | fuel + 1, sofar, cursor =>
    match cursor.rest with
    | [] => (sofar, cursor)
    | c :: rest =>
      if isSpace c || isBreak c then (sofar, cursor)
      else if c = ':' && (atGap rest || (inFlow && rest.head?.any isFlowMark)) then (sofar, cursor)
      else if inFlow && isFlowMark c then (sofar, cursor)
      else bareRun inFlow fuel (c :: sofar) cursor.skip

/-- A word and the place after it. -/
structure Word where
  /-- The characters of the word. -/
  chars : List Char
  /-- A line break was read after the last character of the word. -/
  endsLine : Bool
  /-- The place after the word and the blanks that follow it. -/
  after : Cursor

/-- Read a bare word. The characters read so far come last first, and `between` is the gap after
them. A word goes on over lines that are indented enough. -/
def bareFrom? (inFlow : Bool) (least : Int) :
    Nat → List Char → Option Gap → Cursor → Option Word
  | 0, _, _, _ => none
  | fuel + 1, sofar, between, cursor =>
    let stopped : Word := ⟨sofar.reverse, between.any (·.breaks > 0), cursor⟩
    if cursor.atBoundary || cursor.rest.head? = some '#' then some stopped
    else
      let (run, next) := bareRun inFlow fuel [] cursor
      if run.isEmpty && !(next.rest.head?.any fun c => isSpace c || isBreak c) then some stopped
      else
        let joined := run ++ ((between.map Gap.folded).getD []).reverse ++ sofar
        let sofar := if run.isEmpty then sofar else joined
        if !(next.rest.head?.any fun c => isSpace c || isBreak c) then
          some ⟨sofar.reverse, false, next⟩
        else do
          let gap ← gap? least (fuel + 1) [] 0 next
          if !inFlow && gap.after.column < least then
            some ⟨sofar.reverse, gap.breaks > 0, gap.after⟩
          else bareFrom? inFlow least fuel sofar (some gap) gap.after

/-- Read a bare word. -/
def bare? (inFlow : Bool) (least : Int) (cursor : Cursor) : Option Word :=
  bareFrom? inFlow least (cursor.rest.length + 2) [] none cursor

/-- The character behind an escape that is one letter. -/
def shortEscape? : Char → Option Char
  | '0' => some '\x00'
  | 'a' => some '\x07'
  | 'b' => some '\x08'
  | 't' => some '\t'
  | '\t' => some '\t'
  | 'n' => some '\n'
  | 'v' => some '\x0b'
  | 'f' => some '\x0c'
  | 'r' => some '\r'
  | 'e' => some '\x1b'
  | ' ' => some ' '
  | '"' => some '"'
  | '\'' => some '\''
  | '\\' => some '\\'
  | 'N' => some (Char.ofNat 0x85)
  | '_' => some (Char.ofNat 0xa0)
  | 'L' => some (Char.ofNat 0x2028)
  | 'P' => some (Char.ofNat 0x2029)
  | _ => none

/-- The number of digits behind an escape by number. -/
def escapeWidth? : Char → Option Nat
  | 'x' => some 2
  | 'u' => some 4
  | 'U' => some 8
  | _ => none

/-- The character with the code point that the digits write. -/
def codePoint? (digits : List Char) : Option Char := do
  let code ← digits.foldl (fun total c => do
    let total ← total
    let digit ← Text.Hex.value? c.toNat
    some (16 * total + digit)) (some 0)
  if code.isValidChar then some (Char.ofNat code) else none

/-- Read the rest of a word in quotes, up to and including its closing quote. The characters read so
far come last first. -/
def quotedFrom? (single : Bool) : Nat → List Char → Cursor → Option (List Char × Cursor)
  | 0, _, _ => none
  | fuel + 1, sofar, cursor =>
    if cursor.atBoundary then none
    else
      match cursor.rest with
      | [] => none
      | '\'' :: rest =>
        if !single then quotedFrom? single fuel ('\'' :: sofar) cursor.skip
        else if rest.head? = some '\'' then quotedFrom? single fuel ('\'' :: sofar) cursor.skip.skip
        else some (sofar.reverse, cursor.skip)
      | '"' :: _ =>
        if single then quotedFrom? single fuel ('"' :: sofar) cursor.skip
        else some (sofar.reverse, cursor.skip)
      | '\\' :: rest =>
        if single then quotedFrom? single fuel ('\\' :: sofar) cursor.skip
        else
          match rest with
          | [] => none
          | c :: digits =>
            if isBreak c then do
              let gap ← gap? 0 (fuel + 1) [] 0 cursor.skip.skipBreak
              quotedFrom? single fuel (List.replicate gap.breaks '\n' ++ sofar) gap.after
            else
              match escapeWidth? c with
              | some width =>
                if digits.length < width then none
                else do
                  let found ← codePoint? (digits.take width)
                  quotedFrom? single fuel (found :: sofar) (cursor.skipMany (width + 2))
              | none => do
                let found ← shortEscape? c
                quotedFrom? single fuel (found :: sofar) cursor.skip.skip
      | c :: _ =>
        if isSpace c || isBreak c then do
          let gap ← gap? 0 (fuel + 1) [] 0 cursor
          quotedFrom? single fuel (gap.folded.reverse ++ sofar) gap.after
        else quotedFrom? single fuel (c :: sofar) cursor.skip

/-- Read a word whose opening quote is the next character. -/
def quoted? (single : Bool) (cursor : Cursor) : Option (List Char × Cursor) :=
  quotedFrom? single (cursor.rest.length + 1) [] cursor.skip

end Cursor

end Leasehold.Yaml
