import Leasehold.Yaml.Cursor

/-!
# Tokens of a YAML text

A text is cut into words and marks. Indentation becomes marks too: a collection that is laid out by
lines starts where the column moves to the right and ends where it moves back. A word turns out to
be a key only when a colon follows it, so the place at which a key might start is remembered, and
the mark is put in front of the word afterwards; a key stands on one line and is not overly long.
A question mark announces a key that need not keep to that. Anchors, aliases, tags, directives and
block scalars are refused, and brackets are nested at most 255 deep.
-/
namespace Leasehold.Yaml

/-- A word or a mark. -/
inductive Token where
  /-- The first key of a mapping laid out by lines follows. -/
  | blockMapping
  /-- The first item of a sequence laid out by lines follows. -/
  | blockSequence
  /-- A collection laid out by lines ends. -/
  | blockEnd
  /-- An opening square bracket. -/
  | openSequence
  /-- A closing square bracket. -/
  | closeSequence
  /-- An opening curly bracket. -/
  | openMapping
  /-- A closing curly bracket. -/
  | closeMapping
  /-- A dash in front of an item. -/
  | item
  /-- A comma between items in brackets. -/
  | comma
  /-- A key follows. -/
  | key
  /-- A value follows. -/
  | value
  /-- A word, and whether it is bare. -/
  | word (bare : Bool) (text : String)
  /-- The line that starts a document. -/
  | documentStart
  /-- The line that ends a document. -/
  | documentEnd
deriving DecidableEq, Repr

/-- A place at which a key might start. -/
structure KeyPlace where
  /-- Only a key may stand at the place. -/
  required : Bool
  /-- The number of tokens before the place. -/
  index : Nat
  /-- The line of the place. -/
  line : Nat
  /-- The column of the place. -/
  column : Nat
  /-- The number of characters before the place. -/
  offset : Nat

/-- The state of cutting a text into tokens. -/
structure Scanner where
  /-- The place in the text. -/
  cursor : Cursor
  /-- The tokens found, the last first. -/
  tokens : List Token
  /-- The column of the innermost collection laid out by lines. -/
  indent : Int
  /-- The columns of the collections around it. -/
  outer : List Int
  /-- A key may start here. -/
  keyAllowed : Bool
  /-- Where a key might have started, for every level of brackets, the innermost first. -/
  places : List (Option KeyPlace)
  /-- The place behind the last word in quotes, at which a colon needs no blank after it. -/
  adjacent : Nat

namespace Scanner

/-- The state before the first token. -/
def start (text : List Char) : Scanner :=
  ⟨Cursor.start text, [], -1, [], true, [none], 0⟩

/-- The place is inside brackets. -/
def inFlow (scanner : Scanner) : Bool := scanner.places.length > 1

/-- Add a token at the end. -/
def push (scanner : Scanner) (token : Token) : Scanner :=
  { scanner with tokens := token :: scanner.tokens }

/-- Add a token after the first `index` ones. -/
def insert (scanner : Scanner) (index : Nat) (token : Token) : Scanner :=
  let later := scanner.tokens.length - index
  { scanner with tokens := scanner.tokens.take later ++ token :: scanner.tokens.drop later }

/-- Start a collection laid out by lines at a column to the right of the innermost one. -/
def indentTo (scanner : Scanner) (column : Nat) (index : Nat) (token : Token) : Scanner :=
  if scanner.inFlow || (column : Int) ≤ scanner.indent then scanner
  else
    { scanner.insert index token with
      indent := column
      outer := scanner.indent :: scanner.outer }

/-- End the collections laid out by lines whose column is to the right of the given one. -/
def dedentFrom (column : Int) : Int → List Int → List Token → Int × List Int × List Token
  | indent, [], tokens => (indent, [], tokens)
  | indent, next :: outer, tokens =>
    if column < indent then dedentFrom column next outer (.blockEnd :: tokens)
    else (indent, next :: outer, tokens)

/-- End the collections laid out by lines whose column is to the right of the given one. -/
def dedentTo (scanner : Scanner) (column : Int) : Scanner :=
  if scanner.inFlow then scanner
  else
    let (indent, outer, tokens) := dedentFrom column scanner.indent scanner.outer scanner.tokens
    { scanner with indent, outer, tokens }

/-- Forget the place at which a key might have started, which fails where one had to start. -/
def dropPlace? (scanner : Scanner) : Option Scanner :=
  match scanner.places with
  | some place :: rest =>
    if place.required then none else some { scanner with places := none :: rest }
  | _ => some scanner

/-- Remember that a key might start here. Inside brackets, only a key may start in the column of the
collection laid out by lines around them. -/
def markPlace? (scanner : Scanner) : Option Scanner :=
  if scanner.keyAllowed then do
    let cleared ← scanner.dropPlace?
    let cursor := scanner.cursor
    let required := scanner.inFlow && scanner.indent == cursor.column
    let place : KeyPlace :=
      ⟨required, scanner.tokens.length, cursor.line, cursor.column, cursor.offset⟩
    some { cleared with places := some place :: cleared.places.drop 1 }
  else some scanner

/-- The longest distance between the start of a key and its colon. -/
def maxKeyLength : Nat := 1024

/-- Forget a place that lies on an earlier line or too far back, which fails where a key had to
start. -/
def freshPlace? (cursor : Cursor) : Option KeyPlace → Option (Option KeyPlace)
  | none => some none
  | some place =>
    if place.line < cursor.line || place.offset + maxKeyLength < cursor.offset then
      if place.required then none else some none
    else some (some place)

/-- Forget the places at which no key can start any more. -/
def freshen? (scanner : Scanner) : Option Scanner := do
  let places ← scanner.places.mapM (freshPlace? scanner.cursor)
  some { scanner with places }

/-- Skip blanks, line breaks and comments. A line break outside brackets lets a key start. -/
def skipGap : Nat → Scanner → Scanner
  | 0, scanner => scanner
  | fuel + 1, scanner =>
    match scanner.cursor.rest with
    | ' ' :: _ => skipGap fuel { scanner with cursor := scanner.cursor.skip }
    | '\t' :: _ =>
      if scanner.inFlow || !scanner.keyAllowed then
        skipGap fuel { scanner with cursor := scanner.cursor.skip }
      else scanner
    | '#' :: rest =>
      let comment := (rest.takeWhile fun c => !isBreak c).length + 1
      skipGap fuel { scanner with cursor := scanner.cursor.skipMany comment }
    | c :: _ =>
      if isBreak c then
        skipGap fuel
          { scanner with
            cursor := scanner.cursor.skipBreak
            keyAllowed := scanner.keyAllowed || !scanner.inFlow }
      else scanner
    | [] => scanner

/-- The levels of brackets that may be open at once. -/
def maxFlowDepth : Nat := 255

/-- Read an opening bracket. -/
def openFlow? (scanner : Scanner) (token : Token) : Option Scanner := do
  let scanner ← scanner.markPlace?
  if maxFlowDepth < scanner.places.length then none
  else
    some { scanner.push token with
      cursor := scanner.cursor.skip
      keyAllowed := true
      places := none :: scanner.places }

/-- Read a closing bracket. -/
def closeFlow? (scanner : Scanner) (token : Token) : Option Scanner := do
  let scanner ← scanner.dropPlace?
  some { scanner.push token with
    cursor := scanner.cursor.skip
    keyAllowed := false
    places := if scanner.inFlow then scanner.places.drop 1 else scanner.places }

/-- Read a comma. -/
def comma? (scanner : Scanner) : Option Scanner := do
  let scanner ← scanner.dropPlace?
  some { scanner.push .comma with cursor := scanner.cursor.skip, keyAllowed := true }

/-- Read the dash in front of an item. -/
def item? (scanner : Scanner) : Option Scanner :=
  if scanner.inFlow || !scanner.keyAllowed then none
  else do
    let column := scanner.cursor.column
    let scanner ← (scanner.indentTo column scanner.tokens.length .blockSequence).dropPlace?
    some { scanner.push .item with cursor := scanner.cursor.skip, keyAllowed := true }

/-- Read the question mark in front of a key. -/
def announcedKey? (scanner : Scanner) : Option Scanner :=
  if !scanner.inFlow && !scanner.keyAllowed then none
  else do
    let column := scanner.cursor.column
    let scanner ← (scanner.indentTo column scanner.tokens.length .blockMapping).dropPlace?
    some { scanner.push .key with cursor := scanner.cursor.skip, keyAllowed := !scanner.inFlow }

/-- Read the colon behind a key. -/
def value? (scanner : Scanner) : Option Scanner :=
  match scanner.places with
  | some place :: rest =>
    let keyed := (scanner.insert place.index .key).indentTo place.column place.index .blockMapping
    some { keyed.push .value with
      cursor := scanner.cursor.skip
      keyAllowed := false
      places := none :: rest }
  | _ =>
    if scanner.inFlow then
      some { scanner.push .value with cursor := scanner.cursor.skip, keyAllowed := false }
    else if !scanner.keyAllowed then none
    else
      let indented :=
        scanner.indentTo scanner.cursor.column scanner.tokens.length .blockMapping
      some { indented.push .value with cursor := scanner.cursor.skip, keyAllowed := true }

/-- Read a bare word. -/
def bareWord? (scanner : Scanner) : Option Scanner := do
  let scanner ← scanner.markPlace?
  let word ← scanner.cursor.bare? scanner.inFlow (scanner.indent + 1)
  some { scanner.push (.word true (String.ofList word.chars)) with
    cursor := word.after
    keyAllowed := word.endsLine }

/-- Read a word in quotes. -/
def quotedWord? (scanner : Scanner) (single : Bool) : Option Scanner := do
  let scanner ← scanner.markPlace?
  let (chars, after) ← scanner.cursor.quoted? single
  some { scanner.push (.word false (String.ofList chars)) with
    cursor := after
    keyAllowed := false
    adjacent := after.offset }

/-- Read the line that starts or ends a document. -/
def boundary? (scanner : Scanner) (token : Token) : Option Scanner := do
  let scanner ← (scanner.dedentTo (-1)).dropPlace?
  some { scanner.push token with cursor := scanner.cursor.skipMany 3, keyAllowed := false }

/-- A colon at this place is the mark between a key and its value. -/
def atValue (scanner : Scanner) (rest : List Char) : Bool :=
  Cursor.atGap rest ||
    (scanner.inFlow &&
      (rest.head?.any isFlowMark || scanner.cursor.offset = scanner.adjacent))

/-- Read the token that starts with the given character. -/
def dispatch? (scanner : Scanner) (c : Char) (rest : List Char) : Option Scanner :=
  if c = '[' then scanner.openFlow? .openSequence
  else if c = '\x7b' then scanner.openFlow? .openMapping
  else if c = ']' then scanner.closeFlow? .closeSequence
  else if c = '\x7d' then scanner.closeFlow? .closeMapping
  else if c = ',' then scanner.comma?
  else if c = '-' && Cursor.atGap rest then scanner.item?
  else if c = '?' && Cursor.atGap rest then scanner.announcedKey?
  else if c = ':' && scanner.atValue rest then scanner.value?
  else if c = '\'' then scanner.quotedWord? true
  else if c = '"' then scanner.quotedWord? false
  else if c = '*' || c = '&' || c = '!' || c = '%' || c = '@' || c = '\x60' then none
  else if (c = '|' || c = '>') && !scanner.inFlow then none
  else scanner.bareWord?

/-- Read the rest of a text, token by token. -/
def run? : Nat → Scanner → Option Scanner
  | 0, _ => none
  | fuel + 1, scanner => do
    let scanner ← (scanner.skipGap (fuel + 1)).freshen?
    let scanner := scanner.dedentTo scanner.cursor.column
    match scanner.cursor.rest with
    | [] => (scanner.dedentTo (-1)).dropPlace?
    | c :: rest =>
      let next :=
        if scanner.cursor.atMarker '-' then scanner.boundary? .documentStart
        else if scanner.cursor.atMarker '.' then scanner.boundary? .documentEnd
        else scanner.dispatch? c rest
      next.bind (run? fuel)

end Scanner

/-- Cut a text into tokens. A zero character ends the text. -/
def scan? (text : List Char) : Option (List Token) :=
  let text := text.takeWhile (· ≠ '\x00')
  ((Scanner.start text).run? (text.length + 2)).map fun scanner => scanner.tokens.reverse

end Leasehold.Yaml
