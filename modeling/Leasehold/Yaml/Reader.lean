import Leasehold.Yaml.BareWord
import Leasehold.Yaml.Token

/-!
# Reading YAML

The tokens of a text are built into the one document that the text holds. A value that is left out
is null and may be read as the text `~`; a bare word may be read as text wherever text is wanted;
a word in quotes is a text. A key may itself be a collection.
-/
namespace Leasehold.Yaml

/-- The node for a value that is left out. -/
def missing : Node := .scalar .null (some "~")

/-- The node for a word. -/
def wordNode (bare : Bool) (text : String) : Node :=
  if bare then .scalar (bareWord text) (some text) else Node.ofText text

/-- A container, which has no value when it is nested too deeply. -/
def bounded (room : Nat) (node : Node) : Node := if room = 0 then Node.unreadable else node

/-- The next token leaves the place of a value in a mapping laid out by lines empty. -/
def endsBlockValue : Token → Bool
  | .key | .value | .blockEnd => true
  | _ => false

/-- The next token leaves the place of an item of an unindented sequence empty. -/
def endsLooseItem : Token → Bool
  | .item | .key | .value | .blockEnd => true
  | _ => false

mutual

/-- Build one node from the front of the tokens. `room` is how many levels of containers may still
be opened. Collections laid out by lines are allowed when `block` is set, and a sequence that is not
indented when `loose` is set. -/
def node? : Nat → Nat → Bool → Bool → List Token → Option (Node × List Token)
  | 0, _, _, _, _ => none
  | fuel + 1, room, block, loose, tokens =>
    match tokens with
    | .word bare text :: rest => some (wordNode bare text, rest)
    | .openSequence :: rest =>
      (flowItems? fuel (room - 1) true rest).map fun (items, rest) =>
        (bounded room (.list items), rest)
    | .openMapping :: rest =>
      (flowEntries? fuel (room - 1) true rest).map fun (entries, rest) =>
        (bounded room (.map entries), rest)
    | .item :: _ =>
      if loose then
        (looseItems? fuel (room - 1) tokens).map fun (items, rest) =>
          (bounded room (.list items), rest)
      else none
    | .blockSequence :: rest =>
      if block then
        (blockItems? fuel (room - 1) rest).map fun (items, rest) =>
          (bounded room (.list items), rest)
      else none
    | .blockMapping :: rest =>
      if block then
        (blockEntries? fuel (room - 1) rest).map fun (entries, rest) =>
          (bounded room (.map entries), rest)
      else none
    | _ => none

/-- Build the items of a sequence laid out by lines, up to and including its end. -/
def blockItems? : Nat → Nat → List Token → Option (List Node × List Token)
  | 0, _, _ => none
  | fuel + 1, room, tokens =>
    match tokens with
    | .blockEnd :: rest => some ([], rest)
    | .item :: rest => do
      let (item, rest) ← match rest with
        | .item :: _ | .blockEnd :: _ => some (missing, rest)
        | _ => node? fuel room true false rest
      let (items, rest) ← blockItems? fuel room rest
      some (item :: items, rest)
    | _ => none

/-- Build the items of a sequence that is not indented, up to the first token that is no item. -/
def looseItems? : Nat → Nat → List Token → Option (List Node × List Token)
  | 0, _, _ => none
  | fuel + 1, room, tokens =>
    match tokens with
    | .item :: rest => do
      let (item, rest) ←
        if rest.head?.any endsLooseItem then some (missing, rest)
        else node? fuel room true false rest
      let (items, rest) ← looseItems? fuel room rest
      some (item :: items, rest)
    | _ => some ([], tokens)

/-- Build the entries of a mapping laid out by lines, up to and including its end. -/
def blockEntries? :
    Nat → Nat → List Token → Option (List (Node × Node) × List Token)
  | 0, _, _ => none
  | fuel + 1, room, tokens =>
    match tokens with
    | .blockEnd :: rest => some ([], rest)
    | token :: after => do
      let (key, rest) ← match token with
        | .key =>
          if after.head?.any endsBlockValue then some (missing, after)
          else node? fuel room true true after
        | .value => some (missing, tokens)
        | _ => none
      let (value, rest) ← match rest with
        | .value :: rest =>
          if rest.head?.any endsBlockValue then some (missing, rest)
          else node? fuel room true true rest
        | _ => some (missing, rest)
      let (entries, rest) ← blockEntries? fuel room rest
      some ((key, value) :: entries, rest)
    | [] => none

/-- Build the items of a sequence in brackets, up to and including its end. An item may be a mapping
of one entry without brackets of its own. Where such an entry announces a key and leaves it out, the
mark that ends the place of the key is passed over with it. -/
def flowItems? : Nat → Nat → Bool → List Token → Option (List Node × List Token)
  | 0, _, _, _ => none
  | fuel + 1, room, first, tokens =>
    match if first then some tokens else match tokens with
        | .comma :: rest => some rest
        | .closeSequence :: _ => some tokens
        | _ => none with
    | none => none
    | some (.closeSequence :: rest) => some ([], rest)
    | some (.key :: rest) => do
      let (key, rest) ← match rest with
        | .value :: rest | .comma :: rest | .closeSequence :: rest => some (missing, rest)
        | _ => node? fuel (room - 1) false false rest
      let (value, rest) ← match rest with
        | .value :: .comma :: rest => some (missing, .comma :: rest)
        | .value :: .closeSequence :: rest => some (missing, .closeSequence :: rest)
        | .value :: rest => node? fuel (room - 1) false false rest
        | _ => some (missing, rest)
      let (items, rest) ← flowItems? fuel room false rest
      some (bounded room (.map [(key, value)]) :: items, rest)
    | some rest => do
      let (item, rest) ← node? fuel room false false rest
      let (items, rest) ← flowItems? fuel room false rest
      some (item :: items, rest)

/-- Build the entries of a mapping in brackets, up to and including its end. An entry without a
colon is a key whose value is left out. -/
def flowEntries? :
    Nat → Nat → Bool → List Token → Option (List (Node × Node) × List Token)
  | 0, _, _, _ => none
  | fuel + 1, room, first, tokens =>
    match if first then some tokens else match tokens with
        | .comma :: rest => some rest
        | .closeMapping :: _ => some tokens
        | _ => none with
    | none => none
    | some (.closeMapping :: rest) => some ([], rest)
    | some (.key :: rest) => do
      let (key, rest) ← match rest with
        | .value :: _ | .comma :: _ | .closeMapping :: _ => some (missing, rest)
        | _ => node? fuel room false false rest
      let (value, rest) ← flowValue? fuel room rest
      let (entries, rest) ← flowEntries? fuel room false rest
      some ((key, value) :: entries, rest)
    | some (.value :: rest) => do
      let (value, rest) ← flowValue? fuel room (.value :: rest)
      let (entries, rest) ← flowEntries? fuel room false rest
      some ((missing, value) :: entries, rest)
    | some rest => do
      let (key, rest) ← node? fuel room false false rest
      let (entries, rest) ← flowEntries? fuel room false rest
      some ((key, missing) :: entries, rest)

/-- Build the value of an entry in brackets, which may be left out. -/
def flowValue? : Nat → Nat → List Token → Option (Node × List Token)
  | 0, _, _ => none
  | fuel + 1, room, tokens =>
    match tokens with
    | .value :: .comma :: rest => some (missing, .comma :: rest)
    | .value :: .closeMapping :: rest => some (missing, .closeMapping :: rest)
    | .value :: rest => node? fuel room false false rest
    | _ => some (missing, tokens)

end

/-- The levels of containers that have a value. -/
def maxDepth : Nat := 128

/-- The tokens after the lines that end a document. -/
def skipEnds (tokens : List Token) : List Token := tokens.dropWhile (· = .documentEnd)

/-- Read the document of a text that holds exactly one. -/
def read? (text : List Char) : Option Node := do
  let tokens ← scan? text
  let fuel := 3 * tokens.length + 3
  let (node, rest) ← match tokens with
    | [] => none
    | [.documentStart] => some (missing, [])
    | .documentStart :: .documentEnd :: rest => some (missing, .documentEnd :: rest)
    | .documentStart :: rest => node? fuel maxDepth true false rest
    | _ => node? fuel maxDepth true false tokens
  if (skipEnds rest).isEmpty then some node else none

end Leasehold.Yaml
