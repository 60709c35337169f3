/-!
# Arguments of a command line

A command line is a list of words. A flag is given by its long name after two dashes or by one
letter after one dash, and takes a value: the rest of its word, after an equals sign if there is
one, or else the next word. Each flag may be given once. A word that is no flag and no value is a
command, and everything after it belongs to the command.

A value in a word of its own is looked at only when the next flag or the end is reached. So a word
that does not belong on the command line is reported before a value that came earlier and is wrong.
-/
namespace Leasehold

/-- Why a command line is refused. -/
inductive UsageError where
  /-- A word is no known flag, or stands where none is wanted. -/
  | unknown
  /-- A flag has no value. -/
  | missingValue
  /-- A flag has a value that it cannot have. -/
  | badValue
  /-- A flag is given twice. -/
  | repeated
  /-- Something is missing that has to be given. -/
  | incomplete
deriving DecidableEq, Repr

/-- A flag that takes a value. -/
structure Flag (κ : Type) where
  /-- What the value is for. -/
  key : κ
  /-- The long name. -/
  name : String
  /-- The letter. -/
  letter : Option Char
  /-- The flag can have the value. -/
  accepts : String → Bool

/-- What a word of a command line is. -/
inductive Word where
  /-- Two dashes: what follows is neither flag nor command. -/
  | divider
  /-- The long name of a flag, with a value if there is one in the word. -/
  | long (name : String) (value : Option String)
  /-- The letter of a flag, with a value if there is one in the word. -/
  | short (letter : Char) (value : Option String)
  /-- Anything else. -/
  | plain
deriving DecidableEq, Repr

namespace Word

/-- The value behind a letter, after an equals sign if there is one. -/
def attached : List Char → Option String
  | [] => none
  | '=' :: value => some (String.ofList value)
  | value => some (String.ofList value)

/-- What a word is. -/
def ofText (text : String) : Word :=
  match text.toList with
  | ['-', '-'] => .divider
  | '-' :: '-' :: body =>
    let name := body.takeWhile (· ≠ '=')
    .long (String.ofList name) (match body.drop name.length with
      | [] => none
      | _ :: value => some (String.ofList value))
  | ['-'] => .plain
  | '-' :: letter :: value => .short letter (attached value)
  | _ => .plain

/-- The flag that a word names, and the value in it, for a word that has the form of a flag. -/
def flag? {κ : Type} (flags : List (Flag κ)) : Word → Option (Option (Flag κ) × Option String)
  | .long name value => some (flags.find? (·.name == name), value)
  | .short letter value => some (flags.find? (·.letter == some letter), value)
  | .divider | .plain => none

end Word

/-- What a command line says. -/
structure Arguments (κ : Type) where
  /-- The flags with their values, in the order given. -/
  values : List (κ × String)
  /-- The command, and the words after it. -/
  command : Option (String × List String)
deriving DecidableEq, Repr

namespace Arguments

variable {κ : Type} [DecidableEq κ]

/-- The value of a flag. -/
def value? (arguments : Arguments κ) (key : κ) : Option String := arguments.values.lookup key

/-- Take a flag and its value to those found so far. -/
def take (found : List (κ × String)) (flag : Flag κ) (value : Option String) :
    Except UsageError (List (κ × String)) :=
  match value with
  | none => .error .missingValue
  | some value =>
    if (found.lookup flag.key).isSome then .error .repeated
    else if !flag.accepts value then .error .badValue
    else .ok (found ++ [(flag.key, value)])

/-- Take the flag that was left open, with the value that was found for it. -/
def close (found : List (κ × String)) :
    Option (Flag κ × Option String) → Except UsageError (List (κ × String))
  | none => .ok found
  | some (flag, value) => take found flag value

/-- The flag that waits for a value. -/
def waiting : Option (Flag κ × Option String) → Option (Flag κ)
  | some (flag, none) => some flag
  | _ => none

/-- Read words one after another, given the flags found so far and the one that was left open. -/
def readFrom (flags : List (Flag κ)) (commands : List String) (found : List (κ × String))
    (opened : Option (Flag κ × Option String)) : List String → Except UsageError (Arguments κ)
  | [] => (close found opened).map (⟨·, none⟩)
  | text :: rest =>
    let word := Word.ofText text
    if (waiting opened).isNone && commands.contains text then
      (close found opened).map (⟨·, some (text, rest)⟩)
    else
      match word.flag? flags, waiting opened with
      | some (none, _), _ => .error .unknown
      | some (some flag, value), _ =>
        match close found opened with
        | .error error => .error error
        | .ok found =>
          match value with
          | none => readFrom flags commands found (some (flag, none)) rest
          | some value =>
            match take found flag (some value) with
            | .error error => .error error
            | .ok found => readFrom flags commands found none rest
      | none, some flag =>
        if word = .divider then
          if rest.isEmpty then .error .missingValue else .error .unknown
        else readFrom flags commands found (some (flag, some text)) rest
      | none, none =>
        if word = .divider ∧ rest.isEmpty then (close found opened).map (⟨·, none⟩)
        else .error .unknown

/-- Read a command line. -/
def read (flags : List (Flag κ)) (commands : List String) (words : List String) :
    Except UsageError (Arguments κ) :=
  readFrom flags commands [] none words

end Arguments

end Leasehold
