import Freehold.Toml.Quoted
import Freehold.Toml.Scalar
import Freehold.Toml.Table

/-!
Keys and values of TOML, up to whole arrays and inline tables, which may be nested up to a limit. The
functions that call themselves take a number of steps, for which the length of the text is always
enough.
-/

namespace Freehold.Toml

def isSpace (c : Char) : Bool := c == ' ' || c == '\t'

def skipSpaces (cs : List Char) : List Char := cs.dropWhile isSpace

def skipLines (inComment : Bool) : List Char → List Char
  | [] => []
  | '\r' :: '\n' :: cs => skipLines false cs
  | c :: cs =>
    if c = '\n' then skipLines false cs
    -- What may not stand in a comment is left.
    else if inComment then if isPlain c then skipLines true cs else c :: cs
    else if isSpace c then skipLines false cs
    else if c = '#' then skipLines true cs
    else c :: cs

def isBareKeyChar (c : Char) : Bool := c.isAlphanum || c == '_' || c == '-'

def simpleKey (cs : List Char) : Option (String × List Char) :=
  let (bare,rest) := cs.span isBareKeyChar
  if bare ≠ [] then some (String.ofList bare, rest)
  else (quotedLine cs).map fun (text,rest) => (String.ofList text, rest)

/-- How many arrays and inline tables may stand in one another, and how many parts a key may have. -/
def nesting : Nat := 79

def keyParts : Nat → List Char → Option ((List String × String) × List Char)
  | 0, _ => none
  | parts+1, cs =>
    match simpleKey (skipSpaces cs) with
    | none => none
    | some (key,rest) =>
      match skipSpaces rest with
      | '.' :: rest => (keyParts parts rest).map fun ((path,last),rest) => ((key :: path, last), rest)
      | rest => some (([],key),rest)

def dottedKey (cs : List Char) : Option ((List String × String) × List Char) := keyParts nesting cs

mutual

def value : Nat → Nat → List Char → Option (Value × List Char)
  | 0, _, _ => none
  | steps+1, levels, cs =>
    match cs, levels with
    | '[' :: _, 0 | '{' :: _, 0 => none
    | '[' :: rest, levels+1 => elements steps levels [] rest
    | '{' :: rest, levels+1 =>
      match skipSpaces rest with
      | '}' :: rest => some (.table [], rest)
      | rest => pairs steps levels [] rest
    | c :: _, _ =>
      if c == '"' || c == singleQuote then
        (quoted cs).map fun (text,rest) => (.text (String.ofList text), rest)
      else word cs
    | [], _ => none

/-- The elements of an array after those that were read, the last one first. A comma may follow the
last one, and newlines and comments may stand everywhere. -/
def elements : Nat → Nat → List Value → List Char → Option (Value × List Char)
  | 0, _, _, _ => none
  | steps+1, levels, read, cs =>
    match skipLines false cs with
    | ']' :: rest => some (.list read.reverse, rest)
    | cs =>
      match value steps levels cs with
      | none => none
      | some (v,rest) =>
        match skipLines false rest with
        | ',' :: rest => elements steps levels (v :: read) rest
        | ']' :: rest => some (.list (v :: read).reverse, rest)
        | _ => none

def pairs : Nat → Nat → Fields → List Char → Option (Value × List Char)
  | 0, _, _, _ => none
  | steps+1, levels, read, cs =>
    match dottedKey cs with
    | some ((path,key), '=' :: rest) =>
      match value steps levels (skipSpaces rest) with
      | none => none
      | some (v,rest) =>
        match read.insertAt path key v with
        | none => none
        | some read =>
          match skipSpaces rest with
          | ',' :: rest => pairs steps levels read rest
          -- No comma follows the last pair.
          | '}' :: rest => some (.table (Fields.toValues read), rest)
          | _ => none
    | _ => none

end

end Freehold.Toml
