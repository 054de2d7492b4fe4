import Freehold.Text.Digits

/-!
The four kinds of quoted text of TOML: basic and literal, on one line or several. Basic text has
escapes. The newline right after an opening triple quote is not part of the text.
-/

namespace Freehold.Toml

def singleQuote : Char := Char.ofNat 0x27

def tripleQuote (quote : Char) : List Char := [quote, quote, quote]

def isPlain (c : Char) : Bool := (c.toNat ≥ 0x20 && c.toNat ≠ 0x7F) || c == '\t'

def scalarValue? (n : Nat) : Option Char :=
  if n < 0xD800 ∨ (0xDFFF < n ∧ n < 0x110000) then some (Char.ofNat n) else none

def escape : List Char → Option (Char × List Char)
  | 'b' :: cs => some (Char.ofNat 8, cs)
  | 't' :: cs => some ('\t', cs)
  | 'n' :: cs => some ('\n', cs)
  | 'f' :: cs => some (Char.ofNat 12, cs)
  | 'r' :: cs => some (Char.ofNat 13, cs)
  | '"' :: cs => some ('"', cs)
  | '\\' :: cs => some ('\\', cs)
  | 'u' :: cs =>
    match Digits.read 16 4 cs with
    | some (n,rest) => (scalarValue? n).map fun c => (c,rest)
    | none => none
  | 'U' :: cs =>
    match Digits.read 16 8 cs with
    | some (n,rest) => (scalarValue? n).map fun c => (c,rest)
    | none => none
  | _ => none

def basic : Nat → List Char → Option (List Char × List Char)
  | 0, _ => none
  | _+1, [] => none
  | _+1, '"' :: cs => some ([],cs)
  | size+1, '\\' :: cs =>
    match escape cs with
    | some (c,rest) => (basic size rest).map fun (text,rest) => (c :: text, rest)
    | none => none
  | size+1, c :: cs =>
    if isPlain c then (basic size cs).map fun (text,rest) => (c :: text, rest) else none

def literal : List Char → Option (List Char × List Char)
  | [] => none
  | c :: cs =>
    if c = singleQuote then some ([],cs)
    else if isPlain c then (literal cs).map fun (text,rest) => (c :: text, rest)
    else none

/-- The end of text on several lines: three quotes, after up to two that belong to the text. -/
def closing (quote : Char) (cs : List Char) : Option (List Char × List Char) :=
  if tripleQuote quote <+: cs then
    let extra := ((cs.drop 3).take 2).takeWhile (· = quote)
    some (extra, cs.drop (3+extra.length))
  else none

def skipBlankLines : List Char → List Char
  | [] => []
  | '\r' :: '\n' :: cs => skipBlankLines cs
  -- A carriage return alone is no newline.
  | c :: cs => if c == ' ' || c == '\t' || c == '\n' then skipBlankLines cs else c :: cs

def lineEnd (cs : List Char) : Option (List Char) :=
  match cs.dropWhile fun c => c == ' ' || c == '\t' with
  | '\n' :: rest | '\r' :: '\n' :: rest => some (skipBlankLines rest)
  | _ => none

def basicLines : Nat → List Char → Option (List Char × List Char)
  | 0, _ => none
  | size+1, cs =>
    match closing '"' cs with
    | some r => some r
    | none =>
      match cs with
      | [] => none
      | '\\' :: cs =>
        match lineEnd cs with
        | some rest => basicLines size rest
        | none =>
          match escape cs with
          | some (c,rest) => (basicLines size rest).map fun (text,rest) => (c :: text, rest)
          | none => none
      | '\r' :: '\n' :: cs => (basicLines size cs).map fun (text,rest) => ('\n' :: text, rest)
      | c :: cs =>
        if isPlain c || c == '\n' then
          (basicLines size cs).map fun (text,rest) => (c :: text, rest)
        else none

def literalLines : Nat → List Char → Option (List Char × List Char)
  | 0, _ => none
  | size+1, cs =>
    match closing singleQuote cs with
    | some r => some r
    | none =>
      match cs with
      | [] => none
      | '\r' :: '\n' :: cs => (literalLines size cs).map fun (text,rest) => ('\n' :: text, rest)
      | c :: cs =>
        if isPlain c || c == '\n' then
          (literalLines size cs).map fun (text,rest) => (c :: text, rest)
        else none

def dropNewline : List Char → List Char
  | '\n' :: cs | '\r' :: '\n' :: cs => cs
  | cs => cs

def quotedLine : List Char → Option (List Char × List Char)
  | [] => none
  | c :: cs =>
    if c = '"' then basic (cs.length+1) cs
    else if c = singleQuote then literal cs
    else none

def quoted (cs : List Char) : Option (List Char × List Char) :=
  if tripleQuote '"' <+: cs then basicLines (cs.length+1) (dropNewline (cs.drop 3))
  else if tripleQuote singleQuote <+: cs then literalLines (cs.length+1) (dropNewline (cs.drop 3))
  else quotedLine cs

end Freehold.Toml
