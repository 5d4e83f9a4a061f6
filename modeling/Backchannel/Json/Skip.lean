/-
# Backchannel.Json.Skip -- passing over values

A member that nobody asks for is passed over without being kept.  Its brackets,
commas, words and numbers have to be in order, but it may be nested to any depth,
its numbers may be of any size, and half a surrogate pair is let through.
-/
import Backchannel.Json.Reader

namespace Backchannel.Json

set_option autoImplicit false

/-- The container that is open. -/
inductive Bracket where
  | list
  | object
  deriving DecidableEq, Repr

def Bracket.unclosed : Bracket → Malformed
  | .list => .endInList
  | .object => .endInObject

def Bracket.commaExpected : Bracket → Malformed
  | .list => .listCommaExpected
  | .object => .objectCommaExpected

def Bracket.closer : Bracket → Char
  | .list => ']'
  | .object => '}'

/-- Passes over the rest of an escape. -/
def skipEscape : List Char → Except Fault (List Char)
  | [] => malformed .endInText (.before [])
  | 'u' :: s => (readUnit s).map Prod.snd
  | c :: s =>
    if (simpleEscape? c).isSome then .ok s else malformed .escapeInvalid (.behind (c :: s))

/-- Passes over characters up to the closing quote; `fuel` bounds how many. -/
def skipChars : Nat → List Char → Except Fault (List Char)
  | 0, _ => malformed .endInText (.before [])
  | _ + 1, [] => malformed .endInText (.before [])
  | fuel + 1, c :: s =>
    if c = '"' then .ok s
    else if c = '\\' then do
      let s ← skipEscape s
      skipChars fuel s
    else if c.toNat < 0x20 then malformed .controlCharacter (.before (c :: s))
    else skipChars fuel s

def skipText (s : List Char) : Except Fault (List Char) := skipChars (s.length + 1) s

/-- Passes over an exponent behind its `e`. -/
def skipExponent (s : List Char) : Except Fault (List Char) :=
  let s :=
    match s with
    | '+' :: s => s
    | '-' :: s => s
    | s => s
  match s with
  | [] => malformed .numberInvalid (.before [])
  | c :: _ =>
    if isDigit c then .ok (s.dropWhile isDigit) else malformed .numberInvalid (.behind s)

/-- Passes over an exponent, if one follows. -/
def skipExponent? : List Char → Except Fault (List Char)
  | [] => .ok []
  | c :: s => if isExponentMark c then skipExponent s else .ok (c :: s)

/-- Passes over a number whose sign has been read. -/
def skipNumber : List Char → Except Fault (List Char)
  | [] => malformed .numberInvalid (.before [])
  | c :: s =>
    if !isDigit c then malformed .numberInvalid (.behind (c :: s))
    else if c = '0' ∧ s.head?.any isDigit then malformed .numberInvalid (.behind s)
    else
      match s.dropWhile isDigit with
      | '.' :: fraction =>
        let rest := fraction.dropWhile isDigit
        if fraction.head?.any isDigit then skipExponent? rest
        else malformed .numberInvalid (.behind rest)
      | rest => skipExponent? rest

/-- Passes over a scalar by its first character, if it starts one. -/
def skipScalar? (c : Char) (s : List Char) : Option (Except Fault (List Char)) :=
  if c = 'n' then some (readWord ['u', 'l', 'l'] s)
  else if c = 't' then some (readWord ['r', 'u', 'e'] s)
  else if c = 'f' then some (readWord ['a', 'l', 's', 'e'] s)
  else if c = '-' then some (skipNumber s)
  else if isDigit c then some (skipNumber (c :: s))
  else if c = '"' then some (skipText s)
  else none

/-- Passes over a key and its colon. -/
def skipKey (s : List Char) : Except Fault (List Char) :=
  match skipBlank s with
  | [] => malformed .endInObject (.before [])
  | '"' :: s => do
    let s ← skipText s
    readColon s
  | s => malformed .keyNotText (.behind s)

/-- Passes over a key where the open container has keys. -/
def skipKeyIn : Bracket → List Char → Except Fault (List Char)
  | .list, s => .ok s
  | .object, s => skipKey s

mutual

/-- Passes over a value inside the containers that are open. -/
def skipValueIn : Nat → List Bracket → List Char → Except Fault (List Char)
  | 0, _, _ => malformed .endInValue (.before [])
  | fuel + 1, opened, s =>
    match skipBlank s with
    | [] => malformed .endInValue (.before [])
    | c :: s =>
      match skipScalar? c s with
      | some skipping => do
        let s ← skipping
        skipAfter fuel opened s
      | none =>
        if c = '[' then skipInto fuel .list opened s
        else if c = '{' then skipInto fuel .object opened s
        else malformed .valueExpected (.behind (c :: s))

/-- Goes on behind an opening bracket. -/
def skipInto : Nat → Bracket → List Bracket → List Char → Except Fault (List Char)
  | 0, _, _, _ => malformed .endInValue (.before [])
  | fuel + 1, bracket, opened, s =>
    match skipBlank s with
    | [] => malformed bracket.unclosed (.before [])
    | c :: s =>
      if c = bracket.closer then skipAfter fuel opened s
      else do
        let s ← skipKeyIn bracket (c :: s)
        skipValueIn fuel (bracket :: opened) s

/-- Goes on behind a value. -/
def skipAfter : Nat → List Bracket → List Char → Except Fault (List Char)
  | _, [], s => .ok s
  | 0, _ :: _, _ => malformed .endInValue (.before [])
  | fuel + 1, bracket :: opened, s =>
    match skipBlank s with
    | [] => malformed bracket.unclosed (.before [])
    | c :: s =>
      if c = bracket.closer then skipAfter fuel opened s
      else if c = ',' then do
        let s ← skipKeyIn bracket s
        skipValueIn fuel (bracket :: opened) s
      else malformed bracket.commaExpected (.behind (c :: s))

end

/-- Passes over one value. -/
def skipValue (s : List Char) : Except Fault (List Char) :=
  skipValueIn (2 * s.length + 2) [] s

end Backchannel.Json
