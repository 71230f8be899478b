import Letterbox.Json.Basic
import Letterbox.Text.Decimal

namespace Letterbox.Json

open Letterbox.Text

def escapeChar (c : Char) : List Char :=
  if c == '"' then ['\\', '"']
  else if c == '\\' then ['\\', '\\']
  else if c == '\n' then ['\\', 'n']
  else if c == '\r' then ['\\', 'r']
  else if c == '\t' then ['\\', 't']
  else if c.toNat == 8 then ['\\', 'b']
  else if c.toNat == 12 then ['\\', 'f']
  else if c.toNat < 32 then
    ['\\', 'u', '0', '0', hexDigit (c.toNat / 16), hexDigit (c.toNat % 16)]
  else [c]

def renderString (s : List Char) : List Char :=
  '"' :: s.flatMap escapeChar ++ ['"']

mutual

def renderChars : Json → List Char
  | .null => ['n', 'u', 'l', 'l']
  | .bool true => ['t', 'r', 'u', 'e']
  | .bool false => ['f', 'a', 'l', 's', 'e']
  | .int i => intDigits i
  | .raw s => s.toList
  | .string s => renderString s.toList
  | .array items => '[' :: renderItems items
  | .object fields => '\x7b' :: renderFields fields

def renderItems : List Json → List Char
  | [] => [']']
  | [v] => renderChars v ++ [']']
  | v :: w :: rest => renderChars v ++ ',' :: renderItems (w :: rest)

def renderFields : List (String × Json) → List Char
  | [] => ['\x7d']
  | [(k, v)] => renderString k.toList ++ ':' :: renderChars v ++ ['\x7d']
  | (k, v) :: f :: rest =>
    renderString k.toList ++ ':' :: renderChars v ++ ',' :: renderFields (f :: rest)

end

def render (v : Json) : String :=
  String.ofList (renderChars v)

def lineStart (level : Nat) : List Char :=
  '\n' :: List.replicate (2 * level) ' '

mutual

def prettyChars (level : Nat) : Json → List Char
  | .array [] => ['[', ']']
  | .array (v :: rest) => '[' :: prettyItems (level + 1) (v :: rest) ++ lineStart level ++ [']']
  | .object [] => ['\x7b', '\x7d']
  | .object (f :: rest) =>
    '\x7b' :: prettyFields (level + 1) (f :: rest) ++ lineStart level ++ ['\x7d']
  | v => renderChars v

def prettyItems (level : Nat) : List Json → List Char
  | [] => []
  | [v] => lineStart level ++ prettyChars level v
  | v :: w :: rest =>
    lineStart level ++ prettyChars level v ++ ',' :: prettyItems level (w :: rest)

def prettyFields (level : Nat) : List (String × Json) → List Char
  | [] => []
  | [(k, v)] => lineStart level ++ renderString k.toList ++ ':' :: ' ' :: prettyChars level v
  | (k, v) :: f :: rest =>
    lineStart level ++ renderString k.toList ++ ':' :: ' ' :: prettyChars level v ++
      ',' :: prettyFields level (f :: rest)

end

def pretty (v : Json) : String :=
  String.ofList (prettyChars 0 v)

end Letterbox.Json
