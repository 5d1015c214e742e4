import Courier.Text.Quoted

/-!
# Writing JSON

Strings and flat objects, without blanks. In a string the quote, the backslash and the controls below `U+0020`
are escaped, five of the controls by a letter; everything else stands as it is.
-/

namespace Courier.Json

/-- The letter that escapes a character, if there is one. -/
def shortEscapes : List (Char × Char) :=
  [('"', '"'), ('\\', '\\'), ('\x08', 'b'), ('\x0c', 'f'), ('\n', 'n'), ('\r', 'r'), ('\t', 't')]

/-- A character inside a string. -/
def escapeChar (c : Char) : List Char :=
  match shortEscapes.lookup c with
  | some e => ['\\', e]
  | none =>
    if c.toNat < 32 then ['\\', 'u', '0', '0', Text.hexDigit (c.toNat / 16), Text.hexDigit (c.toNat % 16)] else [c]

def string (cs : List Char) : List Char :=
  '"' :: cs.flatMap escapeChar ++ ['"']

def member (name : String) (value : List Char) : List Char :=
  string name.toList ++ ':' :: value

def object (members : List (List Char)) : List Char :=
  '{' :: (members.intersperse [',']).flatten ++ ['}']

def optional (value : Option (List Char)) : List Char :=
  value.getD "null".toList

end Courier.Json
