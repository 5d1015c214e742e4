import Courier.Text.Unprintable
import Courier.Text.Combining

/-!
# Quoted text

How a diagnostic shows a text that the user wrote: between double quotes, with a short escape for the quote, the
backslash, NUL, tab, line feed and carriage return, and every other character that is unprintable or combining written
by its number. All other characters stand for themselves.
-/

namespace Courier.Text

def hexDigit (n : Nat) : Char :=
  if n < 10 then Char.ofNat (48 + n) else Char.ofNat (87 + n)

def hexDigits (n : Nat) : List Char :=
  if n < 16 then [hexDigit n] else hexDigits (n / 16) ++ [hexDigit (n % 16)]
termination_by n
decreasing_by omega

/-- A character written by its number. -/
def escapeNumber (c : Char) : List Char :=
  ['\\', 'u', '{'] ++ hexDigits c.toNat ++ ['}']

/-- A character as it stands between the quotes. -/
def escapeChar (c : Char) : List Char :=
  if c = '\x00' then ['\\', '0']
  else if c = '\t' then ['\\', 't']
  else if c = '\n' then ['\\', 'n']
  else if c = '\r' then ['\\', 'r']
  else if c = '"' then ['\\', '"']
  else if c = '\\' then ['\\', '\\']
  else if isCombining c || isUnprintable c then escapeNumber c
  else [c]

def quote (cs : List Char) : List Char :=
  '"' :: cs.flatMap escapeChar ++ ['"']

end Courier.Text
