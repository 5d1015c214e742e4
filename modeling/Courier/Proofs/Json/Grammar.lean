import Courier.Json.Blank
import Courier.Proofs.Text.Utf8

/-!
# The grammar of JSON

What is JSON, on the bytes of a text and without a reader.

* `Blanks`, `Numeral` : what may stand between the tokens, and the numbers;
* `Literal` : the ways to write a text between quotes, with its characters as they are or escaped;
* `Body` : what may stand between quotes where only the form counts, so that an escape may be half a character;
* `Well` : the values, and the insides of arrays and objects;
* `Row`, `ObjectText` : the members of an object with their names and the bytes of their values, and the object.
-/

namespace Courier.Json
open String (utf8EncodeChar)

/-! ## Tokens -/

/-- Space, tab, line feed and carriage return. -/
def blanks : Bytes :=
  Bytes.ofLatin [' ', '\t', '\n', '\r']

def Blanks (bs : Bytes) : Prop :=
  ∀ b ∈ bs, b ∈ blanks

def Digit (b : UInt8) : Prop :=
  b ∈ Bytes.ofLatin ['0', '1', '2', '3', '4', '5', '6', '7', '8', '9']

/-- Digits, at least one. -/
def Digits (ds : Bytes) : Prop :=
  ds ≠ [] ∧ ∀ d ∈ ds, Digit d

/-- A whole number without a sign, and without a zero before other digits. -/
inductive Integer : Bytes → Prop
  | zero : Integer [ascii '0']
  | digits {d : UInt8} {ds : Bytes} : Digit d → d ≠ ascii '0' → (∀ e ∈ ds, Digit e) → Integer (d :: ds)

inductive Fraction : Bytes → Prop
  | none : Fraction []
  | digits {ds : Bytes} : Digits ds → Fraction (ascii '.' :: ds)

inductive Exponent : Bytes → Prop
  | none : Exponent []
  | digits {mark : UInt8} {sign ds : Bytes} : mark ∈ [ascii 'e', ascii 'E'] →
      sign ∈ [[], [ascii '+'], [ascii '-']] → Digits ds → Exponent (mark :: (sign ++ ds))

/-- A number, of any size. -/
inductive Numeral : Bytes → Prop
  | mk {sign i f e : Bytes} : sign ∈ [[], [ascii '-']] → Integer i → Fraction f → Exponent e →
      Numeral (sign ++ (i ++ (f ++ e)))

/-- The hexadecimal digits in their order, in lower and in upper case. -/
def hexDigits : List (List Char) :=
  [['0', '1', '2', '3', '4', '5', '6', '7', '8', '9', 'a', 'b', 'c', 'd', 'e', 'f'],
   ['0', '1', '2', '3', '4', '5', '6', '7', '8', '9', 'A', 'B', 'C', 'D', 'E', 'F']]

/-- A hexadecimal digit, in either case, and its value. -/
def HexDigit (b : UInt8) (value : Nat) : Prop :=
  ∃ digits ∈ hexDigits, (Bytes.ofLatin digits)[value]? = some b

/-- Four hexadecimal digits and their number. -/
inductive FourHex : Bytes → Nat → Prop
  | mk {b₁ b₂ b₃ b₄ : UInt8} {v₁ v₂ v₃ v₄ : Nat} : HexDigit b₁ v₁ → HexDigit b₂ v₂ → HexDigit b₃ v₃ →
      HexDigit b₄ v₄ → FourHex [b₁, b₂, b₃, b₄] (((v₁ * 16 + v₂) * 16 + v₃) * 16 + v₄)

/-! ## Strings -/

/-- The letters that stand after a backslash, and the characters they stand for. -/
def escapes : List (Char × Char) :=
  [('"', '"'), ('\\', '\\'), ('/', '/'), ('b', '\x08'), ('f', '\x0c'), ('n', '\n'), ('r', '\r'), ('t', '\t')]

/-- Bytes that write a text between quotes. A character may stand as it is unless it is the quote, the backslash or a
control; be escaped by a letter if it has one; and be escaped by its number, or by its two surrogates if it is beyond
`U+FFFF`. -/
inductive Literal : Bytes → List Char → Prop
  | nil : Literal [] []
  | plain {c : Char} {bs : Bytes} {cs : List Char} : 32 ≤ c.toNat → c ≠ '"' → c ≠ '\\' → Literal bs cs →
      Literal (utf8EncodeChar c ++ bs) (c :: cs)
  | letter {e c : Char} {bs : Bytes} {cs : List Char} : (e, c) ∈ escapes → Literal bs cs →
      Literal (ascii '\\' :: ascii e :: bs) (c :: cs)
  | number {ds bs : Bytes} {n : Nat} {cs : List Char} : FourHex ds n → n < 0xD800 ∨ 0xDFFF < n → Literal bs cs →
      Literal (ascii '\\' :: ascii 'u' :: (ds ++ bs)) (Char.ofNat n :: cs)
  | pair {ds ds' bs : Bytes} {lead trail : Nat} {cs : List Char} : FourHex ds lead → FourHex ds' trail →
      0xD800 ≤ lead ∧ lead ≤ 0xDBFF → 0xDC00 ≤ trail ∧ trail ≤ 0xDFFF → Literal bs cs →
      Literal (ascii '\\' :: ascii 'u' :: (ds ++ ascii '\\' :: ascii 'u' :: (ds' ++ bs)))
        (Char.ofNat (0x10000 + (lead - 0xD800) * 0x400 + (trail - 0xDC00)) :: cs)

/-- What has the form of a string between its quotes. -/
inductive Body : Bytes → Prop
  | nil : Body []
  | plain {b : UInt8} {bs : Bytes} : 0x20 ≤ b → b ≠ ascii '"' → b ≠ ascii '\\' → Body bs → Body (b :: bs)
  | letter {e c : Char} {bs : Bytes} : (e, c) ∈ escapes → Body bs → Body (ascii '\\' :: ascii e :: bs)
  | number {ds bs : Bytes} {n : Nat} : FourHex ds n → Body bs → Body (ascii '\\' :: ascii 'u' :: (ds ++ bs))

/-- A string with its quotes. -/
def quoted (body : Bytes) : Bytes :=
  ascii '"' :: (body ++ [ascii '"'])

/-! ## Values -/

/-- A member of an object: a string and a value, with a colon between them and blanks before, between and after. -/
inductive Entry (name value : Bytes) : Bytes → Prop
  | mk {a b c d : Bytes} : Blanks a → Blanks b → Blanks c → Blanks d →
      Entry name value (a ++ (quoted name ++ (b ++ ascii ':' :: (c ++ (value ++ d)))))

/-- What a piece of a JSON text is: a value, or what stands between the brackets of an array or the braces of an object
that is not empty. -/
inductive Part where
  | value
  | elements
  | members

/-- The well-formed pieces of a JSON text. -/
inductive Well : Part → Bytes → Prop
  | word {cs : List Char} : cs ∈ [['n', 'u', 'l', 'l'], ['t', 'r', 'u', 'e'], ['f', 'a', 'l', 's', 'e']] →
      Well .value (Bytes.ofLatin cs)
  | number {n : Bytes} : Numeral n → Well .value n
  | text {s : Bytes} : Body s → Well .value (quoted s)
  | emptyArray {a : Bytes} : Blanks a → Well .value (ascii '[' :: (a ++ [ascii ']']))
  | array {es : Bytes} : Well .elements es → Well .value (ascii '[' :: (es ++ [ascii ']']))
  | emptyObject {a : Bytes} : Blanks a → Well .value (ascii '{' :: (a ++ [ascii '}']))
  | object {ms : Bytes} : Well .members ms → Well .value (ascii '{' :: (ms ++ [ascii '}']))
  | element {a v d : Bytes} : Blanks a → Well .value v → Blanks d → Well .elements (a ++ (v ++ d))
  | elements {a v d es : Bytes} : Blanks a → Well .value v → Blanks d → Well .elements es →
      Well .elements (a ++ (v ++ (d ++ ascii ',' :: es)))
  | member {s v m : Bytes} : Body s → Well .value v → Entry s v m → Well .members m
  | members {s v m ms : Bytes} : Body s → Well .value v → Entry s v m → Well .members ms →
      Well .members (m ++ ascii ',' :: ms)

/-- Members of an object, at least one, with their names and the bytes of their values. -/
inductive Row : List (String × Bytes) → Bytes → Prop
  | one {name : String} {s v m : Bytes} : Literal s name.toList → Entry s v m → Row [(name, v)] m
  | more {name : String} {s v m row : Bytes} {entries : List (String × Bytes)} : Literal s name.toList →
      Entry s v m → Row entries row → Row ((name, v) :: entries) (m ++ ascii ',' :: row)

/-- A text that is an object with members of the given names and values. -/
inductive ObjectText : List (String × Bytes) → Bytes → Prop
  | empty {a b d : Bytes} : Blanks a → Blanks b → Blanks d →
      ObjectText [] (a ++ ascii '{' :: (b ++ ascii '}' :: d))
  | members {a row d : Bytes} {entries : List (String × Bytes)} : Blanks a → Row entries row → Blanks d →
      ObjectText entries (a ++ ascii '{' :: (row ++ ascii '}' :: d))

/-! ## Digits -/

theorem isBlank_of_mem : ∀ b ∈ blanks, isBlank b = true :=
  List.all_eq_true.1 (by decide)

theorem HexDigit.lt {b : UInt8} {v : Nat} (h : HexDigit b v) : v < 16 := by
  obtain ⟨digits, hd, hb⟩ := h
  have hlength : ∀ digits ∈ hexDigits, (Bytes.ofLatin digits).length = 16 := by decide
  exact hlength digits hd ▸ (List.getElem?_eq_some_iff.1 hb).1

theorem HexDigit.hexValue? {b : UInt8} {v : Nat} (h : HexDigit b v) : hexValue? b = some v := by
  have hall : ∀ v < 16, ∀ digits ∈ hexDigits, (Bytes.ofLatin digits)[v]?.bind Courier.hexValue? = some v := by decide
  have hv := h.lt
  obtain ⟨digits, hd, hb⟩ := h
  simpa [hb] using hall v hv digits hd

/-! ## What follows a value -/

/-- The bytes that can follow a value. -/
def delimiters : Bytes :=
  blanks ++ Bytes.ofLatin [',', ']', '}']

/-- A text that goes on with a byte that can follow a value. -/
inductive Delimited : Bytes → Prop
  | mk {b : UInt8} {rest : Bytes} : b ∈ delimiters → Delimited (b :: rest)

theorem Blanks.nil : Blanks [] :=
  fun _ h => absurd h List.not_mem_nil

theorem Blanks.delimited_append {d rest : Bytes} (hd : Blanks d) (hr : Delimited rest) : Delimited (d ++ rest) := by
  cases d with
  | nil => exact hr
  | cons b d => exact .mk (List.mem_append_left _ (hd b List.mem_cons_self))

end Courier.Json
