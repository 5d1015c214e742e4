import Courier.Json.Printer
import Courier.Json.Text
import Courier.Proofs.Json.Grammar

/-!
# Strings: reading and writing

* `Literal.readText_eq` : of whatever way a text is written between quotes, the reader comes to the text;
* `literal_escaped` : the printer writes a text in one of these ways;
* `objectText_object` : and an object with the members it is given.
-/

namespace Courier.Json
open String (utf8EncodeChar)

/-! ## Reading -/

variable {done rest : Bytes}

theorem readTextFrom_of_go {b : UInt8} {spot spot' : TextSpot} {more : Bytes} (h : TextMove.of b spot = .go spot' more)
    (done rest : Bytes) : readTextFrom spot done (b :: rest) = readTextFrom spot' (more.reverse ++ done) rest := by
  rw [readTextFrom, h]

theorem readTextFrom_plain {bs : Bytes} (h : ∀ b ∈ bs, b ≠ ascii '"' ∧ b ≠ ascii '\\' ∧ 0x20 ≤ b) (done rest : Bytes) :
    readTextFrom .plain done (bs ++ rest) = readTextFrom .plain (bs.reverse ++ done) rest := by
  induction bs generalizing done with
  | nil => rfl
  | cons b bs ih =>
    obtain ⟨h₁, h₂, h₃⟩ := h b List.mem_cons_self
    have hgo : TextMove.of b .plain = .go .plain [b] := by
      rw [TextMove.of, if_neg h₁, if_neg h₂, if_neg (UInt8.not_lt.2 h₃)]
    rw [List.cons_append, readTextFrom_of_go hgo, ih fun b hb => h b (List.mem_cons_of_mem _ hb)]
    simp

theorem plain_of_mem_encodeChar {c : Char} (h₁ : 32 ≤ c.toNat) (h₂ : c ≠ '"') (h₃ : c ≠ '\\') :
    ∀ b ∈ utf8EncodeChar c, b ≠ ascii '"' ∧ b ≠ ascii '\\' ∧ 0x20 ≤ b := by
  intro b hb
  rw [UInt8.le_iff_toNat_le, ne_eq, ne_eq, ← UInt8.toNat_inj, ← UInt8.toNat_inj]
  have hquote : (ascii '"').toNat = 34 := rfl
  have hslash : (ascii '\\').toNat = 92 := rfl
  have hspace : (0x20 : UInt8).toNat = 32 := rfl
  rw [hquote, hslash, hspace]
  -- Beyond ASCII no byte of a character can be taken for the quote, the backslash or a control.
  rcases lt_or_ge c.toNat 128 with h | h
  · rw [Utf8.encodeChar_ascii h, List.mem_singleton] at hb
    have hc : b.toNat = c.toNat := by
      rw [hb]
      simp
      omega
    have h₂ : c.toNat ≠ 34 := fun h => h₂ (Char.toNat_inj.1 h)
    have h₃ : c.toNat ≠ 92 := fun h => h₃ (Char.toNat_inj.1 h)
    rw [hc]
    exact ⟨h₂, h₃, h₁⟩
  · have := Utf8.le_of_mem_encodeChar h hb
    omega

theorem FourHex.readTextFrom_eq {ds : Bytes} {n : Nat} (hd : FourHex ds n) {lead : Option Nat} {spot : TextSpot}
    {more : Bytes} (h : TextMove.unit lead n = .go spot more) (done rest : Bytes) :
    readTextFrom (.hex lead 3 0 true) done (ds ++ rest) = readTextFrom spot (more.reverse ++ done) rest := by
  have hstep {b : UInt8} {v : Nat} (hb : HexDigit b v) (left value : Nat) :
      TextMove.of b (.hex lead (left + 1) value true) = .go (.hex lead left (value * 16 + v) true) [] := by
    rw [TextMove.of, hb.hexValue?]
    rfl
  cases hd with
  | @mk b₁ b₂ b₃ b₄ v₁ v₂ v₃ v₄ h₁ h₂ h₃ h₄ =>
    have hlast : TextMove.of b₄ (.hex lead 0 ((v₁ * 16 + v₂) * 16 + v₃) true) = .go spot more := by
      rw [TextMove.of, h₄.hexValue?]
      exact h
    have hfirst := hstep h₁ 2 0
    rw [Nat.zero_mul, Nat.zero_add] at hfirst
    exact (readTextFrom_of_go hfirst _ _).trans <| (readTextFrom_of_go (hstep h₂ 1 _) _ _).trans <|
      (readTextFrom_of_go (hstep h₃ 0 _) _ _).trans (readTextFrom_of_go hlast _ _)

theorem move_of_letter {e c : Char} (h : (e, c) ∈ escapes) :
    TextMove.of (ascii e) .escape = .go .plain (utf8EncodeChar c) := by
  simp only [escapes, List.mem_cons, List.not_mem_nil, or_false, Prod.mk.injEq] at h
  rcases h with ⟨rfl, rfl⟩ | ⟨rfl, rfl⟩ | ⟨rfl, rfl⟩ | ⟨rfl, rfl⟩ | ⟨rfl, rfl⟩ | ⟨rfl, rfl⟩ | ⟨rfl, rfl⟩ | ⟨rfl, rfl⟩ <;>
    decide

theorem isLead_iff {n : Nat} : TextMove.isLead n = true ↔ 0xD800 ≤ n ∧ n ≤ 0xDBFF := by
  simp [TextMove.isLead]

theorem isTrail_iff {n : Nat} : TextMove.isTrail n = true ↔ 0xDC00 ≤ n ∧ n ≤ 0xDFFF := by
  simp [TextMove.isTrail]

theorem unit_of_whole {n : Nat} (h : n < 0xD800 ∨ 0xDFFF < n) :
    TextMove.unit none n = .go .plain (utf8EncodeChar (Char.ofNat n)) := by
  have ht : ¬ TextMove.isTrail n = true := by
    rw [isTrail_iff]
    omega
  have hl : ¬ TextMove.isLead n = true := by
    rw [isLead_iff]
    omega
  exact (if_neg ht).trans (if_neg hl)

theorem unit_of_lead {n : Nat} (h : 0xD800 ≤ n ∧ n ≤ 0xDBFF) : TextMove.unit none n = .go (.second n) [] := by
  have ht : ¬ TextMove.isTrail n = true := by
    rw [isTrail_iff]
    omega
  exact (if_neg ht).trans (if_pos (isLead_iff.2 h))

theorem unit_of_trail {n : Nat} (h : 0xDC00 ≤ n ∧ n ≤ 0xDFFF) (lead : Nat) :
    TextMove.unit (some lead) n =
      .go .plain (utf8EncodeChar (Char.ofNat (0x10000 + (lead - 0xD800) * 0x400 + (n - 0xDC00)))) := by
  have hj : TextMove.join lead n = 0x10000 + (lead - 0xD800) * 0x400 + (n - 0xDC00) := by
    rw [TextMove.join]
    omega
  rw [← hj]
  exact if_pos (isTrail_iff.2 h)

theorem Literal.readTextFrom_eq {bs : Bytes} {cs : List Char} (h : Literal bs cs) (done rest : Bytes) :
    readTextFrom .plain done (bs ++ rest) = readTextFrom .plain ((Utf8.encode cs).reverse ++ done) rest := by
  have hslash (done rest : Bytes) :
      readTextFrom .plain done (ascii '\\' :: rest) = readTextFrom .escape done rest := rfl
  have hmark (done rest : Bytes) :
      readTextFrom .escape done (ascii 'u' :: rest) = readTextFrom (.hex none 3 0 true) done rest := rfl
  -- What was read before grows with each character, so the induction is for all of it.
  induction h generalizing done with
  | nil => rfl
  | plain h₁ h₂ h₃ _ ih =>
    rw [List.append_assoc, readTextFrom_plain (plain_of_mem_encodeChar h₁ h₂ h₃), ih]
    simp
  | letter he _ ih =>
    rw [List.cons_append, hslash, List.cons_append, readTextFrom_of_go (move_of_letter he), ih]
    simp
  | number hd hn _ ih =>
    rw [List.cons_append, hslash, List.cons_append, hmark, List.append_assoc, hd.readTextFrom_eq (unit_of_whole hn), ih]
    simp
  | @pair ds ds' bs lead trail cs hd hd' hl ht _ ih =>
    have hsecond (done rest : Bytes) : readTextFrom (.second lead) done (ascii '\\' :: ascii 'u' :: rest) =
        readTextFrom (.hex (some lead) 3 0 true) done rest := rfl
    rw [List.cons_append, hslash, List.cons_append, hmark, List.append_assoc, hd.readTextFrom_eq (unit_of_lead hl),
      List.cons_append, List.cons_append, hsecond, List.append_assoc, hd'.readTextFrom_eq (unit_of_trail ht lead), ih]
    simp

/-- However a text is written between quotes, the reader comes to it and to what follows the closing quote. -/
theorem Literal.readText_eq {bs : Bytes} {cs : List Char} (h : Literal bs cs) (rest : Bytes) :
    readText (bs ++ ascii '"' :: rest) = .ok (String.ofList cs, rest) := by
  have hend (done : Bytes) : readTextFrom .plain done (ascii '"' :: rest) = .ok (done.reverse, rest) := rfl
  have hd : Utf8.decode? (Utf8.encode cs) = some cs := Utf8.decode?_eq_some_iff.2 rfl
  rw [readText, h.readTextFrom_eq, hend, List.append_nil, List.reverse_reverse]
  simp [hd]

/-! ## Writing -/

/-- A letter of a short escape is ASCII, and stands for the character it was written for. -/
theorem mem_escapes_of_lookup {c e : Char} (h : shortEscapes.lookup c = some e) : (e, c) ∈ escapes ∧ e.toNat < 128 := by
  have hall : ∀ p ∈ shortEscapes, (p.2, p.1) ∈ escapes ∧ p.2.toNat < 128 := by decide
  obtain ⟨before, after, heq, -⟩ := List.lookup_eq_some_iff.1 h
  exact hall (c, e) (heq ▸ List.mem_append_right _ List.mem_cons_self)

theorem hexDigit_hexDigit {v : Nat} (hv : v < 16) :
    (Text.hexDigit v).toNat < 128 ∧ HexDigit (ascii (Text.hexDigit v)) v := by
  have hall : ∀ v < 16, (Text.hexDigit v).toNat < 128 ∧
      (Bytes.ofLatin ['0', '1', '2', '3', '4', '5', '6', '7', '8', '9', 'a', 'b', 'c', 'd', 'e', 'f'])[v]? =
        some (ascii (Text.hexDigit v)) := by decide
  exact ⟨(hall v hv).1, _, List.mem_cons_self, (hall v hv).2⟩

theorem literal_escapeChar (c : Char) {bs : Bytes} {cs : List Char} (h : Literal bs cs) :
    Literal (Utf8.encode (escapeChar c) ++ bs) (c :: cs) := by
  have hslash : utf8EncodeChar '\\' = [ascii '\\'] := by decide
  unfold escapeChar
  split
  · next e he =>
    obtain ⟨hmem, hlt⟩ := mem_escapes_of_lookup he
    simpa [hslash, Utf8.encodeChar_ascii hlt] using Literal.letter hmem h
  · next hnone =>
    split_ifs with hc
    · have hu : utf8EncodeChar 'u' = [ascii 'u'] := by decide
      have hzero : utf8EncodeChar '0' = [ascii '0'] := by decide
      have hz : HexDigit (ascii '0') 0 := ⟨_, List.mem_cons_self, rfl⟩
      obtain ⟨hhigh, hh⟩ := hexDigit_hexDigit (show c.toNat / 16 < 16 by omega)
      obtain ⟨hlow, hl⟩ := hexDigit_hexDigit (show c.toNat % 16 < 16 by omega)
      have hn : ((0 * 16 + 0) * 16 + c.toNat / 16) * 16 + c.toNat % 16 = c.toNat := by omega
      have := Literal.number (.mk hz hz hh hl) (.inl (by omega)) h
      rw [hn, Char.ofNat_toNat] at this
      simpa [hslash, hu, hzero, Utf8.encodeChar_ascii hhigh, Utf8.encodeChar_ascii hlow] using this
    · have hq : c ≠ '"' := by
        rintro rfl
        cases hnone
      have hb : c ≠ '\\' := by
        rintro rfl
        cases hnone
      simpa using Literal.plain (by omega) hq hb h

theorem literal_escaped (cs : List Char) : Literal (Utf8.encode (cs.flatMap escapeChar)) cs := by
  induction cs with
  | nil => exact .nil
  | cons c cs ih =>
    rw [List.flatMap_cons, Utf8.encode_append]
    exact literal_escapeChar c ih

theorem encode_string (cs : List Char) : Utf8.encode (string cs) = quoted (Utf8.encode (cs.flatMap escapeChar)) := by
  have hquote : utf8EncodeChar '"' = [ascii '"'] := by decide
  simp [string, quoted, hquote]

theorem Entry.tight (s v : Bytes) : Entry s v (quoted s ++ ascii ':' :: v) := by
  have h : Entry s v ([] ++ (quoted s ++ ([] ++ ascii ':' :: ([] ++ (v ++ []))))) := .mk .nil .nil .nil .nil
  simpa using h

theorem entry_member (name : String) (value : List Char) :
    Entry (Utf8.encode (name.toList.flatMap escapeChar)) (Utf8.encode value) (Utf8.encode (member name value)) := by
  have hcolon : utf8EncodeChar ':' = [ascii ':'] := by decide
  rw [member, Utf8.encode_append, encode_string, Utf8.encode_cons, hcolon]
  exact .tight _ _

theorem row_members (m : String × List Char) (ms : List (String × List Char)) :
    Row ((m :: ms).map fun m => (m.1, Utf8.encode m.2))
      (Utf8.encode (((m :: ms).map fun m => member m.1 m.2).intersperse [',']).flatten) := by
  have hcomma : utf8EncodeChar ',' = [ascii ','] := by decide
  induction ms generalizing m with
  | nil => simpa using Row.one (literal_escaped m.1.toList) (entry_member m.1 m.2)
  | cons m' ms ih =>
    simpa [hcomma] using Row.more (literal_escaped m.1.toList) (entry_member m.1 m.2) (ih m')

/-- What is printed as an object is one, with the members it was given. -/
theorem objectText_object (ms : List (String × List Char)) :
    ObjectText (ms.map fun m => (m.1, Utf8.encode m.2)) (Utf8.encode (object (ms.map fun m => member m.1 m.2))) := by
  have hopen : utf8EncodeChar '{' = [ascii '{'] := by decide
  have hclose : utf8EncodeChar '}' = [ascii '}'] := by decide
  cases ms with
  | nil => simpa [object, hopen, hclose] using ObjectText.empty .nil .nil .nil
  | cons m ms => simpa [object, hopen, hclose] using ObjectText.members .nil (row_members m ms) .nil

end Courier.Json
