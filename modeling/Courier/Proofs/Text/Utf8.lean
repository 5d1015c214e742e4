import Courier.Text.Utf8
import Mathlib.Tactic

/-!
# UTF-8: reading what was written

* `encodeChar_ascii`, `le_of_mem_encodeChar` : the bytes of a character, ASCII or not;
* `next_of_encodeChar`, `encodeChar_of_next` : a character is read from its own bytes, whatever follows them, and
  from no others;
* `decode?_eq_some_iff` : a byte string has a text exactly when it is the bytes of that text;
* `decodeLossy_encode` : nothing is lost of such a string;
* `encode_of_ascii`, `toLatin_map_ascii` : ASCII texts are one byte a character.
-/

namespace Courier.Utf8
open String (utf8EncodeChar)

/-! ## The bytes of a character -/

theorem encodeChar_ascii {c : Char} (h : c.toNat < 128) : utf8EncodeChar c = [ascii c] := by
  simp [utf8EncodeChar, show c.toNat ≤ 127 by omega]

theorem le_of_mem_encodeChar {c : Char} (h : 128 ≤ c.toNat) {b : UInt8} (hb : b ∈ utf8EncodeChar c) :
    128 ≤ b.toNat := by
  unfold utf8EncodeChar at hb
  simp only [Char.toNat_val, if_neg (show ¬ c.toNat ≤ 127 by omega)] at hb
  split_ifs at hb <;> simp only [List.mem_cons, List.not_mem_nil, or_false] at hb
  · rcases hb with rfl | rfl <;> simp only [UInt8.toNat_ofNat'] <;> omega
  · rcases hb with rfl | rfl | rfl <;> simp only [UInt8.toNat_ofNat'] <;> omega
  · rcases hb with rfl | rfl | rfl | rfl <;> simp only [UInt8.toNat_ofNat'] <;> omega

/-- The numbers that are characters: no surrogates, and at most `U+10FFFF`. -/
theorem toNat_valid (c : Char) : c.toNat < 55296 ∨ 57343 < c.toNat ∧ c.toNat < 1114112 := by
  have := c.valid
  simpa [UInt32.isValidChar, Nat.isValidChar] using this

theorem toNat_ofNat_valid {n : Nat} (h : n < 55296 ∨ 57343 < n ∧ n < 1114112) : (Char.ofNat n).toNat = n := by
  rw [Char.ofNat, dif_pos (show n.isValidChar from h)]
  rfl

theorem encodeChar_two {c : Char} (h : 128 ≤ c.toNat ∧ c.toNat ≤ 2047) :
    ∃ b₀ b₁, utf8EncodeChar c = [b₀, b₁] ∧ b₀.toNat = c.toNat / 64 + 192 ∧ b₁.toNat = c.toNat % 64 + 128 := by
  refine ⟨_, _, by rw [utf8EncodeChar, Char.toNat_val, if_neg (by omega), if_pos h.2], ?_, ?_⟩ <;>
    simp only [UInt8.toNat_ofNat'] <;> omega

theorem encodeChar_three {c : Char} (h : 2048 ≤ c.toNat ∧ c.toNat ≤ 65535) :
    ∃ b₀ b₁ b₂, utf8EncodeChar c = [b₀, b₁, b₂] ∧ b₀.toNat = c.toNat / 4096 + 224 ∧
      b₁.toNat = c.toNat / 64 % 64 + 128 ∧ b₂.toNat = c.toNat % 64 + 128 := by
  refine ⟨_, _, _, by rw [utf8EncodeChar, Char.toNat_val, if_neg (by omega), if_neg (by omega), if_pos h.2],
    ?_, ?_, ?_⟩ <;> simp only [UInt8.toNat_ofNat'] <;> omega

theorem encodeChar_four {c : Char} (h : 65536 ≤ c.toNat) :
    ∃ b₀ b₁ b₂ b₃, utf8EncodeChar c = [b₀, b₁, b₂, b₃] ∧ b₀.toNat = c.toNat / 262144 + 240 ∧
      b₁.toNat = c.toNat / 4096 % 64 + 128 ∧ b₂.toNat = c.toNat / 64 % 64 + 128 ∧
      b₃.toNat = c.toNat % 64 + 128 := by
  have := toNat_valid c
  refine ⟨_, _, _, _, by rw [utf8EncodeChar, Char.toNat_val, if_neg (by omega), if_neg (by omega),
    if_neg (by omega)], ?_, ?_, ?_, ?_⟩ <;> simp only [UInt8.toNat_ofNat'] <;> omega

/-! ## Lead bytes -/

theorem lead?_eq (b : UInt8) : lead? b =
    if b.toNat < 194 then none
    else if b.toNat ≤ 223 then some ⟨1, 0x80, 0xBF, b.toNat % 32⟩
    else if b.toNat = 224 then some ⟨2, 0xA0, 0xBF, 0⟩
    else if b.toNat = 237 then some ⟨2, 0x80, 0x9F, 13⟩
    else if b.toNat ≤ 239 then some ⟨2, 0x80, 0xBF, b.toNat % 16⟩
    else if b.toNat = 240 then some ⟨3, 0x90, 0xBF, 0⟩
    else if b.toNat ≤ 243 then some ⟨3, 0x80, 0xBF, b.toNat % 8⟩
    else if b.toNat = 244 then some ⟨3, 0x80, 0x8F, 4⟩
    else none := by
  simp only [lead?, UInt8.lt_iff_toNat_lt, UInt8.le_iff_toNat_le, ← UInt8.toNat_inj]
  rfl

theorem lead?_two {b : UInt8} (h : 194 ≤ b.toNat ∧ b.toNat ≤ 223) :
    lead? b = some ⟨1, 0x80, 0xBF, b.toNat % 32⟩ := by
  rw [lead?_eq, if_neg (by omega), if_pos h.2]

/-- The lead bytes of three leave out the overlong forms and the surrogates. -/
theorem lead?_three {b : UInt8} (h : 224 ≤ b.toNat ∧ b.toNat ≤ 239) :
    ∃ low high, lead? b = some ⟨2, low, high, b.toNat % 16⟩ ∧ ∀ x : UInt8, low ≤ x ∧ x ≤ high ↔
      128 ≤ x.toNat ∧ x.toNat ≤ 191 ∧ 32 ≤ b.toNat % 16 * 64 + x.toNat % 64 ∧
        (b.toNat % 16 * 64 + x.toNat % 64 < 864 ∨ 895 < b.toNat % 16 * 64 + x.toNat % 64) := by
  rw [lead?_eq, if_neg (by omega), if_neg (by omega)]
  by_cases h1 : b.toNat = 224
  · refine ⟨0xA0, 0xBF, by simp [h1], fun x => ?_⟩
    simp only [h1, UInt8.le_iff_toNat_le, UInt8.reduceToNat]
    omega
  by_cases h2 : b.toNat = 237
  · refine ⟨0x80, 0x9F, by simp [h2], fun x => ?_⟩
    simp only [h2, UInt8.le_iff_toNat_le, UInt8.reduceToNat]
    omega
  · refine ⟨0x80, 0xBF, by rw [if_neg h1, if_neg h2, if_pos h.2], fun x => ?_⟩
    simp only [UInt8.le_iff_toNat_le, UInt8.reduceToNat]
    omega

/-- The lead bytes of four leave out the overlong forms and the numbers past `U+10FFFF`. -/
theorem lead?_four {b : UInt8} (h : 240 ≤ b.toNat ∧ b.toNat ≤ 244) :
    ∃ low high, lead? b = some ⟨3, low, high, b.toNat % 8⟩ ∧ ∀ x : UInt8, low ≤ x ∧ x ≤ high ↔
      128 ≤ x.toNat ∧ x.toNat ≤ 191 ∧ 16 ≤ b.toNat % 8 * 64 + x.toNat % 64 ∧
        b.toNat % 8 * 64 + x.toNat % 64 < 272 := by
  rw [lead?_eq, if_neg (by omega), if_neg (by omega), if_neg (by omega), if_neg (by omega), if_neg (by omega)]
  by_cases h1 : b.toNat = 240
  · refine ⟨0x90, 0xBF, by simp [h1], fun x => ?_⟩
    simp only [h1, UInt8.le_iff_toNat_le, UInt8.reduceToNat]
    omega
  by_cases h2 : b.toNat = 244
  · refine ⟨0x80, 0x8F, by simp [h2], fun x => ?_⟩
    simp only [h2, UInt8.le_iff_toNat_le, UInt8.reduceToNat]
    omega
  · refine ⟨0x80, 0xBF, by rw [if_neg h1, if_pos (by omega)], fun x => ?_⟩
    simp only [UInt8.le_iff_toNat_le, UInt8.reduceToNat]
    omega

theorem lead?_none {b : UInt8} (h : b.toNat < 194 ∨ 244 < b.toNat) : lead? b = none := by
  rw [lead?_eq]
  split_ifs <;> first | rfl | omega

/-! ## Reading a character -/

theorem tail_succ_eq_char_iff {low high : UInt8} {bits n : Nat} {rest rest' : Bytes} {c : Char} :
    tail low high bits (n + 1) rest = (.char c, rest') ↔ ∃ b r, rest = b :: r ∧ (low ≤ b ∧ b ≤ high) ∧
      tail 0x80 0xBF (bits * 64 + b.toNat % 64) n r = (.char c, rest') := by
  cases rest with
  | nil => simp [tail]
  | cons b r =>
    rw [tail]
    split_ifs with h
    · simp [h]
    · simp [h]

theorem tail_zero_eq_char_iff {low high : UInt8} {bits : Nat} {rest rest' : Bytes} {c : Char} :
    tail low high bits 0 rest = (.char c, rest') ↔ Char.ofNat bits = c ∧ rest = rest' := by
  simp [tail]

theorem lt_ascii_iff {b : UInt8} : b < 0x80 ↔ b.toNat < 128 := by
  simp only [UInt8.lt_iff_toNat_lt, UInt8.reduceToNat]

theorem mem_continuation_iff {b : UInt8} : 0x80 ≤ b ∧ b ≤ 0xBF ↔ 128 ≤ b.toNat ∧ b.toNat ≤ 191 := by
  simp only [UInt8.le_iff_toNat_le, UInt8.reduceToNat]

/-- A character is read from its own bytes, whatever follows them. -/
theorem next_of_encodeChar {b : UInt8} {rest rest' : Bytes} {c : Char}
    (h : b :: rest = utf8EncodeChar c ++ rest') : next b rest = (.char c, rest') := by
  have hv := toNat_valid c
  unfold next
  by_cases h1 : c.toNat < 128
  · rw [encodeChar_ascii h1] at h
    obtain ⟨rfl, rfl⟩ := List.cons.inj h
    have e : (ascii c).toNat = c.toNat := by simp; omega
    rw [if_pos (by rw [lt_ascii_iff]; omega), e, Char.ofNat_toNat]
  by_cases h2 : c.toNat ≤ 2047
  · obtain ⟨b₀, b₁, e, e₀, e₁⟩ := encodeChar_two ⟨by omega, h2⟩
    rw [e] at h
    obtain ⟨rfl, rfl⟩ := List.cons.inj h
    rw [if_neg (by rw [lt_ascii_iff]; omega), lead?_two (by omega)]
    refine tail_succ_eq_char_iff.2 ⟨b₁, _, rfl, mem_continuation_iff.2 (by omega), tail_zero_eq_char_iff.2 ⟨?_, rfl⟩⟩
    rw [show b.toNat % 32 * 64 + b₁.toNat % 64 = c.toNat by omega, Char.ofNat_toNat]
  by_cases h3 : c.toNat ≤ 65535
  · obtain ⟨b₀, b₁, b₂, e, e₀, e₁, e₂⟩ := encodeChar_three ⟨by omega, h3⟩
    rw [e] at h
    obtain ⟨rfl, rfl⟩ := List.cons.inj h
    obtain ⟨low, high, hl, hx⟩ := lead?_three (b := b) (by omega)
    rw [if_neg (by rw [lt_ascii_iff]; omega), hl]
    refine tail_succ_eq_char_iff.2 ⟨b₁, _, rfl, (hx b₁).2 (by omega), tail_succ_eq_char_iff.2 ⟨b₂, _, rfl,
      mem_continuation_iff.2 (by omega), tail_zero_eq_char_iff.2 ⟨?_, rfl⟩⟩⟩
    rw [show (b.toNat % 16 * 64 + b₁.toNat % 64) * 64 + b₂.toNat % 64 = c.toNat by omega, Char.ofNat_toNat]
  · obtain ⟨b₀, b₁, b₂, b₃, e, e₀, e₁, e₂, e₃⟩ := encodeChar_four (c := c) (by omega)
    rw [e] at h
    obtain ⟨rfl, rfl⟩ := List.cons.inj h
    obtain ⟨low, high, hl, hx⟩ := lead?_four (b := b) (by omega)
    rw [if_neg (by rw [lt_ascii_iff]; omega), hl]
    refine tail_succ_eq_char_iff.2 ⟨b₁, _, rfl, (hx b₁).2 (by omega), tail_succ_eq_char_iff.2 ⟨b₂, _, rfl,
      mem_continuation_iff.2 (by omega), tail_succ_eq_char_iff.2 ⟨b₃, _, rfl,
      mem_continuation_iff.2 (by omega), tail_zero_eq_char_iff.2 ⟨?_, rfl⟩⟩⟩⟩
    rw [show ((b.toNat % 8 * 64 + b₁.toNat % 64) * 64 + b₂.toNat % 64) * 64 + b₃.toNat % 64 = c.toNat by omega,
      Char.ofNat_toNat]

/-- The bytes a character is read from are its own. -/
theorem encodeChar_of_next {b : UInt8} {rest rest' : Bytes} {c : Char} (h : next b rest = (.char c, rest')) :
    b :: rest = utf8EncodeChar c ++ rest' := by
  have hb := b.toNat_lt
  unfold next at h
  by_cases h0 : b.toNat < 128
  · rw [if_pos (lt_ascii_iff.2 h0)] at h
    obtain ⟨hc, rfl⟩ := Prod.mk.inj h
    have e := toNat_ofNat_valid (n := b.toNat) (by omega)
    rw [Piece.char.inj hc] at e
    rw [encodeChar_ascii (by omega), ascii, e]
    simp
  rw [if_neg (fun h => h0 (lt_ascii_iff.1 h))] at h
  by_cases h1 : b.toNat < 194 ∨ 244 < b.toNat
  · simp [lead?_none h1] at h
  by_cases h2 : b.toNat ≤ 223
  · rw [lead?_two ⟨by omega, h2⟩] at h
    obtain ⟨b₁, r, rfl, h₁, h⟩ := tail_succ_eq_char_iff.1 h
    obtain ⟨hc, rfl⟩ := tail_zero_eq_char_iff.1 h
    have m₁ := mem_continuation_iff.1 h₁
    have e := toNat_ofNat_valid (n := b.toNat % 32 * 64 + b₁.toNat % 64) (by omega)
    rw [hc] at e
    obtain ⟨c₀, c₁, ec, e₀, e₁⟩ := encodeChar_two (c := c) (by omega)
    rw [ec, UInt8.toNat_inj.1 (show c₀.toNat = b.toNat by omega), UInt8.toNat_inj.1 (show c₁.toNat = b₁.toNat by omega)]
    rfl
  by_cases h3 : b.toNat ≤ 239
  · obtain ⟨low, high, hl, hx⟩ := lead?_three (b := b) (by omega)
    rw [hl] at h
    obtain ⟨b₁, r, rfl, h₁, h⟩ := tail_succ_eq_char_iff.1 h
    obtain ⟨b₂, r, rfl, h₂, h⟩ := tail_succ_eq_char_iff.1 h
    obtain ⟨hc, rfl⟩ := tail_zero_eq_char_iff.1 h
    have m₁ := (hx b₁).1 h₁
    have m₂ := mem_continuation_iff.1 h₂
    have e := toNat_ofNat_valid (n := (b.toNat % 16 * 64 + b₁.toNat % 64) * 64 + b₂.toNat % 64) (by omega)
    rw [hc] at e
    obtain ⟨c₀, c₁, c₂, ec, e₀, e₁, e₂⟩ := encodeChar_three (c := c) (by omega)
    rw [ec, UInt8.toNat_inj.1 (show c₀.toNat = b.toNat by omega), UInt8.toNat_inj.1 (show c₁.toNat = b₁.toNat by omega),
      UInt8.toNat_inj.1 (show c₂.toNat = b₂.toNat by omega)]
    rfl
  · obtain ⟨low, high, hl, hx⟩ := lead?_four (b := b) (by omega)
    rw [hl] at h
    obtain ⟨b₁, r, rfl, h₁, h⟩ := tail_succ_eq_char_iff.1 h
    obtain ⟨b₂, r, rfl, h₂, h⟩ := tail_succ_eq_char_iff.1 h
    obtain ⟨b₃, r, rfl, h₃, h⟩ := tail_succ_eq_char_iff.1 h
    obtain ⟨hc, rfl⟩ := tail_zero_eq_char_iff.1 h
    have m₁ := (hx b₁).1 h₁
    have m₂ := mem_continuation_iff.1 h₂
    have m₃ := mem_continuation_iff.1 h₃
    have e := toNat_ofNat_valid
      (n := ((b.toNat % 8 * 64 + b₁.toNat % 64) * 64 + b₂.toNat % 64) * 64 + b₃.toNat % 64) (by omega)
    rw [hc] at e
    obtain ⟨c₀, c₁, c₂, c₃, ec, e₀, e₁, e₂, e₃⟩ := encodeChar_four (c := c) (by omega)
    rw [ec, UInt8.toNat_inj.1 (show c₀.toNat = b.toNat by omega), UInt8.toNat_inj.1 (show c₁.toNat = b₁.toNat by omega),
      UInt8.toNat_inj.1 (show c₂.toNat = b₂.toNat by omega), UInt8.toNat_inj.1 (show c₃.toNat = b₃.toNat by omega)]
    rfl

/-! ## Reading a text -/

@[simp] theorem encode_nil : encode [] = [] := rfl

@[simp] theorem encode_cons (c : Char) (cs : List Char) : encode (c :: cs) = utf8EncodeChar c ++ encode cs := rfl

@[simp] theorem encode_append (s t : List Char) : encode (s ++ t) = encode s ++ encode t := by
  simp [encode]

theorem encode_eq_nil_iff {cs : List Char} : encode cs = [] ↔ cs = [] := by
  cases cs with
  | nil => simp
  | cons c cs => simp [String.utf8EncodeChar_ne_nil]

theorem pieces_encodeChar_append (c : Char) (rest : Bytes) :
    pieces (utf8EncodeChar c ++ rest) = .char c :: pieces rest := by
  obtain ⟨b, bs, e⟩ := List.exists_cons_of_ne_nil (String.utf8EncodeChar_ne_nil (c := c))
  have hn : next b (bs ++ rest) = (.char c, rest) := next_of_encodeChar (by rw [e]; rfl)
  rw [e, List.cons_append, pieces_cons, hn]

theorem pieces_encode (cs : List Char) : pieces (encode cs) = cs.map .char := by
  induction cs with
  | nil => exact pieces_nil
  | cons c cs ih => rw [encode_cons, pieces_encodeChar_append, ih, List.map_cons]

theorem eq_encode_of_pieces {bs : Bytes} {cs : List Char} (h : pieces bs = cs.map .char) : bs = encode cs := by
  induction cs generalizing bs with
  | nil =>
    cases bs with
    | nil => rfl
    | cons b rest => simp [pieces_cons] at h
  | cons c cs ih =>
    cases bs with
    | nil => simp [pieces_nil] at h
    | cons b rest =>
      rw [pieces_cons, List.map_cons] at h
      obtain ⟨hc, hr⟩ := List.cons.inj h
      have hn : next b rest = (.char c, (next b rest).2) := by rw [← hc]
      rw [encodeChar_of_next hn, ih hr, encode_cons]

theorem mapM_char?_eq_some_iff {ps : List Piece} {cs : List Char} :
    ps.mapM Piece.char? = some cs ↔ ps = cs.map .char := by
  induction ps generalizing cs with
  | nil => cases cs <;> simp
  | cons p ps ih =>
    rw [List.mapM_cons]
    cases p with
    | broken => cases cs <;> simp [Piece.char?]
    | char c =>
      cases cs with
      | nil => simp [Piece.char?, Option.bind_eq_some_iff]
      | cons d cs => simp [Piece.char?, Option.bind_eq_some_iff, ← ih, and_comm]

/-- A byte string has a text exactly when it is the bytes of that text. -/
theorem decode?_eq_some_iff {bs : Bytes} {cs : List Char} : decode? bs = some cs ↔ bs = encode cs := by
  rw [decode?, mapM_char?_eq_some_iff]
  exact ⟨eq_encode_of_pieces, fun h => h ▸ pieces_encode cs⟩

theorem encode_injective : Function.Injective encode := by
  intro s t h
  have hs : decode? (encode s) = some t := decode?_eq_some_iff.2 h
  rw [decode?_eq_some_iff.2 rfl] at hs
  exact Option.some.inj hs

theorem decodeLossy_encode (cs : List Char) : decodeLossy (encode cs) = cs := by
  rw [decodeLossy, pieces_encode, List.map_map]
  exact List.map_id cs

/-! ## ASCII -/

theorem encode_of_ascii {cs : List Char} (h : ∀ c ∈ cs, c.toNat < 128) : encode cs = cs.map ascii := by
  induction cs with
  | nil => rfl
  | cons c cs ih =>
    rw [encode_cons, encodeChar_ascii (h c List.mem_cons_self), ih fun c hc => h c (List.mem_cons_of_mem _ hc)]
    rfl

theorem latin_toNat (b : UInt8) : (latin b).toNat = b.toNat := by
  have hb := b.toNat_lt
  exact toNat_ofNat_valid (by omega)

theorem ascii_latin (b : UInt8) : ascii (latin b) = b := by
  rw [ascii, latin_toNat]
  simp

theorem latin_ascii {c : Char} (h : c.toNat < 256) : latin (ascii c) = c := by
  rw [← Char.toNat_inj, latin_toNat]
  simp
  omega

theorem toLatin_map_ascii {cs : List Char} (h : ∀ c ∈ cs, c.toNat < 256) : Bytes.toLatin (cs.map ascii) = cs := by
  rw [Bytes.toLatin, List.map_map]
  exact (List.map_congr_left fun c hc => latin_ascii (h c hc)).trans (List.map_id cs)

end Courier.Utf8
