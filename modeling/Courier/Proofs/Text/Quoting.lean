import Courier.Text.Quoted
import Mathlib.Tactic

/-!
# Reading quoted text back

* `IsControl` : the control characters; `not_isControl_of_mem_quote` : there are none in a quoted text;
* `readNumber_hexDigits` : a number is read from its hexadecimal digits;
* `unescape?` : the character that a text between quotes starts with; `unescape?_escapeChar` : it is the one that was
  written there, whatever follows;
* `readQuoted` : a text up to its closing quote; `readQuoted_flatMap` : a text is read back from between its quotes;
* `quote_append_inj` : so what stands between quotes, and what follows them, can be told from the whole.
-/

namespace Courier.Text

/-! ## Controls -/

/-- The control characters. -/
def IsControl (c : Char) : Prop :=
  c.toNat < 0x20 ∨ 0x7F ≤ c.toNat ∧ c.toNat ≤ 0x9F

instance : DecidablePred IsControl := fun _ => inferInstanceAs (Decidable (_ ∨ _))

theorem not_isControl_of_all {cs : List Char} (h : (cs.all fun c => ¬ IsControl c) = true) :
    ∀ c ∈ cs, ¬ IsControl c :=
  fun c hc => of_decide_eq_true (List.all_eq_true.1 h c hc)

theorem isUnprintable_of_isControl {c : Char} (h : IsControl c) : isUnprintable c = true := by
  -- The first two ranges of the table hold all controls.
  obtain ⟨rest, hr⟩ : ∃ rest, unprintableRanges = (0x0, 0x1F) :: (0x7F, 0xA0) :: rest := ⟨_, rfl⟩
  unfold IsControl at h
  rw [isUnprintable, hr, Ranges.contains, Ranges.contains, if_neg (Nat.not_lt_zero _)]
  split_ifs <;> first | rfl | omega

theorem exists_of_mem_hexDigits {n : Nat} {d : Char} (h : d ∈ hexDigits n) : ∃ v < 16, d = hexDigit v := by
  induction n using hexDigits.induct with
  | case1 n hn =>
    rw [hexDigits, if_pos hn, List.mem_singleton] at h
    exact ⟨n, hn, h⟩
  | case2 n hn ih =>
    rw [hexDigits, if_neg hn, List.mem_append, List.mem_singleton] at h
    rcases h with h | h
    · exact ih h
    · exact ⟨n % 16, Nat.mod_lt _ (by decide), h⟩

theorem not_isControl_hexDigit : ∀ v < 16, ¬ IsControl (hexDigit v) := by
  decide

/-- Whatever has no form of its own is written by its number, and digits have one. -/
theorem not_isControl_of_mem_escapeChar {c d : Char} (h : d ∈ escapeChar c) : ¬ IsControl d := by
  have hascii : ∀ d ∈ ['\\', '0', 't', 'n', 'r', '"', 'u', '{', '}'], ¬ IsControl d :=
    not_isControl_of_all (by decide)
  unfold escapeChar at h
  split_ifs at h with h₀ h₁ h₂ h₃ h₄ h₅ h₆
  iterate 6
    · simp only [List.mem_cons, List.not_mem_nil, or_false] at h
      rcases h with rfl | rfl <;> exact hascii _ (by decide)
  · simp only [escapeNumber, List.mem_append, List.mem_cons, List.not_mem_nil, or_false] at h
    rcases h with ((rfl | rfl | rfl) | h) | rfl
    · exact hascii _ (by decide)
    · exact hascii _ (by decide)
    · exact hascii _ (by decide)
    · obtain ⟨v, hv, rfl⟩ := exists_of_mem_hexDigits h
      exact not_isControl_hexDigit v hv
    · exact hascii _ (by decide)
  · obtain rfl := List.mem_singleton.1 h
    intro hc
    exact h₆ (by rw [isUnprintable_of_isControl hc, Bool.or_true])

theorem not_isControl_of_mem_quote {cs : List Char} {d : Char} (h : d ∈ quote cs) : ¬ IsControl d := by
  have hq : ¬ IsControl '"' := by decide
  rw [quote, List.cons_append, List.mem_cons, List.mem_append, List.mem_flatMap, List.mem_singleton] at h
  rcases h with rfl | ⟨c, -, h⟩ | rfl
  · exact hq
  · exact not_isControl_of_mem_escapeChar h
  · exact hq

/-! ## Reading a character -/

/-- The value of a hexadecimal digit. -/
def digitValue? (c : Char) : Option Nat :=
  (List.range 16).find? fun v => hexDigit v = c

/-- Reads the digits up to a closing brace, onto the number read so far. -/
def readNumber (n : Nat) : List Char → Option (Nat × List Char)
  | [] => none
  | c :: rest => if c = '}' then some (n, rest) else (digitValue? c).bind fun v => readNumber (n * 16 + v) rest

/-- What the letter of a short escape stands for. -/
def shortEscapes : List (Char × Char) :=
  [('0', '\x00'), ('t', '\t'), ('n', '\n'), ('r', '\r'), ('"', '"'), ('\\', '\\')]

/-- The character that a text between quotes starts with, and what follows it. -/
def unescape? : List Char → Option (Char × List Char)
  | '\\' :: 'u' :: '{' :: rest => (readNumber 0 rest).map fun r => (Char.ofNat r.1, r.2)
  | '\\' :: e :: rest => (shortEscapes.lookup e).map fun c => (c, rest)
  | '\\' :: [] => none
  | '"' :: _ => none
  | c :: rest => some (c, rest)
  | [] => none

theorem digitValue?_hexDigit : ∀ v < 16, digitValue? (hexDigit v) = some v ∧ hexDigit v ≠ '}' := by
  decide

theorem readNumber_hexDigit {v : Nat} (hv : v < 16) (n : Nat) (rest : List Char) :
    readNumber n (hexDigit v :: rest) = readNumber (n * 16 + v) rest := by
  obtain ⟨h, hne⟩ := digitValue?_hexDigit v hv
  rw [readNumber, if_neg hne, h, Option.bind_some]

theorem readNumber_hexDigits (m : Nat) (rest : List Char) :
    readNumber 0 (hexDigits m ++ rest) = readNumber m rest := by
  induction m using hexDigits.induct generalizing rest with
  | case1 m hm => rw [hexDigits, if_pos hm, List.singleton_append, readNumber_hexDigit hm, Nat.zero_mul, Nat.zero_add]
  | case2 m hm ih =>
    have hmod : m % 16 < 16 := Nat.mod_lt _ (by decide)
    rw [hexDigits, if_neg hm, List.append_assoc, ih, List.singleton_append, readNumber_hexDigit hmod,
      Nat.div_add_mod']

theorem unescape?_escapeNumber (c : Char) (rest : List Char) : unescape? (escapeNumber c ++ rest) = some (c, rest) := by
  have h : unescape? (escapeNumber c ++ rest) =
      (readNumber 0 (hexDigits c.toNat ++ '}' :: rest)).map fun r => (Char.ofNat r.1, r.2) := by
    simp [escapeNumber, unescape?]
  rw [h, readNumber_hexDigits, readNumber, if_pos rfl, Option.map_some, Char.ofNat_toNat]

theorem unescape?_plain {c : Char} (hq : c ≠ '"') (hb : c ≠ '\\') (rest : List Char) :
    unescape? (c :: rest) = some (c, rest) := by
  simp [unescape?, hb]

/-- **The character that was written is read back**, whatever follows it. -/
theorem unescape?_escapeChar (c : Char) (rest : List Char) : unescape? (escapeChar c ++ rest) = some (c, rest) := by
  unfold escapeChar
  split_ifs with h₀ h₁ h₂ h₃ h₄ h₅ h₆
  iterate 6
    · subst c
      rfl
  · exact unescape?_escapeNumber c rest
  · exact unescape?_plain h₄ h₅ rest

/-! ## Reading a text -/

theorem length_of_readNumber {n m : Nat} {text rest : List Char} (h : readNumber n text = some (m, rest)) :
    rest.length < text.length := by
  induction text generalizing n with
  | nil => cases h
  | cons c text ih =>
    rw [readNumber] at h
    split_ifs at h with hc
    · cases h
      exact Nat.lt_succ_self _
    · obtain ⟨v, -, h⟩ := Option.bind_eq_some_iff.1 h
      exact Nat.lt_succ_of_lt (ih h)

theorem length_of_unescape? {c : Char} {text rest : List Char} (h : unescape? text = some (c, rest)) :
    rest.length < text.length := by
  unfold unescape? at h
  split at h
  · obtain ⟨⟨n, rest'⟩, hr, h⟩ := Option.map_eq_some_iff.1 h
    cases h
    have := length_of_readNumber hr
    simp only [List.length_cons]
    omega
  · obtain ⟨c', -, h⟩ := Option.map_eq_some_iff.1 h
    cases h
    simp only [List.length_cons]
    omega
  · cases h
  · cases h
  · cases h
    exact Nat.lt_succ_self _
  · cases h

/-- Reads a text up to its closing quote, with what follows the quote. -/
def readQuoted (text : List Char) : Option (List Char × List Char) :=
  if text.head? = some '"' then some ([], text.tail)
  else match _h : unescape? text with
    | none => none
    | some (c, rest) => (readQuoted rest).map fun r => (c :: r.1, r.2)
termination_by text.length
decreasing_by exact length_of_unescape? _h

/-- **Between the quotes, a text is read back**, whatever it holds and whatever follows the quotes. -/
theorem readQuoted_flatMap (cs rest : List Char) :
    readQuoted (cs.flatMap escapeChar ++ '"' :: rest) = some (cs, rest) := by
  induction cs with
  | nil => rw [List.flatMap_nil, List.nil_append, readQuoted, List.head?_cons, if_pos rfl, List.tail_cons]
  | cons c cs ih =>
    have hc := unescape?_escapeChar c (cs.flatMap escapeChar ++ '"' :: rest)
    -- No character is written with a quote in front, since none could be read there.
    have hq : (escapeChar c ++ (cs.flatMap escapeChar ++ '"' :: rest)).head? ≠ some '"' := by
      intro h
      obtain ⟨more, hm⟩ := List.head?_eq_some_iff.1 h
      rw [hm] at hc
      cases hc
    rw [List.flatMap_cons, List.append_assoc, readQuoted, if_neg hq]
    split
    · next h => rw [hc] at h; cases h
    · next h =>
      rw [hc] at h
      cases h
      rw [ih]
      rfl

/-- Texts that start with a quoted text have the same one there, and the same behind it. -/
theorem quote_append_inj {cs cs' rest rest' : List Char} (h : quote cs ++ rest = quote cs' ++ rest') :
    cs = cs' ∧ rest = rest' := by
  simp only [quote, List.cons_append, List.append_assoc, List.nil_append, List.cons.injEq, true_and] at h
  have hr := readQuoted_flatMap cs rest
  rw [h, readQuoted_flatMap] at hr
  cases hr
  exact ⟨rfl, rfl⟩

end Courier.Text
