import Courier.Proofs.Template.Segmentation

/-!
# Reading a template by byte positions

A template is held as bytes. Tokens are found at byte positions, the pieces are slices of the bytes, and a slice that
runs backwards, past the end or into the middle of a character is a panic. Here the reading is written down that way,
and none of its slices is such a one.

* `Utf8.isBoundary`, `Utf8.slice?` : where bytes may be cut, and a checked slice of them;
* `Utf8.slice?_offset` : a slice between the offsets of two positions is the text between them;
* `Bytes.find?` : the first position of a byte string in another; `find?_encode_token` : for a token it is the offset of
  the first position in the text;
* `Template.sliced` : the reading; `sliced_eq` : **it never panics, and comes to what `parse` comes to**.
-/

namespace Courier
open String (utf8EncodeChar)

/-! ## Slices of a text -/

namespace Utf8

/-- Whether a byte follows the first one of its character. -/
def isContinuation (b : UInt8) : Bool :=
  0x80 ≤ b && b ≤ 0xBF

/-- Whether bytes can be cut at a position: at their end, or before the first byte of a character. -/
def isBoundary (bs : Bytes) (i : Nat) : Bool :=
  match bs[i]? with
  | some b => !isContinuation b
  | none => i == bs.length

/-- The text between two byte positions. There is none if they are the wrong way round, if one is past the end, or if
one cuts a character. -/
def slice? (bs : Bytes) (i j : Nat) : Option (List Char) :=
  if i ≤ j ∧ isBoundary bs i ∧ isBoundary bs j then decode? ((bs.take j).drop i) else none

/-- The first byte of a character tells that it is the first. -/
theorem exists_encodeChar_eq_cons (c : Char) : ∃ b bs, utf8EncodeChar c = b :: bs ∧ isContinuation b = false := by
  have hout : ∀ b : UInt8, b.toNat < 128 ∨ 191 < b.toNat → isContinuation b = false := by
    intro b hb
    rw [isContinuation, ← Bool.decide_and, decide_eq_false_iff_not, mem_continuation_iff]
    omega
  by_cases h1 : c.toNat < 128
  · exact ⟨_, _, encodeChar_ascii h1, hout _ (by simp; omega)⟩
  by_cases h2 : c.toNat ≤ 2047
  · obtain ⟨b₀, b₁, e, e₀, -⟩ := encodeChar_two ⟨by omega, h2⟩
    exact ⟨_, _, e, hout _ (by omega)⟩
  by_cases h3 : c.toNat ≤ 65535
  · obtain ⟨b₀, b₁, b₂, e, e₀, -⟩ := encodeChar_three ⟨by omega, h3⟩
    exact ⟨_, _, e, hout _ (by omega)⟩
  · obtain ⟨b₀, b₁, b₂, b₃, e, e₀, -⟩ := encodeChar_four (c := c) (by omega)
    exact ⟨_, _, e, hout _ (by omega)⟩

theorem offset_length (text : List Char) : offset text text.length = (encode text).length := by
  rw [offset, List.take_length]

theorem isBoundary_offset (text : List Char) (i : Nat) : isBoundary (encode text) (offset text i) = true := by
  have hd := drop_offset text i
  unfold isBoundary
  cases h : text.drop i with
  | nil =>
    have hl : offset text i = (encode text).length := by
      rw [offset, List.take_of_length_le (List.drop_eq_nil_iff.1 h)]
    rw [hl, List.getElem?_eq_none (Nat.le_refl _), beq_self_eq_true]
  | cons c rest =>
    obtain ⟨b, bs, e, hb⟩ := exists_encodeChar_eq_cons c
    rw [h, encode_cons, e] at hd
    rw [← List.head?_drop, hd, List.cons_append, List.head?_cons]
    simp [hb]

/-- A slice between the offsets of two positions is the text between the positions. -/
theorem slice?_offset (text : List Char) {i j : Nat} (h : i ≤ j) :
    slice? (encode text) (offset text i) (offset text j) = some ((text.take j).drop i) := by
  have ho : offset text i = offset (text.take j) i := by
    rw [offset, offset, List.take_take, min_eq_left h]
  rw [slice?, if_pos ⟨offset_mono text h, isBoundary_offset text i, isBoundary_offset text j⟩, take_offset, ho,
    drop_offset, decode?_eq_some_iff]

theorem offset_lt_iff {text : List Char} {i j : Nat} (hj : j ≤ text.length) :
    offset text i < offset text j ↔ i < j := by
  constructor
  · intro h
    by_contra hji
    have := offset_mono text (Nat.le_of_not_lt hji)
    omega
  · intro h
    -- The character at position `i` has a byte.
    have hs : offset text i < offset text (i + 1) := by
      rw [offset, offset, List.take_succ_eq_append_getElem (by omega), encode_append, List.length_append]
      have : 0 < (encode [text[i]]).length := by
        rw [List.length_pos_iff, ne_eq, encode_eq_nil_iff]
        exact List.cons_ne_nil _ _
      omega
    exact Nat.lt_of_lt_of_le hs (offset_mono text h)

end Utf8

/-! ## The first position of a token in bytes -/

/-- The first position of `token` in `bs`. -/
def Bytes.find? (token bs : Bytes) : Option Nat :=
  (List.range (bs.length + 1)).find? fun i => token.isPrefixOf (bs.drop i)

namespace Bytes

theorem find?_eq_some_iff {token bs : Bytes} {i : Nat} (ht : 0 < token.length) :
    find? token bs = some i ↔ FirstAt token bs i := by
  rw [find?, List.find?_range_eq_some, FirstAt]
  simp only [List.isPrefixOf_iff_prefix, List.mem_range, Bool.not_eq_true', ← Bool.not_eq_true]
  constructor
  · rintro ⟨h, -, hn⟩
    exact ⟨h, hn⟩
  · rintro ⟨h, hn⟩
    have := h.length_le
    rw [List.length_drop] at this
    exact ⟨h, by omega, hn⟩

theorem find?_encode_token (p : Placeholder) (raw : List Char) :
    find? (Utf8.encode p.token) (Utf8.encode raw) = (p.position? raw).map (Utf8.offset raw) := by
  have ht : 0 < (Utf8.encode p.token).length := by
    rw [Placeholder.encode_token]
    exact Nat.zero_lt_two
  cases h : p.position? raw with
  | some i => exact (find?_eq_some_iff ht).2 (Placeholder.position?_eq_some_iff.1 h).encode
  | none =>
    rw [Option.map_none, Option.eq_none_iff_forall_ne_some]
    intro k hk
    obtain ⟨i, -, hi⟩ := Placeholder.encode_token_prefix_drop_iff.1 ((find?_eq_some_iff ht).1 hk).1
    exact Placeholder.position?_eq_none_iff.1 h (infix_iff_exists_prefix_drop.2 ⟨i, hi⟩)

end Bytes

/-! ## The reading -/

namespace Template

/-- The byte position at which each required placeholder is found, or the first one that is missing. -/
def locateBytes (bs : Bytes) : List Placeholder → Except Placeholder (List (Nat × Placeholder))
  | [] => .ok []
  | p :: rest =>
    match Bytes.find? (Utf8.encode p.token) bs with
    | none => .error p
    | some i => (locateBytes bs rest).map ((i, p) :: ·)

/-- The pieces of bytes from position `cursor` on, cut at the given places, or nothing if a slice panics. -/
def cutBytes (bs : Bytes) (cursor : Nat) : List (Nat × Placeholder) → Option (List Segment)
  | [] => if cursor < bs.length then (Utf8.slice? bs cursor bs.length).map fun text => [.literal text] else some []
  | (i, p) :: rest => do
    let front ← if cursor < i then (Utf8.slice? bs cursor i).map fun text => [.literal text] else some []
    let pieces ← cutBytes bs (i + (Utf8.encode p.token).length) rest
    return front ++ .placeholder p :: pieces

/-- Reads a template from its bytes. It comes to nothing if a slice panics. -/
def sliced (required : List Placeholder) (bs : Bytes) : Option (Except Placeholder Template) :=
  match locateBytes bs required with
  | .error p => some (.error p)
  | .ok found => (cutBytes bs 0 (found.mergeSort fun a b => a.1 ≤ b.1)).map fun segments => .ok ⟨segments⟩

/-- A place of a text as a place of its bytes. -/
def toBytes (raw : List Char) (e : Nat × Placeholder) : Nat × Placeholder :=
  (Utf8.offset raw e.1, e.2)

theorem locateBytes_eq (raw : List Char) (required : List Placeholder) :
    locateBytes (Utf8.encode raw) required = (locate raw required).map (List.map (toBytes raw)) := by
  induction required with
  | nil => rfl
  | cons p required ih =>
    rw [locateBytes, locate, Bytes.find?_encode_token, ih]
    cases p.position? raw with
    | none => rfl
    | some i => cases locate raw required <;> rfl

theorem locate_eq_ok_iff {raw : List Char} {required : List Placeholder} {found : List (Nat × Placeholder)} :
    locate raw required = .ok found ↔ found.map Prod.snd = required ∧ ∀ e ∈ found, FirstAt e.2.token raw e.1 := by
  constructor
  · intro h
    induction required generalizing found with
    | nil =>
      cases h
      exact ⟨rfl, List.forall_mem_nil _⟩
    | cons p required ih =>
      rw [locate] at h
      cases hp : p.position? raw with
      | none => simp [hp] at h
      | some i =>
        rw [hp] at h
        cases hl : locate raw required with
        | error q => simp [hl, Except.map] at h
        | ok rest =>
          rw [hl] at h
          cases h
          obtain ⟨hm, hf⟩ := ih hl
          exact ⟨by rw [List.map_cons, hm], List.forall_mem_cons.2 ⟨Placeholder.position?_eq_some_iff.1 hp, hf⟩⟩
  · rintro ⟨rfl, hf⟩
    induction found with
    | nil => rfl
    | cons e found ih =>
      rw [List.map_cons, locate_cons (hf e List.mem_cons_self), ih fun e he => hf e (List.mem_cons_of_mem _ he)]
      rfl

/-- Cut at the byte positions of places of tokens, the bytes fall into the pieces of the text. -/
theorem cutBytes_eq {raw : List Char} {found : List (Nat × Placeholder)}
    (hf : ∀ e ∈ found, e.2.token <+: raw.drop e.1) (cursor : Nat) :
    cutBytes (Utf8.encode raw) (Utf8.offset raw cursor) (found.map (toBytes raw)) = some (cut raw cursor found) := by
  induction found generalizing cursor with
  | nil =>
    rw [List.map_nil, cutBytes, cut, ← Utf8.offset_length]
    simp only [Utf8.offset_lt_iff (Nat.le_refl raw.length)]
    split_ifs with h
    · rw [Utf8.slice?_offset raw (Nat.le_of_lt h), List.take_length, Option.map_some]
    · rfl
  | cons e rest ih =>
    obtain ⟨i, p⟩ := e
    have hi : p.token <+: raw.drop i := hf _ List.mem_cons_self
    have hl := add_two_le_length hi
    have hc : Utf8.offset raw i + (Utf8.encode p.token).length = Utf8.offset raw (i + 2) := by
      rw [Utf8.offset_add_two hi, Placeholder.encode_token]
      rfl
    rw [List.map_cons, toBytes, cutBytes, cut_cons, hc, ih fun e he => hf e (List.mem_cons_of_mem _ he)]
    simp only [Utf8.offset_lt_iff (show i ≤ raw.length by omega)]
    split_ifs with h
    · rw [Utf8.slice?_offset raw (Nat.le_of_lt h)]
      rfl
    · rfl

theorem map_toBytes_mergeSort {raw : List Char} {found : List (Nat × Placeholder)}
    (hf : ∀ e ∈ found, FirstAt e.2.token raw e.1) :
    (found.map (toBytes raw)).mergeSort (fun a b => a.1 ≤ b.1) =
      (found.mergeSort fun a b => a.1 ≤ b.1).map (toBytes raw) := by
  refine (List.map_mergeSort fun a ha b _ => ?_).symm
  have hl := add_two_le_length (hf a ha).1
  have : Utf8.offset raw b.1 < Utf8.offset raw a.1 ↔ b.1 < a.1 := Utf8.offset_lt_iff (by omega)
  rw [decide_eq_decide, toBytes, toBytes]
  dsimp only
  omega

/-- **No slice panics, and the pieces are those of the text.** -/
theorem sliced_eq (required : List Placeholder) (raw : List Char) :
    sliced required (Utf8.encode raw) = some (parse required raw) := by
  rw [sliced, parse, locateBytes_eq]
  cases hl : locate raw required with
  | error p => rfl
  | ok found =>
    have hf := (locate_eq_ok_iff.1 hl).2
    have hs : ∀ e ∈ found.mergeSort fun a b => a.1 ≤ b.1, e.2.token <+: raw.drop e.1 :=
      fun e he => (hf e (List.mem_mergeSort.1 he)).1
    have h0 : Utf8.offset raw 0 = 0 := rfl
    have hc := cutBytes_eq hs 0
    rw [h0, ← map_toBytes_mergeSort hf] at hc
    simp only [Except.map, hc, Option.map_some]

end Template

end Courier
