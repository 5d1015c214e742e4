import Courier.Json.Skip
import Courier.Proofs.Json.Grammar

/-!
# Passing over what is well-formed

* `skipFrom_stay` : bytes that leave the reader where it is;
* `Passes` : what the reader does at each part of a text that is well-formed, one lemma for each way to build one;
* `skip_eq` : a value is passed over, and what follows it is left.
-/

namespace Courier.Json

variable {stack : List Frame} {rest : Bytes}

/-! ## Steps -/

theorem skipFrom_of_go {b : UInt8} {spot spot' : Spot} {stack' : List Frame}
    (h : Move.of b stack spot = .go spot' stack') (rest : Bytes) :
    skipFrom spot stack (b :: rest) = skipFrom spot' stack' rest := by
  rw [skipFrom, h]

theorem skipFrom_of_ended {b : UInt8} {spot : Spot} {stack' : List Frame} (h : Move.of b stack spot = .ended stack')
    (hr : Delimited rest) : skipFrom spot stack (b :: rest) = skipFrom .after stack' rest := by
  rw [skipFrom, h]
  -- With no container open, the reader is done: it would stop before the rest as well.
  cases hr with
  | mk hb =>
    cases stack' with
    | nil => rfl
    | cons frame stack' => rfl

theorem skipFrom_stay {spot : Spot} {bs : Bytes} (h : ∀ b ∈ bs, Move.of b stack spot = .go spot stack) (rest : Bytes) :
    skipFrom spot stack (bs ++ rest) = skipFrom spot stack rest := by
  induction bs with
  | nil => rfl
  | cons b bs ih =>
    rw [List.cons_append, skipFrom_of_go (h b List.mem_cons_self)]
    exact ih fun b hb => h b (List.mem_cons_of_mem _ hb)

theorem skipFrom_blanks {a : Bytes} (ha : Blanks a) (spot : Spot)
    (h : ∀ b, isBlank b = true → Move.of b stack spot = .go spot stack) (rest : Bytes) :
    skipFrom spot stack (a ++ rest) = skipFrom spot stack rest :=
  skipFrom_stay (fun b hb => h b (isBlank_of_mem b (ha b hb))) rest

theorem blanks_value {a : Bytes} (ha : Blanks a) (orEnd : Bool) (stack : List Frame) (rest : Bytes) :
    skipFrom (.value orEnd) stack (a ++ rest) = skipFrom (.value orEnd) stack rest :=
  skipFrom_blanks ha (.value orEnd) (fun _ hb => if_pos hb) rest

theorem blanks_name {a : Bytes} (ha : Blanks a) (orEnd : Bool) (stack : List Frame) (rest : Bytes) :
    skipFrom (.name orEnd) stack (a ++ rest) = skipFrom (.name orEnd) stack rest :=
  skipFrom_blanks ha (.name orEnd) (fun _ hb => if_pos hb) rest

theorem blanks_colon {a : Bytes} (ha : Blanks a) (stack : List Frame) (rest : Bytes) :
    skipFrom .colon stack (a ++ rest) = skipFrom .colon stack rest :=
  skipFrom_blanks ha .colon (fun _ hb => if_pos hb) rest

theorem blanks_after {a : Bytes} (ha : Blanks a) (frame : Frame) (stack : List Frame) (rest : Bytes) :
    skipFrom .after (frame :: stack) (a ++ rest) = skipFrom .after (frame :: stack) rest :=
  @skipFrom_blanks (frame :: stack) a ha .after (fun _ hb => if_pos hb) rest

/-! ## Numbers -/

/-- Where digits may stand in a number, and where the reader is behind one. -/
def digitMoves : List (Spot × Spot) :=
  [(.integer, .integer), (.point, .fraction), (.fraction, .fraction), (.mark, .exponent), (.sign, .exponent),
   (.exponent, .exponent)]

theorem move_of_digit {spot spot' : Spot} (h : (spot, spot') ∈ digitMoves) {d : UInt8} (hd : Digit d)
    (stack : List Frame) : Move.of d stack spot = .go spot' stack := by
  simp only [digitMoves, List.mem_cons, List.not_mem_nil, or_false, Prod.mk.injEq] at h
  simp only [Digit, Bytes.ofLatin, List.map_cons, List.map_nil, List.mem_cons, List.not_mem_nil, or_false] at hd
  rcases h with ⟨rfl, rfl⟩ | ⟨rfl, rfl⟩ | ⟨rfl, rfl⟩ | ⟨rfl, rfl⟩ | ⟨rfl, rfl⟩ | ⟨rfl, rfl⟩ <;>
    rcases hd with rfl | rfl | rfl | rfl | rfl | rfl | rfl | rfl | rfl | rfl <;> rfl

theorem skipFrom_digits {spot spot' : Spot} {ds : Bytes} (hds : Digits ds) (h : (spot, spot') ∈ digitMoves)
    (h' : (spot', spot') ∈ digitMoves) (rest : Bytes) :
    skipFrom spot stack (ds ++ rest) = skipFrom spot' stack rest := by
  obtain ⟨d, ds, rfl⟩ := List.exists_cons_of_ne_nil hds.1
  rw [List.cons_append, skipFrom_of_go (move_of_digit h (hds.2 d List.mem_cons_self) stack)]
  exact skipFrom_stay (fun d hd => move_of_digit h' (hds.2 d (List.mem_cons_of_mem _ hd)) stack) rest

/-- What can follow a value is not part of a number. -/
theorem skipFrom_numberEnd {spot : Spot} (hs : spot ∈ [Spot.zero, .integer, .fraction, .exponent])
    (hr : Delimited rest) : skipFrom spot stack rest = skipFrom .after stack rest := by
  cases hr with
  | @mk b rest hb =>
    have hm : Move.of b stack spot = Move.of b stack .after := by
      simp only [delimiters, blanks, Bytes.ofLatin, List.map_cons, List.map_nil, List.cons_append, List.nil_append,
        List.mem_cons, List.not_mem_nil, or_false] at hb
      simp only [List.mem_cons, List.not_mem_nil, or_false] at hs
      rcases hs with rfl | rfl | rfl | rfl <;> rcases hb with rfl | rfl | rfl | rfl | rfl | rfl | rfl <;> rfl
    rw [skipFrom, skipFrom, hm]

theorem Exponent.skipFrom_eq {e : Bytes} (he : Exponent e) {spot : Spot}
    (hs : spot ∈ [Spot.zero, .integer, .fraction]) (hr : Delimited rest) :
    skipFrom spot stack (e ++ rest) = skipFrom .after stack rest := by
  cases he with
  | none => exact skipFrom_numberEnd (List.mem_append_left [Spot.exponent] hs) hr
  | @digits mark sign ds hmark hsign hds =>
    have hgo : Move.of mark stack spot = .go .mark stack := by
      simp only [List.mem_cons, List.not_mem_nil, or_false] at hs hmark
      rcases hs with rfl | rfl | rfl <;> rcases hmark with rfl | rfl <;> rfl
    have hsigned : skipFrom .mark stack (sign ++ (ds ++ rest)) = skipFrom .exponent stack rest := by
      have hplus : Move.of (ascii '+') stack .mark = .go .sign stack := rfl
      have hminus : Move.of (ascii '-') stack .mark = .go .sign stack := rfl
      simp only [List.mem_cons, List.not_mem_nil, or_false] at hsign
      rcases hsign with rfl | rfl | rfl
      · exact skipFrom_digits hds (by decide) (by decide) rest
      · exact (skipFrom_of_go hplus _).trans (skipFrom_digits hds (by decide) (by decide) rest)
      · exact (skipFrom_of_go hminus _).trans (skipFrom_digits hds (by decide) (by decide) rest)
    rw [List.cons_append, skipFrom_of_go hgo, List.append_assoc, hsigned]
    exact skipFrom_numberEnd (by decide) hr

theorem Fraction.skipFrom_eq {f e : Bytes} (hf : Fraction f) (he : Exponent e) {spot : Spot}
    (hs : spot ∈ [Spot.zero, .integer]) (hr : Delimited rest) :
    skipFrom spot stack (f ++ (e ++ rest)) = skipFrom .after stack rest := by
  cases hf with
  | none => exact he.skipFrom_eq (List.mem_append_left [Spot.fraction] hs) hr
  | @digits ds hds =>
    have hgo : Move.of (ascii '.') stack spot = .go .point stack := by
      simp only [List.mem_cons, List.not_mem_nil, or_false] at hs
      rcases hs with rfl | rfl <;> rfl
    have hdigits : skipFrom .point stack (ds ++ (e ++ rest)) = skipFrom .fraction stack (e ++ rest) :=
      skipFrom_digits hds (by decide) (by decide) _
    rw [List.cons_append, skipFrom_of_go hgo, hdigits]
    exact he.skipFrom_eq (by decide) hr

/-- The digits before the point are read as they are after a sign. -/
theorem Integer.skipFrom_eq {i f e : Bytes} (hi : Integer i) (hf : Fraction f) (he : Exponent e) {spot : Spot}
    (hs : spot = .minus ∨ ∃ orEnd, spot = .value orEnd) (hr : Delimited rest) :
    skipFrom spot stack (i ++ (f ++ (e ++ rest))) = skipFrom .after stack rest := by
  cases hi with
  | zero =>
    have hgo : Move.of (ascii '0') stack spot = .go .zero stack := by
      rcases hs with rfl | ⟨orEnd, rfl⟩ <;> rfl
    exact (skipFrom_of_go hgo _).trans (hf.skipFrom_eq he (by decide) hr)
  | @digits d ds hd hne hds =>
    have hgo : Move.of d stack spot = .go .integer stack := by
      simp only [Digit, Bytes.ofLatin, List.map_cons, List.map_nil, List.mem_cons, List.not_mem_nil, or_false] at hd
      rcases hd with rfl | rfl | rfl | rfl | rfl | rfl | rfl | rfl | rfl | rfl
      -- After a zero no digit may follow, so it has a spot of its own.
      · exact absurd rfl hne
      all_goals rcases hs with rfl | ⟨orEnd, rfl⟩ <;> rfl
    have hstay : ∀ d ∈ ds, Move.of d stack .integer = .go .integer stack := fun d hd =>
      move_of_digit (by decide) (hds d hd) stack
    rw [List.cons_append, skipFrom_of_go hgo, skipFrom_stay hstay]
    exact hf.skipFrom_eq he (by decide) hr

theorem Numeral.skipFrom_eq {n : Bytes} (hn : Numeral n) (orEnd : Bool) (hr : Delimited rest) :
    skipFrom (.value orEnd) stack (n ++ rest) = skipFrom .after stack rest := by
  cases hn with
  | @mk sign i f e hsign hi hf he =>
    simp only [List.append_assoc]
    simp only [List.mem_cons, List.not_mem_nil, or_false] at hsign
    rcases hsign with rfl | rfl
    · exact hi.skipFrom_eq hf he (.inr ⟨orEnd, rfl⟩) hr
    · have hgo : Move.of (ascii '-') stack (.value orEnd) = .go .minus stack := rfl
      exact (skipFrom_of_go hgo _).trans (hi.skipFrom_eq hf he (.inl rfl) hr)

/-! ## Strings -/

theorem FourHex.skipFrom_eq {ds : Bytes} {n : Nat} (hd : FourHex ds n) (isName : Bool) (rest : Bytes) :
    skipFrom (.hex isName 3 true) stack (ds ++ rest) = skipFrom (.text isName) stack rest := by
  have hstep {b : UInt8} {v : Nat} (hb : HexDigit b v) (left : Nat) :
      Move.of b stack (.hex isName (left + 1) true) = .go (.hex isName left true) stack := by
    rw [Move.of, hb.hexValue?]
    rfl
  have hlast {b : UInt8} {v : Nat} (hb : HexDigit b v) :
      Move.of b stack (.hex isName 0 true) = .go (.text isName) stack := by
    rw [Move.of, hb.hexValue?]
    rfl
  cases hd with
  | mk h₁ h₂ h₃ h₄ =>
    exact (skipFrom_of_go (hstep h₁ 2) _).trans <| (skipFrom_of_go (hstep h₂ 1) _).trans <|
      (skipFrom_of_go (hstep h₃ 0) _).trans (skipFrom_of_go (hlast h₄) _)

theorem Body.skipFrom_eq {s : Bytes} (hs : Body s) (isName : Bool) (rest : Bytes) :
    skipFrom (.text isName) stack (s ++ rest) = skipFrom (.text isName) stack rest := by
  induction hs with
  | nil => rfl
  | @plain b bs h₁ h₂ h₃ _ ih =>
    have hgo : Move.of b stack (.text isName) = .go (.text isName) stack := by
      rw [Move.of, if_neg h₂, if_neg h₃, if_neg (UInt8.not_lt.2 h₁)]
    rw [List.cons_append, skipFrom_of_go hgo, ih]
  | @letter e c bs he _ ih =>
    have hgo : Move.of (ascii '\\') stack (.text isName) = .go (.escape isName) stack := rfl
    have hgo' : Move.of (ascii e) stack (.escape isName) = .go (.text isName) stack := by
      simp only [escapes, List.mem_cons, List.not_mem_nil, or_false, Prod.mk.injEq] at he
      rcases he with ⟨rfl, -⟩ | ⟨rfl, -⟩ | ⟨rfl, -⟩ | ⟨rfl, -⟩ | ⟨rfl, -⟩ | ⟨rfl, -⟩ | ⟨rfl, -⟩ | ⟨rfl, -⟩ <;> rfl
    rw [List.cons_append, skipFrom_of_go hgo, List.cons_append, skipFrom_of_go hgo', ih]
  | @number ds bs n hds _ ih =>
    have hgo : Move.of (ascii '\\') stack (.text isName) = .go (.escape isName) stack := rfl
    have hgo' : Move.of (ascii 'u') stack (.escape isName) = .go (.hex isName 3 true) stack := rfl
    rw [List.cons_append, skipFrom_of_go hgo, List.cons_append, skipFrom_of_go hgo', List.append_assoc,
      hds.skipFrom_eq, ih]

theorem Body.skipFrom_quoted {s : Bytes} (hs : Body s) (orEnd : Bool) (hr : Delimited rest) :
    skipFrom (.value orEnd) stack (quoted s ++ rest) = skipFrom .after stack rest := by
  have hgo : Move.of (ascii '"') stack (.value orEnd) = .go (.text false) stack := rfl
  have hended : Move.of (ascii '"') stack (.text false) = .ended stack := rfl
  rw [quoted, List.cons_append, List.append_assoc, skipFrom_of_go hgo, hs.skipFrom_eq]
  exact skipFrom_of_ended hended hr

theorem Body.skipFrom_name {s : Bytes} (hs : Body s) (orEnd : Bool) (rest : Bytes) :
    skipFrom (.name orEnd) stack (quoted s ++ rest) = skipFrom .colon stack rest := by
  have hgo : Move.of (ascii '"') stack (.name orEnd) = .go (.text true) stack := rfl
  have hended : Move.of (ascii '"') stack (.text true) = .go .colon stack := rfl
  rw [quoted, List.cons_append, List.append_assoc, skipFrom_of_go hgo, hs.skipFrom_eq]
  exact skipFrom_of_go hended rest

/-! ## Values -/

theorem skipFrom_word (hr : Delimited rest) (c : Char) (cs : List Char) :
    skipFrom (.word (c :: cs)) stack (Bytes.ofLatin (c :: cs) ++ rest) = skipFrom .after stack rest := by
  induction cs generalizing c with
  | nil =>
    have hended : Move.of (ascii c) stack (.word [c]) = .ended stack := if_pos rfl
    exact skipFrom_of_ended hended hr
  | cons c' cs ih =>
    have hgo : Move.of (ascii c) stack (.word (c :: c' :: cs)) = .go (.word (c' :: cs)) stack := if_pos rfl
    exact (skipFrom_of_go hgo _).trans (ih c')

/-- What the reader does at a part of a text. It passes over a value and stands after it; from the inside of an array or
an object it passes on over the bracket that closes it. -/
def Passes : Part → Bytes → Prop
  | .value, bs => ∀ orEnd stack rest, Delimited rest →
      skipFrom (.value orEnd) stack (bs ++ rest) = skipFrom .after stack rest
  | .elements, bs => ∀ orEnd stack rest, Delimited rest →
      skipFrom (.value orEnd) (.array :: stack) (bs ++ ascii ']' :: rest) = skipFrom .after stack rest
  | .members, bs => ∀ orEnd stack rest, Delimited rest →
      skipFrom (.name orEnd) (.object :: stack) (bs ++ ascii '}' :: rest) = skipFrom .after stack rest

namespace Passes

theorem word {cs : List Char} (h : cs ∈ [['n', 'u', 'l', 'l'], ['t', 'r', 'u', 'e'], ['f', 'a', 'l', 's', 'e']]) :
    Passes .value (Bytes.ofLatin cs) := by
  intro orEnd stack rest hr
  simp only [List.mem_cons, List.not_mem_nil, or_false] at h
  rcases h with rfl | rfl | rfl
  · have hgo : Move.of (ascii 'n') stack (.value orEnd) = .go (.word ['u', 'l', 'l']) stack := rfl
    exact (skipFrom_of_go hgo _).trans (skipFrom_word hr _ _)
  · have hgo : Move.of (ascii 't') stack (.value orEnd) = .go (.word ['r', 'u', 'e']) stack := rfl
    exact (skipFrom_of_go hgo _).trans (skipFrom_word hr _ _)
  · have hgo : Move.of (ascii 'f') stack (.value orEnd) = .go (.word ['a', 'l', 's', 'e']) stack := rfl
    exact (skipFrom_of_go hgo _).trans (skipFrom_word hr _ _)

theorem emptyArray {a : Bytes} (ha : Blanks a) : Passes .value (ascii '[' :: (a ++ [ascii ']'])) := by
  intro orEnd stack rest hr
  have hopen : Move.of (ascii '[') stack (.value orEnd) = .go (.value true) (.array :: stack) := rfl
  have hclose : Move.of (ascii ']') (.array :: stack) (.value true) = .ended stack := rfl
  rw [List.cons_append, skipFrom_of_go hopen, List.append_assoc, blanks_value ha]
  exact skipFrom_of_ended hclose hr

theorem array {es : Bytes} (h : Passes .elements es) : Passes .value (ascii '[' :: (es ++ [ascii ']'])) := by
  intro orEnd stack rest hr
  have hopen : Move.of (ascii '[') stack (.value orEnd) = .go (.value true) (.array :: stack) := rfl
  rw [List.cons_append, skipFrom_of_go hopen, List.append_assoc]
  exact h true stack rest hr

theorem emptyObject {a : Bytes} (ha : Blanks a) : Passes .value (ascii '{' :: (a ++ [ascii '}'])) := by
  intro orEnd stack rest hr
  have hopen : Move.of (ascii '{') stack (.value orEnd) = .go (.name true) (.object :: stack) := rfl
  have hclose : Move.of (ascii '}') (.object :: stack) (.name true) = .ended stack := rfl
  rw [List.cons_append, skipFrom_of_go hopen, List.append_assoc, blanks_name ha]
  exact skipFrom_of_ended hclose hr

theorem object {ms : Bytes} (h : Passes .members ms) : Passes .value (ascii '{' :: (ms ++ [ascii '}'])) := by
  intro orEnd stack rest hr
  have hopen : Move.of (ascii '{') stack (.value orEnd) = .go (.name true) (.object :: stack) := rfl
  rw [List.cons_append, skipFrom_of_go hopen, List.append_assoc]
  exact h true stack rest hr

theorem value_in {a v d : Bytes} (ha : Blanks a) (hv : Passes .value v) (hd : Blanks d) (orEnd : Bool) (frame : Frame)
    (stack : List Frame) {b : UInt8} (hb : b ∈ delimiters) (rest : Bytes) :
    skipFrom (.value orEnd) (frame :: stack) (a ++ (v ++ (d ++ b :: rest))) =
      skipFrom .after (frame :: stack) (b :: rest) := by
  rw [blanks_value ha, hv orEnd _ _ (hd.delimited_append (.mk hb)), blanks_after hd]

theorem entry_in {s v m : Bytes} (hs : Body s) (hv : Passes .value v) (hm : Entry s v m) (orEnd : Bool) (frame : Frame)
    (stack : List Frame) {b : UInt8} (hb : b ∈ delimiters) (rest : Bytes) :
    skipFrom (.name orEnd) (frame :: stack) (m ++ b :: rest) = skipFrom .after (frame :: stack) (b :: rest) := by
  cases hm with
  | mk ha hb' hc hd =>
    have hcolon : Move.of (ascii ':') (frame :: stack) .colon = .go (.value false) (frame :: stack) := rfl
    simp only [List.append_assoc, List.cons_append]
    rw [blanks_name ha, hs.skipFrom_name, blanks_colon hb', skipFrom_of_go hcolon]
    exact value_in hc hv hd false frame stack hb rest

theorem element {a v d : Bytes} (ha : Blanks a) (hv : Passes .value v) (hd : Blanks d) :
    Passes .elements (a ++ (v ++ d)) := by
  intro orEnd stack rest hr
  have hclose : Move.of (ascii ']') (.array :: stack) .after = .ended stack := rfl
  simp only [List.append_assoc]
  rw [value_in ha hv hd orEnd .array stack (by decide)]
  exact skipFrom_of_ended hclose hr

theorem elements {a v d es : Bytes} (ha : Blanks a) (hv : Passes .value v) (hd : Blanks d) (he : Passes .elements es) :
    Passes .elements (a ++ (v ++ (d ++ ascii ',' :: es))) := by
  intro orEnd stack rest hr
  have hcomma : Move.of (ascii ',') (.array :: stack) .after = .go (.value false) (.array :: stack) := rfl
  simp only [List.append_assoc, List.cons_append]
  rw [value_in ha hv hd orEnd .array stack (by decide), skipFrom_of_go hcomma]
  exact he false stack rest hr

theorem member {s v m : Bytes} (hs : Body s) (hv : Passes .value v) (hm : Entry s v m) : Passes .members m := by
  intro orEnd stack rest hr
  have hclose : Move.of (ascii '}') (.object :: stack) .after = .ended stack := rfl
  rw [entry_in hs hv hm orEnd .object stack (by decide)]
  exact skipFrom_of_ended hclose hr

theorem members {s v m ms : Bytes} (hs : Body s) (hv : Passes .value v) (hm : Entry s v m)
    (h : Passes .members ms) : Passes .members (m ++ ascii ',' :: ms) := by
  intro orEnd stack rest hr
  have hcomma : Move.of (ascii ',') (.object :: stack) .after = .go (.name false) (.object :: stack) := rfl
  rw [List.append_assoc, List.cons_append, entry_in hs hv hm orEnd .object stack (by decide), skipFrom_of_go hcomma]
  exact h false stack rest hr

end Passes

/-- Every part of a well-formed text is passed over, by the way it is built. -/
theorem Well.passes {part : Part} {bs : Bytes} (h : Well part bs) : Passes part bs := by
  induction h with
  | word h => exact .word h
  | number h => exact fun orEnd _ _ hr => h.skipFrom_eq orEnd hr
  | text h => exact fun orEnd _ _ hr => h.skipFrom_quoted orEnd hr
  | emptyArray ha => exact .emptyArray ha
  | array _ ih => exact .array ih
  | emptyObject ha => exact .emptyObject ha
  | object _ ih => exact .object ih
  | element ha _ hd ih => exact .element ha ih hd
  | elements ha _ hd _ ihv ih => exact .elements ha ihv hd ih
  | member hs _ hm ih => exact .member hs ih hm
  | members hs _ hm _ ihv ih => exact .members hs ihv hm ih

theorem skip_eq {a v : Bytes} (ha : Blanks a) (hv : Well .value v) (hr : Delimited rest) :
    skip (a ++ (v ++ rest)) = .ok rest := by
  rw [skip, blanks_value ha, hv.passes false [] rest hr]
  cases hr with
  | mk hb => rfl

end Courier.Json
