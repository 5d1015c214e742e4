import Courier.Proofs.Wire.Field
import Courier.Proofs.Wire.Target
import Courier.TestServer.Basic

/-!
# Paths that end in a number

* `number_eq` : the number that is read from digits, as far as it is below the limit;
* `Numbered` : the routes of such paths; `answer_of_get` : a `GET` is answered by its route;
* `generated_prefix`, `getElem_generated` : the letters of a made body;
* `Inquiry.Asks` : a `GET` of a path with digits at its end; `MakesBytes`, `SaysStatus` : what is answered, by the number
  that the digits write;
* `numbers_are_answered` : the result for all digits.
-/

namespace Courier.TestServer
open Wire (Digits)

/-! ## Digits in a path -/

theorem byte_of_isDigit {d : Char} (h : d.isDigit = true) :
    ascii d ≠ ascii '%' ∧ ascii d ≠ ascii '/' ∧ Wire.Target.isPathByte (ascii d) = true := by
  obtain ⟨h₁, h₂⟩ := Char.isDigit_iff_toNat.1 h
  have hall : ∀ n < 58, 48 ≤ n → Nat.toUInt8 n ≠ ascii '%' ∧ Nat.toUInt8 n ≠ ascii '/' ∧
      Wire.Target.isPathByte (Nat.toUInt8 n) = true := by decide
  exact hall d.toNat (Nat.lt_succ_of_le h₂) h₁

theorem lt_of_isDigit {d : Char} (h : d.isDigit = true) : d.toNat < 128 :=
  Nat.lt_of_le_of_lt (Char.isDigit_iff_toNat.1 h).2 (by decide)

theorem exists_of_mem_encode {ds : List Char} (h : ∀ d ∈ ds, d.isDigit = true) {b : UInt8}
    (hb : b ∈ Utf8.encode ds) : ∃ d ∈ ds, b = ascii d := by
  rw [Utf8.encode_of_ascii fun d hd => lt_of_isDigit (h d hd)] at hb
  obtain ⟨d, hd, rfl⟩ := List.mem_map.1 hb
  exact ⟨d, hd, rfl⟩

theorem unescape_cons_of_ne {b : UInt8} (h : b ≠ ascii '%') (rest : Bytes) :
    unescape (b :: rest) = b :: unescape rest := by
  match rest with
  | [] => rfl
  | [_] => rfl
  | c :: d :: rest => rw [unescape, if_neg (by simpa using h)]

theorem unescape_eq_self {bs : Bytes} (h : ascii '%' ∉ bs) : unescape bs = bs := by
  induction bs with
  | nil => rfl
  | cons b bs ih =>
    rw [List.mem_cons, not_or] at h
    rw [unescape_cons_of_ne (Ne.symm h.1), ih h.2]

theorem number_eq {ds : List Char} {n : Nat} (h : Digits ds n) (limit : Nat) :
    number limit (Utf8.encode ds) = if n < limit then .ok n else .error (.notNumber (String.ofList ds)) := by
  have hplain : ascii '%' ∉ Utf8.encode ds := by
    intro hb
    obtain ⟨d, hd, he⟩ := exists_of_mem_encode h.2.1 hb
    exact (byte_of_isDigit (h.2.1 d hd)).1 he.symm
  rw [number, unescape_eq_self hplain, Utf8.decode?_eq_some_iff.2 rfl]
  dsimp only
  rw [h.natural?_eq]
  split_ifs <;> rfl

/-! ## Routes -/

theorem lastPart?_append {front : String} {part : Bytes} (hne : part ≠ []) (hslash : ascii '/' ∉ part) :
    Route.lastPart? front (Utf8.encode front.toList ++ part) = some part := by
  have hfront : (Utf8.encode front.toList).isPrefixOf (Utf8.encode front.toList ++ part) = true :=
    List.isPrefixOf_iff_prefix.2 (List.prefix_append _ _)
  have hpart : part.isEmpty = false ∧ part.contains (ascii '/') = false :=
    ⟨List.isEmpty_eq_false_iff.2 hne, Bool.eq_false_iff.2 fun h => hslash (List.contains_iff_mem.1 h)⟩
  unfold Route.lastPart?
  dsimp only
  rw [List.drop_left, hfront, hpart.1, hpart.2]
  rfl

/-- The routes that end in a number, by what stands in front of it. -/
inductive Numbered : String → (Bytes → Route) → Prop
  | bytes : Numbered "/bytes/" .bytes
  | status : Numbered "/status/" .status

theorem ofPath?_append {front : String} {route : Bytes → Route} (h : Numbered front route) {part : Bytes}
    (hne : part ≠ []) (hslash : ascii '/' ∉ part) :
    Route.ofPath? (Utf8.encode front.toList ++ part) = some (route part) := by
  -- The routes that are tried first have other letters, whatever the part is.
  have hother (s : String) (hs : s = "/echo" ∨ s = "/empty" ∨ s = "/redirect") :
      ¬ (Utf8.encode front.toList ++ part == Utf8.encode s.toList) = true := by
    cases h <;> rcases hs with rfl | rfl | rfl <;> exact Bool.false_ne_true
  rw [Route.ofPath?, if_neg (hother "/echo" (.inl rfl)), if_neg (hother "/empty" (.inr (.inl rfl))),
    if_neg (hother "/redirect" (.inr (.inr rfl)))]
  cases h with
  | bytes =>
    have hstatus : Route.lastPart? "/status/" (Utf8.encode "/bytes/".toList ++ part) = none := rfl
    rw [hstatus, lastPart?_append hne hslash]
  | status => rw [lastPart?_append hne hslash]

theorem answer_of_get {q : Inquiry} {r : Route} (hm : q.method = Utf8.encode "GET".toList)
    (hr : Route.ofPath? q.target.fullPath = some r) : answer q = (r.answer q).withLength := by
  have hget : String.ofList (Bytes.toLatin (Utf8.encode "GET".toList)) = "GET" := by decide
  have hmethods : r.methods.contains "GET" = true := by
    rw [Route.methods]
    rfl
  rw [answer, hr, hm, hget]
  dsimp only
  rw [hmethods]
  rfl

/-! ## Made bodies -/

theorem length_generated (n : Nat) : (generated n).length = n := by
  rw [generated, List.length_map, List.length_range]

theorem getElem_generated {n i : Nat} (h : i < (generated n).length) :
    (generated n)[i].toNat = 'a'.toNat + i % 26 := by
  have hi : 97 + i % 26 < 256 := by omega
  simp only [generated, List.getElem_map, List.getElem_range]
  exact Nat.mod_eq_of_lt hi

theorem generated_prefix {n m : Nat} (h : n ≤ m) : generated n <+: generated m := by
  have htake : List.range n = (List.range m).take n := by rw [List.take_range, Nat.min_eq_left h]
  rw [generated, generated, htake]
  exact (List.take_prefix n _).map _

/-! ## Answers -/

theorem toList_append_toString (s : String) (n : Nat) : (s ++ toString n).toList = s.toList ++ Nat.toDigits 10 n := by
  rw [String.toList_append, Nat.toString_eq_repr, Nat.toList_repr]

/-- A `GET` of a path that is some front with digits behind it. -/
structure Inquiry.Asks (q : Inquiry) (front : String) (ds : List Char) : Prop where
  method : q.method = Utf8.encode "GET".toList
  path : q.target.fullPath = Utf8.encode (front.toList ++ ds)

/-- The answer to a number of bytes: so many letters, from `a` to `z` over and over again, unless that is more than the
server makes, or more than the machine can count. -/
inductive MakesBytes (n : Nat) (a : Answer) : Prop
  | made : n ≤ 2 ^ 20 → a.status = 200 → a.body.length = n →
      (∀ i (h : i < a.body.length), a.body[i].toNat = 'a'.toNat + i % 26) → MakesBytes n a
  | tooMany : 2 ^ 20 < n → n < 2 ^ 64 → a.status = 413 → a.body = [] → MakesBytes n a
  | noNumber : 2 ^ 64 ≤ n → a.status = 400 → MakesBytes n a

/-- The answer to the number of a status: that status, if there is one, and a text that says the number. -/
inductive SaysStatus (n : Nat) (a : Answer) : Prop
  | status : 100 ≤ n → n ≤ 999 → a.status = n → a.body = Utf8.encode ("status ".toList ++ Nat.toDigits 10 n) →
      SaysStatus n a
  | noStatus : n < 100 ∨ 999 < n → n < 2 ^ 16 → a.status = 400 →
      a.body = Utf8.encode ("invalid status ".toList ++ Nat.toDigits 10 n) → SaysStatus n a
  | noNumber : 2 ^ 16 ≤ n → a.status = 400 → SaysStatus n a

theorem asks_of_path (front : String) (ds : List Char) (fields : Wire.Fields) (body : Bytes) : Inquiry.Asks
    ⟨Utf8.encode "GET".toList, ⟨none, [], Utf8.encode (front.toList ++ ds), none⟩, fields, body⟩ front ds := by
  refine ⟨rfl, ?_⟩
  rw [Wire.Target.fullPath, Option.isSome_none, Bool.and_false, if_neg Bool.false_ne_true]

section Answers
variable {q : Inquiry} {ds : List Char} {n : Nat}

/-- Digits are one part of a path, so the route in front of them answers. -/
theorem answer_of_asks {front : String} {route : Bytes → Route} (hr : Numbered front route) (hq : q.Asks front ds)
    (h : Digits ds n) : answer q = ((route (Utf8.encode ds)).answer q).withLength := by
  have hne : Utf8.encode ds ≠ [] := fun he => h.1 (Utf8.encode_eq_nil_iff.1 he)
  have hslash : ascii '/' ∉ Utf8.encode ds := by
    intro hb
    obtain ⟨d, hd, he⟩ := exists_of_mem_encode h.2.1 hb
    exact (byte_of_isDigit (h.2.1 d hd)).2.1 he.symm
  refine answer_of_get hq.method ?_
  rw [hq.path, Utf8.encode_append, ofPath?_append hr hne hslash]

theorem answer_bytes_of_le (hq : q.Asks "/bytes/" ds) (h : Digits ds n) (hn : n ≤ maxGenerated) :
    answer q = (Answer.ofBytes 200 "application/octet-stream" (generated n)).withLength := by
  have hlimit : n < limit64 := Nat.lt_of_le_of_lt hn (by decide)
  rw [answer_of_asks .bytes hq h, Route.answer, number_eq h, if_pos hlimit]
  dsimp only
  rw [if_neg (Nat.not_lt.2 hn)]

theorem makesBytes_answer (hq : q.Asks "/bytes/" ds) (h : Digits ds n) : MakesBytes n (answer q) := by
  have hmax : maxGenerated = 2 ^ 20 := by decide
  have hlimit : limit64 = 2 ^ 64 := by decide
  rcases Nat.lt_or_ge n limit64 with hn | hn
  · rcases Nat.lt_or_ge maxGenerated n with hm | hm
    · rw [answer_of_asks .bytes hq h, Route.answer, number_eq h, if_pos hn]
      dsimp only
      rw [if_pos hm]
      exact .tooMany (hmax ▸ hm) (hlimit ▸ hn) rfl rfl
    · rw [answer_bytes_of_le hq h hm]
      exact .made (hmax ▸ hm) rfl (length_generated n) fun i hi => getElem_generated hi
  · rw [answer_of_asks .bytes hq h, Route.answer, number_eq h, if_neg (Nat.not_lt.2 hn)]
    exact .noNumber (hlimit ▸ hn) rfl

theorem saysStatus_answer (hq : q.Asks "/status/" ds) (h : Digits ds n) : SaysStatus n (answer q) := by
  have hlimit : limit16 = 2 ^ 16 := by decide
  rw [answer_of_asks .status hq h, Route.answer, number_eq h]
  rcases Nat.lt_or_ge n limit16 with hn | hn
  · rw [if_pos hn]
    dsimp only
    split_ifs with hs
    · exact .status hs.1 hs.2 rfl (congrArg Utf8.encode (toList_append_toString "status " n))
    · exact .noStatus (by omega) (hlimit ▸ hn) rfl (congrArg Utf8.encode (toList_append_toString "invalid status " n))
  · rw [if_neg (Nat.not_lt.2 hn)]
    exact .noNumber (hlimit ▸ hn) rfl

end Answers

theorem parse?_numbered {front : String} {ds : List Char} (hf : front = "/bytes/" ∨ front = "/status/")
    (h : ∀ d ∈ ds, d.isDigit = true) (hl : front.toList.length + ds.length ≤ Wire.Target.maxLength) :
    Wire.Target.parse? (Utf8.encode (front.toList ++ ds)) =
      some ⟨none, [], Utf8.encode (front.toList ++ ds), none⟩ := by
  have hfront : (Utf8.encode front.toList).length = front.toList.length ∧
      (Utf8.encode front.toList).head? = some (ascii '/') ∧
      (Utf8.encode front.toList).all Wire.Target.isPathByte = true := by
    rcases hf with rfl | rfl <;> decide
  obtain ⟨hlength, hhead, hbytes⟩ := hfront
  have hdigits : Utf8.encode ds = ds.map ascii := Utf8.encode_of_ascii fun d hd => lt_of_isDigit (h d hd)
  refine Wire.Target.parse?_of_path ?_ ?_ (fun b hb => ?_) ⟨_, rfl⟩
  · rw [Utf8.encode_append, List.head?_append, hhead]
    rfl
  · rwa [Utf8.encode_append, List.length_append, hlength, hdigits, List.length_map]
  · rw [Utf8.encode_append, List.mem_append] at hb
    rcases hb with hb | hb
    · exact List.all_eq_true.1 hbytes b hb
    · obtain ⟨d, hd, rfl⟩ := exists_of_mem_encode h hb
      exact (byte_of_isDigit (h d hd)).2.2

/-- **Numbers in paths are answered right at every bound.** Digits write a number, with any zeros in front. A `GET` of
`/bytes/` and the digits is answered with so many letters, with status 413 if they are too many, and with status 400 if
the number is too large to be read; the letters for a number stand in front of those for any larger one. A `GET` of
`/status/` and the digits is answered with that status, or with status 400. As many digits as a target has room for can be
asked about. -/
theorem numbers_are_answered {ds : List Char} {n : Nat} (h : Digits ds n) :
    (∀ q : Inquiry, q.Asks "/bytes/" ds → MakesBytes n (answer q)) ∧
    (∀ q : Inquiry, q.Asks "/status/" ds → SaysStatus n (answer q)) ∧
    (∀ (es : List Char) (m : Nat), Digits es m → n ≤ m → m ≤ 2 ^ 20 → ∀ q r : Inquiry, q.Asks "/bytes/" ds →
      r.Asks "/bytes/" es → (answer q).body <+: (answer r).body) ∧
    ∀ front : String, front = "/bytes/" ∨ front = "/status/" → front.toList.length + ds.length ≤ 65534 →
      ∃ t : Wire.Target, Wire.Target.parse? (Utf8.encode (front.toList ++ ds)) = some t ∧
        ∀ fields body, Inquiry.Asks ⟨Utf8.encode "GET".toList, t, fields, body⟩ front ds := by
  refine ⟨fun q hq => makesBytes_answer hq h, fun q hq => saysStatus_answer hq h, ?_, ?_⟩
  · intro es m hm hle hmax q r hq hr
    have hlimit : 2 ^ 20 = maxGenerated := by decide
    rw [hlimit] at hmax
    rw [answer_bytes_of_le hq h (Nat.le_trans hle hmax), answer_bytes_of_le hr hm hmax]
    exact generated_prefix hle
  · intro front hf hl
    exact ⟨_, parse?_numbered hf h.2.1 hl, asks_of_path front ds⟩

/-- A hundred with a zero in front, a thousand, which is no status, and the first number that is too large for the
machine. -/
theorem numbers_are_answered_bounds :
    let q (front : String) (ds : List Char) : Inquiry :=
      ⟨Utf8.encode "GET".toList, ⟨none, [], Utf8.encode (front.toList ++ ds), none⟩, [], []⟩
    let hundred : List Char := "0100".toList
    let thousand : List Char := "1000".toList
    let huge : List Char := "18446744073709551616".toList
    Digits hundred 100 ∧ Digits thousand 1000 ∧ Digits huge (2 ^ 64) ∧ (∀ front ds, (q front ds).Asks front ds) ∧
      (answer (q "/bytes/" hundred)).status = 200 ∧ (answer (q "/bytes/" hundred)).body.length = 100 ∧
      (answer (q "/bytes/" hundred)).body <+: (answer (q "/bytes/" thousand)).body ∧
      (answer (q "/status/" hundred)).status = 100 ∧
      (answer (q "/status/" hundred)).body = Utf8.encode "status 100".toList ∧
      (answer (q "/status/" thousand)).status = 400 ∧
      (answer (q "/status/" thousand)).body = Utf8.encode "invalid status 1000".toList ∧
      (answer (q "/bytes/" huge)).status = 400 ∧ (answer (q "/status/" huge)).status = 400 ∧
      ∃ t, Wire.Target.parse? (Utf8.encode ("/bytes/".toList ++ huge)) = some t := by
  intro q hundred thousand huge
  have hhundred : Digits hundred 100 := ⟨by decide, List.all_eq_true.1 rfl, rfl⟩
  have hthousand : Digits thousand 1000 := ⟨by decide, List.all_eq_true.1 rfl, rfl⟩
  have hhuge : Digits huge (2 ^ 64) := ⟨by decide, List.all_eq_true.1 rfl, by decide⟩
  have hasks (front : String) (ds : List Char) : (q front ds).Asks front ds := asks_of_path front ds [] []
  obtain ⟨hmakes, hstates, hprefix, -⟩ := numbers_are_answered hhundred
  obtain ⟨hmakes', hstates', -, hparse⟩ := numbers_are_answered hhuge
  have hmade : (answer (q "/bytes/" hundred)).status = 200 ∧ (answer (q "/bytes/" hundred)).body.length = 100 := by
    cases hmakes _ (hasks _ _) with
    | made _ hs hb => exact ⟨hs, hb⟩
    | tooMany hn => exact absurd hn (by decide)
    | noNumber hn => exact absurd hn (by decide)
  have hstatus : (answer (q "/status/" hundred)).status = 100 ∧
      (answer (q "/status/" hundred)).body = Utf8.encode "status 100".toList := by
    cases hstates _ (hasks _ _) with
    | status _ _ hs hb => exact ⟨hs, hb⟩
    | noStatus hn => exact absurd hn (by decide)
    | noNumber hn => exact absurd hn (by decide)
  have hnoStatus : (answer (q "/status/" thousand)).status = 400 ∧
      (answer (q "/status/" thousand)).body = Utf8.encode "invalid status 1000".toList := by
    cases (numbers_are_answered hthousand).2.1 _ (hasks _ _) with
    | status _ hn => exact absurd hn (by decide)
    | noStatus _ _ hs hb => exact ⟨hs, hb⟩
    | noNumber hn => exact absurd hn (by decide)
  have htooLarge : (answer (q "/bytes/" huge)).status = 400 ∧ (answer (q "/status/" huge)).status = 400 := by
    constructor
    · cases hmakes' _ (hasks _ _) with
      | made hn => exact absurd hn (by decide)
      | tooMany _ hn => exact absurd hn (by decide)
      | noNumber _ hs => exact hs
    · cases hstates' _ (hasks _ _) with
      | status _ hn => exact absurd hn (by decide)
      | noStatus _ hn => exact absurd hn (by decide)
      | noNumber _ hs => exact hs
  obtain ⟨t, ht, -⟩ := hparse "/bytes/" (.inl rfl) (by decide)
  exact ⟨hhundred, hthousand, hhuge, hasks, hmade.1, hmade.2,
    hprefix _ _ hthousand (by decide) (by decide) _ _ (hasks _ _) (hasks _ _), hstatus.1, hstatus.2, hnoStatus.1,
    hnoStatus.2, htooLarge.1, htooLarge.2, t, ht⟩

end Courier.TestServer
