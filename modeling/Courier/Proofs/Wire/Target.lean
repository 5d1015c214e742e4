import Courier.Proofs.Text.Utf8
import Courier.Wire.Target
import Mathlib.Data.List.TakeWhile

/-!
# Where a target stands in what it was read from

* `Plain`, `Written` : a path and query, and one inside a url, with a scheme and an authority before it or not, and a
  fragment after it or not; `Written.unique` : a url has one at most;
* `pathAndQuery?_eq` : what is read up to a fragment is all there; `parse?_of_path` : a path by itself is read whole;
* `written_of_parse?` : a target with a path from the root is sent as it was written, and that is text.
-/

namespace Courier.Wire.Target

/-- Nothing, or a fragment behind its mark. -/
def Fragment (bs : Bytes) : Prop :=
  ∀ b ∈ bs.head?, b = ascii '#'

/-- A path from the root with a query or without, and no fragment. -/
structure Plain (text : Bytes) : Prop where
  root : text.head? = some (ascii '/')
  mark : ascii '#' ∉ text

/-- A url in which the text is the path and query. -/
inductive Written (text : Bytes) : Bytes → Prop
  | origin {fragment : Bytes} : Plain text → Fragment fragment → Written text (text ++ fragment)
  | absolute {scheme authority fragment : Bytes} : (∀ b ∈ scheme, b ≠ ascii ':' ∧ b ≠ ascii '/') → authority ≠ [] →
      (∀ b ∈ authority, b ≠ ascii '/' ∧ b ≠ ascii '?' ∧ b ≠ ascii '#') → Plain text → Fragment fragment →
      Written text (scheme ++ (Utf8.encode "://".toList ++ (authority ++ (text ++ fragment))))

/-- Where a part ends with the first byte of some kind, it is told by the whole. -/
theorem split_unique {p : UInt8 → Prop} {part part' rest rest' : Bytes} (h : part ++ rest = part' ++ rest')
    (hpart : ∀ b ∈ part, ¬ p b) (hpart' : ∀ b ∈ part', ¬ p b) (hrest : ∀ b ∈ rest.head?, p b)
    (hrest' : ∀ b ∈ rest'.head?, p b) : part = part' ∧ rest = rest' := by
  induction part generalizing part' with
  | nil =>
    cases part' with
    | nil => exact ⟨rfl, h⟩
    | cons b part' =>
      rw [List.nil_append] at h
      exact absurd (hrest b (by rw [h]; rfl)) (hpart' b List.mem_cons_self)
  | cons b part ih =>
    cases part' with
    | nil =>
      rw [List.nil_append] at h
      exact absurd (hrest' b (by rw [← h]; rfl)) (hpart b List.mem_cons_self)
    | cons b' part' =>
      obtain ⟨rfl, htail⟩ := List.cons.inj h
      obtain ⟨rfl, hrests⟩ := ih htail (fun x hx => hpart x (List.mem_cons_of_mem _ hx))
        fun x hx => hpart' x (List.mem_cons_of_mem _ hx)
      exact ⟨rfl, hrests⟩

theorem Plain.head?_append {text : Bytes} (h : Plain text) (rest : Bytes) :
    (text ++ rest).head? = some (ascii '/') := by
  rw [List.head?_append, h.root]
  rfl

theorem Plain.unique {text text' fragment fragment' : Bytes} (h : Plain text) (h' : Plain text')
    (hf : Fragment fragment) (hf' : Fragment fragment') (he : text ++ fragment = text' ++ fragment') :
    text = text' := by
  have hne : ∀ {bs : Bytes}, ascii '#' ∉ bs → ∀ b ∈ bs, ¬ b = ascii '#' := by
    rintro bs hbs b hb rfl
    exact hbs hb
  exact (split_unique he (hne h.mark) (hne h'.mark) hf hf').1

/-- A url that starts with a path starts with no scheme. -/
theorem origin_ne_absolute {scheme rest text fragment : Bytes} (hs : ∀ b ∈ scheme, b ≠ ascii ':' ∧ b ≠ ascii '/')
    (h : Plain text) : text ++ fragment ≠ scheme ++ (Utf8.encode "://".toList ++ rest) := by
  intro he
  have hhead := h.head?_append fragment
  rw [he] at hhead
  cases scheme with
  | nil =>
    have hcolon : ascii ':' = ascii '/' := Option.some.inj hhead
    exact absurd hcolon (by decide)
  | cons b scheme =>
    have hb : b = ascii '/' := Option.some.inj hhead
    exact (hs b List.mem_cons_self).2 hb

theorem Written.unique {text text' url : Bytes} (h : Written text url) (h' : Written text' url) : text = text' := by
  generalize hu : url = url' at h'
  cases h with
  | origin hp hf =>
    cases h' with
    | origin hp' hf' => exact hp.unique hp' hf hf' hu
    | absolute hs' _ _ _ _ => exact absurd hu (origin_ne_absolute hs' hp)
  | absolute hs _ ha hp hf =>
    cases h' with
    | origin hp' hf' => exact absurd hu.symm (origin_ne_absolute hs hp')
    | absolute hs' _ ha' hp' hf' =>
      -- The scheme ends with the first colon, and the authority with the slash of the path.
      have hmark : ∀ rest : Bytes, ∀ b ∈ (Utf8.encode "://".toList ++ rest).head?, b = ascii ':' := by
        rintro rest b ⟨⟩
        rfl
      obtain ⟨rfl, hrest⟩ := split_unique hu (fun b hb => (hs b hb).1) (fun b hb => (hs' b hb).1) (hmark _) (hmark _)
      have hslash : ∀ {text : Bytes}, Plain text → ∀ fragment : Bytes, ∀ b ∈ (text ++ fragment).head?, b = ascii '/' := by
        intro text hp fragment b hb
        rw [hp.head?_append] at hb
        exact (Option.some.inj hb).symm
      obtain ⟨rfl, hpath⟩ := split_unique (List.append_cancel_left hrest) (fun b hb => (ha b hb).1)
        (fun b hb => (ha' b hb).1) (hslash hp _) (hslash hp' _)
      exact hp.unique hp' hf hf' hpath

theorem Written.plain {text url : Bytes} (h : Written text url) : Plain text := by
  cases h with
  | origin h _ => exact h
  | absolute _ _ _ h _ => exact h

/-- What is sent of a query, which may be missing. -/
def suffix : Option Bytes → Bytes
  | some q => ascii '?' :: q
  | none => []

theorem text_eq (t : Target) : t.text = t.fullPath ++ suffix t.query := by
  unfold text suffix
  rfl

/-- What follows a part is empty, or starts with a byte that ends the part. -/
theorem head?_dropWhile_ne {c : UInt8} (bs : Bytes) : ∀ b ∈ (bs.dropWhile (· != c)).head?, b = c := by
  intro b hb
  have h := List.head?_dropWhile_not (· != c) bs
  rw [hb] at h
  simpa using h

theorem drop_length_takeWhile (p : UInt8 → Bool) (bs : Bytes) : bs.drop (bs.takeWhile p).length = bs.dropWhile p := by
  have h : (bs.takeWhile p ++ bs.dropWhile p).drop (bs.takeWhile p).length = bs.dropWhile p := List.drop_left
  rwa [List.takeWhile_append_dropWhile] at h

theorem pathAndQuery?_eq {bs path : Bytes} {query : Option Bytes} (h : pathAndQuery? bs = some (path, query)) :
    ∃ fragment, bs = path ++ suffix query ++ fragment ∧ Fragment fragment ∧ ascii '#' ∉ path ++ suffix query ∧
      ∃ cs, path ++ suffix query = Utf8.encode cs := by
  unfold pathAndQuery? at h
  extract_lets whole path' query' given at h
  obtain ⟨hgood, h⟩ := Option.ite_none_right_eq_some.1 h
  obtain ⟨rfl, rfl⟩ := Prod.mk.inj (Option.some.inj h)
  have hwhole : whole = path' ++ suffix (if given then some query' else none) := by
    -- What follows the path is nothing, or a question mark and the query.
    have hsplit : whole = path' ++ whole.dropWhile (· != ascii '?') := List.takeWhile_append_dropWhile.symm
    have hrest : query' = (whole.dropWhile (· != ascii '?')).drop 1 := by
      rw [← drop_length_takeWhile]
    cases hd : whole.dropWhile (· != ascii '?') with
    | nil =>
      rw [hd, List.append_nil] at hsplit
      have hgiven : ¬ given := by
        show ¬ path'.length < whole.length
        rw [← hsplit]
        exact Nat.lt_irrefl _
      rw [if_neg hgiven, suffix, List.append_nil, ← hsplit]
    | cons b rest =>
      have hb : b = ascii '?' := head?_dropWhile_ne whole b (by rw [hd]; rfl)
      rw [hd] at hsplit hrest
      have hgiven : given := by
        show path'.length < whole.length
        have hlen := congrArg List.length hsplit
        rw [List.length_append, List.length_cons] at hlen
        omega
      rw [if_pos hgiven, suffix, hrest, List.drop_one, List.tail_cons, ← hb]
      exact hsplit
  rw [← hwhole]
  refine ⟨bs.dropWhile (· != ascii '#'), List.takeWhile_append_dropWhile.symm, head?_dropWhile_ne bs, ?_, ?_⟩
  · intro hmem
    simpa using List.mem_takeWhile_imp hmem
  · simp only [Bool.and_eq_true, Option.isSome_iff_exists] at hgood
    obtain ⟨-, cs, hcs⟩ := hgood
    exact ⟨cs, Utf8.decode?_eq_some_iff.1 hcs⟩

theorem parse?_of_path {path : Bytes} (hslash : path.head? = some (ascii '/')) (hlength : path.length ≤ maxLength)
    (hbytes : ∀ b ∈ path, isPathByte b = true) (htext : ∃ cs, path = Utf8.encode cs) :
    parse? path = some ⟨none, [], path, none⟩ := by
  have hmark : isPathByte (ascii '#') = false ∧ isPathByte (ascii '?') = false := by decide
  have hwhole : ∀ c, isPathByte c = false → path.takeWhile (· != c) = path := by
    intro c hc
    rw [List.takeWhile_eq_self_iff]
    intro b hb
    rw [bne_iff_ne]
    rintro rfl
    rw [hbytes b hb] at hc
    cases hc
  have hread : pathAndQuery? path = some (path, none) := by
    obtain ⟨cs, hcs⟩ := htext
    have hdecode : (Utf8.decode? path).isSome = true := by rw [Utf8.decode?_eq_some_iff.2 hcs]; rfl
    unfold pathAndQuery?
    dsimp only
    rw [hwhole _ hmark.1, hwhole _ hmark.2, List.drop_length, List.drop_nil, List.all_eq_true.2 hbytes, hdecode,
      if_neg (Nat.lt_irrefl _)]
    rfl
  obtain ⟨b, rest, rfl⟩ : ∃ b rest, path = b :: rest := by
    cases path with
    | nil => cases hslash
    | cons b rest => exact ⟨b, rest, rfl⟩
  obtain rfl : b = ascii '/' := Option.some.inj hslash
  have hlong : (ascii '/' :: rest).isEmpty = false ∧ ¬ (ascii '/' :: rest).length > maxLength :=
    ⟨rfl, Nat.not_lt.2 hlength⟩
  have hstar : (ascii '/' :: rest == [ascii '*']) = false := rfl
  rw [parse?, hlong.1, hstar, hread]
  simp only [Bool.false_or, decide_eq_true_eq, if_neg hlong.2]
  rfl

theorem scheme?_eq {bs scheme rest : Bytes} (h : scheme? bs = some (scheme, rest)) :
    bs = scheme ++ Utf8.encode "://".toList ++ rest ∧ ∀ b ∈ scheme, isSchemeByte b = true := by
  have hmark : Utf8.encode "://".toList = [ascii ':', ascii '/', ascii '/'] := by decide
  unfold scheme? at h
  extract_lets scheme' at h
  rw [drop_length_takeWhile] at h
  split at h
  · next a b c rest' hd =>
    obtain ⟨hbytes, h⟩ := Option.ite_none_right_eq_some.1 h
    obtain ⟨rfl, rfl⟩ := Prod.mk.inj (Option.some.inj h)
    simp only [Bool.and_eq_true, beq_iff_eq] at hbytes
    obtain ⟨⟨rfl, rfl⟩, rfl⟩ := hbytes
    refine ⟨?_, fun b hb => List.mem_takeWhile_imp hb⟩
    rw [hmark, List.append_assoc]
    exact List.takeWhile_append_dropWhile.symm.trans (congrArg (scheme' ++ ·) hd)
  · cases h

theorem ne_of_isSchemeByte {b : UInt8} (h : isSchemeByte b = true) : b ≠ ascii ':' ∧ b ≠ ascii '/' := by
  constructor <;>
  · rintro rfl
    exact absurd h (by decide)

theorem ne_of_endsAuthority {b : UInt8} (h : endsAuthority b = false) :
    b ≠ ascii '/' ∧ b ≠ ascii '?' ∧ b ≠ ascii '#' := by
  refine ⟨?_, ?_, ?_⟩ <;>
  · rintro rfl
    exact absurd h (by decide)

theorem text_eq_of_root {t : Target} (h : t.path.head? = some (ascii '/')) :
    t.text = t.path ++ suffix t.query ∧ t.text.head? = some (ascii '/') := by
  have hne : t.path.isEmpty = false := by
    cases hp : t.path with
    | nil => rw [hp] at h; cases h
    | cons b rest => rfl
  have htext : t.text = t.path ++ suffix t.query := by
    rw [text_eq, fullPath, hne]
    rfl
  rw [htext, List.head?_append, h]
  exact ⟨rfl, rfl⟩

/-- A target with a path from the root is sent as it was written, and that is text. -/
theorem written_of_parse? {raw : Bytes} {t : Target} (h : parse? raw = some t)
    (hp : t.path.head? = some (ascii '/')) : Written t.text raw ∧ ∃ cs, t.text = Utf8.encode cs := by
  obtain ⟨htext, hroot⟩ := text_eq_of_root hp
  rw [htext] at hroot ⊢
  unfold parse? at h
  rw [Option.ite_none_left_eq_some] at h
  obtain ⟨-, h⟩ := h
  split at h
  · obtain rfl := Option.some.inj h
    exact absurd hp (by decide)
  split at h
  · simp only [Option.bind_eq_bind, Option.bind_eq_some_iff] at h
    obtain ⟨⟨path, query⟩, hread, h⟩ := h
    obtain rfl := Option.some.inj h
    obtain ⟨fragment, rfl, hf, hmark, htext⟩ := pathAndQuery?_eq hread
    exact ⟨.origin ⟨hroot, hmark⟩ hf, htext⟩
  split at h
  · obtain ⟨-, h⟩ := Option.ite_none_right_eq_some.1 h
    obtain rfl := Option.some.inj h
    cases hp
  · next scheme rest hs =>
    obtain ⟨rfl, hscheme⟩ := scheme?_eq hs
    extract_lets authority at h
    obtain ⟨hgood, h⟩ := Option.ite_none_left_eq_some.1 h
    have hauthority : authority ≠ [] := by
      rintro he
      exact hgood (by simp [he])
    simp only [Option.bind_eq_bind, Option.bind_eq_some_iff, authority, drop_length_takeWhile] at h
    obtain ⟨⟨path, query⟩, hread, h⟩ := h
    obtain rfl := Option.some.inj h
    obtain ⟨fragment, hrest, hf, hmark, htext⟩ := pathAndQuery?_eq hread
    refine ⟨?_, htext⟩
    have hsplit : rest = authority ++ (path ++ suffix query ++ fragment) := by
      rw [← hrest]
      exact List.takeWhile_append_dropWhile.symm
    have hurl : scheme ++ Utf8.encode "://".toList ++ rest =
        scheme ++ (Utf8.encode "://".toList ++ (authority ++ (path ++ suffix query ++ fragment))) := by
      rw [List.append_assoc, ← hsplit]
    rw [hurl]
    refine .absolute (fun b hb => ne_of_isSchemeByte (hscheme b hb)) hauthority (fun b hb => ?_) ⟨hroot, hmark⟩ hf
    exact ne_of_endsAuthority (by simpa using List.mem_takeWhile_imp hb)

end Courier.Wire.Target
