import Courier.Proofs.Boundary.Simulation

/-!
# The two shapes of an answer in memory

What a C call leaves in memory is a reply or a failure, and a C program can tell which.

* `Cause` : why a call has no reply, with its code and its message; `ComesTo` : the reply or the cause of a call, of
  which there is one (`ComesTo.unique`);
* `ReplyShape`, `FailureShape` : a record with data and no message, and one with a message and no data;
* `replyShape_hand`, `failureShape_hand` : what is handed out for a buffer, and for a code and a text;
* `delivered_in_one_of_two_shapes` : every call leaves a record of the shape that tells what it came to.
-/

namespace Courier.Boundary
variable {σ : Type}

/-! ## What a call comes to -/

/-- Why a call has no reply. -/
inductive Cause where
  | nullArgument (name : String)
  | notText (name : String)
  | failure (f : Failure)
  | panic (function : String)
  deriving DecidableEq, Repr

namespace Cause

/-- The code that C is told. -/
def code : Cause → Code
  | nullArgument _ => .nullArg
  | notText _ => .invalidUtf8
  | failure f => (notice f).1
  | panic _ => .panic

/-- The message that C is told, before zeros in it are replaced. -/
def text : Cause → String
  | nullArgument name => "null argument: " ++ name
  | notText name => "argument is not UTF-8: " ++ name
  | failure f => (notice f).2
  | panic function => "panic in " ++ function

theorem code_ne_ok (c : Cause) : c.code ≠ .ok := by
  intro h
  cases c with
  | failure f =>
    rw [code, notice_fst] at h
    cases f <;> cases h
  | nullArgument name => cases h
  | notText name => cases h
  | panic function => cases h

end Cause

/-- What is wrong with an argument, if something is. -/
def Argument.cause? : Argument σ → Option Cause
  | .client none => some (.nullArgument "client")
  | .required name none => some (.nullArgument name)
  | .required name (some bs) | .optional name (some bs) => if textOf bs = none then some (.notText name) else none
  | .client (some _) | .optional _ none => none

theorem rejects_iff {a : Argument σ} {e : Envelope} :
    Rejects a e ↔ ∃ c, a.cause? = some c ∧ e = .telling c.code c.text := by
  constructor
  · intro h
    cases h with
    | nullClient => exact ⟨_, rfl, rfl⟩
    | null name => exact ⟨_, rfl, rfl⟩
    | required name h => exact ⟨_, if_pos (textOf_eq_none_iff.2 h), rfl⟩
    | optional name h => exact ⟨_, if_pos (textOf_eq_none_iff.2 h), rfl⟩
  · rintro ⟨c, h, rfl⟩
    unfold Argument.cause? at h
    split at h
    · cases h
      exact .nullClient
    · cases h
      exact .null _
    · split_ifs at h with ht
      cases h
      exact .required _ (textOf_eq_none_iff.1 ht)
    · split_ifs at h with ht
      cases h
      exact .optional _ (textOf_eq_none_iff.1 ht)
    · cases h
    · cases h

theorem refuses_iff {args : List (Argument σ)} {e : Envelope} :
    Refuses args e ↔ ∃ c, args.findSome? Argument.cause? = some c ∧ e = .telling c.code c.text := by
  induction args with
  | nil =>
    constructor
    · rintro ⟨⟩
    · rintro ⟨c, hc, -⟩
      cases hc
  | cons a args ih =>
    cases ha : a.cause? with
    | some c =>
      rw [List.findSome?_cons, ha]
      have hr : Rejects a (.telling c.code c.text) := rejects_iff.2 ⟨c, ha, rfl⟩
      constructor
      · intro h
        exact ⟨c, rfl, h.unique (.here hr)⟩
      · rintro ⟨_, ⟨⟩, rfl⟩
        exact .here hr
    | none =>
      rw [List.findSome?_cons, ha, ← ih]
      have hn : ∀ e', ¬ Rejects a e' := by
        intro e' h
        obtain ⟨c, hc, -⟩ := rejects_iff.1 h
        rw [ha] at hc
        cases hc
      constructor
      · intro h
        cases h with
        | here h => exact absurd h (hn _)
        | there _ h => exact h
      · exact .there hn

/-- What a call comes to: the reply of the call of the client it stands for, or the cause why there is none. -/
inductive ComesTo (f : ForeignCall σ) (w : σ) : Except Cause Buffer → Prop
  | refused {c : Cause} : f.arguments.findSome? Argument.cause? = some c → ComesTo f w (.error c)
  | replied {c : Client σ} {call : Call} {b : Buffer} : Stands f c call → (c.call call w).value = some (.ok b) →
      ComesTo f w (.ok b)
  | failed {c : Client σ} {call : Call} {x : Failure} : Stands f c call → (c.call call w).value = some (.error x) →
      ComesTo f w (.error (.failure x))
  | panicked {c : Client σ} {call : Call} : Stands f c call → (c.call call w).value = none →
      ComesTo f w (.error (.panic f.function))

theorem Reads.unique {p : Pointer} {s s' : Option String} (h : Reads p s) (h' : Reads p s') : s = s' :=
  Except.ok.inj ((h.optionalArgument_eq "").symm.trans (h'.optionalArgument_eq ""))

theorem Stands.unique {f : ForeignCall σ} {c c' : Client σ} {call call' : Call} (h : Stands f c call)
    (h' : Stands f c' call') : c = c' ∧ call = call' := by
  cases h with
  | get c hu hq =>
    cases h' with
    | get _ hu' hq' =>
      cases hu.unique hu'
      cases hq.unique hq'
      exact ⟨rfl, rfl⟩
  | post c hu hb =>
    cases h' with
    | post _ hu' hb' =>
      cases hu.unique hu'
      cases hb.unique hb'
      exact ⟨rfl, rfl⟩
  | postFile c length hu hp ht =>
    cases h' with
    | postFile _ _ hu' hp' ht' =>
      cases hu.unique hu'
      cases hp.unique hp'
      cases ht.unique ht'
      exact ⟨rfl, rfl⟩

theorem Stands.cause?_eq_none {f : ForeignCall σ} {c : Client σ} {call : Call} (h : Stands f c call) :
    f.arguments.findSome? Argument.cause? = none := by
  cases hc : f.arguments.findSome? Argument.cause? with
  | none => rfl
  | some x => exact absurd (refuses_iff.2 ⟨x, hc, rfl⟩) (h.not_refuses _)

theorem ComesTo.of_refused {f : ForeignCall σ} {w : σ} {c : Cause}
    (h : f.arguments.findSome? Argument.cause? = some c) {outcome : Except Cause Buffer} (ho : ComesTo f w outcome) :
    outcome = .error c := by
  cases ho with
  | refused hr => rw [Option.some.inj (h.symm.trans hr)]
  | replied hs _ | failed hs _ | panicked hs _ =>
    rw [hs.cause?_eq_none] at h
    cases h

theorem ComesTo.of_stands {f : ForeignCall σ} {w : σ} {c : Client σ} {call : Call} (h : Stands f c call)
    {outcome : Except Cause Buffer} (ho : ComesTo f w outcome) :
    outcome = match (c.call call w).value with
      | some (.ok b) => .ok b
      | some (.error x) => .error (.failure x)
      | none => .error (.panic f.function) := by
  cases ho with
  | refused hr =>
    rw [h.cause?_eq_none] at hr
    cases hr
  | replied h' hv | failed h' hv | panicked h' hv =>
    obtain ⟨rfl, rfl⟩ := h.unique h'
    rw [hv]

theorem ComesTo.unique {f : ForeignCall σ} {w : σ} {outcome outcome' : Except Cause Buffer}
    (h : ComesTo f w outcome) (h' : ComesTo f w outcome') : outcome = outcome' := by
  cases h with
  | refused hr => exact (h'.of_refused hr).symm
  | replied hs hv | failed hs hv | panicked hs hv => rw [h'.of_stands hs, hv]

/-- The envelope of an outcome. -/
def Envelope.ofOutcome : Except Cause Buffer → Envelope
  | .ok b => ofBuffer b
  | .error c => failed c.code c.text

theorem Answers.exists_comesTo {f : ForeignCall σ} {w w' : σ} {es : List Event} {e : Envelope}
    (h : Answers f w es e w') : ∃ outcome, ComesTo f w outcome ∧ e = .ofOutcome outcome := by
  cases h with
  | refused h =>
    obtain ⟨c, hc, rfl⟩ := refuses_iff.1 h
    exact ⟨_, .refused hc, (Envelope.failed_eq _ _).symm⟩
  | @replied c call es b w' hs h =>
    refine ⟨_, .replied hs (by rw [h]), ?_⟩
    rw [Envelope.ofOutcome, Envelope.ofBuffer, b.toListWithZero_eq, b.length_toList]
  | @failed c call es x w' hs h => exact ⟨_, .failed hs (by rw [h]), (Envelope.failed_eq _ _).symm⟩
  | @panicked c call es w' hs h => exact ⟨_, .panicked hs (by rw [h]), (Envelope.failed_eq _ _).symm⟩

/-! ## Shapes of records -/

/-- Bytes with a space in the place of each zero. -/
def spaced (bs : Bytes) : Bytes :=
  bs.map fun b => if b = 0 then ascii ' ' else b

/-- The record of a reply: no message, and data with a zero behind it. -/
structure ReplyShape (h : Heap) (r : Record) (contents : Bytes) : Prop where
  code : r.code = .ok
  message : r.message = 0
  data : r.data ≠ 0
  length : r.length = contents.length
  block : h.bytesAt r.data = .ok (contents ++ [0])

/-- The record of a failure: no data, and a message that is a C string. -/
structure FailureShape (h : Heap) (r : Record) (code : Code) (text : String) : Prop where
  code : r.code = code
  failed : r.code ≠ .ok
  data : r.data = 0
  length : r.length = 0
  message : r.message ≠ 0
  /-- The block of the message ends with the zero that ends the string, which is the text with spaces for zeros: as
  many bytes, again those of a text, and empty for the empty text only. -/
  block : ∃ m, h.bytesAt r.message = .ok (m ++ [0]) ∧ cContents (m ++ [0]) = m ∧
    m = spaced (Utf8.encode text.toList) ∧ m.length = (Utf8.encode text.toList).length ∧
    (∃ s : String, m = Utf8.encode s.toList) ∧ (m = [] ↔ text = "")

/-- A C program can tell the shapes apart: by the code, and by either pointer. -/
theorem ReplyShape.not_failureShape {h h' : Heap} {r r' : Record} {contents : Bytes} {code : Code} {text : String}
    (hr : ReplyShape h r contents) (hf : FailureShape h' r' code text) :
    r.code ≠ r'.code ∧ (r.message = 0 ∧ r'.message ≠ 0) ∧ r.data ≠ 0 ∧ r'.data = 0 :=
  ⟨fun he => hf.failed (he ▸ hr.code), ⟨hr.message, hf.message⟩, hr.data, hf.data⟩

/-! ## What is handed out -/

theorem cContents_append_zero {m : Bytes} (h : 0 ∉ m) : cContents (m ++ [0]) = m :=
  (Contents.ended [] h).cContents_eq

theorem Heap.hand_data (h : Heap) (code : Code) (bs : Bytes) (length : Nat) :
    h.hand ⟨code, none, some bs, length⟩ = (h.next + 1, ⟨h.next + 2,
      (h.next + 1, .record ⟨code, 0, h.next, length⟩) :: (h.next, .bytes bs) :: h.blocks⟩) := rfl

theorem Heap.hand_message (h : Heap) (code : Code) (bs : Bytes) (length : Nat) :
    h.hand ⟨code, some bs, none, length⟩ = (h.next + 1, ⟨h.next + 2,
      (h.next + 1, .record ⟨code, h.next, 0, length⟩) :: (h.next, .bytes bs) :: h.blocks⟩) := rfl

theorem Heap.at_hand (n : Address) (bs : Bytes) (r : Record) (blocks : List (Address × Block)) :
    let h : Heap := ⟨n + 2, (n + 1, .record r) :: (n, .bytes bs) :: blocks⟩
    h.recordAt (n + 1) = .ok r ∧ h.bytesAt n = .ok bs := by
  have hn : (n == n + 1) = false := by simp
  simp [recordAt, bytesAt, List.lookup_cons, hn]

theorem replyShape_hand (h : Heap) (hn : 0 < h.next) (b : Buffer) : ∃ a h' r, h.hand (.ofBuffer b) = (a, h') ∧
    a ≠ 0 ∧ 0 < h'.next ∧ h'.recordAt a = .ok r ∧ ReplyShape h' r b.toList := by
  obtain ⟨hr, hb⟩ := Heap.at_hand h.next b.toListWithZero ⟨.ok, 0, h.next, b.length⟩ h.blocks
  rw [b.toListWithZero_eq] at hb
  refine ⟨_, _, _, Heap.hand_data .., Nat.succ_ne_zero _, Nat.succ_pos _, hr, ?_⟩
  exact
    { code := rfl
      message := rfl
      data := Nat.ne_of_gt hn
      length := b.length_toList.symm
      block := b.toListWithZero_eq ▸ hb }

theorem failureShape_hand (h : Heap) (hn : 0 < h.next) {code : Code} (hc : code ≠ .ok) (text : String) :
    ∃ a h' r, h.hand (.failed code text) = (a, h') ∧ a ≠ 0 ∧ 0 < h'.next ∧ h'.recordAt a = .ok r ∧
      FailureShape h' r code text := by
  let m := Utf8.encode (zeroless text.toList)
  obtain ⟨hr, hb⟩ := Heap.at_hand h.next (m ++ [0]) ⟨code, h.next, 0, 0⟩ h.blocks
  have hm : m = spaced (Utf8.encode text.toList) := (map_encode_zeroless text.toList).symm
  have hl : m.length = (Utf8.encode text.toList).length := by rw [hm, spaced, List.length_map]
  have hempty : m = [] ↔ text = "" := by
    rw [← List.length_eq_zero_iff, hl, List.length_eq_zero_iff, Utf8.encode_eq_nil_iff, String.toList_eq_nil_iff]
  have htext : ∃ s : String, m = Utf8.encode s.toList :=
    ⟨String.ofList (zeroless text.toList), by rw [String.toList_ofList]⟩
  rw [Envelope.failed_eq]
  refine ⟨_, _, _, Heap.hand_message .., Nat.succ_ne_zero _, Nat.succ_pos _, hr, ?_⟩
  exact
    { code := rfl
      failed := hc
      data := rfl
      length := rfl
      message := Nat.ne_of_gt hn
      block := ⟨m, hb, cContents_append_zero (zero_notMem_encode_zeroless _), hm, hl, htext, hempty⟩ }

/-! ## Calls -/

theorem ForeignCall.deliver_apply (f : ForeignCall σ) {w w' : σ} {es : List Event} {e : Envelope}
    (hf : f.answer w = ⟨w', es, some e⟩) (h : Heap) :
    f.deliver (w, h) = ⟨(w', (h.hand e).2), es, some (h.hand e).1⟩ := by
  simp [deliver, Act.bind_apply, Act.focus, Act.step, hf]

/-- **Every call leaves a record of one of two shapes.** Whatever is passed and whatever the transport does, the caller
gets an address that is not null, and a record stands there. If the call has a reply, the code is that of success, there
is no message, and the data is the bytes of the reply with a zero behind them. If it has none, the code is that of the
cause, there is no data, and the message is the text of the cause with a space for each zero. No record has both
shapes. All of this is so as long as null is not the next free address, and then it is not that after the call. -/
theorem delivered_in_one_of_two_shapes (f : ForeignCall σ) (w : σ) (h : Heap) (hn : 0 < h.next) :
    ∃ es a w' h' outcome r, f.deliver (w, h) = ⟨(w', h'), es, some a⟩ ∧ (∀ o, ComesTo f w o ↔ o = outcome) ∧
      a ≠ 0 ∧ 0 < h'.next ∧ h'.recordAt a = .ok r ∧
      (match outcome with
        | .ok b => ReplyShape h' r b.toList ∧ ∀ code text, ¬ FailureShape h' r code text
        | .error c => FailureShape h' r c.code c.text ∧ ∀ contents, ¬ ReplyShape h' r contents) := by
  obtain ⟨es, e, w', he⟩ := exists_answers f w
  obtain ⟨outcome, ho, rfl⟩ := he.exists_comesTo
  have hu : ∀ o, ComesTo f w o ↔ o = outcome := by
    intro o
    constructor
    · intro h'
      exact h'.unique ho
    · rintro rfl
      exact ho
  have hd := f.deliver_apply he.sound h
  cases outcome with
  | ok b =>
    obtain ⟨a, h', r, hh, ha, hn', hr, hs⟩ := replyShape_hand h hn b
    rw [Envelope.ofOutcome, hh] at hd
    exact ⟨es, a, w', h', _, r, hd, hu, ha, hn', hr, hs, fun _ _ hf => (hs.not_failureShape hf).1 rfl⟩
  | error c =>
    obtain ⟨a, h', r, hh, ha, hn', hr, hs⟩ := failureShape_hand h hn c.code_ne_ok c.text
    rw [Envelope.ofOutcome, hh] at hd
    exact ⟨es, a, w', h', _, r, hd, hu, ha, hn', hr, hs, fun _ hf => (hf.not_failureShape hs).1 rfl⟩

/-- A failure whose text holds a zero, handed out in an empty memory. -/
theorem delivered_in_one_of_two_shapes_zero :
    let transport : Transport Unit := ⟨"t", true, fun _ => pure (.error (.transport "a\x00b"))⟩
    let files : FileAccess Unit := ⟨fun _ => pure (.ok 0), fun _ => pure (.ok ⟨0, []⟩)⟩
    let f : ForeignCall Unit := .get (some ⟨transport, files⟩) (some [0x75]) none
    0 < Heap.empty.next ∧ ∃ es a w h r, f.deliver ((), Heap.empty) = ⟨(w, h), es, some a⟩ ∧ a ≠ 0 ∧
      h.recordAt a = .ok r ∧ FailureShape h r .transport "transport failure: a\x00b" := by
  intro transport files f
  have hn : 0 < Heap.empty.next := by decide
  have hs : Stands f ⟨transport, files⟩ (.get "u" none) := .get _ (.text (.whole (by decide))) .null
  obtain ⟨es, a, w, h, outcome, r, hd, hu, ha, -, hr, hshape⟩ := delivered_in_one_of_two_shapes f () Heap.empty hn
  obtain rfl := (hu _).1 (.failed hs rfl)
  exact ⟨hn, es, a, w, h, r, hd, ha, hr, hshape.1⟩

end Courier.Boundary
