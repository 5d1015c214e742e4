import Courier.Proofs.Boundary.Shapes

/-!
# Releasing answers

The sizes under which a reply is released are computed anew, from the length in its record and from the zero that ends
its message. They are those of the blocks that were handed out.

* `Heap.Sound` : blocks stand at different places; `Heap.release_eq` : one released under its own size is taken out;
* `Made` : the envelopes there are;
* `Parcel` : the two blocks handed out for one of them (`Made.exists_parcel`), which are what a release of the reply
  releases (`Parcel.freeReply_eq_release`, `Parcel.freeReply_eq`);
* `Leaves` : the answers a program leaves unreleased, when it releases none before it came and none twice;
* `Holding` : the memory of a program that holds some answers, which each deed and so each program keeps
  (`Holding.request`, `Holding.release`, `Holding.run`);
* `releases_give_back_all` : nothing stays behind and nothing is released twice.
-/

namespace Courier.Boundary
variable {σ : Type}

/-! ## Blocks -/

namespace Heap

/-- No two blocks stand at one address, none at the next free address or beyond, and that is not null. -/
structure Sound (h : Heap) : Prop where
  pos : 0 < h.next
  below : ∀ e ∈ h.blocks, e.1 < h.next
  distinct : (h.blocks.map Prod.fst).Nodup

theorem Sound.of_sublist {h : Heap} (hs : h.Sound) {blocks : List (Address × Block)} (hb : blocks.Sublist h.blocks) :
    Sound ⟨h.next, blocks⟩ where
  pos := hs.pos
  below := fun e he => hs.below e (hb.subset he)
  distinct := hs.distinct.sublist (hb.map Prod.fst)

theorem Sound.allocate {h : Heap} (hs : h.Sound) (b : Block) : (h.allocate b).2.Sound where
  pos := Nat.succ_pos _
  below := by
    intro e he
    rcases List.mem_cons.1 he with rfl | he
    · exact Nat.lt_succ_self _
    · exact Nat.lt_succ_of_lt (hs.below e he)
  distinct := by
    refine List.nodup_cons.2 ⟨?_, hs.distinct⟩
    intro hn
    obtain ⟨e, he, heq⟩ := List.mem_map.1 hn
    exact absurd (hs.below e he) (heq ▸ Nat.lt_irrefl _)

theorem Sound.ne_of_mem {h : Heap} (hs : h.Sound) {before after : List (Address × Block)} {a : Address} {b : Block}
    (hb : h.blocks = before ++ (a, b) :: after) : ∀ e ∈ before ++ after, e.1 ≠ a := by
  have hd : (a :: (before ++ after).map Prod.fst).Nodup := by
    have hp : (before ++ (a, b) :: after).Perm ((a, b) :: (before ++ after)) := List.perm_middle
    exact (hp.map Prod.fst).nodup_iff.1 (hb ▸ hs.distinct)
  rintro e he rfl
  exact (List.nodup_cons.1 hd).1 (List.mem_map_of_mem he)

theorem lookup_append_cons {before after : List (Address × Block)} {a : Address} (b : Block)
    (hb : ∀ e ∈ before, e.1 ≠ a) : (before ++ (a, b) :: after).lookup a = some b := by
  induction before with
  | nil => simp
  | cons e before ih =>
    have he : (a == e.1) = false := beq_false_of_ne (hb e List.mem_cons_self).symm
    rw [List.cons_append, List.lookup_cons, he]
    exact ih fun e he => hb e (List.mem_cons_of_mem _ he)

theorem Sound.lookup_eq {h : Heap} (hs : h.Sound) {before after : List (Address × Block)} {a : Address} {b : Block}
    (hb : h.blocks = before ++ (a, b) :: after) : h.blocks.lookup a = some b := by
  rw [hb]
  exact lookup_append_cons b fun e he => hs.ne_of_mem hb e (List.mem_append_left _ he)

theorem release_eq {h : Heap} (hs : h.Sound) {before after : List (Address × Block)} {a : Address} {b : Block}
    (hb : h.blocks = before ++ (a, b) :: after) : h.release a b.size = .ok ⟨h.next, before ++ after⟩ := by
  have hf : h.blocks.filter (fun e => e.1 != a) = before ++ after := by
    have hn : (before ++ after).filter (fun e => e.1 != a) = before ++ after :=
      List.filter_eq_self.2 fun e he => bne_iff_ne.2 (hs.ne_of_mem hb e he)
    rw [List.filter_append] at hn
    simpa [hb] using hn
  rw [release, hs.lookup_eq hb]
  simp [hf]

theorem recordAt_of_lookup {h : Heap} {a : Address} {r : Record} (hl : h.blocks.lookup a = some (.record r)) :
    h.recordAt a = .ok r := by
  rw [recordAt, hl]

theorem bytesAt_of_lookup {h : Heap} {a : Address} {bs : Bytes} (hl : h.blocks.lookup a = some (.bytes bs)) :
    h.bytesAt a = .ok bs := by
  rw [bytesAt, hl]

theorem freeMessage_of_null {h : Heap} {r : Record} (hm : r.message = 0) : h.freeMessage r = .ok h :=
  if_pos hm

theorem freeMessage_of_size {h : Heap} {r : Record} {n : Nat} (hm : r.message ≠ 0)
    (hs : h.stringSize r.message = .ok n) : h.freeMessage r = h.release r.message n := by
  rw [freeMessage, if_neg hm, hs]
  rfl

theorem freeReply_of_record {h : Heap} {a : Address} {r : Record} (ha : a ≠ 0) (hr : h.recordAt a = .ok r) :
    h.freeReply a = (do (← (← h.freeMessage r).freeData r).release a recordSize) := by
  rw [freeReply, if_neg ha, hr]
  rfl

theorem stringSize_eq {h : Heap} {a : Address} {bs : Bytes} (hb : h.bytesAt a = .ok bs)
    (hz : cContents bs ++ [0] = bs) : h.stringSize a = .ok bs.length := by
  have hl : (cContents bs).length + 1 = bs.length := by
    simpa using congrArg List.length hz
  rw [stringSize, hb, ← hl]
  rfl

theorem freeReply_of_notMem {h : Heap} {a : Address} (ha : a ≠ 0) (hn : ∀ e ∈ h.blocks, e.1 ≠ a) :
    h.freeReply a = .error .noBlock := by
  have hl : h.blocks.lookup a = none := by
    rw [List.lookup_eq_none_iff]
    exact fun e he => bne_iff_ne.2 (hn e he).symm
  rw [freeReply, if_neg ha, recordAt, hl]
  rfl

end Heap

/-! ## What is handed out for an envelope -/

/-- The envelopes there are: that of a buffer, and those of the four kinds of failure. -/
inductive Made : Envelope → Prop
  | reply (b : Buffer) : Made (.ofBuffer b)
  | failure (f : Failure) : Made (.ofFailure f)
  | nullArgument (name : String) : Made (.nullArgument name)
  | invalidText (name : String) : Made (.invalidText name)
  | panicked (text : String) : Made (.panicked text)

/-- The two blocks handed out for an envelope: its data or its message, and behind it the record that points to it. The
record tells how large the data is; a message tells it by its first zero, which is its last byte. -/
structure Parcel where
  start : Address
  bytes : Bytes
  record : Record
  pos : 0 < start
  sized : record.data = start ∧ record.message = 0 ∧ bytes.length = record.length + 1 ∨
    record.message = start ∧ record.data = 0 ∧ cContents bytes ++ [0] = bytes

namespace Parcel

/-- The address of the record, which is what a C program gets. -/
def address (p : Parcel) : Address := p.start + 1

def blocks (p : Parcel) : List (Address × Block) :=
  [(p.address, .record p.record), (p.start, .bytes p.bytes)]

/-- A release of the reply is a release of its two blocks under the sizes they have. -/
theorem freeReply_eq_release {h : Heap} {p : Parcel} (hr : h.recordAt p.address = .ok p.record)
    (hb : h.bytesAt p.start = .ok p.bytes) : h.freeReply p.address = (do
      let h ← h.release p.start (Block.bytes p.bytes).size
      h.release p.address (Block.record p.record).size) := by
  have hp := Nat.ne_of_gt p.pos
  have ha : p.address ≠ 0 := Nat.succ_ne_zero _
  rw [Heap.freeReply_of_record ha hr]
  -- One of the two pointers of the record is null, and nothing is released for it.
  rcases p.sized with ⟨hd, hm, hl⟩ | ⟨hm, hd, hz⟩
  · have hfree : h.freeData p.record = h.release p.start p.bytes.length := by
      rw [Heap.freeData, hd, if_neg hp, hl]
    rw [Heap.freeMessage_of_null hm]
    exact congrArg (· >>= fun h => h.release p.address recordSize) hfree
  · have hs : h.freeMessage p.record = h.release p.start p.bytes.length := by
      rw [← hm] at hb hp ⊢
      exact Heap.freeMessage_of_size hp (Heap.stringSize_eq hb hz)
    have hnull : ∀ h : Heap, h.freeData p.record = .ok h := fun h => if_pos hd
    rw [hs]
    simp only [hnull]
    rfl

/-- Wherever the two blocks stand among the others, a release of the reply takes them out and leaves the others. -/
theorem freeReply_eq {h : Heap} (hs : h.Sound) {p : Parcel} {before after : List (Address × Block)}
    (hb : h.blocks = before ++ p.blocks ++ after) : h.freeReply p.address = .ok ⟨h.next, before ++ after⟩ := by
  have hrecord : h.blocks = before ++ (p.address, .record p.record) :: (p.start, .bytes p.bytes) :: after := by
    rw [hb, blocks, List.append_assoc]
    rfl
  have hbytes : h.blocks = (before ++ [(p.address, .record p.record)]) ++ (p.start, .bytes p.bytes) :: after := by
    rw [hrecord, List.append_cons]
  -- The bytes go first, and the record stands in what they leave.
  have hrest : (⟨h.next, before ++ [(p.address, .record p.record)] ++ after⟩ : Heap).blocks =
      before ++ (p.address, .record p.record) :: after := (List.append_cons ..).symm
  have hs' : Heap.Sound ⟨h.next, before ++ [(p.address, .record p.record)] ++ after⟩ := by
    refine hs.of_sublist ?_
    rw [hbytes]
    exact (List.Sublist.refl _).append (List.sublist_cons_self _ _)
  rw [freeReply_eq_release (Heap.recordAt_of_lookup (hs.lookup_eq hrecord))
    (Heap.bytesAt_of_lookup (hs.lookup_eq hbytes)), Heap.release_eq hs hbytes]
  exact Heap.release_eq hs' hrest

theorem sound_append (p : Parcel) {h : Heap} (hp : p.start = h.next) (hs : h.Sound) :
    Heap.Sound ⟨h.next + 2, p.blocks ++ h.blocks⟩ := by
  have := (hs.allocate (.bytes p.bytes)).allocate (.record p.record)
  rwa [blocks, address, hp]

/-- The blocks are those of an envelope: its data or its message, of which it has one. -/
def Holds (p : Parcel) (e : Envelope) : Prop :=
  e.data = some p.bytes ∧ e.message = none ∧ p.record = ⟨e.code, 0, p.start, e.length⟩ ∨
    e.message = some p.bytes ∧ e.data = none ∧ p.record = ⟨e.code, p.start, 0, e.length⟩

end Parcel

theorem Envelope.failed_exists_parcel {h : Heap} (hn : 0 < h.next) (code : Code) (text : String) : ∃ p : Parcel,
    p.start = h.next ∧ p.Holds (.failed code text) ∧
      h.hand (.failed code text) = (p.address, ⟨h.next + 2, p.blocks ++ h.blocks⟩) := by
  let m := Utf8.encode (zeroless text.toList)
  have hz : cContents (m ++ [0]) ++ [0] = m ++ [0] := by
    rw [cContents_append_zero (zero_notMem_encode_zeroless text.toList)]
  let p : Parcel := ⟨h.next, m ++ [0], ⟨code, h.next, 0, 0⟩, hn, .inr ⟨rfl, rfl, hz⟩⟩
  rw [Envelope.failed_eq]
  exact ⟨p, rfl, .inr ⟨rfl, rfl, rfl⟩, h.hand_message ..⟩

theorem Made.exists_parcel {e : Envelope} (he : Made e) {h : Heap} (hn : 0 < h.next) : ∃ p : Parcel,
    p.start = h.next ∧ p.Holds e ∧ h.hand e = (p.address, ⟨h.next + 2, p.blocks ++ h.blocks⟩) := by
  cases he with
  | reply b =>
    have hl : b.toListWithZero.length = b.length + 1 := by
      rw [b.toListWithZero_eq, List.length_append, b.length_toList]
      rfl
    exact ⟨⟨h.next, b.toListWithZero, ⟨.ok, 0, h.next, b.length⟩, hn, .inl ⟨rfl, rfl, hl⟩⟩, rfl,
      .inl ⟨rfl, rfl, rfl⟩, h.hand_data ..⟩
  | failure f => exact Envelope.failed_exists_parcel hn ..
  | nullArgument name => exact Envelope.failed_exists_parcel hn ..
  | invalidText name => exact Envelope.failed_exists_parcel hn ..
  | panicked text => exact Envelope.failed_exists_parcel hn ..

theorem Made.ofOutcome (outcome : Except Cause Buffer) : Made (.ofOutcome outcome) := by
  cases outcome with
  | ok b => exact .reply b
  | error c =>
    cases c with
    | nullArgument name => exact .nullArgument name
    | notText name => exact .invalidText name
    | failure f =>
      have hf : Envelope.ofOutcome (.error (.failure f)) = .ofFailure f := (Envelope.ofFailure_eq_failed f).symm
      exact hf ▸ .failure f
    | panic function => exact .panicked _

/-! ## Programs -/

/-- What a program leaves unreleased. At first `n` answers have come, and those with the numbers in `pending` are not
released. It releases no answer before it came and none twice, and at last those in `left` are not released. -/
inductive Leaves : Nat → List Nat → List (Deed σ) → List Nat → Prop
  | done (n : Nat) (pending : List Nat) : Leaves n pending [] pending
  | request {n : Nat} {pending left : List Nat} {deeds : List (Deed σ)} (f : ForeignCall σ) :
      Leaves (n + 1) (n :: pending) deeds left → Leaves n pending (.request f :: deeds) left
  | release {n i : Nat} {pending left : List Nat} {deeds : List (Deed σ)} : i ∈ pending →
      Leaves n (pending.erase i) deeds left → Leaves n pending (.release i :: deeds) left
  | releaseNull {n : Nat} {pending left : List Nat} {deeds : List (Deed σ)} : Leaves n pending deeds left →
      Leaves n pending (.releaseNull :: deeds) left

/-- The memory of a program that got `answers` and has yet to release those in `held`, by number: their blocks, and
behind them those of others. -/
structure Holding (others : List (Address × Block)) (answers : List Address) (held : List (Nat × Parcel)) (h : Heap) :
    Prop where
  sound : h.Sound
  blocks : h.blocks = held.flatMap (fun e => e.2.blocks) ++ others
  addresses : ∀ e ∈ held, answers[e.1]? = some e.2.address

namespace Holding
variable {others : List (Address × Block)} {answers : List Address} {held : List (Nat × Parcel)} {h : Heap}

/-- The blocks of a new answer stand at the next free addresses. -/
theorem request (hh : Holding others answers held h) {e : Envelope} (he : Made e) : ∃ p : Parcel,
    (h.hand e).1 = p.address ∧ Holding others (answers ++ [p.address]) ((answers.length, p) :: held) (h.hand e).2 := by
  obtain ⟨p, hp, -, heq⟩ := he.exists_parcel hh.sound.pos
  rw [heq]
  refine ⟨p, rfl, ?_⟩
  constructor
  case sound => exact p.sound_append hp hh.sound
  case blocks => rw [hh.blocks, List.flatMap_cons, List.append_assoc]
  case addresses =>
    intro e he
    rcases List.mem_cons.1 he with rfl | he
    · exact List.getElem?_concat_length
    · have ha := hh.addresses e he
      rw [List.getElem?_append_left (List.getElem?_eq_some_iff.1 ha).1, ha]

/-- A release takes out the blocks of the answer, and the other answers keep theirs. -/
theorem release {before after : List (Nat × Parcel)} {i : Nat} {p : Parcel}
    (hh : Holding others answers (before ++ (i, p) :: after) h) :
    ∃ h', h.freeReply p.address = .ok h' ∧ Holding others answers (before ++ after) h' := by
  let front := before.flatMap fun e => e.2.blocks
  let back := after.flatMap fun e => e.2.blocks
  have hb : h.blocks = front ++ p.blocks ++ (back ++ others) := by
    rw [hh.blocks]
    simp [front, back]
  refine ⟨_, Parcel.freeReply_eq hh.sound hb, ?_⟩
  constructor
  case sound =>
    refine hh.sound.of_sublist ?_
    rw [hb]
    exact (List.sublist_append_left _ _).append (List.Sublist.refl _)
  case blocks => simp [front, back]
  case addresses =>
    intro e he
    exact hh.addresses e (((List.Sublist.refl before).append (List.sublist_cons_self (i, p) after)).subset he)

/-- Every program that releases no answer before it came and none twice does so without a fault, and at last the memory
is that of the answers it leaves unreleased. -/
theorem run {n : Nat} {pending left : List Nat} {deeds : List (Deed σ)} (hl : Leaves n pending deeds left) (w : σ)
    (hh : Holding others answers held h) (hn : answers.length = n) (hp : held.map Prod.fst = pending) :
    ∃ w' h' es answers' held', Deed.run answers deeds (w, h) = ⟨(w', h'), es, some (.ok answers')⟩ ∧
      Holding others answers' held' h' ∧ held'.map Prod.fst = left := by
  induction hl generalizing w h answers held with
  | done n pending => exact ⟨w, h, [], answers, held, rfl, hh, hp⟩
  | request f _ ih =>
    obtain ⟨es, e, w₁, he⟩ := exists_answers f w
    obtain ⟨outcome, -, rfl⟩ := he.exists_comesTo
    obtain ⟨p, ha, hh₁⟩ := hh.request (.ofOutcome outcome)
    obtain ⟨w', h', es', answers', held', hrun, hrest⟩ := ih w₁ hh₁ (by simp [hn]) (by simp [hn, hp])
    refine ⟨w', h', es ++ es', answers', held', ?_, hrest⟩
    simp [Deed.run, Deed.perform, Act.bind_apply, f.deliver_apply he.sound, ha, hrun]
  | @release n i pending left deeds hi _ ih =>
    -- The number stands in the list of the pending ones where its blocks stand among those held.
    obtain ⟨front, back, hsplit, hfront⟩ := List.eq_append_cons_of_mem hi
    obtain ⟨before, rest, rfl, rfl, hrest⟩ := List.map_eq_append_iff.1 (hp.trans hsplit)
    obtain ⟨⟨j, p⟩, after, rfl, hj, rfl⟩ := List.map_eq_cons_iff.1 hrest
    obtain rfl : i = j := hj.symm
    have haddress : answers[i]? = some p.address := hh.addresses (i, p) (by simp)
    obtain ⟨h₁, hfree, hh₁⟩ := hh.release
    have hp₁ : (before ++ after).map Prod.fst = pending.erase i := by
      rw [hsplit, List.erase_append_right _ hfront, List.erase_cons_head, List.map_append]
    obtain ⟨w', h', es', answers', held', hrun, hrest⟩ := ih w hh₁ hn hp₁
    refine ⟨w', h', es', answers', held', ?_, hrest⟩
    simp [Deed.run, Deed.perform, Act.bind_apply, haddress, releaseAt, Act.step, hfree, hrun, Except.map]
  | releaseNull _ ih =>
    have hfree : h.freeReply 0 = .ok h := if_pos rfl
    obtain ⟨w', h', es', answers', held', hrun, hrest⟩ := ih w hh hn hp
    refine ⟨w', h', es', answers', held', ?_, hrest⟩
    simp [Deed.run, Deed.perform, Act.bind_apply, releaseAt, Act.step, hfree, hrun, Except.map]

end Holding

/-- **Releasing answers gives all back.** Whatever envelope is handed out, it is two blocks, one of them the record, and
the other the data or the message, whichever there is. A release of the reply releases these two under the sizes they
have, leaves the memory as it was, and cannot be done again. So a program that releases each of its answers once, in
whatever order, and null as often as it likes, meets no fault and leaves no block behind. -/
theorem releases_give_back_all (h : Heap) (hs : h.Sound) :
    (∀ e, Made e → ∃ p : Parcel, p.Holds e ∧ h.hand e = (p.address, ⟨h.next + 2, p.blocks ++ h.blocks⟩) ∧
      (h.hand e).2.freeReply p.address = (do
        let h ← (h.hand e).2.release p.start (Block.bytes p.bytes).size
        h.release p.address (Block.record p.record).size) ∧
      (h.hand e).2.freeReply p.address = .ok ⟨h.next + 2, h.blocks⟩ ∧
      Heap.freeReply p.address ⟨h.next + 2, h.blocks⟩ = .error .noBlock) ∧
    ∀ (deeds : List (Deed σ)) (w : σ), Leaves 0 [] deeds [] → ∃ w' h' es answers,
      Deed.run [] deeds (w, h) = ⟨(w', h'), es, some (.ok answers)⟩ ∧ h'.blocks = h.blocks := by
  constructor
  · intro e he
    obtain ⟨p, hstart, hp, heq⟩ := he.exists_parcel hs.pos
    obtain ⟨hrecord, hbytes⟩ := Heap.at_hand p.start p.bytes p.record h.blocks
    have hs' := p.sound_append hstart hs
    have hrest : p.blocks ++ h.blocks = [] ++ (p.address, .record p.record) :: (p.start, .bytes p.bytes) :: h.blocks :=
      rfl
    have hgone : ∀ e ∈ h.blocks, e.1 ≠ p.address := fun e he => hs'.ne_of_mem hrest e (List.mem_cons_of_mem _ he)
    have hfree := Parcel.freeReply_eq hs' (show p.blocks ++ h.blocks = [] ++ p.blocks ++ h.blocks from rfl)
    rw [heq]
    exact ⟨p, hp, rfl, Parcel.freeReply_eq_release hrecord hbytes, hfree,
      Heap.freeReply_of_notMem (Nat.succ_ne_zero _) hgone⟩
  · intro deeds w hl
    have hh : Holding h.blocks [] [] h := ⟨hs, rfl, fun e he => absurd he List.not_mem_nil⟩
    obtain ⟨w', h', es, answers, held, hrun, hh', hheld⟩ := hh.run hl w rfl rfl
    obtain rfl := List.map_eq_nil_iff.1 hheld
    exact ⟨w', h', es, answers, hrun, hh'.blocks⟩

/-- A null argument and a failure whose text holds a zero, released in the other order, with null between them. -/
theorem releases_give_back_all_crossed :
    let transport : Transport Unit := ⟨"t", true, fun _ => pure (.error (.transport "a\x00b"))⟩
    let files : FileAccess Unit := ⟨fun _ => pure (.ok 0), fun _ => pure (.ok ⟨0, []⟩)⟩
    let deeds : List (Deed Unit) :=
      [.request (.get (some ⟨transport, files⟩) (some [0x75]) none), .request (.get none none none), .release 1,
        .releaseNull, .release 0]
    let e : Envelope := .ofFailure (.transport "a\x00b")
    Heap.empty.Sound ∧ Made e ∧ Leaves 0 [] deeds [] ∧
      (∃ p : Parcel, p.Holds e ∧ (Heap.empty.hand e).2.freeReply p.address = .ok ⟨3, []⟩) ∧
      ∃ w h es answers, Deed.run [] deeds ((), Heap.empty) = ⟨(w, h), es, some (.ok answers)⟩ ∧ h.blocks = [] := by
  intro transport files deeds e
  have hs : Heap.empty.Sound := ⟨by decide, fun e he => absurd he List.not_mem_nil, List.nodup_nil⟩
  have hl : Leaves 0 [] deeds [] := by
    refine .request _ (.request _ (.release (by decide) (.releaseNull (.release (by decide) ?_))))
    exact .done 2 []
  obtain ⟨w, h, es, answers, hrun⟩ := (releases_give_back_all Heap.empty hs).2 deeds () hl
  obtain ⟨p, hp, -, -, hfree, -⟩ := (@releases_give_back_all Unit Heap.empty hs).1 e (.failure _)
  exact ⟨hs, .failure _, hl, ⟨p, hp, hfree⟩, w, h, es, answers, hrun⟩

end Courier.Boundary
