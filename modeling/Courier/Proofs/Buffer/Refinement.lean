import Courier.Buffer.Desk
import Courier.Proofs.Buffer.Reading

/-!
# Buffers as lists of bytes

A desk of buffers behaves as a list of byte lists, as long as the allocator grants every request.

* `Start.contents`, `Action.bytes`, `Action.answer` : what a buffer starts with, what an action adds, what it tells;
* `Contents.step`, `Contents.run` : commands on byte lists;
* `Buffer.Holds` : everything a buffer tells of its contents, the zero in storage included;
* `Writer.writeAll_granted`, `Writer.writeFormatted_granted`, `Writer.copyOnto_granted`, `Action.perform_granted` :
  one lemma for each way of writing;
* `contents_step`, `contents_run` : a command, and a run of them, on both sides;
* `run_frame` : a buffer is changed by what is done at its own place only;
* `desk_refines_contents` : all of it together.
-/

namespace Courier
namespace Desk

/-! ## Commands on byte lists -/

/-- What a buffer starts with. -/
def Start.contents : Start → Bytes
  | new | default => []
  | bytes bs => bs
  | text s => Utf8.encode s.toList

/-- What an action adds. -/
def Action.bytes : Action → Bytes
  | append chunk | write chunk | writeAll chunk => chunk
  | format pieces => pieces.flatMap Utf8.encode
  | copy s => s.delivered
  | flush => []

/-- What an action tells when the allocator grants every request. Only a copy can fail, by its reader's fault. -/
def Action.answer : Action → Answer
  | append _ => .appended (.ok ())
  | write chunk => .taken (.ok chunk.length)
  | writeAll _ | format _ | flush => .written (.ok ())
  | copy s =>
    match s.ending with
    | none => .taken (.ok s.delivered.length)
    | some e => .taken (.error e)

/-- The contents of each buffer, by its place. -/
abbrev Contents := List Bytes

namespace Contents

/-- A command on byte lists. -/
def step (cs : Contents) : Command → Answer × Contents
  | .make start => (.made, cs ++ [start.contents])
  | .clone place =>
    match cs[place]? with
    | none => (.absent, cs)
    | some c => (.made, cs ++ [c])
  | .act place action =>
    match cs[place]? with
    | none => (.absent, cs)
    | some c => (action.answer, cs.set place (c ++ action.bytes))

/-- Commands on byte lists, one after the other. -/
def run (cs : Contents) : List Command → List Answer × Contents
  | [] => ([], cs)
  | c :: commands =>
    let (answer, cs) := cs.step c
    let (answers, cs) := run cs commands
    (answer :: answers, cs)

theorem run_acts (c : Bytes) (actions : List Action) :
    (run [c] (actions.map (.act 0))).2 = [c ++ actions.flatMap Action.bytes] := by
  induction actions generalizing c with
  | nil => simp [run]
  | cons action actions ih =>
    simp only [List.map_cons, run, step, List.getElem?_cons_zero, List.set_cons_zero, ih, List.flatMap_cons,
      List.append_assoc]

end Contents

/-- The contents of the buffers of a desk. -/
def contents (d : Desk) : Contents :=
  d.buffers.map Buffer.toList

end Desk

/-! ## What a buffer tells -/

namespace Buffer

/-- `b` holds `c`: all that can be asked of the buffer is told by the bytes. -/
structure Holds (b : Buffer) (c : Bytes) : Prop where
  storage : b.storage.bytes.toList = c ++ [0]
  toList : b.toList = c
  toListWithZero : b.toListWithZero = c ++ [0]
  view : b.view = c
  length : b.length = c.length
  isEmpty : b.isEmpty = true ↔ c = []
  toText : b.toText = Utf8.decodeLossy c

theorem holds_toList (b : Buffer) : Holds b b.toList where
  storage := b.toListWithZero_eq
  toList := rfl
  toListWithZero := b.toListWithZero_eq
  view := b.view_eq
  length := b.length_toList.symm
  isEmpty := by rw [Buffer.isEmpty, ← b.length_toList, beq_iff_eq, List.length_eq_zero_iff]
  toText := by rw [Buffer.toText, b.view_eq]

theorem write_granted (slack : Nat) (chunk : Bytes) (b : Buffer) :
    ∃ b', b.write (.granted slack) chunk = (.ok chunk.length, b') ∧ b'.toList = b.toList ++ chunk := by
  obtain ⟨b', h, hc⟩ := append_granted slack chunk b
  exact ⟨b', by rw [write, h], hc⟩

end Buffer

theorem Desk.Start.toList_buffer (start : Desk.Start) : start.buffer.toList = start.contents := by
  cases start with
  | new => rfl
  | default => rfl
  | bytes bs => exact Buffer.toList_ofList bs
  | text s => exact Buffer.toList_ofList _

/-! ## The ways of writing -/

section Granted
variable (slack : Nat → Nat)

namespace Writer

theorem append_granted (chunk : Bytes) (w : Writer) :
    ∃ w', w.append (fun n => .granted (slack n)) chunk = (.ok (), w') ∧
      w'.buffer.toList = w.buffer.toList ++ chunk := by
  obtain ⟨b', h, hc⟩ := Buffer.append_granted (slack w.requests) chunk w.buffer
  exact ⟨⟨b', _⟩, by rw [append, h], hc⟩

theorem write_granted (chunk : Bytes) (w : Writer) :
    ∃ w', w.write (fun n => .granted (slack n)) chunk = (.ok chunk.length, w') ∧
      w'.buffer.toList = w.buffer.toList ++ chunk := by
  obtain ⟨b', h, hc⟩ := Buffer.write_granted (slack w.requests) chunk w.buffer
  exact ⟨⟨b', _⟩, by rw [write, h], hc⟩

theorem writeAll_granted (chunk : Bytes) (w : Writer) :
    ∃ w', w.writeAll (fun n => .granted (slack n)) chunk = (.ok (), w') ∧
      w'.buffer.toList = w.buffer.toList ++ chunk := by
  cases chunk with
  | nil => exact ⟨w, by rw [writeAll]; rfl, (List.append_nil _).symm⟩
  | cons b bs =>
    obtain ⟨w', h, hc⟩ := write_granted slack (b :: bs) w
    refine ⟨w', ?_, hc⟩
    rw [writeAll, dif_neg (List.cons_ne_nil b bs), h]
    simp only [List.length_cons, List.drop_succ_cons, List.drop_length]
    rw [writeAll]
    rfl

theorem writeFormatted_granted (pieces : List (List Char)) (w : Writer) :
    ∃ w', w.writeFormatted (fun n => .granted (slack n)) pieces = (.ok (), w') ∧
      w'.buffer.toList = w.buffer.toList ++ pieces.flatMap Utf8.encode := by
  induction pieces generalizing w with
  | nil => exact ⟨w, rfl, (List.append_nil _).symm⟩
  | cons piece pieces ih =>
    obtain ⟨w₁, h₁, hc₁⟩ := writeAll_granted slack (Utf8.encode piece) w
    obtain ⟨w', h', hc'⟩ := ih w₁
    exact ⟨w', by rw [writeFormatted, h₁]; exact h',
      by rw [hc', hc₁, List.flatMap_cons, List.append_assoc]⟩

/-- What the reader hands out is written, up to its end or to the fault that the copy then comes to. -/
theorem copyOnto_granted (total : Nat) (r : Reader) (w : Writer) :
    ∃ w', w'.buffer.toList = w.buffer.toList ++ r.source.delivered ∧
      copyOnto (fun n => .granted (slack n)) total r w =
        (match r.source.ending with
          | none => .ok (total + r.source.delivered.length)
          | some e => .error e, w') := by
  fun_induction copyOnto with
  | case1 total r w r' hr =>
    obtain ⟨hd, he⟩ := Source.ending_of_read_nil (by decide) (Reader.read_eq hr).1
    exact ⟨w, by rw [hd, List.append_nil], by rw [hd, he]; rfl⟩
  | case2 total r w b bs r' hr _ e w' hw =>
    obtain ⟨w₁, h₁, -⟩ := writeAll_granted slack (b :: bs) w
    rw [h₁] at hw
    cases (Prod.mk.inj hw).1
  | case3 total r w b bs r' hr _ _ w' hw ih =>
    obtain ⟨hd, he, -⟩ := Source.delivered_of_read (List.cons_ne_nil b bs) (Reader.read_eq hr).1
    obtain ⟨w₁, h₁, hc₁⟩ := writeAll_granted slack (b :: bs) w
    rw [h₁] at hw
    obtain rfl := (Prod.mk.inj hw).2
    obtain ⟨w'', hc, h⟩ := ih
    refine ⟨w'', by rw [hc, hc₁, hd, List.append_assoc], ?_⟩
    rw [h, hd, he, List.length_append, Nat.add_assoc]
  | case4 total r w e r' hr _ hi ih =>
    have hs : (Delivery.failed e).stops = false := by simp [hi]
    rw [Source.eq_of_read_fault (Reader.read_eq hr).1, Source.delivered_cons hs, Source.ending_cons hs]
    exact ih
  | case5 total r w e r' hr _ hi =>
    have hs : (Delivery.failed e).stops = true := by simp [hi]
    rw [Source.eq_of_read_fault (Reader.read_eq hr).1, Source.delivered_cons_of_stops hs,
      Source.ending_cons_of_stops hs]
    exact ⟨w, (List.append_nil _).symm, rfl⟩

end Writer

namespace Desk

theorem Action.perform_granted (action : Action) (w : Writer) :
    ∃ w', action.perform (fun n => .granted (slack n)) w = (action.answer, w') ∧
      w'.buffer.toList = w.buffer.toList ++ action.bytes := by
  cases action with
  | append chunk =>
    obtain ⟨w', h, hc⟩ := w.append_granted slack chunk
    exact ⟨w', by rw [perform, h]; rfl, hc⟩
  | write chunk =>
    obtain ⟨w', h, hc⟩ := w.write_granted slack chunk
    exact ⟨w', by rw [perform, h]; rfl, hc⟩
  | writeAll chunk =>
    obtain ⟨w', h, hc⟩ := w.writeAll_granted slack chunk
    exact ⟨w', by rw [perform, h]; rfl, hc⟩
  | format pieces =>
    obtain ⟨w', h, hc⟩ := w.writeFormatted_granted slack pieces
    exact ⟨w', by rw [perform, h]; rfl, hc⟩
  | copy s =>
    obtain ⟨w', hc, h⟩ := w.copyOnto_granted slack 0 ⟨s, []⟩
    refine ⟨w', ?_, hc⟩
    rw [perform, Writer.copy, h, answer, Nat.zero_add]
    cases s.ending <;> rfl
  | flush => exact ⟨w, rfl, (List.append_nil _).symm⟩

/-! ## Runs -/

/-- A command does to the contents what it does on byte lists. -/
theorem contents_step (d : Desk) (c : Command) :
    ∃ d', d.step (fun n => .granted (slack n)) c = ((d.contents.step c).1, d') ∧
      d'.contents = (d.contents.step c).2 := by
  cases c with
  | make start => exact ⟨_, rfl, by simp [contents, put, Contents.step, start.toList_buffer]⟩
  | clone place =>
    cases hb : d.buffers[place]? with
    | none => exact ⟨d, by simp [step, Contents.step, contents, hb], by simp [Contents.step, contents, hb]⟩
    | some b => exact ⟨d.put b.clone, by simp [step, Contents.step, contents, hb],
        by simp [Contents.step, contents, put, hb]⟩
  | act place action =>
    cases hb : d.buffers[place]? with
    | none => exact ⟨d, by simp [step, Contents.step, contents, hb], by simp [Contents.step, contents, hb]⟩
    | some b =>
      obtain ⟨w', h, hc⟩ := action.perform_granted slack ⟨b, d.requests⟩
      refine ⟨⟨d.buffers.set place w'.buffer, w'.requests⟩, ?_, ?_⟩
      · simp [step, Contents.step, contents, hb, h]
      · simp [Contents.step, contents, hb, hc, List.map_set]

/-- A run does to the contents what it does on byte lists. -/
theorem contents_run (d : Desk) (commands : List Command) :
    ∃ d', d.run (fun n => .granted (slack n)) commands = ((d.contents.run commands).1, d') ∧
      d'.contents = (d.contents.run commands).2 := by
  induction commands generalizing d with
  | nil => exact ⟨d, rfl, rfl⟩
  | cons c commands ih =>
    obtain ⟨d₁, h₁, hc₁⟩ := contents_step slack d c
    obtain ⟨d', h', hc'⟩ := ih d₁
    rw [hc₁] at h' hc'
    exact ⟨d', by simp only [run, Contents.run, h₁, h'], hc'⟩

end Desk

end Granted

namespace Desk

/-- A command changes the buffer at its own place only. -/
theorem step_frame (grants : Nat → Grant) (d : Desk) (c : Command) {place : Nat} (hp : place < d.buffers.length)
    (hc : ∀ action, c ≠ .act place action) :
    (d.step grants c).2.buffers[place]? = d.buffers[place]? := by
  cases c with
  | make start => exact List.getElem?_append_left hp
  | clone q =>
    rw [step]
    split
    · rfl
    · exact List.getElem?_append_left hp
  | act q action =>
    rw [step]
    split
    · rfl
    · refine List.getElem?_set_ne ?_
      rintro rfl
      exact hc action rfl

theorem length_le_step (grants : Nat → Grant) (d : Desk) (c : Command) :
    d.buffers.length ≤ (d.step grants c).2.buffers.length := by
  cases c with
  | make start => simp [step, put]
  | clone q => rw [step]; split <;> simp [put]
  | act q action => rw [step]; split <;> simp

/-- A run changes the buffers at the places it acts on only, a clone's original among those it leaves alone. -/
theorem run_frame (grants : Nat → Grant) (d : Desk) {commands : List Command} {place : Nat}
    (hp : place < d.buffers.length) (hc : ∀ action, .act place action ∉ commands) :
    (d.run grants commands).2.buffers[place]? = d.buffers[place]? := by
  induction commands generalizing d with
  | nil => rfl
  | cons c commands ih =>
    rw [run]
    refine (ih _ (hp.trans_le (length_le_step grants d c)) fun a h => hc a (List.mem_cons_of_mem _ h)).trans ?_
    exact step_frame grants d c hp fun a h => hc a (h ▸ List.mem_cons_self)

theorem storages_eq (d : Desk) :
    d.buffers.map (fun b => b.storage.bytes.toList) = d.contents.map (· ++ [0]) := by
  rw [contents, List.map_map]
  exact List.map_congr_left fun b _ => b.toListWithZero_eq

theorem holds_contents (d : Desk) : List.Forall₂ Buffer.Holds d.buffers d.contents :=
  List.forall₂_map_right_iff.2 (List.forall₂_same.2 fun b _ => b.holds_toList)

/-- **Buffers refine lists of bytes.** With an allocator that grants every request, whatever is made, cloned and
written, in any order: each command tells what it tells on byte lists, and after it each buffer holds the bytes it
holds there, in storage with one zero behind. With any allocator, a buffer stays as it is while nothing is done at
its own place. Which way the bytes of a buffer were written, and how they were cut, makes no difference to its
storage. -/
theorem desk_refines_contents :
    (∀ (slack : Nat → Nat) (commands : List Command),
      let run := empty.run (fun n => .granted (slack n)) commands
      let run' := Contents.run [] commands
      run.1 = run'.1 ∧ List.Forall₂ Buffer.Holds run.2.buffers run'.2) ∧
    (∀ (grants : Nat → Grant) (d : Desk) (commands : List Command) (place : Nat), place < d.buffers.length →
      (∀ action, .act place action ∉ commands) →
      (d.run grants commands).2.buffers[place]? = d.buffers[place]?) ∧
    (∀ (slack slack' : Nat → Nat) (start start' : Start) (actions actions' : List Action),
      start.contents ++ actions.flatMap Action.bytes = start'.contents ++ actions'.flatMap Action.bytes →
      (empty.run (fun n => .granted (slack n)) (.make start :: actions.map (.act 0))).2.buffers.map
          (fun b => b.storage.bytes.toList) =
        (empty.run (fun n => .granted (slack' n)) (.make start' :: actions'.map (.act 0))).2.buffers.map
          (fun b => b.storage.bytes.toList)) := by
  refine ⟨fun slack commands => ?_, fun grants d commands place hp hc => run_frame grants d hp hc,
    fun slack slack' start start' actions actions' h => ?_⟩
  · obtain ⟨d, hd, hc⟩ := contents_run slack empty commands
    refine ⟨congrArg Prod.fst hd, ?_⟩
    change List.Forall₂ Buffer.Holds _ (empty.contents.run commands).2
    rw [hd, ← hc]
    exact d.holds_contents
  · have key : ∀ (slack : Nat → Nat) (start : Start) (actions : List Action),
        (empty.run (fun n => .granted (slack n)) (.make start :: actions.map (.act 0))).2.contents =
          [start.contents ++ actions.flatMap Action.bytes] := by
      intro slack start actions
      obtain ⟨d, hd, hc⟩ := contents_run slack empty (.make start :: actions.map (.act 0))
      rw [hd, hc]
      exact Contents.run_acts start.contents actions
    rw [storages_eq, storages_eq, key, key, h]

/-- A letter cut in two, a zero, nothing at all and an interrupted reader, against one formatted text; and a clone
that is added to. -/
theorem desk_refines_contents_cut_letter :
    let actions : List Action :=
      [.append [0xC3], .write [], .writeAll [0xA9, 0], .copy [.data [97], .failed (.os 4), .data [98], .ended]]
    let actions' : List Action := [.format [['é', '\x00'], ['a']], .flush, .write [98]]
    let cut : List Command := .make .new :: actions.map (.act 0)
    let whole : List Command := .make .default :: actions'.map (.act 0)
    let more : List Command := [.clone 0, .act 1 (.append [33])]
    let d := (empty.run plenty cut).2
    actions.flatMap Action.bytes = [0xC3, 0xA9, 0, 97, 98] ∧
      List.Forall₂ Buffer.Holds d.buffers [[0xC3, 0xA9, 0, 97, 98]] ∧
      d.buffers.map (fun b => b.storage.bytes.toList) =
        (empty.run plenty whole).2.buffers.map (fun b => b.storage.bytes.toList) ∧
      (d.run plenty more).2.buffers[0]? = d.buffers[0]? := by
  intro actions actions' cut whole more d
  have hb : actions.flatMap Action.bytes = [0xC3, 0xA9, 0, 97, 98] := by decide
  have hb' : actions'.flatMap Action.bytes = [0xC3, 0xA9, 0, 97, 98] := by decide
  have hd : List.Forall₂ Buffer.Holds d.buffers (Contents.run [] cut).2 :=
    (desk_refines_contents.1 (fun _ => 0) cut).2
  have hc : (Contents.run [] cut).2 = [[0xC3, 0xA9, 0, 97, 98]] :=
    (Contents.run_acts [] actions).trans (by rw [hb]; rfl)
  refine ⟨hb, hc ▸ hd, ?_, ?_⟩
  · exact desk_refines_contents.2.2 _ _ .new .default actions actions' (by rw [hb, hb']; rfl)
  · refine desk_refines_contents.2.1 plenty d more 0 ?_ (by simp [more])
    rw [hd.length_eq, hc]
    decide

end Desk

end Courier
