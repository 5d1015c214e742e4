import Courier.Buffer.Desk
import Courier.Proofs.Buffer.Reading

/-!
# Buffers and an allocator that may refuse

Each request for room is answered as the allocator likes: it is refused, for either reason, or any room is given that is
large enough.

* `Storage.Sound` : bytes that fit the room set aside for them, and always did;
* `Buffer.Taken` : an append that was given room, every step of it within that room; `append_refused`,
  `append_granted_taken` : an append does all of that, or nothing;
* `Buffer.Reachable` : the buffers that any use of the operations leads to; `Reachable.sound`;
* `Desk.run_appends` : appends in a row, some of them refused;
* `Halt`, `Halts` : where reading comes to a halt; there is such a place (`exists_halts`), and the reply tells which
  (`Halts.readOnto_eq`);
* `refused_room_changes_nothing` : all of it together.
-/

namespace Courier

/-! ## Room -/

namespace Storage

/-- The bytes fit the room set aside for them, and never outgrew it. -/
structure Sound (s : Storage) : Prop where
  fits : s.bytes.size ≤ s.capacity
  overruns : s.overruns = 0

theorem sound_ofArray (bytes : Array UInt8) : (ofArray bytes).Sound := ⟨Nat.le_refl _, rfl⟩

theorem ensure_of_le {n : Nat} {s : Storage} (h : n ≤ s.capacity) : s.ensure n = s := if_pos h

theorem exists_reserve_eq {s : Storage} {extra c : Nat} (h : max s.capacity (s.bytes.size + extra) ≤ c) :
    ∃ g, s.reserve g extra = .ok { s with capacity := c } := by
  refine ⟨.granted (c - max s.capacity (s.bytes.size + extra)), ?_⟩
  rw [reserve, Nat.add_sub_cancel' h]

end Storage

/-! ## One append -/

namespace Buffer

theorem size_pos (b : Buffer) : 0 < b.storage.bytes.size := by
  obtain ⟨bytes, he⟩ := Array.back?_eq_some_iff.1 b.terminated
  rw [he, Array.size_push]
  exact Nat.succ_pos _

/-- `b'` is `b` with `chunk` added: the room `r` is set aside first, and no later step needs more. -/
structure Taken (b : Buffer) (chunk : Bytes) (r : Storage) (b' : Buffer) : Prop where
  bytes : r.bytes = b.storage.bytes
  room : b.storage.bytes.size + chunk.length ≤ r.capacity
  /-- When the zero is dropped, there is room for the chunk. -/
  extend : r.pop.bytes.size + chunk.length ≤ r.pop.capacity
  /-- Behind the chunk, there is room for the zero. -/
  push : (r.pop.extend chunk).bytes.size + 1 ≤ (r.pop.extend chunk).capacity
  storage : b'.storage = (r.pop.extend chunk).push 0
  capacity : b'.storage.capacity = r.capacity
  overruns : b'.storage.overruns = b.storage.overruns
  size : b'.storage.bytes.size = b.storage.bytes.size + chunk.length
  contents : b'.toList = b.toList ++ chunk

theorem append_nil (g : Grant) (b : Buffer) : b.append g [] = (.ok (), b) := rfl

theorem append_refused {chunk : Bytes} (hc : chunk ≠ []) (x : ReserveFault) (b : Buffer) :
    b.append (.refused x) chunk = (.error (.allocation x), b) := by
  unfold append
  rw [if_neg (by simpa using hc)]
  rfl

theorem append_granted_taken {chunk : Bytes} (hc : chunk ≠ []) (slack : Nat) (b : Buffer) :
    ∃ r b', b.storage.reserve (.granted slack) chunk.length = .ok r ∧
      b.append (.granted slack) chunk = (.ok (), b') ∧ Taken b chunk r b' := by
  have hsize := b.size_pos
  obtain ⟨b', hb', hcontents⟩ := append_granted slack chunk b
  let r : Storage :=
    { b.storage with capacity := max b.storage.capacity (b.storage.bytes.size + chunk.length) + slack }
  have hroom : b.storage.bytes.size + chunk.length ≤ r.capacity :=
    (Nat.le_max_right _ _).trans (Nat.le_add_right _ _)
  have hsum : (r.bytes.pop ++ chunk).size = b.storage.bytes.size - 1 + chunk.length := by
    rw [← Array.length_toList, Array.toList_appendList, List.length_append, Array.length_toList, Array.size_pop]
  have hstorage : b'.storage = (r.pop.extend chunk).push 0 := by
    unfold append at hb'
    rw [if_neg (by simpa using hc)] at hb'
    exact (congrArg Buffer.storage (Prod.mk.inj hb').2).symm
  have hextend : r.pop.bytes.size + chunk.length ≤ r.pop.capacity := by
    change b.storage.bytes.pop.size + chunk.length ≤ r.capacity
    rw [Array.size_pop]
    omega
  -- Neither step finds the room too small, so each leaves it as it is.
  have hkept : r.pop.extend chunk = { r with bytes := r.bytes.pop ++ chunk } := by
    unfold Storage.extend
    rw [Storage.ensure_of_le hextend]
    rfl
  have hpush : (r.pop.extend chunk).bytes.size + 1 ≤ (r.pop.extend chunk).capacity := by
    rw [hkept]
    change (r.bytes.pop ++ chunk).size + 1 ≤ r.capacity
    omega
  have hlast : b'.storage = { r with bytes := (r.bytes.pop ++ chunk).push 0 } := by
    rw [hstorage]
    unfold Storage.push
    rw [Storage.ensure_of_le hpush, hkept]
  refine ⟨r, b', rfl, hb', rfl, hroom, hextend, hpush, hstorage, by rw [hlast], by rw [hlast], ?_, hcontents⟩
  rw [hlast]
  change ((r.bytes.pop ++ chunk).push 0).size = _
  rw [Array.size_push]
  omega

theorem append_cases (g : Grant) (chunk : Bytes) (b : Buffer) :
    (b.append g chunk).2 = b ∨ ∃ r, Taken b chunk r (b.append g chunk).2 := by
  by_cases hc : chunk = []
  · subst hc
    exact .inl rfl
  cases g with
  | refused x => exact .inl (by rw [append_refused hc])
  | granted slack =>
    obtain ⟨r, b', -, hb', ht⟩ := append_granted_taken hc slack b
    exact .inr ⟨r, by rw [hb']; exact ht⟩

theorem Taken.sound {b b' : Buffer} {chunk : Bytes} {r : Storage} (h : Taken b chunk r b') (hb : b.storage.Sound) :
    b'.storage.Sound where
  fits := by
    rw [h.size, h.capacity]
    exact h.room
  overruns := by rw [h.overruns, hb.overruns]

theorem append_sound (g : Grant) (chunk : Bytes) {b : Buffer} (hb : b.storage.Sound) :
    (b.append g chunk).2.storage.Sound := by
  rcases append_cases g chunk b with h | ⟨r, h⟩
  · rw [h]
    exact hb
  · exact h.sound hb

theorem write_eq (g : Grant) (chunk : Bytes) (b : Buffer) : b.write g chunk =
    match (b.append g chunk).1 with
    | .ok _ => (.ok chunk.length, (b.append g chunk).2)
    | .error f => (.error (.described .outOfMemory f.message), (b.append g chunk).2) := by
  unfold write
  rcases b.append g chunk with ⟨_ | _, _⟩ <;> rfl

theorem write_snd (g : Grant) (chunk : Bytes) (b : Buffer) : (b.write g chunk).2 = (b.append g chunk).2 := by
  rw [write_eq]
  cases (b.append g chunk).1 <;> rfl

end Buffer

/-! ## What every append keeps

A property of buffers that every append keeps is kept by each way of writing, and by reading. -/

/-- What holds of the buffer an act leaves, once it is known what the act comes to. -/
theorem Writer.kept_of_eq {α : Type} {P : Buffer → Prop} {x : α × Writer} {a : α} {w : Writer} (h : P x.2.buffer)
    (hx : x = (a, w)) : P w.buffer := by
  rw [hx] at h
  exact h

section Kept
variable {P : Buffer → Prop} (hP : ∀ g chunk b, P b → P (b.append g chunk).2) (grants : Nat → Grant)
include hP

namespace Writer

theorem write_keeps (chunk : Bytes) {w : Writer} (h : P w.buffer) : P (w.write grants chunk).2.buffer := by
  have := hP (grants w.requests) chunk w.buffer h
  rw [← Buffer.write_snd] at this
  exact this

theorem writeAll_keeps (chunk : Bytes) {w : Writer} (h : P w.buffer) : P (w.writeAll grants chunk).2.buffer := by
  fun_induction writeAll with
  | case1 w => exact h
  | case2 chunk w _ e w' hw | case3 chunk w _ w' hw => exact kept_of_eq (write_keeps hP grants chunk h) hw
  | case4 chunk w _ k w' hw _ ih => exact ih (kept_of_eq (write_keeps hP grants chunk h) hw)

theorem writeFormatted_keeps (pieces : List (List Char)) {w : Writer} (h : P w.buffer) :
    P (w.writeFormatted grants pieces).2.buffer := by
  fun_induction writeFormatted with
  | case1 w => exact h
  | case2 piece pieces w e w' hw => exact kept_of_eq (writeAll_keeps hP grants (Utf8.encode piece) h) hw
  | case3 piece pieces w _ w' hw ih => exact ih (kept_of_eq (writeAll_keeps hP grants (Utf8.encode piece) h) hw)

theorem copyOnto_keeps (total : Nat) (r : Reader) {w : Writer} (h : P w.buffer) :
    P (w.copyOnto grants total r).2.buffer := by
  fun_induction copyOnto with
  | case1 | case5 => exact h
  | case2 total r w b bs r' _ _ e w' hw => exact kept_of_eq (writeAll_keeps hP grants (b :: bs) h) hw
  | case3 total r w b bs r' _ _ _ w' hw ih => exact ih (kept_of_eq (writeAll_keeps hP grants (b :: bs) h) hw)
  | case4 total r w e r' _ _ _ ih => exact ih h

end Writer

theorem Desk.Action.perform_keeps (action : Desk.Action) {w : Writer} (h : P w.buffer) :
    P (action.perform grants w).2.buffer := by
  cases action with
  | append chunk => exact hP _ chunk _ h
  | write chunk => exact Writer.write_keeps hP grants chunk h
  | writeAll chunk => exact Writer.writeAll_keeps hP grants chunk h
  | format pieces => exact Writer.writeFormatted_keeps hP grants pieces h
  | copy s => exact Writer.copyOnto_keeps hP grants 0 ⟨s, []⟩ h
  | flush => exact h

theorem readOnto_keeps (classify : IoFault → Failure) (n : Nat) {buffer buffer' : Buffer} (chunk : Chunk) (r : Reader)
    (h : P buffer) (hr : (readOnto grants classify n buffer chunk r).1 = .ok buffer') : P buffer' := by
  fun_induction readOnto with
  | case1 n buffer chunk r r' _ =>
    cases hr
    exact h
  | case2 n buffer chunk r b bs r' _ _ _ buffer₁ ha ih =>
    have := hP (grants n) ((chunk.fill (b :: bs)).bytes.take (b :: bs).length) buffer h
    rw [ha] at this
    exact ih this hr
  | case3 | case5 => cases hr
  | case4 n buffer chunk r e r' _ _ _ ih => exact ih h hr

end Kept

/-! ## Buffers in use -/

namespace Buffer

/-- The buffers that the operations lead to, whatever the allocator answers on the way. -/
inductive Reachable : Buffer → Prop
  | made (start : Desk.Start) : Reachable start.buffer
  | cloned {b : Buffer} : Reachable b → Reachable b.clone
  | used {w : Writer} (grants : Nat → Grant) (action : Desk.Action) : Reachable w.buffer →
      Reachable (action.perform grants w).2.buffer
  | read {grants : Nat → Grant} {classify : IoFault → Failure} {s : Source} {b : Buffer} :
      (readAll grants classify s).reply = .ok b → Reachable b

theorem Reachable.append {b : Buffer} (h : Reachable b) (g : Grant) (chunk : Bytes) :
    Reachable (b.append g chunk).2 :=
  .used (w := ⟨b, 0⟩) (fun _ => g) (.append chunk) h

theorem Reachable.sound {b : Buffer} (h : Reachable b) : b.storage.Sound := by
  have hkept : ∀ g chunk (b : Buffer), b.storage.Sound → (b.append g chunk).2.storage.Sound :=
    fun g chunk _ hb => append_sound g chunk hb
  induction h with
  | made start => cases start <;> exact Storage.sound_ofArray _
  | cloned _ _ => exact Storage.sound_ofArray _
  | used grants action _ ih => exact Desk.Action.perform_keeps hkept grants action ih
  | read hr => exact readOnto_keeps hkept _ _ 0 .blank ⟨_, []⟩ (Storage.sound_ofArray #[0]) hr

end Buffer

namespace Desk

theorem reachable_step {grants : Nat → Grant} {d : Desk} (h : ∀ b ∈ d.buffers, b.Reachable) (c : Command) :
    ∀ b ∈ (d.step grants c).2.buffers, b.Reachable := by
  have hput : ∀ b', b'.Reachable → ∀ b ∈ (d.put b').buffers, b.Reachable := by
    intro b' hb' b hb
    rcases List.mem_append.1 hb with hb | hb
    · exact h b hb
    · rw [List.mem_singleton.1 hb]
      exact hb'
  -- A command puts a buffer at the end, changes one in its place, or names none and does nothing.
  cases c with
  | make start => exact hput _ (.made start)
  | clone place =>
    cases hp : d.buffers[place]? with
    | none =>
      rw [step, hp]
      exact h
    | some b =>
      rw [step, hp]
      exact hput _ (.cloned (h b (List.mem_of_getElem? hp)))
  | act place action =>
    cases hp : d.buffers[place]? with
    | none =>
      rw [step, hp]
      exact h
    | some b =>
      rw [step, hp]
      intro b' hb'
      rcases List.mem_or_eq_of_mem_set hb' with hb' | rfl
      · exact h b' hb'
      · exact .used grants action (h b (List.mem_of_getElem? hp))

theorem reachable_run {grants : Nat → Grant} {d : Desk} (h : ∀ b ∈ d.buffers, b.Reachable) (commands : List Command) :
    ∀ b ∈ (d.run grants commands).2.buffers, b.Reachable := by
  induction commands generalizing d with
  | nil => exact h
  | cons c commands ih => exact ih (reachable_step h c)

end Desk

/-! ## Appends in a row -/

namespace Grant

/-- What of a chunk is added when this is the answer to its request for room. -/
def taken (chunk : Bytes) : Grant → Bytes
  | refused _ => []
  | granted _ => chunk

/-- What the append of a chunk tells when this is the answer. An empty chunk asks for no room. -/
def told (chunk : Bytes) : Grant → Except Failure Unit
  | refused x => if chunk = [] then .ok () else .error (.allocation x)
  | granted _ => .ok ()

end Grant

theorem Buffer.append_told (g : Grant) (chunk : Bytes) (b : Buffer) :
    ∃ b', b.append g chunk = (g.told chunk, b') ∧ b'.toList = b.toList ++ g.taken chunk := by
  cases g with
  | granted slack => exact append_granted slack chunk b
  | refused x =>
    refine ⟨b, ?_, (List.append_nil _).symm⟩
    unfold Grant.told
    split_ifs with hc
    · rw [hc, append_nil]
    · exact append_refused hc x b

/-- Each append continues from the contents the one before it left, whether it was refused or not. -/
theorem Desk.run_appends (grants : Nat → Grant) (chunks : List Bytes) (n : Nat) (b : Buffer) :
    ∃ b', (⟨[b], n⟩ : Desk).run grants (chunks.map fun chunk => .act 0 (.append chunk)) =
        ((chunks.zipIdx n).map fun e => .appended ((grants e.2).told e.1), ⟨[b'], n + chunks.length⟩) ∧
      b'.toList = b.toList ++ (chunks.zipIdx n).flatMap fun e => (grants e.2).taken e.1 := by
  induction chunks generalizing n b with
  | nil => exact ⟨b, rfl, (List.append_nil _).symm⟩
  | cons chunk chunks ih =>
    obtain ⟨b₁, h₁, hc₁⟩ := b.append_told (grants n) chunk
    obtain ⟨b', h', hc'⟩ := ih (n + 1) b₁
    have hstep : (⟨[b], n⟩ : Desk).step grants (.act 0 (.append chunk)) =
        (.appended ((grants n).told chunk), ⟨[b₁], n + 1⟩) := by
      simp [step, Action.perform, Writer.append, h₁]
    refine ⟨b', ?_, ?_⟩
    · rw [List.map_cons, run, hstep]
      dsimp only
      rw [h', List.zipIdx_cons, List.map_cons, List.length_cons, Nat.add_assoc, Nat.add_comm 1]
    · rw [hc', hc₁, List.zipIdx_cons, List.flatMap_cons, List.append_assoc]

/-! ## Reading -/

/-- The data of a read. -/
def ReadResult.data : ReadResult → Bytes
  | bytes bs => bs
  | fault _ => []

/-- Where reading comes to a halt: at the end of the file, at a fault, or at data that there is no room for. -/
inductive Halt where
  | ended
  | failed (e : IoFault)
  | refused (bs : Bytes) (x : ReserveFault)

namespace Halt

/-- The last read. -/
def read : Halt → ReadResult
  | ended => .bytes []
  | failed e => .fault e
  | refused bs _ => .bytes bs

/-- What reading comes to, `contents` having been read before. -/
def Leaves (classify : IoFault → Failure) (contents : Bytes) (reply : Reply) : Halt → Prop
  | ended => ∃ b, reply = .ok b ∧ b.toList = contents
  | failed e => reply = .error (classify e)
  | refused _ x => reply = .error (.allocation x)

end Halt

/-- Reading `s`, where the next request for room is number `n`, comes to a halt at `last` after `results`, and leaves
`rest` unread. -/
inductive Halts (grants : Nat → Grant) : Nat → Source → List ReadResult → Halt → Source → Prop
  | ended {n : Nat} {s rest : Source} : s.read chunkSize = (.bytes [], rest) → Halts grants n s [] .ended rest
  | failed {n : Nat} {s rest : Source} {e : IoFault} : s.read chunkSize = (.fault e, rest) → e.kind ≠ .interrupted →
      Halts grants n s [] (.failed e) rest
  | refused {n : Nat} {s rest : Source} {bs : Bytes} {x : ReserveFault} : bs ≠ [] →
      s.read chunkSize = (.bytes bs, rest) → grants n = .refused x → Halts grants n s [] (.refused bs x) rest
  | taken {n slack : Nat} {s s' rest : Source} {bs : Bytes} {results : List ReadResult} {last : Halt} : bs ≠ [] →
      s.read chunkSize = (.bytes bs, s') → grants n = .granted slack → Halts grants (n + 1) s' results last rest →
      Halts grants n s (.bytes bs :: results) last rest
  | interrupted {n : Nat} {s s' rest : Source} {e : IoFault} {results : List ReadResult} {last : Halt} :
      s.read chunkSize = (.fault e, s') → e.kind = .interrupted → Halts grants n s' results last rest →
      Halts grants n s (.fault e :: results) last rest

theorem exists_halts (grants : Nat → Grant) (n : Nat) (s : Source) :
    ∃ results last rest, Halts grants n s results last rest := by
  induction hw : s.weight using Nat.strongRecOn generalizing n s with
  | ind weight ih =>
    subst hw
    -- Every read but that of the end takes something off the weight of the source.
    have hlt : ∀ {result s'}, s.read chunkSize = (result, s') → result ≠ .bytes [] → s'.weight < s.weight := by
      intro result s' hr hne
      have := Source.weight_read_lt (show 0 < chunkSize by decide) (s := s) (by rw [hr]; exact hne)
      rwa [hr] at this
    rcases hr : s.read chunkSize with ⟨bs | e, s'⟩
    · by_cases hb : bs = []
      · subst hb
        exact ⟨_, _, _, .ended hr⟩
      cases hg : grants n with
      | refused x => exact ⟨_, _, _, .refused hb hr hg⟩
      | granted slack =>
        obtain ⟨results, last, rest, h⟩ := ih _ (hlt hr (by simpa using hb)) (n + 1) s' rfl
        exact ⟨_, _, _, .taken hb hr hg h⟩
    · by_cases he : e.kind = .interrupted
      · obtain ⟨results, last, rest, h⟩ := ih _ (hlt hr (by simp)) n s' rfl
        exact ⟨_, _, _, .interrupted hr he h⟩
      · exact ⟨_, _, _, .failed hr he⟩

/-! One lemma for what each read of a reply leads to. -/

section Reads
variable {grants : Nat → Grant} {classify : IoFault → Failure} {n : Nat} {buffer : Buffer} {chunk : Chunk}
  {s s' : Source} {log : List (Nat × ReadResult)}

theorem Chunk.reader_read (chunk : Chunk) {result : ReadResult} (h : s.read chunkSize = (result, s')) :
    (⟨s, log⟩ : Reader).read chunk.bytes.length = (result, ⟨s', (chunkSize, result) :: log⟩) := by
  unfold Reader.read
  rw [chunk.length_eq, h]

theorem readOnto_ended (h : s.read chunkSize = (.bytes [], s')) :
    readOnto grants classify n buffer chunk ⟨s, log⟩ = (.ok buffer, ⟨s', (chunkSize, .bytes []) :: log⟩) := by
  rw [readOnto]
  split <;> rename_i hr <;> rw [chunk.reader_read h] at hr
  · obtain ⟨-, rfl⟩ := Prod.mk.inj hr
    rfl
  all_goals cases hr

theorem readOnto_fault {e : IoFault} (h : s.read chunkSize = (.fault e, s')) :
    readOnto grants classify n buffer chunk ⟨s, log⟩ =
      if e.kind = .interrupted then readOnto grants classify n buffer chunk ⟨s', (chunkSize, .fault e) :: log⟩
      else (.error (classify e), ⟨s', (chunkSize, .fault e) :: log⟩) := by
  rw [readOnto]
  split <;> rename_i hr <;> rw [chunk.reader_read h] at hr
  · cases hr
  · cases hr
  · obtain ⟨⟨⟩, rfl⟩ := Prod.mk.inj hr
    rfl

theorem readOnto_data {bs : Bytes} (hb : bs ≠ []) (h : s.read chunkSize = (.bytes bs, s')) :
    readOnto grants classify n buffer chunk ⟨s, log⟩ =
      match buffer.append (grants n) bs with
      | (.ok _, buffer') =>
        readOnto grants classify (n + 1) buffer' (chunk.fill bs) ⟨s', (chunkSize, .bytes bs) :: log⟩
      | (.error f, _) => (.error f, ⟨s', (chunkSize, .bytes bs) :: log⟩) := by
  have hl := (Source.delivered_of_read hb h).2.2
  rcases ha : buffer.append (grants n) bs with ⟨_ | _, _⟩
  all_goals
    rw [readOnto]
    split <;> rename_i hr <;> rw [chunk.reader_read h] at hr
    · cases hr
      exact absurd rfl hb
    · obtain ⟨⟨⟩, rfl⟩ := Prod.mk.inj hr
      simp only [chunk.take_fill hl, ha]
    · cases hr

end Reads

/-- **Reading comes to what it halts at**: the data so far, the fault, classified, or the refusal itself. -/
theorem Halts.readOnto_eq {grants : Nat → Grant} (classify : IoFault → Failure) {n : Nat} {s rest : Source}
    {results : List ReadResult} {last : Halt} (h : Halts grants n s results last rest) (buffer : Buffer)
    (chunk : Chunk) (log : List (Nat × ReadResult)) :
    let d := readOnto grants classify n buffer chunk ⟨s, log⟩
    d.2 = ⟨rest, ((results ++ [last.read]).map fun x => (chunkSize, x)).reverse ++ log⟩ ∧
      last.Leaves classify (buffer.toList ++ results.flatMap ReadResult.data) d.1 := by
  intro d
  -- The buffer, the memory for chunks and the log change with each read, so the induction is for all of them.
  induction h generalizing buffer chunk log with
  | ended hr =>
    have hd : d = _ := readOnto_ended hr
    rw [hd]
    exact ⟨rfl, buffer, rfl, (List.append_nil _).symm⟩
  | failed hr he =>
    have hd : d = _ := readOnto_fault hr
    rw [hd, if_neg he]
    exact ⟨rfl, rfl⟩
  | refused hb hr hg =>
    have hd : d = _ := readOnto_data hb hr
    rw [hg, Buffer.append_refused hb] at hd
    rw [hd]
    exact ⟨rfl, rfl⟩
  | @taken n slack s s' rest bs results last hb hr hg _ ih =>
    have hd : d = _ := readOnto_data hb hr
    obtain ⟨b', hb', hc⟩ := Buffer.append_granted slack bs buffer
    rw [hg, hb'] at hd
    obtain ⟨h₂, h₁⟩ := ih b' (chunk.fill bs) ((chunkSize, .bytes bs) :: log)
    rw [hd]
    rw [hc, List.append_assoc] at h₁
    exact ⟨by rw [h₂]; simp, h₁⟩
  | @interrupted n s s' rest e results last hr he _ ih =>
    have hd : d = _ := readOnto_fault hr
    obtain ⟨h₂, h₁⟩ := ih buffer chunk ((chunkSize, .fault e) :: log)
    rw [hd, if_pos he]
    exact ⟨by rw [h₂]; simp, h₁⟩

theorem Halts.readAll_eq {grants : Nat → Grant} (classify : IoFault → Failure) {s rest : Source}
    {results : List ReadResult} {last : Halt} (h : Halts grants 0 s results last rest) :
    let d := readAll grants classify s
    d.reads = (results ++ [last.read]).map (fun x => (chunkSize, x)) ∧ d.rest = rest ∧
      last.Leaves classify (results.flatMap ReadResult.data) d.reply := by
  obtain ⟨h₂, h₁⟩ := h.readOnto_eq classify .empty .blank []
  unfold readAll
  dsimp only
  rw [h₂, List.append_nil, List.reverse_reverse]
  exact ⟨rfl, rfl, h₁⟩

/-- **A refusal of room changes nothing, and no room is taken that was not asked for.** Every buffer in use fits the
room set aside for it and never outgrew it. For each append room may be refused for either reason, or any room be given
that is large enough. If it is refused, the append is an allocation failure with that reason, a write is an
out-of-memory fault that tells it, and the buffer is the one before, so that later appends continue from there. If it
is not, no step of the append needs more room than was given. Reading comes to a halt at the end of the file, at a
fault, or at a chunk that there is no room for, and then the reply is the allocation failure, whatever faults are
classified as. -/
theorem refused_room_changes_nothing :
    (∀ grants commands, ∀ b ∈ (Desk.empty.run grants commands).2.buffers, b.Reachable) ∧
    (∀ b : Buffer, b.Reachable → b.storage.Sound ∧
      (∀ extra c, max b.storage.capacity (b.storage.bytes.size + extra) ≤ c →
        ∃ g, b.storage.reserve g extra = .ok { b.storage with capacity := c }) ∧
      (∀ extra x, ∃ g, b.storage.reserve g extra = .error x) ∧
      ∀ g chunk,
        (chunk = [] → b.append g chunk = (.ok (), b) ∧ b.write g chunk = (.ok 0, b)) ∧
        (∀ x, chunk ≠ [] → b.storage.reserve g chunk.length = .error x →
          b.append g chunk = (.error (.allocation x), b) ∧ ∃ e, b.write g chunk = (.error e, b) ∧ e.kind = .outOfMemory ∧
            e.message = "reply buffer allocation failed: " ++ x.message) ∧
        ∀ r, chunk ≠ [] → b.storage.reserve g chunk.length = .ok r →
          ∃ b', b.append g chunk = (.ok (), b') ∧ b.write g chunk = (.ok chunk.length, b') ∧
            Buffer.Taken b chunk r b' ∧ b'.Reachable) ∧
    (∀ grants (chunks : List Bytes) n b, ∃ b',
      (⟨[b], n⟩ : Desk).run grants (chunks.map fun chunk => .act 0 (.append chunk)) =
        ((chunks.zipIdx n).map fun e => .appended ((grants e.2).told e.1), ⟨[b'], n + chunks.length⟩) ∧
      b'.toList = b.toList ++ (chunks.zipIdx n).flatMap fun e => (grants e.2).taken e.1) ∧
    ∀ grants classify s, (∃ results last rest, Halts grants 0 s results last rest) ∧
      ∀ results last rest, Halts grants 0 s results last rest →
        let d := readAll grants classify s
        d.reads = (results ++ [last.read]).map (fun x => (chunkSize, x)) ∧ d.rest = rest ∧
          last.Leaves classify (results.flatMap ReadResult.data) d.reply ∧ ∀ b, d.reply = .ok b → b.Reachable := by
  refine ⟨fun grants commands => Desk.reachable_run (by simp [Desk.empty]) commands, ?_, Desk.run_appends, ?_⟩
  · intro b hb
    refine ⟨hb.sound, fun extra c h => Storage.exists_reserve_eq h, fun extra x => ⟨.refused x, rfl⟩,
      fun g chunk => ⟨?_, ?_, ?_⟩⟩
    · rintro rfl
      exact ⟨rfl, rfl⟩
    · intro x hc hg
      cases g with
      | granted slack => cases hg
      | refused x' =>
        obtain rfl := Except.error.inj hg
        have ha := Buffer.append_refused hc x' b
        refine ⟨ha, .described .outOfMemory (Failure.allocation x').message, ?_, rfl, rfl⟩
        rw [Buffer.write_eq, ha]
    · intro r hc hg
      cases g with
      | refused x => cases hg
      | granted slack =>
        obtain ⟨r', b', hr, ha, ht⟩ := Buffer.append_granted_taken hc slack b
        obtain rfl := Except.ok.inj (hr.symm.trans hg)
        refine ⟨b', ha, by rw [Buffer.write_eq, ha], ht, ?_⟩
        have := hb.append (.granted slack) chunk
        rwa [ha] at this
  · intro grants classify s
    refine ⟨exists_halts grants 0 s, fun results last rest h => ?_⟩
    obtain ⟨hreads, hrest, hreply⟩ := h.readAll_eq classify
    exact ⟨hreads, hrest, hreply, fun b => .read⟩

/-- The second chunk of an interrupted source finds no room, and neither does a byte for a fresh buffer, which is then
given the least room that is enough. -/
theorem refused_room_changes_nothing_second :
    let grants : Nat → Grant := fun n => if n = 1 then .refused .outOfMemory else .granted 0
    let s : Source := [.data [1], .failed (.os 4), .data [2, 3], .data [4]]
    let b : Buffer := .empty
    b.Reachable ∧ b ∈ (Desk.empty.run grants [.make .new]).2.buffers ∧
      b.append (.refused .tooLarge) [7] = (.error (.allocation .tooLarge), b) ∧
      (∃ b', b.append (.granted 0) [7] = (.ok (), b') ∧ b'.toList = [7] ∧ b'.storage.capacity = 2) ∧
      (∃ g, b.storage.reserve g 1 = .ok { b.storage with capacity := 100 }) ∧
      readAll grants (fun e => .transport e.message) s =
        ⟨.error (.allocation .outOfMemory), [(1024, .bytes [1]), (1024, .fault (.os 4)), (1024, .bytes [2, 3])],
          [.data [4]]⟩ := by
  intro grants s b
  have hm : b ∈ (Desk.empty.run grants [.make .new]).2.buffers := List.mem_singleton_self _
  have hb := refused_room_changes_nothing.1 grants [.make .new] b hm
  have hs : Halts grants 0 s [.bytes [1], .fault (.os 4)] (.refused [2, 3] .outOfMemory) [.data [4]] :=
    .taken (by decide) rfl rfl (.interrupted rfl (by decide) (.refused (by decide) rfl rfl))
  obtain ⟨-, hroom, -, happend⟩ := refused_room_changes_nothing.2.1 b hb
  obtain ⟨b', ha, -, ht, -⟩ := (happend (.granted 0) [7]).2.2 _ (by decide) rfl
  obtain ⟨hreads, hrest, hreply, -⟩ :=
    (refused_room_changes_nothing.2.2.2 grants (fun e => .transport e.message) s).2 _ _ _ hs
  refine ⟨hb, hm, ((happend (.refused .tooLarge) [7]).2.1 _ (by decide) rfl).1, ⟨b', ha, ht.contents, ht.capacity⟩,
    hroom 1 100 (by decide), ?_⟩
  rcases hd : readAll grants (fun e => .transport e.message) s with ⟨reply, reads, rest⟩
  rw [hd] at hreads hrest hreply
  rw [show reads = _ from hreads, show rest = _ from hrest, show reply = _ from hreply]
  rfl

end Courier
