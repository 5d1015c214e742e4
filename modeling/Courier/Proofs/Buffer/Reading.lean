import Courier.Buffer.Stream
import Mathlib.Tactic

/-!
# Reading a source to its end

Reading stops at the first end of file or fault that is no interruption (`Delivery.stops`).

* `Source.delivered`, `Source.ending` : the data handed out before that, and the fault it is, if it is one;
* `Source.delivered_of_read`, `Source.eq_of_read_fault` : what one read of a source changes of them;
* `reply_readOnto` : the reply is the buffer with the delivered data, or the classified fault;
* `StopsAt`, `reads_readOnto` : the reads made and what is left, for a source that is handed out delivery by delivery;
* `readAll_whole_or_fault` : all of it together.
-/

namespace Courier

/-- Whether reading stops at a result. No data means the end of the file. -/
def ReadResult.stops : ReadResult → Bool
  | bytes bs => bs.isEmpty
  | fault e => e.kind != .interrupted

namespace Delivery

/-- What a read with enough space comes to. -/
def result : Delivery → ReadResult
  | data bs => .bytes bs
  | ended => .bytes []
  | failed e => .fault e

/-- Whether reading stops here. -/
def stops (d : Delivery) : Bool := d.result.stops

@[simp] theorem stops_data (bs : Bytes) : (data bs).stops = bs.isEmpty := rfl

@[simp] theorem stops_ended : ended.stops = true := rfl

@[simp] theorem stops_failed (e : IoFault) : (failed e).stops = (e.kind != .interrupted) := rfl

/-- The data that is handed out. -/
def bytes : Delivery → Bytes
  | data bs => bs
  | _ => []

/-- The fault, if it is one. -/
def fault? : Delivery → Option IoFault
  | failed e => some e
  | _ => none

end Delivery

namespace Source

/-- The data handed out before reading stops, in order. -/
def delivered (s : Source) : Bytes :=
  (s.takeWhile fun d => !d.stops).flatMap Delivery.bytes

/-- The fault at which reading stops, or nothing at the end of the file. -/
def ending (s : Source) : Option IoFault :=
  (s.find? Delivery.stops).bind Delivery.fault?

theorem delivered_cons_of_stops {d : Delivery} (h : d.stops = true) (s : Source) : delivered (d :: s) = [] := by
  simp [delivered, h]

theorem delivered_cons {d : Delivery} (h : d.stops = false) (s : Source) :
    delivered (d :: s) = d.bytes ++ delivered s := by
  simp [delivered, h]

theorem ending_cons_of_stops {d : Delivery} (h : d.stops = true) (s : Source) : ending (d :: s) = d.fault? := by
  simp [ending, h]

theorem ending_cons {d : Delivery} (h : d.stops = false) (s : Source) : ending (d :: s) = ending s := by
  simp [ending, h]

/-! ## One read -/

theorem read_data_cons (space : Nat) (bs : Bytes) (s : Source) : read space (.data bs :: s) =
    if bs.length ≤ space then (.bytes bs, s) else (.bytes (bs.take space), .data (bs.drop space) :: s) := by
  rw [read]
  split
  · next h => rw [if_pos (List.drop_eq_nil_iff.1 h)]
  · next h => rw [if_neg (fun hl => h (List.drop_eq_nil_of_le hl))]

/-- A read that comes to no data is the last one, and the end is that of a file. -/
theorem ending_of_read_nil {space : Nat} (hs : 0 < space) {s s' : Source} (h : s.read space = (.bytes [], s')) :
    delivered s = [] ∧ ending s = none := by
  cases s with
  | nil => exact ⟨rfl, rfl⟩
  | cons d s =>
    have hd : d.stops = true ∧ d.fault? = none := by
      cases d with
      | ended => exact ⟨rfl, rfl⟩
      | failed e => simp [read] at h
      | data bs =>
        rw [read_data_cons] at h
        split_ifs at h with hl
        · simp_all [Delivery.fault?]
        · rcases List.take_eq_nil_iff.1 (ReadResult.bytes.inj (Prod.mk.inj h).1) with h0 | h0
          · omega
          · exact absurd h0 (by rintro rfl; exact hl (Nat.zero_le _))
    rw [delivered_cons_of_stops hd.1, ending_cons_of_stops hd.1]
    exact ⟨rfl, hd.2⟩

/-- A read that comes to data brings the next of it, and no more than there is space for. -/
theorem delivered_of_read {space : Nat} {s s' : Source} {bs : Bytes} (hb : bs ≠ [])
    (h : s.read space = (.bytes bs, s')) :
    delivered s = bs ++ delivered s' ∧ ending s = ending s' ∧ bs.length ≤ space := by
  have hn : (Delivery.data bs).stops = false := by simpa using hb
  cases s with
  | nil => simp [read, hb.symm] at h
  | cons d s =>
    cases d with
    | ended => simp [read, hb.symm] at h
    | failed e => simp [read] at h
    | data all =>
      rw [read_data_cons] at h
      split_ifs at h with hl
      · obtain ⟨⟨⟩, rfl⟩ := Prod.mk.inj h
        exact ⟨delivered_cons hn _, ending_cons hn _, hl⟩
      · obtain ⟨⟨⟩, rfl⟩ := Prod.mk.inj h
        have ha : (Delivery.data all).stops = false := by
          cases all with
          | nil => simp at hl
          | cons => rfl
        have hr : (Delivery.data (all.drop space)).stops = false := by
          simpa using hl
        rw [delivered_cons ha, delivered_cons hr, ending_cons ha, ending_cons hr, ← List.append_assoc]
        exact ⟨by rw [Delivery.bytes, Delivery.bytes, List.take_append_drop], rfl, List.length_take_le _ _⟩

theorem read_cons {space : Nat} {d : Delivery} (s : Source) (hd : ∀ bs, d = .data bs → bs.length ≤ space) :
    read space (d :: s) = (d.result, s) := by
  cases d with
  | ended => rfl
  | failed e => rfl
  | data bs => rw [read_data_cons, if_pos (hd bs rfl)]; rfl

theorem eq_of_read_fault {space : Nat} {s s' : Source} {e : IoFault} (h : s.read space = (.fault e, s')) :
    s = .failed e :: s' := by
  cases s with
  | nil => simp [read] at h
  | cons d s =>
    cases d with
    | ended => simp [read] at h
    | failed e' =>
      obtain ⟨⟨⟩, rfl⟩ := Prod.mk.inj h
      rfl
    | data bs =>
      rw [read_data_cons] at h
      split_ifs at h <;> simp at h

end Source

/-! ## Where reading stops -/

/-- Reading `s` passes over `pre`, stops at `stop` and leaves `rest`. -/
structure StopsAt (s pre : Source) (stop : Delivery) (rest : Source) : Prop where
  eq : s = pre ++ stop :: rest
  passes : ∀ d ∈ pre, d.stops = false
  stops : stop.stops = true

theorem exists_stopsAt {s : Source} {d : Delivery} (hd : d ∈ s) (hs : d.stops = true) :
    ∃ pre stop rest, StopsAt s pre stop rest := by
  induction s with
  | nil => cases hd
  | cons d' s ih =>
    cases h : d'.stops with
    | true => exact ⟨[], d', s, rfl, by simp, h⟩
    | false =>
      have hm : d ∈ s := by
        rcases List.mem_cons.1 hd with rfl | hm
        · rw [hs] at h
          cases h
        · exact hm
      obtain ⟨pre, stop, rest, rfl, hp, hs⟩ := ih hm
      exact ⟨d' :: pre, stop, rest, rfl, List.forall_mem_cons.2 ⟨h, hp⟩, hs⟩

namespace StopsAt
variable {s pre rest : Source} {stop : Delivery}

theorem unique (h : StopsAt s pre stop rest) {pre' rest' : Source} {stop' : Delivery}
    (h' : StopsAt s pre' stop' rest') : pre = pre' ∧ stop = stop' ∧ rest = rest' := by
  obtain ⟨rfl, hp, hs⟩ := h
  obtain ⟨he, hp', hs'⟩ := h'
  induction pre generalizing pre' with
  | nil =>
    cases pre' with
    | nil => simpa using he
    | cons d pre' =>
      obtain ⟨rfl, -⟩ := List.cons.inj he
      rw [hp' _ List.mem_cons_self] at hs
      cases hs
  | cons d pre ih =>
    cases pre' with
    | nil =>
      obtain ⟨rfl, -⟩ := List.cons.inj he
      rw [hp _ List.mem_cons_self] at hs'
      cases hs'
    | cons d' pre' =>
      obtain ⟨rfl, ht⟩ := List.cons.inj he
      obtain ⟨rfl, h⟩ := ih (fun d hd => hp d (List.mem_cons_of_mem _ hd)) ht
        fun d hd => hp' d (List.mem_cons_of_mem _ hd)
      exact ⟨rfl, h⟩

theorem delivered_eq (h : StopsAt s pre stop rest) : s.delivered = pre.flatMap Delivery.bytes := by
  obtain ⟨rfl, hp, hs⟩ := h
  induction pre with
  | nil => exact Source.delivered_cons_of_stops hs rest
  | cons d pre ih =>
    rw [List.cons_append, Source.delivered_cons (hp d List.mem_cons_self), List.flatMap_cons,
      ih (fun d hd => hp d (List.mem_cons_of_mem _ hd))]

theorem ending_eq (h : StopsAt s pre stop rest) : s.ending = stop.fault? := by
  obtain ⟨rfl, hp, hs⟩ := h
  induction pre with
  | nil => exact Source.ending_cons_of_stops hs rest
  | cons d pre ih =>
    rw [List.cons_append, Source.ending_cons (hp d List.mem_cons_self),
      ih (fun d hd => hp d (List.mem_cons_of_mem _ hd))]

/-- One read takes the next delivery that is passed over, or the one at which reading stops. -/
theorem read_eq (h : StopsAt s pre stop rest) {space : Nat} (hf : ∀ bs, .data bs ∈ s → bs.length ≤ space)
    {result : ReadResult} {s' : Source} (hr : s.read space = (result, s')) :
    (result.stops = true → pre = [] ∧ stop.result = result ∧ s' = rest) ∧
    (result.stops = false → ∃ d pre', pre = d :: pre' ∧ d.result = result ∧ StopsAt s' pre' stop rest) := by
  obtain ⟨rfl, hp, hs⟩ := h
  cases pre with
  | nil =>
    rw [List.nil_append, Source.read_cons rest fun bs e => hf bs (by simp [e])] at hr
    obtain ⟨rfl, rfl⟩ := Prod.mk.inj hr
    exact ⟨fun _ => ⟨rfl, rfl, rfl⟩, fun hn => absurd hs (by rw [Delivery.stops, hn]; decide)⟩
  | cons d pre =>
    rw [List.cons_append, Source.read_cons _ fun bs e => hf bs (by simp [e])] at hr
    obtain ⟨rfl, rfl⟩ := Prod.mk.inj hr
    have hd := hp d List.mem_cons_self
    exact ⟨fun hn => absurd hn (by rw [← Delivery.stops, hd]; decide),
      fun _ => ⟨d, pre, rfl, rfl, rfl, fun d hd => hp d (List.mem_cons_of_mem _ hd), hs⟩⟩

theorem fits_tail {d : Delivery} {s' : Source} (h : StopsAt s (d :: pre) stop rest) (h' : StopsAt s' pre stop rest)
    {space : Nat} (hf : ∀ bs, .data bs ∈ s → bs.length ≤ space) : ∀ bs, .data bs ∈ s' → bs.length ≤ space := by
  intro bs hb
  rw [h'.eq] at hb
  rw [h.eq] at hf
  exact hf bs (List.mem_cons_of_mem _ hb)

end StopsAt

/-! ## What is appended -/

theorem Chunk.take_fill (c : Chunk) {bs : Bytes} (h : bs.length ≤ chunkSize) :
    (c.fill bs).bytes.take bs.length = bs := by
  simp [fill, List.take_of_length_le h]

theorem Buffer.append_granted (slack : Nat) (chunk : Bytes) (b : Buffer) :
    ∃ b', b.append (.granted slack) chunk = (.ok (), b') ∧ b'.toList = b.toList ++ chunk := by
  have h : (b.append (.granted slack) chunk).1 = .ok () := by
    unfold append
    split_ifs <;> rfl
  exact ⟨_, Prod.ext h rfl, toList_append h⟩

theorem Buffer.append_granted_ne_error {slack : Nat} {chunk : Bytes} {b b' : Buffer} {f : Failure} :
    b.append (.granted slack) chunk ≠ (.error f, b') := by
  obtain ⟨b₁, h, -⟩ := append_granted slack chunk b
  rw [h]
  rintro ⟨⟩

/-! ## The reply -/

theorem Reader.read_eq {space : Nat} {r r' : Reader} {result : ReadResult} (h : r.read space = (result, r')) :
    r.source.read space = (result, r'.source) ∧ r'.log = (space, result) :: r.log := by
  obtain ⟨rfl, rfl⟩ := Prod.mk.inj h
  exact ⟨rfl, rfl⟩

section Granted
variable (slack : Nat → Nat) (classify : IoFault → Failure)

/-- **The reply is the data before reading stops, or the fault at which it stops.** -/
theorem reply_readOnto (n : Nat) (buffer : Buffer) (chunk : Chunk) (r : Reader) :
    (readOnto (fun n => .granted (slack n)) classify n buffer chunk r).1.map Buffer.toList =
      match r.source.ending with
      | none => .ok (buffer.toList ++ r.source.delivered)
      | some e => .error (classify e) := by
  fun_induction readOnto with
  | case1 n buffer chunk r r' hr =>
    obtain ⟨hd, he⟩ := Source.ending_of_read_nil chunk.length_pos (Reader.read_eq hr).1
    simp [hd, he, Except.map]
  | case2 n buffer chunk r b bs r' hr _ _ buffer' ha ih =>
    obtain ⟨hd, he, hl⟩ := Source.delivered_of_read (List.cons_ne_nil b bs) (Reader.read_eq hr).1
    rw [chunk.length_eq] at hl
    obtain ⟨b', hb', hc⟩ := Buffer.append_granted (slack n) (b :: bs) buffer
    rw [chunk.take_fill hl, hb'] at ha
    obtain rfl := (Prod.mk.inj ha).2
    rw [ih, hd, he, hc, List.append_assoc]
  | case3 n buffer chunk r b bs r' hr _ f _ ha => exact absurd ha Buffer.append_granted_ne_error
  | case4 n buffer chunk r e r' hr _ hi ih =>
    have hs : (Delivery.failed e).stops = false := by simp [hi]
    rw [ih, Source.eq_of_read_fault (Reader.read_eq hr).1, Source.delivered_cons hs, Source.ending_cons hs]
    rfl
  | case5 n buffer chunk r e r' hr _ hi =>
    have hs : (Delivery.failed e).stops = true := by simp [hi]
    rw [Source.eq_of_read_fault (Reader.read_eq hr).1, Source.ending_cons_of_stops hs]
    rfl

/-! ## The reads -/

/-- **Each delivery up to the one at which reading stops is read once, and none after it.** -/
theorem reads_readOnto (n : Nat) (buffer : Buffer) (chunk : Chunk) (r : Reader) {pre : Source} {stop : Delivery}
    {rest : Source} (h : StopsAt r.source pre stop rest)
    (hf : ∀ bs, .data bs ∈ r.source → bs.length ≤ chunkSize) :
    (readOnto (fun n => .granted (slack n)) classify n buffer chunk r).2 =
      ⟨rest, ((pre ++ [stop]).map fun d => (chunkSize, d.result)).reverse ++ r.log⟩ := by
  fun_induction readOnto generalizing pre with
  | case1 n buffer chunk r r' hr =>
    obtain ⟨hs, hl⟩ := Reader.read_eq hr
    rw [chunk.length_eq] at hs hl
    obtain ⟨rfl, he, rfl⟩ := (h.read_eq hf hs).1 rfl
    exact Reader.ext rfl (by simp [hl, he])
  | case2 n buffer chunk r b bs r' hr _ _ buffer' ha ih =>
    obtain ⟨hs, hl⟩ := Reader.read_eq hr
    rw [chunk.length_eq] at hs hl
    obtain ⟨d, pre, rfl, he, h'⟩ := (h.read_eq hf hs).2 rfl
    rw [ih h' (h.fits_tail h' hf), hl, ← he]
    simp
  | case3 n buffer chunk r b bs r' hr _ f _ ha => exact absurd ha Buffer.append_granted_ne_error
  | case4 n buffer chunk r e r' hr _ hi ih =>
    obtain ⟨hs, hl⟩ := Reader.read_eq hr
    rw [chunk.length_eq] at hs hl
    obtain ⟨d, pre, rfl, he, h'⟩ := (h.read_eq hf hs).2 (by simp [ReadResult.stops, hi])
    rw [ih h' (h.fits_tail h' hf), hl, ← he]
    simp
  | case5 n buffer chunk r e r' hr _ hi =>
    obtain ⟨hs, hl⟩ := Reader.read_eq hr
    rw [chunk.length_eq] at hs hl
    obtain ⟨rfl, he, rfl⟩ := (h.read_eq hf hs).1 (by simp [ReadResult.stops, hi])
    exact Reader.ext rfl (by simp [hl, he])

end Granted

/-! ## All of a source -/

/-- A source that is read delivery by delivery: data that is not empty and fits a chunk, interruptions and other
faults, in any order, and an end of file at the end. -/
structure Scripted (s : Source) : Prop where
  data : ∀ bs, .data bs ∈ s → 0 < bs.length ∧ bs.length ≤ chunkSize
  last : s.getLast? = some .ended

namespace Scripted
variable {s : Source}

theorem exists_stopsAt (h : Scripted s) : ∃ pre stop rest, StopsAt s pre stop rest :=
  Courier.exists_stopsAt (List.mem_of_getLast? h.last) rfl

theorem stop_cases (h : Scripted s) {pre rest : Source} {stop : Delivery} (hs : StopsAt s pre stop rest) :
    stop = .ended ∨ ∃ e, stop = .failed e ∧ e.kind ≠ .interrupted := by
  obtain ⟨rfl, -, ht⟩ := hs
  cases stop with
  | ended => exact .inl rfl
  | failed e => exact .inr ⟨e, rfl, by simpa using ht⟩
  | data bs =>
    have hb := (h.data bs (by simp)).1
    rw [Delivery.stops_data, List.isEmpty_iff] at ht
    simp [ht] at hb

end Scripted

theorem Buffer.map_toList_eq_ok_iff {reply : Reply} {bs : Bytes} :
    reply.map Buffer.toList = .ok bs ↔ ∃ b, reply = .ok b ∧ b.toList = bs := by
  cases reply <;> simp [Except.map]

theorem Buffer.map_toList_eq_error_iff {reply : Reply} {f : Failure} :
    reply.map Buffer.toList = .error f ↔ reply = .error f := by
  cases reply <;> simp [Except.map]

theorem Buffer.map_toListWithZero (reply : Reply) :
    reply.map Buffer.toListWithZero = (reply.map Buffer.toList).map (· ++ [0]) := by
  cases reply with
  | error f => rfl
  | ok b => exact congrArg Except.ok b.toListWithZero_eq

section Granted
variable (slack : Nat → Nat) (classify : IoFault → Failure)

/-- The reply is the data before reading stops, or the fault at which it stops, classified. -/
theorem reply_readAll {s pre rest : Source} {stop : Delivery} (h : StopsAt s pre stop rest) :
    (readAll (fun n => .granted (slack n)) classify s).reply.map Buffer.toList =
      match stop.fault? with
      | none => .ok (pre.flatMap Delivery.bytes)
      | some e => .error (classify e) := by
  rw [← h.delivered_eq, ← h.ending_eq]
  exact reply_readOnto slack classify 0 .empty .blank ⟨s, []⟩

theorem reads_readAll {s pre rest : Source} {stop : Delivery} (h : StopsAt s pre stop rest)
    (hf : ∀ bs, .data bs ∈ s → bs.length ≤ chunkSize) :
    let d := readAll (fun n => .granted (slack n)) classify s
    d.reads = (pre ++ [stop]).map (fun x => (chunkSize, x.result)) ∧ d.rest = rest := by
  have hr := reads_readOnto slack classify 0 .empty .blank ⟨s, []⟩ h hf
  simp only [readAll, hr, List.append_nil, List.reverse_reverse, and_self]

end Granted

/-- **Reading a source comes to all of its data or to its fault, and to nothing in between.** With an allocator that
grants every request there is one place where reading stops, an end of file or a fault that is no interruption. Each
delivery up to it is read once, with a whole chunk of space, and none after it is read. At an end of file the reply
is the data before it, in order, with one zero behind in storage; at a fault it is that fault, classified. A source
that hands out the same data before the same stop, cut differently and interrupted elsewhere, has the same reply. -/
theorem readAll_whole_or_fault (slack : Nat → Nat) (classify : IoFault → Failure) {s : Source} (h : Scripted s) :
    let d := readAll (fun n => .granted (slack n)) classify s
    ∃ pre stop rest, StopsAt s pre stop rest ∧
      d.reads = (pre ++ [stop]).map (fun x => (chunkSize, x.result)) ∧ d.rest = rest ∧
      ((stop = .ended ∧ ∃ b, d.reply = .ok b ∧ b.toList = pre.flatMap Delivery.bytes ∧
          b.storage.bytes.toList = pre.flatMap Delivery.bytes ++ [0]) ∨
        ∃ e, stop = .failed e ∧ e.kind ≠ .interrupted ∧ d.reply = .error (classify e)) ∧
      ∀ (slack' : Nat → Nat) (s' pre' rest' : Source), StopsAt s' pre' stop rest' →
        pre'.flatMap Delivery.bytes = pre.flatMap Delivery.bytes →
        (readAll (fun n => .granted (slack' n)) classify s').reply.map Buffer.toListWithZero =
          d.reply.map Buffer.toListWithZero := by
  intro d
  obtain ⟨pre, stop, rest, hs⟩ := h.exists_stopsAt
  obtain ⟨hreads, hrest⟩ := reads_readAll slack classify hs fun bs hb => (h.data bs hb).2
  have hreply := reply_readAll slack classify hs
  refine ⟨pre, stop, rest, hs, hreads, hrest, ?_, fun slack' s' pre' rest' hs' hb => ?_⟩
  · rcases h.stop_cases hs with rfl | ⟨e, rfl, he⟩
    · cases hd : d.reply with
      | error f => rw [hd] at hreply; cases hreply
      | ok b =>
        rw [hd] at hreply
        have hb : b.toList = pre.flatMap Delivery.bytes := Except.ok.inj hreply
        exact .inl ⟨rfl, b, rfl, hb, hb ▸ b.toListWithZero_eq⟩
    · cases hd : d.reply with
      | ok b => rw [hd] at hreply; cases hreply
      | error f =>
        rw [hd] at hreply
        exact .inr ⟨e, rfl, he, congrArg _ (Except.error.inj hreply)⟩
  · rw [Buffer.map_toListWithZero, Buffer.map_toListWithZero, reply_readAll slack' classify hs', hreply, hb]

/-- A full chunk, a short read and interruptions before the end of the file, and the same data in other pieces. -/
theorem readAll_whole_or_fault_interrupted :
    let chunk : Bytes := List.replicate 1024 7
    let s : Source := [.failed (.os 4), .data chunk, .data [1, 2], .failed (.os 4), .ended, .data [3], .ended]
    let s' : Source := [.data [7], .data chunk.tail, .failed (.os 4), .data [1], .data [2], .ended]
    let classify := fun e : IoFault => Failure.transport e.message
    let d := readAll plenty classify s
    Scripted s ∧ d.rest = [.data [3], .ended] ∧
      (∃ b, d.reply = .ok b ∧ b.storage.bytes.toList = chunk ++ [1, 2, 0]) ∧
      (readAll plenty classify s').reply.map Buffer.toListWithZero = d.reply.map Buffer.toListWithZero := by
  intro chunk s s' classify d
  have hl : chunk.length = 1024 := List.length_replicate
  have hc : chunk.isEmpty = false := rfl
  have ht : chunk.tail.isEmpty = false := rfl
  have hcat : 7 :: chunk.tail = chunk := rfl
  clear_value chunk
  have h : Scripted s := ⟨by simp [s, hl, chunkSize], rfl⟩
  have hs : StopsAt s [.failed (.os 4), .data chunk, .data [1, 2], .failed (.os 4)] .ended [.data [3], .ended] :=
    ⟨rfl, by simp only [List.forall_mem_cons, Delivery.stops_data, hc]; decide, rfl⟩
  have hs' : StopsAt s' [.data [7], .data chunk.tail, .failed (.os 4), .data [1], .data [2]] .ended [] :=
    ⟨rfl, by simp only [List.forall_mem_cons, Delivery.stops_data, ht]; decide, rfl⟩
  obtain ⟨pre, stop, rest, hd, -, hr, hb, hsame⟩ := readAll_whole_or_fault (fun _ => 0) classify h
  obtain ⟨rfl, rfl, rfl⟩ := hd.unique hs
  refine ⟨h, hr, ?_, hsame _ _ _ _ hs' ?_⟩
  · rcases hb with ⟨-, b, hb, -, hz⟩ | ⟨e, he, -⟩
    · exact ⟨b, hb, by simp [hz, Delivery.bytes]⟩
    · cases he
  · simpa [Delivery.bytes] using congrArg (· ++ [1, 2]) hcat

end Courier
