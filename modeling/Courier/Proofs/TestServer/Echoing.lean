import Courier.Proofs.Json.Values
import Courier.Proofs.Wire.Field
import Courier.Proofs.Wire.Target
import Courier.TestServer.Basic

/-!
# Echoes

What a client reads from the answer to a request is what it sent.

* `Echo.ofJson_toJson` : an echo is read from what is printed of it;
* `Echo.Tells` : an echo says what stood in a request; `tells_echoOf` : the one that is made of the request does;
* `answer_eq_echo` : the answer where requests are echoed;
* `echo_tells_request` : what the client reads from that answer.
-/

namespace Courier.TestServer
open Json

/-! ## Echoes as JSON -/

namespace Echo

theorem readsValue_text (s : String) : ReadsValue string? (Utf8.encode (string s.toList)) s := by
  rw [encode_string]
  exact readsValue_string (literal_escaped s.toList)

theorem readsValue_maybeText (s : Option String) :
    ReadsValue (optional? string?) (Utf8.encode (Json.optional (s.map fun s => string s.toList))) s := by
  cases s with
  | none => exact readsValue_null string?
  | some s =>
    have h := readsValue_text s
    rw [encode_string, quoted] at h
    rw [Option.map_some, Json.optional, Option.getD_some, encode_string, quoted]
    exact h.optional (by decide) (by decide)

theorem readsValue_maybeNatural {n : Option Nat} (h : ∀ m ∈ n, m < limit64) :
    ReadsValue (optional? natural?) (Utf8.encode (Json.optional (n.map fun n => (toString n).toList))) n := by
  cases n with
  | none => exact readsValue_null natural?
  | some n => exact readsValue_natural (h n rfl)

/-- An echo is read from what is printed of it, whatever it is missing and whatever its texts have to escape. -/
theorem ofJson_toJson {e : Echo} (h : ∀ n ∈ e.contentLength, n < limit64) : ofJson (Utf8.encode e.toJson) = .ok e := by
  let ms : List (String × List Char) :=
    [("method", string e.method.toList), ("uri", string e.uri.toList),
     ("user_agent", Json.optional (e.userAgent.map fun s => string s.toList)),
     ("content_type", Json.optional (e.contentType.map fun s => string s.toList)),
     ("content_length", Json.optional (e.contentLength.map fun n => (toString n).toList)),
     ("body", string e.body.toList)]
  have ht : ObjectText (ms.map fun m => (m.1, Utf8.encode m.2)) (Utf8.encode e.toJson) := objectText_object ms
  -- One step a member: what was read before it stays, and its own field is taken over.
  have hread : ReadsAll readMember ⟨none, none, none, none, none, none⟩ (ms.map fun m => (m.1, Utf8.encode m.2))
      (.ok ⟨some e.method, some e.uri, some e.userAgent, some e.contentType, some e.contentLength, some e.body⟩) := by
    refine .next ((readsValue_text e.method).readsMember
      (fun x => ⟨x, none, none, none, none, none⟩) (fun _ => rfl) rfl) ?_
    refine .next ((readsValue_text e.uri).readsMember
      (fun x => ⟨some e.method, x, none, none, none, none⟩) (fun _ => rfl) rfl) ?_
    refine .next ((readsValue_maybeText e.userAgent).readsMember
      (fun x => ⟨some e.method, some e.uri, x, none, none, none⟩) (fun _ => rfl) rfl) ?_
    refine .next ((readsValue_maybeText e.contentType).readsMember
      (fun x => ⟨some e.method, some e.uri, some e.userAgent, x, none, none⟩) (fun _ => rfl) rfl) ?_
    refine .next ((readsValue_maybeNatural h).readsMember
      (fun x => ⟨some e.method, some e.uri, some e.userAgent, some e.contentType, x, none⟩) (fun _ => rfl) rfl) ?_
    refine .next ((readsValue_text e.body).readsMember
      (fun x => ⟨some e.method, some e.uri, some e.userAgent, some e.contentType, some e.contentLength, x⟩)
      (fun _ => rfl) rfl) (.done _)
  exact hread.whole_eq ht Read.echo fun _ => rfl

/-! ## Echoes of requests -/

/-- The echo says what stood in the request. A length is said when the first such field is a number that fits. -/
structure Tells (e : Echo) (q : Inquiry) : Prop where
  method : Utf8.encode e.method.toList = q.method
  uri : Utf8.encode e.uri.toList = q.target.text
  userAgent : ∀ s, e.userAgent = some s ↔ q.fields.Tells "user-agent" s
  contentType : ∀ s, e.contentType = some s ↔ q.fields.Tells "content-type" s
  contentLength : ∀ n, e.contentLength = some n ↔
    ∃ s : String, q.fields.Tells "content-length" s ∧ Wire.Decimal s.toList n ∧ n < 2 ^ 64
  body : e.body.toList = Utf8.decodeLossy q.body

theorem Tells.body_eq {e : Echo} {q : Inquiry} (h : e.Tells q) {s : String} (hs : q.body = Utf8.encode s.toList) :
    e.body = s := by
  rw [← String.toList_inj, h.body, hs, Utf8.decodeLossy_encode]

end Echo

theorem encode_decodeLossy {bs : Bytes} (h : ∃ cs, bs = Utf8.encode cs) : Utf8.encode (Utf8.decodeLossy bs) = bs := by
  obtain ⟨cs, rfl⟩ := h
  rw [Utf8.decodeLossy_encode]

theorem tells_echoOf {q : Inquiry} (hm : ∀ b ∈ q.method, b.toNat < 128) (ht : ∃ cs, q.target.text = Utf8.encode cs) :
    (echoOf q).Tells q where
  method := by
    rw [echoOf, String.toList_ofList]
    exact Wire.encode_toLatin hm
  uri := by
    rw [echoOf, String.toList_ofList]
    exact encode_decodeLossy ht
  userAgent _ := Wire.Fields.tells_iff
  contentType _ := Wire.Fields.tells_iff
  contentLength n := by
    show (((q.fields.value? "content-length").bind Wire.valueText?).bind fun s => Wire.natural? limit64 s.toList) =
      some n ↔ _
    rw [Option.bind_eq_some_iff]
    exact exists_congr fun s => and_congr Wire.Fields.tells_iff Wire.natural?_eq_some_iff
  body := by
    rw [echoOf, String.toList_ofList]

theorem contentLength_echoOf_lt {q : Inquiry} : ∀ n ∈ (echoOf q).contentLength, n < limit64 := by
  intro n hn
  obtain ⟨s, -, hs⟩ := Option.bind_eq_some_iff.1 hn
  exact (Wire.natural?_eq_some_iff.1 hs).2

theorem answer_eq_echo {q : Inquiry} (hm : q.method = Utf8.encode "GET".toList ∨ q.method = Utf8.encode "POST".toList)
    (hp : q.target.fullPath = Utf8.encode "/echo".toList) (hl : q.body.length ≤ maxRead) :
    answer q = (Answer.ofBytes 200 "application/json" (Utf8.encode (echoOf q).toJson)).withLength := by
  have hroute : Route.ofPath? q.target.fullPath = some .echo := by
    rw [hp]
    rfl
  have hanswer : Route.echo.answer q = .ofBytes 200 "application/json" (Utf8.encode (echoOf q).toJson) := by
    rw [Route.answer, if_neg (Nat.not_lt.2 hl)]
  have hget : String.ofList (Bytes.toLatin (Utf8.encode "GET".toList)) = "GET" := by decide
  have hpost : String.ofList (Bytes.toLatin (Utf8.encode "POST".toList)) = "POST" := by decide
  rw [answer, hroute]
  dsimp only
  rcases hm with hm | hm
  · rw [hm, hget, hanswer]
    rfl
  · rw [hm, hpost, hanswer]
    rfl

theorem root_of_fullPath {t : Wire.Target} (hp : t.fullPath = Utf8.encode "/echo".toList) :
    t.path.head? = some (ascii '/') := by
  unfold Wire.Target.fullPath at hp
  split at hp
  · exact absurd hp (by decide)
  · rw [hp]
    rfl

/-- **An echo tells the request.** A `GET` or a `POST` to the path of echoes, with a body the server reads, is answered
with status 200 and with JSON that is read as an echo which tells the request: the one path and query that is written
in the url, its fields where they are text, and its body, which is the body that was sent if that is text. And every
echo, of a request or not, is read from what is printed of it. -/
theorem echo_tells_request :
    (∀ (q : Inquiry) (url : Bytes), q.method = Utf8.encode "GET".toList ∨ q.method = Utf8.encode "POST".toList →
      Wire.Target.parse? url = some q.target → q.target.fullPath = Utf8.encode "/echo".toList →
      q.body.length ≤ 2097152 →
        (answer q).status = 200 ∧ (∀ text, Wire.Target.Written text url ↔ text = q.target.text) ∧
        ascii '#' ∉ q.target.text ∧ ∃ e : Echo, Echo.ofJson (answer q).body = .ok e ∧ e.Tells q ∧
          ∀ s : String, q.body = Utf8.encode s.toList → e.body = s) ∧
    ∀ e : Echo, (∀ n ∈ e.contentLength, n < 2 ^ 64) → Echo.ofJson (Utf8.encode e.toJson) = .ok e := by
  refine ⟨fun q url hm hparse hp hl => ?_, fun e h => Echo.ofJson_toJson h⟩
  have hascii : ∀ b ∈ q.method, b.toNat < 128 := by
    rcases hm with hm | hm
    · rw [hm]
      decide +kernel
    · rw [hm]
      decide +kernel
  obtain ⟨hwritten, htext⟩ := Wire.Target.written_of_parse? hparse (root_of_fullPath hp)
  have htells := tells_echoOf hascii htext
  rw [answer_eq_echo hm hp hl]
  have honly : ∀ text, Wire.Target.Written text url ↔ text = q.target.text := by
    intro text
    constructor
    · intro h
      exact h.unique hwritten
    · rintro rfl
      exact hwritten
  exact ⟨rfl, honly, hwritten.plain.mark, echoOf q, Echo.ofJson_toJson contentLength_echoOf_lt, htells,
    fun s hs => htells.body_eq hs⟩

/-- A query beyond ASCII before a fragment, a field that is no text, two lengths, and a body that is cut short. -/
theorem echo_tells_request_unreadable :
    let url : Bytes := Utf8.encode "/echo?é#end".toList
    let target : Wire.Target := ⟨none, [], Utf8.encode "/echo".toList, some (Utf8.encode "é".toList)⟩
    let q : Inquiry := ⟨Utf8.encode "POST".toList, target,
      [(Utf8.encode "user-agent".toList, [0x61, 0x80]), (Utf8.encode "content-type".toList, [0x61, 9]),
       (Utf8.encode "content-length".toList, Utf8.encode "+07".toList),
       (Utf8.encode "content-length".toList, Utf8.encode "8".toList)], [0x61, 0xC3]⟩
    let e : Echo := ⟨"POST", "/echo?é", none, some "a\t", some 7, "a\uFFFD"⟩
    Wire.Target.parse? url = some q.target ∧ q.target.fullPath = Utf8.encode "/echo".toList ∧
      q.body.length ≤ 2097152 ∧ (∀ n ∈ e.contentLength, n < 2 ^ 64) ∧ (answer q).status = 200 ∧
      Wire.Target.Written (Utf8.encode "/echo?é".toList) url ∧ Echo.ofJson (Utf8.encode e.toJson) = .ok e ∧
      Echo.ofJson (answer q).body = .ok e := by
  intro url target q e
  obtain ⟨hrequest, hecho⟩ := echo_tells_request
  have htext : Utf8.decode? (Utf8.encode "/echo?é".toList) = some "/echo?é".toList := Utf8.decode?_eq_some_iff.2 rfl
  have hread : Wire.Target.pathAndQuery? url = some (target.path, target.query) := by
    have hwhole : url.takeWhile (· != ascii '#') = Utf8.encode "/echo?é".toList := by decide
    rw [Wire.Target.pathAndQuery?, hwhole, htext]
    decide
  have hparse : Wire.Target.parse? url = some q.target := by
    have hslash : (url.isEmpty || url.length > Wire.Target.maxLength) = false ∧ (url == [ascii '*']) = false ∧
        (url.head? == some (ascii '/')) = true := by decide
    rw [Wire.Target.parse?, hslash.1, hslash.2.1, hslash.2.2, hread]
    rfl
  have hlength : ∀ n ∈ e.contentLength, n < 2 ^ 64 := by decide
  obtain ⟨hstatus, hwritten, -, e', hjson, htells, -⟩ := hrequest q url (.inr rfl) hparse (by decide) (by decide)
  have htarget : q.target.text = Utf8.encode "/echo?é".toList := by decide
  have hmethod : e'.method = e.method := String.toList_inj.1 (Utf8.encode_injective htells.method)
  have huri : e'.uri = e.uri := String.toList_inj.1 (Utf8.encode_injective (htells.uri.trans htarget))
  have hagent : e'.userAgent = none := by
    have hnone : (q.fields.value? "user-agent").bind Wire.valueText? = none := by decide
    refine Option.eq_none_iff_forall_ne_some.2 fun s hs => ?_
    have h := Wire.Fields.tells_iff.2 ((htells.userAgent s).1 hs)
    rw [hnone] at h
    cases h
  have htype : e'.contentType = some "a\t" := (htells.contentType _).2 (Wire.Fields.tells_iff.1 (by decide))
  have hnumber : e'.contentLength = some 7 := by
    have hfield : q.fields.Tells "content-length" "+07" := Wire.Fields.tells_iff.1 (by decide)
    have hdigits : Wire.Decimal "+07".toList 7 := .inr ⟨['0', '7'], by decide, by decide, List.all_eq_true.1 rfl, rfl⟩
    exact (htells.contentLength 7).2 ⟨"+07", hfield, hdigits, by decide⟩
  have hbody : e'.body = e.body := by
    have hletter : Utf8.next 0x61 [0xC3] = (.char 'a', [0xC3]) := rfl
    have hbroken : Utf8.next 0xC3 [] = (.broken, []) := rfl
    rw [← String.toList_inj, htells.body, Utf8.decodeLossy, Utf8.pieces_cons, hletter, Utf8.pieces_cons, hbroken,
      Utf8.pieces_nil]
    decide
  have he : e' = e := by
    rcases e' with ⟨_, _, _, _, _, _⟩
    cases hmethod
    cases huri
    cases hagent
    cases htype
    cases hnumber
    cases hbody
    rfl
  exact ⟨hparse, by decide, by decide, hlength, hstatus, (hwritten _).2 htarget.symm, hecho e hlength, he ▸ hjson⟩

end Courier.TestServer
