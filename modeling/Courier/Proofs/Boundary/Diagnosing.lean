import Courier.Proofs.Boundary.Shapes
import Courier.Proofs.Text.Quoting

/-!
# The diagnostic of a broken template

* `not_isControl_of_mem_badTemplateText` : it holds no control character, whatever the template holds;
* `badTemplateText_inj` : it tells the template and the setting, since the template stands in it between quotes;
* `Envelope.ofFailure_eq` : a message without zeros is handed to C byte for byte;
* `diagnostic_tells_template` : both of these of every template.
-/

namespace Courier

namespace Failure
open Text

theorem not_isControl_of_mem_badTemplateText {setting template : List Char} {c : Char}
    (hs : ∀ c ∈ setting, ¬ IsControl c) (h : c ∈ badTemplateText setting template) : ¬ IsControl c := by
  have hbegin : ∀ c ∈ "invalid HTTP command template ".toList, ¬ IsControl c := not_isControl_of_all (by decide)
  have hmiddle : ∀ c ∈ ": set the '".toList, ¬ IsControl c := not_isControl_of_all (by decide)
  have hend : ∀ c ∈ "' environment variable".toList, ¬ IsControl c := not_isControl_of_all (by decide)
  unfold badTemplateText at h
  simp only [List.mem_append] at h
  rcases h with (((h | h) | h) | h) | h
  · exact hbegin c h
  · exact not_isControl_of_mem_quote h
  · exact hmiddle c h
  · exact hs c h
  · exact hend c h

theorem badTemplateText_inj {setting setting' template template' : List Char}
    (h : badTemplateText setting template = badTemplateText setting' template') :
    setting = setting' ∧ template = template' := by
  unfold badTemplateText at h
  simp only [List.append_assoc, List.append_cancel_left_eq] at h
  -- What follows the template is not searched for: the closing quote is found by reading up to it.
  obtain ⟨ht, h⟩ := quote_append_inj h
  rw [List.append_cancel_left_eq, List.append_cancel_right_eq] at h
  exact ⟨h, ht⟩

theorem message_badTemplate (setting template : String) :
    (badTemplate setting template).message.toList = badTemplateText setting.toList template.toList := by
  unfold message
  rw [String.toList_ofList]

theorem message_badTemplate_inj {setting setting' template template' : String}
    (h : (badTemplate setting template).message = (badTemplate setting' template').message) :
    setting = setting' ∧ template = template' := by
  have h := congrArg String.toList h
  rw [message_badTemplate, message_badTemplate] at h
  obtain ⟨hs, ht⟩ := badTemplateText_inj h
  exact ⟨String.toList_injective hs, String.toList_injective ht⟩

theorem not_isControl_of_mem_message {setting : String}
    (hs : setting = Setting.postCommand ∨ setting = Setting.getCommand) (template : String) :
    ∀ c ∈ (badTemplate setting template).message.toList, ¬ IsControl c := by
  have hset : ∀ c ∈ setting.toList, ¬ IsControl c := by
    rcases hs with rfl | rfl <;> exact not_isControl_of_all (by decide)
  rw [message_badTemplate]
  exact fun c => not_isControl_of_mem_badTemplateText hset

theorem zero_notMem_message {setting : String} (hs : setting = Setting.postCommand ∨ setting = Setting.getCommand)
    (template : String) : '\x00' ∉ (badTemplate setting template).message.toList :=
  fun h => not_isControl_of_mem_message hs template _ h (by decide)

end Failure

namespace Boundary

theorem zeroless_eq {text : List Char} (h : '\x00' ∉ text) : zeroless text = text := by
  refine (List.map_congr_left fun c hc => if_neg ?_).trans (List.map_id text)
  rintro rfl
  exact h hc

/-- A message without zeros is handed to C byte for byte. -/
theorem Envelope.ofFailure_eq {f : Failure} (h : '\x00' ∉ f.message.toList) :
    Envelope.ofFailure f = ⟨.ofFailure f, some (Utf8.encode f.message.toList ++ [0]), none, 0⟩ ∧
      cContents (Utf8.encode f.message.toList ++ [0]) = Utf8.encode f.message.toList := by
  have hz := zero_notMem_encode_zeroless f.message.toList
  rw [zeroless_eq h] at hz
  refine ⟨?_, cContents_append_zero hz⟩
  rw [ofFailure, failed_eq, telling, zeroless_eq h]

theorem Envelope.message_ofFailure_inj {f f' : Failure} (h : '\x00' ∉ f.message.toList)
    (h' : '\x00' ∉ f'.message.toList) (he : (Envelope.ofFailure f).message = (Envelope.ofFailure f').message) :
    f.message = f'.message := by
  rw [(ofFailure_eq h).1, (ofFailure_eq h').1, Option.some_inj, List.append_cancel_right_eq] at he
  exact String.toList_injective (Utf8.encode_injective he)

/-- **The diagnostic of a broken template tells the template and the setting, to a C program too.** For either setting
and every template, the text holds no control character; C is handed its bytes and a zero behind them, and no byte is
replaced; and any other failure of a template that has the same text, or comes to C as the same message, is of the same
setting and the same template. -/
theorem diagnostic_tells_template {setting : String} (hs : setting = Setting.postCommand ∨ setting = Setting.getCommand)
    (template : String) :
    (∀ c ∈ (Failure.badTemplate setting template).message.toList, ¬ Text.IsControl c) ∧
    (Envelope.ofFailure (.badTemplate setting template) =
        ⟨.configuration, some (Utf8.encode (Failure.badTemplate setting template).message.toList ++ [0]), none, 0⟩ ∧
      cContents (Utf8.encode (Failure.badTemplate setting template).message.toList ++ [0]) =
        Utf8.encode (Failure.badTemplate setting template).message.toList) ∧
    ∀ setting' template' : String,
      ((Failure.badTemplate setting' template').message = (Failure.badTemplate setting template).message →
        setting' = setting ∧ template' = template) ∧
      (setting' = Setting.postCommand ∨ setting' = Setting.getCommand →
        (Envelope.ofFailure (.badTemplate setting' template')).message =
          (Envelope.ofFailure (.badTemplate setting template)).message →
        setting' = setting ∧ template' = template) := by
  have hzero := Failure.zero_notMem_message hs template
  refine ⟨Failure.not_isControl_of_mem_message hs template, Envelope.ofFailure_eq hzero,
    fun setting' template' => ⟨Failure.message_badTemplate_inj, fun hs' he => ?_⟩⟩
  have hzero' := Failure.zero_notMem_message hs' template'
  exact Failure.message_badTemplate_inj (Envelope.message_ofFailure_inj hzero' hzero he)

/-- A template of a NUL and of the escape of one, and one with the two the other way round. -/
theorem diagnostic_tells_template_escapes :
    let failure := Failure.badTemplate Setting.getCommand "\x00\\0"
    let other := Failure.badTemplate Setting.getCommand "\\0\x00"
    (Setting.getCommand = Setting.postCommand ∨ Setting.getCommand = Setting.getCommand) ∧
      failure.message.toList =
        "invalid HTTP command template \"\\0\\\\0\": set the 'OAUTH_HTTP_GET_CMD' environment variable".toList ∧
      (∀ c ∈ failure.message.toList, ¬ Text.IsControl c) ∧ other.message ≠ failure.message ∧
      (Envelope.ofFailure other).message ≠ (Envelope.ofFailure failure).message := by
  intro failure other
  have hs : Setting.getCommand = Setting.postCommand ∨ Setting.getCommand = Setting.getCommand := .inr rfl
  obtain ⟨hc, -, hinj⟩ := diagnostic_tells_template hs "\x00\\0"
  obtain ⟨htext, hbytes⟩ := hinj Setting.getCommand "\\0\x00"
  have hne : "\\0\x00" ≠ "\x00\\0" := by decide
  exact ⟨hs, by decide +kernel, hc, fun he => hne (htext he).2, fun he => hne (hbytes hs he).2⟩

end Boundary

end Courier
