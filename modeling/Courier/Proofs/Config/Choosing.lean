import Courier.Config
import Courier.Proofs.Text.Trimming

/-!
# Choosing a backend

The environment names the backend by a word.

* `Backend.spellings`, `Backend.Spelled` : the words for a backend, and a text that is one of them but for capitals and
  for white space around it;
* `Backend.parse?_eq_some_iff` : the texts that are read as a backend are those;
* `Config.load_of_rejected` : the configuration where the text is read as none;
* `backend_chosen_by_word` : the result on all texts.
-/

namespace Courier

namespace Backend

/-- The words for a backend. -/
def spellings : Backend → List String
  | library => ["library", "lib", "ureq"]
  | command => ["command", "cmd", "shell"]

/-- A text that is a word for the backend, in capitals or not, with nothing but white space around it. -/
def Spelled (b : Backend) (s : List Char) : Prop :=
  ∃ w ∈ b.spellings, ∃ word, Respelled word w.toList ∧ Text.Padded word s

/-! ## Words -/

theorem find?_words_iff {word : List Char} {b : Backend} :
    (words.find? fun w => w.1.toList == word).map Prod.snd = some b ↔ ∃ w ∈ b.spellings, w.toList = word := by
  constructor
  · intro h
    obtain ⟨⟨w, b⟩, hw, rfl⟩ := Option.map_eq_some_iff.1 h
    have hall : ∀ w ∈ words, w.1 ∈ w.2.spellings := by decide
    have hword := List.find?_some hw
    exact ⟨w, hall _ (List.mem_of_find?_eq_some hw), beq_iff_eq.1 hword⟩
  · rintro ⟨w, hw, rfl⟩
    have hall : ∀ w ∈ b.spellings, (words.find? fun v => v.1.toList == w.toList).map Prod.snd = some b := by
      cases b <;> decide
    exact hall w hw

theorem small_of_mem_spellings {b : Backend} {w : String} (hw : w ∈ b.spellings) :
    ∀ c ∈ w.toList, 97 ≤ c.toNat ∧ c.toNat ≤ 122 := by
  have hall : ∀ w ∈ b.spellings, (w.toList.all fun c => decide (97 ≤ c.toNat ∧ c.toNat ≤ 122)) = true := by
    cases b <;> decide
  exact fun c hc => of_decide_eq_true (List.all_eq_true.1 (hall w hw) c hc)

theorem map_lowerAscii_of_mem_spellings {b : Backend} {w : String} (hw : w ∈ b.spellings) :
    w.toList.map lowerAscii = w.toList := by
  refine (List.map_congr_left fun c hc => ?_).trans (List.map_id _)
  have hc := small_of_mem_spellings hw c hc
  rw [id, ← Char.toNat_inj, toNat_lowerAscii, if_neg (by omega)]

theorem respelled_iff {b : Backend} {w : String} (hw : w ∈ b.spellings) {word : List Char} :
    Respelled word w.toList ↔ w.toList = word.map lowerAscii := by
  rw [← sameLetters_iff, sameLetters, beq_iff_eq, map_lowerAscii_of_mem_spellings hw, eq_comm]

theorem visible_of_respelled {b : Backend} {w : String} (hw : w ∈ b.spellings) {word : List Char}
    (h : Respelled word w.toList) : ∀ c ∈ word, c.toNat < 128 ∧ c ∉ Text.whiteSpace := by
  intro c hc
  have hlower : lowerAscii c ∈ w.toList := by
    rw [(respelled_iff hw).1 h]
    exact List.mem_map_of_mem hc
  have hl := small_of_mem_spellings hw _ hlower
  have hletter : 65 ≤ c.toNat ∧ c.toNat ≤ 122 := by
    rw [toNat_lowerAscii] at hl
    split_ifs at hl <;> omega
  refine ⟨by omega, fun hw => ?_⟩
  have hall : (Text.whiteSpace.all fun c => decide (c.toNat < 65 ∨ 122 < c.toNat)) = true := by decide
  have := of_decide_eq_true (List.all_eq_true.1 hall c hw)
  omega

/-! ## Texts -/

theorem parse?_eq_some_iff {s : String} {b : Backend} : parse? s = some b ↔ b.Spelled s.toList := by
  rw [parse?, find?_words_iff]
  constructor
  · rintro ⟨w, hw, h⟩
    exact ⟨w, hw, Text.trim s.toList, (respelled_iff hw).2 h, Text.padded_trim _⟩
  · rintro ⟨w, hw, word, h, hpadded⟩
    have htrim : Text.trim s.toList = word := by
      rw [hpadded.trim_eq]
      exact Text.trim_eq_self fun c hc => (visible_of_respelled hw h c hc).2
    rw [htrim]
    exact ⟨w, hw, (respelled_iff hw).1 h⟩

theorem parse?_eq_none_iff {s : String} : parse? s = none ↔ ∀ b : Backend, ¬ b.Spelled s.toList := by
  simp only [Option.eq_none_iff_forall_ne_some, ne_eq, parse?_eq_some_iff]

instance (b : Backend) (s : List Char) : Decidable (b.Spelled s) :=
  decidable_of_iff (parse? (String.ofList s) = some b) (by rw [parse?_eq_some_iff, String.toList_ofList])

theorem parse?_of_padded {s t : String} (h : Text.Padded t.toList s.toList) : parse? s = parse? t := by
  rw [parse?, parse?, h.trim_eq]

theorem parse?_of_respelled {s t : String} (h : Respelled s.toList t.toList) : parse? s = parse? t := by
  have hsame : s.toList.map lowerAscii = t.toList.map lowerAscii := beq_iff_eq.1 (sameLetters_iff.2 h)
  rw [parse?, parse?, ← Text.trim_map_lowerAscii, ← Text.trim_map_lowerAscii, hsame]

/-- Without the white space around it, a text that chooses a backend has ASCII letters only. -/
theorem parse?_eq_none_of_mem_trim {s : String} {c : Char} (hc : c ∈ Text.trim s.toList)
    (h : 128 ≤ c.toNat ∨ c ∈ Text.whiteSpace) : parse? s = none := by
  refine parse?_eq_none_iff.2 ?_
  rintro b ⟨w, hw, word, hword, hpadded⟩
  have hvisible := visible_of_respelled hw hword
  rw [hpadded.trim_eq, Text.trim_eq_self fun c hc => (hvisible c hc).2] at hc
  obtain ⟨hascii, hv⟩ := hvisible c hc
  rcases h with h | h
  · omega
  · exact hv h

theorem not_spelled_both (s : List Char) : ¬ (library.Spelled s ∧ command.Spelled s) := by
  rintro ⟨hl, hc⟩
  rw [← String.toList_ofList (l := s), ← parse?_eq_some_iff] at hl hc
  rw [hl] at hc
  cases hc

end Backend

/-! ## Configurations -/

/-- A text that chooses no backend is reported. The standard backend is taken, and the templates are those that are
set. -/
theorem Config.load_of_rejected {σ : Type} {lookup : String → Option String} {value : String}
    (hv : lookup Setting.backend = some value) (h : Backend.parse? value = none) (w : σ) :
    load (fun name => pure (lookup name)) w = ⟨w, [.unknownBackend Setting.backend value],
      some ⟨.library, (lookup Setting.getCommand).getD standard.getCommand,
        (lookup Setting.postCommand).getD standard.postCommand⟩⟩ := by
  have hchoose : chooseBackend (some value) w = ⟨w, [.unknownBackend Setting.backend value], some .library⟩ := by
    rw [chooseBackend, h]
    rfl
  rw [load, Act.bind_apply, Act.pure_apply, hv]
  dsimp only
  rw [Act.bind_of_eq hchoose]
  simp only [Act.bind_apply, Act.pure_apply, List.append_nil, List.nil_append]

/-- **A backend is chosen by its words alone.** A text chooses a backend just if it is a word for it, in capitals or not,
with white space around it or not; any other text chooses none, and no text chooses both. So white space around a text
and the case of its letters make no difference; a text with white space between two visible characters chooses none, and
neither does one with a visible character beyond ASCII. Where the variable holds a text that chooses none, the library
backend stays, and the two templates are taken over. -/
theorem backend_chosen_by_word :
    (∀ (s : String) (b : Backend), Backend.parse? s = some b ↔ b.Spelled s.toList) ∧
    (∀ s : String, Backend.parse? s = none ↔ ∀ b : Backend, ¬ b.Spelled s.toList) ∧
    (∀ s : List Char, ¬ (Backend.library.Spelled s ∧ Backend.command.Spelled s)) ∧
    (∀ s t : String, Text.Padded t.toList s.toList → Backend.parse? s = Backend.parse? t) ∧
    (∀ s t : String, Respelled s.toList t.toList → Backend.parse? s = Backend.parse? t) ∧
    (∀ (s : String) (left right : List Char), ∀ c ∈ Text.whiteSpace, s.toList = left ++ c :: right →
      (∃ x ∈ left, x ∉ Text.whiteSpace) → (∃ x ∈ right, x ∉ Text.whiteSpace) → Backend.parse? s = none) ∧
    (∀ s : String, ∀ c ∈ s.toList, 128 ≤ c.toNat → c ∉ Text.whiteSpace → Backend.parse? s = none) ∧
    ∀ {σ : Type} (lookup : String → Option String) (value : String) (w : σ),
      lookup "OAUTH_HTTP_BACKEND" = some value → (∀ b : Backend, ¬ b.Spelled value.toList) →
        Config.load (fun name => pure (lookup name)) w = ⟨w, [.unknownBackend "OAUTH_HTTP_BACKEND" value],
          some ⟨.library, (lookup "OAUTH_HTTP_GET_CMD").getD "curl -sA 'liboauth-agent/0.1.0' '%u' ",
            (lookup "OAUTH_HTTP_CMD").getD "curl -sA 'liboauth-agent/0.1.0' -d '%p' '%u' "⟩⟩ := by
  refine ⟨fun s b => Backend.parse?_eq_some_iff, fun s => Backend.parse?_eq_none_iff, Backend.not_spelled_both,
    fun s t => Backend.parse?_of_padded, fun s t => Backend.parse?_of_respelled, ?_, ?_, ?_⟩
  · intro s left right c hc hs hl hr
    have hinside : c ∈ Text.trim s.toList := by
      rw [hs]
      exact Text.mem_trim hl hr
    exact Backend.parse?_eq_none_of_mem_trim hinside (.inr hc)
  · intro s c hc hforeign hv
    exact Backend.parse?_eq_none_of_mem_trim ((Text.padded_trim _).mem_of_visible hc hv) (.inl hforeign)
  · intro σ lookup value w hv h
    have hget : "curl -sA 'liboauth-agent/0.1.0' '%u' " = Config.standard.getCommand := by decide
    have hpost : "curl -sA 'liboauth-agent/0.1.0' -d '%p' '%u' " = Config.standard.postCommand := by decide
    rw [hget, hpost]
    exact Config.load_of_rejected hv (Backend.parse?_eq_none_iff.2 h) w

/-- A word between an ideographic space and a line separator, in two cases. White space inside a word, a zero width space
(which is no white space) and a capital letter with a dot, whose small form is an accepted letter, are refused; then one
template is set. -/
theorem backend_chosen_by_word_rare :
    let lookup : String → Option String := fun name =>
      if name = "OAUTH_HTTP_BACKEND" then some "l\u0130b" else if name = "OAUTH_HTTP_CMD" then some "send" else none
    Text.Padded "uReQ".toList "\u3000\u0085uReQ\u2028".toList ∧ Respelled "uReQ".toList "UREQ".toList ∧
      Backend.library.Spelled "UREQ".toList ∧ (∀ b : Backend, ¬ b.Spelled "l\u0130b".toList) ∧
      Backend.parse? "\u3000\u0085uReQ\u2028" = Backend.parse? "uReQ" ∧
      Backend.parse? "uReQ" = Backend.parse? "UREQ" ∧ Backend.parse? "UREQ" = some .library ∧
      Backend.parse? "com\u00A0mand" = none ∧ Backend.parse? "\u200Bcmd" = none ∧ Backend.parse? "l\u0130b" = none ∧
      Config.load (fun name => pure (lookup name)) () = ⟨(), [.unknownBackend "OAUTH_HTTP_BACKEND" "l\u0130b"],
        some ⟨.library, "curl -sA 'liboauth-agent/0.1.0' '%u' ", "send"⟩⟩ := by
  intro lookup
  obtain ⟨hsome, hnone, -, hpadded, hrespelled, hinner, hforeign, hload⟩ := backend_chosen_by_word
  have hspace : Text.Padded "uReQ".toList "\u3000\u0085uReQ\u2028".toList := by
    have hsplit : "\u3000\u0085uReQ\u2028".toList = ['\u3000', '\u0085'] ++ "uReQ".toList ++ ['\u2028'] := by decide
    have hblank : (['\u3000', '\u0085'].all Text.isBlank && ['\u2028'].all Text.isBlank) = true := by decide
    obtain ⟨hbefore, hafter⟩ := Bool.and_eq_true_iff.1 hblank
    rw [hsplit]
    exact .around (fun c hc => Text.isBlank_iff.1 (List.all_eq_true.1 hbefore c hc))
      fun c hc => Text.isBlank_iff.1 (List.all_eq_true.1 hafter c hc)
  have hcapitals : Respelled "uReQ".toList "UREQ".toList := by decide
  have hlibrary : Backend.library.Spelled "UREQ".toList := by decide
  have hdotted : Backend.parse? "l\u0130b" = none := hforeign _ '\u0130' (by decide) (by decide) (by decide)
  have hrejected : ∀ b : Backend, ¬ b.Spelled "l\u0130b".toList := (hnone _).1 hdotted
  refine ⟨hspace, hcapitals, hlibrary, hrejected, hpadded _ _ hspace, hrespelled _ _ hcapitals,
    (hsome _ _).2 hlibrary, ?_, ?_, hdotted, ?_⟩
  · exact hinner _ "com".toList "mand".toList '\u00A0' (by decide) (by decide) ⟨'c', by decide, by decide⟩
      ⟨'m', by decide, by decide⟩
  · exact hforeign _ '\u200B' (by decide) (by decide) (by decide)
  · exact hload lookup _ () rfl hrejected

end Courier
