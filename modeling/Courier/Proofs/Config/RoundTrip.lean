import Courier.Config.Json
import Courier.Proofs.Json.Members

/-!
# Configurations as JSON and back

A configuration is read from any object that states its fields, all or some of them.

* `States` : a member that states a field of a configuration, or is no field;
* `Fields.fill` : the fields that names say, taken over from a configuration; `Config.only` : the configuration that has
  standard values elsewhere;
* `Fields.Holds` : a field was read before; one that was not is read (`States.readsMember`), and one that was is a
  mismatch (`readsMember_of_holds`);
* `config_survives_json` : what is stated is read, in any order and between any other members, once.
-/

namespace Courier.Config
open Json

/-- The names of the fields. -/
def fieldNames : List String :=
  ["backend", "get_command", "post_command"]

/-- A member of an object, by name and value, that states a field of a configuration or is no field. -/
inductive States (c : Config) : String × Bytes → Prop
  | backend {s : Bytes} : Literal s c.backend.name.toList → States c ("backend", quoted s)
  | getCommand {s : Bytes} : Literal s c.getCommand.toList → States c ("get_command", quoted s)
  | postCommand {s : Bytes} : Literal s c.postCommand.toList → States c ("post_command", quoted s)
  | other {name : String} {v : Bytes} : name ∉ fieldNames → Well .value v → States c (name, v)

/-- A configuration with standard values in the fields that are not among the names. -/
def only (c : Config) (names : List String) : Config :=
  ⟨if "backend" ∈ names then c.backend else standard.backend,
   if "get_command" ∈ names then c.getCommand else standard.getCommand,
   if "post_command" ∈ names then c.postCommand else standard.postCommand⟩

namespace Fields

/-- Fields that have been read, and those of a configuration that the names say. -/
def fill (c : Config) (names : List String) (f : Fields) : Fields :=
  ⟨if "backend" ∈ names then some c.backend else f.backend,
   if "get_command" ∈ names then some c.getCommand else f.getCommand,
   if "post_command" ∈ names then some c.postCommand else f.postCommand⟩

/-- A field of the name was read. -/
def Holds (f : Fields) (name : String) : Prop :=
  name = "backend" ∧ f.backend.isSome ∨ name = "get_command" ∧ f.getCommand.isSome ∨
    name = "post_command" ∧ f.postCommand.isSome

theorem fill_cons (c : Config) (name : String) (names : List String) (f : Fields) :
    fill c (name :: names) f = fill c names (fill c [name] f) := by
  simp only [fill, List.mem_cons, List.not_mem_nil, or_false, Fields.mk.injEq]
  refine ⟨?_, ?_, ?_⟩ <;> split_ifs <;> simp_all

theorem holds_fill_iff {c : Config} {f : Fields} {name name' : String} :
    (f.fill c [name]).Holds name' ↔ f.Holds name' ∨ name' = name ∧ name ∈ fieldNames := by
  simp only [Holds, fill, fieldNames, List.mem_cons, List.not_mem_nil, or_false]
  grind

theorem config_fill (c : Config) (names : List String) : (fill c names ⟨none, none, none⟩).config = c.only names := by
  simp only [config, fill, only, Config.mk.injEq]
  refine ⟨?_, ?_, ?_⟩ <;> split_ifs <;> rfl

end Fields

/-! ## Members -/

theorem ofName_name (b : Backend) : Backend.ofName b.name = .ok b := by
  cases b <;> rfl

theorem readBackend_eq {a s : Bytes} {b : Backend} (ha : Blanks a) (hs : Literal s b.name.toList) (rest : Bytes) :
    Backend.read (a ++ (quoted s ++ rest)) = .ok (b, rest) := by
  rw [quoted, List.cons_append, List.append_assoc, Backend.read, skipBlank_append ha (by decide)]
  simp only [↓reduceIte, List.singleton_append, hs.readText_text, bind, Except.bind, ofName_name]

/-- A field that was read before is a mismatch, whatever its value. -/
theorem readsMember_of_holds {f : Fields} {name : String} (h : f.Holds name) (v : Bytes) :
    ReadsMember readMember f (name, v) (.error .mismatch) := by
  intro b c rest _ _ _
  rcases h with ⟨rfl, h⟩ | ⟨rfl, h⟩ | ⟨rfl, h⟩ <;> simp [readMember, readField, h, Except.map]

theorem States.readsMember {c : Config} {e : String × Bytes} (h : States c e) {f : Fields} (hf : ¬ f.Holds e.1) :
    ReadsMember readMember f e (.ok (f.fill c [e.1])) := by
  intro b a rest hb ha hr
  cases h with
  | @backend s hs =>
    have hn : f.backend.isSome = false := by simpa [Fields.Holds] using hf
    have hread := readField_eq hn hb (readBackend_eq ha hs rest)
    rw [readMember, if_pos rfl, hread]
    simp [Except.map, Fields.fill]
  | @getCommand s hs =>
    have hn : f.getCommand.isSome = false := by simpa [Fields.Holds] using hf
    have hread := readField_eq hn hb (string?_eq ha hs rest)
    have h₁ : "get_command" ≠ "backend" := by decide
    rw [readMember, if_neg h₁, if_pos rfl, hread]
    simp [Except.map, Fields.fill]
  | @postCommand s hs =>
    have hn : f.postCommand.isSome = false := by simpa [Fields.Holds] using hf
    have hread := readField_eq hn hb (string?_eq ha hs rest)
    have h₁ : "post_command" ≠ "backend" := by decide
    have h₂ : "post_command" ≠ "get_command" := by decide
    rw [readMember, if_neg h₁, if_neg h₂, if_pos rfl, hread]
    simp [Except.map, Fields.fill]
  | @other name v hname hv =>
    simp only [fieldNames, List.mem_cons, List.not_mem_nil, or_false, not_or] at hname
    obtain ⟨h₁, h₂, h₃⟩ := hname
    rw [readMember, if_neg h₁, if_neg h₂, if_neg h₃, skipMember_eq hb ha hv hr]
    simp [Except.map, Fields.fill, Ne.symm h₁, Ne.symm h₂, Ne.symm h₃]

/-! ## Objects -/

/-- Members that state different fields of a configuration are all taken over. -/
theorem readsAll_of_nodup {c : Config} {entries : List (String × Bytes)} (hs : ∀ e ∈ entries, States c e)
    (hd : ((entries.map Prod.fst).filter (· ∈ fieldNames)).Nodup) {f : Fields} (hf : ∀ e ∈ entries, ¬ f.Holds e.1) :
    ReadsAll readMember f entries (.ok (f.fill c (entries.map Prod.fst))) := by
  -- What a member states is held from then on, and no later member may state it.
  induction entries generalizing f with
  | nil => exact .done f
  | cons e entries ih =>
    have hrest : ∀ e' ∈ entries, ¬ (f.fill c [e.1]).Holds e'.1 := by
      intro e' he' h
      rcases Fields.holds_fill_iff.1 h with h | ⟨heq, hmem⟩
      · exact hf e' (List.mem_cons_of_mem _ he') h
      · rw [List.map_cons, List.filter_cons_of_pos (by simpa using hmem), List.nodup_cons] at hd
        refine hd.1 (List.mem_filter.2 ⟨?_, by simpa using hmem⟩)
        exact heq ▸ List.mem_map_of_mem he'
    have hd' : ((entries.map Prod.fst).filter (· ∈ fieldNames)).Nodup :=
      hd.sublist ((List.sublist_cons_self _ _).filter _)
    rw [List.map_cons, Fields.fill_cons]
    exact .next ((hs e List.mem_cons_self).readsMember (hf e List.mem_cons_self))
      (ih (fun e he => hs e (List.mem_cons_of_mem _ he)) hd' hrest)

/-- A field that stands a second time is a mismatch. Only the members before it count. -/
theorem readsAll_of_twice {entries later : List (String × Bytes)} (hs : ∀ e ∈ entries, ∃ c, States c e) {name : String}
    (hn : name ∈ fieldNames) (v : Bytes) {f : Fields} (h : f.Holds name ∨ name ∈ entries.map Prod.fst) :
    ReadsAll readMember f (entries ++ (name, v) :: later) (.error .mismatch) := by
  -- The induction meets the first repeated field, which may come before the one that is named.
  induction entries generalizing f with
  | nil =>
    have hf : f.Holds name := by simpa using h
    exact .stop (readsMember_of_holds hf v)
  | cons e entries ih =>
    by_cases hf : f.Holds e.1
    · exact .stop (readsMember_of_holds hf e.2)
    · obtain ⟨c, hc⟩ := hs e List.mem_cons_self
      refine .next (hc.readsMember hf) (ih (fun e he => hs e (List.mem_cons_of_mem _ he)) ?_)
      rw [Fields.holds_fill_iff]
      rcases h with h | h
      · exact .inl (.inl h)
      · rcases List.mem_cons.1 (List.map_cons ▸ h) with rfl | h
        · exact .inl (.inr ⟨rfl, hn⟩)
        · exact .inr h

theorem ofJson_eq {entries : List (String × Bytes)} {text : Bytes} {result : Except Complaint Fields}
    (h : ReadsAll readMember ⟨none, none, none⟩ entries result) (ht : ObjectText entries text) :
    ofJson text = result.map Fields.config := by
  have ho (bs : Bytes) : readObject bs = do
      let (f, rest) ← readMembers readMember true ⟨none, none, none⟩ bs
      return (← (Except.ok f.config : Except Complaint Config), rest) := by
    rw [readObject]
    cases readMembers readMember true ⟨none, none, none⟩ bs <;> rfl
  refine (h.whole_eq ht (fun f => .ok f.config) ho).trans ?_
  cases result <;> rfl

theorem objectText_toJson (c : Config) : ∃ entries, ObjectText entries (Utf8.encode c.toJson) ∧
    (∀ e ∈ entries, States c e) ∧ entries.map Prod.fst = fieldNames := by
  let ms : List (String × List Char) :=
    [("backend", string c.backend.name.toList), ("get_command", string c.getCommand.toList),
     ("post_command", string c.postCommand.toList)]
  refine ⟨_, objectText_object ms, ?_, rfl⟩
  intro e he
  simp only [ms, List.map_cons, List.map_nil, List.mem_cons, List.not_mem_nil, or_false, encode_string] at he
  rcases he with rfl | rfl | rfl
  · exact .backend (literal_escaped _)
  · exact .getCommand (literal_escaped _)
  · exact .postCommand (literal_escaped _)

theorem only_fieldNames (c : Config) : c.only fieldNames = c := by
  simp [only, fieldNames]

/-- **A configuration survives JSON.** An object whose members state some of its fields, each at most once and in any
order, between any other members, is read as the configuration with these fields and standard values for the others.
So what is printed is read back, and an object without members is the standard configuration. A field that stands a
second time is a mismatch, whatever its value and the members after it. -/
theorem config_survives_json (c : Config) :
    (∀ entries text, ObjectText entries text → (∀ e ∈ entries, States c e) →
      ((entries.map Prod.fst).filter (· ∈ fieldNames)).Nodup →
        ofJson text = .ok (c.only (entries.map Prod.fst))) ∧
    ofJson (Utf8.encode c.toJson) = .ok c ∧ (∀ text, ObjectText [] text → ofJson text = .ok standard) ∧
    ∀ entries name value later text, ObjectText (entries ++ (name, value) :: later) text →
      (∀ e ∈ entries, ∃ c, States c e) → name ∈ fieldNames → name ∈ entries.map Prod.fst →
        ofJson text = .error .mismatch := by
  have hnone (name : String) : ¬ Fields.Holds ⟨none, none, none⟩ name := by simp [Fields.Holds]
  have hread : ∀ (c : Config) entries text, ObjectText entries text → (∀ e ∈ entries, States c e) →
      ((entries.map Prod.fst).filter (· ∈ fieldNames)).Nodup →
        ofJson text = .ok (c.only (entries.map Prod.fst)) := by
    intro c entries text ht hs hd
    rw [ofJson_eq (readsAll_of_nodup hs hd fun e _ => hnone e.1) ht, ← Fields.config_fill]
    rfl
  refine ⟨hread c, ?_, ?_, ?_⟩
  · obtain ⟨entries, ht, hs, hnames⟩ := objectText_toJson c
    rw [hread c entries _ ht hs (by rw [hnames]; decide), hnames, only_fieldNames]
  · intro text ht
    exact hread c [] text ht (fun e he => absurd he List.not_mem_nil) List.nodup_nil
  · intro entries name value later text ht hs hn hmem
    exact ofJson_eq (readsAll_of_twice hs hn value (.inr hmem)) ht

/-- An array that is no field, and a field with an escape in its value; then a field that stands twice. -/
theorem config_survives_json_escaped :
    let c : Config := ⟨.command, "A", "b"⟩
    let array : Bytes := Bytes.ofLatin ['[', '-', '1', ' ', ']']
    let value : Bytes := Bytes.ofLatin ['"', '\\', 'u', '0', '0', '4', '1', '"']
    let member (name : String) (v : Bytes) : Bytes := quoted (Utf8.encode name.toList) ++ ascii ':' :: v
    let text : Bytes := ascii '{' :: (member "x" array ++ ascii ',' :: member "get_command" value ++ [ascii '}'])
    let twice : Bytes :=
      ascii '{' :: (member "get_command" value ++ ascii ',' :: member "get_command" array ++ [ascii '}'])
    ObjectText [("x", array), ("get_command", value)] text ∧
      ObjectText [("get_command", value), ("get_command", array)] twice ∧
      (∀ e ∈ [("x", array), ("get_command", value)], States c e) ∧ "get_command" ∈ fieldNames ∧
      ofJson text = .ok ⟨.library, "A", standard.postCommand⟩ ∧ ofJson twice = .error .mismatch := by
  intro c array value member text twice
  have hblank : Blanks [ascii ' '] := by
    intro b hb
    obtain rfl := List.mem_singleton.1 hb
    decide
  have hone : Integer [ascii '1'] :=
    .digits (by rw [Digit]; decide) (by decide) fun e he => absurd he List.not_mem_nil
  have harray : Well .value array := by
    have hn : Numeral [ascii '-', ascii '1'] := .mk (List.mem_cons_of_mem _ List.mem_cons_self) hone .none .none
    exact .array (.element .nil (.number hn) hblank)
  have hdigit (d : Nat) (h : d < 16) : HexDigit (ascii (Text.hexDigit d)) d := (hexDigit_hexDigit h).2
  have hvalue : Literal (Bytes.ofLatin ['\\', 'u', '0', '0', '4', '1']) c.getCommand.toList := by
    have htext : c.getCommand.toList = ['A'] := by decide
    have hd : FourHex (Bytes.ofLatin ['0', '0', '4', '1']) 0x41 :=
      .mk (hdigit 0 (by decide)) (hdigit 0 (by decide)) (hdigit 4 (by decide)) (hdigit 1 (by decide))
    rw [htext]
    exact .number hd (.inl (by decide)) .nil
  have hname : ∀ name ∈ ["x", "get_command"], Literal (Utf8.encode name.toList) name.toList := by
    intro name h
    have hp : ∀ name ∈ ["x", "get_command"], name.toList.flatMap escapeChar = name.toList := by decide
    simpa [hp name h] using literal_escaped name.toList
  have htext : ObjectText [("x", array), ("get_command", value)] text :=
    .members .nil (.more (hname "x" (by decide)) (.tight _ _) (.one (hname _ (by decide)) (.tight _ _))) .nil
  have htwice : ObjectText [("get_command", value), ("get_command", array)] twice :=
    .members .nil (.more (hname "get_command" (by decide)) (.tight _ _)
      (.one (hname _ (by decide)) (.tight _ _))) .nil
  have hstates : ∀ e ∈ [("x", array), ("get_command", value)], States c e := by
    intro e he
    simp only [List.mem_cons, List.not_mem_nil, or_false] at he
    rcases he with rfl | rfl
    · exact .other (by decide) harray
    · exact .getCommand hvalue
  have hfirst : ∀ e ∈ [("get_command", value)], ∃ c, States c e := by
    intro e he
    exact ⟨c, hstates e (List.mem_cons_of_mem _ he)⟩
  have hn : "get_command" ∈ fieldNames := by decide
  obtain ⟨hread, -, -, hmismatch⟩ := config_survives_json c
  exact ⟨htext, htwice, hstates, hn, hread _ text htext hstates (by decide),
    hmismatch _ "get_command" array [] twice htwice hfirst hn List.mem_cons_self⟩

end Courier.Config
