import Courier.Event

/-!
# Acts

An act is a step against an outside world of some type `σ`. It leaves the world in a new state, reports
events, and comes to a value, or to none when it broke off in a panic. Acts are chained with `do`; what
follows a panic does not happen.

The lemmas say what each way of building an act leaves, reports and comes to.
-/

namespace Courier

/-- What an act did. -/
structure Outcome (σ α : Type) where
  world : σ
  events : List Event
  /-- The value, or nothing after a panic. -/
  value : Option α

/-- A step against a world of type `σ`. -/
def Act (σ α : Type) : Type := σ → Outcome σ α

namespace Act

variable {σ α β : Type}

def done (a : α) : Act σ α := fun w => ⟨w, [], some a⟩

/-- One act after another. -/
def andThen (x : Act σ α) (f : α → Act σ β) : Act σ β := fun w =>
  match x w with
  | ⟨w', es, none⟩ => ⟨w', es, none⟩
  | ⟨w', es, some a⟩ =>
    let r := f a w'
    ⟨r.world, es ++ r.events, r.value⟩

instance : Monad (Act σ) where
  pure := done
  bind := andThen

def report (e : Event) : Act σ Unit := fun w => ⟨w, [e], some ()⟩

def panic : Act σ α := fun w => ⟨w, [], none⟩

/-- A change of the world that comes to a value. -/
def step (f : σ → α × σ) : Act σ α := fun w => ⟨(f w).2, [], some (f w).1⟩

/-- Does an act, and another in its place if it panics. -/
def recover (x : Act σ α) (handler : Act σ α) : Act σ α := fun w =>
  match x w with
  | ⟨w', es, some a⟩ => ⟨w', es, some a⟩
  | ⟨w', es, none⟩ =>
    let r := handler w'
    ⟨r.world, es ++ r.events, r.value⟩

/-- An act on a part of a larger world. -/
def focus {τ : Type} (part : τ → σ) (put : σ → τ → τ) (x : Act σ α) : Act τ α := fun w =>
  let r := x (part w)
  ⟨put r.world w, r.events, r.value⟩

@[simp] theorem pure_apply (a : α) (w : σ) : (pure a : Act σ α) w = ⟨w, [], some a⟩ := rfl

@[simp] theorem report_apply (e : Event) (w : σ) : report e w = ⟨w, [e], some ()⟩ := rfl

theorem bind_apply (x : Act σ α) (f : α → Act σ β) (w : σ) :
    (x >>= f) w = match (x w).value with
      | none => ⟨(x w).world, (x w).events, none⟩
      | some a =>
        ⟨(f a (x w).world).world, (x w).events ++ (f a (x w).world).events, (f a (x w).world).value⟩ := by
  change andThen x f w = _
  unfold andThen
  rcases x w with ⟨w', es, _ | a⟩ <;> rfl

theorem bind_of_eq {x : Act σ α} {f : α → Act σ β} {w w' : σ} {es : List Event} {a : α} (h : x w = ⟨w', es, some a⟩) :
    (x >>= f) w = ⟨(f a w').world, es ++ (f a w').events, (f a w').value⟩ := by
  rw [bind_apply, h]

/-- An act on a world leaves alone what stands beside it. -/
theorem focus_beside {γ : Type} {x : Act σ α} {w w' : σ} {es : List Event} {v : Option α} (h : x w = ⟨w', es, v⟩)
    (r : γ) : x.focus Prod.fst (fun s w => (s, w.2)) (w, r) = ⟨(w', r), es, v⟩ := by
  rw [focus, h]

/-- An act comes to what its last part comes to, in the world that the parts before left. -/
theorem value_bind_eq_some_iff {x : Act σ α} {f : α → Act σ β} {w : σ} {b : β} :
    ((x >>= f) w).value = some b ↔ ∃ a, (x w).value = some a ∧ (f a (x w).world).value = some b := by
  rw [bind_apply]
  cases (x w).value <;> simp

end Act

end Courier
