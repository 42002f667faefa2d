import M68HC05.Device

/-!
Two ways to speak about an action without opening it.

* `Action.Respects R action`: runs from two devices in the relation `R` answer alike and end in
  two devices in `R` again. Simulations between devices are stated in this form.
* `Action.Moves T action`: a single run leads from each device to one that stands to it in `T`.
  Invariants (`Kept`) and frame conditions (`Same`) are stated in this form.

Both are closed under the building blocks of actions. `Flow.respects` and `Flow.of_respects` turn
the second into the first and back, so that a walk over the instructions is made once, for
`Respects`.
-/

namespace M68HC05.Action

variable {α β : Type} {R T : Device → Device → Prop}

/-- Runs from related devices answer alike and end in related devices. -/
def Respects (R : Device → Device → Prop) (action : Action α) : Prop :=
  ∀ ⦃d e : Device⦄, R d e → (action d).1 = (action e).1 ∧ R (action d).2 (action e).2

/-- Each run ends in a device that stands in `T` to the one it began with. -/
def Moves (T : Device → Device → Prop) (action : Action α) : Prop :=
  ∀ d : Device, T d (action d).2

/-- An invariant as a relation between the devices before and after. -/
def Kept (P : Device → Prop) (before after : Device) : Prop :=
  P before → P after

/-- A part of the device that is the same before and after. -/
def Same {γ : Type} (part : Device → γ) (before after : Device) : Prop :=
  part after = part before

/-- Being one device, reached from `start` along `T`. -/
def Along (T : Device → Device → Prop) (start d e : Device) : Prop :=
  d = e ∧ T start d

/-! ## Two runs -/

theorem Respects.pure (value : α) : Respects R (pure value) :=
  fun _ _ related => ⟨rfl, related⟩

theorem Respects.bind {action : Action α} {next : α → Action β}
    (first : Respects R action) (second : ∀ value, Respects R (next value)) :
    Respects R (action >>= next) := by
  intro d e related
  obtain ⟨answer, after⟩ := first related
  rw [bind_apply, bind_apply, ← answer]
  exact second _ after

/-- Reading the device: what follows may depend only on what related devices share. -/
theorem Respects.get {next : Device → Action β}
    (same : ∀ {d e : Device}, R d e → next d = next e)
    (each : ∀ device, Respects R (next device)) :
    Respects R (MonadState.get >>= next) := by
  intro d e related
  rw [bind_apply, bind_apply, get_apply, get_apply]
  have step := each d related
  rwa [same related] at step ⊢

theorem Respects.seqLeft {first : Action α} {second : Action β}
    (left : Respects R first) (right : Respects R second) : Respects R (first <* second) := by
  intro d e related
  obtain ⟨answer, after⟩ := left related
  exact ⟨answer, (right after).2⟩

theorem Respects.seqRight {first : Action α} {second : Action β}
    (left : Respects R first) (right : Respects R second) : Respects R (first *> second) := by
  intro d e related
  exact right (left related).2

theorem Respects.ite {condition : Prop} [Decidable condition] {yes no : Action α}
    (whenTrue : condition → Respects R yes) (whenFalse : ¬ condition → Respects R no) :
    Respects R (if condition then yes else no) := by
  split
  · exact whenTrue ‹_›
  · exact whenFalse ‹_›

/-! ## Single runs -/

/-- A relation that runs can be traced along: doing nothing stays in it, and so does going on. -/
structure Flow (T : Device → Device → Prop) : Prop where
  refl (device : Device) : T device device
  trans {a b c : Device} : T a b → T b c → T a c

theorem Kept.flow (P : Device → Prop) : Flow (Kept P) where
  refl _ := id
  trans first second := second ∘ first

/-- The flow that leaves a part of the device as it is. -/
theorem Same.flow {γ : Type} (part : Device → γ) : Flow (Same part) where
  refl _ := rfl
  trans first second := second.trans first

/-- Reading the device: what follows may do with it what it likes. -/
theorem Moves.get {next : Device → Action β} (each : ∀ device, Moves T (next device)) :
    Moves T (MonadState.get >>= next) :=
  fun device => each device device

theorem Moves.ite {condition : Prop} [Decidable condition] {yes no : Action α}
    (whenTrue : condition → Moves T yes) (whenFalse : ¬ condition → Moves T no) :
    Moves T (if condition then yes else no) := by
  split
  · exact whenTrue ‹_›
  · exact whenFalse ‹_›

namespace Flow

variable (flow : Flow T)

include flow

theorem pure (value : α) : Moves T (pure value) :=
  flow.refl

theorem bind {action : Action α} {next : α → Action β}
    (first : Moves T action) (second : ∀ value, Moves T (next value)) :
    Moves T (action >>= next) :=
  fun device => flow.trans (first device) (second _ _)

theorem seqLeft {first : Action α} {second : Action β}
    (left : Moves T first) (right : Moves T second) : Moves T (first <* second) :=
  fun device => flow.trans (left device) (right _)

theorem seqRight {first : Action α} {second : Action β}
    (left : Moves T first) (right : Moves T second) : Moves T (first *> second) :=
  fun device => flow.trans (left device) (right _)

/-- A single run as two runs from the same device. -/
theorem respects {action : Action α} (moves : Moves T action) (start : Device) :
    Respects (Along T start) action := by
  rintro d e ⟨rfl, reached⟩
  exact ⟨rfl, rfl, flow.trans reached (moves d)⟩

theorem of_respects {action : Action α}
    (respects : ∀ start, Respects (Along T start) action) : Moves T action :=
  fun start => (respects start ⟨rfl, flow.refl start⟩).2.2

end Flow

end M68HC05.Action
