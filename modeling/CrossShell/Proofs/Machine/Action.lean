import CrossShell.Machine

/-!
What an action did, told from its result, and what it does, told from the results of its steps.

Each lemma says of one kind of step what the machine was before and after it, once for the answer
and once for the error, so that the proofs about longer actions take them apart step by step.
-/

set_option autoImplicit false

namespace CrossShell.Machine

variable {ε ε' α β : Type}

/-! ## Two steps -/

namespace Action

theorem bind_eq_ok {x : Action ε α} {f : α → Action ε β} {m m' : Machine} {b : β}
    (h : (x >>= f) m = .ok b m') : ∃ a m₁, x m = .ok a m₁ ∧ f a m₁ = .ok b m' := by
  simp only [bind, EStateM.bind] at h
  cases hx : x m with
  | ok a m₁ =>
    rw [hx] at h
    exact ⟨a, m₁, rfl, h⟩
  | error e m₁ => rw [hx] at h; cases h

theorem bind_eq_error {x : Action ε α} {f : α → Action ε β} {m m' : Machine} {e : ε}
    (h : (x >>= f) m = .error e m') :
    x m = .error e m' ∨ ∃ a m₁, x m = .ok a m₁ ∧ f a m₁ = .error e m' := by
  simp only [bind, EStateM.bind] at h
  cases hx : x m with
  | ok a m₁ =>
    rw [hx] at h
    exact Or.inr ⟨a, m₁, rfl, h⟩
  | error e₁ m₁ =>
    rw [hx] at h
    cases h
    exact Or.inl rfl

theorem bind_of_ok {x : Action ε α} {f : α → Action ε β} {m m' : Machine} {a : α}
    (h : x m = .ok a m') : (x >>= f) m = f a m' := by
  simp only [bind, EStateM.bind, h]

theorem bind_of_error {x : Action ε α} {f : α → Action ε β} {m m' : Machine} {e : ε}
    (h : x m = .error e m') : (x >>= f) m = .error e m' := by
  simp only [bind, EStateM.bind, h]

theorem get_bind (f : Machine → Action ε α) (m : Machine) :
    ((get : Action ε Machine) >>= f) m = f m m := rfl

end Action

/-! ## Single steps -/

theorem answer_eq_ok {result : Except ε α} {m m' : Machine} {a : α}
    (h : answer result m = .ok a m') : result = .ok a ∧ m' = m := by
  cases result with
  | ok a₁ => cases h; exact ⟨rfl, rfl⟩
  | error e => cases h

theorem answer_eq_error {result : Except ε α} {m m' : Machine} {e : ε}
    (h : answer result m = .error e m') : result = .error e ∧ m' = m := by
  cases result with
  | ok a₁ => cases h
  | error e₁ => cases h; exact ⟨rfl, rfl⟩

theorem look_eq_ok {find : Machine → Except ε α} {m m' : Machine} {a : α}
    (h : look find m = .ok a m') : find m = .ok a ∧ m' = m := by
  unfold look at h
  cases hfind : find m with
  | ok a₁ => rw [hfind] at h; cases h; exact ⟨rfl, rfl⟩
  | error e => rw [hfind] at h; cases h

theorem explain_eq_ok {f : ε → ε'} {x : Action ε α} {m m' : Machine} {a : α}
    (h : explain f x m = .ok a m') : x m = .ok a m' := by
  unfold explain at h
  cases hx : x m with
  | ok a₁ m₁ => rw [hx] at h; cases h; rfl
  | error e m₁ => rw [hx] at h; cases h

theorem explain_eq_error {f : ε → ε'} {x : Action ε α} {m m' : Machine} {e' : ε'}
    (h : explain f x m = .error e' m') : ∃ e, x m = .error e m' ∧ e' = f e := by
  unfold explain at h
  cases hx : x m with
  | ok a₁ m₁ => rw [hx] at h; cases h
  | error e m₁ => rw [hx] at h; cases h; exact ⟨e, rfl, rfl⟩

theorem explain_of_ok {f : ε → ε'} {x : Action ε α} {m m' : Machine} {a : α}
    (h : x m = .ok a m') : explain f x m = .ok a m' := by
  unfold explain
  rw [h]

theorem explain_of_error {f : ε → ε'} {x : Action ε α} {m m' : Machine} {e : ε}
    (h : x m = .error e m') : explain f x m = .error (f e) m' := by
  unfold explain
  rw [h]

theorem makeDirectories_eq_ok {path : String} {m m' : Machine} {u : Unit}
    (h : makeDirectories path m = .ok u m') :
    ∃ files, m.files.makeDirectories m.directory (Route.ofText path) = (none, files) ∧
      m' = { m with files := files } := by
  unfold makeDirectories at h
  cases hfiles : m.files.makeDirectories m.directory (Route.ofText path) with
  | mk fault? files =>
    rw [hfiles] at h
    cases fault? with
    | none => cases h; exact ⟨files, rfl, rfl⟩
    | some fault => cases h

theorem makeDirectories_eq_error {path : String} {m m' : Machine} {fault : Fault}
    (h : makeDirectories path m = .error fault m') :
    ∃ files, m.files.makeDirectories m.directory (Route.ofText path) = (some fault, files) ∧
      m' = { m with files := files } := by
  unfold makeDirectories at h
  cases hfiles : m.files.makeDirectories m.directory (Route.ofText path) with
  | mk fault? files =>
    rw [hfiles] at h
    cases fault? with
    | none => cases h
    | some fault => cases h; exact ⟨files, rfl, rfl⟩

theorem writeText_eq_ok {path text : String} {m m' : Machine} {u : Unit}
    (h : writeText path text m = .ok u m') :
    ∃ files, m.files.write m.directory (Route.ofText path) (Text.encode text) = .ok files ∧
      m' = { m with files := files } := by
  unfold writeText at h
  cases hfiles : m.files.write m.directory (Route.ofText path) (Text.encode text) with
  | ok files => rw [hfiles] at h; cases h; exact ⟨files, rfl, rfl⟩
  | error fault => rw [hfiles] at h; cases h

theorem writeText_eq_error {path text : String} {m m' : Machine} {fault : Fault}
    (h : writeText path text m = .error fault m') :
    m.files.write m.directory (Route.ofText path) (Text.encode text) = .error fault ∧ m' = m := by
  unfold writeText at h
  cases hfiles : m.files.write m.directory (Route.ofText path) (Text.encode text) with
  | ok files => rw [hfiles] at h; cases h
  | error fault₁ => rw [hfiles] at h; cases h; exact ⟨rfl, rfl⟩

/-- Whether an action answers a value of a kind. -/
def answers (x : Action ε α) (m : Machine) (kind : α → Bool) : Bool :=
  match x m with
  | .ok a _ => kind a
  | .error _ _ => false

theorem exists_ok_of_answers {x : Action ε α} {m : Machine} {kind : α → Bool}
    (h : answers x m kind = true) : ∃ a m', x m = .ok a m' ∧ kind a = true := by
  unfold answers at h
  cases hx : x m with
  | ok a m' => rw [hx] at h; exact ⟨a, m', rfl, h⟩
  | error e m' => rw [hx] at h; cases h

/-- Whether an action breaks off with an error of a kind. -/
def refuses (x : Action ε α) (m : Machine) (kind : ε → Bool) : Bool :=
  match x m with
  | .ok _ _ => false
  | .error e _ => kind e

theorem exists_error_of_refuses {x : Action ε α} {m : Machine} {kind : ε → Bool}
    (h : refuses x m kind = true) : ∃ e m', x m = .error e m' ∧ kind e = true := by
  unfold refuses at h
  cases hx : x m with
  | ok a m' => rw [hx] at h; cases h
  | error e m' => rw [hx] at h; exact ⟨e, m', rfl, h⟩

/-! ## The machine afterwards -/

/-- The machine after an action, whatever it answers. -/
def after (x : Action ε α) (m : Machine) : Machine :=
  match x m with
  | .ok _ m' => m'
  | .error _ m' => m'

theorem after_of_ok {x : Action ε α} {m m' : Machine} {a : α} (h : x m = .ok a m') :
    after x m = m' := by
  unfold after
  rw [h]

theorem after_of_error {x : Action ε α} {m m' : Machine} {e : ε} (h : x m = .error e m') :
    after x m = m' := by
  unfold after
  rw [h]

/-- Starting a program touches no file. -/
theorem after_start (program : String) (arguments : List String) (m : Machine) :
    (after (start program arguments) m).files = m.files ∧
      (after (start program arguments) m).directory = m.directory := by
  unfold after start
  cases m.launch program arguments with
  | refused fault => exact ⟨rfl, rfl⟩
  | ran ending => exact ⟨rfl, rfl⟩

end CrossShell.Machine
