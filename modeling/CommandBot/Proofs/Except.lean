namespace CommandBot

variable {ε α β : Type}

/-- A chain succeeds exactly when its first part does and the rest does on the result. Computations
are taken apart by this equivalence, so no proof has to unfold them. -/
theorem bind_eq_ok_iff {x : Except ε α} {f : α → Except ε β} {b : β} :
    (x >>= f) = .ok b ↔ ∃ a, x = .ok a ∧ f a = .ok b := by
  cases x with
  | error e =>
    constructor
    · intro h
      cases h
    · rintro ⟨a, ha, _⟩
      cases ha
  | ok a =>
    constructor
    · intro h
      exact ⟨a, rfl, h⟩
    · rintro ⟨a', ha, h⟩
      cases ha
      exact h

theorem map_eq_ok_iff {x : Except ε α} {f : α → β} {b : β} :
    f <$> x = .ok b ↔ ∃ a, x = .ok a ∧ f a = b := by
  cases x with
  | error e =>
    constructor
    · intro h
      cases h
    · rintro ⟨a, ha, _⟩
      cases ha
  | ok a =>
    constructor
    · intro h
      cases h
      exact ⟨a, rfl, rfl⟩
    · rintro ⟨a', ha, rfl⟩
      cases ha
      rfl

/-- A test that holds of the result of a computation shows that it has one. -/
theorem exists_of_any_toOption {x : Except ε α} {p : α → Bool} (h : x.toOption.any p = true) :
    ∃ a, x = .ok a ∧ p a = true := by
  cases x with
  | error e => cases h
  | ok a => exact ⟨a, rfl, h⟩

/-! ### Computations that mirror others -/

/-- The second computation succeeds exactly if the first one does, and then its result is the image
of the other's. What they fail with is left open. -/
def Mirrors (f : α → β) (x : Except ε α) (y : Except ε β) : Prop :=
  y.toOption = x.toOption.map f

namespace Mirrors

variable {γ δ : Type} {f : α → β} {x : Except ε α} {y : Except ε β}

theorem ok (f : α → β) (a : α) : Mirrors f (.ok a : Except ε α) (.ok (f a)) := rfl

theorem error (f : α → β) (e e' : ε) : Mirrors f (.error e) (.error e') := rfl

/-- A computation mirrors itself if the image of its result is that result. -/
theorem self {f : α → α} {x : Except ε α} (h : ∀ a, x = .ok a → f a = a) : Mirrors f x x := by
  cases x with
  | error e => rfl
  | ok a => exact congrArg some (h a rfl).symm

/-- Mirroring computations fail together or succeed together. -/
theorem cases (h : Mirrors f x y) :
    (∃ e e', x = .error e ∧ y = .error e') ∨ ∃ a, x = .ok a ∧ y = .ok (f a) := by
  cases x with
  | error e =>
    cases y with
    | error e' => exact .inl ⟨e, e', rfl, rfl⟩
    | ok b => cases h
  | ok a =>
    cases y with
    | error e' => cases h
    | ok b =>
      cases h
      exact .inr ⟨a, rfl, rfl⟩

/-- Mirroring passes through a chain if the rests mirror each other on results that correspond. Only
results that the first part really has need be considered. -/
theorem bind (h : Mirrors f x y) {g : γ → δ} {k : α → Except ε γ} {k' : β → Except ε δ}
    (hrest : ∀ a, x = .ok a → Mirrors g (k a) (k' (f a))) : Mirrors g (x >>= k) (y >>= k') := by
  rcases h.cases with ⟨e, e', rfl, rfl⟩ | ⟨a, rfl, rfl⟩
  · rfl
  · exact hrest a rfl

theorem map (h : Mirrors f x y) {g : γ → δ} {p : α → γ} {q : β → δ}
    (hsame : ∀ a, x = .ok a → q (f a) = g (p a)) : Mirrors g (p <$> x) (q <$> y) := by
  rcases h.cases with ⟨e, e', rfl, rfl⟩ | ⟨a, rfl, rfl⟩
  · rfl
  · exact congrArg some (hsame a rfl)

/-- Mirroring is shown by the results of the second computation alone. -/
theorem of_eq_ok_iff (h : ∀ b, y = .ok b ↔ ∃ a, x = .ok a ∧ f a = b) : Mirrors f x y := by
  cases y with
  | ok b =>
    obtain ⟨a, rfl, rfl⟩ := (h b).1 rfl
    rfl
  | error e' =>
    cases x with
    | error e => rfl
    | ok a => cases (h (f a)).2 ⟨a, rfl, rfl⟩

theorem eq_ok_iff (h : Mirrors f x y) {b : β} : y = .ok b ↔ ∃ a, x = .ok a ∧ f a = b := by
  rcases h.cases with ⟨e, e', rfl, rfl⟩ | ⟨a, rfl, rfl⟩
  · simp
  · simp

end Mirrors

end CommandBot
