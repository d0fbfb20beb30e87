/-!
# Computations that may fail

What a computation that has succeeded, or failed, says about its parts.
-/

namespace HeatFeed

theorem bind_eq_ok {ε α β : Type} {x : Except ε α} {f : α → Except ε β} {r : β} :
    x >>= f = .ok r ↔ ∃ a, x = .ok a ∧ f a = .ok r := by
  cases x with
  | error e => exact ⟨nofun, fun ⟨_, h, _⟩ => nomatch h⟩
  | ok a =>
    refine ⟨fun h => ⟨a, rfl, h⟩, ?_⟩
    rintro ⟨_, h, hf⟩
    cases h
    exact hf

theorem bind_eq_error {ε α β : Type} {x : Except ε α} {f : α → Except ε β} {e : ε} :
    x >>= f = .error e ↔ x = .error e ∨ ∃ a, x = .ok a ∧ f a = .error e := by
  cases x with
  | error d =>
    constructor
    · rintro ⟨⟩
      exact .inl rfl
    · rintro (h | ⟨_, h, _⟩)
      · cases h
        rfl
      · cases h
  | ok a =>
    constructor
    · exact fun h => .inr ⟨a, rfl, h⟩
    · rintro (h | ⟨_, h, hf⟩)
      · cases h
      · cases h
        exact hf

/-- A computation says as much as another that starts alike, if what follows does. -/
theorem map_bind_congr {ε α β γ : Type} {x : Except ε α} {f f' : α → Except ε β} {g : β → γ}
    (h : ∀ a, (f a).map g = (f' a).map g) : (x >>= f).map g = (x >>= f').map g := by
  cases x with
  | error e => rfl
  | ok a => exact h a

/-- Where no step fails, all results are there. -/
theorem mapM_ok {ε α β : Type} {f : α → Except ε β} {g : α → β} {xs : List α}
    (h : ∀ x ∈ xs, f x = .ok (g x)) : xs.mapM f = .ok (xs.map g) := by
  induction xs with
  | nil => rfl
  | cons x xs ih =>
    rw [List.mapM_cons, h x List.mem_cons_self, ih fun y mem => h y (List.mem_cons_of_mem x mem)]
    rfl

/-- Where only one error is there, it is that of all steps. -/
theorem mapM_error {ε α β : Type} {f : α → Except ε β} {e : ε} {xs : List α}
    (fails : ∃ x ∈ xs, f x = .error e) (only : ∀ x ∈ xs, ∀ d, f x = .error d → d = e) :
    xs.mapM f = .error e := by
  induction xs with
  | nil =>
    obtain ⟨x, mem, -⟩ := fails
    cases mem
  | cons x xs ih =>
    rw [List.mapM_cons]
    cases first : f x with
    | error d =>
      rw [only x List.mem_cons_self d first]
      rfl
    | ok y =>
      have later : ∃ z ∈ xs, f z = .error e := by
        obtain ⟨z, mem, failed⟩ := fails
        rcases List.mem_cons.1 mem with rfl | mem
        · rw [first] at failed
          cases failed
        · exact ⟨z, mem, failed⟩
      have rest := ih later fun z mem => only z (List.mem_cons_of_mem x mem)
      rw [rest]
      rfl

/-- What each step keeps, all steps keep. -/
theorem preserved_foldlM {σ α ε : Type} {P : σ → Prop} {step : σ → α → Except ε σ}
    (keeps : ∀ s x next, P s → step s x = .ok next → P next) {xs : List α} {s last : σ} (h : P s)
    (done : xs.foldlM step s = .ok last) : P last := by
  induction xs generalizing s with
  | nil => cases done; exact h
  | cons x xs ih =>
    rw [List.foldlM_cons] at done
    obtain ⟨next, stepped, done⟩ := bind_eq_ok.1 done
    exact ih (keeps s x next h stepped) done

end HeatFeed
