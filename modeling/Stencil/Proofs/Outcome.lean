/-!
# Outcomes

How the outcomes of steps that may fail run together, and what is left of them when the faults are
forgotten.
-/

namespace Stencil

variable {ε α β : Type}

@[simp]
theorem ok_bind (a : α) (next : α → Except ε β) : (Except.ok a >>= next) = next a := rfl

@[simp]
theorem error_bind (fault : ε) (next : α → Except ε β) :
    ((Except.error fault : Except ε α) >>= next) = .error fault := rfl

@[simp]
theorem toOption_ok (a : α) : (Except.ok a : Except ε α).toOption = some a := rfl

@[simp]
theorem toOption_error (fault : ε) : (Except.error fault : Except ε α).toOption = none := rfl

theorem toOption_bind (step : Except ε α) (next : α → Except ε β) :
    (step >>= next).toOption = step.toOption.bind fun a => (next a).toOption := by
  cases step <;> rfl

theorem bind_eq_ok_iff {step : Except ε α} {next : α → Except ε β} {b : β} :
    (step >>= next) = .ok b ↔ ∃ a, step = .ok a ∧ next a = .ok b := by
  cases step <;> simp

theorem map_eq_ok_iff {step : Except ε α} {f : α → β} {b : β} :
    step.map f = .ok b ↔ ∃ a, step = .ok a ∧ f a = b := by
  cases step <;> simp [Except.map]

theorem mapM_eq_ok_iff {f : α → Except ε β} {l : List α} {results : List β} :
    l.mapM f = .ok results ↔ l.map f = results.map .ok := by
  induction l generalizing results with
  | nil =>
      rw [List.mapM_nil, List.map_nil, eq_comm (a := [])]
      exact ⟨fun same => by rw [← Except.ok.inj same]; rfl, fun none => by rw [List.map_eq_nil_iff.mp none]; rfl⟩
  | cons a rest induction =>
      rw [List.mapM_cons, List.map_cons, bind_eq_ok_iff]
      constructor
      · rintro ⟨first, value, later⟩
        obtain ⟨others, values, whole⟩ := bind_eq_ok_iff.mp later
        obtain rfl : first :: others = results := Except.ok.inj whole
        rw [value, induction.mp values, List.map_cons]
      · intro whole
        cases results with
        | nil => cases whole
        | cons first others =>
            obtain ⟨value, values⟩ := List.cons.inj whole
            exact ⟨first, value, bind_eq_ok_iff.mpr ⟨others, induction.mpr values, rfl⟩⟩

theorem toOption_eq_some_iff {step : Except ε α} {a : α} : step.toOption = some a ↔ step = .ok a := by
  cases step <;> simp

end Stencil
