namespace ReceiverLog

/-! Results of steps that may fail, taken apart. -/

variable {ε α β γ : Type}

theorem exists_ok_of_bind {first : Except ε α} {next : α → Except ε β} {result : β}
    (bound : first >>= next = .ok result) :
    ∃ value, first = .ok value ∧ next value = .ok result := by
  cases first with
  | error reason => cases bound
  | ok value => exact ⟨value, rfl, bound⟩

theorem exists_ok_of_isOk {result : Except ε α} (ok : result.isOk) :
    ∃ value, result = .ok value := by
  cases result with
  | error reason => cases ok
  | ok value => exact ⟨value, rfl⟩

theorem exists_mapM_ok {step : α → Except ε β} {inputs : List α}
    (each : ∀ input ∈ inputs, ∃ value, step input = .ok value) :
    ∃ values, inputs.mapM step = .ok values := by
  induction inputs with
  | nil => exact ⟨[], rfl⟩
  | cons input inputs induction =>
      rcases each input List.mem_cons_self with ⟨value, first⟩
      rcases induction fun other member => each other (List.mem_cons_of_mem _ member) with
        ⟨values, rest⟩
      rw [List.mapM_cons, first, rest]
      exact ⟨value :: values, rfl⟩

theorem isOk_bind_congr (first : Except ε α) {left : α → Except ε β} {right : α → Except ε γ}
    (same : ∀ value, (left value).isOk = (right value).isOk) :
    (first >>= left).isOk = (first >>= right).isOk := by
  cases first with
  | error reason => rfl
  | ok value => exact same value

theorem isOk_bind_pure (first : Except ε α) (finish : α → β) :
    (first >>= fun value => pure (finish value)).isOk = first.isOk := by
  cases first <;> rfl

end ReceiverLog
