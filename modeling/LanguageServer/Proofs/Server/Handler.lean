import LanguageServer.Dispatch

/-! How handlers run: the steps of a handler one after the other, up to the first that fails. What a step
    did to the memory stays. -/

namespace LanguageServer.Handler

variable {σ α β : Type} {j j' : Journal σ}

@[simp]
theorem start_pure (x : α) : (pure x : Handler σ α).start j = (.ok x, j) := rfl

@[simp]
theorem start_throw (e : Exception) : (throw e : Handler σ α).start j = (.error e, j) := rfl

@[simp]
theorem start_memory : (memory : Handler σ σ).start j = (.ok j.memory, j) := rfl

@[simp]
theorem start_update (f : σ → σ) :
    (update f : Handler σ Unit).start j = (.ok (), { j with memory := f j.memory }) := rfl

theorem start_bind (h : Handler σ α) (f : α → Handler σ β) :
    (h >>= f).start j =
      match h.start j with
      | (.ok x, j) => (f x).start j
      | (.error e, j) => (.error e, j) := by
  simp only [start, ExceptT.run_bind, StateT.run_bind]
  obtain ⟨result, j⟩ := StateT.run (ExceptT.run h) j
  cases result <;> rfl

theorem start_bind_of_ok {h : Handler σ α} {f : α → Handler σ β} {x : α}
    (hh : h.start j = (.ok x, j')) : (h >>= f).start j = (f x).start j' := by
  rw [start_bind, hh]

theorem start_map (g : α → β) (h : Handler σ α) :
    (g <$> h).start j = ((h.start j).1.map g, (h.start j).2) := by
  simp only [start, ExceptT.run_map, StateT.run_map]
  obtain ⟨result, j⟩ := StateT.run (ExceptT.run h) j
  cases result <;> rfl

end LanguageServer.Handler
