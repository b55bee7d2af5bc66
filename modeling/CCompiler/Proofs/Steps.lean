/-!
# Tables and steps that can fail

What a table answers, and what two steps do one after the other: without a state, with a state that a failure loses, and with one that a
failure leaves.
-/
namespace CCompiler

variable {ε ρ σ α β : Type}

/-- What a table answers stands in it. -/
theorem mem_of_lookup [BEq α] [LawfulBEq α] {l : List (α × β)} (h : l.lookup a = some b) :
    (a, b) ∈ l := by
  obtain ⟨front, back, rfl, -⟩ := List.lookup_eq_some_iff.mp h
  simp

/-- Two steps succeed together when both do. -/
theorem bind_ok {f : α → Except ε β} (h : x >>= f = .ok b) :
    ∃ a, x = .ok a ∧ f a = .ok b := by
  cases x with
  | error e => cases h
  | ok a => exact ⟨a, rfl, h⟩

theorem run_bind {f : α → ReaderT ρ (StateT σ (Except ε)) β} : (x >>= f) r s = .ok b ↔ ∃ p, x r s = .ok p ∧ f p.1 r p.2 = .ok b := by
  refine ⟨bind_ok, ?_⟩
  rintro ⟨p, hp, hf⟩
  show (x r s >>= fun p => f p.1 r p.2) = _
  rw [hp]
  exact hf

variable {x : ReaderT ρ (ExceptT ε (StateM σ)) α} {f : α → ReaderT ρ (ExceptT ε (StateM σ)) β}
  {handler : ε → ReaderT ρ (ExceptT ε (StateM σ)) α} {r : ρ} {s s' : σ} {a : α} {e : ε}

theorem bind_of_ok (h : x r s = (.ok a, s')) : (x >>= f) r s = f a r s' := by
  show ExceptT.bindCont (f · r) (x r s).1 (x r s).2 = _
  rw [h]
  rfl

theorem bind_of_error (h : x r s = (.error e, s')) : (x >>= f) r s = (.error e, s') := by
  show ExceptT.bindCont (f · r) (x r s).1 (x r s).2 = _
  rw [h]
  rfl

theorem tryCatch_of_ok (h : x r s = (.ok a, s')) : tryCatch x handler r s = (.ok a, s') := by
  simp only [tryCatch, tryCatchThe, MonadExceptOf.tryCatch, ExceptT.tryCatch, ExceptT.mk, bind, StateT.bind, h]
  rfl

theorem tryCatch_of_error (h : x r s = (.error e, s')) : tryCatch x handler r s = handler e r s' := by
  simp only [tryCatch, tryCatchThe, MonadExceptOf.tryCatch, ExceptT.tryCatch, ExceptT.mk, bind, StateT.bind, h]

end CCompiler
