import VariantSearch.Proofs.Operations

namespace VariantSearch

variable {σ α : Type}

structure Watched (σ : Type) where
  engine : σ
  calls : List EngineCall

namespace Watched

def noting (call : EngineCall) (work : Attempt σ α) : Attempt (Watched σ) α := fun w =>
  ((work w.engine).1, ⟨(work w.engine).2, w.calls ++ [call]⟩)

instance [SearchEngine σ] : SearchEngine (Watched σ) where
  backend w := SearchEngine.backend w.engine
  createIndex indexUid primaryKey :=
    noting (.createIndex indexUid primaryKey) (SearchEngine.createIndex indexUid primaryKey)
  updateSettings indexUid settings :=
    noting (.updateSettings indexUid settings) (SearchEngine.updateSettings indexUid settings)
  addDocuments indexUid primaryKey documents :=
    noting (.addDocuments indexUid primaryKey documents)
      (SearchEngine.addDocuments indexUid primaryKey documents)
  search indexUid query := noting (.search indexUid query) (SearchEngine.search indexUid query)
  health := noting .health SearchEngine.health

section Called

variable (P : EngineCall → Prop)

def Called (w w' : Watched σ) : Prop := ∃ more, w'.calls = w.calls ++ more ∧ ∀ c ∈ more, P c

theorem kept_called : Kept (Called (σ := σ) P) where
  refl w := ⟨[], (List.append_nil w.calls).symm, List.forall_mem_nil P⟩
  trans _ _ _ h h' := by
    obtain ⟨first, hfirst, hkind⟩ := h
    obtain ⟨second, hsecond, hkind'⟩ := h'
    refine ⟨first ++ second, by rw [hsecond, hfirst, List.append_assoc], fun c hc => ?_⟩
    exact (List.mem_append.1 hc).elim (hkind c) (hkind' c)

variable {P}

theorem keeps_noting {call : EngineCall} (h : P call) (work : Attempt σ α) :
    Attempt.Keeps (Called P) (noting call work) := fun _ =>
  ⟨[call], rfl, fun _ hc => List.mem_singleton.1 hc ▸ h⟩

end Called

variable [SearchEngine σ]

theorem search_eq (indexUid : String) (query : EngineQuery) (w : Watched σ) :
    SearchEngine.search indexUid query w =
      ((SearchEngine.search indexUid query w.engine).1,
        ⟨(SearchEngine.search indexUid query w.engine).2, w.calls ++ [.search indexUid query]⟩) :=
  rfl

/-- A call adds itself to the list, and the engine under watch does what it does unwatched. -/
theorem perform_eq (w : Watched σ) (c : EngineCall) :
    c.perform w = ⟨c.perform w.engine, w.calls ++ [c]⟩ := by
  cases c <;> rfl

end Watched

end VariantSearch
