import VariantSearch.Engine

namespace VariantSearch

variable {σ τ α : Type}

def Attempt.either (left : Attempt σ α) (right : Attempt τ α) : Attempt (σ ⊕ τ) α
  | .inl s => match left s with | (result, s') => (result, .inl s')
  | .inr t => match right t with | (result, t') => (result, .inr t')

instance [SearchEngine σ] [SearchEngine τ] : SearchEngine (σ ⊕ τ) where
  backend := Sum.elim SearchEngine.backend SearchEngine.backend
  createIndex indexUid primaryKey :=
    .either (SearchEngine.createIndex indexUid primaryKey)
      (SearchEngine.createIndex indexUid primaryKey)
  updateSettings indexUid settings :=
    .either (SearchEngine.updateSettings indexUid settings)
      (SearchEngine.updateSettings indexUid settings)
  addDocuments indexUid primaryKey documents :=
    .either (SearchEngine.addDocuments indexUid primaryKey documents)
      (SearchEngine.addDocuments indexUid primaryKey documents)
  search indexUid query :=
    .either (SearchEngine.search indexUid query) (SearchEngine.search indexUid query)
  health := .either SearchEngine.health SearchEngine.health

end VariantSearch
