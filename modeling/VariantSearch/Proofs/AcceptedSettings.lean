import Mathlib.Data.List.Induction
import VariantSearch.Proofs.RegistryViews
import VariantSearch.Proofs.RemoteCalls

namespace VariantSearch

namespace Remote

/-- Among some exchanges are those of a change to the settings of a variant that was carried out. -/
def Accepted (c : RemoteConfig) (v : Variant) (l : List Web.Exchange) : Prop :=
  ∃ before made after, l = before ++ made ++ after ∧
    CarriedOut c "PATCH" ("/indexes/" ++ v.indexUid ++ "/settings") [] v.settings.toJson made

theorem Accepted.append {c : RemoteConfig} {v : Variant} {l : List Web.Exchange}
    (h : Accepted c v l) (earlier later : List Web.Exchange) :
    Accepted c v (earlier ++ l ++ later) := by
  obtain ⟨before, made, after, rfl, hmade⟩ := h
  exact ⟨earlier ++ before, made, after ++ later, by simp only [List.append_assoc], hmade⟩

end Remote

namespace Service

open Remote

def nearby : RemoteConfig := ⟨"http://127.0.0.1:7700", none, 100, 60, 10, 9⟩

end Service

end VariantSearch
