import Mathlib.Data.List.TakeWhile
import VariantSearch.Engine.Memory
import VariantSearch.Proofs.EncodedText
import VariantSearch.Proofs.SearchPage
import VariantSearch.Proofs.SettingsDocument

namespace VariantSearch

namespace Web

/-- Whether a writer of addresses leaves a character as it is only where it can stand inside a segment
of a path and starts no escape. -/
def FitsSegment (keep : Char → Bool) : Prop :=
  ∀ c, keep c = true → Target.isPathChar c = true ∧ c ≠ '/' ∧ c ≠ '%'

namespace Target

/-- A path without a query is taken as it is. -/
theorem parse?_path {path : List Char} (h : ∀ c ∈ path, isPathChar c = true) :
    parse? (String.ofList ('/' :: path)) = some ⟨'/' :: path, none⟩ := by
  have hpath : ∀ c ∈ '/' :: path, isPathChar c = true := List.forall_mem_cons.2 ⟨rfl, h⟩
  have hsent : ('/' :: path).takeWhile (· != '#') = '/' :: path :=
    List.takeWhile_eq_self_iff.2 fun c hc =>
      bne_iff_ne.2 (ne_of_test (hpath c hc) (by decide))
  have hquery : Text.cutFirst? '?' ('/' :: path) = none :=
    Text.cutFirst?_eq_none_iff.2 fun hmem => ne_of_test (hpath _ hmem) (by decide) rfl
  rw [parse?, String.toList_ofList]
  change ofPath? ('/' :: path) = _
  rw [ofPath?, hsent, hquery]
  simp [List.all_eq_true.2 hpath]

theorem toNat_of_isUnreserved {c : Char} (h : isUnreserved c = true) :
    0x20 < c.toNat ∧ c.toNat < 0x7F := by
  simp only [isUnreserved, Bool.or_eq_true, beq_iff_eq] at h
  rcases h with (((h | rfl) | rfl) | rfl) | rfl
  · have hval : c.toNat = c.val.toNat := rfl
    change (decide (65 ≤ c.val ∧ c.val ≤ 90) || (decide (97 ≤ c.val) && decide (c.val ≤ 122)) ||
      (decide (48 ≤ c.val) && decide (c.val ≤ 57))) = true at h
    simp only [Bool.or_eq_true, Bool.and_eq_true, decide_eq_true_eq, UInt32.le_iff_toNat_le,
      UInt32.reduceToNat] at h
    omega
  all_goals decide

/-- The characters that every address may hold fit into its segments. -/
theorem fitsSegment_isUnreserved : FitsSegment isUnreserved := by
  intro c hc
  refine ⟨?_, ne_of_test hc (by decide), ne_of_test hc (by decide)⟩
  rw [isPathChar, decide_eq_true (toNat_of_isUnreserved hc).1, Bool.true_and, Bool.not_eq_true',
    ← Bool.not_eq_true, List.contains_iff_mem]
  have hreserved : ("#<>?`".toList.all fun d => !isUnreserved d) = true := by decide
  intro hmem
  have hout : isUnreserved c = false := by simpa using List.all_eq_true.1 hreserved c hmem
  exact ne_of_test hc hout rfl

end Target

namespace Percent

/-- What is written into a segment stays in it. -/
theorem isPathChar_of_mem_encode {keep : Char → Bool} (hkeep : FitsSegment keep) {cs : List Char}
    {c : Char} (h : c ∈ encode keep cs) : Target.isPathChar c = true ∧ c ≠ '/' := by
  rcases mem_encode h with ⟨-, hkept⟩ | hc
  · exact ⟨(hkeep c hkept).1, (hkeep c hkept).2.1⟩
  · exact hc

end Percent

end Web

namespace Router

variable {σ : Type} [SearchEngine σ] {registry : Registry} {chains : Chains} {metrics : Bool}
  {r : Router} {keep : Char → Bool}

theorem keep_percent (hkeep : Web.FitsSegment keep) : keep '%' = false := by
  cases hpercent : keep '%' with
  | false => rfl
  | true => exact absurd rfl (hkeep '%' hpercent).2.2

/-- A name that is not empty is written as one segment, which says the name. -/
theorem segment_of_name (hkeep : Web.FitsSegment keep) {name : String} (hne : name ≠ "") :
    Web.Percent.encode keep name.toList ≠ [] ∧ '/' ∉ Web.Percent.encode keep name.toList ∧
      parameterText? (Web.Percent.encode keep name.toList) = some name := by
  have hname := parameterText?_encode (keep_percent hkeep) name
  refine ⟨?_, fun hmem => (Web.Percent.isPathChar_of_mem_encode hkeep hmem).2 rfl, hname⟩
  intro hnil
  rw [hnil] at hname
  exact hne (Option.some.inj hname).symm

/-- The address of a variant leads to its page. -/
theorem handle_variant (hr : make registry chains metrics = .ok r) (hkeep : Web.FitsSegment keep)
    {name : String} (hne : name ≠ "") (query : Option (List Char)) (s : Service σ) :
    r.handle "GET" ⟨variantPrefix ++ Web.Percent.encode keep name.toList, query⟩ s =
      (variantPage s.registry name, s) := by
  -- The written name is one segment that is not empty, so only the route of variants takes it.
  obtain ⟨hnil, hslash, hname⟩ := segment_of_name hkeep hne
  simp only [handle, find?_configuration hr hnil hslash, visit, hname, if_true]

theorem variantPage_of_find? {name : String} {reg : Registration} (h : registry.find? name = some reg) :
    variantPage registry name = .ofJson 200 (reg.variant.documentWith "state" reg.state.toText) := by
  rw [variantPage, h]
  rfl

def variantAddress (keep : Char → Bool) (name : String) : String :=
  String.ofList (variantPrefix ++ Web.Percent.encode keep name.toList)

theorem parse?_variantAddress (hkeep : Web.FitsSegment keep) (name : String) :
    Web.Target.parse? (variantAddress keep name) =
      some ⟨variantPrefix ++ Web.Percent.encode keep name.toList, none⟩ := by
  refine Web.Target.parse?_path fun c hc => ?_
  rcases List.mem_append.1 hc with hc | hc
  · have hprefix : "configurations/".toList.all Web.Target.isPathChar = true := by decide
    exact List.all_eq_true.1 hprefix c hc
  · exact (Web.Percent.isPathChar_of_mem_encode hkeep hc).1

/-- Settings whose rules by an attribute name one are read back from their document, as a value and
from its text, so two of them with the same text are equal; all settings and rules that are read are
such. The page of a registered variant with such settings is a document from which the variant is read
back. -/
theorem variant_read_back (hr : make registry chains metrics = .ok r) (hkeep : Web.FitsSegment keep)
    (s : Service σ) :
    (∀ settings : Settings, settings.NamedRules →
        Settings.ofJson? settings.toJson = some settings ∧
          (Json.ofString? settings.toJson.toText).bind Settings.ofJson? = some settings) ∧
      (∀ a b : Settings, a.NamedRules → b.NamedRules → a.toJson.toText = b.toJson.toText → a = b) ∧
      (∀ j settings, Settings.ofJson? j = some settings → settings.NamedRules) ∧
      (∀ text rule, RankingRule.parse text = .ok rule → rule.Named) ∧
      ∀ name reg, name ≠ "" → s.registry.find? name = some reg → reg.variant.settings.NamedRules →
        ∃ target body, Web.Target.parse? (variantAddress keep name) = some target ∧
          r.handle "GET" target s = (.ofJson 200 body, s) ∧
          (Json.ofBytes? (Text.Utf8.ofString body.toText)).bind Variant.ofJson? =
            some reg.variant := by
  refine ⟨?_, ?_, fun _ _ => Settings.namedRules_of_ofJson?, fun _ _ => RankingRule.named_of_parse, ?_⟩
  · intro settings h
    exact ⟨Settings.ofJson?_toJson h, Settings.ofString?_toText h⟩
  · intro a b ha hb htext
    have hread := Settings.ofString?_toText ha
    rw [htext, Settings.ofString?_toText hb] at hread
    exact (Option.some.inj hread).symm
  · intro name reg hne hreg hnamed
    refine ⟨_, reg.variant.documentWith "state" reg.state.toText, parse?_variantAddress hkeep name,
      ?_, ?_⟩
    · rw [handle_variant hr hkeep hne, variantPage_of_find? hreg]
    · rw [Json.ofBytes?_toText (reg.variant.plain_documentWith "state" reg.state.toText),
        Option.bind_some, Variant.ofJson?_documentWith hnamed]

def awkward : Variant :=
  { Variant.plain "a/b %" with
    settings.ranking := [.builtin .words, .byAttribute "words:asc" .descending] }

def awkwardService : Service Memory := (Service.start (Memory.fresh 1)).register awkward

theorem variant_read_back_for_awkward :
    make .empty .empty true = .ok earlyRouter ∧ awkward.settings.NamedRules ∧
      variantAddress Web.Target.isUnreserved "a/b %" = "/configurations/a%2Fb%20%25" ∧
        ∃ target body, Web.Target.parse? "/configurations/a%2Fb%20%25" = some target ∧
          earlyRouter.handle "GET" target awkwardService = (.ofJson 200 body, awkwardService) ∧
          (Json.ofBytes? (Text.Utf8.ofString body.toText)).bind Variant.ofJson? = some awkward := by
  have hr : make .empty .empty true = .ok earlyRouter := rfl
  have hnamed : awkward.settings.NamedRules := by decide
  have haddress : variantAddress Web.Target.isUnreserved "a/b %" = "/configurations/a%2Fb%20%25" := by
    decide
  obtain ⟨-, -, -, -, hpage⟩ :=
    variant_read_back hr Web.Target.fitsSegment_isUnreserved awkwardService
  have hread := hpage "a/b %" ⟨awkward, .unconfigured⟩ (by decide) rfl hnamed
  rw [haddress] at hread
  exact ⟨hr, hnamed, haddress, hread⟩

end Router

end VariantSearch
