import VariantSearch.Proofs.BrokenConditions
import VariantSearch.Proofs.PermutedDocuments
import VariantSearch.Proofs.PushCalls
import VariantSearch.Proofs.RegistryViews

namespace VariantSearch

open Json (SyntaxTree)

/-- A variant that is registered over another one is not configured, nor if it is the same and was not
so before. -/
theorem Registry.find?_register_of_change {r : Registry} {v w : Variant}
    (hv : r.variant? w.name = some v) (h : v = w → r.state? w.name = some .unconfigured) :
    (r.register w).find? w.name = some ⟨w, .unconfigured⟩ := by
  obtain ⟨⟨u, state⟩, hreg, rfl⟩ := Option.map_eq_some_iff.1 hv
  have hstate : stateFor (r.find? w.name) w = .unconfigured := by
    rw [hreg, stateFor]
    split
    · next hsame =>
      have hold := h hsame
      rw [state?, hreg] at hold
      exact Option.some.inj hold
    · rfl
  rw [find?_register, if_pos rfl, hstate]

namespace Service

variable {σ : Type} [SearchEngine σ]

/-- Only variants that meet their conditions are ever configured. -/
theorem sound_of_configured (engine : σ) (ops : List (Operation σ)) {name : String} {v : Variant}
    (hv : ((start engine).run ops).registry.find? name = some ⟨v, .configured⟩) : v.Sound := by
  have hstart : HasConfigured (fun v _ => v.Sound) (start engine) := by
    intro name v h
    cases h
  refine hstart.run ?_ ?_ ops ?_ name v hv
  · intro c e v h
    exact h
  · intro v e hpush
    by_contra hsound
    rw [push_of_refused (Variant.check_of_not_sound hsound)] at hpush
    cases hpush
  · intro change _ e v h
    exact h

/-- A variant whose settings are those of a registered one up to the order of searchable attributes and
rules takes its place without being configured, if the document that it is from is another one. -/
theorem find?_register_of_permuted (engine : σ) (ops : List (Operation σ)) {v : Variant}
    {document between other : SyntaxTree} {settings : Settings}
    (hread : Settings.ofTree? document = some v.settings)
    (hv : ((start engine).run ops).registry.variant? v.name = some v)
    (hbetween : Settings.Permuted "searchableAttributes" document between)
    (hother : Settings.Permuted "rankingRules" between other) (hne : other ≠ document)
    (hsettings : Settings.ofTree? other = some settings) :
    (((start engine).run ops).register { v with settings }).registry.find? v.name =
      some ⟨{ v with settings }, .unconfigured⟩ := by
  apply Registry.find?_register_of_change (w := { v with settings }) hv
  intro hsame
  obtain ⟨attributes, hfirst, -, hsearchable⟩ := hbetween.exists_searchable hread
  obtain ⟨rules, hsecond, -, hranking⟩ := hother.exists_ranking hfirst
  obtain rfl := Option.some.inj (hsettings.symm.trans hsecond)
  have hequal := congrArg Variant.settings hsame
  have heq : between = document := hsearchable (congrArg Settings.searchable hequal).symm
  -- The rules were read the same in another order, so one comes twice, which is never accepted.
  have hrepeated : ¬ v.settings.ranking.Nodup := by
    intro hnodup
    apply hne
    rw [← heq]
    exact hranking (congrArg Settings.ranking hequal).symm hnodup
  obtain ⟨⟨u, state⟩, hreg, hu⟩ := Option.map_eq_some_iff.1 hv
  obtain rfl : u = v := hu
  rw [Registry.state?, hreg]
  cases state with
  | unconfigured => rfl
  | configured => exact absurd (sound_of_configured engine ops hreg).distinct hrepeated

/-- From every document that is like a readable one the same settings are read, and they are written as
the same text; from every document in which the searchable attributes or the ranking rules come in
another order, settings with these orders are read. Over every engine and after every run, let a variant
be registered whose settings are those of the document. Registering it with what is read from a document
of the first kind leaves the registry as it is; with what is read from one of the second kind the name
is not configured any more. -/
theorem reregistration_decided {document : SyntaxTree} {s : Settings}
    (hread : Settings.ofTree? document = some s) :
    (∀ other, Settings.Alike .settings document other →
        ∃ settings, Settings.ofTree? other = some settings ∧ settings = s ∧
          settings.toJson.toText = s.toJson.toText) ∧
      (∀ between other, Settings.Permuted "searchableAttributes" document between →
        Settings.Permuted "rankingRules" between other →
          ∃ settings, Settings.ofTree? other = some settings ∧
            s.searchable.Perm settings.searchable ∧ s.ranking.Perm settings.ranking) ∧
      ∀ (engine : σ) (ops : List (Operation σ)) (v : Variant), v.settings = s →
        ((start engine).run ops).registry.variant? v.name = some v →
          (∀ other settings, Settings.Alike .settings document other →
            Settings.ofTree? other = some settings →
              (((start engine).run ops).register { v with settings }).registry =
                ((start engine).run ops).registry) ∧
          ∀ between other settings, Settings.Permuted "searchableAttributes" document between →
            Settings.Permuted "rankingRules" between other → other ≠ document →
              Settings.ofTree? other = some settings →
                (((start engine).run ops).register { v with settings }).registry.find? v.name =
                  some ⟨{ v with settings }, .unconfigured⟩ := by
  have halike (other : SyntaxTree) (hother : Settings.Alike .settings document other) :
      Settings.ofTree? other = some s := (Settings.ofTree?_of_alike hother).trans hread
  refine ⟨?_, ?_, ?_⟩
  · intro other hother
    exact ⟨s, halike other hother, rfl, rfl⟩
  · intro between other hbetween hother
    obtain ⟨attributes, hfirst, hattributes, -⟩ := hbetween.exists_searchable hread
    obtain ⟨rules, hsecond, hrules, -⟩ := hother.exists_ranking hfirst
    exact ⟨_, hsecond, hattributes, hrules⟩
  · intro engine ops v hs hv
    subst hs
    constructor
    · intro other settings hother hsettings
      obtain rfl := Option.some.inj (hsettings.symm.trans (halike other hother))
      exact Registry.register_of_variant? hv
    · intro between other settings hbetween hother hne hsettings
      exact find?_register_of_permuted engine ops hread hv hbetween hother hne hsettings

def quoted (s : String) : SyntaxTree := .string (some s.toList)

def quotedList (l : List String) : SyntaxTree := .list (l.map quoted)

def named (name : String) (t : SyntaxTree) : Option (List Char) × SyntaxTree := (some name.toList, t)

def digit (c : Char) : SyntaxTree := .number ⟨false, [c], [], none⟩

def writtenMembers (words rules : List String) : List (Option (List Char) × SyntaxTree) :=
  [named "filterableAttributes" (quotedList ["genre"]), named "sortableAttributes" (quotedList []),
    named "searchableAttributes" (quotedList ["title", "about"]),
    named "synonyms" (.object [named "rpg" (quotedList words)]), named "stopWords" (quotedList ["of"]),
    named "typoTolerance" (.object
      [named "enabled" (.bool true),
        named "minWordSizeForTypos" (.object [named "oneTypo" (digit '4'), named "twoTypos" (digit '8')]),
        named "disableOnAttributes" (quotedList [])]),
    named "rankingRules" (quotedList rules),
    named "pagination" (.object [named "maxTotalHits" (digit '9')]),
    named "faceting" (.object
      [named "maxValuesPerFacet" (digit '7'), named "sortFacetValuesBy" (.object [])])]

def tidyDocument : SyntaxTree := .object (writtenMembers ["quest", "saga"] ["words", "a:b:desc"])

def untidyDocument : SyntaxTree :=
  .object (writtenMembers ["saga", "quest", "saga"] ["words", "a:b:DESC"]).reverse

theorem alike_untidyDocument : Settings.Alike .settings tidyDocument untidyDocument := by
  -- One change after the other: the words, the direction, and at last the order of the members.
  have hset : Settings.Alike .set (quotedList ["quest", "saga"])
      (quotedList ["saga", "quest", "saga"]) := by
    apply Settings.Alike.elements
    intro t
    simp only [List.map_cons, List.map_nil, List.mem_cons]
    tauto
  have hsynonyms : Settings.Alike .synonyms (.object [named "rpg" (quotedList ["quest", "saga"])])
      (.object [named "rpg" (quotedList ["saga", "quest", "saga"])]) :=
    @Settings.Alike.member .synonyms "rpg" _ _ [] [] hset
  have hwords : Settings.Alike .settings tidyDocument
      (.object (writtenMembers ["saga", "quest", "saga"] ["words", "a:b:desc"])) :=
    @Settings.Alike.member .settings "synonyms" _ _ ((writtenMembers [] []).take 3)
      ((writtenMembers [] ["words", "a:b:desc"]).drop 4) hsynonyms
  have hrule : Settings.Alike .rule (quoted "a:b:desc") (quoted "a:b:DESC") :=
    @Settings.Alike.direction "a:b" "desc" "DESC" .descending (by decide) (by decide)
  have hlist : Settings.Alike .rules (quotedList ["words", "a:b:desc"])
      (quotedList ["words", "a:b:DESC"]) :=
    @Settings.Alike.item .rules _ _ [quoted "words"] [] hrule
  have hrules : Settings.Alike .settings
      (.object (writtenMembers ["saga", "quest", "saga"] ["words", "a:b:desc"]))
      (.object (writtenMembers ["saga", "quest", "saga"] ["words", "a:b:DESC"])) :=
    @Settings.Alike.member .settings "rankingRules" _ _
      ((writtenMembers ["saga", "quest", "saga"] []).take 6) ((writtenMembers [] []).drop 7) hlist
  have hnames : ((writtenMembers ["saga", "quest", "saga"] ["words", "a:b:DESC"]).map (·.1)).Nodup := by
    decide
  exact (hwords.trans hrules).trans (.of_perm (List.reverse_perm _).symm hnames)

def rerankedDocument : SyntaxTree := .object (writtenMembers ["quest", "saga"] ["a:b:desc", "words"])

theorem permuted_rerankedDocument :
    Settings.Permuted "rankingRules" tidyDocument rerankedDocument :=
  @Settings.Permuted.member "rankingRules" ((writtenMembers ["quest", "saga"] []).take 6)
    ((writtenMembers [] []).drop 7) _ _ (by decide) (List.Perm.swap _ _ [])

def readSettings : Settings where
  filterable := .ofList ["genre"]
  sortable := ∅
  searchable := ["title", "about"]
  synonyms := .ofList [("rpg", .ofList ["quest", "saga"])]
  stopWords := .ofList ["of"]
  typos := ⟨true, 4, 8, ∅⟩
  ranking := [.builtin .words, .byAttribute "a:b" .descending]
  maxTotalHits := 9
  maxFacetValues := 7
  facetOrders := ∅

def readRun : List (Operation Memory) :=
  [.register { Variant.plain "v1" with settings := readSettings }, .apply "v1"]

theorem reregistration_decided_for_untidyDocument :
    Settings.ofTree? tidyDocument = some readSettings ∧
      (∃ settings, Settings.ofTree? untidyDocument = some settings ∧ settings = readSettings ∧
        settings.toJson.toText = readSettings.toJson.toText) ∧
      ((start (Memory.fresh 1)).run readRun).registry.state? "v1" = some .configured ∧
      (((start (Memory.fresh 1)).run readRun).register
          { Variant.plain "v1" with settings := readSettings }).registry =
        ((start (Memory.fresh 1)).run readRun).registry ∧
      ∃ settings, Settings.ofTree? rerankedDocument = some settings ∧
        (((start (Memory.fresh 1)).run readRun).register
            { Variant.plain "v1" with settings }).registry.find? "v1" =
          some ⟨{ Variant.plain "v1" with settings }, .unconfigured⟩ := by
  have hread : Settings.ofTree? tidyDocument = some readSettings := by decide +kernel
  have hv : ((start (Memory.fresh 1)).run readRun).registry.variant? "v1" =
      some { Variant.plain "v1" with settings := readSettings } := by decide +kernel
  have hne : rerankedDocument ≠ tidyDocument := by
    intro heq
    have hsettings := congrArg Settings.ofTree? heq
    revert hsettings
    decide +kernel
  obtain ⟨halike, hpermuted, hregister⟩ := @reregistration_decided Memory _ _ _ hread
  obtain ⟨hkept, hreset⟩ := hregister (Memory.fresh 1) readRun
    { Variant.plain "v1" with settings := readSettings } rfl hv
  obtain ⟨settings, hsettings, rfl, htext⟩ := halike untidyDocument alike_untidyDocument
  obtain ⟨reranked, hreranked, -⟩ :=
    hpermuted tidyDocument rerankedDocument .refl permuted_rerankedDocument
  refine ⟨hread, ⟨_, hsettings, rfl, htext⟩, by decide +kernel, ?_, reranked, hreranked, ?_⟩
  · exact hkept untidyDocument _ alike_untidyDocument hsettings
  · exact hreset tidyDocument rerankedDocument reranked .refl permuted_rerankedDocument hne hreranked

end Service

end VariantSearch
