import VariantSearch.Proofs.Paging
import VariantSearch.Proofs.RouteChoice
import VariantSearch.Proofs.Tallies
import VariantSearch.Proofs.VariantPage

/-!
The two paths under which a variant is searched.
-/

namespace VariantSearch.Router

variable {registry : Registry} {chains : Chains} {metrics : Bool} {r : Router}

def isLiteral (c : Char) : Bool := c != ':' && c != '*'

def literalPart (text : List Char) : List Char := text.takeWhile isLiteral

/-- Every path that fits a route starts with its literal part. -/
theorem literalPart_prefix_of_fits {text : String} {pattern : Pattern} {path : List Char}
    (hparse : Pattern.parse text = .ok pattern) (hfits : Fits pattern path) :
    literalPart text.toList <+: path := by
  have hliteral {c : Char} (hc : c ∈ literalPart text.toList) : isLiteral c = true :=
    List.mem_takeWhile_imp hc
  have hcolon : ':' ∉ literalPart text.toList := fun hmem => absurd (hliteral hmem) (by decide)
  have hstar : '*' ∉ literalPart text.toList := fun hmem => absurd (hliteral hmem) (by decide)
  have hsplit : text.toList = literalPart text.toList ++ text.toList.dropWhile isLiteral :=
    List.takeWhile_append_dropWhile.symm
  rw [Pattern.parse, hsplit] at hparse
  obtain ⟨left, rfl⟩ := readMarks_append_eq_ok hcolon hstar hparse
  obtain ⟨rest, rfl, -⟩ := hfits.of_append
  exact List.prefix_append _ _

theorem not_fits_parameter_nil {left : Pattern} : ¬ Fits (.parameter :: left) [] := by
  intro h
  generalize hpath : ([] : List Char) = path at h
  cases h with
  | parameter hne _ _ => exact hne (List.append_eq_nil_iff.1 hpath.symm).1

/-- A path that starts like the one of a variant leads to the search of some registered name, if it
leads anywhere. -/
theorem exists_name_of_find? (hr : make registry chains metrics = .ok r) {rest captured : List Char}
    {page : Page} (h : r.find? (namedPrefix ++ rest) = some (page, captured)) :
    ∃ name ∈ registry.names, page = .searchNamed name ∧
      ∃ pattern, Pattern.parse (namedRoute name).1 = .ok pattern ∧
        Fits pattern (namedPrefix ++ rest) := by
  obtain ⟨route, hroute, rfl, pattern, hparse, hfits⟩ := exists_route_of_find? hr h
  have hliteral := literalPart_prefix_of_fits hparse hfits
  -- The first eight characters tell the routes of names from all others.
  have hstart : (literalPart route.1.toList).take 8 <+: namedPrefix := by
    refine List.prefix_of_prefix_length_le ((List.take_prefix 8 _).trans hliteral)
      (List.prefix_append _ _) ?_
    have height : namedPrefix.length = 8 := by decide
    rw [height]
    exact List.length_take_le 8 _
  have hfixed : ∀ other ∈ fixedRoutes, ¬ (literalPart other.1.toList).take 8 <+: namedPrefix := by
    decide
  have hmetrics : ¬ (literalPart "/metrics".toList).take 8 <+: namedPrefix := by decide
  rcases mem_routeTexts hroute with hroute | ⟨name, hname, rfl⟩ | rfl
  · exact absurd hstart (hfixed route hroute)
  · exact ⟨name, hname, rfl, pattern, hparse, hfits⟩
  · exact absurd hstart hmetrics

/-- The path of searches does not fit their route without a name, since no parameter is empty. -/
theorem not_fits_search {pattern : Pattern} (hparse : Pattern.parse "/search/:config" = .ok pattern) :
    ¬ Fits pattern searchPrefix := by
  have hpattern : Pattern.parse "/search/:config" =
      .ok (searchPrefix.map .char ++ [.parameter]) := by decide
  rw [hpattern] at hparse
  cases hparse
  intro hfits
  obtain ⟨rest, hrest, hparameter⟩ := hfits.of_append
  obtain rfl : rest = [] := List.append_cancel_left (hrest.symm.trans (List.append_nil _).symm)
  exact not_fits_parameter_nil hparameter

/-- The path of searches leads nowhere without a name. -/
theorem find?_search_nil (hr : make registry chains metrics = .ok r) : r.find? searchPrefix = none := by
  cases hfound : r.find? searchPrefix with
  | none => rfl
  | some found =>
    exfalso
    obtain ⟨page, captured⟩ := found
    obtain ⟨route, hroute, rfl, pattern, hparse, hfits⟩ := exists_route_of_find? hr hfound
    have hliteral := literalPart_prefix_of_fits hparse hfits
    -- No other route has a literal part that this path starts with.
    have hothers : ∀ other ∈ fixedRoutes, other ≠ ("/search/:config", .search) →
        ¬ literalPart other.1.toList <+: searchPrefix := by decide
    have hmetrics : ¬ literalPart "/metrics".toList <+: searchPrefix := by decide
    rcases mem_routeTexts hroute with hroute | ⟨name, -, rfl⟩ | rfl
    · by_cases hsearch : route = ("/search/:config", .search)
      · subst hsearch
        exact not_fits_search hparse hfits
      · exact hothers route hroute hsearch hliteral
    · have hnamed : ¬ namedPrefix <+: searchPrefix := by decide
      have hstart : literalPart (namedPrefix ++ name.toList) =
          namedPrefix ++ literalPart name.toList :=
        List.takeWhile_append_of_pos (List.all_eq_true.1 (by decide))
      rw [toList_namedRoute, hstart] at hliteral
      exact hnamed ((List.prefix_append _ _).trans hliteral)
    · exact hmetrics hliteral

section Pages

variable {σ : Type} [SearchEngine σ] {name other : String} {s : Service σ}

theorem handle_of_none {path : List Char} (h : r.find? path = none) (query : Option (List Char))
    (s : Service σ) : r.handle "GET" ⟨path, query⟩ s = (.blank 404, s) := by
  simp only [handle, h]
  rfl

theorem handle_of_searchNamed {path captured : List Char}
    (h : r.find? path = some (.searchNamed name, captured)) (query : Option (List Char))
    (s : Service σ) : r.handle "GET" ⟨path, query⟩ s = r.search name query s := by
  simp only [handle, h, visit, if_true]

/-- A name that is written as a segment is searched for, however much of it is escaped. -/
theorem handle_search_of_written (hr : make registry chains metrics = .ok r) {keep : Char → Bool}
    (hkeep : Web.FitsSegment keep) (hne : name ≠ "") (query : Option (List Char)) (s : Service σ) :
    r.handle "GET" ⟨searchPrefix ++ Web.Percent.encode keep name.toList, query⟩ s =
      r.search name query s := by
  obtain ⟨hnil, hslash, hname⟩ := segment_of_name hkeep hne
  simp only [handle, find?_search hr hnil hslash, visit, hname, if_true]

/-- Every search is answered with a document, also one that is refused. -/
theorem search_ne_blank (r : Router) (name : String) (query : Option (List Char)) (s : Service σ) :
    (r.search name query s).1 ≠ .blank 404 := by
  have htype : (r.search name query s).1.contentType = some "application/json" := by
    cases hread : SearchParameters.ofQuery (query.getD []) with
    | error f => simp only [search, hread]; rfl
    | ok p =>
      rw [search_of_readable hread]
      cases (Service.search name p { s with chains := r.chains }).1 <;> rfl
  intro hblank
  rw [hblank] at htype
  cases htype

/-- A search without parameters for a registered name is built and counted under the name. -/
theorem exists_searches_eq (r : Router) (h : name ∈ s.registry.names) :
    ∃ outcome ∈ outcomeLabels, (r.search name none s).2.metrics.searches =
      s.metrics.searches.increment [name, outcome] := by
  let t : Service σ := { s with chains := r.chains }
  have hread : SearchParameters.ofQuery ((none : Option (List Char)).getD []) = .ok .standard := rfl
  obtain ⟨v, hv⟩ := (s.registry.mem_names_iff name).1 h
  have hsort : SortClause.ofParameter v SearchParameters.standard.sort = .ok none := rfl
  have hbuild := SearchRequest.build_eq_ok t.chains hv hsort (by decide) (by decide) (by decide)
  rw [search_of_readable hread]
  cases hindex : t.registry.appliedIndex? name with
  | none =>
    rw [Service.search_of_none hbuild hindex]
    exact ⟨_, outcomeLabel_mem (.error (Service.notApplied name) : Except _ Json), rfl⟩
  | some indexUid =>
    rw [Service.search_of_some hbuild hindex]
    exact ⟨_, outcomeLabel_mem _, rfl⟩

/-- Some outcomes of searches for the two names are counted in one sample. -/
def SharesSample (name other : String) : Prop :=
  ∃ outcome ∈ outcomeLabels, ∃ outcome' ∈ outcomeLabels,
    labelHash [other, outcome'] = labelHash [name, outcome]

instance (name other : String) : Decidable (SharesSample name other) :=
  inferInstanceAs (Decidable (∃ outcome ∈ outcomeLabels, ∃ outcome' ∈ outcomeLabels, _))

/-- Searches for two registered names are told apart by the counters at the latest. -/
theorem search_ne_of_unshared (r : Router) (hshared : ¬ SharesSample name other)
    (hname : name ∈ s.registry.names) (hother : other ∈ s.registry.names) :
    r.search name none s ≠ r.search other none s := by
  intro heq
  obtain ⟨outcome, houtcome, hsearches⟩ := exists_searches_eq r hname
  obtain ⟨outcome', houtcome', hsearches'⟩ := exists_searches_eq r hother
  rw [heq, hsearches'] at hsearches
  have hcount := congrArg (SampleFamily.count · [name, outcome]) hsearches
  rw [SampleFamily.count_increment, SampleFamily.count_increment, if_pos rfl] at hcount
  have hhash : labelHash [other, outcome'] = labelHash [name, outcome] := by
    by_contra hne
    rw [if_neg hne] at hcount
    omega
  exact hshared ⟨outcome, houtcome, outcome', houtcome', hhash⟩

/-- The path that a variant has for itself, with its name written by a writer of addresses. -/
def namedTarget (keep : Char → Bool) (name : String) (query : Option (List Char)) : Web.Target :=
  ⟨namedPrefix ++ Web.Percent.encode keep name.toList, query⟩

def searchTarget (keep : Char → Bool) (name : String) (query : Option (List Char)) : Web.Target :=
  ⟨searchPrefix ++ Web.Percent.encode keep name.toList, query⟩

/-- A name that is written without escapes is searched for under both of its paths. -/
theorem handle_named_of_kept (hr : make registry chains metrics = .ok r) {keep : Char → Bool}
    (hkeep : Web.FitsSegment keep) (hname : name ∈ registry.names) (hplain : IsPlain name)
    (hne : name ≠ "") (hkept : ∀ c ∈ name.toList, keep c = true) (query : Option (List Char))
    (s : Service σ) :
    r.handle "GET" (namedTarget keep name query) s =
      r.handle "GET" (searchTarget keep name query) s := by
  have hnamed := find?_named hr hname hplain
  rw [searchTarget, handle_search_of_written hr hkeep hne, namedTarget,
    Web.Percent.encode_of_kept hkept, handle_of_searchNamed hnamed]

/-- If the two paths of a name are answered in the same way and its searches are counted apart, the
name is not empty and is written without escapes. -/
theorem kept_of_handle_eq (hr : make registry chains metrics = .ok r) {keep : Char → Bool}
    (hkeep : Web.FitsSegment keep) (hname : name ∈ registry.names) (hplain : IsPlain name)
    (hlater : ∀ other ∈ registry.names, other ∈ s.registry.names)
    (hapart : ∀ other ∈ registry.names, SharesSample other name → other = name)
    (heq : r.handle "GET" (namedTarget keep name none) s =
      r.handle "GET" (searchTarget keep name none) s) :
    name ≠ "" ∧ ∀ c ∈ name.toList, keep c = true := by
  have hblank {a : Answer × Service σ} (ha : a = (.blank 404, s)) : ∀ n, r.search n none s ≠ a := by
    intro n hn
    rw [ha] at hn
    exact search_ne_blank r n none s (congrArg Prod.fst hn)
  by_cases hne : name = ""
  · -- The last segment of the other path is empty, and that path leads nowhere.
    subst hne
    exfalso
    have hnamed := find?_named hr hname hplain
    have hnone : r.find? (searchPrefix ++ Web.Percent.encode keep "".toList) = none :=
      find?_search_nil hr
    have hhandled := handle_of_searchNamed hnamed none s
    rw [searchTarget, handle_of_none hnone] at heq
    exact hblank rfl "" (hhandled.symm.trans heq)
  refine ⟨hne, Web.Percent.encode_eq_self_iff.1 ?_⟩
  rw [searchTarget, handle_search_of_written hr hkeep hne, namedTarget] at heq
  cases hfound : r.find? (namedPrefix ++ Web.Percent.encode keep name.toList) with
  | none => exact absurd heq.symm (hblank (handle_of_none hfound none s) name)
  | some found =>
    obtain ⟨page, captured⟩ := found
    obtain ⟨other, hother, rfl, pattern, hparse, hfits⟩ := exists_name_of_find? hr hfound
    rw [handle_of_searchNamed hfound] at heq
    by_cases hsame : other = name
    · -- The route of the name fits nothing but its own text.
      subst hsame
      rw [parse_of_isPlain (isPlain_namedRoute hplain)] at hparse
      cases hparse
      have htext := hfits.eq_of_literal
      rw [toList_namedRoute] at htext
      exact List.append_cancel_left htext
    · have hshared : ¬ SharesSample other name := fun h => hsame (hapart other hother h)
      exact absurd heq (search_ne_of_unshared r hshared (hlater other hother) (hlater name hname))

/-- A router can be made if no name has the marks of parameters and tails. Whatever router was made,
and however addresses are written, a registered name without these marks is searched for in the same
way under both of its paths if it is not empty and is written without escapes; and only then, unless
the counters do not tell it from another name. -/
theorem search_paths_agree_iff (registry : Registry) (chains : Chains) (metrics : Bool) :
    ((∀ name ∈ registry.names, IsPlain name) → ∃ r, make registry chains metrics = .ok r) ∧
      ∀ r, make registry chains metrics = .ok r → ∀ keep, Web.FitsSegment keep →
        ∀ name ∈ registry.names, IsPlain name →
          ∀ s : Service σ, (∀ other ∈ registry.names, other ∈ s.registry.names) →
            (name ≠ "" → (∀ c ∈ name.toList, keep c = true) →
              ∀ query, r.handle "GET" (namedTarget keep name query) s =
                r.handle "GET" (searchTarget keep name query) s) ∧
            ((∀ other ∈ registry.names, SharesSample other name → other = name) →
              ((∀ query, r.handle "GET" (namedTarget keep name query) s =
                  r.handle "GET" (searchTarget keep name query) s) ↔
                name ≠ "" ∧ ∀ c ∈ name.toList, keep c = true)) := by
  refine ⟨fun hplain => exists_make hplain chains metrics, ?_⟩
  intro r hr keep hkeep name hname hplain s hlater
  have hagree (hne : name ≠ "") (hkept : ∀ c ∈ name.toList, keep c = true)
      (query : Option (List Char)) :
      r.handle "GET" (namedTarget keep name query) s =
        r.handle "GET" (searchTarget keep name query) s :=
    handle_named_of_kept hr hkeep hname hplain hne hkept query s
  refine ⟨hagree, fun hapart => ⟨?_, ?_⟩⟩
  · intro hsame
    exact kept_of_handle_eq hr hkeep hname hplain hlater hapart (hsame none)
  · rintro ⟨hne, hkept⟩
    exact hagree hne hkept

end Pages

def spacedService : Service Memory :=
  ((Service.start (Memory.fresh 1)).register (.plain "v1")).register (.plain "a b")

theorem names_spacedService : spacedService.registry.names = ["a b", "v1"] := by decide +kernel

theorem isPlain_of_mem_spacedService : ∀ name ∈ spacedService.registry.names, IsPlain name := by
  rw [names_spacedService]
  unfold IsPlain
  decide

theorem search_paths_agree_iff_for_spacedService :
    ∃ r, make spacedService.registry .empty true = .ok r ∧
      (∀ query, r.handle "GET" (namedTarget Web.Target.isUnreserved "v1" query) spacedService =
        r.handle "GET" (searchTarget Web.Target.isUnreserved "v1" query) spacedService) ∧
      ¬ ∀ query, r.handle "GET" (namedTarget Web.Target.isUnreserved "a b" query) spacedService =
        r.handle "GET" (searchTarget Web.Target.isUnreserved "a b" query) spacedService := by
  have hplain := isPlain_of_mem_spacedService
  have hv1 : "v1" ∈ spacedService.registry.names := by
    rw [names_spacedService]
    decide
  have hspaced : "a b" ∈ spacedService.registry.names := by
    rw [names_spacedService]
    decide
  have hapart : ∀ other ∈ spacedService.registry.names, SharesSample other "a b" → other = "a b" := by
    rw [names_spacedService]
    decide +kernel
  obtain ⟨hmake, hagree⟩ :=
    search_paths_agree_iff (σ := Memory) spacedService.registry .empty true
  obtain ⟨r, hr⟩ := hmake hplain
  have hfits := Web.Target.fitsSegment_isUnreserved
  refine ⟨r, hr, ?_, ?_⟩
  · exact (hagree r hr _ hfits "v1" hv1 (hplain _ hv1) spacedService fun _ h => h).1
      (by decide) (List.all_eq_true.1 (by decide))
  · intro hsame
    obtain ⟨-, hiff⟩ :=
      hagree r hr _ hfits "a b" hspaced (hplain _ hspaced) spacedService fun _ h => h
    have hkept := ((hiff hapart).1 hsame).2
    exact absurd (hkept ' ' (by decide)) (by decide)

/-- A name that is an asterisk leaves no router, and a name with a blank is missed by one of its
paths. -/
theorem search_paths_differ :
    make (Registry.empty.register (.plain "*")) .empty true = .error .misplacedTail ∧
      ∃ r, make spacedService.registry .empty true = .ok r ∧
        r.handle "GET" ⟨"/search_a%20b".toList, none⟩ spacedService =
          (.blank 404, spacedService) ∧
        r.handle "GET" ⟨"/search/a%20b".toList, none⟩ spacedService =
          (.ofFailure (Service.notApplied "a b").toService,
            (Service.search "a b" .standard spacedService).2) := by
  refine ⟨?_, ?_⟩
  · have hnames : (Registry.empty.register (.plain "*")).names = ["*"] := by decide +kernel
    rw [make, hnames]
    rfl
  obtain ⟨r, hr⟩ := exists_make isPlain_of_mem_spacedService .empty true
  have hroutes := routes_of_make hr
  rw [names_spacedService] at hroutes
  -- The named path is compared as it is written, and the route has a blank where it has an escape.
  have hnone : r.find? "/search_a%20b".toList = none := by
    rw [find?, hroutes]
    decide +kernel
  have hne : "a b" ≠ "" := by decide
  refine ⟨r, hr, handle_of_none hnone none spacedService, ?_⟩
  have hwritten :=
    handle_search_of_written hr Web.Target.fitsSegment_isUnreserved hne none spacedService
  have hpath : searchPrefix ++ Web.Percent.encode Web.Target.isUnreserved "a b".toList =
      "/search/a%20b".toList := by decide +kernel
  rw [hpath] at hwritten
  rw [hwritten, search_of_readable (p := .standard) rfl, chains_of_make hr]
  rfl

end VariantSearch.Router
