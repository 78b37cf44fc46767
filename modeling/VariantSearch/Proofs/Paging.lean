import VariantSearch.Proofs.Isolation
import VariantSearch.Proofs.RequestChecks
import VariantSearch.Proofs.StoredSettings

namespace VariantSearch

/-- Equal pieces of a list, one after another, are the beginning of the list. -/
theorem flatten_pieces {α : Type} (l : List α) (size count : Nat) :
    ((List.range count).map fun i => (l.drop (i * size)).take size).flatten =
      l.take (count * size) := by
  induction count with
  | zero => simp
  | succ count ih =>
    -- The next piece starts where the pieces so far end.
    have hsplit : l.take ((count + 1) * size) =
        l.take (count * size) ++ (l.drop (count * size)).take size := by
      rw [Nat.add_mul, Nat.one_mul, List.take_add]
    rw [List.range_succ, List.map_append, List.flatten_append, ih, hsplit]
    simp

namespace MemoryIndex

theorem reachable_of_settings {index : MemoryIndex} {settings : Settings}
    (h : index.settings = some settings) :
    index.reachable = min index.documents.length settings.maxTotalHits.toNat := by
  simp only [reachable, h]

/-- The pages of an index are the beginning of what can be reached. -/
theorem flatten_pages (index : MemoryIndex) (limit count : Nat) :
    ((List.range count).map fun i => index.page (i * limit) limit).flatten =
      (index.documents.map (·.2)).take (min (count * limit) index.reachable) := by
  simp only [page]
  rw [flatten_pieces, List.take_take]

theorem hits_answer (index : MemoryIndex) (query : EngineQuery) :
    (index.answer query).member? "hits" = some (.list (index.page query.offset query.limit)) := by
  change (TextMap.ofList _).get? "hits" = _
  simp [TextMap.ofList, TextMap.get?_insert]

theorem total_answer (index : MemoryIndex) (query : EngineQuery) :
    (index.answer query).member? "estimatedTotalHits" = some (.nat index.reachable) := by
  change (TextMap.ofList _).get? "estimatedTotalHits" = _
  simp [TextMap.ofList, TextMap.get?_insert]

end MemoryIndex

namespace Memory

theorem search_of_some {m : Memory} {indexUid : String} {index : MemoryIndex} (query : EngineQuery)
    (hm : m.available = true) (hindex : m.indexes.get? indexUid = some index) :
    (search indexUid query m).1 = .ok (index.answer query) := by
  simp only [search, whenAvailable, hm, ↓reduceIte, hindex]

end Memory

namespace SearchRequest

variable {registry : Registry} {name : String} {v : Variant} {p : SearchParameters}

def ofPage (chains : Chains) (name : String) (p : SearchParameters)
    (sort : Option (List SortClause)) : SearchRequest where
  text := (chains.expand name p.query).text
  offset := ((p.page - 1) * p.limit).toNat
  limit := p.limit.toNat
  filters := Facet.ofParameter p.facets
  sort := sort

/-- The parameters pass the checks if the name is registered, the sort clauses are taken, and the hits
before the page can be counted. -/
theorem build_eq_ok (chains : Chains) {sort : Option (List SortClause)} (hv : registry.variant? name = some v)
    (hsort : SortClause.ofParameter v p.sort = .ok sort) (hpage : 1 ≤ p.page)
    (hlimit : 1 ≤ p.limit) (hrange : (p.page - 1) * p.limit < UInt64.size) :
    build registry chains name p =
      .ok (ofPage chains name p sort, (chains.expand name p.query).fired) := by
  have hoffset : offsetOf? p.page p.limit = some ((p.page - 1) * p.limit).toNat := by
    rw [offsetOf?_eq hpage hlimit, if_pos hrange]
  rw [build, if_neg (by omega), if_neg (by omega)]
  simp only [hv, hoffset, hsort]
  rfl

end SearchRequest

namespace Service

variable {σ : Type} [SearchEngine σ]

def searchEach (name : String) : List SearchParameters → Service σ → List (Except SearchFailure Json)
  | [], _ => []
  | p :: more, s => (search name p s).1 :: searchEach name more (search name p s).2

def firstPages (p : SearchParameters) (count : Nat) : List SearchParameters :=
  (List.range count).map fun i : Nat => { p with page := (i : Int) + 1 }

theorem sameFor_search {name indexUid : String} (p : SearchParameters) (s : Service Memory) :
    SameFor name indexUid s (search name p s).2 := by
  cases hbuild : SearchRequest.build s.registry s.chains name p with
  | error e =>
    rw [search_of_error hbuild]
    exact SameFor.refl name indexUid s
  | ok built =>
    obtain ⟨request, fired⟩ := built
    rw [search_of_ok hbuild]
    have hcounted : SameFor name indexUid s
        { s with metrics := s.metrics.countFirings name fired } :=
      ⟨rfl, rfl, (Memory.kept_sameAt indexUid).refl s.engine⟩
    exact hcounted.trans (sameFor_execute request)

/-- Searches for a name do not disturb each other, so each is answered as if it were the first. -/
theorem searchEach_eq {name : String} {v : Variant} (ps : List SearchParameters)
    {s t : Service Memory} (hv : s.registry.variant? name = some v)
    (h : SameFor name v.indexUid s t) :
    searchEach name ps t = ps.map fun p => (search name p s).1 := by
  induction ps generalizing t with
  | nil => rfl
  | cons p more ih =>
    have hfirst := answer_of_sameFor h hv rfl p
    have hrest := ih (h.trans (sameFor_search p t))
    rw [searchEach, List.map_cons, hfirst, hrest]

theorem answer_search_of_configured {s : Service Memory} {name : String} {v : Variant}
    {index : MemoryIndex} {p : SearchParameters} {sort : Option (List SortClause)}
    (hv : s.registry.find? name = some ⟨v, .configured⟩) (hm : s.engine.available = true)
    (hindex : s.engine.indexes.get? v.indexUid = some index)
    (hsort : SortClause.ofParameter v p.sort = .ok sort) (hpage : 1 ≤ p.page)
    (hlimit : 1 ≤ p.limit) (hrange : (p.page - 1) * p.limit < UInt64.size) :
    (search name p s).1 =
      .ok (index.answer (SearchRequest.ofPage s.chains name p sort).toQuery) := by
  have hvariant : s.registry.variant? name = some v := by
    rw [Registry.variant?, hv]
    rfl
  have happlied : s.registry.appliedIndex? name = some v.indexUid := by
    simp only [Registry.appliedIndex?, hv]
  have hbuild := SearchRequest.build_eq_ok s.chains hvariant hsort hpage hlimit hrange
  rw [search_of_some hbuild happlied]
  exact Memory.search_of_some _ hm hindex

/-- Page after page of a search for a configured name gives the documents of its index from the first
one on, up to the number of hits that its settings allow, and every page reports how many these
are. -/
theorem pages_tile (capacity : Nat) (ops : List (Operation Memory))
    (hops : ∀ op ∈ ops, op.OnlyOutages) (s : Service Memory)
    (hs : s = (start (Memory.fresh capacity)).run ops) (hm : s.engine.available = true)
    (name : String) (v : Variant) (hv : s.registry.find? name = some ⟨v, .configured⟩)
    (p : SearchParameters) (sort : Option (List SortClause))
    (hsort : SortClause.ofParameter v p.sort = .ok sort) (hlimit : 1 ≤ p.limit) (count : Nat)
    (hrange : ((count : Int) - 1) * p.limit < UInt64.size) :
    ∃ (index : MemoryIndex) (settings : Settings) (answers : List Json) (pages : List (List Json)),
      s.engine.indexes.get? v.indexUid = some index ∧ index.settings = some settings ∧
        searchEach name (firstPages p count) s = answers.map .ok ∧
        answers.map (Json.member? "hits") = pages.map (fun hits => some (.list hits)) ∧
        pages.flatten = (index.documents.map (·.2)).take
          (min (count * p.limit.toNat)
            (min index.documents.length settings.maxTotalHits.toNat)) ∧
        ∀ answer ∈ answers, answer.member? "estimatedTotalHits" =
          some (.nat (min index.documents.length settings.maxTotalHits.toNat)) := by
  subst hs
  obtain ⟨settings, hsettings⟩ := hasSettings_of_configured capacity ops hops hv
  obtain ⟨index, hindex, hstored⟩ := (Memory.settings?_eq_some_iff _ _ _).1 hsettings
  generalize (start (Memory.fresh capacity)).run ops = s at *
  let answerTo (q : SearchParameters) : Json :=
    index.answer (SearchRequest.ofPage s.chains name q sort).toQuery
  have hvariant : s.registry.variant? name = some v := by
    rw [Registry.variant?, hv]
    rfl
  refine ⟨index, settings, (firstPages p count).map answerTo,
    (List.range count).map fun i => index.page (i * p.limit.toNat) p.limit.toNat,
    hindex, hstored, ?_, ?_, ?_, ?_⟩
  · -- Each page is answered as if it were the only one that is asked for.
    rw [searchEach_eq _ hvariant (SameFor.refl name v.indexUid s), List.map_map]
    refine List.map_congr_left fun q hq => ?_
    obtain ⟨i, hi, rfl⟩ := List.mem_map.1 hq
    have hlt : i < count := List.mem_range.1 hi
    -- No page has more hits before it than the last one.
    have hbefore : ((i : Int) + 1 - 1) * p.limit ≤ ((count : Int) - 1) * p.limit :=
      Int.mul_le_mul_of_nonneg_right (by omega) (by omega)
    have hpage : (1 : Int) ≤ (i : Int) + 1 := by omega
    exact answer_search_of_configured hv hm hindex hsort hpage hlimit
      (Int.lt_of_le_of_lt hbefore hrange)
  · simp only [firstPages, List.map_map]
    refine List.map_congr_left fun i _ => ?_
    have hoffset : (((i : Int) + 1 - 1) * p.limit).toNat = i * p.limit.toNat := by
      rw [Int.add_sub_cancel, Int.toNat_mul (Int.natCast_nonneg i) (by omega), Int.toNat_natCast]
    simp only [Function.comp, answerTo, MemoryIndex.hits_answer, SearchRequest.toQuery,
      SearchRequest.ofPage, hoffset]
  · rw [index.flatten_pages, MemoryIndex.reachable_of_settings hstored]
  · intro answer hanswer
    obtain ⟨q, -, rfl⟩ := List.mem_map.1 hanswer
    rw [MemoryIndex.total_answer, MemoryIndex.reachable_of_settings hstored]

def shortVariant : Variant := { Variant.plain "v1" with settings.maxTotalHits := 3 }

def fillingRun : List (Operation Memory) :=
  [.register shortVariant, .incident fun m => m.setAvailable false, .applyAll,
    .incident fun m => m.setAvailable true, .applyAll,
    .seed ([1, 2, 3, 4].map fun n => .ofMembers [("id", .nat n)]) 3]

theorem pages_tile_after_fillingRun :
    ∃ (index : MemoryIndex) (settings : Settings) (answers : List Json) (pages : List (List Json)),
      ((start (Memory.fresh 1)).run fillingRun).engine.indexes.get? "idx_v1" = some index ∧
        index.settings = some settings ∧
        searchEach "v1" (firstPages { SearchParameters.standard with limit := 2 } 2)
          ((start (Memory.fresh 1)).run fillingRun) = answers.map .ok ∧
        answers.map (Json.member? "hits") = pages.map (fun hits => some (.list hits)) ∧
        pages.flatten = (index.documents.map (·.2)).take
          (min (2 * 2) (min index.documents.length settings.maxTotalHits.toNat)) := by
  have hops : ∀ op ∈ fillingRun, op.OnlyOutages := by simp [fillingRun, Operation.OnlyOutages]
  have hm : ((start (Memory.fresh 1)).run fillingRun).engine.available = true := by decide +kernel
  have hv : ((start (Memory.fresh 1)).run fillingRun).registry.find? "v1" =
      some ⟨shortVariant, .configured⟩ := by decide +kernel
  obtain ⟨index, settings, answers, pages, hindex, hsettings, hanswers, hhits, htiles, -⟩ :=
    pages_tile 1 fillingRun hops _ rfl hm "v1" shortVariant hv
      { SearchParameters.standard with limit := 2 } none rfl (by decide) 2 (by decide)
  exact ⟨index, settings, answers, pages, hindex, hsettings, hanswers, hhits, htiles⟩

end Service

end VariantSearch
