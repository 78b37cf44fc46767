import VariantSearch.Proofs.Searching
import VariantSearch.Proofs.SortParameter

namespace VariantSearch

section Words

variable {page limit : Int64}

/-- A positive number is the same number in a word without sign. -/
theorem toNat_toUInt64_of_pos {n : Int64} (h : 1 ≤ n.toInt) :
    (n.toUInt64.toNat : Int) = n.toInt := by
  have hword : n.toUInt64.toNat = n.toBitVec.toNat := rfl
  have hlt := n.toBitVec.isLt
  rw [hword]
  rw [Int64.toInt, BitVec.toInt_eq_toNat_cond] at h ⊢
  split_ifs at h ⊢
  · rfl
  · omega

theorem toNat_sub_one_of_pos (h : 1 ≤ page.toInt) :
    ((page.toUInt64 - 1).toNat : Int) = page.toInt - 1 := by
  have hpage := toNat_toUInt64_of_pos h
  have hle : 1 ≤ page.toUInt64 := by
    rw [UInt64.le_iff_toNat_le, UInt64.toNat_one]
    omega
  rw [UInt64.toNat_sub_of_le _ _ hle, UInt64.toNat_one]
  omega

/-- Words come to the number of hits before a page if it fits into a word. -/
theorem toNat_hitsBefore (hpage : 1 ≤ page.toInt) (hlimit : 1 ≤ limit.toInt)
    (hrange : (page.toInt - 1) * limit.toInt < UInt64.size) :
    (((page.toUInt64 - 1) * limit.toUInt64).toNat : Int) = (page.toInt - 1) * limit.toInt := by
  have hbefore := toNat_sub_one_of_pos hpage
  have hhits := toNat_toUInt64_of_pos hlimit
  rw [← hbefore, ← hhits] at hrange ⊢
  have hlt : (page.toUInt64 - 1).toNat * limit.toUInt64.toNat < 2 ^ 64 := by exact_mod_cast hrange
  rw [UInt64.toNat_mul, Nat.mod_eq_of_lt hlt, Int.natCast_mul]

end Words

namespace SearchRequest

open SortClause Text

def SortTaken (v : Variant) (sort : Option String) : Prop :=
  ∀ raw segments, sort = some raw → IsSplit ',' raw.toList segments →
    ∀ segment ∈ marked segments, ∃ c, SortClause.IsWritten v segment c

/-- The parameters of a search for a name, which is the name of a variant, meet all conditions. -/
structure Accepted (registry : Registry) (name : String) (p : SearchParameters) (v : Variant) : Prop
    extends ReachesSort registry name p v where
  sort : SortTaken v p.sort

/-- The failure of the first condition that the parameters of a search for a name do not meet. -/
inductive Refused (registry : Registry) (name : String) (p : SearchParameters) :
    SearchFailure → Prop where
  | page (h : p.page < 1) : Refused registry name p (RequestFault.page p.page).toFailure
  | limit (hpage : 1 ≤ p.page) (h : p.limit < 1) :
      Refused registry name p (RequestFault.limit p.limit).toFailure
  | name (hpage : 1 ≤ p.page) (hlimit : 1 ≤ p.limit) (h : registry.variant? name = none) :
      Refused registry name p (unknownVariant name)
  | range {v : Variant} (hpage : 1 ≤ p.page) (hlimit : 1 ≤ p.limit)
      (hname : registry.variant? name = some v) (h : UInt64.size ≤ (p.page - 1) * p.limit) :
      Refused registry name p (RequestFault.range p.page p.limit).toFailure
  | sort {v : Variant} {raw : String} {segments before after : List (List Char)}
      {segment : List Char} {f : RequestFault} (hreaches : ReachesSort registry name p v)
      (hsort : p.sort = some raw) (hsegments : IsSplit ',' raw.toList segments)
      (hmarked : marked segments = before ++ segment :: after)
      (hbefore : ∀ s ∈ before, ∃ c, SortClause.IsWritten v s c) (h : Broken v segment f) :
      Refused registry name p f.toFailure

variable {registry : Registry} {chains : Chains} {name : String} {v : Variant} {p : SearchParameters}

theorem exists_ofParameter_iff_sortTaken {sort : Option String} :
    (∃ clauses, ofParameter v sort = .ok clauses) ↔ SortTaken v sort := by
  cases sort with
  | none =>
    refine iff_of_true ⟨none, rfl⟩ ?_
    rintro raw segments ⟨⟩
  | some raw =>
    have hsplit : IsSplit ',' raw.toList (pieces ',' raw.toList) := isSplit_iff.2 rfl
    rw [exists_ofParameter_iff hsplit]
    constructor
    · intro h raw' segments hraw hsegments
      obtain rfl := Option.some.inj hraw
      rwa [isSplit_iff.1 hsegments]
    · intro h
      exact h raw _ rfl hsplit

theorem build_of_refused {e : SearchFailure} (h : Refused registry name p e) :
    build registry chains name p = .error e := by
  cases h with
  | page h => rw [build, if_pos h]
  | limit hpage h => rw [build, if_neg (Int.not_lt.2 hpage), if_pos h]
  | name hpage hlimit h =>
    rw [build, if_neg (Int.not_lt.2 hpage), if_neg (Int.not_lt.2 hlimit), h]
  | range hpage hlimit hname h =>
    rewrite [build, if_neg (Int.not_lt.2 hpage), if_neg (Int.not_lt.2 hlimit), hname,
      offsetOf?_eq hpage hlimit, if_neg (Int.not_lt.2 h)]
    rfl
  | sort hreaches hsort hsegments hmarked hbefore h =>
    refine hreaches.build_eq_error_iff.2 ⟨_, ?_, rfl⟩
    rw [hsort]
    exact (ofParameter_eq_error_iff_first hsegments).2 ⟨_, _, _, hmarked, hbefore, h⟩

theorem build_of_accepted (chains : Chains) (h : Accepted registry name p v) :
    ∃ sort, SortClause.ofParameter v p.sort = .ok sort ∧
      build registry chains name p =
        .ok (⟨(chains.expand name p.query).text, ((p.page - 1) * p.limit).toNat, p.limit.toNat,
          Facet.ofParameter p.facets, sort⟩, (chains.expand name p.query).fired) := by
  obtain ⟨sort, hsort⟩ := exists_ofParameter_iff_sortTaken.2 h.sort
  refine ⟨sort, hsort, ?_⟩
  rw [h.build_eq, hsort]

/-- If the conditions are gone through in their order, all are met or there is a first one that is
not. -/
theorem accepted_or_refused (registry : Registry) (name : String) (p : SearchParameters) :
    (∃ v, Accepted registry name p v) ∨ ∃ e, Refused registry name p e := by
  by_cases hpage : p.page < 1
  · exact Or.inr ⟨_, .page hpage⟩
  by_cases hlimit : p.limit < 1
  · exact Or.inr ⟨_, .limit (Int.not_lt.1 hpage) hlimit⟩
  rw [Int.not_lt] at hpage hlimit
  cases hname : registry.variant? name with
  | none => exact Or.inr ⟨_, .name hpage hlimit hname⟩
  | some v =>
    by_cases hrange : (p.page - 1) * p.limit < UInt64.size
    · have hreaches : ReachesSort registry name p v := ⟨hname, hpage, hlimit, hrange⟩
      cases hread : SortClause.ofParameter v p.sort with
      | ok sort =>
        exact Or.inl ⟨v, hreaches, exists_ofParameter_iff_sortTaken.1 ⟨sort, hread⟩⟩
      | error f =>
        -- Only a parameter that is there can be refused.
        cases hsort : p.sort with
        | none =>
          rw [hsort] at hread
          cases hread
        | some raw =>
          have hsplit : IsSplit ',' raw.toList (pieces ',' raw.toList) := isSplit_iff.2 rfl
          rw [hsort, ofParameter_eq_error_iff_first hsplit] at hread
          obtain ⟨before, segment, after, hmarked, hbefore, hbroken⟩ := hread
          exact Or.inr ⟨_, .sort hreaches hsort hsplit hmarked hbefore hbroken⟩
    · exact Or.inr ⟨_, .range hpage hlimit hname (Int.not_lt.1 hrange)⟩

theorem build_eq_error_iff_refused {e : SearchFailure} :
    build registry chains name p = .error e ↔ Refused registry name p e := by
  refine ⟨fun h => ?_, build_of_refused⟩
  rcases accepted_or_refused registry name p with ⟨v, hv⟩ | ⟨e', he'⟩
  · obtain ⟨sort, -, hbuild⟩ := build_of_accepted chains hv
    rw [hbuild] at h
    cases h
  · have hbuild : build registry chains name p = .error e' := build_of_refused he'
    rw [h] at hbuild
    cases hbuild
    exact he'

theorem exists_build_iff_accepted (chains : Chains) :
    (∃ built, build registry chains name p = .ok built) ↔ ∃ v, Accepted registry name p v := by
  constructor
  · rintro ⟨built, hbuild⟩
    rcases accepted_or_refused registry name p with hv | ⟨e, he⟩
    · exact hv
    · rw [build_of_refused he] at hbuild
      cases hbuild
  · rintro ⟨v, hv⟩
    obtain ⟨sort, -, hbuild⟩ := build_of_accepted chains hv
    exact ⟨_, hbuild⟩

end SearchRequest

namespace Service

open SearchRequest

variable {σ : Type} {s : Service σ} {name : String} {p : SearchParameters}

theorem fst_build_eq_error_iff {e : SearchFailure} :
    (build name p s).1 = .error e ↔
      SearchRequest.build s.registry s.chains name p = .error e := by
  cases hbuild : SearchRequest.build s.registry s.chains name p with
  | error e' => rw [build_of_error hbuild, Except.error.injEq, Except.error.injEq]
  | ok built => rw [build_of_ok hbuild]; simp

theorem fst_build_eq_ok_iff {request : SearchRequest} :
    (build name p s).1 = .ok request ↔
      ∃ fired, SearchRequest.build s.registry s.chains name p = .ok (request, fired) := by
  cases hbuild : SearchRequest.build s.registry s.chains name p with
  | error e' => rw [build_of_error hbuild]; simp
  | ok built => rw [build_of_ok hbuild]; simp [Prod.ext_iff]

/-- A request is built just if the parameters meet all conditions. Then the number of hits before its
page is the product over all integers, it asks for as many hits as were given, words of 64 bits come to
the same numbers without overflow, and its filters are what is read from the facets. Otherwise it is
refused for the first condition that is not met, and the registry, the engine and all counters are
left as they are. With other facets a request is refused for the same reason or not at all. -/
theorem build_decided (s : Service σ) (name : String) (p : SearchParameters) (page limit : Int64)
    (hpage : p.page = page.toInt) (hlimit : p.limit = limit.toInt) :
    ((∃ request, (build name p s).1 = .ok request) ↔ ∃ v, Accepted s.registry name p v) ∧
      (∀ request, (build name p s).1 = .ok request →
        (request.offset : Int) = (p.page - 1) * p.limit ∧ (request.limit : Int) = p.limit ∧
          request.offset = ((page.toUInt64 - 1) * limit.toUInt64).toNat ∧
          request.limit = limit.toUInt64.toNat ∧ (page.toUInt64 - 1).toNat + 1 = p.page ∧
          request.filters = Facet.ofParameter p.facets) ∧
      (∀ e, (build name p s).1 = .error e ↔ Refused s.registry name p e) ∧
      (∀ e, (build name p s).1 = .error e → (build name p s).2 = s) ∧
      ∀ facets e, (build name { p with facets } s).1 = .error e ↔ (build name p s).1 = .error e := by
  refine ⟨?_, ?_, ?_, ?_, ?_⟩
  · rw [← exists_build_iff_accepted s.chains, Prod.exists]
    simp only [fst_build_eq_ok_iff]
  · intro request hrequest
    obtain ⟨fired, hbuild⟩ := fst_build_eq_ok_iff.1 hrequest
    obtain ⟨v, hv⟩ := (exists_build_iff_accepted s.chains).1 ⟨_, hbuild⟩
    obtain ⟨sort, -, hbuilt⟩ := build_of_accepted s.chains hv
    rw [hbuild] at hbuilt
    cases hbuilt
    have hfirst : 1 ≤ page.toInt := hpage ▸ hv.page
    have hsome : 1 ≤ limit.toInt := hlimit ▸ hv.limit
    -- Within the range the words count as numbers do.
    have hrange : (page.toInt - 1) * limit.toInt < UInt64.size := hpage ▸ hlimit ▸ hv.range
    have hbefore := toNat_hitsBefore hfirst hsome hrange
    have hhits := toNat_toUInt64_of_pos hsome
    have hpages := toNat_sub_one_of_pos hfirst
    rw [hpage, hlimit, ← hbefore, ← hhits]
    refine ⟨rfl, rfl, rfl, rfl, ?_, rfl⟩
    omega
  · intro e
    rw [fst_build_eq_error_iff, build_eq_error_iff_refused]
  · intro e he
    rw [build_of_error (fst_build_eq_error_iff.1 he)]
  · intro facets e
    rw [fst_build_eq_error_iff, fst_build_eq_error_iff, build_eq_error_iff, build_eq_error_iff]
    rfl

def farPage (page : Int) (sort : String) : SearchParameters :=
  { SearchParameters.standard with page := page, limit := 0x4000000000000000, sort := some sort }

/-- The hits before the fourth page can be counted, and those before the fifth are one too many. -/
theorem build_decided_for_farPages :
    let s := (start ()).register oddlySorted
    Accepted s.registry "v1" (farPage 4 " :asc") oddlySorted ∧
      (∃ request, (build "v1" (farPage 4 " :asc") s).1 = .ok request ∧
        request.offset = 0xC000000000000000 ∧ request.limit = 0x4000000000000000) ∧
      (build "v1" (farPage 5 "title") s).1 =
        .error (RequestFault.range 5 0x4000000000000000).toFailure ∧
      (build "v1" (farPage 5 "title") s).2 = s := by
  intro s
  have hname : s.registry.variant? "v1" = some oddlySorted := rfl
  have hsort : SortTaken oddlySorted (farPage 4 " :asc").sort :=
    exists_ofParameter_iff_sortTaken.1 ⟨some [⟨"", .ascending⟩], by decide +kernel⟩
  have haccepted : Accepted s.registry "v1" (farPage 4 " :asc") oddlySorted :=
    ⟨⟨hname, by decide, by decide, by decide⟩, hsort⟩
  obtain ⟨hbuilt, hexact, -⟩ :=
    build_decided s "v1" (farPage 4 " :asc") 4 0x4000000000000000 (by decide) (by decide)
  obtain ⟨-, -, hrefused, hkept, -⟩ :=
    build_decided s "v1" (farPage 5 "title") 5 0x4000000000000000 (by decide) (by decide)
  obtain ⟨request, hrequest⟩ := hbuilt.2 ⟨_, haccepted⟩
  obtain ⟨-, -, hoffset, hlimit, -⟩ := hexact request hrequest
  have hfailure := (hrefused _).2 (.range (by decide) (by decide) hname (by decide))
  exact ⟨haccepted, ⟨request, hrequest, hoffset, hlimit⟩, hfailure, hkept _ hfailure⟩

end Service

end VariantSearch
