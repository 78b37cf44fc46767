import VariantSearch.Proofs.RequestChecks
import VariantSearch.Proofs.Traversal
import VariantSearch.Proofs.Trimming

/-!
The sort parameter: of a segment that says no clause, the form is judged before the direction, and the
direction before the attribute.
-/

namespace VariantSearch

open Text

namespace SortClause

variable {v : Variant} {segment before after : List Char} {c : SortClause}

/-- A segment says a clause: an attribute by which the variant can be sorted, the last colon, and a
direction in any mixture of cases, with blanks around the two parts. -/
structure IsWritten (v : Variant) (segment : List Char) (c : SortClause) : Prop where
  form : ∃ before after, segment = before ++ ':' :: after ∧ ':' ∉ after ∧
    c.field = String.ofList (trim before) ∧
    SortOrder.lowered (String.ofList (trim after)) = c.order.toText
  sortable : c.field ∈ v.settings.sortable

/-- What is wrong with a segment. The direction is looked at only if there is a colon, and the attribute
only if the direction is one. -/
inductive Broken (v : Variant) (segment : List Char) : RequestFault → Prop where
  | form (h : ':' ∉ segment) : Broken v segment (.sortForm (String.ofList (trim segment)))
  | direction {before after : List Char} (hsegment : segment = before ++ ':' :: after)
      (hlast : ':' ∉ after) (h : ¬ SortOrder.IsWritten (String.ofList (trim after))) :
      Broken v segment (.sortOrder (String.ofList (trim segment)))
  | field {before after : List Char} (hsegment : segment = before ++ ':' :: after)
      (hlast : ':' ∉ after) (hdirection : SortOrder.IsWritten (String.ofList (trim after)))
      (h : String.ofList (trim before) ∉ v.settings.sortable) :
      Broken v segment (.notSortable (String.ofList (trim before)) v.name)

def marked (segments : List (List Char)) : List (List Char) := segments.filter fun s => ¬ Blank s

theorem ofAnyCase?_iff_ofList {cs : List Char} {order : SortOrder} :
    SortOrder.ofAnyCase? cs = some order ↔
      SortOrder.lowered (String.ofList cs) = order.toText := by
  rw [← SortOrder.ofAnyCase?_eq_some_iff, String.toList_ofList]

theorem ofSegment_trim_of_not_mem (h : ':' ∉ segment) :
    ofSegment v (trim segment) = .error (.sortForm (String.ofList (trim segment))) := by
  have hcut := (cutsInside_cutLast? isBlank_colon).map_trim segment
  rw [cutLast?_eq_none_iff.2 h, Option.map_none, Option.map_eq_none_iff] at hcut
  rw [ofSegment, hcut]

/-- A segment with a colon is judged by its two trimmed parts. -/
theorem ofSegment_trim_of_cut (hsegment : segment = before ++ ':' :: after) (hlast : ':' ∉ after) :
    ofSegment v (trim segment) =
      match SortOrder.ofAnyCase? (trim after) with
      | none => .error (.sortOrder (String.ofList (trim segment)))
      | some order =>
        if v.isSortable (String.ofList (trim before)) then .ok ⟨String.ofList (trim before), order⟩
        else .error (.notSortable (String.ofList (trim before)) v.name) := by
  have hcut := (cutsInside_cutLast? isBlank_colon).map_trim segment
  rw [cutLast?_eq_some_iff.2 ⟨hsegment, hlast⟩, Option.map_some, Option.map_eq_some_iff] at hcut
  obtain ⟨⟨front, back⟩, hcut, hparts⟩ := hcut
  obtain ⟨hfront, hback⟩ := Prod.mk.inj hparts
  rewrite [ofSegment, hcut]
  dsimp only
  rewrite [hfront, hback]
  cases SortOrder.ofAnyCase? (trim after) <;> rfl

theorem ofSegment_of_isWritten (h : IsWritten v segment c) : ofSegment v (trim segment) = .ok c := by
  obtain ⟨before, after, hsegment, hlast, hfield, hdirection⟩ := h.form
  have horder : SortOrder.ofAnyCase? (trim after) = some c.order :=
    ofAnyCase?_iff_ofList.2 hdirection
  have hsortable : v.isSortable (String.ofList (trim before)) = true := by
    rw [← hfield]
    exact decide_eq_true h.sortable
  rw [ofSegment_trim_of_cut hsegment hlast, horder]
  dsimp only
  rw [if_pos hsortable, ← hfield]

theorem ofSegment_of_broken {f : RequestFault} (h : Broken v segment f) :
    ofSegment v (trim segment) = .error f := by
  -- The three faults are looked for in this order, each in what the one before it has let through.
  cases h with
  | form h => exact ofSegment_trim_of_not_mem h
  | direction hsegment hlast h =>
    rename_i before after
    have horder : SortOrder.ofAnyCase? (trim after) = none := by
      rw [Option.eq_none_iff_forall_ne_some]
      intro order horder
      exact h (SortOrder.isWritten_iff.2 ⟨order, ofAnyCase?_iff_ofList.1 horder⟩)
    rw [ofSegment_trim_of_cut hsegment hlast, horder]
  | field hsegment hlast hdirection h =>
    rename_i before after
    obtain ⟨order, hlowered⟩ := SortOrder.isWritten_iff.1 hdirection
    have horder : SortOrder.ofAnyCase? (trim after) = some order := ofAnyCase?_iff_ofList.2 hlowered
    have hsortable : ¬ v.isSortable (String.ofList (trim before)) = true := by
      rw [Variant.isSortable, decide_eq_true_eq]
      exact h
    rw [ofSegment_trim_of_cut hsegment hlast, horder]
    dsimp only
    rw [if_neg hsortable]

/-- Every segment says a clause or has something wrong with it. -/
theorem exists_isWritten_or_broken (v : Variant) (segment : List Char) :
    (∃ c, IsWritten v segment c) ∨ ∃ f, Broken v segment f := by
  by_cases hcolon : ':' ∈ segment
  · obtain ⟨⟨before, after⟩, hcut⟩ : ∃ parts, cutLast? ':' segment = some parts := by
      rw [← Option.ne_none_iff_exists', ne_eq, cutLast?_eq_none_iff]
      exact not_not_intro hcolon
    obtain ⟨hsegment, hlast⟩ := cutLast?_eq_some_iff.1 hcut
    by_cases hdirection : SortOrder.IsWritten (String.ofList (trim after))
    · by_cases hfield : String.ofList (trim before) ∈ v.settings.sortable
      · obtain ⟨order, horder⟩ := SortOrder.isWritten_iff.1 hdirection
        exact Or.inl ⟨⟨String.ofList (trim before), order⟩,
          ⟨before, after, hsegment, hlast, rfl, horder⟩, hfield⟩
      · exact Or.inr ⟨_, .field hsegment hlast hdirection hfield⟩
    · exact Or.inr ⟨_, .direction hsegment hlast hdirection⟩
  · exact Or.inr ⟨_, .form hcolon⟩

theorem ofSegment_eq_ok_iff : ofSegment v (trim segment) = .ok c ↔ IsWritten v segment c := by
  refine ⟨fun h => ?_, ofSegment_of_isWritten⟩
  rcases exists_isWritten_or_broken v segment with ⟨d, hd⟩ | ⟨f, hf⟩
  · rw [ofSegment_of_isWritten hd] at h
    cases h
    exact hd
  · rw [ofSegment_of_broken hf] at h
    cases h

theorem ofSegment_eq_error_iff {f : RequestFault} :
    ofSegment v (trim segment) = .error f ↔ Broken v segment f := by
  refine ⟨fun h => ?_, ofSegment_of_broken⟩
  rcases exists_isWritten_or_broken v segment with ⟨d, hd⟩ | ⟨g, hg⟩
  · rw [ofSegment_of_isWritten hd] at h
    cases h
  · rw [ofSegment_of_broken hg] at h
    cases h
    exact hg

theorem fault?_eq_some_iff {f : RequestFault} :
    fault? v (trim segment) = some f ↔ Broken v segment f := by
  rw [← ofSegment_eq_error_iff, fault?]
  cases ofSegment v (trim segment) <;> simp

theorem fault?_eq_none_iff :
    fault? v (trim segment) = none ↔ ∃ c, IsWritten v segment c := by
  simp only [← ofSegment_eq_ok_iff, fault?]
  cases ofSegment v (trim segment) <;> simp

theorem segments_eq {raw : String} {parts : List (List Char)} (h : IsSplit ',' raw.toList parts) :
    segments raw = (marked parts).map trim := by
  have hempty : (fun s : List Char => !s.isEmpty) ∘ trim = fun s => decide ¬ Blank s := by
    funext s
    rw [Function.comp_apply, Bool.eq_iff_iff]
    simp only [Bool.not_eq_true', List.isEmpty_eq_false_iff, decide_eq_true_eq, ne_eq, trim_eq_nil_iff]
  rw [segments, ← isSplit_iff.1 h, List.filter_map, hempty]
  rfl

def asked (clauses : List SortClause) : Option (List SortClause) :=
  if clauses = [] then none else some clauses

theorem asked_getD (clauses : List SortClause) : (asked clauses).getD [] = clauses := by
  unfold asked
  split
  · next h => rw [h]; rfl
  · rfl

theorem ofParameter_some (v : Variant) (raw : String) :
    ofParameter v (some raw) = ((segments raw).mapM (ofSegment v)).map asked := by
  rw [ofParameter]
  cases (segments raw).mapM (ofSegment v) with
  | error f => rfl
  | ok clauses => cases clauses <;> rfl

theorem ofParameter_of_forall₂ {raw : String} {parts : List (List Char)}
    {clauses : List SortClause} (h : IsSplit ',' raw.toList parts)
    (hall : List.Forall₂ (IsWritten v) (marked parts) clauses) :
    ofParameter v (some raw) = .ok (asked clauses) := by
  have hread : (segments raw).mapM (ofSegment v) = .ok clauses := by
    rw [segments_eq h, mapM_eq_ok_iff, List.forall₂_map_left_iff]
    exact hall.imp fun segment clause hclause => ofSegment_of_isWritten hclause
  rw [ofParameter_some, hread]
  rfl

/-- A parameter that is taken asks for the clauses of its segments. -/
theorem exists_forall₂_of_ofParameter {raw : String} {parts : List (List Char)}
    {sort : Option (List SortClause)} (h : IsSplit ',' raw.toList parts)
    (hok : ofParameter v (some raw) = .ok sort) :
    ∃ clauses, List.Forall₂ (IsWritten v) (marked parts) clauses ∧ sort = asked clauses := by
  rw [ofParameter_some] at hok
  cases hread : (segments raw).mapM (ofSegment v) with
  | error f =>
    rw [hread] at hok
    cases hok
  | ok clauses =>
    rw [hread] at hok
    cases hok
    rw [segments_eq h, mapM_eq_ok_iff, List.forall₂_map_left_iff] at hread
    exact ⟨clauses, hread.imp fun segment clause hclause => ofSegment_eq_ok_iff.1 hclause, rfl⟩

/-- A parameter is refused for the first of its segments that says no clause. -/
theorem ofParameter_eq_error_iff_first {raw : String} {parts : List (List Char)} {f : RequestFault}
    (h : IsSplit ',' raw.toList parts) :
    ofParameter v (some raw) = .error f ↔
      ∃ before segment after, marked parts = before ++ segment :: after ∧
        (∀ s ∈ before, ∃ c, IsWritten v s c) ∧ Broken v segment f := by
  rw [ofParameter_eq_error_iff, Option.bind_some, segments_eq h, List.findSome?_map,
    List.findSome?_eq_some_iff]
  constructor
  · rintro ⟨before, segment, after, hparts, hsegment, hbefore⟩
    refine ⟨before, segment, after, hparts, ?_, fault?_eq_some_iff.1 hsegment⟩
    exact fun s hs => fault?_eq_none_iff.1 (hbefore s hs)
  · rintro ⟨before, segment, after, hparts, hbefore, hsegment⟩
    refine ⟨before, segment, after, hparts, fault?_eq_some_iff.2 hsegment, ?_⟩
    exact fun s hs => fault?_eq_none_iff.2 (hbefore s hs)

/-- A parameter is taken just if each of its segments that is not blank says a clause. -/
theorem exists_ofParameter_iff {raw : String} {parts : List (List Char)}
    (h : IsSplit ',' raw.toList parts) :
    (∃ sort, ofParameter v (some raw) = .ok sort) ↔
      ∀ segment ∈ marked parts, ∃ c, IsWritten v segment c := by
  constructor
  · rintro ⟨sort, hsort⟩ segment hsegment
    obtain ⟨clauses, hall, -⟩ := exists_forall₂_of_ofParameter h hsort
    obtain ⟨c, -, hc⟩ := exists_of_forall₂ hall hsegment
    exact ⟨c, hc⟩
  · intro hwritten
    cases hread : ofParameter v (some raw) with
    | ok sort => exact ⟨sort, rfl⟩
    | error f =>
      -- The segment that is blamed says a clause like all others.
      obtain ⟨before, segment, after, hparts, -, hbroken⟩ :=
        (ofParameter_eq_error_iff_first h).1 hread
      have hmem : segment ∈ marked parts := by
        rw [hparts]
        exact List.mem_append_right before List.mem_cons_self
      obtain ⟨c, hc⟩ := hwritten segment hmem
      have hboth := ofSegment_of_isWritten hc
      rw [ofSegment_of_broken hbroken] at hboth
      cases hboth

theorem toList_toText (c : SortClause) :
    c.toText.toList = c.field.toList ++ ':' :: c.order.toText.toList :=
  RankingRule.toList_clause c.field c.order.toText

/-- The text of a clause that a segment says is a segment that says it. -/
theorem IsWritten.isWritten_toText (h : IsWritten v segment c) : IsWritten v c.toText.toList c := by
  obtain ⟨before, after, -, -, hfield, -⟩ := h.form
  have hlowered := c.order.lowered_toText
  have htrim : trim c.order.toText.toList = c.order.toText.toList := by
    cases c.order <;> decide
  have htrimmed : trim c.field.toList = c.field.toList := by
    rw [hfield, String.toList_ofList]
    exact (isTrimmed_trim before).trim_eq
  refine ⟨⟨c.field.toList, c.order.toText.toList, toList_toText c, ?_, ?_, ?_⟩, h.sortable⟩
  · exact SortOrder.colon_not_mem hlowered
  · rw [htrimmed, String.ofList_toList]
  · rw [htrim, String.ofList_toList]
    exact hlowered

theorem IsWritten.not_blank (h : IsWritten v segment c) : ¬ Blank segment := by
  obtain ⟨before, after, rfl, -⟩ := h.form
  intro hblank
  exact hblank.not_mem isBlank_colon (List.mem_append_right _ List.mem_cons_self)

/-- An attribute that was read from a segment without commas has no comma. -/
theorem IsWritten.comma_not_mem_toText (h : IsWritten v segment c) (hsegment : ',' ∉ segment) :
    ',' ∉ c.toText.toList := by
  obtain ⟨before, after, rfl, -, hfield, -⟩ := h.form
  have hbefore : ',' ∉ c.field.toList := by
    obtain ⟨front, back, -, -, htrim⟩ := exists_trim before
    rw [hfield, String.toList_ofList]
    intro hmem
    apply hsegment
    rw [htrim]
    simp [hmem]
  have horder : ',' ∉ c.order.toText.toList := by cases c.order <;> decide
  rw [toList_toText]
  simp [hbefore, horder]

def listText (clauses : List SortClause) : String := ",".intercalate (clauses.map toText)

/-- Clauses that were read are read again from their text. -/
theorem ofParameter_listText {parts : List (List Char)} {clauses : List SortClause}
    (hbare : ∀ part ∈ parts, ',' ∉ part) (hall : List.Forall₂ (IsWritten v) parts clauses) :
    ofParameter v (some (listText clauses)) = .ok (asked clauses) := by
  by_cases hne : clauses = []
  · subst hne
    rfl
  · have hclause : ∀ c ∈ clauses, ∃ part ∈ parts, IsWritten v part c := fun c hc =>
      exists_of_forall₂ hall.flip hc
    have htexts : ∀ text ∈ clauses.map toText, ',' ∉ text.toList := by
      intro text htext
      obtain ⟨c, hc, rfl⟩ := List.mem_map.1 htext
      obtain ⟨part, hpart, hwritten⟩ := hclause c hc
      exact hwritten.comma_not_mem_toText (hbare part hpart)
    have hsplit : IsSplit ',' (listText clauses).toList ((clauses.map toText).map String.toList) :=
      isSplit_intercalate (fun hnil => hne (List.map_eq_nil_iff.1 hnil)) htexts
    -- No text of a clause is blank, so none is passed over.
    have hmarked : marked ((clauses.map toText).map String.toList) =
        clauses.map fun c => c.toText.toList := by
      rw [List.map_map, marked, List.filter_eq_self.2]
      · rfl
      · intro segment hsegment
        obtain ⟨c, hc, rfl⟩ := List.mem_map.1 hsegment
        obtain ⟨part, -, hwritten⟩ := hclause c hc
        exact decide_eq_true hwritten.isWritten_toText.not_blank
    apply ofParameter_of_forall₂ hsplit
    rw [hmarked, List.forall₂_map_left_iff, List.forall₂_same]
    intro c hc
    obtain ⟨part, -, hwritten⟩ := hclause c hc
    exact hwritten.isWritten_toText

end SortClause

namespace SearchRequest

open SortClause

/-- The parameters of a search for a name pass all checks that come before the one of the sort
parameter. -/
structure ReachesSort (registry : Registry) (name : String) (p : SearchParameters) (v : Variant) :
    Prop where
  registered : registry.variant? name = some v
  page : 1 ≤ p.page
  limit : 1 ≤ p.limit
  range : (p.page - 1) * p.limit < UInt64.size

section

variable {registry : Registry} {chains : Chains} {name : String} {v : Variant} {p : SearchParameters}

theorem ReachesSort.build_eq (h : ReachesSort registry name p v) :
    build registry chains name p =
      match SortClause.ofParameter v p.sort with
      | .error f => .error f.toFailure
      | .ok sort =>
        .ok (⟨(chains.expand name p.query).text, ((p.page - 1) * p.limit).toNat, p.limit.toNat,
          Facet.ofParameter p.facets, sort⟩, (chains.expand name p.query).fired) := by
  have hpage : ¬ p.page < 1 := Int.not_lt.2 h.page
  have hlimit : ¬ p.limit < 1 := Int.not_lt.2 h.limit
  rewrite [build, if_neg hpage, if_neg hlimit, h.registered, offsetOf?_eq h.page h.limit,
    if_pos h.range]
  rfl

theorem ReachesSort.exists_build_iff (h : ReachesSort registry name p v) :
    (∃ built, build registry chains name p = .ok built) ↔
      ∃ sort, SortClause.ofParameter v p.sort = .ok sort := by
  rw [h.build_eq]
  cases SortClause.ofParameter v p.sort <;> simp

theorem ReachesSort.build_eq_error_iff (h : ReachesSort registry name p v) {e : SearchFailure} :
    build registry chains name p = .error e ↔
      ∃ f, SortClause.ofParameter v p.sort = .error f ∧ e = f.toFailure := by
  rw [h.build_eq]
  cases SortClause.ofParameter v p.sort <;> simp [eq_comm]

theorem ReachesSort.sort_of_build (h : ReachesSort registry name p v) {request : SearchRequest}
    {fired : List String} (hbuild : build registry chains name p = .ok (request, fired)) :
    SortClause.ofParameter v p.sort = .ok request.sort := by
  rw [h.build_eq] at hbuild
  cases hsort : SortClause.ofParameter v p.sort with
  | error f =>
    rw [hsort] at hbuild
    cases hbuild
  | ok sort =>
    rw [hsort] at hbuild
    cases hbuild
    rfl

/-- Of the sort parameter a request has only what is read from it. -/
theorem ReachesSort.build_with_sort (h : ReachesSort registry name p v) {sort : Option String}
    (hsort : SortClause.ofParameter v sort = SortClause.ofParameter v p.sort) :
    build registry chains name { p with sort } = build registry chains name p := by
  have hother : ReachesSort registry name { p with sort } v :=
    ⟨h.registered, h.page, h.limit, h.range⟩
  rw [hother.build_eq, h.build_eq, hsort]

/-- With the checks before it passed, a sort parameter is taken just if every segment between its commas
that is not blank says a clause, and then the request has these clauses in their order, or nothing to
sort by if there is none; the parameter made of the texts that are sent to the engine gives the same
request. Otherwise the request is refused for the first segment that says no clause, with what is wrong
there. -/
theorem sort_decided {raw : String} {segments : List (List Char)}
    (h : ReachesSort registry name p v) (hsort : p.sort = some raw)
    (hsegments : IsSplit ',' raw.toList segments) :
    ((∃ built, build registry chains name p = .ok built) ↔
        ∀ segment ∈ marked segments, ∃ c, SortClause.IsWritten v segment c) ∧
      (∀ request fired, build registry chains name p = .ok (request, fired) →
        (∃ clauses, List.Forall₂ (SortClause.IsWritten v) (marked segments) clauses ∧
          request.sort = if clauses = [] then none else some clauses) ∧
        build registry chains name { p with sort := some (",".intercalate request.toQuery.sort) } =
          .ok (request, fired)) ∧
      ∀ e, build registry chains name p = .error e ↔
        ∃ before segment after f, marked segments = before ++ segment :: after ∧
          (∀ s ∈ before, ∃ c, SortClause.IsWritten v s c) ∧ Broken v segment f ∧
          e = .invalidRequest f.message := by
  refine ⟨?_, ?_, ?_⟩
  · rw [h.exists_build_iff, hsort]
    exact exists_ofParameter_iff hsegments
  · intro request fired hbuild
    have hread := h.sort_of_build hbuild
    rw [hsort] at hread
    obtain ⟨clauses, hall, hclauses⟩ := exists_forall₂_of_ofParameter hsegments hread
    refine ⟨⟨clauses, hall, hclauses⟩, ?_⟩
    have hbare : ∀ part ∈ marked segments, ',' ∉ part := by
      intro part hpart
      exact hsegments.bare part (List.mem_of_mem_filter hpart)
    have htext : ",".intercalate request.toQuery.sort = listText clauses := by
      rw [toQuery, hclauses, asked_getD, listText]
    -- The clauses that were sent say the same as the segments that they were read from.
    have hagain : SortClause.ofParameter v (some (listText clauses)) =
        SortClause.ofParameter v p.sort := by
      rw [ofParameter_listText hbare hall, hsort, hread, hclauses]
    rw [htext, h.build_with_sort hagain, hbuild]
  · intro e
    rw [h.build_eq_error_iff, hsort]
    simp only [ofParameter_eq_error_iff_first hsegments]
    constructor
    · rintro ⟨f, ⟨before, segment, after, hmarked, hbefore, hbroken⟩, rfl⟩
      exact ⟨before, segment, after, f, hmarked, hbefore, hbroken, rfl⟩
    · rintro ⟨before, segment, after, f, hmarked, hbefore, hbroken, rfl⟩
      exact ⟨f, ⟨before, segment, after, hmarked, hbefore, hbroken⟩, rfl⟩

end

def oddlySorted : Variant :=
  ⟨"v1", "idx_v1", "id", { Settings.standard with sortable := .ofList ["published: on", ""] }⟩

theorem sort_decided_for_oddlySorted :
    let registry := Registry.empty.register oddlySorted
    let taken : SearchParameters := { SearchParameters.standard with
      sort := some " published: on :DESC, ,: Asc" }
    let refused : SearchParameters := { SearchParameters.standard with
      sort := some ":asc,nothing : up,title" }
    let request : SearchRequest :=
      ⟨"", 0, 20, [], some [⟨"published: on", .descending⟩, ⟨"", .ascending⟩]⟩
    ReachesSort registry "v1" taken oddlySorted ∧
      build registry .empty "v1" taken = .ok (request, []) ∧
      build registry .empty "v1"
        { taken with sort := some (",".intercalate request.toQuery.sort) } = .ok (request, []) ∧
      build registry .empty "v1" refused = .error (.invalidRequest
        "sort order in `nothing : up` must be `asc` or `desc`") := by
  intro registry taken refused request
  have htaken : ReachesSort registry "v1" taken oddlySorted :=
    ⟨by decide +kernel, by decide, by decide, by decide⟩
  have hrefused : ReachesSort registry "v1" refused oddlySorted :=
    ⟨by decide +kernel, by decide, by decide, by decide⟩
  have hbuild : build registry .empty "v1" taken = .ok (request, []) := by decide +kernel
  obtain ⟨-, hclauses, -⟩ :=
    @sort_decided registry .empty _ _ _ _ _ htaken rfl (isSplit_iff.2 rfl)
  obtain ⟨-, -, hfault⟩ :=
    @sort_decided registry .empty _ _ _ _ _ hrefused rfl (isSplit_iff.2 rfl)
  refine ⟨htaken, hbuild, (hclauses request [] hbuild).2, ?_⟩
  -- The second segment is the first bad one, and its direction is judged before its attribute.
  have hfirst : SortClause.IsWritten oddlySorted ":asc".toList ⟨"", .ascending⟩ :=
    ofSegment_eq_ok_iff.1 (by decide +kernel)
  have hsecond : Broken oddlySorted "nothing : up".toList (.sortOrder "nothing : up") :=
    ofSegment_eq_error_iff.1 (by decide +kernel)
  have hbefore : ∀ s ∈ [":asc".toList], ∃ c, SortClause.IsWritten oddlySorted s c := by
    intro s hs
    rw [List.mem_singleton.1 hs]
    exact ⟨_, hfirst⟩
  have hmarked : marked (pieces ',' ":asc,nothing : up,title".toList) =
      [":asc".toList] ++ "nothing : up".toList :: ["title".toList] := by decide +kernel
  exact (hfault _).2 ⟨_, _, _, _, hmarked, hbefore, hsecond, rfl⟩

end SearchRequest

end VariantSearch
